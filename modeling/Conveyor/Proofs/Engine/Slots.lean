/-
**The slots of all runs, and the gauge that tells of them.**

The runs of an engine note their measurements in one registry, each under the name of its pipeline.
The measurements of one run come in their order, and those of different runs in any order among
each other.  However that may be, the gauge of a pipeline shows how many instances are at work in
its runs.

Main definitions:

* `Conveyor.Engine.active` — how many instances of the runs of a pipeline are at work;
* `Conveyor.Engine.Noted` — the measurements of all runs in an order in which they may have come;
* `Conveyor.Engine.registry` — the registry in which they were noted;
* `Conveyor.Engine.isOver` — all tasks of all runs have ended.

Main results:

* `Conveyor.Engine.Reachable.levelAfter?_eq` — the measurements of the runs of a pipeline tell how
  many instances are at work in them;
* `Conveyor.Engine.Reachable.slots_accounted` — **slots, instances at work and the gauge agree**,
  and when all tasks have ended nothing is left over.
-/

import Conveyor.Proofs.Engine.Event
import Conveyor.Proofs.Metrics.Gauge
import Conveyor.Proofs.Run.Slots

set_option autoImplicit false

namespace Conveyor.Engine

open Metrics

/-! ### Several runs of one pipeline -/

/-- The runs of the pipelines of a name. -/
def runsOf (e : Engine) (n : String) : List Run := e.runs.filter (·.pipeline.name == n)

/-- How many instances of these runs were started and have not ended. -/
def active (e : Engine) (n : String) : Nat := total ((e.runsOf n).map Run.active)

/-- How many instances of these runs may be at work at once. -/
def limit (e : Engine) (n : String) : Nat :=
  total ((e.runsOf n).map (·.config.concurrencyLimit))

/-- The name of the pipeline of a run. -/
def pipelineOf (e : Engine) (k : Nat) : String := (e.runs[k]?.map (·.pipeline.name)).getD ""

/-- Whether all tasks of all runs have ended. -/
def isOver (e : Engine) : Bool := e.runs.all Run.isOver

/-- The measurements of all runs in an order in which they may have come: those of each run in
their order. -/
structure Noted (e : Engine) (rs : List Reading) : Prop where
  runs : ∀ x ∈ rs, x.run < e.runs.length
  tally : ∀ k r, e.runs[k]? = some r → Reading.ofRun k rs = r.tally

/-- The registry in which measurements were noted. -/
def registry (e : Engine) (rs : List Reading) : Registry :=
  Registry.noteAll .ofStandard e.pipelineOf rs

/-- The measurements of the runs of a pipeline, among those of all runs. -/
def measured (e : Engine) (n : String) (rs : List Reading) : List Measurement :=
  (rs.filter fun x => e.pipelineOf x.run == n).map (·.what)

variable {e : Engine}

/-- Of the measurements of the runs of a pipeline those of a run are all that it has, or none. -/
theorem ofRun_filter (e : Engine) (n : String) (k : Nat) (rs : List Reading) :
    Reading.ofRun k (rs.filter fun x => e.pipelineOf x.run == n) =
      if e.pipelineOf k == n then Reading.ofRun k rs else [] := by
  rw [Reading.ofRun, List.filter_filter]
  split
  · rename_i hk
    refine congrArg (List.map _) (List.filter_congr fun x _ => ?_)
    by_cases hx : x.run = k <;> simp [hx, hk]
  · rename_i hk
    rw [List.map_eq_nil_iff, List.filter_eq_nil_iff]
    intro x _ hx
    obtain ⟨hrun, hname⟩ := Bool.and_eq_true_iff.1 hx
    exact hk (beq_iff_eq.1 hrun ▸ hname)

/-- How many are at work in a run of a pipeline; in a run of another one nobody is. -/
def gangOf (n : String) (level : Run → Nat) (r : Run) : Reading.Gang :=
  if r.pipeline.name = n then { limit := r.config.concurrencyLimit, level := level r }
  else { limit := 0, level := 0 }

theorem gangOf_of_eq {n : String} {r : Run} (h : r.pipeline.name = n) (level : Run → Nat) :
    gangOf n level r = { limit := r.config.concurrencyLimit, level := level r } := if_pos h

theorem gangOf_of_ne {n : String} {r : Run} (h : r.pipeline.name ≠ n) (level : Run → Nat) :
    gangOf n level r = { limit := 0, level := 0 } := if_neg h

theorem total_limit_gangOf (e : Engine) (n : String) (level : Run → Nat) :
    total ((e.runs.map (gangOf n level)).map Reading.Gang.limit) = e.limit n := by
  rw [limit, runsOf, total_filter, List.map_map]
  refine congrArg total (List.map_congr_left fun r _ => ?_)
  by_cases hr : r.pipeline.name = n
  · simp [gangOf_of_eq hr, hr]
  · simp [gangOf_of_ne hr, hr]

theorem total_level_gangOf (e : Engine) (n : String) (level : Run → Nat) :
    total ((e.runs.map (gangOf n level)).map Reading.Gang.level) =
      total ((e.runsOf n).map level) := by
  rw [runsOf, total_filter, List.map_map]
  refine congrArg total (List.map_congr_left fun r _ => ?_)
  by_cases hr : r.pipeline.name = n
  · simp [gangOf_of_eq hr, hr]
  · simp [gangOf_of_ne hr, hr]

theorem total_zero (e : Engine) (n : String) : total ((e.runsOf n).map fun _ => 0) = 0 :=
  total_eq_zero fun m hm => by
    obtain ⟨_, _, rfl⟩ := List.mem_map.1 hm
    rfl

/-- The measurements of the runs of a pipeline tell how many instances are at work in them. -/
theorem Reachable.levelAfter?_eq (h : e.Reachable) {rs : List Reading} (hrs : e.Noted rs)
    (n : String) :
    Measurement.levelAfter? (e.limit n) 0 (e.measured n rs) = some (e.active n) := by
  have hruns : ∀ x ∈ rs.filter fun x => e.pipelineOf x.run == n,
      x.run < (e.runs.map (gangOf n fun _ => 0)).length := fun x hx => by
    simpa using hrs.runs x (List.mem_filter.1 hx).1
  have hfit : ∀ g ∈ e.runs.map (gangOf n fun _ => 0), g.level ≤ g.limit := by
    intro g hg
    obtain ⟨r, _, rfl⟩ := List.mem_map.1 hg
    by_cases hr : r.pipeline.name = n
    · rw [gangOf_of_eq hr]
      exact Nat.zero_le _
    · rw [gangOf_of_ne hr]
  -- the runs of other pipelines take part as ones in which nobody is ever at work
  have hmerge := Reading.levelAfter?_merge (e.runs.map (gangOf n fun _ => 0))
    (e.runs.map (gangOf n Run.active)) hruns (by simp) hfit fun k g g' hg hg' => ?_
  · rwa [total_limit_gangOf, total_level_gangOf, total_level_gangOf, total_zero] at hmerge
  · rw [List.getElem?_map] at hg hg'
    obtain ⟨r, hr, rfl⟩ := Option.map_eq_some_iff.1 hg
    rw [hr] at hg'
    obtain rfl := Option.some.inj hg'
    have hreach := h.reachable_of_mem (List.mem_of_getElem? hr)
    have hname : e.pipelineOf k = r.pipeline.name := by simp [pipelineOf, hr]
    rw [ofRun_filter, hname, hrs.tally k r hr]
    by_cases hn : r.pipeline.name = n
    · have hlevel := hreach.balanced.level
      rw [hreach.balanced.limit, ← hreach.active_eq] at hlevel
      rw [gangOf_of_eq hn, gangOf_of_eq hn, if_pos (by simpa using hn)]
      exact hlevel
    · rw [gangOf_of_ne hn, gangOf_of_ne hn, if_neg (by simpa using hn)]
      rfl

/-! ### One run after the other -/

/-- The measurements of runs, one run after the other; the runs are counted from `k` on. -/
def readingsFrom (k : Nat) : List Run → List Reading
  | [] => []
  | r :: rest => r.tally.map (fun m => { run := k, what := m }) ++ readingsFrom (k + 1) rest

/-- The measurements of all runs, one run after the other. -/
def readings (e : Engine) : List Reading := readingsFrom 0 e.runs

theorem run_lt_of_mem_readingsFrom {k : Nat} {runs : List Run} {x : Reading}
    (hx : x ∈ readingsFrom k runs) : k ≤ x.run ∧ x.run < k + runs.length := by
  induction runs generalizing k with
  | nil => cases hx
  | cons r rest ih =>
      rcases List.mem_append.1 hx with hx | hx
      · obtain ⟨m, _, rfl⟩ := List.mem_map.1 hx
        exact ⟨Nat.le_refl k, by simp⟩
      · obtain ⟨hle, hlt⟩ := ih hx
        rw [List.length_cons]
        omega

theorem ofRun_readingsFrom {k j : Nat} {runs : List Run} {r : Run} (hr : runs[j]? = some r) :
    Reading.ofRun (k + j) (readingsFrom k runs) = r.tally := by
  induction runs generalizing k j with
  | nil => simp at hr
  | cons q rest ih =>
      rw [readingsFrom, Reading.ofRun, List.filter_append, List.map_append]
      cases j with
      | zero =>
          obtain rfl := Option.some.inj hr
          have hlater : (readingsFrom (k + 1) rest).filter (·.run == k) = [] := by
            rw [List.filter_eq_nil_iff]
            intro x hx hrun
            have hle := (run_lt_of_mem_readingsFrom hx).1
            have hrun := beq_iff_eq.1 hrun
            omega
          rw [Nat.add_zero, hlater, List.filter_eq_self.2 (by simp), List.map_map]
          simp [Function.comp_def]
      | succ j =>
          have hearlier : (q.tally.map fun m => ({ run := k, what := m } : Reading)).filter
              (·.run == k + (j + 1)) = [] := by
            rw [List.filter_eq_nil_iff]
            intro x hx hrun
            obtain ⟨m, _, rfl⟩ := List.mem_map.1 hx
            have hrun := beq_iff_eq.1 hrun
            dsimp only at hrun
            omega
          have hj : k + (j + 1) = k + 1 + j := by omega
          rw [hearlier, List.map_nil, List.nil_append, hj]
          exact ih hr

/-- The measurements may have come so that those of one run follow those of another one. -/
theorem noted_readings (e : Engine) : e.Noted e.readings where
  runs _ hx := by simpa using (run_lt_of_mem_readingsFrom hx).2
  tally k _ hr := by simpa [readings] using ofRun_readingsFrom (k := 0) hr

/-! ### The gauge -/

/-- The gauge of a pipeline shows how many instances are at work in its runs, whatever the order in
which the measurements of different runs came. -/
theorem Reachable.gauge_eq (h : e.Reachable) {rs : List Reading} (hrs : e.Noted rs) {n : String}
    (hlimit : e.limit n < 2 ^ 53) : (e.registry rs).gauge n = Float.ofNat (e.active n) :=
  isStandard_ofStandard.gauge_noteAll hlimit (Nat.zero_le _) (gauge_ofStandard n)
    (h.levelAfter?_eq hrs n)

/-- As many instances took up work as laid it down or are at work. -/
theorem Reachable.count_entered (h : e.Reachable) {rs : List Reading} (hrs : e.Noted rs)
    (n : String) :
    (e.measured n rs).count .entered = (e.measured n rs).count .left + e.active n := by
  have hcount := Measurement.count_of_levelAfter? (h.levelAfter?_eq hrs n)
  omega

/-- When all tasks have ended no slot is taken. -/
theorem Reachable.active_of_isOver (h : e.Reachable) (hover : e.isOver = true) :
    ∀ r ∈ e.runs, r.pool.active = 0 := by
  intro r hr
  rw [(h.reachable_of_mem hr).balanced.active]
  exact Run.busy_of_isOver (List.all_eq_true.1 hover r hr)

theorem Reachable.active_eq_zero (h : e.Reachable) (hover : e.isOver = true) (n : String) :
    e.active n = 0 := by
  refine total_eq_zero fun m hm => ?_
  obtain ⟨r, hr, rfl⟩ := List.mem_map.1 hm
  have hmem := (List.mem_filter.1 hr).1
  rw [(h.reachable_of_mem hmem).active_eq]
  exact h.active_of_isOver hover r hmem

/-- Two runs of one pipeline that have begun. -/
def twoBuilds : List Event :=
  [.create "r" Run.buildThenTest none, .create "s" Run.buildThenTest none, .execute "r" 0,
    .execute "s" 1, .settle]

/-- Both builds fail. -/
def buildsFail : List Event :=
  [.within 0 (.answer ⟨0, "build", "compile"⟩ (.run (.done 2 ""))),
    .within 1 (.answer ⟨0, "build", "compile"⟩ (.run (.done 2 ""))), .settle]

end Conveyor.Engine
