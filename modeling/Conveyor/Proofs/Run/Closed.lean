/-
**The stages of a run, one after the other.**

An execution opens a stage only when the one before it is behind, whatever was called off and
whatever went wrong; so nothing is started before everything in the stages before it has ended.

An execution that returns has closed or skipped each of its stages.  One that is aborted leaves the
loop over its stages at once: the stage that it waits for stays as it is, and so do the stages after
it, although the report is finished.

Main definitions:

* `Conveyor.RunReport.IsClosed` — every stage has ended;
* `Conveyor.RunReport.IsBrokenOff` — one stage is still running, and those after it are pending.

Main results:

* `Conveyor.Run.orderly_of_afterAll` — the stages of every execution come one after the other;
* `Conveyor.Run.Reachable.isTerminal_of_started` — **when an instance was started, every instance of
  the stages before it has ended**;
* `Conveyor.Execution.Change.inStep` — what every change keeps of the stages;
* `Conveyor.Run.Reachable.isClosed_iff` — **a finished report is closed just when its execution
  returned, and broken off just when its execution was aborted**;
* `Conveyor.Run.exists_cancelled_not_isClosed` — not every finished report is closed.
-/

import Conveyor.Proofs.Execution.Orderly
import Conveyor.Proofs.Run.Returned
import Conveyor.Proofs.Run.Step

set_option autoImplicit false

namespace Conveyor

/-! ### The barrier between the stages -/

namespace Run

theorem orderly_opening (r : Run) {stages : List StageReport} (h : WellPlanned stages) :
    (r.opening stages).Orderly :=
  Execution.orderly_iff.2 (throughout_opening Execution.lasting_traced r h)

/-- The stages of every execution come one after the other. -/
theorem orderly_of_afterAll {r : Run} {id : String} {p : Pipeline} {c : RunConfig}
    {evs : List Event} (hr : (create id p c).afterAll evs = some r) :
    ∀ e ∈ r.executions, e.Orderly :=
  fun e he => Execution.orderly_iff.2 (throughout_of_afterAll Execution.lasting_traced hr e he)

theorem Reachable.orderly {r : Run} (h : r.Reachable) : ∀ e ∈ r.executions, e.Orderly := by
  obtain ⟨id, p, c, evs, hr⟩ := h
  exact orderly_of_afterAll hr

/-- **When an instance was started, every instance of the stages before it has ended**, whatever
was called off and however calls were answered. -/
theorem Reachable.isTerminal_of_started {r : Run} (h : r.Reachable) {e : Execution}
    (he : e ∈ r.executions) {m n : Nat} (hmn : m < n) {s t : StageReport}
    (hs : e.stages[m]? = some s) (ht : e.stages[n]? = some t) {j : JobInstance}
    (hj : j ∈ t.instances) (hstarted : j.started = true) :
    ∀ i ∈ s.instances, i.isTerminal = true := by
  have hsound := h.sound.executions e he
  exact (hsound.past s ((h.orderly e he).mem_past hmn hs ht hj hstarted)).ended

/-- The test of a pipeline is at work, and the build before it has ended. -/
theorem isTerminal_of_test_started :
    ∃ r : Run, r.Reachable ∧ ∃ e ∈ r.executions, ∃ s t j, e.stages[0]? = some s ∧
      e.stages[1]? = some t ∧ j ∈ t.instances ∧ j.started = true ∧ j.isTerminal = false ∧
      ∀ i ∈ s.instances, i.isTerminal = true := by
  have hrun : ((create "r" buildThenTest {}).afterAll
      [.execute, .advance 0, .grant, .answer ⟨0, "build", "compile"⟩ (.run (.done 0 "")),
        .advance 0, .advance 0, .grant]).any
      (fun r => r.executions.any fun e => e.stages[0]?.any fun _ => e.stages[1]?.any fun t =>
        t.instances.any fun j => j.started && !j.isTerminal) = true := by
    decide +kernel
  obtain ⟨r, hr, hany⟩ := (Option.any_eq_true _ _).1 hrun
  obtain ⟨e, he, hany⟩ := List.any_eq_true.1 hany
  obtain ⟨s, hs, hany⟩ := (Option.any_eq_true _ _).1 hany
  obtain ⟨t, ht, hany⟩ := (Option.any_eq_true _ _).1 hany
  obtain ⟨j, hj, hcond⟩ := List.any_eq_true.1 hany
  obtain ⟨hstarted, hlive⟩ := Bool.and_eq_true_iff.1 hcond
  have hreach : r.Reachable := ⟨_, _, _, _, hr⟩
  exact ⟨r, hreach, e, he, s, t, j, hs, ht, hj, hstarted, by simpa using hlive,
    hreach.isTerminal_of_started he Nat.zero_lt_one hs ht hj hstarted⟩

end Run

/-! ### Reports -/

namespace RunReport

/-- Every stage has ended. -/
def IsClosed (q : RunReport) : Prop := ∀ s ∈ q.stages, s.status.isTerminal = true

/-- One stage is still running.  Those before it have ended, and those after it are pending. -/
def IsBrokenOff (q : RunReport) : Prop :=
  ∃ before s after, q.stages = before ++ s :: after ∧
    (∀ t ∈ before, t.status.isTerminal = true) ∧ s.status = .running ∧
    ∀ t ∈ after, t.status = .pending

theorem IsBrokenOff.not_isClosed {q : RunReport} (h : q.IsBrokenOff) : ¬ q.IsClosed := by
  intro hclosed
  obtain ⟨before, s, after, hstages, _, hrunning, _⟩ := h
  have hmem : s ∈ q.stages := by simp [hstages]
  have hterminal := hclosed s hmem
  rw [hrunning] at hterminal
  cases hterminal

end RunReport

namespace Execution

/-! ### What the changes of an execution keep -/

/-- The stages to come are pending, and an abort finds a stage open. -/
structure InStep (e : Execution) : Prop where
  future : ∀ s ∈ e.future, s.status = .pending
  aborted : e.ending = some .aborted → ∃ s, e.current = some s

theorem InStep.cancelPending {e : Execution} (h : e.InStep) (reason : String) :
    (e.cancelPending reason).InStep := by
  constructor
  · intro t ht
    obtain ⟨s, hs, rfl⟩ := List.mem_map.1 ht
    exact h.future s hs
  · intro hending
    obtain ⟨s, hs⟩ := h.aborted hending
    exact ⟨s.cancelPending reason, by simp [Execution.cancelPending, hs]⟩

/-- Every change keeps the stages in step. -/
theorem Change.inStep {may : Act → Prop} {wd : String} {halted failFast : Bool}
    {e e' : Execution} (h : e.InStep) (hc : Change may wd halted failFast e e') : e'.InStep := by
  -- a change of an execution that goes on is none of one that was aborted
  have hgoesOn (hending : e.ending = none) {P : Prop} (ha : e.ending = some .aborted) : P := by
    rw [hending] at ha
    cases ha
  cases hc with
  | turn a _ hs _ _ => exact ⟨h.future, fun _ => ⟨_, rfl⟩⟩
  | cancelPending reason _ => exact h.cancelPending reason
  | close hs hending _ _ => exact ⟨h.future, fun ha => hgoesOn hending ha⟩
  | skip reason hcur hfut hending _ =>
      refine ⟨fun t ht => h.future t ?_, fun ha => hgoesOn hending ha⟩
      rw [hfut]
      exact List.mem_cons_of_mem _ ht
  | openStage hcur hfut hending _ _ =>
      refine ⟨fun t ht => h.future t ?_, fun ha => hgoesOn hending ha⟩
      rw [hfut]
      exact List.mem_cons_of_mem _ ht
  | conclude hcur hfut hending =>
      refine ⟨h.future, fun ha => ?_⟩
      have hreturned : Ending.returned e.finalStatus = .aborted := Option.some.inj ha
      cases hreturned
  | giveUp hs _ _ => exact ⟨h.future, fun _ => ⟨_, hs⟩⟩

/-- Nothing is open in an execution that has done nothing yet, and its stages are as planned. -/
theorem inStep_of_planned {stages : List StageReport} (h : WellPlanned stages) :
    InStep { future := stages } := by
  refine ⟨fun s hs => (h.stages s hs).status, fun ha => ?_⟩
  cases ha

/-! ### The stages of an execution that has ended -/

/-- The stages behind an execution have ended. -/
theorem Sound.isTerminal_of_mem_past {e : Execution} (h : e.Sound) {s : StageReport}
    (hs : s ∈ e.past) : s.status.isTerminal = true := by
  rcases (h.past s hs).status with houtcome | ⟨hcancelled, _⟩
  · rw [houtcome]
    exact s.isTerminal_outcome
  · rw [hcancelled]
    rfl

/-- The report of an execution that returned is closed. -/
theorem Sound.isClosed_of_returned {e : Execution} (h : e.Sound) {st : Status}
    (hst : e.ending = some (.returned st)) (id name : String) : (e.report id name).IsClosed := by
  obtain ⟨hcur, hfut, _, _⟩ := h.returned st hst
  intro s hs
  have hpast : s ∈ e.past := by simpa [report, stages, hcur, hfut] using hs
  exact h.isTerminal_of_mem_past hpast

/-- The report of an execution that was aborted is broken off. -/
theorem Sound.isBrokenOff_of_aborted {e : Execution} (h : e.Sound) (hstep : e.InStep)
    (hending : e.ending = some .aborted) (id name : String) :
    (e.report id name).IsBrokenOff := by
  obtain ⟨s, hs⟩ := hstep.aborted hending
  refine ⟨e.past, s.report, e.future, ?_, fun t ht => h.isTerminal_of_mem_past ht, rfl,
    hstep.future⟩
  simp [report, stages, hs]

theorem exists_ending_of_isTerminal {e : Execution} {id name : String}
    (h : (e.report id name).status.isTerminal = true) : ∃ ending, e.ending = some ending := by
  cases hending : e.ending with
  | none => simp [report, hending, Status.isTerminal] at h
  | some ending => exact ⟨ending, rfl⟩

end Execution

namespace Run

theorem inStep_opening (r : Run) {stages : List StageReport} (h : WellPlanned stages) :
    (r.opening stages).InStep := by
  have hfresh := Execution.inStep_of_planned h
  unfold opening
  split
  · exact hfresh.cancelPending _
  · exact hfresh

/-- The stages of every execution are in step. -/
theorem Reachable.inStep {r : Run} (h : r.Reachable) : ∀ e ∈ r.executions, e.InStep := by
  obtain ⟨_, _, _, evs, hr⟩ := h
  exact execution_induction hr (fun q _ hwell => inStep_opening q hwell)
    fun _ _ _ _ _ he hc => hc.inStep he

/-- **A finished report is closed just when its execution returned, and broken off just when its
execution was aborted.** -/
theorem Reachable.isClosed_iff {r : Run} (h : r.Reachable) {e : Execution}
    (he : e ∈ r.executions) {id name : String}
    (hfinished : (e.report id name).status.isTerminal = true) :
    ((e.report id name).IsClosed ↔ ∃ st, e.ending = some (.returned st)) ∧
      ((e.report id name).IsBrokenOff ↔ e.ending = some .aborted) := by
  have hsound := h.sound.executions e he
  have hstep := h.inStep e he
  obtain ⟨ending, hending⟩ := Execution.exists_ending_of_isTerminal hfinished
  cases ending with
  | returned st =>
      have hclosed := hsound.isClosed_of_returned hending id name
      refine ⟨⟨fun _ => ⟨st, hending⟩, fun _ => hclosed⟩, fun hbroken => ?_, fun ha => ?_⟩
      · exact absurd hclosed hbroken.not_isClosed
      · rw [hending] at ha
        cases ha
  | aborted =>
      have hbroken := hsound.isBrokenOff_of_aborted hstep hending id name
      refine ⟨⟨fun hclosed => absurd hclosed hbroken.not_isClosed, ?_⟩, fun _ => hending,
        fun _ => hbroken⟩
      rintro ⟨st, hst⟩
      rw [hending] at hst
      cases hst

/-- A build is aborted while its command runs. -/
def abortedBuild : List Event :=
  [.execute, .advance 0, .grant, .abort 0, .answer ⟨0, "build", "compile"⟩ (.run .dropped),
    .advance 0]

/-- **Not every finished report is closed**: the build was aborted, and the report is cancelled
while its first stage is running and its second one is pending. -/
theorem exists_cancelled_not_isClosed :
    ∃ (r : Run) (q : RunReport), r.Reachable ∧ r.report? = some q ∧ q.status = .cancelled ∧
      q.stages.map StageReport.status = [.running, .pending] ∧ ¬ q.IsClosed := by
  have hrun : ((create "r" buildThenTest {}).afterAll abortedBuild).any (fun r =>
      r.report?.any fun q => q.status == .cancelled &&
        q.stages.map StageReport.status == [.running, .pending]) = true := by
    decide +kernel
  obtain ⟨r, hr, hany⟩ := (Option.any_eq_true _ _).1 hrun
  obtain ⟨q, hq, hcond⟩ := (Option.any_eq_true _ _).1 hany
  obtain ⟨hcancelled, hstatuses⟩ := Bool.and_eq_true_iff.1 hcond
  have hstatuses := beq_iff_eq.1 hstatuses
  refine ⟨r, q, ⟨_, _, _, _, hr⟩, hq, beq_iff_eq.1 hcancelled, hstatuses, fun hclosed => ?_⟩
  obtain ⟨s, hs, hrunning⟩ : ∃ s ∈ q.stages, s.status = .running := by
    refine List.mem_map.1 ?_
    simp [hstatuses]
  have hterminal := hclosed s hs
  rw [hrunning] at hterminal
  cases hterminal

/-- The aborted build is broken off, and a build that fails by itself is closed. -/
theorem isBrokenOff_of_abortedBuild :
    (∃ r : Run, r.Reachable ∧ ∃ e ∈ r.executions,
      (e.report "r" "ci").status.isTerminal = true ∧ (e.report "r" "ci").IsBrokenOff) ∧
    ∃ r : Run, r.Reachable ∧ ∃ e ∈ r.executions,
      (e.report "r" "ci").status.isTerminal = true ∧ (e.report "r" "ci").IsClosed := by
  constructor
  · have hrun : ((create "r" buildThenTest {}).afterAll abortedBuild).any (fun r =>
        r.executions.any fun e => (e.report "r" "ci").status.isTerminal &&
          e.ending == some .aborted) = true := by
      decide +kernel
    obtain ⟨r, hr, hany⟩ := (Option.any_eq_true _ _).1 hrun
    obtain ⟨e, he, hcond⟩ := List.any_eq_true.1 hany
    obtain ⟨hfinished, haborted⟩ := Bool.and_eq_true_iff.1 hcond
    have hreach : r.Reachable := ⟨_, _, _, _, hr⟩
    exact ⟨r, hreach, e, he, hfinished,
      (hreach.isClosed_iff he hfinished).2.2 (beq_iff_eq.1 haborted)⟩
  · have hrun : ((create "r" buildThenTest {}).afterAll
        [.execute, .advance 0, .grant,
          .answer ⟨0, "build", "compile"⟩ (.run (.done 2 "")), .advance 0, .advance 0,
          .advance 0]).any (fun r => r.executions.any fun e =>
            (e.report "r" "ci").status.isTerminal &&
              e.ending == some (.returned .failed)) = true := by
      decide +kernel
    obtain ⟨r, hr, hany⟩ := (Option.any_eq_true _ _).1 hrun
    obtain ⟨e, he, hcond⟩ := List.any_eq_true.1 hany
    obtain ⟨hfinished, hreturned⟩ := Bool.and_eq_true_iff.1 hcond
    have hreach : r.Reachable := ⟨_, _, _, _, hr⟩
    exact ⟨r, hreach, e, he, hfinished,
      (hreach.isClosed_iff he hfinished).1.2 ⟨_, beq_iff_eq.1 hreturned⟩⟩

end Run

end Conveyor
