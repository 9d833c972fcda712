/-
**When the report of a run is final.**

An execution that returns has waited for all its workers.  One that is aborted does not wait: it
ends when the first of its workers does, and the other ones may still be at work, so that their
instances go on to change in a report that is already finished.

Main definitions:

* `Conveyor.Run.atWork` — the workers of a run that hold a slot;
* `Conveyor.Run.HasFinalReport` — the instances of the report have ended and change no more.

Main results:

* `Conveyor.Run.Sound.isTerminal_or_mem_atWork` — an instance of an execution that has ended has
  ended, or its worker is at work;
* `Conveyor.Run.Reachable.hasFinalReport_iff` — **a finished report is final just when nobody is at
  work, and always if the execution returned**;
* `Conveyor.Run.exists_finished_not_hasFinalReport` — not every finished report is final.
-/

import Conveyor.Proofs.Run.Kept

set_option autoImplicit false

namespace Conveyor

/-- The workers of an execution that hold a slot. -/
def Execution.atWork (e : Execution) : List Worker :=
  e.current.toList.flatMap fun s => s.workers.filter fun w => w.point.holdsSlot

theorem Execution.mem_atWork {e : Execution} {w : Worker} :
    w ∈ e.atWork ↔ ∃ s, e.current = some s ∧ w ∈ s.workers ∧ w.point.holdsSlot = true := by
  simp [atWork]

theorem Execution.mem_instances_of_mem {e : Execution} {s : OpenStage} {w : Worker}
    (hs : e.current = some s) (hw : w ∈ s.workers) : w.inst ∈ e.instances := by
  refine List.mem_flatMap.2 ⟨s.report, ?_, List.mem_map.2 ⟨w, hw, rfl⟩⟩
  simp [stages, hs]

namespace Run

/-- The workers of the execution that was started last that hold a slot. -/
def atWork (r : Run) : List Worker := r.executions.getLast?.toList.flatMap Execution.atWork

/-- The report of the execution that was started as the `k`-th. -/
def reportOf? (r : Run) (k : Nat) : Option RunReport :=
  r.executions[k]?.map (·.report r.id r.pipeline.name)

/-- The instances of the report of a run have ended, and whatever happens leaves them as they
are. -/
def HasFinalReport (r : Run) : Prop :=
  ∃ rep, r.report? = some rep ∧ (∀ i ∈ rep.instances, i.isTerminal = true) ∧
    ∀ evs r', r.afterAll evs = some r' →
      ∃ rep', r'.reportOf? (r.executions.length - 1) = some rep' ∧ rep'.instances = rep.instances

/-- An instance of the last execution that has ended, or its worker is at work, if the execution
has ended. -/
theorem Sound.isTerminal_or_mem_atWork {r : Run} (h : r.Sound) {e : Execution}
    (he : r.executions.getLast? = some e) {ending : Ending} (hending : e.ending = some ending)
    {i : JobInstance} (hi : i ∈ e.instances) :
    i.isTerminal = true ∨ ∃ w ∈ r.atWork, w.inst = i := by
  have hes := h.executions e (List.mem_of_getLast? he)
  cases ending with
  | returned st => exact .inl (hes.isTerminal_of_returned hending i hi)
  | aborted =>
      -- an abort cancels the run, so that nothing is pending any more
      have hcancelled := h.aborted e (List.mem_of_getLast? he) hending
      have hne := h.cancelled hcancelled e he i hi
      rcases Execution.instances_cases hi with
        ⟨s, hs, his⟩ | ⟨t, w, ht, hw, rfl⟩ | ⟨s, hs, his⟩
      · exact .inl ((hes.past s hs).ended i his)
      · have hfits := (hes.workers t ht w hw).fits
        have hwork (hp : w.point.holdsSlot = true) : ∃ v ∈ r.atWork, v.inst = w.inst := by
          refine ⟨w, ?_, rfl⟩
          simp only [atWork, he, Option.toList_some, List.flatMap_singleton]
          exact Execution.mem_atWork.2 ⟨t, ht, hw, hp⟩
        rcases w.point.queued_or_holdsSlot_or_ended with hpt | hp | ⟨aborted, hpt⟩
        · rw [hpt] at hfits
          rcases hfits with hp | hc
          · exact absurd hp hne
          · exact .inl (JobInstance.isTerminal_of_cancelled hc)
        · exact .inr (hwork hp)
        · rw [hpt] at hfits
          exact .inl (hfits.resolve_right fun hp => hne hp.2)
      · rcases (hes.future s hs).2 i his with hp | hc
        · exact absurd hp hne
        · exact .inl (JobInstance.isTerminal_of_cancelled hc)

/-- An instance whose worker is at work has not ended. -/
theorem Sound.not_isTerminal_of_mem_atWork {r : Run} (h : r.Sound) {e : Execution}
    (he : r.executions.getLast? = some e) {w : Worker} (hw : w ∈ r.atWork) :
    w.inst ∈ e.instances ∧ w.inst.isTerminal = false := by
  simp only [atWork, he, Option.toList_some, List.flatMap_singleton] at hw
  obtain ⟨s, hs, hmem, hp⟩ := Execution.mem_atWork.1 hw
  have hes := h.executions e (List.mem_of_getLast? he)
  have hactive := (hes.workers s hs w hmem).fits.isActive hp
  exact ⟨Execution.mem_instances_of_mem hs hmem,
    JobInstance.isTerminal_eq_false_of_isActive hactive⟩

/-- A report whose instances have ended is final. -/
theorem Sound.hasFinalReport {r : Run} (h : r.Sound) {e : Execution}
    (he : r.executions.getLast? = some e) (hended : ∀ i ∈ e.instances, i.isTerminal = true) :
    r.HasFinalReport := by
  refine ⟨e.report r.id r.pipeline.name, by simp [report?, he], hended, ?_⟩
  intro evs r' hr'
  rw [List.getLast?_eq_getElem?] at he
  obtain ⟨e', he', hc⟩ := (carries_afterAll h hr').executions _ e he
  refine ⟨e'.report r'.id r'.pipeline.name, by simp [reportOf?, he'], ?_⟩
  exact StageReport.instances_eq_of_isTerminal hc.instances hended

theorem exists_ending_of_finished {r : Run} {rep : RunReport} (hrep : r.report? = some rep)
    (hfinished : rep.finished = true) :
    ∃ e ending, r.executions.getLast? = some e ∧ rep = e.report r.id r.pipeline.name ∧
      e.ending = some ending := by
  obtain ⟨e, he, rfl⟩ := Option.map_eq_some_iff.1 hrep
  obtain ⟨ending, hending⟩ := Option.isSome_iff_exists.1 hfinished
  exact ⟨e, ending, he, rfl, hending⟩

/-- **A finished report is final just when nobody is at work**, and nobody is if the execution
returned. -/
theorem Reachable.hasFinalReport_iff {r : Run} (h : r.Reachable) {rep : RunReport}
    (hrep : r.report? = some rep) (hfinished : rep.finished = true) :
    (r.HasFinalReport ↔ r.atWork = []) ∧
      (∀ e st, r.executions.getLast? = some e → e.ending = some (.returned st) →
        r.HasFinalReport) := by
  obtain ⟨e, ending, he, rfl, hending⟩ := exists_ending_of_finished hrep hfinished
  have hs := h.sound
  refine ⟨⟨?_, ?_⟩, ?_⟩
  · rintro ⟨rep, hrep', hended, _⟩
    obtain rfl : e.report r.id r.pipeline.name = rep := Option.some.inj (hrep.symm.trans hrep')
    refine List.eq_nil_iff_forall_not_mem.2 fun w hw => ?_
    obtain ⟨hmem, hlive⟩ := hs.not_isTerminal_of_mem_atWork he hw
    simp [hended w.inst hmem] at hlive
  · intro hnobody
    refine hs.hasFinalReport he fun i hi => ?_
    rcases hs.isTerminal_or_mem_atWork he hending hi with ht | ⟨w, hw, _⟩
    · exact ht
    · simp [hnobody] at hw
  · intro f st hf hst
    obtain rfl : e = f := Option.some.inj (he.symm.trans hf)
    have hes := hs.executions e (List.mem_of_getLast? he)
    exact hs.hasFinalReport he (hes.isTerminal_of_returned hst)

/-- Two jobs, one of which has a service. -/
def serviceAndPlain : Pipeline :=
  { name := "ci"
    stages :=
      [{ name := "test"
         jobs :=
          [{ name := "a", services := [{ name := "db", image := "postgres" }],
             steps := [.run "work" []] },
            { name := "b", steps := [.run "other" []] }] }] }

/-- The run of two jobs with one slot, after the first one was aborted at work and the other one
in the queue; the service of the first one is not yet stopped. -/
def abortedAtWork : List Event :=
  [.execute, .advance 0, .grant, .answer ⟨0, "test", "a"⟩ (.start .up), .abort 0,
    .answer ⟨0, "test", "a"⟩ (.run .dropped), .advance 0]

/-- **Not every finished report is final**: the execution has ended while a service is being
stopped. -/
theorem exists_finished_not_hasFinalReport :
    ∃ (r : Run) (rep : RunReport), r.Reachable ∧ r.report? = some rep ∧ rep.finished = true ∧
      ¬ r.HasFinalReport := by
  have hrun : ((create "r1" serviceAndPlain { concurrencyLimit := 1 }).afterAll
      abortedAtWork).any (fun r => r.report?.any fun rep =>
        rep.finished && rep.instances.any fun i => !i.isTerminal) = true := by
    decide +kernel
  obtain ⟨r, hr, hany⟩ := (Option.any_eq_true _ _).1 hrun
  obtain ⟨rep, hrep, hcond⟩ := (Option.any_eq_true _ _).1 hany
  obtain ⟨hfinished, hlive⟩ := Bool.and_eq_true_iff.1 hcond
  obtain ⟨i, hi, hlive⟩ := List.any_eq_true.1 hlive
  refine ⟨r, rep, ⟨_, _, _, _, hr⟩, hrep, hfinished, ?_⟩
  rintro ⟨rep', hrep', hended, _⟩
  obtain rfl : rep = rep' := Option.some.inj (hrep.symm.trans hrep')
  simp [hended i hi] at hlive

/-- The same run when the service has been stopped: nobody is at work any more, and the report is
final. -/
theorem hasFinalReport_of_stopped :
    ∃ (r : Run) (rep : RunReport), r.Reachable ∧ r.report? = some rep ∧ rep.finished = true ∧
      r.atWork = [] ∧ r.HasFinalReport := by
  have hrun : ((create "r1" serviceAndPlain { concurrencyLimit := 1 }).afterAll
      (abortedAtWork ++ [.answer ⟨0, "test", "a"⟩ (.stop .stopped)])).any (fun r =>
        r.atWork.isEmpty && r.report?.any RunReport.finished) = true := by
    decide +kernel
  obtain ⟨r, hr, hcond⟩ := (Option.any_eq_true _ _).1 hrun
  obtain ⟨hnobody, hany⟩ := Bool.and_eq_true_iff.1 hcond
  obtain ⟨rep, hrep, hfinished⟩ := (Option.any_eq_true _ _).1 hany
  have hreach : r.Reachable := ⟨_, _, _, _, hr⟩
  have hnil : r.atWork = [] := List.isEmpty_iff.1 hnobody
  exact ⟨r, rep, hreach, hrep, hfinished, hnil,
    (hreach.hasFinalReport_iff hrep hfinished).1.2 hnil⟩

end Run

end Conveyor
