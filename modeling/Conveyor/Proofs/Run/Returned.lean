/-
**The statuses of a run that has returned.**

The status of a stage is computed when it is over, that of a stage that is not carried out is set,
and that of the run is computed from its stages and instances together.  When an execution returns
they agree.

Main definitions:

* `Conveyor.StageReport.Agrees`, `Conveyor.RunReport.Agrees` — the statuses of a report fit.

Main results:

* `Conveyor.StageReport.Settled.agrees` — a stage that is over has a status that fits;
* `Conveyor.Execution.agrees_of_settled` — so has a run whose stages are over;
* `Conveyor.Run.Reachable.agrees_of_returned` — **the statuses of every run that has returned fit**.
-/

import Conveyor.Proofs.Run.Kept

set_option autoImplicit false

namespace Conveyor

/-- The status of a stage fits its instances. -/
structure StageReport.Agrees (s : StageReport) : Prop where
  terminal : s.status = .succeeded ∨ s.status = .failed ∨ s.status = .cancelled
  failed : s.status = .failed ↔ ∃ i ∈ s.instances, i.status = .failed
  succeeded : s.status = .succeeded → ∀ i ∈ s.instances, i.status = .succeeded
  cancelled : s.instances ≠ [] →
    (s.status = .cancelled ↔
      (¬ ∃ i ∈ s.instances, i.status = .failed) ∧ ∃ i ∈ s.instances, i.status = .cancelled)

/-- The instances of a run have ended, and its statuses fit. -/
structure RunReport.Agrees (r : RunReport) : Prop where
  ended : ∀ s ∈ r.stages, ∀ i ∈ s.instances,
    i.status = .succeeded ∨ i.status = .failed ∨ i.status = .cancelled
  stages : ∀ s ∈ r.stages, s.Agrees
  failed : r.status = .failed ↔ ∃ s ∈ r.stages, ∃ i ∈ s.instances, i.status = .failed
  succeeded : r.status = .succeeded ↔ ∀ s ∈ r.stages, s.status = .succeeded
  cancelled : r.status = .cancelled ↔
    (¬ ∃ s ∈ r.stages, ∃ i ∈ s.instances, i.status = .failed) ∧
      ¬ ∀ s ∈ r.stages, s.status = .succeeded

theorem InstanceStatus.cases_of_isTerminal {s : InstanceStatus} (h : s.isTerminal = true) :
    s = .succeeded ∨ s = .failed ∨ s = .cancelled := by
  cases s <;> simp_all [isTerminal]

theorem Status.cases_of_isTerminal {s : Status} (h : s.isTerminal = true) :
    s = .succeeded ∨ s = .failed ∨ s = .cancelled := by
  cases s <;> simp_all [isTerminal]

namespace StageReport

/-- The instances of an ended stage give it the status `cancelled` when none failed, and not all
succeeded. -/
theorem outcome_eq_cancelled_iff {s : StageReport} (h : ∀ i ∈ s.instances, i.isTerminal = true) :
    s.outcome = .cancelled ↔
      (¬ ∃ i ∈ s.instances, i.status = .failed) ∧ ∃ i ∈ s.instances, i.status = .cancelled := by
  constructor
  · intro hc
    have hfailed : ¬ ∃ i ∈ s.instances, i.status = .failed := by
      rw [← outcome_eq_failed_iff, hc]
      simp
    have hsucceeded : ¬ ∀ i ∈ s.instances, i.status = .succeeded := by
      rw [← outcome_eq_succeeded_iff, hc]
      simp
    obtain ⟨i, hi⟩ := not_forall.1 hsucceeded
    obtain ⟨hmem, hne⟩ := Classical.not_imp.1 hi
    refine ⟨hfailed, i, hmem, ?_⟩
    rcases InstanceStatus.cases_of_isTerminal (h i hmem) with hs | hf | hs
    · exact absurd hs hne
    · exact absurd ⟨i, hmem, hf⟩ hfailed
    · exact hs
  · rintro ⟨hfailed, i, hi, hs⟩
    rcases Status.cases_of_isTerminal s.isTerminal_outcome with ho | ho | ho
    · have hall := (outcome_eq_succeeded_iff s).1 ho i hi
      exact absurd (hs.symm.trans hall) (by simp)
    · exact absurd ((outcome_eq_failed_iff s).1 ho) hfailed
    · exact ho

/-- A stage that is over has a status that fits. -/
theorem Settled.agrees {s : StageReport} (h : s.Settled) : s.Agrees := by
  rcases h.status with ho | ⟨hs, hall⟩
  · refine ⟨?_, ?_, ?_, ?_⟩
    · rw [ho]
      exact Status.cases_of_isTerminal s.isTerminal_outcome
    · rw [ho]
      exact outcome_eq_failed_iff s
    · rw [ho]
      exact (outcome_eq_succeeded_iff s).1
    · intro _
      rw [ho]
      exact outcome_eq_cancelled_iff h.ended
  · have hfailed : ¬ ∃ i ∈ s.instances, i.status = .failed := by
      rintro ⟨i, hi, hf⟩
      exact absurd ((hall i hi).symm.trans hf) (by simp)
    refine ⟨.inr (.inr hs), ?_, ?_, ?_⟩
    · rw [hs]
      exact ⟨by simp, fun hf => absurd hf hfailed⟩
    · rw [hs]
      simp
    · intro hne
      obtain ⟨i, hi⟩ := List.exists_mem_of_ne_nil s.instances hne
      exact ⟨fun _ => ⟨hfailed, i, hi, hall i hi⟩, fun _ => hs⟩

end StageReport

namespace Execution

theorem finalStatus_eq_failed_iff (e : Execution) :
    e.finalStatus = .failed ↔ ∃ s ∈ e.stages, s.status = .failed := by
  unfold finalStatus
  split <;> rename_i h
  · simpa using h
  · have hnone : ¬ ∃ s ∈ e.stages, s.status = .failed := by simpa using h
    split
    · simpa using hnone
    · split <;> simpa using hnone

theorem finalStatus_eq_succeeded_iff (e : Execution) :
    e.finalStatus = .succeeded ↔ (∀ s ∈ e.stages, s.status ≠ .failed ∧ s.status ≠ .cancelled) ∧
      ∀ i ∈ e.instances, i.status ≠ .cancelled := by
  unfold finalStatus
  split <;> rename_i hf
  · obtain ⟨s, hs, hsf⟩ : ∃ s ∈ e.stages, s.status = .failed := by simpa using hf
    exact ⟨by simp, fun h => absurd hsf (h.1 s hs).1⟩
  · split <;> rename_i hi
    · obtain ⟨i, hmem, hic⟩ : ∃ i ∈ e.instances, i.status = .cancelled := by simpa using hi
      exact ⟨by simp, fun h => absurd hic (h.2 i hmem)⟩
    · split <;> rename_i hc
      · obtain ⟨s, hs, hsc⟩ : ∃ s ∈ e.stages, s.status = .cancelled := by simpa using hc
        exact ⟨by simp, fun h => absurd hsc (h.1 s hs).2⟩
      · have hf' : ∀ s ∈ e.stages, s.status ≠ .failed := by simpa using hf
        have hc' : ∀ s ∈ e.stages, s.status ≠ .cancelled := by simpa using hc
        have hi' : ∀ i ∈ e.instances, i.status ≠ .cancelled := by simpa using hi
        exact ⟨fun _ => ⟨fun s hs => ⟨hf' s hs, hc' s hs⟩, hi'⟩, fun _ => rfl⟩

theorem isTerminal_finalStatus (e : Execution) : e.finalStatus.isTerminal = true := by
  unfold finalStatus
  split
  · rfl
  · split
    · rfl
    · split <;> rfl

/-- A run whose stages are over has a status that fits. -/
theorem agrees_of_settled {e : Execution} (h : ∀ s ∈ e.stages, s.Settled) {st : Status}
    (hst : e.ending = some (.returned st)) (hfinal : st = e.finalStatus)
    (runId pipelineName : String) : (e.report runId pipelineName).Agrees := by
  have hstatus : (e.report runId pipelineName).status = e.finalStatus := by
    simp [report, hst, Ending.status, hfinal]
  have hfailed : e.finalStatus = .failed ↔
      ∃ s ∈ e.stages, ∃ i ∈ s.instances, i.status = .failed := by
    rw [finalStatus_eq_failed_iff]
    exact ⟨fun ⟨s, hs, hf⟩ => ⟨s, hs, (h s hs).agrees.failed.1 hf⟩,
      fun ⟨s, hs, hf⟩ => ⟨s, hs, (h s hs).agrees.failed.2 hf⟩⟩
  have hsucceeded : e.finalStatus = .succeeded ↔ ∀ s ∈ e.stages, s.status = .succeeded := by
    rw [finalStatus_eq_succeeded_iff]
    constructor
    · rintro ⟨hs, _⟩ s hmem
      rcases (h s hmem).agrees.terminal with ht | ht | ht
      · exact ht
      · exact absurd ht (hs s hmem).1
      · exact absurd ht (hs s hmem).2
    · intro hall
      refine ⟨fun s hs => by rw [hall s hs]; exact ⟨by simp, by simp⟩, ?_⟩
      intro i hi
      obtain ⟨s, hs, his⟩ := List.mem_flatMap.1 hi
      rw [(h s hs).agrees.succeeded (hall s hs) i his]
      simp
  refine ⟨fun s hs i hi => InstanceStatus.cases_of_isTerminal ((h s hs).ended i hi),
    fun s hs => (h s hs).agrees, hstatus ▸ hfailed, hstatus ▸ hsucceeded, ?_⟩
  rw [hstatus]
  constructor
  · intro hc
    constructor
    · intro hf
      exact absurd (hc.symm.trans (hfailed.2 hf)) (by simp)
    · intro hs
      exact absurd (hc.symm.trans (hsucceeded.2 hs)) (by simp)
  · rintro ⟨hf, hs⟩
    rcases Status.cases_of_isTerminal e.isTerminal_finalStatus with ht | ht | ht
    · exact absurd (hsucceeded.1 ht) hs
    · exact absurd (hfailed.1 ht) hf
    · exact ht

end Execution

namespace Run

/-- **The statuses of every run that has returned fit**, whatever was called off on its way. -/
theorem Reachable.agrees_of_returned {r : Run} (h : r.Reachable) {e : Execution}
    (he : e ∈ r.executions) {st : Status} (hst : e.ending = some (.returned st)) :
    (e.report r.id r.pipeline.name).Agrees := by
  have hes := h.sound.executions e he
  obtain ⟨_, _, hfinal, _⟩ := hes.returned st hst
  exact Execution.agrees_of_settled (hes.settled_of_returned hst) hst hfinal _ _

/-- A build, and a test that is skipped when the build fails. -/
def buildThenTest : Pipeline :=
  { name := "ci"
    stages :=
      [{ name := "build", jobs := [{ name := "compile", steps := [.run "make" []] }] },
        { name := "test", jobs := [{ name := "check", steps := [.run "make test" []] }] }] }

/-- A build that fails, after which the tests are skipped. -/
theorem agrees_of_failed_build :
    ∃ r : Run, r.Reachable ∧ ∃ e ∈ r.executions, e.ending = some (.returned .failed) ∧
      (e.report r.id r.pipeline.name).Agrees := by
  have hrun : ((create "r" buildThenTest {}).afterAll
      [.execute, .advance 0, .grant,
        .answer ⟨0, "build", "compile"⟩ (.run (.done 2 "")), .advance 0, .advance 0,
        .advance 0]).any
      (fun r => r.executions.any fun e => e.ending = some (.returned .failed)) = true := by
    decide +kernel
  obtain ⟨r, hr, hany⟩ := (Option.any_eq_true _ _).1 hrun
  obtain ⟨e, he, hst⟩ := List.any_eq_true.1 hany
  have hreach : r.Reachable := ⟨_, _, _, _, hr⟩
  have hreturned := of_decide_eq_true hst
  exact ⟨r, hreach, e, he, hreturned, hreach.agrees_of_returned he hreturned⟩

end Run

end Conveyor
