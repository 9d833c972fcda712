/-
**The report of a stage.**

Main definitions:

* `Conveyor.StageReport` — a stage with its instances;
* `Conveyor.StageReport.cancelPending` — cancels the instances that were not started;
* `Conveyor.StageReport.outcome` — the status that the instances of a stage give it.

Main results:

* `Conveyor.StageReport.outcome_eq_failed_iff`, `Conveyor.StageReport.outcome_eq_succeeded_iff`.
-/

import Conveyor.Report.Instance

set_option autoImplicit false

namespace Conveyor

/-- A stage with its instances. -/
structure StageReport where
  name : String
  instances : List JobInstance := []
  status : Status := .pending
  deriving DecidableEq, Repr, Inhabited

namespace StageReport

/-- The first instance of an identity. -/
def instance? (s : StageReport) (identity : String) : Option JobInstance :=
  s.instances.find? (·.identity == identity)

/-- The instances that were not started. -/
def pending (s : StageReport) : List JobInstance :=
  s.instances.filter (·.status == .pending)

/-- An instance, cancelled if it was not started. -/
def cancelIfPending (reason : String) (i : JobInstance) : JobInstance :=
  if i.status = .pending then (i.cancel reason).1 else i

/-- The stage with all instances cancelled that were not started. -/
def cancelPending (s : StageReport) (reason : String) : StageReport :=
  { s with instances := s.instances.map (cancelIfPending reason) }

/-- The status that the instances of a stage give it. -/
def outcome (s : StageReport) : Status :=
  if s.instances.any (·.status == .failed) then .failed
  else if s.instances.all (·.status == .succeeded) then .succeeded
  else .cancelled

/-- The stage with the status that its instances give it. -/
def finalize (s : StageReport) : StageReport := { s with status := s.outcome }

theorem outcome_eq_failed_iff (s : StageReport) :
    s.outcome = .failed ↔ ∃ i ∈ s.instances, i.status = .failed := by
  unfold outcome
  split <;> rename_i h
  · simpa using h
  · have h' : ¬ ∃ i ∈ s.instances, i.status = .failed := by simpa using h
    split <;> simpa using h'

theorem outcome_eq_succeeded_iff (s : StageReport) :
    s.outcome = .succeeded ↔ ∀ i ∈ s.instances, i.status = .succeeded := by
  unfold outcome
  split <;> rename_i h
  · obtain ⟨i, hi, hf⟩ : ∃ i ∈ s.instances, i.status = .failed := by simpa using h
    constructor
    · simp
    · intro hall
      simp [hall i hi] at hf
  · split <;> rename_i h'
    · simpa using h'
    · simpa using h'

/-- The status of an ended stage is terminal. -/
theorem isTerminal_outcome (s : StageReport) : s.outcome.isTerminal = true := by
  unfold outcome
  split
  · rfl
  · split <;> rfl

end StageReport

end Conveyor
