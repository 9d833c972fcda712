/-
**The report of a run.**

Main definitions:

* `Conveyor.RunReport` — a run with its stages;
* `Conveyor.RunReport.aggregate` — collects the artifacts of the instances that succeeded;
* `Conveyor.RunReport.counts` — how many instances have which status.

Main results:

* `Conveyor.dedupe_nodup`, `Conveyor.mem_dedupe`, `Conveyor.dedupe_eq_eraseDups` — artifacts are
  kept once, in order.
-/

import Conveyor.Report.Stage

set_option autoImplicit false

namespace Conveyor

/-- Adds the members of a list that are not there yet, in order. -/
def dedupeFrom (seen : List String) : List String → List String
  | [] => []
  | p :: ps => if p ∈ seen then dedupeFrom seen ps else p :: dedupeFrom (p :: seen) ps

/-- The members of a list, each at its first place only. -/
def dedupe (ps : List String) : List String := dedupeFrom [] ps

theorem mem_dedupeFrom {seen ps : List String} {p : String} :
    p ∈ dedupeFrom seen ps ↔ p ∈ ps ∧ p ∉ seen := by
  induction ps generalizing seen with
  | nil => simp [dedupeFrom]
  | cons q ps ih =>
      unfold dedupeFrom
      split <;> rename_i h
      · rw [ih]
        constructor
        · rintro ⟨h₁, h₂⟩
          exact ⟨List.mem_cons_of_mem _ h₁, h₂⟩
        · rintro ⟨h₁, h₂⟩
          rcases List.mem_cons.1 h₁ with rfl | h₁
          · exact absurd h h₂
          · exact ⟨h₁, h₂⟩
      · rw [List.mem_cons, ih]
        by_cases hp : p = q
        · subst hp
          simp [h]
        · simp [hp]

theorem mem_dedupe {ps : List String} {p : String} : p ∈ dedupe ps ↔ p ∈ ps := by
  simp [dedupe, mem_dedupeFrom]

theorem dedupeFrom_nodup (seen ps : List String) : (dedupeFrom seen ps).Nodup := by
  induction ps generalizing seen with
  | nil => simp [dedupeFrom]
  | cons q ps ih =>
      unfold dedupeFrom
      split
      · exact ih seen
      · exact List.nodup_cons.2 ⟨by simp [mem_dedupeFrom], ih (q :: seen)⟩

/-- No member is kept twice. -/
theorem dedupe_nodup (ps : List String) : (dedupe ps).Nodup := dedupeFrom_nodup [] ps

theorem dedupeFrom_eq_eraseDups (seen ps : List String) :
    dedupeFrom seen ps = (ps.filter (· ∉ seen)).eraseDups := by
  induction ps generalizing seen with
  | nil => rfl
  | cons q ps ih =>
      unfold dedupeFrom
      split <;> rename_i h
      · rw [ih, List.filter_cons_of_neg (by simpa using h)]
      · rw [ih, List.filter_cons_of_pos (by simpa using h), List.eraseDups_cons,
          List.filter_filter]
        congr 2
        refine List.filter_congr fun p _ => ?_
        by_cases hp : p = q <;> simp [hp]

/-- The members stay in order. -/
theorem dedupe_eq_eraseDups (ps : List String) : dedupe ps = ps.eraseDups := by
  have hall : ps.filter (· ∉ ([] : List String)) = ps := by simp
  rw [dedupe, dedupeFrom_eq_eraseDups, hall]

/-- A run with its stages. -/
structure RunReport where
  runId : String
  pipelineName : String
  stages : List StageReport := []
  status : Status := .pending
  aggregatedArtifacts : List String := []
  error : Option String := none
  started : Bool := false
  finished : Bool := false
  deriving DecidableEq, Repr, Inhabited

namespace RunReport

/-- All instances in the order of creation. -/
def instances (r : RunReport) : List JobInstance := r.stages.flatMap StageReport.instances

/-- Whether the time that the run took is known. -/
def hasDuration (r : RunReport) : Bool := r.started && r.finished

/-- Whether the run succeeded. -/
def isSuccess (r : RunReport) : Bool := r.status == .succeeded

/-- The first stage of a name. -/
def stage? (r : RunReport) (name : String) : Option StageReport :=
  r.stages.find? (·.name == name)

/-- The first instance of an identity in the first stage of a name. -/
def instance? (r : RunReport) (stage identity : String) : Option JobInstance :=
  (r.stage? stage).bind (·.instance? identity)

/-- The instances that failed. -/
def failed (r : RunReport) : List JobInstance := r.instances.filter (·.status == .failed)

/-- The run as started. -/
def markStarted (r : RunReport) : RunReport := { r with started := true, status := .running }

/-- The run as ended in a status. -/
def finish (r : RunReport) (s : Status) : RunReport := { r with finished := true, status := s }

/-- The artifacts that an instance adds to its run: those it produced, if it succeeded. -/
def contribution (i : JobInstance) : List String :=
  if i.status = .succeeded then i.producedArtifacts else []

/-- The artifacts of the instances that succeeded, in the order of creation, each once. -/
def artifacts (r : RunReport) : List String := dedupe (r.instances.flatMap contribution)

/-- The run with its artifacts collected. -/
def aggregate (r : RunReport) : RunReport := { r with aggregatedArtifacts := r.artifacts }

/-- How many instances have which status; a status that no instance has is left out. -/
def counts (r : RunReport) : List (InstanceStatus × Nat) :=
  (InstanceStatus.all.map fun s => (s, r.instances.countP (·.status == s))).filter (·.2 != 0)

/-- The run with one of its stages changed. -/
def modifyStage (r : RunReport) (n : Nat) (f : StageReport → StageReport) : RunReport :=
  { r with stages := r.stages.modify n f }

/-- The run with one of its instances changed. -/
def modifyInstance (r : RunReport) (n k : Nat) (f : JobInstance → JobInstance) : RunReport :=
  r.modifyStage n fun s => { s with instances := s.instances.modify k f }

end RunReport

end Conveyor
