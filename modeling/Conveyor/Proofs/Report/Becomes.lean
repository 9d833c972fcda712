/-
**What may become of the instances of a report.**

While a run goes on, its instances are changed where they stand: none is added or taken away, each
keeps what was planned for it, and one that has ended is not touched any more.

Main definitions:

* `Conveyor.JobInstance.planned`, `Conveyor.StageReport.planned` — an instance and a stage as they
  were before anything happened to them;
* `Conveyor.JobInstance.Becomes`, `Conveyor.StageReport.Becomes` — what may become of an instance
  and of a stage.

Main results:

* `Conveyor.StageReport.becomes_cancelPending`, `Conveyor.StageReport.becomes_finalize` — the two
  changes that a stage sees as a whole;
* `Conveyor.StageReport.map_planned_eq` — the plan never changes;
* `Conveyor.StageReport.instances_eq_of_isTerminal` — nothing becomes of instances that have ended.
-/

import Mathlib.Data.List.Forall2
import Conveyor.Report.Run

set_option autoImplicit false

namespace Conveyor

/-- A transitive relation is transitive on lists, place by place. -/
theorem forall₂_trans {α : Type} {R : α → α → Prop} (hR : ∀ x y z, R x y → R y z → R x z)
    {xs ys zs : List α} (h : List.Forall₂ R xs ys) (h' : List.Forall₂ R ys zs) :
    List.Forall₂ R xs zs := by
  induction h generalizing zs with
  | nil => exact h'
  | cons hxy _ ih =>
      cases h' with
      | cons hyz hrest => exact .cons (hR _ _ _ hxy hyz) (ih hrest)

/-! ### Instances -/

namespace JobInstance

/-- An instance as it was before anything happened to it. -/
def planned (i : JobInstance) : JobInstance :=
  { identity := i.identity, stageName := i.stageName, job := i.job, bindings := i.bindings
    index := i.index }

/-- What may become of an instance.  One that has ended is not touched any more, and one that is
pending was never touched. -/
structure Becomes (i j : JobInstance) : Prop where
  planned : j.planned = i.planned
  ended : i.isTerminal = true → j = i
  untouched : j.status = .pending → j = i

@[refl] theorem Becomes.refl (i : JobInstance) : i.Becomes i := ⟨rfl, fun _ => rfl, fun _ => rfl⟩

theorem Becomes.trans {i j k : JobInstance} (h : i.Becomes j) (h' : j.Becomes k) : i.Becomes k where
  planned := h'.planned.trans h.planned
  ended hi := by
    have hj : j = i := h.ended hi
    rw [← hj]
    exact h'.ended (hj ▸ hi)
  untouched hk := by
    have hkj : k = j := h'.untouched hk
    rw [hkj]
    exact h.untouched (hkj ▸ hk)

theorem isTerminal_of_cancelled {i : JobInstance} (h : i.status = .cancelled) :
    i.isTerminal = true := by
  rw [isTerminal, h]
  rfl

theorem ne_pending_of_isTerminal {i : JobInstance} (h : i.isTerminal = true) :
    i.status ≠ .pending := by
  intro hp
  simp [isTerminal, hp, InstanceStatus.isTerminal] at h

/-- An instance that is under way has not ended. -/
theorem isTerminal_eq_false_of_isActive {i : JobInstance} (h : i.status.isActive = true) :
    i.isTerminal = false := by
  cases hs : i.status <;> simp [hs, InstanceStatus.isActive] at h <;>
    simp [isTerminal, hs, InstanceStatus.isTerminal]

/-- What was cancelled stays as it is. -/
theorem Becomes.eq_of_cancelled {i j : JobInstance} (h : i.Becomes j) (hs : i.status = .cancelled) :
    j = i :=
  h.ended (isTerminal_of_cancelled hs)

theorem identity_eq_of_planned {i j : JobInstance} (h : j.planned = i.planned) :
    j.identity = i.identity := by
  have hi : j.planned.identity = i.planned.identity := by rw [h]
  exact hi

/-- An instance that is under way may become anything that is not pending, as long as it keeps its
plan. -/
theorem Becomes.of_active {i j : JobInstance} (hp : j.planned = i.planned)
    (hi : i.isTerminal = false) (hj : j.status ≠ .pending) : i.Becomes j where
  planned := hp
  ended h := by simp [hi] at h
  untouched h := absurd h hj

end JobInstance

namespace StageReport

theorem cancelIfPending_of_pending {reason : String} {i : JobInstance} (h : i.status = .pending) :
    cancelIfPending reason i =
      { i with error := some reason, errorKind := some "CancellationError" }.enter .cancelled := by
  simp [cancelIfPending, JobInstance.cancel, JobInstance.attempt, JobInstance.transition, h,
    InstanceStatus.mayBecome]

theorem cancelIfPending_of_ne {reason : String} {i : JobInstance} (h : i.status ≠ .pending) :
    cancelIfPending reason i = i := if_neg h

@[simp] theorem planned_cancelIfPending (reason : String) (i : JobInstance) :
    (cancelIfPending reason i).planned = i.planned := by
  by_cases h : i.status = .pending
  · rw [cancelIfPending_of_pending h]
    rfl
  · rw [cancelIfPending_of_ne h]

@[simp] theorem identity_cancelIfPending (reason : String) (i : JobInstance) :
    (cancelIfPending reason i).identity = i.identity :=
  JobInstance.identity_eq_of_planned (planned_cancelIfPending reason i)

/-- A pending instance is cancelled, and every other one keeps its status. -/
theorem status_cancelIfPending (reason : String) (i : JobInstance) :
    (cancelIfPending reason i).status = if i.status = .pending then .cancelled else i.status := by
  by_cases h : i.status = .pending
  · rw [cancelIfPending_of_pending h, if_pos h]
    rfl
  · rw [cancelIfPending_of_ne h, if_neg h]

theorem status_cancelIfPending_ne_pending (reason : String) (i : JobInstance) :
    (cancelIfPending reason i).status ≠ .pending := by
  rw [status_cancelIfPending]
  split <;> simp_all

/-- Nobody fails by a cancel. -/
theorem failed_of_cancelIfPending {reason : String} {i : JobInstance}
    (h : (cancelIfPending reason i).status = .failed) : i.status = .failed := by
  rw [status_cancelIfPending] at h
  split at h
  · cases h
  · exact h

theorem becomes_cancelIfPending (reason : String) (i : JobInstance) :
    i.Becomes (cancelIfPending reason i) where
  planned := planned_cancelIfPending reason i
  ended h := cancelIfPending_of_ne (JobInstance.ne_pending_of_isTerminal h)
  untouched h := absurd h (status_cancelIfPending_ne_pending reason i)

/-! ### Stages -/

/-- A stage as it was before anything happened to it. -/
def planned (s : StageReport) : StageReport :=
  { name := s.name, instances := s.instances.map JobInstance.planned }

/-- What may become of a stage: its instances are changed where they stand. -/
structure Becomes (s t : StageReport) : Prop where
  name : t.name = s.name
  instances : List.Forall₂ JobInstance.Becomes s.instances t.instances

@[refl] theorem Becomes.refl (s : StageReport) : s.Becomes s :=
  ⟨rfl, List.forall₂_same.2 fun i _ => JobInstance.Becomes.refl i⟩

theorem Becomes.trans {s t u : StageReport} (h : s.Becomes t) (h' : t.Becomes u) : s.Becomes u :=
  ⟨h'.name.trans h.name,
    forall₂_trans (fun _ _ _ hij hjk => hij.trans hjk) h.instances h'.instances⟩

theorem becomes_of_map {s : StageReport} {f : JobInstance → JobInstance} {status : Status}
    (h : ∀ i ∈ s.instances, i.Becomes (f i)) :
    s.Becomes { name := s.name, instances := s.instances.map f, status } :=
  ⟨rfl, List.forall₂_map_right_iff.2 (List.forall₂_same.2 h)⟩

theorem becomes_cancelPending (s : StageReport) (reason : String) :
    s.Becomes (s.cancelPending reason) :=
  becomes_of_map fun i _ => becomes_cancelIfPending reason i

theorem becomes_finalize (s : StageReport) : s.Becomes s.finalize :=
  ⟨rfl, (Becomes.refl s).instances⟩

theorem forall₂_becomes_refl (ss : List StageReport) : List.Forall₂ Becomes ss ss :=
  List.forall₂_same.2 fun s _ => Becomes.refl s

theorem Becomes.planned_eq {s t : StageReport} (h : s.Becomes t) : t.planned = s.planned := by
  have hi : t.instances.map JobInstance.planned = s.instances.map JobInstance.planned := by
    have hall := h.instances
    revert hall
    generalize s.instances = is
    generalize t.instances = js
    intro hall
    induction hall with
    | nil => rfl
    | cons hij _ ih => rw [List.map_cons, List.map_cons, hij.planned, ih]
  rw [planned, planned, h.name, hi]

/-- The plan never changes. -/
theorem map_planned_eq {ss ts : List StageReport} (h : List.Forall₂ Becomes ss ts) :
    ts.map planned = ss.map planned := by
  induction h with
  | nil => rfl
  | cons hst _ ih => rw [List.map_cons, List.map_cons, hst.planned_eq, ih]

/-- What is related stage by stage is related instance by instance. -/
theorem forall₂_flatMap {R : JobInstance → JobInstance → Prop} {ss ts : List StageReport}
    (h : List.Forall₂ (fun s t => List.Forall₂ R s.instances t.instances) ss ts) :
    List.Forall₂ R (ss.flatMap instances) (ts.flatMap instances) := by
  induction h with
  | nil => exact .nil
  | cons hst _ ih => exact List.rel_append hst ih

/-- Nothing becomes of instances that have ended. -/
theorem instances_eq_of_isTerminal {is js : List JobInstance}
    (h : List.Forall₂ JobInstance.Becomes is js) (hended : ∀ i ∈ is, i.isTerminal = true) :
    js = is := by
  induction h with
  | nil => rfl
  | cons hij _ ih =>
      rw [hij.ended (hended _ (List.mem_cons_self ..)),
        ih fun i hi => hended i (List.mem_cons_of_mem _ hi)]

/-- What holds of every pending instance beforehand holds of every pending instance afterwards. -/
theorem forall_ne_pending {is js : List JobInstance}
    (h : List.Forall₂ JobInstance.Becomes is js) (hp : ∀ i ∈ is, i.status ≠ .pending) :
    ∀ j ∈ js, j.status ≠ .pending := by
  induction h with
  | nil => exact hp
  | cons hij _ ih =>
      intro j hj
      rcases List.mem_cons.1 hj with rfl | hj
      · intro hs
        have hi := hp _ (List.mem_cons_self ..)
        rw [← hij.untouched hs] at hi
        exact hi hs
      · exact ih (fun i hi => hp i (List.mem_cons_of_mem _ hi)) j hj

end StageReport

end Conveyor
