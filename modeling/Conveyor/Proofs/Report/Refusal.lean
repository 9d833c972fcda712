/-
**What a refused demand changes.**

An instance is asked to take another status, to fail or to be cancelled, and refuses what may not
follow its status.  A refused change of status leaves no trace.  A refused failure or cancellation does:
its error is noted before the status is looked at, so that an instance shows the error of the last
failure or cancellation that it was asked for, taken or not.  Nothing else depends on what was refused.

Main definitions:

* `Conveyor.JobInstance.Demand` — what an instance is asked for;
* `Conveyor.JobInstance.ask`, `Conveyor.JobInstance.afterAll` — what becomes of it;
* `Conveyor.JobInstance.noted`, `Conveyor.JobInstance.unnoted` — an instance with the error of a
  demand, and without an error.

Main results:

* `Conveyor.JobInstance.ask_refused_iff` — what is refused;
* `Conveyor.JobInstance.unnoted_afterAll` — errors have no influence on what becomes of an instance;
* `Conveyor.JobInstance.shownError_afterAll` — the error that an instance shows;
* `Conveyor.JobInstance.refused_of_afterAll` — **what a refused demand changes, and when nothing**.
-/

import Conveyor.Proofs.Report.Becomes

set_option autoImplicit false

namespace Conveyor.JobInstance

/-- What an instance is asked for. -/
inductive Demand where
  | transition (s : InstanceStatus)
  | fail (f : Fault)
  | cancel (reason : String)

/-- The status that is asked for. -/
def Demand.target : Demand → InstanceStatus
  | .transition s => s
  | .fail _ => .failed
  | .cancel _ => .cancelled

/-- The error that comes with a demand, and its kind. -/
def Demand.note? : Demand → Option (String × String)
  | .transition _ => none
  | .fail f => some (f.message, f.kindName)
  | .cancel reason => some (reason, "CancellationError")

/-- What becomes of an instance that is asked for something, perhaps with a refusal. -/
def ask (i : JobInstance) : Demand → JobInstance × Option Refusal
  | .transition s => i.attempt s
  | .fail f => i.fail f
  | .cancel reason => i.cancel reason

/-- What becomes of an instance that is asked for one thing after the other, whatever it refuses. -/
def afterAll (i : JobInstance) (ds : List Demand) : JobInstance :=
  ds.foldl (fun i d => (i.ask d).1) i

/-- An instance with the error of a demand, if one comes with it. -/
def noted (i : JobInstance) (d : Demand) : JobInstance :=
  match d.note? with
  | none => i
  | some note => { i with error := some note.1, errorKind := some note.2 }

/-- An instance without an error. -/
def unnoted (i : JobInstance) : JobInstance := { i with error := none, errorKind := none }

/-- The error that an instance shows, and its kind. -/
def shownError (i : JobInstance) : Option String × Option String := (i.error, i.errorKind)

variable {i j : JobInstance} {d : Demand} {ds : List Demand} {r : Refusal}

/-! ### One demand -/

/-- The error is noted first. -/
theorem ask_eq (i : JobInstance) (d : Demand) : i.ask d = (i.noted d).attempt d.target := by
  cases d <;> rfl

@[simp] theorem status_noted (i : JobInstance) (d : Demand) : (i.noted d).status = i.status := by
  cases d <;> rfl

@[simp] theorem planned_noted (i : JobInstance) (d : Demand) : (i.noted d).planned = i.planned := by
  cases d <;> rfl

@[simp] theorem unnoted_noted (i : JobInstance) (d : Demand) : (i.noted d).unnoted = i.unnoted := by
  cases d <;> rfl

theorem shownError_noted (i : JobInstance) (d : Demand) :
    (i.noted d).shownError =
      (d.note?.map fun n => (some n.1, some n.2)).getD i.shownError := by
  cases d <;> rfl

/-- What is asked for is done when the status may follow, and else refused. -/
theorem ask_cases (i : JobInstance) (d : Demand) :
    (i.status.mayBecome d.target = true ∧ i.ask d = ((i.noted d).enter d.target, none)) ∨
      (i.status.mayBecome d.target = false ∧
        i.ask d = (i.noted d, some ⟨i.identity, i.status, d.target⟩)) := by
  have hidentity : (i.noted d).identity = i.identity := identity_eq_of_planned (planned_noted i d)
  rw [ask_eq, attempt, transition, status_noted, hidentity]
  cases i.status.mayBecome d.target
  · exact .inr ⟨rfl, rfl⟩
  · exact .inl ⟨rfl, rfl⟩

/-- A demand is refused when its status may not follow. -/
theorem ask_refused_iff :
    (i.ask d).2 = some r ↔
      i.status.mayBecome d.target = false ∧ r = ⟨i.identity, i.status, d.target⟩ := by
  rcases ask_cases i d with ⟨hmay, hask⟩ | ⟨hmay, hask⟩
  · simp [hask, hmay]
  · simp [hask, hmay, eq_comm]

/-- A refused demand leaves its error, and nothing more. -/
theorem ask_of_refused (h : (i.ask d).2 = some r) : (i.ask d).1 = i.noted d := by
  rcases ask_cases i d with ⟨_, hask⟩ | ⟨_, hask⟩
  · simp [hask] at h
  · rw [hask]

@[simp] theorem planned_ask (i : JobInstance) (d : Demand) : (i.ask d).1.planned = i.planned := by
  rcases ask_cases i d with ⟨_, hask⟩ | ⟨_, hask⟩
  · rw [hask]
    exact planned_noted i d
  · rw [hask]
    exact planned_noted i d

theorem shownError_ask (i : JobInstance) (d : Demand) :
    (i.ask d).1.shownError = (i.noted d).shownError := by
  rcases ask_cases i d with ⟨_, hask⟩ | ⟨_, hask⟩
  · rw [hask]
    rfl
  · rw [hask]

/-- Instances that differ only in their errors refuse the same, and differ only in their errors
afterwards. -/
theorem ask_congr (h : i.unnoted = j.unnoted) (d : Demand) :
    (i.ask d).1.unnoted = (j.ask d).1.unnoted ∧ (i.ask d).2 = (j.ask d).2 := by
  have hstatus : i.status = j.status := show i.unnoted.status = j.unnoted.status by rw [h]
  have hidentity : i.identity = j.identity := show i.unnoted.identity = j.unnoted.identity by rw [h]
  have henter : ∀ k : JobInstance, ((k.noted d).enter d.target).unnoted = k.unnoted.enter d.target := by
    intro k
    rw [← unnoted_noted k d]
    rfl
  rcases ask_cases i d with ⟨hi, hask⟩ | ⟨hi, hask⟩ <;>
    rcases ask_cases j d with ⟨hj, hask'⟩ | ⟨hj, hask'⟩
  · rw [hask, hask', henter, henter, h]
    exact ⟨rfl, rfl⟩
  · rw [hstatus, hj] at hi
    cases hi
  · rw [hstatus, hj] at hi
    cases hi
  · rw [hask, hask', unnoted_noted, unnoted_noted, h, hstatus, hidentity]
    exact ⟨rfl, rfl⟩

/-! ### One demand after the other -/

theorem afterAll_cons (i : JobInstance) (d : Demand) (ds : List Demand) :
    i.afterAll (d :: ds) = (i.ask d).1.afterAll ds := rfl

theorem afterAll_append (i : JobInstance) (ds es : List Demand) :
    i.afterAll (ds ++ es) = (i.afterAll ds).afterAll es := List.foldl_append

@[simp] theorem planned_afterAll (i : JobInstance) (ds : List Demand) :
    (i.afterAll ds).planned = i.planned := by
  induction ds generalizing i with
  | nil => rfl
  | cons d ds ih => rw [afterAll_cons, ih, planned_ask]

/-- Errors have no influence on what becomes of an instance. -/
theorem unnoted_afterAll (h : i.unnoted = j.unnoted) (ds : List Demand) :
    (i.afterAll ds).unnoted = (j.afterAll ds).unnoted := by
  induction ds generalizing i j with
  | nil => exact h
  | cons d ds ih =>
      rw [afterAll_cons, afterAll_cons]
      exact ih (ask_congr h d).1

/-- An instance shows the error of the last demand with one. -/
theorem shownError_afterAll (i : JobInstance) (ds : List Demand) :
    (i.afterAll ds).shownError =
      ((ds.filterMap Demand.note?).getLast?.map fun n => (some n.1, some n.2)).getD i.shownError := by
  induction ds generalizing i with
  | nil => rfl
  | cons d ds ih =>
      rw [afterAll_cons, ih, shownError_ask, shownError_noted, List.filterMap_cons]
      cases d.note? with
      | none => rfl
      | some note =>
          rw [List.getLast?_cons]
          cases (ds.filterMap Demand.note?).getLast? <;> rfl

/-- A demand is noted already when the instance shows its error. -/
theorem noted_eq_self_iff :
    i.noted d = i ↔ ∀ n, d.note? = some n → i.shownError = (some n.1, some n.2) := by
  constructor
  · intro h n hn
    have hshown := shownError_noted i d
    rwa [h, hn] at hshown
  · intro h
    unfold noted
    split
    · rfl
    · rename_i n hn
      obtain ⟨herror, hkind⟩ := Prod.mk.inj (h n hn)
      rw [← herror, ← hkind]

/-- **What a refused demand changes, and when nothing**: an instance that was asked for this and that
and then refuses a demand keeps all but its error.  It is as it was just when no error comes with the
demand or when its last error was the same.  Later on, it refuses what it would have refused without
that demand, and becomes what it would have become, its error apart. -/
theorem refused_of_afterAll (hi : i.planned = i) (h : ((i.afterAll ds).ask d).2 = some r) :
    r = ⟨i.identity, (i.afterAll ds).status, d.target⟩ ∧
    ((i.afterAll ds).ask d).1 = (i.afterAll ds).noted d ∧
    (((i.afterAll ds).ask d).1 = i.afterAll ds ↔
      ∀ n, d.note? = some n → (ds.filterMap Demand.note?).getLast? = some n) ∧
    ∀ es e, (i.afterAll (ds ++ d :: es)).unnoted = (i.afterAll (ds ++ es)).unnoted ∧
      ((i.afterAll (ds ++ d :: es)).ask e).2 = ((i.afterAll (ds ++ es)).ask e).2 := by
  have hleft : ((i.afterAll ds).ask d).1 = (i.afterAll ds).noted d := ask_of_refused h
  have hlater : ∀ es, (i.afterAll (ds ++ d :: es)).unnoted = (i.afterAll (ds ++ es)).unnoted := by
    intro es
    rw [afterAll_append, afterAll_append, afterAll_cons, hleft]
    exact unnoted_afterAll (unnoted_noted ..) es
  refine ⟨?_, hleft, ?_, fun es e => ⟨hlater es, (ask_congr (hlater es) e).2⟩⟩
  · obtain ⟨-, hr⟩ := ask_refused_iff.1 h
    rwa [identity_eq_of_planned (planned_afterAll i ds)] at hr
  · -- An instance to which nothing has happened shows no error.
    have hnone : i.shownError = (none, none) := by rw [← hi]; rfl
    rw [hleft, noted_eq_self_iff, shownError_afterAll, hnone]
    refine forall_congr' fun n => imp_congr_right fun _ => ?_
    cases (ds.filterMap Demand.note?).getLast? <;> simp [Prod.ext_iff]

/-- An instance of a job without steps. -/
def idle : JobInstance := { identity := "build", stageName := "ci", job := { name := "build" } }

/-- A cancelled instance refuses to fail, but shows the failure. -/
theorem refused_of_cancelled_idle :
    (idle.ask (.cancel "stop")).1.status = .cancelled ∧
    ((idle.afterAll [.cancel "stop"]).ask (.fail (.value "boom"))).1 =
      (idle.afterAll [.cancel "stop"]).noted (.fail (.value "boom")) ∧
    ((idle.afterAll [.cancel "stop"]).ask (.fail (.value "boom"))).1 ≠
      idle.afterAll [.cancel "stop"] := by
  have hrefused : ((idle.afterAll [.cancel "stop"]).ask (.fail (.value "boom"))).2 =
      some ⟨"build", .cancelled, .failed⟩ := rfl
  obtain ⟨-, hleft, hsame, -⟩ := refused_of_afterAll rfl hrefused
  refine ⟨rfl, hleft, fun h => ?_⟩
  have hlast := hsame.1 h ("boom", "ValueError") rfl
  exact absurd hlast (by decide)

/-- An instance that was never started refuses to fail, and shows the failure all the same. -/
theorem exists_refused_not_unchanged :
    ∃ (i : JobInstance) (ds : List Demand) (d : Demand), i.planned = i ∧
      ((i.afterAll ds).ask d).2.isSome = true ∧ ((i.afterAll ds).ask d).1 ≠ i.afterAll ds := by
  refine ⟨idle, [], .fail (.value "boom"), rfl, rfl, fun h => ?_⟩
  exact absurd (congrArg error h) (by decide)

end Conveyor.JobInstance
