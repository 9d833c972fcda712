/-
**What computations fail with.**

A computation in parts fails with what one of its parts fails with.  A computation that changes a state
may rely on what the states have that it meets, and on what its parts promise of their results and of
the states after them.

Main definitions:

* `Conveyor.FailsWith` — a computation that fails in known ways only;
* `Conveyor.failure?` — what a computation fails with;
* `Conveyor.Meets` — a computation that promises something of its result and the state after it, and
  fails in known ways only;
* `Conveyor.Keeps` — a computation that keeps a property of the state, too.

Main results:

* `Conveyor.bind_eq_ok_iff`, `Conveyor.exists_error_iff` — when computations succeed;
* `Conveyor.failsWith_bind_iff`, `Conveyor.Meets.bind`, `Conveyor.Keeps.bind` — computations in parts;
* `Conveyor.Keeps.mapM` — computations for each member of a list.
-/

import Mathlib.Data.List.Forall2

set_option autoImplicit false

namespace Conveyor

variable {ε α β σ : Type}

/-! ### Without a state -/

/-- A computation that fails in known ways only. -/
def FailsWith (P : ε → Prop) (x : Except ε α) : Prop := ∀ e, x = .error e → P e

section
variable {P : ε → Prop} {x : Except ε α} {f : α → Except ε β} {e : ε}

@[simp] theorem failsWith_ok (a : α) : FailsWith P (.ok a : Except ε α) := fun _ h => nomatch h

@[simp] theorem failsWith_pure (a : α) : FailsWith P (pure a : Except ε α) := fun _ h => nomatch h

@[simp] theorem failsWith_error_iff : FailsWith P (.error e : Except ε α) ↔ P e :=
  ⟨fun h => h e rfl, fun h _ he => Except.error.inj he ▸ h⟩

@[simp] theorem failsWith_throw_iff : FailsWith P (throw e : Except ε α) ↔ P e := failsWith_error_iff

/-- A computation in two parts fails with what one of them fails with. -/
@[simp] theorem failsWith_bind_iff :
    FailsWith P (x >>= f) ↔ FailsWith P x ∧ ∀ a, x = .ok a → FailsWith P (f a) := by
  cases x with
  | error e =>
      rw [show (.error e >>= f) = .error e from rfl, failsWith_error_iff, failsWith_error_iff]
      exact ⟨fun h => ⟨h, nofun⟩, fun h => h.1⟩
  | ok a => exact ⟨fun h => ⟨nofun, fun _ ha => Except.ok.inj ha ▸ h⟩, fun h => h.2 a rfl⟩

@[simp] theorem failsWith_map_iff {g : α → β} : FailsWith P (g <$> x) ↔ FailsWith P x := by
  cases x with
  | error e => simp [Functor.map, Except.map]
  | ok a => simp [Functor.map, Except.map]

@[simp] theorem failsWith_ite_iff {c : Prop} [Decidable c] {y : Except ε α} :
    FailsWith P (if c then x else y) ↔ (c → FailsWith P x) ∧ (¬ c → FailsWith P y) := by
  split <;> simp_all

end

/-- What a computation fails with. -/
def failure? : Except ε α → Option ε
  | .error e => some e
  | .ok _ => none

theorem failure?_eq_some_iff {x : Except ε α} {e : ε} : failure? x = some e ↔ x = .error e := by
  cases x <;> simp [failure?]

theorem failure?_eq_none_iff {x : Except ε α} : failure? x = none ↔ ∃ a, x = .ok a := by
  cases x <;> simp [failure?]

/-- A computation in two parts fails with what its first part fails with, or else its second. -/
theorem failure?_bind {x : Except ε α} {f : α → Except ε β} {o : Option ε}
    (h : ∀ a, x = .ok a → failure? (f a) = o) : failure? (x >>= f) = (failure? x).or o := by
  cases x with
  | error e => rfl
  | ok a => exact h a rfl

/-- A computation in two parts succeeds when both parts do. -/
theorem bind_eq_ok_iff {x : Except ε α} {f : α → Except ε β} {b : β} :
    x >>= f = .ok b ↔ ∃ a, x = .ok a ∧ f a = .ok b := by
  cases x with
  | error e => exact ⟨nofun, fun ⟨_, h, _⟩ => nomatch h⟩
  | ok a =>
      constructor
      · exact fun h => ⟨a, rfl, h⟩
      · rintro ⟨_, ha, h⟩
        cases ha
        exact h

theorem map_eq_ok_iff {x : Except ε α} {f : α → β} {b : β} :
    f <$> x = .ok b ↔ ∃ a, x = .ok a ∧ f a = b := by
  cases x <;> simp [Functor.map, Except.map]

/-- A computation for each member of a list succeeds when it does for each. -/
theorem mapM_eq_ok_iff {f : α → Except ε β} {xs : List α} {ys : List β} :
    xs.mapM f = .ok ys ↔ List.Forall₂ (fun x y => f x = .ok y) xs ys := by
  induction xs generalizing ys with
  | nil =>
      rw [List.mapM_nil, List.forall₂_nil_left_iff]
      exact ⟨fun h => (Except.ok.inj h).symm, fun h => congrArg Except.ok h.symm⟩
  | cons x xs ih =>
      rw [List.mapM_cons, List.forall₂_cons_left_iff, bind_eq_ok_iff]
      constructor
      · rintro ⟨y, hy, hrest⟩
        obtain ⟨ys, hys, h⟩ := bind_eq_ok_iff.1 hrest
        exact ⟨y, ys, hy, ih.1 hys, (Except.ok.inj h).symm⟩
      · rintro ⟨y, ys, hy, hys, rfl⟩
        exact ⟨y, hy, bind_eq_ok_iff.2 ⟨ys, ih.2 hys, rfl⟩⟩

/-- What does not succeed fails. -/
theorem exists_error_iff {x : Except ε α} : (∃ e, x = .error e) ↔ ¬ ∃ a, x = .ok a := by
  cases x <;> simp

/-! ### With a state -/

/-- A computation that, from the states with `I`, promises `Q` of its result and the state after it,
and fails with `P` only. -/
def Meets (I : σ → Prop) (P : ε → Prop) (Q : α → σ → Prop) (m : StateT σ (Except ε) α) : Prop :=
  ∀ s, I s → match m.run s with
    | .ok (a, s') => Q a s'
    | .error e => P e

namespace Meets

variable {I I' : σ → Prop} {P P' : ε → Prop} {Q Q' : α → σ → Prop} {R : β → σ → Prop}
  {m : StateT σ (Except ε) α} {f : α → StateT σ (Except ε) β}

theorem pure {a : α} (h : ∀ s, I s → Q a s) : Meets I P Q (pure a) := fun s hs => h s hs

theorem throw {e : ε} (h : P e) : Meets I P Q (throw e) := fun _ _ => h

theorem get : Meets I P (fun a s => a = s ∧ I s) (get : StateT σ (Except ε) σ) :=
  fun _ hs => ⟨rfl, hs⟩

theorem modify {g : σ → σ} {Q : σ → Prop} (h : ∀ s, I s → Q (g s)) :
    Meets I P (fun _ => Q) (modify g : StateT σ (Except ε) PUnit) := fun s hs => h s hs

theorem mono (h : Meets I P Q m) (hI : ∀ s, I' s → I s) (hP : ∀ e, P e → P' e)
    (hQ : ∀ a s, Q a s → Q' a s) : Meets I' P' Q' m := by
  intro s hs
  have hm := h s (hI s hs)
  split at hm
  · exact hQ _ _ hm
  · exact hP _ hm

theorem of_and {c : Prop} (h : c → Meets I P Q m) : Meets (fun s => c ∧ I s) P Q m :=
  fun s hs => h hs.1 s hs.2

theorem bind (hm : Meets I P Q m) (hf : ∀ a, Meets (Q a) P R (f a)) : Meets I P R (m >>= f) := by
  intro s hs
  have h := hm s hs
  rw [StateT.run_bind]
  cases hrun : m.run s with
  | error e =>
      rw [hrun] at h
      exact h
  | ok r =>
      obtain ⟨a, s'⟩ := r
      rw [hrun] at h
      exact hf a s' h

end Meets

/-- A computation that keeps a property `I` of the state, promises `Q` of its result, and fails with
`P` only. -/
def Keeps (I : σ → Prop) (P : ε → Prop) (Q : α → Prop) (m : StateT σ (Except ε) α) : Prop :=
  Meets I P (fun a s => Q a ∧ I s) m

namespace Keeps

variable {I : σ → Prop} {P P' : ε → Prop} {Q Q' : α → Prop} {R : β → Prop}
  {m : StateT σ (Except ε) α} {f : α → StateT σ (Except ε) β}

theorem pure {a : α} (h : Q a) : Keeps I P Q (pure a) := Meets.pure fun _ hs => ⟨h, hs⟩

theorem throw {e : ε} (h : P e) : Keeps I P Q (throw e) := Meets.throw h

theorem get : Keeps I P I (get : StateT σ (Except ε) σ) := fun _ hs => ⟨hs, hs⟩

theorem set {s : σ} (h : I s) : Keeps I P (fun _ => True) (set s : StateT σ (Except ε) PUnit) :=
  fun _ _ => ⟨trivial, h⟩

theorem modify {g : σ → σ} (h : ∀ s, I s → I (g s)) :
    Keeps I P (fun _ => True) (modify g : StateT σ (Except ε) PUnit) :=
  Meets.modify fun s hs => ⟨trivial, h s hs⟩

theorem lift {x : Except ε α} (h : FailsWith P x) (hQ : ∀ a, x = .ok a → Q a) :
    Keeps I P Q (liftM x : StateT σ (Except ε) α) := by
  intro s hs
  cases x with
  | error e => exact h e rfl
  | ok a => exact ⟨hQ a rfl, hs⟩

theorem mono (h : Keeps I P Q m) (hP : ∀ e, P e → P' e) (hQ : ∀ a, Q a → Q' a) : Keeps I P' Q' m :=
  Meets.mono h (fun _ => id) hP fun a _ ha => ⟨hQ a ha.1, ha.2⟩

theorem bind (hm : Keeps I P Q m) (hf : ∀ a, Q a → Keeps I P R (f a)) : Keeps I P R (m >>= f) :=
  Meets.bind hm fun a s hs => hf a hs.1 s hs.2

theorem map {g : α → β} (hm : Keeps I P Q m) (hg : ∀ a, Q a → R (g a)) : Keeps I P R (g <$> m) := by
  rw [← bind_pure_comp]
  exact bind hm fun a ha => pure (hg a ha)

theorem mapM {g : α → StateT σ (Except ε) β} {xs : List α} (hg : ∀ x ∈ xs, Keeps I P R (g x)) :
    Keeps I P (fun ys => ∀ y ∈ ys, R y) (xs.mapM g) := by
  induction xs with
  | nil =>
      rw [List.mapM_nil]
      exact pure (List.forall_mem_nil _)
  | cons x xs ih =>
      rw [List.mapM_cons]
      obtain ⟨hx, hxs⟩ := List.forall_mem_cons.1 hg
      exact bind hx fun y hy => bind (ih hxs) fun ys hys => pure (List.forall_mem_cons.2 ⟨hy, hys⟩)

end Keeps

end Conveyor
