/-
**Sums and products of counts.**

Main definitions:

* `Conveyor.total`, `Conveyor.product` — the sum and the product of a list of numbers.

Main results:

* `Conveyor.total_append` — the sum of two lists together;
* `Conveyor.total_set` — what becomes of a sum when one member changes;
* `Conveyor.countP_eq_total`, `Conveyor.countP_flatMap_eq_total` — to count is to sum up;
* `Conveyor.total_countP` — to count by cases is to count;
* `Conveyor.length_flatMap_of_forall` — as many parts of one length as there are members.
-/

set_option autoImplicit false

namespace Conveyor

/-- The sum of numbers. -/
def total : List Nat → Nat
  | [] => 0
  | n :: ns => n + total ns

/-- The product of numbers. -/
def product : List Nat → Nat
  | [] => 1
  | n :: ns => n * product ns

theorem total_append (ms ns : List Nat) : total (ms ++ ns) = total ms + total ns := by
  induction ms with
  | nil => simp [total]
  | cons m ms ih =>
      show m + total (ms ++ ns) = m + total ms + total ns
      rw [ih]
      omega

theorem total_eq_zero {ns : List Nat} (h : ∀ n ∈ ns, n = 0) : total ns = 0 := by
  induction ns with
  | nil => rfl
  | cons n rest ih =>
      rw [total, h n (List.mem_cons_self ..), ih fun m hm => h m (List.mem_cons_of_mem _ hm)]

/-- One member changes, and the sum changes by what it counts. -/
theorem total_set {α : Type} {xs : List α} {k : Nat} {x : α} (hx : xs[k]? = some x) (y : α)
    (f : α → Nat) : total ((xs.set k y).map f) + f x = total (xs.map f) + f y := by
  induction xs generalizing k with
  | nil => simp at hx
  | cons z rest ih =>
      cases k with
      | zero =>
          obtain rfl := Option.some.inj hx
          simp only [List.set_cons_zero, List.map_cons, total]
          omega
      | succ k =>
          have hih := ih (k := k) hx
          simp only [List.set_cons_succ, List.map_cons, total]
          omega

/-- To leave members out is to count nothing for them. -/
theorem total_filter {α : Type} (p : α → Bool) (f : α → Nat) (xs : List α) :
    total ((xs.filter p).map f) = total (xs.map fun x => if p x then f x else 0) := by
  induction xs with
  | nil => rfl
  | cons x rest ih =>
      by_cases hx : p x
      · rw [List.filter_cons_of_pos hx, List.map_cons, List.map_cons, total, total, ih, if_pos hx]
      · rw [List.filter_cons_of_neg hx, List.map_cons, total, ih, if_neg hx, Nat.zero_add]

theorem total_le_of_forall {α : Type} {xs : List α} {f g : α → Nat} (h : ∀ x ∈ xs, f x ≤ g x) :
    total (xs.map f) ≤ total (xs.map g) := by
  induction xs with
  | nil => exact Nat.le_refl 0
  | cons x rest ih =>
      have hx := h x (List.mem_cons_self ..)
      have hrest := ih fun y hy => h y (List.mem_cons_of_mem _ hy)
      simp only [List.map_cons, total]
      omega

/-- To count is to sum up. -/
theorem countP_eq_total {α : Type} (p : α → Bool) (xs : List α) :
    xs.countP p = total (xs.map fun x => if p x then 1 else 0) := by
  induction xs with
  | nil => rfl
  | cons x rest ih =>
      rw [List.countP_cons, List.map_cons, total, ih]
      omega

/-- To count in parts is to sum up the counts. -/
theorem countP_flatMap_eq_total {α β : Type} (p : β → Bool) (f : α → List β) (xs : List α) :
    (xs.flatMap f).countP p = total (xs.map fun x => (f x).countP p) := by
  induction xs with
  | nil => rfl
  | cons x rest ih => rw [List.flatMap_cons, List.countP_append, List.map_cons, total, ih]

theorem total_map_add {α : Type} (f g : α → Nat) (xs : List α) :
    total (xs.map fun x => f x + g x) = total (xs.map f) + total (xs.map g) := by
  induction xs with
  | nil => rfl
  | cons x rest ih =>
      simp only [List.map_cons, total]
      omega

/-- To count by cases is to count, as long as each member is in one case. -/
theorem total_countP {α β : Type} {cases : List α} {q : α → β → Bool} {p : β → Bool}
    {xs : List β} (h : ∀ x ∈ xs, cases.countP (q · x) = if p x then 1 else 0) :
    total (cases.map fun a => xs.countP (q a)) = xs.countP p := by
  induction xs with
  | nil =>
      refine total_eq_zero fun n hn => ?_
      obtain ⟨a, _, rfl⟩ := List.mem_map.1 hn
      rfl
  | cons x rest ih =>
      have hfirst := h x (List.mem_cons_self ..)
      have hrest := ih fun y hy => h y (List.mem_cons_of_mem _ hy)
      rw [countP_eq_total] at hfirst
      simp only [List.countP_cons, total_map_add, hfirst, hrest]

/-- Of sums that are the same no part is smaller, if none is greater. -/
theorem eq_of_total_eq {α : Type} {xs : List α} {f g : α → Nat} (h : ∀ x ∈ xs, f x ≤ g x)
    (hsum : total (xs.map f) = total (xs.map g)) : ∀ x ∈ xs, f x = g x := by
  induction xs with
  | nil => simp
  | cons y rest ih =>
      obtain ⟨hy, hrest⟩ := List.forall_mem_cons.1 h
      have hle := total_le_of_forall hrest
      simp only [List.map_cons, total] at hsum
      exact List.forall_mem_cons.2 ⟨by omega, ih hrest (by omega)⟩

/-- Parts of the same length, one for each member. -/
theorem length_flatMap_of_forall {α β : Type} {f : α → List β} {n : Nat} {xs : List α}
    (h : ∀ x ∈ xs, (f x).length = n) : (xs.flatMap f).length = xs.length * n := by
  induction xs with
  | nil => simp
  | cons x xs ih =>
      have hx : (f x).length = n := h x (List.mem_cons_self ..)
      have hxs := ih fun y hy => h y (List.mem_cons_of_mem _ hy)
      rw [List.flatMap_cons, List.length_append, hx, hxs, List.length_cons, Nat.succ_mul]
      omega

end Conveyor
