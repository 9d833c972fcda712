/-
**Slots: how many may work at once, and who waits.**

Slots are given in the order in which they were asked for.

Main definitions:

* `Conveyor.Pool` — the slots that are taken, and the queue for the others;
* `Conveyor.Pool.ofLimit` — a number of slots, none of which is taken;
* `Conveyor.Pool.request`, `Conveyor.Pool.admit?`, `Conveyor.Pool.leave` — asking for a slot, giving
  one to the front of the queue, and giving one back.

Main results:

* `Conveyor.Pool.admit?_eq_none_iff`, `Conveyor.Pool.admit?_eq_some_iff` — nobody is let in when
  nobody waits or no slot is free, and otherwise it is the front of the queue.
-/

import Conveyor.Fault

set_option autoImplicit false

namespace Conveyor

/-- The slots that are taken, and the queue for the others. -/
structure Pool (α : Type) where
  /-- How many slots there are. -/
  limit : Nat
  /-- How many slots are taken. -/
  active : Nat := 0
  /-- The most slots that were ever taken at once. -/
  peak : Nat := 0
  /-- Who waits for a slot, the first one first. -/
  waiting : List α := []
  deriving DecidableEq, Repr

namespace Pool

variable {α : Type}

/-- So many slots, none of which is taken.  There has to be one at least. -/
def ofLimit (limit : Int) : Except Fault (Pool α) :=
  if limit < 1 then .error (.value "Worker pool limit must be at least 1")
  else .ok { limit := limit.toNat }

/-- Joins the queue. -/
def request (p : Pool α) (xs : List α) : Pool α := { p with waiting := p.waiting ++ xs }

/-- Gives a free slot to the front of the queue. -/
def admit? (p : Pool α) : Option (α × Pool α) :=
  if p.active < p.limit then
    match p.waiting with
    | [] => none
    | x :: rest =>
      some (x, { p with active := p.active + 1, peak := max p.peak (p.active + 1), waiting := rest })
  else none

/-- Gives a slot back. -/
def leave (p : Pool α) : Pool α := { p with active := p.active - 1 }

/-- Leaves the queue. -/
def withdraw [DecidableEq α] (p : Pool α) (x : α) : Pool α :=
  { p with waiting := p.waiting.filter (· ≠ x) }

/-- Nobody is let in when nobody waits or no slot is free. -/
theorem admit?_eq_none_iff {p : Pool α} : p.admit? = none ↔ p.limit ≤ p.active ∨ p.waiting = [] := by
  unfold admit?
  split
  · split <;> simp_all
  · simp_all

/-- Whoever is let in stood at the front of the queue, and takes a free slot. -/
theorem admit?_eq_some_iff {p q : Pool α} {x : α} :
    p.admit? = some (x, q) ↔ p.active < p.limit ∧ ∃ rest, p.waiting = x :: rest ∧
      q = { p with
        active := p.active + 1, peak := max p.peak (p.active + 1), waiting := rest } := by
  constructor
  · intro h
    unfold admit? at h
    split at h
    · rename_i hfree
      split at h
      · simp at h
      · rename_i y rest hwaiting
        obtain ⟨rfl, rfl⟩ := Prod.mk.inj (Option.some.inj h)
        exact ⟨hfree, rest, hwaiting, rfl⟩
    · simp at h
  · rintro ⟨hfree, rest, hwaiting, rfl⟩
    simp [admit?, hfree, hwaiting]

end Pool

end Conveyor
