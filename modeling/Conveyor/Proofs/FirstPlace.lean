/-
**Members of a list at their first places.**

When each member of a list is kept once, at its first place, what is kept stands in the order of the
first places, and nothing is left out just if nothing comes twice.  Places may be more than numbers:
it is enough that they increase along the list.

Main definitions:

* `Conveyor.KeepsFirst` — a list whose members are those of another one, each once, in the order in
  which they come first there;
* `Conveyor.IsFirstAt` — the first of the places where a text stands.

Main results:

* `Conveyor.keepsFirst_dedupe` — to keep each member at its first place is to do just that;
* `Conveyor.pairwise_dedupe_of_increasing` — what is kept stands in the order of its first places;
* `Conveyor.length_dedupe_eq_iff` — nothing is left out just if nothing comes twice.
-/

import Mathlib.Data.List.Nodup
import Conveyor.Report.Run

set_option autoImplicit false

namespace Conveyor

variable {ps seen seen' : List String} {p : String} {n : Nat}

/-! ### Numbered places -/

/-- A text has no index after one of its places. -/
theorem idxOf_le_of_getElem? (h : ps[n]? = some p) : ps.idxOf p ≤ n := by
  obtain ⟨hn, hget⟩ := List.getElem?_eq_some_iff.1 h
  by_contra hlater
  have hother : (ps[n] == p) = false := List.not_of_lt_findIdx (Nat.lt_of_not_le hlater)
  simp [hget] at hother

/-- What is kept stands in the order of its indices. -/
theorem pairwise_dedupeFrom (seen ps : List String) :
    (dedupeFrom seen ps).Pairwise fun p q => ps.idxOf p < ps.idxOf q := by
  induction ps generalizing seen with
  | nil => exact .nil
  | cons r ps ih =>
      -- What stands in front has no part in the rest: it was seen before, or it is seen now.
      have hrest : ∀ {seen}, r ∈ seen →
          (dedupeFrom seen ps).Pairwise fun p q => (r :: ps).idxOf p < (r :: ps).idxOf q := by
        intro seen hr
        have hne : ∀ {p}, p ∈ dedupeFrom seen ps → r ≠ p :=
          fun hp heq => (mem_dedupeFrom.1 hp).2 (heq ▸ hr)
        refine (ih seen).imp_of_mem fun hp hq hlt => ?_
        rw [List.idxOf_cons_ne _ (hne hp), List.idxOf_cons_ne _ (hne hq)]
        exact Nat.succ_lt_succ hlt
      rw [dedupeFrom]
      split
      · rename_i hr
        exact hrest hr
      · refine List.pairwise_cons.2 ⟨fun q hq => ?_, hrest (List.mem_cons_self ..)⟩
        have hne : r ≠ q := fun heq => (mem_dedupeFrom.1 hq).2 (heq ▸ List.mem_cons_self ..)
        rw [List.idxOf_cons_self, List.idxOf_cons_ne _ hne]
        exact Nat.succ_pos _

/-- A list whose members are those of another one, each once, in the order in which they come first
there. -/
structure KeepsFirst (ps kept : List String) : Prop where
  mem_iff (p : String) : p ∈ kept ↔ p ∈ ps
  inOrder : kept.Pairwise fun p q => ps.idxOf p < ps.idxOf q

theorem keepsFirst_dedupe (ps : List String) : KeepsFirst ps (dedupe ps) where
  mem_iff _ := mem_dedupe
  inOrder := pairwise_dedupeFrom [] ps

/-! ### Places that increase -/

section

variable {ι : Type} {R : ι → ι → Prop} {placed : List (ι × String)} {a : ι}

/-- The first of the places where a text stands. -/
def IsFirstAt (R : ι → ι → Prop) (placed : List (ι × String)) (a : ι) (p : String) : Prop :=
  (a, p) ∈ placed ∧ ∀ b, (b, p) ∈ placed → a = b ∨ R a b

/-- If the places increase, the one at the index of a text is its first place. -/
theorem exists_isFirstAt (hplaced : placed.Pairwise fun x y => R x.1 y.1)
    (hp : p ∈ placed.map Prod.snd) :
    ∃ a, placed[(placed.map Prod.snd).idxOf p]? = some (a, p) ∧ IsFirstAt R placed a p := by
  have hidx := List.getElem?_idxOf hp
  rw [List.getElem?_map, Option.map_eq_some_iff] at hidx
  obtain ⟨⟨a, q⟩, hget, rfl⟩ := hidx
  refine ⟨a, hget, List.mem_of_getElem? hget, fun b hb => ?_⟩
  obtain ⟨j, hj⟩ := List.mem_iff_getElem?.1 hb
  have hle : (placed.map Prod.snd).idxOf q ≤ j :=
    idxOf_le_of_getElem? (by rw [List.getElem?_map, hj, Option.map_some])
  rcases Nat.eq_or_lt_of_le hle with heq | hlt
  · rw [heq, hj] at hget
    exact .inl (congrArg Prod.fst (Option.some.inj hget)).symm
  · obtain ⟨hi, hi'⟩ := List.getElem?_eq_some_iff.1 hget
    obtain ⟨hk, hk'⟩ := List.getElem?_eq_some_iff.1 hj
    have hR := List.pairwise_iff_getElem.1 hplaced _ _ hi hk hlt
    rw [hi', hk'] at hR
    exact .inr hR

/-- If the places increase, what is kept stands in the order of its first places. -/
theorem pairwise_dedupe_of_increasing (hplaced : placed.Pairwise fun x y => R x.1 y.1) :
    (dedupe (placed.map Prod.snd)).Pairwise fun p q =>
      ∃ a b, IsFirstAt R placed a p ∧ IsFirstAt R placed b q ∧ R a b := by
  refine (pairwise_dedupeFrom [] _).imp_of_mem fun {p q} hp hq hlt => ?_
  obtain ⟨a, hget, ha⟩ := exists_isFirstAt hplaced (mem_dedupe.1 hp)
  obtain ⟨b, hget', hb⟩ := exists_isFirstAt hplaced (mem_dedupe.1 hq)
  obtain ⟨hi, hi'⟩ := List.getElem?_eq_some_iff.1 hget
  obtain ⟨hj, hj'⟩ := List.getElem?_eq_some_iff.1 hget'
  have hR := List.pairwise_iff_getElem.1 hplaced _ _ hi hj hlt
  rw [hi', hj'] at hR
  exact ⟨a, b, ha, hb, hR⟩

end

/-! ### What is left out -/

theorem dedupeFrom_sublist (seen ps : List String) : (dedupeFrom seen ps).Sublist ps := by
  induction ps generalizing seen with
  | nil => exact .refl _
  | cons p ps ih =>
      rw [dedupeFrom]
      split
      · exact (ih seen).cons p
      · exact (ih (p :: seen)).cons_cons p

theorem dedupeFrom_eq_self (hps : ps.Nodup) (hseen : ∀ p ∈ ps, p ∉ seen) :
    dedupeFrom seen ps = ps := by
  induction ps generalizing seen with
  | nil => rfl
  | cons p ps ih =>
      obtain ⟨hp, hrest⟩ := List.nodup_cons.1 hps
      rw [dedupeFrom, if_neg (hseen p (List.mem_cons_self ..)), ih hrest]
      intro q hq hmem
      rcases List.mem_cons.1 hmem with rfl | hmem
      · exact hp hq
      · exact hseen q (List.mem_cons_of_mem _ hq) hmem

/-- Nothing is left out just if nothing comes twice. -/
theorem dedupe_eq_self_iff : dedupe ps = ps ↔ ps.Nodup :=
  ⟨fun h => h ▸ dedupe_nodup ps, fun h => dedupeFrom_eq_self h fun _ _ => List.not_mem_nil⟩

/-- As many are kept as there were just if nothing comes twice. -/
theorem length_dedupe_eq_iff : (dedupe ps).length = ps.length ↔ ps.Nodup :=
  ⟨fun h => dedupe_eq_self_iff.1 ((dedupeFrom_sublist [] ps).eq_of_length h),
    fun h => congrArg List.length (dedupe_eq_self_iff.2 h)⟩

/-- What is kept depends on nothing but which texts were seen before. -/
theorem dedupeFrom_congr (h : ∀ p, p ∈ seen ↔ p ∈ seen') :
    dedupeFrom seen ps = dedupeFrom seen' ps := by
  induction ps generalizing seen seen' with
  | nil => rfl
  | cons p ps ih =>
      have hrest : dedupeFrom (p :: seen) ps = dedupeFrom (p :: seen') ps :=
        ih fun q => by rw [List.mem_cons, List.mem_cons, h]
      rw [dedupeFrom, dedupeFrom, ih h, hrest]
      simp only [h]

end Conveyor
