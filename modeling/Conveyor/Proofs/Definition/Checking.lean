/-
**What a check accepts.**

A check takes a datum for some value.  For each way of putting checks together there is a relation
between values and data, and the check accepts just the related data: a record accepts the mappings
without other keys, a field its value under its key, a sequence its items in their order.

Main definitions:

* `Conveyor.IsText`, `Conveyor.IsFilled`, `Conveyor.IsWholeIn` — the data that stand for scalars;
* `Conveyor.OrNull` — a value, or null for none;
* `Conveyor.InOrder` — the items of a sequence, one after the other;
* `Conveyor.Holds`, `Conveyor.HoldsOr` — the value of a field, and of one that may be missing;
* `Conveyor.HoldsAll` — the items of a field;
* `Conveyor.HasOnly` — a mapping without other keys;
* `Conveyor.Check.Reads` — **a check that accepts just the data that stand for a value**.

Main results:

* `Conveyor.Check.Reads.required`, `Conveyor.Check.Reads.optional`, `Conveyor.Check.Reads.nullable`,
  `Conveyor.Check.Reads.sequence` — what is put together from such checks;
* `Conveyor.Check.record_eq_good_iff`, `Conveyor.Check.tagged_eq_good_iff` — records, and records of
  several forms.
-/

import Mathlib.Data.List.Forall2
import Conveyor.Definition.Check

set_option autoImplicit false

namespace Conveyor

/-! ### Good results -/

namespace Checked

variable {α β : Type} {x : Checked α} {b : β}

theorem map_eq_good_iff {f : α → β} : f <$> x = .good b ↔ ∃ a, x = .good a ∧ f a = b := by
  cases x <;> simp [Functor.map, map]

theorem seq_eq_good_iff {f : Checked (α → β)} :
    f <*> x = .good b ↔ ∃ g a, f = .good g ∧ x = .good a ∧ g a = b := by
  cases f <;> cases x <;> simp [Seq.seq, seq]

theorem within_eq_good_iff {p : Place} {a : α} : x.within p = .good a ↔ x = .good a := by
  cases x <;> simp [within]

theorem andThen_eq_good_iff {f : α → Checked β} :
    x.andThen f = .good b ↔ ∃ a, x = .good a ∧ f a = .good b := by
  cases x <;> simp [andThen]

theorem eq_good_of_toExcept {a : α} {x : Checked α} (h : x.toExcept.toOption = some a) :
    x = .good a := by
  cases x with
  | good b =>
      cases h
      rfl
  | bad ps => cases h

end Checked

/-! ### Values and the data that stand for them -/

/-- The data that stand for a text: the text itself, or the bytes that encode it. -/
inductive IsText (s : String) : Datum → Prop
  | text : IsText s (.text s)
  | bytes {bs : List UInt8} (encoded : String.fromUTF8? (ByteArray.mk bs.toArray) = some s) :
      IsText s (.bytes bs)

/-- The data that stand for a text that is not empty. -/
def IsFilled (s : String) (d : Datum) : Prop := IsText s d ∧ s ≠ ""

/-- The data that stand for a whole number between bounds, in whatever form it is given. -/
def IsWholeIn (low high n : Nat) (d : Datum) : Prop :=
  Check.whole d = .good n ∧ low ≤ n ∧ n ≤ high

section
variable {α : Type} (R : α → Datum → Prop)

/-- Null for none, or what stands for a value. -/
def OrNull : Option α → Datum → Prop
  | none, d => d = .null
  | some a, d => d ≠ .null ∧ R a d

/-- The items of a sequence; a mapping is none. -/
def Datum.items? : Datum → Option (List Datum)
  | .list ds | .tuple ds | .set ds => some ds
  | _ => none

/-- A sequence whose items stand for values, one after the other. -/
def InOrder (as : List α) (d : Datum) : Prop :=
  ∃ ds, d.items? = some ds ∧ List.Forall₂ (fun a e => R a e.opened) as ds

/-- A datum with a field that stands for a value. -/
def Holds (key : String) (a : α) (d : Datum) : Prop := ∃ v, d.field? key = some v ∧ R a v.opened

/-- A datum with a field that stands for a value, or without the field if it is the usual value. -/
def HoldsOr (key : String) (usual a : α) (d : Datum) : Prop :=
  Holds R key a d ∨ d.field? key = none ∧ a = usual

/-- A datum with a field of items, or without the field if there are none. -/
def HoldsAll (key : String) : List α → Datum → Prop := HoldsOr (InOrder R) key []

end

/-- A mapping that has no keys but some texts. -/
def HasOnly (known : List String) (d : Datum) : Prop :=
  ∃ entries, d = .dict entries ∧ ∀ e ∈ entries, ∃ k ∈ known, e.1 = .text k

section
variable {α : Type} {R : α → Datum → Prop} {P : α → Prop} {key : String} {a usual : α} {d v : Datum}

theorem Holds.of_field? (h : d.field? key = some v) (ha : R a v.opened) : Holds R key a d :=
  ⟨v, h, ha⟩

theorem HoldsOr.of_field? (h : d.field? key = some v) (ha : R a v.opened) :
    HoldsOr R key usual a d :=
  .inl ⟨v, h, ha⟩

theorem Holds.ne_empty {s : String} (h : Holds IsFilled key s d) : s ≠ "" := by
  obtain ⟨_, -, hfilled⟩ := h
  exact hfilled.2

theorem InOrder.forall_mem {as : List α} (h : InOrder R as d) (hR : ∀ a e, R a e → P a) :
    ∀ a ∈ as, P a := by
  obtain ⟨ds, -, hall⟩ := h
  induction hall with
  | nil =>
      intro a ha
      cases ha
  | cons hhead _ ih =>
      intro a ha
      rcases List.mem_cons.1 ha with rfl | ha
      · exact hR _ _ hhead
      · exact ih a ha

/-- What all values have that some datum stands for is had by the items of a field. -/
theorem HoldsAll.forall_mem {as : List α} (h : HoldsAll R key as d) (hR : ∀ a e, R a e → P a) :
    ∀ a ∈ as, P a := by
  rcases h with ⟨v, -, hv⟩ | ⟨-, rfl⟩
  · exact hv.forall_mem hR
  · intro a ha
    cases ha

/-- A written sequence stands for its values in their order. -/
theorem inOrder_list {as : List α} {f : α → Datum} (h : ∀ a ∈ as, R a (f a).opened) :
    InOrder R as (.list (as.map f)) := by
  refine ⟨_, rfl, ?_⟩
  induction as with
  | nil => exact .nil
  | cons a as ih =>
      exact .cons (h a (List.mem_cons_self ..)) (ih fun b hb => h b (List.mem_cons_of_mem _ hb))

theorem HoldsAll.of_field? {as : List α} {f : α → Datum}
    (h : d.field? key = some (.list (as.map f))) (hall : ∀ a ∈ as, R a (f a).opened) :
    HoldsAll R key as d :=
  HoldsOr.of_field? h (inOrder_list hall)

theorem HasOnly.exists_dict {known : List String} (h : HasOnly known d) :
    ∃ entries, d = .dict entries := by
  obtain ⟨entries, hd, -⟩ := h
  exact ⟨entries, hd⟩

/-- A written record has only the keys that were written. -/
theorem hasOnly_object {known : List String} {entries : List (String × Datum)}
    (h : entries.map Prod.fst = known) : HasOnly known (.object entries) := by
  refine ⟨_, rfl, ?_⟩
  intro e he
  obtain ⟨⟨k, v⟩, hentry, rfl⟩ := List.mem_map.1 he
  exact ⟨k, h ▸ List.mem_map_of_mem hentry, rfl⟩

end

/-! ### Checks -/

namespace Check

variable {α β : Type} {R : α → Datum → Prop} {check : Check α}

/-- A check that accepts just the data that stand for a value. -/
def Reads (check : Check α) (R : α → Datum → Prop) : Prop := ∀ d a, check d = .good a ↔ R a d

theorem reads_text : Reads text IsText := by
  intro d s
  constructor
  · intro h
    cases d with
    | text t =>
        cases h
        exact .text
    | bytes bs =>
        simp only [text] at h
        split at h
        · rename_i t ht
          cases h
          exact .bytes ht
        · cases h
    | _ => cases h
  · intro h
    cases h with
    | text => rfl
    | bytes encoded => simp only [text, encoded]

theorem reads_nonEmpty : Reads nonEmpty IsFilled := by
  intro d s
  rw [nonEmpty, Checked.andThen_eq_good_iff]
  constructor
  · rintro ⟨t, ht, h⟩
    split at h
    · cases h
    · rename_i hne
      cases h
      exact ⟨(reads_text d s).1 ht, hne⟩
  · rintro ⟨htext, hne⟩
    exact ⟨s, (reads_text d s).2 htext, by rw [if_neg hne]⟩

theorem reads_word (w : String) : Reads (word w) fun _ d => d = .text w := by
  intro d _
  cases d with
  | text s => simp [word, fail]
  | _ => exact ⟨nofun, nofun⟩

/-- A number between bounds is read whatever form it is given in. -/
theorem reads_wholeIn (low high : Nat) : Reads (wholeIn low (some high)) (IsWholeIn low high) := by
  intro d n
  rw [wholeIn, Checked.andThen_eq_good_iff]
  constructor
  · rintro ⟨i, hi, h⟩
    simp only at h
    split at h
    · cases h
    · split at h
      · cases h
      · cases h
        have hn : ((i.toNat : Nat) : Int) = i := by omega
        exact ⟨hn.symm ▸ hi, by omega, by omega⟩
  · rintro ⟨hwhole, hlow, hhigh⟩
    refine ⟨n, hwhole, ?_⟩
    simp only
    rw [if_neg (by omega), if_neg (by omega), Int.toNat_natCast]

theorem Reads.nullable (h : Reads check R) : Reads (nullable check) (OrNull R) := by
  intro d o
  by_cases hnull : d = .null
  · subst hnull
    cases o with
    | none => exact ⟨fun _ => rfl, fun _ => rfl⟩
    | some a => exact ⟨nofun, fun ho => absurd rfl ho.1⟩
  · have hread : Check.nullable check d = some <$> check d := by
      cases d <;> first | rfl | exact absurd rfl hnull
    rw [hread, Checked.map_eq_good_iff]
    cases o with
    | none => exact ⟨nofun, fun ho => absurd ho hnull⟩
    | some a =>
        constructor
        · rintro ⟨b, hb, he⟩
          cases he
          exact ⟨hnull, (h d a).1 hb⟩
        · intro ho
          exact ⟨a, (h d a).2 ho.2, rfl⟩

/-- A field that has to be there. -/
theorem Reads.required (h : Reads check R) (key : String) :
    Reads (required key check) (Holds R key) := by
  intro d a
  unfold Check.required Holds
  split
  · rename_i v hv
    rw [Checked.within_eq_good_iff, h, hv]
    exact ⟨fun ha => ⟨v, rfl, ha⟩, fun ⟨_, hw, ha⟩ => Option.some.inj hw ▸ ha⟩
  · rename_i hnone
    rw [hnone]
    exact ⟨nofun, nofun⟩

/-- A field that may be missing. -/
theorem Reads.optional (h : Reads check R) (key : String) (usual : α) :
    Reads (optional key usual check) (HoldsOr R key usual) := by
  intro d a
  unfold Check.optional HoldsOr Holds
  split
  · rename_i v hv
    rw [Checked.within_eq_good_iff, h, hv]
    constructor
    · intro ha
      exact .inl ⟨v, rfl, ha⟩
    · rintro (⟨_, hw, ha⟩ | ⟨hw, -⟩)
      · exact Option.some.inj hw ▸ ha
      · cases hw
  · rename_i hnone
    rw [hnone]
    constructor
    · intro ha
      cases ha
      exact .inr ⟨rfl, rfl⟩
    · rintro (⟨_, hw, -⟩ | ⟨-, rfl⟩)
      · cases hw
      · rfl

theorem items_eq_map_iff (h : Reads check R) {i : Nat} {ds : List Datum} {as : List α} :
    items check i ds = as.map .good ↔ List.Forall₂ (fun a e => R a e.opened) as ds := by
  induction ds generalizing i as with
  | nil => cases as <;> simp [items]
  | cons d ds ih =>
      cases as with
      | nil => simp [items]
      | cons a as =>
          rw [items, List.map_cons, List.cons.injEq, Checked.within_eq_good_iff, h, ih,
            List.forall₂_cons]

/-- A sequence is read in its order. -/
theorem Reads.sequence (h : Reads check R) : Reads (sequence check) (InOrder R) := by
  intro d as
  have hitems : ∀ ds, Checked.all (items check 0 ds) = .good as ↔
      List.Forall₂ (fun a e => R a e.opened) as ds := by
    intro ds
    rw [Checked.all_eq_good_iff, items_eq_map_iff h]
  cases d with
  | list ds | tuple ds | set ds =>
      exact (hitems ds).trans
        ⟨fun hall => ⟨ds, rfl, hall⟩, fun ⟨_, he, hall⟩ => Option.some.inj he ▸ hall⟩
  | _ => exact ⟨nofun, nofun⟩

/-- Items that may be missing. -/
theorem Reads.children (h : Reads check R) (key : String) :
    Reads (Check.optional key [] (Check.sequence check)) (HoldsAll R key) :=
  h.sequence.optional key []

/-! ### Records -/

theorem Reads.congr {S : α → Datum → Prop} (h : Reads check R) (hR : ∀ a d, R a d ↔ S a d) :
    Reads check S :=
  fun d a => (h d a).trans (hR a d)

theorem Reads.map (h : Reads check R) (f : α → β) :
    Reads (fun d => f <$> check d) fun b d => ∃ a, R a d ∧ f a = b := by
  intro d b
  simp only [Checked.map_eq_good_iff, h d]

/-- One field after others. -/
theorem Reads.seq {fields : Check (α → β)} {S : (α → β) → Datum → Prop} (hfields : Reads fields S)
    (h : Reads check R) :
    Reads (fun d => fields d <*> check d) fun b d => ∃ f a, S f d ∧ R a d ∧ f a = b := by
  intro d b
  simp only [Checked.seq_eq_good_iff, hfields d, h d]

/-- No key of a record is refused when all are known. -/
theorem noOthers_eq_good_iff {known : List String} {entries : List (Datum × Datum)} :
    noOthers known entries = .good () ↔ ∀ e ∈ entries, ∃ k ∈ known, e.1 = .text k := by
  have hkey : ∀ k : Datum, keyProblem? known k = none ↔ ∃ s ∈ known, k = .text s := by
    intro k
    cases k <;> simp [keyProblem?]
  have hnone : (entries.filterMap fun e => keyProblem? known e.1) = [] ↔
      ∀ e ∈ entries, ∃ k ∈ known, e.1 = .text k := by
    rw [List.filterMap_eq_nil_iff]
    simp only [hkey]
  rw [← hnone, noOthers]
  split
  · rename_i h
    simp only [h]
  · rename_i h
    exact ⟨nofun, fun he => absurd he h⟩

/-- A record is a mapping of its fields, without other keys. -/
theorem record_eq_good_iff {what : String} {known : List String} {fields : Check α} {d : Datum}
    {a : α} : record what known fields d = .good a ↔ HasOnly known d ∧ fields d = .good a := by
  cases d with
  | dict entries =>
      have honly : HasOnly known (.dict entries) ↔ noOthers known entries = .good () := by
        rw [noOthers_eq_good_iff]
        exact ⟨fun ⟨_, he, h⟩ => Datum.dict.inj he ▸ h, fun h => ⟨entries, rfl, h⟩⟩
      rw [honly]
      simp only [record]
      split
      · -- A key that cannot be read is no known text either.
        rename_i hbroken
        constructor
        · intro h
          cases h
        · rintro ⟨h, -⟩
          obtain ⟨e, he, hkey⟩ := List.any_eq_true.1 hbroken
          obtain ⟨k, -, hk⟩ := noOthers_eq_good_iff.1 h e he
          rw [hk] at hkey
          cases hkey
      · rw [Checked.seq_eq_good_iff]
        simp only [Checked.map_eq_good_iff]
        constructor
        · rintro ⟨_, _, ⟨b, hb, rfl⟩, hothers, rfl⟩
          exact ⟨hothers, hb⟩
        · rintro ⟨hothers, ha⟩
          exact ⟨_, (), ⟨a, ha, rfl⟩, hothers, rfl⟩
  | _ => exact ⟨nofun, fun ⟨⟨_, he, _⟩, _⟩ => nomatch he⟩

theorem Reads.record (h : Reads check R) (what : String) (known : List String) :
    Reads (Check.record what known check) fun a d => HasOnly known d ∧ R a d := by
  intro d a
  rw [record_eq_good_iff, h d]

/-- A record of several forms is one of the form that its kind names. -/
theorem tagged_eq_good_iff {forms : List (String × Check α)} {d : Datum} {a : α} :
    tagged forms d = .good a ↔ (∃ entries, d = .dict entries) ∧ ∃ k form,
      d.field? "kind" = some (.text k) ∧ forms.find? (fun f => f.1 == k) = some form ∧
        form.2 d = .good a := by
  cases d with
  | dict entries =>
      constructor
      · intro h
        simp only [tagged] at h
        split at h
        · cases h
        · rename_i tag htag
          split at h
          · rename_i k form hfound
            split at hfound
            · rename_i word
              exact ⟨⟨entries, rfl⟩, word, (k, form), htag, hfound,
                Checked.within_eq_good_iff.1 h⟩
            · cases hfound
          · cases h
      · rintro ⟨-, k, form, htag, hfound, ha⟩
        simp only [tagged, htag, hfound]
        exact Checked.within_eq_good_iff.2 ha
  | _ => exact ⟨nofun, fun ⟨⟨_, he⟩, _⟩ => nomatch he⟩

/-! ### Checking what was written -/

/-- A check that accepts just the data that stand for a value, where these values are sound and a
sound value can be written as a datum that stands for it. -/
structure RoundTrips (check : Check α) (datum : α → Datum) (Sound : α → Prop)
    (R : α → Datum → Prop) : Prop where
  reads : Reads check R
  sound : ∀ a d, R a d → Sound a
  written : ∀ a, Sound a → R a (datum a)
  /-- What is written has no number. -/
  plain : ∀ a, (datum a).opened = datum a

namespace RoundTrips

variable {datum : α → Datum} {Sound : α → Prop} {key : String} {as : List α} {d : Datum}

/-- Checking what is written for an accepted value gives the value again. -/
theorem check_datum (h : RoundTrips check datum Sound R) {a : α} (ha : check d = .good a) :
    check (datum a) = .good a := by
  have hsound : Sound a := h.sound a d ((h.reads d a).1 ha)
  exact (h.reads _ a).2 (h.written a hsound)

/-- The items of a field are sound. -/
theorem forall_mem (h : RoundTrips check datum Sound R) (hall : HoldsAll R key as d) :
    ∀ a ∈ as, Sound a :=
  hall.forall_mem h.sound

/-- Sound items are written in a field. -/
theorem holdsAll (h : RoundTrips check datum Sound R) (hall : ∀ a ∈ as, Sound a)
    (hfield : d.field? key = some (.list (as.map datum))) : HoldsAll R key as d := by
  refine .of_field? hfield ?_
  intro a ha
  rw [h.plain]
  exact h.written a (hall a ha)

end RoundTrips

end Check

end Conveyor
