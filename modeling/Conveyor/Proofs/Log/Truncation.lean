/-
**What the log cuts.**

A text of an event that is longer than a limit is cut at the limit, and a mark is put at its end.  So it
is longer than the limit once more, and cutting it again takes away the mark and puts it back.  Texts
are looked for in mappings and sequences at any depth, and nothing but texts is changed.

Main definitions:

* `Conveyor.Log.IsCut` — what may be left of the code points of a text;
* `Conveyor.Log.Shortened`, `Conveyor.Log.EntriesShortened` — data and entries that differ only in
  texts that were cut.

Main results:

* `Conveyor.Log.codePoints?_ofCodePoints` — a text of code points has these code points;
* `Conveyor.Log.exists_shortened` — the long texts of a datum are cut;
* `Conveyor.Log.truncateDatum_of_shortened` — what was cut stays as it is;
* `Conveyor.Log.truncate_shortens` — **long texts are cut, all else stays, and cutting twice is cutting
  once**.
-/

import Conveyor.Log.Redact

set_option autoImplicit false

namespace Conveyor

/-! ### Texts and their code points -/

theorem Text.toNat_of_charOf? {n : Nat} {c : Char} (h : charOf? n = some c) : c.toNat = n := by
  unfold charOf? at h
  split at h
  · rename_i hvalid
    cases h
    rw [Char.ofNat, dif_pos hvalid]
    rfl
  · cases h

/-- A text that is made of code points has these code points. -/
theorem Text.toNat_of_ofCodes? {cs : List Nat} {s : String} (h : ofCodes? cs = some s) :
    s.toList.map Char.toNat = cs := by
  obtain ⟨chars, hchars, hs⟩ := Option.map_eq_some_iff.1 h
  rw [← hs, String.toList_ofList]
  clear h hs
  induction cs generalizing chars with
  | nil =>
      cases hchars
      rfl
  | cons n cs ih =>
      simp only [List.mapM_cons, Option.bind_eq_bind, Option.bind_eq_some_iff] at hchars
      obtain ⟨c, hc, rest, hrest, hcons⟩ := hchars
      cases hcons
      rw [List.map_cons, toNat_of_charOf? hc, ih rest hrest]

namespace Log

variable {max : Nat} {cs cs' : List Nat} {d d' : Datum}

/-- A text of code points has these code points. -/
theorem codePoints?_ofCodePoints (cs : List Nat) : codePoints? (ofCodePoints cs) = some cs := by
  unfold ofCodePoints
  split
  · rename_i s hs
    exact congrArg some (Text.toNat_of_ofCodes? hs)
  · rfl

/-- What may be left of the code points of a text: all of them if there are few enough, and otherwise
the first of them and the mark. -/
structure IsCut (max : Nat) (cs cs' : List Nat) : Prop where
  short : cs.length ≤ max → cs' = cs
  long : max < cs.length → cs' = cs.take max ++ cutMark
  bounded : cs'.length ≤ max + 15
  front : cs'.take max = cs.take max

/-- The code points of a text, cut at a limit. -/
def cut (max : Nat) (cs : List Nat) : List Nat :=
  if max < cs.length then cs.take max ++ cutMark else cs

theorem length_cutMark : cutMark.length = 15 := by decide

theorem take_cut (max : Nat) (cs : List Nat) : (cut max cs).take max = cs.take max := by
  unfold cut
  split
  · rename_i hlong
    exact List.take_left' (by rw [List.length_take]; omega)
  · rfl

theorem isCut_cut (max : Nat) (cs : List Nat) : IsCut max cs (cut max cs) where
  short h := if_neg (Nat.not_lt.2 h)
  long h := if_pos h
  bounded := by
    unfold cut
    split
    · rw [List.length_append, List.length_take, length_cutMark]
      omega
    · omega
  front := take_cut max cs

/-- A text that was cut is too long once more, and cutting it takes the mark away and puts it back. -/
theorem cut_cut (max : Nat) (cs : List Nat) : cut max (cut max cs) = cut max cs := by
  by_cases hlong : max < cs.length
  · have hcut : cut max cs = cs.take max ++ cutMark := if_pos hlong
    have hstill : max < (cut max cs).length := by
      rw [hcut, List.length_append, List.length_take, length_cutMark]
      omega
    rw [cut, if_pos hstill, take_cut, hcut]
  · have hcut : cut max cs = cs := if_neg hlong
    rw [hcut, hcut]

/-! ### One text -/

/-- Whole numbers are limits, and a text is cut at them. -/
theorem truncateText_int (max : Nat) (d : Datum) (cs : List Nat) :
    truncateText (.int max) d cs =
      .ok (if max < cs.length then ofCodePoints (cut max cs) else d) := by
  unfold truncateText exceeds cutAt frontOf cut
  by_cases hlong : max < cs.length
  · simp only [Int.ofNat_lt, hlong, decide_true, if_true, Int.natCast_nonneg, Int.toNat_natCast]
    rfl
  · simp only [Int.ofNat_lt, hlong, decide_false, if_false]
    rfl

theorem truncateDatum_of_text {limit : Datum} (h : codePoints? d = some cs) :
    truncateDatum limit d = truncateText limit d cs := by
  cases d with
  | text | codes =>
      cases h
      rfl
  | _ => cases h

/-- What is no text and holds no other data stays as it is. -/
theorem truncateDatum_of_other {limit : Datum} (htext : codePoints? d = none)
    (hlist : ∀ items, d ≠ .list items) (hdict : ∀ es, d ≠ .dict es) :
    truncateDatum limit d = .ok d := by
  cases d with
  | list items => exact absurd rfl (hlist items)
  | dict es => exact absurd rfl (hdict es)
  | text | codes => cases htext
  | _ => rfl

/-! ### Texts at any depth -/

mutual

/-- Data that differ only in texts that were cut, at any depth of mappings and sequences. -/
inductive Shortened (max : Nat) : Datum → Datum → Prop
  | text {d d' : Datum} {cs cs' : List Nat} (before : codePoints? d = some cs)
      (after : codePoints? d' = some cs') (cut : IsCut max cs cs')
      (short : cs.length ≤ max → d' = d) (long : max < cs.length → d' = ofCodePoints cs') :
      Shortened max d d'
  | list {items items' : List Datum} : ItemsShortened max items items' →
      Shortened max (.list items) (.list items')
  | dict {es es' : List (Datum × Datum)} : EntriesShortened max es es' →
      Shortened max (.dict es) (.dict es')
  | other {d : Datum} (text : codePoints? d = none) (list : ∀ items, d ≠ .list items)
      (dict : ∀ es, d ≠ .dict es) : Shortened max d d

/-- Items that differ only in texts that were cut. -/
inductive ItemsShortened (max : Nat) : List Datum → List Datum → Prop
  | nil : ItemsShortened max [] []
  | cons {d d' : Datum} {items items' : List Datum} : Shortened max d d' →
      ItemsShortened max items items' → ItemsShortened max (d :: items) (d' :: items')

/-- Entries that differ only in texts that were cut; the keys are the same. -/
inductive EntriesShortened (max : Nat) : List (Datum × Datum) → List (Datum × Datum) → Prop
  | nil : EntriesShortened max [] []
  | cons {k v v' : Datum} {es es' : List (Datum × Datum)} : Shortened max v v' →
      EntriesShortened max es es' → EntriesShortened max ((k, v) :: es) ((k, v') :: es')

end

theorem EntriesShortened.map_fst {es es' : List (Datum × Datum)} (h : EntriesShortened max es es') :
    es'.map Prod.fst = es.map Prod.fst := by
  induction es generalizing es' with
  | nil =>
      cases h
      rfl
  | cons e es ih =>
      cases h with
      | cons _ hrest => rw [List.map_cons, List.map_cons, ih hrest]

/-! ### Long texts are cut -/

/-- A text is cut when it is too long. -/
theorem exists_shortened_text (max : Nat) (h : codePoints? d = some cs) :
    ∃ d', truncateDatum (.int max) d = .ok d' ∧ Shortened max d d' := by
  rw [truncateDatum_of_text h, truncateText_int]
  refine ⟨_, rfl, ?_⟩
  split
  · rename_i hlong
    exact .text h (codePoints?_ofCodePoints _) (isCut_cut max cs) (fun hshort => by omega)
      fun _ => rfl
  · rename_i hshort
    have hcut : cut max cs = cs := if_neg hshort
    have hleft : IsCut max cs cs := by simpa only [hcut] using isCut_cut max cs
    exact .text h h hleft (fun _ => rfl) fun hlong => absurd hlong hshort

mutual

/-- The long texts of a datum are cut, and all else stays. -/
theorem exists_shortened (max : Nat) (d : Datum) :
    ∃ d', truncateDatum (.int max) d = .ok d' ∧ Shortened max d d' := by
  cases d with
  | text s => exact exists_shortened_text max rfl
  | codes cs => exact exists_shortened_text max rfl
  | list items =>
      obtain ⟨items', h, hshortened⟩ := exists_itemsShortened max items
      exact ⟨.list items', by rw [truncateDatum, h]; rfl, .list hshortened⟩
  | dict es =>
      obtain ⟨es', h, hshortened⟩ := exists_entriesShortened max es
      exact ⟨.dict es', by rw [truncateDatum, h]; rfl, .dict hshortened⟩
  | _ => exact ⟨_, rfl, .other rfl (fun _ h => nomatch h) fun _ h => nomatch h⟩

/-- So it goes with the items of a sequence. -/
theorem exists_itemsShortened (max : Nat) (items : List Datum) :
    ∃ items', truncateItems (.int max) items = .ok items' ∧ ItemsShortened max items items' := by
  cases items with
  | nil => exact ⟨[], rfl, .nil⟩
  | cons d items =>
      obtain ⟨d', hd, hshortened⟩ := exists_shortened max d
      obtain ⟨items', hitems, hrest⟩ := exists_itemsShortened max items
      exact ⟨d' :: items', by rw [truncateItems, hd, hitems]; rfl, .cons hshortened hrest⟩

/-- So it goes with the entries of a mapping. -/
theorem exists_entriesShortened (max : Nat) (es : List (Datum × Datum)) :
    ∃ es', truncate (.int max) es = .ok es' ∧ EntriesShortened max es es' := by
  cases es with
  | nil => exact ⟨[], rfl, .nil⟩
  | cons e es =>
      obtain ⟨k, v⟩ := e
      obtain ⟨v', hv, hshortened⟩ := exists_shortened max v
      obtain ⟨es', hes, hrest⟩ := exists_entriesShortened max es
      exact ⟨(k, v') :: es', by rw [truncate, hv, hes]; rfl, .cons hshortened hrest⟩

end

/-! ### What was cut stays as it is -/

/-- A text that was cut, or was short enough, stays as it is. -/
theorem truncateDatum_of_isCut (hafter : codePoints? d' = some cs') (hcut : IsCut max cs cs')
    (hlong : max < cs.length → d' = ofCodePoints cs') :
    truncateDatum (.int max) d' = .ok d' := by
  rw [truncateDatum_of_text hafter, truncateText_int]
  by_cases h : max < cs.length
  · -- the mark makes the text too long again, and it is put back after the same front
    have hcs : cs' = cut max cs := (hcut.long h).trans (if_pos h).symm
    rw [hcs, cut_cut, ← hcs, ← hlong h, ite_self]
  · have hcs : cs' = cs := hcut.short (by omega)
    rw [if_neg (hcs ▸ h)]

mutual

/-- What was shortened stays as it is. -/
theorem truncateDatum_of_shortened {d d' : Datum} (h : Shortened max d d') :
    truncateDatum (.int max) d' = .ok d' := by
  cases h with
  | text _ hafter hcut _ hlong => exact truncateDatum_of_isCut hafter hcut hlong
  | list hitems =>
      rw [truncateDatum, truncateItems_of_shortened hitems]
      rfl
  | dict hes =>
      rw [truncateDatum, truncate_of_shortened hes]
      rfl
  | other htext hlist hdict => exact truncateDatum_of_other htext hlist hdict

/-- So do the items of a sequence. -/
theorem truncateItems_of_shortened {items items' : List Datum}
    (h : ItemsShortened max items items') :
    truncateItems (.int max) items' = .ok items' := by
  cases h with
  | nil => rfl
  | cons hd hrest =>
      rw [truncateItems, truncateDatum_of_shortened hd, truncateItems_of_shortened hrest]
      rfl

/-- So do the entries of a mapping. -/
theorem truncate_of_shortened {es es' : List (Datum × Datum)} (h : EntriesShortened max es es') :
    truncate (.int max) es' = .ok es' := by
  cases h with
  | nil => rfl
  | cons hv hrest =>
      rw [truncate, truncateDatum_of_shortened hv, truncate_of_shortened hrest]
      rfl

end

/-- **Long texts are cut, all else stays, and cutting twice is cutting once.**  Whatever an event holds
and whatever number is the limit: its keys, its sequences and all that is no text are the same
afterwards; a text within the limit is the same, and of a longer one its front is left with the mark;
and to cut the event once more changes nothing. -/
theorem truncate_shortens (max : Nat) (es : List (Datum × Datum)) :
    ∃ es', truncate (.int max) es = .ok es' ∧ es'.map Prod.fst = es.map Prod.fst ∧
      EntriesShortened max es es' ∧ truncate (.int max) es' = .ok es' := by
  obtain ⟨es', h, hshortened⟩ := exists_entriesShortened max es
  exact ⟨es', h, hshortened.map_fst, hshortened, truncate_of_shortened hshortened⟩

example : (truncate (.int 2) [(.text "output", .list [.text "ab", .text "abc", .int 7])]).toOption =
    some [(.text "output", .list [.text "ab", .text "ab... [TRUNCATED]", .int 7])] := rfl

end Log

end Conveyor
