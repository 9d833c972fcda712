/-
**The words of a text, and its parts between marks.**

A text is blanks and words by turns, in one way only: what cuts it at blanks finds the words of that
one way.  In the same manner a text is cut at all of its marks, and the blanks around it are dropped.

Main definitions:

* `Conveyor.Text.Surrounded` — a text with blanks around it;
* `Conveyor.Text.Separated` — a text that is words with blanks between and around them.

Main results:

* `Conveyor.Text.stripList_eq_iff`, `Conveyor.Text.strip_eq_iff` — **what stripping leaves is what the
  blanks surround**;
* `Conveyor.Text.wordsFrom_eq_iff`, `Conveyor.Text.words_eq_iff` — **the words that blanks separate
  are those that are found**;
* `Conveyor.splitOn_eq_iff` — what is cut at a mark is the parts with marks between them.
-/

import Mathlib.Data.List.Basic
import Mathlib.Data.List.TakeWhile
import Conveyor.Proofs.Files
import Conveyor.Text.Blank

set_option autoImplicit false

namespace Conveyor

/-! ### Parts between marks -/

theorem splitOn_eq_iff {x : Char} {cs : List Char} {pieces : List (List Char)} :
    cs.splitOn x = pieces ↔
      pieces ≠ [] ∧ (∀ piece ∈ pieces, x ∉ piece) ∧ [x].intercalate pieces = cs := by
  constructor
  · rintro rfl
    exact ⟨List.splitOn_ne_nil x cs, fun piece => not_mem_of_mem_splitOn,
      List.intercalate_splitOn x⟩
  · rintro ⟨hne, hpieces, rfl⟩
    exact List.splitOn_intercalate x hpieces hne

namespace Text

/-- A text of blanks only. -/
def IsGap (cs : List Char) : Prop := ∀ c ∈ cs, isBlank c = true

/-! ### Blanks around a text -/

/-- A text with blanks around it.  All of them are around it: it has none at its ends. -/
inductive Surrounded (core : List Char) : List Char → Prop
  | intro {front back : List Char} : IsGap front → (∀ c ∈ core.head?, isBlank c = false) →
      (∀ c ∈ core.getLast?, isBlank c = false) → IsGap back → Surrounded core (front ++ core ++ back)

section
variable {cs core gap : List Char}

theorem stripEnd_append (hgap : IsGap gap) (hlast : ∀ c ∈ cs.getLast?, isBlank c = false) :
    stripEnd (cs ++ gap) = cs := by
  have hrev : ∀ c ∈ gap.reverse, isBlank c = true := fun c hc => hgap c (List.mem_reverse.1 hc)
  rw [stripEnd, List.reverse_append, List.dropWhile_append_of_pos hrev,
    dropWhile_eq_self (by simpa using hlast), List.reverse_reverse]

/-- A text is what is left of it and the blanks that are dropped at its end. -/
theorem exists_gap_stripEnd (cs : List Char) : ∃ gap, IsGap gap ∧ cs = stripEnd cs ++ gap := by
  refine ⟨(cs.reverse.takeWhile isBlank).reverse, fun c hc => ?_, ?_⟩
  · exact List.mem_takeWhile_imp (List.mem_reverse.1 hc)
  · rw [stripEnd, ← List.reverse_append, List.takeWhile_append_dropWhile, List.reverse_reverse]

theorem getLast?_stripEnd (cs : List Char) : ∀ c ∈ (stripEnd cs).getLast?, isBlank c = false := by
  rw [stripEnd, List.getLast?_reverse]
  exact head?_dropWhile isBlank cs.reverse

theorem surrounded_stripList (cs : List Char) : Surrounded (stripList cs) cs := by
  obtain ⟨back, hback, hcs⟩ := exists_gap_stripEnd (cs.dropWhile isBlank)
  have hwhole : cs = cs.takeWhile isBlank ++ stripList cs ++ back := by
    rw [List.append_assoc, stripList, ← hcs, List.takeWhile_append_dropWhile]
  have hparts : Surrounded (stripList cs) (cs.takeWhile isBlank ++ stripList cs ++ back) :=
    .intro (fun _ hc => List.mem_takeWhile_imp hc) (head?_stripEnd (head?_dropWhile isBlank cs))
      (getLast?_stripEnd _) hback
  rwa [← hwhole] at hparts

theorem Surrounded.stripList_eq (h : Surrounded core cs) : stripList cs = core := by
  obtain ⟨hfront, hhead, hlast, hback⟩ := h
  rw [stripList, List.append_assoc, List.dropWhile_append_of_pos hfront]
  by_cases hnil : core = []
  · subst hnil
    rw [List.nil_append, List.dropWhile_eq_nil_iff.2 hback]
    rfl
  · rw [dropWhile_eq_self (by rwa [List.head?_append_of_ne_nil _ hnil]), stripEnd_append hback hlast]

/-- **What stripping leaves is what the blanks surround.** -/
theorem stripList_eq_iff : stripList cs = core ↔ Surrounded core cs :=
  ⟨fun h => h ▸ surrounded_stripList cs, Surrounded.stripList_eq⟩

theorem strip_eq_iff {s t : String} : strip s = t ↔ Surrounded t.toList s.toList := by
  rw [← stripList_eq_iff, strip, ← String.toList_inj, String.toList_ofList]

end

/-! ### Words between blanks -/

/-- A word: a text without blanks that is not empty. -/
structure IsWord (cs : List Char) : Prop where
  ne_nil : cs ≠ []
  solid : ∀ c ∈ cs, isBlank c = false

/-- A text that is words with blanks between and around them. -/
inductive Separated : List Char → List (List Char) → Prop
  | blank {gap : List Char} : IsGap gap → Separated gap []
  | last {gap word : List Char} : IsGap gap → IsWord word → Separated (gap ++ word) [word]
  | next {gap word cs : List Char} {c : Char} {ws : List (List Char)} :
      IsGap gap → IsWord word → isBlank c = true → Separated cs ws →
      Separated (gap ++ word ++ c :: cs) (word :: ws)

section
variable {cs gap word front : List Char} {c : Char} {ws : List (List Char)}

theorem IsGap.cons (hc : isBlank c = true) (h : IsGap gap) : IsGap (c :: gap) :=
  List.forall_mem_cons.2 ⟨hc, h⟩

/-- A blank in front of words. -/
theorem Separated.cons_blank (hc : isBlank c = true) (h : Separated cs ws) :
    Separated (c :: cs) ws := by
  cases h with
  | blank hgap => exact .blank (hgap.cons hc)
  | last hgap hword => exact .last (hgap.cons hc) hword
  | next hgap hword hd hrest => exact .next (hgap.cons hc) hword hd hrest

theorem wordsFrom_gap (h : IsGap gap) : wordsFrom [] (gap ++ cs) = wordsFrom [] cs := by
  induction gap with
  | nil => rfl
  | cons c gap ih =>
      obtain ⟨hc, hgap⟩ := List.forall_mem_cons.1 h
      rw [List.cons_append, wordsFrom, if_pos hc]
      exact ih hgap

theorem wordsFrom_solid (h : ∀ c ∈ word, isBlank c = false) :
    wordsFrom front (word ++ cs) = wordsFrom (word.reverse ++ front) cs := by
  induction word generalizing front with
  | nil => rfl
  | cons c word ih =>
      obtain ⟨hc, hword⟩ := List.forall_mem_cons.1 h
      rw [List.cons_append, wordsFrom, hc, if_neg Bool.false_ne_true, ih hword, List.reverse_cons,
        List.append_assoc]
      rfl

theorem wordsFrom_word (h : IsWord word) : wordsFrom [] word = [word] := by
  have hsolid : wordsFrom [] (word ++ []) = wordsFrom (word.reverse ++ []) [] :=
    wordsFrom_solid h.solid
  rw [List.append_nil] at hsolid
  rw [hsolid, wordsFrom, if_neg (by simpa using h.ne_nil)]
  simp

theorem wordsFrom_word_cons (h : IsWord word) (hc : isBlank c = true) :
    wordsFrom [] (word ++ c :: cs) = word :: wordsFrom [] cs := by
  rw [wordsFrom_solid h.solid, wordsFrom, if_pos hc, if_neg (by simpa using h.ne_nil)]
  simp

theorem Separated.wordsFrom_eq (h : Separated cs ws) : wordsFrom [] cs = ws := by
  induction h with
  | @blank gap hgap =>
      have hcut : wordsFrom [] (gap ++ []) = [] := wordsFrom_gap hgap
      rwa [List.append_nil] at hcut
  | last hgap hword => rw [wordsFrom_gap hgap, wordsFrom_word hword]
  | next hgap hword hc hrest ih =>
      rw [List.append_assoc, wordsFrom_gap hgap, wordsFrom_word_cons hword hc, ih]

theorem isWord_reverse (hne : ¬ front.isEmpty = true) (h : ∀ c ∈ front, isBlank c = false) :
    IsWord front.reverse :=
  ⟨by simpa using hne, fun c hc => h c (List.mem_reverse.1 hc)⟩

/-- The invariant of the cutting: `front` is the word that is under way, last character first. -/
theorem separated_wordsFrom (cs : List Char) {front : List Char}
    (h : ∀ c ∈ front, isBlank c = false) :
    Separated (front.reverse ++ cs) (wordsFrom front cs) := by
  have hnone : IsGap [] := List.forall_mem_nil _
  induction cs generalizing front with
  | nil =>
      rw [wordsFrom, List.append_nil]
      split
      · rename_i hempty
        rw [List.isEmpty_iff.1 hempty]
        exact .blank hnone
      · rename_i hne
        exact .last hnone (isWord_reverse hne h)
  | cons c cs ih =>
      have hrest : Separated cs (wordsFrom [] cs) := ih (List.forall_mem_nil _)
      rw [wordsFrom]
      split
      · rename_i hc
        split
        · rename_i hempty
          rw [List.isEmpty_iff.1 hempty]
          exact hrest.cons_blank hc
        · rename_i hne
          exact .next hnone (isWord_reverse hne h) hc hrest
      · rename_i hc
        have hfront : ∀ d ∈ c :: front, isBlank d = false :=
          List.forall_mem_cons.2 ⟨by simpa using hc, h⟩
        have hsplit : front.reverse ++ c :: cs = (c :: front).reverse ++ cs := by simp
        rw [hsplit]
        exact ih hfront

/-- **The words that blanks separate are those that are found.** -/
theorem wordsFrom_eq_iff : wordsFrom [] cs = ws ↔ Separated cs ws :=
  ⟨fun h => h ▸ separated_wordsFrom cs (List.forall_mem_nil _), Separated.wordsFrom_eq⟩

theorem words_eq_iff {s : String} {ws : List String} :
    words s = ws ↔ Separated s.toList (ws.map String.toList) := by
  rw [← wordsFrom_eq_iff, words]
  constructor
  · rintro rfl
    simp [Function.comp_def]
  · intro h
    rw [h]
    simp [Function.comp_def]

end

end Text

end Conveyor
