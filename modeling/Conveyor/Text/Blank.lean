/-
**Blank characters, and cutting a text at them.**

A character is blank when Unicode counts it as white space or as one of the four information
separators.  The zero-width space is not blank.

Main definitions:

* `Conveyor.Text.isBlank` — whether a character is blank;
* `Conveyor.Text.strip` — a text without the blanks at its two ends;
* `Conveyor.Text.words` — the maximal blank-free pieces of a text.

Main results:

* `Conveyor.Text.stripList_idem` — stripping twice is stripping once;
* `Conveyor.Text.allBlank_strip` — stripping a text does not make it blank.
-/

set_option autoImplicit false

namespace Conveyor.Text

/-- The blank characters, as increasing closed ranges of code points. -/
def blankRanges : List (Nat × Nat) := [
  (9, 13), (28, 32), (133, 133), (160, 160), (5760, 5760), (8192, 8202), (8232, 8233),
  (8239, 8239), (8287, 8287), (12288, 12288)]

/-- Whether a character is blank. -/
def isBlank (c : Char) : Bool :=
  blankRanges.any fun r => r.1 ≤ c.toNat && c.toNat ≤ r.2

/-- Drops the blanks at the end. -/
def stripEnd (cs : List Char) : List Char := (cs.reverse.dropWhile isBlank).reverse

/-- Drops the blanks at both ends. -/
def stripList (cs : List Char) : List Char := stripEnd (cs.dropWhile isBlank)

/-- A text without the blanks at its two ends. -/
def strip (s : String) : String := String.ofList (stripList s.toList)

/-- Whether a text has nothing but blanks. -/
def allBlank (s : String) : Bool := s.toList.all isBlank

/-- Cuts at blanks; `word` holds the characters of the current word, last one first. -/
def wordsFrom (word : List Char) : List Char → List (List Char)
  | [] => if word.isEmpty then [] else [word.reverse]
  | c :: cs =>
    if isBlank c then
      if word.isEmpty then wordsFrom [] cs else word.reverse :: wordsFrom [] cs
    else wordsFrom (c :: word) cs

/-- The maximal blank-free pieces of a text, in order. -/
def words (s : String) : List String := (wordsFrom [] s.toList).map String.ofList

/-! ### Laws of stripping -/

theorem dropWhile_eq_self {p : Char → Bool} {cs : List Char}
    (h : ∀ c ∈ cs.head?, p c = false) : cs.dropWhile p = cs := by
  cases cs with
  | nil => rfl
  | cons c cs => simp [List.dropWhile, h c (by simp)]

theorem head?_dropWhile (p : Char → Bool) (cs : List Char) :
    ∀ c ∈ (cs.dropWhile p).head?, p c = false := by
  induction cs with
  | nil => simp
  | cons d cs ih =>
      by_cases h : p d = true
      · simpa [List.dropWhile, h] using ih
      · simp only [Bool.not_eq_true] at h
        simp [List.dropWhile, h]

/-- The first character left by `stripEnd` is the first one before. -/
theorem head?_stripEnd {cs : List Char} (h : ∀ c ∈ cs.head?, isBlank c = false) :
    ∀ c ∈ (stripEnd cs).head?, isBlank c = false := by
  intro c hc
  have hsub : (stripEnd cs) <+: cs := by
    have hs : cs.reverse.dropWhile isBlank <:+ cs.reverse := List.dropWhile_suffix isBlank
    rw [stripEnd, ← List.reverse_suffix, List.reverse_reverse]
    exact hs
  obtain ⟨t, ht⟩ := hsub
  cases hs : stripEnd cs with
  | nil => simp [hs] at hc
  | cons d ds =>
      simp only [hs, List.head?_cons, Option.mem_def, Option.some.injEq] at hc
      subst hc
      rw [hs] at ht
      subst ht
      exact h d (by simp)

theorem stripEnd_idem (cs : List Char) : stripEnd (stripEnd cs) = stripEnd cs := by
  unfold stripEnd
  rw [List.reverse_reverse, dropWhile_eq_self (head?_dropWhile isBlank cs.reverse)]

/-- Stripping twice is stripping once. -/
theorem stripList_idem (cs : List Char) : stripList (stripList cs) = stripList cs := by
  unfold stripList
  rw [dropWhile_eq_self (head?_stripEnd (head?_dropWhile isBlank cs)), stripEnd_idem]

theorem all_dropWhile (p : Char → Bool) (cs : List Char) : (cs.dropWhile p).all p = cs.all p := by
  induction cs with
  | nil => rfl
  | cons c cs ih =>
      cases hc : p c with
      | true => rw [List.dropWhile_cons_of_pos hc, List.all_cons, hc, Bool.true_and, ih]
      | false => rw [List.dropWhile_cons_of_neg (Bool.eq_false_iff.1 hc)]

/-- Without the blanks at its ends a text is blank just if it was. -/
theorem allBlank_strip (s : String) : allBlank (strip s) = allBlank s := by
  rw [allBlank, strip, String.toList_ofList, stripList, stripEnd, List.all_reverse, all_dropWhile,
    List.all_reverse, all_dropWhile, allBlank]

theorem strip_idem (s : String) : strip (strip s) = strip s := by
  rw [strip, strip, String.toList_ofList, stripList_idem]

end Conveyor.Text
