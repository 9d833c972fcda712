/-
**What a pattern reads, part by part.**

A pattern reads the texts that can be cut into parts, one for each of its pieces: any part for a star,
and one character that is accepted for every other piece.  Without sets a pattern has one piece for each
of its characters, so that its texts can be told without reading it.

Main definitions:

* `Conveyor.Glob.Piece.Takes` — the parts that a piece stands for;
* `Conveyor.Glob.StandsFor` — the parts that a character of a pattern without sets stands for;
* `Conveyor.Glob.Cuts` — the texts that can be cut along the characters of a pattern;
* `Conveyor.Glob.IsLiteral` — a pattern that stands for itself.

Main results:

* `Conveyor.Glob.reads_iff_exists_parts` — a row of pieces reads what can be cut along it;
* `Conveyor.Glob.matchesText_iff_cuts` — **a pattern without sets reads what can be cut along it**;
* `Conveyor.Glob.matchesText_iff_eq` — a literal pattern reads itself and nothing else.
-/

import Mathlib.Data.List.Forall2
import Conveyor.Trigger.Glob

set_option autoImplicit false

namespace Conveyor.Glob

/-! ### Pieces and parts -/

/-- The parts that a piece stands for: any part, or one character that it accepts. -/
def Piece.Takes (p : Piece) (part : List Char) : Prop :=
  p = .many ∨ ∃ c, part = [c] ∧ p.accepts c = true

variable {p : Piece} {ps : List Piece} {c : Char} {cs part : List Char} {pattern text : String}

theorem takes_many : Piece.Takes .many part := .inl rfl

theorem takes_iff_of_ne_many (h : p ≠ .many) :
    p.Takes part ↔ ∃ c, part = [c] ∧ p.accepts c = true :=
  or_iff_right h

/-- A star reads whatever stands before that which the other pieces read. -/
theorem Reads.many_append (h : Reads ps cs) (part : List Char) :
    Reads (.many :: ps) (part ++ cs) := by
  induction part with
  | nil => exact .none h
  | cons c part ih => exact .more ih

/-- A row of pieces reads the texts that can be cut into parts for each of them. -/
theorem reads_iff_exists_parts :
    Reads ps cs ↔ ∃ parts, List.Forall₂ Piece.Takes ps parts ∧ parts.flatten = cs := by
  constructor
  · intro h
    induction h with
    | done => exact ⟨[], .nil, rfl⟩
    | one hc _ ih =>
        obtain ⟨parts, hparts, rfl⟩ := ih
        exact ⟨_ :: parts, .cons (.inr ⟨_, rfl, hc⟩) hparts, rfl⟩
    | none _ ih =>
        obtain ⟨parts, hparts, rfl⟩ := ih
        exact ⟨[] :: parts, .cons takes_many hparts, rfl⟩
    | @more ps c cs _ ih =>
        -- the star that goes on takes one character more
        obtain ⟨parts, hparts, rfl⟩ := ih
        cases hparts with
        | @cons _ part _ parts _ hrest => exact ⟨(c :: part) :: parts, .cons takes_many hrest, rfl⟩
  · rintro ⟨parts, hparts, rfl⟩
    induction hparts with
    | nil => exact .done
    | @cons p part ps parts hpart _ ih =>
        by_cases hmany : p = .many
        · subst hmany
          exact ih.many_append part
        · obtain ⟨c, rfl, hc⟩ := (takes_iff_of_ne_many hmany).1 hpart
          exact .one hc ih

/-! ### Patterns without sets -/

/-- The parts that a character of a pattern without sets stands for: a star for any part, a question mark
for one character, and every other character for itself. -/
inductive StandsFor : Char → List Char → Prop
  | star (part : List Char) : StandsFor '*' part
  | question (c : Char) : StandsFor '?' [c]
  | itself {c : Char} (star : c ≠ '*') (question : c ≠ '?') : StandsFor c [c]

/-- The texts that can be cut into parts, one for each character of a pattern. -/
def Cuts (pattern text : String) : Prop :=
  ∃ parts, List.Forall₂ StandsFor pattern.toList parts ∧ parts.flatten = text.toList

/-- The piece that a character writes outside of sets. -/
def pieceOf (c : Char) : Piece := if c = '*' then .many else if c = '?' then .one else .char c

theorem takes_pieceOf_iff : (pieceOf c).Takes part ↔ StandsFor c part := by
  unfold pieceOf
  split
  · rename_i hstar
    subst hstar
    exact ⟨fun _ => .star part, fun _ => takes_many⟩
  · rename_i hstar
    split
    · rename_i hquestion
      subst hquestion
      rw [takes_iff_of_ne_many (by decide)]
      constructor
      · rintro ⟨x, rfl, -⟩
        exact .question x
      · intro h
        cases h with
        | question x => exact ⟨x, rfl, rfl⟩
        | itself _ hquestion => exact absurd rfl hquestion
    · rename_i hquestion
      rw [takes_iff_of_ne_many (by simp)]
      constructor
      · rintro ⟨x, rfl, hx⟩
        obtain rfl : c = x := by simpa [Piece.accepts] using hx
        exact .itself hstar hquestion
      · intro h
        cases h with
        | star => exact absurd rfl hstar
        | question => exact absurd rfl hquestion
        | itself => exact ⟨c, rfl, by simp [Piece.accepts]⟩

theorem piecesFrom_eq_map {fuel : Nat} (hset : '[' ∉ cs) (hfuel : cs.length ≤ fuel) :
    piecesFrom fuel cs = cs.map pieceOf := by
  induction cs generalizing fuel with
  | nil => cases fuel <;> rfl
  | cons c cs ih =>
      obtain ⟨hc, hcs⟩ := not_or.1 (mt List.mem_cons.2 hset)
      cases fuel with
      | zero => simp at hfuel
      | succ fuel =>
          have hrest := ih hcs (Nat.le_of_succ_le_succ hfuel)
          simp only [piecesFrom, List.map_cons, pieceOf, hrest, if_neg (Ne.symm hc)]
          split
          · rfl
          · split <;> rfl

/-- A pattern without sets has one piece for each of its characters. -/
theorem pieces_eq_map (h : '[' ∉ pattern.toList) : pieces pattern = pattern.toList.map pieceOf :=
  piecesFrom_eq_map h (Nat.le_refl _)

/-- A pattern without sets reads just the texts that can be cut along its characters. -/
theorem matchesText_iff_cuts (h : '[' ∉ pattern.toList) :
    matchesText pattern text = true ↔ Cuts pattern text := by
  rw [matchesText, reads_iff, reads_iff_exists_parts, pieces_eq_map h]
  simp only [List.forall₂_map_left_iff, takes_pieceOf_iff, Cuts]

/-! ### Literal patterns -/

/-- A pattern none of whose characters stands for anything but itself. -/
def IsLiteral (pattern : String) : Prop := ∀ c ∈ pattern.toList, c ∉ ['*', '?', '[']

instance (pattern : String) : Decidable (IsLiteral pattern) :=
  List.decidableBAll (fun c => c ∉ ['*', '?', '[']) pattern.toList

theorem flatten_eq_of_literal {parts : List (List Char)} (hcs : ∀ c ∈ cs, c ∉ ['*', '?', '['])
    (h : List.Forall₂ StandsFor cs parts) : parts.flatten = cs := by
  induction h with
  | nil => rfl
  | @cons c part cs parts hpart _ ih =>
      have hrest := ih fun d hd => hcs d (List.mem_cons_of_mem _ hd)
      have hc : c ∉ ['*', '?', '['] := hcs c (List.mem_cons_self ..)
      cases hpart with
      | star => simp at hc
      | question => simp at hc
      | itself => rw [List.flatten_cons, hrest, List.singleton_append]

theorem IsLiteral.cuts (h : IsLiteral pattern) : Cuts pattern pattern := by
  have hparts : List.Forall₂ StandsFor pattern.toList (pattern.toList.map fun c => [c]) := by
    rw [List.forall₂_map_right_iff, List.forall₂_same]
    intro c hc
    have hplain := h c hc
    simp only [List.mem_cons, List.not_mem_nil, or_false, not_or] at hplain
    exact .itself hplain.1 hplain.2.1
  exact ⟨_, hparts, flatten_eq_of_literal h hparts⟩

/-- A literal pattern reads itself and nothing else. -/
theorem matchesText_iff_eq (h : IsLiteral pattern) :
    matchesText pattern text = true ↔ text = pattern := by
  have hset : '[' ∉ pattern.toList := fun hmem => h '[' hmem (by simp)
  rw [matchesText_iff_cuts hset]
  constructor
  · rintro ⟨parts, hparts, htext⟩
    exact String.toList_inj.1 (htext.symm.trans (flatten_eq_of_literal h hparts))
  · rintro rfl
    exact h.cuts

end Conveyor.Glob
