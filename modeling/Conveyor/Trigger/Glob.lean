/-
**Globs: patterns for refs.**

A star stands for any characters, also for none, a question mark for one character, and a set in
brackets for one of its characters.  A range of a set runs from the character before its dash to the
one after it; a range that runs backwards is dropped with its ends.  A bracket that is not closed
stands for itself.

Main definitions:

* `Conveyor.Glob.Piece` — the pieces of a pattern;
* `Conveyor.Glob.pieces` — the pieces that a text writes;
* `Conveyor.Glob.Reads` — what texts a row of pieces reads;
* `Conveyor.Glob.matchesText` — whether a text is read.

Main results:

* `Conveyor.Glob.reads_iff` — the test decides the relation.
-/

set_option autoImplicit false

namespace Conveyor.Glob

/-- A piece of a pattern. -/
inductive Piece where
  | char (c : Char)
  | one
  | many
  /-- One character that is in one of the ranges, or, if negated, in none of them. -/
  | set (negated : Bool) (ranges : List (Char × Char))
  deriving DecidableEq, Repr

/-- Whether a character is in one of some ranges. -/
def inRanges (ranges : List (Char × Char)) (c : Char) : Bool :=
  ranges.any fun r => r.1 ≤ c && c ≤ r.2

/-- Whether a piece that stands for one character stands for this one. -/
def Piece.accepts : Piece → Char → Bool
  | .char c, x => c == x
  | .one, _ => true
  | .many, _ => false
  | .set negated ranges, x => inRanges ranges x != negated

/-! ### Sets -/

/-- Cuts at dashes; a dash among the first `off` characters does not cut. -/
def cutDashes : Nat → Nat → List Char → List (List Char)
  | 0, _, cs => [cs]
  | fuel + 1, off, cs =>
    let n := (cs.drop off).findIdx (· == '-')
    if off + n < cs.length then cs.take (off + n) :: cutDashes fuel 2 (cs.drop (off + n + 1))
    else [cs]

/-- A last chunk with nothing in it gives its dash back to the chunk before. -/
def returnDash : List (List Char) → List (List Char)
  | [c, []] => [c ++ ['-']]
  | c :: rest => c :: returnDash rest
  | [] => []

/-- Drops the ends of ranges that run backwards and joins the chunks around them. -/
def dropBackward : List (List Char) → List (List Char)
  | [] => []
  | c :: rest =>
    match dropBackward rest with
    | [] => [c]
    | d :: ds =>
      match c.getLast?, d.head? with
      | some x, some y => if y < x then (c.dropLast ++ d.tail) :: ds else c :: d :: ds
      | _, _ => c :: d :: ds

/-- The ranges between and in chunks.  `first` says that no chunk stands before. -/
def chunkRanges (first : Bool) : List (List Char) → List (Char × Char)
  | [] => []
  | [c] => (if first then c else c.tail).map fun x => (x, x)
  | c :: d :: rest =>
    let inner := (if first then c else c.tail).dropLast
    let across := match c.getLast?, d.head? with
      | some x, some y => [(x, y)]
      | _, _ => []
    inner.map (fun x => (x, x)) ++ across ++ chunkRanges false (d :: rest)

/-- The set that the text between two brackets writes. -/
def setOf (body : List Char) : Piece :=
  let off := if body.head? == some '!' then 2 else 1
  let chunks := dropBackward (returnDash (cutDashes body.length off body))
  match chunks with
  | ('!' :: c) :: rest =>
    match c, rest with
    | [], d :: ds => .set true (chunkRanges true (('-' :: d) :: ds))
    | c, rest => .set true (chunkRanges true (c :: rest))
  | chunks => .set false (chunkRanges true chunks)

/-- The text of a set and what follows it, if the set is closed.  A closing bracket at the very
front belongs to the set. -/
def setBody? (cs : List Char) : Option (List Char × List Char) :=
  let (front, cs) := match cs with
    | '!' :: ']' :: rest => (['!', ']'], rest)
    | '!' :: rest => (['!'], rest)
    | ']' :: rest => ([']'], rest)
    | rest => ([], rest)
  match cs.span (· != ']') with
  | (body, _ :: rest) => some (front ++ body, rest)
  | (_, []) => none

/-- The pieces that a text writes. -/
def piecesFrom : Nat → List Char → List Piece
  | 0, _ => []
  | _ + 1, [] => []
  | fuel + 1, c :: cs =>
    if c = '*' then .many :: piecesFrom fuel cs
    else if c = '?' then .one :: piecesFrom fuel cs
    else if c = '[' then
      match setBody? cs with
      | some (body, rest) => setOf body :: piecesFrom fuel rest
      | none => .char '[' :: piecesFrom fuel cs
    else .char c :: piecesFrom fuel cs

/-- The pieces of a pattern. -/
def pieces (pattern : String) : List Piece :=
  piecesFrom pattern.toList.length pattern.toList

/-! ### Matching -/

/-- What texts a row of pieces reads. -/
inductive Reads : List Piece → List Char → Prop where
  | done : Reads [] []
  | one {p : Piece} {ps : List Piece} {c : Char} {cs : List Char} :
      p.accepts c = true → Reads ps cs → Reads (p :: ps) (c :: cs)
  | none {ps : List Piece} {cs : List Char} : Reads ps cs → Reads (.many :: ps) cs
  | more {ps : List Piece} {c : Char} {cs : List Char} :
      Reads (.many :: ps) cs → Reads (.many :: ps) (c :: cs)

/-- Whether some place from here on is marked, for each place. -/
def anyFrom : List Bool → List Bool
  | [] => []
  | b :: bs =>
    let rest := anyFrom bs
    (b || rest.headD false) :: rest

/-- Which suffixes of a text a row of pieces reads, the text itself first and the empty one last. -/
def suffixes (cs : List Char) : List Piece → List Bool
  | [] => cs.map (fun _ => false) ++ [true]
  | .many :: ps => anyFrom (suffixes cs ps)
  | p :: ps => List.zipWith (fun c b => p.accepts c && b) cs (suffixes cs ps).tail ++ [false]

/-- Whether a row of pieces reads a text. -/
def matchesList (ps : List Piece) (cs : List Char) : Bool := (suffixes cs ps).headD false

/-- Whether a pattern reads a text. -/
def matchesText (pattern text : String) : Bool := matchesList (pieces pattern) text.toList

/-! ### The test decides the relation -/

theorem length_anyFrom (bs : List Bool) : (anyFrom bs).length = bs.length := by
  induction bs with
  | nil => rfl
  | cons b bs ih => simp [anyFrom, ih]

theorem length_suffixes (cs : List Char) (ps : List Piece) :
    (suffixes cs ps).length = cs.length + 1 := by
  induction ps with
  | nil => simp [suffixes]
  | cons p ps ih => cases p <;> simp [suffixes, length_anyFrom, ih]

/-- Without its first character, a text has the same suffixes except itself. -/
theorem suffixes_cons (c : Char) (cs : List Char) (ps : List Piece) :
    (suffixes (c :: cs) ps).tail = suffixes cs ps := by
  induction ps with
  | nil => simp [suffixes]
  | cons p ps ih =>
      have hne : suffixes (c :: cs) ps ≠ [] := by
        intro h
        have := length_suffixes (c :: cs) ps
        simp [h] at this
      obtain ⟨b, bs, hbs⟩ := List.exists_cons_of_ne_nil hne
      have htail : bs = suffixes cs ps := by simpa [hbs] using ih
      have hne' : suffixes cs ps ≠ [] := by
        intro h
        have := length_suffixes cs ps
        simp [h] at this
      obtain ⟨b', bs', hbs'⟩ := List.exists_cons_of_ne_nil hne'
      cases p <;> simp [suffixes, hbs, anyFrom, htail, hbs']

theorem reads_cons_cons_iff {p : Piece} {ps : List Piece} {c : Char} {cs : List Char}
    (hp : p ≠ .many) : Reads (p :: ps) (c :: cs) ↔ p.accepts c = true ∧ Reads ps cs := by
  constructor
  · intro h
    cases h with
    | one h₁ h₂ => exact ⟨h₁, h₂⟩
    | none _ => exact absurd rfl hp
    | more _ => exact absurd rfl hp
  · rintro ⟨h₁, h₂⟩
    exact .one h₁ h₂

theorem not_reads_cons_nil {p : Piece} {ps : List Piece} (hp : p ≠ .many) :
    ¬ Reads (p :: ps) [] := by
  intro h
  cases h with
  | none _ => exact hp rfl

theorem reads_many_nil_iff {ps : List Piece} : Reads (.many :: ps) [] ↔ Reads ps [] := by
  constructor
  · intro h
    cases h with
    | none h => exact h
  · exact .none

theorem reads_many_cons_iff {ps : List Piece} {c : Char} {cs : List Char} :
    Reads (.many :: ps) (c :: cs) ↔ Reads ps (c :: cs) ∨ Reads (.many :: ps) cs := by
  constructor
  · intro h
    cases h with
    | one h _ => simp [Piece.accepts] at h
    | none h => exact .inl h
    | more h => exact .inr h
  · rintro (h | h)
    · exact .none h
    · exact .more h

theorem suffixes_many (cs : List Char) (ps : List Piece) :
    suffixes cs (.many :: ps) = anyFrom (suffixes cs ps) := rfl

theorem suffixes_single {p : Piece} (hp : p ≠ .many) (cs : List Char) (ps : List Piece) :
    suffixes cs (p :: ps) =
      List.zipWith (fun c b => p.accepts c && b) cs (suffixes cs ps).tail ++ [false] := by
  cases p <;> first | rfl | exact absurd rfl hp

/-- The test decides the relation. -/
theorem reads_iff (ps : List Piece) (cs : List Char) :
    matchesList ps cs = true ↔ Reads ps cs := by
  induction ps generalizing cs with
  | nil =>
      cases cs with
      | nil => simp [matchesList, suffixes, Reads.done]
      | cons c cs =>
          have : ¬ Reads [] (c :: cs) := fun h => by cases h
          simp [matchesList, suffixes, this]
  | cons p ps ih =>
      by_cases hp : p = .many
      · subst hp
        induction cs with
        | nil =>
            rw [reads_many_nil_iff, ← ih]
            have hl := length_suffixes [] ps
            obtain ⟨b, hb⟩ := List.length_eq_one_iff.1 hl
            simp [matchesList, suffixes_many, hb, anyFrom]
        | cons c cs ihc =>
            rw [reads_many_cons_iff, ← ih, ← ihc]
            have hl := length_suffixes (c :: cs) ps
            have ht := suffixes_cons c cs ps
            cases hs : suffixes (c :: cs) ps with
            | nil => simp [hs] at hl
            | cons b bs =>
                rw [hs] at ht
                simp only [List.tail_cons] at ht
                simp [matchesList, suffixes_many, hs, anyFrom, ht]
      · cases cs with
        | nil =>
            simp [matchesList, suffixes_single hp, not_reads_cons_nil hp]
        | cons c cs =>
            rw [reads_cons_cons_iff hp, ← ih]
            have hl := length_suffixes cs ps
            cases hs : suffixes cs ps with
            | nil => simp [hs] at hl
            | cons b bs =>
                simp [matchesList, suffixes_single hp, suffixes_cons, hs]

end Conveyor.Glob
