/-
**Patterns for texts and for the names of files.**

A star stands for any characters, also for none, a question mark for one character, and a set in
brackets for one of its characters.  A set holds characters, ranges and classes with names; a
bracket that is not closed stands for itself, and so does every character that is quoted.

Main definitions:

* `Conveyor.Shell.Pattern` — patterns, and what they match;
* `Conveyor.Shell.Pattern.ofLetters` — the pattern that letters write;
* `Conveyor.Shell.Pattern.trim` — a text without a part that a pattern matches.
-/

set_option autoImplicit false

namespace Conveyor.Shell

/-- A letter of a text, with whether it is quoted. -/
abbrev Letter := Char × Bool

/-- The text of letters. -/
def lettersText (ls : List Letter) : String := String.ofList (ls.map (·.1))

namespace Pattern

/-! ### Classes -/

/-- Whether a character is a punctuation mark. -/
def isMark (c : Char) : Bool := '!' ≤ c && c ≤ '~' && !c.isAlphanum

/-- The characters of a class, by its name. -/
def class? : String → Option (Char → Bool)
  | "alnum" => some Char.isAlphanum
  | "alpha" => some Char.isAlpha
  | "blank" => some fun c => c == ' ' || c == '\t'
  | "cntrl" => some fun c => c.toNat < 32 || c.toNat == 127
  | "digit" => some Char.isDigit
  | "graph" => some fun c => '!' ≤ c && c ≤ '~'
  | "lower" => some Char.isLower
  | "print" => some fun c => ' ' ≤ c && c ≤ '~'
  | "punct" => some isMark
  | "space" => some fun c => c == ' ' || (9 ≤ c.toNat && c.toNat ≤ 13)
  | "upper" => some Char.isUpper
  | "xdigit" => some fun c => c.isDigit || ('a' ≤ c && c ≤ 'f') || ('A' ≤ c && c ≤ 'F')
  | _ => none

/-- A part of a set. -/
inductive Item where
  | range (first last : Char)
  | named (name : String)
  deriving DecidableEq, Repr

/-- Whether a character is in a part of a set. -/
def Item.has (c : Char) : Item → Bool
  | .range a b => a ≤ c && c ≤ b
  | .named name => (class? name).any (· c)

/-- A piece of a pattern. -/
inductive Piece where
  | char (c : Char)
  | one
  | many
  | set (negated : Bool) (items : List Item)
  deriving DecidableEq, Repr

/-- Whether a piece that stands for one character stands for this one. -/
def Piece.accepts (x : Char) : Piece → Bool
  | .char c => c == x
  | .one => true
  | .many => false
  | .set negated items => items.any (Item.has x) != negated

/-- Whether pieces match a text. -/
def matchesFrom : List Piece → List Char → Bool
  | [], cs => cs.isEmpty
  | .many :: ps, [] => matchesFrom ps []
  | .many :: ps, c :: cs => matchesFrom ps (c :: cs) || matchesFrom (.many :: ps) cs
  | p :: ps, c :: cs => p.accepts c && matchesFrom ps cs
  | _ :: _, [] => false
termination_by ps cs => ps.length + cs.length

/-! ### Writing patterns -/

/-- The name of a class at the front of letters, after its bracket and colon, and what follows. -/
def className? (ls : List Letter) : Option (String × List Letter) :=
  let name := ls.takeWhile fun l => l.1.isAlpha && !l.2
  match ls.drop name.length with
  | (':', false) :: (']', false) :: rest =>
    let text := lettersText name
    if (class? text).isSome then some (text, rest) else none
  | _ => none

/-- The parts of a set up to its closing bracket, and what follows it; nothing if it is not closed.
`first` says that no part was read yet, so that a closing bracket is one. -/
def itemsFrom : Nat → Bool → List Letter → Option (List Item × List Letter)
  | 0, _, _ => none
  | _ + 1, _, [] => none
  | fuel + 1, first, (c, quoted) :: rest =>
    let put := fun (item : Item) (rest : List Letter) =>
      (itemsFrom fuel false rest).map fun r => (item :: r.1, r.2)
    if c = ']' ∧ !quoted ∧ !first then some ([], rest)
    else
      let named := match rest with
        | (':', false) :: after => if c = '[' ∧ !quoted then className? after else none
        | _ => none
      match named, rest with
      | some (name, after), _ => put (.named name) after
      | none, ('-', false) :: (d, q) :: after =>
        if d = ']' ∧ !q then put (.range c c) rest else put (.range c d) after
      | none, rest => put (.range c c) rest

/-- The pieces that letters write. -/
def piecesFrom : Nat → List Letter → List Piece
  | 0, _ => []
  | _ + 1, [] => []
  | fuel + 1, (c, quoted) :: rest =>
    if quoted then .char c :: piecesFrom fuel rest
    else
      match c with
      | '*' => .many :: piecesFrom fuel rest
      | '?' => .one :: piecesFrom fuel rest
      | '[' =>
        let (negated, inside) := match rest with
          | ('!', false) :: after => (true, after)
          | _ => (false, rest)
        match itemsFrom inside.length.succ true inside with
        | some (items, after) => .set negated items :: piecesFrom fuel after
        | none => .char c :: piecesFrom fuel rest
      | c => .char c :: piecesFrom fuel rest

end Pattern

/-- A pattern: its pieces in order. -/
abbrev Pattern := List Pattern.Piece

namespace Pattern

/-- The pattern that letters write. -/
def ofLetters (ls : List Letter) : Pattern := piecesFrom ls.length.succ ls

/-- The pattern that a text without quotes writes. -/
def ofText (s : String) : Pattern := ofLetters (s.toList.map fun c => (c, false))

/-- Whether a pattern matches a whole text. -/
def covers (p : Pattern) (s : String) : Bool := matchesFrom p s.toList

/-- Whether a pattern can match other texts than the one that it is written with. -/
def isOpen (p : Pattern) : Bool :=
  p.any fun piece => match piece with
    | .char _ => false
    | _ => true

/-- A text without the shortest or longest part at one end that a pattern matches; the text itself if
the pattern matches no such part. -/
def trim (p : Pattern) (fromEnd longest : Bool) (s : String) : String :=
  let cs := s.toList
  let cuts := List.range (cs.length + 1)
  let cuts := if fromEnd == longest then cuts else cuts.reverse
  match cuts.find? fun n => matchesFrom p (if fromEnd then cs.drop n else cs.take n) with
  | some n => String.ofList (if fromEnd then cs.take n else cs.drop n)
  | none => s

end Pattern

end Conveyor.Shell
