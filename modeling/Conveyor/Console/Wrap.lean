/-
**Lines of limited width.**

A line that is too wide is cut before words: blanks belong to the word before them.  A word that is
wider than a whole line is folded, or else stands alone and is cut off.

Main definitions:

* `Conveyor.Console.wordsOf` — the words of a line, with their blanks;
* `Conveyor.Console.cut` — a line cut before words;
* `Conveyor.Console.wrap` — the lines of a text;
* `Conveyor.Console.naturalWidth` — the cells of the widest line of a text.
-/

import Conveyor.Console.Width
import Conveyor.Text.Blank

set_option autoImplicit false

namespace Conveyor.Console

/-! ### Characters that are not shown -/

/-- Drops the bell, the backspace, and the returns and feeds other than the line feed. -/
def withoutControls (cs : List Char) : List Char :=
  cs.filter fun c => !(c.toNat == 7 || c.toNat == 8 || (11 ≤ c.toNat && c.toNat ≤ 13))

/-- How far apart the stops of a tab are. -/
def tabStop : Nat := 8

/-- A line with its tabs written as blanks; `done` is the part before, the last character first. -/
def expandTabsFrom (done : List Char) : List Char → List Char
  | [] => done.reverse
  | c :: cs =>
    if c = '\t' then
      let column := width done.reverse
      expandTabsFrom (spaces (tabStop - column % tabStop) ++ done) cs
    else expandTabsFrom (c :: done) cs

/-- A line with its tabs written as blanks. -/
def expandTabs (cs : List Char) : List Char := expandTabsFrom [] cs

/-! ### Lines and words -/

/-- The parts of a text between the characters that end a part. -/
def splitAt (ends : Char → Bool) : List Char → List (List Char)
  | [] => [[]]
  | c :: cs =>
    if ends c then [] :: splitAt ends cs
    else
      match splitAt ends cs with
      | [] => [[c]]
      | l :: ls => (c :: l) :: ls

/-- Whether a character ends a line when a text is measured. -/
def endsLine (c : Char) : Bool :=
  c == '\n' || (28 ≤ c.toNat && c.toNat ≤ 30) || c.toNat == 133 || c.toNat == 8232 ||
    c.toNat == 8233

/-- The cells of the widest line of a text. -/
def naturalWidth (cs : List Char) : Nat := ((splitAt endsLine cs).map width).foldl max 0

/-- The words of a line, each with the blanks after it, and the first one with those before it.
`word` is the current word, the last character first, and `closed` says whether it has blanks at its
end. -/
def wordsFrom (word : List Char) (opened closed : Bool) : List Char → List (List Char)
  | [] => [word.reverse]
  | c :: cs =>
    if Text.isBlank c then wordsFrom (c :: word) opened opened cs
    else if closed then word.reverse :: wordsFrom [c] true false cs
    else wordsFrom (c :: word) true false cs

/-- The words of a line, with their blanks. -/
def wordsOf (cs : List Char) : List (List Char) := wordsFrom [] false false cs

/-- Folds clusters into parts of limited width. -/
def foldFrom (room used : Nat) (part : List Char) : List (List Char × Nat) → List (List Char)
  | [] => [part]
  | k :: ks =>
    if room < used + k.2 then part :: foldFrom room k.2 k.1 ks
    else foldFrom room (used + k.2) (part ++ k.1) ks

/-- A word in parts of limited width. -/
def fold (room : Nat) (word : List Char) : List (List Char) := foldFrom room 0 [] (clusters word)

/-- Puts parts behind a line: the first one ends the line, unless nothing stands in it, and the last
one is the new line. -/
def layParts (line : List Char) (isFirst : Bool) : List (List Char) → List (List Char) × List Char
  | [] => ([], line)
  | p :: ps =>
    if isFirst then layParts (line ++ p) false ps
    else
      let (lines, last) := layParts p false ps
      (line :: lines, last)

/-- Lays words behind a line in which some cells are used. -/
def lay (room : Nat) (folds : Bool) (line : List Char) (used : Nat) (isFirst : Bool) :
    List (List Char) → List (List Char)
  | [] => [line]
  | w :: ws =>
    let need := width (Text.stripEnd w)
    if used + need ≤ room then lay room folds (line ++ w) (used + width w) false ws
    else if room < need then
      let (lines, last) := layParts line isFirst (if folds then fold room w else [w])
      lines ++ lay room folds last (if folds then width ((fold room w).getLastD []) else width w)
        false ws
    else if used ≠ 0 ∧ ¬ isFirst then line :: lay room folds w (width w) false ws
    else lay room folds (line ++ w) used false ws

/-- A line cut before words into lines of limited width. -/
def cut (room : Nat) (folds : Bool) (cs : List Char) : List (List Char) :=
  lay room folds [] 0 true (wordsOf cs)

/-! ### Nothing is lost -/

/-! ### Wrapping -/

/-- Where a line stands in its room. -/
inductive Side where
  /-- The line is not filled up. -/
  | free
  | left
  /-- The line stands in the middle; of an odd rest the smaller half comes first. -/
  | middle
  deriving DecidableEq, Repr

/-- Drops blanks at the end of a line that is longer than its room, as many as are needed. -/
def dropExcess (room : Nat) (cs : List Char) : List Char :=
  let blanks := cs.length - (Text.stripEnd cs).length
  cs.take (cs.length - min blanks (cs.length - room))

/-- The mark of a line that is cut off. -/
def ellipsis : Char := '…'

/-- A line that fits into its room: what is too much is cut off, or marked as cut off. -/
def truncate (room : Nat) (marks : Bool) (cs : List Char) : List Char :=
  if room < width cs then
    if marks then fit (room - 1) cs ++ [ellipsis] else fit room cs
  else cs

/-- A line at a side of its room. -/
def place (room : Nat) (side : Side) (marks : Bool) (cs : List Char) : List Char :=
  match side with
  | .free => truncate room marks cs
  | .left => fill room (truncate room marks cs)
  | .middle =>
    let line := truncate room marks (Text.stripEnd cs)
    fill room (spaces ((room - width line) / 2) ++ line)

/-- The lines of a text in a room of limited width.  Words that are too wide are folded, or else
marked as cut off. -/
def wrap (room : Nat) (side : Side) (folds : Bool) (cs : List Char) : List (List Char) :=
  (splitAt (· == '\n') (withoutControls cs)).flatMap fun line =>
    (cut room folds (expandTabs line)).map fun l => place room side (!folds) (dropExcess room l)

end Conveyor.Console
