/-
**The text of a script while it is read.**

A script is read a line at a time, so what one line does — an alias that it makes, say — counts for
the next one.  An alias puts its text in front of what is still to be read, and a mark behind it: as
long as the mark is there, the alias is not looked up again.

Main definitions:

* `Conveyor.Shell.Cell` — a character, or the mark behind the text of an alias;
* `Conveyor.Shell.Source` — what is still to be read, and what was found so far;
* `Conveyor.Shell.Reading` — a step of reading, which may find a defect.
-/

import Conveyor.Shell.Script

set_option autoImplicit false

namespace Conveyor.Shell

/-- A character, or the mark behind the text of an alias, with whether that text ends in a blank. -/
inductive Cell where
  | char (c : Char)
  | close (name : String) (blank : Bool)
  deriving DecidableEq, Repr

/-- A word or a sign. -/
inductive Token where
  | word (w : Word)
  /-- A word that has a meaning of its own where it stands. -/
  | keyword (s : String)
  | sign (s : String)
  | redirect (stream : Nat) (d : Direction)
  /-- The sign for a text that stands in the script, whose lines may lose the tabs at their front. -/
  | here (stream : Nat) (dropsTabs : Bool)
  | ending

/-- A text that stands in the script below the line that asks for it. -/
structure Awaited where
  number : Nat
  closing : String
  dropsTabs : Bool
  /-- Whether the text has values in it. -/
  hasValues : Bool

/-- What is still to be read of a script, and what was found so far. -/
structure Source where
  cells : List Cell
  line : Nat := 1
  aliases : List (String × String) := []
  /-- Whether the next word is looked up among the aliases, because one ended in a blank. -/
  looksUp : Bool := false
  /-- A token that was given back. -/
  returned : Option Token := none
  awaited : List Awaited := []
  /-- The texts that stand in the script, by their numbers. -/
  texts : Array Word := #[]

/-- A step of reading a script. -/
abbrev Reading := StateT Source (Except Defect)

namespace Source

/-- The source of a text. -/
def ofText (aliases : List (String × String)) (texts : Array Word) (s : String) : Source :=
  { cells := s.toList.map .char, aliases, texts }

end Source

/-- Gives up. -/
def flawed {α : Type} (f : Flaw) : Reading α := do throw ⟨(← get).line, f⟩

/-- The character at the front of cells, and the cells after it. -/
def frontOf : List Cell → Option (Char × List Cell)
  | [] => none
  | .close _ _ :: cells => frontOf cells
  | .char c :: cells => some (c, cells)

/-- Drops backslashes before ends of lines at the front, and says how many there were. -/
def joined : List Cell → List Cell × Nat
  | .close a b :: cells =>
    let (rest, n) := joined cells
    if n = 0 then (.close a b :: cells, 0) else (rest, n)
  | .char '\\' :: .char '\n' :: cells =>
    let (rest, n) := joined cells
    (rest, n + 1)
  | cells => (cells, 0)

/-- Joins lines at the front whose ends a backslash hides. -/
def join : Reading Unit := modify fun s =>
  let (cells, n) := joined s.cells
  { s with cells, line := s.line + n }

/-- The next character, not taken away. -/
def peekRaw : Reading (Option Char) := do return (frontOf (← get).cells).map (·.1)

/-- Takes the next character away. -/
def takeRaw : Reading (Option Char) := do
  let s ← get
  match frontOf s.cells with
  | none => return none
  | some (c, cells) =>
    set { s with cells, line := if c = '\n' then s.line + 1 else s.line }
    return some c

/-- The next character, not taken away; a backslash hides the end of a line. -/
def peek : Reading (Option Char) := do join; peekRaw

/-- Takes the next character away; a backslash hides the end of a line. -/
def takeChar : Reading (Option Char) := do join; takeRaw

/-- Takes the next character away; a backslash hides the end of a line.  An end of a line that is
taken does not count. -/
def takeUncounted : Reading (Option Char) := do
  join
  let s ← get
  match frontOf s.cells with
  | none => return none
  | some (c, cells) =>
    set { s with cells }
    return some c

/-- Takes the next character away if it is a certain one. -/
def takeIf (c : Char) : Reading Bool := do
  if (← peek) == some c then
    let _ ← takeRaw
    return true
  else return false

/-- Drops blanks, and the marks between them. -/
def dropBlanks : List Cell → Bool → List Cell × Bool
  | .close _ blank :: cells, looksUp => dropBlanks cells (looksUp || blank)
  | .char c :: cells, looksUp =>
    if c = ' ' ∨ c = '\t' then dropBlanks cells looksUp else (.char c :: cells, looksUp)
  | [], looksUp => ([], looksUp)

/-- Drops a comment. -/
def dropComment : List Cell → List Cell
  | .char '\n' :: cells => .char '\n' :: cells
  | _ :: cells => dropComment cells
  | [] => []

/-- Goes to the next word or sign. -/
def skipBlanks : Nat → Reading Unit
  | 0 => return
  | fuel + 1 => do
    modify fun s =>
      let (cells, looksUp) := dropBlanks s.cells s.looksUp
      { s with cells, looksUp }
    let before := (← get).cells.length
    join
    if (← get).cells.length < before then skipBlanks fuel
    else if (← peekRaw) == some '#' then
      modify fun s => { s with cells := dropComment s.cells }
      skipBlanks fuel

/-- Whether the text of an alias is still being read. -/
def Source.isOpen (s : Source) (name : String) : Bool :=
  s.cells.any fun c => match c with
    | .close a _ => a == name
    | .char _ => false

/-- Puts the text of an alias in front, if a name is one that may be looked up. -/
def Source.expand? (s : Source) (name : String) : Option Source :=
  match s.aliases.find? (·.1 == name) with
  | none => none
  | some (_, text) =>
    if s.isOpen name then none
    else if text = "" then some s
    else
      let last := text.toList.getLastD 'a'
      let mark := Cell.close name (last == ' ' || last == '\t')
      some { s with cells := text.toList.map .char ++ mark :: s.cells }

end Conveyor.Shell
