/-
**Fields: the texts that words stand for.**

What a word stands for is first a row of marks: letters, which remember whether they are quoted and
whether they may be cut at separators, places where quotes stand, and borders between arguments.
Separators cut the row into fields.  Blanks among the separators count only once, and not at the
ends; every other separator ends a field, also an empty one.

Main definitions:

* `Conveyor.Shell.Mark` — letters, quotes and borders;
* `Conveyor.Shell.fieldsOf` — the fields of a row;
* `Conveyor.Shell.shareOut` — the fields of a line for so many variables, the last of which gets all
  that is left.
-/

import Conveyor.Shell.Pattern

set_option autoImplicit false

namespace Conveyor.Shell

/-- A mark in the row that a word stands for. -/
inductive Mark where
  | letter (c : Char) (quoted cuts : Bool)
  /-- Quotes stand here, so there is a field, perhaps an empty one. -/
  | quote
  /-- One argument ends here and another one begins. -/
  | border
  /-- The same, but empty arguments do not count. -/
  | gap
  deriving DecidableEq, Repr

/-- The marks of a text that is not cut. -/
def marksOf (quoted : Bool) (s : String) : List Mark := s.toList.map fun c => .letter c quoted false

/-- The marks of a value, which may be cut. -/
def valueMarks (s : String) : List Mark := s.toList.map fun c => .letter c false true

/-- What a mark does to the row. -/
inductive Role where
  | part
  | blank
  | separator
  | border
  deriving DecidableEq, Repr

/-- Whether a character counts as a blank where it separates. -/
def isBlankSeparator (c : Char) : Bool := c == ' ' || c == '\t' || c == '\n'

/-- What a mark does to the row, when some characters separate. -/
def Mark.role (separators : List Char) : Mark → Role
  | .letter c _ cuts =>
    if cuts && separators.contains c then if isBlankSeparator c then .blank else .separator else .part
  | .quote => .part
  | .border => .border
  | .gap => .blank

/-- Where the cutting of a row is. -/
inductive Stage where
  /-- No field is open; a separator ends an empty one. -/
  | before
  /-- A field is open. -/
  | inside
  /-- A blank ended a field; one separator still belongs to it. -/
  | after
  deriving DecidableEq, Repr

/-- The fields of a row of marks; `current` is the open field, the last mark first. -/
def cutFrom (separators : List Char) : Stage → List Mark → List Mark → List (List Mark)
  | .inside, current, [] => [current.reverse]
  | _, _, [] => []
  | stage, current, m :: ms =>
    match m.role separators, stage with
    | .part, _ => cutFrom separators .inside (m :: current) ms
    | .border, _ => current.reverse :: cutFrom separators .inside [] ms
    | .blank, .inside => current.reverse :: cutFrom separators .after [] ms
    | .blank, stage => cutFrom separators stage [] ms
    | .separator, .inside => current.reverse :: cutFrom separators .before [] ms
    | .separator, .before => [] :: cutFrom separators .before [] ms
    | .separator, .after => cutFrom separators .before [] ms

/-- The letters of marks. -/
def lettersOf (ms : List Mark) : List Letter :=
  ms.filterMap fun m => match m with
    | .letter c quoted _ => some (c, quoted)
    | _ => none

/-- The fields of a row of marks, when some characters separate. -/
def fieldsOf (separators : List Char) (ms : List Mark) : List (List Letter) :=
  (cutFrom separators .before [] ms).map lettersOf

/-- The text of marks that are not cut. -/
def marksText (ms : List Mark) : String := lettersText (lettersOf ms)

/-- What the last variable gets of what is left of a line: a single field without what ends it, or
else all, without the blanks at the end. -/
def lastShare (separators : List Char) (ms : List Mark) : List Mark :=
  let isPart := fun (m : Mark) => m.role separators == .part
  let isBlank := fun (m : Mark) => m.role separators == .blank
  let field := ms.takeWhile isPart
  let rest := ms.drop field.length
  if rest.all (fun m => !isPart m) && (rest.filter fun m => !isBlank m).length ≤ 1 then field
  else (ms.reverse.dropWhile isBlank).reverse

/-- The shares of so many variables in a line. -/
def shareOut (separators : List Char) : Nat → List Mark → List String
  | 0, _ => []
  | n + 1, ms =>
    let isPart := fun (m : Mark) => m.role separators == .part
    let isBlank := fun (m : Mark) => m.role separators == .blank
    let ms := ms.dropWhile isBlank
    if n = 0 then [marksText (lastShare separators ms)]
    else
      let field := ms.takeWhile isPart
      let rest := (ms.drop field.length).dropWhile isBlank
      let rest := match rest with
        | m :: after => if isPart m then rest else after
        | [] => []
      marksText field :: shareOut separators n rest

end Conveyor.Shell
