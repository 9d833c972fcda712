/-
**Coloured lines of the log.**

A line for a screen: the time, the level, the event padded to a column, the logger, and then the
other entries by their keys in order.  Colours are switched by escape sequences.

Main definitions:

* `Conveyor.Log.valueText` — a value, between quotes when it could be misread;
* `Conveyor.Log.colouredLine` — the line of entries.
-/

import Conveyor.Fault

set_option autoImplicit false

namespace Conveyor.Log

/-- The sequence that switches to a style. -/
def switch (style : Nat) : String := "\x1b[" ++ toString style ++ "m"

/-- The sequence that switches all styles off. -/
def off : String := switch 0

/-- The sequence that makes a text bright. -/
def bright : String := switch 1

/-- The colour of a level; errors are red, warnings yellow, and the others green. -/
def levelColour (level : String) : String :=
  if level = "critical" ∨ level = "error" then switch 31 ++ bright
  else if level = "warning" then switch 33 ++ bright
  else if level = "info" ∨ level = "debug" then switch 32 ++ bright
  else ""

/-- A text with blanks up to a width. -/
def padTo (width : Nat) (s : String) : String :=
  s ++ String.ofList (List.replicate (width - s.length) ' ')

/-- How wide a level and an event are at least. -/
def levelColumn : Nat := 9

/-- How wide an event is at least. -/
def eventColumn : Nat := 30

/-- The characters that make quotes necessary. -/
def needsQuotes (c : Char) : Bool :=
  c == ' ' || c == '\t' || c == '=' || c == '\r' || c == '\n' || c == '"' || c == '\''

/-- A value, between quotes when it could be misread. -/
def valueText : Datum → String
  | .text s => if s.toList.any needsQuotes then Text.quoted s else s
  | d => d.inner

/-- The parts of a line that have places of their own. -/
def placedKeys : List (String × (String → String)) := [
  ("timestamp", fun s => switch 2 ++ s ++ off),
  ("level", fun s => "[" ++ levelColour s ++ padTo levelColumn s ++ off ++ "]"),
  ("event", fun s => bright ++ padTo eventColumn s ++ off),
  ("logger", fun s => "[" ++ off ++ bright ++ switch 34 ++ s ++ off ++ "]" ++ off),
  ("logger_name", fun s => "[" ++ off ++ bright ++ switch 34 ++ s ++ off ++ "]" ++ off)]

/-- The keys whose texts stand below a line. -/
def lowerKeys : List String := ["stack", "exception"]

/-- What stands between the two texts below a line. -/
def divider : String := "\n\n" ++ String.ofList (List.replicate 79 '=') ++ "\n"

/-- A text below a line; nothing else may stand there. -/
def textBelow : Datum → Except Fault String
  | .text s => .ok ("\n" ++ s)
  | d => .error (.outside "TypeError"
      ("can only concatenate str (not \"" ++ d.typeName ++ "\") to str"))

/-- What stands below a line: the stack and the exception, unless they are null. -/
def below (stack exception : Datum) : Except Fault String :=
  match stack, exception with
  | .null, .null => .ok ""
  | .null, e => textBelow e
  | s, .null => textBelow s
  | s, e => do return (← textBelow s) ++ divider ++ (← textBelow e)

/-- An entry with its key. -/
def colouredEntry (key : String) (d : Datum) : String :=
  switch 36 ++ key ++ off ++ "=" ++ switch 35 ++ valueText d ++ off

/-- The line of entries.  An entry with an empty key stands first. -/
def colouredLine (entries : List (Datum × Datum)) : Except Fault String := do
  let keyed := entries.map fun e => (e.1.shown, e.2)
  let placed := placedKeys.filterMap fun p =>
    (keyed.find? (·.1 == p.1)).map fun e => p.2 e.2.shown
  let free := keyed.filter fun e =>
    e.1 != "" && !placedKeys.any (·.1 == e.1) && !lowerKeys.contains e.1
  let others := (free.mergeSort fun a b => decide (a.1 ≤ b.1)).map fun e => colouredEntry e.1 e.2
  let first := ((keyed.find? (·.1 == "")).map fun e => colouredEntry e.1 e.2).toList
  let found := fun key => ((keyed.find? (·.1 == key)).map (·.2)).getD .null
  return " ".intercalate (first ++ placed ++ others) ++ (← below (found "stack") (found "exception"))

end Conveyor.Log
