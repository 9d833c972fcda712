/-
**Writing data as JSON.**

Two spellings are in use.  Answers keep every character that JSON allows; log lines and reports are
pure ASCII, so that a character outside it is written by its UTF-16 units.  Entries of a mapping
come in their own order.

Main definitions:

* `Conveyor.Json.Style` — the separators, and whether characters outside ASCII are escaped;
* `Conveyor.Json.render` — a datum on one line;
* `Conveyor.Json.pretty` — a datum over several lines, nested parts indented by two.
-/

import Conveyor.Datum.Display

set_option autoImplicit false

namespace Conveyor.Json

/-- How JSON is spelled. -/
structure Style where
  itemSeparator : String
  keySeparator : String
  asciiOnly : Bool

/-- The spelling of answers. -/
def compact : Style := ⟨",", ":", false⟩

/-- The spelling of log lines and reports. -/
def spaced : Style := ⟨", ", ": ", true⟩

/-- The escape of a UTF-16 unit. -/
def unitEscape (n : Nat) : List Char := '\\' :: 'u' :: Text.hexDigits 4 n

/-- The escape of a character by its UTF-16 units. -/
def escapeUnits (c : Char) : List Char :=
  if c.toNat < 0x10000 then unitEscape c.toNat
  else
    let n := c.toNat - 0x10000
    unitEscape (0xD800 + n / 0x400) ++ unitEscape (0xDC00 + n % 0x400)

/-- One character of a string. -/
def stringChar (asciiOnly : Bool) (c : Char) : List Char :=
  if c = '"' ∨ c = '\\' then ['\\', c]
  else if c = '\n' then ['\\', 'n']
  else if c = '\r' then ['\\', 'r']
  else if c = '\t' then ['\\', 't']
  else if c.toNat = 8 then ['\\', 'b']
  else if c.toNat = 12 then ['\\', 'f']
  else if c.toNat < 32 then unitEscape c.toNat
  else if asciiOnly && 127 ≤ c.toNat then escapeUnits c
  else [c]

/-- A string between double quotes. -/
def string (asciiOnly : Bool) (s : String) : String :=
  String.ofList ('"' :: s.toList.flatMap (stringChar asciiOnly) ++ ['"'])

/-- A float: the shortest decimal that reads back, or one of three names. -/
def floatText (x : Float) : String :=
  if x.isNaN then "NaN"
  else if x.isInf then (if x < 0 then "-Infinity" else "Infinity")
  else Decimal.floatText x

/-- The key of an entry: a text as it is, a number or a truth value as JSON writes it. -/
def keyText : Datum → String
  | .text s => s
  | .null => "null"
  | .bool b => if b then "true" else "false"
  | .float x => floatText x
  | d => d.shown

mutual
/-- A datum on one line. -/
def render (style : Style) : Datum → String
  | .list items | .tuple items | .set items =>
    "[" ++ style.itemSeparator.intercalate (renderItems style items) ++ "]"
  | .dict entries =>
    "\x7b" ++ style.itemSeparator.intercalate (renderEntries style entries) ++ "\x7d"
  | .null => "null"
  | .bool b => if b then "true" else "false"
  | .int i => toString i
  | .float x => floatText x
  | .text s => string style.asciiOnly s
  | .date t => string style.asciiOnly t.text
  | .moment t => string style.asciiOnly t.text
  | .bytes bs => string style.asciiOnly (Datum.inner (.bytes bs))
  | .codes cs => string style.asciiOnly (Text.replaced 1 cs)
  | .knot _ d => render style d

/-- The items of a sequence, each on one line. -/
def renderItems (style : Style) : List Datum → List String
  | [] => []
  | item :: items => render style item :: renderItems style items

/-- The entries of a mapping, each on one line. -/
def renderEntries (style : Style) : List (Datum × Datum) → List String
  | [] => []
  | (k, v) :: entries =>
    (string style.asciiOnly (keyText k) ++ style.keySeparator ++ render style v) ::
      renderEntries style entries
end

/-- The line break before a part at a given depth. -/
def breakAt (depth : Nat) : String := "\n" ++ String.ofList (List.replicate (2 * depth) ' ')

mutual
/-- A datum over several lines, `depth` levels deep. -/
def prettyAt (style : Style) (depth : Nat) : Datum → String
  | .list [] | .tuple [] | .set [] => "[]"
  | .dict [] => "\x7b\x7d"
  | .list items | .tuple items | .set items =>
    "[" ++ breakAt (depth + 1) ++
      ("," ++ breakAt (depth + 1)).intercalate (prettyItems style (depth + 1) items) ++
      breakAt depth ++ "]"
  | .dict entries =>
    "\x7b" ++ breakAt (depth + 1) ++
      ("," ++ breakAt (depth + 1)).intercalate (prettyEntries style (depth + 1) entries) ++
      breakAt depth ++ "\x7d"
  | .null => "null"
  | .bool b => if b then "true" else "false"
  | .int i => toString i
  | .float x => floatText x
  | .text s => string style.asciiOnly s
  | .date t => string style.asciiOnly t.text
  | .moment t => string style.asciiOnly t.text
  | .bytes bs => string style.asciiOnly (Datum.inner (.bytes bs))
  | .codes cs => string style.asciiOnly (Text.replaced 1 cs)
  | .knot _ d => prettyAt style depth d

/-- The items of a sequence over several lines. -/
def prettyItems (style : Style) (depth : Nat) : List Datum → List String
  | [] => []
  | item :: items => prettyAt style depth item :: prettyItems style depth items

/-- The entries of a mapping over several lines. -/
def prettyEntries (style : Style) (depth : Nat) : List (Datum × Datum) → List String
  | [] => []
  | (k, v) :: entries =>
    (string style.asciiOnly (keyText k) ++ style.keySeparator ++ prettyAt style depth v) ::
      prettyEntries style depth entries
end

/-- A datum over several lines. -/
def pretty (style : Style) (d : Datum) : String := prettyAt style 0 d

end Conveyor.Json
