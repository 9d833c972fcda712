/-
**What a scalar means.**

A plain scalar means what it looks like: a truth value, a float, a whole number, the merge sign,
null, a date, the value sign, or else a text.  A tag says outright what a node means.

Main definitions:

* `Conveyor.Yaml.Kind` — what a node can mean;
* `Conveyor.Yaml.Kind.ofTag` — the meaning that a tag names;
* `Conveyor.Yaml.Kind.ofPlain` — the meaning that a plain scalar has by its looks;
* `Conveyor.Yaml.Timestamp.parse?` — the parts of a date.
-/

import Conveyor.Yaml.Defect

set_option autoImplicit false

namespace Conveyor.Yaml

/-- What a node can mean. -/
inductive Kind where
  | null
  | bool
  | int
  | float
  | text
  | timestamp
  | binary
  | merge
  | value
  | sequence
  | mapping
  | set
  | orderedMapping
  | pairs
  | unknown
  deriving DecidableEq, Repr, Inhabited

/-- The meaning that a tag names. -/
def Kind.ofTag (tag : String) : Kind :=
  let names : List (String × Kind) := [
    ("null", .null), ("bool", .bool), ("int", .int), ("float", .float), ("str", .text),
    ("timestamp", .timestamp), ("binary", .binary), ("merge", .merge), ("value", .value),
    ("seq", .sequence), ("map", .mapping), ("set", .set), ("omap", .orderedMapping),
    ("pairs", .pairs)]
  match names.find? fun e => "tag:yaml.org,2002:" ++ e.1 == tag with
  | some (_, kind) => kind
  | none => .unknown

/-! ### Dates -/

/-- The parts of a date as they are written. -/
structure Timestamp where
  year : List Char
  month : List Char
  day : List Char
  /-- Hour, minute and second. -/
  time : Option (List Char × List Char × List Char) := none
  fraction : List Char := []
  /-- Whether a distance from universal time is given, and then its sign, hours and minutes. -/
  zone : Option (Option (Bool × List Char × List Char)) := none

namespace Timestamp

/-- Exactly `n` digits. -/
def digits? (n : Nat) (cs : List Char) : Option (List Char × List Char) :=
  let ds := cs.take n
  if ds.length = n && ds.all Char.isDigit then some (ds, cs.drop n) else none

/-- One digit, or two. -/
def shortDigits? (cs : List Char) : Option (List Char × List Char) :=
  (digits? 2 cs).or (digits? 1 cs)

/-- One given character. -/
def sign? (x : Char) : List Char → Option (List Char)
  | c :: cs => if c = x then some cs else none
  | [] => none

/-- The distance from universal time that ends a date. -/
def zone? (cs : List Char) : Option (Option (Option (Bool × List Char × List Char))) :=
  if cs.isEmpty then some none
  else
    match cs.dropWhile fun c => c == ' ' || c == '\t' with
    | ['Z'] => some (some none)
    | s :: cs =>
      if s = '+' ∨ s = '-' then do
        let (hours, cs) ← shortDigits? cs
        match cs with
        | [] => some (some (some (s == '-', hours, [])))
        | ':' :: cs =>
          let (minutes, cs) ← digits? 2 cs
          if cs.isEmpty then some (some (some (s == '-', hours, minutes))) else none
        | _ => none
      else none
    | [] => none

/-- The time of day and the zone that follow a day. -/
def time? (t : Timestamp) (cs : List Char) : Option Timestamp := do
  let cs ← match cs with
    | 'T' :: cs | 't' :: cs => some cs
    | c :: _ =>
      if c = ' ' ∨ c = '\t' then some (cs.dropWhile fun c => c == ' ' || c == '\t') else none
    | [] => none
  let (hour, cs) ← shortDigits? cs
  let cs ← sign? ':' cs
  let (minute, cs) ← digits? 2 cs
  let cs ← sign? ':' cs
  let (second, cs) ← digits? 2 cs
  let (fraction, cs) := match cs with
    | '.' :: cs => (cs.takeWhile Char.isDigit, cs.dropWhile Char.isDigit)
    | cs => ([], cs)
  let zone ← zone? cs
  return { t with time := some (hour, minute, second), fraction, zone }

/-- The parts of a date; one line feed may follow it. -/
def parse? (s : String) : Option Timestamp := do
  let cs := s.toList
  let cs := if cs.getLast? == some '\n' then cs.dropLast else cs
  let (year, cs) ← digits? 4 cs
  let cs ← sign? '-' cs
  let (month, cs) ← shortDigits? cs
  let cs ← sign? '-' cs
  let (day, cs) ← shortDigits? cs
  let t : Timestamp := { year, month, day }
  if cs.isEmpty then return t else time? t cs

/-- Whether a plain scalar of this form is a date: without a time, month and day need two digits. -/
def isPlain (t : Timestamp) : Bool :=
  t.time.isSome || (t.month.length == 2 && t.day.length == 2)

end Timestamp

/-! ### Numbers -/

/-- Drops a sign. -/
def dropSign : List Char → List Char
  | '+' :: cs | '-' :: cs => cs
  | cs => cs

/-- A non-empty run of characters of a class, with underscores among them. -/
def isRun (digit : Char → Bool) (cs : List Char) : Bool :=
  !cs.isEmpty && cs.all fun c => digit c || c == '_'

/-- A part after a colon: a digit, or two of which the first is below six. -/
def isSixtieth : List Char → Bool
  | [d] => d.isDigit
  | [t, d] => '0' ≤ t && t ≤ '5' && d.isDigit
  | _ => false

/-- The pieces between colons. -/
def colonPieces : List Char → List (List Char)
  | [] => [[]]
  | c :: cs =>
    match colonPieces cs with
    | [] => [[c]]
    | piece :: pieces => if c = ':' then [] :: piece :: pieces else (c :: piece) :: pieces

/-- Digits, and underscores after the first of them. -/
def isDigits (cs : List Char) : Bool :=
  (cs.head?.map Char.isDigit).getD false && isRun Char.isDigit cs

/-- Whether a plain scalar looks like a whole number. -/
def looksInt (cs : List Char) : Bool :=
  match dropSign cs with
  | '0' :: 'b' :: ds => isRun (fun c => c == '0' || c == '1') ds
  | '0' :: 'x' :: ds => isRun (fun c => (Json.hexValue? c).isSome) ds
  | ['0'] => true
  | '0' :: ds => isRun (fun c => '0' ≤ c && c ≤ '7') ds
  | ds =>
    match colonPieces ds with
    | first :: rest => isDigits first && rest.all isSixtieth
    | [] => false

/-- Whether what follows the fraction of a float is an exponent with a sign, or nothing. -/
def isExponent : List Char → Bool
  | [] => true
  | e :: s :: ds =>
    (e == 'e' || e == 'E') && (s == '+' || s == '-') && !ds.isEmpty && ds.all Char.isDigit
  | _ => false

/-- Whether a plain scalar looks like a float. -/
def looksFloat (cs : List Char) : Bool :=
  let unsigned := dropSign cs
  let fractionOf := fun (ds : List Char) => ds.dropWhile fun c => c.isDigit || c == '_'
  [".inf".toList, ".Inf".toList, ".INF".toList].contains unsigned ||
  [".nan".toList, ".NaN".toList, ".NAN".toList].contains cs ||
  (match cs with
    | '.' :: d :: ds => d.isDigit && isExponent (fractionOf ds)
    | _ => false) ||
  (match unsigned.span (· != '.') with
    | (whole, _ :: ds) =>
      let rest := fractionOf ds
      match colonPieces whole with
      | [first] => isDigits first && isExponent rest
      | first :: more => isDigits first && more.all isSixtieth && rest.isEmpty
      | [] => false
    | (_, []) => false)

/-! ### Plain scalars -/

/-- The words for true and for false. -/
def truthWords : List String := [
  "yes", "Yes", "YES", "no", "No", "NO", "true", "True", "TRUE", "false", "False", "FALSE",
  "on", "On", "ON", "off", "Off", "OFF"]

/-- The meaning that a plain scalar has by its looks; one line feed may follow it. -/
def Kind.ofPlain (s : String) : Kind :=
  if s = "" then .null
  else
    let cs := s.toList
    let cs := if cs.getLast? == some '\n' then cs.dropLast else cs
    let word := String.ofList cs
    if truthWords.contains word then .bool
    else if looksFloat cs then .float
    else if looksInt cs then .int
    else if word = "<<" then .merge
    else if ["~", "null", "Null", "NULL"].contains word then .null
    else if (Timestamp.parse? s).any Timestamp.isPlain then .timestamp
    else if word = "=" then .value
    else if ["!", "&", "*"].contains word then .unknown
    else .text

end Conveyor.Yaml
