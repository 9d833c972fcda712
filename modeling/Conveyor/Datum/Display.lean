/-
**Data as messages show them.**

A text that stands alone is shown as it is, and between quotes inside a sequence or a mapping.  Where
a collection is met again inside itself, dots stand for it.  Whole numbers with very many digits
cannot be shown.

Main definitions:

* `Conveyor.Datum.inner` — a datum as it is shown inside another one;
* `Conveyor.Datum.shown` — a datum that stands alone;
* `Conveyor.Datum.isShowable` — whether a datum can be shown;
* `Conveyor.Datum.shownSafely` — a datum that stands alone, or what stands for one that cannot be
  shown.
-/

import Conveyor.Datum.Basic
import Conveyor.Text.Quoted
import Conveyor.Text.Whole

set_option autoImplicit false

namespace Conveyor.Datum

/-- One byte of a byte string between the quotes `q`. -/
def innerByte (q : Char) (b : UInt8) : List Char :=
  let c := Char.ofNat b.toNat
  if c = q ∨ c = '\\' then ['\\', c]
  else if c = '\n' then ['\\', 'n']
  else if c = '\r' then ['\\', 'r']
  else if c = '\t' then ['\\', 't']
  else if 32 ≤ b.toNat ∧ b.toNat < 127 then [c]
  else '\\' :: 'x' :: Text.hexDigits 2 b.toNat

/-- A byte string as it is shown inside another datum. -/
def innerBytes (bs : List UInt8) : String :=
  let q := Text.quoteFor (String.ofList (bs.map fun b => Char.ofNat b.toNat))
  String.ofList ('b' :: q :: bs.flatMap (innerByte q) ++ [q])

/-- A date as it is shown inside another datum. -/
def innerDate (t : Date) : String :=
  "datetime.date(" ++ toString t.year ++ ", " ++ toString t.month ++ ", " ++ toString t.day ++ ")"

/-- A distance from universal time as it is shown inside another datum. -/
def innerOffset (o : Int) : String :=
  if o = 0 then "datetime.timezone.utc"
  else "datetime.timezone(" ++ DateError.durationText (Int.fdiv o 1000000) ++ ")"

/-- A moment as it is shown inside another datum. -/
def innerMoment (t : Moment) : String :=
  let time := [t.date.year, t.date.month, t.date.day, t.hour, t.minute] ++
    (if t.second = 0 ∧ t.micro = 0 then [] else [t.second]) ++
    (if t.micro = 0 then [] else [t.micro])
  "datetime.datetime(" ++ ", ".intercalate (time.map toString) ++
    (match t.offset with
    | some o => ", tzinfo=" ++ innerOffset o
    | none => "") ++ ")"

/-- What stands for a collection inside itself. -/
def dots : Datum → String
  | .dict _ => "\x7b...\x7d"
  | .set _ => "set(...)"
  | _ => "[...]"

mutual
/-- A datum as it is shown inside collections with the numbers `above`. -/
def innerIn (above : List Nat) : Datum → String
  | .null => "None"
  | .bool b => if b then "True" else "False"
  | .int i => toString i
  | .float x => Decimal.floatText x
  | .text s => Text.quoted s
  | .codes cs => Text.quotedCodes cs
  | .date t => innerDate t
  | .moment t => innerMoment t
  | .bytes bs => innerBytes bs
  | .list items => "[" ++ ", ".intercalate (innerItems above items) ++ "]"
  | .tuple [item] => "(" ++ innerIn above item ++ ",)"
  | .tuple items => "(" ++ ", ".intercalate (innerItems above items) ++ ")"
  | .set [] => "set()"
  | .set items => "\x7b" ++ ", ".intercalate (innerItems above items) ++ "\x7d"
  | .dict entries => "\x7b" ++ ", ".intercalate (innerEntries above entries) ++ "\x7d"
  | .knot number d => if above.contains number then dots d.opened else innerIn (number :: above) d

/-- The items of a sequence as they are shown. -/
def innerItems (above : List Nat) : List Datum → List String
  | [] => []
  | item :: items => innerIn above item :: innerItems above items

/-- The entries of a mapping as they are shown. -/
def innerEntries (above : List Nat) : List (Datum × Datum) → List String
  | [] => []
  | (k, v) :: entries =>
    (innerIn above k ++ ": " ++ innerIn above v) :: innerEntries above entries
end

/-- A datum as it is shown inside another one. -/
def inner (d : Datum) : String := innerIn [] d

/-- A datum that stands alone: a text, a date or a moment as it is, everything else as inside. -/
def shown : Datum → String
  | .text s => s
  | .codes cs => Text.replaced 1 cs
  | .date t => t.text
  | .moment t => t.text
  | d => inner d

/-! ### What cannot be shown -/

/-- The least whole number with too many digits. -/
def hugeBound : Nat := Nat.pow 10 Text.maxDigits

mutual
/-- Whether a datum can be shown inside collections with the numbers `above`. -/
def isShowableIn (above : List Nat) : Datum → Bool
  | .int i => i.natAbs < hugeBound
  | .list items | .tuple items | .set items => areShowable above items
  | .dict entries => entriesShowable above entries
  | .knot number d => above.contains number || isShowableIn (number :: above) d
  | _ => true

/-- Whether items can be shown. -/
def areShowable (above : List Nat) : List Datum → Bool
  | [] => true
  | item :: items => isShowableIn above item && areShowable above items

/-- Whether entries can be shown. -/
def entriesShowable (above : List Nat) : List (Datum × Datum) → Bool
  | [] => true
  | (k, v) :: entries =>
    isShowableIn above k && isShowableIn above v && entriesShowable above entries
end

/-- Whether a datum can be shown. -/
def isShowable (d : Datum) : Bool := isShowableIn [] d

/-- Why a datum cannot be shown. -/
def unshowableText : String :=
  "Exceeds the limit (" ++ toString Text.maxDigits ++
    " digits) for integer string conversion; use sys.set_int_max_str_digits() to increase the limit"

/-- A datum that stands alone, or what stands for one that cannot be shown. -/
def shownSafely (d : Datum) : String :=
  if d.isShowable then d.shown else "<unprintable " ++ d.typeName ++ " object>"

end Conveyor.Datum
