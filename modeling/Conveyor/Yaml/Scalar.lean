/-
**What scalars come to.**

Main definitions:

* `Conveyor.Yaml.intValue`, `Conveyor.Yaml.floatValue`, `Conveyor.Yaml.boolValue`,
  `Conveyor.Yaml.timestampValue`, `Conveyor.Yaml.binaryValue` — the values that texts write;
* `Conveyor.Yaml.scalarDatum` — the datum that a text writes under a meaning.
-/

import Conveyor.Datum.Basic
import Conveyor.Yaml.Kind

set_option autoImplicit false

namespace Conveyor.Yaml

/-- Drops underscores. -/
def withoutJoints (s : String) : String := String.ofList (s.toList.filter (· != '_'))

/-- The value of numbers of base sixty, the first being the highest. -/
def sixtieths (ns : List Int) : Int := ns.foldl (fun n d => 60 * n + d) 0

/-- The sum of floats of base sixty, added from the last one on. -/
def sixtiethsFloat (xs : List Float) : Float :=
  (xs.reverse.foldl (fun (acc : Float × Float) x => (acc.1 + x * acc.2, acc.2 * 60.0)) (0.0, 1.0)).1

/-- Lets a defect of a number be a defect of a document. -/
def ofNumber {α : Type} : Except Text.NumberError α → Except Defect α
  | .ok a => .ok a
  | .error e => .error (.number e)

/-- Drops a sign and says whether it was a minus; a text with nothing left is refused. -/
def splitSign (cs : List Char) : Except Defect (Bool × List Char) :=
  match cs with
  | [] => .error .emptyNumber
  | '-' :: rest => .ok (true, rest)
  | '+' :: rest => .ok (false, rest)
  | cs => .ok (false, cs)

/-- A whole number: binary after `0b`, hexadecimal after `0x`, octal after `0`, of base sixty
between colons, and decimal otherwise. -/
def intValue (s : String) : Except Defect Int := do
  let (negative, cs) ← splitSign (withoutJoints s).toList
  let n ← match cs with
    | [] => throw .emptyNumber
    | ['0'] => pure 0
    | '0' :: 'b' :: ds => ofNumber (Text.wholeNumberIn 2 (String.ofList ds))
    | '0' :: 'x' :: ds => ofNumber (Text.wholeNumberIn 16 (String.ofList ds))
    | '0' :: _ => ofNumber (Text.wholeNumberIn 8 (String.ofList cs))
    | cs =>
      if cs.contains ':' then do
        let ns ← (colonPieces cs).mapM fun p => ofNumber (Text.wholeNumber (String.ofList p))
        pure (sixtieths ns)
      else ofNumber (Text.wholeNumber (String.ofList cs))
  return if negative then -n else n

/-- A float: one of the two names, of base sixty between colons, or a decimal. -/
def floatValue (s : String) : Except Defect Float := do
  let (negative, cs) ← splitSign (Text.lower (withoutJoints s)).toList
  let word := String.ofList cs
  if word = ".nan" then return 0.0 / 0.0
  let x ←
    if word = ".inf" then pure (1.0 / 0.0)
    else if cs.contains ':' then do
      let xs ← (colonPieces cs).mapM fun p => ofNumber (Text.decimal (String.ofList p))
      pure (sixtiethsFloat xs)
    else ofNumber (Text.decimal word)
  return if negative then -x else x

/-- A truth value. -/
def boolValue (s : String) : Except Defect Bool :=
  let word := Text.lower s
  if ["yes", "true", "on"].contains word then .ok true
  else if ["no", "false", "off"].contains word then .ok false
  else .error (.truthWord word)

/-- Lets a defect of the calendar be a defect of a document. -/
def ofCalendar {α : Type} : Except DateError α → Except Defect α
  | .ok a => .ok a
  | .error e => .error (.calendar e)

/-- The distance from universal time in microseconds; it is less than a day. -/
def offsetOf (negative : Bool) (hours minutes : List Char) : Except Defect Int :=
  let seconds : Int := 3600 * Json.digitsValue hours + 60 * Json.digitsValue minutes
  let seconds := if negative then -seconds else seconds
  if -86400 < seconds ∧ seconds < 86400 then .ok (1000000 * seconds)
  else .error (.calendar (.offset seconds))

/-- A date, or a moment if a time of day is given. -/
def timestampValue (s : String) : Except Defect Datum :=
  match Timestamp.parse? s with
  | none => .error .notADate
  | some t => do
    let value := Json.digitsValue
    match t.time with
    | none => return .date (← ofCalendar (Date.check (value t.year) (value t.month) (value t.day)))
    | some (hour, minute, second) => do
      let offset ← match t.zone with
        | none => pure none
        | some none => pure (some 0)
        | some (some (negative, hours, minutes)) => some <$> offsetOf negative hours minutes
      let ds := t.fraction.take 6
      let micro := value (ds ++ List.replicate (6 - ds.length) '0')
      let moment ← ofCalendar (Moment.check (value t.year) (value t.month) (value t.day)
        (value hour) (value minute) (value second) micro offset)
      return .moment moment

/-- The six bits that a character of base 64 stands for. -/
def base64Value? (c : Char) : Option Nat :=
  if 'A' ≤ c ∧ c ≤ 'Z' then some (c.toNat - 65)
  else if 'a' ≤ c ∧ c ≤ 'z' then some (c.toNat - 71)
  else if c.isDigit then some (c.toNat + 4)
  else if c = '+' then some 62
  else if c = '/' then some 63
  else none

/-- The bytes that base 64 writes.  Characters outside the alphabet are skipped; `held` are the
characters of the current group of four, and `pads` the padding signs after them. -/
def base64Bytes? (held : List Nat) (pads : Nat) : List Char → Option (List UInt8)
  | [] => if held.isEmpty then some [] else none
  | c :: cs =>
    let done := match held with
      | [a, b] => [UInt8.ofNat (a * 4 + b / 16)]
      | [a, b, d] => [UInt8.ofNat (a * 4 + b / 16), UInt8.ofNat (b * 16 + d / 4)]
      | _ => []
    if c = '=' then
      if 2 ≤ held.length ∧ 4 ≤ held.length + pads + 1 then some done
      else base64Bytes? held (if 2 ≤ held.length then pads + 1 else pads) cs
    else
      match base64Value? c with
      | none => base64Bytes? held pads cs
      | some v =>
        match held with
        | [a, b, d] =>
          (base64Bytes? [] 0 cs).map fun bs =>
            UInt8.ofNat (a * 4 + b / 16) :: UInt8.ofNat (b * 16 + d / 4) ::
              UInt8.ofNat (d * 64 + v) :: bs
        | held => base64Bytes? (held ++ [v]) 0 cs

/-- Bytes in base 64. -/
def binaryValue (s : String) : Except Defect Datum :=
  if s.toList.all fun c => c.toNat < 128 then
    match base64Bytes? [] 0 s.toList with
    | some bs => .ok (.bytes bs)
    | none => .error .malformed
  else .error .malformed

/-- The datum that a text writes under a meaning. -/
def scalarDatum (kind : Kind) (s : String) : Except Defect Datum :=
  match kind with
  | .null => .ok .null
  | .bool => .bool <$> boolValue s
  | .int => .int <$> intValue s
  | .float => .float <$> floatValue s
  | .text => .ok (.text s)
  | .timestamp => timestampValue s
  | .binary => binaryValue s
  | _ => .error .malformed

end Conveyor.Yaml
