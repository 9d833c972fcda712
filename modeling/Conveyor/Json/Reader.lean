/-
**Reading JSON.**

The entries of an object keep the order in which they are written; a key that is written again
replaces the value and keeps the place of the first.  A number with a fraction or an exponent is a
float, any other one a whole number of any size.

Main definitions:

* `Conveyor.Json.number?` — a number at the front of a text;
* `Conveyor.Json.stringBody?` — the rest of a string up to its closing quote;
* `Conveyor.Json.parse?` — a text that is one JSON value.
-/

import Conveyor.Datum.Basic

set_option autoImplicit false

namespace Conveyor.Json

/-- Drops the blanks that may stand between two tokens. -/
def skip (cs : List Char) : List Char :=
  cs.dropWhile fun c => c == ' ' || c == '\n' || c == '\r' || c == '\t'

/-- The value of a hexadecimal digit. -/
def hexValue? (c : Char) : Option Nat :=
  if c.isDigit then some (c.toNat - 48)
  else if 'a' ≤ c ∧ c ≤ 'f' then some (c.toNat - 87)
  else if 'A' ≤ c ∧ c ≤ 'F' then some (c.toNat - 55)
  else none

/-- Four hexadecimal digits. -/
def hex4? : List Char → Option (Nat × List Char)
  | a :: b :: c :: d :: cs => do
    let a ← hexValue? a
    let b ← hexValue? b
    let c ← hexValue? c
    let d ← hexValue? d
    return (((a * 16 + b) * 16 + c) * 16 + d, cs)
  | _ => none

/-- The character of a short escape. -/
def shortEscape? : Char → Option Char
  | '"' => some '"'
  | '\\' => some '\\'
  | '/' => some '/'
  | 'b' => some (Char.ofNat 8)
  | 'f' => some (Char.ofNat 12)
  | 'n' => some '\n'
  | 'r' => some '\r'
  | 't' => some '\t'
  | _ => none

/-- The character that a pair of UTF-16 units stands for. -/
def pairChar (high low : Nat) : Char :=
  Char.ofNat (0x10000 + (high - 0xD800) * 0x400 + (low - 0xDC00))

/-- The rest of a string up to its closing quote; `acc` holds the characters so far, last first. -/
def stringBody? : Nat → List Char → List Char → Option (String × List Char)
  | 0, _, _ => none
  | fuel + 1, acc, cs =>
    match cs with
    | [] => none
    | '"' :: cs => some (String.ofList acc.reverse, cs)
    | '\\' :: 'u' :: cs =>
      match hex4? cs with
      | none => none
      | some (n, cs) =>
        if 0xD800 ≤ n ∧ n < 0xDC00 then
          match cs with
          | '\\' :: 'u' :: cs' =>
            match hex4? cs' with
            | some (m, cs'') =>
              if 0xDC00 ≤ m ∧ m < 0xE000 then stringBody? fuel (pairChar n m :: acc) cs''
              else stringBody? fuel (Char.ofNat 0xFFFD :: acc) cs
            | none => none
          | _ => stringBody? fuel (Char.ofNat 0xFFFD :: acc) cs
        else stringBody? fuel (Char.ofNat n :: acc) cs
    | '\\' :: c :: cs =>
      match shortEscape? c with
      | some c => stringBody? fuel (c :: acc) cs
      | none => none
    | c :: cs => stringBody? fuel (c :: acc) cs

/-- The number written by decimal digits. -/
def digitsValue (cs : List Char) : Nat := cs.foldl (fun n c => 10 * n + (c.toNat - 48)) 0

/-- The float `m · 10^e`, where exponents far outside the range of floats are cut off. -/
def scientific (m : Nat) (e : Int) : Float :=
  if m = 0 then 0
  else
    let size : Int := (Nat.toDigits 10 m).length
    if e + size > 400 then 1.0 / 0.0
    else if e + size < -400 then 0
    else Float.ofScientific m (e < 0) e.natAbs

/-- A number at the front of a text. -/
def number? (cs : List Char) : Option (Datum × List Char) :=
  let (negative, cs) := match cs with
    | '-' :: cs => (true, cs)
    | cs => (false, cs)
  let (whole, cs) := cs.span Char.isDigit
  if whole.isEmpty then none
  else
    let (fraction, cs) := match cs with
      | '.' :: rest =>
        let (ds, rest) := rest.span Char.isDigit
        (some ds, rest)
      | cs => (none, cs)
    let (exponent, cs) := match cs with
      | e :: rest =>
        if e == 'e' || e == 'E' then
          let (sign, rest) := match rest with
            | '-' :: rest => (true, rest)
            | '+' :: rest => (false, rest)
            | rest => (false, rest)
          let (ds, rest) := rest.span Char.isDigit
          (some (if sign then -(Int.ofNat (digitsValue ds)) else Int.ofNat (digitsValue ds)), rest)
        else (none, cs)
      | [] => (none, [])
    match fraction, exponent with
    | none, none =>
      let n : Int := digitsValue whole
      some (.int (if negative then -n else n), cs)
    | fraction, exponent =>
      let ds := fraction.getD []
      let x := scientific (digitsValue (whole ++ ds)) (exponent.getD 0 - ds.length)
      some (.float (if negative then -x else x), cs)

mutual
/-- A value at the front of a text without leading blanks. -/
def value? : Nat → List Char → Option (Datum × List Char)
  | 0, _ => none
  | fuel + 1, cs =>
    match cs with
    | '"' :: cs => do
      let (s, cs) ← stringBody? fuel [] cs
      return (.text s, cs)
    | '[' :: cs =>
      match skip cs with
      | ']' :: cs => some (.list [], cs)
      | cs => do
        let (items, cs) ← items? fuel cs
        return (.list items, cs)
    | '\x7b' :: cs =>
      match skip cs with
      | '\x7d' :: cs => some (.dict [], cs)
      | cs => do
        let (entries, cs) ← entries? fuel [] cs
        return (.dict entries, cs)
    | 'n' :: 'u' :: 'l' :: 'l' :: cs => some (.null, cs)
    | 't' :: 'r' :: 'u' :: 'e' :: cs => some (.bool true, cs)
    | 'f' :: 'a' :: 'l' :: 's' :: 'e' :: cs => some (.bool false, cs)
    | 'N' :: 'a' :: 'N' :: cs => some (.float (0.0 / 0.0), cs)
    | 'I' :: 'n' :: 'f' :: 'i' :: 'n' :: 'i' :: 't' :: 'y' :: cs => some (.float (1.0 / 0.0), cs)
    | '-' :: 'I' :: 'n' :: 'f' :: 'i' :: 'n' :: 'i' :: 't' :: 'y' :: cs =>
      some (.float (-1.0 / 0.0), cs)
    | cs => number? cs

/-- The items of an array, up to and with its closing bracket. -/
def items? : Nat → List Char → Option (List Datum × List Char)
  | 0, _ => none
  | fuel + 1, cs => do
    let (item, cs) ← value? fuel cs
    match skip cs with
    | ',' :: cs =>
      let (items, cs) ← items? fuel (skip cs)
      return (item :: items, cs)
    | ']' :: cs => return ([item], cs)
    | _ => none

/-- The entries of an object, up to and with its closing brace. -/
def entries? : Nat → List (Datum × Datum) → List Char → Option (List (Datum × Datum) × List Char)
  | 0, _, _ => none
  | fuel + 1, done, cs =>
    match cs with
    | '"' :: cs => do
      let (k, cs) ← stringBody? fuel [] cs
      match skip cs with
      | ':' :: cs =>
        let (v, cs) ← value? fuel (skip cs)
        let done := Datum.put done (.text k) v
        match skip cs with
        | ',' :: cs => entries? fuel done (skip cs)
        | '\x7d' :: cs => return (done, cs)
        | _ => none
      | _ => none
    | _ => none
end

/-- The datum that a text writes, if it is one JSON value with blanks around it. -/
def parse? (s : String) : Option Datum :=
  let cs := s.toList
  match value? (cs.length + 1) (skip cs) with
  | some (d, rest) => if (skip rest).isEmpty then some d else none
  | none => none

end Conveyor.Json
