/-
**Decimals with a fixed number of digits.**

A finite float is a fraction of two natural numbers.  It is rounded to a number of places after the
point, or to a number of digits, to the nearest decimal; of two that are equally near, to the even
one.

Main definitions:

* `Conveyor.Decimal.nearest` — a quotient as the nearest natural number;
* `Conveyor.Decimal.inPlaces` — a float with so many places after the point;
* `Conveyor.Decimal.inDigits` — a float as one digit before the point and so many after it, and the
  exponent.
-/

import Conveyor.Decimal.Shortest

set_option autoImplicit false

namespace Conveyor.Decimal

/-- A quotient as the nearest natural number; of two, the even one. -/
def nearest (num den : Nat) : Nat :=
  let down := num / den
  let rest := 2 * (num % den)
  if rest < den then down
  else if den < rest then down + 1
  else if down % 2 == 0 then down else down + 1

/-- The magnitude of a finite float as an exact fraction. -/
def fractionOf (x : Float) : Nat × Nat :=
  let bits := x.toBits.toNat
  let biased := bits / Nat.pow 2 52 % Nat.pow 2 11
  let fraction := bits % Nat.pow 2 52
  let m := if biased == 0 then fraction else Nat.pow 2 52 + fraction
  let q : Int := Int.ofNat (if biased == 0 then 1 else biased) - 1075
  (m * Nat.pow 2 q.toNat, Nat.pow 2 (-q).toNat)

/-- Digits with a point before the last few of them. -/
def pointed (places : Nat) (ds : List Char) : List Char :=
  let ds := List.replicate (places + 1 - ds.length) '0' ++ ds
  let whole := ds.take (ds.length - places)
  if places = 0 then whole else whole ++ '.' :: ds.drop (ds.length - places)

/-- The magnitude of a finite float with so many places after the point. -/
def inPlaces (places : Nat) (x : Float) : List Char :=
  let (num, den) := fractionOf x
  pointed places (digits (nearest (num * Nat.pow 10 places) den))

/-- The magnitude of a finite float as one digit before the point and so many after it, without the
point, and the exponent of ten. -/
def inDigits (places : Nat) (x : Float) : List Char × Int :=
  let (num, den) := fractionOf x
  if num = 0 then (List.replicate (places + 1) '0', 0)
  else
    let b : Binary := { value := num, low := num, high := num, scale := den, closed := true }
    let k := b.magnitude
    let up := (Int.ofNat places + 1 - k)
    let ds := digits (nearest (num * Nat.pow 10 up.toNat) (den * Nat.pow 10 (-up).toNat))
    if ds.length = places + 1 then (ds, k - 1) else (ds.take (places + 1), k)

/-- The text of a float with an exponent. -/
def withExponent (places : Nat) (x : Float) : List Char :=
  let (ds, e) := inDigits places x
  pointed places ds ++ (exponentText e).toList

/-- The text of a float with so many digits, with an exponent only where it is small or has more
digits before the point; zeros at the end of the places are dropped unless they are `kept`. -/
def inShort (count : Nat) (kept : Bool) (x : Float) : List Char :=
  let count := max 1 count
  let (ds, e) := inDigits (count - 1) x
  let trim := fun (cs : List Char) =>
    if kept || !cs.contains '.' then cs
    else
      let cs := (cs.reverse.dropWhile (· == '0')).reverse
      if cs.getLast? == some '.' then cs.dropLast else cs
  if e < -4 || Int.ofNat count ≤ e then trim (pointed (count - 1) ds) ++ (exponentText e).toList
  else trim (inPlaces (Int.ofNat count - 1 - e).toNat x)

end Conveyor.Decimal
