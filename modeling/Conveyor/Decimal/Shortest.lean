/-
**The shortest decimal that reads back.**

A finite binary number `m · 2^q` is the nearest one to every real of an interval around it.  Its
shortest decimal is the one with the fewest digits in that interval, and the nearest of those.  For
`n` digits the candidates are the two neighbours of the number on the grid of `n`-digit decimals,
so the search tries `n = 1, 2, …, 17` in exact arithmetic on natural numbers.

Main definitions:

* `Conveyor.Decimal` — a sign, decimal digits and the exponent of the first digit;
* `Conveyor.Decimal.Binary` — a number `m · 2^(q - 2)` with the ends of its interval;
* `Conveyor.Decimal.ofFloat` — the shortest decimal of a finite float;
* `Conveyor.Decimal.wholeOfFloat?` — the whole number that a float is exactly.
-/

set_option autoImplicit false

namespace Conveyor

/-- A decimal number: the digits `d₀ d₁ …` of `coefficient` stand for `d₀.d₁… · 10^exponent`. -/
structure Decimal where
  negative : Bool
  coefficient : Nat
  exponent : Int
  deriving DecidableEq, Repr

namespace Decimal

/-- The decimal digits of a number, first one first. -/
def digits (n : Nat) : List Char := Nat.toDigits 10 n

/-- The exact number `value / scale` with the ends `low / scale` and `high / scale` of the interval
of reals that round to it; `closed` says whether the ends belong to it. -/
structure Binary where
  value : Nat
  low : Nat
  high : Nat
  scale : Nat
  closed : Bool

/-- The number `m · 2^q`; `edge` says that the gap below it is half the gap above. -/
def Binary.ofParts (m : Nat) (q : Int) (edge : Bool) : Binary :=
  let up := Nat.pow 2 (q - 2).toNat
  { value := 4 * m * up
    low := (4 * m - (if edge then 1 else 2)) * up
    high := (4 * m + 2) * up
    scale := Nat.pow 2 (2 - q).toNat
    closed := m % 2 == 0 }

/-- Whether the decimal `num / den` rounds to the number. -/
def Binary.holds (b : Binary) (num den : Nat) : Bool :=
  if b.closed then b.low * den ≤ num * b.scale && num * b.scale ≤ b.high * den
  else b.low * den < num * b.scale && num * b.scale < b.high * den

/-- The number of decimal digits before the point, not positive for numbers below one: the least
`k` with `value / scale < 10^k`. -/
def Binary.magnitude (b : Binary) : Int :=
  if b.scale ≤ b.value then (digits (b.value / b.scale)).length
  else below b.value 400 0
where
  /-- Multiplies by ten until one is reached. -/
  below (v : Nat) : Nat → Int → Int
    | 0, k => k
    | fuel + 1, k => if b.scale ≤ 10 * v then k else below (10 * v) fuel (k - 1)

/-- The neighbour of the number on the grid of `n`-digit decimals that rounds to it, the nearer one
if both do: a coefficient in units of `10^(k - n)`. -/
def Binary.onGrid? (b : Binary) (k : Int) (n : Nat) : Option Nat :=
  let unit := k - n
  let mul := Nat.pow 10 (-unit).toNat
  let div := Nat.pow 10 unit.toNat
  let down := b.value * mul / (b.scale * div)
  let fits c := b.holds (c * div) mul
  match fits down, fits (down + 1) with
  | true, true =>
    if 2 * (b.value * mul) ≤ (2 * down + 1) * (b.scale * div) then some down else some (down + 1)
  | true, false => some down
  | false, true => some (down + 1)
  | false, false => none

/-- The first grid with a hit, from `n` digits on. -/
def Binary.search (b : Binary) (k : Int) : Nat → Nat → Nat × Nat
  | 0, n => (b.value, n)
  | fuel + 1, n =>
    match b.onGrid? k n with
    | some c => (c, n)
    | none => b.search k fuel (n + 1)

/-- A coefficient without its trailing zeros. -/
def trimZeros : Nat → Nat → Nat
  | 0, c => c
  | fuel + 1, c => if c % 10 == 0 && c != 0 then trimZeros fuel (c / 10) else c

/-- The shortest decimal of a finite float. -/
def ofFloat (x : Float) : Decimal :=
  let bits := x.toBits.toNat
  let negative := bits / Nat.pow 2 63 == 1
  let biased := bits / Nat.pow 2 52 % Nat.pow 2 11
  let fraction := bits % Nat.pow 2 52
  if biased == 0 && fraction == 0 then ⟨negative, 0, 0⟩
  else
    let m := if biased == 0 then fraction else Nat.pow 2 52 + fraction
    let q : Int := Int.ofNat (if biased == 0 then 1 else biased) - 1075
    let b := Binary.ofParts m q (fraction == 0 && biased > 1)
    let k := b.magnitude
    let (c, n) := b.search k 17 1
    let length : Int := (digits c).length
    ⟨negative, trimZeros 20 c, k - n + length - 1⟩

/-- The whole number that a float is exactly, if it is one. -/
def wholeOfFloat? (x : Float) : Option Int :=
  let bits := x.toBits.toNat
  let biased := bits / Nat.pow 2 52 % Nat.pow 2 11
  let fraction := bits % Nat.pow 2 52
  let m := if biased == 0 then fraction else Nat.pow 2 52 + fraction
  let q : Int := Int.ofNat (if biased == 0 then 1 else biased) - 1075
  let down := Nat.pow 2 (-q).toNat
  if biased == 2047 || m % down != 0 then none
  else
    let n := Int.ofNat (m / down * Nat.pow 2 q.toNat)
    some (if bits / Nat.pow 2 63 == 1 then -n else n)

/-! ### Writing a decimal -/

/-- How a decimal number is written: positionally when its exponent lies between the two bounds,
with an exponent of at least two digits otherwise. -/
structure Layout where
  leastPositional : Int
  mostPositional : Int
  deriving DecidableEq, Repr

/-- An exponent: a sign and at least two digits. -/
def exponentText (e : Int) : String :=
  let ds := digits e.natAbs
  (if e < 0 then "e-" else "e+") ++ String.ofList (if ds.length < 2 then '0' :: ds else ds)

/-- The digits with a point after the first one, and no point after a single digit. -/
def mantissaText (c : Nat) : String :=
  match digits c with
  | [] => ""
  | [d] => String.ofList [d]
  | d :: ds => String.ofList (d :: '.' :: ds)

/-- The digits with the point where the exponent puts it, and at least one digit on each side. -/
def positionalText (c : Nat) (e : Int) : String :=
  let ds := digits c
  if e < 0 then "0." ++ String.ofList (List.replicate (-e - 1).toNat '0' ++ ds)
  else
    let whole := ds.take (e.toNat + 1)
    let rest := ds.drop (e.toNat + 1)
    String.ofList (whole ++ List.replicate (e.toNat + 1 - whole.length) '0') ++ "." ++
      (if rest.isEmpty then "0" else String.ofList rest)

/-- A decimal number in a layout. -/
def render (l : Layout) (d : Decimal) : String :=
  (if d.negative then "-" else "") ++
    if l.leastPositional ≤ d.exponent && d.exponent ≤ l.mostPositional then
      positionalText d.coefficient d.exponent
    else mantissaText d.coefficient ++ exponentText d.exponent

/-- Numbers in messages and documents are positional from `0.0001` to below `10^16`. -/
def plain : Layout := ⟨-4, 15⟩

/-- A float as messages and documents write it. -/
def floatText (x : Float) : String :=
  if x.isNaN then "nan"
  else if x.isInf then (if x < 0 then "-inf" else "inf")
  else render plain (ofFloat x)

end Decimal

end Conveyor
