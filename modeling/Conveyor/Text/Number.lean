/-
**Numbers read from texts.**

A whole number has an optional sign and digits of a base, with single underscores between digits
and blanks around the whole; in the bases 2, 8 and 16 the digits may follow a mark of the base.  A
decimal has a whole part, a fraction and an exponent, or is one of the names of infinity and of
"not a number".  Digits of every script count: those of the category "decimal number", where each
script has its ten digits in a row that begins with its zero.  A whole number of base ten has a bounded
number of digits.

Main definitions:

* `Conveyor.Text.digitZeros` — the zero of every script;
* `Conveyor.Text.digitValue?` — the value of a digit of any script;
* `Conveyor.Text.digits?` — a run of digits with single underscores between them;
* `Conveyor.Text.wholeNumber?` — a signed whole number with blanks around it;
* `Conveyor.Text.NumberError` — what is wrong with a number;
* `Conveyor.Text.magnitude` — digits of a base, without a sign;
* `Conveyor.Text.wholeNumberIn` — a whole number of a base;
* `Conveyor.Text.wholeNumber` — a whole number of base ten;
* `Conveyor.Text.decimal` — a float.
-/

import Conveyor.Json.Reader
import Conveyor.Text.Blank
import Conveyor.Text.Quoted
import Conveyor.Text.Case
import Conveyor.Text.Whole

set_option autoImplicit false

namespace Conveyor.Text

/-! ### Digits of all scripts -/

/-- The digit zero of every script. -/
def digitZeros : List Nat := [
  48, 1632, 1776, 1984, 2406, 2534, 2662, 2790, 2918, 3046, 3174, 3302, 3430, 3558, 3664, 3792,
  3872, 4160, 4240, 6112, 6160, 6470, 6608, 6784, 6800, 6992, 7088, 7232, 7248, 42528, 43216,
  43264, 43472, 43504, 43600, 44016, 65296, 66720, 68912, 69734, 69872, 69942, 70096, 70384,
  70736, 70864, 71248, 71360, 71472, 71904, 72016, 72784, 73040, 73120, 92768, 92864, 93008,
  120782, 120792, 120802, 120812, 120822, 123200, 123632, 125264, 130032]

/-- The value of a decimal digit of any script. -/
def digitValue? (c : Char) : Option Nat :=
  if c.toNat < 128 then
    if c.isDigit then some (c.toNat - 48) else none
  else
    (digitZeros.find? fun z => z ≤ c.toNat && c.toNat < z + 10).map fun z => c.toNat - z

/-- Reads digits onto the value read so far.  `inside` says that the last character was a digit, so
that an underscore or the end may follow. -/
def digitsFrom? (digit? : Char → Option Nat) : Bool → Nat → List Char → Option Nat
  | inside, n, [] => if inside then some n else none
  | inside, n, c :: cs =>
    if c = '_' then
      if inside then digitsFrom? digit? false n cs else none
    else
      match digit? c with
      | some d => digitsFrom? digit? true (10 * n + d) cs
      | none => none

/-- The number written by a non-empty run of digits with single underscores between them. -/
def digits? (cs : List Char) : Option Nat := digitsFrom? digitValue? false 0 cs

/-- A whole number: an optional sign and digits of any script, with blanks around the whole. -/
def wholeNumber? (s : String) : Option Int :=
  match stripList s.toList with
  | '+' :: cs => (digits? cs).map Int.ofNat
  | '-' :: cs => (digits? cs).map fun n => -(Int.ofNat n)
  | cs => (digits? cs).map Int.ofNat

/-! ### Numbers of a base, and decimals -/

/-- What is wrong with a number. -/
inductive NumberError where
  | notWhole (base : Nat) (text : String)
  | tooLong (digits : Nat)
  | notDecimal (text : String)
  deriving DecidableEq, Repr

/-- How much of a text the wording of an error shows, quotes included. -/
def shownWidth : Nat := 200

/-- A text between quotes, as far as an error shows it. -/
def quotedFront (s : String) : String := String.ofList ((quoted s).toList.take shownWidth)

/-- The wording of what is wrong with a number. -/
def NumberError.message : NumberError → String
  | .notWhole base text =>
    "invalid literal for int() with base " ++ toString base ++ ": " ++ quotedFront text
  | .tooLong n =>
    "Exceeds the limit (" ++ toString maxDigits ++ " digits) for integer string conversion: value has "
      ++ toString n ++ " digits; use sys.set_int_max_str_digits() to increase the limit"
  | .notDecimal text => "could not convert string to float: " ++ quoted text

/-- The value of a digit of a base. -/
def digitOf? (base : Nat) (c : Char) : Option Nat :=
  match (digitValue? c).or (Json.hexValue? c) with
  | some d => if d < base then some d else none
  | none => none

/-- Reads digits of a base onto the value read so far, as `digitsFrom?` does. -/
def digitsOf? (base : Nat) : Bool → Nat → List Char → Option Nat
  | inside, n, [] => if inside then some n else none
  | inside, n, c :: cs =>
    if c = '_' then
      if inside then digitsOf? base false n cs else none
    else
      match digitOf? base c with
      | some d => digitsOf? base true (base * n + d) cs
      | none => none

/-- The mark of a base at the front of digits, and one underscore after it, are dropped. -/
def dropMark (base : Nat) (cs : List Char) : List Char :=
  match cs with
  | '0' :: m :: rest =>
    let marked := base == 2 && (m == 'b' || m == 'B') || base == 8 && (m == 'o' || m == 'O') ||
      base == 16 && (m == 'x' || m == 'X')
    if marked then
      match rest with
      | '_' :: rest' => rest'
      | rest' => rest'
    else cs
  | cs => cs

/-- The digits and underscores at the front of a text. -/
def frontRun (cs : List Char) : List Char :=
  cs.takeWhile fun c => c == '_' || (digitValue? c).isSome

/-- The number of digits at the front of a text, if the underscores among them stand one at a time
between two digits. -/
def digitCount (cs : List Char) : Nat :=
  let run := frontRun cs
  if run.head? == some '_' || run.getLast? == some '_' || hasDoubleJoint run then 0
  else (run.filter (· != '_')).length

/-- The number that digits of a base write; `text` is the whole text that is read. -/
def magnitude (base : Nat) (text : String) (cs : List Char) : Except NumberError Nat :=
  if base = 10 ∧ maxDigits < digitCount cs then .error (.tooLong (digitCount cs))
  else
    match digitsOf? base false 0 (dropMark base cs) with
    | some n => .ok n
    | none => .error (.notWhole base text)

/-- A signed whole number of a base. -/
def wholeNumberIn (base : Nat) (s : String) : Except NumberError Int :=
  match unpadded s with
  | '+' :: cs => Int.ofNat <$> magnitude base s cs
  | '-' :: cs => (fun n => -Int.ofNat n) <$> magnitude base s cs
  | cs => Int.ofNat <$> magnitude base s cs

/-- A signed whole number of base ten. -/
def wholeNumber (s : String) : Except NumberError Int := wholeNumberIn 10 s

/-! ### Decimals -/

/-- Drops an underscore that stands before a digit. -/
def dropJoint (cs : List Char) : List Char :=
  match cs with
  | '_' :: c :: rest => if (digitValue? c).isSome then c :: rest else cs
  | cs => cs

theorem length_dropJoint (cs : List Char) : (dropJoint cs).length ≤ cs.length := by
  unfold dropJoint
  split
  · split <;> simp
  · exact Nat.le_refl _

/-- Digits at the front of a text, with single underscores between them: their values and what
follows. -/
def digitRun (cs : List Char) : List Nat × List Char :=
  match cs with
  | [] => ([], [])
  | c :: rest =>
    match digitValue? c with
    | some d =>
      let (ds, tail) := digitRun (dropJoint rest)
      (d :: ds, tail)
    | none => ([], cs)
  termination_by cs.length
  decreasing_by
    have := length_dropJoint rest
    simp only [List.length_cons]
    omega

/-- The value of digits. -/
def digitsNumber (ds : List Nat) : Nat := ds.foldl (fun n d => 10 * n + d) 0

/-- An exponent at the front of a text, if there is one. -/
def exponent? (cs : List Char) : Option (Int × List Char) :=
  match cs with
  | [] => some (0, [])
  | e :: rest =>
    if e = 'e' ∨ e = 'E' then
      let (negative, rest) := match rest with
        | '+' :: rest => (false, rest)
        | '-' :: rest => (true, rest)
        | rest => (false, rest)
      match digitRun rest with
      | ([], _) => none
      | (ds, tail) =>
        let n := Int.ofNat (digitsNumber ds)
        some (if negative then -n else n, tail)
    else some (0, cs)

/-- A float without a sign. -/
def unsignedDecimal? (cs : List Char) : Option Float :=
  let word := (lower (String.ofList cs))
  if word = "inf" ∨ word = "infinity" then some (1.0 / 0.0)
  else if word = "nan" then some (0.0 / 0.0)
  else
    let (whole, rest) := digitRun cs
    let (fraction, rest) := match rest with
      | '.' :: rest => digitRun rest
      | rest => ([], rest)
    if whole.isEmpty && fraction.isEmpty then none
    else
      match exponent? rest with
      | some (e, []) =>
        some (Json.scientific (digitsNumber (whole ++ fraction)) (e - fraction.length))
      | _ => none

/-- A float: an optional sign and a decimal, with blanks around the whole. -/
def decimal (s : String) : Except NumberError Float :=
  let found := match unpadded s with
    | '+' :: cs => unsignedDecimal? cs
    | '-' :: cs => (unsignedDecimal? cs).map fun x => -x
    | cs => unsignedDecimal? cs
  match found with
  | some x => .ok x
  | none => .error (.notDecimal s)

end Conveyor.Text
