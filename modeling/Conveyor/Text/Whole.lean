/-
**Whole numbers in a form that forgives.**

Settings and fields that are whole numbers may be given as texts.  Blanks around the text, a plus
sign, zeros in front, single underscores between digits, and a fraction of zeros do not matter.  The
zeros in front may have underscores among them, and a minus sign may stand before or after them.

Main definitions:

* `Conveyor.Text.WholeError` — why a text is no whole number;
* `Conveyor.Text.fromFirstDigit?` — a number without the zeros in front of it;
* `Conveyor.Text.withoutZeroFraction` — a number without a fraction of zeros;
* `Conveyor.Text.plainForm?` — a sign and the digits that matter;
* `Conveyor.Text.readWhole` — the whole number that a text gives.
-/

import Conveyor.Text.Blank

set_option autoImplicit false

namespace Conveyor.Text

/-- Why a text is no whole number. -/
inductive WholeError where
  | malformed
  | tooLong
  deriving DecidableEq, Repr

/-- The greatest number of digits of a whole number. -/
def maxDigits : Nat := 4300

/-- The blanks that may stand around a number: white space without the information separators. -/
def isPadding (c : Char) : Bool := isBlank c && !(28 ≤ c.toNat && c.toNat ≤ 31)

/-- A text without the blanks around it. -/
def unpadded (s : String) : List Char :=
  ((s.toList.dropWhile isPadding).reverse.dropWhile isPadding).reverse

/-- Whether a number without zeros in front may begin with a character. -/
def opensNumber (c : Char) : Bool := c == '-' || (c.isDigit && c != '0')

/-- What follows zeros and underscores, where `last` is the one before.  Before a point and at the
end the last one stays. -/
def afterZeros? (last : Char) : List Char → Option (List Char)
  | [] => some [last]
  | c :: cs =>
    if c = '0' ∨ c = '_' then afterZeros? c cs
    else if opensNumber c then some (c :: cs)
    else if c = '.' then some (last :: c :: cs)
    else none

/-- A number without the zeros in front of it. -/
def fromFirstDigit? : List Char → Option (List Char)
  | [] => none
  | c :: cs =>
    if c = '0' then afterZeros? c cs
    else if opensNumber c then some (c :: cs)
    else none

/-- A number without a point that zeros follow, at least one and nothing else. -/
def withoutZeroFraction (cs : List Char) : List Char :=
  match cs.dropWhile (· != '.') with
  | _ :: z :: zs => if (z :: zs).all (· == '0') then cs.takeWhile (· != '.') else cs
  | _ => cs

/-- Whether two underscores stand side by side. -/
def hasDoubleJoint : List Char → Bool
  | '_' :: '_' :: _ => true
  | _ :: cs => hasDoubleJoint cs
  | [] => false

/-- A number without its underscores, if they stand inside it and one at a time. -/
def withoutJoints (cs : List Char) : List Char :=
  if cs.head? = some '_' ∨ cs.getLast? = some '_' ∨ hasDoubleJoint cs then cs
  else cs.filter (· != '_')

/-- The value of ASCII digits. -/
def asciiNumber (cs : List Char) : Nat := cs.foldl (fun n c => 10 * n + (c.toNat - 48)) 0

/-- The digits of a number without the zeros in front, without a fraction of zeros, and without
underscores. -/
def plainDigits? (cs : List Char) : Option (List Char) :=
  (fromFirstDigit? cs).map fun ds => withoutJoints (withoutZeroFraction ds)

/-- The plain form of a number.  A plus sign in front is dropped, unless a minus sign follows it; a
minus sign stays. -/
def plainForm? : List Char → Option (List Char)
  | '+' :: '-' :: _ => none
  | '+' :: cs => plainDigits? cs
  | '-' :: cs => (plainDigits? cs).map ('-' :: ·)
  | cs => plainDigits? cs

/-- The number that digits stand for; the first of them is zero only if it is the only one.  Too
many digits are told before anything that follows them. -/
def naturalNumber (cs : List Char) : Except WholeError Nat :=
  let run := cs.takeWhile Char.isDigit
  if run.isEmpty then .error .malformed
  else if run.head? = some '0' then (if cs = ['0'] then .ok 0 else .error .malformed)
  else if maxDigits < run.length then .error .tooLong
  else if run.length < cs.length then .error .malformed
  else .ok (asciiNumber run)

/-- The number of a plain form. -/
def plainNumber : List Char → Except WholeError Int
  | '-' :: cs => (naturalNumber cs).map fun n => -(Int.ofNat n)
  | cs => (naturalNumber cs).map Int.ofNat

/-- The whole number that a text gives. -/
def readWhole (s : String) : Except WholeError Int :=
  match plainForm? (unpadded s) with
  | none => .error .malformed
  | some cs => plainNumber cs

end Conveyor.Text
