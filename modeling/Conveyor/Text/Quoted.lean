/-
**Texts written between quotes.**

Messages show texts between quotes: single quotes, or double quotes when the text holds a single
quote and no double one.  The quote in use and the backslash are escaped by a backslash; line feed,
carriage return and tab have short escapes; every other character that is not printable is written
by its code point, in two, four or eight hexadecimal digits.

An escape can name a code point between U+D800 and U+DFFF, which belongs to no character.  A text
with such a code point is kept as a row of code points.

Main definitions:

* `Conveyor.Text.hexDigits` — a number in hexadecimal digits, padded to a width;
* `Conveyor.Text.quoteFor` — the quote a text is written in;
* `Conveyor.Text.quoted` — a text between quotes;
* `Conveyor.Text.quotedList` — texts between quotes, in brackets;
* `Conveyor.Text.ofCodes?` — the text of code points that are all characters;
* `Conveyor.Text.replaced` — a text with signs of replacement for the other code points;
* `Conveyor.Text.quotedCodes` — code points between quotes.

Main results:

* `Conveyor.Text.ofCodes?_toNat` — the code points of a text give the text back.
-/

import Conveyor.Text.Printable

set_option autoImplicit false

namespace Conveyor.Text

/-- The lower-case hexadecimal digit of a number below sixteen. -/
def hexDigit (n : Nat) : Char :=
  if n < 10 then Char.ofNat (48 + n) else Char.ofNat (87 + n)

/-- A number in exactly `width` hexadecimal digits, leading zeros included. -/
def hexDigits : Nat → Nat → List Char
  | 0, _ => []
  | width + 1, n => hexDigits width (n / 16) ++ [hexDigit (n % 16)]

/-- The quote a text is written in: double when it holds a single quote and no double one. -/
def quoteFor (s : String) : Char :=
  if s.toList.contains '\'' && !s.toList.contains '"' then '"' else '\''

/-- One character of a text that stands between the quotes `q`. -/
def quotedChar (q c : Char) : List Char :=
  if c = q ∨ c = '\\' then ['\\', c]
  else if c = '\n' then ['\\', 'n']
  else if c = '\r' then ['\\', 'r']
  else if c = '\t' then ['\\', 't']
  else if isPrintable c then [c]
  else if c.toNat < 0x100 then '\\' :: 'x' :: hexDigits 2 c.toNat
  else if c.toNat < 0x10000 then '\\' :: 'u' :: hexDigits 4 c.toNat
  else '\\' :: 'U' :: hexDigits 8 c.toNat

/-- A text between quotes. -/
def quoted (s : String) : String :=
  let q := quoteFor s
  String.ofList (q :: s.toList.flatMap (quotedChar q) ++ [q])

/-- Texts between quotes, separated by commas, in brackets. -/
def quotedList (ss : List String) : String :=
  "[" ++ ", ".intercalate (ss.map quoted) ++ "]"

/-! ### Texts that hold code points which are no characters -/

/-- The character of a code point, if it is one. -/
def charOf? (n : Nat) : Option Char := if n.isValidChar then some (Char.ofNat n) else none

/-- The text of code points that are all characters. -/
def ofCodes? (cs : List Nat) : Option String := String.ofList <$> cs.mapM charOf?

theorem charOf?_toNat (c : Char) : charOf? c.toNat = some c := by
  have h : c.toNat.isValidChar := c.valid
  simp [charOf?, h]

/-- The code points of a text give the text back. -/
theorem ofCodes?_toNat (cs : List Char) : ofCodes? (cs.map Char.toNat) = some (String.ofList cs) := by
  have h : (cs.map Char.toNat).mapM charOf? = some cs := by
    induction cs with
    | nil => rfl
    | cons c cs ih => simp [List.mapM_cons, charOf?_toNat, ih]
  simp [ofCodes?, h]

/-- The sign of replacement. -/
def replacement : Char := '\uFFFD'

/-- A text with `times` signs of replacement for each code point that is no character. -/
def replaced (times : Nat) (cs : List Nat) : String :=
  String.ofList (cs.flatMap fun n =>
    match charOf? n with
    | some c => [c]
    | none => List.replicate times replacement)

/-- Code points between quotes; those that are no characters are escaped. -/
def quotedCodes (cs : List Nat) : String :=
  let q := quoteFor (replaced 1 cs)
  String.ofList (q :: cs.flatMap (fun n =>
    match charOf? n with
    | some c => quotedChar q c
    | none => '\\' :: 'u' :: hexDigits 4 n) ++ [q])

end Conveyor.Text
