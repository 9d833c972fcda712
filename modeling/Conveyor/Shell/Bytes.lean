/-
**Texts of bytes.**

What a script works with is bytes, and they need not be the bytes of a text.  A text of bytes has one
character for each of them.

Main definitions:

* `Conveyor.Shell.textOfBytes`, `Conveyor.Shell.bytesOfText` — bytes as a text, and back;
* `Conveyor.Shell.rawText`, `Conveyor.Shell.readable` — a text as a text of bytes, and back.
-/

import Conveyor.Text.Utf8

set_option autoImplicit false

namespace Conveyor.Shell

/-- The text of bytes: one character for each of them. -/
def textOfBytes (bytes : List UInt8) : String :=
  String.ofList (bytes.map fun b => Char.ofNat b.toNat)

/-- The bytes of a text of bytes. -/
def bytesOfText (s : String) : List UInt8 := s.toList.map fun c => UInt8.ofNat c.toNat

/-- A text as a text of bytes. -/
def rawText (s : String) : String := textOfBytes (Text.encode s)

/-- A text of bytes as a text. -/
def readable (s : String) : String := Text.decodeLossy (bytesOfText s)

/-- The lines of a text; a break at the end makes no line. -/
def linesOf (s : String) : List String :=
  let ls := s.splitOn "\n"
  if ls.getLast? = some "" then ls.dropLast else ls

/-- The number that a text writes in digits. -/
def digits? (s : String) : Option Nat :=
  if s = "" then none else if s.toList.all Char.isDigit then s.toNat? else none

/-- Characters between others. -/
def padded (left : Bool) (width : Nat) (cs : List Char) : List Char :=
  let gap := List.replicate (width - cs.length) ' '
  if left then cs ++ gap else gap ++ cs

end Conveyor.Shell
