/-
**What can be wrong with a document.**

A document can break the grammar; and a scalar that is written as a number, a truth value or a
date need not be one.

Main definitions:

* `Conveyor.Yaml.Defect` — what is wrong with a document;
* `Conveyor.Yaml.Defect.kindName`, `Conveyor.Yaml.Defect.message` — its kind and its wording.
-/

import Conveyor.Calendar.Date
import Conveyor.Text.Number

set_option autoImplicit false

namespace Conveyor.Yaml

/-- What is wrong with a document. -/
inductive Defect where
  /-- The grammar is broken. -/
  | malformed
  /-- An escape names a code point above the last one. -/
  | codePoint
  /-- An escape names a number that no code point has, however wide. -/
  | hugeCodePoint
  /-- A number is not written as one. -/
  | number (e : Text.NumberError)
  /-- A number has no digits at all. -/
  | emptyNumber
  /-- A truth value is none of the known words. -/
  | truthWord (word : String)
  /-- A date is not written as one. -/
  | notADate
  /-- A mapping or a sequence stands where a date is written. -/
  | dateOfCollection
  /-- A mapping stands for itself without end. -/
  | endless
  /-- The calendar does not have the date. -/
  | calendar (e : DateError)
  deriving DecidableEq, Repr

/-- The name of the kind of a defect. -/
def Defect.kindName : Defect → String
  | .malformed => "YAMLError"
  | .codePoint | .number _ | .calendar _ => "ValueError"
  | .hugeCodePoint => "OverflowError"
  | .emptyNumber => "IndexError"
  | .truthWord _ => "KeyError"
  | .notADate => "AttributeError"
  | .dateOfCollection => "TypeError"
  | .endless => "RecursionError"

/-- The wording of what is wrong with a document. -/
def Defect.message : Defect → String
  | .malformed => "malformed document"
  | .codePoint => "chr() arg not in range(0x110000)"
  | .hugeCodePoint => "Python int too large to convert to C int"
  | .number e => e.message
  | .emptyNumber => "string index out of range"
  | .truthWord word => word
  | .notADate => "'NoneType' object has no attribute 'groupdict'"
  | .dateOfCollection => "expected string or bytes-like object, got 'list'"
  | .endless => "maximum recursion depth exceeded"
  | .calendar e => e.message

end Conveyor.Yaml
