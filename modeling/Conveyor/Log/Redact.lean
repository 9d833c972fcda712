/-
**Keeping secrets and long texts out of the log.**

Main definitions:

* `Conveyor.Log.isSensitive` — whether a key stands for a secret;
* `Conveyor.Log.redact` — entries with their secrets replaced;
* `Conveyor.Log.truncate` — entries with their long texts cut.
-/

import Conveyor.Fault
import Conveyor.Text.Case
import Conveyor.Text.Quoted

set_option autoImplicit false

namespace Conveyor.Log

/-- Words that make a key stand for a secret. -/
def sensitiveWords : List String :=
  ["password", "passwd", "secret", "token", "api_key", "private_key", "credentials",
    "authorization"]

/-- Whether a word occurs in a text. -/
def occursIn (word : List Char) : List Char → Bool
  | [] => word.isEmpty
  | c :: cs => word.isPrefixOf (c :: cs) || occursIn word cs

/-- Whether a key stands for a secret: one of the words occurs in it, in any letter case. -/
def isSensitive : Datum → Bool
  | .text key =>
    let cs := (Text.lower key).toList
    sensitiveWords.any fun w => occursIn w.toList cs
  | _ => false

/-- What stands in the place of a secret. -/
def redacted : String := "***REDACTED***"

/-- Entries with their secrets replaced, also inside entries that are mappings.  A secret that
counts as nothing stays. -/
def redact : List (Datum × Datum) → List (Datum × Datum)
  | [] => []
  | (k, .dict inner) :: rest => (k, .dict (redact inner)) :: redact rest
  | (k, v) :: rest =>
    (k, if isSensitive k then (if v.truthy then .text redacted else v) else v) :: redact rest

/-- The front of a row: the first so many members, or all but the last so many. -/
def frontOf (max : Int) (cs : List Nat) : List Nat :=
  cs.take (if 0 ≤ max then max.toNat else (cs.length + max).toNat)

/-- Whether a text of some length is longer than a limit allows; only numbers are limits. -/
def exceeds (limit : Datum) (length : Nat) : Except Fault Bool :=
  match limit with
  | .int i => .ok (i < length)
  | .bool b => .ok ((if b then 1 else 0) < length)
  | .float x => .ok (x < Float.ofNat length)
  | d => .error (.outside "TypeError"
      ("'>' not supported between instances of 'int' and '" ++ d.typeName ++ "'"))

/-- Code points cut at a limit, which has to be a whole number. -/
def cutAt (limit : Datum) (cs : List Nat) : Except Fault (List Nat) :=
  match limit with
  | .int i => .ok (frontOf i cs)
  | .bool b => .ok (frontOf (if b then 1 else 0) cs)
  | _ => .error (.outside "TypeError"
      "slice indices must be integers or None or have an __index__ method")

/-- The code points of a text. -/
def codePoints? : Datum → Option (List Nat)
  | .text s => some (s.toList.map Char.toNat)
  | .codes cs => some cs
  | _ => none

/-- The text of code points. -/
def ofCodePoints (cs : List Nat) : Datum :=
  match Text.ofCodes? cs with
  | some s => .text s
  | none => .codes cs

/-- What stands at the end of a text that was cut. -/
def cutMark : List Nat := "... [TRUNCATED]".toList.map Char.toNat

/-- A text with its code points, cut when there are more of them than allowed. -/
def truncateText (limit d : Datum) (cs : List Nat) : Except Fault Datum := do
  if ← exceeds limit cs.length then return ofCodePoints ((← cutAt limit cs) ++ cutMark)
  else return d

mutual
/-- A datum with its long texts cut. -/
def truncateDatum (limit : Datum) : Datum → Except Fault Datum
  | .dict entries => .dict <$> truncate limit entries
  | .list items => .list <$> truncateItems limit items
  | d =>
    match codePoints? d with
    | some cs => truncateText limit d cs
    | none => .ok d

/-- Items with their long texts cut. -/
def truncateItems (limit : Datum) : List Datum → Except Fault (List Datum)
  | [] => .ok []
  | d :: ds => do
    let d ← truncateDatum limit d
    return d :: (← truncateItems limit ds)

/-- Entries with their long texts cut. -/
def truncate (limit : Datum) : List (Datum × Datum) → Except Fault (List (Datum × Datum))
  | [] => .ok []
  | (k, v) :: rest => do
    let v ← truncateDatum limit v
    return (k, v) :: (← truncate limit rest)
end

end Conveyor.Log
