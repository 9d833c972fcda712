/-
**Permissions: how a text changes them.**

Permissions are written in octal digits, or as clauses between commas.  A clause names the owner, the
group, others or all of them, and gives, takes or sets what they may do.

Main definitions:

* `Conveyor.Shell.Permissions.changed?` — permissions after the changes that a text writes.
-/

import Conveyor.Shell.Bytes

set_option autoImplicit false

namespace Conveyor.Shell.Permissions

/-- The bits of those whom a letter names. -/
def holders? : Char → Option Nat
  | 'u' => some 0o4700
  | 'g' => some 0o2070
  | 'o' => some 0o1007
  | 'a' => some 0o7777
  | _ => none

/-- The bits of what a letter allows; `any` says that someone may already execute. -/
def allowed? (any : Bool) : Char → Option Nat
  | 'r' => some 0o444
  | 'w' => some 0o222
  | 'x' => some 0o111
  | 'X' => some (if any then 0o111 else 0)
  | 's' => some 0o6000
  | 't' => some 0o1000
  | _ => none

/-- What the holder that a letter names may do, for all holders. -/
def copied? (old : Nat) : Char → Option Nat
  | 'u' => some (old / 64 % 8 * 0o111)
  | 'g' => some (old / 8 % 8 * 0o111)
  | 'o' => some (old % 8 * 0o111)
  | _ => none

/-- Permissions after a row of signs with letters; `scope` holds the bits that may change. -/
def steps? (scope : Nat) (isDirectory : Bool) : Nat → List Char → Nat → Option Nat
  | 0, _, _ => none
  | _ + 1, [], old => some old
  | fuel + 1, sign :: cs, old =>
    let letters := cs.takeWhile fun c => !"+-=".toList.contains c
    let rest := cs.drop letters.length
    let any := isDirectory || old.land 0o111 != 0
    let found := match letters with
      | [c] => (copied? old c).map fun b => [b]
      | _ => none
    match found.or (letters.mapM (allowed? any)) with
    | none => none
    | some bits =>
      let bits := (bits.foldl Nat.lor 0).land scope
      match sign with
      | '+' => steps? scope isDirectory fuel rest (old.lor bits)
      | '-' => steps? scope isDirectory fuel rest (old - old.land bits)
      | '=' => steps? scope isDirectory fuel rest (old - old.land (scope.land 0o777) |>.lor bits)
      | _ => none

/-- Permissions after one clause; `mask` holds what nobody gets who is not named. -/
def clause? (mask : Nat) (isDirectory : Bool) (text : List Char) (old : Nat) : Option Nat :=
  let names := text.takeWhile fun c => !"+-=".toList.contains c
  let rest := text.drop names.length
  match names.mapM holders? with
  | none => none
  | some holders =>
    let scope := if names.isEmpty then 0o7777 - mask.land 0o777 else holders.foldl Nat.lor 0
    if rest.isEmpty then none else steps? scope isDirectory rest.length.succ rest old

/-- The number that octal digits write. -/
def octal? (s : String) : Option Nat :=
  if s = "" then none
  else if s.toList.all fun c => '0' ≤ c && c ≤ '7' then
    some (s.toList.foldl (fun n c => 8 * n + (c.toNat - 48)) 0)
  else none

/-- Permissions after the changes that a text writes; nothing if it writes none. -/
def changed? (mask : Nat) (isDirectory : Bool) (text : String) (old : Nat) : Option Nat :=
  match octal? text with
  | some n => if n ≤ 0o7777 then some n else none
  | none =>
    (text.splitOn ",").foldlM (fun old c => clause? mask isDirectory c.toList old) old

/-- The letters of permissions of one holder. -/
def letters (n : Nat) : String :=
  (if n / 4 % 2 = 1 then "r" else "") ++ (if n / 2 % 2 = 1 then "w" else "") ++
    if n % 2 = 1 then "x" else ""

/-- A number in octal digits, with zeros in front up to a width. -/
def octalText (width n : Nat) : String :=
  let ds := Nat.toDigits 8 n
  String.ofList (List.replicate (width - ds.length) '0' ++ ds)

end Conveyor.Shell.Permissions
