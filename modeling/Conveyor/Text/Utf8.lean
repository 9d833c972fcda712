/-
**UTF-8, and what can be wrong with it.**

A byte that cannot begin a character is wrong by itself.  A character that breaks off is wrong
together with those of its bytes that fit.

Main definitions:

* `Conveyor.Text.Utf8Error` — where bytes are wrong, how many, and why;
* `Conveyor.Text.decode` — the text of bytes, or the first error;
* `Conveyor.Text.decodeLossy` — the text of bytes, with a replacement character for each error;
* `Conveyor.Text.encode` — the bytes of a text.
-/

import Conveyor.Text.Quoted

set_option autoImplicit false

namespace Conveyor.Text

/-- Why bytes are wrong. -/
inductive Utf8Cause where
  | start
  | continuation
  | ending
  deriving DecidableEq, Repr

/-- Where bytes are wrong, how many, and why. -/
structure Utf8Error where
  position : Nat
  bytes : List UInt8
  cause : Utf8Cause
  deriving DecidableEq, Repr

/-- The wording of an error. -/
def Utf8Error.message (e : Utf8Error) : String :=
  let place := match e.bytes with
    | [b] =>
      "byte 0x" ++ String.ofList (hexDigits 2 b.toNat) ++ " in position " ++ toString e.position
    | bs =>
      "bytes in position " ++ toString e.position ++ "-" ++ toString (e.position + bs.length - 1)
  let reason := match e.cause with
    | .start => "invalid start byte"
    | .continuation => "invalid continuation byte"
    | .ending => "unexpected end of data"
  "'utf-8' codec can't decode " ++ place ++ ": " ++ reason

/-- The number of bytes after a first byte, and the bounds of the first of them. -/
def followers (b : UInt8) : Option (Nat × Nat × Nat) :=
  let n := b.toNat
  if n < 0x80 then some (0, 0x80, 0xBF)
  else if 0xC2 ≤ n && n ≤ 0xDF then some (1, 0x80, 0xBF)
  else if n == 0xE0 then some (2, 0xA0, 0xBF)
  else if n == 0xED then some (2, 0x80, 0x9F)
  else if 0xE1 ≤ n && n ≤ 0xEF then some (2, 0x80, 0xBF)
  else if n == 0xF0 then some (3, 0x90, 0xBF)
  else if 0xF1 ≤ n && n ≤ 0xF3 then some (3, 0x80, 0xBF)
  else if n == 0xF4 then some (3, 0x80, 0x8F)
  else none

/-- Takes `n` following bytes, the first of them between the bounds and the others between `80` and
`BF`.  The result is the bytes that fit, and the cause that ends them too early. -/
def takeFollowers : Nat → Nat → Nat → List UInt8 → List UInt8 × Option Utf8Cause
  | 0, _, _, _ => ([], none)
  | _ + 1, _, _, [] => ([], some .ending)
  | n + 1, low, high, b :: bs =>
    if low ≤ b.toNat && b.toNat ≤ high then
      let (more, cause) := takeFollowers n 0x80 0xBF bs
      (b :: more, cause)
    else ([], some .continuation)

/-- The code point of a first byte and its followers. -/
def codePoint (b : UInt8) (bs : List UInt8) : Nat :=
  let lead := match bs.length with
    | 0 => b.toNat
    | 1 => b.toNat % 0x20
    | 2 => b.toNat % 0x10
    | _ => b.toNat % 0x08
  bs.foldl (fun n b => 0x40 * n + b.toNat % 0x40) lead

/-- The characters and the errors of bytes, in order; `position` counts the bytes before. -/
def pieces (position : Nat) : Nat → List UInt8 → List (Except Utf8Error Char)
  | 0, _ => []
  | _ + 1, [] => []
  | fuel + 1, b :: bs =>
    match followers b with
    | none => .error ⟨position, [b], .start⟩ :: pieces (position + 1) fuel bs
    | some (n, low, high) =>
      let (taken, cause) := takeFollowers n low high bs
      let size := taken.length + 1
      let piece := match cause with
        | none => .ok (Char.ofNat (codePoint b taken))
        | some cause => .error ⟨position, b :: taken, cause⟩
      piece :: pieces (position + size) fuel (bs.drop taken.length)

/-- The text of bytes, or the first error. -/
def decode (bs : List UInt8) : Except Utf8Error String :=
  String.ofList <$> (pieces 0 bs.length bs).mapM id

/-- The text of bytes, with a replacement character for each error. -/
def decodeLossy (bs : List UInt8) : String :=
  String.ofList ((pieces 0 bs.length bs).map fun
    | .ok c => c
    | .error _ => Char.ofNat 0xFFFD)

/-- The bytes of a text. -/
def encode (s : String) : List UInt8 := s.toUTF8.toList

end Conveyor.Text
