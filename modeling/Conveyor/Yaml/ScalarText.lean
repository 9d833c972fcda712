/-
**The text of scalars: plain, between quotes, and in blocks.**

A line break inside a plain scalar or between quotes counts as a space, and every empty line after
it as a line feed.  A literal block keeps its line breaks; a folded block joins two lines unless
one of them is indented further.

Main definitions:

* `Conveyor.Yaml.shortEscape?` — the escapes of one character;
* `Conveyor.Yaml.escapeWidth?` — the escapes by code point, and their number of digits;
* `Conveyor.Yaml.percentBytes?` — a row of bytes written `%XX`;
* `Conveyor.Yaml.decodeUtf8?` — the text that bytes encode;
* `Conveyor.Yaml.plainText` — a scalar without quotes;
* `Conveyor.Yaml.quotedText` — a scalar between single or double quotes;
* `Conveyor.Yaml.blockText` — a literal or folded block.
-/

import Conveyor.Json.Reader
import Conveyor.Yaml.Cursor
import Conveyor.Yaml.Defect

set_option autoImplicit false

namespace Conveyor.Yaml

/-! ### Escapes in double quotes and in tags -/

/-- The character that a backslash and one character stand for. -/
def shortEscape? : Char → Option Char
  | '0' => some (Char.ofNat 0)
  | 'a' => some (Char.ofNat 7)
  | 'b' => some (Char.ofNat 8)
  | 't' | '\t' => some '\t'
  | 'n' => some '\n'
  | 'v' => some (Char.ofNat 11)
  | 'f' => some (Char.ofNat 12)
  | 'r' => some '\r'
  | 'e' => some (Char.ofNat 27)
  | ' ' => some ' '
  | '"' => some '"'
  | '\\' => some '\\'
  | '/' => some '/'
  | 'N' => some (Char.ofNat 0x85)
  | '_' => some (Char.ofNat 0xA0)
  | 'L' => some (Char.ofNat 0x2028)
  | 'P' => some (Char.ofNat 0x2029)
  | _ => none

/-- The number of hexadecimal digits after a backslash and one of three letters. -/
def escapeWidth? : Char → Option Nat
  | 'x' => some 2
  | 'u' => some 4
  | 'U' => some 8
  | _ => none

/-- The number written by hexadecimal digits. -/
def hexNumber? (cs : List Char) : Option Nat :=
  cs.foldl (fun n c => do return 16 * (← n) + (← Json.hexValue? c)) (some 0)

/-- The bytes of a row of escapes `%XX` at the front of a text. -/
def percentBytes? : Nat → List Char → Option (List UInt8 × Nat)
  | 0, _ => some ([], 0)
  | fuel + 1, cs =>
    match cs with
    | '%' :: a :: b :: rest => do
      let n ← hexNumber? [a, b]
      let (bs, k) ← percentBytes? fuel rest
      return (UInt8.ofNat n :: bs, k + 3)
    | '%' :: _ => none
    | _ => some ([], 0)

/-- The text that bytes encode. -/
def decodeUtf8? (bs : List UInt8) : Option (List Char) :=
  (String.fromUTF8? (ByteArray.mk bs.toArray)).map String.toList

open Cursor

/-! ### Plain scalars -/

/-- The number of characters of a plain scalar ahead, up to the first that may end it. -/
def plainRun (inFlow : Bool) : List Char → Nat
  | [] => 0
  | c :: rest =>
    let next := rest.headD endMark
    let ends := isBlankOrEnd c ||
      (c == ':' && (isBlankOrEnd next || (inFlow && [',', '[', ']', '\x7b', '\x7d'].contains next))) ||
      (inFlow && [',', '?', '[', ']', '\x7b', '\x7d'].contains c)
    if ends then 0 else plainRun inFlow rest + 1

/-- The empty lines ahead of a plain scalar, as line feeds.  Nothing is returned when a document
marker follows a line break. -/
def plainBreaks : Nat → Cursor → Option (List Char) × Cursor
  | 0, c => (some [], c)
  | fuel + 1, c =>
    if c.peek == ' ' then plainBreaks fuel (c.advance 1)
    else if isBreak c.peek then
      let (b, c) := c.lineBreak
      if c.atMarker then (none, c)
      else
        let (bs, c) := plainBreaks fuel c
        (bs.map (b ++ ·), c)
    else (some [], c)

/-- The blanks after a piece of a plain scalar: what they count as, whether they hold a line break,
and where they end. -/
def plainSpaces (c : Cursor) : List Char × Bool × Cursor :=
  let n := c.run (· == ' ')
  let blanks := c.ahead n
  let c := c.advance n
  if isBreak c.peek then
    let (b, c) := c.lineBreak
    if c.atMarker then ([], true, c)
    else
      match plainBreaks (c.rest.length + 1) c with
      | (none, c) => ([], true, c)
      | (some bs, c) =>
        let joint := if b != ['\n'] then b else if bs.isEmpty then [' '] else []
        (joint ++ bs, true, c)
  else (blanks, false, c)

/-- The pieces of a plain scalar.  `indent` is the least column of its further lines, `spaces` what
stands before the next piece, and `fresh` says whether that holds a line break. -/
def plainPieces (inFlow : Bool) (indent : Int) :
    Nat → List Char → Bool → Cursor → List Char × Bool × Cursor
  | 0, _, fresh, c => ([], fresh, c)
  | fuel + 1, spaces, fresh, c =>
    let n := if c.peek == '#' then 0 else plainRun inFlow c.rest
    if n = 0 then ([], fresh, c)
    else
      let piece := c.ahead n
      let (spaces', fresh', c) := plainSpaces (c.advance n)
      if spaces'.isEmpty || c.peek == '#' || (!inFlow && (c.column : Int) < indent) then
        (spaces ++ piece, fresh', c)
      else
        let (more, fresh'', c) := plainPieces inFlow indent fuel spaces' fresh' c
        (spaces ++ piece ++ more, fresh'', c)

/-- A plain scalar: its text, whether a line break follows it, and where it ends. -/
def plainText (inFlow : Bool) (indent : Int) (c : Cursor) : String × Bool × Cursor :=
  let (text, fresh, c) := plainPieces inFlow indent (c.rest.length + 1) [] false c
  (String.ofList text, fresh, c)

/-! ### Quoted scalars -/

/-- The code points of characters. -/
def codesOf (cs : List Char) : List Nat := cs.map Char.toNat

/-- A code point that an escape names; it may belong to no character. -/
def escapedCode (n : Nat) : Except Defect Nat :=
  if n < 0x110000 then .ok n
  else if n < 0x80000000 then .error .codePoint
  else .error .hugeCodePoint

/-- The empty lines inside quotes, as line feeds. -/
def quotedBreaks : Nat → Cursor → Except Defect (List Char × Cursor)
  | 0, c => .ok ([], c)
  | fuel + 1, c =>
    if c.atMarker then .error .malformed
    else
      let c := c.skip fun x => x == ' ' || x == '\t'
      if isBreak c.peek then do
        let (b, c) := c.lineBreak
        let (bs, c) ← quotedBreaks fuel c
        return (b ++ bs, c)
      else .ok ([], c)

/-- Whether a character may be the next of a run inside quotes. -/
def isQuotedPlain (x : Char) : Bool :=
  !(x == '\'' || x == '"' || x == '\\' || isBlankOrEnd x)

/-- What an escape after a backslash stands for. -/
def escapeText (c : Cursor) : Except Defect (List Nat × Cursor) :=
  let x := c.peek
  match shortEscape? x with
  | some y => .ok ([y.toNat], c.advance 1)
  | none =>
    match escapeWidth? x with
    | some width =>
      let c := c.advance 1
      let ds := c.ahead width
      if ds.length = width then
        match hexNumber? ds with
        | some n => do
          let y ← escapedCode n
          return ([y], c.advance width)
        | none => .error .malformed
      else .error .malformed
    | none =>
      if isBreak x then do
        let (_, c) := c.lineBreak
        let (bs, c) ← quotedBreaks (c.rest.length + 1) c
        return (codesOf bs, c)
      else .error .malformed

/-- Characters inside quotes, up to a blank or the closing quote. -/
def quotedWord (double : Bool) : Nat → Cursor → Except Defect (List Nat × Cursor)
  | 0, c => .ok ([], c)
  | fuel + 1, c =>
    let n := c.run isQuotedPlain
    let word := codesOf (c.ahead n)
    let c := c.advance n
    let x := c.peek
    if !double && x == '\'' && c.peek 1 == '\'' then do
      let (more, c) ← quotedWord double fuel (c.advance 2)
      return (word ++ '\''.toNat :: more, c)
    else if (double && x == '\'') || (!double && (x == '"' || x == '\\')) then do
      let (more, c) ← quotedWord double fuel (c.advance 1)
      return (word ++ x.toNat :: more, c)
    else if double && x == '\\' then do
      let (s, c) ← escapeText (c.advance 1)
      let (more, c) ← quotedWord double fuel c
      return (word ++ s ++ more, c)
    else .ok (word, c)

/-- Blanks inside quotes: spaces as they are, a line break as what it counts as. -/
def quotedSpaces (c : Cursor) : Except Defect (List Char × Cursor) :=
  let n := c.run fun x => x == ' ' || x == '\t'
  let blanks := c.ahead n
  let c := c.advance n
  if c.peek == endMark then .error .malformed
  else if isBreak c.peek then do
    let (b, c) := c.lineBreak
    let (bs, c) ← quotedBreaks (c.rest.length + 1) c
    return ((if b != ['\n'] then b else if bs.isEmpty then [' '] else []) ++ bs, c)
  else .ok (blanks, c)

/-- Words and blanks up to the closing quote. -/
def quotedRest (double : Bool) (quote : Char) : Nat → Cursor → Except Defect (List Nat × Cursor)
  | 0, _ => .error .malformed
  | fuel + 1, c =>
    if c.peek == quote then .ok ([], c.advance 1)
    else do
      let (blanks, c) ← quotedSpaces c
      let (word, c) ← quotedWord double (c.rest.length + 1) c
      let (more, c) ← quotedRest double quote fuel c
      return (codesOf blanks ++ word ++ more, c)

/-- A scalar between quotes, as code points; the cursor stands at the opening one. -/
def quotedText (double : Bool) (c : Cursor) : Except Defect (List Nat × Cursor) := do
  let quote := c.peek
  let c := c.advance 1
  let (word, c) ← quotedWord double (c.rest.length + 1) c
  let (more, c) ← quotedRest double quote (c.rest.length + 1) c
  return (word ++ more, c)

/-! ### Blocks -/

/-- What becomes of the line breaks at the end of a block. -/
inductive Chomping where
  | strip
  | clip
  | keep
  deriving DecidableEq, Repr

/-- The sign that says what becomes of the last line breaks. -/
def chomping? (x : Char) : Option Chomping :=
  if x == '+' then some .keep else if x == '-' then some .strip else none

/-- The digit that says how far a block is indented; zero is refused. -/
def increment? (x : Char) : Except Defect (Option Nat) :=
  if x == '0' then .error .malformed
  else .ok (if x.isDigit then some (x.toNat - 48) else none)

/-- The signs after the sign of a block, in either order. -/
def blockHeader (c : Cursor) : Except Defect (Chomping × Option Nat × Cursor) := do
  let (chomping, increment, c) ← match chomping? c.peek with
    | some chomping => do
      let c := c.advance 1
      match ← increment? c.peek with
      | some n => pure (chomping, some n, c.advance 1)
      | none => pure (chomping, none, c)
    | none => do
      match ← increment? c.peek with
      | some n =>
        let c := c.advance 1
        match chomping? c.peek with
        | some chomping => pure (chomping, some n, c.advance 1)
        | none => pure (.clip, some n, c)
      | none => pure (.clip, none, c)
  if isSpaceOrEnd c.peek then return (chomping, increment, c) else throw .malformed

/-- The rest of a line that holds at most a comment. -/
def ignoredLine (c : Cursor) : Except Defect Cursor :=
  let c := c.skip (· == ' ')
  let c := if c.peek == '#' then c.skip fun x => !isBreakOrEnd x else c
  if isBreakOrEnd c.peek then .ok c.lineBreak.2 else .error .malformed

/-- The empty lines before a block whose indentation is not given: their line breaks, and the
greatest column reached. -/
def blockIndentation : Nat → Nat → Cursor → List Char × Nat × Cursor
  | 0, most, c => ([], most, c)
  | fuel + 1, most, c =>
    if c.peek == ' ' then
      let c := c.advance 1
      blockIndentation fuel (max most c.column) c
    else if isBreak c.peek then
      let (b, c) := c.lineBreak
      let (bs, most, c) := blockIndentation fuel most c
      (b ++ bs, most, c)
    else ([], most, c)

/-- Moves over spaces up to a column. -/
def skipIndent (indent : Nat) : Nat → Cursor → Cursor
  | 0, c => c
  | fuel + 1, c =>
    if c.column < indent && c.peek == ' ' then skipIndent indent fuel (c.advance 1) else c

/-- The empty lines before a line of a block. -/
def blockBreaks (indent : Nat) : Nat → Cursor → List Char × Cursor
  | 0, c => ([], c)
  | fuel + 1, c =>
    let c := skipIndent indent indent c
    if isBreak c.peek then
      let (b, c) := c.lineBreak
      let (bs, c) := blockBreaks indent fuel c
      (b ++ bs, c)
    else ([], c)

/-- The lines of a block from the current one on; `breaks` are the empty lines before it.  The
result is the text without its last line break, that line break, and the empty lines after it. -/
def blockLines (folded : Bool) (indent : Nat) :
    Nat → List Char → Cursor → List Char × List Char × List Char × Cursor
  | 0, breaks, c => ([], [], breaks, c)
  | fuel + 1, breaks, c =>
    let indented := c.peek == ' ' || c.peek == '\t'
    let n := c.run fun x => !isBreakOrEnd x
    let line := c.ahead n
    let (b, c) := (c.advance n).lineBreak
    let (breaks', c) := blockBreaks indent (c.rest.length + 1) c
    if c.column = indent && c.peek != endMark then
      let joined := folded && b == ['\n'] && !indented && c.peek != ' ' && c.peek != '\t'
      let joint := if joined then (if breaks'.isEmpty then [' '] else []) else b
      let (more, last, after, c) := blockLines folded indent fuel breaks' c
      (breaks ++ line ++ joint ++ more, last, after, c)
    else (breaks ++ line, b, breaks', c)

/-- A block; the cursor stands at its sign, and `parent` is the indentation around it. -/
def blockText (folded : Bool) (parent : Int) (c : Cursor) : Except Defect (String × Cursor) := do
  let (chomping, increment, c) ← blockHeader (c.advance 1)
  let c ← ignoredLine c
  let least := (max (parent + 1) 1).toNat
  let (breaks, indent, c) := match increment with
    | some n =>
      let indent := least + n - 1
      let (breaks, c) := blockBreaks indent (c.rest.length + 1) c
      (breaks, indent, c)
    | none =>
      let (breaks, most, c) := blockIndentation (c.rest.length + 1) 0 c
      (breaks, max least most, c)
  let (body, last, after, c) :=
    if c.column = indent && c.peek != endMark then
      blockLines folded indent (c.rest.length + 1) breaks c
    else ([], [], breaks, c)
  let tail := match chomping with
    | .strip => []
    | .clip => last
    | .keep => last ++ after
  return (String.ofList (body ++ tail), c)

end Conveyor.Yaml
