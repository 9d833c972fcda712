/-
**The tokens of a document; anchors, tags and directives.**

Indentation shows as tokens of its own: a block collection begins and ends with a token, and a key
is announced by a token before it, also when nothing but the colon after it makes it a key.

Main definitions:

* `Conveyor.Yaml.Token` — the tokens;
* `Conveyor.Yaml.anchorName` — the name after an anchor sign or a reference sign;
* `Conveyor.Yaml.tagParts` — the handle and the suffix of a tag;
* `Conveyor.Yaml.directiveLine` — a line that begins with a percent sign.
-/

import Conveyor.Yaml.ScalarText

set_option autoImplicit false

namespace Conveyor.Yaml

/-- What a directive line says. -/
inductive Directive where
  | version (major minor : Nat)
  | handle (name uri : String)
  | other
  deriving DecidableEq, Repr

/-- A token of a document. -/
inductive Token where
  | directive (d : Directive)
  | documentStart
  | documentEnd
  | blockSequence
  | blockMapping
  | blockEnd
  | flowSequence
  | flowSequenceEnd
  | flowMapping
  | flowMappingEnd
  | flowEntry
  | blockEntry
  | key
  | value
  | reference (name : String)
  | anchor (name : String)
  | tag (handle : Option String) (suffix : String)
  | scalar (text : String) (plain : Bool)
  /-- A scalar between quotes that holds code points which are no characters. -/
  | codes (cs : List Nat)
  | streamEnd
  deriving DecidableEq, Repr, Inhabited

open Cursor

/-- A non-empty run of name characters. -/
def nameRun (c : Cursor) : Except Defect (String × Cursor) :=
  let n := c.run isNameChar
  if n = 0 then .error .malformed else .ok (String.ofList (c.ahead n), c.advance n)

/-- The characters that may follow a name of an anchor. -/
def endsAnchor (x : Char) : Bool :=
  isBlankOrEnd x || ['?', ':', ',', ']', '\x7d', '%', '@', Char.ofNat 0x60].contains x

/-- The name of an anchor or of a reference; the cursor stands at its sign. -/
def anchorName (c : Cursor) : Except Defect (String × Cursor) := do
  let (name, c) ← nameRun (c.advance 1)
  if endsAnchor c.peek then return (name, c) else throw .malformed

/-- The characters of the address in a tag. -/
def isTagChar (x : Char) : Bool :=
  x.isAlphanum || "-;/?:@&=+$,_.!~*'()[]%".toList.contains x

/-- The address in a tag, its escapes resolved. -/
def tagText : Nat → Cursor → Except Defect (List Char × Cursor)
  | 0, c => .ok ([], c)
  | fuel + 1, c =>
    let n := c.run fun x => isTagChar x && x != '%'
    let piece := c.ahead n
    let c := c.advance n
    if c.peek == '%' then
      match percentBytes? (c.rest.length + 1) c.rest with
      | none => .error .malformed
      | some (bytes, k) =>
        match decodeUtf8? bytes with
        | none => .error .malformed
        | some cs => do
          let (more, c) ← tagText fuel (c.advance k)
          return (piece ++ cs ++ more, c)
    else .ok (piece, c)

/-- A non-empty address in a tag. -/
def tagAddress (c : Cursor) : Except Defect (String × Cursor) := do
  let (cs, c') ← tagText (c.rest.length + 1) c
  if isTagChar c.peek then return (String.ofList cs, c') else throw .malformed

/-- The handle of a tag: an exclamation mark, or a name between two. -/
def tagHandle (c : Cursor) : Except Defect (String × Cursor) :=
  if c.peek != '!' then .error .malformed
  else
    let n := (c.advance 1).run isNameChar
    if c.peek 1 == ' ' then .ok ("!", c.advance 1)
    else if c.peek (n + 1) == '!' then
      .ok (String.ofList (c.ahead (n + 2)), c.advance (n + 2))
    else .error .malformed

/-- The handle and the suffix of a tag; the cursor stands at its exclamation mark. -/
def tagParts (c : Cursor) : Except Defect (Option String × String × Cursor) := do
  let (handle, suffix, c) ←
    if c.peek 1 == '<' then do
      let (suffix, c) ← tagAddress (c.advance 2)
      if c.peek == '>' then pure (none, suffix, c.advance 1) else throw .malformed
    else if isBlankOrEnd (c.peek 1) then pure (none, "!", c.advance 1)
    else do
      let word := (c.advance 1).rest.takeWhile fun x => !isSpaceOrEnd x
      let (handle, c) ← if word.contains '!' then tagHandle c else pure ("!", c.advance 1)
      let (suffix, c) ← tagAddress c
      pure (some handle, suffix, c)
  if isSpaceOrEnd c.peek then return (handle, suffix, c) else throw .malformed

/-! ### Directives -/

/-- The digits of a number of a version. -/
def versionNumber (c : Cursor) : Except Defect (Nat × Cursor) :=
  let n := c.run Char.isDigit
  if n = 0 then .error .malformed else .ok (Json.digitsValue (c.ahead n), c.advance n)

/-- The two numbers of a version. -/
def versionNumbers (c : Cursor) : Except Defect (Directive × Cursor) := do
  let (major, c) ← versionNumber (c.skip (· == ' '))
  if c.peek != '.' then throw .malformed
  let (minor, c) ← versionNumber (c.advance 1)
  if isSpaceOrEnd c.peek then return (.version major minor, c) else throw .malformed

/-- The handle that a directive declares, and what it stands for. -/
def handleMeaning (c : Cursor) : Except Defect (Directive × Cursor) := do
  let (handle, c) ← tagHandle (c.skip (· == ' '))
  if c.peek != ' ' then throw .malformed
  let (address, c) ← tagAddress (c.skip (· == ' '))
  if isSpaceOrEnd c.peek then return (.handle handle address, c) else throw .malformed

/-- A directive; the cursor stands at its percent sign. -/
def directiveLine (c : Cursor) : Except Defect (Directive × Cursor) := do
  let (name, c) ← nameRun (c.advance 1)
  if !isSpaceOrEnd c.peek then throw .malformed
  let (directive, c) ←
    if name = "YAML" then versionNumbers c
    else if name = "TAG" then handleMeaning c
    else pure (.other, c.skip fun x => !isBreakOrEnd x)
  let c ← ignoredLine c
  return (directive, c)

end Conveyor.Yaml
