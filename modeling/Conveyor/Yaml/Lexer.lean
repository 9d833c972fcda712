/-
**From the text of a document to its tokens.**

Indentation opens and closes block collections.  A scalar or a collection that may turn out to be
a key is remembered until the line ends or 1024 characters have passed; when a colon comes in time,
a key token is put before it after the fact.

Main definitions:

* `Conveyor.Yaml.PossibleKey` — a place where a key may have begun;
* `Conveyor.Yaml.Lexer` — the tokens read so far and what decides about the next ones;
* `Conveyor.Yaml.Lexer.fetch` — reads one more token;
* `Conveyor.Yaml.tokensOf` — the tokens of a text, up to the first defect.
-/

import Conveyor.Text.Quoted
import Conveyor.Yaml.Property

set_option autoImplicit false

namespace Conveyor.Yaml

/-- A place where a key may have begun. -/
structure PossibleKey where
  /-- The number of the token that would be the key. -/
  tokenNumber : Nat
  /-- Whether the indentation admits nothing but a key here. -/
  required : Bool
  index : Nat
  line : Nat
  column : Nat
  deriving DecidableEq, Repr

/-- The tokens read so far and what decides about the next ones. -/
structure Lexer where
  cursor : Cursor
  tokens : Array Token := #[]
  /-- The column of the innermost block collection, and of those around it. -/
  indent : Int := -1
  indents : List Int := []
  /-- How many flow collections are open. -/
  flowLevel : Int := 0
  keyAllowed : Bool := true
  /-- The place where a key may have begun, by flow level. -/
  keys : List (Int × PossibleKey) := []
  finished : Bool := false

namespace Lexer

/-- Whether the lexer stands outside of all flow collections. -/
def inBlock (l : Lexer) : Bool := l.flowLevel == 0

/-- Adds a token. -/
def push (l : Lexer) (t : Token) : Lexer := { l with tokens := l.tokens.push t }

/-- Moves over `n` characters and adds a token. -/
def pushOver (l : Lexer) (n : Nat) (t : Token) : Lexer :=
  { l with cursor := l.cursor.advance n, tokens := l.tokens.push t }

/-! ### Possible keys -/

/-- The possible key of the current flow level. -/
def key? (l : Lexer) : Option PossibleKey := (l.keys.find? (·.1 == l.flowLevel)).map (·.2)

/-- Forgets the possible key of the current flow level. -/
def dropKey (l : Lexer) : Lexer := { l with keys := l.keys.filter (·.1 != l.flowLevel) }

/-- Whether a place is too far back for a key: on another line, or more than 1024 characters ago. -/
def isStale (l : Lexer) (k : PossibleKey) : Bool :=
  k.line != l.cursor.line || 1024 < l.cursor.index - k.index

/-- Forgets the places that are too far back; a required key among them is a defect. -/
def forgetStale (l : Lexer) : Except Defect Lexer :=
  if l.keys.any fun k => l.isStale k.2 && k.2.required then .error .malformed
  else .ok { l with keys := l.keys.filter fun k => !l.isStale k.2 }

/-- Gives up the possible key of the current flow level; a required one is a defect. -/
def giveUpKey (l : Lexer) : Except Defect Lexer :=
  match l.key? with
  | some k => if k.required then .error .malformed else .ok l.dropKey
  | none => .ok l

/-- Remembers that a key may begin here. -/
def saveKey (l : Lexer) : Except Defect Lexer := do
  if !l.keyAllowed then return l
  let l ← l.giveUpKey
  let key : PossibleKey :=
    { tokenNumber := l.tokens.size
      required := l.inBlock && l.indent == l.cursor.column
      index := l.cursor.index
      line := l.cursor.line
      column := l.cursor.column }
  return { l with keys := l.keys ++ [(l.flowLevel, key)] }

/-- The number of the first token that a key token might still be put before, or of the next
token. -/
def settled (l : Lexer) : Nat := l.keys.foldl (fun n k => min n k.2.tokenNumber) l.tokens.size

/-! ### Indentation -/

/-- Closes the block collections that are indented further than `column`. -/
def unwind (l : Lexer) (column : Int) : Lexer :=
  if l.inBlock then go l.indents.length l else l
where
  go : Nat → Lexer → Lexer
    | 0, l => l
    | fuel + 1, l =>
      if l.indent > column then
        match l.indents with
        | outer :: rest =>
          go fuel { l with indent := outer, indents := rest, tokens := l.tokens.push .blockEnd }
        | [] => l
      else l

/-- Opens a block collection at a column, if it is indented further than the current one, with its
first token at the place `position`. -/
def openBlock (l : Lexer) (column : Int) (position : Nat) (t : Token) : Lexer :=
  if l.indent < column then
    { l with
      indents := l.indent :: l.indents
      indent := column
      tokens := l.tokens.insertIdxIfInBounds position t }
  else l

/-! ### Tokens -/

/-- Moves over spaces, comments and line breaks; a key may begin on a new line. -/
def skipToToken (l : Lexer) : Lexer :=
  let c := l.cursor
  let c := if c.index = 0 && c.peek.toNat = 0xFEFF then c.advance 1 else c
  go (c.rest.length + 1) { l with cursor := c }
where
  go : Nat → Lexer → Lexer
    | 0, l => l
    | fuel + 1, l =>
      let c := l.cursor.skip (· == ' ')
      let c := if c.peek == '#' then c.skip fun x => !isBreakOrEnd x else c
      let (b, c') := c.lineBreak
      if b.isEmpty then { l with cursor := c }
      else go fuel { l with cursor := c', keyAllowed := l.inBlock || l.keyAllowed }

/-- The end of the text. -/
def fetchEnd (l : Lexer) : Except Defect Lexer := do
  let l ← (l.unwind (-1)).giveUpKey
  return { l.push .streamEnd with keyAllowed := false, keys := [], finished := true }

/-- A directive. -/
def fetchDirective (l : Lexer) : Except Defect Lexer := do
  let l ← (l.unwind (-1)).giveUpKey
  let (d, c) ← directiveLine l.cursor
  return { l.push (.directive d) with keyAllowed := false, cursor := c }

/-- A document marker. -/
def fetchMarker (l : Lexer) (t : Token) : Except Defect Lexer := do
  let l ← (l.unwind (-1)).giveUpKey
  return { l.pushOver 3 t with keyAllowed := false }

/-- The opening bracket of a flow collection. -/
def fetchFlowStart (l : Lexer) (t : Token) : Except Defect Lexer := do
  let l ← l.saveKey
  return { l.pushOver 1 t with flowLevel := l.flowLevel + 1, keyAllowed := true }

/-- The closing bracket of a flow collection. -/
def fetchFlowEnd (l : Lexer) (t : Token) : Except Defect Lexer := do
  let l ← l.giveUpKey
  return { l.pushOver 1 t with flowLevel := l.flowLevel - 1, keyAllowed := false }

/-- A comma between flow entries. -/
def fetchFlowEntry (l : Lexer) : Except Defect Lexer := do
  let l ← l.giveUpKey
  return { l.pushOver 1 .flowEntry with keyAllowed := true }

/-- A dash before an entry of a block sequence. -/
def fetchBlockEntry (l : Lexer) : Except Defect Lexer := do
  if l.inBlock && !l.keyAllowed then throw .malformed
  let l := if l.inBlock then l.openBlock l.cursor.column l.tokens.size .blockSequence else l
  let l ← l.giveUpKey
  return { l.pushOver 1 .blockEntry with keyAllowed := true }

/-- A question mark before a key. -/
def fetchKey (l : Lexer) : Except Defect Lexer := do
  if l.inBlock && !l.keyAllowed then throw .malformed
  let l := if l.inBlock then l.openBlock l.cursor.column l.tokens.size .blockMapping else l
  let l ← l.giveUpKey
  return { l.pushOver 1 .key with keyAllowed := l.inBlock }

/-- A colon: what was remembered as a possible key has become one. -/
def fetchValue (l : Lexer) : Except Defect Lexer :=
  match l.key? with
  | some k =>
    let l := l.dropKey
    let l := { l with tokens := l.tokens.insertIdxIfInBounds k.tokenNumber .key }
    let l := if l.inBlock then l.openBlock k.column k.tokenNumber .blockMapping else l
    .ok { l.pushOver 1 .value with keyAllowed := false }
  | none => do
    if l.inBlock && !l.keyAllowed then throw .malformed
    let l := if l.inBlock then l.openBlock l.cursor.column l.tokens.size .blockMapping else l
    let l ← l.giveUpKey
    return { l.pushOver 1 .value with keyAllowed := l.inBlock }

/-- A reference or an anchor. -/
def fetchName (l : Lexer) (make : String → Token) : Except Defect Lexer := do
  let l ← l.saveKey
  let (name, c) ← anchorName l.cursor
  return { l.push (make name) with keyAllowed := false, cursor := c }

/-- A tag. -/
def fetchTag (l : Lexer) : Except Defect Lexer := do
  let l ← l.saveKey
  let (handle, suffix, c) ← tagParts l.cursor
  return { l.push (.tag handle suffix) with keyAllowed := false, cursor := c }

/-- A literal or folded block. -/
def fetchBlockScalar (l : Lexer) (folded : Bool) : Except Defect Lexer := do
  let l ← l.giveUpKey
  let (text, c) ← blockText folded l.indent l.cursor
  return { l.push (.scalar text false) with keyAllowed := true, cursor := c }

/-- A scalar between quotes. -/
def fetchQuoted (l : Lexer) (double : Bool) : Except Defect Lexer := do
  let l ← l.saveKey
  let (codes, c) ← quotedText double l.cursor
  let token := match Text.ofCodes? codes with
    | some text => Token.scalar text false
    | none => .codes codes
  return { l.push token with keyAllowed := false, cursor := c }

/-- A plain scalar. -/
def fetchPlain (l : Lexer) : Except Defect Lexer := do
  let l ← l.saveKey
  let (text, fresh, c) := plainText (!l.inBlock) (l.indent + 1) l.cursor
  return { l.push (.scalar text true) with keyAllowed := fresh, cursor := c }

/-- Whether a plain scalar may begin here. -/
def atPlain (l : Lexer) : Bool :=
  let x := l.cursor.peek
  let y := l.cursor.peek 1
  !(isBlankOrEnd x || "-?:,[]\x7b\x7d#&*!|>'\"%@\x60".toList.contains x) ||
    (!isBlankOrEnd y && (x == '-' || (l.inBlock && (x == '?' || x == ':'))))

/-- Reads one more token. -/
def fetch (l : Lexer) : Except Defect Lexer := do
  let l ← l.skipToToken.forgetStale
  let l := l.unwind l.cursor.column
  let x := l.cursor.peek
  let blank := isBlankOrEnd (l.cursor.peek 1)
  let atStart := l.cursor.column == 0
  if x == endMark then l.fetchEnd
  else if x == '%' && atStart then l.fetchDirective
  else if x == '-' && atStart && l.cursor.atMarker then l.fetchMarker .documentStart
  else if x == '.' && atStart && l.cursor.atMarker then l.fetchMarker .documentEnd
  else if x == '[' then l.fetchFlowStart .flowSequence
  else if x == '\x7b' then l.fetchFlowStart .flowMapping
  else if x == ']' then l.fetchFlowEnd .flowSequenceEnd
  else if x == '\x7d' then l.fetchFlowEnd .flowMappingEnd
  else if x == ',' then l.fetchFlowEntry
  else if x == '-' && blank then l.fetchBlockEntry
  else if x == '?' && (!l.inBlock || blank) then l.fetchKey
  else if x == ':' && (!l.inBlock || blank) then l.fetchValue
  else if x == '*' then l.fetchName .reference
  else if x == '&' then l.fetchName .anchor
  else if x == '!' then l.fetchTag
  else if x == '|' && l.inBlock then l.fetchBlockScalar false
  else if x == '>' && l.inBlock then l.fetchBlockScalar true
  else if x == '\'' then l.fetchQuoted false
  else if x == '"' then l.fetchQuoted true
  else if l.atPlain then l.fetchPlain
  else .error .malformed

/-- Reads tokens up to the end or to the first defect.  Tokens after the first place where a key
token was still possible are not settled, and a defect hides them. -/
def run : Nat → Lexer → List Token × Option Defect
  | 0, l => (l.tokens.toList, some .malformed)
  | fuel + 1, l =>
    if l.finished then (l.tokens.toList, none)
    else
      match l.forgetStale with
      | .error e => (l.tokens.toList.take l.settled, some e)
      | .ok l =>
        match l.fetch with
        | .error e => (l.tokens.toList.take l.settled, some e)
        | .ok l' => run fuel l'

end Lexer

/-- The tokens of a text, and the defect that ends them too early, if there is one. -/
def tokensOf (s : String) : List Token × Option Defect :=
  let cs := s.toList
  if cs.all isReadable then Lexer.run (cs.length + 2) { cursor := ⟨cs, 0, 0, 0⟩ }
  else ([], some .malformed)

end Conveyor.Yaml
