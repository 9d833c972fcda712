/-
**From tokens to the nodes of a document.**

Nodes have numbers, and collections name what they hold by number.  So a node under an anchor is one
node, however often it is referred to, and a collection may hold itself.

Main definitions:

* `Conveyor.Yaml.Node` — scalars, sequences and mappings with their meanings;
* `Conveyor.Yaml.Grammar` — the tokens that are left, and what was read so far;
* `Conveyor.Yaml.Graph` — the nodes of a document and its root;
* `Conveyor.Yaml.Graph.ofTokens` — the graph of the only document.
-/

import Conveyor.Yaml.Kind
import Conveyor.Yaml.Property

set_option autoImplicit false

namespace Conveyor.Yaml

/-- What a node holds; other nodes are named by their numbers. -/
inductive Content where
  | scalar (text : String)
  /-- A text some of whose code points are no characters. -/
  | codes (cs : List Nat)
  | sequence (items : List Nat)
  | mapping (entries : List (Nat × Nat))
  deriving Repr, Inhabited

/-- A node of a document: what it means and what it holds. -/
structure Node where
  kind : Kind
  content : Content
  deriving Repr, Inhabited

/-- The tokens that are left, and what was read so far. -/
structure Grammar where
  tokens : List Token
  /-- What ends the tokens too early, if anything does. -/
  defect : Option Defect
  /-- The handles of tags and what they stand for. -/
  handles : List (String × String) := []
  nodes : Array Node := #[]
  /-- The numbers of the anchored nodes. -/
  anchors : List (String × Nat) := []

/-- A step of reading a document. -/
abbrev Reading := StateT Grammar (Except Defect)

namespace Reading

/-- A broken grammar. -/
def broken {α : Type} : Reading α := throw .malformed

/-- The next token. -/
def peek : Reading Token := do
  let g ← get
  match g.tokens with
  | t :: _ => return t
  | [] => throw (g.defect.getD .malformed)

/-- Moves over a token. -/
def next : Reading Unit := modify fun g => { g with tokens := g.tokens.tail }

/-- Moves over the next token if it is `t`. -/
def accept (t : Token) : Reading Bool := do
  if (← peek) = t then
    next
    return true
  else return false

/-- Moves over the next token, which has to be `t`. -/
def expect (t : Token) : Reading Unit := do
  if !(← accept t) then broken

/-- Whether the next token is one of some. -/
def atAny (ts : List Token) : Reading Bool := do return ts.contains (← peek)

/-- Adds a node and gives its number. -/
def add (n : Node) : Reading Nat := do
  let g ← get
  set { g with nodes := g.nodes.push n }
  return g.nodes.size

/-- Adds a node under an anchor; no two anchors have the same name. -/
def addUnder (anchor : Option String) (n : Node) : Reading Nat := do
  match anchor with
  | none => add n
  | some name =>
    if (← get).anchors.any (·.1 == name) then broken
    let number ← add n
    modify fun g => { g with anchors := (name, number) :: g.anchors }
    return number

/-- Adds a collection under an anchor, which is declared before the contents are read. -/
def addCollection (anchor : Option String) (kind : Kind) (contents : Reading Content) :
    Reading Nat := do
  let number ← addUnder anchor ⟨kind, .scalar ""⟩
  let content ← contents
  modify fun g => { g with nodes := g.nodes.setIfInBounds number ⟨kind, content⟩ }
  return number

/-- The number of the node of an anchor. -/
def anchored (name : String) : Reading Nat := do
  match (← get).anchors.find? (·.1 == name) with
  | some (_, number) => return number
  | none => broken

/-- The meaning that a tag names, and whether the tag is the lone exclamation mark. -/
def tagName (handle : Option String) (suffix : String) : Reading String := do
  match handle with
  | none => return suffix
  | some h =>
    match (← get).handles.find? (·.1 == h) with
    | some (_, address) => return address ++ suffix
    | none => broken

/-- An anchor and a tag, in either order. -/
def properties : Reading (Option String × Option String) := do
  match ← peek with
  | .anchor name =>
    next
    match ← peek with
    | .tag h s =>
      next
      return (some name, some (← tagName h s))
    | _ => return (some name, none)
  | .tag h s =>
    next
    match ← peek with
    | .anchor name =>
      next
      return (some name, some (← tagName h s))
    | _ => return (none, some (← tagName h s))
  | _ => return (none, none)

/-- The meaning of a collection with a tag. -/
def collectionKind (tag : Option String) (default : Kind) : Kind :=
  match tag with
  | none => default
  | some t => if t = "!" then default else Kind.ofTag t

/-- A scalar with its meaning: a plain one means what it looks like unless a tag says otherwise. -/
def scalarNode (tag : Option String) (text : String) (plain : Bool) : Node :=
  match tag with
  | none => ⟨if plain then Kind.ofPlain text else .text, .scalar text⟩
  | some t => ⟨if t = "!" then Kind.ofPlain text else Kind.ofTag t, .scalar text⟩

/-- Adds a scalar that is not written. -/
def addEmpty : Reading Nat := add ⟨.null, .scalar ""⟩

/-- The tokens that end an entry of a block mapping. -/
def blockEnds : List Token := [.key, .value, .blockEnd]

mutual
/-- A node.  `block` admits block collections, `indentless` a sequence that is not indented. -/
def node (block indentless : Bool) : Nat → Reading Nat
  | 0 => broken
  | fuel + 1 => do
    match ← peek with
    | .reference name =>
      next
      anchored name
    | _ =>
      let (anchor, tag) ← properties
      if indentless && (← peek) = .blockEntry then
        addCollection anchor (collectionKind tag .sequence) (.sequence <$> indentlessItems fuel)
      else
        match ← peek with
        | .scalar text plain =>
          next
          addUnder anchor (scalarNode tag text plain)
        | .codes cs =>
          next
          addUnder anchor ⟨collectionKind tag .text, .codes cs⟩
        | .flowSequence =>
          next
          addCollection anchor (collectionKind tag .sequence) (.sequence <$> flowItems true fuel)
        | .flowMapping =>
          next
          addCollection anchor (collectionKind tag .mapping) (.mapping <$> flowEntries true fuel)
        | t =>
          if block && t = .blockSequence then
            next
            addCollection anchor (collectionKind tag .sequence) (.sequence <$> blockItems fuel)
          else if block && t = .blockMapping then
            next
            addCollection anchor (collectionKind tag .mapping) (.mapping <$> blockEntries fuel)
          else if anchor.isSome || tag.isSome then addUnder anchor (scalarNode tag "" true)
          else broken

/-- The items of a block sequence. -/
def blockItems : Nat → Reading (List Nat)
  | 0 => broken
  | fuel + 1 => do
    if ← accept .blockEntry then
      let item ←
        if ← atAny [.blockEntry, .blockEnd] then addEmpty else node true false fuel
      return item :: (← blockItems fuel)
    else
      expect .blockEnd
      return []

/-- The items of a sequence that is not indented. -/
def indentlessItems : Nat → Reading (List Nat)
  | 0 => broken
  | fuel + 1 => do
    if ← accept .blockEntry then
      let item ←
        if ← atAny (.blockEntry :: blockEnds) then addEmpty else node true false fuel
      return item :: (← indentlessItems fuel)
    else return []

/-- The entries of a block mapping. -/
def blockEntries : Nat → Reading (List (Nat × Nat))
  | 0 => broken
  | fuel + 1 => do
    if ← accept .key then
      let k ← if ← atAny blockEnds then addEmpty else node true true fuel
      let v ←
        if ← accept .value then
          if ← atAny blockEnds then addEmpty else node true true fuel
        else addEmpty
      return (k, v) :: (← blockEntries fuel)
    else
      expect .blockEnd
      return []

/-- The items of a flow sequence; a key in it makes a mapping of one entry. -/
def flowItems (first : Bool) : Nat → Reading (List Nat)
  | 0 => broken
  | fuel + 1 => do
    if ← accept .flowSequenceEnd then return []
    if !first then expect .flowEntry
    if ← accept .key then
      let entry ← flowEntry .flowSequenceEnd fuel
      let item ← add ⟨.mapping, .mapping [entry]⟩
      return item :: (← flowItems false fuel)
    else if ← accept .flowSequenceEnd then return []
    else
      let item ← node false false fuel
      return item :: (← flowItems false fuel)

/-- The entries of a flow mapping; an item that is no key is a key without a value. -/
def flowEntries (first : Bool) : Nat → Reading (List (Nat × Nat))
  | 0 => broken
  | fuel + 1 => do
    if ← accept .flowMappingEnd then return []
    if !first then expect .flowEntry
    if ← accept .key then
      let entry ← flowEntry .flowMappingEnd fuel
      return entry :: (← flowEntries false fuel)
    else if ← accept .flowMappingEnd then return []
    else
      let k ← node false false fuel
      let v ← addEmpty
      return (k, v) :: (← flowEntries false fuel)

/-- The entry of a flow collection after its key sign; `close` ends the collection. -/
def flowEntry (close : Token) : Nat → Reading (Nat × Nat)
  | 0 => broken
  | fuel + 1 => do
    let k ← if ← atAny [.value, .flowEntry, close] then addEmpty else node false false fuel
    let v ←
      if ← accept .value then
        if ← atAny [.flowEntry, close] then addEmpty else node false false fuel
      else addEmpty
    return (k, v)
end

/-! ### Documents -/

/-- The handles that every document has, unless it declares them otherwise. -/
def defaultHandles : List (String × String) := [("!", "!"), ("!!", "tag:yaml.org,2002:")]

/-- The directives before a document; a version is given once and a handle is declared once. -/
def directives (versioned : Bool) : Nat → Reading Unit
  | 0 => broken
  | fuel + 1 => do
    match ← peek with
    | .directive d =>
      next
      match d with
      | .version major _ =>
        if versioned || major != 1 then broken
        directives true fuel
      | .handle h address =>
        if (← get).handles.any (·.1 == h) then broken
        modify fun g => { g with handles := g.handles ++ [(h, address)] }
        directives versioned fuel
      | .other => directives versioned fuel
    | _ => modify fun g => { g with handles := g.handles ++ defaultHandles }

/-- Moves over the marks that end a document. -/
def documentEnds : Nat → Reading Unit
  | 0 => broken
  | fuel + 1 => do if ← accept .documentEnd then documentEnds fuel

/-- Whether the next token is a directive. -/
def atDirective : Reading Bool := do
  match ← peek with
  | .directive _ => return true
  | _ => return false

/-- The root of the only document, if there is one. -/
def document (fuel : Nat) : Reading (Option Nat) := do
  let explicit := (← atDirective) || (← atAny [.documentStart, .streamEnd])
  let root ←
    if !explicit then
      modify fun g => { g with handles := defaultHandles }
      some <$> node true false fuel
    else if ← atAny [.streamEnd] then pure none
    else do
      directives false fuel
      expect .documentStart
      if (← atDirective) || (← atAny [.documentStart, .documentEnd, .streamEnd]) then
        some <$> addEmpty
      else some <$> node true false fuel
  documentEnds fuel
  if ← atAny [.streamEnd] then return root else broken

end Reading

/-- The nodes of a document, and the number of its root if it has one. -/
structure Graph where
  nodes : Array Node
  root : Option Nat

/-- The graph of the only document of a row of tokens. -/
def Graph.ofTokens (tokens : List Token) (defect : Option Defect) : Except Defect Graph := do
  let (root, g) ← (Reading.document (4 * tokens.length + 16)).run { tokens, defect }
  return { nodes := g.nodes, root }

end Conveyor.Yaml
