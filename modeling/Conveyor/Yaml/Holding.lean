/-
**What the collections of a document hold.**

The collections are looked at in the order in which they are met, the root first, so that what is
wrong nearest to the root is found first.  A merge sign as a key stands for the entries of one
mapping or of a sequence of mappings; they come before the other entries, so that these win.  A
mapping is merged once: from then on its node holds the entries that were merged into it.

Main definitions:

* `Conveyor.Yaml.Value` — a scalar, or a collection by its number;
* `Conveyor.Yaml.Holding` — what a collection holds;
* `Conveyor.Yaml.Graph.holdings` — the root, and what each collection holds.
-/

import Conveyor.Text.Quoted
import Conveyor.Yaml.Node
import Conveyor.Yaml.Scalar

set_option autoImplicit false

namespace Conveyor.Yaml

/-- A value inside a collection: a scalar, or a collection by its number. -/
inductive Value where
  | scalar (d : Datum)
  | collection (number : Nat)
  deriving Inhabited

/-- A key.  The mark tells apart what equals nothing, not even itself. -/
structure Key where
  datum : Datum
  mark : Option Nat := none

/-- Whether two keys are the same. -/
def Key.same (a b : Key) : Bool :=
  (a.mark.isSome && a.mark == b.mark) || Datum.sameKey a.datum b.datum

/-- What a collection holds. -/
inductive Holding where
  | list (items : List Value)
  | pairs (items : List (Value × Value))
  | set (keys : List Key)
  | dict (entries : List (Key × Value))
  deriving Inhabited

/-- Writes an entry: a key that is already there keeps its place and gets the new value. -/
def putEntry (k : Key) (v : Value) : List (Key × Value) → List (Key × Value)
  | [] => [(k, v)]
  | (k', v') :: rest => if k'.same k then (k', v) :: rest else (k', v') :: putEntry k v rest

/-- Adds a key to a set, unless it is there. -/
def insertKey (keys : List Key) (k : Key) : List Key :=
  if keys.any (·.same k) then keys else keys ++ [k]

/-- The entries of a mapping. -/
def Content.entries : Content → List (Nat × Nat)
  | .mapping entries => entries
  | _ => []

/-- How often a merge sign is a key. -/
def mergeCount (nodes : Array Node) : Nat :=
  ((List.range nodes.size).flatMap fun number =>
    (nodes.getD number default).content.entries).countP fun e =>
      (nodes.getD e.1 default).kind = .merge

/-- The nodes, which merging changes, the collections that were met, and what those hold that were
looked at. -/
structure Visit where
  nodes : Array Node
  met : List Nat := []
  /-- The collections that are still to be looked at, the next one first. -/
  waiting : List Nat := []
  held : List (Nat × Holding) := []

/-- A step of looking at collections. -/
abbrev Visiting := StateT Visit (Except Defect)

namespace Visiting

/-- The node of a number. -/
def nodeAt (number : Nat) : Visiting Node := do return (← get).nodes.getD number default

/-- Changes the node of a number. -/
def setNode (number : Nat) (n : Node) : Visiting Unit :=
  modify fun s => { s with nodes := s.nodes.setIfInBounds number n }

/-! ### Scalars -/

/-- The text of a scalar, or of the scalar under the value sign of a mapping. -/
def textOf : Nat → Nat → Visiting Content
  | 0, _ => throw .endless
  | fuel + 1, number => do
    match (← nodeAt number).content with
    | .sequence _ => throw .malformed
    | .mapping entries =>
      let nodes := (← get).nodes
      match entries.find? fun e => (nodes.getD e.1 default).kind = .value with
      | some (_, v) => textOf fuel v
      | none => throw .malformed
    | content => return content

/-- Whether a node is a scalar itself. -/
def Content.isScalar : Content → Bool
  | .scalar _ | .codes _ => true
  | _ => false

/-- The datum of a node that is read as a scalar. -/
def scalarAt (number : Nat) : Visiting Datum := do
  let n ← nodeAt number
  let text ← textOf ((← get).nodes.size + 1) number
  if n.kind = .timestamp ∧ ¬ Content.isScalar n.content then throw .dateOfCollection
  match text with
  | .scalar s => scalarDatum n.kind s
  | .codes cs =>
    if n.kind = .text then return .codes cs else scalarDatum n.kind (Text.replaced 1 cs)
  | _ => throw .malformed

/-! ### Merging -/

/-- The entries of a mapping node. -/
def entriesAt (number : Nat) : Visiting (List (Nat × Nat)) := do
  match (← nodeAt number).content with
  | .mapping entries => return entries
  | _ => throw .malformed

/-- Puts entries into a mapping node. -/
def setEntries (number : Nat) (entries : List (Nat × Nat)) : Visiting Unit := do
  let n ← nodeAt number
  setNode number { n with content := .mapping entries }

/-- The meaning of a node. -/
def kindAt (number : Nat) : Visiting Kind := do return (← nodeAt number).kind

/-- The next of some entries whose key is a merge sign: its index, `index` being that of the first
entry, and its value.  A value sign that is a key before it becomes a text. -/
def nextMerge : Nat → List (Nat × Nat) → Visiting (Option (Nat × Nat))
  | _, [] => return none
  | index, (k, v) :: entries => do
    match ← kindAt k with
    | .merge => return some (index, v)
    | .value =>
      let n ← nodeAt k
      setNode k { n with kind := .text }
      nextMerge (index + 1) entries
    | _ => nextMerge (index + 1) entries

/-- The entries of a mapping node after `flatten`. -/
def flattenedAt (flatten : Nat → Visiting Unit) (number : Nat) : Visiting (List (Nat × Nat)) := do
  flatten number
  entriesAt number

/-- The entries of mappings in a row, those of the last mapping first. -/
def itemSources (flatten : Nat → Visiting Unit) : List Nat → Visiting (List (Nat × Nat))
  | [] => return []
  | item :: items => do
    match (← nodeAt item).content with
    | .mapping _ =>
      let own ← flattenedAt flatten item
      return (← itemSources flatten items) ++ own
    | _ => throw .malformed

/-- The entries that a merge sign stands for. -/
def sourcesOf (flatten : Nat → Visiting Unit) (number : Nat) : Visiting (List (Nat × Nat)) := do
  match (← nodeAt number).content with
  | .mapping _ => flattenedAt flatten number
  | .sequence items => itemSources flatten items
  | _ => throw .malformed

/-- Merges a mapping node from an entry on; `merged` are the entries found so far.  The fuel is more
than the number of merge signs that are keys: each is taken away before what it stands for is merged
in turn. -/
def mergeFrom : Nat → Nat → Nat → List (Nat × Nat) → Visiting Unit
  | 0, _, _, _ => throw .endless
  | fuel + 1, number, index, merged => do
    let entries ← entriesAt number
    match ← nextMerge index (entries.drop index) with
    | none => if merged.isEmpty then return () else setEntries number (merged ++ entries)
    | some (i, v) =>
      setEntries number (entries.eraseIdx i)
      let more ← sourcesOf (fun source => mergeFrom fuel source 0 []) v
      mergeFrom fuel number i (merged ++ more)

/-- The entries of a mapping node after merging.  Where neither sign is a key, nothing changes. -/
def mergedEntries (number : Nat) : Visiting (List (Nat × Nat)) := do
  let entries ← entriesAt number
  let nodes := (← get).nodes
  let signs := entries.any fun e =>
    let kind := (nodes.getD e.1 default).kind
    kind = .merge || kind = .value
  if signs then
    mergeFrom (mergeCount nodes + 1) number 0 []
    entriesAt number
  else return entries

/-! ### Collections -/

/-- Whether a meaning is that of a collection. -/
def isCollection : Kind → Bool
  | .sequence | .mapping | .set | .orderedMapping | .pairs => true
  | _ => false

/-- The value of a node.  A collection is only met, and looked at later. -/
def valueAt (number : Nat) : Visiting Value := do
  if isCollection (← kindAt number) then
    modify fun s =>
      if s.met.contains number then s
      else { s with met := number :: s.met, waiting := s.waiting ++ [number] }
    return .collection number
  else .scalar <$> scalarAt number

/-- Whether a text is the name of what is no number. -/
def namesNaN (s : String) : Bool :=
  match splitSign (Text.lower (withoutJoints s)).toList with
  | .ok (_, cs) => String.ofList cs == ".nan"
  | .error _ => false

/-- The key of a node; a collection is no key.  What is no number is the same key as often as it is
written by its name, and otherwise where it is the same node. -/
def keyAt (number : Nat) : Visiting Key := do
  match ← valueAt number with
  | .collection _ => throw .malformed
  | .scalar (.float x) =>
    if x.isNaN then
      let named := match (← nodeAt number).content with
        | .scalar s => namesNaN s
        | _ => false
      return { datum := .float x, mark := some (if named then 0 else number + 1) }
    else return { datum := .float x }
  | .scalar d => return { datum := d }

/-- The pair of a mapping with one entry. -/
def pairAt (number : Nat) : Visiting (Value × Value) := do
  match (← nodeAt number).content with
  | .mapping [(k, v)] =>
    let key ← valueAt k
    return (key, ← valueAt v)
  | _ => throw .malformed

/-- What a collection holds. -/
def holdingAt (number : Nat) : Visiting Holding := do
  let n ← nodeAt number
  match n.kind, n.content with
  | .sequence, .sequence items => .list <$> items.mapM valueAt
  | .orderedMapping, .sequence items | .pairs, .sequence items => .pairs <$> items.mapM pairAt
  | .mapping, .mapping _ =>
    let entries ← (← mergedEntries number).mapM fun e => do
      let k ← keyAt e.1
      return (k, ← valueAt e.2)
    return .dict (entries.foldl (fun done e => putEntry e.1 e.2 done) [])
  | .set, .mapping _ =>
    let keys ← (← mergedEntries number).mapM fun e => do
      let k ← keyAt e.1
      let _ ← valueAt e.2
      return k
    return .set (keys.foldl insertKey [])
  | _, _ => throw .malformed

/-- Looks at the collections that are waiting; `fuel` bounds their number. -/
def visitAll : Nat → Visiting Unit
  | 0 => return ()
  | fuel + 1 => do
    let s ← get
    match s.waiting with
    | [] => return ()
    | number :: rest =>
      set { s with waiting := rest }
      let h ← holdingAt number
      modify fun s => { s with held := (number, h) :: s.held }
      visitAll fuel

end Visiting

/-- The value of the root, and what each collection holds that is met from there. -/
def Graph.holdings (g : Graph) (root : Nat) : Except Defect (Value × List (Nat × Holding)) := do
  let step : Visiting Value := do
    let v ← Visiting.valueAt root
    Visiting.visitAll (g.nodes.size + 1)
    return v
  let (v, s) ← step.run { nodes := g.nodes }
  return (v, s.held)

end Conveyor.Yaml
