/-
**From the collections of a document to data.**

A collection whose parts are all data is a datum.  What is left then are the collections that hold
themselves and those around them; they are unfolded level by level, each with its number, deeper than
any check looks and than any of them repeats.

Main definitions:

* `Conveyor.Yaml.settle` — the data of the collections that do not hold themselves;
* `Conveyor.Yaml.unfold` — the data of the others;
* `Conveyor.Yaml.read` — the datum of a document.
-/

import Conveyor.Yaml.Holding
import Conveyor.Yaml.Lexer

set_option autoImplicit false

namespace Conveyor.Yaml

/-- The data of collections by their numbers. -/
abbrev Known := Array (Option Datum)

/-- The datum of a collection, if it is known. -/
def Known.find? (known : Known) (number : Nat) : Option Datum := (known[number]?).join

/-- The datum of a value, if it is known. -/
def Known.value? (known : Known) : Value → Option Datum
  | .scalar d => some d
  | .collection number => known.find? number

/-- The datum of a holding, if its parts are known. -/
def Known.holding? (known : Known) : Holding → Option Datum
  | .list items => .list <$> items.mapM known.value?
  | .pairs items =>
    .list <$> items.mapM fun p => do return .tuple [← known.value? p.1, ← known.value? p.2]
  | .set keys => some (.set (keys.map (·.datum)))
  | .dict entries => .dict <$> entries.mapM fun e => do return (e.1.datum, ← known.value? e.2)

/-- Finds the data of the collections whose parts are known, as long as there are such; gives what
is known then, and the collections that are left. -/
def settle : Nat → Known → List (Nat × Holding) → Known × List (Nat × Holding)
  | 0, known, left => (known, left)
  | fuel + 1, known, left =>
    let (known, left') := left.foldl (fun (acc : Known × List (Nat × Holding)) h =>
      match acc.1.holding? h.2 with
      | some d => (acc.1.setIfInBounds h.1 (some d), acc.2)
      | none => (acc.1, h :: acc.2)) (known, [])
    if left'.length = left.length then (known, left) else settle fuel known left'.reverse

/-- How deep checks look into data. -/
def checkedDepth : Nat := 16

/-- Unfolds the collections that are left by one level after the other. -/
def unfold (left : List (Nat × Holding)) : Nat → Known → Known
  | 0, known => known
  | levels + 1, known =>
    let next := left.foldl (fun (acc : Known) h =>
      match known.holding? h.2 with
      | some d => acc.setIfInBounds h.1 (some (.knot h.1 d))
      | none => acc) known
    unfold left levels next

/-- What stands below the last level: it is never looked at. -/
def bottom (h : Nat × Holding) : Datum :=
  .knot h.1 (match h.2 with
    | .dict _ => .dict []
    | _ => .list [])

/-- The data of collections. -/
def dataOf (size : Nat) (held : List (Nat × Holding)) : Known :=
  let (known, left) := settle (held.length + 1) (Array.replicate size none) held
  let known := left.foldl (fun (acc : Known) h => acc.setIfInBounds h.1 (some (bottom h))) known
  unfold left (if left.isEmpty then 0 else left.length + checkedDepth) known

/-- The datum of a document; a document without contents is null. -/
def read (s : String) : Except Defect Datum := do
  let (tokens, defect) := tokensOf s
  let g ← Graph.ofTokens tokens defect
  match g.root with
  | none => return .null
  | some root =>
    let (v, held) ← g.holdings root
    return ((dataOf g.nodes.size held).value? v).getD .null

end Conveyor.Yaml
