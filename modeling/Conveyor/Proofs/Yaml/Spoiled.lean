/-
**What spoils the nodes of a document.**

Looking at nodes changes them: entries are merged into mappings, and a value sign becomes a text.  But
a scalar stays what it is, and a node keeps its meaning unless it becomes a text.  So whatever is found
to be wrong is wrong with a node of the document as it was written: a scalar is not what its node
means, or a mapping stands where a scalar is written, whose value signs lead to a date or to no end.

Main definitions:

* `Conveyor.Yaml.Graph.Spoils` — what is wrong with the nodes of a document.

Main results:

* `Conveyor.Yaml.Visiting.visits_scalarAt` — what is wrong with a scalar;
* `Conveyor.Yaml.Graph.spoils_of_holdings` — **what is wrong with the nodes of a document**;
* `Conveyor.Yaml.read_error_cases` — **why a text cannot be read**.
-/

import Conveyor.Proofs.Yaml.Grammar
import Conveyor.Proofs.Yaml.Merging
import Conveyor.Yaml.Document

set_option autoImplicit false

namespace Conveyor.Yaml

/-- Only truth values, numbers and dates can be wrong in a way of their own. -/
theorem scalarDatum_error_cases {kind : Kind} {s : String} {e : Defect}
    (h : scalarDatum kind s = .error e) : e = .malformed ∨ kind ∈ [.bool, .int, .float, .timestamp] := by
  cases kind with
  | bool | int | float | timestamp => exact .inr (by decide)
  | null | text => cases h
  | binary =>
      simp only [scalarDatum, binaryValue] at h
      split at h
      · split at h
        · cases h
        · cases h
          exact .inl rfl
      · cases h
        exact .inl rfl
  | merge | value | sequence | mapping | set | orderedMapping | pairs | unknown =>
      cases h
      exact .inl rfl

/-- The text of a scalar; what is no character is replaced. -/
def Content.text? : Content → Option String
  | .scalar s => some s
  | .codes cs => some (Text.replaced 1 cs)
  | _ => none

/-- What is wrong with the nodes of a document. -/
inductive Graph.Spoils (g : Graph) : Defect → Prop
  | malformed : Spoils g .malformed
  /-- A mapping stands where a scalar is written, and its value signs are followed without end. -/
  | endless {number : Nat} (content : (g.node number).content.IsMapping)
      (kind : Visiting.isCollection (g.node number).kind = false) : Spoils g .endless
  /-- A mapping stands where a date is written. -/
  | dateOfCollection {number : Nat} (content : (g.node number).content.IsMapping)
      (kind : (g.node number).kind = .timestamp) : Spoils g .dateOfCollection
  /-- A scalar is not what its node means; the scalar of a mapping stands under its value sign. -/
  | scalar {number source : Nat} {s : String} {e : Defect}
      (text : (g.node source).content.text? = some s)
      (place : source = number ∨ (g.node number).content.IsMapping)
      (kind : (g.node number).kind ∈ [.bool, .int, .float, .timestamp])
      (misfit : scalarDatum (g.node number).kind s = .error e) : Spoils g e

namespace Visiting

variable {α β : Type} {g : Graph} {Q : α → Prop} {R : β → Prop} {m : Visiting α}
  {f : α → Visiting β} {number : Nat}

/-- A step that leaves nodes alike, promises something of its result, and fails with what is wrong with
the document. -/
def Visits (g : Graph) (Q : α → Prop) (m : Visiting α) : Prop := Keeps (·.IsOf g) g.Spoils Q m

theorem Visits.bind (hm : Visits g Q m) (hf : ∀ a, Q a → Visits g R (f a)) : Visits g R (m >>= f) :=
  Keeps.bind hm hf

theorem Visits.malformed : Visits g Q (throw .malformed : Visiting α) := Keeps.throw .malformed

theorem Visits.pure {a : α} (h : Q a) : Visits g Q (pure a : Visiting α) := Keeps.pure h

/-- A step that is taken unless something is wrong. -/
theorem Visits.unless {c : Prop} [Decidable c] {e : Defect} (he : c → g.Spoils e)
    (hm : Visits g Q m) : Visits g Q (do
      if c then throw e
      m) := by
  split
  · rename_i hc
    exact Keeps.bind (Q := fun _ => True) (Keeps.throw (he hc)) fun _ _ => hm
  · exact hm

/-! ### Nodes -/

theorem keeps_nodeAt {P : Defect → Prop} (number : Nat) :
    Keeps (·.IsOf g) P (fun n : Node => n.Alike (g.node number)) (nodeAt number) :=
  Keeps.bind Keeps.get fun _ hs => Keeps.pure (hs number)

theorem visits_kindAt (number : Nat) : Visits g (fun kind : Kind => kind = (g.node number).kind ∨
    ((g.node number).kind = .value ∧ kind = .text)) (kindAt number) :=
  Keeps.bind (keeps_nodeAt number) fun _ hn => Keeps.pure hn.kind

theorem visits_mergedEntries (number : Nat) : Visits g (fun _ => True) (mergedEntries number) := by
  refine (meets_mergedEntries number).mono (fun _ => id) ?_ fun _ _ hs => ⟨trivial, hs⟩
  rintro e rfl
  exact .malformed

/-! ### Scalars -/

theorem isScalar_of_ne {c : Content} (hsequence : ∀ items, c ≠ .sequence items)
    (hmapping : ∀ entries, c ≠ .mapping entries) : Content.isScalar c = true := by
  cases c with
  | scalar s => rfl
  | codes cs => rfl
  | sequence items => exact absurd rfl (hsequence items)
  | mapping entries => exact absurd rfl (hmapping entries)

/-- The text of a node is that of a scalar of the document, another's only for a mapping; and only for
a mapping is there no end. -/
theorem keeps_textOf (fuel number : Nat) : Keeps (·.IsOf g)
    (fun e => e = .malformed ∨ (e = .endless ∧ (fuel = 0 ∨ (g.node number).content.IsMapping)))
    (fun c : Content => ∃ source, (g.node source).content = c ∧ Content.isScalar c = true ∧
      (source = number ∨ (g.node number).content.IsMapping)) (textOf fuel number) := by
  induction fuel generalizing number with
  | zero => exact Keeps.throw (.inr ⟨rfl, .inl rfl⟩)
  | succ fuel ih =>
      rw [textOf]
      refine (keeps_nodeAt number).bind fun n hn => ?_
      split
      · exact Keeps.throw (.inl rfl)
      · rename_i entries hentries
        have hmapping := hn.isMapping ⟨entries, hentries⟩
        refine Keeps.bind Keeps.get fun s _ => ?_
        dsimp only
        split
        · rename_i v _
          -- Only a mapping leads on to another node.
          refine (ih v).mono ?_ ?_
          · exact fun e he => he.imp_right fun ⟨hendless, _⟩ => ⟨hendless, .inr hmapping⟩
          · exact fun c ⟨source, hc, hscalar, _⟩ => ⟨source, hc, hscalar, .inr hmapping⟩
        · exact Keeps.throw (.inl rfl)
      · rename_i hsequence hmapping
        have hsame := hn.content_eq fun ⟨entries, h⟩ => hmapping entries h
        exact Keeps.pure ⟨number, hsame.symm, isScalar_of_ne hsequence hmapping, .inl rfl⟩

/-- What is wrong with a text under the meaning of a node is wrong under that which was written. -/
theorem visits_scalarDatum {n : Node} {s : String} {source : Nat} (hn : n.Alike (g.node number))
    (htext : (g.node source).content.text? = some s)
    (hplace : source = number ∨ (g.node number).content.IsMapping) :
    Visits g (fun _ => True) (liftM (scalarDatum n.kind s) : Visiting Datum) := by
  refine Keeps.lift (fun e he => ?_) fun _ _ => trivial
  rcases hn.kind with hkind | ⟨_, hkind⟩
  · rw [hkind] at he
    rcases scalarDatum_error_cases he with rfl | hnumber
    · exact .malformed
    · exact .scalar htext hplace hnumber he
  · rw [hkind] at he
    cases he

theorem visits_scalarAt (hkind : isCollection (g.node number).kind = false) :
    Visits g (fun _ => True) (scalarAt number) := by
  refine Visits.bind (keeps_nodeAt number) fun n hn => Keeps.bind Keeps.get fun s _ => ?_
  have htextOf : Visits g (fun c : Content => ∃ source, (g.node source).content = c ∧
      Content.isScalar c = true ∧ (source = number ∨ (g.node number).content.IsMapping))
      (textOf (s.nodes.size + 1) number) := by
    refine (keeps_textOf _ number).mono ?_ fun _ => id
    rintro e (rfl | ⟨rfl, hzero | hmapping⟩)
    · exact .malformed
    · cases hzero
    · exact .endless hmapping hkind
  refine htextOf.bind fun text hsource => ?_
  obtain ⟨source, rfl, hscalar, hplace⟩ := hsource
  refine Visits.unless (fun ⟨hdate, hcontent⟩ => ?_) ?_
  · -- There is a text, but it is not the node's own.
    refine .dateOfCollection ?_ (hn.kind_eq (by rw [hdate]; nofun) ▸ hdate)
    rcases hplace with rfl | hmapping
    · rcases hn.content with hsame | ⟨-, hmapping⟩
      · exact absurd (hsame ▸ hscalar) hcontent
      · exact hmapping
    · exact hmapping
  · split
    · rename_i s hs
      exact visits_scalarDatum hn (by rw [hs]; rfl) hplace
    · rename_i cs hs
      split
      · exact .pure trivial
      · exact visits_scalarDatum hn (by rw [hs]; rfl) hplace
    · exact .malformed

/-! ### Collections -/

theorem visits_valueAt (number : Nat) : Visits g (fun _ => True) (valueAt number) := by
  refine (visits_kindAt number).bind fun kind hkind => ?_
  split
  · refine Keeps.bind (Q := fun _ => True) (Keeps.modify fun s hs => ?_) fun _ _ => .pure trivial
    split
    · exact hs
    · exact hs
  · rename_i hcollection
    refine Keeps.map (visits_scalarAt ?_) fun _ _ => trivial
    rcases hkind with rfl | ⟨hvalue, -⟩
    · exact Bool.eq_false_iff.2 hcollection
    · rw [hvalue]
      rfl

theorem visits_keyAt (number : Nat) : Visits g (fun _ => True) (keyAt number) := by
  refine (visits_valueAt number).bind fun v _ => ?_
  split
  · exact .malformed
  · split
    · exact Visits.bind (keeps_nodeAt number) fun _ _ => .pure trivial
    · exact .pure trivial
  · exact .pure trivial

theorem visits_pairAt (number : Nat) : Visits g (fun _ => True) (pairAt number) := by
  refine Visits.bind (keeps_nodeAt number) fun n _ => ?_
  split
  · exact (visits_valueAt _).bind fun _ _ => (visits_valueAt _).bind fun _ _ => .pure trivial
  · exact .malformed

/-- What is read for each of some nodes, or entries. -/
theorem visits_mapM {γ : Type} {h : γ → Visiting α} (hh : ∀ x, Visits g (fun _ => True) (h x))
    (xs : List γ) : Visits g (fun _ => True) (xs.mapM h) :=
  Keeps.mono (Keeps.mapM fun x _ => hh x) (fun _ => id) fun _ _ => trivial

theorem visits_holdingAt (number : Nat) : Visits g (fun _ => True) (holdingAt number) := by
  refine Visits.bind (keeps_nodeAt number) fun n _ => ?_
  split
  · exact Keeps.map (visits_mapM visits_valueAt _) fun _ _ => trivial
  · exact Keeps.map (visits_mapM visits_pairAt _) fun _ _ => trivial
  · exact Keeps.map (visits_mapM visits_pairAt _) fun _ _ => trivial
  · refine (visits_mergedEntries number).bind fun entries _ => ?_
    refine (visits_mapM (fun e => ?_) entries).bind fun _ _ => .pure trivial
    exact (visits_keyAt e.1).bind fun _ _ => (visits_valueAt e.2).bind fun _ _ => .pure trivial
  · refine (visits_mergedEntries number).bind fun entries _ => ?_
    refine (visits_mapM (fun e => ?_) entries).bind fun _ _ => .pure trivial
    exact (visits_keyAt e.1).bind fun _ _ => (visits_valueAt e.2).bind fun _ _ => .pure trivial
  · exact .malformed

theorem visits_visitAll (fuel : Nat) : Visits g (fun _ => True) (visitAll fuel) := by
  induction fuel with
  | zero => exact .pure trivial
  | succ fuel ih =>
      refine Keeps.bind Keeps.get fun s hs => ?_
      split
      · exact .pure trivial
      · refine Keeps.bind (Keeps.set hs) fun _ _ => (visits_holdingAt _).bind fun h _ => ?_
        exact Keeps.bind (Keeps.modify fun s hs => hs) fun _ _ => ih

end Visiting

/-- What is wrong with the nodes of a document. -/
theorem Graph.spoils_of_holdings {g : Graph} {root : Nat} {e : Defect}
    (h : g.holdings root = .error e) : g.Spoils e := by
  have hvisits : Visiting.Visits g (fun _ => True) (do
      let v ← Visiting.valueAt root
      Visiting.visitAll (g.nodes.size + 1)
      return v) :=
    (Visiting.visits_valueAt root).bind fun _ _ =>
      (Visiting.visits_visitAll _).bind fun _ _ => .pure trivial
  have hrun := hvisits { nodes := g.nodes } fun number => ⟨.inl rfl, .inl rfl⟩
  simp only [holdings] at h
  split at hrun
  · rename_i hok
    rw [hok] at h
    cases h
  · rename_i he
    rw [he] at h
    cases h
    exact hrun

/-! ### Documents -/

/-- Why a text cannot be read: it is no row of tokens, the tokens are no document, or the nodes of the
document are spoiled. -/
theorem read_error_cases {s : String} {e : Defect} (h : read s = .error e) :
    e.IsLexical ∨ ∃ g, Graph.ofTokens (tokensOf s).1 (tokensOf s).2 = .ok g ∧ g.Spoils e := by
  cases hgraph : Graph.ofTokens (tokensOf s).1 (tokensOf s).2 with
  | error e' =>
      simp only [read, hgraph] at h
      cases h
      exact .inl (isLexical_of_ofTokens hgraph)
  | ok g =>
      cases hroot : g.root with
      | none =>
          simp only [read, hgraph, bind, Except.bind, hroot] at h
          cases h
      | some root =>
          simp only [read, hgraph, bind, Except.bind, hroot] at h
          split at h
          · rename_i hholdings
            cases h
            exact .inr ⟨g, rfl, Graph.spoils_of_holdings hholdings⟩
          · cases h

end Conveyor.Yaml
