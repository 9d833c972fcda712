/-
**What is wrong with the tokens of a document.**

A row of tokens has the grammar of a document, or it breaks it; if it ends too early, what ended it is
what is wrong.  Nothing else is found out before the nodes are looked at.

Main definitions:

* `Conveyor.Yaml.Reading.Breaks` — a step that fails by breaking the grammar, or with what ended the
  tokens.

Main results:

* `Conveyor.Yaml.Reading.breaks_node` — nodes;
* `Conveyor.Yaml.isLexical_of_ofTokens` — **what is wrong with the tokens of a text**.
-/

import Conveyor.Proofs.Yaml.Lexing
import Conveyor.Yaml.Node

set_option autoImplicit false

namespace Conveyor.Yaml

namespace Reading

/-- A step that fails by breaking the grammar, or with what ended the tokens, which it keeps. -/
def Breaks {α : Type} (d : Option Defect) (m : Reading α) : Prop :=
  Keeps (fun g => g.defect = d) (fun e => e = .malformed ∨ d = some e) (fun _ => True) m

variable {α β : Type} {d : Option Defect} {m : Reading α} {f : α → Reading β}

/-! ### Steps -/

theorem Breaks.pure (a : α) : Breaks d (pure a : Reading α) := Keeps.pure trivial

theorem Breaks.broken : Breaks d (broken : Reading α) := Keeps.throw (.inl rfl)

theorem Breaks.modify {g : Grammar → Grammar} (h : ∀ s, (g s).defect = s.defect) :
    Breaks d (modify g : Reading PUnit) := Keeps.modify fun s hs => (h s).trans hs

theorem Breaks.bind (hm : Breaks d m) (hf : ∀ a, Breaks d (f a)) : Breaks d (m >>= f) :=
  Keeps.bind hm fun a _ => hf a

theorem Breaks.get_bind {f : Grammar → Reading β} (hf : ∀ g, g.defect = d → Breaks d (f g)) :
    Breaks d (get >>= f) := Keeps.bind Keeps.get fun g hg => hf g hg

theorem Breaks.map {g : α → β} (hm : Breaks d m) : Breaks d (g <$> m) :=
  Keeps.map hm fun _ _ => trivial

theorem Breaks.ite {c : Prop} [Decidable c] {m' : Reading α} (h : Breaks d m) (h' : Breaks d m') :
    Breaks d (if c then m else m') := by
  split
  · exact h
  · exact h'

theorem breaks_peek : Breaks d peek := by
  refine Breaks.get_bind fun g hg => ?_
  split
  · exact .pure _
  · refine Keeps.throw ?_
    rw [hg]
    cases d with
    | none => exact .inl rfl
    | some e => exact .inr rfl

theorem breaks_next : Breaks d next := Breaks.modify fun _ => rfl

theorem breaks_accept (t : Token) : Breaks d (accept t) :=
  breaks_peek.bind fun _ => .ite (breaks_next.bind fun _ => .pure _) (.pure _)

theorem breaks_expect (t : Token) : Breaks d (expect t) :=
  (breaks_accept t).bind fun _ => .ite .broken (.pure _)

theorem breaks_atAny (ts : List Token) : Breaks d (atAny ts) := breaks_peek.bind fun _ => .pure _

theorem breaks_add (n : Node) : Breaks d (add n) := by
  refine Breaks.get_bind fun g hg => ?_
  refine Keeps.bind (Q := fun _ => True) (Keeps.set ?_) fun _ _ => Breaks.pure _
  exact hg

theorem breaks_addUnder (anchor : Option String) (n : Node) : Breaks d (addUnder anchor n) := by
  cases anchor with
  | none => exact breaks_add n
  | some name =>
      refine Breaks.get_bind fun g _ => .ite .broken ?_
      refine (breaks_add n).bind fun number => ?_
      exact (Breaks.modify fun _ => rfl).bind fun _ => .pure number

theorem breaks_addCollection {anchor : Option String} {kind : Kind} {contents : Reading Content}
    (h : Breaks d contents) : Breaks d (addCollection anchor kind contents) := by
  refine (breaks_addUnder anchor _).bind fun number => h.bind fun content => ?_
  exact (Breaks.modify fun _ => rfl).bind fun _ => .pure number

theorem breaks_anchored (name : String) : Breaks d (anchored name) := by
  refine Breaks.get_bind fun _ _ => ?_
  split
  · exact .pure _
  · exact .broken

theorem breaks_tagName (handle : Option String) (suffix : String) :
    Breaks d (tagName handle suffix) := by
  cases handle with
  | none => exact .pure _
  | some h =>
      refine Breaks.get_bind fun _ _ => ?_
      split
      · exact .pure _
      · exact .broken

theorem breaks_properties : Breaks d properties := by
  refine breaks_peek.bind fun t => ?_
  split
  · refine breaks_next.bind fun _ => breaks_peek.bind fun t => ?_
    split
    · exact breaks_next.bind fun _ => (breaks_tagName _ _).bind fun _ => .pure _
    · exact .pure _
  · refine breaks_next.bind fun _ => breaks_peek.bind fun t => ?_
    split
    · exact breaks_next.bind fun _ => (breaks_tagName _ _).bind fun _ => .pure _
    · exact (breaks_tagName _ _).bind fun _ => .pure _
  · exact .pure _

theorem breaks_addEmpty : Breaks d addEmpty := breaks_add _

/-! ### Nodes -/

/-- All readings of nodes with some fuel. -/
structure NodesBreak (d : Option Defect) (fuel : Nat) : Prop where
  node (block indentless : Bool) : Breaks d (node block indentless fuel)
  blockItems : Breaks d (blockItems fuel)
  indentlessItems : Breaks d (indentlessItems fuel)
  blockEntries : Breaks d (blockEntries fuel)
  flowItems (first : Bool) : Breaks d (flowItems first fuel)
  flowEntries (first : Bool) : Breaks d (flowEntries first fuel)
  flowEntry (close : Token) : Breaks d (flowEntry close fuel)

section
variable {fuel : Nat}

/-- A collection under an anchor, after the token that opens it. -/
theorem breaks_opened {anchor : Option String} {kind : Kind} {contents : Reading Content}
    (h : Breaks d contents) : Breaks d (do next; addCollection anchor kind contents) :=
  breaks_next.bind fun _ => breaks_addCollection h

theorem breaks_node_succ (ih : NodesBreak d fuel) (block indentless : Bool) :
    Breaks d (node block indentless (fuel + 1)) := by
  rw [node]
  refine breaks_peek.bind fun t => ?_
  split
  · exact breaks_next.bind fun _ => breaks_anchored _
  · refine breaks_properties.bind fun properties => breaks_peek.bind fun t => ?_
    refine .ite (breaks_addCollection ih.indentlessItems.map) (breaks_peek.bind fun t => ?_)
    split
    · exact breaks_next.bind fun _ => breaks_addUnder _ _
    · exact breaks_next.bind fun _ => breaks_addUnder _ _
    · exact breaks_opened (ih.flowItems true).map
    · exact breaks_opened (ih.flowEntries true).map
    · exact .ite (breaks_opened ih.blockItems.map)
        (.ite (breaks_opened ih.blockEntries.map) (.ite (breaks_addUnder _ _) .broken))

/-- A node, or an empty scalar where some token stands. -/
theorem breaks_orEmpty (ih : NodesBreak d fuel) (ts : List Token) (block indentless : Bool)
    {f : Nat → Reading α} (hf : ∀ number, Breaks d (f number)) :
    Breaks d (do
      let number ← if ← atAny ts then addEmpty else node block indentless fuel
      f number) := by
  refine (breaks_atAny ts).bind fun there => ?_
  split
  · exact breaks_addEmpty.bind hf
  · exact (ih.node block indentless).bind hf

theorem breaks_blockItems_succ (ih : NodesBreak d fuel) : Breaks d (blockItems (fuel + 1)) := by
  rw [blockItems]
  refine (breaks_accept _).bind fun there => .ite ?_ ?_
  · exact breaks_orEmpty ih _ _ _ fun item => ih.blockItems.bind fun items => .pure _
  · exact (breaks_expect _).bind fun _ => .pure _

theorem breaks_indentlessItems_succ (ih : NodesBreak d fuel) :
    Breaks d (indentlessItems (fuel + 1)) := by
  rw [indentlessItems]
  refine (breaks_accept _).bind fun there => .ite ?_ (.pure _)
  exact breaks_orEmpty ih _ _ _ fun item => ih.indentlessItems.bind fun items => .pure _

theorem breaks_blockEntries_succ (ih : NodesBreak d fuel) : Breaks d (blockEntries (fuel + 1)) := by
  rw [blockEntries]
  refine (breaks_accept _).bind fun there => .ite ?_ ((breaks_expect _).bind fun _ => .pure _)
  refine breaks_orEmpty ih _ _ _ fun k => (breaks_accept _).bind fun there => ?_
  split
  · exact breaks_orEmpty ih _ _ _ fun v => ih.blockEntries.bind fun entries => .pure _
  · exact breaks_addEmpty.bind fun v => ih.blockEntries.bind fun entries => .pure _

/-- An item of a flow collection that is not the first comes after a comma. -/
theorem breaks_separated {first : Bool} {m : Reading α} (h : Breaks d m) :
    Breaks d (do
      if !first then expect .flowEntry
      m) := by
  split
  · exact (breaks_expect _).bind fun _ => h
  · exact (Breaks.pure PUnit.unit).bind fun _ => h

theorem breaks_flowItems_succ (ih : NodesBreak d fuel) (first : Bool) :
    Breaks d (flowItems first (fuel + 1)) := by
  rw [flowItems]
  refine (breaks_accept _).bind fun there => .ite (.pure _) (breaks_separated ?_)
  refine (breaks_accept _).bind fun there => .ite ?_ ((breaks_accept _).bind fun there =>
    .ite (.pure _) ?_)
  · refine (ih.flowEntry _).bind fun entry => (breaks_add _).bind fun item => ?_
    exact (ih.flowItems false).bind fun items => .pure _
  · exact (ih.node _ _).bind fun item => (ih.flowItems false).bind fun items => .pure _

theorem breaks_flowEntries_succ (ih : NodesBreak d fuel) (first : Bool) :
    Breaks d (flowEntries first (fuel + 1)) := by
  rw [flowEntries]
  refine (breaks_accept _).bind fun there => .ite (.pure _) (breaks_separated ?_)
  refine (breaks_accept _).bind fun there => .ite ?_ ((breaks_accept _).bind fun there =>
    .ite (.pure _) ?_)
  · exact (ih.flowEntry _).bind fun entry => (ih.flowEntries false).bind fun entries => .pure _
  · refine (ih.node _ _).bind fun k => breaks_addEmpty.bind fun v => ?_
    exact (ih.flowEntries false).bind fun entries => .pure _

theorem breaks_flowEntry_succ (ih : NodesBreak d fuel) (close : Token) :
    Breaks d (flowEntry close (fuel + 1)) := by
  rw [flowEntry]
  refine breaks_orEmpty ih _ _ _ fun k => (breaks_accept _).bind fun there => ?_
  split
  · exact breaks_orEmpty ih _ _ _ fun v => .pure _
  · exact breaks_addEmpty.bind fun v => .pure _

end

/-- Reading nodes fails by breaking the grammar, or with what ended the tokens. -/
theorem nodesBreak (d : Option Defect) (fuel : Nat) : NodesBreak d fuel := by
  induction fuel with
  | zero =>
      constructor <;> intros <;> simp only [node, blockItems, indentlessItems, blockEntries,
        flowItems, flowEntries, flowEntry] <;> exact .broken
  | succ fuel ih =>
      exact ⟨breaks_node_succ ih, breaks_blockItems_succ ih, breaks_indentlessItems_succ ih,
        breaks_blockEntries_succ ih, breaks_flowItems_succ ih, breaks_flowEntries_succ ih,
        breaks_flowEntry_succ ih⟩

/-! ### Documents -/

theorem breaks_directives (versioned : Bool) (fuel : Nat) : Breaks d (directives versioned fuel) := by
  induction fuel generalizing versioned with
  | zero => exact .broken
  | succ fuel ih =>
      rw [directives]
      refine breaks_peek.bind fun t => ?_
      split
      · refine breaks_next.bind fun _ => ?_
        split
        · exact .ite .broken (ih true)
        · refine Breaks.get_bind fun g _ => .ite .broken (Breaks.bind ?_ fun _ => ih versioned)
          exact .modify fun _ => rfl
        · exact ih versioned
      · exact .modify fun _ => rfl

theorem breaks_documentEnds (fuel : Nat) : Breaks d (documentEnds fuel) := by
  induction fuel with
  | zero => exact .broken
  | succ fuel ih =>
      rw [documentEnds]
      exact (breaks_accept _).bind fun there => .ite ih (.pure _)

theorem breaks_atDirective : Breaks d atDirective := by
  refine breaks_peek.bind fun t => ?_
  split
  · exact .pure _
  · exact .pure _

/-- Reading a document fails by breaking the grammar, or with what ended the tokens. -/
theorem breaks_document (fuel : Nat) : Breaks d (document fuel) := by
  have hnodes := nodesBreak d fuel
  have hend (root : Option Nat) : Breaks d (do
      documentEnds fuel
      if ← atAny [.streamEnd] then return root else broken) :=
    (breaks_documentEnds fuel).bind fun _ => (breaks_atAny _).bind fun there =>
      .ite (.pure _) .broken
  rw [document]
  refine breaks_atDirective.bind fun directed => (breaks_atAny _).bind fun marked => ?_
  refine (breaks_atAny _).bind fun ended => ?_
  dsimp only
  split
  · refine Breaks.bind ?_ fun _ => (hnodes.node _ _).map.bind hend
    exact .modify fun _ => rfl
  · split
    · exact (Breaks.pure _).bind hend
    · refine (breaks_directives _ _).bind fun _ => (breaks_expect _).bind fun _ => ?_
      refine breaks_atDirective.bind fun directed => (breaks_atAny _).bind fun marked => ?_
      split
      · exact breaks_addEmpty.map.bind hend
      · exact (hnodes.node _ _).map.bind hend

end Reading

/-- What is wrong with the tokens of a text is a lexical defect. -/
theorem isLexical_of_ofTokens {s : String} {e : Defect}
    (h : Graph.ofTokens (tokensOf s).1 (tokensOf s).2 = .error e) : e.IsLexical := by
  have hbreaks := Reading.breaks_document (d := (tokensOf s).2) (4 * (tokensOf s).1.length + 16)
    { tokens := (tokensOf s).1, defect := (tokensOf s).2 } rfl
  -- Where the grammar is not broken, what ended the tokens is passed on.
  simp only [Graph.ofTokens] at h
  cases hrun : (Reading.document (4 * (tokensOf s).1.length + 16)).run
    { tokens := (tokensOf s).1, defect := (tokensOf s).2 } with
  | error e' =>
      rw [hrun] at h hbreaks
      cases h
      rcases hbreaks with rfl | hdefect
      · exact isLexical_malformed
      · exact isLexical_of_tokensOf (Prod.ext rfl hdefect)
  | ok r =>
      rw [hrun] at h
      cases h

end Conveyor.Yaml
