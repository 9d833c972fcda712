/-
**Merging ends.**

A merge sign is taken away before what it stands for is merged in turn, and no merge sign is left in
what is merged into a mapping.  So there are never more of them than before, and each step into another
mapping takes one away: merging ends even where mappings are merged in a circle.

Main definitions:

* `Conveyor.Yaml.Node.Alike` — what looking leaves of a node;
* `Conveyor.Yaml.Visit.IsOf` — the nodes of a visit are what looking leaves of those of a document;
* `Conveyor.Yaml.Visiting.Merging` — how many merge signs are left, and which entries are free of them.

Main results:

* `Conveyor.Yaml.Visiting.meets_nextMerge` — the next merge sign;
* `Conveyor.Yaml.Visiting.Merging.erase` — a merge sign is taken away;
* `Conveyor.Yaml.Visiting.meets_mergeFrom` — **merging a mapping ends, and no merge sign is left in it**.
-/

import Conveyor.Proofs.Failing
import Conveyor.Yaml.Holding
import Mathlib.Algebra.Order.BigOperators.Group.List
import Mathlib.Algebra.Order.Group.Nat
import Mathlib.Data.List.InsertIdx

set_option autoImplicit false

namespace Conveyor.Yaml

/-! ### What looking leaves -/

/-- Whether a content is a mapping. -/
def Content.IsMapping (c : Content) : Prop := ∃ entries, c = .mapping entries

/-- What looking leaves of a node: its meaning, unless it was that of the value sign and has become
that of a text, and its content, unless it is a mapping. -/
structure Node.Alike (n n₀ : Node) : Prop where
  kind : n.kind = n₀.kind ∨ (n₀.kind = .value ∧ n.kind = .text)
  content : n.content = n₀.content ∨ (n.content.IsMapping ∧ n₀.content.IsMapping)

section
variable {n n₀ : Node}

theorem Node.Alike.kind_eq (h : n.Alike n₀) (htext : n.kind ≠ .text) : n.kind = n₀.kind :=
  h.kind.resolve_right fun hkind => htext hkind.2

theorem Node.Alike.kind_eq_merge_iff (h : n.Alike n₀) : n.kind = .merge ↔ n₀.kind = .merge := by
  rcases h.kind with hkind | ⟨hvalue, htext⟩
  · rw [hkind]
  · simp [hvalue, htext]

theorem Node.Alike.isMapping (h : n.Alike n₀) (hn : n.content.IsMapping) : n₀.content.IsMapping :=
  h.content.elim (fun hsame => hsame ▸ hn) And.right

theorem Node.Alike.content_eq (h : n.Alike n₀) (hn : ¬ n.content.IsMapping) :
    n.content = n₀.content := h.content.resolve_right fun hmapping => hn hmapping.1

end

/-- The node of a number. -/
def Graph.node (g : Graph) (number : Nat) : Node := g.nodes.getD number default

/-- Whether the key of an entry is a merge sign. -/
def Graph.IsMerge (g : Graph) (e : Nat × Nat) : Prop := (g.node e.1).kind = .merge

instance (g : Graph) : DecidablePred g.IsMerge := fun _ => inferInstanceAs (Decidable (_ = _))

/-! ### Nodes of a visit -/

namespace Visit

variable {g : Graph} {s s' : Visit} {number i : Nat} {n : Node} {es : List (Nat × Nat)}

/-- The node of a number. -/
def node (s : Visit) (number : Nat) : Node := s.nodes.getD number default

/-- The entries of a mapping node. -/
def entries (s : Visit) (number : Nat) : List (Nat × Nat) := (s.node number).content.entries

/-- Whether all nodes of a visit are what looking leaves of the nodes of a document. -/
def IsOf (s : Visit) (g : Graph) : Prop := ∀ number, (s.node number).Alike (g.node number)

/-- A visit with another node under a number. -/
def put (s : Visit) (number : Nat) (n : Node) : Visit :=
  { s with nodes := s.nodes.setIfInBounds number n }

theorem lt_size_of_isMapping (h : (s.node number).content.IsMapping) : number < s.nodes.size := by
  by_contra hsize
  obtain ⟨entries, hentries⟩ := h
  simp only [node, Array.getD_eq_getD_getElem?, Array.getElem?_eq_none (Nat.not_lt.1 hsize)] at hentries
  cases hentries

theorem node_put_self (h : number < s.nodes.size) : (s.put number n).node number = n := by
  simp [node, put, Array.getD_eq_getD_getElem?, h]

theorem node_put_of_ne (h : i ≠ number) : (s.put number n).node i = s.node i := by
  simp [node, put, Array.getD_eq_getD_getElem?, Array.getElem?_setIfInBounds_ne h.symm]

/-- Under a number there is what was put there, or what was there. -/
theorem node_put_cases (s : Visit) (number : Nat) (n : Node) (i : Nat) :
    (i = number ∧ (s.put number n).node i = n) ∨ (s.put number n).node i = s.node i := by
  by_cases hi : i = number
  · subst hi
    by_cases hsize : i < s.nodes.size
    · exact .inl ⟨rfl, node_put_self hsize⟩
    · refine .inr ?_
      simp only [node, put, Array.setIfInBounds_eq_of_size_le (Nat.not_lt.1 hsize)]
  · exact .inr (node_put_of_ne hi)

theorem IsOf.put (h : s.IsOf g) (hn : n.Alike (g.node number)) : (s.put number n).IsOf g := by
  intro i
  rcases s.node_put_cases number n i with ⟨rfl, hput⟩ | hput
  · rw [hput]
    exact hn
  · rw [hput]
    exact h i

/-- Visits whose nodes hold the same. -/
structure SameContents (s s' : Visit) : Prop where
  size : s.nodes.size = s'.nodes.size
  content (number : Nat) : (s.node number).content = (s'.node number).content

theorem sameContents_put (h : n.content = (s.node number).content) :
    (s.put number n).SameContents s where
  size := Array.size_setIfInBounds
  content i := by
    rcases s.node_put_cases number n i with ⟨rfl, hput⟩ | hput
    · rw [hput, h]
    · rw [hput]

theorem SameContents.entries (h : s.SameContents s') (number : Nat) :
    s.entries number = s'.entries number := congrArg Content.entries (h.content number)

/-! ### Entries of a visit -/

/-- The merge signs that are keys, counted by what the keys meant in the document. -/
theorem mergeCount_eq (h : s.IsOf g) : mergeCount s.nodes =
    ((List.range s.nodes.size).flatMap s.entries).countP (g.IsMerge ·) := by
  rw [mergeCount]
  refine List.countP_congr fun e _ => ?_
  rw [decide_eq_true_iff, decide_eq_true_iff]
  exact (h e.1).kind_eq_merge_iff

/-- Whether no merge sign is a key among the first entries of a mapping. -/
def IsClean (s : Visit) (g : Graph) (number index : Nat) : Prop :=
  ∀ e ∈ (s.entries number).take index, ¬ g.IsMerge e

/-- A visit with other entries of a mapping. -/
def putEntries (s : Visit) (number : Nat) (es : List (Nat × Nat)) : Visit :=
  s.put number { s.node number with content := .mapping es }

theorem IsOf.putEntries (h : s.IsOf g) (hmapping : (s.node number).content.IsMapping) :
    (s.putEntries number es).IsOf g :=
  h.put ⟨(h number).kind, .inr ⟨⟨es, rfl⟩, (h number).isMapping hmapping⟩⟩

theorem entries_putEntries_self (h : (s.node number).content.IsMapping) :
    (s.putEntries number es).entries number = es := by
  rw [entries, putEntries, node_put_self (lt_size_of_isMapping h)]
  rfl

theorem entries_putEntries_of_ne (h : i ≠ number) :
    (s.putEntries number es).entries i = s.entries i := by
  rw [entries, putEntries, node_put_of_ne h, entries]

theorem size_putEntries : (s.putEntries number es).nodes.size = s.nodes.size :=
  Array.size_setIfInBounds

theorem countP_entries_putEntries_le (hmapping : (s.node number).content.IsMapping)
    (hle : es.countP (g.IsMerge ·) ≤ (s.entries number).countP (g.IsMerge ·)) (i : Nat) :
    ((s.putEntries number es).entries i).countP (g.IsMerge ·) ≤
      (s.entries i).countP (g.IsMerge ·) := by
  by_cases hi : i = number
  · subst hi
    rwa [entries_putEntries_self hmapping]
  · rw [entries_putEntries_of_ne hi]

theorem mergeCount_putEntries_le (h : s.IsOf g) (hmapping : (s.node number).content.IsMapping)
    (hle : es.countP (g.IsMerge ·) ≤ (s.entries number).countP (g.IsMerge ·)) :
    mergeCount (s.putEntries number es).nodes ≤ mergeCount s.nodes := by
  rw [mergeCount_eq h, mergeCount_eq (h.putEntries hmapping), size_putEntries, List.countP_flatMap,
    List.countP_flatMap]
  exact List.sum_le_sum fun i _ => countP_entries_putEntries_le hmapping hle i

theorem mergeCount_putEntries_lt (h : s.IsOf g) (hmapping : (s.node number).content.IsMapping)
    (hlt : es.countP (g.IsMerge ·) < (s.entries number).countP (g.IsMerge ·)) :
    mergeCount (s.putEntries number es).nodes < mergeCount s.nodes := by
  rw [mergeCount_eq h, mergeCount_eq (h.putEntries hmapping), size_putEntries, List.countP_flatMap,
    List.countP_flatMap]
  refine List.sum_lt_sum _ _ (fun i _ => countP_entries_putEntries_le hmapping hlt.le i)
    ⟨number, ?_, ?_⟩
  · exact List.mem_range.2 (lt_size_of_isMapping hmapping)
  · rwa [Function.comp_apply, Function.comp_apply, entries_putEntries_self hmapping]

end Visit

namespace Visiting

variable {α : Type} {g : Graph} {I : Visit → Prop} {P : Defect → Prop} {Q : Visit → Prop}
  {number index fuel : Nat} {s s' : Visit} {clean : Nat → Nat → Prop}

theorem meets_nodeAt (number : Nat) :
    Meets I P (fun n s => s.node number = n ∧ I s) (nodeAt number) :=
  Meets.bind Meets.get fun _ => Meets.pure fun _ ⟨hs, h⟩ => ⟨hs ▸ rfl, h⟩

/-- What a node means is what it meant in the document, or a text instead of a value. -/
theorem meets_kindAt (number : Nat) : Meets (fun s => s.IsOf g ∧ I s) P
    (fun kind s => (kind = (g.node number).kind ∨
      ((g.node number).kind = .value ∧ kind = .text)) ∧ s.IsOf g ∧ I s) (kindAt number) := by
  refine (meets_nodeAt number).bind fun n => Meets.pure fun s ⟨hn, hs⟩ => ⟨?_, hs⟩
  exact hn ▸ (hs.1 number).kind

theorem meets_entriesAt (number : Nat) :
    Meets I (· = .malformed) (fun es s => (s.node number).content = .mapping es ∧ I s)
      (entriesAt number) := by
  refine (meets_nodeAt number).bind fun n => ?_
  split
  · rename_i entries hentries
    exact Meets.pure fun s ⟨hn, h⟩ => ⟨hn ▸ hentries, h⟩
  · exact Meets.throw rfl

theorem meets_setNode {n : Node} (h : ∀ s, I s → Q (s.put number n)) :
    Meets I P (fun _ => Q) (setNode number n) := Meets.modify h

theorem meets_setEntries {es : List (Nat × Nat)} (h : ∀ s, I s → Q (s.putEntries number es)) :
    Meets I P (fun _ => Q) (setEntries number es) := by
  refine (meets_nodeAt number).bind fun n => meets_setNode fun s ⟨hn, hs⟩ => ?_
  exact hn ▸ h s hs

/-! ### The next merge sign -/

/-- What is found of some entries, the first having an index: no merge sign among them, or the index and
the value of the first one. -/
def IsNext (g : Graph) (index : Nat) (entries : List (Nat × Nat)) : Option (Nat × Nat) → Prop
  | none => ∀ e ∈ entries, ¬ g.IsMerge e
  | some (i, v) => ∃ before k after, entries = before ++ (k, v) :: after ∧ i = index + before.length ∧
      (∀ e ∈ before, ¬ g.IsMerge e) ∧ g.IsMerge (k, v)

theorem IsNext.cons {e : Nat × Nat} {entries : List (Nat × Nat)} {r : Option (Nat × Nat)}
    (he : ¬ g.IsMerge e) (h : IsNext g (index + 1) entries r) : IsNext g index (e :: entries) r := by
  cases r with
  | none => exact List.forall_mem_cons.2 ⟨he, h⟩
  | some r =>
      obtain ⟨before, k, after, rfl, hi, hbefore, hk⟩ := h
      refine ⟨e :: before, k, after, rfl, ?_, List.forall_mem_cons.2 ⟨he, hbefore⟩, hk⟩
      rw [hi, List.length_cons]
      omega

/-- The next merge sign after clean entries is the first one of all. -/
theorem IsNext.of_drop {entries : List (Nat × Nat)} {i v : Nat}
    (hclean : ∀ e ∈ entries.take index, ¬ g.IsMerge e)
    (h : IsNext g index (entries.drop index) (some (i, v))) :
    ∃ k, entries[i]? = some (k, v) ∧ g.IsMerge (k, v) ∧ ∀ e ∈ entries.take i, ¬ g.IsMerge e := by
  obtain ⟨before, k, after, hdrop, rfl, hbefore, hk⟩ := h
  refine ⟨k, ?_, hk, ?_⟩
  · rw [← List.getElem?_drop, hdrop]
    simp
  · rw [List.take_add, hdrop, List.take_left]
    exact List.forall_mem_append.2 ⟨hclean, hbefore⟩

/-- The next merge sign is found, and what the nodes hold stays. -/
theorem meets_nextMerge (hI : ∀ s s', I s → s'.IsOf g → s'.SameContents s → I s') (index : Nat)
    (entries : List (Nat × Nat)) : Meets (fun s => s.IsOf g ∧ I s) P
      (fun r s => IsNext g index entries r ∧ s.IsOf g ∧ I s) (nextMerge index entries) := by
  induction entries generalizing index with
  | nil => exact Meets.pure fun s hs => ⟨List.forall_mem_nil _, hs⟩
  | cons e entries ih =>
      obtain ⟨k, v⟩ := e
      have hrest (hk : (g.node k).kind ≠ .merge) : Meets (fun s => s.IsOf g ∧ I s) P
          (fun r s => IsNext g index ((k, v) :: entries) r ∧ s.IsOf g ∧ I s)
          (nextMerge (index + 1) entries) :=
        (ih (index + 1)).mono (fun _ => id) (fun _ => id) fun _ _ ⟨hnext, hs⟩ => ⟨hnext.cons hk, hs⟩
      rw [nextMerge]
      -- Only a text may have been a value sign, so that the two signs mean what they meant.
      refine (meets_kindAt k).bind fun kind => Meets.of_and fun hkind => ?_
      split
      · have hk : (g.node k).kind = .merge := (hkind.resolve_right nofun).symm
        exact Meets.pure fun s hs => ⟨⟨[], k, entries, rfl, rfl, List.forall_mem_nil _, hk⟩, hs⟩
      · have hk : (g.node k).kind = .value := (hkind.resolve_right nofun).symm
        refine (meets_nodeAt k).bind fun n => ?_
        refine Meets.bind (Q := fun _ s => s.IsOf g ∧ I s) (meets_setNode ?_) fun _ =>
          hrest (by rw [hk]; decide)
        rintro s ⟨rfl, hof, hs⟩
        have hof' : (s.put k { s.node k with kind := .text }).IsOf g :=
          hof.put ⟨.inr ⟨hk, rfl⟩, (hof k).content⟩
        exact ⟨hof', hI s _ hs hof' (Visit.sameContents_put rfl)⟩
      · rename_i hmerge _
        refine hrest fun hk => ?_
        rcases hkind with hkind | ⟨hvalue, -⟩
        · exact hmerge (hkind.trans hk)
        · rw [hk] at hvalue
          cases hvalue

/-! ### Merge signs that are left -/

theorem countP_eraseIdx_lt {es : List (Nat × Nat)} {e : Nat × Nat} {i : Nat}
    {p : Nat × Nat → Bool} (hi : es[i]? = some e) (he : p e = true) :
    (es.eraseIdx i).countP p < es.countP p := by
  obtain ⟨hlength, rfl⟩ := List.getElem?_eq_some_iff.1 hi
  calc (es.eraseIdx i).countP p
      = (es.take i).countP p + (es.drop (i + 1)).countP p := by
        rw [List.eraseIdx_eq_take_drop_succ, List.countP_append]
    _ < (es.take i).countP p + (es[i] :: es.drop (i + 1)).countP p := by
        rw [List.countP_cons_of_pos he]
        omega
    _ = es.countP p := by
        rw [← List.drop_eq_getElem_cons hlength, ← List.countP_append, List.take_append_drop]

/-- The nodes are what looking leaves of those of a document, some fuel is more than the number of the
merge signs that are left, and some mappings have none of them among their first entries. -/
structure Merging (g : Graph) (fuel : Nat) (clean : Nat → Nat → Prop) (s : Visit) : Prop where
  isOf : s.IsOf g
  count : mergeCount s.nodes < fuel
  clean {number index : Nat} : clean number index → s.IsClean g number index

namespace Merging

theorem sameContents (h : Merging g fuel clean s) (hof : s'.IsOf g) (hsame : s'.SameContents s) :
    Merging g fuel clean s' where
  isOf := hof
  count := by
    have hcount : mergeCount s'.nodes = mergeCount s.nodes := by
      rw [Visit.mergeCount_eq hof, Visit.mergeCount_eq h.isOf, hsame.size, funext hsame.entries]
    exact hcount ▸ h.count
  clean hclean := by
    rw [Visit.IsClean, hsame.entries]
    exact h.clean hclean

/-- Another mapping is known to be clean up to some entry. -/
theorem also (h : Merging g fuel clean s) (hclean : s.IsClean g number index) :
    Merging g fuel (fun n i => clean n i ∨ (n = number ∧ i = index)) s where
  isOf := h.isOf
  count := h.count
  clean := by
    rintro n i (hold | ⟨rfl, rfl⟩)
    · exact h.clean hold
    · exact hclean

/-- With one more unit of fuel there is still enough. -/
theorem succ (h : Merging g fuel clean s) : Merging g (fuel + 1) clean s :=
  { h with count := h.count.trans (Nat.lt_succ_self _) }

/-- A merge sign is taken away: one less is left, and all mappings stay as clean as they were. -/
theorem erase {entries : List (Nat × Nat)} {i : Nat} {e : Nat × Nat}
    (h : Merging g (fuel + 1) clean s) (hcontent : (s.node number).content = .mapping entries)
    (hi : entries[i]? = some e) (he : g.IsMerge e) :
    Merging g fuel clean (s.putEntries number (entries.eraseIdx i)) := by
  have hmapping : (s.node number).content.IsMapping := ⟨entries, hcontent⟩
  have hentries : s.entries number = entries := congrArg Content.entries hcontent
  refine ⟨h.isOf.putEntries hmapping, ?_, fun {number' index} hclean => ?_⟩
  · have hlt := countP_eraseIdx_lt (p := (g.IsMerge ·)) hi (decide_eq_true he)
    rw [← hentries] at hlt
    have hless := Visit.mergeCount_putEntries_lt h.isOf hmapping hlt
    have hcount := h.count
    rw [hentries] at hless
    omega
  · by_cases hnumber : number' = number
    · subst hnumber
      rw [Visit.IsClean, Visit.entries_putEntries_self hmapping]
      have hold := h.clean hclean
      rw [Visit.IsClean, hentries] at hold
      -- An index beyond the merge sign would not have been clean.
      have hle : index ≤ i := by
        by_contra hlt
        refine hold e (List.mem_of_getElem? (i := i) ?_) he
        rw [List.getElem?_take_of_lt (Nat.not_le.1 hlt), hi]
      rwa [List.take_eraseIdx_eq_take_of_le _ _ _ hle]
    · rw [Visit.IsClean, Visit.entries_putEntries_of_ne hnumber]
      exact h.clean hclean

/-- Entries without merge signs are put into a mapping. -/
theorem fill {es : List (Nat × Nat)} (h : Merging g fuel clean s)
    (hmapping : (s.node number).content.IsMapping) (hes : ∀ e ∈ es, ¬ g.IsMerge e) :
    Merging g fuel clean (s.putEntries number es) := by
  refine ⟨h.isOf.putEntries hmapping, ?_, fun {number' index} hclean => ?_⟩
  · have hnone : es.countP (g.IsMerge ·) = 0 := by
      rw [List.countP_eq_zero]
      simpa using hes
    have hle : es.countP (g.IsMerge ·) ≤ (s.entries number).countP (g.IsMerge ·) := by
      rw [hnone]
      exact Nat.zero_le _
    exact (Visit.mergeCount_putEntries_le h.isOf hmapping hle).trans_lt h.count
  · by_cases hnumber : number' = number
    · subst hnumber
      rw [Visit.IsClean, Visit.entries_putEntries_self hmapping]
      exact fun e he => hes e (List.mem_of_mem_take he)
    · rw [Visit.IsClean, Visit.entries_putEntries_of_ne hnumber]
      exact h.clean hclean

end Merging

/-! ### Merging -/

/-- Flattening a mapping, whatever others are known to be clean. -/
def Flattens (g : Graph) (fuel : Nat) (flatten : Nat → Visiting Unit) : Prop :=
  ∀ clean number, Meets (Merging g fuel clean) (· = .malformed)
    (fun _ s => Merging g fuel clean s ∧ ∀ e ∈ s.entries number, ¬ g.IsMerge e) (flatten number)

variable {flatten : Nat → Visiting Unit}

theorem meets_flattenedAt (hflatten : Flattens g fuel flatten) (number : Nat) :
    Meets (Merging g fuel clean) (· = .malformed)
      (fun es s => (∀ e ∈ es, ¬ g.IsMerge e) ∧ Merging g fuel clean s)
      (flattenedAt flatten number) := by
  refine (hflatten clean number).bind fun _ => (meets_entriesAt number).mono (fun _ => id)
    (fun _ => id) ?_
  rintro es s ⟨hcontent, hs, hclean⟩
  have hentries : s.entries number = es := congrArg Content.entries hcontent
  exact ⟨hentries ▸ hclean, hs⟩

theorem meets_itemSources (hflatten : Flattens g fuel flatten) (items : List Nat) :
    Meets (Merging g fuel clean) (· = .malformed)
      (fun es s => (∀ e ∈ es, ¬ g.IsMerge e) ∧ Merging g fuel clean s)
      (itemSources flatten items) := by
  induction items with
  | nil => exact Meets.pure fun s hs => ⟨List.forall_mem_nil _, hs⟩
  | cons item items ih =>
      refine (meets_nodeAt item).bind fun n => ?_
      split
      · refine Meets.bind ((meets_flattenedAt hflatten item).mono (fun s hs => hs.2) (fun _ => id)
          fun _ _ => id) fun own => Meets.of_and fun hown => ih.bind fun rest => ?_
        refine Meets.pure fun s ⟨hrest, hs⟩ => ⟨?_, hs⟩
        exact List.forall_mem_append.2 ⟨hrest, hown⟩
      · exact Meets.throw rfl

/-- The entries that a merge sign stands for have no merge signs. -/
theorem meets_sourcesOf (hflatten : Flattens g fuel flatten) (number : Nat) :
    Meets (Merging g fuel clean) (· = .malformed)
      (fun es s => (∀ e ∈ es, ¬ g.IsMerge e) ∧ Merging g fuel clean s)
      (sourcesOf flatten number) := by
  refine (meets_nodeAt number).bind fun n => ?_
  split
  · exact (meets_flattenedAt hflatten number).mono (fun s hs => hs.2) (fun _ => id) fun _ _ => id
  · exact (meets_itemSources hflatten _).mono (fun s hs => hs.2) (fun _ => id) fun _ _ => id
  · exact Meets.throw rfl

section
variable {entries merged : List (Nat × Nat)} {i : Nat}

/-- The entries of a mapping that is clean up to one of them. -/
theorem meets_entriesAt_of_clean (number index : Nat) :
    Meets (fun s => Merging g fuel clean s ∧ s.IsClean g number index) (· = .malformed)
      (fun entries s => (∀ e ∈ entries.take index, ¬ g.IsMerge e) ∧ s.IsOf g ∧
        (s.node number).content = .mapping entries ∧ Merging g fuel clean s) (entriesAt number) := by
  refine (meets_entriesAt number).mono (fun _ => id) (fun _ => id) ?_
  rintro entries s ⟨hcontent, hs, hclean⟩
  rw [Visit.IsClean, Visit.entries, hcontent] at hclean
  exact ⟨hclean, hs.isOf, hcontent, hs⟩

/-- What was merged is put before entries without merge signs. -/
theorem meets_fill (hmerged : ∀ e ∈ merged, ¬ g.IsMerge e) (hentries : ∀ e ∈ entries, ¬ g.IsMerge e) :
    Meets (fun s => (s.node number).content = .mapping entries ∧ Merging g fuel clean s) P
      (fun _ s => Merging g fuel clean s ∧ ∀ e ∈ s.entries number, ¬ g.IsMerge e)
      (if merged.isEmpty then pure () else setEntries number (merged ++ entries)) := by
  split
  · refine Meets.pure fun s ⟨hcontent, hs⟩ => ⟨hs, ?_⟩
    rwa [Visit.entries, hcontent]
  · refine meets_setEntries fun s ⟨hcontent, hs⟩ => ?_
    have hall := List.forall_mem_append.2 ⟨hmerged, hentries⟩
    refine ⟨hs.fill ⟨_, hcontent⟩ hall, ?_⟩
    rwa [Visit.entries_putEntries_self ⟨_, hcontent⟩]

/-- The first merge sign of a mapping is taken away; the mapping is clean before it, and stays so. -/
theorem meets_erase {e : Nat × Nat} (hi : entries[i]? = some e) (he : g.IsMerge e)
    (hbefore : ∀ e ∈ entries.take i, ¬ g.IsMerge e) :
    Meets (fun s => (s.node number).content = .mapping entries ∧ Merging g (fuel + 1) clean s) P
      (fun _ => Merging g fuel fun n j => clean n j ∨ (n = number ∧ j = i))
      (setEntries number (entries.eraseIdx i)) := by
  refine meets_setEntries fun s ⟨hcontent, hs⟩ => ?_
  have hclean : s.IsClean g number i := by
    rwa [Visit.IsClean, Visit.entries, hcontent]
  exact (hs.also hclean).erase hcontent hi he

end

/-- Merging a mapping from an entry on ends, and leaves no merge sign in it: the fuel is more than the
number of merge signs, and each step into another mapping takes one away. -/
theorem meets_mergeFrom (fuel : Nat) (clean : Nat → Nat → Prop) (number index : Nat)
    {merged : List (Nat × Nat)} (hmerged : ∀ e ∈ merged, ¬ g.IsMerge e) :
    Meets (fun s => Merging g fuel clean s ∧ s.IsClean g number index) (· = .malformed)
      (fun _ s => Merging g fuel clean s ∧ ∀ e ∈ s.entries number, ¬ g.IsMerge e)
      (mergeFrom fuel number index merged) := by
  -- The fuel goes down with the number of merge signs.  The sources may lead back to this mapping;
  -- so the induction is over all that is known to be clean, and it stays clean before its merge sign.
  induction fuel generalizing clean number index merged with
  | zero => exact fun s hs => absurd hs.1.count (Nat.not_lt_zero _)
  | succ fuel ih =>
      rw [mergeFrom]
      refine (meets_entriesAt_of_clean number index).bind fun entries => Meets.of_and fun hbefore => ?_
      refine (meets_nextMerge ?_ index _).bind fun r => Meets.of_and fun hnext => ?_
      · exact fun s s' ⟨hcontent, hs⟩ hof hsame =>
          ⟨(hsame.content number).trans hcontent, hs.sameContents hof hsame⟩
      · cases r with
        | none =>
            have hentries : ∀ e ∈ entries, ¬ g.IsMerge e := by
              rw [← List.take_append_drop index entries]
              exact List.forall_mem_append.2 ⟨hbefore, hnext⟩
            exact (meets_fill hmerged hentries).mono (fun _ hs => hs.2) (fun _ => id) fun _ _ => id
        | some r =>
            obtain ⟨i, v⟩ := r
            obtain ⟨k, hi, hk, htake⟩ := hnext.of_drop hbefore
            have hflatten : Flattens g fuel fun source => mergeFrom fuel source 0 [] :=
              fun clean source => (ih clean source 0 (List.forall_mem_nil _)).mono
                (fun s hs => ⟨hs, List.forall_mem_nil _⟩) (fun _ => id) fun _ _ => id
            refine Meets.bind ((meets_erase hi hk htake).mono (fun _ hs => hs.2) (fun _ => id)
              fun _ _ => id) fun _ => (meets_sourcesOf hflatten v).bind fun more =>
              Meets.of_and fun hmore => ?_
            have hall := List.forall_mem_append.2 ⟨hmerged, hmore⟩
            refine (ih clean number i hall).mono (fun s hs => ⟨?_, ?_⟩) (fun _ => id)
              fun _ _ ⟨hs, hdone⟩ => ⟨hs.succ, hdone⟩
            · exact { hs with clean := fun hclean => hs.clean (.inl hclean) }
            · exact hs.clean (.inr ⟨rfl, rfl⟩)

/-- The entries of a mapping after merging: nodes stay alike, and nothing goes wrong but that what is
merged is no mapping. -/
theorem meets_mergedEntries (number : Nat) :
    Meets (·.IsOf g) (· = .malformed) (fun _ s => s.IsOf g) (mergedEntries number) := by
  refine (meets_entriesAt number).bind fun entries => Meets.bind Meets.get fun visit => ?_
  dsimp only
  split
  · have hmerge := meets_mergeFrom (g := g) (mergeCount visit.nodes + 1) (fun _ _ => False) number 0
      (List.forall_mem_nil _)
    refine Meets.bind (hmerge.mono ?_ (fun _ => id) fun _ _ => id) fun _ =>
      (meets_entriesAt number).mono (fun _ => id) (fun _ => id) ?_
    · rintro s ⟨rfl, -, hs⟩
      exact ⟨⟨hs, Nat.lt_succ_self _, False.elim⟩, List.forall_mem_nil _⟩
    · rintro es s ⟨-, hs, -⟩
      exact hs.isOf
  · exact Meets.pure fun _ ⟨_, _, hs⟩ => hs

end Visiting

end Conveyor.Yaml
