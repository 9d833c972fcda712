/-
**Paths and what they lead to.**

A path that was read from a text is proper: no part of it is empty, a single point, or contains a
slash.  Proper paths are told apart by their texts, so that something may be remembered by the text of
a path.  A path leads to one place only, whatever stands there, if it leads anywhere.

Main definitions:

* `Conveyor.Path.IsProper` — paths that texts write;
* `Conveyor.FileChange`, `Conveyor.FileTree.after` — what happens to files.

Main results:

* `Conveyor.Path.IsProper.ofText_text` — a proper path is what its text writes;
* `Conveyor.FileTree.node?_of_find` — what a path finds stands at its place;
* `Conveyor.FileTree.file_of_after` — a file that stands somewhere after a change stood there before
  or was written by it.
-/

import Conveyor.FileTree

set_option autoImplicit false

namespace Conveyor

/-! ### Pieces between slashes -/

section
variable {x : Char} {cs piece : List Char}

theorem not_mem_of_mem_splitOn (h : piece ∈ cs.splitOn x) : x ∉ piece := by
  induction cs generalizing piece with
  | nil =>
      obtain rfl := List.mem_singleton.1 h
      exact List.not_mem_nil
  | cons c cs ih =>
      rw [List.splitOn_cons_eq_if_modifyHead] at h
      split at h
      · rcases List.mem_cons.1 h with rfl | h
        · exact List.not_mem_nil
        · exact ih h
      · rename_i hc
        cases hrest : cs.splitOn x with
        | nil => exact absurd hrest (List.splitOn_ne_nil x cs)
        | cons first others =>
            rw [hrest] at h
            rcases List.mem_cons.1 h with rfl | h
            · have hfirst : x ∉ first := ih (hrest ▸ List.mem_cons_self ..)
              simp only [List.mem_cons, not_or]
              exact ⟨fun hx => hc (by simp [hx]), hfirst⟩
            · exact ih (hrest ▸ List.mem_cons_of_mem _ h)

theorem splitOn_cons_self : (x :: cs).splitOn x = [] :: cs.splitOn x := by
  simp [List.splitOn_cons_eq_if_modifyHead]

end

/-! ### Proper paths -/

namespace Path

/-- Paths that texts write. -/
structure IsProper (p : Path) : Prop where
  root : p.root = "" ∨ p.root = "/" ∨ p.root = "//"
  parts : ∀ part ∈ p.parts, part ≠ "" ∧ part ≠ "." ∧ '/' ∉ part.toList

theorem isProper_ofText (s : String) : (ofText s).IsProper where
  root := by
    simp only [ofText]
    split
    · exact .inl rfl
    · split
      · exact .inr (.inr rfl)
      · exact .inr (.inl rfl)
  parts := by
    intro part hpart
    obtain ⟨hpiece, hkept⟩ := List.mem_filter.1 hpart
    obtain ⟨piece, hmem, rfl⟩ := List.mem_map.1 hpiece
    have hslash : '/' ∉ piece := not_mem_of_mem_splitOn hmem
    simp only [Bool.and_eq_true, bne_iff_ne] at hkept
    exact ⟨hkept.1, hkept.2, by simpa using hslash⟩

namespace IsProper

variable {dir p q : Path}

theorem join (hdir : dir.IsProper) (hp : p.IsProper) : (dir.join p).IsProper := by
  simp only [Path.join]
  split
  · exact hp
  · exact ⟨hdir.root, fun part hpart =>
      (List.mem_append.1 hpart).elim (hdir.parts part) (hp.parts part)⟩

/-- The pieces of the parts of a proper path, between slashes. -/
theorem pieces_intercalate (hp : p.IsProper) (hne : p.parts ≠ []) :
    (("/".intercalate p.parts).toList.splitOn '/').map String.ofList = p.parts := by
  have hslash : ∀ part ∈ p.parts.map String.toList, '/' ∉ part := by
    simpa using fun part hpart => (hp.parts part hpart).2.2
  rw [String.toList_intercalate, show "/".toList = ['/'] from rfl,
    List.splitOn_intercalate '/' hslash (by simpa using hne)]
  simp [Function.comp_def]

theorem filter_parts (hp : p.IsProper) :
    (p.parts.filter fun part => part != "" && part != ".") = p.parts := by
  rw [List.filter_eq_self]
  intro part hpart
  simp [(hp.parts part hpart).1, (hp.parts part hpart).2.1]

/-- The parts of a proper path do not begin with a slash. -/
theorem takeWhile_intercalate (hp : p.IsProper) :
    ("/".intercalate p.parts).toList.takeWhile (· == '/') = [] := by
  cases hparts : p.parts with
  | nil => simp
  | cons part parts =>
      obtain ⟨hne, -, hslash⟩ := hp.parts part (hparts ▸ List.mem_cons_self ..)
      cases hcs : part.toList with
      | nil => exact absurd (by simpa using hcs) hne
      | cons c cs =>
          have hc : c ≠ '/' := fun h => hslash (by simp [hcs, h])
          cases parts with
          | nil => simp [hcs, hc]
          | cons _ _ => simp [hcs, hc]

/-- What the parts of a proper path write, after some slashes. -/
theorem parts_of_pieces (hp : p.IsProper) :
    ((("/".intercalate p.parts).toList.splitOn '/').map String.ofList).filter
      (fun part => part != "" && part != ".") = p.parts := by
  by_cases hne : p.parts = []
  · simp [hne, List.splitOn_nil]
  · rw [hp.pieces_intercalate hne, hp.filter_parts]

/-- A proper path is what its text writes. -/
theorem ofText_text (hp : p.IsProper) : ofText p.text = p := by
  obtain ⟨root, parts⟩ := p
  have htake := hp.takeWhile_intercalate
  have hparts := hp.parts_of_pieces
  -- The empty path is written as a dot, all others as their root and their parts.
  by_cases hempty : root = "" ∧ parts = []
  · obtain ⟨rfl, rfl⟩ := hempty
    decide +kernel
  simp only [ofText, text, pieces]
  simp only at htake hparts
  generalize "/".intercalate parts = body at htake hparts ⊢
  -- The slashes at the front are those of the root, since the parts begin with none.
  rcases hp.root with hroot | hroot | hroot <;> simp only at hroot <;> subst hroot
  · have hne : parts ≠ [] := fun h => hempty ⟨rfl, h⟩
    simp [hne, htake, hparts]
  · simp [htake, splitOn_cons_self, hparts]
  · simp [htake, splitOn_cons_self, hparts]

/-- Proper paths are told apart by their texts. -/
theorem eq_of_text_eq (hp : p.IsProper) (hq : q.IsProper) (h : p.text = q.text) : p = q := by
  rw [← hp.ofText_text, h, hq.ofText_text]

end IsProper

end Path

/-! ### Places -/

namespace FileTree

variable {t old new : FileTree} {p : Path} {n : FileNode} {place q : List String}
  {bytes : List UInt8} {changed : Int}

/-- A walk ends where its parts lead, whatever it passes. -/
theorem eq_of_walk {parts : List String} (h : t.walk place parts = .ok q) :
    q = parts.foldl (fun place part => if part = ".." then place.dropLast else place ++ [part])
      place := by
  induction parts generalizing place with
  | nil => exact (Except.ok.inj h).symm
  | cons part parts ih =>
      rw [walk] at h
      split at h
      · cases h
      · cases h
      · rw [List.foldl_cons]
        split at h
        · rename_i hup
          rw [if_pos hup]
          exact ih h
        · rename_i hdown
          rw [if_neg hdown]
          split at h
          · cases h
          · exact ih h

/-- What a path finds stands at its place. -/
theorem node?_of_find (h : t.find p = .ok n) : t.node? (placeOf p) = some n := by
  simp only [find, locate] at h
  split at h
  · cases h
  · cases hwalk : t.walk [] p.parts with
    | error e =>
        rw [hwalk] at h
        cases h
    | ok place =>
        rw [hwalk] at h
        obtain rfl : place = placeOf p := eq_of_walk hwalk
        simp only [bind, Except.bind] at h
        split at h
        · rename_i hnode
          cases h
          exact hnode
        · cases h

theorem read_eq_ok_iff : t.read p = .ok (bytes, changed) ↔ t.find p = .ok (.file bytes changed) := by
  simp only [read, bind, Except.bind]
  cases t.find p with
  | error e => simp
  | ok n =>
      cases n with
      | directory => simp [throw, throwThe, MonadExceptOf.throw]
      | file _ _ => simp [pure, Except.pure]

end FileTree

/-! ### Changes of files -/

/-- What happens to files. -/
inductive FileChange where
  | write (place : List String) (bytes : List UInt8) (changed : Int)
  | makeDirectory (place : List String)
  | remove (place : List String)
  /-- Directories show another time from now on. -/
  | wait (clock : Int)

namespace FileTree

variable {t : FileTree} {n : FileNode} {place q : List String} {bytes : List UInt8} {changed : Int}

/-- The files after a change. -/
def after (t : FileTree) : FileChange → FileTree
  | .write place bytes changed => t.write place bytes changed
  | .makeDirectory place => t.makeDirectory place
  | .remove place => t.remove place
  | .wait clock => { t with clock }

theorem node?_put_of_ne (h : q ≠ place) : (t.put place n).node? q = t.node? q := by
  have hmap (nodes : List (List String × FileNode)) :
      (nodes.map fun e => if e.1 == place then (place, n) else e).find? (·.1 == q) =
        nodes.find? (·.1 == q) := by
    induction nodes with
    | nil => rfl
    | cons e nodes ih =>
        rw [List.map_cons, List.find?_cons, List.find?_cons, ih]
        by_cases he : e.1 = place
        · have hq : (place == q) = false := by simpa using fun h' => h h'.symm
          simp [he, hq]
        · simp [he]
  have hlast : (place == q) = false := by simpa using fun h' => h h'.symm
  simp only [node?, put]
  split
  · rfl
  · split
    · rw [hmap]
    · simp [List.find?_append, hlast]

theorem node?_put_self (h : place ≠ []) : (t.put place n).node? place = some n := by
  have hmap (nodes : List (List String × FileNode)) (hany : nodes.any (·.1 == place) = true) :
      (nodes.map fun e => if e.1 == place then (place, n) else e).find? (·.1 == place) =
        some (place, n) := by
    induction nodes with
    | nil => cases hany
    | cons e nodes ih =>
        rw [List.map_cons, List.find?_cons]
        by_cases he : e.1 = place
        · simp [he]
        · have hrest : nodes.any (·.1 == place) = true := by simpa [he] using hany
          simpa only [beq_eq_false_iff_ne.2 he, Bool.false_eq_true, if_false] using ih hrest
  simp only [node?, put, List.isEmpty_iff, h, if_false]
  split
  · rename_i hany
    rw [hmap t.nodes hany]
    rfl
  · rename_i hany
    have hnone : t.nodes.find? (·.1 == place) = none := by
      rw [List.find?_eq_none]
      exact fun e he hplace => hany (List.any_eq_true.2 ⟨e, he, hplace⟩)
    simp [List.find?_append, hnone]

/-- What stands somewhere after a node was put at a place is that node, or stood there before. -/
theorem node?_of_put {m : FileNode} (h : (t.put place n).node? q = some m) :
    (q = place ∧ m = n) ∨ t.node? q = some m := by
  by_cases hq : q = place
  · subst hq
    by_cases hroot : q = []
    · exact .inr (by simpa [node?, hroot] using h)
    · exact .inl ⟨rfl, Option.some.inj (h.symm.trans (node?_put_self hroot))⟩
  · exact .inr (node?_put_of_ne hq ▸ h)

/-- What was written stands at its place. -/
theorem node?_of_write (h : place ≠ []) :
    (t.after (.write place bytes changed)).node? place = some (.file bytes changed) :=
  node?_put_self h

theorem file_of_makeDirectory (h : (t.makeDirectory place).node? q = some (.file bytes changed)) :
    t.node? q = some (.file bytes changed) := by
  simp only [makeDirectory] at h
  generalize List.range (place.length + 1) = is at h
  induction is generalizing t with
  | nil => exact h
  | cons i is ih =>
      have hstep := ih h
      simp only at hstep
      split at hstep
      · exact hstep
      · rcases node?_of_put hstep with ⟨-, hn⟩ | hn
        · cases hn
        · exact hn

theorem node?_of_remove (h : (t.remove place).node? q = some n) : t.node? q = some n := by
  by_cases hroot : q = []
  · simpa [node?, hroot] using h
  simp only [node?, remove, List.isEmpty_iff, hroot, if_false, List.find?_filter,
    Bool.decide_and, Bool.decide_eq_true] at h ⊢
  -- What stands below the place is gone, and all else is found as before.
  cases hbelow : place.isPrefixOf q with
  | true =>
      have hnone : (t.nodes.find? fun e => !place.isPrefixOf e.1 && e.1 == q) = none := by
        rw [List.find?_eq_none]
        intro e _ he
        simp only [Bool.and_eq_true, beq_iff_eq] at he
        rw [he.2, hbelow] at he
        cases he.1
      rw [hnone] at h
      cases h
  | false =>
      have hsame : (fun e : List String × FileNode => !place.isPrefixOf e.1 && e.1 == q) =
          (·.1 == q) := by
        funext e
        by_cases he : e.1 = q
        · simp [he, hbelow]
        · simp [he]
      rwa [hsame] at h

/-- A file that stands somewhere after a change stood there before or was written by it. -/
theorem file_of_after {c : FileChange} (h : (t.after c).node? q = some (.file bytes changed)) :
    t.node? q = some (.file bytes changed) ∨ c = .write q bytes changed := by
  cases c with
  | write place bytes' changed' =>
      rcases node?_of_put h with ⟨rfl, hn⟩ | hn
      · cases hn
        exact .inr rfl
      · exact .inl (file_of_makeDirectory hn)
  | makeDirectory place => exact .inl (file_of_makeDirectory h)
  | remove place => exact .inl (node?_of_remove h)
  | wait clock => exact .inl h

end FileTree

end Conveyor
