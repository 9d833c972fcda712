/-
**What a loader is asked for.**

A loader is asked for the pipelines in a file, for one of them, or for the configuration.  Whatever
it is asked for, it finds the mapping in the file first, and what the mapping defines depends on
nothing else.

Main definitions:

* `Conveyor.Loader.Request`, `Conveyor.Loader.Loaded` — requests and what is loaded;
* `Conveyor.Loader.load` — how a loader answers;
* `Conveyor.Loader.loadAnew` — how a loader answers that remembers nothing.

Main results:

* `Conveyor.Loader.load_eq` — a request is a document and what it defines;
* `Conveyor.Loader.document_cases` — a document is remembered, or read as if nothing were.
-/

import Conveyor.Loader
import Conveyor.Proofs.Files

set_option autoImplicit false

namespace Conveyor.Loader

/-- What a loader is asked for. -/
inductive Request where
  | catalog (path : String)
  | pipeline (path : String) (name : Option String)
  | config (path : String)

/-- What a loader gives. -/
inductive Loaded where
  | catalog (c : Catalog)
  | pipeline (p : Pipeline)
  | config (c : Option RunConfig)

/-- The file of a request. -/
def Request.path : Request → String
  | .catalog path | .pipeline path _ | .config path => path

/-- What a mapping defines for a request. -/
def Request.define (entries : List (Datum × Datum)) : Request → Except Fault Loaded
  | .catalog _ => (Document.catalog entries).map .catalog
  | .pipeline _ name => ((Document.catalog entries).bind fun c => choose c name).map .pipeline
  | .config _ => (Document.config entries).map .config

/-- The answer to a request, and what is remembered after it. -/
def load (l : Loader) (files : FileTree) : Request → Except Fault Loaded × Loader
  | .catalog path => let (c, l) := l.catalog files path; (c.map .catalog, l)
  | .pipeline path name => let (p, l) := l.pipeline files path name; (p.map .pipeline, l)
  | .config path => let (c, l) := l.config files path; (c.map .config, l)

/-- The answer of a loader that remembers nothing. -/
def loadAnew (base : Path) (files : FileTree) (r : Request) : Except Fault Loaded :=
  (({ base } : Loader).load files r).1

variable {l l' : Loader} {base : Path} {files : FileTree} {path : String} {p : Path}
  {entries : List (Datum × Datum)}

/-- A request is a document and what it defines. -/
theorem load_eq (r : Request) :
    l.load files r = ((l.document files r.path).1.bind r.define, (l.document files r.path).2) := by
  cases r with
  | catalog path =>
      simp only [load, catalog, Request.path, Request.define]
      cases (l.document files path).1 <;> rfl
  | pipeline path name =>
      simp only [load, pipeline, catalog, Request.path, Request.define]
      cases (l.document files path).1 <;> rfl
  | config path =>
      simp only [load, config, Request.path, Request.define]
      cases (l.document files path).1 <;> rfl

theorem recalled?_nil (base p : Path) (files : FileTree) :
    ({ base } : Loader).recalled? files p = none := rfl

/-- What is recalled was remembered at a time that is not earlier than that of the last change. -/
theorem recalled?_eq_some_iff :
    l.recalled? files p = some entries ↔ ∃ key before n,
      l.known.find? (·.1 == p.text) = some (key, entries, before) ∧ files.find p = .ok n ∧
        files.changed n ≤ before := by
  simp only [recalled?]
  split
  · rename_i key entries' before n hknown hfind
    simp only [hknown, hfind]
    split
    · rename_i hold
      constructor
      · intro h
        cases h
        exact ⟨key, before, n, rfl, rfl, hold⟩
      · rintro ⟨_, _, _, h, hn, _⟩
        cases h
        rfl
    · rename_i hnew
      constructor
      · intro h
        cases h
      · rintro ⟨_, _, _, h, hn, hold⟩
        cases h
        cases hn
        exact absurd hold hnew
  · rename_i hnone
    constructor
    · intro h
      cases h
    · rintro ⟨key, before, n, hknown, hfind, _⟩
      exact absurd hfind (hnone key entries before n hknown)

/-- A document is remembered, or read as if nothing were; what is read from a file is remembered. -/
theorem document_cases (l : Loader) (files : FileTree) (path : String) :
    (∃ entries, leads files (resolve l.base path) = .ok true ∧
      l.recalled? files (resolve l.base path) = some entries ∧
      l.document files path = (.ok entries, l)) ∨
    ((l.document files path).1 = (({ base := l.base } : Loader).document files path).1 ∧
      ((l.document files path).2 = l ∨ ∃ entries changed,
        leads files (resolve l.base path) = .ok true ∧
        fetch files (resolve l.base path) = .ok (entries, changed) ∧
        (l.document files path).2 = l.remember (resolve l.base path).text entries changed)) := by
  cases hleads : leads files (resolve l.base path) with
  | error e => exact .inr (by simp [document, hleads])
  | ok somewhere =>
      cases somewhere with
      | false => exact .inr (by simp [document, hleads])
      | true =>
          cases hrecall : l.recalled? files (resolve l.base path) with
          | some entries => exact .inl ⟨entries, rfl, rfl, by simp [document, hleads, hrecall]⟩
          | none =>
              cases hfetch : fetch files (resolve l.base path) with
              | error e => exact .inr (by simp [document, hleads, hrecall, hfetch, recalled?_nil])
              | ok read =>
                  refine .inr ⟨?_, .inr ⟨read.1, read.2, rfl, rfl, ?_⟩⟩ <;>
                    simp [document, hleads, hrecall, hfetch, recalled?_nil]

/-- What was read was a file, and would be read from it again at any time. -/
theorem find_of_fetch {changed : Int} (h : fetch files p = .ok (entries, changed)) :
    ∃ bytes, files.find p = .ok (.file bytes changed) ∧
      ∀ (files' : FileTree) (changed' : Int), files'.find p = .ok (.file bytes changed') →
        fetch files' p = .ok (entries, changed') := by
  simp only [fetch] at h
  split at h
  · cases h
  · rename_i bytes changed' hread
    split at h
    · cases h
    · rename_i text htext
      cases hdoc : Document.read text p.text with
      | error e =>
          rw [hdoc] at h
          cases h
      | ok entries' =>
          rw [hdoc] at h
          cases h
          refine ⟨bytes, FileTree.read_eq_ok_iff.1 hread, fun files' changed' hfind => ?_⟩
          simp only [fetch, FileTree.read_eq_ok_iff.2 hfind, htext, hdoc]
          rfl

/-- A document that is read without anything remembered. -/
theorem document_anew {changed : Int} (hleads : leads files (resolve base path) = .ok true)
    (hfetch : fetch files (resolve base path) = .ok (entries, changed)) :
    (({ base } : Loader).document files path).1 = .ok entries := by
  simp only [document, recalled?_nil, hleads, hfetch]

theorem loadAnew_eq (r : Request) :
    loadAnew base files r = (({ base } : Loader).document files r.path).1.bind r.define := by
  rw [loadAnew, load_eq]

end Conveyor.Loader
