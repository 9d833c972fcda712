/-
**What a loader remembers.**

A loader uses a document again as long as what stands at its path shows no later time than the file
that was read.  So an answer may be that of an earlier moment, from which the file went back in time or
was changed without growing younger.  As long as whatever is written is younger than all that stood in
its place and held something else, no answer tells that anything is remembered.

Main definitions:

* `Conveyor.Loader.Session` — a loader, the files it reads, and what the files were before;
* `Conveyor.Loader.Session.Dates` — a change by which nothing looks older than what it replaces;
* `Conveyor.Loader.Session.Redates` — a change by which no file is given a time that it had before.

Main results:

* `Conveyor.Loader.Session.remembers_afterAll` — what is remembered was read at some moment before;
* `Conveyor.Loader.Session.superseded_afterAll` — nothing looks older than what it replaced;
* `Conveyor.Loader.Session.answer_of_afterAll` — **an answer is that of a loader that remembers
  nothing: over the files as they are, or as they were when the file looked at least as young**;
* `Conveyor.Loader.Session.exists_answer_not_anew` — other times than before are not enough.
-/

import Conveyor.Proofs.Loader.Request

set_option autoImplicit false

namespace Conveyor.Loader

/-! ### Sessions -/

/-- A loader, the files that it reads, and what the files were before. -/
structure Session where
  loader : Loader
  files : FileTree
  past : List FileTree := []

/-- What happens in a session. -/
inductive Act where
  | change (c : FileChange)
  | load (r : Request)

namespace Session

/-- A session before anything was loaded. -/
def start (base : Path) (files : FileTree) : Session := { loader := { base }, files }

/-- A session after an act. -/
def after (s : Session) : Act → Session
  | .change c => { s with files := s.files.after c, past := s.files :: s.past }
  | .load r => { s with loader := (s.loader.load s.files r).2 }

/-- A session after acts. -/
def afterAll (s : Session) (acts : List Act) : Session := acts.foldl after s

/-- The files at all moments of a session. -/
def moments (s : Session) : List FileTree := s.files :: s.past

/-- How the loader answers. -/
def answer (s : Session) (r : Request) : Except Fault Loaded := (s.loader.load s.files r).1

/-- Whether all changes among acts are of a kind. -/
def Along (P : Session → FileChange → Prop) : Session → List Act → Prop
  | _, [] => True
  | s, .change c :: acts => P s c ∧ Along P (s.after (.change c)) acts
  | s, .load r :: acts => Along P (s.after (.load r)) acts

/-- A change by which nothing looks older than what it replaces: what is written is younger than all
that stood at its place and held something else, and a directory is younger than all files that stood
at its place. -/
structure Dates (s : Session) (c : FileChange) : Prop where
  file {place : List String} {bytes bytes' : List UInt8} {changed changed' : Int} {old : FileTree} :
    c = .write place bytes changed → old ∈ s.moments →
      old.node? place = some (.file bytes' changed') → bytes' = bytes ∨ changed' < changed
  directory {place : List String} {bytes : List UInt8} {changed : Int} {old : FileTree} :
    old ∈ s.moments → old.node? place = some (.file bytes changed) →
      (s.files.after c).node? place = some .directory → changed < (s.files.after c).clock

/-- A change by which a file that comes to hold something else is given a time that it never had
before. -/
def Redates (s : Session) (c : FileChange) : Prop :=
  ∀ place bytes changed, c = .write place bytes changed →
    (∀ changed', s.files.node? place ≠ some (.file bytes changed')) →
      ∀ old ∈ s.moments, ∀ bytes' changed',
        old.node? place = some (.file bytes' changed') → changed' ≠ changed

/-! ### What is remembered -/

/-- Whatever is remembered was read at some moment from the file whose path it is known by. -/
structure Remembers (base : Path) (s : Session) : Prop where
  base : s.loader.base = base
  known {key : String} {entries : List (Datum × Datum)} {changed : Int} :
    (key, entries, changed) ∈ s.loader.known → ∃ old ∈ s.moments, ∃ p : Path, p.IsProper ∧
      p.text = key ∧ leads old p = .ok true ∧ fetch old p = .ok (entries, changed)

variable {base : Path} {files : FileTree} {s : Session} {acts : List Act}

theorem remembers_start : (start base files).Remembers base where
  base := rfl
  known h := absurd h List.not_mem_nil

theorem remembers_load (hbase : base.IsProper) (h : s.Remembers base) (r : Request) :
    (s.after (.load r)).Remembers base := by
  have hloader : (s.after (.load r)).loader = (s.loader.document s.files r.path).2 := by
    simp only [after, load_eq]
  have hkept (hsame : (s.after (.load r)).loader = s.loader) : (s.after (.load r)).Remembers base :=
    ⟨hsame ▸ h.base, fun hmem => h.known (hsame ▸ hmem)⟩
  rcases document_cases s.loader s.files r.path with
    ⟨entries, -, -, hdoc⟩ | ⟨-, hdoc | ⟨entries, changed, hleads, hfetch, hdoc⟩⟩
  · exact hkept (by rw [hloader, hdoc])
  · exact hkept (by rw [hloader, hdoc])
  · rw [hdoc] at hloader
    rw [h.base] at hleads hfetch hloader
    refine ⟨hloader ▸ h.base, fun hmem => ?_⟩
    rw [hloader] at hmem
    rcases List.mem_append.1 hmem with hmem | hmem
    · exact h.known (List.mem_filter.1 hmem).1
    · cases List.mem_singleton.1 hmem
      exact ⟨s.files, List.mem_cons_self .., resolve base r.path,
        hbase.join (Path.isProper_ofText _), rfl, hleads, hfetch⟩

theorem remembers_after (hbase : base.IsProper) (h : s.Remembers base) (a : Act) :
    (s.after a).Remembers base := by
  cases a with
  | change c =>
      -- The loader stays as it is, and the moment of reading is one of the past.
      refine ⟨h.base, fun hmem => ?_⟩
      obtain ⟨old, hold, hread⟩ := h.known hmem
      exact ⟨old, List.mem_cons_of_mem _ hold, hread⟩
  | load r => exact remembers_load hbase h r

/-- Whatever is remembered after any acts was read at some moment. -/
theorem remembers_afterAll (hbase : base.IsProper) (h : s.Remembers base) (acts : List Act) :
    (s.afterAll acts).Remembers base := by
  induction acts generalizing s with
  | nil => exact h
  | cons a acts ih => exact ih (remembers_after hbase h a)

/-- An answer is that of a loader that remembers nothing, over the files as they are, or as they were
when the file that is asked for was read at a time that is not earlier than the one it shows now. -/
theorem Remembers.answer_eq (hbase : base.IsProper) (h : s.Remembers base) (r : Request) :
    s.answer r = loadAnew base s.files r ∨
    ∃ old ∈ s.moments, s.answer r = loadAnew base old r ∧
      leads s.files (resolve base r.path) = .ok true ∧
      ∃ entries before n, fetch old (resolve base r.path) = .ok (entries, before) ∧
        s.answer r = r.define entries ∧
        s.files.find (resolve base r.path) = .ok n ∧ s.files.changed n ≤ before := by
  have hanswer : s.answer r = (s.loader.document s.files r.path).1.bind r.define := by
    rw [answer, load_eq]
  rcases document_cases s.loader s.files r.path with
    ⟨entries, hleads, hrecall, hdoc⟩ | ⟨hdoc, -⟩
  · rw [h.base] at hleads hrecall
    obtain ⟨key, before, n, hknown, hfind, hage⟩ := recalled?_eq_some_iff.1 hrecall
    obtain ⟨old, hold, p, hp, htext, hleads', hfetch⟩ := h.known (List.mem_of_find?_eq_some hknown)
    have hkey : key = (resolve base r.path).text := by simpa using List.find?_some hknown
    -- What is known by the text of a path was read from that path: texts tell paths apart.
    obtain rfl : p = resolve base r.path :=
      hp.eq_of_text_eq (hbase.join (Path.isProper_ofText _)) (htext.trans hkey)
    have hthen : s.answer r = r.define entries := by rw [hanswer, hdoc]; rfl
    refine .inr ⟨old, hold, ?_, hleads, entries, before, n, hfetch, hthen, hfind, hage⟩
    rw [loadAnew_eq, document_anew hleads' hfetch]
    exact hthen
  · left
    rw [hanswer, hdoc, h.base, loadAnew_eq]

/-! ### What replaces what -/

/-- What stands in the place of a file of an earlier moment holds the same or is younger. -/
def Superseded (s : Session) : Prop :=
  ∀ old ∈ s.moments, ∀ place bytes changed n, old.node? place = some (.file bytes changed) →
    s.files.node? place = some n →
      (∃ changed', n = .file bytes changed') ∨ changed < s.files.changed n

theorem superseded_start : (start base files).Superseded := by
  intro old hold place bytes changed n hthen hnow
  obtain rfl := List.mem_singleton.1 hold
  exact .inl ⟨changed, Option.some.inj (hnow.symm.trans hthen)⟩

theorem superseded_change (h : s.Superseded) {c : FileChange} (hc : s.Dates c) :
    (s.after (.change c)).Superseded := by
  intro old hold place bytes changed n hthen hnow
  rcases List.mem_cons.1 hold with rfl | hold
  · exact .inl ⟨changed, Option.some.inj (hnow.symm.trans hthen)⟩
  cases n with
  | directory => exact .inr (hc.directory hold hthen hnow)
  | file bytes' changed' =>
      rcases FileTree.file_of_after hnow with hbefore | hwritten
      · exact h old hold place bytes changed _ hthen hbefore
      · rcases hc.file hwritten hold hthen with rfl | hyounger
        · exact .inl ⟨changed', rfl⟩
        · exact .inr hyounger

/-- After changes by which nothing looks older than what it replaces, nothing does. -/
theorem superseded_afterAll (h : s.Superseded) (hacts : s.Along Dates acts) :
    (s.afterAll acts).Superseded := by
  induction acts generalizing s with
  | nil => exact h
  | cons a acts ih =>
      cases a with
      | change c => exact ih (superseded_change h hacts.1) hacts.2
      | load r => exact ih h hacts

/-- When nothing looks older than what it replaced, an answer is that of a loader that remembers
nothing. -/
theorem Remembers.answer_eq_loadAnew (hbase : base.IsProper) (h : s.Remembers base)
    (hs : s.Superseded) (r : Request) : s.answer r = loadAnew base s.files r := by
  rcases h.answer_eq hbase r with hanew |
    ⟨old, hold, -, hleads, entries, before, n, hfetch, hthen, hfind, hage⟩
  · exact hanew
  · obtain ⟨bytes, hfound, hsame⟩ := find_of_fetch hfetch
    rcases hs old hold _ bytes before n (FileTree.node?_of_find hfound)
      (FileTree.node?_of_find hfind) with ⟨changed', rfl⟩ | hyounger
    · rw [hthen, loadAnew_eq, document_anew hleads (hsame _ _ hfind)]
      rfl
    · exact absurd hage (Int.not_le.2 hyounger)

/-- What a path leads to shows no later time than the file that it led to in other files. -/
def LooksAsOld (files old : FileTree) (p : Path) : Prop :=
  ∃ bytes before n, old.find p = .ok (.file bytes before) ∧ files.find p = .ok n ∧
    files.changed n ≤ before

/-- **An answer is that of a loader that remembers nothing**: whatever was loaded and changed before,
over the files as they are, or as they were at some moment, if what is asked for shows no later time
now than it did then; and over the files as they are, if nothing came to look older than what it
replaced. -/
theorem answer_of_afterAll (hbase : base.IsProper) (files : FileTree) (acts : List Act)
    (r : Request) :
    (∃ old ∈ ((start base files).afterAll acts).moments,
      ((start base files).afterAll acts).answer r = loadAnew base old r ∧
      (old = ((start base files).afterAll acts).files ∨
        LooksAsOld ((start base files).afterAll acts).files old (resolve base r.path))) ∧
    ((start base files).Along Dates acts → ((start base files).afterAll acts).answer r =
      loadAnew base ((start base files).afterAll acts).files r) := by
  have hstart : (start base files).Remembers base := remembers_start
  have hremembers := remembers_afterAll hbase hstart acts
  constructor
  · rcases hremembers.answer_eq hbase r with hanew |
      ⟨old, hold, hthen, -, entries, before, n, hfetch, -, hfind, hage⟩
    · exact ⟨_, List.mem_cons_self .., hanew, .inl rfl⟩
    · obtain ⟨bytes, hfound, -⟩ := find_of_fetch hfetch
      exact ⟨old, hold, hthen, .inr ⟨bytes, before, n, hfound, hfind, hage⟩⟩
  · intro hdates
    exact hremembers.answer_eq_loadAnew hbase (superseded_afterAll superseded_start hdates) r

/-- A directory. -/
def project : Path := ⟨"/", ["project"]⟩

/-- A file is written, loaded, and written again with another name of its pipeline. -/
def rewritten (before now : Int) : List Act :=
  [.change (.write ["project", "ci.yaml"] (Text.encode "name: a\n") before),
    .load (.catalog "ci.yaml"),
    .change (.write ["project", "ci.yaml"] (Text.encode "name: b\n") now)]

theorem isProper_project : project.IsProper := ⟨by decide, by decide⟩

theorem not_file_of_empty {place : List String} {bytes : List UInt8} {changed : Int} :
    ({} : FileTree).node? place ≠ some (.file bytes changed) := by
  simp [FileTree.node?]

/-- The first file of a tree is the only one. -/
theorem eq_of_first {place q : List String} {bytes bytes' : List UInt8} {changed changed' : Int}
    (h : (({} : FileTree).after (.write place bytes changed)).node? q =
      some (.file bytes' changed')) : q = place ∧ bytes' = bytes ∧ changed' = changed := by
  rcases FileTree.file_of_after h with hbefore | hwritten
  · exact absurd hbefore not_file_of_empty
  · cases hwritten
    exact ⟨rfl, rfl, rfl⟩

theorem along_dates_rewritten {before now : Int} (h : before < now) :
    (start project {}).Along Dates (rewritten before now) := by
  refine ⟨⟨fun _ hold hthen => ?_, fun hold hthen _ => ?_⟩,
    ⟨fun hwritten hold hthen => ?_, fun hold hthen hnow => ?_⟩, trivial⟩
  · obtain rfl := List.mem_singleton.1 hold
    exact absurd hthen not_file_of_empty
  · obtain rfl := List.mem_singleton.1 hold
    exact absurd hthen not_file_of_empty
  · cases hwritten
    rcases List.mem_cons.1 hold with rfl | hold
    · obtain ⟨-, -, rfl⟩ := eq_of_first hthen
      exact .inr h
    · obtain rfl := List.mem_singleton.1 hold
      exact absurd hthen not_file_of_empty
  · rcases List.mem_cons.1 hold with rfl | hold
    · obtain ⟨rfl, -, -⟩ := eq_of_first hthen
      cases hnow.symm.trans (FileTree.node?_of_write (by decide))
    · obtain rfl := List.mem_singleton.1 hold
      exact absurd hthen not_file_of_empty

/-- A file that is written again at a later time is read again. -/
theorem answer_of_rewritten :
    ((start project {}).afterAll (rewritten 10 11)).answer (.catalog "ci.yaml") =
      loadAnew project ((start project {}).afterAll (rewritten 10 11)).files (.catalog "ci.yaml") :=
  (answer_of_afterAll isProper_project {} (rewritten 10 11) _).2 (along_dates_rewritten (by decide))

/-- The names of the pipelines that are loaded. -/
def namesLoaded : Except Fault Loaded → List String
  | .ok (.catalog c) => c.names
  | _ => []

/-- A time that the file never had is not enough: a file that is written again with an earlier time
is not read again. -/
theorem exists_answer_not_anew :
    (start project {}).Along Redates (rewritten 10 5) ∧
    ((start project {}).afterAll (rewritten 10 5)).answer (.catalog "ci.yaml") ≠
      loadAnew project ((start project {}).afterAll (rewritten 10 5)).files
        (.catalog "ci.yaml") := by
  constructor
  · refine ⟨fun _ _ _ _ _ old hold _ _ hthen => ?_,
      fun _ _ _ hwritten _ old hold _ _ hthen => ?_, trivial⟩
    · obtain rfl := List.mem_singleton.1 hold
      exact absurd hthen not_file_of_empty
    · cases hwritten
      rcases List.mem_cons.1 hold with rfl | hold
      · obtain ⟨-, -, rfl⟩ := eq_of_first hthen
        decide
      · obtain rfl := List.mem_singleton.1 hold
        exact absurd hthen not_file_of_empty
  · intro h
    have hremembered : namesLoaded (((start project {}).afterAll (rewritten 10 5)).answer
        (.catalog "ci.yaml")) = ["a"] := by decide +kernel
    have hwritten : namesLoaded (loadAnew project
        ((start project {}).afterAll (rewritten 10 5)).files (.catalog "ci.yaml")) = ["b"] := by
      decide +kernel
    rw [h, hwritten] at hremembered
    exact absurd hremembered (by decide)

end Session

end Conveyor.Loader
