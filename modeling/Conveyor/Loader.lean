/-
**Loading definitions from documents and files.**

A document holds a list of pipelines, a single pipeline under a key, or is itself a pipeline; a
configuration may stand beside them.  A loader remembers the documents it has read, by path, and
reads a file again only when it was changed since.

Main definitions:

* `Conveyor.Document.read` — the mapping that a text writes;
* `Conveyor.Document.pipelines`, `Conveyor.Document.catalog`, `Conveyor.Document.config` — what a
  mapping defines;
* `Conveyor.Loader` — a directory and the documents that were read;
* `Conveyor.Loader.document` — the mapping in a file, read anew or as it is remembered;
* `Conveyor.Loader.catalog`, `Conveyor.Loader.pipeline`, `Conveyor.Loader.config` — what a file
  defines.
-/

import Conveyor.Config
import Conveyor.Definition.Decode
import Conveyor.Fault
import Conveyor.FileTree
import Conveyor.Yaml.Document

set_option autoImplicit false

namespace Conveyor

namespace Document

/-- A fault of a document. -/
def fault (text : String) (problems : Option (List Problem)) : Fault :=
  { kind := .definition problems, text }

/-- The mapping that a text writes; `source` names the text. -/
def read (text source : String) : Except Fault (List (Datum × Datum)) :=
  match Yaml.read text with
  | .error .malformed => .error { kind := .malformed, text := "Invalid YAML syntax in " ++ source }
  | .error e => .error (.outside e.kindName e.message)
  | .ok d =>
    match d.opened with
    | .null => .error (fault ("Definition document is empty: " ++ source) none)
    | .dict entries => .ok entries
    | d => .error (fault ("Definition document must be a mapping, got " ++ d.typeName) none)

/-- The unchecked pipelines of a document. -/
def pipelines (entries : List (Datum × Datum)) : Except Fault (List Datum) :=
  match (Datum.lookupText entries "pipelines").map Datum.opened with
  | some (.list ds) => .ok ds
  | some _ => .error (fault "'pipelines' must be a list" none)
  | none =>
    match Datum.lookupText entries "pipeline" with
    | some d => .ok [d]
    | none =>
      match Datum.lookupText entries "name" with
      | some _ =>
        .ok [.dict (entries.filter fun e => match e.1 with
          | .text k => k != "config"
          | _ => true)]
      | none =>
        .error (fault "Document must contain 'pipelines', 'pipeline' or a pipeline mapping" none)

/-- The name of an unchecked pipeline, as messages show it.  Not every name can be shown. -/
def nameShown (d : Datum) : Except Fault String :=
  match d.field? "name" with
  | some n =>
    if !n.truthy then .ok ""
    else if n.isShowable then .ok (" ('" ++ n.shown ++ "')")
    else .error (.value Datum.unshowableText)
  | none => .ok ""

/-- Checks pipelines from an index on; the first that is wrong is told. -/
def checkFrom : Nat → List Datum → Except Fault (List Pipeline)
  | _, [] => .ok []
  | i, d :: ds =>
    match Pipeline.check d.opened with
    | .bad problems => do
      let name ← nameShown d
      throw (fault ("Invalid pipeline definition at index " ++ toString i ++ name) (some problems))
    | .good p => (p :: ·) <$> checkFrom (i + 1) ds

/-- The pipelines of a document. -/
def catalog (entries : List (Datum × Datum)) : Except Fault Catalog := do
  let ds ← pipelines entries
  let ps ← checkFrom 0 ds
  return ⟨ps⟩

/-- The configuration in a document, if there is one. -/
def config (entries : List (Datum × Datum)) : Except Fault (Option RunConfig) :=
  match Datum.lookupText entries "config" with
  | none | some .null => .ok none
  | some d =>
    match RunConfig.check d.opened with
    | .good c => .ok (some c)
    | .bad problems => .error (fault "Invalid run config" (some problems))

/-- The pipelines of a text. -/
def catalogOfText (text : String) : Except Fault Catalog := do catalog (← read text "<string>")

/-- A carriage return, alone or before a line feed, counts as a line feed. -/
def unifyLines : List Char → List Char
  | [] => []
  | '\r' :: '\n' :: cs => '\n' :: unifyLines cs
  | c :: cs => (if c = '\r' then '\n' else c) :: unifyLines cs

end Document

/-- A directory and the documents that were read, with the times of their last change. -/
structure Loader where
  base : Path
  known : List (String × List (Datum × Datum) × Int) := []

namespace Loader

/-- The text of bytes, with line feeds only. -/
def textOf (bytes : List UInt8) : Except Text.Utf8Error String :=
  (Text.decode bytes).map fun s => String.ofList (Document.unifyLines s.toList)

/-- Why a file cannot be read. -/
def unreadable (path reason : String) : Fault :=
  Document.fault ("Failed to read " ++ path ++ ": " ++ reason) none

/-- The path of a file seen from a directory. -/
def resolve (base : Path) (path : String) : Path := base.join (Path.ofText path)

/-- Whether a path leads anywhere.  A name that is too long is an error even then. -/
def leads (files : FileTree) (p : Path) : Except Fault Bool :=
  if p.parts.any fun part => part.toList.contains (Char.ofNat 0) then .ok false
  else
    match files.find p with
    | .ok _ => .ok true
    | .error .nameTooLong => .error (.outside "OSError" (FileError.nameTooLong.message p.text))
    | .error _ => .ok false

/-- The mapping in a file, read anew, and the time of the last change of the file. -/
def fetch (files : FileTree) (p : Path) : Except Fault (List (Datum × Datum) × Int) :=
  match files.read p with
  | .error e => .error (unreadable p.text (e.message p.text))
  | .ok (bytes, changed) =>
    match textOf bytes with
    | .error e => .error (unreadable p.text e.message)
    | .ok s => (Document.read s p.text).map (·, changed)

/-- The mapping that was read before, unless what stands at the path was changed since. -/
def recalled? (l : Loader) (files : FileTree) (p : Path) : Option (List (Datum × Datum)) :=
  match l.known.find? (·.1 == p.text), files.find p with
  | some (_, entries, before), .ok n => if files.changed n ≤ before then some entries else none
  | _, _ => none

/-- Remembers a mapping under the text of a path; what was known of it before is forgotten. -/
def remember (l : Loader) (path : String) (entries : List (Datum × Datum)) (changed : Int) :
    Loader :=
  { l with known := l.known.filter (·.1 != path) ++ [(path, entries, changed)] }

/-- The mapping in a file.  What was read before is used again unless the file was changed since. -/
def document (l : Loader) (files : FileTree) (path : String) :
    Except Fault (List (Datum × Datum)) × Loader :=
  let p := resolve l.base path
  match leads files p with
  | .error e => (.error e, l)
  | .ok false => (.error (Document.fault ("Definition file not found: " ++ p.text) none), l)
  | .ok true =>
    match l.recalled? files p with
    | some entries => (.ok entries, l)
    | none =>
      match fetch files p with
      | .error e => (.error e, l)
      | .ok (entries, changed) => (.ok entries, l.remember p.text entries changed)

/-- The pipelines in a file. -/
def catalog (l : Loader) (files : FileTree) (path : String) : Except Fault Catalog × Loader :=
  let (entries, l) := l.document files path
  (entries.bind Document.catalog, l)

/-- The pipeline of a name, or the only one when no name is given. -/
def choose (c : Catalog) (name : Option String) : Except Fault Pipeline :=
  match name with
  | some name =>
    match c.pipeline? name with
    | some p => .ok p
    | none =>
      .error (Document.fault
        ("Pipeline '" ++ name ++ "' not found, available: " ++ Text.quotedList c.names) none)
  | none =>
    match c.pipelines with
    | [p] => .ok p
    | ps =>
      .error (Document.fault
        ("Expected exactly one pipeline, found " ++ toString ps.length ++ "; select one by name")
        none)

/-- The pipeline of a name in a file, or its only one when no name is given. -/
def pipeline (l : Loader) (files : FileTree) (path : String) (name : Option String) :
    Except Fault Pipeline × Loader :=
  let (c, l) := l.catalog files path
  (c.bind fun c => choose c name, l)

/-- The configuration in a file, if there is one. -/
def config (l : Loader) (files : FileTree) (path : String) :
    Except Fault (Option RunConfig) × Loader :=
  let (entries, l) := l.document files path
  (entries.bind Document.config, l)

end Loader

end Conveyor
