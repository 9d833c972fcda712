/-
**A tree of files, and paths in it.**

Main definitions:

* `Conveyor.Path` — whether a path begins at the root, and its parts;
* `Conveyor.Path.ofText` — the path that a text writes; empty parts and single points are dropped;
* `Conveyor.Path.join` — a path seen from a directory;
* `Conveyor.FileTree` — directories, and files with their bytes and the times of their last change;
* `Conveyor.FileTree.locate` — the place that a path leads to, or why it leads nowhere;
* `Conveyor.FileTree.read`, `Conveyor.FileTree.write`, `Conveyor.FileTree.remove` — files;
* `Conveyor.FileTree.mode` — what may be done with a file.
-/

import Conveyor.Text.Utf8

set_option autoImplicit false

namespace Conveyor

/-! ### Paths -/

/-- Whether a path begins at the root, and its parts. -/
structure Path where
  /-- The slashes at the front: none, one, or exactly two. -/
  root : String
  parts : List String
  deriving DecidableEq, Repr, Inhabited

namespace Path

/-- The pieces of a text between slashes. -/
def pieces (s : String) : List String := (s.toList.splitOn '/').map String.ofList

/-- The path that a text writes. -/
def ofText (s : String) : Path :=
  let slashes := (s.toList.takeWhile (· == '/')).length
  { root := if slashes = 0 then "" else if slashes = 2 then "//" else "/"
    parts := (pieces s).filter fun p => p != "" && p != "." }

/-- A path as a text; the empty path is a single point. -/
def text (p : Path) : String :=
  if p.root = "" && p.parts.isEmpty then "." else p.root ++ "/".intercalate p.parts

/-- Whether a path begins at the root. -/
def isAbsolute (p : Path) : Bool := p.root != ""

/-- A path seen from a directory; an absolute path stays what it is. -/
def join (dir p : Path) : Path :=
  if p.isAbsolute then p else { dir with parts := dir.parts ++ p.parts }

end Path

/-! ### Files -/

/-- What stands at a place. -/
inductive FileNode where
  | directory
  | file (bytes : List UInt8) (changed : Int)
  deriving DecidableEq, Repr, Inhabited

/-- Why a file cannot be reached or used. -/
inductive FileError where
  | notFound
  | notDirectory
  | isDirectory
  | nameTooLong
  deriving DecidableEq, Repr

namespace FileError

/-- The number of an error. -/
def number : FileError → Nat
  | .notFound => 2
  | .notDirectory => 20
  | .isDirectory => 21
  | .nameTooLong => 36

/-- The text of an error. -/
def text : FileError → String
  | .notFound => "No such file or directory"
  | .notDirectory => "Not a directory"
  | .isDirectory => "Is a directory"
  | .nameTooLong => "File name too long"

/-- The wording of an error at a path. -/
def message (e : FileError) (path : String) : String :=
  "[Errno " ++ toString e.number ++ "] " ++ e.text ++ ": " ++ Text.quoted path

end FileError

/-- The nodes of a tree by their places; every place above a node is a directory. -/
structure FileTree where
  nodes : List (List String × FileNode) := []
  /-- The permissions of nodes, where they are not the usual ones. -/
  modes : List (List String × Nat) := []
  /-- The time that directories show as that of their last change. -/
  clock : Int := 0
  deriving DecidableEq, Repr, Inhabited

namespace FileTree

/-- What stands at a place; the root is a directory. -/
def node? (t : FileTree) (place : List String) : Option FileNode :=
  if place.isEmpty then some .directory
  else (t.nodes.find? (·.1 == place)).map (·.2)

/-- Walks on from a directory; `place` is where the walk stands. -/
def walk (t : FileTree) (place : List String) : List String → Except FileError (List String)
  | [] => .ok place
  | p :: ps =>
    match t.node? place with
    | none => .error .notFound
    | some (.file _ _) => .error .notDirectory
    | some .directory =>
      if p = ".." then walk t place.dropLast ps
      else if 255 < p.utf8ByteSize then .error .nameTooLong
      else walk t (place ++ [p]) ps

/-- The least number of bytes with which the text of a path is too long. -/
def pathLimit : Nat := 4096

/-- The place that a path leads to.  Nothing need stand there. -/
def locate (t : FileTree) (p : Path) : Except FileError (List String) :=
  if pathLimit ≤ p.text.utf8ByteSize then .error .nameTooLong else t.walk [] p.parts

/-- What stands at the end of a path. -/
def find (t : FileTree) (p : Path) : Except FileError FileNode := do
  let place ← t.locate p
  match t.node? place with
  | some n => return n
  | none => throw .notFound

/-- The bytes of a file and the time of its last change. -/
def read (t : FileTree) (p : Path) : Except FileError (List UInt8 × Int) := do
  match ← t.find p with
  | .directory => throw .isDirectory
  | .file bytes changed => return (bytes, changed)

/-- When a node was last changed. -/
def changed (t : FileTree) : FileNode → Int
  | .directory => t.clock
  | .file _ changed => changed

/-- Puts a node at a place; what stood there is replaced. -/
def put (t : FileTree) (place : List String) (n : FileNode) : FileTree :=
  if t.nodes.any (·.1 == place) then
    { t with nodes := t.nodes.map fun e => if e.1 == place then (place, n) else e }
  else { t with nodes := t.nodes ++ [(place, n)] }

/-- Makes a directory, and those above it. -/
def makeDirectory (t : FileTree) (place : List String) : FileTree :=
  (List.range (place.length + 1)).foldl (fun t i =>
    let above := place.take i
    match t.node? above with
    | some _ => t
    | none => t.put above .directory) t

/-- Writes a file; the directories above it are made. -/
def write (t : FileTree) (place : List String) (bytes : List UInt8) (changed : Int) : FileTree :=
  (t.makeDirectory place.dropLast).put place (.file bytes changed)

/-- Removes what stands at a place, and all below it. -/
def remove (t : FileTree) (place : List String) : FileTree :=
  { t with
    nodes := t.nodes.filter fun e => !place.isPrefixOf e.1
    modes := t.modes.filter fun e => !place.isPrefixOf e.1 }

/-- The permissions of what stands at a place: those that were set, or the usual ones. -/
def mode (t : FileTree) (place : List String) : Nat :=
  match t.modes.find? (·.1 == place), t.node? place with
  | some (_, m), _ => m
  | none, some .directory => 0o755
  | none, _ => 0o644

/-- Sets the permissions of what stands at a place. -/
def setMode (t : FileTree) (place : List String) (mode : Nat) : FileTree :=
  { t with modes := (place, mode) :: t.modes.filter (·.1 != place) }

/-- The names in a directory. -/
def names (t : FileTree) (place : List String) : List String :=
  t.nodes.filterMap fun e =>
    if e.1.dropLast == place && !e.1.isEmpty then e.1.getLast? else none

/-- The place of a path, with the points resolved and nothing looked up. -/
def placeOf (p : Path) : List String :=
  p.parts.foldl (fun place part => if part = ".." then place.dropLast else place ++ [part]) []

end FileTree

end Conveyor
