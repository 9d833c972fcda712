/-
**The program.**

Reads files of the working directory, carries out the command that the words ask for, writes the
files that were changed, and shows what there is to show.
-/

import Conveyor.CommandLine.Outcome
import Conveyor.Json.Writer

set_option autoImplicit false

namespace Conveyor.Program

/-- The place of a file seen from a directory. -/
def placeFrom (home : Path) (path : String) : List String :=
  FileTree.placeOf (home.join (.ofText path))

/-- A tree with a file of the disk; a file that cannot be read is left out. -/
def readFile (home : Path) (t : FileTree) (path : String) : IO FileTree := do
  try
    let bytes ← IO.FS.readBinFile path
    return t.write (placeFrom home path) bytes.toList 0
  catch _ => return t

/-- How deep directories are looked into. -/
def depth : Nat := 16

/-- A tree with what stands below an entry of a directory. -/
def readEntry (home : Path) : Nat → FileTree → IO.FS.DirEntry → IO FileTree
  | 0, t, _ => return t
  | n + 1, t, e => do
    if ← e.path.isDir then
      let mut t := t.makeDirectory (placeFrom home e.path.toString)
      for inner in ← e.path.readDir do
        t ← readEntry home n t inner
      return t
    else readFile home t e.path.toString

/-- The files that words may be about: those that they name, and for a run all below the working
directory. -/
def readTree (home : Path) (words : List String) : IO FileTree := do
  let mut t := ({} : FileTree).makeDirectory (FileTree.placeOf home)
  for w in words do
    t ← readFile home t w
  if words.contains "run" then
    for e in ← (← IO.currentDir).readDir do
      t ← readEntry home depth t e
  return t

/-- A place as an absolute path. -/
def pathOf (place : List String) : String := "/" ++ "/".intercalate place

/-- Writes the files that were changed, and removes those that are gone. -/
def writeTree (before after : FileTree) : IO Unit := do
  for (place, n) in after.nodes do
    if before.node? place != some n then
      match n with
      | .directory => IO.FS.createDirAll (pathOf place)
      | .file bytes _ => IO.FS.writeBinFile (pathOf place) ⟨bytes.toArray⟩
  for (place, n) in before.nodes do
    if n != .directory && (after.node? place).isNone then IO.FS.removeFile (pathOf place)

/-- The id of a run: twelve hexadecimal digits that depend on a number and the pipeline. -/
def idFrom (seed : Nat) (p : Pipeline) : String :=
  "run_" ++ String.ofList (Text.hexDigits 12 (seed + p.name.hash.toNat))

/-- Reports as JSON.  Runs take no time here, and no moment is told. -/
def reportsText (rs : List RunReport) : String :=
  Json.pretty Json.spaced (.list (rs.map (RunReport.datum ⟨.null, .float 0.0⟩ false)))

/-- Shows what a command shows. -/
def showOutcome (o : CommandLine.Outcome) : IO Unit := do
  IO.print o.screen
  if let some rs := o.reports then IO.println (reportsText rs)
  if let some e := o.complaint then IO.eprintln (e.message ++ "\n\n" ++ CommandLine.usage)
  if let .fault f := o.ending then IO.eprintln (f.kindName ++ ": " ++ f.message)

end Conveyor.Program

open Conveyor in
/-- Carries out the command that the words ask for. -/
def main (words : List String) : IO UInt32 := do
  let home := Path.ofText (← IO.currentDir).toString
  let files ← Program.readTree home words
  let seed ← IO.rand 0 0xFFFFFFFFFFFF
  let o := CommandLine.execute home files (Program.idFrom seed) words
  if let some after := o.files then Program.writeTree files after
  Program.showOutcome o
  return UInt32.ofNat o.exitCode
