/-
**The configuration of a run.**

Main definitions:

* `Conveyor.RunConfig` — how many instances run at once, what a failure stops, how large a matrix
  may be, and where steps run;
* `Conveyor.RunConfig.check` — the configuration that data give;
* `Conveyor.RunConfig.merge` — a configuration with some settings replaced;
* `Conveyor.RunConfig.assign` — a configuration with one setting changed;
* `Conveyor.changeFixed` — what comes of setting a field of a record that never changes.
-/

import Conveyor.Definition.Check
import Conveyor.Fault

set_option autoImplicit false

namespace Conveyor

/-- Whether a name is private: it begins with an underscore and belongs to no field. -/
def isPrivate (name : String) : Bool := name.toList.head? == some '_'

/-- The configuration of a run. -/
structure RunConfig where
  /-- How many instances of a stage run at once. -/
  concurrencyLimit : Nat := 4
  /-- Whether a failure calls off the work that has not begun. -/
  failFast : Bool := true
  /-- How many instances a matrix may have. -/
  matrixCap : Nat := 256
  /-- Where steps run. -/
  workingDir : String := "."
  deriving DecidableEq, Repr, Inhabited

namespace RunConfig

open Check

/-- The names of the settings. -/
def settings : List String := ["concurrency_limit", "fail_fast", "matrix_cap", "working_dir"]

/-- How many instances may run at once: from 1 to 256. -/
def checkLimit : Check Nat := wholeIn 1 (some 256)

/-- How many instances a matrix may have: at least one. -/
def checkCap : Check Nat := wholeIn 1 none

/-- A directory: a text that is not blank, without the blanks around it. -/
def checkDir (d : Datum) : Checked String :=
  (text d).andThen fun s =>
    if Text.allBlank s then fail (.refused "working_dir cannot be empty") else .good (Text.strip s)

/-- The configuration that data give. -/
def check : Check RunConfig :=
  record "RunConfig" settings fun d =>
    RunConfig.mk <$> optional "concurrency_limit" 4 checkLimit d
      <*> optional "fail_fast" true truth d
      <*> optional "matrix_cap" 256 checkCap d
      <*> optional "working_dir" "." checkDir d

/-- A configuration as a datum. -/
def datum (c : RunConfig) : Datum :=
  .object [("concurrency_limit", .int c.concurrencyLimit), ("fail_fast", .bool c.failFast),
    ("matrix_cap", .int c.matrixCap), ("working_dir", .text c.workingDir)]

/-- Writes the entries of overrides that are not null over other entries. -/
def overlay (entries overrides : List (Datum × Datum)) : List (Datum × Datum) :=
  (overrides.filter fun e => match e.2 with
    | .null => false
    | _ => true).foldl (fun done e => Datum.put done e.1 e.2) entries

/-- The entries of a configuration, or none. -/
def entriesOf (base : Option RunConfig) : List (Datum × Datum) :=
  match base.map datum with
  | some (.dict entries) => entries
  | _ => []

/-- A configuration with the settings of overrides that are not null, checked anew as a whole. -/
def merge (base : Option RunConfig) (overrides : List (Datum × Datum)) : Checked RunConfig :=
  check (.dict (overlay (entriesOf base) overrides))

/-- What is worked out from a configuration, and is no setting. -/
def derived : List String := ["model_extra", "model_fields_set"]

/-- The fault of setting what is worked out. -/
def derivedFault (name : String) : Fault :=
  .outside "AttributeError" ("property '" ++ name ++ "' of 'RunConfig' object has no setter")

/-- A configuration with one setting changed and checked. -/
def assignChecked (c : RunConfig) (setting : String) (d : Datum) : Checked RunConfig :=
  if setting = "concurrency_limit" then
    ((checkLimit d.opened).within (.key setting)).map fun n => { c with concurrencyLimit := n }
  else if setting = "fail_fast" then
    ((truth d.opened).within (.key setting)).map fun b => { c with failFast := b }
  else if setting = "matrix_cap" then
    ((checkCap d.opened).within (.key setting)).map fun n => { c with matrixCap := n }
  else if setting = "working_dir" then
    ((checkDir d.opened).within (.key setting)).map fun s => { c with workingDir := s }
  else .bad [⟨[.key setting], .noAttribute setting⟩]

/-- A configuration with one setting changed; nothing is changed when the value is refused, and
nothing by a private name. -/
def assign (c : RunConfig) (setting : String) (d : Datum) : Except Fault RunConfig :=
  if isPrivate setting then .ok c
  else if derived.contains setting then .error (derivedFault setting)
  else
    match assignChecked c setting d with
    | .good c => .ok c
    | .bad ps => .error (.ofProblems ps)

end RunConfig

/-- What comes of setting a field of a record that never changes: private names are free. -/
def changeFixed (field : String) : Except Fault Unit :=
  if isPrivate field then .ok () else .error (.ofProblems [⟨[.key field], .frozen⟩])

end Conveyor
