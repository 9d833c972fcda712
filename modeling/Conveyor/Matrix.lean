/-
**Matrices: from a job to its instances.**

The instances of a job are the choices of one value for each axis, the last axis running fastest.
An instance is named by its job and its values, joined by dashes; two instances of a stage may not
have the same name.

Main definitions:

* `Conveyor.Job.matrixSize` — the number of choices;
* `Conveyor.Job.choices` — the choices in order;
* `Conveyor.Job.checkCap` — what refuses a matrix that is too large;
* `Conveyor.instanceIdentity` — the name of an instance;
* `Conveyor.Job.expand`, `Conveyor.Stage.expand`, `Conveyor.Pipeline.expand` — the instances.

Main results:

* `Conveyor.Job.length_choices` — there are as many choices as the sizes of the axes multiply to.
-/

import Conveyor.Counts
import Conveyor.Report.Stage

set_option autoImplicit false

namespace Conveyor

/-- The name of an instance: its job and its values, joined by dashes. -/
def instanceIdentity (jobName : String) (values : List String) : String :=
  "-".intercalate (jobName :: values)

/-- The choices of one value for each axis, the last axis running fastest. -/
def choicesOf : List Axis → List (List String)
  | [] => [[]]
  | a :: rest => a.values.flatMap fun v => (choicesOf rest).map (v :: ·)

/-- Writes a value under a name; a name that is there keeps its place. -/
def bindName (bs : List (String × String)) (name value : String) : List (String × String) :=
  match bs with
  | [] => [(name, value)]
  | b :: rest => if b.1 = name then (name, value) :: rest else b :: bindName rest name value

namespace Job

/-- The number of choices. -/
def matrixSize (j : Job) : Nat := product (j.matrix.map fun a => a.values.length)

/-- The choices in order. -/
def choices (j : Job) : List (List String) := choicesOf j.matrix

/-- The values of a choice by the names of their axes. -/
def bindingsOf (j : Job) (values : List String) : List (String × String) :=
  (j.axisNames.zip values).foldl (fun bs b => bindName bs b.1 b.2) []

/-- Where a job stands, as messages tell it. -/
def whereText (j : Job) (stageName : String) : String :=
  if stageName = "" then "job '" ++ j.name ++ "'"
  else "stage '" ++ stageName ++ "'/job '" ++ j.name ++ "'"

/-- The fault of a matrix of more choices than the cap.  It tells both numbers, unless one of them has
too many digits to be written. -/
def capFault (j : Job) (cap : Int) (stageName : String) : Fault :=
  let size := j.matrixSize
  let place := j.whereText stageName
  if (Datum.int size).isShowable && (Datum.int cap).isShowable then
    { kind := .config [place ++ ": matrix size " ++ toString size ++ " exceeds cap " ++ toString cap]
      text := "Matrix of " ++ place ++ " expands to " ++ toString size ++ " instances, cap is " ++
        toString cap
      details := [("size", .int size), ("cap", .int cap)] }
  else .value Datum.unshowableText

/-- Refuses a matrix of more choices than the cap. -/
def checkCap (j : Job) (cap : Int) (stageName : String) : Except Fault Unit :=
  if cap < j.matrixSize then .error (j.capFault cap stageName) else .ok ()

/-- The fault of two choices with the same identity. -/
def duplicateFault (j : Job) (identity : String) (first second : List String) : Fault :=
  .configuration ("Matrix of job '" ++ j.name ++ "' produces duplicate instance identities")
    ["identity '" ++ identity ++ "' produced by " ++ Text.quotedList first ++ " and "
      ++ Text.quotedList second]

/-- The instances of choices in order; `seen` are the choices before, with their identities. -/
def instancesFrom (j : Job) (stageName : String) :
    Int → List (String × List String) → List (List String) → Except Fault (List JobInstance)
  | _, _, [] => .ok []
  | index, seen, values :: rest =>
    let identity := instanceIdentity j.name values
    match seen.find? (·.1 == identity) with
    | some (_, first) => .error (j.duplicateFault identity first values)
    | none =>
      let made : JobInstance :=
        { identity, stageName, job := j, bindings := j.bindingsOf values, index }
      (made :: ·) <$> instancesFrom j stageName (index + 1) (seen ++ [(identity, values)]) rest

/-- The instances of a job, numbered from `start` on. -/
def expand (j : Job) (stageName : String) (cap start : Int) : Except Fault (List JobInstance) := do
  let empty := (j.matrix.filter fun a => a.values.isEmpty).map Axis.name
  if !empty.isEmpty then
    throw (.configuration ("Matrix of job '" ++ j.name ++ "' has empty axes")
      (empty.map fun n => "job '" ++ j.name ++ "': matrix axis '" ++ n ++ "' has no values"))
  j.checkCap cap stageName
  j.instancesFrom stageName start [] j.choices

theorem length_choicesOf (as : List Axis) :
    (choicesOf as).length = product (as.map fun a => a.values.length) := by
  induction as with
  | nil => rfl
  | cons a as ih =>
      have h : ∀ v ∈ a.values, ((choicesOf as).map (v :: ·)).length = (choicesOf as).length :=
        fun v _ => List.length_map ..
      exact (length_flatMap_of_forall h).trans (congrArg (a.values.length * ·) ih)

/-- There are as many choices as the sizes of the axes multiply to. -/
theorem length_choices (j : Job) : j.choices.length = j.matrixSize := length_choicesOf j.matrix

end Job

namespace Stage

/-- Adds the instances of a job to those of the jobs before it.  An identity that is taken is noted
with the job that took it first. -/
def addInstances (s : Stage) (jobName : String) (kept : List JobInstance) (notes : List String) :
    List JobInstance → List JobInstance × List String
  | [] => (kept, notes)
  | i :: rest =>
    match kept.find? (·.identity == i.identity) with
    | some owner =>
      addInstances s jobName kept
        (notes ++ ["stage '" ++ s.name ++ "': identity '" ++ i.identity ++ "' produced by jobs '"
          ++ owner.job.name ++ "' and '" ++ jobName ++ "'"]) rest
    | none => addInstances s jobName (kept ++ [i]) notes rest

/-- The instances of jobs, after those of the jobs before them. -/
def expandFrom (s : Stage) (cap start : Int) (kept : List JobInstance) (notes : List String) :
    List Job → Except Fault (List JobInstance × List String)
  | [] => .ok (kept, notes)
  | j :: rest => do
    let made ← j.expand s.name cap (start + kept.length)
    let (kept, notes) := s.addInstances j.name kept notes made
    expandFrom s cap start kept notes rest

/-- A stage with its instances, numbered from `start` on. -/
def expand (s : Stage) (cap start : Int) : Except Fault StageReport := do
  let (instances, notes) ← s.expandFrom cap start [] [] s.jobs
  if notes.isEmpty then return { name := s.name, instances }
  else
    throw (.configuration ("Stage '" ++ s.name ++ "' has colliding instance identities") notes)

end Stage

namespace Pipeline

/-- The stages with their instances, numbered from `start` on. -/
def expandFrom (cap start : Int) : List Stage → Except Fault (List StageReport)
  | [] => .ok []
  | s :: rest => do
    let made ← s.expand cap start
    let more ← expandFrom cap (start + made.instances.length) rest
    return made :: more

/-- The stages of a pipeline with their instances, numbered through.  The sizes of all matrices are
looked at first. -/
def expand (p : Pipeline) (cap : Int) : Except Fault (List StageReport) := do
  p.stages.forM fun s => s.jobs.forM fun j => j.checkCap cap s.name
  expandFrom cap 0 p.stages

end Pipeline

end Conveyor
