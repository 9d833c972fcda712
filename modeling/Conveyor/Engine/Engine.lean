/-
**The engine: many runs, what sets them off, and which of them are active.**

Main definitions:

* `Conveyor.Engine` — the runs, the register of active ones, and the tasks that wait for them;
* `Conveyor.Engine.run` — carries out a pipeline when a request sets it off;
* `Conveyor.Engine.dispatch` — carries out all pipelines of a catalog that a request sets off;
* `Conveyor.Engine.cancel`, `Conveyor.Engine.abortTask` — calling off.
-/

import Conveyor.Engine.Run

set_option autoImplicit false

namespace Conveyor

/-- How a task ended. -/
inductive TaskEnd where
  /-- The request sets nothing off. -/
  | notTriggered
  | status (s : Status)
  /-- The pipelines that were carried out. -/
  | names (ns : List String)
  | fault (f : Fault)
  | cancelled

/-- What a task waits for: executions, each given by its run and its number. -/
inductive Goal where
  | run (k execution : Nat)
  | dispatch (children : List (Nat × Nat))
  | over (result : TaskEnd)

/-- The executions that a task waits for. -/
def Goal.children : Goal → List (Nat × Nat)
  | .run k x => [(k, x)]
  | .dispatch children => children
  | .over _ => []

/-- Runs, the register of the active ones, and the tasks that wait for them. -/
structure Engine where
  /-- All runs in the order in which they were created. -/
  runs : List Run := []
  /-- The active runs by their ids, in the order in which they were started. -/
  register : List (String × Nat) := []
  tasks : List (String × Goal) := []

namespace Engine

/-- The run of an id that was created first. -/
def find? (e : Engine) (id : String) : Option Nat := e.runs.findIdx? (·.id == id)

/-- The active run of an id. -/
def active? (e : Engine) (id : String) : Option Nat :=
  (e.register.find? (·.1 == id)).map (·.2)

/-- The ids of the active runs. -/
def activeIds (e : Engine) : List String := e.register.map (·.1)

/-- The engine with one of its runs changed. -/
def modifyRun (e : Engine) (k : Nat) (f : Run → Run) : Engine :=
  { e with runs := e.runs.modify k f }

/-- How an execution ended. -/
def ending? (e : Engine) (k execution : Nat) : Option Ending := do
  let r ← e.runs[k]?
  let x ← r.executions[execution]?
  x.ending

/-- Whether the run of an entry of the register still goes on. -/
def goesOn (e : Engine) (k : Nat) : Bool := (e.ending? k 0).isNone

/-- The engine when its runs have gone on as far as they can; runs that have ended leave the
register. -/
def settle (e : Engine) : Engine :=
  let e := { e with runs := e.runs.map Run.settle }
  { e with register := e.register.filter fun entry => e.goesOn entry.2 }

/-! ### Tasks -/

/-- How executions that somebody waits for together ended: one abort is enough. -/
def gathered? (e : Engine) (children : List (Nat × Nat)) : Option TaskEnd :=
  let endings := children.map fun c => e.ending? c.1 c.2
  if endings.any (· == some .aborted) then some .cancelled
  else if endings.all Option.isSome then
    some (.names (children.filterMap fun c => e.runs[c.1]?.map (·.pipeline.name)))
  else none

/-- How a task ended, if it did. -/
def taskEnd? (e : Engine) : Goal → Option TaskEnd
  | .run k x =>
    (e.ending? k x).map fun
      | .returned s => .status s
      | .aborted => .cancelled
  | .dispatch children => e.gathered? children
  | .over result => some result

/-- The engine with another task. -/
def addTask (e : Engine) (name : String) (g : Goal) : Engine :=
  { e with tasks := e.tasks ++ [(name, g)] }

/-- The task of a name that was begun last. -/
def task? (e : Engine) (name : String) : Option Goal :=
  (e.tasks.reverse.find? (·.1 == name)).map (·.2)

/-! ### Starting -/

/-- Creates a run without starting it. -/
def create (e : Engine) (id : String) (p : Pipeline) (config : Option RunConfig) : Engine :=
  { e with runs := e.runs ++ [Run.create id p (config.getD {})] }

/-- The fault of an id that is taken. -/
def alreadyActive (id : String) : Fault := .value ("Run '" ++ id ++ "' is already active")

/-- Carries out a pipeline under an id that no active run has. -/
def launch (e : Engine) (id : String) (p : Pipeline) (config : Option RunConfig) : Engine × Goal :=
  let created := e.create id p config
  match (Run.create id p (config.getD {})).execute with
  | .error f => (created, .over (.fault f))
  | .ok r =>
    ({ created with runs := e.runs ++ [r], register := e.register ++ [(id, e.runs.length)] },
      .run e.runs.length 0)

/-- Carries out a pipeline when a request sets it off. -/
def run (e : Engine) (id : String) (p : Pipeline) (request : Request)
    (config : Option RunConfig) : Engine × Goal :=
  match p.wants request with
  | .error f => (e, .over (.fault f))
  | .ok false => (e, .over .notTriggered)
  | .ok true =>
    if (e.active? id).isSome then (e, .over (.fault (alreadyActive id)))
    else e.launch id p config

/-- Carries out a pipeline when a request sets it off, under an id that no other run ever has. -/
def runFresh (e : Engine) (id : String) (p : Pipeline) (request : Request)
    (config : Option RunConfig) : Engine × Goal :=
  match p.wants request with
  | .error f => (e, .over (.fault f))
  | .ok false => (e, .over .notTriggered)
  | .ok true => e.launch id p config

/-- Carries out those of some pipelines that a request sets off, one beside the other. -/
def runAll (e : Engine) (idOf : Pipeline → String) (request : Request) (config : RunConfig) :
    List Pipeline → Engine × List Goal
  | [] => (e, [])
  | p :: rest =>
    let (e, g) := e.runFresh (idOf p) p request (some config)
    let (e, gs) := runAll e idOf request config rest
    (e, g :: gs)

/-- The pipelines of a catalog that a request sets off.  All of them are looked at before the first
one is started. -/
def selection (c : Catalog) (request : Request) (config : RunConfig) :
    Except Fault (List Pipeline) := do
  c.validate
  let selected ← c.select request
  selected.forM fun p => do
    let _ ← p.expand config.matrixCap
  return selected

/-- What several goals come to together. -/
def joined (goals : List Goal) : Goal :=
  match goals.findSome? fun g => match g with | .over (.fault f) => some f | _ => none with
  | some f => .over (.fault f)
  | none => .dispatch (goals.flatMap Goal.children)

/-- Carries out all pipelines of a catalog that a request sets off, one beside the other.  `idOf`
gives them fresh ids. -/
def dispatch (e : Engine) (idOf : Pipeline → String) (c : Catalog) (request : Request)
    (config : Option RunConfig) : Engine × Goal :=
  let config := config.getD {}
  match selection c request config with
  | .error f => (e, .over (.fault f))
  | .ok selected =>
    let (e, goals) := e.runAll idOf request config selected
    (e, joined goals)

/-- Executes a run once more, beside the register. -/
def execute (e : Engine) (k : Nat) : Engine × Goal :=
  match e.runs[k]? with
  | none => (e, .over .notTriggered)
  | some r =>
    match r.execute with
    | .error f => (e, .over (.fault f))
    | .ok next => (e.modifyRun k fun _ => next, .run k r.executions.length)

/-! ### Calling off -/

/-- Cancels an active run. -/
def cancel (e : Engine) (id : String) : Engine × Bool :=
  match e.active? id with
  | some k => (e.modifyRun k (·.cancel Fault.cancelText), true)
  | none => (e, false)

/-- Aborts a task that has not ended. -/
def abortTask (e : Engine) (name : String) : Engine × Bool :=
  match e.task? name with
  | none => (e, false)
  | some g =>
    if (e.taskEnd? g).isSome then (e, false)
    else (g.children.foldl (fun e c => e.modifyRun c.1 (·.abort c.2)) e, true)

end Engine

end Conveyor
