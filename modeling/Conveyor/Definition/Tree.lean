/-
**The definition tree: pipelines of stages of jobs.**

A pipeline has triggers, and stages that are carried out one after the other; the jobs of a stage
are independent.  A job is a template: the axes of its matrix span its instances.

Main definitions:

* `Conveyor.Trigger`, `Conveyor.Service`, `Conveyor.Step`, `Conveyor.Artifact`, `Conveyor.Axis` —
  the parts of jobs and pipelines;
* `Conveyor.Job`, `Conveyor.Stage`, `Conveyor.Pipeline`, `Conveyor.Catalog` — the tree;
* `Conveyor.Event`, `Conveyor.ManualRequest`, `Conveyor.Request` — what asks for a run.
-/

set_option autoImplicit false

namespace Conveyor

/-- What a trigger waits for. -/
inductive TriggerKind where
  | push
  | tag
  | pullRequest
  | schedule
  | manual
  deriving DecidableEq, Repr, Inhabited

/-- The name of a kind of trigger. -/
def TriggerKind.name : TriggerKind → String
  | .push => "push"
  | .tag => "tag"
  | .pullRequest => "pull_request"
  | .schedule => "schedule"
  | .manual => "manual"

/-- All kinds of triggers. -/
def TriggerKind.all : List TriggerKind := [.push, .tag, .pullRequest, .schedule, .manual]

/-- A trigger: a pattern for refs, or for a schedule a time rule. -/
structure Trigger where
  kind : TriggerKind
  pattern : String
  deriving DecidableEq, Repr, Inhabited

/-- A variable of the environment of a service. -/
structure EnvVar where
  name : String
  value : String
  deriving DecidableEq, Repr, Inhabited

/-- A service that runs beside an instance. -/
structure Service where
  name : String
  image : String
  hostPort : Option Nat := none
  containerPort : Option Nat := none
  env : List EnvVar := []
  deriving DecidableEq, Repr, Inhabited

/-- A named argument of a step. -/
structure StepArg where
  name : String
  value : String
  deriving DecidableEq, Repr, Inhabited

/-- A step: a command as it is, or a script for an interpreter. -/
inductive Step where
  | run (command : String) (args : List StepArg)
  | script (command shell : String) (args : List StepArg)
  deriving DecidableEq, Repr, Inhabited

namespace Step

/-- The name of the kind of a step. -/
def kindName : Step → String
  | .run .. => "run"
  | .script .. => "script"

/-- The template of the command of a step. -/
def command : Step → String
  | .run c _ => c
  | .script c _ _ => c

/-- The arguments of a step. -/
def args : Step → List StepArg
  | .run _ as => as
  | .script _ _ as => as

end Step

/-- A declared artifact. -/
structure Artifact where
  path : String
  deriving DecidableEq, Repr, Inhabited

/-- An axis of a matrix. -/
structure Axis where
  name : String
  values : List String := []
  deriving DecidableEq, Repr, Inhabited

/-- A template of instances. -/
structure Job where
  name : String
  image : Option String := none
  services : List Service := []
  steps : List Step := []
  artifacts : List Artifact := []
  matrix : List Axis := []
  deriving DecidableEq, Repr, Inhabited

/-- The names of the axes of a job. -/
def Job.axisNames (j : Job) : List String := j.matrix.map Axis.name

/-- Jobs that do not depend on each other. -/
structure Stage where
  name : String
  jobs : List Job := []
  deriving DecidableEq, Repr, Inhabited

/-- The first job of a name. -/
def Stage.job? (s : Stage) (name : String) : Option Job := s.jobs.find? (·.name == name)

/-- Stages that are carried out one after the other, and what sets them off. -/
structure Pipeline where
  name : String
  triggers : List Trigger := []
  stages : List Stage := []
  artifacts : List Artifact := []
  deriving DecidableEq, Repr, Inhabited

namespace Pipeline

/-- The names of the stages. -/
def stageNames (p : Pipeline) : List String := p.stages.map Stage.name

/-- The first stage of a name. -/
def stage? (p : Pipeline) (name : String) : Option Stage := p.stages.find? (·.name == name)

end Pipeline

/-- Pipelines that were loaded together. -/
structure Catalog where
  pipelines : List Pipeline := []
  deriving DecidableEq, Repr, Inhabited

namespace Catalog

/-- The names of the pipelines. -/
def names (c : Catalog) : List String := c.pipelines.map Pipeline.name

/-- The first pipeline of a name. -/
def pipeline? (c : Catalog) (name : String) : Option Pipeline :=
  c.pipelines.find? (·.name == name)

end Catalog

/-! ### Requests -/

/-- Something that happened outside: its kind, and the branch, tag or moment it is about. -/
structure Event where
  kind : String
  ref : String := ""
  deriving DecidableEq, Repr, Inhabited

/-- A run that somebody asks for outright. -/
structure ManualRequest where
  ref : Option String := none
  actor : Option String := none
  deriving DecidableEq, Repr, Inhabited

/-- What asks for a run. -/
inductive Request where
  | event (e : Event)
  | manual (r : ManualRequest)
  deriving DecidableEq, Repr, Inhabited

end Conveyor
