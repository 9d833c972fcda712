/-
**Writing the definition tree as data.**

Every field is written, those with their default values too; checking what is written gives the
tree again.

Main definitions:

* `Conveyor.Pipeline.datum`, `Conveyor.Catalog.datum`, and one function for each part of the tree.
-/

import Conveyor.Datum.Basic
import Conveyor.Definition.Tree

set_option autoImplicit false

namespace Conveyor

/-- A number that may be missing, as a datum. -/
def Datum.ofNat? (n : Option Nat) : Datum := Datum.ofInt? (n.map Int.ofNat)

/-- A trigger as a datum. -/
def Trigger.datum (t : Trigger) : Datum :=
  .object [("kind", .text t.kind.name), ("pattern", .text t.pattern)]

/-- A variable of an environment as a datum. -/
def EnvVar.datum (e : EnvVar) : Datum :=
  .object [("name", .text e.name), ("value", .text e.value)]

/-- A service as a datum. -/
def Service.datum (s : Service) : Datum :=
  .object [("name", .text s.name), ("image", .text s.image),
    ("host_port", .ofNat? s.hostPort), ("container_port", .ofNat? s.containerPort),
    ("env", .list (s.env.map EnvVar.datum))]

/-- An argument of a step as a datum. -/
def StepArg.datum (a : StepArg) : Datum :=
  .object [("name", .text a.name), ("value", .text a.value)]

/-- A step as a datum. -/
def Step.datum : Step → Datum
  | .run command args =>
    .object [("kind", .text "run"), ("command", .text command),
      ("args", .list (args.map StepArg.datum))]
  | .script command shell args =>
    .object [("kind", .text "script"), ("command", .text command), ("shell", .text shell),
      ("args", .list (args.map StepArg.datum))]

/-- An artifact as a datum. -/
def Artifact.datum (a : Artifact) : Datum := .object [("path", .text a.path)]

/-- An axis as a datum. -/
def Axis.datum (a : Axis) : Datum :=
  .object [("name", .text a.name), ("values", .texts a.values)]

/-- A job as a datum. -/
def Job.datum (j : Job) : Datum :=
  .object [("name", .text j.name), ("image", .ofText? j.image),
    ("services", .list (j.services.map Service.datum)),
    ("steps", .list (j.steps.map Step.datum)),
    ("artifacts", .list (j.artifacts.map Artifact.datum)),
    ("matrix", .list (j.matrix.map Axis.datum))]

/-- A stage as a datum. -/
def Stage.datum (s : Stage) : Datum :=
  .object [("name", .text s.name), ("jobs", .list (s.jobs.map Job.datum))]

/-- A pipeline as a datum. -/
def Pipeline.datum (p : Pipeline) : Datum :=
  .object [("name", .text p.name), ("triggers", .list (p.triggers.map Trigger.datum)),
    ("stages", .list (p.stages.map Stage.datum)),
    ("artifacts", .list (p.artifacts.map Artifact.datum))]

/-- A catalog as a datum. -/
def Catalog.datum (c : Catalog) : Datum :=
  .object [("pipelines", .list (c.pipelines.map Pipeline.datum))]

/-- An event as a datum. -/
def Event.datum (e : Event) : Datum :=
  .object [("kind", .text e.kind), ("ref", .text e.ref)]

/-- A run that somebody asks for, as a datum. -/
def ManualRequest.datum (r : ManualRequest) : Datum :=
  .object [("ref", .ofText? r.ref), ("actor", .ofText? r.actor)]

end Conveyor
