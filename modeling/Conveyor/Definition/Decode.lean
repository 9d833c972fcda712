/-
**Reading the definition tree from data.**

Main definitions:

* `Conveyor.Pipeline.check`, `Conveyor.Catalog.check`, and one check for each part of the tree;
* `Conveyor.Event.check`, `Conveyor.ManualRequest.check` — the checks of requests.
-/

import Conveyor.Definition.Check
import Conveyor.Definition.Tree

set_option autoImplicit false

namespace Conveyor

open Check

/-- A trigger of a kind; only a schedule has to say when. -/
def Trigger.checkAs (what : String) (kind : TriggerKind) : Check Trigger :=
  record what ["kind", "pattern"] fun d =>
    (fun _ pattern => ⟨kind, pattern⟩)
      <$> optional "kind" () (word kind.name) d
      <*> (if kind = .schedule then required "pattern" text d else optional "pattern" "*" text d)

/-- The name of a form of trigger. -/
def TriggerKind.formName : TriggerKind → String
  | .push => "PushTrigger"
  | .tag => "TagTrigger"
  | .pullRequest => "PullRequestTrigger"
  | .schedule => "ScheduleTrigger"
  | .manual => "ManualTrigger"

/-- A trigger; its kind says which form it has. -/
def Trigger.check : Check Trigger :=
  tagged (TriggerKind.all.map fun k => (k.name, Trigger.checkAs k.formName k))

/-- A variable of an environment. -/
def EnvVar.check : Check EnvVar :=
  record "EnvVar" ["name", "value"] fun d =>
    EnvVar.mk <$> required "name" nonEmpty d <*> optional "value" "" text d

/-- A port: from 1 to 65535, or none. -/
def Service.checkPort : Check (Option Nat) := nullable (wholeIn 1 (some 65535))

/-- A service. -/
def Service.check : Check Service :=
  record "Service" ["name", "image", "host_port", "container_port", "env"] fun d =>
    Service.mk <$> required "name" nonEmpty d <*> required "image" nonEmpty d
      <*> optional "host_port" none Service.checkPort d
      <*> optional "container_port" none Service.checkPort d
      <*> optional "env" [] (sequence EnvVar.check) d

/-- An argument of a step. -/
def StepArg.check : Check StepArg :=
  record "StepArg" ["name", "value"] fun d =>
    StepArg.mk <$> required "name" nonEmpty d <*> optional "value" "" text d

/-- A step that is a command. -/
def Step.checkRun : Check Step :=
  record "RunStep" ["kind", "command", "args"] fun d =>
    (fun _ command args => Step.run command args)
      <$> optional "kind" () (word "run") d
      <*> required "command" nonEmpty d
      <*> optional "args" [] (sequence StepArg.check) d

/-- A step that is a script. -/
def Step.checkScript : Check Step :=
  record "ScriptStep" ["kind", "command", "shell", "args"] fun d =>
    (fun _ command shell args => Step.script command shell args)
      <$> optional "kind" () (word "script") d
      <*> required "command" nonEmpty d
      <*> optional "shell" "sh" nonEmpty d
      <*> optional "args" [] (sequence StepArg.check) d

/-- A step; its kind says which form it has. -/
def Step.check : Check Step := tagged [("run", Step.checkRun), ("script", Step.checkScript)]

/-- An artifact. -/
def Artifact.check : Check Artifact :=
  record "Artifact" ["path"] fun d => Artifact.mk <$> required "path" nonEmpty d

/-- An axis of a matrix. -/
def Axis.check : Check Axis :=
  record "MatrixAxis" ["name", "values"] fun d =>
    Axis.mk <$> required "name" nonEmpty d <*> optional "values" [] (sequence text) d

/-- A job. -/
def Job.check : Check Job :=
  record "Job" ["name", "image", "services", "steps", "artifacts", "matrix"] fun d =>
    Job.mk <$> required "name" nonEmpty d
      <*> optional "image" none (nullable text) d
      <*> optional "services" [] (sequence Service.check) d
      <*> optional "steps" [] (sequence Step.check) d
      <*> optional "artifacts" [] (sequence Artifact.check) d
      <*> optional "matrix" [] (sequence Axis.check) d

/-- A stage. -/
def Stage.check : Check Stage :=
  record "Stage" ["name", "jobs"] fun d =>
    Stage.mk <$> required "name" nonEmpty d <*> optional "jobs" [] (sequence Job.check) d

/-- A pipeline. -/
def Pipeline.check : Check Pipeline :=
  record "Pipeline" ["name", "triggers", "stages", "artifacts"] fun d =>
    Pipeline.mk <$> required "name" nonEmpty d
      <*> optional "triggers" [] (sequence Trigger.check) d
      <*> optional "stages" [] (sequence Stage.check) d
      <*> optional "artifacts" [] (sequence Artifact.check) d

/-- Pipelines that are loaded together. -/
def Catalog.check : Check Catalog :=
  record "PipelineCatalog" ["pipelines"] fun d =>
    Catalog.mk <$> optional "pipelines" [] (sequence Pipeline.check) d

/-- An event. -/
def Event.check : Check Event :=
  record "TriggerEvent" ["kind", "ref"] fun d =>
    Event.mk <$> required "kind" nonEmpty d <*> optional "ref" "" text d

/-- A run that somebody asks for. -/
def ManualRequest.check : Check ManualRequest :=
  record "ManualRunRequest" ["ref", "actor"] fun d =>
    ManualRequest.mk <$> optional "ref" none (nullable text) d
      <*> optional "actor" none (nullable text) d

end Conveyor
