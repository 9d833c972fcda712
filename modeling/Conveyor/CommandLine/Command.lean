/-
**The commands of the command line.**

Main definitions:

* `Conveyor.CommandLine.Command` — a command with its options;
* `Conveyor.CommandLine.Front` — what stands before the command;
* `Conveyor.CommandLine.Front.read`, `Conveyor.CommandLine.Command.read` — what words say.
-/

import Conveyor.CommandLine.Options
import Conveyor.Definition.Tree

set_option autoImplicit false

namespace Conveyor.CommandLine

/-- How pipelines are to be run. -/
structure RunOptions where
  pipeline : Option String := none
  /-- The kind of the event; without one, somebody asks for the run. -/
  event : Option TriggerKind := none
  ref : String := ""
  manual : Bool := false
  concurrency : Option Int := none
  failFast : Option Bool := none
  matrixCap : Option Int := none
  workingDir : Option String := none
  /-- Whether commands are only named. -/
  dryRun : Bool := false
  /-- Whether the reports are written as JSON. -/
  json : Bool := false
  deriving DecidableEq, Repr

/-- A command: each but the help is about a file of definitions. -/
inductive Command where
  | help
  | validate (path : String) (matrixCap : Option Int)
  | plan (path : String) (pipeline : Option String) (matrixCap : Option Int)
  | run (path : String) (options : RunOptions)
  deriving DecidableEq, Repr

/-- The option that asks for help. -/
def helpRule : OptionRule := { key := "help", names := ["--help"], fixed := some true }

/-- The option that limits the size of a matrix. -/
def capRule : OptionRule := { key := "--matrix-cap", names := ["--matrix-cap"] }

/-- The option that chooses a pipeline. -/
def pipelineRule : OptionRule := { key := "--pipeline", names := ["--pipeline", "-p"] }

/-- The options before the command. -/
def frontRules : List OptionRule :=
  [helpRule, { key := "--log-level", names := ["--log-level", "-l"] }]

/-- The options of `validate`. -/
def validateRules : List OptionRule := [helpRule, capRule]

/-- The options of `plan`. -/
def planRules : List OptionRule := [helpRule, pipelineRule, capRule]

/-- The options of `run`. -/
def runRules : List OptionRule := [
  helpRule, pipelineRule, capRule,
  { key := "--event", names := ["--event", "-e"] },
  { key := "--ref", names := ["--ref", "-r"] },
  { key := "--manual", names := ["--manual"], fixed := some true },
  { key := "--concurrency", names := ["--concurrency", "-c"] },
  { key := "--fail-fast", names := ["--fail-fast"], fixed := some true },
  { key := "--fail-fast", names := ["--no-fail-fast"], fixed := some false },
  { key := "--workdir", names := ["--workdir", "-w"] },
  { key := "--dry-run", names := ["--dry-run"], fixed := some true },
  { key := "--json", names := ["--json"], fixed := some true }]

/-- The names of the commands. -/
def commandNames : List String := ["validate", "plan", "run"]

/-- What stands before the command, its name, and the words after it. -/
structure Front where
  level : String := "WARNING"
  help : Bool := false
  name : String := ""
  rest : List String := []
  deriving DecidableEq, Repr

/-- Reads the words up to the name of the command. -/
def Front.read (ws : List String) : Except UsageError Front := do
  let r ← CommandLine.read frontRules false ws
  let level := (r.text? "--log-level").getD "WARNING"
  if (r.truth? "help").isSome then return { level, help := true }
  match r.words with
  | [] => throw .noCommand
  | name :: rest =>
    if commandNames.contains name then return { level, name, rest }
    else throw (.unknownCommand name)

/-- The kind of event that an option names. -/
def eventOf (r : Reading) : Except UsageError (Option TriggerKind) :=
  match r.text? "--event" with
  | none => .ok none
  | some s =>
    match TriggerKind.all.find? (·.name == s) with
    | some k => .ok (some k)
    | none => .error (.badValue "--event" s)

/-- Reads how pipelines are to be run. -/
def RunOptions.read (r : Reading) : Except UsageError RunOptions := do
  return {
    pipeline := r.text? "--pipeline"
    event := ← eventOf r
    ref := (r.text? "--ref").getD ""
    manual := (r.truth? "--manual").getD false
    concurrency := ← r.whole? "--concurrency"
    failFast := r.truth? "--fail-fast"
    matrixCap := ← r.whole? "--matrix-cap"
    workingDir := r.text? "--workdir"
    dryRun := (r.truth? "--dry-run").getD false
    json := (r.truth? "--json").getD false }

/-- Reads the words after the name of a command. -/
def Command.read (name : String) (ws : List String) : Except UsageError Command := do
  let rules := if name = "validate" then validateRules else if name = "plan" then planRules
    else runRules
  let r ← CommandLine.read rules true ws
  if (r.truth? "help").isSome then return .help
  let path ← r.onlyWord "DEFINITION_PATH"
  if path.toList.contains (Char.ofNat 0) then throw (.badValue "DEFINITION_PATH" path)
  if name = "validate" then return .validate path (← r.whole? "--matrix-cap")
  else if name = "plan" then
    return .plan path (r.text? "--pipeline") (← r.whole? "--matrix-cap")
  else return .run path (← RunOptions.read r)

/-- How the program is used. -/
def usage : String :=
  "\n".intercalate [
    "Usage: conveyor [--log-level LEVEL] COMMAND DEFINITION_PATH [OPTIONS]", "",
    "Commands:",
    "  validate  Validate pipeline definitions",
    "  plan      Show stages and job instances without executing",
    "  run       Run pipelines locally", ""]

end Conveyor.CommandLine
