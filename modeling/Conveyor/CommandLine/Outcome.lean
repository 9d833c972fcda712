/-
**What commands show, and how they end.**

What a command does is told apart from the screen that it is shown on.  A screen turns texts with tags,
tables of them and panels into lines, or refuses what it cannot show.

Main definitions:

* `Conveyor.CommandLine.Screen` — what commands are shown on;
* `Conveyor.CommandLine.Screen.usual` — the screen that is used;
* `Conveyor.CommandLine.Outcome` — what a command shows, and how it ends;
* `Conveyor.CommandLine.perform` — carries out a command;
* `Conveyor.CommandLine.execute` — carries out the command that words ask for.
-/

import Conveyor.CommandLine.Command
import Conveyor.Console.Table
import Conveyor.Loader
import Conveyor.Local.Performance
import Conveyor.Log.Config
import Conveyor.Report.Encode
import Conveyor.Structure

set_option autoImplicit false

namespace Conveyor.CommandLine

open Console

/-- How a command ends. -/
inductive Ending where
  | exit (code : Nat)
  /-- Nothing handles a fault. -/
  | fault (f : Fault)

/-- What a command shows, and how it ends. -/
structure Outcome where
  ending : Ending
  screen : String := ""
  /-- The reports that are written as JSON. -/
  reports : Option (List RunReport) := none
  /-- What is wrong with the command line. -/
  complaint : Option UsageError := none
  /-- The files that are left, if a command may have changed them. -/
  files : Option FileTree := none

namespace Outcome

/-- An end with a code. -/
def exit (code : Nat) : Outcome := { ending := .exit code }

/-- An end by a fault that nothing handles. -/
def raise (f : Fault) : Outcome := { ending := .fault f }

/-- An end because of the command line. -/
def misuse (e : UsageError) : Outcome := { ending := .exit 2, complaint := some e }

/-- The code that the program ends with. -/
def exitCode (o : Outcome) : Nat :=
  match o.ending with
  | .exit code => code
  | .fault _ => 1

end Outcome

/-! ### Screens -/

/-- The lines of what is shown, or the fault of what cannot be shown. -/
abbrev Drawing : Type := Except Fault (List (List Char))

/-- What commands are shown on.  All texts, also those of tables and panels, may have tags. -/
structure Screen where
  text : String → Drawing
  table : Table → Drawing
  panel : Panel → Drawing

/-- A screen with so many cells in a line. -/
def Screen.ofWidth (width : Nat) : Screen where
  text s := (wrap width .free true) <$> Markup.shown s
  table t := t.draw width
  panel p := p.draw width

/-- The screen that is used. -/
def Screen.usual : Screen := .ofWidth 400

/-! ### Showing -/

/-- Lines as a text. -/
def textOf (ls : List (List Char)) : String :=
  String.join (ls.map fun l => String.ofList l ++ "\n")

/-- Shows lines before what comes next, unless they cannot be drawn. -/
def draw (lines : Drawing) (next : Outcome) : Outcome :=
  match lines with
  | .error f => .raise f
  | .ok ls => { next with screen := textOf ls ++ next.screen }

variable (screen : Screen)

/-- Shows a text with tags before what comes next. -/
def say (s : String) (next : Outcome) : Outcome := draw (screen.text s) next

/-- Shows a text with tags whose end is not told, and ends with a code. -/
def sayOpen (s : String) (code : Nat) : Outcome :=
  match screen.text s with
  | .error f => .raise f
  | .ok ls => { ending := .exit code, screen := "\n".intercalate (ls.map String.ofList) }

/-- Tells the faults of a configuration; other faults are not handled. -/
def configFault (f : Fault) : Outcome :=
  match f.kind with
  | .config violations =>
    say screen ("[red]✗ " ++ Markup.escape f.text ++ "[/red]")
      (violations.foldr (fun v next => say screen ("  - " ++ Markup.escape v) next) (.exit 1))
  | _ => .raise f

/-- The end because of settings that are refused. -/
def refusedSettings : Outcome := sayOpen screen "[red]Invalid run configuration" 1

/-! ### Definitions -/

/-- The definitions of a file. -/
def load (home : Path) (files : FileTree) (path : String) :
    Except Fault (Catalog × Option RunConfig) := do
  let (c, l) := (Loader.mk home []).catalog files path
  let c ← c
  let config ← (l.config files path).1
  return (c, config)

/-- Tells why a file gives no definitions; other faults are not handled.  The problems of data and
the place where a document breaks are not told. -/
def loadFault (f : Fault) : Outcome :=
  let text := "[red]Failed to load definitions:[/red] " ++ Markup.escape f.message
  match f.kind with
  | .definition none => say screen text (.exit 1)
  | .definition (some _) | .malformed => sayOpen screen text 1
  | _ => .raise f

/-- Why a pipeline is not there. -/
def unknownPipeline (c : Catalog) (name : String) : Outcome :=
  say screen ("[red]Error:[/red] Pipeline '" ++ name ++ "' not found. Available: " ++
    ", ".intercalate c.names) (.exit 1)

/-- The pipelines that a name chooses; without a name, all. -/
def select? (c : Catalog) : Option String → Option Catalog
  | none => some c
  | some name => (c.pipeline? name).map fun p => ⟨[p]⟩

/-- The configuration of definitions with settings in place of its own. -/
def settings (base : Option RunConfig) (entries : List (String × Datum)) : Checked RunConfig :=
  RunConfig.merge base (entries.map fun e => (.text e.1, e.2))

/-! ### Validation -/

/-- How many instances stages have. -/
def instanceCount (stages : List StageReport) : Nat := total (stages.map (·.instances.length))

/-- The pipelines of a catalog with the numbers of their instances. -/
def sizes (cap : Nat) : List Pipeline → Except Fault (List (Pipeline × Nat))
  | [] => .ok []
  | p :: ps => do
    let stages ← p.expand cap
    let rest ← sizes cap ps
    return (p, instanceCount stages) :: rest

/-- The table of valid pipelines. -/
def overview (rows : List (Pipeline × Nat)) : Table :=
  { title := "Pipelines", heads := ["Pipeline", "Triggers", "Stages", "Instances"]
    rows := rows.map fun r =>
      let kinds := ", ".intercalate (r.1.triggers.map (·.kind.name))
      [r.1.name, if kinds = "" then "manual only" else kinds, toString r.1.stages.length,
        toString r.2] }

/-- What is said of so many valid pipelines. -/
def verdict (n : Nat) : String := "[green]✓ " ++ toString n ++ " pipeline(s) valid[/green]"

/-- Checks all pipelines of a catalog. -/
def validate (c : Catalog) (base : Option RunConfig) (cap : Option Int) : Outcome :=
  match settings base [("matrix_cap", .ofInt? cap)] with
  | .bad _ => refusedSettings screen
  | .good config =>
    match (do c.validate; sizes config.matrixCap c.pipelines) with
    | .error f => configFault screen f
    | .ok rows => draw (screen.table (overview rows)) (say screen (verdict rows.length) (.exit 0))

/-! ### Plans -/

/-- The table of the instances of a pipeline. -/
def planTable (p : Pipeline) (stages : List StageReport) : Table :=
  { title := "Pipeline '" ++ p.name ++ "'", heads := ["Order", "Stage", "Instance", "Bindings"]
    rows := stages.flatMap fun s => s.instances.map fun i =>
      let bindings := ", ".intercalate (i.bindings.map fun b => b.1 ++ "=" ++ b.2)
      [toString (i.index + 1), s.name, i.identity, if bindings = "" then "-" else bindings] }

/-- What is said of the size of a plan. -/
def planLine (p : Pipeline) (stages : List StageReport) : String :=
  p.name ++ ": " ++ toString stages.length ++ " stages, " ++ toString (instanceCount stages) ++
    " instances"

/-- Shows the instances of pipelines one after the other. -/
def showPlans (cap : Nat) : List Pipeline → Outcome
  | [] => .exit 0
  | p :: ps =>
    match p.expand cap with
    | .error f => configFault screen f
    | .ok stages =>
      draw (screen.table (planTable p stages)) (say screen (planLine p stages) (showPlans cap ps))

/-- Shows the instances of the pipelines of a catalog, or of one of them. -/
def plan (c : Catalog) (base : Option RunConfig) (pipeline : Option String) (cap : Option Int) :
    Outcome :=
  match select? c pipeline with
  | none => unknownPipeline screen c (pipeline.getD "")
  | some selected =>
    match settings base [("matrix_cap", .ofInt? cap)] with
    | .bad _ => refusedSettings screen
    | .good config =>
      match selected.validate with
      | .error f => configFault screen f
      | .ok () => showPlans screen config.matrixCap selected.pipelines

/-! ### Runs -/

/-- The colour of a status. -/
def statusStyle : InstanceStatus → String
  | .succeeded => "green"
  | .failed => "red"
  | .cancelled => "yellow"
  | _ => "white"

/-- A text in a style. -/
def styled (style text : String) : String := "[" ++ style ++ "]" ++ text ++ "[/" ++ style ++ "]"

/-- What is told of an instance beside its status: its error, or else its artifacts. -/
def details (i : JobInstance) : String :=
  let error := i.error.getD ""
  Markup.escape (if error = "" then ", ".intercalate i.producedArtifacts else error)

/-- The table of the instances of a run. -/
def runTable (r : RunReport) : Table :=
  { title := "Run " ++ r.runId, heads := ["Stage", "Instance", "Status", "Details"]
    rows := r.stages.flatMap fun s => s.instances.map fun i =>
      [s.name, i.identity, styled (statusStyle i.status) i.status.name, details i] }

/-- The panel of a run.  Runs take no time here. -/
def runPanel (r : RunReport) : Panel :=
  let artifacts := "\n".intercalate r.aggregatedArtifacts
  { title := "Pipeline '" ++ r.pipelineName ++ "'"
    text := "Status: " ++ styled (if r.isSuccess then "green" else "red") r.status.name ++
      "\nDuration: 0.00s\nArtifacts:\n" ++ if artifacts = "" then "none" else artifacts }

/-- Shows reports before what comes next. -/
def showReports (next : Outcome) (rs : List RunReport) : Outcome :=
  rs.foldr (fun r next =>
    draw (screen.table (runTable r)) (draw (screen.panel (runPanel r)) next)) next

/-- What options ask for: a run for an event, or a run that somebody asks for. -/
def RunOptions.request (o : RunOptions) : Request :=
  match o.event with
  | some k => .event ⟨k.name, o.ref⟩
  | none => .manual ⟨if o.ref = "" then none else some o.ref, some "cli"⟩

/-- The settings that options give. -/
def RunOptions.entries (o : RunOptions) : List (String × Datum) :=
  [("concurrency_limit", .ofInt? o.concurrency),
    ("fail_fast", (o.failFast.map Datum.bool).getD .null), ("matrix_cap", .ofInt? o.matrixCap),
    ("working_dir", .ofText? o.workingDir)]

/-- Shows the reports of runs in the way that options ask for. -/
def RunOptions.present (o : RunOptions) (rs : List RunReport) : Outcome :=
  let last : Outcome := .exit (if rs.all RunReport.isSuccess then 0 else 1)
  if o.json then { last with reports := some rs }
  else if rs.isEmpty then say screen "[yellow]No pipeline matched the event[/yellow]" last
  else showReports screen last rs

/-- Runs the pipelines of a catalog, or one of them. -/
def run (site : Local.Site) (idOf : Pipeline → String) (c : Catalog) (base : Option RunConfig)
    (o : RunOptions) : Outcome :=
  match select? c o.pipeline with
  | none => unknownPipeline screen c (o.pipeline.getD "")
  | some selected =>
    match settings base o.entries with
    | .bad _ => refusedSettings screen
    | .good config =>
      match Local.dispatch { site with dry := o.dryRun } idOf selected o.request config with
      | .error f => configFault screen f
      | .ok (rs, files) => { o.present screen rs with files := some files }

/-! ### Commands -/

/-- Loads the definitions of a file for a command. -/
def withDefinitions (home : Path) (files : FileTree) (path : String)
    (next : Catalog → Option RunConfig → Outcome) : Outcome :=
  match load home files path with
  | .error f => loadFault screen f
  | .ok (c, base) => next c base

/-- Carries out a command in a directory.  `idOf` gives runs fresh ids. -/
def perform (home : Path) (files : FileTree) (idOf : Pipeline → String) : Command → Outcome
  | .help => { ending := .exit 0, screen := usage }
  | .validate path cap =>
    withDefinitions screen home files path fun c base => validate screen c base cap
  | .plan path pipeline cap =>
    withDefinitions screen home files path fun c base => plan screen c base pipeline cap
  | .run path o =>
    if o.manual && o.event.isSome then
      say screen "[red]Error:[/red] --manual and --event are mutually exclusive" (.exit 2)
    else
      withDefinitions screen home files path fun c base =>
        run screen { files, home := FileTree.placeOf home } idOf c base o

/-- Carries out the command that words ask for.  The level of the log is looked at before the words
after the command. -/
def execute (home : Path) (files : FileTree) (idOf : Pipeline → String) (ws : List String) : Outcome :=
  match Front.read ws with
  | .error e => .misuse e
  | .ok front =>
    if front.help then perform .usual home files idOf .help
    else
      match Log.Level.parse front.level with
      | .error f => .raise f
      | .ok _ =>
        match Command.read front.name front.rest with
        | .error e => .misuse e
        | .ok c => perform .usual home files idOf c

end Conveyor.CommandLine
