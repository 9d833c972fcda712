/-
**Performances: an engine whose calls are carried out by local surroundings.**

Services are up as soon as they are asked for, and commands are carried out one after the other in
the order in which they were called.  In a dry performance a command is only named.

Main definitions:

* `Conveyor.Local.Site` — the files, and where and how commands are carried out;
* `Conveyor.Local.Performance` — an engine, its calls that wait, and the files;
* `Conveyor.Local.Performance.proceed` — answers calls until none is left;
* `Conveyor.Local.dispatch` — carries out all pipelines of a catalog that a request sets off.
-/

import Conveyor.Engine.Rehearsal
import Conveyor.Local.Arguments
import Conveyor.Local.Services
import Conveyor.Shell.Run

set_option autoImplicit false

namespace Conveyor.Local

/-- The files, and where and how commands are carried out. -/
structure Site where
  files : FileTree
  /-- The place that relative paths are seen from. -/
  home : List String
  /-- Whether commands are only named. -/
  dry : Bool := false

/-- The files after a command, and what it is answered with. -/
def Site.run (s : Site) (command : String) (args : List (String × String)) (workingDir : String) :
    RunReply × FileTree :=
  if s.dry then (.done 0 (dryOutput command), s.files)
  else
    match Shell.carryOut
      { files := s.files, home := s.home
        env := Shell.usualEnv ++ environment args } command workingDir with
    | .ok r => (.done r.status r.output, r.files)
    | .error f => (.raised f, s.files)

/-- An engine with its calls that wait, and the surroundings that answer them. -/
structure Performance where
  calls : Rehearsal
  site : Site

namespace Performance

/-- The answer of the surroundings to a call, and the files after it. -/
def reply (s : Performance) : Call → Reply × FileTree
  | .start _ => (.start .up, s.site.files)
  | .stop _ => (.stop .stopped, s.site.files)
  | .run command args dir =>
    let (r, files) := s.site.run command args dir
    (.run r, files)

/-- Answers the calls that were called off, or else the first call. -/
def answerSome? (s : Performance) : Option Performance :=
  if s.calls.inbox.any s.calls.isInterrupted then
    s.calls.answerSome?.map fun calls => { s with calls }
  else
    match s.calls.inbox with
    | [] => none
    | p :: rest =>
      let (r, files) := s.reply p.call
      some { calls := { s.calls with inbox := rest }.give p (.reply r), site := { s.site with files } }

/-- Lets the engine go on as far as it can. -/
def settle (s : Performance) : Performance := { s with calls := s.calls.settle }

/-- Answers calls, at most so many times. -/
def proceedFor : Nat → Performance → Performance
  | 0, s => s
  | n + 1, s =>
    match s.answerSome? with
    | some next => proceedFor n next.settle
    | none => s

/-- Answers calls until none is left. -/
def proceed (s : Performance) : Performance :=
  let s := s.settle
  proceedFor s.calls.bound s

end Performance

/-- The reports of the runs of an engine. -/
def reports (e : Engine) : List RunReport := e.runs.filterMap Run.report?

/-- Carries out all pipelines of a catalog that a request sets off: their reports, and the files
that are left. -/
def dispatch (site : Site) (idOf : Pipeline → String) (c : Catalog) (request : Request)
    (config : RunConfig) : Except Fault (List RunReport × FileTree) :=
  let (e, goal) := ({} : Engine).dispatch idOf c request (some config)
  match goal with
  | .over (.fault f) => .error f
  | _ =>
    let done := Performance.proceed { calls := { engine := e }, site }
    .ok (reports done.calls.engine, done.site.files)

end Conveyor.Local
