/-
**Rehearsals: an engine whose surroundings are played from a book.**

The book says how each call is answered: at once, or when somebody releases it.  Calls that are
answered at once are answered in the order in which they were made.  The stop of a service may also come
to nothing that can be told.

Main definitions:

* `Conveyor.Answer` — an answer, or an exception without a text;
* `Conveyor.Playbook` — how each call is answered;
* `Conveyor.Rehearsal` — an engine with the calls that wait;
* `Conveyor.Rehearsal.proceed` — answers calls until all that are left wait for a release;
* `Conveyor.Rehearsal.release` — releases the first waiting call of a kind and a key.
-/

import Conveyor.Engine.Engine

set_option autoImplicit false

namespace Conveyor

/-- How a call is answered: at once, or when it is released; a call that waits may have an answer of
its own for when it is called off. -/
inductive Manner (ρ : Type) where
  | answers (reply : ρ)
  | waits (onCancel : Option ρ)

/-- An answer to any call. -/
inductive Reply where
  | start (r : StartReply)
  | run (r : RunReply)
  | stop (r : StopReply)

/-- What comes back from a call: an answer, or an exception that has no text.  All that can be seen of
such an exception is the fault that telling it raises. -/
inductive Answer (ρ : Type) where
  | reply (r : ρ)
  | untold (f : Fault)

/-- An answer that is put in another way. -/
def Answer.map {ρ σ : Type} (g : ρ → σ) : Answer ρ → Answer σ
  | .reply r => .reply (g r)
  | .untold f => .untold f

/-- How each call is answered: commands by their text, services by their images, and stops by the
names of the services. -/
structure Playbook where
  commands : List (String × Manner RunReply) := []
  otherCommands : Manner RunReply := .answers (.done 0 "")
  services : List (String × Manner StartReply) := []
  stops : List (String × Manner (Answer StopReply)) := []

/-- A manner with its answers changed. -/
def Manner.map {ρ σ : Type} (f : ρ → σ) : Manner ρ → Manner σ
  | .answers r => .answers (f r)
  | .waits onCancel => .waits (onCancel.map f)

namespace Playbook

/-- The entry of a key. -/
def lookup {ρ : Type} (entries : List (String × ρ)) (key : String) : Option ρ :=
  (entries.find? (·.1 == key)).map (·.2)

/-- How a call is answered. -/
def manner (b : Playbook) : Call → Manner (Answer Reply)
  | .start s => ((lookup b.services s.image).getD (.answers .up)).map fun r => .reply (.start r)
  | .run command _ _ =>
    ((lookup b.commands command).getD b.otherCommands).map fun r => .reply (.run r)
  | .stop name => ((lookup b.stops name).getD (.answers (.reply .stopped))).map (·.map .stop)

end Playbook

/-- A call that was not answered yet. -/
structure Pending where
  /-- The number of the run. -/
  run : Nat
  ticket : Ticket
  call : Call
  deriving DecidableEq

/-- The answer to a call that was called off. -/
def Call.droppedReply : Call → Reply
  | .start _ => .start .dropped
  | .run .. => .run .dropped
  | .stop _ => .stop .dropped

/-- The kind of a call. -/
inductive CallKind where
  | start
  | run
  | stop
  deriving DecidableEq, Repr

/-- The name of a kind of call. -/
def CallKind.name : CallKind → String
  | .start => "start"
  | .run => "run"
  | .stop => "stop"

/-- The kind of a call and the text that tells it from others of its kind. -/
def Call.key : Call → CallKind × String
  | .start s => (.start, s.name)
  | .run command _ _ => (.run, command)
  | .stop name => (.stop, name)

/-- An engine with the calls that wait. -/
structure Rehearsal where
  engine : Engine := {}
  book : Playbook := {}
  /-- How many entries of the log of each run were looked at. -/
  seen : List Nat := []
  /-- The calls that are answered at once, the first one first. -/
  inbox : List Pending := []
  /-- The calls that wait to be released, the first one first. -/
  waiting : List Pending := []
  /-- The services that are up, each with who has started it. -/
  up : List (String × String) := []

/-- The call that a worker waits for. -/
def Worker.pendingCall? (w : Worker) (workingDir : String) : Option Call :=
  match w.point with
  | .starting _ r _ _ => some (.start r)
  | .running _ r _ _ => some (.run r.command r.args workingDir)
  | .stopping name _ _ _ => some (.stop name)
  | _ => none

/-- The owner of a call: a run, a stage and an instance. -/
def Ticket.owner (t : Ticket) (runId : String) : String :=
  runId ++ ":" ++ t.stage ++ ":" ++ t.identity

/-- The calls of a log, each with who made it. -/
def Run.callsOf (log : List (Ticket × Note)) : List (Ticket × Call) :=
  log.filterMap fun entry =>
    match entry.2 with
    | .called c => some (entry.1, c)
    | _ => none

/-- How many calls the executions of a run make at most. -/
def Run.callBound (r : Run) : Nat :=
  total (r.executions.map fun e => total (e.instances.map fun i =>
    2 * i.job.services.length + i.job.steps.length + 1))

namespace Rehearsal

/-- The owner of a call. -/
def ownerOf (s : Rehearsal) (p : Pending) : String :=
  p.ticket.owner ((s.engine.runs[p.run]?.map Run.id).getD "")

/-- Whether somebody still waits for a call. -/
def isLive (s : Rehearsal) (p : Pending) : Bool :=
  match s.engine.runs[p.run]? with
  | none => false
  | some r =>
    match r.worker? p.ticket with
    | none => false
    | some (_, w) => decide (w.pendingCall? r.config.workingDir = some p.call)

/-- Whether a call was called off by who made it. -/
def isInterrupted (s : Rehearsal) (p : Pending) : Bool :=
  match s.engine.runs[p.run]? with
  | none => false
  | some r => r.isInterrupted p.ticket

/-- Sorts a new call to those that are answered at once or to those that wait. -/
def post (s : Rehearsal) (p : Pending) : Rehearsal :=
  match s.book.manner p.call with
  | .answers _ => { s with inbox := s.inbox ++ [p] }
  | .waits _ => { s with waiting := s.waiting ++ [p] }

/-- The calls that were made since the last look. -/
def fresh (s : Rehearsal) : List Pending :=
  (s.engine.runs.mapIdx fun k r =>
    (Run.callsOf (r.log.drop (s.seen[k]?.getD 0))).map fun c => ⟨k, c.1, c.2⟩).flatten

/-- Looks at the calls that were made since the last look, and forgets those that nobody waits for
any more. -/
def look (s : Rehearsal) : Rehearsal :=
  let s := { s with inbox := s.inbox.filter s.isLive, waiting := s.waiting.filter s.isLive }
  let posted := s.fresh.foldl post s
  { posted with seen := s.engine.runs.map fun r => r.log.length }

/-- Keeps track of the services that are up. -/
def track (s : Rehearsal) (p : Pending) (answer : Answer Reply) : List (String × String) :=
  match p.call, answer with
  | .start service, .reply (.start .up) | .start service, .reply (.start (.half _)) =>
    s.up ++ [(s.ownerOf p, service.name)]
  | .stop service, .reply (.stop .stopped) => s.up.erase (s.ownerOf p, service)
  | _, _ => s.up

/-- Hands an answer to who waits for it. -/
def give (s : Rehearsal) (p : Pending) (answer : Answer Reply) : Rehearsal :=
  let change : Run → Run := match answer with
    | .reply (.start r) => (·.served p.ticket r)
    | .reply (.run r) => (·.ran p.ticket r)
    | .reply (.stop r) => (·.stopped p.ticket r)
    | .untold f => (·.escaped p.ticket f)
  { s with engine := s.engine.modifyRun p.run change, up := s.track p answer }

/-- The answer to a call that is called off. -/
def calledOff (s : Rehearsal) (p : Pending) : Answer Reply :=
  match s.book.manner p.call with
  | .waits (some answer) => answer
  | _ => .reply p.call.droppedReply

/-- Answers the calls that were called off, all at once, or else the first call that is answered at
once. -/
def answerSome? (s : Rehearsal) : Option Rehearsal :=
  let off := (s.inbox ++ s.waiting).filter s.isInterrupted
  if off.isEmpty then
    match s.inbox with
    | [] => none
    | p :: rest =>
      match s.book.manner p.call with
      | .answers answer => some ({ s with inbox := rest }.give p answer)
      | .waits _ => some { s with inbox := rest }
  else
    let left := { s with
      inbox := s.inbox.filter (· ∉ off)
      waiting := s.waiting.filter (· ∉ off) }
    some (off.foldl (fun t p => t.give p (s.calledOff p)) left)

/-- Lets the engine go on as far as it can, and looks at its new calls. -/
def settle (s : Rehearsal) : Rehearsal := look { s with engine := s.engine.settle }

/-- Answers calls, at most so many times. -/
def proceedFor : Nat → Rehearsal → Rehearsal
  | 0, s => s
  | n + 1, s =>
    match s.answerSome? with
    | some next => proceedFor n next.settle
    | none => s

/-- How many times calls may have to be answered. -/
def bound (s : Rehearsal) : Nat := total (s.engine.runs.map Run.callBound)

/-- Answers calls until all that are left wait for a release. -/
def proceed (s : Rehearsal) : Rehearsal := proceedFor s.bound s.settle

/-- The first waiting call of a kind and a key, perhaps of an owner. -/
def find? (s : Rehearsal) (kind : CallKind) (key : String) (owner : Option String) :
    Option Pending :=
  s.waiting.find? fun p =>
    decide (p.call.key = (kind, key)) && (owner.isNone || owner == some (s.ownerOf p))

/-- Releases the first waiting call of a kind and a key, perhaps of an owner, with an answer. -/
def release (s : Rehearsal) (kind : CallKind) (key : String) (owner : Option String)
    (answer : Answer Reply) : Rehearsal × Bool :=
  match s.find? kind key owner with
  | none => (s, false)
  | some p => (({ s with waiting := s.waiting.erase p }.give p answer), true)

end Rehearsal

end Conveyor
