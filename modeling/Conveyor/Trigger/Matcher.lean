/-
**Which events set off which pipelines.**

A trigger waits for events of its kind.  A schedule is compared with the moment that the event is
about, every other trigger with its ref, from which the usual front of branches or tags is dropped.

Main definitions:

* `Conveyor.Trigger.patternError?` — what is wrong with the pattern of a trigger;
* `Conveyor.Trigger.fires` — whether a trigger waits for an event;
* `Conveyor.Pipeline.wants` — whether a request sets off a pipeline;
* `Conveyor.Catalog.select` — the pipelines that a request sets off.
-/

import Conveyor.Definition.Tree
import Conveyor.Fault
import Conveyor.Trigger.Cron
import Conveyor.Trigger.Glob

set_option autoImplicit false

namespace Conveyor

/-- What is wrong with a glob. -/
def Glob.error? (pattern : String) : Option String :=
  if Text.allBlank pattern then some "pattern cannot be empty"
  else if pattern.toList.any Text.isBlank then some "pattern cannot contain whitespace"
  else if pattern.toList.count '[' ≠ pattern.toList.count ']' then
    some "unbalanced '[' in pattern"
  else none

/-- The front of refs that is dropped for a kind of trigger. -/
def TriggerKind.refFront? : TriggerKind → Option String
  | .push | .pullRequest => some "refs/heads/"
  | .tag => some "refs/tags/"
  | .schedule | .manual => none

/-- A ref without the front that its kind has. -/
def TriggerKind.shortRef (k : TriggerKind) (ref : String) : String :=
  match k.refFront? with
  | none => ref
  | some front =>
    if front.toList.isPrefixOf ref.toList then String.ofList (ref.toList.drop front.length)
    else ref

namespace Trigger

/-- What is wrong with the pattern of a trigger. -/
def patternError? (t : Trigger) : Option String :=
  match t.kind with
  | .schedule =>
    match Cron.parse t.pattern with
    | .ok _ => none
    | .error e => some e.message
  | _ => Glob.error? t.pattern

/-- The moment that a ref writes; a letter for universal time may end it. -/
def momentOf? (ref : String) : Option Moment :=
  match ref.toList.reverse with
  | c :: rest =>
    if c = 'Z' ∨ c = 'z' then Moment.parse? (String.ofList rest.reverse ++ "+00:00")
    else Moment.parse? ref
  | [] => Moment.parse? ref

/-- Whether a schedule is due: the ref is the rule itself, or a moment that obeys it. -/
def isDue (pattern ref : String) : Except Fault Bool :=
  match Cron.parse pattern with
  | .error e => .error { kind := .config [e.message], text := "Invalid schedule trigger" }
  | .ok c =>
    let ref := Text.strip ref
    if ref = c.expression then .ok true
    else
      match momentOf? ref with
      | some t => .ok (c.admits t)
      | none => .ok false

/-- Whether a trigger waits for an event. -/
def fires (t : Trigger) (e : Event) : Except Fault Bool :=
  if t.kind.name ≠ e.kind then .ok false
  else
    match t.kind with
    | .schedule => isDue t.pattern e.ref
    | k => .ok (Glob.matchesText t.pattern (k.shortRef e.ref))

end Trigger

namespace Pipeline

/-- The triggers among some that wait for an event. -/
def firingOf (e : Event) : List Trigger → Except Fault (List Trigger)
  | [] => .ok []
  | t :: ts => do
    let fires ← t.fires e
    let more ← firingOf e ts
    return if fires then t :: more else more

/-- The triggers that wait for an event. -/
def firing (p : Pipeline) (e : Event) : Except Fault (List Trigger) := firingOf e p.triggers

/-- Whether a request sets off a pipeline; one that is made outright sets off every pipeline. -/
def wants (p : Pipeline) : Request → Except Fault Bool
  | .manual _ => .ok true
  | .event e => (p.firing e).map fun ts => !ts.isEmpty

end Pipeline

/-- The pipelines among some that a request sets off. -/
def Pipeline.selectFrom (r : Request) : List Pipeline → Except Fault (List Pipeline)
  | [] => .ok []
  | p :: ps => do
    let wanted ← p.wants r
    let more ← selectFrom r ps
    return if wanted then p :: more else more

/-- The pipelines that a request sets off, in order. -/
def Catalog.select (c : Catalog) (r : Request) : Except Fault (List Pipeline) :=
  Pipeline.selectFrom r c.pipelines

end Conveyor
