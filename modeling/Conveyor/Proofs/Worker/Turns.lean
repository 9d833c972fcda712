/-
**What a turn of a worker can lead to.**

A worker is given its slot, is handed answers, and may be called off.  For every function that makes
up a turn one lemma says all that it can lead to, so that nobody has to open the functions again.

Main definitions:

* `Conveyor.Act`, `Conveyor.Worker.act` — what may happen to a worker, and its turn.

Main results:

* `Conveyor.Worker.nextStep_cases`, `Conveyor.Worker.nextService_cases` — going on with the steps
  and with the services;
* `Conveyor.Worker.served_cases`, `Conveyor.Worker.ran_cases`, `Conveyor.Worker.stopped_cases` — the
  turns after an answer;
* `Conveyor.Worker.act_of_queued`, `Conveyor.Worker.act_of_ended` — what leaves a worker as it is.
-/

import Conveyor.Engine.Worker

set_option autoImplicit false

namespace Conveyor

/-- What may happen to a worker. -/
inductive Act where
  /-- It is given its slot. -/
  | begin
  | served (reply : StartReply)
  | ran (reply : RunReply)
  | stopped (reply : StopReply)
  /-- The run was cancelled. -/
  | interrupt
  /-- Its task is aborted. -/
  | abort

/-- The turn of a worker to which something happens.  `halted` says that the run was cancelled. -/
def Worker.act (w : Worker) (workingDir : String) (halted : Bool) : Act → Turn
  | .begin => w.begin workingDir halted
  | .served reply => w.served workingDir halted reply
  | .ran reply => w.ran workingDir halted reply
  | .stopped reply => w.stopped reply
  | .interrupt => w.interrupt
  | .abort => w.abort

/-! ### Points -/

theorem Point.eq_queued_of_isQueued {p : Point} (h : p.isQueued = true) : p = .queued := by
  cases p with
  | queued => rfl
  | starting => cases h
  | running => cases h
  | stopping => cases h
  | ended => cases h

theorem Point.exists_of_hasEnded {p : Point} (h : p.hasEnded = true) :
    ∃ aborted, p = .ended aborted := by
  cases p with
  | ended aborted => exact ⟨aborted, rfl⟩
  | queued => cases h
  | starting => cases h
  | running => cases h
  | stopping => cases h

/-- Whoever holds a slot neither waits for one nor has ended. -/
theorem Point.live_of_holdsSlot {p : Point} (h : p.holdsSlot = true) :
    p.isQueued = false ∧ p.hasEnded = false := by
  cases p with
  | starting => exact ⟨rfl, rfl⟩
  | running => exact ⟨rfl, rfl⟩
  | stopping => exact ⟨rfl, rfl⟩
  | queued => cases h
  | ended => cases h

theorem Point.queued_or_holdsSlot_or_ended (p : Point) :
    p = .queued ∨ p.holdsSlot = true ∨ ∃ aborted, p = .ended aborted := by
  cases p with
  | queued => exact .inl rfl
  | starting => exact .inr (.inl rfl)
  | running => exact .inr (.inl rfl)
  | stopping => exact .inr (.inl rfl)
  | ended aborted => exact .inr (.inr ⟨aborted, rfl⟩)

namespace Worker

/-! ### Going on -/

/-- The steps come to their end, or the next one runs. -/
theorem nextStep_cases (w : Worker) (wd : String) (halted : Bool) (up : List String) (n : Int)
    (steps : List Step) :
    (∃ o, o ≠ .aborted ∧ w.nextStep wd halted up n steps = w.unwind up o) ∨
    (∃ s rest r, steps = s :: rest ∧ halted = false ∧ s.resolve w.context n = .ok r ∧
      w.nextStep wd halted up n steps =
        { worker := { w.recordStep r with point := .running up r rest none }
          notes := [.called (.run r.command r.args wd)] }) := by
  cases steps with
  | nil => exact .inl ⟨.succeeded, by simp, rfl⟩
  | cons s rest =>
      cases halted with
      | true => exact .inl ⟨.cancelled w.cancelledText, by simp, rfl⟩
      | false =>
          cases hr : s.resolve w.context n with
          | error f => exact .inl ⟨.failed f, by simp, by simp [nextStep, hr]⟩
          | ok r => exact .inr ⟨s, rest, r, rfl, rfl, hr, by simp [nextStep, hr]⟩

/-- The steps follow, or the services come to their end, or the next one starts. -/
theorem nextService_cases (w : Worker) (wd : String) (halted : Bool) (up : List String)
    (services : List Service) :
    (services = [] ∧ w.nextService wd halted up services =
      (w.move .runningSteps).nextStep wd halted up 0 w.inst.job.steps) ∨
    (∃ o, o ≠ .succeeded ∧ o ≠ .aborted ∧ w.nextService wd halted up services = w.unwind up o) ∨
    (∃ s rest r, services = s :: rest ∧ halted = false ∧ s.resolve w.context = .ok r ∧
      w.nextService wd halted up services =
        { worker := { w with point := .starting up r rest none }
          notes := [.called (.start r)] }) := by
  cases services with
  | nil => exact .inl ⟨rfl, rfl⟩
  | cons s rest =>
      refine .inr ?_
      cases halted with
      | true => exact .inl ⟨.cancelled w.cancelledText, by simp, by simp, rfl⟩
      | false =>
          cases hr : s.resolve w.context with
          | error f => exact .inl ⟨.failed f, by simp, by simp, by simp [nextService, hr]⟩
          | ok r => exact .inr ⟨s, rest, r, rfl, rfl, hr, by simp [nextService, hr]⟩

/-! ### Answers -/

theorem startOutcome_ne (w : Worker) (service : String) (f : Fault) :
    w.startOutcome service f ≠ .succeeded ∧ w.startOutcome service f ≠ .aborted := by
  unfold startOutcome
  split <;> exact ⟨by simp, by simp⟩

/-- After the answer to starting a service the next one follows, or the one that started only
halfway is stopped, or all the others are.  After an abort the answer does not count. -/
theorem served_cases (w : Worker) (wd : String) (halted : Bool) (reply : StartReply) :
    ((∀ up r rest halt, w.point ≠ .starting up r rest halt) ∧
      w.served wd halted reply = { worker := w }) ∨
    ∃ up r rest halt, w.point = .starting up r rest halt ∧
      ((halt = some .abort ∧ w.served wd halted reply = w.unwind up .aborted) ∨
      (halt ≠ some .abort ∧ reply = .up ∧
        w.served wd halted reply = w.nextService wd halted (r.name :: up) rest) ∨
      (∃ f, halt ≠ some .abort ∧ reply = .half f ∧ w.served wd halted reply =
        { worker := { w with point := .stopping r.name true up (w.startOutcome r.name f) }
          notes := [.called (.stop r.name)] }) ∨
      (∃ o, halt ≠ some .abort ∧ (reply = .dropped ∨ ∃ f, reply = .down f) ∧ o ≠ .succeeded ∧
        o ≠ .aborted ∧ w.served wd halted reply = w.unwind up o)) := by
  cases hpt : w.point with
  | queued => exact .inl ⟨by simp, by simp [served, hpt]⟩
  | running => exact .inl ⟨by simp, by simp [served, hpt]⟩
  | stopping => exact .inl ⟨by simp, by simp [served, hpt]⟩
  | ended => exact .inl ⟨by simp, by simp [served, hpt]⟩
  | starting up r rest halt =>
      refine .inr ⟨up, r, rest, halt, rfl, ?_⟩
      by_cases habort : halt = some .abort
      · exact .inl ⟨habort, by simp [served, hpt, habort]⟩
      · refine .inr ?_
        cases reply with
        | up => exact .inl ⟨habort, rfl, by simp [served, hpt, habort]⟩
        | half f => exact .inr (.inl ⟨f, habort, rfl, by simp [served, hpt, habort]⟩)
        | down f =>
            obtain ⟨hsucceeded, haborted⟩ := startOutcome_ne w r.name f
            exact .inr (.inr ⟨_, habort, .inr ⟨f, rfl⟩, hsucceeded, haborted,
              by simp [served, hpt, habort]⟩)
        | dropped =>
            exact .inr (.inr ⟨.cancelled w.droppedText, habort, .inl rfl, by simp, by simp,
              by simp [served, hpt, habort]⟩)

/-- A worker with other step records. -/
def withRecords (w : Worker) (rs : List StepRecord) : Worker :=
  { w with inst := { w.inst with stepRecords := rs } }

theorem exists_modifyRecord_eq (w : Worker) (f : StepRecord → StepRecord) :
    ∃ rs, w.modifyRecord f = w.withRecords rs := ⟨_, rfl⟩

theorem exists_modifyRecord_modifyRecord_eq (w : Worker) (f g : StepRecord → StepRecord) :
    ∃ rs, (w.modifyRecord f).modifyRecord g = w.withRecords rs := ⟨_, rfl⟩

/-- Reading a result ends in an abort only if it was called off. -/
theorem ofFault_eq_aborted_iff {identity : String} {f : Fault} :
    Outcome.ofFault identity f = .aborted ↔ f.kind = .foreign "CancelledError" := by
  unfold Outcome.ofFault
  split <;> rename_i hk
  · simp [hk]
  · simp [hk]
  · simp [hk]
  · simp [hk]
  · simpa using hk

/-- After the answer to a command the services are stopped, or the next step follows.  An abort is
the outcome only if there was one. -/
theorem ran_cases (w : Worker) (wd : String) (halted : Bool) (reply : RunReply) :
    ((∀ up r rest halt, w.point ≠ .running up r rest halt) ∧
      w.ran wd halted reply = { worker := w }) ∨
    ∃ up r rest halt, w.point = .running up r rest halt ∧
      ((∃ rs o ms, w.ran wd halted reply = ((w.withRecords rs).unwind up o).after ms ∧
        (o = .aborted → halt = some .abort ∨
          ∃ f, reply = .unreadable f ∧ f.kind = .foreign "CancelledError")) ∨
      (∃ rs output, reply = .done 0 output ∧ w.ran wd halted reply =
        ((w.withRecords rs).nextStep wd halted up (r.index + 1) rest).after
          [.step r.kind .succeeded])) := by
  cases hpt : w.point with
  | queued => exact .inl ⟨by simp, by simp [ran, hpt]⟩
  | starting => exact .inl ⟨by simp, by simp [ran, hpt]⟩
  | stopping => exact .inl ⟨by simp, by simp [ran, hpt]⟩
  | ended => exact .inl ⟨by simp, by simp [ran, hpt]⟩
  | running up r rest halt =>
      refine .inr ⟨up, r, rest, halt, rfl, ?_⟩
      obtain ⟨rs, hrs⟩ := w.exists_modifyRecord_eq fun s => { s with timed := true }
      simp only [ran, hpt]
      split <;> rename_i hhalt
      · exact .inl ⟨rs, .aborted, [], by rw [hrs]; rfl, fun _ => .inl hhalt⟩
      · cases reply with
        | done status output =>
            obtain ⟨rs', hrs'⟩ := w.exists_modifyRecord_modifyRecord_eq
              (fun s => { s with timed := true })
              (fun s => { s with exitStatus := some status, output })
            simp only [hrs']
            split <;> rename_i hz
            · exact .inr ⟨rs', output, by rw [hz], rfl⟩
            · exact .inl ⟨rs', _, _, rfl, by simp⟩
        | unreadable f =>
            exact .inl ⟨rs, _, [], by rw [hrs]; rfl,
              fun ho => .inr ⟨f, rfl, ofFault_eq_aborted_iff.1 ho⟩⟩
        | raised f =>
            simp only [hrs]
            split
            · exact .inl ⟨rs, _, _, rfl, by simp⟩
            · exact .inl ⟨rs, _, _, rfl, by simp⟩
        | dropped => exact .inl ⟨rs, .cancelled w.droppedText, _, by rw [hrs]; rfl, by simp⟩

/-- A stop that is called off is followed by the other stops, or by none. -/
theorem dropStop_eq (w : Worker) (half : Bool) (rest : List String) :
    w.dropStop half rest = w.unwind (if half then rest else []) .aborted := by
  cases half <;> rfl

/-- After the answer to stopping a service the other ones are stopped, unless that is called
off. -/
theorem stopped_cases (w : Worker) (reply : StopReply) :
    ((∀ service half rest o, w.point ≠ .stopping service half rest o) ∧
      w.stopped reply = { worker := w }) ∨
    ∃ service half rest o, w.point = .stopping service half rest o ∧
      ((reply ≠ .dropped ∧ w.stopped reply = w.unwind rest o) ∨
      (reply = .dropped ∧ w.stopped reply = w.unwind (if half then rest else []) .aborted)) := by
  cases hpt : w.point with
  | queued => exact .inl ⟨by simp, by simp [stopped, hpt]⟩
  | starting => exact .inl ⟨by simp, by simp [stopped, hpt]⟩
  | running => exact .inl ⟨by simp, by simp [stopped, hpt]⟩
  | ended => exact .inl ⟨by simp, by simp [stopped, hpt]⟩
  | stopping service half rest o =>
      refine .inr ⟨service, half, rest, o, rfl, ?_⟩
      cases reply with
      | stopped => exact .inl ⟨by simp, by simp [stopped, hpt]⟩
      | raised f => exact .inl ⟨by simp, by simp [stopped, hpt]⟩
      | dropped => exact .inr ⟨rfl, by simp [stopped, hpt, dropStop_eq]⟩

/-! ### What leaves a worker as it is -/

/-- Nothing but the slot and an abort moves a worker that waits for a slot. -/
theorem act_of_queued {w : Worker} (wd : String) (halted : Bool) {a : Act} (hp : w.point = .queued)
    (hb : a ≠ .begin) (ha : a ≠ .abort) : w.act wd halted a = { worker := w } := by
  cases a with
  | begin => exact absurd rfl hb
  | served reply => simp [act, served, hp]
  | ran reply => simp [act, ran, hp]
  | stopped reply => simp [act, stopped, hp]
  | interrupt => simp [act, interrupt, hp]
  | abort => exact absurd rfl ha

/-- A worker that has ended does nothing any more. -/
theorem act_of_ended {w : Worker} (wd : String) (halted : Bool) {a : Act} {aborted : Bool}
    (hp : w.point = .ended aborted) (hb : a ≠ .begin) : w.act wd halted a = { worker := w } := by
  cases a with
  | begin => exact absurd rfl hb
  | served reply => simp [act, served, hp]
  | ran reply => simp [act, ran, hp]
  | stopped reply => simp [act, stopped, hp]
  | interrupt => simp [act, interrupt, hp]
  | abort => simp [act, abort, hp]

theorem abort_of_queued {w : Worker} (hp : w.point = .queued) :
    w.abort = { worker := { w with point := .ended true } } := by
  simp [abort, hp]

end Worker

end Conveyor
