/-
**A run in which nothing may be refused.**

An instance that is asked for a status that may not follow refuses it, and whoever asked is broken off.
The definitions of a run do not break off: a worker notes what its instance refuses, and a cancel of
those that were not started passes over it.  Here all that happens to a run is gone through once more,
under a discipline that says what becomes of a refusal.  As long as it lets pass what nobody refuses, a
run becomes what it would have become: in all that happens to it nothing is ever refused.

Main definitions:

* `Conveyor.Discipline` — what becomes of refusals in a turn of a worker and in a cancel of the pending
  instances of a stage;
* `Conveyor.Discipline.strict`, `Conveyor.Discipline.lenient` — to break off at the first refusal, and
  to pass over refusals;
* `Conveyor.Discipline.Passes` — a discipline that lets pass what nobody refuses;
* `Conveyor.Run.turnUnder`, `Conveyor.Run.cancelUnder`, `Conveyor.Run.abortUnder`,
  `Conveyor.Run.settleUnder`, `Conveyor.Run.launchUnder` — what is made of turns and cancels under a
  discipline;
* `Conveyor.Run.afterUnder` — a run after an event under a discipline.

Main results:

* `Conveyor.Discipline.passes_strict`, `Conveyor.Discipline.passes_lenient` — both disciplines let pass
  what nobody refuses;
* `Conveyor.Run.afterUnder_eq` — **no event of a run meets a refusal**.
-/

import Conveyor.Proofs.Failing
import Conveyor.Proofs.Report.Lifecycle
import Conveyor.Proofs.Run.Kept

set_option autoImplicit false

namespace Conveyor

/-! ### Computations that come to a value -/

section
variable {m : Type → Type} [Monad m] {α β σ : Type}

/-- A list with one of its members changed. -/
def modifyM (as : List α) (k : Nat) (f : α → m α) : m (List α) :=
  match as[k]? with
  | none => pure as
  | some a => as.set k <$> f a

variable [LawfulMonad m]

theorem mapM_eq_pure {f : α → m β} {g : α → β} {as : List α} (h : ∀ a ∈ as, f a = pure (g a)) :
    as.mapM f = pure (as.map g) := by
  induction as with
  | nil => simp
  | cons a as ih =>
      obtain ⟨ha, has⟩ := List.forall_mem_cons.1 h
      simp [List.mapM_cons, ha, ih has]

theorem modifyM_eq_pure {as : List α} {k : Nat} {f : α → m α} {g : α → α}
    (h : ∀ a, as[k]? = some a → f a = pure (g a)) : modifyM as k f = pure (as.modify k g) := by
  unfold modifyM
  cases ha : as[k]? with
  | none =>
      have hsame : as.modify k g = as := List.modify_eq_self (List.getElem?_eq_none_iff.1 ha)
      rw [hsame]
  | some a =>
      obtain ⟨hk, rfl⟩ := List.getElem?_eq_some_iff.1 ha
      dsimp only
      rw [h _ ha, map_pure, List.modify_eq_set_get g hk]
      rfl

/-- What is done with one thing after the other comes to a value as long as it keeps what it needs. -/
theorem foldlM_eq_pure {I : σ → Prop} {f : σ → α → m σ} {g : σ → α → σ}
    (hf : ∀ s a, I s → f s a = pure (g s a)) (hI : ∀ s a, I s → I (g s a)) {s : σ} (hs : I s)
    (as : List α) : as.foldlM f s = pure (as.foldl g s) := by
  induction as generalizing s with
  | nil => rfl
  | cons a as ih =>
      rw [List.foldlM_cons, hf s a hs, pure_bind]
      exact ih (hI s a hs)

end

/-! ### Disciplines -/

/-- What becomes of refusals: what a turn of a worker, and a cancel of the instances of a stage that were
not started, come to when an instance refuses something in them. -/
structure Discipline (m : Type → Type) where
  turn : Turn → m Turn
  sweep : StageReport → String → m StageReport

namespace Discipline

/-- Breaks off at the first refusal. -/
def strict : Discipline (Except Refusal) where
  turn made :=
    match made.worker.refused with
    | [] => .ok made
    | r :: _ => .error r
  sweep s reason := (s.sweep reason).2.map fun _ => (s.sweep reason).1

/-- Passes over refusals. -/
def lenient : Discipline Id where
  turn made := made
  sweep s reason := s.cancelPending reason

/-- A discipline that lets pass what nobody refuses: a turn that leaves a sound worker, and any cancel of
those that were not started. -/
structure Passes {m : Type → Type} [Monad m] (d : Discipline m) : Prop where
  turn {made : Turn} : made.worker.Sound → d.turn made = pure made
  sweep (s : StageReport) (reason : String) : d.sweep s reason = pure (s.cancelPending reason)

theorem passes_strict : strict.Passes where
  turn h := by
    simp only [strict, h.refused]
    rfl
  sweep s reason := by
    simp only [strict, StageReport.sweep_eq]
    rfl

theorem passes_lenient : lenient.Passes := ⟨fun _ => rfl, fun _ _ => rfl⟩

/-- An instance that was not started cannot succeed, and its worker is broken off. -/
example : (strict.turn ({ inst := JobInstance.idle : Worker }.conclude .succeeded)).toOption.isNone =
    true := rfl

end Discipline

variable {m : Type → Type} [Monad m] (d : Discipline m)

/-! ### Turns and cancels -/

namespace OpenStage

/-- An open stage with all instances cancelled that were not started. -/
def cancelPendingUnder (s : OpenStage) (reason : String) : m OpenStage :=
  (fun _ => s.cancelPending reason) <$> d.sweep s.report reason

/-- Notes how an instance came out, and does what follows from that. -/
def noteOutcomeUnder (s : OpenStage) (failFast : Bool) (w : Worker) : m OpenStage :=
  if w.point.hasEnded ∧ ¬w.point.wasAborted ∧ w.inst.status = .failed ∧ failFast ∧ ¬s.aborted then do
    let s ← s.cancelPendingUnder d ("Cancelled by fail-fast: '" ++ w.inst.identity ++ "' failed")
    return { s with aborted := true }
  else pure s

variable {d} [LawfulMonad m]

theorem cancelPendingUnder_eq (hd : d.Passes) (s : OpenStage) (reason : String) :
    s.cancelPendingUnder d reason = pure (s.cancelPending reason) := by
  rw [cancelPendingUnder, hd.sweep, map_pure]

theorem noteOutcomeUnder_eq (hd : d.Passes) (s : OpenStage) (failFast : Bool) (w : Worker) :
    s.noteOutcomeUnder d failFast w = pure (s.noteOutcome failFast w) := by
  unfold noteOutcomeUnder noteOutcome
  rw [cancelPendingUnder_eq hd, pure_bind]
  split <;> rfl

end OpenStage

namespace Execution

/-- An execution with all instances cancelled that were not started. -/
def cancelPendingUnder (e : Execution) (reason : String) : m Execution := do
  let past ← e.past.mapM (d.sweep · reason)
  let current ← match e.current with
    | none => pure none
    | some s => some <$> s.cancelPendingUnder d reason
  let future ← e.future.mapM (d.sweep · reason)
  return { e with past, current, future }

theorem cancelPendingUnder_eq [LawfulMonad m] {d : Discipline m} (hd : d.Passes) (e : Execution)
    (reason : String) : e.cancelPendingUnder d reason = pure (e.cancelPending reason) := by
  have hstages (ss : List StageReport) : ss.mapM (d.sweep · reason) =
      pure (ss.map (·.cancelPending reason)) := mapM_eq_pure fun s _ => hd.sweep s reason
  unfold cancelPendingUnder cancelPending
  rw [hstages, hstages]
  cases e.current with
  | none => simp only [pure_bind, Option.map_none]
  | some s => simp only [OpenStage.cancelPendingUnder_eq hd, map_pure, pure_bind, Option.map_some]

end Execution

namespace Run

/-! ### Turns in a run -/

/-- The run with one of its executions changed. -/
def modifyExecutionUnder (r : Run) (k : Nat) (f : Execution → m Execution) : m Run := do
  let executions ← modifyM r.executions k f
  return { r with executions }

/-- A turn of a worker and what follows from its outcome. -/
def turnUnder (r : Run) (t : Ticket) (f : Worker → Turn) : m Run :=
  match r.worker? t with
  | none => pure r
  | some (s, w) =>
    if w.point.hasEnded then pure r
    else do
      let made ← d.turn (f w)
      let stage ← (s.put made.worker).noteOutcomeUnder d r.config.failFast made.worker
      let r := r.modifyExecution t.execution fun e => { e with current := some stage }
      return { r with
        pool := if made.worker.point.hasEnded then r.pool.leave else r.pool
        log := r.log ++ made.notes.map (fun n => (t, n))
        tally := r.tally ++ made.tally }

/-! ### Calling off -/

/-- Cancels a run. -/
def cancelUnder (r : Run) (reason : String) : m Run :=
  if r.cancelRequested then pure r
  else do
    let r := { r with cancelRequested := true }
    let r ← r.modifyExecutionUnder (r.executions.length - 1) (·.cancelPendingUnder d reason)
    r.tickets.foldlM (fun r t => r.turnUnder d t Worker.interrupt) r

/-- Aborts a worker. -/
def abortWorkerUnder (r : Run) (t : Ticket) : m Run :=
  match r.worker? t with
  | some (s, w) =>
    if w.point.isQueued then do
      let made ← d.turn w.abort
      let r := r.modifyExecution t.execution fun e => { e with current := some (s.put made.worker) }
      return { r with pool := r.pool.withdraw t }
    else r.turnUnder d t Worker.abort
  | none => pure r

/-- Aborts an execution. -/
def abortUnder (r : Run) (k : Nat) : m Run :=
  match r.executions[k]? with
  | some e => if e.ending.isSome then pure r else (ticketsOf k e).foldlM (abortWorkerUnder d) r
  | none => pure r

/-! ### Going on -/

/-- What an execution does by itself. -/
def performUnder (r : Run) (k : Nat) (e : Execution) : Execution.Next → m Run
  | .concludeAborted => do
    let r ← r.cancelUnder d abortText
    return r.conclude k .aborted
  | .skip s reason rest => do
    let skipped ← d.sweep s reason
    return r.modifyExecution k fun e =>
      { e with past := e.past ++ [{ skipped with status := .cancelled }], future := rest }
  | n => pure (r.perform k e n)

/-- Gives a free slot to the front of the queue. -/
def admitUnder? (r : Run) : m (Option Run) :=
  match r.pool.admit? with
  | none => pure none
  | some p => some <$> { r with pool := p.2 }.turnUnder d p.1
      fun w => w.begin r.config.workingDir r.cancelRequested

/-- The next step that a run takes by itself. -/
def stepUnder? (r : Run) : m (Option Run) :=
  match nextOf r.cancelRequested 0 r.executions with
  | some (k, e, n) => some <$> r.performUnder d k e n
  | none => r.admitUnder? d

/-- At most so many steps that a run takes by itself. -/
def settleForUnder : Nat → Run → m Run
  | 0, r => pure r
  | n + 1, r => do
    match ← r.stepUnder? d with
    | some next => settleForUnder n next
    | none => return r

/-- A run goes on as far as it can. -/
def settleUnder (r : Run) : m Run := settleForUnder d r.weight r

/-! ### Starting and answering -/

/-- An execution that has done nothing yet. -/
def openingUnder (r : Run) (stages : List StageReport) : m Execution :=
  let e : Execution := { future := stages }
  if r.cancelRequested then e.cancelPendingUnder d "Run cancelled before start" else pure e

/-- The run with another execution that has done nothing yet, or what is wrong with its pipeline. -/
def launchUnder (r : Run) : m (Except Fault Run) :=
  match planOf r.pipeline r.config with
  | .error f => pure (.error f)
  | .ok stages => do
    let e ← r.openingUnder d stages
    return .ok { r with executions := r.executions ++ [e] }

/-- The run with another execution, or what is wrong with its pipeline. -/
def executeUnder (r : Run) : m (Except Fault Run) := do
  match ← r.launchUnder d with
  | .error f => return .error f
  | .ok r => .ok <$> r.settleUnder d

/-- The run after an event, if that may happen. -/
def afterUnder (r : Run) : Event → m (Option Run)
  | .execute => Except.toOption <$> r.launchUnder d
  | .answer t reply =>
    if r.awaits t reply then some <$> r.turnUnder d t
      fun w => (w.act r.config.workingDir r.cancelRequested reply.act)
    else pure none
  | .cancel reason => some <$> r.cancelUnder d reason
  | .abort k => some <$> r.abortUnder d k
  | .abortLate k =>
    match r.executions[k]? with
    | none => pure none
    | some e =>
      if e.ending.isNone && e.current.any (·.isOver) then
        some <$> r.performUnder d k e .concludeAborted
      else pure none
  | .advance k =>
    match r.executions[k]? with
    | none => pure none
    | some e =>
      match e.next r.cancelRequested with
      | none => pure none
      | some n => some <$> r.performUnder d k e n
  | .grant => r.admitUnder? d

/-! ### Nothing is refused -/

section
variable {d} [LawfulMonad m] {r : Run}

theorem modifyExecutionUnder_eq {f : Execution → m Execution} {g : Execution → Execution}
    (h : ∀ e, f e = pure (g e)) (r : Run) (k : Nat) :
    r.modifyExecutionUnder k f = pure (r.modifyExecution k g) := by
  rw [modifyExecutionUnder, modifyM_eq_pure fun e _ => h e, pure_bind]
  rfl

theorem turnUnder_eq (hd : d.Passes) {t : Ticket} {f : Worker → Turn}
    (h : ∀ s w, r.worker? t = some (s, w) → (f w).worker.Sound) :
    r.turnUnder d t f = pure (r.turn t f) := by
  unfold turnUnder turn
  cases hw : r.worker? t with
  | none => rfl
  | some p =>
      obtain ⟨s, w⟩ := p
      dsimp only
      rw [hd.turn (h s w hw)]
      split
      · rfl
      · simp only [pure_bind, OpenStage.noteOutcomeUnder_eq hd]

/-- No turn of a sound run meets a refusal.  Only a worker that waits for a slot is given one. -/
theorem turnUnder_act (hd : d.Passes) (h : r.Sound) {t : Ticket} {f : Worker → Turn} (wd : String)
    (halted : Bool) {a : Act} (hf : ∀ w, f w = w.act wd halted a)
    (hb : ∀ s w, r.worker? t = some (s, w) → a = .begin → w.point = .queued) :
    r.turnUnder d t f = pure (r.turn t f) :=
  turnUnder_eq hd fun s w hw => by
    rw [hf]
    exact Worker.sound_act (worker_sound h hw) (hb s w hw)

theorem cancelUnder_eq (hd : d.Passes) (h : r.Sound) (reason : String) :
    r.cancelUnder d reason = pure (r.cancel reason) := by
  cases hc : r.cancelRequested with
  | true => rw [cancelUnder, cancel, if_pos hc, if_pos hc]
  | false =>
      have hmarked := (carries_marked h reason).sound
      have hinterrupts : (r.marked reason).tickets.foldlM
          (fun q t => q.turnUnder d t Worker.interrupt) (r.marked reason) =
          pure ((r.marked reason).tickets.foldl (fun q t => q.turn t Worker.interrupt)
            (r.marked reason)) := by
        refine foldlM_eq_pure (I := Sound) (fun q t hq => ?_) (fun q t hq => ?_) hmarked _
        · exact turnUnder_act (a := .interrupt) hd hq "" false (fun _ => rfl)
            fun _ _ _ ha => by cases ha
        · exact (carries_interrupt hq t).sound
      rw [cancel_eq reason hc, ← hinterrupts, cancelUnder, hc, if_neg Bool.false_ne_true]
      dsimp only
      rw [modifyExecutionUnder_eq fun e => e.cancelPendingUnder_eq hd reason, pure_bind]
      rfl

theorem abortWorkerUnder_eq (hd : d.Passes) (h : r.Sound) (t : Ticket) :
    r.abortWorkerUnder d t = pure (r.abortWorker t) := by
  have hsound (s : OpenStage) (w : Worker) (hw : r.worker? t = some (s, w)) :
      w.abort.worker.Sound := by
    have hact : (w.act "" false .abort).worker.Sound := Worker.sound_act (worker_sound h hw) nofun
    exact hact
  unfold abortWorkerUnder abortWorker
  cases hw : r.worker? t with
  | none => rfl
  | some p =>
      obtain ⟨s, w⟩ := p
      dsimp only
      rw [hd.turn (hsound s w hw), turnUnder_eq hd hsound, pure_bind]
      split <;> rfl

theorem abortUnder_eq (hd : d.Passes) (h : r.Sound) (k : Nat) :
    r.abortUnder d k = pure (r.abort k) := by
  have hall (ts : List Ticket) : ts.foldlM (abortWorkerUnder d) r = pure (ts.foldl abortWorker r) :=
    foldlM_eq_pure (I := Sound) (fun _ t hq => abortWorkerUnder_eq hd hq t)
      (fun _ t hq => (carries_abortWorker hq t).sound) h ts
  unfold abortUnder abort
  cases r.executions[k]? with
  | none => rfl
  | some e =>
      dsimp only
      rw [hall]
      split <;> rfl

theorem performUnder_eq (hd : d.Passes) (h : r.Sound) (k : Nat) (e : Execution)
    (n : Execution.Next) : r.performUnder d k e n = pure (r.perform k e n) := by
  cases n with
  | concludeAborted =>
      rw [performUnder, cancelUnder_eq hd h, pure_bind]
      rfl
  | skip s reason rest =>
      rw [performUnder, hd.sweep, pure_bind]
      rfl
  | close s => rfl
  | openStage s rest => rfl
  | conclude => rfl

theorem admitUnder?_eq (hd : d.Passes) (h : r.Sound) : r.admitUnder? d = pure r.admit? := by
  unfold admitUnder?
  cases hp : r.pool.admit? with
  | none =>
      rw [admit?, hp]
      rfl
  | some p =>
      have hadmit : r.admit? = some ({ r with pool := p.2 }.turn p.1
          fun w => w.begin r.config.workingDir r.cancelRequested) := by rw [admit?, hp]; rfl
      -- whoever stands at the front of the queue waits for a slot
      obtain ⟨t, q, s, w, hq, hw, hpt, _, _⟩ := exists_of_admit? h hadmit
      obtain rfl : p = (t, q) := Option.some.inj (hp.symm.trans hq)
      have hturn := turnUnder_eq (r := { r with pool := q }) (t := t)
        (f := fun w => w.begin r.config.workingDir r.cancelRequested) hd fun s' w' hw' => by
          obtain ⟨rfl, rfl⟩ := Prod.mk.inj (Option.some.inj (hw.symm.trans hw'))
          exact (Worker.sound_begin _ _ (worker_sound h hw) hpt).1
      dsimp only
      rw [hturn, hadmit, map_pure]

theorem stepUnder?_eq (hd : d.Passes) (h : r.Sound) : r.stepUnder? d = pure r.step? := by
  unfold stepUnder? step?
  cases nextOf r.cancelRequested 0 r.executions with
  | none => exact admitUnder?_eq hd h
  | some x =>
      obtain ⟨k, e, n⟩ := x
      dsimp only
      rw [performUnder_eq hd h, map_pure]

theorem settleForUnder_eq (hd : d.Passes) (h : r.Sound) (n : Nat) :
    settleForUnder d n r = pure (settleFor n r) := by
  induction n generalizing r with
  | zero => rfl
  | succ n ih =>
      unfold settleForUnder settleFor
      rw [stepUnder?_eq hd h, pure_bind]
      cases hstep : r.step? with
      | none => rfl
      | some next =>
          obtain ⟨ev, _, hev⟩ := exists_after_of_step? hstep
          exact ih (carries_after h hev).sound

theorem settleUnder_eq (hd : d.Passes) (h : r.Sound) : r.settleUnder d = pure r.settle :=
  settleForUnder_eq hd h r.weight

theorem launchUnder_eq (hd : d.Passes) (r : Run) : r.launchUnder d = pure r.launch := by
  have hopening (stages : List StageReport) : r.openingUnder d stages = pure (r.opening stages) := by
    unfold openingUnder opening
    dsimp only
    rw [Execution.cancelPendingUnder_eq hd]
    split <;> rfl
  unfold launchUnder launch
  cases planOf r.pipeline r.config with
  | error f => rfl
  | ok stages =>
      dsimp only
      rw [hopening, pure_bind]
      rfl

theorem executeUnder_eq (hd : d.Passes) (h : r.Sound) : r.executeUnder d = pure r.execute := by
  unfold executeUnder execute
  rw [launchUnder_eq hd, pure_bind]
  cases hl : r.launch with
  | error f => rfl
  | ok q =>
      dsimp only
      rw [settleUnder_eq hd (carries_launch h hl).sound, map_pure]
      rfl

/-- **No event of a run meets a refusal.** -/
theorem afterUnder_eq (hd : d.Passes) (h : r.Sound) (ev : Event) :
    r.afterUnder d ev = pure (r.after ev) := by
  cases ev with
  | execute => rw [afterUnder, launchUnder_eq hd, map_pure, after]
  | answer t reply =>
      have hturn : r.turnUnder d t (fun w => w.act r.config.workingDir r.cancelRequested reply.act) =
          pure (r.turn t fun w => w.act r.config.workingDir r.cancelRequested reply.act) :=
        turnUnder_act hd h _ _ (fun _ => rfl) fun _ _ _ ha => absurd ha reply.act_ne_begin
      rw [afterUnder, hturn, after, answered_eq, map_pure]
      split <;> rfl
  | cancel reason => rw [afterUnder, cancelUnder_eq hd h, map_pure, after]
  | abort k => rw [afterUnder, abortUnder_eq hd h, map_pure, after]
  | abortLate k =>
      simp only [afterUnder, after, abortLate?]
      cases r.executions[k]? with
      | none => rfl
      | some e =>
          dsimp only
          rw [performUnder_eq hd h, map_pure]
          cases hs : e.current with
          | none => simp [hs]
          | some s =>
              simp only [Option.bind_eq_bind, Option.bind_some, Option.any_some, hs]
              split <;> rfl
  | advance k =>
      simp only [afterUnder, after, advance?]
      cases r.executions[k]? with
      | none => rfl
      | some e =>
          cases hn : e.next r.cancelRequested with
          | none => simp [hn]
          | some n =>
              simp only [hn]
              rw [performUnder_eq hd h, map_pure]
              simp [hn]
  | grant => exact admitUnder?_eq hd h

end

end Run

end Conveyor
