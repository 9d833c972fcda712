/-
**Every event is a row of steps.**

A cancel and an abort reach many workers, one after the other.  Here all events are taken apart into
steps, each of which concerns one worker, or one execution, or adds one.  What every step keeps is
kept by every event, so that nobody has to go through the events again.

Main definitions:

* `Conveyor.Run.Step` — one step of a run;
* `Conveyor.Run.Event.Makes` — what an event may make workers do;
* `Conveyor.Run.Shift` — what becomes of the executions of a run.

Main results:

* `Conveyor.Run.steps_after_of_makes`, `Conveyor.Run.steps_after`, `Conveyor.Run.steps_afterAll` —
  **every event is a row of steps**, and only the one that gives a slot away lets an instance begin;
* `Conveyor.Run.Step.carries`, `Conveyor.Run.Step.shift` — what a step does;
* `Conveyor.Run.execution_induction` — what holds of executions that have done nothing yet and is
  kept by every change holds of all executions that there are;
* `Conveyor.Run.throughout_of_afterAll` — what lasts holds throughout all executions;
* `Conveyor.Run.Sound.nodup_identities` — the instances of a stage can be told apart;
* `Conveyor.Run.related_of_steps` — what every change does to the instances is done to them by a row
  of steps.
-/

import Mathlib.Logic.Relation
import Conveyor.Proofs.Execution.Related
import Conveyor.Proofs.Run.Kept

set_option autoImplicit false

namespace Conveyor

namespace Run

/-- One step of a run.  `may` says what workers may be made to do. -/
inductive Step (may : Act → Prop) (r : Run) : Run → Prop
  /-- A worker that holds a slot makes a turn. -/
  | turn {t : Ticket} {s : OpenStage} {w : Worker} (a : Act) (hmay : may a)
      (hw : r.worker? t = some (s, w)) (hp : w.point.holdsSlot = true) (ha : a ≠ .begin) :
      Step may r (r.turn t fun w => w.act r.config.workingDir r.cancelRequested a)
  /-- A worker that waits for a slot is aborted. -/
  | withdraw {t : Ticket} {s : OpenStage} {w : Worker} (hmay : may .abort)
      (hw : r.worker? t = some (s, w)) (hpt : w.point = .queued) : Step may r (r.abortWorker t)
  | mark (reason : String) (hmay : may .interrupt) (hc : r.cancelRequested = false) :
      Step may r (r.marked reason)
  /-- An execution goes on by itself, and was not aborted. -/
  | advance {k : Nat} {e : Execution} {n : Execution.Next} (he : r.executions[k]? = some e)
      (hn : e.next r.cancelRequested = some n) (ha : n ≠ .concludeAborted) :
      Step may r (r.perform k e n)
  /-- An execution that waits for its open stage ends by an abort. -/
  | giveUp {k : Nat} {e : Execution} {s : OpenStage} (he : r.executions[k]? = some e)
      (hs : e.current = some s) (hending : e.ending = none) (hc : r.cancelRequested = true) :
      Step may r (r.conclude k .aborted)
  | launch {r' : Run} (hr : r.launch = .ok r') : Step may r r'
  /-- A free slot is given to the front of the queue. -/
  | grant {r' : Run} (hmay : may .begin) (hr : r.admit? = some r') : Step may r r'

variable {may : Act → Prop}

/-! ### What a step does -/

/-- Every step carries a run on. -/
theorem Step.carries {r r' : Run} (h : r.Sound) (hs : Step may r r') : r.Carries r' := by
  cases hs with
  | turn a _ hw hp ha =>
      refine carries_turn h ⟨_, _, fun _ => rfl⟩ ha fun s w hw' hpt => ?_
      obtain ⟨rfl, rfl⟩ := Prod.mk.inj (Option.some.inj (hw.symm.trans hw'))
      simp [hpt, Point.holdsSlot] at hp
  | withdraw _ hw hpt => exact carries_abortWorker h _
  | mark reason _ _ => exact carries_marked h reason
  | advance he hn _ => exact carries_perform h he hn
  | giveUp he _ hending hc =>
      have hes := h.executions _ (List.mem_of_getElem? he)
      exact carries_conclude h he (Execution.carries_abort hes hending) fun _ => hc
  | launch hr => exact carries_launch h hr
  | grant _ hr => exact carries_admit? h hr

/-- Steps one after the other carry a run on. -/
theorem carries_steps {r r' : Run} (h : r.Sound) (hs : Relation.ReflTransGen (Step may) r r') :
    r.Carries r' := by
  induction hs with
  | refl => exact .refl h
  | tail _ hlast ih => exact ih.trans (hlast.carries ih.sound)

/-- What becomes of the executions of a run: they stay, one of them changes, or another one that
has done nothing yet is added. -/
inductive Shift (may : Act → Prop) (r r' : Run) : Prop
  | still (h : r'.executions = r.executions)
  | change {k : Nat} {e e' : Execution} (he : r.executions[k]? = some e)
      (hc : e.Change may r.config.workingDir r.cancelRequested r.config.failFast e')
      (h : r'.executions = r.executions.set k e')
  | added {stages : List StageReport} (hplan : planOf r.pipeline r.config = .ok stages)
      (h : r'.executions = r.executions ++ [r.opening stages])

/-- What a turn of a worker makes of the executions. -/
theorem executions_turn {r : Run} {t : Ticket} {e : Execution} {s : OpenStage} {w : Worker}
    (hw : r.worker? t = some (s, w)) (he : r.executions[t.execution]? = some e)
    (hlive : w.point.hasEnded = false) (f : Worker → Turn) :
    (r.turn t f).executions = r.executions.set t.execution
      { e with current := some ((s.put (f w).worker).noteOutcome r.config.failFast
          (f w).worker) } := by
  rw [turn_eq hw hlive rfl]
  exact modifyExecution_eq_set he _

theorem shift_turn {r : Run} (h : r.Sound) {t : Ticket} {s : OpenStage} {w : Worker} {a : Act}
    (hmay : may a) (hw : r.worker? t = some (s, w)) (hlive : w.point.hasEnded = false)
    (hb : a = .begin → w.point = .queued) :
    Shift may r (r.turn t fun w => w.act r.config.workingDir r.cancelRequested a) := by
  obtain ⟨e, he, _, hs, _, hmem, _⟩ := h.exists_of_worker? hw
  exact .change he (.turn a hmay hs hmem hb) (executions_turn hw he hlive _)

/-- What becomes of the executions when a worker that waits for a slot is aborted. -/
theorem executions_withdraw {r : Run} {t : Ticket} {e : Execution} {s : OpenStage} {w : Worker}
    (hw : r.worker? t = some (s, w)) (he : r.executions[t.execution]? = some e)
    (hpt : w.point = .queued) :
    (r.abortWorker t).executions = r.executions.set t.execution
      { e with current := some ((s.put w.abort.worker).noteOutcome r.config.failFast
          w.abort.worker) } := by
  have hmade := Worker.abort_of_queued hpt
  have hnote : (s.put w.abort.worker).noteOutcome r.config.failFast w.abort.worker =
      s.put w.abort.worker := by
    simp [OpenStage.noteOutcome, hmade, Point.wasAborted]
  rw [abortWorker_of_queued hw hpt, hnote]
  exact modifyExecution_eq_set he _

theorem shift_withdraw {r : Run} (h : r.Sound) (hmay : may .abort) {t : Ticket} {s : OpenStage}
    {w : Worker} (hw : r.worker? t = some (s, w)) (hpt : w.point = .queued) :
    Shift may r (r.abortWorker t) := by
  obtain ⟨e, he, _, hs, _, hmem, _⟩ := h.exists_of_worker? hw
  exact .change he (.turn .abort hmay hs hmem (by simp)) (executions_withdraw hw he hpt)

theorem shift_conclude {r : Run} {k : Nat} {e : Execution} {ending : Ending}
    (he : r.executions[k]? = some e)
    (hc : e.Change may r.config.workingDir r.cancelRequested r.config.failFast
      (e.finish ending)) : Shift may r (r.conclude k ending) := by
  refine .change he hc ?_
  simp only [conclude, he]
  exact modifyExecution_eq_set he _

theorem shift_perform {r : Run} {k : Nat} {e : Execution} {n : Execution.Next}
    (he : r.executions[k]? = some e) (hn : e.next r.cancelRequested = some n)
    (ha : n ≠ .concludeAborted) : Shift may r (r.perform k e n) := by
  obtain ⟨hending, hcases⟩ := Execution.next_cases hn
  rcases hcases with ⟨s, _, _, rfl⟩ | ⟨s, hs, haborted, hover, rfl⟩ | ⟨hcur, hfut, rfl⟩ |
    ⟨s, rest, reason, hcur, hfut, hwhy, rfl⟩ | ⟨s, rest, hcur, hfut, hrun, hby, rfl⟩
  · exact absurd rfl ha
  · exact .change he (.close hs hending hover haborted) (modifyExecution_eq_set he _)
  · exact shift_conclude he (.conclude hcur hfut hending)
  · exact .change he (.skip reason hcur hfut hending hwhy) (modifyExecution_eq_set he _)
  · exact .change he (.openStage hcur hfut hending hrun hby) (modifyExecution_eq_set he _)

/-- What a step makes of the executions. -/
theorem Step.shift {r r' : Run} (h : r.Sound) (hs : Step may r r') : Shift may r r' := by
  cases hs with
  | turn a hmay hw hp ha =>
      exact shift_turn h hmay hw (Point.live_of_holdsSlot hp).2 fun hb => absurd hb ha
  | withdraw hmay hw hpt => exact shift_withdraw h hmay hw hpt
  | mark reason hmay _ =>
      cases he : r.executions[r.executions.length - 1]? with
      | none =>
          have hnil : r.executions = [] := by
            rw [List.getElem?_eq_none_iff] at he
            exact List.length_eq_zero_iff.1 (by omega)
          exact .still (by simp [marked, modifyExecution, hnil])
      | some e => exact .change he (.cancelPending reason hmay) (modifyExecution_eq_set he _)
  | advance he hn ha => exact shift_perform he hn ha
  | giveUp he hs hending hc => exact shift_conclude he (.giveUp hs hending hc)
  | launch hr =>
      obtain ⟨stages, hplan, hr⟩ := exists_ok_of_bind hr
      obtain rfl := Except.ok.inj hr
      exact .added hplan rfl
  | grant hmay hr =>
      obtain ⟨t, p, s, w, _, hw, hpt, _, rfl⟩ := exists_of_admit? h hr
      obtain ⟨e, he, _, hs, _, hmem, _⟩ := h.exists_of_worker? hw
      exact .change he (.turn .begin hmay hs hmem fun _ => hpt)
        (executions_turn (r := { r with pool := p }) hw he (by rw [hpt]; rfl) _)

/-- An execution afterwards is one that was there before, perhaps changed, or it was added. -/
theorem Shift.of_get {r r' : Run} (h : Shift may r r') {k : Nat} {e' : Execution}
    (he' : r'.executions[k]? = some e') :
    r.executions[k]? = some e' ∨
    (∃ e, r.executions[k]? = some e ∧
      e.Change may r.config.workingDir r.cancelRequested r.config.failFast e') ∨
    (k = r.executions.length ∧ ∃ stages, planOf r.pipeline r.config = .ok stages ∧
      e' = r.opening stages) := by
  cases h with
  | still h => exact .inl (h ▸ he')
  | @change j e f he hc h =>
      rw [h] at he'
      by_cases hjk : j = k
      · subst hjk
        rw [List.getElem?_set_self (List.getElem?_eq_some_iff.1 he).1] at he'
        exact .inr (.inl ⟨e, he, Option.some.inj he' ▸ hc⟩)
      · rw [List.getElem?_set_ne hjk] at he'
        exact .inl he'
  | added hplan h =>
      rw [h] at he'
      by_cases hk : k < r.executions.length
      · rw [List.getElem?_append_left hk] at he'
        exact .inl he'
      · rw [List.getElem?_append_right (by omega), List.getElem?_singleton] at he'
        split at he'
        · rename_i hzero
          exact .inr (.inr ⟨by omega, _, hplan, (Option.some.inj he').symm⟩)
        · exact absurd he' (by simp)

/-- An execution that was there before is still there, perhaps changed. -/
theorem Shift.get {r r' : Run} (h : Shift may r r') {k : Nat} {e : Execution}
    (he : r.executions[k]? = some e) :
    r'.executions[k]? = some e ∨ ∃ e', r'.executions[k]? = some e' ∧
      e.Change may r.config.workingDir r.cancelRequested r.config.failFast e' := by
  cases h with
  | still h => exact .inl (h ▸ he)
  | @change j f f' hf hc h =>
      rw [h]
      by_cases hjk : j = k
      · subst hjk
        obtain rfl : f = e := Option.some.inj (hf.symm.trans he)
        exact .inr ⟨f', List.getElem?_set_self (List.getElem?_eq_some_iff.1 hf).1, hc⟩
      · rw [List.getElem?_set_ne hjk]
        exact .inl he
  | added hplan h =>
      rw [h, List.getElem?_append_left (List.getElem?_eq_some_iff.1 he).1]
      exact .inl he

/-! ### Events are rows of steps -/

/-- A turn other than the first one is a step, or changes nothing. -/
theorem steps_turn {r : Run} (h : r.Sound) {t : Ticket} {a : Act} (hmay : may a)
    (ha : a ≠ .begin)
    (habort : ∀ s w, r.worker? t = some (s, w) → w.point = .queued → a ≠ .abort) :
    Relation.ReflTransGen (Step may) r
      (r.turn t fun w => w.act r.config.workingDir r.cancelRequested a) := by
  cases hw : r.worker? t with
  | none =>
      rw [turn_of_none _ hw]
  | some p =>
      obtain ⟨s, w⟩ := p
      rcases w.point.queued_or_holdsSlot_or_ended with hpt | hp | ⟨aborted, hpt⟩
      · rw [turn_eq_self h hw (Worker.act_of_queued _ _ hpt ha (habort s w hw hpt))]
      · exact .single (.turn a hmay hw hp ha)
      · rw [turn_of_hasEnded _ hw (by rw [hpt]; rfl)]

theorem steps_abortWorker {r : Run} (h : r.Sound) (hmay : may .abort) (t : Ticket) :
    Relation.ReflTransGen (Step may) r (r.abortWorker t) := by
  cases hw : r.worker? t with
  | none =>
      rw [abortWorker_of_none hw]
  | some p =>
      obtain ⟨s, w⟩ := p
      cases hq : w.point.isQueued with
      | true => exact .single (.withdraw hmay hw (Point.eq_queued_of_isQueued hq))
      | false =>
          rw [abortWorker_of_left hw hq]
          refine steps_turn (a := .abort) h hmay (by simp) fun s' w' hw' hpt => ?_
          obtain ⟨rfl, rfl⟩ := Prod.mk.inj (Option.some.inj (hw.symm.trans hw'))
          simp [hpt, Point.isQueued] at hq

/-- What is done by steps with each of many tickets. -/
theorem steps_foldl {f : Run → Ticket → Run}
    (hf : ∀ (q : Run) t, q.Sound → Relation.ReflTransGen (Step may) q (f q t)) {r : Run}
    (h : r.Sound) (ts : List Ticket) : Relation.ReflTransGen (Step may) r (ts.foldl f r) := by
  induction ts generalizing r with
  | nil => exact .refl
  | cons t rest ih => exact (hf r t h).trans (ih (carries_steps h (hf r t h)).sound)

/-- The workers are interrupted one after the other. -/
theorem steps_interrupt {r : Run} (h : r.Sound) (hmay : may .interrupt) (ts : List Ticket) :
    Relation.ReflTransGen (Step may) r
      (ts.foldl (fun q t => q.turn t Worker.interrupt) r) :=
  steps_foldl (fun q t hq => steps_turn (a := .interrupt) hq hmay (by simp)
    fun _ _ _ _ => by simp) h ts

theorem steps_cancel {r : Run} (h : r.Sound) (hmay : may .interrupt) (reason : String) :
    Relation.ReflTransGen (Step may) r (r.cancel reason) := by
  cases hc : r.cancelRequested with
  | true =>
      rw [cancel, if_pos hc]
  | false =>
      rw [cancel_eq reason hc]
      exact .head (.mark reason hmay hc) (steps_interrupt (carries_marked h reason).sound hmay _)

theorem steps_abort {r : Run} (h : r.Sound) (hmay : may .abort) (k : Nat) :
    Relation.ReflTransGen (Step may) r (r.abort k) := by
  unfold abort
  split
  · split
    · exact .refl
    · exact steps_foldl (fun q t hq => steps_abortWorker hq hmay t) h _
  · exact .refl

/-- An execution that is aborted while a stage is open cancels the run, and ends. -/
theorem steps_concludeAborted {r : Run} (h : r.Sound) (hmay : may .interrupt) {k : Nat}
    {e : Execution} {s : OpenStage} (he : r.executions[k]? = some e) (hs : e.current = some s)
    (hending : e.ending = none) :
    Relation.ReflTransGen (Step may) r (r.perform k e .concludeAborted) := by
  obtain ⟨f, hf, _⟩ := (carries_cancel h abortText).executions k e he
  -- the cancel neither ends the execution nor closes its stage, so that the step after it may
  have hsame := congrArg (·[k]?) (endings_cancel r abortText)
  have hfending : f.ending = none := by simpa [he, hf, hending] using hsame
  obtain ⟨s', hs'⟩ : ∃ s', f.current = some s' := by
    have hopen := congrArg (·[k]?) (isOpen_cancel r abortText)
    exact Option.isSome_iff_exists.1 (by simpa [he, hf, hs] using hopen)
  exact (steps_cancel h hmay abortText).tail
    (.giveUp hf hs' hfending (cancelRequested_cancel r abortText))

/-- What an event may make workers do. -/
def Event.Makes (a : Act) : Event → Prop
  | .execute => False
  | .answer _ reply => a = reply.act
  | .cancel _ | .abortLate _ | .advance _ => a = .interrupt
  | .abort _ => a = .abort
  | .grant => a = .begin

/-- **Every event is a row of steps**, in which workers do nothing but what it makes them do. -/
theorem steps_after_of_makes {r r' : Run} {ev : Event} (h : r.Sound) (hr : r.after ev = some r')
    (hmay : ∀ a, ev.Makes a → may a) : Relation.ReflTransGen (Step may) r r' := by
  cases ev with
  | execute => exact .single (.launch (launch_of_after hr))
  | answer t reply =>
      rw [← (answered_of_after hr).2, answered_eq]
      refine steps_turn h (hmay _ rfl) reply.act_ne_begin fun _ _ _ _ => ?_
      cases reply <;> simp [Reply.act]
  | cancel reason => exact Option.some.inj hr ▸ steps_cancel h (hmay _ rfl) reason
  | abort k => exact Option.some.inj hr ▸ steps_abort h (hmay _ rfl) k
  | abortLate k =>
      obtain ⟨e, s, he, hs, hending, _, rfl⟩ := exists_of_abortLate? hr
      exact steps_concludeAborted h (hmay _ rfl) he hs hending
  | advance k =>
      obtain ⟨e, n, he, hn, rfl⟩ := exists_of_advance? hr
      by_cases ha : n = .concludeAborted
      · rw [ha] at hn ⊢
        obtain ⟨s, hs⟩ := Execution.exists_current_of_concludeAborted hn
        exact steps_concludeAborted h (hmay _ rfl) he hs (Execution.next_cases hn).1
      · exact .single (.advance he hn ha)
  | grant => exact .single (.grant (hmay _ rfl) hr)

/-- Only the event that gives a slot away lets an instance begin. -/
theorem Event.eq_grant_of_makes_begin {ev : Event} (h : ev.Makes .begin) : ev = .grant := by
  cases ev with
  | answer t reply => exact absurd h.symm reply.act_ne_begin
  | grant => rfl
  | execute => cases h
  | cancel => cases h
  | abort => cases h
  | abortLate => cases h
  | advance => cases h

/-- Only an abort aborts workers. -/
theorem Event.exists_of_makes_abort {ev : Event} (h : ev.Makes .abort) : ∃ k, ev = .abort k := by
  cases ev with
  | abort k => exact ⟨k, rfl⟩
  | answer t reply => cases reply <;> cases h
  | execute => cases h
  | cancel => cases h
  | abortLate => cases h
  | advance => cases h
  | grant => cases h

theorem steps_after {r r' : Run} {ev : Event} (h : r.Sound) (hr : r.after ev = some r')
    (hmay : ∀ a, a = .begin → ev = .grant → may a) (hothers : ∀ a, a ≠ .begin → may a) :
    Relation.ReflTransGen (Step may) r r' := by
  refine steps_after_of_makes h hr fun a ha => ?_
  by_cases hb : a = .begin
  · exact hmay a hb (Event.eq_grant_of_makes_begin (hb ▸ ha))
  · exact hothers a hb

/-! ### Inductions -/

theorem steps_afterAll {r r' : Run} {evs : List Event} (h : r.Sound)
    (hr : r.afterAll evs = some r') : Relation.ReflTransGen (Step fun _ => True) r r' := by
  have hboth : Relation.ReflTransGen (Step fun _ => True) r r' ∧ r'.Sound := by
    refine afterAll_induction
      (P := fun q => Relation.ReflTransGen (Step fun _ => True) r q ∧ q.Sound) hr ⟨.refl, h⟩ ?_
    rintro q q' ev ⟨hsteps, hq⟩ hev
    exact ⟨hsteps.trans (steps_after hq hev (fun _ _ _ => trivial) fun _ _ => trivial),
      (carries_after hq hev).sound⟩
  exact hboth.1

/-- What every step of a sound run keeps holds after all steps. -/
theorem steps_induction {P : Run → Prop} {r r' : Run} (h : r.Sound)
    (hs : Relation.ReflTransGen (Step may) r r') (hr : P r)
    (hstep : ∀ q q', q.Sound → P q → Step may q q' → P q') : P r' := by
  induction hs with
  | refl => exact hr
  | tail hbefore hlast ih => exact hstep _ _ (carries_steps h hbefore).sound ih hlast

/-- What holds of executions that have done nothing yet and is kept by every change is kept by a row
of steps. -/
theorem executions_of_steps {P : Execution → Prop} {r r' : Run} (h : r.Sound)
    (hs : Relation.ReflTransGen (Step may) r r') (hP : ∀ e ∈ r.executions, P e)
    (hopening : ∀ (q : Run) stages, WellPlanned stages → P (q.opening stages))
    (hchange : ∀ wd halted e e', e.Sound → P e →
      e.Change may wd halted r.config.failFast e' → P e') :
    ∀ e ∈ r'.executions, P e := by
  -- the configuration is carried along, since a change depends on it
  have hall : r'.config = r.config ∧ ∀ e ∈ r'.executions, P e := by
    refine steps_induction (P := fun q => q.config = r.config ∧ ∀ e ∈ q.executions, P e) h hs
      ⟨rfl, hP⟩ ?_
    rintro q q' hq ⟨hconfig, hbefore⟩ hstep
    refine ⟨(hstep.carries hq).config.trans hconfig, fun e' he' => ?_⟩
    obtain ⟨k, hk⟩ := List.mem_iff_getElem?.1 he'
    rcases (hstep.shift hq).of_get hk with he | ⟨e, he, hc⟩ | ⟨_, stages, hplan, rfl⟩
    · exact hbefore e' (List.mem_of_getElem? he)
    · have hmem := List.mem_of_getElem? he
      exact hchange _ _ e e' (hq.executions e hmem) (hbefore e hmem) (hconfig ▸ hc)
    · exact hopening q stages (wellPlanned_of_planOf hplan)
  exact hall.2

/-- **What holds of executions that have done nothing yet and is kept by every change holds of all
executions that there are.** -/
theorem execution_induction {P : Execution → Prop} {r : Run} {id : String} {p : Pipeline}
    {c : RunConfig} {evs : List Event} (hr : (create id p c).afterAll evs = some r)
    (hopening : ∀ (q : Run) stages, WellPlanned stages → P (q.opening stages))
    (hchange : ∀ wd halted e e', e.Sound → P e →
      e.Change (fun _ => True) wd halted c.failFast e' → P e') :
    ∀ e ∈ r.executions, P e := by
  have hsound := sound_create id p c
  exact executions_of_steps hsound (steps_afterAll hsound hr) (by simp [create]) hopening hchange

section
variable {Q : Worker → Prop} {P F : JobInstance → Prop}

theorem throughout_opening (hl : Execution.Lasting Q P F) (r : Run) {stages : List StageReport}
    (h : WellPlanned stages) : (r.opening stages).Throughout Q P F := by
  have hfresh := Execution.throughout_of_planned hl h
  unfold opening
  split
  · exact hfresh.cancelPending hl (sound_of_planned h) _
  · exact hfresh

/-- What lasts holds throughout all executions. -/
theorem throughout_of_afterAll (hl : Execution.Lasting Q P F) {r : Run} {id : String}
    {p : Pipeline} {c : RunConfig} {evs : List Event}
    (hr : (create id p c).afterAll evs = some r) : ∀ e ∈ r.executions, e.Throughout Q P F :=
  execution_induction hr (fun q _ hwell => throughout_opening hl q hwell)
    fun _ _ _ _ hsound h hc => hc.throughout hl hsound h

end

/-! ### The instances, one by one -/

/-- The instances of a stage can be told apart. -/
theorem Sound.nodup_identities {r : Run} (h : r.Sound) {e : Execution} (he : e ∈ r.executions)
    {s : StageReport} (hs : s ∈ e.stages) : (s.instances.map JobInstance.identity).Nodup := by
  have hwell := wellPlanned_of_planOf (h.planned e he)
  have hd := (hwell.stages s.planned (List.mem_map.2 ⟨s, hs, rfl⟩)).distinct
  rwa [StageReport.planned, List.map_map] at hd

/-- What every change does to the instances of an execution is done to them by a row of steps. -/
theorem related_of_steps {may : Act → Prop} {P : Run → Prop} {R : JobInstance → JobInstance → Prop}
    (hrefl : ∀ i, R i i) (htrans : ∀ i j k, R i j → R j k → R i k)
    (hstep : ∀ q q' : Run, q.Sound → P q → Step may q q' → P q')
    (hchange : ∀ (q : Run) e e', q.Sound → P q → e.Sound →
      e.Change may q.config.workingDir q.cancelRequested q.config.failFast e' →
        Execution.Related R e e') {r r' : Run} (h : r.Sound) (hr : P r)
    (hs : Relation.ReflTransGen (Step may) r r') {k : Nat} {e : Execution}
    (he : r.executions[k]? = some e) :
    ∃ e', r'.executions[k]? = some e' ∧ Execution.Related R e e' := by
  have hboth : P r' ∧ ∃ e', r'.executions[k]? = some e' ∧ Execution.Related R e e' := by
    refine steps_induction (P := fun q => P q ∧ ∃ e', q.executions[k]? = some e' ∧
      Execution.Related R e e') h hs ⟨hr, e, he, Execution.related_refl hrefl e⟩ ?_
    rintro q q' hq ⟨hP, f, hf, hrelated⟩ hlast
    refine ⟨hstep q q' hq hP hlast, ?_⟩
    rcases (hlast.shift hq).get hf with hsame | ⟨g, hg, hc⟩
    · exact ⟨f, hsame, hrelated⟩
    · exact ⟨g, hg, hrelated.trans htrans
        (hchange q f g hq hP (hq.executions f (List.mem_of_getElem? hf)) hc)⟩
  exact hboth.2

end Run

end Conveyor
