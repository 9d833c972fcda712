/-
**What a cancel does.**

A cancel may come before a run is executed, or at any point of it.  What was pending is cancelled
and never started, no service is started and no command is run any more, and a call that is called
off leads its instance to the end; what had ended stays as it is.  So an execution only comes to its
end: what is behind it stays, the stage that is open is closed, and the others are skipped.

Main definitions:

* `Conveyor.JobInstance.CalledOff`, `Conveyor.Execution.CalledOff` — what may still become of an
  instance and of an execution after a cancel;
* `Conveyor.Run.Subsides` — what may still become of a run after a cancel;
* `Conveyor.Run.ComesOutCancelled` — an instance was cancelled, or comes out so when its services
  are stopped;
* `Conveyor.Run.IsCancelledAt` — what a cancel does to a run that is executed once.

Main results:

* `Conveyor.Execution.Change.calledOff` — **every change after a cancel is of this kind**;
* `Conveyor.Execution.calledOff_cancelPending` — and so is the cancel itself;
* `Conveyor.Run.subsides_of_afterAll` — **whatever happens after a cancel, the run subsides**;
* `Conveyor.Run.ComesOutCancelled.afterAll` — whatever comes out cancelled does so for good;
* `Conveyor.Run.isCancelledAt_of_afterAll` — **what a cancel does**.
-/

import Conveyor.Engine.Engine
import Conveyor.Proofs.Execution.Related
import Conveyor.Proofs.Run.AtWork
import Conveyor.Proofs.Run.Closed
import Conveyor.Proofs.Worker.Quiet

set_option autoImplicit false

namespace Conveyor

/-! ### An execution whose run was cancelled -/

namespace JobInstance

/-- What may still become of an instance after a cancel: it is not started, and it runs no step. -/
structure CalledOff (i j : JobInstance) : Prop where
  becomes : i.Becomes j
  started : j.started = i.started
  headings : j.headings = i.headings

theorem CalledOff.refl (i : JobInstance) : i.CalledOff i := ⟨.refl i, rfl, rfl⟩

theorem CalledOff.trans {i j k : JobInstance} (h : i.CalledOff j) (h' : j.CalledOff k) :
    i.CalledOff k :=
  ⟨h.becomes.trans h'.becomes, h'.started.trans h.started, h'.headings.trans h.headings⟩

theorem lenient_calledOff : Lenient CalledOff where
  refl := .refl
  cancel reason i j h := by
    refine h.trans ⟨StageReport.becomes_cancelIfPending reason j, ?_, ?_⟩
    · exact StageReport.started_cancelIfPending reason j
    · exact StageReport.headings_cancelIfPending reason j

end JobInstance

namespace Execution

/-- What may still become of an execution after a cancel: what is behind it stays, no other stage is
opened, and nothing is started. -/
structure CalledOff (e e' : Execution) : Prop where
  past : e.past <+: e'.past
  current : ∀ s', e'.current = some s' → ∃ s, e.current = some s ∧ s'.name = s.name
  instances : Related JobInstance.CalledOff e e'

theorem CalledOff.refl (e : Execution) : e.CalledOff e :=
  ⟨List.prefix_rfl, fun s hs => ⟨s, hs, rfl⟩, related_refl .refl e⟩

theorem CalledOff.trans {e f g : Execution} (h : e.CalledOff f) (h' : f.CalledOff g) :
    e.CalledOff g where
  past := h.past.trans h'.past
  current s hs := by
    obtain ⟨t, ht, hst⟩ := h'.current s hs
    obtain ⟨u, hu, htu⟩ := h.current t ht
    exact ⟨u, hu, hst.trans htu⟩
  instances := h.instances.trans (fun _ _ _ => .trans) h'.instances

/-- The cancel itself. -/
theorem calledOff_cancelPending {e : Execution} (h : e.Sound) (reason : String) :
    e.CalledOff (e.cancelPending reason) := by
  refine ⟨(past_cancelPending h reason).symm ▸ List.prefix_rfl, fun s' hs' => ?_,
    related_cancelPending JobInstance.lenient_calledOff e reason⟩
  obtain ⟨s, hs, rfl⟩ := Option.map_eq_some_iff.1 hs'
  exact ⟨s, hs, rfl⟩

/-- **Every change after a cancel is of this kind.** -/
theorem Change.calledOff {may : Act → Prop} {wd : String} {failFast : Bool} {e e' : Execution}
    (hsound : e.Sound) (hc : Change may wd true failFast e e') : e.CalledOff e' := by
  have hrelated : Related JobInstance.CalledOff e e' :=
    hc.related JobInstance.lenient_calledOff hsound fun a s w _ hs hw hb =>
      have hws := hsound.workers s hs w hw
      have hquiet : w.IsQuiet (w.act wd true a) := Worker.isQuiet_act hws hb
      ⟨Worker.becomes_act hws hb, hquiet.started, hquiet.headings⟩
  cases hc with
  | @turn s w a _ hs _ _ =>
      refine ⟨List.prefix_rfl, fun s' hs' => ⟨s, hs, ?_⟩, hrelated⟩
      obtain rfl := Option.some.inj hs'
      obtain ⟨_, _, hname, _⟩ := (s.put (w.act wd true a).worker).exists_workers_noteOutcome
        failFast (w.act wd true a).worker
      exact hname
  | cancelPending reason _ => exact calledOff_cancelPending hsound reason
  | close _ _ _ _ =>
      exact ⟨List.prefix_append _ _, fun s' hs' => absurd hs' (by simp [Execution.close]), hrelated⟩
  | skip reason hcur _ _ _ =>
      exact ⟨List.prefix_append _ _, fun s' hs' => absurd (hcur.symm.trans hs') (by simp),
        hrelated⟩
  | openStage _ _ _ hrun _ => cases hrun
  | conclude _ _ _ => exact ⟨List.prefix_rfl, fun s hs => ⟨s, hs, rfl⟩, hrelated⟩
  | giveUp _ _ _ => exact ⟨List.prefix_rfl, fun s hs => ⟨s, hs, rfl⟩, hrelated⟩

end Execution

namespace Run

variable {q r r' : Run} {may : Act → Prop}

/-! ### The run subsides -/

/-- An execution that is begun after a cancel: everything in it is cancelled. -/
def lateExecution (stages : List StageReport) : Execution :=
  Execution.cancelPending { future := stages } "Run cancelled before start"

/-- What may still become of a run after a cancel. -/
structure Subsides (q r : Run) : Prop where
  cancelled : r.cancelRequested = true
  log : ∃ notes, r.log = q.log ++ notes ∧ ∀ x ∈ notes, x.2.asksForWork = false
  kept : ∀ (k : Nat) (e : Execution), q.executions[k]? = some e →
    ∃ e', r.executions[k]? = some e' ∧ e.CalledOff e'
  added : ∀ (k : Nat) (e' : Execution), r.executions[k]? = some e' → q.executions.length ≤ k →
    ∃ stages, WellPlanned stages ∧ (lateExecution stages).CalledOff e'

theorem subsides_self (hc : q.cancelRequested = true) : q.Subsides q where
  cancelled := hc
  log := ⟨[], (List.append_nil _).symm, List.forall_mem_nil _⟩
  kept _ e he := ⟨e, he, .refl e⟩
  added k e he hk := absurd (List.getElem?_eq_some_iff.1 he).1 (by omega)

theorem log_conclude (r : Run) (k : Nat) (ending : Ending) :
    (r.conclude k ending).log = r.log := by
  unfold conclude
  split <;> rfl

theorem log_perform (r : Run) (k : Nat) (e : Execution) {n : Execution.Next}
    (ha : n ≠ .concludeAborted) : (r.perform k e n).log = r.log := by
  cases n with
  | concludeAborted => exact absurd rfl ha
  | close s => rfl
  | skip s reason rest => rfl
  | openStage s rest => rfl
  | conclude => exact log_conclude r k _

/-- What a quiet turn adds to the log asks for no work. -/
theorem log_turn {p : Pool Ticket} {t : Ticket} {s : OpenStage} {w : Worker} {f : Worker → Turn}
    (hw : r.worker? t = some (s, w)) (hlive : w.point.hasEnded = false)
    (hquiet : w.IsQuiet (f w)) :
    ∃ notes, ({ r with pool := p }.turn t f).log = r.log ++ notes ∧
      ∀ x ∈ notes, x.2.asksForWork = false := by
  rw [turn_eq (r := { r with pool := p }) hw hlive rfl]
  refine ⟨_, rfl, fun x hx => ?_⟩
  obtain ⟨n, hn, rfl⟩ := List.mem_map.1 hx
  exact hquiet.notes n hn

/-- What a step after a cancel adds to the log asks for no work. -/
theorem Step.log_of_cancelled (h : r.Sound) (hc : r.cancelRequested = true)
    (hs : Step may r r') :
    ∃ notes, r'.log = r.log ++ notes ∧ ∀ x ∈ notes, x.2.asksForWork = false := by
  have hsame (hlog : r'.log = r.log) :
      ∃ notes, r'.log = r.log ++ notes ∧ ∀ x ∈ notes, x.2.asksForWork = false :=
    ⟨[], by rw [hlog, List.append_nil], List.forall_mem_nil _⟩
  cases hs with
  | turn a _ hw hp ha =>
      refine log_turn (p := r.pool) hw (Point.live_of_holdsSlot hp).2 ?_
      rw [hc]
      exact Worker.isQuiet_act (worker_sound h hw) fun hb => absurd hb ha
  | withdraw _ hw hpt =>
      refine hsame ?_
      rw [abortWorker_of_queued hw hpt]
      rfl
  | mark reason _ _ => exact hsame rfl
  | advance _ _ ha => exact hsame (log_perform r _ _ ha)
  | giveUp _ _ _ _ => exact hsame (log_conclude r _ _)
  | launch hr =>
      obtain ⟨stages, _, hr⟩ := exists_ok_of_bind hr
      obtain rfl := Except.ok.inj hr
      exact hsame rfl
  | grant _ hr =>
      obtain ⟨t, p, s, w, _, hw, hpt, _, rfl⟩ := exists_of_admit? h hr
      refine log_turn (f := fun w => w.begin r.config.workingDir r.cancelRequested) hw
        (by rw [hpt]; rfl) ?_
      rw [hc]
      exact Worker.isQuiet_act (a := .begin) (worker_sound h hw) fun _ => hpt

/-- Every step after a cancel lets the run subside. -/
theorem Subsides.step (h : q.Subsides r) (hr : r.Sound) (hs : Step may r r') : q.Subsides r' := by
  have hshift := hs.shift hr
  -- a change of an execution after a cancel
  have hcalled {k : Nat} {e e' : Execution} (he : r.executions[k]? = some e)
      (hc : e.Change may r.config.workingDir r.cancelRequested r.config.failFast e') :
      e.CalledOff e' := by
    rw [h.cancelled] at hc
    exact hc.calledOff (hr.executions e (List.mem_of_getElem? he))
  refine ⟨(hs.carries hr).cancelled h.cancelled, ?_, fun k e he => ?_, fun k e' he' hk => ?_⟩
  · obtain ⟨notes, hlog, hquiet⟩ := h.log
    obtain ⟨more, hlog', hquiet'⟩ := hs.log_of_cancelled hr h.cancelled
    refine ⟨notes ++ more, by rw [hlog', hlog, List.append_assoc], fun x hx => ?_⟩
    rcases List.mem_append.1 hx with hx | hx
    · exact hquiet x hx
    · exact hquiet' x hx
  · obtain ⟨f, hf, hoff⟩ := h.kept k e he
    rcases hshift.get hf with hsame | ⟨g, hg, hc⟩
    · exact ⟨f, hsame, hoff⟩
    · exact ⟨g, hg, hoff.trans (hcalled hf hc)⟩
  · rcases hshift.of_get he' with he | ⟨e, he, hc⟩ | ⟨_, stages, hplan, rfl⟩
    · exact h.added k e' he hk
    · obtain ⟨stages, hwell, hoff⟩ := h.added k e he hk
      exact ⟨stages, hwell, hoff.trans (hcalled he hc)⟩
    · refine ⟨stages, wellPlanned_of_planOf hplan, ?_⟩
      rw [opening, if_pos h.cancelled]
      exact .refl _

theorem Subsides.steps (h : q.Subsides r) (hr : r.Sound)
    (hs : Relation.ReflTransGen (Step may) r r') : q.Subsides r' :=
  steps_induction hr hs h fun _ _ hq hsub hstep => hsub.step hq hstep

/-- What is marked as cancelled subsides. -/
theorem subsides_marked (h : q.Sound) (reason : String) : q.Subsides (q.marked reason) := by
  -- only the last execution is reached
  have hget (k : Nat) (e : Execution) (he : q.executions[k]? = some e) :
      (q.marked reason).executions[k]? = some e ∨
        (q.marked reason).executions[k]? = some (e.cancelPending reason) := by
    by_cases hk : q.executions.length - 1 = k
    · exact .inr (by simp [marked, modifyExecution, hk, he])
    · exact .inl (by simp [marked, modifyExecution, hk, he])
  refine ⟨rfl, ⟨[], (List.append_nil _).symm, List.forall_mem_nil _⟩, fun k e he => ?_,
    fun k e' he' hk => ?_⟩
  · rcases hget k e he with hsame | hmarked
    · exact ⟨e, hsame, .refl e⟩
    · exact ⟨_, hmarked,
        Execution.calledOff_cancelPending (h.executions e (List.mem_of_getElem? he)) reason⟩
  · have hlt := (List.getElem?_eq_some_iff.1 he').1
    simp only [marked, modifyExecution, List.length_modify] at hlt
    omega

theorem subsides_cancel (h : q.Sound) (reason : String) : q.Subsides (q.cancel reason) := by
  cases hc : q.cancelRequested with
  | true =>
      rw [cancel, if_pos hc]
      exact subsides_self hc
  | false =>
      rw [cancel_eq reason hc]
      have hm := (carries_marked h reason).sound
      exact (subsides_marked h reason).steps hm (@steps_interrupt (fun _ => True) _ hm trivial _)

/-- **Whatever happens after a cancel, the run subsides.** -/
theorem subsides_of_afterAll (h : q.Sound) {reason : String} {evs : List Event}
    (hr : (q.cancel reason).afterAll evs = some r) : q.Subsides r := by
  have hc := (carries_cancel h reason).sound
  exact (subsides_cancel h reason).steps hc (steps_afterAll hc hr)

/-! ### What was called off comes out cancelled -/

/-- The instance of a ticket was cancelled, or it comes out so when its services are stopped. -/
def ComesOutCancelled (r : Run) (t : Ticket) : Prop :=
  (∃ i, r.instance? t = some i ∧ i.status = .cancelled) ∨
    ∃ s w service half rest o, r.worker? t = some (s, w) ∧
      w.point = .stopping service half rest o ∧ o.IsCancelled

theorem comesOutCancelled_of_worker? (h : r.Sound) {t : Ticket} {s : OpenStage} {w : Worker}
    (hw : r.worker? t = some (s, w)) (hc : w.IsCancelling) : r.ComesOutCancelled t := by
  cases hpt : w.point with
  | queued => simp [Worker.IsCancelling, hpt] at hc
  | starting => simp [Worker.IsCancelling, hpt] at hc
  | running => simp [Worker.IsCancelling, hpt] at hc
  | stopping service half rest o =>
      exact .inr ⟨s, w, service, half, rest, o, hw, hpt, by
        simpa [Worker.IsCancelling, hpt] using hc⟩
  | ended aborted =>
      exact .inl ⟨w.inst, instance?_of_worker? h hw, by
        simpa [Worker.IsCancelling, hpt] using hc⟩

/-- Whoever is at work is not given a slot. -/
theorem actOn_ne_begin (h : r.Sound) {t : Ticket} {s : OpenStage} {w : Worker}
    (hw : r.worker? t = some (s, w)) (hp : w.point.holdsSlot = true) (ev : Event) :
    r.actOn t ev ≠ some .begin := by
  have hcancel : r.cancelAct ≠ some .begin := by
    unfold cancelAct
    split <;> simp
  cases ev with
  | execute => simp [actOn]
  | answer u reply =>
      simp only [actOn]
      split
      · simp [reply.act_ne_begin]
      · simp
  | cancel reason => exact hcancel
  | abortLate k => exact hcancel
  | abort k =>
      simp only [actOn]
      split <;> simp
  | advance k =>
      simp only [actOn]
      split
      · exact hcancel
      · simp
  | grant =>
      simp only [actOn]
      split
      · rename_i hfront
        obtain ⟨e, he, hes, _⟩ := h.exists_of_worker? hw
        have hin : t ∈ r.pool.waiting := List.mem_of_mem_head? hfront
        rw [mem_waiting_iff h he, mem_queuedOf_iff he hes hw] at hin
        simp [(Point.live_of_holdsSlot hp).1] at hin
      · simp

theorem ComesOutCancelled.after (h : r.Sound) {t : Ticket} (hc : r.ComesOutCancelled t)
    {ev : Event} (hr : r.after ev = some r') : r'.ComesOutCancelled t := by
  have hcarries := carries_after h hr
  rcases hc with ⟨i, hi, hs⟩ | ⟨s, w, service, half, rest, o, hw, hpt, ho⟩
  · -- it has ended, so that nothing becomes of it any more
    obtain ⟨j, hj, hbecomes⟩ := hcarries.instance? hi
    rw [hbecomes.eq_of_cancelled hs] at hj
    exact .inl ⟨i, hj, hs⟩
  · have hp : w.point.holdsSlot = true := by
      rw [hpt]
      rfl
    have hcancelling : w.IsCancelling := by
      simpa [Worker.IsCancelling, hpt] using ho
    obtain ⟨s', hw'⟩ := worker?_after h hr hw hp
    refine comesOutCancelled_of_worker? hcarries.sound hw' ?_
    cases hact : r.actOn t ev with
    | none => exact hcancelling
    | some a =>
        refine hcancelling.act (worker_sound h hw) ?_
        rintro rfl
        exact actOn_ne_begin h hw hp ev hact

/-- Whatever comes out cancelled does so for good. -/
theorem ComesOutCancelled.afterAll (h : r.Sound) {t : Ticket} (hc : r.ComesOutCancelled t)
    {evs : List Event} (hr : r.afterAll evs = some r') : r'.ComesOutCancelled t := by
  have hboth : r'.ComesOutCancelled t ∧ r'.Sound := by
    refine afterAll_induction (P := fun q => q.ComesOutCancelled t ∧ q.Sound) hr ⟨hc, h⟩ ?_
    rintro q q' ev ⟨hq, hsound⟩ hev
    exact ⟨hq.after hsound hev, (carries_after hsound hev).sound⟩
  exact hboth.1

/-- The first cancel calls off every start of a service and every command that is under way. -/
theorem isInterrupted_cancel (h : r.Sound) (hc : r.cancelRequested = false) (reason : String)
    {t : Ticket} {reply : Reply} (ht : r.awaits t reply = true)
    (hd : reply = .start .dropped ∨ reply = .run .dropped) :
    (r.cancel reason).isInterrupted t = true := by
  obtain ⟨s, w, hw, hawaits, hp⟩ := exists_of_awaits ht
  have hne := (Worker.carries_self (worker_sound h hw) hp).touched
  obtain ⟨s', hw'⟩ := worker?_cancel h hw hp hne reason
  rw [cancelAct, hc] at hw'
  rw [isInterrupted, hw']
  simp only [Bool.false_eq_true, if_false, afterAct, Worker.act]
  cases hpt : w.point with
  | starting up s rest halt => cases halt <;> simp [Worker.interrupt, hpt]
  | running up s rest halt => cases halt <;> simp [Worker.interrupt, hpt]
  | queued => simp [hpt, Point.holdsSlot] at hp
  | ended => simp [hpt, Point.holdsSlot] at hp
  | stopping => rcases hd with rfl | rfl <;> simp [hpt, Point.awaits] at hawaits

/-- A call that is called off leads its instance to the end. -/
theorem comesOutCancelled_of_dropped (h : r.Sound) {t : Ticket} {reply : Reply}
    (ht : r.awaits t reply = true) (hd : reply = .start .dropped ∨ reply = .run .dropped) :
    (r.answered t reply).ComesOutCancelled t := by
  obtain ⟨s, w, hw, hawaits, hp⟩ := exists_of_awaits ht
  have hcancelling :
      (w.act r.config.workingDir r.cancelRequested reply.act).worker.IsCancelling :=
    Worker.isCancelling_of_dropped (worker_sound h hw) hawaits hd
  obtain ⟨_, s', hw'⟩ := worker?_turn h hw hp reply.act_ne_begin
    (f := fun w => w.act r.config.workingDir r.cancelRequested reply.act) fun _ => rfl
  rw [← answered_eq] at hw'
  exact comesOutCancelled_of_worker? (carries_answered h t reply).sound hw' hcancelling

/-! ### A run that is executed once -/

/-- What a cancel does to a run that is executed once.  The first one is the run before the cancel,
and the second one the run at any time after it. -/
structure IsCancelledAt (reason : String) (q r : Run) : Prop where
  /-- No service is started and no command is run any more. -/
  log : ∃ notes, r.log = q.log ++ notes ∧ ∀ x ∈ notes, x.2.asksForWork = false
  /-- No instance is started and none has another step, what had ended stays as it is, no other
  stage is opened, and what was pending is cancelled. -/
  executions : ∀ (k : Nat) (e : Execution), q.executions[k]? = some e →
    ∃ e', r.executions[k]? = some e' ∧ e.CalledOff e' ∧
      ∀ (m x : Nat) (i : JobInstance), e.instance? m x = some i → i.status = .pending →
        ∃ j, e'.instance? m x = some j ∧ j.status = .cancelled ∧ j.started = false
  /-- If the run was not executed yet, nothing of it is ever carried out. -/
  unexecuted : q.executions = [] → ∀ e ∈ r.executions, e.current = none ∧
    ∀ i ∈ e.instances, i.status = .cancelled ∧ i.started = false ∧ i.stepRecords = []
  /-- Another cancel changes nothing. -/
  again : ∀ x, r.cancel x = r
  /-- The first one calls off every start of a service and every command that is under way. -/
  interrupts : q.cancelRequested = false → ∀ t reply, q.awaits t reply = true →
    reply = .start .dropped ∨ reply = .run .dropped → (q.cancel reason).isInterrupted t = true
  /-- An instance whose call is called off comes out cancelled. -/
  dropped : ∀ t reply, r.awaits t reply = true →
    reply = .start .dropped ∨ reply = .run .dropped →
      ∀ evs r', (r.answered t reply).afterAll evs = some r' → r'.ComesOutCancelled t

/-- An instance of an execution that is begun after a cancel. -/
theorem of_mem_lateExecution {stages : List StageReport} (h : WellPlanned stages) {i : JobInstance}
    (hi : i ∈ (lateExecution stages).instances) :
    i.status = .cancelled ∧ i.started = false ∧ i.stepRecords = [] := by
  obtain ⟨t, ht, hit⟩ := List.mem_flatMap.1 hi
  obtain ⟨s, hs, rfl⟩ : ∃ s ∈ stages, s.cancelPending "Run cancelled before start" = t := by
    simpa [lateExecution, Execution.cancelPending, Execution.stages] using ht
  obtain ⟨j, hj, rfl⟩ := List.mem_map.1 hit
  have hwell := (h.stages s hs).instances j hj
  have hrecords : j.stepRecords = [] := by
    rw [← hwell.untouched]
    rfl
  rw [StageReport.cancelIfPending_of_pending hwell.status_eq]
  exact ⟨rfl, by simp [JobInstance.enter, hwell.started_eq], hrecords⟩

end Run

end Conveyor
