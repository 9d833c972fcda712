/-
**Every record of a step is counted once, or it is one that is never counted.**

The records of the steps of a kind, those that are under way, and the measurements of those that
are done are kept apart.  They are changed together, in one and the same turn.  What is missing
among the measurements in the end are the answers that count nothing: those that came after an
abort, and those that could not be read.

Main definitions:

* `Conveyor.Run.recordsOf`, `Conveyor.Run.underWay` — the records of the steps of a kind, and how
  many of them are under way;
* `Conveyor.Run.uncountedIn` — how many steps of a kind events end without counting them;
* `Conveyor.Run.Counted` — records and measurements agree.

Main results:

* `Conveyor.Run.Booking.counted`, `Conveyor.Run.counted_after` — what steps and events keep;
* `Conveyor.Run.counted_afterAll` — **records and measurements agree, whatever happens**;
* `Conveyor.Run.uncountedIn_eq_zero` — without an abort nothing that can be read is left out.
-/

import Conveyor.Proofs.Run.Services
import Conveyor.Proofs.Run.Totals

set_option autoImplicit false

namespace Conveyor

variable {kind : String}

/-! ### The records of an execution -/

namespace Execution

variable {e e' : Execution}

/-- How many records of steps of a kind the instances of an execution have. -/
def recordsOf (kind : String) (e : Execution) : Nat :=
  total (e.instances.map (JobInstance.recordsOf kind))

theorem recordsOf_of_current {s : OpenStage} (hs : e.current = some s) :
    e.recordsOf kind =
      total ((e.past.flatMap StageReport.instances).map (JobInstance.recordsOf kind)) +
        total (s.workers.map fun w => w.inst.recordsOf kind) +
        total ((e.future.flatMap StageReport.instances).map (JobInstance.recordsOf kind)) := by
  simp [recordsOf, instances, stages, hs, OpenStage.report, total_append, Function.comp_def,
    Nat.add_assoc]

/-- An execution in which no record is added has as many as before. -/
theorem Related.recordsOf_eq (h : Related (fun i j => j.headings = i.headings) e e') :
    e'.recordsOf kind = e.recordsOf kind :=
  total_eq_of_forall₂ h.instances fun _ _ hij => JobInstance.recordsOf_of_headings hij

theorem lenient_headings : JobInstance.Lenient fun i j => j.headings = i.headings where
  refl _ := rfl
  cancel reason _ j h := (StageReport.headings_cancelIfPending reason j).trans h

theorem Rearranged.recordsOf_eq (h : e.Rearranged e') : e'.recordsOf kind = e.recordsOf kind :=
  (h.related _ lenient_headings).recordsOf_eq

/-- A turn changes the records of an execution, and what is under way in it, as it changes those of
the worker. -/
theorem recordsOf_turn (kind : String) (h : e.Sound) {s : OpenStage} {w w' : Worker} (hs : e.current = some s)
    (hw : w ∈ s.workers) (hid : w'.inst.identity = w.inst.identity) (failFast : Bool) :
    recordsOf kind { e with current := some ((s.put w').noteOutcome failFast w') } +
        w.inst.recordsOf kind = e.recordsOf kind + w'.inst.recordsOf kind ∧
      underWay kind { e with current := some ((s.put w').noteOutcome failFast w') } +
        w.point.underWay kind = e.underWay kind + w'.point.underWay kind := by
  have hrecords := OpenStage.total_turn (f := fun w => w.inst.recordsOf kind) (h.distinct s hs)
    failFast hw hid fun v reason =>
      JobInstance.recordsOf_of_headings (StageReport.headings_cancelIfPending reason v.inst)
  have hunder := OpenStage.total_turn (f := fun w => w.point.underWay kind) (h.distinct s hs)
    failFast hw hid fun _ _ => rfl
  refine ⟨?_, ?_⟩
  · rw [recordsOf_of_current hs, recordsOf_of_current rfl]
    dsimp only
    omega
  · rw [underWay_of_current hs, underWay_of_current rfl, OpenStage.underWay, OpenStage.underWay]
    exact hunder

/-- Nothing was noted of what was only planned. -/
theorem recordsOf_of_planned {stages : List StageReport} (h : WellPlanned stages) :
    recordsOf kind { future := stages } = 0 := by
  refine total_eq_zero fun n hn => ?_
  obtain ⟨i, hi, rfl⟩ := List.mem_map.1 hn
  have hfuture : i ∈ stages.flatMap StageReport.instances := by simpa [instances, Execution.stages]
    using hi
  obtain ⟨s, hs, his⟩ := List.mem_flatMap.1 hfuture
  exact ((h.stages s hs).instances i his).recordsOf_eq_zero

/-- No step is measured when an execution ends. -/
theorem countP_isStepOf_finalTally (e : Execution) (st : Status) :
    (e.finalTally st).countP (·.isStepOf kind) = 0 := by
  rw [countP_finalTally (q := fun _ => false) (fun _ => rfl) rfl (fun _ => rfl) fun _ => rfl]
  simp

end Execution

/-- Whoever was not aborted counts every answer that can be read. -/
theorem Worker.uncounted_eq_zero {w : Worker} (hw : w.point.isAborting = false) {reply : Reply}
    (hreply : ∀ f, reply ≠ .run (.unreadable f)) : w.uncounted kind reply.act = 0 := by
  cases reply with
  | start reply => rfl
  | stop reply => rfl
  | run reply =>
      have hreadable : reply.isReadable = true := by
        cases reply with
        | unreadable f => exact absurd rfl (hreply f)
        | done status output => rfl
        | raised f => rfl
        | dropped => rfl
      cases hpt : w.point with
      | running up r rest halt =>
          have hhalt : halt ≠ some .abort := by
            rintro rfl
            rw [hpt] at hw
            cases hw
          simp [Worker.uncounted, Reply.act, hpt, hhalt, hreadable]
      | queued => simp [Worker.uncounted, Reply.act, hpt]
      | starting => simp [Worker.uncounted, Reply.act, hpt]
      | stopping => simp [Worker.uncounted, Reply.act, hpt]
      | ended => simp [Worker.uncounted, Reply.act, hpt]

namespace Run

variable {may : Act → Prop} {r r' : Run} {n : Nat}

/-- How many records of steps of a kind the instances of a run have. -/
def recordsOf (kind : String) (r : Run) : Nat := total (r.executions.map (Execution.recordsOf kind))

/-- How many steps of a kind are under way in a run. -/
def underWay (kind : String) (r : Run) : Nat := total (r.executions.map (Execution.underWay kind))

/-- Of each record of a step of a kind the step is measured, is under way, or is one of `n` steps
that were not counted. -/
def Counted (kind : String) (n : Nat) (r : Run) : Prop :=
  r.recordsOf kind = r.tally.countP (·.isStepOf kind) + n + r.underWay kind

theorem counted_create (kind id : String) (p : Pipeline) (c : RunConfig) :
    (create id p c).Counted kind 0 := rfl

/-! ### Steps -/

/-- A worker makes a turn, and perhaps a step that it had under way is not counted. -/
theorem Counted.turned (hc : r.Counted kind n) (h : r.Sound) {k lost : Nat} {e : Execution}
    {s : OpenStage} {w : Worker} {t : Turn} (he : r.executions[k]? = some e)
    (hs : e.current = some s) (hw : w ∈ s.workers)
    (hid : t.worker.inst.identity = w.inst.identity) (hbooks : w.Books kind lost t)
    (hexec : r'.executions = r.executions.set k
      { e with current := some ((s.put t.worker).noteOutcome r.config.failFast t.worker) })
    (htally : r'.tally = r.tally ++ t.tally) : r'.Counted kind (n + lost) := by
  have hes := h.executions e (List.mem_of_getElem? he)
  obtain ⟨hrecords, hunder⟩ := Execution.recordsOf_turn kind hes hs hw hid r.config.failFast
  have hset := total_set he
    { e with current := some ((s.put t.worker).noteOutcome r.config.failFast t.worker) }
  have hrecordsSet := hset (Execution.recordsOf kind)
  have hunderSet := hset (Execution.underWay kind)
  rw [← hexec] at hrecordsSet hunderSet
  rw [Worker.Books] at hbooks
  rw [Counted, recordsOf, underWay] at hc ⊢
  rw [htally, List.countP_append]
  -- the run changes by as much as the books of the one worker say
  omega

theorem Counted.turns (hc : r.Counted kind n) (h : r.Sound) {k : Nat} {e : Execution}
    {s : OpenStage} {w : Worker} {a : Act} (he : r.executions[k]? = some e)
    (hs : e.current = some s) (hw : w ∈ s.workers) (hb : a = .begin → w.point = .queued)
    (hexec : r'.executions = r.executions.set k
      { e with current := some ((s.put (w.act r.config.workingDir r.cancelRequested a).worker
          ).noteOutcome r.config.failFast
            (w.act r.config.workingDir r.cancelRequested a).worker) })
    (htally : r'.tally = r.tally ++ (w.act r.config.workingDir r.cancelRequested a).tally) :
    r'.Counted kind (n + w.uncounted kind a) := by
  have hws := (h.executions e (List.mem_of_getElem? he)).workers s hs w hw
  exact hc.turned h he hs hw
    (JobInstance.identity_eq_of_planned (Worker.becomes_act hws hb).planned)
    (Worker.books_act hws hb) hexec htally

/-- An execution changes in which no step is noted, counted or under way that was not before. -/
theorem Counted.of_set (hc : r.Counted kind n) {k : Nat} {e e' : Execution}
    (he : r.executions[k]? = some e) (hexec : r'.executions = r.executions.set k e')
    (hrecords : e'.recordsOf kind = e.recordsOf kind) (hunder : e'.underWay kind = e.underWay kind)
    (htally : r'.tally.countP (·.isStepOf kind) = r.tally.countP (·.isStepOf kind)) :
    r'.Counted kind n := by
  have hrecordsSet := total_set he e' (Execution.recordsOf kind)
  have hunderSet := total_set he e' (Execution.underWay kind)
  rw [← hexec] at hrecordsSet hunderSet
  rw [Counted, recordsOf, underWay] at hc ⊢
  omega

theorem opening_of_planned (kind : String) {stages : List StageReport} (h : WellPlanned stages)
    (r : Run) :
    (r.opening stages).recordsOf kind = 0 ∧ (r.opening stages).underWay kind = 0 := by
  refine ⟨?_, Execution.underWay_of_none (current_opening r stages)⟩
  unfold opening
  split
  · rw [(Execution.rearranged_cancelPending _ _).recordsOf_eq]
    exact Execution.recordsOf_of_planned h
  · exact Execution.recordsOf_of_planned h

/-- **What every step keeps** in which no answer is left uncounted. -/
theorem Booking.counted (hbook : Booking may r r') (h : r.Sound)
    (hmay : ∀ a, may a → ∀ w : Worker, w.uncounted kind a = 0) (hc : r.Counted kind n) :
    r'.Counted kind n := by
  cases hbook with
  | still hexec htally => rwa [Counted, recordsOf, underWay, hexec, htally]
  | @turns k e s w a ha he hs hw hb hexec htally =>
      have hturn := hc.turns h he hs hw hb hexec htally
      rwa [hmay a ha w, Nat.add_zero] at hturn
  | rearranges he hchange hexec htally =>
      exact hc.of_set he hexec hchange.recordsOf_eq (hchange.underWay kind) (by rw [htally])
  | @ends k e ending he _ hexec htally =>
      refine hc.of_set he hexec rfl rfl ?_
      rw [htally, List.countP_append, Execution.countP_isStepOf_finalTally, Nat.add_zero]
  | @added stages hplan hexec htally =>
      obtain ⟨hrecords, hunder⟩ := opening_of_planned kind (wellPlanned_of_planOf hplan) r
      rw [Counted, recordsOf, underWay] at hc ⊢
      simp only [hexec, htally, List.map_append, total_append, List.map_cons, List.map_nil, total,
        hrecords, hunder]
      omega

/-! ### Events -/

/-- How many steps of a kind an event ends without counting them. -/
def uncountedBy (kind : String) (r : Run) : Event → Nat
  | .answer t reply => ((r.worker? t).map fun x => x.2.uncounted kind reply.act).getD 0
  | _ => 0

/-- How many steps of a kind events end without counting them. -/
def uncountedIn (kind : String) : Run → List Event → Nat
  | _, [] => 0
  | r, ev :: evs => r.uncountedBy kind ev + (r.after ev).elim 0 (uncountedIn kind · evs)

theorem uncountedIn_cons {q : Run} {ev : Event} (h : r.after ev = some q) (evs : List Event) :
    uncountedIn kind r (ev :: evs) = r.uncountedBy kind ev + uncountedIn kind q evs := by
  rw [uncountedIn, h]
  rfl

/-- Only an answer ends a step. -/
theorem Event.uncounted_eq_zero {ev : Event} (hev : ∀ t reply, ev ≠ .answer t reply) {a : Act}
    (ha : ev.Makes a) (w : Worker) : w.uncounted kind a = 0 := by
  cases ev with
  | answer t reply => exact absurd rfl (hev t reply)
  | execute => cases ha
  | cancel reason => rw [show a = .interrupt from ha]; rfl
  | abort k => rw [show a = .abort from ha]; rfl
  | abortLate k => rw [show a = .interrupt from ha]; rfl
  | advance k => rw [show a = .interrupt from ha]; rfl
  | grant => rw [show a = .begin from ha]; rfl

theorem counted_after_of_not_answer {ev : Event} (h : r.Sound) (hr : r.after ev = some r')
    (hev : ∀ t reply, ev ≠ .answer t reply) (hc : r.Counted kind n) : r'.Counted kind n := by
  have hsteps : Relation.ReflTransGen (Step ev.Makes) r r' :=
    steps_after_of_makes h hr fun _ ha => ha
  exact steps_induction (P := Counted kind n) h hsteps hc fun _ _ hq hcq hs =>
    (hs.booking hq).counted hq (fun _ ha w => Event.uncounted_eq_zero hev ha w) hcq

/-- **What every event keeps.** -/
theorem counted_after {ev : Event} (h : r.Sound) (hr : r.after ev = some r')
    (hc : r.Counted kind n) : r'.Counted kind (n + r.uncountedBy kind ev) := by
  cases ev with
  | answer t reply =>
      obtain ⟨hawaits, rfl⟩ := answered_of_after hr
      obtain ⟨s, w, hw, _, hp⟩ := exists_of_awaits hawaits
      obtain ⟨e, he, _, hs, _, hmem, _⟩ := h.exists_of_worker? hw
      have hlive := (Point.live_of_holdsSlot hp).2
      have huncounted : r.uncountedBy kind (.answer t reply) = w.uncounted kind reply.act := by
        rw [uncountedBy, hw]
        rfl
      rw [answered_eq, huncounted]
      exact hc.turns h he hs hmem (fun hb => absurd hb reply.act_ne_begin)
        (executions_turn hw he hlive _) (tally_turn hw hlive _)
  | execute => exact counted_after_of_not_answer h hr (by simp) hc
  | cancel reason => exact counted_after_of_not_answer h hr (by simp) hc
  | abort k => exact counted_after_of_not_answer h hr (by simp) hc
  | abortLate k => exact counted_after_of_not_answer h hr (by simp) hc
  | advance k => exact counted_after_of_not_answer h hr (by simp) hc
  | grant => exact counted_after_of_not_answer h hr (by simp) hc

/-- **Records and measurements agree, whatever happens.** -/
theorem counted_afterAll {evs : List Event} (h : r.Sound) (hr : r.afterAll evs = some r')
    (hc : r.Counted kind n) : r'.Counted kind (n + uncountedIn kind r evs) := by
  -- over the events, from whatever was left uncounted before them
  induction evs generalizing r n with
  | nil => exact Option.some.inj hr ▸ hc
  | cons ev evs ih =>
      obtain ⟨q, hq, hrest⟩ := afterAll_cons_eq_some.1 hr
      have hthen := ih (carries_after h hq).sound hrest (counted_after h hq hc)
      rwa [Nat.add_assoc, ← uncountedIn_cons hq evs] at hthen

/-! ### Without an abort nothing that can be read is left out -/

/-- Whether an event is neither an abort nor a result whose exit status cannot be read. -/
def Event.isReadable : Event → Bool
  | .abort _ | .answer _ (.run (.unreadable _)) => false
  | _ => true

theorem Event.act_ne_abort {ev : Event} (hev : ∀ k, ev ≠ .abort k) {t : Ticket} {a : Act}
    (ha : r.actOn t ev = some a) : a ≠ .abort := by
  rcases cases_of_actOn ha with rfl | ⟨k, rfl, _⟩ | ⟨reply, rfl, rfl⟩ | ⟨_, rfl, _⟩
  · simp
  · exact absurd rfl (hev k)
  · cases reply <;> simp [Reply.act]
  · simp

theorem uncountedBy_eq_zero {ev : Event} (hc : r.IsCalm) (hev : ev.isReadable = true) :
    r.uncountedBy kind ev = 0 := by
  cases ev with
  | answer t reply =>
      rw [uncountedBy]
      cases hw : r.worker? t with
      | none => rfl
      | some x =>
          obtain ⟨s, w⟩ := x
          refine Worker.uncounted_eq_zero (hc t _ _ (standing_eq_some_iff.2 ⟨s, w, hw, rfl⟩)) ?_
          rintro f rfl
          cases hev
  | execute => rfl
  | cancel reason => rfl
  | abort k => rfl
  | abortLate k => rfl
  | advance k => rfl
  | grant => rfl

/-- **Without an abort nothing that can be read is left out**, whatever fails and whenever the run
is cancelled. -/
theorem uncountedIn_eq_zero {evs : List Event} (h : r.Sound) (hc : r.IsCalm)
    (hr : r.afterAll evs = some r') (hevs : ∀ ev ∈ evs, ev.isReadable = true) :
    uncountedIn kind r evs = 0 := by
  -- over the events; that nobody is being aborted is kept, and with it every answer counts
  induction evs generalizing r with
  | nil => rfl
  | cons ev evs ih =>
      obtain ⟨hev, hrest⟩ := List.forall_mem_cons.1 hevs
      obtain ⟨q, hq, hthen⟩ := afterAll_cons_eq_some.1 hr
      have hqc : q.IsCalm := hc.after h hq fun t a ha =>
        Event.act_ne_abort (fun k hk => by rw [hk] at hev; cases hev) ha
      rw [uncountedIn_cons hq, uncountedBy_eq_zero hc hev,
        ih (carries_after h hq).sound hqc hthen hrest]

end Run

end Conveyor
