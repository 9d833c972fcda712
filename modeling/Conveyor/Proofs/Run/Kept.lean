/-
**Every event carries a run on.**

Main results:

* `Conveyor.Run.carries_cancel`, `Conveyor.Run.carries_abort`, `Conveyor.Run.carries_perform`,
  `Conveyor.Run.carries_admit?`, `Conveyor.Run.carries_launch` — what happens to a run carries it
  on;
* `Conveyor.Run.carries_after`, `Conveyor.Run.carries_afterAll` — **so does every event, and so do
  all of them together**;
* `Conveyor.Run.Reachable.sound` — every run that there is is sound.
-/

import Conveyor.Proofs.Run.Event
import Conveyor.Proofs.Run.Sound

set_option autoImplicit false

namespace Conveyor

/-! ### What an execution does by itself -/

namespace Execution

/-- What an execution does next by itself, and when. -/
theorem next_cases {e : Execution} {halted : Bool} {n : Next} (h : e.next halted = some n) :
    e.ending = none ∧
      ((∃ s, e.current = some s ∧ s.wasAborted = true ∧ n = .concludeAborted) ∨
      (∃ s, e.current = some s ∧ s.wasAborted = false ∧ s.isOver = true ∧ n = .close s) ∨
      (e.current = none ∧ e.future = [] ∧ n = .conclude) ∨
      (∃ s rest reason, e.current = none ∧ e.future = s :: rest ∧
        (halted = true ∨ ∃ name, e.haltedBy = some name) ∧ n = .skip s reason rest) ∨
      (∃ s rest, e.current = none ∧ e.future = s :: rest ∧ halted = false ∧ e.haltedBy = none ∧
        n = .openStage s rest)) := by
  unfold next at h
  split at h
  · exact absurd h (by simp)
  · rename_i s hending hs
    refine ⟨hending, ?_⟩
    split at h
    · rename_i habort
      exact .inl ⟨s, hs, habort, (Option.some.inj h).symm⟩
    · rename_i habort
      split at h
      · rename_i hover
        exact .inr (.inl ⟨s, hs, by simpa using habort, hover, (Option.some.inj h).symm⟩)
      · exact absurd h (by simp)
  · rename_i hending hcur
    refine ⟨hending, .inr (.inr ?_)⟩
    split at h
    · rename_i hfut
      exact .inl ⟨hcur, hfut, (Option.some.inj h).symm⟩
    · rename_i s rest hfut
      refine .inr ?_
      split at h
      · rename_i hhalted
        exact .inl ⟨s, rest, _, hcur, hfut, .inl hhalted, (Option.some.inj h).symm⟩
      · rename_i hhalted
        split at h
        · rename_i name hname
          exact .inl ⟨s, rest, _, hcur, hfut, .inr ⟨name, hname⟩, (Option.some.inj h).symm⟩
        · rename_i hname
          exact .inr ⟨s, rest, hcur, hfut, by simpa using hhalted, hname,
            (Option.some.inj h).symm⟩

/-- An execution is given up only while a stage is open. -/
theorem exists_current_of_concludeAborted {e : Execution} {halted : Bool}
    (h : e.next halted = some .concludeAborted) : ∃ s, e.current = some s := by
  obtain ⟨_, hcases⟩ := next_cases h
  rcases hcases with ⟨s, hs, _, _⟩ | ⟨s, hs, _⟩ | ⟨_, _, hn⟩ | ⟨_, _, _, _, _, _, hn⟩ |
    ⟨_, _, _, _, _, _, hn⟩
  · exact ⟨s, hs⟩
  · exact ⟨s, hs⟩
  · cases hn
  · cases hn
  · cases hn

theorem ne_pending_cancelPending (e : Execution) (reason : String) :
    ∀ i ∈ (e.cancelPending reason).instances, i.status ≠ .pending := by
  have hmapped {s : StageReport} {i : JobInstance}
      (hi : i ∈ (s.cancelPending reason).instances) : i.status ≠ .pending := by
    obtain ⟨j, _, rfl⟩ := List.mem_map.1 hi
    exact StageReport.status_cancelIfPending_ne_pending reason j
  intro i hi
  obtain ⟨t, ht, hit⟩ := List.mem_flatMap.1 hi
  simp only [stages, cancelPending, List.mem_append, List.mem_map, Option.mem_toList,
    Option.map_eq_some_iff] at ht
  rcases ht with (⟨s, _, rfl⟩ | ⟨_, ⟨s, _, rfl⟩, rfl⟩) | ⟨s, _, rfl⟩
  · exact hmapped hit
  · obtain ⟨w, hw, rfl⟩ := List.mem_map.1 hit
    obtain ⟨v, _, rfl⟩ := List.mem_map.1 hw
    exact StageReport.status_cancelIfPending_ne_pending reason v.inst
  · exact hmapped hit

end Execution

namespace Run

/-! ### Calling off -/

theorem queuedOf_cancelPending (k : Nat) (e : Execution) (reason : String) :
    queuedOf k (e.cancelPending reason) = queuedOf k e := by
  cases hs : e.current with
  | none => simp [queuedOf, Execution.cancelPending, hs]
  | some s =>
      have hs' : (e.cancelPending reason).current = some (s.cancelPending reason) := by
        simp [Execution.cancelPending, hs]
      rw [queuedOf_of_current hs, queuedOf_of_current hs', OpenStage.queued_cancelPending]
      rfl

/-- A run in whose last execution nothing is pending may be marked as cancelled. -/
theorem carries_mark {r : Run} (h : r.Sound)
    (hlast : ∀ e, r.executions.getLast? = some e → ∀ i ∈ e.instances, i.status ≠ .pending) :
    r.Carries { r with cancelRequested := true } :=
  ⟨⟨h.planned, h.executions, h.queue, h.waiting, fun _ => hlast, fun _ _ _ => rfl⟩, rfl, rfl,
    fun _ => rfl,
    fun _ e he => ⟨e, he, .refl (h.executions e (List.mem_of_getElem? he))⟩⟩

/-- The run with nothing pending in its last execution, and marked as cancelled. -/
def marked (r : Run) (reason : String) : Run :=
  { (r.modifyExecution (r.executions.length - 1) (·.cancelPending reason)) with
    cancelRequested := true }

theorem carries_marked {r : Run} (h : r.Sound) (reason : String) : r.Carries (r.marked reason) := by
  cases he : r.executions[r.executions.length - 1]? with
  | none =>
      have hnil : r.executions = [] := by
        rw [List.getElem?_eq_none_iff] at he
        exact List.length_eq_zero_iff.1 (by omega)
      have hsame : r.modifyExecution (r.executions.length - 1) (·.cancelPending reason) = r := by
        cases r
        simp_all [modifyExecution]
      rw [marked, hsame]
      exact carries_mark h fun e hlast => by simp [hnil] at hlast
  | some e =>
      have hes := h.executions e (List.mem_of_getElem? he)
      have hfirst := carries_modifyExecution (f := (·.cancelPending reason)) h he
        (Execution.carries_cancelPending hes reason) rfl (queuedOf_cancelPending _ e reason)
      refine hfirst.trans (carries_mark hfirst.sound ?_)
      intro f hf
      rw [modifyExecution_eq_set he, List.getLast?_eq_getElem?, List.length_set,
        List.getElem?_set_self (List.getElem?_eq_some_iff.1 he).1] at hf
      obtain rfl : e.cancelPending reason = f := Option.some.inj hf
      exact e.ne_pending_cancelPending reason

/-- A cancel marks the run and calls off what its workers have under way. -/
theorem cancel_eq {r : Run} (reason : String) (h : r.cancelRequested = false) :
    r.cancel reason =
      (r.marked reason).tickets.foldl (fun q t => q.turn t Worker.interrupt) (r.marked reason) := by
  simp [cancel, h, marked, modifyExecution]

/-- What holds after a run is marked and is kept by interrupting a worker holds after a cancel. -/
theorem cancel_induction {P : Run → Prop} {r : Run} (reason : String)
    (h : r.cancelRequested = false) (hmarked : P (r.marked reason))
    (hturn : ∀ (q : Run) t, P q → P (q.turn t Worker.interrupt)) : P (r.cancel reason) := by
  rw [cancel_eq reason h]
  exact List.foldlRecOn _ _ hmarked fun q hq t _ => hturn q t hq

theorem carries_interrupt {r : Run} (h : r.Sound) (t : Ticket) :
    r.Carries (r.turn t Worker.interrupt) :=
  carries_turn (a := .interrupt) h ⟨"", false, fun _ => rfl⟩ (by simp) fun _ _ _ _ => (by simp)

theorem carries_cancel {r : Run} (h : r.Sound) (reason : String) : r.Carries (r.cancel reason) := by
  cases hr : r.cancelRequested with
  | true =>
      rw [cancel, if_pos hr]
      exact .refl h
  | false =>
      have hmarked := carries_marked h reason
      refine cancel_induction (P := r.Carries) reason hr hmarked ?_
      exact fun q t hq => hq.trans (carries_interrupt hq.sound t)

theorem cancelRequested_turn (r : Run) (t : Ticket) (f : Worker → Turn) :
    (r.turn t f).cancelRequested = r.cancelRequested := by
  unfold turn
  split
  · rfl
  · split <;> rfl

theorem cancelRequested_cancel (r : Run) (reason : String) :
    (r.cancel reason).cancelRequested = true := by
  cases hr : r.cancelRequested with
  | true => rw [cancel, if_pos hr, hr]
  | false =>
      refine cancel_induction (P := fun q => q.cancelRequested = true) reason hr rfl ?_
      exact fun q t hq => (cancelRequested_turn q t _).trans hq

/-! ### What a cancel leaves of the executions -/

section
variable {α : Type} {g : Execution → α}

theorem map_modifyExecution (r : Run) (k : Nat) {f : Execution → Execution}
    (hf : ∀ e, r.executions[k]? = some e → g (f e) = g e) :
    (r.modifyExecution k f).executions.map g = r.executions.map g := by
  refine List.ext_getElem? fun j => ?_
  simp only [modifyExecution, List.getElem?_map, List.getElem?_modify]
  cases he : r.executions[j]? with
  | none => rfl
  | some e =>
      by_cases hj : k = j
      · subst hj
        simp [hf e he]
      · simp [hj]

/-- Whatever is the same for two open stages survives a turn. -/
theorem map_turn (hput : ∀ (e : Execution) s s', e.current = some s →
      g { e with current := some s' } = g e) (r : Run) (t : Ticket) (f : Worker → Turn) :
    (r.turn t f).executions.map g = r.executions.map g := by
  cases hw : r.worker? t with
  | none => rw [turn_of_none f hw]
  | some p =>
      obtain ⟨s, w⟩ := p
      cases hended : w.point.hasEnded with
      | true => rw [turn_of_hasEnded f hw hended]
      | false =>
          rw [turn_eq hw hended rfl]
          obtain ⟨e, he, hs, _⟩ := worker?_eq_some hw
          refine map_modifyExecution r t.execution fun e' he' => ?_
          obtain rfl := Option.some.inj (he.symm.trans he')
          exact hput e s _ hs

/-- Whatever survives the cancel of what is pending, and is the same for two open stages, survives a
cancel. -/
theorem map_cancel (hput : ∀ (e : Execution) s s', e.current = some s →
      g { e with current := some s' } = g e)
    (hpending : ∀ (e : Execution) reason, g (e.cancelPending reason) = g e) (r : Run)
    (reason : String) : (r.cancel reason).executions.map g = r.executions.map g := by
  cases hr : r.cancelRequested with
  | true => rw [cancel, if_pos hr]
  | false =>
      refine cancel_induction (P := fun q => q.executions.map g = r.executions.map g) reason hr
        ?_ ?_
      · exact map_modifyExecution r _ fun e _ => hpending e reason
      · intro q t hq
        exact (map_turn hput q t _).trans hq

end

/-- A cancel ends no execution. -/
theorem endings_cancel (r : Run) (reason : String) :
    (r.cancel reason).executions.map Execution.ending = r.executions.map Execution.ending :=
  map_cancel (fun _ _ _ _ => rfl) (fun _ _ => rfl) r reason

/-- A cancel closes no stage. -/
theorem isOpen_cancel (r : Run) (reason : String) :
    (r.cancel reason).executions.map (·.current.isSome) =
      r.executions.map (·.current.isSome) :=
  map_cancel (fun e s s' hs => by simp [hs]) (fun e _ => by simp [Execution.cancelPending]) r reason

/-! ### Aborting -/

theorem abortWorker_of_none {r : Run} {t : Ticket} (hw : r.worker? t = none) :
    r.abortWorker t = r := by
  simp [abortWorker, hw]

/-- A worker that does not wait for a slot is aborted by a turn of its own. -/
theorem abortWorker_of_left {r : Run} {t : Ticket} {s : OpenStage} {w : Worker}
    (hw : r.worker? t = some (s, w)) (hleft : w.point.isQueued = false) :
    r.abortWorker t = r.turn t Worker.abort := by
  simp [abortWorker, hw, hleft]

/-- Aborting a worker that waits for a slot takes it out of the queue. -/
theorem abortWorker_of_queued {r : Run} {t : Ticket} {s : OpenStage} {w : Worker}
    (hw : r.worker? t = some (s, w)) (hpt : w.point = .queued) :
    r.abortWorker t = { (r.modifyExecution t.execution fun e =>
      { e with current := some (s.put w.abort.worker) }) with pool := r.pool.withdraw t } := by
  simp [abortWorker, hw, hpt, Point.isQueued, modifyExecution]

theorem carries_abortWorker {r : Run} (h : r.Sound) (t : Ticket) : r.Carries (r.abortWorker t) := by
  cases hw : r.worker? t with
  | none =>
      rw [abortWorker_of_none hw]
      exact .refl h
  | some p =>
      obtain ⟨s, w⟩ := p
      cases hq : w.point.isQueued with
      | false =>
          rw [abortWorker_of_left hw hq]
          refine carries_turn (a := .abort) h ⟨"", false, fun _ => rfl⟩ (by simp) ?_
          intro s' w' hw' hpt
          obtain ⟨rfl, rfl⟩ : s = s' ∧ w = w' := by simpa [hw] using hw'
          simp [hpt, Point.isQueued] at hq
      | true =>
          have hpt := Point.eq_queued_of_isQueued hq
          have hmade := Worker.abort_of_queued hpt
          have hsound := Worker.sound_abort_of_queued (worker_sound h hw) hpt
          rw [hmade] at hsound
          rw [abortWorker_of_queued hw hpt, hmade]
          exact carries_put h hw hsound (.refl _) rfl rfl rfl rfl
            (by simp [modifyExecution, OpenStage.noteOutcome, Point.wasAborted]) rfl

theorem carries_abort {r : Run} (h : r.Sound) (k : Nat) : r.Carries (r.abort k) := by
  unfold abort
  split
  · split
    · exact .refl h
    · exact carries_foldl (fun q t hq => carries_abortWorker hq t) h _
  · exact .refl h

/-! ### Going on -/

/-- An execution comes to its end as it should. -/
theorem carries_conclude {r : Run} (h : r.Sound) {k : Nat} {e : Execution} {ending : Ending}
    (he : r.executions[k]? = some e) (hc : e.Carries (e.finish ending))
    (haborted : ending = .aborted → r.cancelRequested = true) :
    r.Carries (r.conclude k ending) := by
  have hconclude : r.conclude k ending =
      { (r.modifyExecution k fun _ => e.finish ending) with
        tally := r.tally ++ (e.finish ending).finalTally ending.status } := by
    simp [conclude, he, modifyExecution]
  rw [hconclude]
  exact carries_replace h he hc rfl rfl rfl (modifyExecution_eq_set he fun _ => e.finish ending)
    (fun ha => haborted (Option.some.inj ha)) (h.queue k e he) fun _ _ => rfl

/-- An abort cancels the run and ends the execution. -/
theorem carries_concludeAborted {r : Run} (h : r.Sound) {k : Nat} {e : Execution}
    (he : r.executions[k]? = some e) (hending : e.ending = none) :
    r.Carries (r.perform k e .concludeAborted) := by
  have hcancel := carries_cancel h abortText
  obtain ⟨f, hf, _⟩ := hcancel.executions k e he
  have hfending : f.ending = none := by
    have hsame := congrArg (·[k]?) (endings_cancel r abortText)
    simpa [he, hf, hending] using hsame
  have hfs := hcancel.sound.executions f (List.mem_of_getElem? hf)
  exact hcancel.trans (carries_conclude hcancel.sound hf (Execution.carries_abort hfs hfending)
    fun _ => cancelRequested_cancel r abortText)

/-- The instances of a stage that is opened join the queue. -/
theorem carries_openStage {r : Run} (h : r.Sound) {k : Nat} {e : Execution} {s : StageReport}
    {rest : List StageReport} (he : r.executions[k]? = some e) (hending : e.ending = none)
    (hcur : e.current = none) (hfut : e.future = s :: rest) :
    r.Carries (r.perform k e (.openStage s rest)) := by
  have hes := h.executions e (List.mem_of_getElem? he)
  refine carries_replace h he (Execution.carries_openStage hes hfut hending hcur) rfl rfl rfl
    (modifyExecution_eq_set he fun e =>
      { e with current := some (.ofReport s), future := rest })
    (h.aborted e (List.mem_of_getElem? he)) ?_ ?_
  · have hbefore := h.queue k e he
    rw [queuedOf_of_none hcur] at hbefore
    rw [queuedOf_of_current rfl, OpenStage.queued_ofReport]
    simp only [perform, Pool.request, modifyExecution, List.filter_append, hbefore]
    simp [List.filter_map, Function.comp_def, OpenStage.ofReport]
  · intro j hj
    simp only [perform, Pool.request, modifyExecution, List.filter_append]
    simp [Ne.symm hj]

/-- What an execution does by itself carries the run on. -/
theorem carries_perform {r : Run} (h : r.Sound) {k : Nat} {e : Execution} {n : Execution.Next}
    {halted : Bool} (he : r.executions[k]? = some e) (hn : e.next halted = some n) :
    r.Carries (r.perform k e n) := by
  have hes := h.executions e (List.mem_of_getElem? he)
  obtain ⟨hending, hcases⟩ := Execution.next_cases hn
  rcases hcases with ⟨s, hs, habort, rfl⟩ | ⟨s, hs, habort, hover, rfl⟩ | ⟨hcur, hfut, rfl⟩ |
    ⟨s, rest, reason, hcur, hfut, _, rfl⟩ | ⟨s, rest, hcur, hfut, _, _, rfl⟩
  · exact carries_concludeAborted h he hending
  · refine carries_modifyExecution (f := fun e => e.close r.config.failFast s) h he
      (Execution.carries_close hes hs hending hover habort _) rfl ?_
    rw [queuedOf_of_current hs, OpenStage.queued_eq_nil_of_isOver hover]
    exact queuedOf_of_none rfl
  · exact carries_conclude h he (Execution.carries_conclude hes hending hcur hfut) (by simp)
  · refine carries_modifyExecution (f := fun e =>
      { e with past := e.past ++ [Execution.skipped s reason], future := rest }) h he
      (Execution.carries_skip hes hfut hending hcur reason) rfl ?_
    rw [queuedOf_of_none hcur]
    exact queuedOf_of_none hcur
  · exact carries_openStage h he hending hcur hfut

/-! ### Slots -/

/-- Whoever is let in stood at the front of the queue, and waited for nothing but a slot. -/
theorem exists_of_admit? {r r' : Run} (h : r.Sound) (hr : r.admit? = some r') :
    ∃ t p s w, r.pool.admit? = some (t, p) ∧ r.worker? t = some (s, w) ∧ w.point = .queued ∧
      p.waiting = r.pool.waiting.filter (· ≠ t) ∧
      r' = { r with pool := p }.turn t
        fun w => w.begin r.config.workingDir r.cancelRequested := by
  obtain ⟨⟨t, p⟩, hp, rfl⟩ := Option.map_eq_some_iff.1 hr
  obtain ⟨_, rest, hwaiting, rfl⟩ := Pool.admit?_eq_some_iff.1 hp
  have hin : t ∈ r.pool.waiting := hwaiting ▸ List.mem_cons_self ..
  obtain ⟨e, he⟩ : ∃ e, r.executions[t.execution]? = some e :=
    ⟨_, List.getElem?_eq_getElem (h.waiting t hin)⟩
  have hes := h.executions e (List.mem_of_getElem? he)
  obtain ⟨s, w, hw, hpt⟩ := exists_queued_of_mem_queuedOf he hes ((mem_waiting_iff h he).1 hin)
  refine ⟨t, _, s, w, hp, hw, hpt, ?_, rfl⟩
  -- nobody waits twice, so that only the front of the queue goes
  have hnodup : (r.pool.waiting.filter (·.execution = t.execution)).Nodup := by
    rw [h.queue _ e he]
    exact nodup_queuedOf hes
  have hnot : t ∉ rest := by
    rw [hwaiting, List.filter_cons_of_pos (by simp)] at hnodup
    intro ht
    exact (List.nodup_cons.1 hnodup).1 (List.mem_filter.2 ⟨ht, by simp⟩)
  rw [hwaiting, List.filter_cons_of_neg (by simp)]
  exact (List.filter_eq_self.2 fun u hu => by simpa using fun hut : u = t => hnot (hut ▸ hu)).symm

theorem carries_admit? {r r' : Run} (h : r.Sound) (hr : r.admit? = some r') : r.Carries r' := by
  obtain ⟨t, p, s, w, _, hw, hpt, hwaiting, rfl⟩ := exists_of_admit? h hr
  obtain ⟨hsound, hleft, hbecomes⟩ :=
    Worker.sound_begin r.config.workingDir r.cancelRequested (worker_sound h hw) hpt
  have hturn := turn_eq (r := { r with pool := p })
    (f := fun w => w.begin r.config.workingDir r.cancelRequested) hw (by rw [hpt]; rfl) rfl
  rw [hturn]
  refine carries_put h hw hsound hbecomes hleft rfl rfl rfl rfl ?_
  rw [← hwaiting]
  exact waiting_leave p _

/-! ### Starting -/

/-- An execution of a plan that has done nothing yet. -/
theorem sound_of_planned {stages : List StageReport} (h : WellPlanned stages) :
    Execution.Sound { future := stages } where
  past := by simp
  workers := by simp
  distinct := by simp
  future s hs := ⟨(h.stages s hs).distinct, fun i hi =>
    .inl ((h.stages s hs).instances i hi).status_eq⟩
  returned := by simp

theorem opening_eq (r : Run) (stages : List StageReport) :
    r.opening stages = if r.cancelRequested
      then { future := stages.map (·.cancelPending "Run cancelled before start") }
      else { future := stages } := by
  unfold opening
  split <;> rfl

theorem sound_opening (r : Run) {stages : List StageReport} (h : WellPlanned stages) :
    (r.opening stages).Sound ∧
      List.Forall₂ StageReport.Becomes stages (r.opening stages).stages := by
  have hfresh := sound_of_planned h
  have hstages : Execution.stages { future := stages } = stages := by simp [Execution.stages]
  unfold opening
  split
  · have hc := Execution.carries_cancelPending hfresh "Run cancelled before start"
    have hall := hc.stages
    rw [hstages] at hall
    exact ⟨hc.sound, hall⟩
  · exact ⟨hfresh, hstages.symm ▸ StageReport.forall₂_becomes_refl stages⟩

theorem current_opening (r : Run) (stages : List StageReport) :
    (r.opening stages).current = none := by
  rw [opening_eq]
  split <;> rfl

theorem ending_opening (r : Run) (stages : List StageReport) :
    (r.opening stages).ending = none := by
  rw [opening_eq]
  split <;> rfl

theorem carries_launch {r r' : Run} (h : r.Sound) (hr : r.launch = .ok r') : r.Carries r' := by
  obtain ⟨stages, hplan, hr⟩ := exists_ok_of_bind hr
  obtain rfl := Except.ok.inj hr
  have hwell := wellPlanned_of_planOf hplan
  obtain ⟨hsound, hstages⟩ := sound_opening r hwell
  have hmem (e : Execution) (he : e ∈ r.executions ++ [r.opening stages]) :
      e ∈ r.executions ∨ e = r.opening stages := by simpa using he
  refine ⟨⟨?_, ?_, ?_, ?_, ?_, ?_⟩, rfl, rfl, fun hc => hc, ?_⟩
  · intro e he
    rcases hmem e he with he | rfl
    · exact h.planned e he
    · rw [StageReport.map_planned_eq hstages, hwell.map_planned]
      exact hplan
  · intro e he
    rcases hmem e he with he | rfl
    · exact h.executions e he
    · exact hsound
  · intro k e he
    by_cases hk : k < r.executions.length
    · rw [List.getElem?_append_left hk] at he
      exact h.queue k e he
    · obtain ⟨_, rfl⟩ : k = r.executions.length ∧ r.opening stages = e := by
        rw [List.getElem?_append_right (by omega), List.getElem?_singleton] at he
        split at he
        · rename_i hzero
          exact ⟨by omega, Option.some.inj he⟩
        · exact absurd he (by simp)
      rw [queuedOf_of_none (current_opening r stages)]
      refine List.filter_eq_nil_iff.2 fun t ht => ?_
      have hlt := h.waiting t ht
      simp only [decide_eq_true_eq]
      omega
  · intro t ht
    rw [List.length_append]
    exact Nat.lt_add_right _ (h.waiting t ht)
  · intro hc e he
    obtain rfl : r.opening stages = e := by simpa using he
    have hcancelled : r.opening stages =
        Execution.cancelPending { future := stages } "Run cancelled before start" := by
      rw [opening, if_pos hc]
    rw [hcancelled]
    exact Execution.ne_pending_cancelPending _ _
  · intro e he hending
    rcases hmem e he with he | rfl
    · exact h.aborted e he hending
    · exact absurd (hending.symm.trans (ending_opening r stages)) (by simp)
  · intro k e he
    have hk := (List.getElem?_eq_some_iff.1 he).1
    exact ⟨e, by rw [List.getElem?_append_left hk, he],
      .refl (h.executions e (List.mem_of_getElem? he))⟩

/-! ### Events -/

theorem carries_answered {r : Run} (h : r.Sound) (t : Ticket) (reply : Reply) :
    r.Carries (r.answered t reply) := by
  rw [answered_eq]
  refine carries_turn h ⟨_, _, fun _ => rfl⟩ reply.act_ne_begin fun _ _ _ _ => ?_
  cases reply <;> simp [Reply.act]

theorem exists_of_abortLate? {r r' : Run} {k : Nat} (h : r.abortLate? k = some r') :
    ∃ e s, r.executions[k]? = some e ∧ e.current = some s ∧ e.ending = none ∧ s.isOver = true ∧
      r' = r.perform k e .concludeAborted := by
  obtain ⟨e, he, h⟩ := Option.bind_eq_some_iff.1 h
  obtain ⟨s, hs, h⟩ := Option.bind_eq_some_iff.1 h
  split at h
  · rename_i hcond
    obtain ⟨hending, hover⟩ := Bool.and_eq_true_iff.1 hcond
    exact ⟨e, s, he, hs, by simpa using hending, hover, (Option.some.inj h).symm⟩
  · exact absurd h (by simp)

theorem exists_of_advance? {r r' : Run} {k : Nat} (h : r.advance? k = some r') :
    ∃ e n, r.executions[k]? = some e ∧ e.next r.cancelRequested = some n ∧
      r' = r.perform k e n := by
  obtain ⟨e, he, h⟩ := Option.bind_eq_some_iff.1 h
  obtain ⟨n, hn, h⟩ := Option.bind_eq_some_iff.1 h
  exact ⟨e, n, he, hn, (Option.some.inj h).symm⟩

/-- **Every event carries a run on.** -/
theorem carries_after {r r' : Run} {ev : Event} (h : r.Sound) (hr : r.after ev = some r') :
    r.Carries r' := by
  cases ev with
  | execute => exact carries_launch h (launch_of_after hr)
  | answer t reply => exact (answered_of_after hr).2 ▸ carries_answered h t reply
  | cancel reason => exact Option.some.inj hr ▸ carries_cancel h reason
  | abort k => exact Option.some.inj hr ▸ carries_abort h k
  | abortLate k =>
      obtain ⟨e, s, he, _, hending, _, rfl⟩ := exists_of_abortLate? hr
      exact carries_concludeAborted h he hending
  | advance k =>
      obtain ⟨e, n, he, hn, rfl⟩ := exists_of_advance? hr
      exact carries_perform h he hn
  | grant => exact carries_admit? h hr

/-- **And so do all of them together.** -/
theorem carries_afterAll {r r' : Run} {evs : List Event} (h : r.Sound)
    (hr : r.afterAll evs = some r') : r.Carries r' := by
  refine afterAll_induction (P := r.Carries) hr (.refl h) ?_
  intro q q' ev hq hev
  exact hq.trans (carries_after hq.sound hev)

theorem Reachable.sound {r : Run} (h : r.Reachable) : r.Sound := by
  obtain ⟨id, p, c, evs, hevs⟩ := h
  exact (carries_afterAll (sound_create id p c) hevs).sound

end Run

end Conveyor
