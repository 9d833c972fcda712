/-
**What an event does to one worker.**

An event is about one worker, about all workers of an execution, or about an execution as a whole.
Seen from one worker it is at most one turn: it makes the worker act or leaves it where it stands,
or else it puts the stage of the worker behind or opens it.

Main definitions:

* `Conveyor.Run.actOn` — what an event makes a worker do;
* `Conveyor.Run.Concerns` — how an event concerns a worker.

Main results:

* `Conveyor.Run.cases_of_actOn` — what an event may make a worker do;
* `Conveyor.Run.cancel_cases`, `Conveyor.Run.abort_cases` — calling off, seen from one worker;
* `Conveyor.Run.concerns_after` — **every event concerns every worker in one of these ways**.
-/

import Conveyor.Proofs.Run.Ticket

set_option autoImplicit false

namespace Conveyor

namespace Run

/-- What a cancel makes every worker do: the second one does nothing. -/
def cancelAct (r : Run) : Option Act := if r.cancelRequested then none else some .interrupt

/-- What an event makes the worker of a ticket do. -/
def actOn (r : Run) (t : Ticket) : Event → Option Act
  | .execute => none
  | .answer u reply => if u = t then some reply.act else none
  | .cancel _ | .abortLate _ => r.cancelAct
  | .abort k =>
    if t.execution = k ∧ r.executions[k]?.any (fun e => e.ending.isNone) then some .abort else none
  | .advance k =>
    match r.executions[k]?.bind fun e => e.next r.cancelRequested with
    | some .concludeAborted => r.cancelAct
    | _ => none
  | .grant => if r.pool.waiting.head? = some t then some .begin else none

/-- Whoever acts is interrupted or aborted, or is given an answer or its slot. -/
theorem cases_of_actOn {r : Run} {t : Ticket} {ev : Event} {a : Act}
    (hact : r.actOn t ev = some a) :
    a = .interrupt ∨ (∃ k, ev = .abort k ∧ a = .abort) ∨
      (∃ reply, ev = .answer t reply ∧ a = reply.act) ∨
        (ev = .grant ∧ a = .begin ∧ r.pool.waiting.head? = some t) := by
  have hcancel (h : r.cancelAct = some a) : a = .interrupt := by
    unfold cancelAct at h
    split at h
    · cases h
    · exact (Option.some.inj h).symm
  cases ev with
  | execute => cases hact
  | answer u reply =>
      obtain ⟨rfl, ha⟩ := Option.ite_none_right_eq_some.1 hact
      exact .inr (.inr (.inl ⟨reply, rfl, (Option.some.inj ha).symm⟩))
  | cancel reason => exact .inl (hcancel hact)
  | abortLate k => exact .inl (hcancel hact)
  | abort k =>
      obtain ⟨_, ha⟩ := Option.ite_none_right_eq_some.1 hact
      exact .inr (.inl ⟨k, rfl, (Option.some.inj ha).symm⟩)
  | advance k =>
      simp only [actOn] at hact
      split at hact
      · exact .inl (hcancel hact)
      · cases hact
  | grant =>
      obtain ⟨hfront, ha⟩ := Option.ite_none_right_eq_some.1 hact
      exact .inr (.inr (.inr ⟨rfl, (Option.some.inj ha).symm, hfront⟩))

/-- Whether the stage of a ticket is behind. -/
def IsBehind (r : Run) (t : Ticket) : Prop :=
  ∃ e, r.executions[t.execution]? = some e ∧ t.stage ∈ e.past.map StageReport.name

/-- How an event that leads from one run to another one concerns the worker of a ticket. -/
inductive Concerns (r : Run) (ev : Event) (r' : Run) (t : Ticket) : Prop
  | rests (hact : r.standing t = none ∨ r.actOn t ev = none) (h : Unmoved r r' t)
  | acts (a : Act) (hact : r.actOn t ev = some a) (h : Turns r r' t a)
  | closes (s : OpenStage) (w : Worker) (hact : r.actOn t ev = none)
      (hw : r.worker? t = some (s, w)) (hended : w.point.hasEnded = true)
      (hstanding : r'.standing t = none) (hnotes : r'.notesFor t = r.notesFor t)
      (hbehind : r'.IsBehind t)
  | opens (i : JobInstance) (hstanding : r.standing t = none)
      (hopen : r'.standing t = some (.queued, i)) (hnotes : r'.notesFor t = r.notesFor t)
      (hbehind : ¬ r.IsBehind t)

theorem Carries.isBehind {r r' : Run} (h : r.Carries r') {t : Ticket} (ht : r.IsBehind t) :
    r'.IsBehind t := by
  obtain ⟨e, he, hmem⟩ := ht
  obtain ⟨e', he', hc⟩ := h.executions _ e he
  exact ⟨e', he', hc.past.subset hmem⟩

/-- A worker that may or may not be called off. -/
theorem concerns_of_cases {r r' : Run} {ev : Event} {t : Ticket} {a : Act}
    (hact : r.actOn t ev = some a) (h : (r.standing t = none → Unmoved r r' t) ∧
      (r.standing t ≠ none → Turns r r' t a)) : Concerns r ev r' t := by
  by_cases hs : r.standing t = none
  · exact .rests (.inl hs) (h.1 hs)
  · exact .acts a hact (h.2 hs)

/-! ### Calling off -/

theorem unmoved_marked (r : Run) (reason : String) (t : Ticket) :
    Unmoved r (r.marked reason) t := by
  have h : Unmoved r (r.modifyExecution (r.executions.length - 1) (·.cancelPending reason)) t :=
    unmoved_modifyExecution t fun e _ _ => e.standing_cancelPending reason _ _
  exact ⟨h.standing, h.notes⟩

/-- The first cancel interrupts every worker. -/
theorem cancel_cases {r : Run} (h : r.Sound) (hc : r.cancelRequested = false) (reason : String)
    (t : Ticket) : (r.standing t = none → Unmoved r (r.cancel reason) t) ∧
      (r.standing t ≠ none → Turns r (r.cancel reason) t .interrupt) := by
  have hm := (carries_marked h reason).sound
  have hmarked := unmoved_marked r reason t
  obtain ⟨hout, hin⟩ := turns_foldl (t := t) (a := .interrupt) rfl
    (fun q u hq => carries_interrupt hq u)
    (fun q u hq hut => unmoved_turn hq hut fun s w _ => by rw [Worker.inst_interrupt])
    (fun q s w hq hw => turns_turn hq hw ⟨"", false, fun _ => rfl⟩ (by simp)) hm (nodup_tickets hm)
  rw [mem_tickets_iff hm, hmarked.standing] at hout hin
  rw [cancel_eq reason hc]
  exact ⟨fun hs => hmarked.trans (hout (not_not.2 hs)), fun hs => hmarked.turns (hin hs hs) rfl⟩

theorem concerns_of_cancel {r r' : Run} {ev : Event} {t : Ticket} (h : r.Sound)
    (hact : r.actOn t ev = r.cancelAct) (reason : String)
    (hafter : Unmoved (r.cancel reason) r' t) : Concerns r ev r' t := by
  cases hc : r.cancelRequested with
  | true =>
      rw [cancel, if_pos hc] at hafter
      exact .rests (.inr (by rw [hact, cancelAct, if_pos hc])) hafter
  | false =>
      obtain ⟨hout, hin⟩ := cancel_cases h hc reason t
      refine concerns_of_cases (a := .interrupt) (by simp [hact, cancelAct, hc]) ⟨?_, ?_⟩
      · exact fun hs => (hout hs).trans hafter
      · exact fun hs => (hin hs).unmoved hafter

theorem unmoved_abortWorker {r : Run} (h : r.Sound) {t u : Ticket} (hut : u ≠ t) :
    Unmoved r (r.abortWorker u) t := by
  unfold abortWorker
  split
  · rename_i s w hw
    have hplanned := Worker.planned_abort (worker_sound h hw)
    split
    · rename_i hq
      have hput := standing_put h hw hplanned false t
      rw [if_neg (Ne.symm hut)] at hput
      refine ⟨?_, rfl⟩
      refine Eq.trans ?_ hput
      simp only [OpenStage.noteOutcome, Bool.false_eq_true, false_and, and_false, if_false]
      rfl
    · refine unmoved_turn h hut fun s' w' hw' => ?_
      obtain ⟨rfl, rfl⟩ : s = s' ∧ w = w' := by simpa [hw] using hw'
      exact hplanned
  · exact .refl r t

theorem turns_abortWorker {r : Run} (h : r.Sound) {t : Ticket} {s : OpenStage} {w : Worker}
    (hw : r.worker? t = some (s, w)) : Turns r (r.abortWorker t) t .abort := by
  cases hq : w.point.isQueued with
  | false =>
      rw [abortWorker_of_left hw hq]
      exact turns_turn h hw ⟨"", false, fun _ => rfl⟩ (by simp)
  | true =>
      have hpt := Point.eq_queued_of_isQueued hq
      have hmade := Worker.abort_of_queued hpt
      rw [abortWorker_of_queued hw hpt]
      refine ⟨s, w, "", false, hw, by simp, ?_, ?_⟩
      · have hplanned : ({ w with point := .ended true } : Worker).inst.planned =
            w.inst.planned := rfl
        have hput := standing_put h hw hplanned false t
        rw [if_pos rfl] at hput
        simp only [Worker.act, hmade]
        exact hput
      · simp [Worker.act, hmade, notesFor, modifyExecution]

/-- An abort calls off every worker of an execution that has not ended. -/
theorem abort_cases {r : Run} (h : r.Sound) {t : Ticket} {e : Execution}
    (he : r.executions[t.execution]? = some e) (hending : e.ending = none) :
    (r.standing t = none → Unmoved r (r.abort t.execution) t) ∧
      (r.standing t ≠ none → Turns r (r.abort t.execution) t .abort) := by
  have hes := h.executions e (List.mem_of_getElem? he)
  obtain ⟨hout, hin⟩ := turns_foldl (t := t) (a := .abort) rfl
    (fun q u hq => carries_abortWorker hq u) (fun q u hq hut => unmoved_abortWorker hq hut)
    (fun q s w hq hw => turns_abortWorker hq hw) h (nodup_ticketsOf (k := t.execution) hes)
  rw [mem_ticketsOf_iff he hes] at hout hin
  have habort : r.abort t.execution = (ticketsOf t.execution e).foldl abortWorker r := by
    simp [abort, he, hending]
  rw [habort]
  exact ⟨fun hs => hout (not_not.2 hs), fun hs => hin hs hs⟩

theorem concerns_abort {r : Run} (h : r.Sound) (k : Nat) (t : Ticket) :
    Concerns r (.abort k) (r.abort k) t := by
  cases he : r.executions[k]? with
  | none =>
      have hsame : r.abort k = r := by simp [abort, he]
      rw [hsame]
      exact .rests (.inr (by simp [actOn, he])) (.refl r t)
  | some e =>
      cases hending : e.ending with
      | some ending =>
          have hsame : r.abort k = r := by simp [abort, he, hending]
          rw [hsame]
          exact .rests (.inr (by simp [actOn, he, hending])) (.refl r t)
      | none =>
          by_cases hk : t.execution = k
          · subst hk
            exact concerns_of_cases (by simp [actOn, he, hending]) (abort_cases h he hending)
          · have hnot : t ∉ ticketsOf k e := fun ht => hk (execution_of_mem_ticketsOf ht)
            have habort : r.abort k = (ticketsOf k e).foldl abortWorker r := by
              simp [abort, he, hending]
            rw [habort]
            refine .rests (.inr (by simp [actOn, hk])) ?_
            exact (foldl_cases (R := (Unmoved · · t)) (fun q => .refl q t)
              (fun _ _ _ => Unmoved.trans) (fun q u hq => carries_abortWorker hq u)
              (fun q u hq hut => unmoved_abortWorker hq hut) h
              (nodup_ticketsOf (h.executions e (List.mem_of_getElem? he)))).1 hnot

/-! ### Going on -/

theorem unmoved_conclude (r : Run) (k : Nat) (ending : Ending) (t : Ticket) :
    Unmoved r (r.conclude k ending) t := by
  unfold conclude
  split
  · exact .refl r t
  · rename_i e he
    have h : Unmoved r (r.modifyExecution k fun _ => e.finish ending) t := by
      refine unmoved_modifyExecution t fun f hf _ => ?_
      obtain rfl : e = f := Option.some.inj (he.symm.trans hf)
      rfl
    exact ⟨h.standing, h.notes⟩

theorem concerns_close {r : Run} {k : Nat} {e : Execution} {s : OpenStage}
    {t : Ticket} (he : r.executions[k]? = some e) (hs : e.current = some s)
    (hover : s.isOver = true) (hact : r.actOn t (.advance k) = none) :
    Concerns r (.advance k) (r.perform k e (.close s)) t := by
  by_cases hk : t.execution = k
  · subst hk
    have hgone : (r.perform t.execution e (.close s)).standing t = none := by
      rw [perform, standing_modifyExecution, he]
      simp [Execution.close, Execution.standing]
    cases hw : r.worker? t with
    | none =>
        have hnone : r.standing t = none := standing_eq_none_iff.2 hw
        exact .rests (.inl hnone) ⟨hgone.trans hnone.symm, rfl⟩
    | some p =>
        obtain ⟨o, w⟩ := p
        obtain ⟨e', he', hs', hname, hv⟩ := worker?_eq_some hw
        obtain rfl : e = e' := Option.some.inj (he.symm.trans he')
        obtain rfl : s = o := Option.some.inj (hs.symm.trans hs')
        have hended : w.point.hasEnded = true :=
          List.all_eq_true.1 hover w (List.mem_of_find?_eq_some hv)
        refine .closes s w hact hw hended hgone rfl ⟨e.close r.config.failFast s, ?_, ?_⟩
        · rw [perform, modifyExecution_eq_set he fun e => e.close r.config.failFast s]
          exact List.getElem?_set_self (List.getElem?_eq_some_iff.1 he).1
        · simp [Execution.close, StageReport.finalize, OpenStage.report, hname]
  · refine .rests (.inr hact) (unmoved_modifyExecution t fun f _ hf => absurd hf hk)

theorem concerns_openStage {r : Run} (h : r.Sound) {k : Nat} {e : Execution} {s : StageReport}
    {rest : List StageReport} {t : Ticket} (he : r.executions[k]? = some e)
    (hcur : e.current = none) (hfut : e.future = s :: rest)
    (hact : r.actOn t (.advance k) = none) :
    Concerns r (.advance k) (r.perform k e (.openStage s rest)) t := by
  by_cases hk : t.execution = k
  · subst hk
    have hnone : r.standing t = none := by
      rw [standing, he, Option.bind_some, Execution.standing_of_none hcur]
    have hopen : (r.perform t.execution e (.openStage s rest)).standing t =
        if s.name = t.stage then (OpenStage.ofReport s).standing t.identity else none := by
      refine (standing_modifyExecution r t.execution (fun e =>
        { e with current := some (.ofReport s), future := rest }) t).trans ?_
      rw [he, Option.bind_some, if_pos rfl]
      rfl
    cases hx : (r.perform t.execution e (.openStage s rest)).standing t with
    | none => exact .rests (.inl hnone) ⟨hx.trans hnone.symm, rfl⟩
    | some x =>
        rw [hopen] at hx
        split at hx
        · rename_i hname
          obtain ⟨w, hw, rfl⟩ := Option.map_eq_some_iff.1 hx
          obtain ⟨i, _, rfl⟩ := List.mem_map.1 (List.mem_of_find?_eq_some hw)
          refine .opens i.planned hnone ?_ rfl ?_
          · rw [hopen, if_pos hname, hx]
            rfl
          · -- a stage that was put behind does not open again: no two stages have one name
            rintro ⟨e', he', hmem⟩
            obtain rfl : e = e' := Option.some.inj (he.symm.trans he')
            have hd := h.nodup_stageNames (List.mem_of_getElem? he)
            simp only [Execution.stages, hcur, hfut, Option.toList_none, List.map_nil,
              List.append_nil, List.map_append, List.map_cons] at hd
            exact (List.nodup_append.1 hd).2.2 _ hmem _ (List.mem_cons_self ..) hname.symm
        · exact absurd hx (by simp)
  · have h' : Unmoved r (r.modifyExecution k fun e =>
        { e with current := some (.ofReport s), future := rest }) t :=
      unmoved_modifyExecution t fun f _ hf => absurd hf hk
    exact .rests (.inr hact) ⟨h'.standing, h'.notes⟩

theorem concerns_advance {r r' : Run} (h : r.Sound) {k : Nat} (hr : r.advance? k = some r')
    (t : Ticket) : Concerns r (.advance k) r' t := by
  obtain ⟨e, n, he, hn, rfl⟩ := exists_of_advance? hr
  obtain ⟨_, hcases⟩ := Execution.next_cases hn
  rcases hcases with ⟨s, _, _, rfl⟩ | ⟨s, hs, _, hover, rfl⟩ | ⟨_, _, rfl⟩ |
    ⟨s, rest, reason, hcur, _, _, rfl⟩ | ⟨s, rest, hcur, hfut, _, _, rfl⟩
  · exact concerns_of_cancel h (by simp [actOn, he, hn]) abortText (unmoved_conclude _ k .aborted t)
  · exact concerns_close he hs hover (by simp [actOn, he, hn])
  · exact .rests (.inr (by simp [actOn, he, hn])) (unmoved_conclude r k _ t)
  · refine .rests (.inr (by simp [actOn, he, hn])) (unmoved_modifyExecution t fun f hf _ => ?_)
    obtain rfl : e = f := Option.some.inj (he.symm.trans hf)
    rw [Execution.standing_of_none hcur]
    exact Execution.standing_of_none hcur ..
  · exact concerns_openStage h he hcur hfut (by simp [actOn, he, hn])

theorem concerns_grant {r r' : Run} (h : r.Sound) (hr : r.admit? = some r') (t : Ticket) :
    Concerns r .grant r' t := by
  obtain ⟨u, p, s, w, hp, hw, hpt, _, rfl⟩ := exists_of_admit? h hr
  obtain ⟨_, rest, hwaiting, _⟩ := Pool.admit?_eq_some_iff.1 hp
  have hfront : r.pool.waiting.head? = some u := by rw [hwaiting, List.head?_cons]
  have hplanned : (w.begin r.config.workingDir r.cancelRequested).worker.inst.planned =
      w.inst.planned :=
    (Worker.sound_begin _ _ (worker_sound h hw) hpt).2.2.planned
  have hturn := turn_eq (r := { r with pool := p })
    (f := fun w => w.begin r.config.workingDir r.cancelRequested) hw (by rw [hpt]; rfl) rfl
  have hput := standing_put h hw hplanned r.config.failFast t
  rw [hturn]
  by_cases hut : u = t
  · subst hut
    rw [if_pos rfl] at hput
    refine .acts .begin (by simp [actOn, hfront]) ⟨s, w, _, _, hw, fun _ => hpt, ?_,
      notesFor_append_self r u _⟩
    rw [Worker.act, ← hplanned]
    exact hput
  · rw [if_neg (Ne.symm hut)] at hput
    exact .rests (.inr (by simp [actOn, hfront, hut])) ⟨hput, notesFor_append_of_ne r hut _⟩

/-! ### All events -/

theorem unmoved_launch {r r' : Run} (hr : r.launch = .ok r') (t : Ticket) : Unmoved r r' t := by
  obtain ⟨stages, _, hr⟩ := exists_ok_of_bind hr
  obtain rfl := Except.ok.inj hr
  refine ⟨?_, rfl⟩
  simp only [standing]
  by_cases hk : t.execution < r.executions.length
  · rw [List.getElem?_append_left hk]
  · have hnone : r.executions[t.execution]? = none := List.getElem?_eq_none (by omega)
    rw [List.getElem?_append_right (by omega), hnone, List.getElem?_singleton]
    split
    · exact Execution.standing_of_none (current_opening r stages) ..
    · rfl

theorem concerns_answer {r : Run} (h : r.Sound) {u : Ticket} {reply : Reply}
    (hawaits : r.awaits u reply = true) (t : Ticket) :
    Concerns r (.answer u reply) (r.answered u reply) t := by
  obtain ⟨s, w, hw, _⟩ := exists_of_awaits hawaits
  rw [answered_eq]
  by_cases hut : u = t
  · subst hut
    exact .acts reply.act (by simp [actOn])
      (turns_turn h hw ⟨_, _, fun _ => rfl⟩ reply.act_ne_begin)
  · refine .rests (.inr (by simp [actOn, hut])) (unmoved_turn h hut fun s' w' hw' => ?_)
    exact (Worker.becomes_act (worker_sound h hw') fun hb => absurd hb reply.act_ne_begin).planned

/-- **Every event concerns every worker in one of these ways.** -/
theorem concerns_after {r r' : Run} {ev : Event} (h : r.Sound) (hr : r.after ev = some r')
    (t : Ticket) : Concerns r ev r' t := by
  cases ev with
  | execute => exact .rests (.inr rfl) (unmoved_launch (launch_of_after hr) t)
  | answer u reply =>
      obtain ⟨hawaits, rfl⟩ := answered_of_after hr
      exact concerns_answer h hawaits t
  | cancel reason =>
      exact Option.some.inj hr ▸ concerns_of_cancel h rfl reason (.refl _ t)
  | abort k => exact Option.some.inj hr ▸ concerns_abort h k t
  | abortLate k =>
      obtain ⟨e, s, he, _, _, _, rfl⟩ := exists_of_abortLate? hr
      exact concerns_of_cancel h rfl abortText (unmoved_conclude _ k .aborted t)
  | advance k => exact concerns_advance h hr t
  | grant => exact concerns_grant h hr t

end Run

end Conveyor
