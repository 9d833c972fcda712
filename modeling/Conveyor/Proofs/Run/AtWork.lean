/-
**A worker that is at work minds its own calls.**

Whatever fails or is called off beside it, a worker that holds a slot stays as it is until something
happens to itself, and then its own turn says what becomes of it.

Main definitions:

* `Conveyor.Run.Spared` — a worker is left as it is;
* `Conveyor.Run.instance?` — the instance of a ticket;
* `Conveyor.Run.actsOn` — what events make a worker do, one after the other.

Main results:

* `Conveyor.Run.worker?_after` — **what an event makes of a worker that is at work**;
* `Conveyor.Run.instance?_afterAll` — **what all events together make of its instance**.
-/

import Conveyor.Proofs.Execution.FailFast
import Conveyor.Proofs.Run.Concerns
import Conveyor.Proofs.Run.Step

set_option autoImplicit false

namespace Conveyor

/-- Whoever makes a turn stands in the open stage afterwards, if it is not pending then. -/
theorem OpenStage.mem_turn_self {s : OpenStage} {failFast : Bool} {v w : Worker}
    (hv : v ∈ s.workers) (hid : w.inst.identity = v.inst.identity)
    (hp : w.inst.status ≠ .pending) : w ∈ ((s.put w).noteOutcome failFast w).workers := by
  obtain ⟨f, hf, _, hcases⟩ := (s.put w).exists_workers_noteOutcome failFast w
  have hput : w ∈ (s.put w).workers := List.mem_map.2 ⟨v, hv, if_pos hid.symm⟩
  rw [hf]
  refine List.mem_map.2 ⟨w, hput, ?_⟩
  rcases hcases w with he | ⟨reason, he⟩
  · exact he
  · rw [he, StageReport.cancelIfPending_of_ne hp]

namespace Run

/-! ### Others are left as they are -/

/-- The worker of a ticket is left as it is, unless it is pending. -/
def Spared (t : Ticket) (r r' : Run) : Prop :=
  ∀ s w, r.worker? t = some (s, w) → w.inst.status ≠ .pending → ∃ s', r'.worker? t = some (s', w)

theorem Spared.refl (t : Ticket) (r : Run) : Spared t r r := fun s _ hw _ => ⟨s, hw⟩

theorem Spared.trans {t : Ticket} {q r s : Run} (h : Spared t q r) (h' : Spared t r s) :
    Spared t q s := by
  intro o w hw hp
  obtain ⟨o', hw'⟩ := h o w hw hp
  exact h' o' w hw' hp

theorem worker?_congr {r r' : Run} {t : Ticket}
    (h : r'.executions[t.execution]? = r.executions[t.execution]?) :
    r'.worker? t = r.worker? t := by
  simp [worker?, h]

/-- One worker takes up another point, and the others are left as they are. -/
theorem spared_put {r r' : Run} (h : r.Sound) (h' : r'.Sound) {t u : Ticket} (hut : u ≠ t)
    {o : OpenStage} {w w' : Worker} {e : Execution} {failFast : Bool}
    (hw : r.worker? u = some (o, w)) (hid : w'.inst.identity = w.inst.identity)
    (he : r.executions[u.execution]? = some e)
    (hexecutions : r'.executions = r.executions.set u.execution
      { e with current := some ((o.put w').noteOutcome failFast w') }) : Spared t r r' := by
  intro s v hv hp
  obtain ⟨f, hf, _, hs, hname, hmem, hvid⟩ := h.exists_of_worker? hv
  obtain ⟨e', he', _, ho, honame, _, hwid⟩ := h.exists_of_worker? hw
  obtain rfl := Option.some.inj (he.symm.trans he')
  by_cases hk : u.execution = t.execution
  · rw [hk] at he hexecutions
    obtain rfl := Option.some.inj (he.symm.trans hf)
    obtain rfl := Option.some.inj (ho.symm.trans hs)
    -- both stand in the same stage, and two tickets differ in the identity then
    have hne : v.inst.identity ≠ w'.inst.identity := by
      intro heq
      have hids : u.identity = t.identity := by rw [← hwid, ← hid, ← heq, hvid]
      have hstages : u.stage = t.stage := honame.symm.trans hname
      refine hut ?_
      cases u
      cases t
      simp_all
    obtain ⟨_, _, hnote, _⟩ := (o.put w').exists_workers_noteOutcome failFast w'
    refine ⟨_, h'.worker?_eq_some (e := { e with
      current := some ((o.put w').noteOutcome failFast w') }) ?_ rfl (hnote.trans hname)
        (OpenStage.mem_turn_of_ne hmem hne hp) hvid⟩
    rw [hexecutions]
    exact List.getElem?_set_self (List.getElem?_eq_some_iff.1 he).1
  · refine ⟨s, ?_⟩
    rw [worker?_congr, hv]
    rw [hexecutions, List.getElem?_set_ne hk]

/-- Another worker is interrupted. -/
theorem spared_interrupt {r : Run} (h : r.Sound) {t u : Ticket} (hut : u ≠ t) :
    Spared t r (r.turn u Worker.interrupt) := by
  cases hw : r.worker? u with
  | none =>
      rw [turn_of_none _ hw]
      exact .refl t r
  | some p =>
      obtain ⟨o, w⟩ := p
      cases hlive : w.point.hasEnded with
      | true =>
          rw [turn_of_hasEnded _ hw hlive]
          exact .refl t r
      | false =>
          obtain ⟨e, he, _⟩ := h.exists_of_worker? hw
          exact spared_put h (carries_interrupt h u).sound hut hw
            (by rw [Worker.inst_interrupt]) he (executions_turn hw he hlive _)

/-- Another worker is aborted. -/
theorem spared_abortWorker {r : Run} (h : r.Sound) {t u : Ticket} (hut : u ≠ t) :
    Spared t r (r.abortWorker u) := by
  cases hw : r.worker? u with
  | none =>
      rw [abortWorker_of_none hw]
      exact .refl t r
  | some p =>
      obtain ⟨o, w⟩ := p
      obtain ⟨e, he, _⟩ := h.exists_of_worker? hw
      have h' := (carries_abortWorker h u).sound
      have hid := JobInstance.identity_eq_of_planned (Worker.planned_abort (worker_sound h hw))
      cases hq : w.point.isQueued with
      | true =>
          exact spared_put h h' hut hw hid he
            (executions_withdraw hw he (Point.eq_queued_of_isQueued hq))
      | false =>
          rw [abortWorker_of_left hw hq] at h' ⊢
          cases hlive : w.point.hasEnded with
          | true =>
              rw [turn_of_hasEnded _ hw hlive]
              exact .refl t r
          | false => exact spared_put h h' hut hw hid he (executions_turn hw he hlive _)

theorem spared_marked {r : Run} (h : r.Sound) (reason : String) (t : Ticket) :
    Spared t r (r.marked reason) := by
  intro s w hw hp
  obtain ⟨e, he, _, hs, hname, hmem, hid⟩ := h.exists_of_worker? hw
  by_cases hk : r.executions.length - 1 = t.execution
  · refine ⟨s.cancelPending reason, (carries_marked h reason).sound.worker?_eq_some
      (e := e.cancelPending reason) ?_ ?_ hname (List.mem_map.2 ⟨w, hmem, ?_⟩) hid⟩
    · simp [marked, modifyExecution, hk, he]
    · simp [Execution.cancelPending, hs]
    · rw [StageReport.cancelIfPending_of_ne hp]
  · refine ⟨s, (worker?_congr ?_).trans hw⟩
    simp [marked, modifyExecution, hk]

theorem worker?_conclude (r : Run) (k : Nat) (ending : Ending) (t : Ticket) :
    (r.conclude k ending).worker? t = r.worker? t := by
  unfold conclude
  split
  · rfl
  · rename_i e he
    by_cases hk : k = t.execution
    · subst hk
      simp only [worker?, modifyExecution_eq_set he]
      rw [List.getElem?_set_self (List.getElem?_eq_some_iff.1 he).1, he]
      rfl
    · refine worker?_congr ?_
      simp [modifyExecution, hk]

/-! ### Its own turn -/

/-- The worker of a ticket makes a turn other than the first one. -/
theorem worker?_turn {r : Run} (h : r.Sound) {t : Ticket} {s : OpenStage} {w : Worker} {a : Act}
    (hw : r.worker? t = some (s, w)) (hp : w.point.holdsSlot = true) (ha : a ≠ .begin)
    {f : Worker → Turn} (hf : ∀ w, f w = w.act r.config.workingDir r.cancelRequested a) :
    (f w).worker.inst.status ≠ .pending ∧
      ∃ s', (r.turn t f).worker? t = some (s', (f w).worker) := by
  have hcarries : w.Carries (f w).worker := by
    rw [hf]
    exact Worker.carries_act (worker_sound h hw) hp ha
  have hlive := (Point.live_of_holdsSlot hp).2
  obtain ⟨e, he, _, hs, hname, hmem, hid⟩ := h.exists_of_worker? hw
  have hsame := JobInstance.identity_eq_of_planned hcarries.planned
  have h' : r.Carries (r.turn t f) := by
    refine carries_turn (a := a) h ⟨_, _, hf⟩ ha fun s' w' hw' hpt => ?_
    obtain ⟨rfl, rfl⟩ := Prod.mk.inj (Option.some.inj (hw.symm.trans hw'))
    simp [hpt, Point.holdsSlot] at hp
  obtain ⟨_, _, hnote, _⟩ :=
    (s.put (f w).worker).exists_workers_noteOutcome r.config.failFast (f w).worker
  refine ⟨hcarries.touched, _, h'.sound.worker?_eq_some (e := { e with
    current := some ((s.put (f w).worker).noteOutcome r.config.failFast (f w).worker) }) ?_ rfl
      (hnote.trans hname) (OpenStage.mem_turn_self hmem hsame hcarries.touched)
      (hsame.trans hid)⟩
  rw [executions_turn hw he hlive]
  exact List.getElem?_set_self (List.getElem?_eq_some_iff.1 he).1

/-- What becomes of a worker that may or may not act. -/
def afterAct (r : Run) (w : Worker) : Option Act → Worker
  | none => w
  | some a => (w.act r.config.workingDir r.cancelRequested a).worker

theorem worker?_cancel {r : Run} (h : r.Sound) {t : Ticket} {s : OpenStage} {w : Worker}
    (hw : r.worker? t = some (s, w)) (hp : w.point.holdsSlot = true)
    (hne : w.inst.status ≠ .pending) (reason : String) :
    ∃ s', (r.cancel reason).worker? t = some (s', r.afterAct w r.cancelAct) := by
  cases hc : r.cancelRequested with
  | true =>
      rw [cancel, if_pos hc, cancelAct, if_pos hc]
      exact ⟨s, hw⟩
  | false =>
      have hm := (carries_marked h reason).sound
      obtain ⟨o, ho⟩ := spared_marked h reason t s w hw hne
      have hin : t ∈ (r.marked reason).tickets :=
        (mem_tickets_iff hm).2 (by rw [ne_eq, standing_eq_none_iff, ho]; simp)
      -- its own turn stands between those of the others, which spare it
      obtain ⟨q, hq, hbefore, hafter⟩ := (foldl_cases (R := Spared t) (.refl t)
        (fun _ _ _ => .trans) (fun q u hq => carries_interrupt hq u)
        (fun q u hq hut => spared_interrupt hq hut) hm (nodup_tickets hm)).2 hin
      obtain ⟨o', ho'⟩ := hbefore o w ho hne
      obtain ⟨hne', o'', ho''⟩ := worker?_turn (a := .interrupt) hq ho' hp (by simp)
        (f := Worker.interrupt) fun _ => rfl
      obtain ⟨s', hs'⟩ := hafter o'' _ ho'' hne'
      refine ⟨s', ?_⟩
      rw [cancel_eq reason hc, hs']
      simp [cancelAct, hc, afterAct, Worker.act]

theorem worker?_abort {r : Run} (h : r.Sound) {t : Ticket} {s : OpenStage} {w : Worker}
    (hw : r.worker? t = some (s, w)) (hp : w.point.holdsSlot = true)
    (hne : w.inst.status ≠ .pending) (k : Nat) :
    ∃ s', (r.abort k).worker? t = some (s', r.afterAct w (r.actOn t (.abort k))) := by
  cases he : r.executions[k]? with
  | none => exact ⟨s, by simpa [abort, he, actOn, afterAct] using hw⟩
  | some e =>
      cases hending : e.ending with
      | some ending => exact ⟨s, by simpa [abort, he, hending, actOn, afterAct] using hw⟩
      | none =>
          have hes := h.executions e (List.mem_of_getElem? he)
          have habort : r.abort k = (ticketsOf k e).foldl abortWorker r := by
            simp [abort, he, hending]
          have hcases := foldl_cases (R := Spared t) (.refl t) (fun _ _ _ => .trans)
            (fun q u hq => carries_abortWorker hq u)
            (fun q u hq hut => spared_abortWorker hq hut) h (nodup_ticketsOf (k := k) hes)
          rw [habort]
          by_cases hk : t.execution = k
          · subst hk
            have hin : t ∈ ticketsOf t.execution e :=
              (mem_ticketsOf_iff he hes).2 (by rw [ne_eq, standing_eq_none_iff, hw]; simp)
            obtain ⟨q, hq, hbefore, hafter⟩ := hcases.2 hin
            obtain ⟨o', ho'⟩ := hbefore s w hw hne
            rw [abortWorker_of_left ho' (Point.live_of_holdsSlot hp).1] at hafter
            obtain ⟨hne', o'', ho''⟩ := worker?_turn (a := .abort) hq ho' hp (by simp)
              (f := Worker.abort) fun _ => rfl
            obtain ⟨s', hs'⟩ := hafter o'' _ ho'' hne'
            refine ⟨s', ?_⟩
            rw [hs']
            simp [actOn, he, hending, afterAct, Worker.act]
          · have hnot : t ∉ ticketsOf k e := fun ht => hk (execution_of_mem_ticketsOf ht)
            obtain ⟨s', hs'⟩ := hcases.1 hnot s w hw hne
            exact ⟨s', by simpa [actOn, hk, afterAct] using hs'⟩

/-- An execution goes on by itself, and whoever is at work stays as it is. -/
theorem worker?_advance {r r' : Run} (h : r.Sound) {k : Nat} (hr : r.advance? k = some r')
    {t : Ticket} {s : OpenStage} {w : Worker} (hw : r.worker? t = some (s, w))
    (hp : w.point.holdsSlot = true) (hne : w.inst.status ≠ .pending) :
    ∃ s', r'.worker? t = some (s', r.afterAct w (r.actOn t (.advance k))) := by
  obtain ⟨e, n, he, hn, rfl⟩ := exists_of_advance? hr
  obtain ⟨f, hf, _, hs, _, hmem, _⟩ := h.exists_of_worker? hw
  -- another execution goes on, since this one has to wait
  have hother (g : Execution → Execution) (hk : k ≠ t.execution) :
      (r.modifyExecution k g).worker? t = some (s, w) := by
    refine (worker?_congr ?_).trans hw
    simp [modifyExecution, hk]
  have hwaits (hcur : e.current = none) : k ≠ t.execution := by
    rintro rfl
    obtain rfl := Option.some.inj (he.symm.trans hf)
    exact absurd (hcur.symm.trans hs) (by simp)
  obtain ⟨_, hcases⟩ := Execution.next_cases hn
  rcases hcases with ⟨o, _, _, rfl⟩ | ⟨o, ho, _, hover, rfl⟩ | ⟨_, _, rfl⟩ |
    ⟨o, rest, reason, hcur, _, _, rfl⟩ | ⟨o, rest, hcur, _, _, _, rfl⟩
  · obtain ⟨s', hs'⟩ := worker?_cancel h hw hp hne abortText
    refine ⟨s', ?_⟩
    rw [perform, worker?_conclude, hs']
    simp [actOn, he, hn]
  · have hk : k ≠ t.execution := by
      rintro rfl
      obtain rfl := Option.some.inj (he.symm.trans hf)
      obtain rfl := Option.some.inj (ho.symm.trans hs)
      exact OpenStage.not_isOver_of_holdsSlot hmem hp hover
    exact ⟨s, by simpa [perform, actOn, he, hn, afterAct] using hother _ hk⟩
  · exact ⟨s, by simpa [perform, worker?_conclude, actOn, he, hn, afterAct] using hw⟩
  · exact ⟨s, by simpa [perform, actOn, he, hn, afterAct] using hother _ (hwaits hcur)⟩
  · have hopen := hother (fun e => { e with current := some (.ofReport o), future := rest })
      (hwaits hcur)
    refine ⟨s, ?_⟩
    simp only [actOn, he, Option.bind_some, hn, afterAct]
    exact hopen

theorem worker?_answered {r : Run} (h : r.Sound) {t u : Ticket} {reply : Reply}
    (hawaits : r.awaits u reply = true) {s : OpenStage} {w : Worker}
    (hw : r.worker? t = some (s, w)) (hp : w.point.holdsSlot = true)
    (hne : w.inst.status ≠ .pending) :
    ∃ s', (r.answered u reply).worker? t =
      some (s', r.afterAct w (r.actOn t (.answer u reply))) := by
  rw [answered_eq]
  by_cases hut : u = t
  · subst hut
    obtain ⟨_, s', hs'⟩ := worker?_turn (a := reply.act) h hw hp reply.act_ne_begin
      (f := fun w => w.act r.config.workingDir r.cancelRequested reply.act) fun _ => rfl
    exact ⟨s', by simpa [actOn, afterAct] using hs'⟩
  · obtain ⟨o, v, hv, _⟩ := exists_of_awaits hawaits
    have hsame : r.afterAct w (r.actOn t (.answer u reply)) = w := by simp [actOn, hut, afterAct]
    rw [hsame]
    cases hlive : v.point.hasEnded with
    | true =>
        rw [turn_of_hasEnded _ hv hlive]
        exact ⟨s, hw⟩
    | false =>
        obtain ⟨e, he, _⟩ := h.exists_of_worker? hv
        have hbecomes :
            v.inst.Becomes (v.act r.config.workingDir r.cancelRequested reply.act).worker.inst :=
          Worker.becomes_act (worker_sound h hv) fun hb => absurd hb reply.act_ne_begin
        have hid := JobInstance.identity_eq_of_planned hbecomes.planned
        have h' := (carries_answered h u reply).sound
        rw [answered_eq] at h'
        exact spared_put h h' hut hv hid he (executions_turn hv he hlive _) s w hw hne

/-- **What an event makes of a worker that is at work**: nothing, unless it makes it act. -/
theorem worker?_after {r r' : Run} {ev : Event} (h : r.Sound) (hr : r.after ev = some r')
    {t : Ticket} {s : OpenStage} {w : Worker} (hw : r.worker? t = some (s, w))
    (hp : w.point.holdsSlot = true) :
    ∃ s', r'.worker? t = some (s', r.afterAct w (r.actOn t ev)) := by
  have hne : w.inst.status ≠ .pending := (Worker.carries_self (worker_sound h hw) hp).touched
  cases ev with
  | execute =>
      obtain ⟨stages, _, hq⟩ := exists_ok_of_bind (launch_of_after hr)
      obtain rfl := Except.ok.inj hq
      obtain ⟨e, he, _⟩ := h.exists_of_worker? hw
      refine ⟨s, (worker?_congr ?_).trans hw⟩
      exact List.getElem?_append_left (List.getElem?_eq_some_iff.1 he).1
  | answer u reply =>
      obtain ⟨hawaits, rfl⟩ := answered_of_after hr
      exact worker?_answered h hawaits hw hp hne
  | cancel reason => exact Option.some.inj hr ▸ worker?_cancel h hw hp hne reason
  | abort k => exact Option.some.inj hr ▸ worker?_abort h hw hp hne k
  | abortLate k =>
      obtain ⟨e, o, _, _, _, _, rfl⟩ := exists_of_abortLate? hr
      obtain ⟨s', hs'⟩ := worker?_cancel h hw hp hne abortText
      refine ⟨s', ?_⟩
      rw [perform, worker?_conclude, hs']
      rfl
  | advance k => exact worker?_advance h hr hw hp hne
  | grant =>
      obtain ⟨u, p, o, v, hpool, hv, hpt, _, rfl⟩ := exists_of_admit? h hr
      have hut : u ≠ t := by
        rintro rfl
        obtain ⟨rfl, rfl⟩ := Prod.mk.inj (Option.some.inj (hv.symm.trans hw))
        simp [hpt, Point.holdsSlot] at hp
      obtain ⟨_, rest, hwaiting, _⟩ := Pool.admit?_eq_some_iff.1 hpool
      have hsame : r.afterAct w (r.actOn t .grant) = w := by
        simp [actOn, hwaiting, hut, afterAct]
      obtain ⟨e, he, _⟩ := h.exists_of_worker? hv
      have hid := JobInstance.identity_eq_of_planned
        (Worker.sound_begin r.config.workingDir r.cancelRequested (worker_sound h hv)
          hpt).2.2.planned
      rw [hsame]
      exact spared_put h (carries_admit? h hr).sound hut hv hid he
        (executions_turn (r := { r with pool := p }) hv he (by rw [hpt]; rfl) _) s w hw hne

/-! ### All events together -/

/-- The instance of a ticket, at work or not. -/
def instance? (r : Run) (t : Ticket) : Option JobInstance := do
  let e ← r.executions[t.execution]?
  let s ← e.stages.find? fun s => s.name == t.stage
  s.instance? t.identity

/-- What events make the worker of a ticket do, one after the other, each with whether the run was
cancelled by then. -/
def actsOn (t : Ticket) : Run → List Event → List (Act × Bool)
  | _, [] => []
  | r, ev :: evs =>
    (r.actOn t ev).toList.map (·, r.cancelRequested) ++
      ((r.after ev).map fun q => actsOn t q evs).getD []

end Run

/-- What becomes of a worker by what happens to it, one thing after the other. -/
def Worker.actAll (w : Worker) (wd : String) (acts : List (Act × Bool)) : Worker :=
  acts.foldl (fun w x => (w.act wd x.2 x.1).worker) w

/-- Nothing becomes of an instance whose worker has ended. -/
theorem Worker.inst_actAll_of_hasEnded {w : Worker} (hp : w.point.hasEnded = true)
    (hne : w.inst.status ≠ .pending) (wd : String) (acts : List (Act × Bool)) :
    (w.actAll wd acts).inst = w.inst := by
  have hone (v : Worker) (x : Act × Bool) (hv : v.point.hasEnded = true ∧ v.inst = w.inst) :
      (v.act wd x.2 x.1).worker.point.hasEnded = true ∧
        (v.act wd x.2 x.1).worker.inst = w.inst := by
    obtain ⟨aborted, hpt⟩ := Point.exists_of_hasEnded hv.1
    by_cases hb : x.1 = .begin
    · have hvne : v.inst.status ≠ .pending := hv.2 ▸ hne
      rw [hb, act, begin, if_pos hvne]
      exact ⟨rfl, hv.2⟩
    · rw [act_of_ended wd x.2 hpt hb]
      exact hv
  exact (List.foldlRecOn (motive := fun v => v.point.hasEnded = true ∧ v.inst = w.inst) acts
    (fun w x => (w.act wd x.2 x.1).worker) ⟨hp, rfl⟩ fun v hv x _ => hone v x hv).2

namespace Run

/-- Among things with different names the one of a name is found. -/
theorem find?_name_eq_some {α : Type} (name : α → String) {xs : List α}
    (hd : (xs.map name).Nodup) {x : α} (hx : x ∈ xs) :
    xs.find? (fun y => name y == name x) = some x := by
  cases hf : xs.find? (fun y => name y == name x) with
  | none =>
      have hnot := List.find?_eq_none.1 hf x hx
      simp at hnot
  | some y =>
      have hy : name y = name x := by simpa using List.find?_some hf
      rw [List.inj_on_of_nodup_map hd (List.mem_of_find?_eq_some hf) hx hy]

theorem exists_find?_of_forall₂ {α β : Type} {R : α → β → Prop} {p : α → Bool} {q : β → Bool}
    (hpq : ∀ x y, R x y → q y = p x) {xs : List α} {ys : List β} (h : List.Forall₂ R xs ys)
    {x : α} (hx : xs.find? p = some x) : ∃ y, ys.find? q = some y ∧ R x y := by
  induction h with
  | nil => simp at hx
  | @cons a b _ _ hab _ ih =>
      cases hp : p a with
      | true =>
          rw [List.find?_cons_of_pos hp] at hx
          obtain rfl := Option.some.inj hx
          exact ⟨b, List.find?_cons_of_pos ((hpq _ _ hab).trans hp), hab⟩
      | false =>
          rw [List.find?_cons_of_neg (by simp [hp])] at hx
          obtain ⟨y, hy, hxy⟩ := ih hx
          exact ⟨y, by rw [List.find?_cons_of_neg (by simp [hpq _ _ hab, hp]), hy], hxy⟩

/-- The instance of a worker is the one of its ticket. -/
theorem instance?_of_worker? {r : Run} (h : r.Sound) {t : Ticket} {s : OpenStage} {w : Worker}
    (hw : r.worker? t = some (s, w)) : r.instance? t = some w.inst := by
  obtain ⟨e, he, hes, hs, hname, hmem, hid⟩ := h.exists_of_worker? hw
  have hstage : e.stages.find? (fun x => x.name == t.stage) = some s.report := by
    rw [← hname]
    exact find?_name_eq_some StageReport.name
      (h.nodup_stageNames (List.mem_of_getElem? he))
      (x := s.report) (by simp [Execution.stages, hs])
  have hdistinct : (s.report.instances.map JobInstance.identity).Nodup := by
    have hd := hes.distinct s hs
    simpa [OpenStage.report, OpenStage.Distinct, Function.comp_def] using hd
  have hinst : s.report.instance? t.identity = some w.inst := by
    rw [← hid]
    exact find?_name_eq_some JobInstance.identity hdistinct
      (List.mem_map.2 ⟨w, hmem, rfl⟩)
  rw [instance?, he]
  simp only [Option.bind_eq_bind, Option.bind_some, hstage, hinst]

/-- The instance of a ticket becomes what it becomes. -/
theorem Carries.instance? {r r' : Run} (h : r.Carries r') {t : Ticket} {i : JobInstance}
    (hi : r.instance? t = some i) : ∃ j, r'.instance? t = some j ∧ i.Becomes j := by
  simp only [Run.instance?, Option.bind_eq_bind, Option.bind_eq_some_iff] at hi
  obtain ⟨e, he, s, hs, hi⟩ := hi
  obtain ⟨e', he', hc⟩ := h.executions _ e he
  obtain ⟨s', hs', hst⟩ := exists_find?_of_forall₂ (q := fun s => s.name == t.stage)
    (fun x y hxy => by rw [hxy.name]) hc.stages hs
  obtain ⟨j, hj, hij⟩ := exists_find?_of_forall₂ (q := fun i => i.identity == t.identity)
    (fun x y hxy => by rw [JobInstance.identity_eq_of_planned hxy.planned]) hst.instances hi
  refine ⟨j, ?_, hij⟩
  simp only [Run.instance?, he', Option.bind_eq_bind, Option.bind_some, hs']
  exact hj

/-- **What all events together make of the instance of a worker that is at work**: what happens to
itself, and nothing else. -/
theorem instance?_afterAll {r r' : Run} {evs : List Event} (h : r.Sound)
    (hr : r.afterAll evs = some r') {t : Ticket} {s : OpenStage} {w : Worker}
    (hw : r.worker? t = some (s, w)) (hp : w.point.holdsSlot = true) :
    r'.instance? t = some (w.actAll r.config.workingDir (actsOn t r evs)).inst := by
  induction evs generalizing r s w with
  | nil =>
      obtain rfl := Option.some.inj hr
      exact instance?_of_worker? h hw
  | cons ev evs ih =>
      obtain ⟨q, hq, hthen⟩ := afterAll_cons_eq_some.1 hr
      have hcarries := carries_after h hq
      obtain ⟨s', hw'⟩ := worker?_after h hq hw hp
      have hacts : w.actAll r.config.workingDir (actsOn t r (ev :: evs)) =
          (r.afterAct w (r.actOn t ev)).actAll q.config.workingDir (actsOn t q evs) := by
        rw [hcarries.config]
        cases hact : r.actOn t ev with
        | none => simp [actsOn, hact, hq, afterAct]
        | some a => simp [actsOn, hact, hq, afterAct, Worker.actAll]
      rw [hacts]
      have hsound' := worker_sound hcarries.sound hw'
      have hleft : (r.afterAct w (r.actOn t ev)).point.isQueued = false ∧
          (r.afterAct w (r.actOn t ev)).inst.status ≠ .pending := by
        have hself := Worker.carries_self (worker_sound h hw) hp
        cases hact : r.actOn t ev with
        | none => exact ⟨hself.left, hself.touched⟩
        | some a =>
            by_cases hb : a = .begin
            · rw [hb, afterAct, Worker.act, Worker.begin, if_pos hself.touched]
              exact ⟨rfl, hself.touched⟩
            · have hc : w.Carries (w.act r.config.workingDir r.cancelRequested a).worker :=
                Worker.carries_act (worker_sound h hw) hp hb
              exact ⟨hc.left, hc.touched⟩
      generalize r.afterAct w (r.actOn t ev) = v at hw' hsound' hleft
      rcases v.point.queued_or_holdsSlot_or_ended with hpt | hslot | ⟨aborted, hpt⟩
      · simp [hpt, Point.isQueued] at hleft
      · exact ih hcarries.sound hthen hw' hslot
      · -- it has come to its end, and nothing becomes of it any more on either side
        have hended : v.inst.isTerminal = true := by
          have hfits := hsound'.fits
          rw [hpt] at hfits
          exact hfits.resolve_right fun hp => hleft.2 hp.2
        obtain ⟨j, hj, hbecomes⟩ := (carries_afterAll hcarries.sound hthen).instance?
          (instance?_of_worker? hcarries.sound hw')
        rw [hj, hbecomes.ended hended,
          Worker.inst_actAll_of_hasEnded (by rw [hpt]; rfl) hleft.2]

end Run

end Conveyor
