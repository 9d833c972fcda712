/-
**First come, first served, and no slot stays free while somebody waits.**

The instances of a stage are started in the order in which they were created, however those at work
come to their end and whoever is cancelled or aborted meanwhile.  When a run has gone on as far as
it can, and an instance of the open stage still waits, then every slot is taken.

Main definitions:

* `Conveyor.Execution.InTurn` — whoever was started came before everybody who is still pending.

Main results:

* `Conveyor.Run.find?_isQueued_of_front` — the front of the queue is the first of its stage that
  waits;
* `Conveyor.Run.inTurn_after` — every event keeps the turn;
* `Conveyor.Run.Reachable.first_come_first_served` — **instances are started in their turn, and a run
  at rest leaves no slot free while one of them waits**.
-/

import Conveyor.Proofs.Execution.Waiting
import Conveyor.Proofs.Run.FailurePolicy
import Conveyor.Proofs.Run.Rest
import Conveyor.Proofs.Run.Slots

set_option autoImplicit false

namespace Conveyor

/-! ### Turns -/

/-- Nobody before the first one that waits is pending, if nobody was taken out of the queue. -/
theorem OpenStage.ne_pending_of_first {s : OpenStage} (hdistinct : s.Distinct)
    (hsound : ∀ w ∈ s.workers, w.Sound) (hsent : s.SentAwayTogether) {w : Worker}
    (hfirst : s.workers.find? (fun v => v.point.isQueued) = some w) {x y : Nat} (hxy : x < y)
    {v : Worker} (hv : s.workers[x]? = some v) (hw : s.workers[y]? = some w) :
    v.inst.status ≠ .pending := by
  intro hpending
  obtain ⟨hqueued, n, hn, hnw, hbefore⟩ := List.find?_eq_some_iff_getElem.1 hfirst
  obtain ⟨hy, hyw⟩ := List.getElem?_eq_some_iff.1 hw
  obtain ⟨hx, hxv⟩ := List.getElem?_eq_some_iff.1 hv
  have hny : n = y :=
    (List.Nodup.of_map _ hdistinct).getElem_inj_iff.1 (hnw.trans hyw.symm)
  have hmem := List.mem_of_getElem? hv
  rcases (hsound v hmem).point_of_pending hpending with hpt | hpt
  · have hnot := hbefore x (by omega)
    simp [hxv, hpt, Point.isQueued] at hnot
  · exact hsent v hmem hpt hpending w (List.mem_of_getElem? hw)
      (Point.eq_queued_of_isQueued hqueued)

namespace Execution

/-- Whoever was started came before everybody in its stage who is still pending. -/
def InTurn (e : Execution) : Prop :=
  ∀ (m x y : Nat) (i j : JobInstance), x < y → e.instance? m x = some i →
    e.instance? m y = some j → j.started = true → i.status ≠ .pending

variable {e e' : Execution}

/-- As long as nothing was started. -/
theorem inTurn_of_unstarted (h : ∀ i ∈ e.instances, i.started = false) : e.InTurn := by
  intro m x y i j _ _ hj hstarted
  have hun := h j (mem_instances_iff.2 ⟨m, y, hj⟩)
  simp [hstarted] at hun

/-- Whatever starts nobody keeps the turn. -/
theorem InTurn.of_related (h : e.InTurn) (hc : e.Carries e')
    (hstarted : Related (fun i j => j.started = i.started) e e') : e'.InTurn := by
  intro m x y i j hxy hi hj hj' hpending
  obtain ⟨i', hi', hbecomes⟩ := hc.related.exists_instance? hi
  obtain ⟨j', hj'', hsame⟩ := hstarted.exists_instance? hj
  refine h m x y i' j' hxy hi' hj'' (hsame ▸ hj') ?_
  rw [← hbecomes.untouched hpending]
  exact hpending

/-- **The first of those who wait takes its turn**, if nobody was taken out of the queue before
it. -/
theorem InTurn.grant (h : e.InTurn) (hsound : e.Sound) (hsent : e.SentAwayTogether) {s : OpenStage}
    {w w' : Worker} (hs : e.current = some s)
    (hfirst : s.workers.find? (fun v => v.point.isQueued) = some w)
    (hbecomes : w.inst.Becomes w'.inst) {failFast : Bool}
    (hc : e.Carries { e with current := some ((s.put w').noteOutcome failFast w') })
    (horder : Orderly { e with current := some ((s.put w').noteOutcome failFast w') }) :
    InTurn { e with current := some ((s.put w').noteOutcome failFast w') } := by
  intro m x y i' j' hxy hi' hj' hstarted hpending
  have hw : w ∈ s.workers := List.mem_of_find?_eq_some hfirst
  obtain ⟨i, hi, hi_becomes⟩ := hc.related.exists_instance? hi'
  obtain rfl : i' = i := hi_becomes.untouched hpending
  -- nobody but the one that is let in is started
  have hone : Related (fun a b => a = w.inst ∨ b.started = a.started) e
      { e with current := some ((s.put w').noteOutcome failFast w') } :=
    related_turn ⟨fun _ => .inr rfl, fun reason _ b hab => hab.imp_right fun hab =>
      (StageReport.started_cancelIfPending reason b).trans hab⟩ hsound hs hw
      (JobInstance.identity_eq_of_planned hbecomes.planned) (.inl rfl) failFast
  obtain ⟨j, hj, hjw⟩ := hone.exists_instance? hj'
  rcases hjw with rfl | hsame
  · -- the stage is the open one, since something in it is pending and something was started
    obtain ⟨t', ht', hjt'⟩ := instance?_eq_some_iff.1 hj'
    obtain ⟨t, ht, hit⟩ := instance?_eq_some_iff.1 hi
    obtain ⟨u, hu, hju⟩ := instance?_eq_some_iff.1 hj
    obtain rfl := Option.some.inj (ht.symm.trans hu)
    rcases stages_cases ht with ⟨_, hpast⟩ | ⟨o, ho, hm, rfl⟩ | ⟨hm, _⟩
    · have hended := (hsound.past t (List.mem_of_getElem? hpast)).ended i'
        (List.mem_of_getElem? hit)
      exact JobInstance.ne_pending_of_isTerminal hended hpending
    · obtain rfl := Option.some.inj (hs.symm.trans ho)
      simp only [OpenStage.report, List.getElem?_map] at hit hju
      obtain ⟨v, hv, hvi⟩ := Option.map_eq_some_iff.1 hit
      obtain ⟨z, hz, hzw⟩ := Option.map_eq_some_iff.1 hju
      have hdistinct := hsound.distinct s hs
      obtain rfl : z = w := OpenStage.eq_of_identity_eq hdistinct (List.mem_of_getElem? hz) hw
        (congrArg JobInstance.identity hzw)
      -- the pending one stands before it, but it is the first one that waits
      exact OpenStage.ne_pending_of_first hdistinct (hsound.workers s hs) (hsent s hs) hfirst hxy
        hv hz (hvi ▸ hpending)
    · rcases stages_cases ht' with ⟨hm', _⟩ | ⟨o, _, hm', _⟩ | ⟨_, hfut⟩
      · simp only at hm'
        omega
      · simp only at hm'
        simp only [hs, Option.toList_some, List.length_singleton] at hm
        omega
      · have hun := (horder.future t' hfut j' (List.mem_of_getElem? hjt')).2
        simp [hstarted] at hun
  · exact h m x y i' j hxy hi hj (hsame ▸ hstarted) hpending

end Execution

namespace Run

/-! ### The queue -/

/-- The front of the queue is the first of its stage that waits. -/
theorem find?_isQueued_of_front {r : Run} (h : r.Sound) {t : Ticket} {rest : List Ticket}
    (hwaiting : r.pool.waiting = t :: rest) {s : OpenStage} {w : Worker}
    (hw : r.worker? t = some (s, w)) :
    s.workers.find? (fun v => v.point.isQueued) = some w := by
  obtain ⟨e, he, hes, hs, _, hmem, hid⟩ := h.exists_of_worker? hw
  have hqueue := h.queue t.execution e he
  rw [hwaiting, List.filter_cons_of_pos (by simp), queuedOf_of_current hs] at hqueue
  obtain ⟨identity, others, hqueued, hfront, _⟩ := List.map_eq_cons_iff.1 hqueue.symm
  obtain ⟨v, vs, hfilter, hv, _⟩ := List.map_eq_cons_iff.1 hqueued
  have hidentity : identity = t.identity := congrArg Ticket.identity hfront
  have hvmem : v ∈ s.workers :=
    (List.mem_filter.1 (hfilter ▸ List.mem_cons_self .. :
      v ∈ s.workers.filter fun w => w.point.isQueued)).1
  obtain rfl : v = w := OpenStage.eq_of_identity_eq (hes.distinct s hs) hvmem hmem
    (hv.trans (hidentity.trans hid.symm))
  rw [← List.head?_filter, hfilter, List.head?_cons]

/-! ### An abort -/

theorem getElem?_turn_of_ne (r : Run) {t : Ticket} (f : Worker → Turn) {k : Nat}
    (hk : t.execution ≠ k) : (r.turn t f).executions[k]? = r.executions[k]? := by
  unfold turn
  split
  · rfl
  · split
    · rfl
    · simp [modifyExecution, hk]

/-- An abort is about one execution. -/
theorem getElem?_abort_of_ne (r : Run) {k j : Nat} (hj : k ≠ j) :
    (r.abort k).executions[j]? = r.executions[j]? := by
  have hone (q : Run) {t : Ticket} (ht : t.execution ≠ j) :
      (q.abortWorker t).executions[j]? = q.executions[j]? := by
    unfold abortWorker
    split
    · split
      · simp [modifyExecution, ht]
      · exact getElem?_turn_of_ne q _ ht
    · rfl
  unfold abort
  split
  · rename_i e _
    split
    · rfl
    · refine List.foldlRecOn (motive := fun q => q.executions[j]? = r.executions[j]?)
        (ticketsOf k e) abortWorker rfl fun q hq t ht => ?_
      exact (hone q (execution_of_mem_ticketsOf ht ▸ hj)).trans hq
  · rfl

/-- Nobody waits in an execution that was just aborted. -/
theorem sentAwayTogether_abort {r : Run} (h : r.Sound)
    (hsent : ∀ e ∈ r.executions, e.SentAwayTogether) (k : Nat) :
    ∀ e ∈ (r.abort k).executions, e.SentAwayTogether := by
  intro e' he'
  obtain ⟨j, hj⟩ := List.mem_iff_getElem?.1 he'
  by_cases hjk : k = j
  · subst hjk
    have hsound' := (carries_abort h k).sound
    cases he : r.executions[k]? with
    | none =>
        have hsame : r.abort k = r := by simp [abort, he]
        rw [hsame, he] at hj
        cases hj
    | some e =>
        cases hending : e.ending with
        | some ending =>
            have hsame : r.abort k = r := by simp [abort, he, hending]
            rw [hsame] at he'
            exact hsent e' he'
        | none =>
            intro s hs _ _ _ _ w hw hqueued
            have hworker : (r.abort k).worker? ⟨k, s.name, w.inst.identity⟩ = some (s, w) :=
              hsound'.worker?_eq_some hj hs rfl hw rfl
            have hstands := standing_eq_some_iff.2 ⟨s, w, hworker, rfl⟩
            obtain ⟨hout, hin⟩ := abort_cases (t := ⟨k, s.name, w.inst.identity⟩) h he hending
            by_cases hbefore : r.standing ⟨k, s.name, w.inst.identity⟩ = none
            · rw [(hout hbefore).standing, hbefore] at hstands
              cases hstands
            · obtain ⟨o, v, wd, halted, hv, _, hturned, _⟩ := hin hbefore
              have hpoint := congrArg Prod.fst (Option.some.inj (hstands.symm.trans hturned))
              exact Worker.point_abort_ne_queued (worker_sound h hv) (hpoint.symm.trans hqueued)
  · rw [getElem?_abort_of_ne r hjk] at hj
    exact hsent e' (List.mem_of_getElem? hj)

/-! ### Events -/

theorem started_opening (r : Run) {stages : List StageReport} (h : WellPlanned stages) :
    ∀ i ∈ (r.opening stages).instances, i.started = false := by
  intro i hi
  have hpast : (r.opening stages).past = [] := by
    rw [opening_eq]
    split <;> rfl
  rcases Execution.instances_cases hi with ⟨s, hs, _⟩ | ⟨s, w, hs, _⟩ | ⟨s, hs, his⟩
  · simp [hpast] at hs
  · simp [current_opening] at hs
  · exact ((orderly_opening r h).future s hs i his).2

/-- What every event keeps: whoever was started came before everybody who is pending, and where
somebody was taken out of the queue nobody waits. -/
theorem inTurn_after {r r' : Run} {ev : Event} (h : r.Sound)
    (horder : ∀ e ∈ r'.executions, e.Orderly)
    (hin : ∀ e ∈ r.executions, e.InTurn ∧ e.SentAwayTogether) (hr : r.after ev = some r') :
    ∀ e ∈ r'.executions, e.InTurn ∧ e.SentAwayTogether := by
  have hturns : ∀ e ∈ r'.executions, e.InTurn := by
    by_cases hgrant : ev = .grant
    · subst hgrant
      intro e' he'
      obtain ⟨t, p, s, w, hpool, hw, hpt, _, rfl⟩ := exists_of_admit? h hr
      obtain ⟨e, he, hes, hs, _, hmem, _⟩ := h.exists_of_worker? hw
      obtain ⟨_, rest, hwaiting, _⟩ := Pool.admit?_eq_some_iff.1 hpool
      have hexecutions := executions_turn (r := { r with pool := p })
        (f := fun w => w.begin r.config.workingDir r.cancelRequested) hw he (by rw [hpt]; rfl)
      obtain ⟨hsound, _, hbecomes⟩ :=
        Worker.sound_begin r.config.workingDir r.cancelRequested (worker_sound h hw) hpt
      rw [hexecutions] at he' horder
      rcases List.mem_or_eq_of_mem_set he' with hsame | rfl
      · exact (hin e' hsame).1
      · have hboth := hin e (List.mem_of_getElem? he)
        exact hboth.1.grant hes hboth.2 hs (find?_isQueued_of_front h hwaiting hw) hbecomes
          (Execution.carries_turn hes hs hmem hsound hbecomes _) (horder _ he')
    · have hsteps : Relation.ReflTransGen (Step fun a => a ≠ .begin) r r' := by
        refine steps_after_of_makes h hr ?_
        rintro a ha rfl
        exact hgrant (Event.eq_grant_of_makes_begin ha)
      refine executions_of_steps (P := Execution.InTurn) h hsteps (fun e he => (hin e he).1) ?_ ?_
      · exact fun q stages hwell => Execution.inTurn_of_unstarted (started_opening q hwell)
      · exact fun _ _ e e' hsound hturn hc =>
          hturn.of_related (hc.carries hsound) (hc.started_of_not_begin hsound fun _ ha => ha)
  have hsent : ∀ e ∈ r'.executions, e.SentAwayTogether := by
    by_cases habort : ∃ k, ev = .abort k
    · obtain ⟨k, rfl⟩ := habort
      obtain rfl := Option.some.inj hr
      exact sentAwayTogether_abort h (fun e he => (hin e he).2) k
    · have hsteps : Relation.ReflTransGen (Step fun a => a ≠ .abort) r r' := by
        refine steps_after_of_makes h hr ?_
        rintro a ha rfl
        exact habort (Event.exists_of_makes_abort ha)
      refine executions_of_steps (P := Execution.SentAwayTogether) h hsteps
        (fun e he => (hin e he).2) ?_ ?_
      · intro q stages _ s hs
        simp [current_opening] at hs
      · exact fun _ _ e e' hsound hsent hc => hc.sentAwayTogether hsound (fun _ ha => ha) hsent
  exact fun e he => ⟨hturns e he, hsent e he⟩

/-- The instances of every stage are started in the order in which they were created. -/
theorem Reachable.inTurn {r : Run} (h : r.Reachable) : ∀ e ∈ r.executions, e.InTurn := by
  obtain ⟨id, p, c, evs, hr⟩ := h
  have hfresh : (create id p c).Reachable := ⟨id, p, c, [], rfl⟩
  have hall : r.Reachable ∧ ∀ e ∈ r.executions, e.InTurn ∧ e.SentAwayTogether := by
    refine afterAll_induction
      (P := fun q => q.Reachable ∧ ∀ e ∈ q.executions, e.InTurn ∧ e.SentAwayTogether) hr
      ⟨hfresh, by simp [create]⟩ ?_
    rintro q q' ev ⟨hq, hin⟩ hev
    exact ⟨hq.after hev, inTurn_after hq.sound (hq.after hev).orderly hin hev⟩
  exact fun e he => (hall.2 e he).1

/-! ### Free slots -/

/-- An instance that is pending while its stage is open waits for a slot, if the execution has to
wait. -/
theorem mem_waiting_of_pending {r : Run} (h : r.Sound) {k : Nat} {e : Execution} {s : OpenStage}
    {w : Worker} (he : r.executions[k]? = some e) (hending : e.ending = none)
    (hs : e.current = some s) (hnext : e.next r.cancelRequested = none) (hw : w ∈ s.workers)
    (hpending : w.inst.status = .pending) :
    (⟨k, s.name, w.inst.identity⟩ : Ticket) ∈ r.pool.waiting := by
  have hes := h.executions e (List.mem_of_getElem? he)
  have hworker : r.worker? ⟨k, s.name, w.inst.identity⟩ = some (s, w) :=
    h.worker?_eq_some he hs rfl hw rfl
  rcases (hes.workers s hs w hw).point_of_pending hpending with hpt | hpt
  · refine (mem_waiting_iff (t := ⟨k, s.name, w.inst.identity⟩) h he).2 ?_
    refine (mem_queuedOf_iff he hes hworker).2 ?_
    rw [hpt]
    rfl
  · -- a worker that was aborted ends the execution, and so there is something to do
    have haborted : s.wasAborted = true := List.any_eq_true.2 ⟨w, hw, by rw [hpt]; rfl⟩
    simp [Execution.next, hending, hs, haborted] at hnext

/-- **First come, first served, and no slot stays free while somebody waits.**  No instance was
started before one of its stage that was created earlier and is still pending; and when a run has
gone on as far as it can, and an instance of the stage that is open is pending, all slots are
taken. -/
theorem Reachable.first_come_first_served {r : Run} (h : r.Reachable) :
    (∀ e ∈ r.executions, ∀ (m x y : Nat) (i j : JobInstance), x < y →
      e.instance? m x = some i → e.instance? m y = some j → j.started = true →
        i.status ≠ .pending) ∧
    (r.IsAtRest → ∀ e ∈ r.executions, e.ending = none → ∀ s, e.current = some s →
      ∀ w ∈ s.workers, w.inst.status = .pending →
        r.pool.active = r.config.concurrencyLimit) := by
  refine ⟨h.inTurn, fun hrest e he hending s hs w hw hpending => ?_⟩
  obtain ⟨k, hk⟩ := List.mem_iff_getElem?.1 he
  have hin := mem_waiting_of_pending h.sound hk hending hs (hrest.next_eq_none.1 e he) hw hpending
  have hfull := hrest.limit_le_active (List.ne_nil_of_mem hin)
  have hlimit := h.balanced.limit
  have hpeak := h.balanced.peak
  omega

/-- Two checks are at work and take both slots, and the third one waits for its turn. -/
theorem first_come_first_served_checks :
    ∃ r : Run, ∃ e s w i j, r.Reachable ∧ r.IsAtRest ∧ e ∈ r.executions ∧ e.ending = none ∧
      e.current = some s ∧ w ∈ s.workers ∧ w.inst.status = .pending ∧
      r.pool.active = r.config.concurrencyLimit ∧ e.instance? 0 0 = some i ∧
      e.instance? 0 1 = some j ∧ j.started = true ∧ i.status ≠ .pending := by
  have hrun : ((create "r" checksThenRelease { concurrencyLimit := 2 }).afterAll
      [.execute, .advance 0, .grant, .grant]).any (fun r =>
        r.step?.isNone && r.executions.any fun e => e.ending.isNone &&
          e.current.any fun s => (s.workers.any fun w => w.inst.status == .pending) &&
            (e.instance? 0 0).any fun _ => (e.instance? 0 1).any fun j => j.started) = true := by
    decide +kernel
  obtain ⟨r, hr, hany⟩ := (Option.any_eq_true _ _).1 hrun
  obtain ⟨hrest, hany⟩ := Bool.and_eq_true_iff.1 hany
  obtain ⟨e, he, hany⟩ := List.any_eq_true.1 hany
  obtain ⟨hending, hany⟩ := Bool.and_eq_true_iff.1 hany
  obtain ⟨s, hs, hany⟩ := (Option.any_eq_true _ _).1 hany
  obtain ⟨hwaits, hany⟩ := Bool.and_eq_true_iff.1 hany
  obtain ⟨w, hw, hpending⟩ := List.any_eq_true.1 hwaits
  obtain ⟨i, hi, hany⟩ := (Option.any_eq_true _ _).1 hany
  obtain ⟨j, hj, hstarted⟩ := (Option.any_eq_true _ _).1 hany
  have hreach : r.Reachable := ⟨_, _, _, _, hr⟩
  have hrest' : r.IsAtRest := Option.isNone_iff_eq_none.1 hrest
  have hending' : e.ending = none := Option.isNone_iff_eq_none.1 hending
  obtain ⟨hturns, hfull⟩ := hreach.first_come_first_served
  exact ⟨r, e, s, w, i, j, hreach, hrest', he, hending', hs, hw, beq_iff_eq.1 hpending,
    hfull hrest' e he hending' s hs w hw (beq_iff_eq.1 hpending), hi, hj, hstarted,
    hturns e he 0 0 1 i j Nat.zero_lt_one hi hj hstarted⟩

end Run

end Conveyor
