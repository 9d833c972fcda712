/-
**A run in which nothing is called off.**

When nobody cancels or aborts, and no failure calls off other work, a run goes on until all its
executions have returned: there is always something that brings it on, and it cannot be brought on
for ever.

Main definitions:

* `Conveyor.Run.Event.IsHarmless`, `Conveyor.Run.Event.BringsOn` — events that call nothing off, and
  those of them that bring a run on;
* `Conveyor.Run.Unhindered` — a run in which nothing was called off;
* `Conveyor.Run.effort` — how much a run has still to do.

Main results:

* `Conveyor.Run.Unhindered.afterAll` — **events that call nothing off leave a run unhindered**;
* `Conveyor.Run.Unhindered.exists_bringsOn` — as long as an execution has not ended something can
  bring the run on;
* `Conveyor.Run.Unhindered.length_add_effort_le` — and no run is brought on for ever.
-/

import Conveyor.Proofs.Execution.Unhindered
import Conveyor.Proofs.Run.Slots
import Conveyor.Proofs.Worker.Effort

set_option autoImplicit false

namespace Conveyor

/-- Nobody in an unhindered execution was aborted. -/
theorem Execution.Unhindered.next_ne_concludeAborted {e : Execution} (h : e.Unhindered)
    {halted : Bool} : e.next halted ≠ some .concludeAborted := by
  intro hn
  obtain ⟨_, ⟨s, hs, haborted, _⟩ | ⟨_, _, _, _, hn⟩ | ⟨_, _, hn⟩ | ⟨_, _, _, _, _, _, hn⟩ |
    ⟨_, _, _, _, _, _, hn⟩⟩ := next_cases hn
  · obtain ⟨w, hw, hwas⟩ := List.any_eq_true.1 haborted
    simp [(h.workers s hs w hw).undisturbed.wasAborted_eq] at hwas
  all_goals cases hn

namespace Run

/-- Whether an event calls nothing off: nobody cancels or aborts, and neither does an answer. -/
def Event.IsHarmless : Event → Prop
  | .answer _ reply => reply.act.IsHarmless
  | .cancel _ | .abort _ | .abortLate _ => False
  | .execute | .advance _ | .grant => True

/-- Whether an event brings a run on: a call is answered, or the run goes on by itself, and nothing
is called off. -/
def Event.BringsOn (ev : Event) : Prop := ev.IsHarmless ∧ ev ≠ .execute

/-- A run in which nothing was called off. -/
structure Unhindered (r : Run) : Prop where
  failFast : r.config.failFast = false
  cancelled : r.cancelRequested = false
  executions : ∀ e ∈ r.executions, e.Unhindered

theorem unhindered_create (id : String) (p : Pipeline) {c : RunConfig} (hc : c.failFast = false) :
    (create id p c).Unhindered :=
  ⟨hc, rfl, by simp [create]⟩

variable {r r' : Run} {ev : Event} {may : Act → Prop}

/-! ### Nothing is called off -/

/-- An event that calls nothing off is a row of steps in which no worker is called off. -/
theorem steps_of_isHarmless (h : r.Sound) (hu : r.Unhindered) (hev : ev.IsHarmless)
    (hr : r.after ev = some r') : Relation.ReflTransGen (Step Act.IsHarmless) r r' := by
  cases ev with
  | execute => exact .single (.launch (launch_of_after hr))
  | answer t reply =>
      rw [← (answered_of_after hr).2, answered_eq]
      refine steps_turn h hev reply.act_ne_begin fun _ _ _ _ habort => ?_
      cases reply <;> cases habort
  | cancel reason => exact False.elim hev
  | abort k => exact False.elim hev
  | abortLate k => exact False.elim hev
  | advance k =>
      obtain ⟨e, n, he, hn, rfl⟩ := exists_of_advance? hr
      refine .single (.advance he hn ?_)
      rintro rfl
      exact (hu.executions e (List.mem_of_getElem? he)).next_ne_concludeAborted hn
  | grant => exact .single (.grant trivial hr)

/-- What an execution does by itself cancels nothing, unless it was aborted. -/
theorem cancelRequested_perform (r : Run) (k : Nat) (e : Execution) {n : Execution.Next}
    (ha : n ≠ .concludeAborted) : (r.perform k e n).cancelRequested = r.cancelRequested := by
  cases n with
  | concludeAborted => exact absurd rfl ha
  | close s => rfl
  | skip s reason rest => rfl
  | openStage s rest => rfl
  | conclude =>
      simp only [perform, conclude]
      split <;> rfl

/-- A step in which no worker is called off does not cancel the run. -/
theorem Step.cancelRequested_eq (hmay : ∀ a, may a → a.IsHarmless) (h : r.Sound)
    (hc : r.cancelRequested = false) (hs : Step may r r') : r'.cancelRequested = false := by
  cases hs with
  | turn a _ _ _ _ => exact (cancelRequested_turn r _ _).trans hc
  | withdraw ha _ _ => exact False.elim (hmay _ ha)
  | mark reason ha _ => exact False.elim (hmay _ ha)
  | advance _ _ ha => exact (cancelRequested_perform r _ _ ha).trans hc
  | giveUp _ _ _ hcancelled => exact absurd (hc.symm.trans hcancelled) (by simp)
  | launch hr =>
      obtain ⟨stages, _, hr⟩ := exists_ok_of_bind hr
      obtain rfl := Except.ok.inj hr
      exact hc
  | grant _ hr =>
      obtain ⟨t, p, s, w, _, _, _, _, rfl⟩ := exists_of_admit? h hr
      exact (cancelRequested_turn { r with pool := p } t _).trans hc

/-- Every such step leaves a run unhindered. -/
theorem Step.unhindered (hmay : ∀ a, may a → a.IsHarmless) (h : r.Sound) (hu : r.Unhindered)
    (hs : Step may r r') : r'.Unhindered := by
  have hconfig := (hs.carries h).config
  refine ⟨by rw [hconfig, hu.failFast], hs.cancelRequested_eq hmay h hu.cancelled, ?_⟩
  intro e' he'
  obtain ⟨k, hk⟩ := List.mem_iff_getElem?.1 he'
  rcases (hs.shift h).of_get hk with he | ⟨e, he, hc⟩ | ⟨_, stages, hplan, rfl⟩
  · exact hu.executions e' (List.mem_of_getElem? he)
  · have hmem := List.mem_of_getElem? he
    rw [hu.failFast, hu.cancelled] at hc
    exact hc.unhindered hmay (h.executions e hmem) (hu.executions e hmem)
  · rw [opening_eq, hu.cancelled]
    exact Execution.unhindered_of_planned (wellPlanned_of_planOf hplan)

/-- An event that calls nothing off leaves a run unhindered. -/
theorem Unhindered.after (h : r.Sound) (hu : r.Unhindered) (hev : ev.IsHarmless)
    (hr : r.after ev = some r') : r'.Unhindered :=
  steps_induction h (steps_of_isHarmless h hu hev hr) hu
    fun _ _ hq hqu hs => hs.unhindered (fun _ ha => ha) hq hqu

/-- **Events that call nothing off leave a run unhindered.** -/
theorem Unhindered.afterAll {evs : List Event} (h : r.Sound) (hu : r.Unhindered)
    (hevs : ∀ ev ∈ evs, ev.IsHarmless) (hr : r.afterAll evs = some r') : r'.Unhindered := by
  induction evs generalizing r with
  | nil => exact Option.some.inj hr ▸ hu
  | cons ev evs ih =>
      obtain ⟨hev, hrest⟩ := List.forall_mem_cons.1 hevs
      obtain ⟨q, hq, hthen⟩ := afterAll_cons_eq_some.1 hr
      exact ih (carries_after h hq).sound (hu.after h hev hq) hrest hthen

/-! ### Something can bring the run on -/

/-- Whoever is at work waits for an answer. -/
theorem exists_bringsOn_of_mem_atWork (h : r.Sound) {e : Execution} (he : e ∈ r.executions)
    {w : Worker} (hw : w ∈ e.atWork) : ∃ ev r', ev.BringsOn ∧ r.after ev = some r' := by
  obtain ⟨k, hk⟩ := List.mem_iff_getElem?.1 he
  obtain ⟨s, hs, hmem, hp⟩ := Execution.mem_atWork.1 hw
  have hworker : r.worker? ⟨k, s.name, w.inst.identity⟩ = some (s, w) :=
    h.worker?_eq_some hk hs rfl hmem rfl
  obtain ⟨reply, hreply, hharmless⟩ :
      ∃ reply : Reply, w.point.awaits reply = true ∧ reply.act.IsHarmless := by
    cases hpt : w.point with
    | starting => exact ⟨.start .up, rfl, trivial⟩
    | running => exact ⟨.run (.done 0 ""), rfl, by simp [Reply.act, Act.IsHarmless]⟩
    | stopping => exact ⟨.stop .stopped, rfl, by simp [Reply.act, Act.IsHarmless]⟩
    | queued => simp [hpt, Point.holdsSlot] at hp
    | ended => simp [hpt, Point.holdsSlot] at hp
  have hawaits : r.awaits ⟨k, s.name, w.inst.identity⟩ reply = true := by
    rw [awaits, hworker]
    exact hreply
  exact ⟨.answer ⟨k, s.name, w.inst.identity⟩ reply, _, ⟨hharmless, by simp⟩, if_pos hawaits⟩

/-- Slots that are taken are held by somebody at work. -/
theorem exists_mem_atWork_of_busy (hb : 0 < r.busy) : ∃ e ∈ r.executions, ∃ w, w ∈ e.atWork := by
  by_contra hnone
  refine absurd (total_eq_zero fun n hn => ?_) (Nat.ne_of_gt hb)
  obtain ⟨e, he, rfl⟩ := List.mem_map.1 hn
  rw [← e.length_atWork, List.length_eq_zero_iff, List.eq_nil_iff_forall_not_mem]
  exact fun w hw => hnone ⟨e, he, w, hw⟩

/-- **As long as an execution has not ended, something can bring the run on**: somebody waits for
an answer, or the run goes on by itself. -/
theorem Unhindered.exists_bringsOn (h : r.Sound) (hb : r.Balanced) (hu : r.Unhindered)
    (hlimit : 1 ≤ r.config.concurrencyLimit) {e : Execution} (he : e ∈ r.executions)
    (hending : e.ending = none) : ∃ ev r', ev.BringsOn ∧ r.after ev = some r' := by
  obtain ⟨k, hk⟩ := List.mem_iff_getElem?.1 he
  have hue := hu.executions e he
  -- an execution that need not wait goes on by itself
  have hadvance {n : Execution.Next} (hn : e.next r.cancelRequested = some n) :
      ∃ ev r', ev.BringsOn ∧ r.after ev = some r' :=
    ⟨.advance k, r.perform k e n, ⟨trivial, by simp⟩, by simp [Run.after, advance?, hk, hn]⟩
  cases hs : e.current with
  | none =>
      cases hfut : e.future with
      | nil => exact hadvance (n := .conclude) (by simp [Execution.next, hending, hs, hfut])
      | cons s rest =>
          exact hadvance (n := .openStage s rest)
            (by simp [Execution.next, hending, hs, hfut, hu.cancelled, hue.haltedBy])
  | some s =>
      have hcalm : s.wasAborted = false := by
        rw [OpenStage.wasAborted, List.any_eq_false]
        exact fun w hw => by simp [(hue.workers s hs w hw).undisturbed.wasAborted_eq]
      by_cases hover : s.isOver = true
      · exact hadvance (n := .close s) (by simp [Execution.next, hending, hs, hcalm, hover])
      · obtain ⟨w, hw, hlive⟩ : ∃ w ∈ s.workers, ¬ w.point.hasEnded = true := by
          simpa [OpenStage.isOver] using hover
        rcases w.point.queued_or_holdsSlot_or_ended with hpt | hp | ⟨aborted, hpt⟩
        · -- it waits for a slot: there is one, or those who have them wait for answers
          by_cases hfree : r.pool.active < r.pool.limit
          · have hworker : r.worker? ⟨k, s.name, w.inst.identity⟩ = some (s, w) :=
              h.worker?_eq_some hk hs rfl hw rfl
            have hin : (⟨k, s.name, w.inst.identity⟩ : Ticket) ∈ r.pool.waiting := by
              rw [mem_waiting_iff h hk,
                mem_queuedOf_iff hk (h.executions e he) hworker, hpt]
              rfl
            have hfront : r.pool.admit? ≠ none := by
              rw [ne_eq, Pool.admit?_eq_none_iff]
              rintro (hfull | hnobody)
              · omega
              · simp [hnobody] at hin
            obtain ⟨x, hx⟩ := Option.ne_none_iff_exists'.1 hfront
            exact ⟨.grant, _, ⟨trivial, by simp⟩, congrArg (Option.map _) hx⟩
          · have hlimit' := hb.limit
            have hactive := hb.active
            obtain ⟨f, hf, v, hv⟩ := exists_mem_atWork_of_busy (r := r) (by omega)
            exact exists_bringsOn_of_mem_atWork h hf hv
        · exact exists_bringsOn_of_mem_atWork h he
            (Execution.mem_atWork.2 ⟨s, hs, hw, hp⟩)
        · exact absurd (by rw [hpt]; rfl) hlive

end Run

/-! ### How much there is still to do -/

/-- How much there is still to do for the workers of an open stage. -/
def OpenStage.effort (s : OpenStage) : Nat := total (s.workers.map Worker.effort)

/-- How much there is to do for a stage that was not opened. -/
def StageReport.effort (s : StageReport) : Nat :=
  total (s.instances.map fun i => Worker.effort { inst := i })

/-- How much an execution has still to do: it has to end, and each stage to be opened and closed. -/
def Execution.effort (e : Execution) : Nat :=
  (if e.ending.isNone then 1 else 0) + total (e.current.toList.map fun s => 1 + s.effort) +
    total (e.future.map fun s => 2 + s.effort)

theorem OpenStage.effort_ofReport (s : StageReport) : (ofReport s).effort = s.effort := by
  simp [effort, StageReport.effort, ofReport, Function.comp_def]

theorem OpenStage.effort_put {s : OpenStage} (hd : s.Distinct) {w w' : Worker}
    (hw : w ∈ s.workers) (hid : w'.inst.identity = w.inst.identity) :
    (s.put w').effort + w.effort = s.effort + w'.effort :=
  total_put hd hw hid Worker.effort

theorem Execution.effort_setCurrent {e : Execution} {s s' : OpenStage} (hs : e.current = some s)
    (hlt : s'.effort < s.effort) : effort { e with current := some s' } < e.effort := by
  simp only [effort, hs, Option.toList_some, List.map_cons, List.map_nil, total]
  omega

namespace Run

/-- How much a run has still to do. -/
def effort (r : Run) : Nat := total (r.executions.map Execution.effort)

variable {r r' : Run} {ev : Event}

theorem effort_lt_of_set {k : Nat} {e g : Execution} (he : r.executions[k]? = some e)
    (h : r'.executions = r.executions.set k g) (hlt : g.effort < e.effort) :
    r'.effort < r.effort := by
  have hset := total_set he g Execution.effort
  rw [effort, effort, h]
  omega

/-- A worker makes a turn that leaves it less to do. -/
theorem effort_turn_lt (h : r.Sound) (hff : r.config.failFast = false) {t : Ticket}
    {s : OpenStage} {w : Worker} (hw : r.worker? t = some (s, w))
    (hlive : w.point.hasEnded = false) {p : Pool Ticket} {f : Worker → Turn}
    (hid : (f w).worker.inst.identity = w.inst.identity)
    (hlt : (f w).worker.effort < w.effort) : ({ r with pool := p }.turn t f).effort < r.effort := by
  obtain ⟨e, he, hes, hs, _, hmem, _⟩ := h.exists_of_worker? hw
  have hput := OpenStage.effort_put (hes.distinct s hs) hmem hid
  refine effort_lt_of_set he (executions_turn (r := { r with pool := p }) hw he hlive f) ?_
  rw [hff, OpenStage.noteOutcome_of_not_failFast]
  exact Execution.effort_setCurrent hs (by omega)

theorem effort_perform_lt {k : Nat} {e : Execution} {n : Execution.Next}
    (he : r.executions[k]? = some e) (hn : e.next r.cancelRequested = some n)
    (ha : n ≠ .concludeAborted) : (r.perform k e n).effort < r.effort := by
  obtain ⟨hending, hcases⟩ := Execution.next_cases hn
  rcases hcases with ⟨s, _, _, rfl⟩ | ⟨s, hs, _, _, rfl⟩ | ⟨_, _, rfl⟩ |
    ⟨s, rest, reason, hcur, hfut, _, rfl⟩ | ⟨s, rest, hcur, hfut, _, _, rfl⟩
  · exact absurd rfl ha
  · refine effort_lt_of_set he (modifyExecution_eq_set he fun e => e.close r.config.failFast s) ?_
    simp only [Execution.effort, Execution.close, hending, hs, Option.toList_some,
      Option.toList_none, List.map_cons, List.map_nil, total]
    omega
  · refine effort_lt_of_set (g := e.finish (.returned e.finalStatus)) he ?_ ?_
    · simp only [perform, conclude, he]
      exact modifyExecution_eq_set he _
    · simp [Execution.effort, Execution.finish, hending]
  · refine effort_lt_of_set he (modifyExecution_eq_set he fun e =>
      { e with past := e.past ++ [Execution.skipped s reason], future := rest }) ?_
    simp only [Execution.effort, hfut, List.map_cons, total]
    omega
  · refine effort_lt_of_set (g := { e with current := some (.ofReport s), future := rest }) he
      (modifyExecution_eq_set he fun e =>
        { e with current := some (.ofReport s), future := rest }) ?_
    simp only [Execution.effort, hcur, hfut, Option.toList_none, Option.toList_some,
      List.map_cons, List.map_nil, total, OpenStage.effort_ofReport]
    omega

/-- Whatever brings a run on leaves it less to do. -/
theorem Unhindered.effort_lt (h : r.Sound) (hu : r.Unhindered) (hev : ev.BringsOn)
    (hr : r.after ev = some r') : r'.effort < r.effort := by
  cases ev with
  | execute => exact absurd rfl hev.2
  | cancel reason => exact False.elim hev.1
  | abort k => exact False.elim hev.1
  | abortLate k => exact False.elim hev.1
  | answer t reply =>
      obtain ⟨hawaits, rfl⟩ := answered_of_after hr
      obtain ⟨s, w, hw, hwaits, hp⟩ := exists_of_awaits hawaits
      have hbecomes :
          w.inst.Becomes (w.act r.config.workingDir r.cancelRequested reply.act).worker.inst :=
        Worker.becomes_act (worker_sound h hw) fun hb => absurd hb reply.act_ne_begin
      rw [answered_eq]
      exact effort_turn_lt (p := r.pool) h hu.failFast hw (Point.live_of_holdsSlot hp).2
        (JobInstance.identity_eq_of_planned hbecomes.planned) (Worker.effort_answer_lt hwaits)
  | advance k =>
      obtain ⟨e, n, he, hn, rfl⟩ := exists_of_advance? hr
      refine effort_perform_lt he hn ?_
      rintro rfl
      exact (hu.executions e (List.mem_of_getElem? he)).next_ne_concludeAborted hn
  | grant =>
      obtain ⟨t, p, s, w, _, hw, hpt, _, rfl⟩ := exists_of_admit? h hr
      have hws := worker_sound h hw
      have hbecomes := (Worker.sound_begin r.config.workingDir r.cancelRequested hws hpt).2.2
      exact effort_turn_lt (f := fun w => w.begin r.config.workingDir r.cancelRequested) h
        hu.failFast hw (by rw [hpt]; rfl) (JobInstance.identity_eq_of_planned hbecomes.planned)
        (Worker.effort_begin_lt hws hpt)

/-- **No run is brought on for ever.** -/
theorem Unhindered.length_add_effort_le {evs : List Event} (h : r.Sound) (hu : r.Unhindered)
    (hevs : ∀ ev ∈ evs, ev.BringsOn) (hr : r.afterAll evs = some r') :
    evs.length + r'.effort ≤ r.effort := by
  induction evs generalizing r with
  | nil =>
      obtain rfl := Option.some.inj hr
      simp
  | cons ev evs ih =>
      obtain ⟨hev, hrest⟩ := List.forall_mem_cons.1 hevs
      obtain ⟨q, hq, hthen⟩ := afterAll_cons_eq_some.1 hr
      have hless := hu.effort_lt h hev hq
      have hlater := ih (carries_after h hq).sound (hu.after h hev.1 hq) hrest hthen
      rw [List.length_cons]
      omega

end Run

end Conveyor
