/-
**What a run keeps while it goes on.**

Its executions are sound and stand by their plan, its queue is what its workers wait for, and after
a cancel nothing of the execution that was started last is pending.  Whatever happens to a run keeps
this, and its executions go on where they stand.

Main definitions:

* `Conveyor.Run.Sound` — what a run keeps;
* `Conveyor.Run.Carries` — one run goes on to another one.

Main results:

* `Conveyor.Run.carries_put` — a worker leaves the point that it had reached;
* `Conveyor.Run.carries_replace` — an execution changes as a whole;
* `Conveyor.Run.carries_cancel`, `Conveyor.Run.carries_abort`, `Conveyor.Run.carries_perform`,
  `Conveyor.Run.carries_admit?`, `Conveyor.Run.carries_launch` — what happens to a run.
-/

import Conveyor.Proofs.Plan
import Conveyor.Proofs.Run.Queue

set_option autoImplicit false

namespace Conveyor

namespace Run

/-- What a run keeps while it goes on. -/
structure Sound (r : Run) : Prop where
  planned : ∀ e ∈ r.executions,
    planOf r.pipeline r.config = .ok (e.stages.map StageReport.planned)
  executions : ∀ e ∈ r.executions, e.Sound
  /-- Of every execution the workers that wait are in the queue, in the order of creation. -/
  queue : ∀ k e, r.executions[k]? = some e →
    r.pool.waiting.filter (·.execution = k) = queuedOf k e
  waiting : ∀ t ∈ r.pool.waiting, t.execution < r.executions.length
  cancelled : r.cancelRequested = true → ∀ e, r.executions.getLast? = some e →
    ∀ i ∈ e.instances, i.status ≠ .pending
  aborted : ∀ e ∈ r.executions, e.ending = some .aborted → r.cancelRequested = true

/-- One run goes on to another one: its executions go on where they stand. -/
structure Carries (r r' : Run) : Prop where
  sound : r'.Sound
  pipeline : r'.pipeline = r.pipeline
  config : r'.config = r.config
  cancelled : r.cancelRequested = true → r'.cancelRequested = true
  executions : ∀ (k : Nat) (e : Execution), r.executions[k]? = some e →
    ∃ e', r'.executions[k]? = some e' ∧ e.Carries e'

theorem Carries.refl {r : Run} (h : r.Sound) : r.Carries r :=
  ⟨h, rfl, rfl, fun hr => hr,
    fun _ e he => ⟨e, he, .refl (h.executions e (List.mem_of_getElem? he))⟩⟩

theorem Carries.trans {q r s : Run} (h : q.Carries r) (h' : r.Carries s) : q.Carries s where
  sound := h'.sound
  pipeline := h'.pipeline.trans h.pipeline
  config := h'.config.trans h.config
  cancelled hq := h'.cancelled (h.cancelled hq)
  executions k e he := by
    obtain ⟨f, hf, hef⟩ := h.executions k e he
    obtain ⟨g, hg, hfg⟩ := h'.executions k f hf
    exact ⟨g, hg, hef.trans hfg⟩

theorem sound_create (id : String) (p : Pipeline) (c : RunConfig) : (create id p c).Sound where
  planned := by simp [create]
  executions := by simp [create]
  queue := by simp [create]
  waiting := by simp [create]
  cancelled := by simp [create]
  aborted := by simp [create]

/-- What is done with each of many tickets. -/
theorem carries_foldl {f : Run → Ticket → Run} (hf : ∀ (q : Run) t, q.Sound → q.Carries (f q t))
    {r : Run} (h : r.Sound) (ts : List Ticket) : r.Carries (ts.foldl f r) := by
  induction ts generalizing r with
  | nil => exact .refl h
  | cons t rest ih =>
      have hfirst := hf r t h
      exact hfirst.trans (ih hfirst.sound)

/-- The stages of an execution can be told apart. -/
theorem Sound.nodup_stageNames {r : Run} (h : r.Sound) {e : Execution} (he : e ∈ r.executions) :
    (e.stages.map StageReport.name).Nodup := by
  have hd := (wellPlanned_of_planOf (h.planned e he)).distinct
  rwa [List.map_map] at hd

/-- The worker of a ticket works in the open stage of its execution. -/
theorem Sound.exists_of_worker? {r : Run} (h : r.Sound) {t : Ticket} {s : OpenStage} {w : Worker}
    (hw : r.worker? t = some (s, w)) :
    ∃ e, r.executions[t.execution]? = some e ∧ e.Sound ∧ e.current = some s ∧ s.name = t.stage ∧
      w ∈ s.workers ∧ w.inst.identity = t.identity := by
  obtain ⟨e, he, hs, hname, hv⟩ := worker?_eq_some hw
  have hes : e.Sound := h.executions e (List.mem_of_getElem? he)
  obtain ⟨hmem, hid⟩ := (OpenStage.worker?_eq_some_iff (hes.distinct s hs)).1 hv
  exact ⟨e, he, hes, hs, hname, hmem, hid⟩

theorem worker_sound {r : Run} (h : r.Sound) {t : Ticket} {s : OpenStage} {w : Worker}
    (hw : r.worker? t = some (s, w)) : w.Sound := by
  obtain ⟨e, _, hes, hs, _, hmem, _⟩ := h.exists_of_worker? hw
  exact hes.workers s hs w hmem

/-- Whoever is in the open stage of an execution has its ticket. -/
theorem Sound.worker?_eq_some {r : Run} (h : r.Sound) {t : Ticket} {e : Execution} {s : OpenStage}
    {w : Worker} (he : r.executions[t.execution]? = some e) (hs : e.current = some s)
    (hname : s.name = t.stage) (hw : w ∈ s.workers) (hid : w.inst.identity = t.identity) :
    r.worker? t = some (s, w) :=
  (worker?_eq_some_iff he hs ((h.executions e (List.mem_of_getElem? he)).distinct s hs)).2
    ⟨hname, hw, hid⟩

/-! ### One execution changes -/

theorem mem_waiting_iff {r : Run} (h : r.Sound) {t : Ticket} {e : Execution}
    (he : r.executions[t.execution]? = some e) :
    t ∈ r.pool.waiting ↔ t ∈ queuedOf t.execution e := by
  rw [← h.queue t.execution e he]
  simp

/-- One execution goes on, and the other ones do not even change their places in the queue. -/
theorem carries_replace {r r' : Run} (h : r.Sound) {k : Nat} {e e' : Execution}
    (he : r.executions[k]? = some e) (hc : e.Carries e') (hpipeline : r'.pipeline = r.pipeline)
    (hconfig : r'.config = r.config) (hcancelled : r'.cancelRequested = r.cancelRequested)
    (hexecutions : r'.executions = r.executions.set k e')
    (haborted : e'.ending = some .aborted → r.cancelRequested = true)
    (hqueue : r'.pool.waiting.filter (·.execution = k) = queuedOf k e')
    (hothers : ∀ j, j ≠ k →
      r'.pool.waiting.filter (·.execution = j) = r.pool.waiting.filter (·.execution = j)) :
    r.Carries r' := by
  have hk : k < r.executions.length := (List.getElem?_eq_some_iff.1 he).1
  -- an execution of the new run is the one that changed, or another one as it was
  have hget (j : Nat) (f : Execution) (hf : r'.executions[j]? = some f) :
      (j = k ∧ f = e') ∨ (j ≠ k ∧ r.executions[j]? = some f) := by
    rw [hexecutions] at hf
    by_cases hjk : j = k
    · subst hjk
      rw [List.getElem?_set_self hk] at hf
      exact .inl ⟨rfl, (Option.some.inj hf).symm⟩
    · rw [List.getElem?_set_ne (Ne.symm hjk)] at hf
      exact .inr ⟨hjk, hf⟩
  have hmem (f : Execution) (hf : f ∈ r'.executions) : f = e' ∨ f ∈ r.executions := by
    obtain ⟨j, hj⟩ := List.mem_iff_getElem?.1 hf
    rcases hget j f hj with ⟨_, h'⟩ | ⟨_, h'⟩
    · exact .inl h'
    · exact .inr (List.mem_of_getElem? h')
  have hcarries (j : Nat) (f : Execution) (hf : r.executions[j]? = some f) :
      ∃ f', r'.executions[j]? = some f' ∧ f.Carries f' := by
    rw [hexecutions]
    by_cases hjk : j = k
    · subst hjk
      obtain rfl : e = f := Option.some.inj (he.symm.trans hf)
      exact ⟨e', List.getElem?_set_self hk, hc⟩
    · exact ⟨f, by rw [List.getElem?_set_ne (Ne.symm hjk), hf],
        .refl (h.executions f (List.mem_of_getElem? hf))⟩
  have hlength : r'.executions.length = r.executions.length := by
    rw [hexecutions, List.length_set]
  refine ⟨⟨?_, ?_, ?_, ?_, ?_, ?_⟩, hpipeline, hconfig, fun hr => hcancelled ▸ hr, hcarries⟩
  · intro f hf
    rw [hpipeline, hconfig]
    rcases hmem f hf with rfl | hf
    · rw [StageReport.map_planned_eq hc.stages]
      exact h.planned e (List.mem_of_getElem? he)
    · exact h.planned f hf
  · intro f hf
    rcases hmem f hf with rfl | hf
    · exact hc.sound
    · exact h.executions f hf
  · intro j f hf
    rcases hget j f hf with ⟨rfl, rfl⟩ | ⟨hjk, hf⟩
    · exact hqueue
    · rw [hothers j hjk]
      exact h.queue j f hf
  · intro t ht
    rw [hlength]
    by_cases htk : t.execution = k
    · rw [htk]
      exact hk
    · have hin : t ∈ r'.pool.waiting.filter (·.execution = t.execution) := by simp [ht]
      rw [hothers t.execution htk] at hin
      exact h.waiting t (List.mem_filter.1 hin).1
  · intro hr f hf
    rw [List.getLast?_eq_getElem?, hlength] at hf
    rcases hget _ f hf with ⟨hjk, rfl⟩ | ⟨_, hf⟩
    · refine StageReport.forall_ne_pending hc.instances (h.cancelled (hcancelled ▸ hr) e ?_)
      rw [List.getLast?_eq_getElem?, hjk]
      exact he
    · refine h.cancelled (hcancelled ▸ hr) f ?_
      rw [List.getLast?_eq_getElem?]
      exact hf
  · intro f hf hending
    rw [hcancelled]
    rcases hmem f hf with rfl | hf
    · exact haborted hending
    · exact h.aborted f hf hending

theorem modifyExecution_eq_set {r : Run} {k : Nat} {e : Execution}
    (he : r.executions[k]? = some e) (f : Execution → Execution) :
    (r.modifyExecution k f).executions = r.executions.set k (f e) := by
  obtain ⟨hk, hget⟩ := List.getElem?_eq_some_iff.1 he
  rw [modifyExecution, List.modify_eq_set_get f hk]
  simp [hget]

/-- An execution goes on, and nobody joins or leaves the queue. -/
theorem carries_modifyExecution {r : Run} (h : r.Sound) {k : Nat} {e : Execution}
    {f : Execution → Execution} (he : r.executions[k]? = some e) (hc : e.Carries (f e))
    (hending : (f e).ending = e.ending) (hqueue : queuedOf k (f e) = queuedOf k e) :
    r.Carries (r.modifyExecution k f) :=
  carries_replace h he hc rfl rfl rfl (modifyExecution_eq_set he f)
    (fun ha => h.aborted e (List.mem_of_getElem? he) (hending ▸ ha))
    ((h.queue k e he).trans hqueue.symm) fun _ _ => rfl

/-! ### A worker leaves its point -/

/-- A worker of an open stage takes up another point, and does not wait any more. -/
theorem carries_put {r r' : Run} (h : r.Sound) {t : Ticket} {s : OpenStage} {w w' : Worker}
    (hw : r.worker? t = some (s, w)) (hsound : w'.Sound) (hbecomes : w.inst.Becomes w'.inst)
    (hleft : w'.point.isQueued = false) (hpipeline : r'.pipeline = r.pipeline)
    (hconfig : r'.config = r.config) (hcancelled : r'.cancelRequested = r.cancelRequested)
    (hexecutions : r'.executions = (r.modifyExecution t.execution fun e =>
      { e with current := some ((s.put w').noteOutcome r.config.failFast w') }).executions)
    (hwaiting : r'.pool.waiting = r.pool.waiting.filter (· ≠ t)) : r.Carries r' := by
  obtain ⟨e, he, hes, hs, hname, hmem, hid⟩ := h.exists_of_worker? hw
  have hid' : w'.inst.identity = t.identity :=
    (JobInstance.identity_eq_of_planned hbecomes.planned).trans hid
  rw [modifyExecution_eq_set he] at hexecutions
  refine carries_replace h he (Execution.carries_turn hes hs hmem hsound hbecomes _) hpipeline
    hconfig hcancelled hexecutions (h.aborted e (List.mem_of_getElem? he)) ?_ ?_
  · rw [queuedOf_put hs _ hleft, ← h.queue t.execution e he, hwaiting, List.filter_filter,
      List.filter_filter, hname, hid']
    exact List.filter_congr fun _ _ => Bool.and_comm ..
  · intro j hj
    rw [hwaiting, List.filter_filter]
    refine List.filter_congr fun u _ => ?_
    by_cases huj : u.execution = j
    · have hne : u ≠ t := fun hut => hj (huj ▸ hut ▸ rfl)
      simp [huj, hne]
    · simp [huj]

/-- What a turn of a worker makes of a run. -/
theorem turn_eq {r : Run} {t : Ticket} {s : OpenStage} {w : Worker} {f : Worker → Turn}
    {made : Turn} (hw : r.worker? t = some (s, w)) (hlive : w.point.hasEnded = false)
    (hmade : f w = made) :
    r.turn t f =
      { (r.modifyExecution t.execution fun e =>
          { e with current := some ((s.put made.worker).noteOutcome r.config.failFast
              made.worker) }) with
        pool := if made.worker.point.hasEnded then r.pool.leave else r.pool
        log := r.log ++ made.notes.map (fun n => (t, n))
        tally := r.tally ++ made.tally } := by
  simp [turn, hw, hlive, hmade, modifyExecution]

theorem turn_of_none {r : Run} {t : Ticket} (f : Worker → Turn) (hw : r.worker? t = none) :
    r.turn t f = r := by
  simp [turn, hw]

theorem turn_of_hasEnded {r : Run} {t : Ticket} {s : OpenStage} {w : Worker} (f : Worker → Turn)
    (hw : r.worker? t = some (s, w)) (hended : w.point.hasEnded = true) : r.turn t f = r := by
  simp [turn, hw, hended]

theorem waiting_leave (p : Pool Ticket) (b : Bool) :
    (if b = true then p.leave else p).waiting = p.waiting := by
  cases b <;> rfl

/-- A turn in which a worker does nothing changes nothing. -/
theorem turn_eq_self {r : Run} (h : r.Sound) {t : Ticket} {s : OpenStage} {w : Worker}
    {f : Worker → Turn} (hw : r.worker? t = some (s, w)) (hf : f w = { worker := w }) :
    r.turn t f = r := by
  cases hlive : w.point.hasEnded with
  | true => exact turn_of_hasEnded f hw hlive
  | false =>
      obtain ⟨e, he, hes, hs, _, hmem, _⟩ := h.exists_of_worker? hw
      have hput : (s.put w).noteOutcome r.config.failFast w = s := by
        have hnote : (s.put w).noteOutcome r.config.failFast w = s.put w := by
          simp [OpenStage.noteOutcome, hlive]
        rw [hnote, OpenStage.put_of_mem (hes.distinct s hs) hmem]
      have hsame : r.executions.modify t.execution
          (fun e => { e with current := some s }) = r.executions := by
        obtain ⟨hk, rfl⟩ := List.getElem?_eq_some_iff.1 he
        refine (modifyExecution_eq_set he fun e => { e with current := some s }).trans ?_
        rw [← hs]
        exact List.set_getElem_self hk
      rw [turn_eq hw hlive hf]
      simp [modifyExecution, hput, hlive, hsame]

/-- Whatever is done to a worker that is under way, except for what only a worker that waits for a
slot goes through. -/
theorem carries_turn {r : Run} (h : r.Sound) {t : Ticket} {f : Worker → Turn} {a : Act}
    (hact : ∃ wd halted, ∀ w, f w = w.act wd halted a) (hbegin : a ≠ .begin)
    (habort : ∀ s w, r.worker? t = some (s, w) → w.point = .queued → a ≠ .abort) :
    r.Carries (r.turn t f) := by
  obtain ⟨wd, halted, hf⟩ := hact
  cases hw : r.worker? t with
  | none =>
      rw [turn_of_none f hw]
      exact .refl h
  | some p =>
      obtain ⟨s, w⟩ := p
      obtain ⟨e, he, hes, _⟩ := h.exists_of_worker? hw
      have hsound := worker_sound h hw
      rcases w.point.queued_or_holdsSlot_or_ended with hpt | hp | ⟨aborted, hpt⟩
      · have hstill := Worker.act_of_queued wd halted hpt hbegin (habort s w hw hpt)
        rw [turn_eq_self h hw ((hf w).trans hstill)]
        exact .refl h
      · obtain ⟨hqueued, hlive⟩ := Point.live_of_holdsSlot hp
        have hcarries : w.Carries (w.act wd halted a).worker :=
          Worker.carries_act hsound hp hbegin
        -- whoever holds a slot is not in the queue, so that nothing leaves it
        have hnot : t ∉ r.pool.waiting := by
          rw [mem_waiting_iff h he, mem_queuedOf_iff he hes hw, hqueued]
          exact Bool.false_ne_true
        have hwaiting : r.pool.waiting = r.pool.waiting.filter (· ≠ t) :=
          (List.filter_eq_self.2 fun u hu => by
            simpa using fun hut : u = t => hnot (hut ▸ hu)).symm
        rw [turn_eq hw hlive (hf w)]
        refine carries_put h hw hcarries.sound (hcarries.becomes hsound hp) hcarries.left rfl rfl
          rfl rfl ?_
        rw [← hwaiting]
        exact waiting_leave r.pool _
      · rw [turn_of_hasEnded f hw (by rw [hpt]; rfl)]
        exact .refl h

end Run

end Conveyor
