/-
**The changes of an execution, and what they keep.**

Whatever happens to a run, it reaches each of its executions as one small change after the other.
They are listed here once, with all that is known when they come, so that what an execution keeps is
shown by going through the list.

An instance waits in a stage to come, has a worker in the open stage, or is in a stage behind.  What
every turn of a worker and every cancel keeps, and what is handed on when a stage is opened, skipped
or closed, holds of all instances at all times.

Main definitions:

* `Conveyor.Execution.Change` — one change of an execution;
* `Conveyor.Execution.Lasting` — properties of workers and of instances that are kept and handed on;
* `Conveyor.Execution.Throughout` — an execution all of whose workers and instances have them.

Main results:

* `Conveyor.OpenStage.mem_workers_turn` — who is in the open stage after a turn;
* `Conveyor.Execution.Change.carries` — every change carries an execution on;
* `Conveyor.Execution.Change.throughout` — **every change keeps what lasts**.
-/

import Conveyor.Proofs.Execution.Sound
import Conveyor.Proofs.Plan

set_option autoImplicit false

namespace Conveyor

/-- Whoever is in an open stage after a turn has made it, or was there before; perhaps it was
cancelled because of the turn. -/
theorem OpenStage.mem_workers_turn {s : OpenStage} {failFast : Bool} {v w : Worker}
    (h : v ∈ ((s.put w).noteOutcome failFast w).workers) :
    ∃ u, (u = w ∨ (u ∈ s.workers ∧ u.inst.identity ≠ w.inst.identity)) ∧
      (v = u ∨ ∃ reason, v = { u with inst := StageReport.cancelIfPending reason u.inst }) := by
  obtain ⟨f, hf, _, hcases⟩ := (s.put w).exists_workers_noteOutcome failFast w
  rw [hf] at h
  obtain ⟨u, hu, rfl⟩ := List.mem_map.1 h
  refine ⟨u, ?_, hcases u⟩
  -- before the outcome was noted the stage had the one that made the turn in its place
  obtain ⟨x, hx, rfl⟩ := List.mem_map.1 hu
  split
  · exact .inl rfl
  · rename_i hne
    exact .inr ⟨hx, hne⟩

/-- Nobody in an open stage that is over is at work. -/
theorem OpenStage.not_isOver_of_holdsSlot {s : OpenStage} {w : Worker} (hw : w ∈ s.workers)
    (hp : w.point.holdsSlot = true) : ¬ s.isOver = true := by
  intro hover
  have hended := List.all_eq_true.1 hover w hw
  simp [(Point.live_of_holdsSlot hp).2] at hended

namespace Execution

/-- One change of an execution.  `may` says what workers may be made to do, `wd` is the directory of
the run, `halted` says that the run was cancelled, and `failFast` that a failure calls off other
work. -/
inductive Change (may : Act → Prop) (wd : String) (halted failFast : Bool) (e : Execution) :
    Execution → Prop
  /-- A worker of the open stage makes a turn. -/
  | turn {s : OpenStage} {w : Worker} (a : Act) (hmay : may a) (hs : e.current = some s)
      (hw : w ∈ s.workers) (hb : a = .begin → w.point = .queued) :
      Change may wd halted failFast e
        { e with current := some ((s.put (w.act wd halted a).worker).noteOutcome failFast
            (w.act wd halted a).worker) }
  /-- The run is cancelled: this comes before its workers are interrupted. -/
  | cancelPending (reason : String) (hmay : may .interrupt) :
      Change may wd halted failFast e (e.cancelPending reason)
  /-- The open stage is over. -/
  | close {s : OpenStage} (hs : e.current = some s) (hending : e.ending = none)
      (hover : s.isOver = true) (haborted : s.wasAborted = false) :
      Change may wd halted failFast e (e.close failFast s)
  | skip {s : StageReport} {rest : List StageReport} (reason : String) (hcur : e.current = none)
      (hfut : e.future = s :: rest) (hending : e.ending = none)
      (hwhy : halted = true ∨ ∃ name, e.haltedBy = some name) :
      Change may wd halted failFast e
        { e with past := e.past ++ [skipped s reason], future := rest }
  | openStage {s : StageReport} {rest : List StageReport} (hcur : e.current = none)
      (hfut : e.future = s :: rest) (hending : e.ending = none) (hrun : halted = false)
      (hby : e.haltedBy = none) :
      Change may wd halted failFast e { e with current := some (.ofReport s), future := rest }
  /-- No stage is left. -/
  | conclude (hcur : e.current = none) (hfut : e.future = []) (hending : e.ending = none) :
      Change may wd halted failFast e (e.finish (.returned e.finalStatus))
  /-- The task of the execution was aborted.  It waited for the open stage. -/
  | giveUp {s : OpenStage} (hs : e.current = some s) (hending : e.ending = none)
      (hhalted : halted = true) : Change may wd halted failFast e (e.finish .aborted)

/-- Every change carries an execution on. -/
theorem Change.carries {may : Act → Prop} {wd : String} {halted failFast : Bool}
    {e e' : Execution} (h : e.Sound) (hc : Change may wd halted failFast e e') : e.Carries e' := by
  cases hc with
  | turn a _ hs hw hb =>
      have hws := h.workers _ hs _ hw
      exact carries_turn h hs hw (Worker.sound_act hws hb) (Worker.becomes_act hws hb) failFast
  | cancelPending reason _ => exact carries_cancelPending h reason
  | close hs hending hover haborted => exact carries_close h hs hending hover haborted failFast
  | skip reason hcur hfut hending _ => exact carries_skip h hfut hending hcur reason
  | openStage hcur hfut hending _ _ => exact carries_openStage h hfut hending hcur
  | conclude hcur hfut hending => exact carries_conclude h hending hcur hfut
  | giveUp _ hending _ => exact carries_abort h hending

/-! ### What holds of every instance, wherever it is -/

/-- Properties of workers, of the instances behind, and of those to come, which a plan has, which
every turn and every cancel keeps, and which are handed on from one stage to the other. -/
structure Lasting (Q : Worker → Prop) (P F : JobInstance → Prop) : Prop where
  planned : ∀ {n : String} {i : JobInstance}, i.WellPlanned n → F i
  act : ∀ {w : Worker} (wd : String) (halted : Bool) {a : Act}, w.Sound → Q w →
    (a = .begin → w.point = .queued) → Q (w.act wd halted a).worker
  cancelWorker : ∀ {w : Worker}, w.Sound → Q w → ∀ reason,
    Q { w with inst := StageReport.cancelIfPending reason w.inst }
  cancelPast : ∀ {i : JobInstance}, P i → ∀ reason, P (StageReport.cancelIfPending reason i)
  cancelFuture : ∀ {i : JobInstance}, F i → ∀ reason, F (StageReport.cancelIfPending reason i)
  /-- A stage is opened. -/
  opened : ∀ {i : JobInstance}, F i → Q { inst := i }
  /-- A stage is closed. -/
  closed : ∀ {w : Worker}, w.Sound → Q w → P w.inst
  /-- A stage is skipped. -/
  skipped : ∀ {i : JobInstance}, F i → P i

/-- An execution all of whose workers and instances have such properties. -/
structure Throughout (Q : Worker → Prop) (P F : JobInstance → Prop) (e : Execution) : Prop where
  past : ∀ s ∈ e.past, ∀ i ∈ s.instances, P i
  workers : ∀ s, e.current = some s → ∀ w ∈ s.workers, Q w
  future : ∀ s ∈ e.future, ∀ i ∈ s.instances, F i

variable {Q : Worker → Prop} {P F : JobInstance → Prop} {e e' : Execution}

/-- An execution of a plan that has done nothing yet. -/
theorem throughout_of_planned (hl : Lasting Q P F) {stages : List StageReport}
    (h : WellPlanned stages) : Throughout Q P F { future := stages } where
  past := by simp
  workers := by simp
  future s hs i hi := hl.planned ((h.stages s hs).instances i hi)

/-- What lasts is kept in a stage whose pending instances are cancelled. -/
theorem forall_cancelPending {s : StageReport} {G : JobInstance → Prop}
    (hG : ∀ {i}, G i → ∀ reason, G (StageReport.cancelIfPending reason i))
    (h : ∀ i ∈ s.instances, G i) (reason : String) :
    ∀ i ∈ (s.cancelPending reason).instances, G i := by
  intro i hi
  obtain ⟨j, hj, rfl⟩ := List.mem_map.1 hi
  exact hG (h j hj) reason

theorem Throughout.cancelPending (hl : Lasting Q P F) (hsound : e.Sound)
    (h : e.Throughout Q P F) (reason : String) :
    (e.cancelPending reason).Throughout Q P F where
  past s hs := by
    obtain ⟨t, ht, rfl⟩ := List.mem_map.1 hs
    exact forall_cancelPending hl.cancelPast (h.past t ht) reason
  workers s hs w hw := by
    obtain ⟨t, ht, rfl⟩ := Option.map_eq_some_iff.1 hs
    obtain ⟨v, hv, rfl⟩ := List.mem_map.1 hw
    exact hl.cancelWorker (hsound.workers t ht v hv) (h.workers t ht v hv) reason
  future s hs := by
    obtain ⟨t, ht, rfl⟩ := List.mem_map.1 hs
    exact forall_cancelPending hl.cancelFuture (h.future t ht) reason

/-- A turn of a worker, and what follows from its outcome. -/
theorem Throughout.turn (hl : Lasting Q P F) (hsound : e.Sound) (h : e.Throughout Q P F)
    {s : OpenStage} {w : Worker} (hs : e.current = some s) (hw : w ∈ s.workers) {a : Act}
    (hb : a = .begin → w.point = .queued) (wd : String) (halted failFast : Bool) :
    Throughout Q P F { e with current := some ((s.put (w.act wd halted a).worker).noteOutcome
      failFast (w.act wd halted a).worker) } := by
  refine ⟨h.past, fun s' hs' v hv => ?_, h.future⟩
  obtain rfl := Option.some.inj hs'
  have hmade : (w.act wd halted a).worker.Sound ∧ Q (w.act wd halted a).worker :=
    ⟨Worker.sound_act (hsound.workers s hs w hw) hb,
      hl.act wd halted (hsound.workers s hs w hw) (h.workers s hs w hw) hb⟩
  obtain ⟨u, hu, hv⟩ := OpenStage.mem_workers_turn hv
  have hboth : u.Sound ∧ Q u := by
    rcases hu with rfl | ⟨hu, _⟩
    · exact hmade
    · exact ⟨hsound.workers s hs u hu, h.workers s hs u hu⟩
  rcases hv with rfl | ⟨reason, rfl⟩
  · exact hboth.2
  · exact hl.cancelWorker hboth.1 hboth.2 reason

/-- **Every change keeps what lasts.** -/
theorem Change.throughout {may : Act → Prop} {wd : String} {halted failFast : Bool}
    (hl : Lasting Q P F) (hsound : e.Sound) (h : e.Throughout Q P F)
    (hc : Change may wd halted failFast e e') : e'.Throughout Q P F := by
  cases hc with
  | turn a _ hs hw hb => exact h.turn hl hsound hs hw hb wd halted failFast
  | cancelPending reason _ => exact h.cancelPending hl hsound reason
  | @close s hs _ _ _ =>
      refine ⟨fun t ht i hi => ?_, by simp [Execution.close], h.future⟩
      rcases List.mem_append.1 ht with ht | ht
      · exact h.past t ht i hi
      · rw [List.mem_singleton.1 ht] at hi
        obtain ⟨w, hw, rfl⟩ := List.mem_map.1 hi
        exact hl.closed (hsound.workers s hs w hw) (h.workers s hs w hw)
  | @skip s rest reason hcur hfut _ _ =>
      have hfirst := h.future s (hfut ▸ List.mem_cons_self ..)
      refine ⟨fun t ht i hi => ?_, h.workers, fun t ht => ?_⟩
      · rcases List.mem_append.1 ht with ht | ht
        · exact h.past t ht i hi
        · rw [List.mem_singleton.1 ht] at hi
          exact hl.skipped (forall_cancelPending hl.cancelFuture hfirst reason i hi)
      · exact h.future t (hfut ▸ List.mem_cons_of_mem _ ht)
  | @openStage s rest hcur hfut _ _ _ =>
      refine ⟨h.past, fun o ho w hw => ?_, fun t ht => ?_⟩
      · obtain rfl := Option.some.inj ho
        obtain ⟨i, hi, rfl⟩ := List.mem_map.1 hw
        exact hl.opened (h.future s (hfut ▸ List.mem_cons_self ..) i hi)
      · exact h.future t (hfut ▸ List.mem_cons_of_mem _ ht)
  | conclude hcur hfut hending => exact ⟨h.past, h.workers, h.future⟩
  | giveUp _ hending _ => exact ⟨h.past, h.workers, h.future⟩

/-- Every instance has what is handed on. -/
theorem Throughout.of_mem {G : JobInstance → Prop} (h : e.Throughout Q P F) (hsound : e.Sound)
    (hpast : ∀ i, P i → G i) (hworkers : ∀ w : Worker, w.Sound → Q w → G w.inst)
    (hfuture : ∀ i, F i → G i) : ∀ i ∈ e.instances, G i := by
  intro i hi
  rcases instances_cases hi with ⟨s, hs, his⟩ | ⟨s, w, hs, hw, rfl⟩ | ⟨s, hs, his⟩
  · exact hpast i (h.past s hs i his)
  · exact hworkers w (hsound.workers s hs w hw) (h.workers s hs w hw)
  · exact hfuture i (h.future s hs i his)

end Execution

end Conveyor
