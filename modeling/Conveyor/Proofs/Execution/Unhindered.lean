/-
**An execution in which nothing is called off.**

When nobody cancels or aborts, and no failure calls off other work, then whatever is behind was
started, whoever waits is pending, and nobody was disturbed.

Main definitions:

* `Conveyor.Act.IsHarmless` — what may happen to a worker without calling it off;
* `Conveyor.Execution.Unhindered` — an execution in which nothing was called off.

Main results:

* `Conveyor.Worker.isUndisturbed_act` — a harmless turn leaves a worker undisturbed;
* `Conveyor.Execution.Change.unhindered` — every harmless change keeps an execution unhindered;
* `Conveyor.Execution.Unhindered.started_of_returned` — **when it returns everything was started**.
-/

import Conveyor.Proofs.Execution.Orderly
import Conveyor.Proofs.Worker.Alone

set_option autoImplicit false

namespace Conveyor

/-- Whether what happens to a worker calls nothing off. -/
def Act.IsHarmless : Act → Prop
  | .begin | .served _ => True
  | .ran reply => ∀ f, reply = .unreadable f → f.kind ≠ .foreign "CancelledError"
  | .stopped reply => reply ≠ .dropped
  | .interrupt | .abort => False

/-- A harmless turn leaves a worker undisturbed. -/
theorem Worker.isUndisturbed_act {w : Worker} {wd : String} {halted : Bool} {a : Act}
    (h : w.Sound) (ha : a.IsHarmless) (hb : a = .begin → w.point = .queued)
    (hu : w.point.IsUndisturbed) : (w.act wd halted a).worker.point.IsUndisturbed := by
  cases a with
  | begin => exact Replies.isUndisturbed_begin h (hb rfl) halted
  | served reply => exact Replies.isUndisturbed_served hu halted reply
  | ran reply => exact Replies.isUndisturbed_ran hu halted ha
  | stopped reply => exact Replies.isUndisturbed_stopped hu ha
  | interrupt => exact False.elim ha
  | abort => exact False.elim ha

/-- Whoever was not disturbed was not aborted. -/
theorem Point.IsUndisturbed.wasAborted_eq {p : Point} (h : p.IsUndisturbed) :
    p.wasAborted = false := by
  cases p with
  | ended aborted => exact h
  | queued => rfl
  | starting => rfl
  | running => rfl
  | stopping => rfl

/-- What is known of a worker when nothing was called off. -/
structure Worker.Unhindered (w : Worker) : Prop where
  undisturbed : w.point.IsUndisturbed
  waits : w.point = .queued → w.inst.status = .pending
  started : w.point ≠ .queued → w.inst.started = true

/-- A harmless turn of a run that was not cancelled keeps a worker unhindered. -/
theorem Worker.Unhindered.act {w : Worker} {wd : String} {a : Act} (h : w.Unhindered)
    (hs : w.Sound) (ha : a.IsHarmless) (hb : a = .begin → w.point = .queued) :
    (w.act wd false a).worker.Unhindered := by
  refine ⟨isUndisturbed_act hs ha hb h.undisturbed, ?_, ?_⟩
  all_goals by_cases hbegin : a = .begin
  · -- after its first turn it does not wait any more
    subst hbegin
    intro hq
    have hleft := (sound_begin wd false hs (hb rfl)).2.1
    rw [Worker.act] at hq
    simp [hq, Point.isQueued] at hleft
  · intro hq
    rcases w.point.queued_or_holdsSlot_or_ended with hpt | hp | ⟨aborted, hpt⟩
    · rw [act_of_queued wd false hpt hbegin fun habort => by simp [habort, Act.IsHarmless] at ha]
      exact h.waits hpt
    · have hcarries : w.Carries (w.act wd false a).worker := carries_act hs hp hbegin
      have hleft := hcarries.left
      simp [hq, Point.isQueued] at hleft
    · rw [act_of_ended wd false hpt hbegin, hpt] at hq
      cases hq
  · subst hbegin
    intro _
    rw [Worker.act, started_begin hs (hb rfl), h.waits (hb rfl)]
    simp
  · intro hq
    rw [started_act hbegin]
    refine h.started fun hpt => hq ?_
    rw [act_of_queued wd false hpt hbegin fun habort => by simp [habort, Act.IsHarmless] at ha]
    exact hpt

namespace Execution

/-- An execution in which nothing was called off. -/
structure Unhindered (e : Execution) : Prop where
  haltedBy : e.haltedBy = none
  ending : e.ending ≠ some .aborted
  past : ∀ s ∈ e.past, ∀ i ∈ s.instances, i.started = true
  workers : ∀ s, e.current = some s → ∀ w ∈ s.workers, w.Unhindered
  future : ∀ s ∈ e.future, ∀ i ∈ s.instances, i.status = .pending

/-- An execution of a plan that has done nothing yet. -/
theorem unhindered_of_planned {stages : List StageReport} (h : WellPlanned stages) :
    Unhindered { future := stages } where
  haltedBy := rfl
  ending := by simp
  past := by simp
  workers := by simp
  future s hs i hi := ((h.stages s hs).instances i hi).status_eq

theorem Unhindered.close {e : Execution} (h : e.Unhindered) {s : OpenStage}
    (hs : e.current = some s) (hover : s.isOver = true) : (e.close false s).Unhindered where
  haltedBy := by simp [Execution.close, h.haltedBy]
  ending := h.ending
  past t ht i hi := by
    rcases List.mem_append.1 ht with ht | ht
    · exact h.past t ht i hi
    · rw [List.mem_singleton.1 ht] at hi
      obtain ⟨w, hw, rfl⟩ := List.mem_map.1 hi
      refine (h.workers s hs w hw).started fun hpt => ?_
      have hended := List.all_eq_true.1 hover w hw
      simp [hpt, Point.hasEnded] at hended
  workers := by simp [Execution.close]
  future := h.future

theorem Unhindered.openStage {e : Execution} (h : e.Unhindered) {s : StageReport}
    {rest : List StageReport} (hfut : e.future = s :: rest) :
    Unhindered { e with current := some (.ofReport s), future := rest } where
  haltedBy := h.haltedBy
  ending := h.ending
  past := h.past
  workers o ho w hw := by
    obtain rfl := Option.some.inj ho
    obtain ⟨i, hi, rfl⟩ := List.mem_map.1 hw
    exact ⟨trivial, fun _ => h.future s (hfut ▸ List.mem_cons_self ..) i hi,
      fun hpt => absurd rfl hpt⟩
  future t ht := h.future t (hfut ▸ List.mem_cons_of_mem _ ht)

/-- Every harmless change keeps an execution unhindered. -/
theorem Change.unhindered {may : Act → Prop} {wd : String} {e e' : Execution}
    (hmay : ∀ a, may a → a.IsHarmless) (hsound : e.Sound) (h : e.Unhindered)
    (hc : Change may wd false false e e') : e'.Unhindered := by
  cases hc with
  | @turn s w a ha hs hw hb =>
      refine ⟨h.haltedBy, h.ending, h.past, fun s' hs' v hv => ?_, h.future⟩
      obtain rfl := Option.some.inj hs'
      rw [OpenStage.noteOutcome_of_not_failFast] at hv
      obtain ⟨u, hu, rfl⟩ := List.mem_map.1 hv
      split
      · exact (h.workers s hs w hw).act (hsound.workers s hs w hw) (hmay a ha) hb
      · exact h.workers s hs u hu
  | cancelPending reason ha => exact False.elim (hmay _ ha)
  | close hs _ hover _ => exact h.close hs hover
  | skip reason _ _ _ hwhy =>
      rcases hwhy with hhalted | ⟨name, hname⟩
      · cases hhalted
      · exact absurd (h.haltedBy.symm.trans hname) (by simp)
  | openStage _ hfut _ _ _ => exact h.openStage hfut
  | conclude _ _ _ => exact ⟨h.haltedBy, by simp [finish], h.past, h.workers, h.future⟩
  | giveUp _ _ hhalted => cases hhalted

/-- **When an unhindered execution returns everything was started.** -/
theorem Unhindered.started_of_returned {e : Execution} (hsound : e.Sound) (h : e.Unhindered)
    {st : Status} (hst : e.ending = some (.returned st)) : ∀ i ∈ e.instances, i.started = true := by
  obtain ⟨hcur, hfut, _, _⟩ := hsound.returned st hst
  intro i hi
  obtain ⟨s, hs, his⟩ := List.mem_flatMap.1 hi
  exact h.past s (by simpa [stages, hcur, hfut] using hs) i his

/-- What was not started waits. -/
theorem Unhindered.pending_of_unstarted {e : Execution} (h : e.Unhindered) :
    ∀ i ∈ e.instances, i.started = false → i.status = .pending := by
  intro i hi hun
  rcases instances_cases hi with ⟨s, hs, his⟩ | ⟨s, w, hs, hw, rfl⟩ | ⟨s, hs, his⟩
  · simp [h.past s hs i his] at hun
  · by_cases hpt : w.point = .queued
    · exact (h.workers s hs w hw).waits hpt
    · simp [(h.workers s hs w hw).started hpt] at hun
  · exact h.future s hs i his

end Execution

end Conveyor
