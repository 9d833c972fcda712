/-
**The stages of an execution come one after the other.**

Nothing was started in the stages before an execution, so that a stage in which something was
started is open or behind, and all stages before it are over.

Main definitions:

* `Conveyor.Execution.Orderly` — the instances of an execution are traced, and none was started in
  the stages before it.

Main results:

* `Conveyor.Execution.Change.orderly` — every change keeps this;
* `Conveyor.Execution.Orderly.mem_past` — a stage before one in which something was started is
  behind.
-/

import Conveyor.Proofs.Execution.Change
import Conveyor.Proofs.Worker.Started

set_option autoImplicit false

namespace Conveyor

namespace Execution

/-- The instances of an execution are traced, and none was started in the stages before it. -/
structure Orderly (e : Execution) : Prop where
  past : ∀ s ∈ e.past, ∀ i ∈ s.instances, i.Traced
  workers : ∀ s, e.current = some s → ∀ w ∈ s.workers, w.Traced
  future : ∀ s ∈ e.future, ∀ i ∈ s.instances, i.Traced ∧ i.started = false

theorem orderly_iff {e : Execution} : e.Orderly ↔
    e.Throughout Worker.Traced JobInstance.Traced fun i => i.Traced ∧ i.started = false :=
  ⟨fun h => ⟨h.past, h.workers, h.future⟩, fun h => ⟨h.past, h.workers, h.future⟩⟩

/-- Traces last, and nothing is started before a stage is opened. -/
theorem lasting_traced :
    Lasting Worker.Traced JobInstance.Traced fun i => i.Traced ∧ i.started = false where
  planned h := ⟨h.traced, h.started_eq⟩
  act _ _ _ hsound h hb := Worker.traced_act hsound h hb
  cancelWorker _ h reason := h.cancelIfPending reason
  cancelPast h reason := h.cancelIfPending reason
  cancelFuture h reason := ⟨h.1.cancelIfPending reason, by simpa using h.2⟩
  opened h := ⟨h.1, fun _ => rfl⟩
  closed _ h := h.inst
  skipped h := h.1

/-- Every change keeps the order of the stages. -/
theorem Change.orderly {may : Act → Prop} {wd : String} {halted failFast : Bool}
    {e e' : Execution} (hsound : e.Sound) (h : e.Orderly)
    (hc : Change may wd halted failFast e e') : e'.Orderly :=
  orderly_iff.2 (hc.throughout lasting_traced hsound (orderly_iff.1 h))

/-- Every instance of an execution is traced. -/
theorem Orderly.traced {e : Execution} (h : e.Orderly) : ∀ i ∈ e.instances, i.Traced := by
  intro i hi
  rcases instances_cases hi with ⟨s, hs, his⟩ | ⟨s, w, hs, hw, rfl⟩ | ⟨s, hs, his⟩
  · exact h.past s hs i his
  · exact (h.workers s hs w hw).inst
  · exact (h.future s hs i his).1

/-- A stage before one that is open or behind is behind. -/
theorem getElem?_past {e : Execution} {m n : Nat} (hmn : m < n)
    (hn : n < e.past.length + e.current.toList.length) {s : StageReport}
    (hs : e.stages[m]? = some s) : e.past[m]? = some s := by
  have hone : e.current.toList.length ≤ 1 := by
    cases e.current <;> simp
  have hm : m < e.past.length := by omega
  rw [stages, List.append_assoc, List.getElem?_append_left hm] at hs
  exact hs

/-- A stage before one in which something was started is behind. -/
theorem Orderly.mem_past {e : Execution} (h : e.Orderly) {m n : Nat} (hmn : m < n)
    {s t : StageReport} (hs : e.stages[m]? = some s) (ht : e.stages[n]? = some t)
    {j : JobInstance} (hj : j ∈ t.instances) (hstarted : j.started = true) : s ∈ e.past := by
  refine List.mem_of_getElem? (getElem?_past hmn ?_ hs)
  by_contra hn
  -- otherwise the stage waits, and nothing was started in it
  have hlen : (e.past ++ e.current.toList.map OpenStage.report).length ≤ n := by
    simpa using Nat.not_lt.1 hn
  rw [stages, List.getElem?_append_right hlen] at ht
  have hnot := (h.future t (List.mem_of_getElem? ht) j hj).2
  simp [hstarted] at hnot

end Execution

end Conveyor
