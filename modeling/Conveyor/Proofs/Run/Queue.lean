/-
**Tickets: the workers of a run, and those who wait for a slot.**

Main definitions:

* `Conveyor.Run.queuedOf` — the tickets of the workers of an execution that wait for a slot.

Main results:

* `Conveyor.Run.worker?_eq_some_iff` — whom a ticket belongs to;
* `Conveyor.Run.queuedOf_put` — a worker that does not wait any more, and nobody else, leaves the
  queue;
* `Conveyor.Run.nodup_ticketsOf`, `Conveyor.Run.nodup_queuedOf` — nobody has two tickets, and nobody
  waits twice.
-/

import Conveyor.Engine.Run
import Conveyor.Proofs.Execution.Sound

set_option autoImplicit false

namespace Conveyor

/-! ### Workers of the open stage -/

namespace OpenStage

/-- The identities of the workers that wait for a slot. -/
def queued (s : OpenStage) : List String :=
  (s.workers.filter fun w => w.point.isQueued).map fun w => w.inst.identity

theorem worker?_eq_some_iff {s : OpenStage} (hd : s.Distinct) {identity : String} {w : Worker} :
    s.worker? identity = some w ↔ w ∈ s.workers ∧ w.inst.identity = identity := by
  constructor
  · intro h
    exact ⟨List.mem_of_find?_eq_some h, by simpa using List.find?_some h⟩
  · rintro ⟨hw, hid⟩
    cases hf : s.worker? identity with
    | none =>
        have hne := List.find?_eq_none.1 hf w hw
        simp [hid] at hne
    | some v =>
        have hv : v.inst.identity = identity := by simpa using List.find?_some hf
        rw [eq_of_identity_eq hd (List.mem_of_find?_eq_some hf) hw (hv.trans hid.symm)]

theorem mem_queued {s : OpenStage} {identity : String} :
    identity ∈ s.queued ↔
      ∃ w ∈ s.workers, w.point.isQueued = true ∧ w.inst.identity = identity := by
  simp [queued, and_assoc]

theorem Distinct.nodup_queued {s : OpenStage} (hd : s.Distinct) : s.queued.Nodup :=
  hd.sublist (List.filter_sublist.map _)

/-- A worker that does not wait any more leaves the queue.  Noting how it came out moves nobody. -/
theorem queued_put (s : OpenStage) (failFast : Bool) {w : Worker}
    (hw : w.point.isQueued = false) :
    ((s.put w).noteOutcome failFast w).queued = s.queued.filter (· ≠ w.inst.identity) := by
  obtain ⟨f, hf, _, hcases⟩ := (s.put w).exists_workers_noteOutcome failFast w
  -- the two changes of the workers keep the identities, and only `w` does not wait any more
  have hid (v : Worker) :
      (f (if v.inst.identity = w.inst.identity then w else v)).inst.identity = v.inst.identity := by
    rcases hcases (if v.inst.identity = w.inst.identity then w else v) with h | ⟨reason, h⟩ <;>
      rw [h] <;> split <;> simp_all
  have hqueued (v : Worker) :
      (f (if v.inst.identity = w.inst.identity then w else v)).point.isQueued =
        (decide (v.inst.identity ≠ w.inst.identity) && v.point.isQueued) := by
    rcases hcases (if v.inst.identity = w.inst.identity then w else v) with h | ⟨reason, h⟩ <;>
      rw [h] <;> split <;> simp_all
  rw [queued, queued, hf]
  simp only [put, mapWorkers, List.map_map, List.filter_map, List.filter_filter,
    Function.comp_def, hid, hqueued]

theorem queued_eq_nil_of_isOver {s : OpenStage} (h : s.isOver = true) : s.queued = [] := by
  refine List.eq_nil_iff_forall_not_mem.2 ?_
  intro identity hmem
  obtain ⟨w, hw, hq, _⟩ := mem_queued.1 hmem
  obtain ⟨aborted, hpt⟩ := Point.exists_of_hasEnded (List.all_eq_true.1 h w hw)
  rw [hpt] at hq
  cases hq

theorem queued_ofReport (s : StageReport) :
    (ofReport s).queued = s.instances.map JobInstance.identity := by
  simp [queued, ofReport, List.filter_map, Function.comp_def, Point.isQueued]

theorem queued_cancelPending (s : OpenStage) (reason : String) :
    (s.cancelPending reason).queued = s.queued := by
  simp [queued, cancelPending, mapWorkers, List.filter_map, Function.comp_def]

end OpenStage

namespace Run

/-! ### Whom a ticket belongs to -/

theorem worker?_eq_some {r : Run} {t : Ticket} {s : OpenStage} {w : Worker}
    (h : r.worker? t = some (s, w)) :
    ∃ e, r.executions[t.execution]? = some e ∧ e.current = some s ∧ s.name = t.stage ∧
      s.worker? t.identity = some w := by
  simp only [worker?, Option.bind_eq_bind, Option.bind_eq_some_iff] at h
  obtain ⟨e, he, s', hs, h⟩ := h
  split at h
  · rename_i hname
    obtain ⟨v, hv, hvw⟩ := Option.bind_eq_some_iff.1 h
    obtain ⟨rfl, rfl⟩ : s' = s ∧ v = w := by simpa using hvw
    exact ⟨e, he, hs, hname, hv⟩
  · exact absurd h (by simp)

/-- A ticket belongs to the worker of its identity in the open stage of its execution. -/
theorem worker?_eq_some_iff {r : Run} {t : Ticket} {e : Execution} {s : OpenStage} {w : Worker}
    (he : r.executions[t.execution]? = some e) (hs : e.current = some s) (hd : s.Distinct) :
    r.worker? t = some (s, w) ↔
      s.name = t.stage ∧ w ∈ s.workers ∧ w.inst.identity = t.identity := by
  rw [← OpenStage.worker?_eq_some_iff hd]
  constructor
  · intro h
    obtain ⟨e', he', hs', hname, hw⟩ := worker?_eq_some h
    exact ⟨hname, hw⟩
  · rintro ⟨hname, hw⟩
    simp [worker?, he, hs, hname, hw]

/-! ### Tickets of an execution -/

/-- The tickets of the workers of an execution that wait for a slot. -/
def queuedOf (k : Nat) (e : Execution) : List Ticket :=
  e.current.toList.flatMap fun s => s.queued.map (Ticket.mk k s.name)

theorem queuedOf_of_current {k : Nat} {e : Execution} {s : OpenStage} (hs : e.current = some s) :
    queuedOf k e = s.queued.map (Ticket.mk k s.name) := by
  simp [queuedOf, hs]

theorem queuedOf_of_none {k : Nat} {e : Execution} (hs : e.current = none) :
    queuedOf k e = [] := by
  simp [queuedOf, hs]

theorem ticket_injective (k : Nat) (stage : String) :
    Function.Injective (Ticket.mk k stage) := fun _ _ h => (Ticket.mk.inj h).2.2

theorem nodup_ticketsOf {k : Nat} {e : Execution} (h : e.Sound) : (ticketsOf k e).Nodup := by
  cases hs : e.current with
  | none => simp [ticketsOf, hs]
  | some s =>
      have hd : ((s.workers.map fun w => w.inst.identity).map (Ticket.mk k s.name)).Nodup :=
        List.Nodup.map (ticket_injective k s.name) (h.distinct s hs)
      simpa [ticketsOf, hs, Function.comp_def] using hd

theorem nodup_queuedOf {k : Nat} {e : Execution} (h : e.Sound) : (queuedOf k e).Nodup := by
  cases hs : e.current with
  | none => simp [queuedOf, hs]
  | some s =>
      rw [queuedOf_of_current hs]
      exact List.Nodup.map (ticket_injective k s.name) (h.distinct s hs).nodup_queued

/-- A worker that does not wait any more, and nobody else, leaves the queue. -/
theorem queuedOf_put {k : Nat} {e : Execution} {s : OpenStage} {w : Worker}
    (hs : e.current = some s) (failFast : Bool) (hw : w.point.isQueued = false) :
    queuedOf k { e with current := some ((s.put w).noteOutcome failFast w) } =
      (queuedOf k e).filter (· ≠ ⟨k, s.name, w.inst.identity⟩) := by
  obtain ⟨_, _, hname, _⟩ := (s.put w).exists_workers_noteOutcome failFast w
  rw [queuedOf_of_current rfl, queuedOf_of_current hs, OpenStage.queued_put s failFast hw,
    List.filter_map, hname]
  simp [Function.comp_def, OpenStage.put, OpenStage.mapWorkers]

/-- Whoever waits for a slot has the ticket of a worker that waits for one. -/
theorem exists_queued_of_mem_queuedOf {r : Run} {e : Execution} {t : Ticket}
    (he : r.executions[t.execution]? = some e) (h : e.Sound)
    (ht : t ∈ queuedOf t.execution e) :
    ∃ s w, r.worker? t = some (s, w) ∧ w.point = .queued := by
  cases hs : e.current with
  | none => simp [queuedOf, hs] at ht
  | some s =>
      rw [queuedOf_of_current hs] at ht
      obtain ⟨identity, hid, hmk⟩ := List.mem_map.1 ht
      obtain ⟨w, hw, hq, hwid⟩ := OpenStage.mem_queued.1 hid
      have hname : s.name = t.stage := congrArg Ticket.stage hmk
      have hidentity : identity = t.identity := congrArg Ticket.identity hmk
      refine ⟨s, w, (worker?_eq_some_iff he hs (h.distinct s hs)).2
        ⟨hname, hw, hwid.trans hidentity⟩, Point.eq_queued_of_isQueued hq⟩

/-- A worker that waits for a slot has a ticket that waits. -/
theorem mem_queuedOf_iff {r : Run} {e : Execution} {t : Ticket} {s : OpenStage} {w : Worker}
    (he : r.executions[t.execution]? = some e) (h : e.Sound) (hw : r.worker? t = some (s, w)) :
    t ∈ queuedOf t.execution e ↔ w.point.isQueued = true := by
  constructor
  · intro ht
    obtain ⟨s', w', hw', hq⟩ := exists_queued_of_mem_queuedOf he h ht
    obtain ⟨rfl, rfl⟩ : s = s' ∧ w = w' := by simpa [hw] using hw'
    rw [hq]
    rfl
  · intro hq
    obtain ⟨e', he', hs, hname, hv⟩ := worker?_eq_some hw
    obtain rfl : e = e' := Option.some.inj (he.symm.trans he')
    obtain ⟨hmem, hid⟩ := (OpenStage.worker?_eq_some_iff (h.distinct s hs)).1 hv
    rw [queuedOf_of_current hs]
    refine List.mem_map.2 ⟨t.identity, OpenStage.mem_queued.2 ⟨w, hmem, hq, hid⟩, ?_⟩
    rw [hname]

end Run

end Conveyor
