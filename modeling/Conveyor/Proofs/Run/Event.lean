/-
**What may happen to a run, one thing after the other.**

A run is executed, its calls are answered, it is cancelled or aborted, and it goes on by itself.
Nothing is said about the order of all this: answers may come before the run has gone on, and an
abort may come when the work is done and nobody has looked yet.

Main definitions:

* `Conveyor.Run.Event` — what may happen to a run;
* `Conveyor.Run.after`, `Conveyor.Run.afterAll` — the run after an event, and after many;
* `Conveyor.Run.Reachable` — the runs that there are.

Main results:

* `Conveyor.Run.exists_afterAll_settle` — to settle is to go on by itself, event after event;
* `Conveyor.Run.exists_afterAll_execute` — so is to execute, after the run was launched.
-/

import Conveyor.Engine.Rehearsal
import Conveyor.Proofs.Worker.Act

set_option autoImplicit false

namespace Conveyor

/-- What an answer does to the worker that gets it. -/
def Reply.act : Reply → Act
  | .start reply => .served reply
  | .run reply => .ran reply
  | .stop reply => .stopped reply

theorem Reply.act_ne_begin (reply : Reply) : reply.act ≠ .begin := by
  cases reply <;> simp [act]

/-- Whether a worker at a point waits for an answer of this kind. -/
def Point.awaits : Point → Reply → Bool
  | .starting .., .start _ | .running .., .run _ | .stopping .., .stop _ => true
  | _, _ => false

namespace Run

/-- What may happen to a run. -/
inductive Event where
  /-- The run is executed, perhaps once more. -/
  | execute
  /-- The call that a worker waits for is answered. -/
  | answer (t : Ticket) (reply : Reply)
  | cancel (reason : String)
  /-- The task of an execution is aborted. -/
  | abort (k : Nat)
  /-- The task of an execution is aborted when its open stage is over, and before it goes on. -/
  | abortLate (k : Nat)
  /-- An execution does what it does next by itself. -/
  | advance (k : Nat)
  /-- A free slot is given to the front of the queue. -/
  | grant

/-- The run after the call that a worker waits for is answered. -/
def answered (r : Run) (t : Ticket) : Reply → Run
  | .start reply => r.served t reply
  | .run reply => r.ran t reply
  | .stop reply => r.stopped t reply

/-- An answer is a turn of the worker that waits for it. -/
theorem answered_eq (r : Run) (t : Ticket) (reply : Reply) :
    r.answered t reply =
      r.turn t fun w => w.act r.config.workingDir r.cancelRequested reply.act := by
  cases reply <;> rfl

/-- Whether the worker of a ticket waits for an answer of this kind. -/
def awaits (r : Run) (t : Ticket) (reply : Reply) : Bool :=
  match r.worker? t with
  | some (_, w) => w.point.awaits reply
  | none => false

/-- Whoever waits for an answer is at work. -/
theorem exists_of_awaits {r : Run} {t : Ticket} {reply : Reply} (ht : r.awaits t reply = true) :
    ∃ s w, r.worker? t = some (s, w) ∧ w.point.awaits reply = true ∧
      w.point.holdsSlot = true := by
  unfold awaits at ht
  split at ht
  · rename_i s w hw
    refine ⟨s, w, hw, ht, ?_⟩
    cases hpt : w.point <;> simp [hpt, Point.awaits] at ht <;> rfl
  · exact absurd ht (by simp)

/-- The run after what an execution does next by itself. -/
def advance? (r : Run) (k : Nat) : Option Run := do
  let e ← r.executions[k]?
  let n ← e.next r.cancelRequested
  return r.perform k e n

/-- The run after the abort of an execution whose open stage is over. -/
def abortLate? (r : Run) (k : Nat) : Option Run := do
  let e ← r.executions[k]?
  let s ← e.current
  if e.ending.isNone && s.isOver then return r.perform k e .concludeAborted else none

/-- The run after an event, if that may happen. -/
def after (r : Run) : Event → Option Run
  | .execute => r.launch.toOption
  | .answer t reply => if r.awaits t reply then some (r.answered t reply) else none
  | .cancel reason => some (r.cancel reason)
  | .abort k => some (r.abort k)
  | .abortLate k => r.abortLate? k
  | .advance k => r.advance? k
  | .grant => r.admit?

/-- A run that is executed is launched. -/
theorem launch_of_after {r r' : Run} (h : r.after .execute = some r') : r.launch = .ok r' := by
  cases hl : r.launch with
  | error f => simp [after, hl, Except.toOption] at h
  | ok q => simpa [after, hl, Except.toOption] using h

/-- Only a call that somebody waits for is answered. -/
theorem answered_of_after {r r' : Run} {t : Ticket} {reply : Reply}
    (h : r.after (.answer t reply) = some r') :
    r.awaits t reply = true ∧ r.answered t reply = r' := by
  simp only [after] at h
  split at h
  · rename_i hawaits
    exact ⟨hawaits, Option.some.inj h⟩
  · exact absurd h (by simp)

/-- The run after events, if they may happen one after the other. -/
def afterAll : Run → List Event → Option Run
  | r, [] => some r
  | r, ev :: evs => (r.after ev).bind (afterAll · evs)

/-- The runs that there are. -/
def Reachable (r : Run) : Prop := ∃ id p c evs, (create id p c).afterAll evs = some r

theorem afterAll_cons (r : Run) (ev : Event) (evs : List Event) :
    r.afterAll (ev :: evs) = (r.after ev).bind (afterAll · evs) := rfl

theorem afterAll_cons_eq_some {r r' : Run} {ev : Event} {evs : List Event} :
    r.afterAll (ev :: evs) = some r' ↔ ∃ s, r.after ev = some s ∧ s.afterAll evs = some r' := by
  rw [afterAll_cons, Option.bind_eq_some_iff]

theorem afterAll_append {r s : Run} {evs : List Event} (h : r.afterAll evs = some s)
    (evs' : List Event) : r.afterAll (evs ++ evs') = s.afterAll evs' := by
  induction evs generalizing r with
  | nil => rw [Option.some.inj h, List.nil_append]
  | cons ev evs ih =>
      obtain ⟨q, hq, hrest⟩ := afterAll_cons_eq_some.1 h
      rw [List.cons_append, afterAll_cons, hq]
      exact ih hrest

theorem Reachable.afterAll {r r' : Run} (h : r.Reachable) {evs : List Event}
    (he : r.afterAll evs = some r') : r'.Reachable := by
  obtain ⟨id, p, c, before, hbefore⟩ := h
  exact ⟨id, p, c, before ++ evs, (afterAll_append hbefore evs).trans he⟩

theorem Reachable.after {r r' : Run} (h : r.Reachable) {ev : Event} (he : r.after ev = some r') :
    r'.Reachable := by
  have hone : r.afterAll [ev] = some r' := by
    rw [afterAll_cons, he]
    rfl
  exact h.afterAll hone

/-- What holds at first and is kept by every event holds of whatever comes after. -/
theorem afterAll_induction {P : Run → Prop} {r r' : Run} {evs : List Event}
    (h : r.afterAll evs = some r') (hr : P r)
    (hstep : ∀ q q' ev, P q → q.after ev = some q' → P q') : P r' := by
  induction evs generalizing r with
  | nil => exact Option.some.inj h ▸ hr
  | cons ev evs ih =>
      obtain ⟨q, hq, hrest⟩ := afterAll_cons_eq_some.1 h
      exact ih hrest (hstep r q ev hr hq)

/-! ### Going on by itself -/

/-- Whether a run does this by itself. -/
def Event.isOwn : Event → Bool
  | .advance _ | .grant => true
  | _ => false

theorem nextOf_eq_some {halted : Bool} {k j : Nat} {es : List Execution} {e : Execution}
    {n : Execution.Next} (h : nextOf halted k es = some (j, e, n)) :
    k ≤ j ∧ es[j - k]? = some e ∧ e.next halted = some n := by
  induction es generalizing k with
  | nil => cases h
  | cons f rest ih =>
      simp only [nextOf] at h
      split at h
      · rename_i m hm
        obtain ⟨rfl, rfl, rfl⟩ : k = j ∧ f = e ∧ m = n := by simpa using h
        exact ⟨Nat.le_refl k, by simp, hm⟩
      · obtain ⟨hle, hget, hnext⟩ := ih h
        refine ⟨by omega, ?_, hnext⟩
        have hj : j - k = j - (k + 1) + 1 := by omega
        rw [hj, List.getElem?_cons_succ]
        exact hget

/-- What a run does by itself is an event. -/
theorem exists_after_of_step? {r r' : Run} (h : r.step? = some r') :
    ∃ ev, ev.isOwn = true ∧ r.after ev = some r' := by
  unfold step? at h
  split at h
  · rename_i k e n hn
    obtain ⟨_, hget, hnext⟩ := nextOf_eq_some hn
    refine ⟨.advance k, rfl, ?_⟩
    simp only [Nat.sub_zero] at hget
    rw [← h]
    simp [after, advance?, hget, hnext]
  · exact ⟨.grant, rfl, h⟩

/-- To settle is to go on by itself, event after event. -/
theorem exists_afterAll_settle (r : Run) :
    ∃ evs, (∀ ev ∈ evs, ev.isOwn = true) ∧ r.afterAll evs = some r.settle := by
  have hfor (n : Nat) : ∀ q : Run, ∃ evs, (∀ ev ∈ evs, ev.isOwn = true) ∧
      q.afterAll evs = some (settleFor n q) := by
    induction n with
    | zero => exact fun q => ⟨[], List.forall_mem_nil _, rfl⟩
    | succ n ih =>
        intro q
        unfold settleFor
        split
        · rename_i next hnext
          obtain ⟨ev, hown, hafter⟩ := exists_after_of_step? hnext
          obtain ⟨evs, howns, hrest⟩ := ih next
          refine ⟨ev :: evs, List.forall_mem_cons.2 ⟨hown, howns⟩, ?_⟩
          rw [afterAll_cons, hafter, Option.bind_some, hrest]
        · exact ⟨[], List.forall_mem_nil _, rfl⟩
  exact hfor r.weight r

theorem Reachable.settle {r : Run} (h : r.Reachable) : r.settle.Reachable := by
  obtain ⟨_, _, hevs⟩ := r.exists_afterAll_settle
  exact h.afterAll hevs

/-- To execute is to launch and to go on by itself. -/
theorem exists_afterAll_execute {r r' : Run} (h : r.execute = .ok r') :
    ∃ evs, (∀ ev ∈ evs, ev.isOwn = true) ∧ r.afterAll (.execute :: evs) = some r' := by
  cases hl : r.launch with
  | error f => simp [execute, hl] at h
  | ok q =>
      obtain ⟨evs, howns, hevs⟩ := q.exists_afterAll_settle
      have hr' : q.settle = r' := by simpa [execute, hl] using h
      refine ⟨evs, howns, ?_⟩
      rw [afterAll_cons, after, hl, ← hr', Except.toOption, Option.bind_some, hevs]

theorem Reachable.execute {r r' : Run} (h : r.Reachable) (hr : r.execute = .ok r') :
    r'.Reachable := by
  obtain ⟨_, _, hevs⟩ := exists_afterAll_execute hr
  exact h.afterAll hevs

end Run

end Conveyor
