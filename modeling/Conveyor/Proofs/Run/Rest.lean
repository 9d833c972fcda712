/-
**A run that goes on by itself comes to rest.**

Whatever a run does by itself takes something off what it has before it: a stage that is opened or
skipped, a place in the queue, an execution that goes on.  So it cannot go on for ever, and the
number of steps that it is given to settle is always enough.

Main definitions:

* `Conveyor.Run.IsAtRest` — a run that does nothing by itself.

Main results:

* `Conveyor.Run.weight_step?` — every step that a run takes by itself makes it lighter;
* `Conveyor.Run.isAtRest_settle` — **a run that settles comes to rest**;
* `Conveyor.Run.settle_of_isAtRest` — whoever is at rest stays as it is.
-/

import Conveyor.Proofs.Run.Kept

set_option autoImplicit false

namespace Conveyor

/-! ### What an execution has before it -/

namespace Execution

theorem weight_setCurrent {e : Execution} {s : OpenStage} (hs : e.current = some s)
    (s' : OpenStage) : weight { e with current := some s' } = e.weight := by
  simp [weight, hs]

theorem weight_cancelPending (e : Execution) (reason : String) :
    (e.cancelPending reason).weight = e.weight := by
  simp [weight, cancelPending, StageReport.cancelPending, Function.comp_def]

theorem weight_finish {e : Execution} (hending : e.ending = none) (ending : Ending) :
    (e.finish ending).weight + 1 = e.weight := by
  cases hcur : e.current with
  | none =>
      simp [weight, finish, hending, hcur]
      omega
  | some s =>
      simp [weight, finish, hending, hcur]
      omega

theorem weight_close {e : Execution} {s : OpenStage} (hs : e.current = some s) (failFast : Bool) :
    (e.close failFast s).weight + 1 = e.weight := by
  simp [weight, close, hs]
  omega

/-- A stage is put behind without being opened. -/
theorem weight_skip {e : Execution} {s : StageReport} {rest : List StageReport}
    (hfut : e.future = s :: rest) (past : List StageReport) :
    weight { e with past, future := rest } + (2 + s.instances.length) = e.weight := by
  simp only [weight, hfut, List.map_cons, total]
  omega

/-- A stage that is opened is worth the places in the queue that its instances take, and more. -/
theorem weight_openStage {e : Execution} {s : StageReport} {rest : List StageReport}
    (hcur : e.current = none) (hfut : e.future = s :: rest) (o : OpenStage) :
    weight { e with current := some o, future := rest } + (1 + s.instances.length) =
      e.weight := by
  simp [weight, hcur, hfut, total]
  omega

end Execution

namespace Run

/-- A run that does nothing by itself: it waits for answers, or for somebody who executes it, cancels
it or aborts it. -/
def IsAtRest (r : Run) : Prop := r.step? = none

/-! ### What a run has before it -/

/-- One execution changes, and the run changes by what it weighs. -/
theorem weight_modifyExecution {r : Run} {k : Nat} {e : Execution}
    (he : r.executions[k]? = some e) (f : Execution → Execution) :
    (r.modifyExecution k f).weight + e.weight = r.weight + (f e).weight := by
  have htotal := total_set he (f e) Execution.weight
  have hpool : (r.modifyExecution k f).pool = r.pool := rfl
  rw [weight, weight, modifyExecution_eq_set he, hpool]
  omega

/-- A turn of a worker brings the run no further as a whole. -/
theorem weight_turn (r : Run) (t : Ticket) (f : Worker → Turn) :
    (r.turn t f).weight = r.weight := by
  cases hw : r.worker? t with
  | none => rw [turn_of_none f hw]
  | some p =>
      obtain ⟨s, w⟩ := p
      cases hlive : w.point.hasEnded with
      | true => rw [turn_of_hasEnded f hw hlive]
      | false =>
          obtain ⟨e, he, hs, _⟩ := worker?_eq_some hw
          have hmodified := weight_modifyExecution he fun e =>
            { e with current := some ((s.put (f w).worker).noteOutcome r.config.failFast
                (f w).worker) }
          rw [Execution.weight_setCurrent hs] at hmodified
          have hsame : (r.turn t f).weight = (r.modifyExecution t.execution fun e =>
              { e with current := some ((s.put (f w).worker).noteOutcome r.config.failFast
                  (f w).worker) }).weight := by
            rw [turn_eq hw hlive rfl, weight, weight, waiting_leave]
            rfl
          omega

theorem weight_marked (r : Run) (reason : String) : (r.marked reason).weight = r.weight := by
  have hsame : (r.marked reason).weight =
      (r.modifyExecution (r.executions.length - 1) (·.cancelPending reason)).weight := rfl
  rw [hsame]
  cases he : r.executions[r.executions.length - 1]? with
  | none =>
      have hnil : r.executions = [] := by
        rw [List.getElem?_eq_none_iff] at he
        exact List.length_eq_zero_iff.1 (by omega)
      simp [weight, modifyExecution, hnil]
  | some e =>
      have hmodified := weight_modifyExecution he (·.cancelPending reason)
      rw [Execution.weight_cancelPending] at hmodified
      omega

/-- Nor does a cancel. -/
theorem weight_cancel (r : Run) (reason : String) : (r.cancel reason).weight = r.weight := by
  cases hr : r.cancelRequested with
  | true => rw [cancel, if_pos hr]
  | false =>
      refine cancel_induction (P := fun q => q.weight = r.weight) reason hr
        (weight_marked r reason) ?_
      exact fun q t hq => (weight_turn q t _).trans hq

theorem weight_conclude {r : Run} {k : Nat} {e : Execution} (he : r.executions[k]? = some e)
    (hending : e.ending = none) (ending : Ending) : (r.conclude k ending).weight + 1 = r.weight := by
  have hmodified := weight_modifyExecution he fun _ => e.finish ending
  have hfinish := Execution.weight_finish hending ending
  have hsame : (r.conclude k ending).weight =
      (r.modifyExecution k fun _ => e.finish ending).weight := by
    simp only [conclude, he]
    rfl
  omega

/-! ### Steps -/

/-- What an execution does by itself makes the run lighter. -/
theorem weight_perform {r : Run} {k : Nat} {e : Execution} {n : Execution.Next} {halted : Bool}
    (he : r.executions[k]? = some e) (hn : e.next halted = some n) :
    (r.perform k e n).weight < r.weight := by
  obtain ⟨hending, hcases⟩ := Execution.next_cases hn
  rcases hcases with ⟨s, _, _, rfl⟩ | ⟨s, hs, _, _, rfl⟩ | ⟨_, _, rfl⟩ |
    ⟨s, rest, reason, _, hfut, _, rfl⟩ | ⟨s, rest, hcur, hfut, _, _, rfl⟩
  · -- the cancel leaves the execution where it is, so that it can be ended
    have hendings := congrArg (·[k]?) (endings_cancel r abortText)
    simp only [List.getElem?_map, he, Option.map_some] at hendings
    obtain ⟨f, hf, hfending⟩ := Option.map_eq_some_iff.1 hendings
    have hconclude := weight_conclude hf (hfending.trans hending) .aborted
    have hcancel := weight_cancel r abortText
    simp only [perform]
    omega
  · have hmodified := weight_modifyExecution he fun e => e.close r.config.failFast s
    have hclose := Execution.weight_close hs r.config.failFast
    simp only [perform]
    omega
  · have hconclude := weight_conclude he hending (.returned e.finalStatus)
    simp only [perform]
    omega
  · have hmodified := weight_modifyExecution he fun e =>
      { e with past := e.past ++ [Execution.skipped s reason], future := rest }
    have hskip := Execution.weight_skip hfut (e.past ++ [Execution.skipped s reason])
    simp only [perform]
    omega
  · have hmodified := weight_modifyExecution he fun e =>
      { e with current := some (.ofReport s), future := rest }
    have hopen := Execution.weight_openStage hcur hfut (.ofReport s)
    have hqueue : (r.perform k e (.openStage s rest)).weight =
        (r.modifyExecution k fun e =>
          { e with current := some (.ofReport s), future := rest }).weight +
          s.instances.length := by
      simp only [perform, weight, Pool.request, modifyExecution, List.length_append,
        List.length_map]
      omega
    omega

/-- So does a slot that is given away. -/
theorem weight_admit? {r r' : Run} (hr : r.admit? = some r') : r'.weight < r.weight := by
  obtain ⟨⟨t, p⟩, hp, rfl⟩ := Option.map_eq_some_iff.1 hr
  obtain ⟨_, rest, hwaiting, rfl⟩ := Pool.admit?_eq_some_iff.1 hp
  rw [weight_turn]
  simp only [weight, hwaiting, List.length_cons]
  omega

/-- **Every step that a run takes by itself makes it lighter.** -/
theorem weight_step? {r r' : Run} (h : r.step? = some r') : r'.weight < r.weight := by
  unfold step? at h
  split at h
  · rename_i k e n hn
    obtain ⟨_, hget, hnext⟩ := nextOf_eq_some hn
    obtain rfl := Option.some.inj h
    rw [Nat.sub_zero] at hget
    exact weight_perform hget hnext
  · exact weight_admit? h

/-! ### Rest -/

/-- As many steps as a run weighs are enough. -/
theorem isAtRest_settleFor {n : Nat} {r : Run} (hn : r.weight ≤ n) : (settleFor n r).IsAtRest := by
  induction n generalizing r with
  | zero =>
      cases hr : r.step? with
      | none => exact hr
      | some next =>
          have hlighter := weight_step? hr
          omega
  | succ n ih =>
      unfold settleFor
      cases hr : r.step? with
      | none => exact hr
      | some next =>
          have hlighter := weight_step? hr
          exact ih (by omega)

/-- **A run that settles comes to rest.** -/
theorem isAtRest_settle (r : Run) : r.settle.IsAtRest := isAtRest_settleFor (Nat.le_refl _)

/-- Whoever is at rest stays as it is. -/
theorem settle_of_isAtRest {r : Run} (h : r.IsAtRest) : r.settle = r := by
  unfold settle
  cases r.weight with
  | zero => rfl
  | succ n => rw [settleFor, h]

/-! ### What a run at rest waits for -/

theorem nextOf_eq_none {halted : Bool} {k : Nat} {es : List Execution}
    (h : nextOf halted k es = none) : ∀ e ∈ es, e.next halted = none := by
  induction es generalizing k with
  | nil => exact List.forall_mem_nil _
  | cons e rest ih =>
      simp only [nextOf] at h
      split at h
      · exact absurd h (by simp)
      · rename_i hnone
        exact List.forall_mem_cons.2 ⟨hnone, ih h⟩

/-- No execution of a run at rest can do anything, and nobody can be given a slot. -/
theorem IsAtRest.next_eq_none {r : Run} (h : r.IsAtRest) :
    (∀ e ∈ r.executions, e.next r.cancelRequested = none) ∧ r.admit? = none := by
  unfold IsAtRest step? at h
  split at h
  · exact absurd h (by simp)
  · rename_i hnone
    exact ⟨nextOf_eq_none hnone, h⟩

/-- Where somebody waits, all slots of a run at rest are taken. -/
theorem IsAtRest.limit_le_active {r : Run} (h : r.IsAtRest) (hw : r.pool.waiting ≠ []) :
    r.pool.limit ≤ r.pool.active := by
  have hpool := Option.map_eq_none_iff.1 h.next_eq_none.2
  exact (Pool.admit?_eq_none_iff.1 hpool).resolve_right hw

end Run

end Conveyor
