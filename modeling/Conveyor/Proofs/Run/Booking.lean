/-
**What is measured with every step.**

A worker that makes a turn measures what it does, an execution that ends measures itself and its
instances, and nothing else is ever measured.  Here this is said once of every step, together with
what the step does to the executions, so that whatever the measurements add up to is shown by going
through five cases.

Main definitions:

* `Conveyor.Execution.underWay` — the steps of a kind that are under way;
* `Conveyor.Execution.Rearranged` — an execution in which nobody makes a turn;
* `Conveyor.Run.Booking` — what a step does to the executions, and what is measured with it.

Main results:

* `Conveyor.Run.Step.booking` — **every step is one of these**.
-/

import Conveyor.Proofs.Execution.Related
import Conveyor.Proofs.Run.Slots
import Conveyor.Proofs.Worker.Counted

set_option autoImplicit false

namespace Conveyor

variable {kind : String}

/-! ### Steps that are under way -/

namespace OpenStage

/-- How many steps of a kind are under way in an open stage. -/
def underWay (kind : String) (s : OpenStage) : Nat :=
  total (s.workers.map fun w => w.point.underWay kind)

theorem underWay_cancelPending (s : OpenStage) (reason : String) :
    (s.cancelPending reason).underWay kind = s.underWay kind := by
  simp [underWay, cancelPending, mapWorkers, Function.comp_def]

/-- Nothing is under way in a stage that is over. -/
theorem underWay_of_isOver {s : OpenStage} (h : s.isOver = true) : s.underWay kind = 0 := by
  refine total_eq_zero fun n hn => ?_
  obtain ⟨w, hw, rfl⟩ := List.mem_map.1 hn
  exact Point.underWay_of_ended (List.all_eq_true.1 h w hw)

theorem underWay_ofReport (s : StageReport) : (ofReport s).underWay kind = 0 := by
  refine total_eq_zero fun n hn => ?_
  obtain ⟨w, hw, rfl⟩ := List.mem_map.1 hn
  obtain ⟨i, _, rfl⟩ := List.mem_map.1 hw
  rfl

end OpenStage

namespace Execution

variable {e : Execution}

/-- How many steps of a kind are under way in an execution. -/
def underWay (kind : String) (e : Execution) : Nat :=
  total (e.current.toList.map (OpenStage.underWay kind))

theorem underWay_of_current {s : OpenStage} (hs : e.current = some s) :
    e.underWay kind = s.underWay kind := by
  simp [underWay, hs, total]

theorem underWay_of_none (hs : e.current = none) : e.underWay kind = 0 := by
  simp [underWay, hs, total]

/-- Nothing is under way when all workers have ended. -/
theorem underWay_of_isOver (h : e.current.all OpenStage.isOver = true) : e.underWay kind = 0 := by
  cases hs : e.current with
  | none => exact underWay_of_none hs
  | some s =>
      rw [hs, Option.all_some] at h
      rw [underWay_of_current hs, OpenStage.underWay_of_isOver h]

/-! ### Changes in which nobody makes a turn -/

/-- An execution that goes on though nobody makes a turn: at most what was not started is
cancelled. -/
structure Rearranged (e e' : Execution) : Prop where
  ending : e'.ending = e.ending
  related : ∀ R, JobInstance.Lenient R → Related R e e'
  underWay : ∀ kind, e'.underWay kind = e.underWay kind

theorem rearranged_cancelPending (e : Execution) (reason : String) :
    e.Rearranged (e.cancelPending reason) where
  ending := rfl
  related _ hR := related_cancelPending hR e reason
  underWay kind := by
    cases hs : e.current with
    | none => simp [Execution.underWay, cancelPending, hs]
    | some s =>
        have hs' : (e.cancelPending reason).current = some (s.cancelPending reason) := by
          simp [cancelPending, hs]
        rw [underWay_of_current hs, underWay_of_current hs', OpenStage.underWay_cancelPending]

theorem rearranged_close {s : OpenStage} (hs : e.current = some s) (hover : s.isOver = true)
    (failFast : Bool) : e.Rearranged (e.close failFast s) where
  ending := rfl
  related _ hR := related_close hR.refl hs failFast
  underWay kind := by
    rw [underWay_of_current hs, OpenStage.underWay_of_isOver hover]
    exact underWay_of_none rfl

theorem rearranged_skip {s : StageReport} {rest : List StageReport} (hcur : e.current = none)
    (hfut : e.future = s :: rest) (reason : String) :
    e.Rearranged { e with past := e.past ++ [skipped s reason], future := rest } where
  ending := rfl
  related _ hR := related_skip hR hcur hfut reason
  underWay _ := rfl

theorem rearranged_openStage {s : StageReport} {rest : List StageReport} (hcur : e.current = none)
    (hfut : e.future = s :: rest) :
    e.Rearranged { e with current := some (.ofReport s), future := rest } where
  ending := rfl
  related _ hR := related_openStage hR.refl hcur hfut
  underWay kind := by
    rw [underWay_of_none hcur, underWay_of_current rfl, OpenStage.underWay_ofReport]

end Execution

/-! ### Steps -/

namespace Run

variable {may : Act → Prop} {r r' : Run}

/-- What a step does to the executions of a run, and what is measured with it. -/
inductive Booking (may : Act → Prop) (r r' : Run) : Prop
  | still (hexec : r'.executions = r.executions) (htally : r'.tally = r.tally)
  /-- A worker of an open stage makes a turn. -/
  | turns {k : Nat} {e : Execution} {s : OpenStage} {w : Worker} (a : Act) (hmay : may a)
      (he : r.executions[k]? = some e) (hs : e.current = some s) (hw : w ∈ s.workers)
      (hb : a = .begin → w.point = .queued)
      (hexec : r'.executions = r.executions.set k
        { e with current := some ((s.put (w.act r.config.workingDir r.cancelRequested a).worker
            ).noteOutcome r.config.failFast
              (w.act r.config.workingDir r.cancelRequested a).worker) })
      (htally : r'.tally = r.tally ++ (w.act r.config.workingDir r.cancelRequested a).tally)
  | rearranges {k : Nat} {e e' : Execution} (he : r.executions[k]? = some e)
      (hc : e.Rearranged e') (hexec : r'.executions = r.executions.set k e')
      (htally : r'.tally = r.tally)
  | ends {k : Nat} {e : Execution} (ending : Ending) (he : r.executions[k]? = some e)
      (hending : e.ending = none) (hexec : r'.executions = r.executions.set k (e.finish ending))
      (htally : r'.tally = r.tally ++ (e.finish ending).finalTally ending.status)
  | added {stages : List StageReport} (hplan : planOf r.pipeline r.config = .ok stages)
      (hexec : r'.executions = r.executions ++ [r.opening stages]) (htally : r'.tally = r.tally)

/-- What a turn measures is measured by the run. -/
theorem tally_turn {t : Ticket} {s : OpenStage} {w : Worker} (hw : r.worker? t = some (s, w))
    (hlive : w.point.hasEnded = false) (f : Worker → Turn) :
    (r.turn t f).tally = r.tally ++ (f w).tally := by
  rw [turn_eq hw hlive rfl]

/-- A worker makes a turn; it may just have been given its slot. -/
theorem booking_turn (h : r.Sound) (p : Pool Ticket) {t : Ticket} {s : OpenStage} {w : Worker}
    {a : Act} (hmay : may a) (hw : r.worker? t = some (s, w)) (hlive : w.point.hasEnded = false)
    (hb : a = .begin → w.point = .queued) :
    Booking may r ({ r with pool := p }.turn t
      fun w => w.act r.config.workingDir r.cancelRequested a) := by
  obtain ⟨e, he, _, hs, _, hmem, _⟩ := h.exists_of_worker? hw
  exact .turns a hmay he hs hmem hb (executions_turn (r := { r with pool := p }) hw he hlive _)
    (tally_turn (r := { r with pool := p }) hw hlive _)

/-- An execution comes to its end, and measures what it holds then. -/
theorem booking_conclude {k : Nat} {e : Execution} (he : r.executions[k]? = some e)
    (hending : e.ending = none) (ending : Ending) : Booking may r (r.conclude k ending) := by
  refine .ends ending he hending ?_ ?_
  · simp only [conclude, he]
    exact modifyExecution_eq_set he _
  · simp [conclude, he, modifyExecution]

theorem booking_perform {k : Nat} {e : Execution} {n : Execution.Next}
    (he : r.executions[k]? = some e) (hn : e.next r.cancelRequested = some n)
    (ha : n ≠ .concludeAborted) : Booking may r (r.perform k e n) := by
  obtain ⟨hending, hcases⟩ := Execution.next_cases hn
  rcases hcases with ⟨s, _, _, rfl⟩ | ⟨s, hs, _, hover, rfl⟩ | ⟨_, _, rfl⟩ |
    ⟨s, rest, reason, hcur, hfut, _, rfl⟩ | ⟨s, rest, hcur, hfut, _, _, rfl⟩
  · exact absurd rfl ha
  · exact .rearranges he (Execution.rearranged_close hs hover r.config.failFast)
      (modifyExecution_eq_set he _) rfl
  · exact booking_conclude he hending _
  · exact .rearranges he (Execution.rearranged_skip hcur hfut reason)
      (modifyExecution_eq_set he _) rfl
  · exact .rearranges he (Execution.rearranged_openStage hcur hfut)
      (modifyExecution_eq_set he _) rfl

/-- **Every step is one of these.** -/
theorem Step.booking (h : r.Sound) (hs : Step may r r') : Booking may r r' := by
  cases hs with
  | turn a hmay hw hp ha =>
      exact booking_turn h r.pool hmay hw (Point.live_of_holdsSlot hp).2 fun hb => absurd hb ha
  | withdraw hmay hw hpt =>
      obtain ⟨e, he, _, hs, _, hmem, _⟩ := h.exists_of_worker? hw
      refine .turns .abort hmay he hs hmem (by simp) (executions_withdraw hw he hpt) ?_
      rw [abortWorker_of_queued hw hpt, Worker.act, Worker.abort_of_queued hpt]
      exact (List.append_nil _).symm
  | mark reason _ _ =>
      cases he : r.executions[r.executions.length - 1]? with
      | none =>
          have hnil : r.executions = [] := by
            rw [List.getElem?_eq_none_iff] at he
            exact List.length_eq_zero_iff.1 (by omega)
          exact .still (by simp [marked, modifyExecution, hnil]) rfl
      | some e =>
          exact .rearranges he (e.rearranged_cancelPending reason) (modifyExecution_eq_set he _)
            rfl
  | advance he hn ha => exact booking_perform he hn ha
  | giveUp he _ hending _ => exact booking_conclude he hending .aborted
  | launch hr =>
      obtain ⟨stages, hplan, hr⟩ := exists_ok_of_bind hr
      obtain rfl := Except.ok.inj hr
      exact .added hplan rfl rfl
  | grant hmay hr =>
      obtain ⟨t, p, s, w, _, hw, hpt, _, rfl⟩ := exists_of_admit? h hr
      exact booking_turn (a := .begin) h p hmay hw (by rw [hpt]; rfl) fun _ => hpt

end Run

end Conveyor
