/-
**What any turn of a worker leads to.**

Every turn after the first one ends in one of four ways: the worker only takes up another point, it
stops its services, it runs a step, or it starts a service.  Whoever wants to know what all turns
have in common goes through these four.

Main definitions:

* `Conveyor.StepRecord.heading` — which step a record is of;
* `Conveyor.Worker.Readies` — what becomes of a worker before it goes on;
* `Conveyor.Worker.Leads` — the ways in which a turn ends.

Main results:

* `Conveyor.Worker.leads_act` — **every turn after the first one ends in one of these ways**;
* `Conveyor.Worker.leads_nextService` — so does the first one, once the instance is started.
-/

import Conveyor.Proofs.Worker.Act

set_option autoImplicit false

namespace Conveyor

/-- Which step a record is of. -/
def StepRecord.heading (s : StepRecord) : Int × String × String := (s.index, s.kind, s.command)

/-- The steps of which an instance has records. -/
def JobInstance.headings (i : JobInstance) : List (Int × String × String) :=
  i.stepRecords.map StepRecord.heading

/-- Whether an entry of the log asks for work: for the start of a service or for a command. -/
def Note.asksForWork : Note → Bool
  | .called (.start _) | .called (.run ..) => true
  | _ => false

/-- Whether a measurement is the outcome of a step. -/
def Measurement.isStep : Measurement → Bool
  | .step .. => true
  | _ => false

namespace Worker

/-- What becomes of a worker before it goes on: a step is noted, or the steps begin. -/
structure Readies (w v : Worker) : Prop where
  started : v.inst.started = w.inst.started
  headings : v.inst.headings = w.inst.headings
  status : v.inst.status = w.inst.status ∨ v.inst.status = .runningSteps

theorem Readies.refl (w : Worker) : w.Readies w := ⟨rfl, rfl, .inl rfl⟩

/-- The ways in which a turn ends. -/
inductive Leads (wd : String) (halted : Bool) (w : Worker) : Turn → Prop
  /-- The worker takes up another point, and asks at most for the stop of a service. -/
  | moves (p : Point) (notes : List Note)
      (hended : p.hasEnded = true → p = w.point ∨ w.point = .queued)
      (hnotes : ∀ n ∈ notes, n.asksForWork = false) :
      Leads wd halted w { worker := { w with point := p }, notes }
  | unwinds (v : Worker) (up : List String) (o : Outcome) (ms : List Measurement)
      (hv : w.Readies v) (hms : ∀ m ∈ ms, m.isStep = true) :
      Leads wd halted w ((v.unwind up o).after ms)
  | runs (v : Worker) (up : List String) (r : ResolvedStep) (rest : List Step)
      (ms : List Measurement) (hv : w.Readies v) (hms : ∀ m ∈ ms, m.isStep = true)
      (hrun : halted = false) :
      Leads wd halted w (Turn.after ms
        { worker := { v.recordStep r with point := .running up r rest none }
          notes := [.called (.run r.command r.args wd)] })
  | starts (up : List String) (r : ResolvedService) (rest : List Service) (hrun : halted = false) :
      Leads wd halted w
        { worker := { w with point := .starting up r rest none }, notes := [.called (.start r)] }

variable {w : Worker} {wd : String} {halted : Bool}

/-! ### Readying -/

theorem readies_modifyRecord (w : Worker) {f : StepRecord → StepRecord}
    (hf : ∀ s, (f s).heading = s.heading) : w.Readies (w.modifyRecord f) := by
  refine ⟨rfl, ?_, .inl rfl⟩
  simp only [JobInstance.headings, modifyRecord]
  refine List.ext_getElem? fun n => ?_
  simp only [List.getElem?_map, List.getElem?_modify]
  cases w.inst.stepRecords[n]? with
  | none => rfl
  | some s =>
      simp only [Option.map_eq_map, Option.map_some, Option.some.injEq]
      split
      · exact hf s
      · rfl

theorem Readies.trans {u v w : Worker} (h : u.Readies v) (h' : v.Readies w) : u.Readies w := by
  refine ⟨h'.started.trans h.started, h'.headings.trans h.headings, ?_⟩
  rcases h'.status with hs | hs
  · rw [hs]
    exact h.status
  · exact .inr hs

theorem started_attempt {i : JobInstance} {s : InstanceStatus} (h : s ≠ .startingServices) :
    (i.attempt s).1.started = i.started := by
  unfold JobInstance.attempt JobInstance.transition
  cases i.status.mayBecome s with
  | true => simp [JobInstance.enter, h]
  | false => rfl

theorem headings_attempt (i : JobInstance) (s : InstanceStatus) :
    (i.attempt s).1.headings = i.headings := by
  unfold JobInstance.attempt JobInstance.transition
  cases i.status.mayBecome s <;> rfl

theorem status_attempt (i : JobInstance) (s : InstanceStatus) :
    (i.attempt s).1.status = i.status ∨ (i.attempt s).1.status = s := by
  unfold JobInstance.attempt JobInstance.transition
  cases i.status.mayBecome s with
  | true => exact .inr rfl
  | false => exact .inl rfl

theorem readies_move_runningSteps (w : Worker) : w.Readies (w.move .runningSteps) :=
  ⟨started_attempt (by simp), headings_attempt _ _, status_attempt _ _⟩

/-! ### Turns -/

theorem leads_self (w : Worker) (wd : String) (halted : Bool) :
    Leads wd halted w { worker := w } :=
  .moves w.point [] (fun _ => .inl rfl) (by simp)

theorem leads_unwind (w : Worker) (up : List String) (o : Outcome) :
    Leads wd halted w (w.unwind up o) :=
  .unwinds w up o [] (.refl w) (by simp)

theorem leads_nextStep {v : Worker} (hv : w.Readies v) (up : List String) (n : Int)
    (steps : List Step) {ms : List Measurement} (hms : ∀ m ∈ ms, m.isStep = true) :
    Leads wd halted w ((v.nextStep wd halted up n steps).after ms) := by
  rcases v.nextStep_cases wd halted up n steps with ⟨o, _, he⟩ | ⟨s, rest, r, _, hrun, _, he⟩
  · rw [he]
    exact .unwinds v up o ms hv hms
  · rw [he]
    exact .runs v up r rest ms hv hms hrun

theorem leads_nextService (w : Worker) (wd : String) (halted : Bool) (up : List String)
    (services : List Service) :
    Leads wd halted w (w.nextService wd halted up services) := by
  rcases w.nextService_cases wd halted up services with
    ⟨_, he⟩ | ⟨o, _, _, he⟩ | ⟨s, rest, r, _, hrun, _, he⟩
  · rw [he]
    exact leads_nextStep (readies_move_runningSteps w) up 0 _ (List.forall_mem_nil _)
  · rw [he]
    exact leads_unwind w up o
  · rw [he]
    exact .starts up r rest hrun

theorem leads_served (reply : StartReply) : Leads wd halted w (w.served wd halted reply) := by
  rcases w.served_cases wd halted reply with ⟨_, he⟩ | ⟨up, r, rest, halt, _, hcases⟩
  · rw [he]
    exact leads_self w wd halted
  · rcases hcases with ⟨_, he⟩ | ⟨_, _, he⟩ | ⟨f, _, _, he⟩ | ⟨o, _, _, _, _, he⟩
    · rw [he]
      exact leads_unwind w up _
    · rw [he]
      exact leads_nextService w wd halted _ rest
    · rw [he]
      exact .moves _ _ (by simp [Point.hasEnded]) (by simp [Note.asksForWork])
    · rw [he]
      exact leads_unwind w up o

theorem leads_ran (reply : RunReply) : Leads wd halted w (w.ran wd halted reply) := by
  cases hpt : w.point with
  | queued => simpa [ran, hpt] using leads_self w wd halted
  | starting => simpa [ran, hpt] using leads_self w wd halted
  | stopping => simpa [ran, hpt] using leads_self w wd halted
  | ended => simpa [ran, hpt] using leads_self w wd halted
  | running up r rest halt =>
      -- whatever the answer is, the time of the step is noted first
      have htimed : w.Readies (w.modifyRecord fun s => { s with timed := true }) :=
        readies_modifyRecord w fun _ => rfl
      have hstep (kind : String) (o : StepOutcome) :
          ∀ m ∈ [Measurement.step kind o], m.isStep = true := by simp [Measurement.isStep]
      simp only [ran, hpt]
      split
      · exact .unwinds _ up .aborted [] htimed (by simp)
      · cases reply with
        | done status output =>
            have hdone := htimed.trans (readies_modifyRecord _
              (f := fun s => { s with exitStatus := some status, output }) fun _ => rfl)
            simp only
            split
            · exact leads_nextStep hdone up _ rest (hstep r.kind .succeeded)
            · exact .unwinds _ up _ _ hdone (hstep r.kind .failed)
        | unreadable f => exact .unwinds _ up _ [] htimed (by simp)
        | raised f =>
            simp only
            split
            · exact .unwinds _ up _ _ htimed (hstep r.kind .cancelled)
            · exact .unwinds _ up _ _ htimed (hstep r.kind .error)
        | dropped => exact .unwinds _ up _ _ htimed (hstep r.kind .cancelled)

theorem leads_stopped (reply : StopReply) : Leads wd halted w (w.stopped reply) := by
  rcases w.stopped_cases reply with ⟨_, he⟩ | ⟨service, half, rest, o, _, ⟨_, he⟩ | ⟨_, he⟩⟩
  · rw [he]
    exact leads_self w wd halted
  · rw [he]
    exact leads_unwind w rest o
  · rw [he]
    exact leads_unwind w _ _

theorem leads_interrupt (w : Worker) : Leads wd halted w w.interrupt := by
  unfold interrupt
  split
  · exact .moves _ _ (by simp [Point.hasEnded]) (by simp [Note.asksForWork])
  · exact .moves _ _ (by simp [Point.hasEnded]) (by simp [Note.asksForWork])
  · exact leads_self w wd halted

theorem leads_abort (w : Worker) : Leads wd halted w w.abort := by
  cases hpt : w.point with
  | queued =>
      rw [abort_of_queued hpt]
      exact .moves _ _ (fun _ => .inr hpt) (by simp)
  | starting up r rest halt =>
      simp only [abort, hpt]
      refine .moves _ _ (by simp [Point.hasEnded]) fun n hn => ?_
      split at hn <;> simp_all [Note.asksForWork]
  | running up r rest halt =>
      simp only [abort, hpt]
      refine .moves _ _ (by simp [Point.hasEnded]) fun n hn => ?_
      split at hn <;> simp_all [Note.asksForWork]
  | stopping service half rest o =>
      simp only [abort, hpt, dropStop_eq]
      exact leads_unwind w _ _
  | ended aborted => simpa [abort, hpt] using leads_self w wd halted

/-- **Every turn after the first one ends in one of these ways.** -/
theorem leads_act {a : Act} (ha : a ≠ .begin) : Leads wd halted w (w.act wd halted a) := by
  cases a with
  | begin => exact absurd rfl ha
  | served reply => exact leads_served reply
  | ran reply => exact leads_ran reply
  | stopped reply => exact leads_stopped reply
  | interrupt => exact leads_interrupt w
  | abort => exact leads_abort w

end Worker

end Conveyor
