/-
**What an instance reports of itself.**

A record is made of every step before it runs, and completed when it has; the error is noted when
the instance comes out, and the artifacts only when it succeeds.  Whatever is answered and whoever
calls off the work, the report tells of the way that the instance took.

Main definitions:

* `Conveyor.StepRecord.AllPassed`, `Conveyor.StepRecord.Recorded` — records of steps that all
  succeeded, and records of which the last one may be different;
* `Conveyor.JobInstance.Truthful` — an instance whose report tells what happened;
* `Conveyor.Worker.Truthful` — a worker on the way to such a report.

Main results:

* `Conveyor.Step.kindName_of_resolve`, `Conveyor.Service.kindName_of_resolve` — what goes wrong when
  values are filled in is called a resolution error;
* `Conveyor.Worker.truthful_act` — **every turn leaves a truthful worker**.
-/

import Conveyor.Proofs.Worker.Act

set_option autoImplicit false

namespace Conveyor

/-! ### Faults of an instance -/

/-- The faults that an instance may fail with. -/
def Fault.IsOfInstance (f : Fault) : Prop :=
  f.kindName = "ResolutionError" ∨ f.kindName = "ExecutionError"

theorem Template.kindName_of_resolve {c : Context} {source : Option String} {s : String} {f : Fault}
    (h : resolve c source s = .error f) : f.kindName = "ResolutionError" := by
  unfold resolve at h
  split at h
  · cases h
  · obtain rfl := Except.error.inj h
    rfl

theorem Template.kindName_of_resolveNamed {c : Context} {source : String}
    {done : List (String × String)} {named : List (String × String)} {f : Fault}
    (h : resolveNamed c source done named = .error f) : f.kindName = "ResolutionError" := by
  induction named generalizing done with
  | nil => cases h
  | cons x rest ih =>
      rcases error_cases_of_bind h with h | ⟨value, h⟩
      · exact kindName_of_resolve h
      · exact ih h

/-- What goes wrong when the values of a service are filled in. -/
theorem Service.kindName_of_resolve {c : Template.Context} {s : Service} {f : Fault}
    (h : s.resolve c = .error f) : f.kindName = "ResolutionError" := by
  rcases error_cases_of_bind h with h | ⟨image, h⟩
  · exact Template.kindName_of_resolve h
  · rcases error_cases_of_bind h with h | ⟨env, h⟩
    · exact Template.kindName_of_resolveNamed h
    · cases h

/-- What goes wrong when the values of a step are filled in. -/
theorem Step.kindName_of_resolve {c : Template.Context} {n : Int} {s : Step} {f : Fault}
    (h : s.resolve c n = .error f) : f.kindName = "ResolutionError" := by
  rcases error_cases_of_bind h with h | ⟨command, h⟩
  · exact Template.kindName_of_resolve h
  · rcases error_cases_of_bind h with h | ⟨args, h⟩
    · exact Template.kindName_of_resolveNamed h
    · cases h

/-- What a step leaves when values cannot be filled in, and when they can. -/
theorem Step.index_of_resolve {c : Template.Context} {n : Int} {s : Step} {r : ResolvedStep}
    (h : s.resolve c n = .ok r) : r.index = n := by
  obtain ⟨command, _, h⟩ := exists_ok_of_bind h
  obtain ⟨args, _, h⟩ := exists_ok_of_bind h
  obtain rfl := Except.ok.inj h
  rfl

/-- If an outcome is a failure, it is one that an instance may fail with. -/
def Outcome.IsOfInstance : Outcome → Prop
  | .failed f => f.IsOfInstance
  | _ => True

theorem Outcome.isOfInstance_ofFault (identity : String) (f : Fault) :
    (Outcome.ofFault identity f).IsOfInstance := by
  unfold Outcome.ofFault
  split <;> rename_i hk
  · trivial
  · exact .inl (by simp [Fault.kindName, hk])
  · exact .inr (by simp [Fault.kindName, hk])
  · trivial
  · exact .inr rfl

theorem Outcome.ofFault_ne_succeeded (identity : String) (f : Fault) :
    Outcome.ofFault identity f ≠ .succeeded := by
  unfold Outcome.ofFault
  split <;> simp

theorem Worker.isOfInstance_startOutcome (w : Worker) (service : String) (f : Fault) :
    (w.startOutcome service f).IsOfInstance := by
  unfold startOutcome
  split
  · trivial
  · exact .inr rfl
  · exact .inr rfl

/-! ### Records -/

/-- What is changed at the end of a list. -/
theorem modify_length_append {α : Type} (xs : List α) (x : α) (f : α → α) :
    (xs ++ [x]).modify xs.length f = xs ++ [f x] := by
  induction xs with
  | nil => rfl
  | cons y rest ih => exact congrArg (y :: ·) ih

namespace StepRecord

/-- Records of steps that all succeeded, numbered from zero. -/
structure AllPassed (rs : List StepRecord) : Prop where
  index : ∀ (n : Nat) (s : StepRecord), rs[n]? = some s → s.index = n
  exitStatus : ∀ s ∈ rs, s.exitStatus = some 0

/-- Records of steps, numbered from zero, of which all but the last one succeeded. -/
structure Recorded (rs : List StepRecord) : Prop where
  index : ∀ (n : Nat) (s : StepRecord), rs[n]? = some s → s.index = n
  exitStatus : ∀ s ∈ rs.dropLast, s.exitStatus = some 0

theorem allPassed_nil : AllPassed [] := ⟨by simp, by simp⟩

theorem AllPassed.recorded {rs : List StepRecord} (h : AllPassed rs) : Recorded rs :=
  ⟨h.index, fun s hs => h.exitStatus s (List.dropLast_subset rs hs)⟩

/-- One more record, which has the next number. -/
theorem AllPassed.recorded_append {rs : List StepRecord} (h : AllPassed rs) {s : StepRecord}
    (hs : s.index = rs.length) : Recorded (rs ++ [s]) := by
  refine ⟨fun n x hx => ?_, fun x hx => ?_⟩
  · rcases Nat.lt_or_ge n rs.length with hn | hn
    · rw [List.getElem?_append_left hn] at hx
      exact h.index n x hx
    · rw [List.getElem?_append_right hn, List.getElem?_singleton] at hx
      split at hx
      · obtain rfl := Option.some.inj hx
        have hlast : n = rs.length := by omega
        rw [hs, hlast]
      · cases hx
  · rw [List.dropLast_concat] at hx
    exact h.exitStatus x hx

/-- One more record of a step that succeeded. -/
theorem AllPassed.append {rs : List StepRecord} (h : AllPassed rs) {s : StepRecord}
    (hs : s.index = rs.length) (hexit : s.exitStatus = some 0) : AllPassed (rs ++ [s]) := by
  refine ⟨(h.recorded_append hs).index, fun x hx => ?_⟩
  rcases List.mem_append.1 hx with hx | hx
  · exact h.exitStatus x hx
  · rw [List.mem_singleton.1 hx]
    exact hexit

end StepRecord

/-! ### Instances -/

namespace JobInstance

/-- An instance that was started and of which nothing but steps was noted yet. -/
structure IsUnderWay (i : JobInstance) : Prop where
  started : i.started = true
  error : i.error = none
  errorKind : i.errorKind = none
  artifacts : i.producedArtifacts = []

/-- An instance whose report tells what happened. -/
structure Truthful (i : JobInstance) : Prop where
  /-- The records are numbered from zero, and all steps but the last one succeeded. -/
  recorded : StepRecord.Recorded i.stepRecords
  /-- Whoever succeeded carried out all its steps and has its artifacts, each of them once. -/
  succeeded : i.status = .succeeded → i.stepRecords.length = i.job.steps.length ∧
    (∀ s ∈ i.stepRecords, s.exitStatus = some 0) ∧ i.error = none ∧ i.errorKind = none ∧
      i.producedArtifacts = (i.job.artifacts.map Artifact.path).eraseDups
  artifacts : i.status ≠ .succeeded → i.producedArtifacts = []
  failed : i.status = .failed →
    i.errorKind = some "ResolutionError" ∨ i.errorKind = some "ExecutionError"
  cancelled : i.status = .cancelled → i.errorKind = some "CancellationError"
  /-- Of an instance that was not started there are no records. -/
  unstarted : i.status = .pending ∨ (i.status = .cancelled ∧ i.started = false) →
    i.stepRecords = []
  /-- An instance that is pending is as it was planned. -/
  pending : i.status = .pending → i.planned = i

theorem truthful_of_planned {i : JobInstance} (hp : i.planned = i) : i.Truthful := by
  rw [← hp]
  exact ⟨StepRecord.allPassed_nil.recorded, by simp [planned], fun _ => rfl, by simp [planned],
    by simp [planned], fun _ => rfl, fun _ => rfl⟩

/-- To cancel an instance that is pending is part of what happened. -/
theorem Truthful.cancelIfPending {i : JobInstance} (h : i.Truthful) (reason : String) :
    (StageReport.cancelIfPending reason i).Truthful := by
  by_cases hs : i.status = .pending
  · rw [StageReport.cancelIfPending_of_pending hs, ← h.pending hs]
    exact ⟨StepRecord.allPassed_nil.recorded, by simp, fun _ => rfl, by simp, fun _ => rfl,
      fun _ => rfl, by simp⟩
  · rw [StageReport.cancelIfPending_of_ne hs]
    exact h

/-- An instance that is under way tells what happened so far. -/
theorem IsUnderWay.truthful {i : JobInstance} (h : i.IsUnderWay)
    (hrecorded : StepRecord.Recorded i.stepRecords) (hactive : i.status.isActive = true) :
    i.Truthful where
  recorded := hrecorded
  succeeded hs := by simp [hs, InstanceStatus.isActive] at hactive
  artifacts _ := h.artifacts
  failed hs := by simp [hs, InstanceStatus.isActive] at hactive
  cancelled hs := by simp [hs, InstanceStatus.isActive] at hactive
  unstarted hs := by
    rcases hs with hs | ⟨_, hs⟩
    · simp [hs, InstanceStatus.isActive] at hactive
    · simp [h.started] at hs
  pending hs := by simp [hs, InstanceStatus.isActive] at hactive

end JobInstance

/-- An outcome that the report of an instance bears out: whoever succeeds has carried out all its
steps. -/
def Outcome.Suits (i : JobInstance) : Outcome → Prop
  | .succeeded => StepRecord.AllPassed i.stepRecords ∧ i.stepRecords.length = i.job.steps.length
  | o => o.IsOfInstance

theorem Outcome.IsOfInstance.suits {o : Outcome} (h : o.IsOfInstance) (ho : o ≠ .succeeded)
    (i : JobInstance) : o.Suits i := by
  cases o with
  | succeeded => exact absurd rfl ho
  | failed f => exact h
  | cancelled reason => trivial
  | aborted => trivial

/-- What is noted of an instance whose worker has reached a point. -/
def Point.Tells (i : JobInstance) : Point → Prop
  | .queued => i.Truthful
  | .starting .. => i.IsUnderWay ∧ i.stepRecords = []
  | .running _ r rest _ => i.IsUnderWay ∧ ∃ (done : List StepRecord) (s : StepRecord),
      i.stepRecords = done ++ [s] ∧ StepRecord.AllPassed done ∧ s.index = done.length ∧
        r.index = done.length ∧ done.length + 1 + rest.length = i.job.steps.length
  | .stopping _ _ _ o => i.IsUnderWay ∧ StepRecord.Recorded i.stepRecords ∧ o.Suits i
  | .ended _ => i.Truthful

namespace Worker

variable {w : Worker} {wd : String} {halted : Bool}

/-- A worker on the way to a truthful report. -/
def Truthful (w : Worker) : Prop := w.point.Tells w.inst

theorem Truthful.tells {p : Point} (h : w.Truthful) (hp : w.point = p) : p.Tells w.inst := hp ▸ h

/-- The instance of a truthful worker tells what happened so far. -/
theorem Truthful.inst (h : w.Truthful) (hsound : w.Sound) : w.inst.Truthful := by
  have hactive (hp : w.point.holdsSlot = true) := hsound.fits.isActive hp
  cases hpt : w.point with
  | queued => exact h.tells hpt
  | ended aborted => exact h.tells hpt
  | starting up r rest halt =>
      obtain ⟨hway, hrecords⟩ := h.tells hpt
      refine hway.truthful ?_ (hactive (by rw [hpt]; rfl))
      rw [hrecords]
      exact StepRecord.allPassed_nil.recorded
  | running up r rest halt =>
      obtain ⟨hway, done, s, hrecords, hpassed, hindex, _⟩ := h.tells hpt
      refine hway.truthful ?_ (hactive (by rw [hpt]; rfl))
      rw [hrecords]
      exact hpassed.recorded_append hindex
  | stopping service half rest o =>
      obtain ⟨hway, hrecorded, _⟩ := h.tells hpt
      exact hway.truthful hrecorded (hactive (by rw [hpt]; rfl))

/-! ### Turns -/

/-- The end: what is noted then is how the instance came out. -/
theorem truthful_conclude {o : Outcome} (hs : w.inst.status.MayEnd o) (h : w.inst.IsUnderWay)
    (hrecorded : StepRecord.Recorded w.inst.stepRecords) (ho : o.Suits w.inst) :
    (w.conclude o).worker.Truthful := by
  rcases conclude_cases hs with ⟨rfl, he⟩ | ⟨f, rfl, he⟩ | ⟨reason, aborted, _, he⟩
  · have hkept := dedupe_eq_eraseDups (w.inst.job.artifacts.map Artifact.path)
    rw [he]
    exact ⟨hrecorded, fun _ => ⟨ho.2, ho.1.exitStatus, h.error, h.errorKind, hkept⟩,
      fun hne => absurd rfl hne, by simp, by simp, by simp, by simp⟩
  · rw [he]
    exact ⟨hrecorded, by simp, fun _ => h.artifacts,
      fun _ => ho.imp (congrArg some) (congrArg some), by simp, by simp, by simp⟩
  · -- a cancelled instance tells so, and it was started before
    rw [he]
    refine ⟨hrecorded, by simp, fun _ => h.artifacts, by simp, fun _ => rfl, fun hs => ?_, by simp⟩
    simp [JobInstance.enter, h.started] at hs

theorem truthful_unwind {up : List String} {o : Outcome} (hs : w.inst.status.MayEnd o)
    (h : w.inst.IsUnderWay) (hrecorded : StepRecord.Recorded w.inst.stepRecords)
    (ho : o.Suits w.inst) : (w.unwind up o).worker.Truthful := by
  cases up with
  | nil => exact truthful_conclude hs h hrecorded ho
  | cons name rest => exact ⟨h, hrecorded, ho⟩

/-- The steps before have all succeeded, and the next one is noted. -/
theorem truthful_nextStep {up : List String} {n : Int} {steps : List Step}
    (hs : w.inst.status = .runningSteps) (h : w.inst.IsUnderWay)
    (hpassed : StepRecord.AllPassed w.inst.stepRecords) (hn : n = w.inst.stepRecords.length)
    (hlength : w.inst.stepRecords.length + steps.length = w.inst.job.steps.length) :
    (w.nextStep wd halted up n steps).worker.Truthful := by
  cases steps with
  | nil => exact truthful_unwind (.inl hs) h hpassed.recorded ⟨hpassed, hlength⟩
  | cons s rest =>
      cases halted with
      | true => exact truthful_unwind (.inl hs) h hpassed.recorded trivial
      | false =>
          cases hr : s.resolve w.context n with
          | error f =>
              simp only [nextStep, hr, Bool.false_eq_true, if_false]
              exact truthful_unwind (.inl hs) h hpassed.recorded (.inl (Step.kindName_of_resolve hr))
          | ok r =>
              have hindex := (Step.index_of_resolve hr).trans hn
              simp only [nextStep, hr, Bool.false_eq_true, if_false]
              refine ⟨⟨h.started, h.error, h.errorKind, h.artifacts⟩, w.inst.stepRecords, _, rfl,
                hpassed, hindex, hindex, ?_⟩
              simp only [List.length_cons] at hlength
              simp only [recordStep]
              omega

theorem truthful_nextService {up : List String} {services : List Service}
    (hs : w.inst.status = .startingServices) (h : w.inst.IsUnderWay)
    (hrecords : w.inst.stepRecords = []) :
    (w.nextService wd halted up services).worker.Truthful := by
  have hnone : StepRecord.Recorded w.inst.stepRecords := by
    rw [hrecords]
    exact StepRecord.allPassed_nil.recorded
  cases services with
  | nil =>
      have hmove : w.move .runningSteps = { w with inst := w.inst.enter .runningSteps } :=
        move_of_mayBecome (by rw [hs]; rfl)
      rw [nextService, hmove]
      refine truthful_nextStep rfl ⟨?_, h.error, h.errorKind, h.artifacts⟩ ?_ ?_ ?_
      · simp [JobInstance.enter, h.started]
      · simp only [JobInstance.enter, hrecords]
        exact StepRecord.allPassed_nil
      · simp [JobInstance.enter, hrecords]
      · simp [JobInstance.enter, hrecords]
  | cons s rest =>
      cases halted with
      | true => exact truthful_unwind (.inr ⟨hs, by simp⟩) h hnone trivial
      | false =>
          cases hr : s.resolve w.context with
          | error f =>
              simp only [nextService, hr, Bool.false_eq_true, if_false]
              exact truthful_unwind (.inr ⟨hs, by simp⟩) h hnone
                (.inl (Service.kindName_of_resolve hr))
          | ok r =>
              simp only [nextService, hr, Bool.false_eq_true, if_false]
              exact ⟨h, hrecords⟩

theorem truthful_begin (h : w.Truthful) (hsound : w.Sound) (hp : w.point = .queued) :
    (w.begin wd halted).worker.Truthful := by
  have hinst : w.inst.Truthful := h.tells hp
  rcases begin_cases wd halted hsound hp with ⟨_, he⟩ | ⟨_, _, he⟩ | ⟨hs, _, he⟩
  · rw [he]
    exact hinst
  · rw [he]
    exact hinst.cancelIfPending _
  · have hplanned := hinst.pending hs
    rw [he]
    refine truthful_nextService (w := { w with inst := w.inst.enter .startingServices }) rfl
      ⟨?_, ?_, ?_, ?_⟩ ?_
    · simp [JobInstance.enter]
    all_goals
      rw [← hplanned]
      rfl

theorem truthful_served {reply : StartReply} (h : w.Truthful) (hsound : w.Sound) :
    (w.served wd halted reply).worker.Truthful := by
  cases hpt : w.point with
  | queued => simpa [served, hpt] using h
  | running => simpa [served, hpt] using h
  | stopping => simpa [served, hpt] using h
  | ended => simpa [served, hpt] using h
  | starting up r rest halt =>
      have hs : w.inst.status = .startingServices := by simpa [hpt, Point.Fits] using hsound.fits
      obtain ⟨hway, hrecords⟩ := h.tells hpt
      have hnone : StepRecord.Recorded w.inst.stepRecords := by
        rw [hrecords]
        exact StepRecord.allPassed_nil.recorded
      have hend {o : Outcome} (ho : o ≠ .succeeded) (hof : o.IsOfInstance) :
          (w.unwind up o).worker.Truthful :=
        truthful_unwind (.inr ⟨hs, ho⟩) hway hnone (hof.suits ho w.inst)
      simp only [served, hpt]
      split
      · exact hend (by simp) trivial
      · cases reply with
        | up => exact truthful_nextService hs hway hrecords
        | down f => exact hend (startOutcome_ne w r.name f).1 (isOfInstance_startOutcome w r.name f)
        | half f => exact ⟨hway, hnone, (isOfInstance_startOutcome w r.name f).suits
            (startOutcome_ne w r.name f).1 w.inst⟩
        | dropped => exact hend (by simp) trivial

/-- The record of the step that ran last is completed. -/
theorem stepRecords_modifyRecord {done : List StepRecord} {s : StepRecord}
    (hrecords : w.inst.stepRecords = done ++ [s]) (f : StepRecord → StepRecord) :
    (w.modifyRecord f).inst.stepRecords = done ++ [f s] := by
  have hlast : (done ++ [s]).length - 1 = done.length := by simp
  simp only [modifyRecord, hrecords, hlast]
  exact modify_length_append done s f

theorem truthful_ran {reply : RunReply} (h : w.Truthful) (hsound : w.Sound) :
    (w.ran wd halted reply).worker.Truthful := by
  cases hpt : w.point with
  | queued => simpa [ran, hpt] using h
  | starting => simpa [ran, hpt] using h
  | stopping => simpa [ran, hpt] using h
  | ended => simpa [ran, hpt] using h
  | running up r rest halt =>
      have hs : w.inst.status = .runningSteps := by simpa [hpt, Point.Fits] using hsound.fits
      obtain ⟨⟨hstarted, herror, hkind, hartifacts⟩, done, s, hrecords, hpassed, hindex, hnumber,
        hlength⟩ := h.tells hpt
      have htimed := stepRecords_modifyRecord hrecords fun s => { s with timed := true }
      have hdone (status : Int) (output : String) := stepRecords_modifyRecord htimed
        fun s => { s with exitStatus := some status, output }
      -- whoever unwinds has the records of the steps before and of the one that ran last
      have hend {v : Worker} {o : Outcome} {x : StepRecord} (hvs : v.inst.status = .runningSteps)
          (hway : v.inst.IsUnderWay) (hv : v.inst.stepRecords = done ++ [x])
          (hx : x.index = done.length) (hof : o.IsOfInstance) (ho : o ≠ .succeeded) :
          (v.unwind up o).worker.Truthful :=
        truthful_unwind (.inl hvs) hway (hv ▸ hpassed.recorded_append hx) (hof.suits ho v.inst)
      have hcut {o : Outcome} (hof : o.IsOfInstance) (ho : o ≠ .succeeded) :
          ((w.modifyRecord fun s => { s with timed := true }).unwind up o).worker.Truthful :=
        hend hs ⟨hstarted, herror, hkind, hartifacts⟩ htimed hindex hof ho
      simp only [ran, hpt]
      split
      · exact hcut trivial (by simp)
      · cases reply with
        | done status output =>
            simp only
            split
            · rename_i hzero
              have hrecords := hdone status output
              refine truthful_nextStep (w := (w.modifyRecord _).modifyRecord _) hs
                ⟨hstarted, herror, hkind, hartifacts⟩ ?_ ?_ ?_
              · rw [hrecords]
                exact hpassed.append hindex (congrArg some hzero)
              · rw [hrecords, hnumber]
                simp
              · rw [hrecords, List.length_append, List.length_singleton]
                exact hlength
            · exact hend hs ⟨hstarted, herror, hkind, hartifacts⟩ (hdone status output) hindex
                (.inr rfl) (by simp)
        | unreadable f =>
            simp only
            exact hcut (Outcome.isOfInstance_ofFault _ f) (Outcome.ofFault_ne_succeeded _ f)
        | raised f =>
            simp only
            split
            · exact hcut trivial (by simp)
            · exact hcut (.inr rfl) (by simp)
        | dropped => exact hcut trivial (by simp)

theorem truthful_stopped {reply : StopReply} (h : w.Truthful) (hsound : w.Sound) :
    (w.stopped reply).worker.Truthful := by
  rcases w.stopped_cases reply with ⟨_, he⟩ | ⟨service, half, rest, o, hpt, hcases⟩
  · rw [he]
    exact h
  · have hs : w.inst.status.MayEnd o := by simpa [hpt, Point.Fits] using hsound.fits
    obtain ⟨hway, hrecorded, ho⟩ := h.tells hpt
    rcases hcases with ⟨_, he⟩ | ⟨_, he⟩
    · rw [he]
      exact truthful_unwind hs hway hrecorded ho
    · rw [he]
      exact truthful_unwind hs.aborted hway hrecorded trivial

theorem truthful_interrupt (h : w.Truthful) : w.interrupt.worker.Truthful := by
  unfold interrupt
  split
  case h_1 up r rest hpt =>
      have htells : Point.Tells w.inst (.starting up r rest none) := h.tells hpt
      exact htells
  case h_2 up r rest hpt =>
      have htells : Point.Tells w.inst (.running up r rest none) := h.tells hpt
      exact htells
  case h_3 => exact h

theorem truthful_abort (h : w.Truthful) (hsound : w.Sound) : w.abort.worker.Truthful := by
  unfold abort
  split
  case h_1 hpt =>
      have htells : Point.Tells w.inst .queued := h.tells hpt
      exact htells
  case h_2 up r rest halt hpt =>
      have htells : Point.Tells w.inst (.starting up r rest halt) := h.tells hpt
      exact htells
  case h_3 up r rest halt hpt =>
      have htells : Point.Tells w.inst (.running up r rest halt) := h.tells hpt
      exact htells
  case h_4 service half rest o hpt =>
      have hs : w.inst.status.MayEnd o := by simpa [hpt, Point.Fits] using hsound.fits
      obtain ⟨hway, hrecorded, _⟩ := h.tells hpt
      rw [dropStop_eq]
      exact truthful_unwind hs.aborted hway hrecorded trivial
  case h_5 => exact h

/-- **Every turn leaves a truthful worker.**  Only a worker that waits for a slot is given one. -/
theorem truthful_act {a : Act} (h : w.Truthful) (hsound : w.Sound)
    (hb : a = .begin → w.point = .queued) : (w.act wd halted a).worker.Truthful := by
  cases a with
  | begin => exact truthful_begin h hsound (hb rfl)
  | served reply => exact truthful_served h hsound
  | ran reply => exact truthful_ran h hsound
  | stopped reply => exact truthful_stopped h hsound
  | interrupt => exact truthful_interrupt h
  | abort => exact truthful_abort h hsound

/-- To cancel an instance that is pending leaves a truthful worker. -/
theorem Truthful.cancelIfPending (h : w.Truthful) (hsound : w.Sound) (reason : String) :
    Worker.Truthful { w with inst := StageReport.cancelIfPending reason w.inst } := by
  rcases w.point.queued_or_holdsSlot_or_ended with hpt | hslot | ⟨aborted, hpt⟩
  · have hinst : w.inst.Truthful := h.tells hpt
    unfold Truthful
    rw [hpt]
    exact hinst.cancelIfPending reason
  · rw [StageReport.cancelIfPending_of_ne (carries_self hsound hslot).touched]
    exact h
  · have hinst : w.inst.Truthful := h.tells hpt
    unfold Truthful
    rw [hpt]
    exact hinst.cancelIfPending reason

end Worker

end Conveyor
