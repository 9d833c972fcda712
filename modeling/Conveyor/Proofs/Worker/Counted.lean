/-
**A step that is noted is counted once, is under way, or is never counted.**

A step is noted before its command is called, and counted when the answer comes.  Between the two it
is under way.  Two answers count nothing: one that comes after the worker was aborted, and a result
whose exit status cannot be read.

Main definitions:

* `Conveyor.JobInstance.recordsOf` — the records of the steps of a kind;
* `Conveyor.Point.underWay` — the steps of a kind that are under way;
* `Conveyor.Worker.uncounted` — the steps of a kind whose answer counts nothing;
* `Conveyor.Worker.Books` — what a turn notes, counts, and has under way.

Main results:

* `Conveyor.Worker.books_act` — **what a turn notes and what it counts**;
* `Conveyor.Worker.isOfWork_of_mem_tally` — a turn counts steps and who is at work, and nothing else.
-/

import Conveyor.Proofs.Worker.Quiet

set_option autoImplicit false

namespace Conveyor

/-- Whether a measurement is the outcome of a step of a kind. -/
def Measurement.isStepOf (kind : String) : Measurement → Bool
  | .step k _ => k == kind
  | _ => false

/-- Whether a measurement is made while an instance is at work, and not at the end of a run. -/
def Measurement.isOfWork : Measurement → Bool
  | .entered | .left | .step .. => true
  | _ => false

/-- How many records of steps of a kind an instance has. -/
def JobInstance.recordsOf (kind : String) (i : JobInstance) : Nat :=
  i.stepRecords.countP (·.kind == kind)

/-- How many steps of a kind are under way at a point. -/
def Point.underWay (kind : String) : Point → Nat
  | .running _ r _ _ => if r.kind = kind then 1 else 0
  | _ => 0

/-- Whether there is no result whose exit status cannot be read. -/
def RunReply.isReadable : RunReply → Bool
  | .unreadable _ => false
  | _ => true

/-- How many steps of a kind an answer ends without counting them: it comes after an abort, or it
cannot be read. -/
def Worker.uncounted (kind : String) (w : Worker) : Act → Nat
  | .ran reply =>
    match w.point with
    | .running _ r _ halt =>
      if r.kind = kind ∧ (halt = some .abort ∨ reply.isReadable = false) then 1 else 0
    | _ => 0
  | _ => 0

variable {kind : String}

namespace JobInstance

/-- The records of a kind are among the headings. -/
theorem recordsOf_eq (i : JobInstance) :
    i.recordsOf kind = i.headings.countP fun h => h.2.1 == kind := by
  rw [recordsOf, headings, List.countP_map]
  rfl

theorem recordsOf_of_headings {i j : JobInstance} (h : j.headings = i.headings) :
    j.recordsOf kind = i.recordsOf kind := by
  rw [recordsOf_eq, recordsOf_eq, h]

/-- Nothing was noted of an instance to which nothing has happened. -/
theorem WellPlanned.recordsOf_eq_zero {n : String} {i : JobInstance} (h : i.WellPlanned n) :
    i.recordsOf kind = 0 := by
  rw [← h.untouched]
  rfl

end JobInstance

theorem Point.underWay_of_ended {p : Point} (h : p.hasEnded = true) : p.underWay kind = 0 := by
  obtain ⟨aborted, rfl⟩ := Point.exists_of_hasEnded h
  rfl

/-! ### Turns -/

/-- A turn in which nothing gets out of the count: what its instance has records of beyond `n` steps
is counted, or is under way. -/
def Turn.Tallies (kind : String) (n : Nat) (t : Turn) : Prop :=
  t.worker.inst.recordsOf kind =
    n + t.tally.countP (·.isStepOf kind) + t.worker.point.underWay kind

/-- What was counted before a turn is counted with it. -/
theorem Turn.Tallies.after {n : Nat} {ms : List Measurement} {t : Turn}
    (h : t.Tallies kind (n + ms.countP (·.isStepOf kind))) : (t.after ms).Tallies kind n := by
  have hsum : (ms ++ t.tally).countP (·.isStepOf kind) =
      ms.countP (·.isStepOf kind) + t.tally.countP (·.isStepOf kind) := List.countP_append
  simp only [Tallies, Turn.after, hsum] at h ⊢
  omega

theorem Measurement.countP_step (kind k : String) (o : StepOutcome) :
    [Measurement.step k o].countP (·.isStepOf kind) = if k = kind then 1 else 0 := by
  by_cases hk : k = kind <;> simp [isStepOf, hk]

namespace Worker

variable {w v : Worker} {wd : String} {halted : Bool}

theorem tally_unwind (w : Worker) (up : List String) (o : Outcome) :
    ∀ m ∈ (w.unwind up o).tally, m = .left := by
  cases up with
  | cons name rest => exact List.forall_mem_nil _
  | nil =>
      have hleft : (w.conclude o).tally = [.left] := by cases o <;> rfl
      intro m hm
      rw [unwind, hleft] at hm
      exact List.mem_singleton.1 hm

/-- Whoever stops its services, or comes to its end, notes and counts no step. -/
theorem tallies_unwind (w : Worker) (up : List String) (o : Outcome) :
    (w.unwind up o).Tallies kind (w.inst.recordsOf kind) := by
  have hrecords : (w.unwind up o).worker.inst.recordsOf kind = w.inst.recordsOf kind :=
    JobInstance.recordsOf_of_headings (isQuiet_unwind w up o).headings
  have htally : (w.unwind up o).tally.countP (·.isStepOf kind) = 0 := by
    refine List.countP_eq_zero.2 fun m hm => ?_
    rw [tally_unwind w up o m hm]
    simp [Measurement.isStepOf]
  have hpoint : (w.unwind up o).worker.point.underWay kind = 0 := by
    cases up with
    | nil => cases o <;> rfl
    | cons name rest => rfl
  rw [Turn.Tallies, hrecords, htally, hpoint]
  rfl

/-- The next step is noted, and under way. -/
theorem tallies_nextStep (w : Worker) (wd : String) (halted : Bool) (up : List String) (n : Int)
    (steps : List Step) :
    (w.nextStep wd halted up n steps).Tallies kind (w.inst.recordsOf kind) := by
  rcases w.nextStep_cases wd halted up n steps with ⟨o, _, he⟩ | ⟨s, rest, r, _, _, _, he⟩
  · rw [he]
    exact tallies_unwind w up o
  · rw [he]
    simp only [Turn.Tallies, recordStep, JobInstance.recordsOf, Point.underWay,
      List.countP_append, List.countP_singleton, List.countP_nil, beq_iff_eq]
    rfl

theorem tallies_nextService (w : Worker) (wd : String) (halted : Bool) (up : List String)
    (services : List Service) :
    (w.nextService wd halted up services).Tallies kind (w.inst.recordsOf kind) := by
  rcases w.nextService_cases wd halted up services with
    ⟨_, he⟩ | ⟨o, _, _, he⟩ | ⟨s, rest, r, _, _, _, he⟩
  · have hrecords : (w.move .runningSteps).inst.recordsOf kind = w.inst.recordsOf kind :=
      JobInstance.recordsOf_of_headings (readies_move_runningSteps w).headings
    rw [he, ← hrecords]
    exact tallies_nextStep _ wd halted up 0 _
  · rw [he]
    exact tallies_unwind w up o
  · rw [he]
    rfl

/-- The records before a turn and those after it, with what the turn counts, leaves uncounted and
has under way. -/
def Books (kind : String) (w : Worker) (lost : Nat) (t : Turn) : Prop :=
  t.worker.inst.recordsOf kind + w.point.underWay kind =
    w.inst.recordsOf kind + t.tally.countP (·.isStepOf kind) + lost +
      t.worker.point.underWay kind

theorem books_self (kind : String) (w : Worker) : w.Books kind 0 { worker := w } := rfl

/-- Whoever has nothing under way notes what it counts or has under way then. -/
theorem Books.of_tallies {t : Turn} (h : t.Tallies kind (v.inst.recordsOf kind))
    (hv : v.inst.headings = w.inst.headings) (hw : w.point.underWay kind = 0) :
    w.Books kind 0 t := by
  have hsame : v.inst.recordsOf kind = w.inst.recordsOf kind :=
    JobInstance.recordsOf_of_headings hv
  rw [Turn.Tallies, hsame] at h
  rw [Books, h, hw]
  rfl

theorem books_begin (h : w.Sound) (hp : w.point = .queued) :
    w.Books kind 0 (w.begin wd halted) := by
  have hidle : w.point.underWay kind = 0 := by
    rw [hp]
    rfl
  rcases begin_cases wd halted h hp with ⟨_, he⟩ | ⟨_, _, he⟩ | ⟨_, _, he⟩
  · rw [he, Books, hidle]
    rfl
  · have hheadings := StageReport.headings_cancelIfPending Fault.cancelText w.inst
    rw [he, Books, hidle, JobInstance.recordsOf_of_headings hheadings]
    rfl
  · rw [he]
    exact .of_tallies (v := { w with inst := w.inst.enter .startingServices })
      (Turn.Tallies.after (tallies_nextService _ wd false [] _)) rfl hidle

theorem books_served (reply : StartReply) : w.Books kind 0 (w.served wd halted reply) := by
  rcases w.served_cases wd halted reply with ⟨_, he⟩ | ⟨up, r, rest, halt, hpt, hcases⟩
  · rw [he]
    exact books_self kind w
  · have hidle : w.point.underWay kind = 0 := by
      rw [hpt]
      rfl
    rcases hcases with ⟨_, he⟩ | ⟨_, _, he⟩ | ⟨f, _, _, he⟩ | ⟨o, _, _, _, _, he⟩
    · rw [he]
      exact .of_tallies (tallies_unwind w up _) rfl hidle
    · rw [he]
      exact .of_tallies (tallies_nextService w wd halted _ rest) rfl hidle
    · rw [he, Books, hidle]
      rfl
    · rw [he]
      exact .of_tallies (tallies_unwind w up o) rfl hidle

/-- The step that was under way is counted once, or it is one of those that are not counted. -/
theorem Books.of_running (ms : List Measurement) {t : Turn} {lost : Nat}
    (h : t.Tallies kind (v.inst.recordsOf kind)) (hv : w.Readies v)
    (hw : w.point.underWay kind = ms.countP (·.isStepOf kind) + lost) :
    w.Books kind lost (t.after ms) := by
  have hsame : v.inst.recordsOf kind = w.inst.recordsOf kind :=
    JobInstance.recordsOf_of_headings hv.headings
  have hsum : (ms ++ t.tally).countP (·.isStepOf kind) =
      ms.countP (·.isStepOf kind) + t.tally.countP (·.isStepOf kind) := List.countP_append
  rw [Turn.Tallies, hsame] at h
  simp only [Books, Turn.after, hsum, h, hw]
  omega

theorem books_ran (reply : RunReply) :
    w.Books kind (w.uncounted kind (.ran reply)) (w.ran wd halted reply) := by
  cases hpt : w.point with
  | queued => simp [ran, uncounted, hpt, books_self]
  | starting => simp [ran, uncounted, hpt, books_self]
  | stopping => simp [ran, uncounted, hpt, books_self]
  | ended => simp [ran, uncounted, hpt, books_self]
  | running up r rest halt =>
      have htimed : w.Readies (w.modifyRecord fun s => { s with timed := true }) :=
        readies_modifyRecord w fun _ => rfl
      have huncounted : w.uncounted kind (.ran reply) =
          if r.kind = kind ∧ (halt = some .abort ∨ reply.isReadable = false) then 1 else 0 := by
        simp only [uncounted, hpt]
      have hunder : w.point.underWay kind = if r.kind = kind then 1 else 0 := by
        rw [hpt]
        rfl
      -- an answer that is counted is counted as one step of the kind
      have hone (o : StepOutcome) (hlost : w.uncounted kind (.ran reply) = 0) :
          w.point.underWay kind = [Measurement.step r.kind o].countP (·.isStepOf kind) +
            w.uncounted kind (.ran reply) := by
        rw [hlost, Measurement.countP_step, hunder, Nat.add_zero]
      simp only [ran, hpt]
      split
      · rename_i hhalt
        refine .of_running [] (tallies_unwind _ up .aborted) htimed ?_
        simp [huncounted, hunder, hhalt]
      · rename_i hhalt
        cases reply with
        | done status output =>
            have hlost : w.uncounted kind (.ran (.done status output)) = 0 := by
              simp [huncounted, hhalt, RunReply.isReadable]
            have hdone := htimed.trans (readies_modifyRecord _
              (f := fun s => { s with exitStatus := some status, output }) fun _ => rfl)
            simp only
            split
            · exact .of_running _ (tallies_nextStep _ wd halted up _ rest) hdone
                (hone .succeeded hlost)
            · exact .of_running _ (tallies_unwind _ up _) hdone (hone .failed hlost)
        | unreadable f =>
            refine .of_running [] (tallies_unwind _ up _) htimed ?_
            simp [huncounted, hunder, RunReply.isReadable]
        | raised f =>
            have hlost : w.uncounted kind (.ran (.raised f)) = 0 := by
              simp [huncounted, hhalt, RunReply.isReadable]
            simp only
            split
            · exact .of_running _ (tallies_unwind _ up _) htimed (hone .cancelled hlost)
            · exact .of_running _ (tallies_unwind _ up _) htimed (hone .error hlost)
        | dropped =>
            have hlost : w.uncounted kind (.ran .dropped) = 0 := by
              simp [huncounted, hhalt, RunReply.isReadable]
            exact .of_running _ (tallies_unwind _ up _) htimed (hone .cancelled hlost)

theorem books_stopped (reply : StopReply) : w.Books kind 0 (w.stopped reply) := by
  rcases w.stopped_cases reply with ⟨_, he⟩ | ⟨service, half, rest, o, hpt, hcases⟩
  · rw [he]
    exact books_self kind w
  · have hidle : w.point.underWay kind = 0 := by
      rw [hpt]
      rfl
    rcases hcases with ⟨_, he⟩ | ⟨_, he⟩
    · rw [he]
      exact .of_tallies (tallies_unwind w _ _) rfl hidle
    · rw [he]
      exact .of_tallies (tallies_unwind w _ _) rfl hidle

theorem books_interrupt (kind : String) (w : Worker) : w.Books kind 0 w.interrupt := by
  unfold interrupt
  split
  · rename_i hpt
    rw [Books, hpt]
    rfl
  · rename_i hpt
    rw [Books, hpt]
    rfl
  · exact books_self kind w

theorem books_abort (kind : String) (w : Worker) : w.Books kind 0 w.abort := by
  cases hpt : w.point with
  | queued => simp [Books, abort, hpt, Point.underWay]
  | starting => simp [Books, abort, hpt, Point.underWay]
  | running => simp [Books, abort, hpt, Point.underWay]
  | ended => simp [Books, abort, hpt]
  | stopping service half rest o =>
      simp only [abort, hpt, dropStop_eq]
      exact .of_tallies (tallies_unwind w _ _) rfl (by rw [hpt]; rfl)

/-- **What a turn notes and what it counts.**  A step of a kind that is noted or was under way is
counted by the turn, is under way after it, or is one of those that are not counted. -/
theorem books_act {a : Act} (h : w.Sound) (hb : a = .begin → w.point = .queued) :
    w.Books kind (w.uncounted kind a) (w.act wd halted a) := by
  cases a with
  | begin => exact books_begin h (hb rfl)
  | served reply => exact books_served reply
  | ran reply => exact books_ran reply
  | stopped reply => exact books_stopped reply
  | interrupt => exact books_interrupt kind w
  | abort => exact books_abort kind w

/-! ### What is counted at all -/

theorem Leads.isOfWork {t : Turn} (h : Leads wd halted w t) :
    ∀ m ∈ t.tally, m.isOfWork = true := by
  have hsteps {ms : List Measurement} (hms : ∀ m ∈ ms, m.isStep = true) :
      ∀ m ∈ ms, m.isOfWork = true := by
    intro m hm
    have hstep := hms m hm
    cases m <;> first | rfl | cases hstep
  cases h with
  | moves p notes _ _ => exact List.forall_mem_nil _
  | starts up r rest _ => exact List.forall_mem_nil _
  | unwinds v up o ms _ hms =>
      refine List.forall_mem_append.2 ⟨hsteps hms, fun m hm => ?_⟩
      rw [tally_unwind v up o m hm]
      rfl
  | runs v up r rest ms _ hms _ =>
      exact List.forall_mem_append.2 ⟨hsteps hms, List.forall_mem_nil _⟩

/-- A turn counts steps and who is at work, and nothing else. -/
theorem isOfWork_of_mem_tally {a : Act} (h : w.Sound) (hb : a = .begin → w.point = .queued) :
    ∀ m ∈ (w.act wd halted a).tally, m.isOfWork = true := by
  by_cases hbegin : a = .begin
  · subst hbegin
    rcases begin_cases wd halted h (hb rfl) with ⟨_, he⟩ | ⟨_, _, he⟩ | ⟨_, _, he⟩
    · rw [act, he]
      exact List.forall_mem_nil _
    · rw [act, he]
      exact List.forall_mem_nil _
    · rw [act, he]
      exact List.forall_mem_cons.2 ⟨rfl, (leads_nextService _ wd false [] _).isOfWork⟩
  · exact (leads_act hbegin).isOfWork

end Worker

end Conveyor
