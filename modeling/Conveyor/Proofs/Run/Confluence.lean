/-
**The order in which calls are answered does not show in the report.**

When the answer to every call is settled beforehand, nobody calls anything off, and no failure
calls off other work, then the instances do not get to know of each other: whatever the number of
slots, and whichever call is answered first, the run comes to the report that it would have come to
if its instances had been carried out one at a time.

Main definitions:

* `Conveyor.Choice`, `Conveyor.Replies.play` — what may happen next, and a run that is played so;
* `Conveyor.Replies.alone` — the report of a run whose instances are carried out one at a time;
* `Conveyor.Replies.Course` — a run that will come to that report.

Main results:

* `Conveyor.Replies.course_next?` — **whatever happens next, the run stays on its course**;
* `Conveyor.Replies.report?_of_course` — a run on its course that returns has come to that report;
* `Conveyor.Replies.report?_eq_of_play` — **two runs that differ in the number of slots and in the
  order of answers come to the same report**.
-/

import Conveyor.Proofs.Run.Ticket
import Conveyor.Proofs.Worker.Alone

set_option autoImplicit false

namespace Conveyor

/-- What may happen next when nobody calls anything off. -/
inductive Choice where
  /-- The call that a worker waits for is answered. -/
  | answer (t : Ticket)
  /-- An execution does what it does next by itself. -/
  | advance (k : Nat)
  /-- A free slot is given to the front of the queue. -/
  | grant

namespace Run

/-- The calls that the worker of a ticket has made. -/
def callsFor (r : Run) (t : Ticket) : List Call := (r.notesFor t).filterMap Note.call?

/-- Whether the execution that was started last has returned. -/
def hasReturned (r : Run) : Bool :=
  r.executions.getLast?.any fun e =>
    match e.ending with
    | some (.returned _) => true
    | _ => false

/-- What the workers wrote after a turn of one of them. -/
theorem notesFor_turn {r : Run} {t : Ticket} {s : OpenStage} {w : Worker} {f : Worker → Turn}
    (hw : r.worker? t = some (s, w)) (hlive : w.point.hasEnded = false) (u : Ticket) :
    (r.turn t f).notesFor u = if u = t then r.notesFor t ++ (f w).notes else r.notesFor u := by
  have hlog : (r.turn t f).log = r.log ++ (f w).notes.map fun n => (t, n) := by
    rw [turn_eq hw hlive rfl]
  rw [notesFor, hlog]
  by_cases hut : u = t
  · rw [if_pos hut, hut]
    exact notesFor_append_self r t _
  · rw [if_neg hut]
    exact notesFor_append_of_ne r (Ne.symm hut) _

theorem callsFor_turn {r : Run} {t : Ticket} {s : OpenStage} {w : Worker} {f : Worker → Turn}
    (hw : r.worker? t = some (s, w)) (hlive : w.point.hasEnded = false) (u : Ticket) :
    (r.turn t f).callsFor u =
      if u = t then r.callsFor t ++ (f w).notes.filterMap Note.call? else r.callsFor u := by
  rw [callsFor, notesFor_turn hw hlive]
  split
  · rw [List.filterMap_append]
    rfl
  · rfl

end Run

namespace Replies

/-! ### Playing -/

/-- The event that a choice leads to. -/
def eventOf? (σ : Replies) (r : Run) : Choice → Option Run.Event
  | .answer t => do
    let (_, w) ← r.worker? t
    let reply ← σ.replyTo? t.stage t.identity (r.callsFor t) w.point
    return .answer t reply
  | .advance k => some (.advance k)
  | .grant => some .grant

/-- The run after a choice, if it is there. -/
def next? (σ : Replies) (r : Run) (c : Choice) : Option Run := (σ.eventOf? r c).bind r.after

/-- The run after choices, if they are there one after the other. -/
def play (σ : Replies) : Run → List Choice → Option Run
  | r, [] => some r
  | r, c :: cs => (σ.next? r c).bind (σ.play · cs)

/-- A run that is executed once and played. -/
def carriedOut (σ : Replies) (id : String) (p : Pipeline) (c : RunConfig) (cs : List Choice) :
    Option Run :=
  ((Run.create id p c).after .execute).bind (σ.play · cs)

/-! ### What a run will come to -/

/-- A stage whose instances are carried out one at a time. -/
def carryOutStage (σ : Replies) (wd : String) (s : StageReport) : StageReport :=
  StageReport.finalize { s with instances := s.instances.map (σ.carryOut wd s.name) }

/-- The report of a run whose instances are carried out one at a time, in the order of creation. -/
def alone (σ : Replies) (id : String) (p : Pipeline) (wd : String) (stages : List StageReport) :
    RunReport :=
  let e : Execution := { past := stages.map (σ.carryOutStage wd) }
  (e.finish (.returned e.finalStatus)).report id p.name

/-- What an open stage will come to, if the workers have made calls. -/
def foreseenStage (σ : Replies) (wd : String) (calls : Ticket → List Call) (s : OpenStage) :
    StageReport :=
  StageReport.finalize
    { name := s.name
      instances := s.workers.map fun w =>
        σ.foreseen wd s.name w (calls ⟨0, s.name, w.inst.identity⟩) }

/-- What the stages of an execution will come to. -/
def foreseenStages (σ : Replies) (wd : String) (calls : Ticket → List Call) (e : Execution) :
    List StageReport :=
  e.past ++ e.current.toList.map (σ.foreseenStage wd calls) ++ e.future.map (σ.carryOutStage wd)

/-- An execution that will come to what its instances come to one at a time: nobody in its open
stage was disturbed, and nothing was begun of what waits. -/
structure OnCourse (σ : Replies) (wd : String) (calls : Ticket → List Call)
    (stages : List StageReport) (e : Execution) : Prop where
  haltedBy : e.haltedBy = none
  workers : ∀ s, e.current = some s → ∀ w ∈ s.workers, w.point.IsUndisturbed ∧
    (w.point = .queued →
      w.inst.status = .pending ∧ calls ⟨0, s.name, w.inst.identity⟩ = [])
  future : ∀ s ∈ e.future, (∀ i ∈ s.instances, i.status = .pending) ∧
    ∀ identity, calls ⟨0, s.name, identity⟩ = []
  foreseen : σ.foreseenStages wd calls e = stages.map (σ.carryOutStage wd)

/-- A run that will come to the report of its instances carried out one at a time. -/
structure Course (σ : Replies) (id : String) (p : Pipeline) (c : RunConfig)
    (stages : List StageReport) (r : Run) : Prop where
  id : r.id = id
  pipeline : r.pipeline = p
  config : r.config = c
  cancelled : r.cancelRequested = false
  executions : ∃ e, r.executions = [e] ∧ σ.OnCourse c.workingDir r.callsFor stages e

section
variable {σ : Replies} {wd : String} {stages : List StageReport} {calls : Ticket → List Call}
  {e : Execution}

/-! ### Changes of an execution on its course -/

/-- A worker makes a turn that changes nothing of what will come of its instance. -/
theorem OnCourse.put {s : OpenStage} {w w' : Worker} {calls' : Ticket → List Call}
    (h : σ.OnCourse wd calls stages e) (hsound : e.Sound) (hs : e.current = some s)
    (hw : w ∈ s.workers) (hid : w'.inst.identity = w.inst.identity)
    (hundisturbed : w'.point.IsUndisturbed) (hleft : w'.point.isQueued = false)
    (hforeseen : σ.foreseen wd s.name w' (calls' ⟨0, s.name, w.inst.identity⟩) =
      σ.foreseen wd s.name w (calls ⟨0, s.name, w.inst.identity⟩))
    (hothers : ∀ t : Ticket, t ≠ ⟨0, s.name, w.inst.identity⟩ → calls' t = calls t)
    (hnames : s.name ∉ e.future.map StageReport.name) :
    σ.OnCourse wd calls' stages { e with current := some (s.put w') } := by
  have hd := hsound.distinct s hs
  -- nobody else has made a call in the meantime
  have hsame (v : Worker) (hv : v ∈ s.workers) (hne : v.inst.identity ≠ w.inst.identity) :
      calls' ⟨0, s.name, v.inst.identity⟩ = calls ⟨0, s.name, v.inst.identity⟩ :=
    hothers _ fun heq => hne (congrArg Ticket.identity heq)
  refine ⟨h.haltedBy, ?_, ?_, ?_⟩
  · intro o ho v hv
    obtain rfl : s.put w' = o := Option.some.inj ho
    obtain ⟨u, hu, rfl⟩ := List.mem_map.1 hv
    split
    · refine ⟨hundisturbed, fun hq => ?_⟩
      rw [hq] at hleft
      cases hleft
    · rename_i hne
      obtain ⟨hund, hqueued⟩ := h.workers s hs u hu
      refine ⟨hund, fun hq => ?_⟩
      obtain ⟨hpending, hnone⟩ := hqueued hq
      exact ⟨hpending, (hsame u hu (hid ▸ hne)).trans hnone⟩
  · intro t ht
    obtain ⟨hpending, hnone⟩ := h.future t ht
    refine ⟨hpending, fun identity => (hothers _ fun heq => ?_).trans (hnone identity)⟩
    exact hnames (List.mem_map.2 ⟨t, ht, congrArg Ticket.stage heq⟩)
  · rw [← h.foreseen]
    have hstage : σ.foreseenStage wd calls' (s.put w') = σ.foreseenStage wd calls s := by
      simp only [foreseenStage, OpenStage.put, OpenStage.mapWorkers, List.map_map]
      congr 2
      refine List.map_congr_left fun v hv => ?_
      simp only [Function.comp_apply]
      split
      · rename_i heq
        rw [OpenStage.eq_of_identity_eq hd hv hw (heq.trans hid), hid]
        exact hforeseen
      · rename_i hne
        rw [hsame v hv (hid ▸ hne)]
    simp only [foreseenStages, hs, Option.toList_some, List.map_cons, List.map_nil, hstage]

/-- Workers that have ended have come to what was foreseen. -/
theorem foreseenStage_of_isOver {s : OpenStage} (hover : s.isOver = true) :
    σ.foreseenStage wd calls s = s.report.finalize := by
  have hinst : s.workers.map (fun w =>
      σ.foreseen wd s.name w (calls ⟨0, s.name, w.inst.identity⟩)) =
        s.workers.map Worker.inst := by
    refine List.map_congr_left fun w hw => ?_
    obtain ⟨aborted, hpt⟩ := Point.exists_of_hasEnded (List.all_eq_true.1 hover w hw)
    rw [foreseen, hpt]
  rw [foreseenStage, hinst]
  rfl

theorem OnCourse.close {s : OpenStage} (h : σ.OnCourse wd calls stages e)
    (hs : e.current = some s) (hover : s.isOver = true) :
    σ.OnCourse wd calls stages (e.close false s) := by
  refine ⟨?_, by simp [Execution.close], h.future, ?_⟩
  · simp [Execution.close, h.haltedBy]
  · rw [← h.foreseen]
    simp [foreseenStages, Execution.close, hs, foreseenStage_of_isOver hover]

theorem OnCourse.openStage {s : StageReport} {rest : List StageReport}
    (h : σ.OnCourse wd calls stages e) (hcur : e.current = none) (hfut : e.future = s :: rest) :
    σ.OnCourse wd calls stages { e with current := some (.ofReport s), future := rest } := by
  obtain ⟨hpending, hnone⟩ := h.future s (hfut ▸ List.mem_cons_self ..)
  refine ⟨h.haltedBy, ?_, fun t ht => h.future t (hfut ▸ List.mem_cons_of_mem _ ht), ?_⟩
  · intro o ho w hw
    obtain rfl : OpenStage.ofReport s = o := Option.some.inj ho
    obtain ⟨i, hi, rfl⟩ := List.mem_map.1 hw
    exact ⟨trivial, fun _ => ⟨hpending i hi, hnone i.identity⟩⟩
  · rw [← h.foreseen]
    have hinst : (OpenStage.ofReport s).workers.map (fun w =>
        σ.foreseen wd s.name w (calls ⟨0, s.name, w.inst.identity⟩)) =
          s.instances.map (σ.carryOut wd s.name) := by
      rw [OpenStage.ofReport, List.map_map]
      rfl
    have hstage : σ.foreseenStage wd calls (.ofReport s) = σ.carryOutStage wd s := by
      have hname : (OpenStage.ofReport s).name = s.name := rfl
      rw [foreseenStage, hname, hinst]
      rfl
    simp [foreseenStages, hcur, hfut, hstage]

theorem OnCourse.finish (h : σ.OnCourse wd calls stages e) (ending : Ending) :
    σ.OnCourse wd calls stages (e.finish ending) :=
  ⟨h.haltedBy, h.workers, h.future, h.foreseen⟩

end

/-! ### A run stays on its course -/

section
variable {σ : Replies} {id : String} {p : Pipeline} {c : RunConfig} {stages : List StageReport}
  {r : Run}

/-- A run on its course has one execution. -/
theorem Course.execution_eq (h : σ.Course id p c stages r) {k : Nat} {e : Execution}
    (he : r.executions[k]? = some e) :
    k = 0 ∧ r.executions = [e] ∧ σ.OnCourse c.workingDir r.callsFor stages e := by
  obtain ⟨f, hf, hcourse⟩ := h.executions
  rw [hf, List.getElem?_singleton] at he
  split at he
  · rename_i hzero
    obtain rfl := Option.some.inj he
    exact ⟨hzero, hf, hcourse⟩
  · exact absurd he (by simp)

/-- A worker makes a turn that changes nothing of what will come of its instance. -/
theorem Course.turn (h : σ.Course id p c stages r) (hsound : r.Sound) (hff : c.failFast = false)
    {t : Ticket} {s : OpenStage} {w : Worker} {f : Worker → Turn}
    (hw : r.worker? t = some (s, w)) (hlive : w.point.hasEnded = false)
    (hplanned : (f w).worker.inst.planned = w.inst.planned)
    (hundisturbed : (f w).worker.point.IsUndisturbed)
    (hleft : (f w).worker.point.isQueued = false)
    (hforeseen : σ.foreseenAfter c.workingDir t.stage (r.callsFor t) (f w) =
      σ.foreseen c.workingDir t.stage w (r.callsFor t)) (pool : Pool Ticket) :
    σ.Course id p c stages ({ r with pool }.turn t f) := by
  obtain ⟨e, he, hse, hs, hname, hin, hid⟩ := hsound.exists_of_worker? hw
  obtain ⟨hzero, hes, hcourse⟩ := h.execution_eq he
  have ht : t = ⟨0, s.name, w.inst.identity⟩ := by
    rw [hname, hid, ← hzero]
  -- no stage that waits has the name of the open one, so that none has made calls
  have hnames : s.name ∉ e.future.map StageReport.name := by
    have hd := hsound.nodup_stageNames (List.mem_of_getElem? he)
    simp only [Execution.stages, hs, Option.toList_some, List.map_cons, List.map_nil,
      List.map_append, List.append_assoc] at hd
    exact (List.nodup_cons.1 (List.nodup_append.1 hd).2.1).1
  have hcalls (u : Ticket) : ({ r with pool }.turn t f).callsFor u =
      if u = t then r.callsFor t ++ (f w).notes.filterMap Note.call? else r.callsFor u :=
    Run.callsFor_turn (r := { r with pool }) hw hlive u
  have hput : σ.OnCourse c.workingDir ({ r with pool }.turn t f).callsFor stages
      { e with current := some (s.put (f w).worker) } := by
    refine hcourse.put hse hs hin (JobInstance.identity_eq_of_planned hplanned) hundisturbed hleft
      ?_ (fun u hu => ?_) hnames
    · rw [hcalls, ← ht, if_pos rfl, hname]
      exact hforeseen
    · rw [hcalls, if_neg (ht ▸ hu)]
  have hexecutions : ({ r with pool }.turn t f).executions =
      [{ e with current := some (s.put (f w).worker) }] := by
    have hff' : r.config.failFast = false := h.config ▸ hff
    rw [Run.turn_eq (r := { r with pool }) hw hlive rfl]
    simp [Run.modifyExecution, hes, hzero, hff', OpenStage.noteOutcome_of_not_failFast]
  have hkept : ({ r with pool }.turn t f).id = r.id ∧
      ({ r with pool }.turn t f).pipeline = r.pipeline ∧
      ({ r with pool }.turn t f).config = r.config ∧
      ({ r with pool }.turn t f).cancelRequested = r.cancelRequested := by
    rw [Run.turn_eq (r := { r with pool }) hw hlive rfl]
    exact ⟨rfl, rfl, rfl, rfl⟩
  obtain ⟨hkid, hkpipeline, hkconfig, hkcancelled⟩ := hkept
  exact ⟨hkid.trans h.id, hkpipeline.trans h.pipeline, hkconfig.trans h.config,
    hkcancelled.trans h.cancelled, _, hexecutions, hput⟩

/-- An execution does something by itself, and nobody writes anything. -/
theorem Course.modifyExecution (h : σ.Course id p c stages r) {e : Execution}
    (he : r.executions = [e]) {f : Execution → Execution}
    (hf : σ.OnCourse c.workingDir r.callsFor stages (f e)) :
    σ.Course id p c stages (r.modifyExecution 0 f) :=
  ⟨h.id, h.pipeline, h.config, h.cancelled, f e, by simp [Run.modifyExecution, he], hf⟩

theorem course_advance (h : σ.Course id p c stages r) (hff : c.failFast = false) {k : Nat}
    {r' : Run} (hr : r.advance? k = some r') : σ.Course id p c stages r' := by
  obtain ⟨e, n, he, hn, rfl⟩ := Run.exists_of_advance? hr
  obtain ⟨rfl, hes, hcourse⟩ := h.execution_eq he
  obtain ⟨_, hcases⟩ := Execution.next_cases hn
  rcases hcases with ⟨s, hs, habort, rfl⟩ | ⟨s, hs, _, hover, rfl⟩ | ⟨_, _, rfl⟩ |
    ⟨s, rest, reason, _, _, hskip, rfl⟩ | ⟨s, rest, hcur, hfut, _, _, rfl⟩
  · -- nobody was disturbed, so that nobody was aborted
    obtain ⟨w, hw, haborted⟩ := List.any_eq_true.1 habort
    have hundisturbed := (hcourse.workers s hs w hw).1
    cases hpt : w.point with
    | ended aborted =>
        rw [hpt] at hundisturbed haborted
        obtain rfl : aborted = false := hundisturbed
        cases haborted
    | queued => simp [hpt, Point.wasAborted] at haborted
    | starting => simp [hpt, Point.wasAborted] at haborted
    | running => simp [hpt, Point.wasAborted] at haborted
    | stopping => simp [hpt, Point.wasAborted] at haborted
  · have hff' : r.config.failFast = false := h.config ▸ hff
    rw [Run.perform, hff']
    exact h.modifyExecution hes (hcourse.close hs hover)
  · have hconclude : r.perform 0 e .conclude =
        { (r.modifyExecution 0 fun _ => e.finish (.returned e.finalStatus)) with
          tally := r.tally ++ (e.finish (.returned e.finalStatus)).finalTally e.finalStatus } := by
      simp [Run.perform, Run.conclude, he, Run.modifyExecution, Ending.status]
    have hfinish := h.modifyExecution (f := fun _ => e.finish (.returned e.finalStatus)) hes
      (hcourse.finish _)
    rw [hconclude]
    exact ⟨hfinish.id, hfinish.pipeline, hfinish.config, hfinish.cancelled, hfinish.executions⟩
  · rcases hskip with hhalted | ⟨name, hname⟩
    · exact absurd (h.cancelled.symm.trans hhalted) (by simp)
    · exact absurd (hcourse.haltedBy.symm.trans hname) (by simp)
  · have hopen := h.modifyExecution
      (f := fun e => { e with current := some (.ofReport s), future := rest }) hes
      (hcourse.openStage hcur hfut)
    exact ⟨hopen.id, hopen.pipeline, hopen.config, hopen.cancelled, hopen.executions⟩

theorem course_grant (h : σ.Course id p c stages r) (hsound : r.Sound) (hff : c.failFast = false)
    {r' : Run} (hr : r.admit? = some r') : σ.Course id p c stages r' := by
  obtain ⟨t, pool, s, w, _, hw, hpt, _, rfl⟩ := Run.exists_of_admit? hsound hr
  have hws := Run.worker_sound hsound hw
  obtain ⟨e, he, _, hs, hname, hin, hid⟩ := hsound.exists_of_worker? hw
  obtain ⟨hzero, _, hcourse⟩ := h.execution_eq he
  obtain ⟨hpending, hnone⟩ := (hcourse.workers s hs w hin).2 hpt
  have hcalls : r.callsFor t = [] := by
    rw [hname, hid, ← hzero] at hnone
    exact hnone
  obtain ⟨_, hleft, hbecomes⟩ := Worker.sound_begin r.config.workingDir false hws hpt
  have hbegin : (fun w : Worker => w.begin r.config.workingDir r.cancelRequested) =
      fun w => w.begin r.config.workingDir false := by
    rw [h.cancelled]
  rw [hbegin]
  refine h.turn (f := fun w => w.begin r.config.workingDir false) hsound hff hw (by rw [hpt]; rfl)
    hbecomes.planned (isUndisturbed_begin hws hpt false) hleft ?_ pool
  rw [hcalls, h.config]
  exact foreseen_begin hpt hpending

theorem course_answer (h : σ.Course id p c stages r) (hσ : σ.IsCalm) (hsound : r.Sound)
    (hff : c.failFast = false) {t : Ticket} {s : OpenStage} {w : Worker} {reply : Reply}
    (hw : r.worker? t = some (s, w))
    (hreply : σ.replyTo? t.stage t.identity (r.callsFor t) w.point = some reply) :
    σ.Course id p c stages (r.answered t reply) := by
  have hws := Run.worker_sound hsound hw
  obtain ⟨e, he, _, hs, _, hin, hid⟩ := hsound.exists_of_worker? hw
  obtain ⟨_, _, hcourse⟩ := h.execution_eq he
  have hundisturbed : w.point.IsUndisturbed := (hcourse.workers s hs w hin).1
  have hslot : w.point.holdsSlot = true := by
    cases hpt : w.point <;> simp [hpt, replyTo?] at hreply <;> rfl
  have hlive := (Point.live_of_holdsSlot hslot).2
  have hcarries : w.Carries (w.act c.workingDir false reply.act).worker :=
    Worker.carries_act hws hslot reply.act_ne_begin
  rw [Run.answered_eq, h.config, h.cancelled]
  rw [← hid] at hreply
  exact h.turn hsound hff hw hlive hcarries.planned (isUndisturbed_answer hσ hundisturbed hreply)
    hcarries.left (foreseen_answer hσ hws hundisturbed hreply) r.pool

/-- **Whatever happens next, the run stays on its course.** -/
theorem course_next? (h : σ.Course id p c stages r) (hσ : σ.IsCalm) (hsound : r.Sound)
    (hff : c.failFast = false) {choice : Choice} {r' : Run} (hr : σ.next? r choice = some r') :
    σ.Course id p c stages r' ∧ r'.Sound := by
  obtain ⟨ev, hev, hafter⟩ := Option.bind_eq_some_iff.1 hr
  refine ⟨?_, (Run.carries_after hsound hafter).sound⟩
  cases choice with
  | answer t =>
      obtain ⟨⟨s, w⟩, hw, hev⟩ := Option.bind_eq_some_iff.1 hev
      obtain ⟨reply, hreply, hev⟩ := Option.bind_eq_some_iff.1 hev
      obtain rfl := Option.some.inj hev
      simp only [Run.after] at hafter
      split at hafter
      · exact Option.some.inj hafter ▸ course_answer h hσ hsound hff hw hreply
      · exact absurd hafter (by simp)
  | advance k =>
      obtain rfl := Option.some.inj hev
      exact course_advance h hff hafter
  | grant =>
      obtain rfl := Option.some.inj hev
      exact course_grant h hsound hff hafter

theorem course_play (h : σ.Course id p c stages r) (hσ : σ.IsCalm) (hsound : r.Sound)
    (hff : c.failFast = false) {cs : List Choice} {r' : Run} (hr : σ.play r cs = some r') :
    σ.Course id p c stages r' ∧ r'.Sound := by
  induction cs generalizing r with
  | nil =>
      obtain rfl := Option.some.inj hr
      exact ⟨h, hsound⟩
  | cons choice rest ih =>
      obtain ⟨q, hq, hrest⟩ := Option.bind_eq_some_iff.1 hr
      obtain ⟨hcourse, hqs⟩ := course_next? h hσ hsound hff hq
      exact ih hcourse hqs hrest

/-- A run that was just started is on its course. -/
theorem course_execute (hplan : Run.planOf p c = .ok stages)
    (hr : (Run.create id p c).after .execute = some r) :
    σ.Course id p c stages r ∧ r.Sound := by
  refine ⟨?_, (Run.carries_after (Run.sound_create id p c) hr).sound⟩
  have hlaunch : (Run.create id p c).launch =
      .ok { Run.create id p c with executions := [{ future := stages }] } := by
    have hplan' : Run.planOf (Run.create id p c).pipeline (Run.create id p c).config = .ok stages :=
      hplan
    rw [Run.launch, hplan']
    rfl
  obtain rfl : { Run.create id p c with executions := [{ future := stages }] } = r := by
    simpa [Run.after, hlaunch, Except.toOption] using hr
  have hwell := Run.wellPlanned_of_planOf hplan
  refine ⟨rfl, rfl, rfl, rfl, { future := stages }, rfl, rfl, by simp, ?_, rfl⟩
  intro s hs
  exact ⟨fun i hi => ((hwell.stages s hs).instances i hi).status_eq, fun _ => rfl⟩

/-- A run on its course that returns has come to the report of its instances carried out one at a
time. -/
theorem report?_of_course (h : σ.Course id p c stages r) (hsound : r.Sound)
    (hreturned : r.hasReturned = true) :
    r.report? = some (σ.alone id p c.workingDir stages) := by
  obtain ⟨e, hes, hcourse⟩ := h.executions
  obtain ⟨st, hst⟩ : ∃ st, e.ending = some (.returned st) := by
    simp only [Run.hasReturned, hes, List.getLast?_singleton, Option.any_some] at hreturned
    split at hreturned
    · rename_i st hst
      exact ⟨st, hst⟩
    · exact absurd hreturned (by simp)
  have hse := hsound.executions e (hes ▸ List.mem_singleton_self e)
  obtain ⟨hcur, hfut, rfl, hartifacts⟩ := hse.returned st hst
  -- everything is behind, so that what was foreseen is what there is
  have hstages : e.stages = stages.map (σ.carryOutStage c.workingDir) := by
    have hforeseen := hcourse.foreseen
    simpa [foreseenStages, Execution.stages, hcur, hfut] using hforeseen
  have hpast : Execution.stages { past := stages.map (σ.carryOutStage c.workingDir) } =
      e.stages := by
    rw [hstages]
    simp [Execution.stages]
  have hinstances : Execution.instances { past := stages.map (σ.carryOutStage c.workingDir) } =
      e.instances := by
    rw [Execution.instances, hpast]
    rfl
  have hfinal : Execution.finalStatus { past := stages.map (σ.carryOutStage c.workingDir) } =
      e.finalStatus := by
    rw [Execution.finalStatus, Execution.finalStatus, hpast, hinstances]
  simp only [Run.report?, hes, List.getLast?_singleton, Option.map_some, alone, h.id, h.pipeline,
    Execution.report, hst, Execution.finish, hartifacts, hfinal, hinstances, Ending.status]
  rw [← hpast]
  rfl

/-- **The order of answers does not show.**  Two runs of one pipeline that differ in the number of
slots and in the order in which their calls are answered come to the same report, namely to that of
the instances carried out one at a time. -/
theorem report?_eq_of_play (hσ : σ.IsCalm) (hff : c.failFast = false)
    (hplan : Run.planOf p c = .ok stages) {m n : Nat} {as bs : List Choice} {q r : Run}
    (hq : σ.carriedOut id p { c with concurrencyLimit := m } as = some q)
    (hqr : q.hasReturned = true)
    (hr : σ.carriedOut id p { c with concurrencyLimit := n } bs = some r)
    (hrr : r.hasReturned = true) :
    q.report? = r.report? ∧ q.report? = some (σ.alone id p c.workingDir stages) := by
  -- the runs are not compared with each other: both come to what one instance after the other does
  have hone {l : Nat} {cs : List Choice} {s : Run}
      (hs : σ.carriedOut id p { c with concurrencyLimit := l } cs = some s)
      (hsr : s.hasReturned = true) : s.report? = some (σ.alone id p c.workingDir stages) := by
    obtain ⟨s₀, hstart, hplay⟩ := Option.bind_eq_some_iff.1 hs
    have hplan' : Run.planOf p { c with concurrencyLimit := l } = .ok stages := hplan
    obtain ⟨hcourse, hsound⟩ := course_execute (σ := σ) hplan' hstart
    obtain ⟨hend, hends⟩ := course_play hcourse hσ hsound hff hplay
    exact report?_of_course (c := { c with concurrencyLimit := l }) hend hends hsr
  exact ⟨(hone hq hqr).trans (hone hr hrr).symm, hone hq hqr⟩

end

/-- A stage with two jobs, each with one step. -/
def lintAndTest : Pipeline :=
  { name := "ci"
    stages := [{ name := "check", jobs :=
      [{ name := "lint", steps := [.run "ruff" []] },
        { name := "test", steps := [.run "pytest" []] }] }] }

/-- The tests fail, and everything else does well. -/
def testsFail : Replies where
  start _ _ _ := .up
  run _ identity _ := .done (if identity = "test" then 1 else 0) ""
  stop _ _ _ := .stopped

theorem isCalm_testsFail : testsFail.IsCalm :=
  ⟨by simp [testsFail], by simp [testsFail]⟩

/-- One job after the other, and both at once with the second one ready first. -/
theorem report?_lintAndTest :
    ∃ q r : Run,
      testsFail.carriedOut "r" lintAndTest { failFast := false, concurrencyLimit := 1 }
        [.advance 0, .grant, .answer ⟨0, "check", "lint"⟩, .grant,
          .answer ⟨0, "check", "test"⟩, .advance 0, .advance 0] = some q ∧
      testsFail.carriedOut "r" lintAndTest { failFast := false, concurrencyLimit := 2 }
        [.advance 0, .grant, .grant, .answer ⟨0, "check", "test"⟩,
          .answer ⟨0, "check", "lint"⟩, .advance 0, .advance 0] = some r ∧
      q.report? = r.report? := by
  have hone : (testsFail.carriedOut "r" lintAndTest { failFast := false, concurrencyLimit := 1 }
      [.advance 0, .grant, .answer ⟨0, "check", "lint"⟩, .grant,
        .answer ⟨0, "check", "test"⟩, .advance 0, .advance 0]).any Run.hasReturned = true := by
    decide +kernel
  have htwo : (testsFail.carriedOut "r" lintAndTest { failFast := false, concurrencyLimit := 2 }
      [.advance 0, .grant, .grant, .answer ⟨0, "check", "test"⟩,
        .answer ⟨0, "check", "lint"⟩, .advance 0, .advance 0]).any Run.hasReturned = true := by
    decide +kernel
  have hplan : (Run.planOf lintAndTest { failFast := false }).toOption.isSome = true := by
    decide +kernel
  obtain ⟨q, hq, hqr⟩ := (Option.any_eq_true _ _).1 hone
  obtain ⟨r, hr, hrr⟩ := (Option.any_eq_true _ _).1 htwo
  cases hstages : Run.planOf lintAndTest { failFast := false } with
  | error f => simp [hstages, Except.toOption] at hplan
  | ok stages =>
      obtain ⟨hsame, _⟩ := report?_eq_of_play isCalm_testsFail rfl hstages hq hqr hr hrr
      exact ⟨q, r, hq, hr, hsame⟩

end Replies

end Conveyor
