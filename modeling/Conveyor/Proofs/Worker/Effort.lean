/-
**How much a worker has still to do.**

Every answer brings a worker nearer to its end: a service is started once and stopped once, and a
step is run once.

Main definitions:

* `Conveyor.Worker.effort` — how many answers a worker waits for at most, and its slot.

Main results:

* `Conveyor.Worker.effort_begin_lt`, `Conveyor.Worker.effort_answer_lt` — **every turn that a worker
  waits for leaves it less to do**.
-/

import Conveyor.Proofs.Run.Event
import Conveyor.Proofs.Worker.Act

set_option autoImplicit false

namespace Conveyor

/-- How much there is still to do for a job at a point. -/
def Point.effort (j : Job) : Point → Nat
  | .queued => 2 * j.services.length + j.steps.length + 2
  | .starting up _ rest _ => 2 * (rest.length + 1) + j.steps.length + up.length + 1
  | .running up _ rest _ => rest.length + up.length + 2
  | .stopping _ _ rest _ => rest.length + 1
  | .ended _ => 0

namespace Worker

variable {w : Worker} {wd : String} {halted : Bool}

/-- How much a worker has still to do. -/
def effort (w : Worker) : Nat := w.point.effort w.inst.job

theorem effort_of_point {p : Point} (h : w.point = p) : w.effort = p.effort w.inst.job := by
  rw [effort, h]

/-- The services that are up are to be stopped. -/
theorem effort_unwind (w : Worker) (up : List String) (o : Outcome) :
    (w.unwind up o).worker.effort = up.length := by
  cases up with
  | nil => cases o <;> rfl
  | cons name rest => rfl

theorem effort_nextStep_le (w : Worker) (wd : String) (halted : Bool) (up : List String) (n : Int)
    (steps : List Step) :
    (w.nextStep wd halted up n steps).worker.effort ≤ steps.length + up.length + 1 := by
  rcases w.nextStep_cases wd halted up n steps with ⟨o, _, he⟩ | ⟨s, rest, r, rfl, _, _, he⟩
  · rw [he, effort_unwind]
    omega
  · rw [he, effort_of_point rfl, Point.effort, List.length_cons]
    omega

theorem effort_nextService_le (w : Worker) (wd : String) (halted : Bool) (up : List String)
    (services : List Service) : (w.nextService wd halted up services).worker.effort ≤
      2 * services.length + w.inst.job.steps.length + up.length + 1 := by
  rcases w.nextService_cases wd halted up services with
    ⟨rfl, he⟩ | ⟨o, _, _, he⟩ | ⟨s, rest, r, rfl, _, _, he⟩
  · have hnext := effort_nextStep_le (w.move .runningSteps) wd halted up 0 w.inst.job.steps
    rw [he]
    simpa using hnext
  · have hunwind := effort_unwind w up o
    rw [he]
    omega
  · refine Nat.le_of_eq ?_
    rw [he, effort_of_point rfl, Point.effort, List.length_cons]

/-- Whoever is given its slot has less to do then. -/
theorem effort_begin_lt (h : w.Sound) (hp : w.point = .queued) :
    (w.begin wd halted).worker.effort < w.effort := by
  have hnow : w.effort = 2 * w.inst.job.services.length + w.inst.job.steps.length + 2 :=
    effort_of_point hp
  rcases begin_cases wd halted h hp with ⟨_, he⟩ | ⟨_, _, he⟩ | ⟨_, _, he⟩
  · rw [he, effort_of_point rfl, Point.effort]
    omega
  · rw [he, effort_of_point rfl, Point.effort]
    omega
  · have hnext := effort_nextService_le
      { w with inst := w.inst.enter .startingServices } wd false [] w.inst.job.services
    have hjob : (w.inst.enter .startingServices).job = w.inst.job := rfl
    simp only [hjob, List.length_nil] at hnext
    rw [he]
    simp only [Turn.after]
    omega

theorem effort_served_lt {up : List String} {r : ResolvedService} {rest : List Service}
    {halt : Option Halt} (hp : w.point = .starting up r rest halt) (reply : StartReply) :
    (w.served wd halted reply).worker.effort < w.effort := by
  have hnow : w.effort = 2 * (rest.length + 1) + w.inst.job.steps.length + up.length + 1 :=
    effort_of_point hp
  rcases w.served_cases wd halted reply with ⟨hne, _⟩ | ⟨up', r', rest', halt', hp', hcases⟩
  · exact absurd hp (hne up r rest halt)
  · obtain ⟨rfl, rfl, rfl, rfl⟩ : up = up' ∧ r = r' ∧ rest = rest' ∧ halt = halt' := by
      simpa [hp] using hp'
    rcases hcases with ⟨_, he⟩ | ⟨_, _, he⟩ | ⟨f, _, _, he⟩ | ⟨o, _, _, _, _, he⟩
    · rw [he, effort_unwind]
      omega
    · have hnext := effort_nextService_le w wd halted (r.name :: up) rest
      rw [List.length_cons] at hnext
      rw [he]
      omega
    · rw [he, effort_of_point rfl, Point.effort]
      omega
    · rw [he, effort_unwind]
      omega

theorem effort_ran_lt {up : List String} {r : ResolvedStep} {rest : List Step}
    {halt : Option Halt} (hp : w.point = .running up r rest halt) (reply : RunReply) :
    (w.ran wd halted reply).worker.effort < w.effort := by
  have hnow : w.effort = rest.length + up.length + 2 := effort_of_point hp
  rcases w.ran_cases wd halted reply with ⟨hne, _⟩ | ⟨up', r', rest', halt', hp', hcases⟩
  · exact absurd hp (hne up r rest halt)
  · obtain ⟨rfl, rfl, rfl, rfl⟩ : up = up' ∧ r = r' ∧ rest = rest' ∧ halt = halt' := by
      simpa [hp] using hp'
    rcases hcases with ⟨rs, o, ms, he, _⟩ | ⟨rs, output, _, he⟩
    · rw [he, Turn.after, effort_unwind]
      omega
    · have hnext := effort_nextStep_le (w.withRecords rs) wd halted up (r.index + 1) rest
      rw [he]
      simp only [Turn.after]
      omega

theorem effort_stopped_lt {service : String} {half : Bool} {rest : List String} {o : Outcome}
    (hp : w.point = .stopping service half rest o) (reply : StopReply) :
    (w.stopped reply).worker.effort < w.effort := by
  have hnow : w.effort = rest.length + 1 := effort_of_point hp
  rcases w.stopped_cases reply with ⟨hne, _⟩ | ⟨service', half', rest', o', hp', hcases⟩
  · exact absurd hp (hne service half rest o)
  · obtain ⟨rfl, rfl, rfl, rfl⟩ :
        service = service' ∧ half = half' ∧ rest = rest' ∧ o = o' := by simpa [hp] using hp'
    rcases hcases with ⟨_, he⟩ | ⟨_, he⟩
    · rw [he, effort_unwind]
      omega
    · have hle : (if half = true then rest else []).length ≤ rest.length := by
        split
        · exact Nat.le_refl _
        · exact Nat.zero_le _
      rw [he, effort_unwind]
      omega

/-- **Every answer that a worker waits for leaves it less to do.** -/
theorem effort_answer_lt {reply : Reply} (h : w.point.awaits reply = true) :
    (w.act wd halted reply.act).worker.effort < w.effort := by
  cases hpt : w.point with
  | queued => simp [hpt, Point.awaits] at h
  | ended aborted => simp [hpt, Point.awaits] at h
  | starting up r rest halt =>
      cases reply with
      | start reply => exact effort_served_lt hpt reply
      | run reply => simp [hpt, Point.awaits] at h
      | stop reply => simp [hpt, Point.awaits] at h
  | running up r rest halt =>
      cases reply with
      | run reply => exact effort_ran_lt hpt reply
      | start reply => simp [hpt, Point.awaits] at h
      | stop reply => simp [hpt, Point.awaits] at h
  | stopping service half rest o =>
      cases reply with
      | stop reply => exact effort_stopped_lt hpt reply
      | start reply => simp [hpt, Point.awaits] at h
      | run reply => simp [hpt, Point.awaits] at h

end Worker

end Conveyor
