/-
**The services that a worker holds, and those that it loses.**

A worker gains a service when it is started, also if that failed halfway, and is rid of it when it
asks for its stop.  It loses a service without a stop in two ways: the answer to the start comes
after an abort, or the stop of another service is called off before its turn has come.

Main definitions:

* `Conveyor.Point.held` — the services that a worker has still to stop;
* `Conveyor.Worker.gains`, `Conveyor.Worker.loses` — the services that a turn gains and loses;
* `Conveyor.Point.Accounts` — the services gained so far fit the point that was reached.

Main results:

* `Conveyor.Worker.perm_act` — **nothing gets out of sight**: what a worker holds and gains it
  stops, holds on to, or loses;
* `Conveyor.Worker.accounts_act` — services are gained in the order of their declaration.
-/

import Mathlib.Data.List.Perm.Basic
import Conveyor.Proofs.Plan
import Conveyor.Proofs.Worker.Act

set_option autoImplicit false

namespace Conveyor

/-- The service whose stop an entry of the log asks for. -/
def Note.stopped? : Note → Option String
  | .called (.stop service) => some service
  | _ => none

/-- The services that a worker has still to stop, without the one that is being stopped. -/
def Point.held : Point → List String
  | .starting up .. => up
  | .running up .. => up
  | .stopping _ _ rest _ => rest
  | .queued | .ended _ => []

namespace Worker

/-- The services that a turn gains: a start is answered, and there is something to be stopped. -/
def gains (w : Worker) : Act → List String
  | .served .up | .served (.half _) =>
    match w.point with
    | .starting _ r _ _ => [r.name]
    | _ => []
  | _ => []

/-- The services that a turn loses: a start is answered after an abort, or the stop of a service
that had started properly is called off, and the ones after it are not stopped. -/
def loses (w : Worker) : Act → List String
  | .served .up | .served (.half _) =>
    match w.point with
    | .starting _ r _ (some .abort) => [r.name]
    | _ => []
  | .stopped .dropped | .abort =>
    match w.point with
    | .stopping _ false rest _ => rest
    | _ => []
  | _ => []

/-- The services that a worker stops in a turn, and those that it holds afterwards. -/
def settled (t : Turn) : List String := t.notes.filterMap Note.stopped? ++ t.worker.point.held

/-! ### Turns without loss -/

theorem settled_after (ms : List Measurement) (t : Turn) : settled (t.after ms) = settled t := rfl

theorem settled_conclude (w : Worker) (o : Outcome) : settled (w.conclude o) = [] := by
  cases o <;> rfl

theorem settled_unwind (w : Worker) (up : List String) (o : Outcome) :
    settled (w.unwind up o) = up := by
  cases up with
  | nil => exact settled_conclude w o
  | cons name rest => rfl

theorem settled_nextStep (w : Worker) (wd : String) (halted : Bool) (up : List String) (n : Int)
    (steps : List Step) : settled (w.nextStep wd halted up n steps) = up := by
  rcases w.nextStep_cases wd halted up n steps with ⟨o, _, he⟩ | ⟨s, rest, r, _, _, _, he⟩
  · rw [he, settled_unwind]
  · rw [he]
    rfl

theorem settled_nextService (w : Worker) (wd : String) (halted : Bool) (up : List String)
    (services : List Service) : settled (w.nextService wd halted up services) = up := by
  rcases w.nextService_cases wd halted up services with
    ⟨_, he⟩ | ⟨o, _, _, he⟩ | ⟨s, rest, r, _, _, _, he⟩
  · rw [he, settled_nextStep]
  · rw [he, settled_unwind]
  · rw [he]
    rfl

theorem settled_begin {w : Worker} (wd : String) (halted : Bool) (h : w.Sound)
    (hp : w.point = .queued) : settled (w.begin wd halted) = [] := by
  rcases begin_cases wd halted h hp with ⟨_, he⟩ | ⟨_, _, he⟩ | ⟨_, _, he⟩
  · rw [he]
    rfl
  · rw [he]
    rfl
  · rw [he, settled_after, settled_nextService]

theorem settled_ran (w : Worker) (wd : String) (halted : Bool) (reply : RunReply) :
    settled (w.ran wd halted reply) = w.point.held := by
  rcases w.ran_cases wd halted reply with ⟨_, he⟩ | ⟨up, r, rest, halt, hpt, hcases⟩
  · rw [he]
    rfl
  · rw [hpt]
    rcases hcases with ⟨rs, o, ms, he, _⟩ | ⟨rs, output, _, he⟩
    · rw [he, settled_after, settled_unwind]
      rfl
    · rw [he, settled_after, settled_nextStep]
      rfl

theorem settled_interrupt (w : Worker) : settled w.interrupt = w.point.held := by
  unfold interrupt
  split <;> simp_all [settled, Point.held, Note.stopped?]

/-! ### All turns -/

theorem gains_served_of_ne {w : Worker} (h : ∀ up r rest halt, w.point ≠ .starting up r rest halt)
    (reply : StartReply) : w.gains (.served reply) = [] ∧ w.loses (.served reply) = [] := by
  cases hpt : w.point with
  | starting up r rest halt => exact absurd hpt (h up r rest halt)
  | queued => cases reply <;> simp [gains, loses, hpt]
  | running => cases reply <;> simp [gains, loses, hpt]
  | stopping => cases reply <;> simp [gains, loses, hpt]
  | ended => cases reply <;> simp [gains, loses, hpt]

theorem perm_served (w : Worker) (wd : String) (halted : Bool) (reply : StartReply) :
    (w.gains (.served reply) ++ w.point.held).Perm
      (settled (w.served wd halted reply) ++ w.loses (.served reply)) := by
  rcases w.served_cases wd halted reply with ⟨hne, he⟩ | ⟨up, r, rest, halt, hpt, hcases⟩
  · obtain ⟨hgains, hloses⟩ := gains_served_of_ne hne reply
    rw [he, hgains, hloses, List.append_nil]
    exact List.Perm.refl _
  · rcases hcases with ⟨habort, he⟩ | ⟨habort, rfl, he⟩ | ⟨f, habort, rfl, he⟩ |
      ⟨o, habort, hreply, _, _, he⟩
    · -- an answer after an abort does not count: what it brings is lost
      have hlost : (r.name :: up).Perm (up ++ [r.name]) :=
        (List.perm_append_singleton r.name up).symm
      rw [he, settled_unwind]
      cases reply <;> simp [gains, loses, hpt, habort, Point.held, hlost]
    · rw [he, settled_nextService]
      simp [gains, loses, hpt, habort, Point.held]
    · rw [he]
      simp [gains, loses, hpt, habort, settled, Point.held, Note.stopped?]
    · rw [he, settled_unwind]
      rcases hreply with rfl | ⟨f, rfl⟩ <;> simp [gains, loses, hpt, Point.held]

theorem perm_stopped (w : Worker) (reply : StopReply) :
    (w.gains (.stopped reply) ++ w.point.held).Perm
      (settled (w.stopped reply) ++ w.loses (.stopped reply)) := by
  rcases w.stopped_cases reply with ⟨hne, he⟩ | ⟨service, half, rest, o, hpt, hcases⟩
  · rw [he]
    have hloses : w.loses (.stopped reply) = [] := by
      cases reply with
      | dropped => simp only [loses]; split <;> simp_all
      | stopped => rfl
      | raised f => rfl
    rw [hloses, List.append_nil]
    exact List.Perm.refl _
  · rcases hcases with ⟨hreply, he⟩ | ⟨rfl, he⟩
    · have hloses : w.loses (.stopped reply) = [] := by
        cases reply with
        | dropped => exact absurd rfl hreply
        | stopped => rfl
        | raised f => rfl
      rw [he, settled_unwind, hloses, List.append_nil, hpt]
      exact List.Perm.refl _
    · rw [he, settled_unwind]
      cases half <;> simp [gains, loses, hpt, Point.held]

theorem perm_abort (w : Worker) :
    (w.gains .abort ++ w.point.held).Perm (settled w.abort ++ w.loses .abort) := by
  cases hpt : w.point with
  | stopping service half rest o =>
      cases half <;>
        simp [gains, loses, abort, hpt, dropStop_eq, settled_unwind, Point.held]
  | queued => simp [gains, loses, abort, hpt, settled, Point.held]
  | starting up r rest halt =>
      cases halt <;>
        simp [gains, loses, abort, hpt, settled, Point.held, List.filterMap_cons, Note.stopped?]
  | running up r rest halt =>
      cases halt <;>
        simp [gains, loses, abort, hpt, settled, Point.held, List.filterMap_cons, Note.stopped?]
  | ended => simp [gains, loses, abort, hpt, settled, Point.held]

/-- **Nothing gets out of sight**: what a worker holds and gains it stops, holds on to, or loses. -/
theorem perm_act {w : Worker} (wd : String) (halted : Bool) {a : Act} (h : w.Sound)
    (hb : a = .begin → w.point = .queued) :
    (w.gains a ++ w.point.held).Perm (settled (w.act wd halted a) ++ w.loses a) := by
  cases a with
  | begin => simp [gains, loses, act, settled_begin wd halted h (hb rfl), hb rfl, Point.held]
  | served reply => exact perm_served w wd halted reply
  | ran reply => simp [gains, loses, act, settled_ran]
  | stopped reply => exact perm_stopped w reply
  | interrupt => simp [gains, loses, act, settled_interrupt]
  | abort => exact perm_abort w

end Worker

/-! ### The order in which services are gained -/

/-- The services gained so far fit the point that was reached: they are those in front of the one
that is being started, and afterwards the first ones of the job. -/
def Point.Accounts (services : List Service) (gained : List String) : Point → Prop
  | .queued => gained = []
  | .starting _ r rest _ => gained ++ r.name :: rest.map Service.name = services.map Service.name
  | .running .. | .stopping .. | .ended _ => gained <+: services.map Service.name

theorem Point.Accounts.isPrefix {services : List Service} {gained : List String} {p : Point}
    (h : p.Accounts services gained) : gained <+: services.map Service.name := by
  cases p with
  | queued => exact h ▸ List.nil_prefix
  | starting up r rest halt => exact ⟨_, h⟩
  | running => exact h
  | stopping => exact h
  | ended => exact h

theorem Service.name_of_resolve {c : Template.Context} {s : Service} {r : ResolvedService}
    (h : s.resolve c = .ok r) : r.name = s.name := by
  obtain ⟨_, _, h⟩ := exists_ok_of_bind h
  obtain ⟨_, _, h⟩ := exists_ok_of_bind h
  obtain rfl := Except.ok.inj h
  rfl

namespace Worker

section
variable {services : List Service} {gained : List String}

theorem accounts_conclude {w : Worker} {o : Outcome}
    (h : gained <+: services.map Service.name) :
    (w.conclude o).worker.point.Accounts services gained := by
  cases o <;> exact h

theorem accounts_unwind {w : Worker} {up : List String} {o : Outcome}
    (h : gained <+: services.map Service.name) :
    (w.unwind up o).worker.point.Accounts services gained := by
  cases up with
  | nil => exact accounts_conclude h
  | cons name rest => exact h

theorem accounts_nextStep {w : Worker} {wd : String} {halted : Bool} {up : List String} {n : Int}
    {steps : List Step} (h : gained <+: services.map Service.name) :
    (w.nextStep wd halted up n steps).worker.point.Accounts services gained := by
  rcases w.nextStep_cases wd halted up n steps with ⟨o, _, he⟩ | ⟨s, rest, r, _, _, _, he⟩
  · rw [he]
    exact accounts_unwind h
  · rw [he]
    exact h

theorem accounts_nextService {w : Worker} {wd : String} {halted : Bool} {up : List String}
    {rest : List Service} (h : gained ++ rest.map Service.name = services.map Service.name) :
    (w.nextService wd halted up rest).worker.point.Accounts services gained := by
  have hprefix : gained <+: services.map Service.name := ⟨_, h⟩
  rcases w.nextService_cases wd halted up rest with
    ⟨_, he⟩ | ⟨o, _, _, he⟩ | ⟨s, rest, r, rfl, _, hr, he⟩
  · rw [he]
    exact accounts_nextStep hprefix
  · rw [he]
    exact accounts_unwind hprefix
  · rw [he, Point.Accounts, Service.name_of_resolve hr]
    exact h

theorem accounts_begin {w : Worker} (wd : String) (halted : Bool) (h : w.Sound)
    (hp : w.point = .queued) :
    (w.begin wd halted).worker.point.Accounts w.inst.job.services [] := by
  rcases begin_cases wd halted h hp with ⟨_, he⟩ | ⟨_, _, he⟩ | ⟨_, _, he⟩
  · rw [he]
    exact List.nil_prefix
  · rw [he]
    exact List.nil_prefix
  · rw [he]
    exact accounts_nextService rfl

theorem accounts_served {w : Worker} (wd : String) (halted : Bool) (reply : StartReply)
    (h : w.point.Accounts services gained) :
    (w.served wd halted reply).worker.point.Accounts services
      (gained ++ w.gains (.served reply)) := by
  rcases w.served_cases wd halted reply with ⟨hne, he⟩ | ⟨up, r, rest, halt, hpt, hcases⟩
  · obtain ⟨hgains, _⟩ := gains_served_of_ne hne reply
    rw [he, hgains, List.append_nil]
    exact h
  · rw [hpt] at h
    have hnext : (gained ++ [r.name]) ++ rest.map Service.name = services.map Service.name := by
      rw [List.append_assoc]
      exact h
    have hgained : gained ++ [r.name] <+: services.map Service.name := ⟨_, hnext⟩
    have hgains : gained ++ w.gains (.served reply) <+: services.map Service.name := by
      cases reply with
      | up => simpa [gains, hpt] using hgained
      | half f => simpa [gains, hpt] using hgained
      | down f => simpa [gains] using h.isPrefix
      | dropped => simpa [gains] using h.isPrefix
    rcases hcases with ⟨_, he⟩ | ⟨_, rfl, he⟩ | ⟨f, _, _, he⟩ | ⟨o, _, _, _, _, he⟩
    · rw [he]
      exact accounts_unwind hgains
    · rw [he]
      simp only [gains, hpt]
      exact accounts_nextService hnext
    · rw [he]
      exact hgains
    · rw [he]
      exact accounts_unwind hgains

theorem accounts_ran {w : Worker} (wd : String) (halted : Bool) (reply : RunReply)
    (h : w.point.Accounts services gained) :
    (w.ran wd halted reply).worker.point.Accounts services gained := by
  rcases w.ran_cases wd halted reply with
    ⟨_, he⟩ | ⟨up, r, rest, halt, _, ⟨rs, o, ms, he, _⟩ | ⟨rs, output, _, he⟩⟩
  · rw [he]
    exact h
  · rw [he]
    exact accounts_unwind h.isPrefix
  · rw [he]
    exact accounts_nextStep h.isPrefix

theorem accounts_stopped {w : Worker} (reply : StopReply) (h : w.point.Accounts services gained) :
    (w.stopped reply).worker.point.Accounts services gained := by
  rcases w.stopped_cases reply with
    ⟨_, he⟩ | ⟨service, half, rest, o, _, ⟨_, he⟩ | ⟨_, he⟩⟩
  · rw [he]
    exact h
  · rw [he]
    exact accounts_unwind h.isPrefix
  · rw [he]
    exact accounts_unwind h.isPrefix

theorem accounts_interrupt {w : Worker} (h : w.point.Accounts services gained) :
    w.interrupt.worker.point.Accounts services gained := by
  unfold interrupt
  split <;> simp_all [Point.Accounts]

theorem accounts_abort {w : Worker} (h : w.point.Accounts services gained) :
    w.abort.worker.point.Accounts services gained := by
  have hprefix := h.isPrefix
  cases hpt : w.point with
  | queued => simpa [abort, hpt, Point.Accounts] using hprefix
  | starting up r rest halt =>
      rw [hpt] at h
      simpa [abort, hpt, Point.Accounts] using h
  | running up r rest halt => simpa [abort, hpt, Point.Accounts] using hprefix
  | stopping service half rest o =>
      simp only [abort, hpt, dropStop_eq]
      exact accounts_unwind hprefix
  | ended aborted => simpa [abort, hpt, Point.Accounts] using hprefix

/-- Services are gained in the order of their declaration. -/
theorem accounts_act {w : Worker} (wd : String) (halted : Bool) {a : Act} (hw : w.Sound)
    (hb : a = .begin → w.point = .queued) (h : w.point.Accounts w.inst.job.services gained) :
    (w.act wd halted a).worker.point.Accounts w.inst.job.services (gained ++ w.gains a) := by
  cases a with
  | begin =>
      have hnil : gained = [] := by simpa [hb rfl, Point.Accounts] using h
      rw [hnil]
      exact accounts_begin wd halted hw (hb rfl)
  | served reply => exact accounts_served wd halted reply h
  | ran reply => simpa [act, gains] using accounts_ran wd halted reply h
  | stopped reply => simpa [act, gains] using accounts_stopped reply h
  | interrupt => simpa [act, gains] using accounts_interrupt h
  | abort => simpa [act, gains] using accounts_abort h

end

/-! ### Without an abort -/

end Worker

/-- Whether a worker was aborted while it starts a service or runs a step. -/
def Point.isAborting : Point → Bool
  | .starting _ _ _ (some .abort) | .running _ _ _ (some .abort) => true
  | _ => false

namespace Worker

theorem isAborting_unwind (w : Worker) (up : List String) (o : Outcome) :
    (w.unwind up o).worker.point.isAborting = false := by
  cases up with
  | nil => cases o <;> rfl
  | cons name rest => rfl

theorem isAborting_nextStep (w : Worker) (wd : String) (halted : Bool) (up : List String)
    (n : Int) (steps : List Step) :
    (w.nextStep wd halted up n steps).worker.point.isAborting = false := by
  rcases w.nextStep_cases wd halted up n steps with ⟨o, _, he⟩ | ⟨s, rest, r, _, _, _, he⟩
  · rw [he]
    exact w.isAborting_unwind up o
  · rw [he]
    rfl

theorem isAborting_nextService (w : Worker) (wd : String) (halted : Bool) (up : List String)
    (services : List Service) :
    (w.nextService wd halted up services).worker.point.isAborting = false := by
  rcases w.nextService_cases wd halted up services with
    ⟨_, he⟩ | ⟨o, _, _, he⟩ | ⟨s, rest, r, _, _, _, he⟩
  · rw [he]
    exact isAborting_nextStep ..
  · rw [he]
    exact w.isAborting_unwind up o
  · rw [he]
    rfl

/-- Only an abort aborts. -/
theorem isAborting_act {w : Worker} (wd : String) (halted : Bool) {a : Act} (ha : a ≠ .abort)
    (h : w.point.isAborting = false) : (w.act wd halted a).worker.point.isAborting = false := by
  cases a with
  | abort => exact absurd rfl ha
  | begin =>
      simp only [act, begin]
      split
      · rfl
      · split
        · rfl
        · exact isAborting_nextService ..
  | served reply =>
      rw [act]
      rcases w.served_cases wd halted reply with ⟨_, he⟩ | ⟨up, r, rest, halt, hpt, hcases⟩
      · rw [he]
        exact h
      · rcases hcases with ⟨_, he⟩ | ⟨_, _, he⟩ | ⟨f, _, _, he⟩ | ⟨o, _, _, _, _, he⟩
        · rw [he]
          exact isAborting_unwind ..
        · rw [he]
          exact isAborting_nextService ..
        · rw [he]
          rfl
        · rw [he]
          exact isAborting_unwind ..
  | ran reply =>
      rw [act]
      rcases w.ran_cases wd halted reply with
        ⟨_, he⟩ | ⟨up, r, rest, halt, _, ⟨rs, o, ms, he, _⟩ | ⟨rs, output, _, he⟩⟩
      · rw [he]
        exact h
      · rw [he]
        exact isAborting_unwind ..
      · rw [he]
        exact isAborting_nextStep ..
  | stopped reply =>
      rw [act]
      rcases w.stopped_cases reply with
        ⟨_, he⟩ | ⟨service, half, rest, o, _, ⟨_, he⟩ | ⟨_, he⟩⟩
      · rw [he]
        exact h
      · rw [he]
        exact isAborting_unwind ..
      · rw [he]
        exact isAborting_unwind ..
  | interrupt =>
      simp only [act, interrupt]
      split
      · rfl
      · rfl
      · exact h

/-- Without an abort, and without a stop that is called off, nothing is lost. -/
theorem loses_eq_nil {w : Worker} {a : Act} (habort : a ≠ .abort) (hdropped : a ≠ .stopped .dropped)
    (h : w.point.isAborting = false) : w.loses a = [] := by
  cases a with
  | served reply =>
      rcases w.served_cases "" false reply with ⟨hne, _⟩ | ⟨up, r, rest, halt, hpt, _⟩
      · exact (gains_served_of_ne hne reply).2
      · rw [hpt] at h
        cases reply <;> simp only [loses, hpt] <;> split <;> simp_all [Point.isAborting]
  | stopped reply =>
      cases reply with
      | dropped => exact absurd rfl hdropped
      | stopped => rfl
      | raised f => rfl
  | abort => exact absurd rfl habort
  | begin => rfl
  | ran reply => rfl
  | interrupt => rfl

end Worker

end Conveyor
