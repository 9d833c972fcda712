/-
**What an instance asks for, and in which order.**

An instance first starts services, one after the other, then runs steps, and at last stops the
services whose handles it obtained, the last one first.  Whatever fails or is called off only makes
it leave out what would have come.

Main definitions:

* `Conveyor.Conduct` — the calls of an instance, and what came of them;
* `Conveyor.Conduct.Keeps`, `Conveyor.Conduct.KeepsOrder` — the calls are starts, then steps, then
  stops, as they should be;
* `Conveyor.Worker.conductAfter` — what a turn adds;
* `Conveyor.Point.Conforms` — the conduct so far fits the point that was reached.

Main results:

* `Conveyor.Point.Conforms.keepsOrder` — whatever point was reached, the calls are as they should be;
* `Conveyor.Worker.conforms_act` — **every turn goes on as it should**.
-/

import Mathlib.Data.List.Forall2
import Conveyor.Proofs.Worker.Alone
import Conveyor.Proofs.Worker.Holding
import Conveyor.Proofs.Worker.Truthful

set_option autoImplicit false

namespace Conveyor

/-! ### Values filled in -/

/-- Services with the values of an instance filled in. -/
def Service.Resolved (x : Template.Context) (ss : List Service) (rs : List ResolvedService) :
    Prop :=
  List.Forall₂ (fun s r => s.resolve x = .ok r) ss rs

/-- Steps with the values of an instance filled in, numbered from zero. -/
def Step.Resolved (x : Template.Context) (ss : List Step) (rs : List ResolvedStep) : Prop :=
  List.Forall₂ (fun s r => s.1.resolve x s.2 = .ok r) ss.zipIdx rs

theorem Service.Resolved.append {x : Template.Context} {ss : List Service}
    {rs : List ResolvedService} (h : Resolved x ss rs) {s : Service} {r : ResolvedService}
    (hr : s.resolve x = .ok r) : Resolved x (ss ++ [s]) (rs ++ [r]) :=
  List.rel_append h (.cons hr .nil)

theorem Step.Resolved.append {x : Template.Context} {ss : List Step} {rs : List ResolvedStep}
    (h : Resolved x ss rs) {s : Step} {r : ResolvedStep}
    (hr : s.resolve x ss.length = .ok r) : Resolved x (ss ++ [s]) (rs ++ [r]) := by
  have hlast : (ss ++ [s]).zipIdx = ss.zipIdx ++ [(s, ss.length)] := by
    simp [List.zipIdx_append]
  rw [Resolved, hlast]
  exact List.rel_append h (.cons hr .nil)

/-- Services keep their names. -/
theorem Service.Resolved.map_name {x : Template.Context} {ss : List Service}
    {rs : List ResolvedService} (h : Resolved x ss rs) :
    rs.map ResolvedService.name = ss.map Service.name := by
  induction h with
  | nil => rfl
  | cons hr _ ih => rw [List.map_cons, List.map_cons, ih, name_of_resolve hr]

/-- Where the placeholders of an instance find their values. -/
def JobInstance.context (i : JobInstance) : Template.Context := Worker.context { inst := i }

/-- The call that runs a step. -/
def ResolvedStep.call (wd : String) (r : ResolvedStep) : Call := .run r.command r.args wd

/-! ### Conduct -/

/-- The calls of an instance, and what came of them. -/
structure Conduct where
  calls : List Call := []
  /-- The services that were started, in the order of the answers. -/
  started : List String := []
  /-- The services whose handles were obtained, also if they started only halfway. -/
  obtained : List String := []
  /-- The steps that exited with status 0. -/
  passed : List ResolvedStep := []

namespace Conduct

/-- More calls are made. -/
def made (c : Conduct) (calls : List Call) : Conduct := { c with calls := c.calls ++ calls }

@[simp] theorem made_nil (c : Conduct) : c.made [] = c := by
  simp [made]

/-- The conduct of an instance all of whose calls went well so far. -/
def smooth (wd : String) (starts : List ResolvedService) (runs : List ResolvedStep) : Conduct where
  calls := starts.map .start ++ runs.map (ResolvedStep.call wd)
  started := starts.map ResolvedService.name
  obtained := starts.map ResolvedService.name
  passed := runs

/-- The calls of an instance are starts, then steps, then stops, as they should be. -/
structure Keeps (c : Conduct) (wd : String) (j : Job) (x : Template.Context)
    (starts : List ResolvedService) (runs : List ResolvedStep) (stops : List String) : Prop where
  calls : c.calls = starts.map .start ++ runs.map (ResolvedStep.call wd) ++ stops.map .stop
  /-- The first services of the job are started, with the values filled in. -/
  starting : ∃ front, front <+: j.services ∧ Service.Resolved x front starts
  /-- The first steps of the job are run, with the values filled in. -/
  running : ∃ front, front <+: j.steps ∧ Step.Resolved x front runs
  /-- A service is started only when the one before it is up. -/
  started : starts.dropLast.map ResolvedService.name <+: c.started ∧
    c.started <+: starts.map ResolvedService.name
  /-- A step is run only when all services are up. -/
  ready : runs ≠ [] → c.started = j.services.map Service.name
  /-- A step is run only when the one before it exited with status 0. -/
  passed : runs.dropLast <+: c.passed ∧ c.passed <+: runs
  obtained : c.obtained <+: starts.map ResolvedService.name
  /-- The services are stopped in the reverse order of their handles. -/
  stops : stops <+: c.obtained.reverse

/-- The calls of an instance come in order. -/
def KeepsOrder (c : Conduct) (wd : String) (j : Job) (x : Template.Context) : Prop :=
  ∃ starts runs stops, c.Keeps wd j x starts runs stops

variable {c : Conduct} {wd : String} {j : Job} {x : Template.Context}
  {starts : List ResolvedService} {runs : List ResolvedStep} {stops : List String}

/-- One more service is stopped. -/
theorem Keeps.stop (h : c.Keeps wd j x starts runs stops) {name : String} {rest : List String}
    (hrest : c.obtained.reverse = stops ++ name :: rest) :
    (c.made [.stop name]).Keeps wd j x starts runs (stops ++ [name]) where
  calls := by
    rw [made, h.calls, List.map_append, ← List.append_assoc]
    rfl
  starting := h.starting
  running := h.running
  started := h.started
  ready := h.ready
  passed := h.passed
  obtained := h.obtained
  stops := ⟨rest, by rw [made, hrest, List.append_assoc]; rfl⟩

/-- All calls went well so far, and nothing was stopped. -/
theorem keeps_smooth {services : List Service} {steps : List Step}
    (hservices : services <+: j.services) (hstarts : Service.Resolved x services starts)
    (hsteps : steps <+: j.steps) (hruns : Step.Resolved x steps runs)
    (hready : runs ≠ [] → services = j.services) :
    (smooth wd starts runs).Keeps wd j x starts runs [] where
  calls := (List.append_nil _).symm
  starting := ⟨services, hservices, hstarts⟩
  running := ⟨steps, hsteps, hruns⟩
  started := ⟨(List.dropLast_prefix starts).map _, List.prefix_refl _⟩
  ready hne := by rw [smooth, hstarts.map_name, hready hne]
  passed := ⟨List.dropLast_prefix runs, List.prefix_refl _⟩
  obtained := List.prefix_refl _
  stops := List.nil_prefix

/-- Nothing was done yet. -/
theorem keepsOrder_nothing : KeepsOrder {} wd j x :=
  ⟨[], [], [], keeps_smooth List.nil_prefix .nil List.nil_prefix .nil fun hne => absurd rfl hne⟩

/-- The last service was started, and the answer to it may have come. -/
theorem keeps_start (wd : String) {front : List Service} {before : List ResolvedService}
    {s : Service} {rest : List Service} {r : ResolvedService} {up got : List String}
    (hservices : j.services = front ++ s :: rest) (hbefore : Service.Resolved x front before)
    (hr : s.resolve x = .ok r) (hup : up <+: [r.name]) (hgot : got <+: [r.name]) :
    Keeps { calls := (before ++ [r]).map .start
            started := before.map ResolvedService.name ++ up
            obtained := before.map ResolvedService.name ++ got } wd j x (before ++ [r]) [] [] := by
  have hnames : (before ++ [r]).map ResolvedService.name =
      before.map ResolvedService.name ++ [r.name] := by
    simp
  refine ⟨by simp, ⟨front ++ [s], ⟨rest, by simp [hservices]⟩, hbefore.append hr⟩,
    ⟨[], List.nil_prefix, .nil⟩, ⟨?_, ?_⟩, fun hne => absurd rfl hne, ⟨List.nil_prefix, ?_⟩, ?_,
    List.nil_prefix⟩
  · rw [List.dropLast_concat]
    exact List.prefix_append _ _
  · rw [hnames]
    exact (List.prefix_append_right_inj _).2 hup
  · exact List.prefix_refl _
  · rw [hnames]
    exact (List.prefix_append_right_inj _).2 hgot

/-- The last step was run, and the answer to it may have come. -/
theorem keeps_run (wd : String) {front : List Step} {before : List ResolvedStep} {s : Step}
    {rest : List Step} {r : ResolvedStep} {ok : List ResolvedStep}
    (hstarts : Service.Resolved x j.services starts)
    (hsteps : j.steps = front ++ s :: rest) (hbefore : Step.Resolved x front before)
    (hr : s.resolve x front.length = .ok r) (hok : ok <+: [r]) :
    Keeps { smooth wd starts (before ++ [r]) with passed := before ++ ok } wd j x starts
      (before ++ [r]) [] := by
  have hsmooth : (smooth wd starts (before ++ [r])).Keeps wd j x starts (before ++ [r]) [] :=
    keeps_smooth (List.prefix_refl _) hstarts ⟨rest, by simp [hsteps]⟩ (hbefore.append hr)
      fun _ => rfl
  refine ⟨hsmooth.calls, hsmooth.starting, hsmooth.running, hsmooth.started, hsmooth.ready,
    ⟨?_, ?_⟩, hsmooth.obtained, hsmooth.stops⟩
  · rw [List.dropLast_concat]
    exact List.prefix_append _ _
  · exact (List.prefix_append_right_inj _).2 hok

end Conduct

/-- The conduct so far fits the point that was reached. -/
def Point.Conforms (wd : String) (j : Job) (x : Template.Context) (c : Conduct) : Point → Prop
  | .queued => c = {}
  | .starting up r rest _ => ∃ (front : List Service) (before : List ResolvedService) (s : Service),
      j.services = front ++ s :: rest ∧ Service.Resolved x front before ∧ s.resolve x = .ok r ∧
        up = (before.map ResolvedService.name).reverse ∧
          c = (Conduct.smooth wd before []).made [.start r]
  | .running up r rest _ => ∃ (starts : List ResolvedService) (front : List Step)
      (before : List ResolvedStep) (s : Step), Service.Resolved x j.services starts ∧
        j.steps = front ++ s :: rest ∧ Step.Resolved x front before ∧
          s.resolve x front.length = .ok r ∧ up = (starts.map ResolvedService.name).reverse ∧
            c = (Conduct.smooth wd starts before).made [r.call wd]
  | .stopping service _ rest _ => ∃ starts runs stops,
      c.Keeps wd j x starts runs (stops ++ [service]) ∧
        c.obtained.reverse = (stops ++ [service]) ++ rest
  | .ended _ => c.KeepsOrder wd j x

/-- Whatever point was reached, the calls are as they should be. -/
theorem Point.Conforms.keepsOrder {wd : String} {j : Job} {x : Template.Context} {c : Conduct}
    {p : Point} (h : p.Conforms wd j x c) : c.KeepsOrder wd j x := by
  cases p with
  | queued =>
      obtain rfl : c = {} := h
      exact Conduct.keepsOrder_nothing
  | starting up r rest halt =>
      obtain ⟨front, before, s, hservices, hbefore, hr, _, rfl⟩ := h
      have hkeeps := Conduct.keeps_start wd hservices hbefore hr List.nil_prefix List.nil_prefix
      exact ⟨before ++ [r], [], [], by simpa [Conduct.made, Conduct.smooth] using hkeeps⟩
  | running up r rest halt =>
      obtain ⟨starts, front, before, s, hstarts, hsteps, hbefore, hr, _, rfl⟩ := h
      have hkeeps := Conduct.keeps_run wd hstarts hsteps hbefore hr List.nil_prefix
      exact ⟨starts, before ++ [r], [], by simpa [Conduct.made, Conduct.smooth] using hkeeps⟩
  | stopping service half rest o =>
      obtain ⟨starts, runs, stops, hkeeps, _⟩ := h
      exact ⟨starts, runs, stops ++ [service], hkeeps⟩
  | ended aborted => exact h

/-- The calls that a turn makes. -/
def Turn.calls (t : Turn) : List Call := t.notes.filterMap Note.call?

namespace Worker

/-- The services that an answer reports to be up. -/
def startsUp (w : Worker) : Act → List String
  | .served .up =>
    match w.point with
    | .starting _ r _ _ => [r.name]
    | _ => []
  | _ => []

/-- The services whose handles are obtained by an answer.  After an abort the answer does not
count. -/
def obtains (w : Worker) : Act → List String
  | .served .up | .served (.half _) =>
    match w.point with
    | .starting _ r _ halt => if halt = some .abort then [] else [r.name]
    | _ => []
  | _ => []

/-- The steps that exited with status 0 according to an answer. -/
def passes (w : Worker) : Act → List ResolvedStep
  | .ran (.done status _) =>
    match w.point with
    | .running _ r _ _ => if status = 0 then [r] else []
    | _ => []
  | _ => []

/-- The conduct after an answer, before what follows from it. -/
def heard (w : Worker) (a : Act) (c : Conduct) : Conduct where
  calls := c.calls
  started := c.started ++ w.startsUp a
  obtained := c.obtained ++ w.obtains a
  passed := c.passed ++ w.passes a

/-- The conduct after a turn. -/
def conductAfter (w : Worker) (wd : String) (halted : Bool) (a : Act) (c : Conduct) : Conduct :=
  (w.heard a c).made (w.act wd halted a).calls

section
variable {w : Worker} {wd : String} {halted : Bool} {j : Job} {x : Template.Context} {c : Conduct}
  {starts : List ResolvedService} {runs : List ResolvedStep} {stops : List String}

/-! ### Coming to the end -/

theorem calls_conclude (w : Worker) (o : Outcome) : (w.conclude o).calls = [] := by
  cases o <;> rfl

theorem conforms_conclude {o : Outcome} (h : c.Keeps wd j x starts runs stops) :
    (w.conclude o).worker.point.Conforms wd j x (c.made (w.conclude o).calls) := by
  rw [calls_conclude, Conduct.made_nil]
  cases o <;> exact ⟨starts, runs, stops, h⟩

theorem conforms_unwind {up : List String} {o : Outcome} (h : c.Keeps wd j x starts runs stops)
    (hup : c.obtained.reverse = stops ++ up) :
    (w.unwind up o).worker.point.Conforms wd j x (c.made (w.unwind up o).calls) := by
  cases up with
  | nil => exact conforms_conclude h
  | cons name rest =>
      exact ⟨starts, runs, stops, h.stop hup, hup.trans (List.append_assoc stops [name] rest).symm⟩

/-! ### Going on -/

/-- The steps before have all exited with status 0. -/
theorem conforms_nextStep {up : List String} {n : Int} {front steps : List Step}
    (hx : w.context = x) (hstarts : Service.Resolved x j.services starts)
    (hsteps : j.steps = front ++ steps) (hruns : Step.Resolved x front runs)
    (hn : n = front.length) (hup : up = (starts.map ResolvedService.name).reverse) :
    (w.nextStep wd halted up n steps).worker.point.Conforms wd j x
      ((Conduct.smooth wd starts runs).made (w.nextStep wd halted up n steps).calls) := by
  rcases w.nextStep_cases wd halted up n steps with ⟨o, _, he⟩ | ⟨s, rest, r, rfl, _, hr, he⟩
  · have hkeeps : (Conduct.smooth wd starts runs).Keeps wd j x starts runs [] :=
      Conduct.keeps_smooth (List.prefix_refl _) hstarts ⟨steps, hsteps.symm⟩ hruns fun _ => rfl
    rw [he]
    exact conforms_unwind hkeeps hup.symm
  · rw [hx, hn] at hr
    rw [he]
    exact ⟨starts, front, runs, s, hstarts, hsteps, hruns, hr, hup, rfl⟩

/-- The services before are all up. -/
theorem conforms_nextService {up : List String} {front services : List Service}
    (hj : w.inst.job = j) (hx : w.context = x) (hs : w.inst.status = .startingServices)
    (hservices : j.services = front ++ services) (hstarts : Service.Resolved x front starts)
    (hup : up = (starts.map ResolvedService.name).reverse) :
    (w.nextService wd halted up services).worker.point.Conforms wd j x
      ((Conduct.smooth wd starts []).made (w.nextService wd halted up services).calls) := by
  rcases w.nextService_cases wd halted up services with
    ⟨rfl, he⟩ | ⟨o, _, _, he⟩ | ⟨s, rest, r, rfl, _, hr, he⟩
  · have hall : Service.Resolved x j.services starts := by
      rw [hservices, List.append_nil]
      exact hstarts
    have hsteps : j.steps = [] ++ w.inst.job.steps := by
      rw [← hj]
      rfl
    rw [he, move_of_mayBecome (by rw [hs]; rfl)]
    exact conforms_nextStep (w := { w with inst := w.inst.enter .runningSteps }) hx hall hsteps
      .nil rfl hup
  · have hkeeps : (Conduct.smooth wd starts []).Keeps wd j x starts [] [] :=
      Conduct.keeps_smooth ⟨services, hservices.symm⟩ hstarts List.nil_prefix .nil
        fun hne => absurd rfl hne
    rw [he]
    exact conforms_unwind hkeeps hup.symm
  · rw [hx] at hr
    rw [he]
    exact ⟨front, starts, s, hservices, hstarts, hr, hup, rfl⟩

theorem conforms_begin (hw : w.Sound) (hp : w.point = .queued) :
    (w.begin wd halted).worker.point.Conforms wd w.inst.job w.context
      (Conduct.made {} (w.begin wd halted).calls) := by
  rcases begin_cases wd halted hw hp with ⟨_, he⟩ | ⟨_, _, he⟩ | ⟨_, _, he⟩
  · rw [he]
    exact Conduct.keepsOrder_nothing
  · rw [he]
    exact Conduct.keepsOrder_nothing
  · have hservices : w.inst.job.services = [] ++ w.inst.job.services := rfl
    rw [he]
    exact conforms_nextService (w := { w with inst := w.inst.enter .startingServices }) rfl rfl rfl
      hservices .nil rfl

/-! ### Answers -/

/-- Nothing is heard but the answer to a call. -/
theorem heard_eq_self {a : Act} (hup : w.startsUp a = []) (hgot : w.obtains a = [])
    (hok : w.passes a = []) : w.heard a c = c := by
  rw [heard, hup, hgot, hok, List.append_nil, List.append_nil, List.append_nil]

theorem heard_served_of_ne (h : ∀ up r rest halt, w.point ≠ .starting up r rest halt)
    (reply : StartReply) : w.heard (.served reply) c = c := by
  have hnothing : w.startsUp (.served reply) = [] ∧ w.obtains (.served reply) = [] := by
    cases hpt : w.point with
    | starting up r rest halt => exact absurd hpt (h up r rest halt)
    | queued => cases reply <;> simp [startsUp, obtains, hpt]
    | running => cases reply <;> simp [startsUp, obtains, hpt]
    | stopping => cases reply <;> simp [startsUp, obtains, hpt]
    | ended => cases reply <;> simp [startsUp, obtains, hpt]
  exact heard_eq_self hnothing.1 hnothing.2 rfl

theorem heard_ran_of_ne (h : ∀ up r rest halt, w.point ≠ .running up r rest halt)
    (reply : RunReply) : w.heard (.ran reply) c = c := by
  refine heard_eq_self rfl rfl ?_
  cases hpt : w.point with
  | running up r rest halt => exact absurd hpt (h up r rest halt)
  | queued => cases reply <;> simp [passes, hpt]
  | starting => cases reply <;> simp [passes, hpt]
  | stopping => cases reply <;> simp [passes, hpt]
  | ended => cases reply <;> simp [passes, hpt]

/-- What is heard of the start of a service. -/
theorem heard_served (before : List ResolvedService) (r : ResolvedService) (reply : StartReply) :
    w.heard (.served reply) ((Conduct.smooth wd before []).made [.start r]) =
      { calls := (before ++ [r]).map .start
        started := before.map ResolvedService.name ++ w.startsUp (.served reply)
        obtained := before.map ResolvedService.name ++ w.obtains (.served reply) } := by
  simp [heard, Conduct.made, Conduct.smooth, passes]

/-- What is heard of a step. -/
theorem heard_ran (starts : List ResolvedService) (before : List ResolvedStep) (r : ResolvedStep)
    (reply : RunReply) :
    w.heard (.ran reply) ((Conduct.smooth wd starts before).made [r.call wd]) =
      { Conduct.smooth wd starts (before ++ [r]) with
        passed := before ++ w.passes (.ran reply) } := by
  simp [heard, Conduct.made, Conduct.smooth, startsUp, obtains]

theorem conforms_served {reply : StartReply} (hw : w.Sound)
    (h : w.point.Conforms wd w.inst.job w.context c) :
    (w.served wd halted reply).worker.point.Conforms wd w.inst.job w.context
      (w.conductAfter wd halted (.served reply) c) := by
  rw [conductAfter, act]
  rcases w.served_cases wd halted reply with ⟨hne, he⟩ | ⟨up, r, rest, halt, hpt, hcases⟩
  · rw [he, heard_served_of_ne hne reply]
    simpa [Turn.calls] using h
  · have hs : w.inst.status = .startingServices := by simpa [hpt, Point.Fits] using hw.fits
    rw [hpt] at h
    obtain ⟨front, before, s, hservices, hbefore, hr, hup, rfl⟩ := h
    have hstarted : w.startsUp (.served reply) <+: [r.name] := by
      cases reply <;> simp [startsUp, hpt]
    have hobtained : w.obtains (.served reply) <+: [r.name] := by
      by_cases habort : halt = some .abort <;> cases reply <;> simp [obtains, hpt, habort]
    have hkeeps := Conduct.keeps_start wd hservices hbefore hr hstarted hobtained
    -- what was obtained is what is up, unless the answer brings another handle
    have hsame : w.obtains (.served reply) = [] →
        (before.map ResolvedService.name ++ w.obtains (.served reply)).reverse = up := by
      intro hnone
      rw [hnone, List.append_nil, hup]
    have hmore : w.obtains (.served reply) = [r.name] →
        (before.map ResolvedService.name ++ w.obtains (.served reply)).reverse = r.name :: up := by
      intro hone
      rw [hone, List.reverse_append, hup]
      rfl
    rw [heard_served]
    rcases hcases with ⟨habort, he⟩ | ⟨habort, rfl, he⟩ | ⟨f, habort, rfl, he⟩ |
      ⟨o, habort, hreply, _, _, he⟩
    · rw [he]
      exact conforms_unwind hkeeps (hsame (by cases reply <;> simp [obtains, hpt, habort]))
    · have hsplit : w.inst.job.services = (front ++ [s]) ++ rest := by
        simp [hservices]
      have hnames : r.name :: up = ((before ++ [r]).map ResolvedService.name).reverse := by
        simp [hup]
      have hsmooth : (w.nextService wd halted (r.name :: up) rest).worker.point.Conforms wd
          w.inst.job w.context ((Conduct.smooth wd (before ++ [r]) []).made
            (w.nextService wd halted (r.name :: up) rest).calls) :=
        conforms_nextService rfl rfl hs hsplit (hbefore.append hr) hnames
      rw [he]
      simpa [startsUp, obtains, hpt, habort, Conduct.smooth] using hsmooth
    · have hhandle := hmore (by simp [obtains, hpt, habort])
      rw [he]
      exact ⟨_, _, [], hkeeps.stop hhandle, hhandle⟩
    · rw [he]
      refine conforms_unwind hkeeps (hsame ?_)
      rcases hreply with rfl | ⟨f, rfl⟩ <;> rfl

theorem conforms_ran {reply : RunReply} (h : w.point.Conforms wd w.inst.job w.context c) :
    (w.ran wd halted reply).worker.point.Conforms wd w.inst.job w.context
      (w.conductAfter wd halted (.ran reply) c) := by
  rw [conductAfter, act]
  rcases w.ran_cases wd halted reply with ⟨hne, he⟩ | ⟨up, r, rest, halt, hpt, hcases⟩
  · rw [he, heard_ran_of_ne hne reply]
    simpa [Turn.calls] using h
  · rw [hpt] at h
    obtain ⟨starts, front, before, s, hstarts, hsteps, hbefore, hr, hup, rfl⟩ := h
    have hpassed : w.passes (.ran reply) <+: [r] := by
      cases reply with
      | done status output => by_cases hzero : status = 0 <;> simp [passes, hpt, hzero]
      | unreadable f => simp [passes]
      | raised f => simp [passes]
      | dropped => simp [passes]
    have hkeeps := Conduct.keeps_run wd hstarts hsteps hbefore hr hpassed
    rw [heard_ran]
    rcases hcases with ⟨rs, o, ms, he, _⟩ | ⟨rs, output, rfl, he⟩
    · rw [he]
      exact conforms_unwind (w := w.withRecords rs) hkeeps hup.symm
    · have hsplit : w.inst.job.steps = (front ++ [s]) ++ rest := by
        simp [hsteps]
      have hnumber : r.index + 1 = ((front ++ [s]).length : Int) := by
        simp [Step.index_of_resolve hr]
      have hsmooth : ((w.withRecords rs).nextStep wd halted up (r.index + 1)
          rest).worker.point.Conforms wd w.inst.job w.context
            ((Conduct.smooth wd starts (before ++ [r])).made
              ((w.withRecords rs).nextStep wd halted up (r.index + 1) rest).calls) :=
        conforms_nextStep rfl hstarts hsplit (hbefore.append hr) hnumber hup
      have hone : w.passes (.ran (.done 0 output)) = [r] := by
        simp [passes, hpt]
      rw [he, hone]
      exact hsmooth

theorem conforms_stopped {reply : StopReply} (h : w.point.Conforms wd j x c) :
    (w.stopped reply).worker.point.Conforms wd j x (c.made (w.stopped reply).calls) := by
  rcases w.stopped_cases reply with ⟨_, he⟩ | ⟨service, half, rest, o, hpt, hcases⟩
  · rw [he]
    simpa [Turn.calls] using h
  · rw [hpt] at h
    obtain ⟨starts, runs, stops, hkeeps, hrest⟩ := h
    rcases hcases with ⟨_, he⟩ | ⟨_, he⟩
    · rw [he]
      exact conforms_unwind hkeeps hrest
    · rw [he]
      cases half with
      | true => exact conforms_unwind hkeeps hrest
      | false => exact conforms_conclude hkeeps

/-! ### Calling off -/

theorem calls_interrupt (w : Worker) : w.interrupt.calls = [] := by
  unfold interrupt
  split <;> rfl

theorem conforms_interrupt (h : w.point.Conforms wd j x c) :
    w.interrupt.worker.point.Conforms wd j x (c.made w.interrupt.calls) := by
  rw [calls_interrupt, Conduct.made_nil]
  unfold interrupt
  split
  case h_1 up r rest hpt =>
      rw [hpt] at h
      exact h
  case h_2 up r rest hpt =>
      rw [hpt] at h
      exact h
  case h_3 => exact h

/-- Nothing but the stop of a service is followed by calls when it is called off. -/
theorem calls_abort (h : ∀ service half rest o, w.point ≠ .stopping service half rest o) :
    w.abort.calls = [] := by
  cases hpt : w.point with
  | stopping service half rest o => exact absurd hpt (h service half rest o)
  | starting up r rest halt =>
      simp only [abort, hpt]
      cases halt <;> rfl
  | running up r rest halt =>
      simp only [abort, hpt]
      cases halt <;> rfl
  | queued =>
      simp only [abort, hpt]
      rfl
  | ended aborted =>
      simp only [abort, hpt]
      rfl

theorem conforms_abort (h : w.point.Conforms wd j x c) :
    w.abort.worker.point.Conforms wd j x (c.made w.abort.calls) := by
  cases hpt : w.point with
  | stopping service half rest o =>
      rw [hpt] at h
      obtain ⟨starts, runs, stops, hkeeps, hrest⟩ := h
      simp only [abort, hpt]
      cases half with
      | true => exact conforms_unwind hkeeps hrest
      | false => exact conforms_conclude (w := w) (o := .aborted) hkeeps
  | queued =>
      rw [calls_abort (by simp [hpt]), Conduct.made_nil, abort_of_queued hpt]
      exact h.keepsOrder
  | starting up r rest halt =>
      rw [calls_abort (by simp [hpt]), Conduct.made_nil]
      rw [hpt] at h
      simp only [abort, hpt]
      exact h
  | running up r rest halt =>
      rw [calls_abort (by simp [hpt]), Conduct.made_nil]
      rw [hpt] at h
      simp only [abort, hpt]
      exact h
  | ended aborted =>
      rw [calls_abort (by simp [hpt]), Conduct.made_nil]
      rw [hpt] at h
      simp only [abort, hpt]
      exact h

/-- **Every turn goes on as it should.**  Only a worker that waits for a slot is given one. -/
theorem conforms_act {a : Act} (hw : w.Sound) (hb : a = .begin → w.point = .queued)
    (h : w.point.Conforms wd w.inst.job w.context c) :
    (w.act wd halted a).worker.point.Conforms wd w.inst.job w.context
      (w.conductAfter wd halted a c) := by
  have hsilent (hup : w.startsUp a = []) (hgot : w.obtains a = []) (hok : w.passes a = []) :
      w.conductAfter wd halted a c = c.made (w.act wd halted a).calls := by
    rw [conductAfter, heard_eq_self hup hgot hok]
  cases a with
  | begin =>
      rw [hb rfl] at h
      obtain rfl : c = {} := h
      rw [hsilent rfl rfl rfl]
      exact conforms_begin hw (hb rfl)
  | served reply => exact conforms_served hw h
  | ran reply => exact conforms_ran h
  | stopped reply =>
      rw [hsilent rfl rfl rfl]
      exact conforms_stopped h
  | interrupt =>
      rw [hsilent rfl rfl rfl]
      exact conforms_interrupt h
  | abort =>
      rw [hsilent rfl rfl rfl]
      exact conforms_abort h

end

end Worker

end Conveyor
