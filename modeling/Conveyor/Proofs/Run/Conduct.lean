/-
**The calls of an instance come in order, whatever happens beside it.**

The log tells what an instance asked for, and the events tell what came of it.  Together they show
the same order for every instance of every run: services are started, steps are run, and services
are stopped, and a failure or a call-off only cuts the row short.

Main definitions:

* `Conveyor.Run.conductIn` — the conduct of an instance while events happen.

Main results:

* `Conveyor.Run.exists_turn_of_actOn` — the turn that an event makes a worker take, and with what;
* `Conveyor.Run.conforms_after` — every event leaves a conduct that fits where the worker stands;
* `Conveyor.Run.keepsOrder_of_afterAll` — **the calls of every instance come in order**.
-/

import Conveyor.Proofs.Run.AtWork
import Conveyor.Proofs.Run.Confluence
import Conveyor.Proofs.Run.Step
import Conveyor.Proofs.Run.Services
import Conveyor.Proofs.Worker.Conduct

set_option autoImplicit false

namespace Conveyor

namespace Run

/-! ### The turn that an event makes a worker take -/

/-- A worker makes a turn with the directory of the run, and knows whether it was cancelled. -/
def TurnsIn (r r' : Run) (t : Ticket) (a : Act) (s : OpenStage) (w : Worker) : Prop :=
  r.worker? t = some (s, w) ∧ (a = .begin → w.point = .queued) ∧
    r'.standing t =
      some ((w.act r.config.workingDir r.cancelRequested a).worker.point, w.inst.planned) ∧
    r'.notesFor t = r.notesFor t ++ (w.act r.config.workingDir r.cancelRequested a).notes

/-- The turn that an event makes a worker take. -/
theorem exists_turn_of_actOn {r r' : Run} {ev : Event} {t : Ticket} {a : Act} (h : r.Sound)
    (hr : r.after ev = some r') (hact : r.actOn t ev = some a) (hturn : Turns r r' t a) :
    ∃ s w, TurnsIn r r' t a s w := by
  -- calling off depends on neither the directory nor the cancel
  rcases cases_of_actOn hact with rfl | ⟨k, _, rfl⟩ | ⟨reply, rfl, rfl⟩ | ⟨rfl, rfl, hfront⟩
  · obtain ⟨s, w, wd, halted, hw, hb, hstanding, hnotes⟩ := hturn
    exact ⟨s, w, hw, hb, hstanding, hnotes⟩
  · obtain ⟨s, w, wd, halted, hw, hb, hstanding, hnotes⟩ := hturn
    exact ⟨s, w, hw, hb, hstanding, hnotes⟩
  · obtain ⟨hawaits, rfl⟩ := answered_of_after hr
    obtain ⟨s, w, hw, _, hp⟩ := exists_of_awaits hawaits
    have hplanned : (w.act r.config.workingDir r.cancelRequested reply.act).worker.inst.planned =
        w.inst.planned := (Worker.carries_act (worker_sound h hw) hp reply.act_ne_begin).planned
    rw [answered_eq]
    exact ⟨s, w, hw, fun hb => absurd hb reply.act_ne_begin,
      moved_turn h hw (Point.live_of_holdsSlot hp).2 hplanned⟩
  · obtain ⟨u, p, s, w, hp, hw, hpt, _, rfl⟩ := exists_of_admit? h hr
    obtain ⟨_, rest, hwaiting, _⟩ := Pool.admit?_eq_some_iff.1 hp
    obtain rfl : u = t := by
      rw [hwaiting, List.head?_cons] at hfront
      exact Option.some.inj hfront
    have hplanned := (Worker.sound_begin r.config.workingDir r.cancelRequested
      (worker_sound h hw) hpt).2.2.planned
    have hput := standing_put h hw hplanned r.config.failFast u
    rw [if_pos rfl, Worker.standing, hplanned] at hput
    rw [turn_eq (r := { r with pool := p }) hw (by rw [hpt]; rfl) rfl]
    exact ⟨s, w, hw, fun _ => hpt, hput, notesFor_append_self r u _⟩

/-! ### Conduct -/

/-- The conduct of the worker of a ticket after an event. -/
def conductAfter (r : Run) (t : Ticket) (ev : Event) (c : Conduct) : Conduct :=
  match r.worker? t, r.actOn t ev with
  | some (_, w), some a => w.conductAfter r.config.workingDir r.cancelRequested a c
  | _, _ => c

/-- The conduct of the worker of a ticket after events. -/
def conductIn (t : Ticket) : Run → List Event → Conduct → Conduct
  | _, [], c => c
  | r, ev :: evs, c =>
    (r.after ev).elim (r.conductAfter t ev c) (conductIn t · evs (r.conductAfter t ev c))

theorem conductIn_cons {t : Ticket} {r q : Run} {ev : Event} (h : r.after ev = some q)
    (evs : List Event) (c : Conduct) :
    conductIn t r (ev :: evs) c = conductIn t q evs (r.conductAfter t ev c) := by
  rw [conductIn, h]
  rfl

theorem conductAfter_of_none {r : Run} {t : Ticket} {ev : Event} {c : Conduct}
    (h : r.standing t = none ∨ r.actOn t ev = none) : r.conductAfter t ev c = c := by
  unfold conductAfter
  rcases h with h | h
  · rw [standing_eq_none_iff.1 h]
  · rw [h]
    cases r.worker? t <;> rfl

theorem conductAfter_of_act {r : Run} {t : Ticket} {ev : Event} {s : OpenStage} {w : Worker}
    {a : Act} {c : Conduct} (hw : r.worker? t = some (s, w)) (ha : r.actOn t ev = some a) :
    r.conductAfter t ev c = w.conductAfter r.config.workingDir r.cancelRequested a c := by
  simp [conductAfter, hw, ha]

/-- The calls of the conduct are those of the log. -/
theorem calls_conductAfter {r r' : Run} {ev : Event} (h : r.Sound) (hr : r.after ev = some r')
    {t : Ticket} {c : Conduct} (hc : c.calls = r.callsFor t) :
    (r.conductAfter t ev c).calls = r'.callsFor t := by
  cases concerns_after h hr t with
  | rests hact hsame =>
      rw [conductAfter_of_none hact, hc, callsFor, callsFor, hsame.notes]
  | acts a hact hturn =>
      obtain ⟨s, w, hw, _, _, hnotes⟩ := exists_turn_of_actOn h hr hact hturn
      rw [conductAfter_of_act hw hact, callsFor, hnotes, List.filterMap_append]
      exact congrArg (· ++ _) hc
  | closes s w hact _ _ _ hnotes _ =>
      rw [conductAfter_of_none (.inr hact), hc, callsFor, callsFor, hnotes]
  | opens i hstanding _ hnotes _ =>
      rw [conductAfter_of_none (.inl hstanding), hc, callsFor, callsFor, hnotes]

theorem calls_conductIn {r r' : Run} {evs : List Event} (h : r.Sound)
    (hr : r.afterAll evs = some r') {t : Ticket} {c : Conduct} (hc : c.calls = r.callsFor t) :
    (conductIn t r evs c).calls = r'.callsFor t := by
  induction evs generalizing r c with
  | nil =>
      obtain rfl := Option.some.inj hr
      exact hc
  | cons ev evs ih =>
      obtain ⟨q, hq, hrest⟩ := afterAll_cons_eq_some.1 hr
      rw [conductIn_cons hq]
      exact ih (carries_after h hq).sound hrest (calls_conductAfter h hq hc)

/-! ### A conduct that fits -/

/-- A conduct fits where the worker of a ticket stands: before its stage is open nothing was done,
and afterwards all is as it should be. -/
def Conforms (r : Run) (t : Ticket) (c : Conduct) : Prop :=
  match r.standing t with
  | some (p, i) => p.Conforms r.config.workingDir i.job i.context c
  | none => c = {} ∨ (r.IsBehind t ∧ ∃ i, r.instance? t = some i ∧
      c.KeepsOrder r.config.workingDir i.job i.context)

theorem conforms_of_some {r : Run} {t : Ticket} {c : Conduct} {p : Point} {i : JobInstance}
    (h : r.standing t = some (p, i)) :
    r.Conforms t c ↔ p.Conforms r.config.workingDir i.job i.context c := by
  rw [Conforms, h]

theorem conforms_of_none {r : Run} {t : Ticket} {c : Conduct} (h : r.standing t = none) :
    r.Conforms t c ↔ c = {} ∨ (r.IsBehind t ∧ ∃ i, r.instance? t = some i ∧
      c.KeepsOrder r.config.workingDir i.job i.context) := by
  rw [Conforms, h]

/-- What was as it should be behind stays so. -/
theorem Carries.keepsOrder {r r' : Run} (h : r.Carries r') {t : Ticket} {c : Conduct}
    (hc : ∃ i, r.instance? t = some i ∧ c.KeepsOrder r.config.workingDir i.job i.context) :
    ∃ i, r'.instance? t = some i ∧ c.KeepsOrder r'.config.workingDir i.job i.context := by
  obtain ⟨i, hi, hkeeps⟩ := hc
  obtain ⟨j, hj, hbecomes⟩ := h.instance? hi
  have hjob : j.planned.job = i.planned.job := by rw [hbecomes.planned]
  have hcontext : j.planned.context = i.planned.context := by rw [hbecomes.planned]
  have hsame : c.KeepsOrder r.config.workingDir j.planned.job j.planned.context := by
    rw [hjob, hcontext]
    exact hkeeps
  exact ⟨j, hj, h.config ▸ hsame⟩

/-- Every event leaves a conduct that fits. -/
theorem conforms_after {r r' : Run} {ev : Event} (h : r.Sound) (hr : r.after ev = some r')
    {t : Ticket} {c : Conduct} (hc : r.Conforms t c) : r'.Conforms t (r.conductAfter t ev c) := by
  have hcarries := carries_after h hr
  cases concerns_after h hr t with
  | rests hact hsame =>
      rw [conductAfter_of_none hact]
      cases hs : r.standing t with
      | some x =>
          rw [conforms_of_some hs] at hc
          rw [conforms_of_some (hsame.standing.trans hs), hcarries.config]
          exact hc
      | none =>
          rw [conforms_of_none (hsame.standing.trans hs)]
          rcases (conforms_of_none hs).1 hc with hnothing | ⟨hbehind, hkeeps⟩
          · exact .inl hnothing
          · exact .inr ⟨hcarries.isBehind hbehind, hcarries.keepsOrder hkeeps⟩
  | acts a hact hturn =>
      obtain ⟨s, w, hw, hb, hstanding, _⟩ := exists_turn_of_actOn h hr hact hturn
      rw [conforms_of_some (standing_eq_some_iff.2 ⟨s, w, hw, rfl⟩)] at hc
      rw [conductAfter_of_act hw hact, conforms_of_some hstanding, hcarries.config]
      exact Worker.conforms_act (worker_sound h hw) hb hc
  | closes s w hact hw hended hstanding _ hbehind =>
      rw [conforms_of_some (standing_eq_some_iff.2 ⟨s, w, hw, rfl⟩)] at hc
      rw [conductAfter_of_none (.inr hact), conforms_of_none hstanding]
      exact .inr ⟨hbehind, hcarries.keepsOrder ⟨w.inst, instance?_of_worker? h hw, hc.keepsOrder⟩⟩
  | opens i hstanding hopen _ hbehind =>
      rw [conductAfter_of_none (.inl hstanding), conforms_of_some hopen]
      exact ((conforms_of_none hstanding).1 hc).resolve_right fun hkept => hbehind hkept.1

theorem conforms_afterAll {r r' : Run} {evs : List Event} (h : r.Sound)
    (hr : r.afterAll evs = some r') {t : Ticket} {c : Conduct} (hc : r.Conforms t c) :
    r'.Conforms t (conductIn t r evs c) := by
  induction evs generalizing r c with
  | nil =>
      obtain rfl := Option.some.inj hr
      exact hc
  | cons ev evs ih =>
      obtain ⟨q, hq, hrest⟩ := afterAll_cons_eq_some.1 hr
      rw [conductIn_cons hq]
      exact ih (carries_after h hq).sound hrest (conforms_after h hq hc)

/-- A conduct that fits keeps the order. -/
theorem Conforms.keepsOrder {r : Run} (h : r.Sound) {t : Ticket} {c : Conduct}
    (hc : r.Conforms t c) {i : JobInstance} (hi : r.instance? t = some i) :
    c.KeepsOrder r.config.workingDir i.job i.context := by
  cases hs : r.standing t with
  | some x =>
      obtain ⟨s, w, hw, rfl⟩ := standing_eq_some_iff.1 hs
      obtain rfl := Option.some.inj ((instance?_of_worker? h hw).symm.trans hi)
      exact ((conforms_of_some hs).1 hc).keepsOrder
  | none =>
      rcases (conforms_of_none hs).1 hc with rfl | ⟨_, j, hj, hkeeps⟩
      · exact Conduct.keepsOrder_nothing
      · obtain rfl := Option.some.inj (hj.symm.trans hi)
        exact hkeeps

/-! ### Every instance -/

/-- Every instance has a ticket. -/
theorem Sound.instance?_of_mem {r : Run} (h : r.Sound) {k : Nat} {e : Execution}
    (he : r.executions[k]? = some e) {s : StageReport} (hs : s ∈ e.stages) {i : JobInstance}
    (hi : i ∈ s.instances) : r.instance? ⟨k, s.name, i.identity⟩ = some i := by
  have hmem := List.mem_of_getElem? he
  have hstage : e.stages.find? (fun x => x.name == s.name) = some s :=
    find?_name_eq_some StageReport.name (h.nodup_stageNames hmem) hs
  have hinst : s.instance? i.identity = some i :=
    find?_name_eq_some JobInstance.identity (h.nodup_identities hmem hs) hi
  rw [instance?, he]
  simp only [Option.bind_eq_bind, Option.bind_some, hstage, hinst]

/-- **The calls of every instance come in order**: starts of its first services, then runs of its
first steps, and then stops, whatever was called off and however calls were answered. -/
theorem keepsOrder_of_afterAll {id : String} {p : Pipeline} {cfg : RunConfig} {evs : List Event}
    {r : Run} (hr : (create id p cfg).afterAll evs = some r) {k : Nat} {e : Execution}
    (he : r.executions[k]? = some e) {s : StageReport} (hs : s ∈ e.stages) {i : JobInstance}
    (hi : i ∈ s.instances) :
    (conductIn ⟨k, s.name, i.identity⟩ (create id p cfg) evs {}).calls =
        r.callsFor ⟨k, s.name, i.identity⟩ ∧
      (conductIn ⟨k, s.name, i.identity⟩ (create id p cfg) evs {}).KeepsOrder cfg.workingDir i.job
        i.context := by
  have hfresh := sound_create id p cfg
  have hcarries := carries_afterAll hfresh hr
  have hnothing : (create id p cfg).Conforms ⟨k, s.name, i.identity⟩ {} :=
    (conforms_of_none (standing_create id p cfg _)).2 (.inl rfl)
  have hkeeps := (conforms_afterAll hfresh hr hnothing).keepsOrder hcarries.sound
    (hcarries.sound.instance?_of_mem he hs hi)
  rw [hcarries.config] at hkeeps
  exact ⟨calls_conductIn hfresh hr rfl, hkeeps⟩

/-- Two services are started, a step is run, and the services are stopped the other way round. -/
theorem keepsOrder_of_twoServices :
    ∃ r : Run, ∃ e s i, (create "r1" twoServices {}).afterAll bothStopped = some r ∧
      r.executions[0]? = some e ∧ s ∈ e.stages ∧ i ∈ s.instances ∧
      r.callsFor ⟨0, s.name, i.identity⟩ =
        [.start { name := "db", image := "postgres" }, .start { name := "cache", image := "redis" },
          .run "work" [] r.config.workingDir, .stop "cache", .stop "db"] ∧
      (conductIn ⟨0, s.name, i.identity⟩ (create "r1" twoServices {}) bothStopped {}).KeepsOrder
        ({} : RunConfig).workingDir i.job i.context := by
  have hrun : ((create "r1" twoServices {}).afterAll bothStopped).any (fun r =>
      r.executions[0]?.any fun e => e.stages.any fun s => s.instances.any fun i =>
        r.callsFor ⟨0, s.name, i.identity⟩ =
          [.start { name := "db", image := "postgres" },
            .start { name := "cache", image := "redis" }, .run "work" [] r.config.workingDir,
            .stop "cache", .stop "db"]) = true := by
    decide +kernel
  obtain ⟨r, hr, hany⟩ := (Option.any_eq_true _ _).1 hrun
  obtain ⟨e, he, hany⟩ := (Option.any_eq_true _ _).1 hany
  obtain ⟨s, hs, hany⟩ := List.any_eq_true.1 hany
  obtain ⟨i, hi, hcalls⟩ := List.any_eq_true.1 hany
  exact ⟨r, e, s, i, hr, he, hs, hi, of_decide_eq_true hcalls,
    (keepsOrder_of_afterAll hr he hs hi).2⟩

end Run

end Conveyor
