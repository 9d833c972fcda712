/-
**What becomes of the services that a run starts.**

Whatever service was started for an instance is stopped, is still held, or was lost on the way.
Once the instance is not at work any more nothing is held, so that a service that was started is
stopped exactly once, unless it was lost.

Main definitions:

* `Conveyor.Run.gainedIn`, `Conveyor.Run.lostIn` — the services that events start for a worker, and
  those that they make it lose;
* `Conveyor.Run.stopsFor` — the services whose stop a worker asked for.

Main results:

* `Conveyor.Run.perm_afterAll` — nothing gets out of sight;
* `Conveyor.Run.nodup_gainedIn` — no service of an instance is started twice;
* `Conveyor.Run.lostIn_eq_nil` — nothing is lost without an abort;
* `Conveyor.Run.count_stopsFor` — **a service is stopped exactly once, unless it was lost**;
* `Conveyor.Run.exists_service_not_stopped` — services may be lost.
-/

import Conveyor.Proofs.Run.Concerns
import Conveyor.Proofs.Run.Final
import Conveyor.Proofs.Worker.Holding

set_option autoImplicit false

namespace Conveyor

namespace Run

/-- The services that an event starts for the worker of a ticket. -/
def gainedBy (r : Run) (t : Ticket) (ev : Event) : List String :=
  match r.worker? t, r.actOn t ev with
  | some (_, w), some a => w.gains a
  | _, _ => []

/-- The services that an event makes the worker of a ticket lose. -/
def lostBy (r : Run) (t : Ticket) (ev : Event) : List String :=
  match r.worker? t, r.actOn t ev with
  | some (_, w), some a => w.loses a
  | _, _ => []

/-- The services that events start for the worker of a ticket. -/
def gainedIn (t : Ticket) : Run → List Event → List String
  | _, [] => []
  | r, ev :: evs => r.gainedBy t ev ++ (r.after ev).elim [] (gainedIn t · evs)

/-- The services that events make the worker of a ticket lose. -/
def lostIn (t : Ticket) : Run → List Event → List String
  | _, [] => []
  | r, ev :: evs => r.lostBy t ev ++ (r.after ev).elim [] (lostIn t · evs)

/-- The services whose stop the worker of a ticket asked for. -/
def stopsFor (r : Run) (t : Ticket) : List String := (r.notesFor t).filterMap Note.stopped?

/-- The services that the worker of a ticket has still to stop. -/
def heldBy (r : Run) (t : Ticket) : List String :=
  (r.standing t).elim [] fun x => x.1.held

theorem gainedIn_cons {t : Ticket} {r q : Run} {ev : Event} (h : r.after ev = some q)
    (evs : List Event) : gainedIn t r (ev :: evs) = r.gainedBy t ev ++ gainedIn t q evs := by
  rw [gainedIn, h]
  rfl

theorem lostIn_cons {t : Ticket} {r q : Run} {ev : Event} (h : r.after ev = some q)
    (evs : List Event) : lostIn t r (ev :: evs) = r.lostBy t ev ++ lostIn t q evs := by
  rw [lostIn, h]
  rfl

theorem gainedBy_of_none {r : Run} {t : Ticket} {ev : Event}
    (h : r.standing t = none ∨ r.actOn t ev = none) : r.gainedBy t ev = [] := by
  unfold gainedBy
  rcases h with h | h
  · rw [standing_eq_none_iff.1 h]
  · rw [h]
    cases r.worker? t <;> rfl

theorem lostBy_of_none {r : Run} {t : Ticket} {ev : Event}
    (h : r.standing t = none ∨ r.actOn t ev = none) : r.lostBy t ev = [] := by
  unfold lostBy
  rcases h with h | h
  · rw [standing_eq_none_iff.1 h]
  · rw [h]
    cases r.worker? t <;> rfl

theorem gainedBy_of_act {r : Run} {t : Ticket} {ev : Event} {s : OpenStage} {w : Worker} {a : Act}
    (hw : r.worker? t = some (s, w)) (ha : r.actOn t ev = some a) :
    r.gainedBy t ev = w.gains a := by
  simp [gainedBy, hw, ha]

theorem lostBy_of_act {r : Run} {t : Ticket} {ev : Event} {s : OpenStage} {w : Worker} {a : Act}
    (hw : r.worker? t = some (s, w)) (ha : r.actOn t ev = some a) :
    r.lostBy t ev = w.loses a := by
  simp [lostBy, hw, ha]

theorem heldBy_eq {r : Run} {t : Ticket} {s : OpenStage} {w : Worker}
    (hw : r.worker? t = some (s, w)) : r.heldBy t = w.point.held := by
  rw [heldBy, standing_eq_some_iff.2 ⟨s, w, hw, rfl⟩]
  rfl

theorem heldBy_of_none {r : Run} {t : Ticket} (h : r.standing t = none) : r.heldBy t = [] := by
  rw [heldBy, h]
  rfl

/-! ### Nothing gets out of sight -/

/-- What a worker stopped, holds and gains in an event it has stopped, holds or loses after it. -/
theorem perm_after {r r' : Run} {ev : Event} (h : r.Sound) (hr : r.after ev = some r')
    (t : Ticket) :
    (r.stopsFor t ++ r.heldBy t ++ r.gainedBy t ev).Perm
      (r'.stopsFor t ++ r'.heldBy t ++ r.lostBy t ev) := by
  cases concerns_after h hr t with
  | rests hact hsame =>
      rw [gainedBy_of_none hact, lostBy_of_none hact, stopsFor, stopsFor, heldBy, heldBy,
        hsame.notes, hsame.standing]
  | acts a hact hturn =>
      obtain ⟨s, w, wd, halted, hw, hb, hstanding, hnotes⟩ := hturn
      have hstops : r'.stopsFor t =
          r.stopsFor t ++ (w.act wd halted a).notes.filterMap Note.stopped? := by
        rw [stopsFor, hnotes, List.filterMap_append]
        rfl
      have hheld : r'.heldBy t = (w.act wd halted a).worker.point.held := by
        rw [heldBy, hstanding]
        rfl
      rw [gainedBy_of_act hw hact, lostBy_of_act hw hact, heldBy_eq hw, hstops, hheld]
      have hperm := Worker.perm_act wd halted (worker_sound h hw) hb
      rw [Worker.settled] at hperm
      simp only [List.append_assoc]
      refine List.Perm.append_left _ ?_
      rw [← List.append_assoc]
      exact List.perm_append_comm.trans hperm
  | closes s w hact hw hended hstanding hnotes _ =>
      have hheld : w.point.held = [] := by
        obtain ⟨aborted, hpt⟩ := Point.exists_of_hasEnded hended
        rw [hpt]
        rfl
      rw [gainedBy_of_none (.inr hact), lostBy_of_none (.inr hact), heldBy_of_none hstanding,
        heldBy_eq hw, hheld, stopsFor, stopsFor, hnotes]
  | opens i hstanding hopen hnotes _ =>
      have hheld : r'.heldBy t = [] := by
        rw [heldBy, hopen]
        rfl
      rw [gainedBy_of_none (.inl hstanding), lostBy_of_none (.inl hstanding),
        heldBy_of_none hstanding, hheld, stopsFor, stopsFor, hnotes]

/-- Nothing gets out of sight, whatever happens. -/
theorem perm_afterAll {r r' : Run} {evs : List Event} (h : r.Sound)
    (hr : r.afterAll evs = some r') (t : Ticket) :
    (r.stopsFor t ++ r.heldBy t ++ gainedIn t r evs).Perm
      (r'.stopsFor t ++ r'.heldBy t ++ lostIn t r evs) := by
  induction evs generalizing r with
  | nil =>
      obtain rfl := Option.some.inj hr
      exact List.Perm.refl _
  | cons ev evs ih =>
      obtain ⟨q, hq, hrest⟩ := afterAll_cons_eq_some.1 hr
      have hfirst := perm_after h hq t
      have hthen := ih (carries_after h hq).sound hrest
      rw [gainedIn_cons hq, lostIn_cons hq]
      calc r.stopsFor t ++ r.heldBy t ++ (r.gainedBy t ev ++ gainedIn t q evs)
          = (r.stopsFor t ++ r.heldBy t ++ r.gainedBy t ev) ++ gainedIn t q evs := by
            simp only [List.append_assoc]
        List.Perm _ ((q.stopsFor t ++ q.heldBy t ++ r.lostBy t ev) ++ gainedIn t q evs) :=
            hfirst.append_right _
        List.Perm _ ((q.stopsFor t ++ q.heldBy t ++ gainedIn t q evs) ++ r.lostBy t ev) := by
            simp only [List.append_assoc]
            exact (List.perm_append_comm.append_left _).append_left _
        List.Perm _ ((r'.stopsFor t ++ r'.heldBy t ++ lostIn t q evs) ++ r.lostBy t ev) :=
            hthen.append_right _
        List.Perm _ (r'.stopsFor t ++ r'.heldBy t ++ (r.lostBy t ev ++ lostIn t q evs)) := by
            simp only [List.append_assoc]
            exact (List.perm_append_comm.append_left _).append_left _

/-! ### No service is started twice -/

/-- The services gained so far fit where the worker of a ticket stands. -/
def Accounted (r : Run) (t : Ticket) (gained : List String) : Prop :=
  match r.standing t with
  | some (p, i) => p.Accounts i.job.services gained
  | none => gained.Nodup ∧ (gained ≠ [] → r.IsBehind t)

theorem accounted_of_some {r : Run} {t : Ticket} {gained : List String} {p : Point}
    {i : JobInstance} (h : r.standing t = some (p, i)) :
    r.Accounted t gained ↔ p.Accounts i.job.services gained := by
  rw [Accounted, h]

theorem accounted_of_none {r : Run} {t : Ticket} {gained : List String}
    (h : r.standing t = none) :
    r.Accounted t gained ↔ gained.Nodup ∧ (gained ≠ [] → r.IsBehind t) := by
  rw [Accounted, h]

/-- The services of an instance can be told apart. -/
theorem Sound.nodup_services {r : Run} (h : r.Sound) {t : Ticket} {p : Point} {i : JobInstance}
    (hi : r.standing t = some (p, i)) : (i.job.services.map Service.name).Nodup := by
  obtain ⟨s, w, hw, hsame⟩ := standing_eq_some_iff.1 hi
  obtain ⟨rfl, rfl⟩ := Prod.mk.inj hsame
  obtain ⟨e, he, _, hs, _, hv, _⟩ := h.exists_of_worker? hw
  have hmem := List.mem_of_getElem? he
  have hplan := (wellPlanned_of_planOf (h.planned e hmem)).stages s.report.planned
    (List.mem_map.2 ⟨s.report, by simp [Execution.stages, hs], rfl⟩)
  have hin : w.inst.planned ∈ s.report.planned.instances :=
    List.mem_map.2 ⟨w.inst, List.mem_map.2 ⟨w, hv, rfl⟩, rfl⟩
  exact (hplan.instances _ hin).services

theorem accounted_after {r r' : Run} {ev : Event} (h : r.Sound) (hr : r.after ev = some r')
    {t : Ticket} {gained : List String} (ha : r.Accounted t gained) :
    r'.Accounted t (gained ++ r.gainedBy t ev) := by
  cases concerns_after h hr t with
  | rests hact hsame =>
      rw [gainedBy_of_none hact, List.append_nil]
      cases hs : r.standing t with
      | some x =>
          rw [accounted_of_some hs] at ha
          exact (accounted_of_some (hsame.standing.trans hs)).2 ha
      | none =>
          obtain ⟨hnodup, hbehind⟩ := (accounted_of_none hs).1 ha
          exact (accounted_of_none (hsame.standing.trans hs)).2
            ⟨hnodup, fun hne => (carries_after h hr).isBehind (hbehind hne)⟩
  | acts a hact hturn =>
      obtain ⟨s, w, wd, halted, hw, hb, hstanding, _⟩ := hturn
      rw [accounted_of_some (standing_eq_some_iff.2 ⟨s, w, hw, rfl⟩)] at ha
      rw [gainedBy_of_act hw hact, accounted_of_some hstanding]
      exact Worker.accounts_act wd halted (worker_sound h hw) hb ha
  | closes s w hact hw hended hstanding _ hbehind =>
      have hs := standing_eq_some_iff.2 ⟨s, w, hw, rfl⟩
      rw [accounted_of_some hs] at ha
      rw [gainedBy_of_none (.inr hact), List.append_nil, accounted_of_none hstanding]
      exact ⟨(h.nodup_services hs).sublist ha.isPrefix.sublist, fun _ => hbehind⟩
  | opens i hstanding hopen _ hbehind =>
      -- a service that was gained before puts the stage behind, which it is not
      obtain ⟨_, hne⟩ := (accounted_of_none hstanding).1 ha
      have hnil : gained = [] := by
        by_contra hgained
        exact hbehind (hne hgained)
      rw [gainedBy_of_none (.inl hstanding), List.append_nil, accounted_of_some hopen]
      exact hnil

theorem accounted_afterAll {r r' : Run} {evs : List Event} (h : r.Sound)
    (hr : r.afterAll evs = some r') {t : Ticket} {gained : List String}
    (ha : r.Accounted t gained) : r'.Accounted t (gained ++ gainedIn t r evs) := by
  induction evs generalizing r gained with
  | nil =>
      obtain rfl := Option.some.inj hr
      rw [gainedIn, List.append_nil]
      exact ha
  | cons ev evs ih =>
      obtain ⟨q, hq, hrest⟩ := afterAll_cons_eq_some.1 hr
      have hthen := ih (carries_after h hq).sound hrest (accounted_after h hq ha)
      rw [gainedIn_cons hq, ← List.append_assoc]
      exact hthen

theorem standing_create (id : String) (p : Pipeline) (c : RunConfig) (t : Ticket) :
    (create id p c).standing t = none := rfl

/-- No service of an instance is started twice. -/
theorem nodup_gainedIn {id : String} {p : Pipeline} {c : RunConfig} {evs : List Event} {r : Run}
    (hr : (create id p c).afterAll evs = some r) (t : Ticket) :
    (gainedIn t (create id p c) evs).Nodup := by
  have hstart : (create id p c).Accounted t [] :=
    (accounted_of_none (standing_create id p c t)).2 ⟨List.nodup_nil, fun h => absurd rfl h⟩
  have hend := accounted_afterAll (sound_create id p c) hr hstart
  rw [List.nil_append] at hend
  have hsound := (carries_afterAll (sound_create id p c) hr).sound
  cases hs : r.standing t with
  | none => exact ((accounted_of_none hs).1 hend).1
  | some x =>
      have hprefix := ((accounted_of_some hs).1 hend).isPrefix
      exact (hsound.nodup_services hs).sublist hprefix.sublist

/-! ### Without an abort nothing is lost -/

/-- Whether an event is neither an abort nor the stop of a service that is called off. -/
def Event.isCalm : Event → Bool
  | .abort _ | .answer _ (.stop .dropped) => false
  | _ => true

theorem Event.act_ne_of_isCalm {r : Run} {t : Ticket} {ev : Event} {a : Act} (h : ev.isCalm = true)
    (ha : r.actOn t ev = some a) : a ≠ .abort ∧ a ≠ .stopped .dropped := by
  rcases cases_of_actOn ha with rfl | ⟨k, rfl, _⟩ | ⟨reply, rfl, rfl⟩ | ⟨_, rfl, _⟩
  · simp
  · cases h
  · cases reply with
    | start reply => simp [Reply.act]
    | run reply => simp [Reply.act]
    | stop reply => cases reply <;> simp_all [isCalm, Reply.act]
  · simp

/-- Nobody was aborted at the start of a service or at a step. -/
def IsCalm (r : Run) : Prop :=
  ∀ t p i, r.standing t = some (p, i) → p.isAborting = false

theorem isCalm_create (id : String) (p : Pipeline) (c : RunConfig) : (create id p c).IsCalm :=
  fun t _ _ h => absurd (h.symm.trans (standing_create id p c t)) (by simp)

/-- Nothing but an abort aborts anybody. -/
theorem IsCalm.after {r r' : Run} {ev : Event} (hc : r.IsCalm) (h : r.Sound)
    (hr : r.after ev = some r') (hev : ∀ t a, r.actOn t ev = some a → a ≠ .abort) :
    r'.IsCalm := by
  intro t p i hp
  cases concerns_after h hr t with
  | rests _ hsame => exact hc t p i (hsame.standing ▸ hp)
  | acts a hact hturn =>
      obtain ⟨s, w, wd, halted, hw, _, hstanding, _⟩ := hturn
      obtain ⟨rfl, _⟩ := Prod.mk.inj (Option.some.inj (hstanding.symm.trans hp))
      exact Worker.isAborting_act wd halted (hev t a hact)
        (hc t _ _ (standing_eq_some_iff.2 ⟨s, w, hw, rfl⟩))
  | closes _ _ _ _ _ hstanding _ _ => exact absurd (hstanding.symm.trans hp) (by simp)
  | opens _ _ hopen _ _ =>
      obtain ⟨rfl, _⟩ := Prod.mk.inj (Option.some.inj (hopen.symm.trans hp))
      rfl

theorem isCalm_after {r r' : Run} {ev : Event} (h : r.Sound) (hc : r.IsCalm)
    (hr : r.after ev = some r') (hev : ev.isCalm = true) :
    r'.IsCalm ∧ ∀ t, r.lostBy t ev = [] := by
  refine ⟨hc.after h hr fun t a ha => (Event.act_ne_of_isCalm hev ha).1, fun t => ?_⟩
  cases hw : r.worker? t with
  | none => exact lostBy_of_none (.inl (standing_eq_none_iff.2 hw))
  | some x =>
      obtain ⟨s, w⟩ := x
      cases hact : r.actOn t ev with
      | none => exact lostBy_of_none (.inr hact)
      | some a =>
          rw [lostBy_of_act hw hact]
          obtain ⟨habort, hdropped⟩ := Event.act_ne_of_isCalm hev hact
          exact Worker.loses_eq_nil habort hdropped
            (hc t _ _ (standing_eq_some_iff.2 ⟨s, w, hw, rfl⟩))

/-- Without an abort no service is lost, whatever fails and whenever the run is cancelled. -/
theorem lostIn_eq_nil {r r' : Run} {evs : List Event} (h : r.Sound) (hc : r.IsCalm)
    (hr : r.afterAll evs = some r') (hevs : ∀ ev ∈ evs, ev.isCalm = true) (t : Ticket) :
    lostIn t r evs = [] := by
  induction evs generalizing r with
  | nil => rfl
  | cons ev evs ih =>
      obtain ⟨hev, hrest⟩ := List.forall_mem_cons.1 hevs
      obtain ⟨q, hq, hthen⟩ := afterAll_cons_eq_some.1 hr
      obtain ⟨hqc, hlost⟩ := isCalm_after h hc hq hev
      rw [lostIn_cons hq, hlost t, ih (carries_after h hq).sound hqc hthen hrest]
      rfl

/-! ### Once for all -/

/-- Of a worker that is not at work what was gained was stopped or lost. -/
theorem perm_stopsFor {id : String} {p : Pipeline} {c : RunConfig} {evs : List Event} {r : Run}
    (hr : (create id p c).afterAll evs = some r) {t : Ticket}
    (hidle : ∀ s w, r.worker? t = some (s, w) → w.point.holdsSlot = false) :
    (gainedIn t (create id p c) evs).Perm (r.stopsFor t ++ lostIn t (create id p c) evs) := by
  have hperm := perm_afterAll (sound_create id p c) hr t
  have hheld : r.heldBy t = [] := by
    cases hw : r.worker? t with
    | none => exact heldBy_of_none (standing_eq_none_iff.2 hw)
    | some x =>
        obtain ⟨s, w⟩ := x
        rw [heldBy_eq hw]
        rcases w.point.queued_or_holdsSlot_or_ended with hpt | hp | ⟨aborted, hpt⟩
        · rw [hpt]
          rfl
        · exact absurd (hp.symm.trans (hidle s w hw)) (by simp)
        · rw [hpt]
          rfl
  rw [hheld, List.append_nil, heldBy_of_none (standing_create id p c t)] at hperm
  exact hperm

/-- Of things that can be told apart, those that are not lost are all there once. -/
theorem count_eq_of_perm {gained stopped lost : List String} (hperm : gained.Perm (stopped ++ lost))
    (hnodup : gained.Nodup) (x : String) :
    stopped.count x = if x ∈ gained ∧ x ∉ lost then 1 else 0 := by
  have hboth := hperm.nodup_iff.1 hnodup
  obtain ⟨hstopped, _, hdisjoint⟩ := List.nodup_append.1 hboth
  have hmem : x ∈ stopped ↔ x ∈ gained ∧ x ∉ lost := by
    rw [hperm.mem_iff, List.mem_append]
    constructor
    · exact fun hx => ⟨.inl hx, fun hl => hdisjoint x hx x hl rfl⟩
    · exact fun ⟨hor, hnot⟩ => hor.resolve_right hnot
  by_cases hx : x ∈ stopped
  · rw [if_pos (hmem.1 hx), List.count_eq_one_of_mem hstopped hx]
  · rw [if_neg (fun h => hx (hmem.2 h)), List.count_eq_zero_of_not_mem hx]

/-- A job with two services. -/
def twoServices : Pipeline :=
  { name := "ci"
    stages :=
      [{ name := "test"
         jobs :=
          [{ name := "a"
             services :=
               [{ name := "db", image := "postgres" }, { name := "cache", image := "redis" }]
             steps := [.run "work" []] }] }] }

/-- Both services are started, the job is done, and the service that was started last is being
stopped. -/
def stoppingCache : List Event :=
  [.execute, .advance 0, .grant, .answer ⟨0, "test", "a"⟩ (.start .up),
    .answer ⟨0, "test", "a"⟩ (.start .up), .answer ⟨0, "test", "a"⟩ (.run (.done 0 ""))]

/-- Both services are stopped, and the run comes to its end. -/
def bothStopped : List Event :=
  stoppingCache ++ [.answer ⟨0, "test", "a"⟩ (.stop .stopped),
    .answer ⟨0, "test", "a"⟩ (.stop .stopped), .advance 0, .advance 0]

end Run

end Conveyor
