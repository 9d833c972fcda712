/-
**What a failure calls off, and what it does not.**

When a failure calls off other work, nothing else is started in its stage from the moment on in
which it comes, and nothing at all in the stages after it; but whoever is at work minds its own
calls.  When it does not, and nobody cancels or aborts, everything is started.

Main definitions:

* `Conveyor.Run.StopsAtFailure` — how a failure calls off other work;
* `Conveyor.Run.StartsEverything` — how a run starts all its instances.

Main results:

* `Conveyor.Run.guarded_of_afterAll` — what failures have called off in every execution;
* `Conveyor.Run.exists_unstarted_after` — no event starts an instance beside a failure;
* `Conveyor.Run.failurePolicy_of_afterAll` — **what a failure calls off, and what it does not**.
-/

import Conveyor.Proofs.Run.AtWork
import Conveyor.Proofs.Run.Closed
import Conveyor.Proofs.Run.Step
import Conveyor.Proofs.Run.Unhindered

set_option autoImplicit false

namespace Conveyor

namespace Run

/-- How a failure calls off other work. -/
structure StopsAtFailure (r : Run) : Prop where
  /-- Beside a failure nothing is pending, and what was not started is cancelled for good. -/
  beside : ∀ (k : Nat) (e : Execution), r.executions[k]? = some e →
    ∀ (m x y : Nat) (i j : JobInstance), e.instance? m x = some i → i.status = .failed →
      e.instance? m y = some j → j.status ≠ .pending ∧
        (j.started = false → j.status = .cancelled ∧ ∀ evs r', r.afterAll evs = some r' →
          ∃ e', r'.executions[k]? = some e' ∧ e'.instance? m y = some j)
  /-- What was not started when an event comes is cancelled after it, if something else in the
  stage has failed by then. -/
  atOnce : ∀ ev r', r.after ev = some r' → ∀ (k : Nat) (e e' : Execution),
    r.executions[k]? = some e → r'.executions[k]? = some e' →
      ∀ (m x y : Nat) (i j : JobInstance), x ≠ y → e'.instance? m x = some i →
        i.status = .failed → e.instance? m y = some j → j.started = false →
          ∃ j', e'.instance? m y = some j' ∧ j'.started = false ∧ j'.status = .cancelled
  /-- In the stages after a failure nothing is started, and all is cancelled at the end. -/
  later : ∀ e ∈ r.executions, ∀ (m n x y : Nat) (i j : JobInstance), m < n →
    e.instance? m x = some i → i.status = .failed → e.instance? n y = some j →
      j.started = false ∧ ∀ st, e.ending = some (.returned st) → j.status = .cancelled
  /-- What becomes of the instance of a worker that is at work depends on nothing but what happens
  to this worker. -/
  atWork : ∀ t s w, r.worker? t = some (s, w) → w.point.holdsSlot = true →
    ∀ evs r', r.afterAll evs = some r' →
      r'.instance? t = some (w.actAll r.config.workingDir (actsOn t r evs)).inst

/-- How a run starts all its instances. -/
structure StartsEverything (r : Run) : Prop where
  unaborted : ∀ e ∈ r.executions, e.ending ≠ some .aborted
  waits : ∀ e ∈ r.executions, ∀ i ∈ e.instances, i.started = false → i.status = .pending
  started : ∀ e ∈ r.executions, e.ending ≠ none → ∀ i ∈ e.instances, i.started = true
  /-- As long as an execution has not ended, something can bring the run on. -/
  goesOn : 1 ≤ r.config.concurrencyLimit → ∀ e ∈ r.executions, e.ending = none →
    ∃ ev r', ev.BringsOn ∧ r.after ev = some r'
  /-- It cannot be brought on for ever. -/
  bounded : ∃ n, ∀ evs r', (∀ ev ∈ evs, ev.BringsOn) → r.afterAll evs = some r' →
    evs.length ≤ n

/-! ### What was called off -/

theorem guarded_opening (r : Run) {stages : List StageReport} (h : WellPlanned stages) :
    (r.opening stages).Guarded := by
  have hfresh : Execution.Guarded { future := stages } :=
    ⟨fun _ => rfl, by simp, .nil, by simp, by simp⟩
  unfold opening
  split
  · exact hfresh.cancelPending (sound_of_planned h) _
  · exact hfresh

/-- What failures have called off in every execution. -/
theorem guarded_of_afterAll {r : Run} {id : String} {p : Pipeline} {c : RunConfig}
    {evs : List Event} (hr : (create id p c).afterAll evs = some r) (hff : c.failFast = true) :
    ∀ e ∈ r.executions, e.Guarded := by
  have hboth : ∀ e ∈ r.executions, e.Orderly ∧ e.Guarded := by
    refine execution_induction hr
      (fun q _ hwell => ⟨orderly_opening q hwell, guarded_opening q hwell⟩) ?_
    rintro wd halted e e' hsound ⟨horder, hguarded⟩ hc
    rw [hff] at hc
    exact ⟨hc.orderly hsound horder, hc.guarded hsound horder hguarded⟩
  exact fun e he => (hboth e he).2

/-- Events that give no slot away start nobody. -/
theorem related_started_of_ne_grant {q r : Run} (h : q.Sound) {ev : Event}
    (hr : q.after ev = some r) (hev : ev ≠ .grant) {k : Nat} {e : Execution}
    (he : q.executions[k]? = some e) :
    ∃ e', r.executions[k]? = some e' ∧
      Execution.Related (fun i j => j.started = i.started) e e' :=
  related_of_steps (P := fun _ => True) (R := fun i j => j.started = i.started) (fun _ => rfl)
    (fun _ _ _ hij hjk => hjk.trans hij) (fun _ _ _ _ _ => trivial)
    (fun _ _ _ _ _ hsound hc => hc.started_of_not_begin hsound fun _ ha => ha) h trivial
    (steps_after h hr (fun _ _ hgrant => absurd hgrant hev) fun _ ha => ha) he

/-- No event starts an instance beside a failure, also not the one in which the failure comes. -/
theorem exists_unstarted_after {q r : Run} (h : q.Sound) (hff : q.config.failFast = true)
    {ev : Event} (hr : q.after ev = some r) {k : Nat} {e e' : Execution}
    (he : q.executions[k]? = some e) (he' : r.executions[k]? = some e') (horder : e.Orderly)
    (hguarded : e.Guarded) {m x y : Nat} {i j : JobInstance} (hxy : x ≠ y)
    (hi : e'.instance? m x = some i) (hf : i.status = .failed) (hj : e.instance? m y = some j)
    (hun : j.started = false) : ∃ j', e'.instance? m y = some j' ∧ j'.started = false := by
  have hmem := List.mem_of_getElem? he
  have hsound := h.executions e hmem
  by_cases hev : ev = .grant
  · -- only this one starts an instance, and it may fail at once, but it is the only one
    subst hev
    have hstep : Step (fun _ => True) q r := .grant trivial hr
    rcases (hstep.shift h).of_get he' with hsame | ⟨f, hf', hc⟩ | ⟨hk, _⟩
    · obtain rfl := Option.some.inj (he.symm.trans hsame)
      exact ⟨j, hj, hun⟩
    · obtain rfl := Option.some.inj (he.symm.trans hf')
      rw [hff] at hc
      obtain ⟨j', hj', _⟩ := (hc.carries hsound).related.instance? hj
      refine ⟨j', hj', hc.unstarted_of_failed hsound horder hguarded (fun s hs => ?_) hxy hi hf hj
        hun hj'⟩
      exact h.nodup_identities hmem (List.mem_of_getElem? hs)
    · exact absurd (List.getElem?_eq_some_iff.1 he).1 (by omega)
  · obtain ⟨f, hf', hrelated⟩ := related_started_of_ne_grant h hr hev he
    obtain rfl := Option.some.inj (he'.symm.trans hf')
    obtain ⟨j', hj', hsame⟩ := hrelated.instance? hj
    exact ⟨j', hj', hsame.trans hun⟩

theorem stopsAtFailure_of_afterAll {r : Run} {id : String} {p : Pipeline} {c : RunConfig}
    {evs : List Event} (hr : (create id p c).afterAll evs = some r) (hff : c.failFast = true) :
    r.StopsAtFailure := by
  have hcarries := carries_afterAll (sound_create id p c) hr
  have hsound := hcarries.sound
  have horder := orderly_of_afterAll hr
  have hguarded := guarded_of_afterAll hr hff
  have hconfig : r.config.failFast = true := by
    rw [hcarries.config]
    exact hff
  refine ⟨?_, ?_, ?_, fun t s w hw hp evs' r' hr' => instance?_afterAll hsound hr' hw hp⟩
  · intro k e he m x y i j hi hf hj
    have hmem := List.mem_of_getElem? he
    obtain ⟨hne, hcancelled⟩ :=
      (hguarded e hmem).same_stage (hsound.executions e hmem) (horder e hmem) hi hf hj
    refine ⟨hne, fun hun => ⟨hcancelled hun, fun evs' r' hr' => ?_⟩⟩
    -- it has ended, so that nothing becomes of it any more
    obtain ⟨e', he', hc⟩ := (carries_afterAll hsound hr').executions k e he
    obtain ⟨j', hj', hbecomes⟩ := hc.related.instance? hj
    exact ⟨e', he', hbecomes.eq_of_cancelled (hcancelled hun) ▸ hj'⟩
  · intro ev r' hr' k e e' he he' m x y i j hxy hi hf hj hun
    have hmem := List.mem_of_getElem? he
    obtain ⟨j', hj', hun'⟩ := exists_unstarted_after hsound hconfig hr' he he' (horder e hmem)
      (hguarded e hmem) hxy hi hf hj hun
    have hall : (create id p c).afterAll (evs ++ [ev]) = some r' := by
      rw [afterAll_append hr, afterAll_cons_eq_some]
      exact ⟨r', hr', rfl⟩
    have hmem' := List.mem_of_getElem? he'
    have hsound' := (carries_after hsound hr').sound.executions e' hmem'
    exact ⟨j', hj', hun', ((guarded_of_afterAll hall hff e' hmem').same_stage hsound'
      (orderly_of_afterAll hall e' hmem') hi hf hj').2 hun'⟩
  · intro e he m n x y i j hmn hi hf hj
    have hun := (hguarded e he).later_stage (horder e he) hi hf hmn hj
    refine ⟨hun, fun st hst => ?_⟩
    have hin := Execution.mem_instances_iff.2 ⟨n, y, hj⟩
    have hended := (hsound.executions e he).isTerminal_of_returned hst j hin
    exact (((horder e he).traced j hin).unstarted hun).resolve_left
      (JobInstance.ne_pending_of_isTerminal hended)

/-! ### What was not -/

theorem startsEverything_of_afterAll {r : Run} {id : String} {p : Pipeline} {c : RunConfig}
    {evs : List Event} (hr : (create id p c).afterAll evs = some r) (hff : c.failFast = false)
    (hevs : ∀ ev ∈ evs, ev.IsHarmless) : r.StartsEverything := by
  have hfresh := sound_create id p c
  have hsound := (carries_afterAll hfresh hr).sound
  have hu := (unhindered_create id p hff).afterAll hfresh hevs hr
  refine ⟨fun e he => (hu.executions e he).ending,
    fun e he => (hu.executions e he).pending_of_unstarted, fun e he hending => ?_,
    fun hlimit e he hending => hu.exists_bringsOn hsound (Reachable.balanced ⟨id, p, c, evs, hr⟩)
      hlimit he hending,
    r.effort, fun evs' r' hevs' hr' => ?_⟩
  · cases hst : e.ending with
    | none => exact absurd hst hending
    | some ending =>
        cases ending with
        | returned st => exact (hu.executions e he).started_of_returned (hsound.executions e he) hst
        | aborted => exact absurd hst (hu.executions e he).ending
  · have hle := hu.length_add_effort_le hsound hevs' hr'
    omega

/-- Three jobs, one step each, and a stage after them. -/
def checksThenRelease : Pipeline :=
  { name := "ci"
    stages := [{ name := "check", jobs :=
      [{ name := "lint", steps := [.run "ruff" []] },
        { name := "test", steps := [.run "pytest" []] },
        { name := "docs", steps := [.run "sphinx" []] }] },
      { name := "release", jobs := [{ name := "upload", steps := [.run "twine" []] }] }] }

end Run

end Conveyor
