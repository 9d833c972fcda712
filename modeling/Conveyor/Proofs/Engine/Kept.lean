/-
**Every event carries the runs of an engine on.**

A run keeps its place among the runs of an engine, and whatever happens to the engine carries it on,
or leaves it alone.

Main definitions:

* `Conveyor.Engine.Carries` — the runs of one engine go on to those of another one.

Main results:

* `Conveyor.Engine.carries_after`, `Conveyor.Engine.carries_afterAll` — **every event carries the
  runs on, and so do all of them together**;
* `Conveyor.Engine.Carries.ending?` — an execution that has ended stays as it ended.
-/

import Conveyor.Proofs.Engine.Event
import Conveyor.Proofs.Run.Kept

set_option autoImplicit false

namespace Conveyor

/-- To go on by itself carries a run on. -/
theorem Run.carries_settle {r : Run} (h : r.Sound) : r.Carries r.settle := by
  obtain ⟨evs, _, hevs⟩ := r.exists_afterAll_settle
  exact carries_afterAll h hevs

/-- To be executed carries a run on. -/
theorem Run.carries_execute {r r' : Run} (h : r.Sound) (hr : r.execute = .ok r') :
    r.Carries r' := by
  obtain ⟨evs, _, hevs⟩ := exists_afterAll_execute hr
  exact carries_afterAll h hevs

namespace Engine

/-- The runs of one engine go on to those of another one, each at its place. -/
def Carries (e e' : Engine) : Prop :=
  ∀ (k : Nat) (r : Run), e.runs[k]? = some r → ∃ r', e'.runs[k]? = some r' ∧ r.Carries r'

variable {d e e' : Engine}

theorem AllReachable.sound (h : e.AllReachable) {k : Nat} {r : Run} (hr : e.runs[k]? = some r) :
    r.Sound :=
  (h r (List.mem_of_getElem? hr)).sound

namespace Carries

theorem refl (h : e.AllReachable) : e.Carries e :=
  fun _ r hr => ⟨r, hr, .refl (h.sound hr)⟩

theorem trans (h : d.Carries e) (h' : e.Carries e') : d.Carries e' := by
  intro k r hr
  obtain ⟨q, hq, hrq⟩ := h k r hr
  obtain ⟨s, hs, hqs⟩ := h' k q hq
  exact ⟨s, hs, hrq.trans hqs⟩

/-- Nothing matters but the runs. -/
theorem congr (h : d.Carries e) (hruns : e'.runs = e.runs) : d.Carries e' := by
  intro k r hr
  rw [hruns]
  exact h k r hr

theorem append (h : e.AllReachable) {rs : List Run} (hruns : e'.runs = e.runs ++ rs) :
    e.Carries e' := by
  intro k r hr
  refine ⟨r, ?_, .refl (h.sound hr)⟩
  rw [hruns, List.getElem?_append_left (List.getElem?_eq_some_iff.1 hr).1]
  exact hr

theorem modifyRun (h : e.AllReachable) (k : Nat) {f : Run → Run}
    (hf : ∀ r, e.runs[k]? = some r → r.Carries (f r)) : e.Carries (e.modifyRun k f) := by
  intro j r hr
  simp only [Engine.modifyRun, List.getElem?_modify, hr, Option.map_eq_map, Option.map_some]
  by_cases hk : k = j
  · subst hk
    exact ⟨f r, by simp, hf r hr⟩
  · exact ⟨r, by simp [hk], .refl (h.sound hr)⟩

/-- An execution that has ended stays as it ended. -/
theorem ending? (h : e.Carries e') {k x : Nat} {ending : Ending}
    (hending : e.ending? k x = some ending) : e'.ending? k x = some ending := by
  obtain ⟨r, hr, hthen⟩ := Option.bind_eq_some_iff.1 hending
  obtain ⟨q, hq, hthen⟩ := Option.bind_eq_some_iff.1 hthen
  obtain ⟨r', hr', hcarries⟩ := h k r hr
  obtain ⟨q', hq', hqq'⟩ := hcarries.executions x q hq
  exact Option.bind_eq_some_iff.2 ⟨r', hr', Option.bind_eq_some_iff.2
    ⟨q', hq', hqq'.ending ending hthen⟩⟩

end Carries

/-! ### Starting -/

/-- To launch adds one run. -/
theorem exists_runs_launch (e : Engine) (id : String) (p : Pipeline)
    (config : Option RunConfig) : ∃ r, (e.launch id p config).1.runs = e.runs ++ [r] := by
  unfold launch
  split
  · exact ⟨_, rfl⟩
  · exact ⟨_, rfl⟩

theorem exists_runs_runFresh (e : Engine) (id : String) (p : Pipeline) (request : Request)
    (config : Option RunConfig) :
    ∃ rs, (e.runFresh id p request config).1.runs = e.runs ++ rs := by
  unfold runFresh
  split
  · exact ⟨[], (List.append_nil _).symm⟩
  · exact ⟨[], (List.append_nil _).symm⟩
  · obtain ⟨r, hr⟩ := e.exists_runs_launch id p config
    exact ⟨[r], hr⟩

theorem exists_runs_runAll (e : Engine) (idOf : Pipeline → String) (request : Request)
    (config : RunConfig) (ps : List Pipeline) :
    ∃ rs, (e.runAll idOf request config ps).1.runs = e.runs ++ rs := by
  induction ps generalizing e with
  | nil => exact ⟨[], (List.append_nil _).symm⟩
  | cons p rest ih =>
      obtain ⟨rs, hrs⟩ := e.exists_runs_runFresh (idOf p) p request (some config)
      obtain ⟨rs', hrs'⟩ := ih (e.runFresh (idOf p) p request (some config)).1
      refine ⟨rs ++ rs', hrs'.trans ?_⟩
      rw [hrs, List.append_assoc]

theorem exists_runs_run (e : Engine) (id : String) (p : Pipeline) (request : Request)
    (config : Option RunConfig) : ∃ rs, (e.run id p request config).1.runs = e.runs ++ rs := by
  unfold run
  split
  · exact ⟨[], (List.append_nil _).symm⟩
  · exact ⟨[], (List.append_nil _).symm⟩
  · split
    · exact ⟨[], (List.append_nil _).symm⟩
    · obtain ⟨r, hr⟩ := e.exists_runs_launch id p config
      exact ⟨[r], hr⟩

theorem exists_runs_dispatch (e : Engine) (idOf : Pipeline → String) (c : Catalog)
    (request : Request) (config : Option RunConfig) :
    ∃ rs, (e.dispatch idOf c request config).1.runs = e.runs ++ rs := by
  unfold dispatch
  dsimp only
  split
  · exact ⟨[], (List.append_nil _).symm⟩
  · exact e.exists_runs_runAll idOf request _ _

/-! ### Events -/

theorem carries_execute (h : e.AllReachable) (k : Nat) : e.Carries (e.execute k).1 := by
  unfold execute
  split
  · exact .refl h
  · rename_i r hr
    split
    · exact .refl h
    · rename_i next hnext
      refine .modifyRun h k fun q hq => ?_
      obtain rfl := Option.some.inj (hr.symm.trans hq)
      exact Run.carries_execute (h.sound hr) hnext

theorem carries_cancel (h : e.AllReachable) (id : String) : e.Carries (e.cancel id).1 := by
  unfold cancel
  split
  · exact .modifyRun h _ fun r hr => Run.carries_cancel (h.sound hr) _
  · exact .refl h

theorem carries_abortTask (h : e.AllReachable) (task : String) :
    e.Carries (e.abortTask task).1 := by
  unfold abortTask
  split
  · exact .refl h
  · rename_i g _
    split
    · exact .refl h
    · -- the executions that the task waits for are aborted one after the other
      have hboth : ∀ cs : List (Nat × Nat), ∀ d : Engine, d.AllReachable → d.Carries
          (cs.foldl (fun e c => e.modifyRun c.1 (·.abort c.2)) d) := by
        intro cs
        induction cs with
        | nil => exact fun d hd => .refl hd
        | cons c rest ih =>
            intro d hd
            have hfirst : d.Carries (d.modifyRun c.1 (·.abort c.2)) :=
              .modifyRun hd c.1 fun r hr => Run.carries_abort (hd.sound hr) c.2
            have hnext : (d.modifyRun c.1 (·.abort c.2)).AllReachable :=
              hd.modifyRun fun r _ hr => hr.after (show r.after (.abort c.2) = some _ from rfl)
            exact hfirst.trans (ih _ hnext)
      exact hboth g.children e h

theorem carries_settle (h : e.AllReachable) : e.Carries e.settle := by
  intro k r hr
  refine ⟨r.settle, ?_, Run.carries_settle (h.sound hr)⟩
  simp [settle, hr]

/-- **Every event carries the runs on.** -/
theorem carries_after (h : e.AllReachable) {ev : Event} (he : e.after ev = some e') :
    e.Carries e' := by
  cases ev with
  | create id p config =>
      obtain rfl := Option.some.inj he
      exact .append h rfl
  | run task id p request config =>
      obtain rfl := Option.some.inj he
      obtain ⟨rs, hrs⟩ := e.exists_runs_run id p request config
      exact .append h hrs
  | dispatch task idOf c request config =>
      obtain rfl := Option.some.inj he
      obtain ⟨rs, hrs⟩ := e.exists_runs_dispatch idOf c request config
      exact .append h hrs
  | execute task k =>
      obtain rfl := Option.some.inj he
      exact (carries_execute h k).congr rfl
  | cancel id =>
      obtain rfl := Option.some.inj he
      exact carries_cancel h id
  | abort task =>
      obtain rfl := Option.some.inj he
      exact carries_abortTask h task
  | within k ev =>
      obtain ⟨r, hr, he⟩ := Option.bind_eq_some_iff.1 he
      obtain ⟨next, hnext, he⟩ := Option.bind_eq_some_iff.1 he
      obtain rfl := Option.some.inj he
      refine .modifyRun h k fun q hq => ?_
      obtain rfl := Option.some.inj (hr.symm.trans hq)
      exact Run.carries_after (h.sound hr) hnext
  | settle =>
      obtain rfl := Option.some.inj he
      exact carries_settle h

/-- All events together carry the runs on. -/
theorem carries_afterAll (h : e.AllReachable) {evs : List Event}
    (he : e.afterAll evs = some e') : e.Carries e' := by
  have hboth : e'.AllReachable ∧ e.Carries e' := by
    refine afterAll_induction (P := fun d => d.AllReachable ∧ e.Carries d) he ⟨h, .refl h⟩ ?_
    rintro d d' ev ⟨hd, hcarries⟩ hev
    exact ⟨hd.after hev, hcarries.trans (carries_after hd hev)⟩
  exact hboth.2

end Engine

end Conveyor
