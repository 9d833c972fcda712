/-
**What may happen to an engine, one thing after the other.**

Runs are created, set off by requests, executed, cancelled and aborted; whatever may happen to one
run may happen to it among others; and from time to time all runs go on as far as they can.

Main definitions:

* `Conveyor.Engine.Event` — what may happen to an engine;
* `Conveyor.Engine.after`, `Conveyor.Engine.afterAll` — the engine after an event, and after many;
* `Conveyor.Engine.Reachable` — the engines that there are.

Main results:

* `Conveyor.Engine.afterAll_induction` — what every event keeps;
* `Conveyor.Engine.Reachable.reachable_of_mem` — **every run of an engine is a run that there is**:
  what is true of every run is true of every run of an engine.
-/

import Conveyor.Engine.Engine
import Conveyor.Proofs.Run.Event

set_option autoImplicit false

namespace Conveyor.Engine

/-- What may happen to an engine. -/
inductive Event where
  /-- A run is created and not started. -/
  | create (id : String) (p : Pipeline) (config : Option RunConfig)
  /-- A task sees whether a request sets off a pipeline, and carries it out. -/
  | run (task id : String) (p : Pipeline) (request : Request) (config : Option RunConfig)
  /-- A task carries out all pipelines of a catalog that a request sets off. -/
  | dispatch (task : String) (idOf : Pipeline → String) (c : Catalog) (request : Request)
      (config : Option RunConfig)
  /-- A task executes a run that was created, or executes a run once more. -/
  | execute (task : String) (k : Nat)
  | cancel (id : String)
  | abort (task : String)
  /-- Something happens to one of the runs. -/
  | within (k : Nat) (ev : Run.Event)
  /-- All runs go on as far as they can. -/
  | settle

/-- The engine with a task for what was begun. -/
def begun (task : String) (x : Engine × Goal) : Engine := x.1.addTask task x.2

/-- The engine after an event, if that may happen. -/
def after (e : Engine) : Event → Option Engine
  | .create id p config => some (e.create id p config)
  | .run task id p request config => some (begun task (e.run id p request config))
  | .dispatch task idOf c request config => some (begun task (e.dispatch idOf c request config))
  | .execute task k => some (begun task (e.execute k))
  | .cancel id => some (e.cancel id).1
  | .abort task => some (e.abortTask task).1
  | .within k ev => do
    let r ← e.runs[k]?
    let next ← r.after ev
    return e.modifyRun k fun _ => next
  | .settle => some e.settle

/-- The engine after events, if they may happen one after the other. -/
def afterAll : Engine → List Event → Option Engine
  | e, [] => some e
  | e, ev :: evs => (e.after ev).bind (afterAll · evs)

/-- The engines that there are. -/
def Reachable (e : Engine) : Prop := ∃ evs, ({} : Engine).afterAll evs = some e

/-- What holds at first and is kept by every event holds of whatever comes after. -/
theorem afterAll_induction {P : Engine → Prop} {e e' : Engine} {evs : List Event}
    (h : e.afterAll evs = some e') (he : P e)
    (hstep : ∀ d d' ev, P d → d.after ev = some d' → P d') : P e' := by
  induction evs generalizing e with
  | nil => exact Option.some.inj h ▸ he
  | cons ev evs ih =>
      obtain ⟨d, hd, hrest⟩ := Option.bind_eq_some_iff.1 h
      exact ih hrest (hstep e d ev he hd)

/-- Whatever may happen to a run may happen to it among others. -/
theorem exists_afterAll_within {e : Engine} {k : Nat} {r r' : Run} (hr : e.runs[k]? = some r)
    {evs : List Run.Event} (h : r.afterAll evs = some r') :
    ∃ e', e.afterAll (evs.map (.within k)) = some e' ∧ e'.runs[k]? = some r' := by
  induction evs generalizing e r with
  | nil => exact ⟨e, rfl, hr.trans h⟩
  | cons ev evs ih =>
      obtain ⟨q, hq, hrest⟩ := Run.afterAll_cons_eq_some.1 h
      have hmoved : (e.modifyRun k fun _ => q).runs[k]? = some q := by
        simp [modifyRun, hr]
      obtain ⟨e', he', hr'⟩ := ih hmoved hrest
      refine ⟨e', ?_, hr'⟩
      simp [afterAll, after, hr, hq, he']

/-! ### The runs of an engine -/

/-- All runs of an engine are runs that there are. -/
def AllReachable (e : Engine) : Prop := ∀ r ∈ e.runs, r.Reachable

theorem reachable_create (id : String) (p : Pipeline) (c : RunConfig) :
    (Run.create id p c).Reachable := ⟨id, p, c, [], rfl⟩

namespace AllReachable

variable {e : Engine}

theorem append (h : e.AllReachable) {r : Run} (hr : r.Reachable) {rs : List Run}
    (hrs : rs = e.runs ++ [r]) : ∀ q ∈ rs, q.Reachable := by
  subst hrs
  intro q hq
  rcases List.mem_append.1 hq with hq | hq
  · exact h q hq
  · exact List.mem_singleton.1 hq ▸ hr

theorem modifyRun (h : e.AllReachable) {k : Nat} {f : Run → Run}
    (hf : ∀ r, e.runs[k]? = some r → r.Reachable → (f r).Reachable) :
    (e.modifyRun k f).AllReachable := by
  intro q hq
  obtain ⟨j, hj⟩ := List.getElem?_of_mem hq
  rw [Engine.modifyRun, List.getElem?_modify] at hj
  obtain ⟨r, hr, rfl⟩ := Option.map_eq_some_iff.1 hj
  have hreach := h r (List.mem_of_getElem? hr)
  by_cases hk : k = j
  · subst hk
    simpa using hf r hr hreach
  · simpa [hk] using hreach

theorem launch (h : e.AllReachable) (id : String) (p : Pipeline) (config : Option RunConfig) :
    (e.launch id p config).1.AllReachable := by
  have hcreate := reachable_create id p (config.getD {})
  unfold Engine.launch
  split
  · exact h.append hcreate rfl
  · rename_i r hr
    exact h.append (hcreate.execute hr) rfl

theorem runFresh (h : e.AllReachable) (id : String) (p : Pipeline) (request : Request)
    (config : Option RunConfig) : (e.runFresh id p request config).1.AllReachable := by
  unfold Engine.runFresh
  split
  · exact h
  · exact h
  · exact h.launch id p config

theorem runAll (h : e.AllReachable) (idOf : Pipeline → String) (request : Request)
    (config : RunConfig) (ps : List Pipeline) :
    (e.runAll idOf request config ps).1.AllReachable := by
  induction ps generalizing e with
  | nil => exact h
  | cons p rest ih => exact ih (h.runFresh (idOf p) p request (some config))

theorem run (h : e.AllReachable) (id : String) (p : Pipeline) (request : Request)
    (config : Option RunConfig) : (e.run id p request config).1.AllReachable := by
  unfold Engine.run
  split
  · exact h
  · exact h
  · split
    · exact h
    · exact h.launch id p config

theorem dispatch (h : e.AllReachable) (idOf : Pipeline → String) (c : Catalog) (request : Request)
    (config : Option RunConfig) : (e.dispatch idOf c request config).1.AllReachable := by
  unfold Engine.dispatch
  dsimp only
  split
  · exact h
  · exact h.runAll idOf request _ _

theorem execute (h : e.AllReachable) (k : Nat) : (e.execute k).1.AllReachable := by
  unfold Engine.execute
  split
  · exact h
  · rename_i r hr
    split
    · exact h
    · rename_i next hnext
      refine h.modifyRun fun q hq hreach => ?_
      obtain rfl := Option.some.inj (hr.symm.trans hq)
      exact hreach.execute hnext

theorem cancel (h : e.AllReachable) (id : String) : (e.cancel id).1.AllReachable := by
  unfold Engine.cancel
  split
  · refine h.modifyRun fun r _ hr => ?_
    have hcancel : r.after (.cancel Fault.cancelText) = some (r.cancel Fault.cancelText) := rfl
    exact hr.after hcancel
  · exact h

theorem abortTask (h : e.AllReachable) (task : String) : (e.abortTask task).1.AllReachable := by
  unfold Engine.abortTask
  split
  · exact h
  · rename_i g _
    split
    · exact h
    · refine List.foldlRecOn g.children _ h fun d hd c _ => hd.modifyRun fun r _ hr => ?_
      have habort : r.after (.abort c.2) = some (r.abort c.2) := rfl
      exact hr.after habort

theorem settle (h : e.AllReachable) : e.settle.AllReachable := by
  intro q hq
  obtain ⟨r, hr, rfl⟩ := List.mem_map.1 hq
  exact (h r hr).settle

/-- Every event leaves runs that there are. -/
theorem after (h : e.AllReachable) {e' : Engine} {ev : Event} (he : e.after ev = some e') :
    e'.AllReachable := by
  cases ev with
  | create id p config =>
      obtain rfl := Option.some.inj he
      exact h.append (reachable_create id p _) rfl
  | run task id p request config =>
      obtain rfl := Option.some.inj he
      exact h.run id p request config
  | dispatch task idOf c request config =>
      obtain rfl := Option.some.inj he
      exact h.dispatch idOf c request config
  | execute task k =>
      obtain rfl := Option.some.inj he
      exact h.execute k
  | cancel id =>
      obtain rfl := Option.some.inj he
      exact h.cancel id
  | abort task =>
      obtain rfl := Option.some.inj he
      exact h.abortTask task
  | within k ev =>
      obtain ⟨r, hr, he⟩ := Option.bind_eq_some_iff.1 he
      obtain ⟨next, hnext, he⟩ := Option.bind_eq_some_iff.1 he
      obtain rfl := Option.some.inj he
      refine h.modifyRun fun q hq hreach => ?_
      obtain rfl := Option.some.inj (hr.symm.trans hq)
      exact hreach.after hnext
  | settle =>
      obtain rfl := Option.some.inj he
      exact h.settle

end AllReachable

/-- **Every run of an engine is a run that there is.** -/
theorem Reachable.reachable_of_mem {e : Engine} (h : e.Reachable) {r : Run} (hr : r ∈ e.runs) :
    r.Reachable := by
  obtain ⟨evs, hevs⟩ := h
  have hall : e.AllReachable := afterAll_induction hevs (List.forall_mem_nil _)
    fun _ _ _ hd he => hd.after he
  exact hall r hr

end Conveyor.Engine
