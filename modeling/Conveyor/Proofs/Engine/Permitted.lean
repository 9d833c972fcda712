/-
**Nothing that an engine asks of an instance is ever refused.**

Instances are started and led on by their own tasks, and cancelled from outside: by the failure of
another instance, by a cancel of their run, and when their stage is skipped.  However all this is mixed,
with calls that come back, fail or are called off at any time, every status that an instance is asked to
take may follow the one that it has.  So an engine that breaks off at the first refusal goes the same
way as one that passes over refusals, and both go the way of the engine; and no task ends with the fault
of a refusal.

Main definitions:

* `Conveyor.Engine.afterUnder`, `Conveyor.Engine.afterAllUnder` — an engine after an event, and after
  many, under a discipline;
* `Conveyor.Engine.afterAllStrictly` — an engine after events, if no instance refuses anything in them;
* `Conveyor.Engine.IsUntroubled` — no task has ended with the fault of a refusal.

Main results:

* `Conveyor.Engine.AllReachable.afterAllUnder_eq` — **no event of an engine meets a refusal**;
* `Conveyor.Engine.afterAllUnder_lenient` — an engine that passes over refusals is the engine;
* `Conveyor.Engine.IsUntroubled.after` — and none ends a task with the fault of a refusal;
* `Conveyor.Engine.nothing_refused` — **whatever happens to an engine, nothing is refused**.
-/

import Conveyor.Proofs.Engine.Refused
import Conveyor.Proofs.Run.FailurePolicy
import Conveyor.Proofs.Run.Permitted

set_option autoImplicit false

namespace Conveyor.Engine

section
variable {m : Type → Type} [Monad m] (d : Discipline m)

/-! ### Starting -/

/-- Carries out a pipeline. -/
def launchUnder (e : Engine) (id : String) (p : Pipeline) (config : Option RunConfig) :
    m (Engine × Goal) := do
  let created := e.create id p config
  match ← (Run.create id p (config.getD {})).executeUnder d with
  | .error f => return (created, .over (.fault f))
  | .ok r =>
    return ({ created with runs := e.runs ++ [r], register := e.register ++ [(id, e.runs.length)] },
      .run e.runs.length 0)

/-- Carries out a pipeline when a request sets it off, unless its id is barred. -/
def runUnlessBarred (e : Engine) (barred : Bool) (id : String) (p : Pipeline) (request : Request)
    (config : Option RunConfig) : m (Engine × Goal) :=
  match p.wants request with
  | .error f => pure (e, .over (.fault f))
  | .ok false => pure (e, .over .notTriggered)
  | .ok true =>
    if barred then pure (e, .over (.fault (alreadyActive id))) else e.launchUnder d id p config

/-- Carries out a pipeline when a request sets it off. -/
def runUnder (e : Engine) (id : String) (p : Pipeline) (request : Request)
    (config : Option RunConfig) : m (Engine × Goal) :=
  e.runUnlessBarred d (e.active? id).isSome id p request config

/-- Carries out pipelines one beside the other, each under a fresh id. -/
def runAllUnder (e : Engine) (idOf : Pipeline → String) (request : Request) (config : RunConfig) :
    List Pipeline → m (Engine × List Goal)
  | [] => pure (e, [])
  | p :: rest => do
    let (e, g) ← e.runUnlessBarred d false (idOf p) p request (some config)
    let (e, gs) ← runAllUnder e idOf request config rest
    return (e, g :: gs)

/-- Carries out all pipelines of a catalog that a request sets off. -/
def dispatchUnder (e : Engine) (idOf : Pipeline → String) (c : Catalog) (request : Request)
    (config : Option RunConfig) : m (Engine × Goal) :=
  match selection c request (config.getD {}) with
  | .error f => pure (e, .over (.fault f))
  | .ok selected => do
    let (e, goals) ← e.runAllUnder d idOf request (config.getD {}) selected
    return (e, joined goals)

/-- Executes a run once more. -/
def executeUnder (e : Engine) (k : Nat) : m (Engine × Goal) :=
  match e.runs[k]? with
  | none => pure (e, .over .notTriggered)
  | some r => do
    match ← r.executeUnder d with
    | .error f => return (e, .over (.fault f))
    | .ok next => return (e.modifyRun k fun _ => next, .run k r.executions.length)

/-! ### Calling off, and going on -/

/-- The engine with one of its runs changed. -/
def modifyRunUnder (e : Engine) (k : Nat) (f : Run → m Run) : m Engine := do
  let runs ← modifyM e.runs k f
  return { e with runs }

/-- Cancels an active run. -/
def cancelUnder (e : Engine) (id : String) : m (Engine × Bool) :=
  match e.active? id with
  | some k => do
    let e ← e.modifyRunUnder k (·.cancelUnder d Fault.cancelText)
    return (e, true)
  | none => pure (e, false)

/-- Aborts a task that has not ended. -/
def abortTaskUnder (e : Engine) (name : String) : m (Engine × Bool) :=
  match e.task? name with
  | none => pure (e, false)
  | some g =>
    if (e.taskEnd? g).isSome then pure (e, false)
    else do
      let e ← g.children.foldlM (fun e c => e.modifyRunUnder c.1 (·.abortUnder d c.2)) e
      return (e, true)

/-- All runs go on as far as they can. -/
def settleUnder (e : Engine) : m Engine := do
  let runs ← e.runs.mapM (Run.settleUnder d)
  let e := { e with runs }
  return { e with register := e.register.filter fun entry => e.goesOn entry.2 }

/-! ### Events -/

/-- The engine after an event, if that may happen. -/
def afterUnder (e : Engine) : Event → m (Option Engine)
  | .create id p config => pure (some (e.create id p config))
  | .run task id p request config => (some ∘ begun task) <$> e.runUnder d id p request config
  | .dispatch task idOf c request config =>
    (some ∘ begun task) <$> e.dispatchUnder d idOf c request config
  | .execute task k => (some ∘ begun task) <$> e.executeUnder d k
  | .cancel id => (some ∘ Prod.fst) <$> e.cancelUnder d id
  | .abort task => (some ∘ Prod.fst) <$> e.abortTaskUnder d task
  | .within k ev =>
    match e.runs[k]? with
    | none => pure none
    | some r => (Option.map fun next => e.modifyRun k fun _ => next) <$> r.afterUnder d ev
  | .settle => some <$> e.settleUnder d

/-- The engine after events, if they may happen one after the other. -/
def afterAllUnder : Engine → List Event → m (Option Engine)
  | e, [] => pure (some e)
  | e, ev :: evs => do
    match ← e.afterUnder d ev with
    | none => return none
    | some e => afterAllUnder e evs

end

/-- The engine after events, if they may happen one after the other, unless something is refused. -/
def afterAllStrictly (e : Engine) (evs : List Event) : Except Refusal (Option Engine) :=
  e.afterAllUnder .strict evs

/-! ### Nothing is refused -/

section
variable {m : Type → Type} [Monad m] [LawfulMonad m] {d : Discipline m} {e : Engine}

theorem launchUnder_eq (hd : d.Passes) (e : Engine) (id : String) (p : Pipeline)
    (config : Option RunConfig) : e.launchUnder d id p config = pure (e.launch id p config) := by
  unfold launchUnder launch
  dsimp only
  rw [Run.executeUnder_eq hd (Run.sound_create id p _), pure_bind]
  cases (Run.create id p (config.getD {})).execute <;> rfl

theorem runUnder_eq (hd : d.Passes) (e : Engine) (id : String) (p : Pipeline) (request : Request)
    (config : Option RunConfig) :
    e.runUnder d id p request config = pure (e.run id p request config) := by
  unfold runUnder runUnlessBarred run
  rw [launchUnder_eq hd]
  cases p.wants request with
  | error f => rfl
  | ok wanted =>
      cases wanted with
      | false => rfl
      | true =>
          dsimp only
          split <;> rfl

theorem runAllUnder_eq (hd : d.Passes) (e : Engine) (idOf : Pipeline → String) (request : Request)
    (config : RunConfig) (ps : List Pipeline) :
    e.runAllUnder d idOf request config ps = pure (e.runAll idOf request config ps) := by
  induction ps generalizing e with
  | nil => rfl
  | cons p rest ih =>
      have hfresh : e.runUnlessBarred d false (idOf p) p request (some config) =
          pure (e.runFresh (idOf p) p request (some config)) := by
        unfold runUnlessBarred runFresh
        rw [launchUnder_eq hd]
        cases p.wants request with
        | error f => rfl
        | ok wanted => cases wanted <;> rfl
      rw [runAllUnder, hfresh, pure_bind]
      dsimp only
      rw [ih, pure_bind]
      rfl

theorem dispatchUnder_eq (hd : d.Passes) (e : Engine) (idOf : Pipeline → String) (c : Catalog)
    (request : Request) (config : Option RunConfig) :
    e.dispatchUnder d idOf c request config = pure (e.dispatch idOf c request config) := by
  unfold dispatchUnder dispatch
  dsimp only
  cases selection c request (config.getD {}) with
  | error f => rfl
  | ok selected =>
      dsimp only
      rw [runAllUnder_eq hd, pure_bind]

theorem executeUnder_eq (hd : d.Passes) (h : e.AllReachable) (k : Nat) :
    e.executeUnder d k = pure (e.execute k) := by
  unfold executeUnder execute
  cases hr : e.runs[k]? with
  | none => rfl
  | some r =>
      dsimp only
      rw [Run.executeUnder_eq hd (h r (List.mem_of_getElem? hr)).sound, pure_bind]
      cases r.execute <;> rfl

theorem modifyRunUnder_eq {k : Nat} {f : Run → m Run} {g : Run → Run} (h : e.AllReachable)
    (hf : ∀ r : Run, r.Sound → f r = pure (g r)) :
    e.modifyRunUnder k f = pure (e.modifyRun k g) := by
  rw [modifyRunUnder, modifyM_eq_pure fun r hr => hf r (h r (List.mem_of_getElem? hr)).sound,
    pure_bind]
  rfl

theorem cancelUnder_eq (hd : d.Passes) (h : e.AllReachable) (id : String) :
    e.cancelUnder d id = pure (e.cancel id) := by
  unfold cancelUnder cancel
  cases e.active? id with
  | none => rfl
  | some k =>
      dsimp only
      rw [modifyRunUnder_eq h fun r hr => r.cancelUnder_eq hd hr _, pure_bind]

theorem abortTaskUnder_eq (hd : d.Passes) (h : e.AllReachable) (name : String) :
    e.abortTaskUnder d name = pure (e.abortTask name) := by
  have hall (cs : List (Nat × Nat)) :
      cs.foldlM (fun e c => e.modifyRunUnder c.1 (·.abortUnder d c.2)) e =
        pure (cs.foldl (fun e c => e.modifyRun c.1 (·.abort c.2)) e) := by
    refine foldlM_eq_pure (I := AllReachable) (fun q c hq => ?_) (fun q c hq => ?_) h cs
    · exact modifyRunUnder_eq hq fun r hr => r.abortUnder_eq hd hr c.2
    · refine hq.modifyRun fun r _ hr => ?_
      have habort : r.after (.abort c.2) = some (r.abort c.2) := rfl
      exact hr.after habort
  unfold abortTaskUnder abortTask
  cases e.task? name with
  | none => rfl
  | some g =>
      dsimp only
      rw [hall, pure_bind]
      split <;> rfl

theorem settleUnder_eq (hd : d.Passes) (h : e.AllReachable) :
    e.settleUnder d = pure e.settle := by
  have hall : e.runs.mapM (Run.settleUnder d) = pure (e.runs.map Run.settle) :=
    mapM_eq_pure fun r hr => Run.settleUnder_eq hd (h r hr).sound
  rw [settleUnder, hall, pure_bind]
  rfl

/-- No event of an engine meets a refusal. -/
theorem afterUnder_eq (hd : d.Passes) (h : e.AllReachable) (ev : Event) :
    e.afterUnder d ev = pure (e.after ev) := by
  cases ev with
  | create id p config => rfl
  | run task id p request config =>
      rw [afterUnder, runUnder_eq hd, map_pure]
      rfl
  | dispatch task idOf c request config =>
      rw [afterUnder, dispatchUnder_eq hd, map_pure]
      rfl
  | execute task k =>
      rw [afterUnder, executeUnder_eq hd h, map_pure]
      rfl
  | cancel id =>
      rw [afterUnder, cancelUnder_eq hd h, map_pure]
      rfl
  | abort task =>
      rw [afterUnder, abortTaskUnder_eq hd h, map_pure]
      rfl
  | within k ev =>
      simp only [afterUnder, after]
      cases hr : e.runs[k]? with
      | none => rfl
      | some r =>
          dsimp only
          rw [Run.afterUnder_eq hd (h r (List.mem_of_getElem? hr)).sound, map_pure]
          cases hnext : r.after ev with
          | none => simp [hnext]
          | some next => simp [hnext]
  | settle => rw [afterUnder, settleUnder_eq hd h, map_pure, after]

/-- **No event of an engine meets a refusal**, whatever would become of it. -/
theorem AllReachable.afterAllUnder_eq (hd : d.Passes) (h : e.AllReachable) (evs : List Event) :
    e.afterAllUnder d evs = pure (e.afterAll evs) := by
  induction evs generalizing e with
  | nil => rfl
  | cons ev evs ih =>
      rw [afterAllUnder, afterUnder_eq hd h, pure_bind, afterAll]
      cases hev : e.after ev with
      | none => rfl
      | some q => exact ih (h.after hev)

/-- An engine that passes over refusals is the engine that there is. -/
theorem afterAllUnder_lenient (evs : List Event) :
    ({} : Engine).afterAllUnder .lenient evs = ({} : Engine).afterAll evs := by
  have hnone : AllReachable {} := List.forall_mem_nil _
  exact hnone.afterAllUnder_eq Discipline.passes_lenient evs

end

variable {e e' : Engine}

/-! ### What tasks end with -/

theorem isObjection_of_selectFrom {request : Request} {ps : List Pipeline} {f : Fault}
    (h : Pipeline.selectFrom request ps = .error f) : f.IsObjection := by
  induction ps with
  | nil => cases h
  | cons p ps ih =>
      rcases error_cases_of_bind h with hp | ⟨_, hrest⟩
      · exact .inl (Pipeline.isConfig_of_wants hp)
      · rcases error_cases_of_bind hrest with hps | ⟨_, hdone⟩
        · exact ih hps
        · cases hdone

/-- Nothing is selected because of what is objected. -/
theorem isObjection_of_selection {c : Catalog} {request : Request} {config : RunConfig} {f : Fault}
    (h : selection c request config = .error f) : f.IsObjection := by
  rcases error_cases_of_bind h with hvalid | ⟨_, hselect⟩
  · rw [(Catalog.validate_eq_error_iff.1 hvalid).2]
    exact .inl (Fault.isConfig_configuration _ _)
  · rcases error_cases_of_bind hselect with hselected | ⟨selected, hexpand⟩
    · exact isObjection_of_selectFrom hselected
    · rcases error_cases_of_bind hexpand with hall | ⟨_, hdone⟩
      · obtain ⟨p, _, hp⟩ := exists_error_of_forM hall
        rcases error_cases_of_bind hp with hexpand | ⟨_, hdone⟩
        · exact Pipeline.isObjection_of_expand hexpand
        · cases hdone
      · cases hdone

theorem isObjection_of_runFresh {id : String} {p : Pipeline} {request : Request}
    {config : Option RunConfig} {f : Fault}
    (h : (e.runFresh id p request config).2 = .over (.fault f)) : f.IsObjection := by
  cases hwants : p.wants request with
  | error d =>
      have hd : d = f := by simpa [runFresh, hwants] using h
      exact hd ▸ .inl (Pipeline.isConfig_of_wants hwants)
  | ok wanted =>
      cases wanted with
      | false => simp [runFresh, hwants] at h
      | true =>
          cases hexecute : (Run.create id p (config.getD {})).execute with
          | error d =>
              have hd : d = f := by simpa [runFresh, hwants, launch, hexecute] using h
              exact hd ▸ Run.isObjection_of_execute hexecute
          | ok r => simp [runFresh, hwants, launch, hexecute] at h

theorem isObjection_of_mem_runAll {idOf : Pipeline → String} {request : Request} {config : RunConfig}
    {ps : List Pipeline} {f : Fault}
    (h : .over (.fault f) ∈ (e.runAll idOf request config ps).2) : f.IsObjection := by
  induction ps generalizing e with
  | nil => cases h
  | cons p rest ih =>
      rcases List.mem_cons.1 h with hfirst | hrest
      · exact isObjection_of_runFresh hfirst.symm
      · exact ih hrest

/-- Several goals come to a fault together when one of them does. -/
theorem mem_of_joined {goals : List Goal} {f : Fault} (h : joined goals = .over (.fault f)) :
    .over (.fault f) ∈ goals := by
  unfold joined at h
  split at h
  · rename_i d hd
    obtain ⟨g, hg, hgd⟩ := List.exists_of_findSome?_eq_some hd
    obtain rfl : d = f := by simpa using h
    split at hgd
    · obtain rfl := Option.some.inj hgd
      exact hg
    · cases hgd
  · cases h

/-- No task has ended because an instance refused something. -/
def IsUntroubled (e : Engine) : Prop :=
  ∀ task ∈ e.tasks, ∀ f, task.2 = .over (.fault f) → f.kind ≠ .transition

theorem ne_transition_of_isObjection {f : Fault} (h : f.IsObjection) : f.kind ≠ .transition := by
  rcases h with ⟨violations, hk⟩ | rfl
  · rw [hk]
    exact nofun
  · exact nofun

namespace IsUntroubled

theorem congr (h : e.IsUntroubled) (htasks : e'.tasks = e.tasks) : e'.IsUntroubled := by
  intro task htask
  rw [htasks] at htask
  exact h task htask

/-- A task is added that did not end because an instance refused something. -/
theorem begun (h : e.IsUntroubled) (name : String) {x : Engine × Goal}
    (htasks : x.1.tasks = e.tasks) (hx : ∀ f, x.2 = .over (.fault f) → f.kind ≠ .transition) :
    (Engine.begun name x).IsUntroubled := by
  intro task htask f hf
  rcases List.mem_append.1 htask with hold | hnew
  · rw [htasks] at hold
    exact h task hold f hf
  · rw [List.mem_singleton.1 hnew] at hf
    exact hx f hf

end IsUntroubled

theorem tasks_launch (e : Engine) (id : String) (p : Pipeline) (config : Option RunConfig) :
    (e.launch id p config).1.tasks = e.tasks := by
  unfold launch
  dsimp only
  split <;> rfl

theorem tasks_runAll (e : Engine) (idOf : Pipeline → String) (request : Request)
    (config : RunConfig) (ps : List Pipeline) :
    (e.runAll idOf request config ps).1.tasks = e.tasks := by
  induction ps generalizing e with
  | nil => rfl
  | cons p rest ih =>
      have hfirst : (e.runFresh (idOf p) p request (some config)).1.tasks = e.tasks := by
        unfold runFresh
        split
        · rfl
        · rfl
        · exact e.tasks_launch _ _ _
      exact (ih _).trans hfirst

theorem tasks_run (e : Engine) (id : String) (p : Pipeline) (request : Request)
    (config : Option RunConfig) : (e.run id p request config).1.tasks = e.tasks := by
  unfold run
  split
  · rfl
  · rfl
  · split
    · rfl
    · exact e.tasks_launch id p config

theorem IsUntroubled.run (h : e.IsUntroubled) (task id : String) (p : Pipeline) (request : Request)
    (config : Option RunConfig) : (Engine.begun task (e.run id p request config)).IsUntroubled := by
  refine h.begun task (e.tasks_run id p request config) fun f hf => ?_
  rcases e.run_cases id p request config with ⟨ending, hrefuses, hover, _⟩ | ⟨k, hrun⟩
  · obtain rfl : ending = .fault f := by simpa [hover] using hf
    cases hrefuses with
    | unreadable _ hconfig => exact ne_transition_of_isObjection (.inl hconfig)
    | active _ _ => exact nofun
    | noPlan _ _ _ hconfig => exact ne_transition_of_isObjection (.inl hconfig)
    | untold _ _ _ => exact ne_transition_of_isObjection (.inr rfl)
  · rw [hrun] at hf
    cases hf

theorem IsUntroubled.dispatch (h : e.IsUntroubled) (task : String) (idOf : Pipeline → String)
    (c : Catalog) (request : Request) (config : Option RunConfig) :
    (Engine.begun task (e.dispatch idOf c request config)).IsUntroubled := by
  unfold Engine.dispatch
  dsimp only
  cases hselection : selection c request (config.getD {}) with
  | error d =>
      refine h.begun task rfl fun f hf => ?_
      obtain rfl : d = f := by simpa using hf
      exact ne_transition_of_isObjection (isObjection_of_selection hselection)
  | ok selected =>
      refine h.begun task (e.tasks_runAll idOf request _ selected) fun f hf => ?_
      exact ne_transition_of_isObjection (isObjection_of_mem_runAll (mem_of_joined hf))

theorem IsUntroubled.execute (h : e.IsUntroubled) (task : String) (k : Nat) :
    (Engine.begun task (e.execute k)).IsUntroubled := by
  unfold Engine.execute
  split
  · exact h.begun task rfl nofun
  · rename_i r hr
    split
    · rename_i d hd
      refine h.begun task rfl fun f hf => ?_
      obtain rfl : d = f := by simpa using hf
      exact ne_transition_of_isObjection (Run.isObjection_of_execute hd)
    · exact h.begun task rfl nofun

/-- No event ends a task because an instance refused something. -/
theorem IsUntroubled.after (h : e.IsUntroubled) {ev : Event} (he : e.after ev = some e') :
    e'.IsUntroubled := by
  cases ev with
  | create id p config =>
      obtain rfl := Option.some.inj he
      exact h.congr rfl
  | run task id p request config =>
      obtain rfl := Option.some.inj he
      exact h.run task id p request config
  | dispatch task idOf c request config =>
      obtain rfl := Option.some.inj he
      exact h.dispatch task idOf c request config
  | execute task k =>
      obtain rfl := Option.some.inj he
      exact h.execute task k
  | cancel id =>
      obtain rfl := Option.some.inj he
      refine h.congr ?_
      unfold Engine.cancel
      split <;> rfl
  | abort task =>
      obtain rfl := Option.some.inj he
      refine h.congr ?_
      unfold Engine.abortTask
      split
      · rfl
      · split
        · rfl
        · exact List.foldlRecOn (motive := fun d : Engine => d.tasks = e.tasks) _ _ rfl
            fun d hd _ _ => hd
  | within k ev =>
      obtain ⟨r, _, he⟩ := Option.bind_eq_some_iff.1 he
      obtain ⟨next, _, he⟩ := Option.bind_eq_some_iff.1 he
      obtain rfl := Option.some.inj he
      exact h.congr rfl
  | settle =>
      obtain rfl := Option.some.inj he
      exact h.congr rfl

/-- **Whatever happens to an engine, nothing is refused**: an engine that breaks off as soon as an
instance refuses something goes the same way as one that does not, and no task ever ends with the fault
of a refusal. -/
theorem nothing_refused (evs : List Event) :
    ({} : Engine).afterAllStrictly evs = .ok (({} : Engine).afterAll evs) ∧
    ∀ e, ({} : Engine).afterAll evs = some e → e.IsUntroubled := by
  have hnone : AllReachable {} := List.forall_mem_nil _
  refine ⟨hnone.afterAllUnder_eq Discipline.passes_strict evs, fun e he => ?_⟩
  exact afterAll_induction he (List.forall_mem_nil _) fun _ _ _ hd hev => hd.after hev

/-- Of three checks the first one fails, which calls off the third one.  The second one is at work when
the run is cancelled and then aborted. -/
def troubledChecks : List Event :=
  [.run "first" "r" Run.checksThenRelease (.manual {}) (some { concurrencyLimit := 2 }),
    .within 0 (.answer ⟨0, "check", "lint"⟩ (.run (.done 1 ""))), .settle, .cancel "r",
    .abort "first", .within 0 (.answer ⟨0, "check", "test"⟩ (.run .dropped)), .settle]

/-- Instances are called off in three ways, and none of them refuses. -/
theorem nothing_refused_troubledChecks :
    ∃ e : Engine, ({} : Engine).afterAllStrictly troubledChecks = .ok (some e) ∧ e.IsUntroubled ∧
      (e.runs.flatMap Run.reports).map (fun q => q.instances.map JobInstance.status) =
        [[.failed, .cancelled, .cancelled, .cancelled]] := by
  have hrun : (({} : Engine).afterAll troubledChecks).any (fun e =>
      (e.runs.flatMap Run.reports).map (fun q => q.instances.map JobInstance.status) ==
        [[.failed, .cancelled, .cancelled, .cancelled]]) = true := by
    decide +kernel
  obtain ⟨e, he, hstatuses⟩ := (Option.any_eq_true _ _).1 hrun
  obtain ⟨hall, huntroubled⟩ := nothing_refused troubledChecks
  exact ⟨e, hall.trans (congrArg Except.ok he), huntroubled e he, beq_iff_eq.1 hstatuses⟩

end Conveyor.Engine
