/-
**To dispatch is all or nothing.**

Before the first pipeline of a catalog is started, the whole catalog is checked, and all that the
request sets off is expanded.  Each run checks and expands its pipeline once more, but what has
passed once does not fail later.

Main definitions:

* `Conveyor.Engine.runEach` — carries out pipelines one after the other, each with all its checks;
* `Conveyor.Engine.reports` — the reports of what a task waits for;
* `Conveyor.Catalog.IsReady` — nothing is wrong with a catalog and with what is set off in it;
* `Conveyor.Engine.Dispatches` — what is promised of a dispatch that starts something.

Main results:

* `Conveyor.Engine.runAll_eq_runEach` — under fresh ids no check of a run is left out;
* `Conveyor.Engine.exists_runAll` — what passed the checks before is started;
* `Conveyor.Engine.Reachable.dispatch_all_or_nothing` — **a dispatch is refused because of the
  configuration and changes nothing, or all that the request sets off is carried out**, with one
  report for each.
-/

import Conveyor.Proofs.Engine.Register
import Conveyor.Proofs.Execution.Related
import Conveyor.Proofs.Matrix.Numbering
import Conveyor.Proofs.Run.Final
import Conveyor.Proofs.Selection

set_option autoImplicit false

namespace Conveyor

namespace Engine

variable {e e' : Engine} {idOf : Pipeline → String} {c : Catalog} {request : Request}
  {config : RunConfig} {ps : List Pipeline}

/-! ### Starting under fresh ids -/

/-- Carries out pipelines one after the other, each with all its checks. -/
def runEach (e : Engine) (idOf : Pipeline → String) (request : Request) (config : RunConfig) :
    List Pipeline → Engine × List Goal
  | [] => (e, [])
  | p :: rest =>
    let (e, g) := e.run (idOf p) p request (some config)
    let (e, gs) := runEach e idOf request config rest
    (e, g :: gs)

theorem run_eq_runFresh {id : String} (h : id ∉ e.activeIds) (p : Pipeline) (request : Request)
    (config : Option RunConfig) :
    e.run id p request config = e.runFresh id p request config := by
  have hinactive : ¬ (e.active? id).isSome = true := fun hactive =>
    h (isSome_active?_iff.1 hactive)
  simp only [run, runFresh, if_neg hinactive]

/-- Under fresh ids no check of a run is left out. -/
theorem runAll_eq_runEach (request : Request) (config : RunConfig)
    (hnodup : (ps.map idOf).Nodup) (hfresh : ∀ p ∈ ps, idOf p ∉ e.activeIds) :
    e.runAll idOf request config ps = e.runEach idOf request config ps := by
  induction ps generalizing e with
  | nil => rfl
  | cons p rest ih =>
      obtain ⟨hp, hrest⟩ := List.nodup_cons.1 hnodup
      have hfirst := e.run_eq_runFresh (hfresh p (List.mem_cons_self ..)) p request (some config)
      -- the first run enters no id but its own
      have hothers : ∀ q ∈ rest,
          idOf q ∉ (e.runFresh (idOf p) p request (some config)).1.activeIds := by
        intro q hq hmem
        have hadmission := e.admission_runFresh (idOf p) p request (some config)
        rw [activeIds, hadmission.register, List.map_append] at hmem
        rcases List.mem_append.1 hmem with hold | hnew
        · exact hfresh q (List.mem_cons_of_mem _ hq) hold
        · have hid : idOf q = idOf p := List.mem_singleton.1 (hadmission.ids.subset hnew)
          exact hp (hid ▸ List.mem_map_of_mem hq)
      simp only [runAll, runEach, hfirst, ih hrest hothers]

/-- What passed the checks before is started: there is one run for each pipeline. -/
theorem exists_runAll (e : Engine) (idOf : Pipeline → String)
    (hwants : ∀ p ∈ ps, p.wants request = .ok true)
    (hplans : ∀ p ∈ ps, ∃ stages, Run.planOf p config = .ok stages) :
    ∃ rs, List.Forall₂ (fun p r => (Run.create (idOf p) p config).execute = .ok r) ps rs ∧
      (e.runAll idOf request config ps).1.runs = e.runs ++ rs ∧
      (e.runAll idOf request config ps).2 =
        (List.range' e.runs.length ps.length).map fun k => .run k 0 := by
  induction ps generalizing e with
  | nil => exact ⟨[], .nil, (List.append_nil _).symm, rfl⟩
  | cons p rest ih =>
      obtain ⟨stages, hplan⟩ := hplans p (List.mem_cons_self ..)
      obtain ⟨q, hq⟩ := Run.exists_launch (r := Run.create (idOf p) p config) hplan
      have hexecute : (Run.create (idOf p) p config).execute = .ok q.settle := by
        simp [Run.execute, hq]
      have hfirst : e.runFresh (idOf p) p request (some config) =
          ({ e with
              runs := e.runs ++ [q.settle]
              register := e.register ++ [(idOf p, e.runs.length)] }, .run e.runs.length 0) := by
        simp only [runFresh, hwants p (List.mem_cons_self ..), launch, Option.getD_some, hexecute,
          create]
      obtain ⟨rs, hall, hruns, hgoals⟩ :=
        ih (e.runFresh (idOf p) p request (some config)).1
          (fun r hr => hwants r (List.mem_cons_of_mem _ hr))
          (fun r hr => hplans r (List.mem_cons_of_mem _ hr))
      rw [hfirst] at hruns hgoals
      refine ⟨q.settle :: rs, .cons hexecute hall, ?_, ?_⟩
      · simp only [runAll, hfirst, hruns]
        simp
      · simp only [runAll, hfirst, hgoals]
        simp [List.range'_succ]

theorem flatMap_children_runs (ks : List Nat) :
    (ks.map fun k => Goal.run k 0).flatMap Goal.children = ks.map fun k => (k, 0) := by
  induction ks with
  | nil => rfl
  | cons k rest ih =>
      rw [List.map_cons, List.flatMap_cons, ih]
      rfl

/-- Several runs that were started are waited for together. -/
theorem joined_runs (ks : List Nat) :
    joined (ks.map fun k => Goal.run k 0) = .dispatch (ks.map fun k => (k, 0)) := by
  unfold joined
  split
  · rename_i f hf
    obtain ⟨g, hg, hgf⟩ := List.exists_of_findSome?_eq_some hf
    obtain ⟨k, _, rfl⟩ := List.mem_map.1 hg
    cases hgf
  · rw [flatMap_children_runs]

/-! ### Reports -/

/-- The reports of what a task waits for, in order. -/
def reports (e : Engine) (g : Goal) : List RunReport :=
  g.children.filterMap fun c => e.runs[c.1]?.bind (·.reportOf? c.2)

/-- What is found at places one after the other, if something is found for each member of a list. -/
theorem forall₂_filterMap_range' {α β : Type} {R : α → β → Prop} {F : Nat → Option β}
    {xs : List α} {n : Nat} (h : ∀ i x, xs[i]? = some x → ∃ y, F (n + i) = some y ∧ R x y) :
    List.Forall₂ R xs ((List.range' n xs.length).filterMap F) := by
  induction xs generalizing n with
  | nil => exact .nil
  | cons x xs ih =>
      obtain ⟨y, hy, hxy⟩ := h 0 x rfl
      rw [List.length_cons, List.range'_succ, List.filterMap_cons, show F n = some y from hy]
      refine .cons hxy (ih fun i z hz => ?_)
      obtain ⟨w, hw, hzw⟩ := h (i + 1) z (by simpa using hz)
      exact ⟨w, by rw [← hw]; congr 1; omega, hzw⟩

/-- An execution has returned just when it has ended without an abort. -/
theorem exists_returned_iff {x : Option Ending} :
    (∃ st, x = some (.returned st)) ↔ (x == some .aborted) = false ∧ x.isSome = true := by
  cases x with
  | none => simp
  | some ending => cases ending <;> simp

/-- A task that waits for executions returns just when all of them have returned. -/
theorem gathered?_eq_names {children : List (Nat × Nat)} {ns : List String} :
    e.gathered? children = some (.names ns) ↔
      (∀ b ∈ children, ∃ st, e.ending? b.1 b.2 = some (.returned st)) ∧
        ns = children.filterMap fun b => e.runs[b.1]?.map (·.pipeline.name) := by
  have hall : (∀ b ∈ children, ∃ st, e.ending? b.1 b.2 = some (.returned st)) ↔
      (children.map fun b => e.ending? b.1 b.2).any (· == some .aborted) = false ∧
        (children.map fun b => e.ending? b.1 b.2).all Option.isSome = true := by
    rw [List.any_eq_false, List.all_eq_true, List.forall_mem_map, List.forall_mem_map]
    simp only [exists_returned_iff, Bool.not_eq_true, forall_and]
  rw [hall, gathered?]
  cases (children.map fun b => e.ending? b.1 b.2).any (· == some .aborted) with
  | true => simp
  | false =>
      cases (children.map fun b => e.ending? b.1 b.2).all Option.isSome with
      | true => simp [eq_comm]
      | false => simp

/-- A report of a pipeline that was carried out to its end: it has an end, and it is made of the
plan of the pipeline. -/
structure IsReportOf (config : RunConfig) (p : Pipeline) (q : RunReport) : Prop where
  name : q.pipelineName = p.name
  finished : q.finished = true
  status : q.status.isTerminal = true
  planned : Run.planOf p config = .ok (q.stages.map StageReport.planned)

/-- The report of an execution that returned. -/
theorem isReportOf_of_returned {id : String} {p : Pipeline} {r : Run} {x : Execution} {st : Status}
    (hr : (Run.create id p config).Carries r) (hx : x ∈ r.executions)
    (hst : x.ending = some (.returned st)) :
    IsReportOf config p (x.report r.id r.pipeline.name) := by
  have hpipeline : r.pipeline = p := hr.pipeline
  have hconfig : r.config = config := hr.config
  obtain ⟨_, _, hfinal, _⟩ := (hr.sound.executions x hx).returned st hst
  refine ⟨by simp [Execution.report, hpipeline], by simp [Execution.report, hst], ?_, ?_⟩
  · simp only [Execution.report, hst, Ending.status, hfinal]
    exact x.isTerminal_finalStatus
  · have hplanned := hr.sound.planned x hx
    rw [hpipeline, hconfig] at hplanned
    exact hplanned

/-! ### Dispatch -/

end Engine

/-- Nothing is wrong with a catalog, and all that a request sets off in it can be expanded. -/
structure Catalog.IsReady (c : Catalog) (request : Request) (config : RunConfig) : Prop where
  valid : c.IsValid
  expands : ∀ p ∈ c.wanted request, ∃ stages, p.expand config.matrixCap = .ok stages

/-- A catalog that keeps all rules; of the pipelines that a request sets off in it, the first one that
cannot be expanded cannot be told. -/
def Catalog.IsUntold (c : Catalog) (request : Request) (cap : Int) : Prop :=
  c.IsValid ∧ ∃ before p after, c.wanted request = before ++ p :: after ∧
    (∀ q ∈ before, ∃ stages, q.expand cap = .ok stages) ∧ p.IsUntold cap

/-- What was checked with its catalog has a plan. -/
theorem Catalog.IsReady.planOf {c : Catalog} {request : Request} {config : RunConfig}
    (h : c.IsReady request config) {p : Pipeline} (hp : p ∈ c.wanted request) :
    ∃ stages, Run.planOf p config = .ok stages := by
  obtain ⟨stages, hstages⟩ := h.expands p hp
  refine ⟨stages, ?_⟩
  have hvalid := Pipeline.validate_of_violations
    (h.valid.pipelines p (List.mem_filter.1 hp).1)
  simp [Run.planOf, hvalid, hstages, bind, Except.bind]

namespace Engine

variable {e e' : Engine} {idOf : Pipeline → String} {c : Catalog} {request : Request}
  {config : Option RunConfig}

/-- What is promised of a dispatch that starts something. -/
structure Dispatches (e : Engine) (idOf : Pipeline → String) (c : Catalog) (request : Request)
    (config : Option RunConfig) : Prop where
  /-- Every pipeline can be compared with the request. -/
  matching : ∀ p ∈ c.pipelines, ∃ b, p.wants request = .ok b
  /-- Every pipeline that is set off has a plan. -/
  plans : ∀ p ∈ c.wanted request, ∀ id, ∃ q, (Run.create id p (config.getD {})).plan = .ok q
  /-- Under fresh ids all that is set off is carried out, each with all its checks, and none of them
  is refused. -/
  started : ((c.wanted request).map idOf).Nodup →
    (∀ p ∈ c.wanted request, idOf p ∉ e.activeIds) →
      (e.dispatch idOf c request config).1 =
          (e.runEach idOf request (config.getD {}) (c.wanted request)).1 ∧
        (e.runEach idOf request (config.getD {}) (c.wanted request)).2 =
          (List.range' e.runs.length (c.wanted request).length).map fun k => .run k 0
  /-- If the dispatch returns, whatever happened meanwhile, there is one report for each pipeline
  that was set off, in the order of the catalog. -/
  reports : ∀ (task : String) (evs : List Event) (e' : Engine) (ns : List String),
    (begun task (e.dispatch idOf c request config)).afterAll evs = some e' →
    e'.taskEnd? (e.dispatch idOf c request config).2 = some (.names ns) →
      ns = (c.wanted request).map Pipeline.name ∧
        List.Forall₂ (IsReportOf (config.getD {})) (c.wanted request)
          (e'.reports (e.dispatch idOf c request config).2)

theorem dispatch_of_ready (h : c.IsReady request (config.getD {})) :
    e.dispatch idOf c request config =
      ((e.runAll idOf request (config.getD {}) (c.wanted request)).1,
        joined (e.runAll idOf request (config.getD {}) (c.wanted request)).2) := by
  simp only [dispatch, selection_of_valid h.valid h.expands]

/-- The runs that a dispatch starts, in whatever comes after. -/
theorem exists_runs_of_ready (he : e.AllReachable) (h : c.IsReady request (config.getD {}))
    {task : String} {evs : List Event}
    (hevs : (begun task (e.dispatch idOf c request config)).afterAll evs = some e') {i : Nat}
    {p : Pipeline} (hp : (c.wanted request)[i]? = some p) :
    ∃ r x, e'.runs[e.runs.length + i]? = some r ∧
      (Run.create (idOf p) p (config.getD {})).Carries r ∧ r.executions[0]? = some x := by
  obtain ⟨rs, hall, hruns, _⟩ := exists_runAll e idOf
    (fun q hq => Catalog.wants_of_mem_wanted hq) (fun q hq => h.planOf hq)
  obtain ⟨r, hr, hexecute⟩ := exists_getElem?_of_forall₂ hall hp
  have hcreate := Run.sound_create (idOf p) p (config.getD {})
  have hstarted : (begun task (e.dispatch idOf c request config)).runs[e.runs.length + i]? =
      some r := by
    rw [dispatch_of_ready h]
    simp only [begun, addTask, hruns]
    rw [List.getElem?_append_right (Nat.le_add_right _ _), Nat.add_sub_cancel_left]
    exact hr
  have hbegun : (begun task (e.dispatch idOf c request config)).AllReachable :=
    he.dispatch idOf c request config
  obtain ⟨r', hr', hcarries⟩ := carries_afterAll hbegun hevs _ r hstarted
  obtain ⟨x, hx⟩ := Run.exists_execution_of_execute hcreate hexecute
  obtain ⟨x', hx', _⟩ := hcarries.executions 0 x hx
  exact ⟨r', x', hr', (Run.carries_execute hcreate hexecute).trans hcarries, hx'⟩

theorem goal_of_ready (h : c.IsReady request (config.getD {})) :
    (e.dispatch idOf c request config).2 =
      .dispatch ((List.range' e.runs.length (c.wanted request).length).map fun k => (k, 0)) := by
  obtain ⟨_, _, _, hgoals⟩ := exists_runAll e idOf
    (fun q hq => Catalog.wants_of_mem_wanted hq) (fun q hq => h.planOf hq)
  rw [dispatch_of_ready h, hgoals, joined_runs]

/-- If a dispatch returns, there is one report for each pipeline that was set off. -/
theorem reports_of_ready (he : e.AllReachable) (h : c.IsReady request (config.getD {}))
    {task : String} {evs : List Event} {ns : List String}
    (hevs : (begun task (e.dispatch idOf c request config)).afterAll evs = some e')
    (hns : e'.taskEnd? (e.dispatch idOf c request config).2 = some (.names ns)) :
    ns = (c.wanted request).map Pipeline.name ∧
      List.Forall₂ (IsReportOf (config.getD {})) (c.wanted request)
        (e'.reports (e.dispatch idOf c request config).2) := by
  rw [goal_of_ready h] at hns ⊢
  obtain ⟨hreturned, hnames⟩ := gathered?_eq_names.1 hns
  rw [List.filterMap_map] at hnames
  constructor
  · have hall : List.Forall₂ (fun p n => Pipeline.name p = n) (c.wanted request) ns := by
      rw [hnames]
      refine forall₂_filterMap_range' fun i p hp => ?_
      obtain ⟨r, _, hr, hcarries, _⟩ := exists_runs_of_ready he h hevs hp
      have hpipeline : r.pipeline = p := hcarries.pipeline
      exact ⟨r.pipeline.name, by simp [hr], by rw [hpipeline]⟩
    have hmapped : List.Forall₂ Eq ((c.wanted request).map Pipeline.name) ns :=
      List.forall₂_map_left_iff.2 hall
    rw [List.forall₂_eq_eq_eq] at hmapped
    exact hmapped.symm
  · simp only [reports, Goal.children, List.filterMap_map]
    refine forall₂_filterMap_range' fun i p hp => ?_
    obtain ⟨r, x, hr, hcarries, hx⟩ := exists_runs_of_ready he h hevs hp
    refine ⟨x.report r.id r.pipeline.name, by simp [hr, Run.reportOf?, hx], ?_⟩
    have hi : i < (c.wanted request).length := (List.getElem?_eq_some_iff.1 hp).1
    have hchild : (e.runs.length + i, 0) ∈
        (List.range' e.runs.length (c.wanted request).length).map fun k => (k, 0) :=
      List.mem_map.2 ⟨_, List.mem_range'_1.2 ⟨by omega, by omega⟩, rfl⟩
    obtain ⟨st, hst⟩ := hreturned _ hchild
    have hending : x.ending = some (.returned st) := by
      simpa [Engine.ending?, hr, hx] using hst
    exact isReportOf_of_returned hcarries (List.mem_of_getElem? hx) hending

/-- Nothing is selected of a catalog that breaks a rule, or when something that the request sets off
cannot be expanded, because of the configuration, unless that cannot be told. -/
theorem exists_selection_fault {config : RunConfig} (h : ¬ c.IsValid ∨
    ∃ p ∈ c.wanted request, ∃ f, p.expand config.matrixCap = .error f) :
    ∃ f, selection c request config = .error f ∧
      (c.IsUntold request config.matrixCap → f = .value Datum.unshowableText) ∧
      (¬ c.IsUntold request config.matrixCap → f.IsConfig) := by
  by_cases hvalid : c.IsValid
  · obtain ⟨p, hp, d, hd⟩ := h.resolve_left fun hnot => hnot hvalid
    -- the first one that cannot be expanded
    obtain ⟨q, hq⟩ : ∃ q, (c.wanted request).find? (fun p =>
        (failure? (p.expand config.matrixCap)).isSome) = some q :=
      Option.isSome_iff_exists.1 (List.find?_isSome.2 ⟨p, hp, by simp [hd, failure?]⟩)
    obtain ⟨hfails, before, after, hsplit, hbefore⟩ := List.find?_eq_some_iff_append.1 hq
    obtain ⟨f, hf⟩ := Option.isSome_iff_exists.1 hfails
    have hf : q.expand config.matrixCap = .error f := failure?_eq_some_iff.1 hf
    have hbefore : ∀ r ∈ before, ∃ stages, r.expand config.matrixCap = .ok stages :=
      fun r hr => failure?_eq_none_iff.1 (by simpa using hbefore r hr)
    have hselection : selection c request config = .error f :=
      (selection_eq_error_iff hvalid).2 ⟨before, q, after, hsplit, hbefore, hf⟩
    refine ⟨f, hselection, ?_, fun hnot => ?_⟩
    · rintro ⟨-, before', p', after', hsplit', hbefore', huntold⟩
      exact Except.error.inj (hselection.symm.trans ((selection_eq_error_iff hvalid).2
        ⟨before', p', after', hsplit', hbefore', huntold.expand⟩))
    · exact Pipeline.isConfig_of_expand
        (fun huntold => hnot ⟨hvalid, before, q, after, hsplit, hbefore, huntold⟩) hf
  · obtain ⟨f, hconfig, hf⟩ := exists_selection_error request config hvalid
    exact ⟨f, hf, fun huntold => absurd huntold.1 hvalid, fun _ => hconfig⟩

/-- **A dispatch is refused and changes nothing, or all that the request sets off is carried out.**  It
is refused just when a pipeline of the catalog breaks a rule, selected or not, or when one that is
selected cannot be expanded; and that because of the configuration, unless it is a matrix whose size
has too many digits to be told. -/
theorem Reachable.dispatch_all_or_nothing (he : e.Reachable) (idOf : Pipeline → String)
    (c : Catalog) (request : Request) (config : Option RunConfig) :
    ((¬ c.IsValid ∨ ∃ p ∈ c.wanted request, ∃ f,
        p.expand (config.getD {}).matrixCap = .error f) →
      ∃ f, e.dispatch idOf c request config = (e, .over (.fault f)) ∧
        (f.IsConfig ↔ ¬ c.IsUntold request (config.getD {}).matrixCap) ∧
        (c.IsUntold request (config.getD {}).matrixCap → f = .value Datum.unshowableText)) ∧
    (c.IsReady request (config.getD {}) → e.Dispatches idOf c request config) := by
  constructor
  · intro h
    obtain ⟨f, hf, huntold, htold⟩ := exists_selection_fault h
    refine ⟨f, by simp only [dispatch, hf], ⟨fun hconfig hnot => ?_, htold⟩, huntold⟩
    exact Fault.not_isConfig_value _ (huntold hnot ▸ hconfig)
  · intro h
    have hreach : e.AllReachable := fun r hr => he.reachable_of_mem hr
    refine ⟨?_, ?_, ?_, ?_⟩
    · intro p hp
      exact Pipeline.exists_wants (h.valid.pipelines p hp) request
    · intro p hp id
      obtain ⟨stages, hstages⟩ := h.planOf hp
      exact ⟨_, by simp only [Run.plan, Run.create, hstages]; rfl⟩
    · intro hnodup hfresh
      obtain ⟨_, _, _, hgoals⟩ := exists_runAll e idOf
        (fun q hq => Catalog.wants_of_mem_wanted hq) (fun q hq => h.planOf hq)
      have hsame := runAll_eq_runEach request (config.getD {}) hnodup hfresh
      rw [dispatch_of_ready h, ← hsame]
      exact ⟨rfl, hgoals⟩
    · intro task evs e' ns hevs hns
      exact reports_of_ready hreach h hevs hns

/-- A pipeline of one command. -/
def single (name command : String) : Pipeline :=
  { name, stages := [{ name := "only", jobs := [{ name := "job", steps := [.run command []] }] }] }

/-- A catalog of two pipelines. -/
def lintAndTest : Catalog := { pipelines := [single "lint" "flake8", single "test" "pytest"] }

theorem isReady_lintAndTest : lintAndTest.IsReady (.manual {}) {} := by
  refine ⟨(Catalog.violations_eq_nil_iff _).1 (by decide +kernel), fun p hp => ?_⟩
  have hall : (lintAndTest.wanted (.manual {})).all (fun p => (p.expand 256).toOption.isSome) =
      true := by
    decide +kernel
  cases hexpand : p.expand ({} : RunConfig).matrixCap with
  | ok stages => exact ⟨stages, rfl⟩
  | error f =>
      have hsome := List.all_eq_true.1 hall p hp
      rw [show p.expand 256 = .error f from hexpand] at hsome
      cases hsome

/-- Two pipelines are carried out, one of which fails, and the dispatch returns both reports.  A
catalog with one of them twice is refused. -/
theorem dispatch_lintAndTest :
    (∃ f, f.IsConfig ∧ ({} : Engine).dispatch Pipeline.name
        { pipelines := [single "lint" "flake8", single "lint" "flake8"] } (.manual {}) none =
      ({}, .over (.fault f))) ∧
    ∃ e' : Engine,
      (begun "all" (({} : Engine).dispatch Pipeline.name lintAndTest (.manual {}) none)).afterAll
        [.within 1 (.answer ⟨0, "only", "job"⟩ (.run (.done 1 ""))),
          .within 0 (.answer ⟨0, "only", "job"⟩ (.run (.done 0 ""))), .settle] = some e' ∧
      List.Forall₂ (IsReportOf {}) (lintAndTest.wanted (.manual {}))
        (e'.reports (({} : Engine).dispatch Pipeline.name lintAndTest (.manual {}) none).2) := by
  have hreach : ({} : Engine).Reachable := ⟨[], rfl⟩
  constructor
  · have hvalid : ¬ (Catalog.mk [single "lint" "flake8", single "lint" "flake8"]).IsValid :=
      fun hvalid => absurd hvalid.names (by decide +kernel)
    obtain ⟨f, hf, hconfig, -⟩ :=
      (hreach.dispatch_all_or_nothing Pipeline.name _ (.manual {}) none).1 (.inl hvalid)
    exact ⟨f, hconfig.2 fun huntold => hvalid huntold.1, hf⟩
  · have hrun : ((begun "all"
        (({} : Engine).dispatch Pipeline.name lintAndTest (.manual {}) none)).afterAll
          [.within 1 (.answer ⟨0, "only", "job"⟩ (.run (.done 1 ""))),
            .within 0 (.answer ⟨0, "only", "job"⟩ (.run (.done 0 ""))), .settle]).any (fun e' =>
        e'.ending? 0 0 == some (.returned .succeeded) &&
          e'.ending? 1 0 == some (.returned .failed)) = true := by
      decide +kernel
    have htwo : (lintAndTest.wanted (.manual {})).length = 2 := by decide +kernel
    obtain ⟨e', he', hend⟩ := (Option.any_eq_true _ _).1 hrun
    obtain ⟨hlint, htest⟩ := Bool.and_eq_true_iff.1 hend
    have hreturned : ∀ b ∈ [(0, 0), (1, 0)], ∃ st, e'.ending? b.1 b.2 = some (.returned st) := by
      intro b hb
      rcases List.mem_pair.1 hb with rfl | rfl
      · exact ⟨_, beq_iff_eq.1 hlint⟩
      · exact ⟨_, beq_iff_eq.1 htest⟩
    obtain ⟨ns, hnames⟩ : ∃ ns, e'.taskEnd? (({} : Engine).dispatch Pipeline.name lintAndTest
        (.manual {}) none).2 = some (.names ns) := by
      rw [goal_of_ready isReady_lintAndTest, htwo]
      exact ⟨_, gathered?_eq_names.2 ⟨hreturned, rfl⟩⟩
    exact ⟨e', he', (((hreach.dispatch_all_or_nothing Pipeline.name lintAndTest (.manual {}) none).2
      isReady_lintAndTest).reports "all" _ e' _ he' hnames).2⟩

/-- A catalog of one pipeline with one job. -/
def ofJob (j : Job) : Catalog := { pipelines := [Pipeline.ofJob j] }

theorem isValid_ofJob {j : Job} (h : j.IsSound) : (ofJob j).IsValid := by
  refine ⟨List.nodup_singleton _, fun p hp => ?_⟩
  obtain rfl := List.mem_singleton.1 hp
  exact Pipeline.violations_eq_nil_iff.2
    { triggers := List.forall_mem_nil _
      stages := List.nodup_singleton _
      jobs := fun s hs => by
        obtain rfl := List.mem_singleton.1 hs
        exact List.nodup_singleton _
      sound := fun s hs k hk => by
        obtain rfl := List.mem_singleton.1 hs
        obtain rfl := List.mem_singleton.1 hk
        exact h }

theorem isSound_tenfold (count : Nat) : (Job.tenfold count).IsSound where
  axes := by
    have haxes : (Job.tenfold count).axisNames = (List.range count).map toString := by
      simp [Job.tenfold, Job.axisNames]
    rw [haxes]
    refine List.nodup_range.map fun m n hmn => ?_
    have hdigits : Nat.toDigits 10 m = Nat.toDigits 10 n := by
      have hrepr : m.repr = n.repr := hmn
      rwa [Nat.repr_eq_ofList_toDigits, Nat.repr_eq_ofList_toDigits, String.ofList_inj] at hrepr
    have hm : Nat.ofDigitChars 10 (Nat.toDigits 10 m) 0 = m := Nat.ofDigitChars_ten_toDigits
    rwa [hdigits, Nat.ofDigitChars_ten_toDigits, eq_comm] at hm
  values a ha := by
    simp only [Job.tenfold, List.mem_map] at ha
    obtain ⟨n, -, rfl⟩ := ha
    exact List.cons_ne_nil _ _
  services := List.nodup_nil
  env := List.forall_mem_nil _
  args := List.forall_mem_nil _

/-- A pipeline that cannot be told is refused with a fault that is none of the configuration. -/
theorem not_isConfig_dispatch_ofJob {j : Job} (hj : j.IsSound)
    (huntold : j.IsUntold ({} : RunConfig).matrixCap) :
    ¬ ∃ f, f.IsConfig ∧ ({} : Engine).dispatch Pipeline.name (ofJob j) (.manual {}) none =
      ({}, .over (.fault f)) := by
  rintro ⟨f, hconfig, hf⟩
  have hselection : selection (ofJob j) (.manual {}) {} = .error (.value Datum.unshowableText) :=
    (selection_eq_error_iff (isValid_ofJob hj)).2
      ⟨[], _, [], rfl, List.forall_mem_nil _, (Pipeline.isUntold_ofJob huntold).expand⟩
  have hgoal : Goal.over (.fault (.value Datum.unshowableText)) = .over (.fault f) := by
    refine Eq.trans ?_ (congrArg Prod.snd hf)
    simp only [dispatch, Option.getD_none, hselection]
  cases hgoal
  exact Fault.not_isConfig_value _ hconfig

/-- A catalog that keeps all rules; its pipeline cannot be expanded under the usual cap, and the
dispatch is refused with a fault that is none of the configuration. -/
theorem exists_dispatch_not_isConfig :
    ∃ c : Catalog, c.IsValid ∧
      (∃ p ∈ c.wanted (.manual {}), ∃ f, p.expand ({} : RunConfig).matrixCap = .error f) ∧
      ¬ ∃ f, f.IsConfig ∧
        ({} : Engine).dispatch Pipeline.name c (.manual {}) none = ({}, .over (.fault f)) := by
  have huntold : (Job.tenfold Text.maxDigits).IsUntold ({} : RunConfig).matrixCap :=
    Job.isUntold_tenfold (by decide +kernel)
  have hsound := isSound_tenfold Text.maxDigits
  generalize Job.tenfold Text.maxDigits = j at huntold hsound
  exact ⟨ofJob j, isValid_ofJob hsound,
    ⟨_, List.mem_singleton_self _, _, (Pipeline.isUntold_ofJob huntold).expand⟩,
    not_isConfig_dispatch_ofJob hsound huntold⟩

end Engine

end Conveyor
