/-
**A call that is refused leaves no trace.**

A call that carries out a pipeline is refused before anything is there when its request sets nothing
off or cannot be compared with the pipeline, beside a run that was made in vain when its id is active,
and in the midst of its work when the run has no plan: then its id stands in the register already, and
has to be struck out.  Whichever it is, the register, all runs with their reports, slots and calls, and
all samples of the metrics are as they were.

Main definitions:

* `Conveyor.Engine.runInSteps` — a call with all that it does to the register;
* `Conveyor.Engine.Refuses` — why a call is refused, and what it ends with;
* `Conveyor.Engine.OnlyCreates` — an engine in which nothing has happened but that runs were made;
* `Conveyor.Engine.Unaffected` — an engine in which nothing has happened to what was there.

Main results:

* `Conveyor.Run.isObjection_of_execute`, `Conveyor.Pipeline.isConfig_of_wants` — what is objected to
  what is refused;
* `Conveyor.Engine.runInSteps_eq` — a call comes to the same with all its steps;
* `Conveyor.Engine.run_cases` — a call is carried out or refused;
* `Conveyor.Engine.OnlyCreates.unaffected` — runs that are only made leave no trace;
* `Conveyor.Engine.unaffected_of_refused` — **a call that is refused leaves no trace**.
-/

import Conveyor.Proofs.Engine.Conserved
import Conveyor.Proofs.Engine.Register
import Conveyor.Proofs.Selection

set_option autoImplicit false

namespace Conveyor

/-! ### Faults of the configuration -/

/-- A pipeline breaks rules because of its configuration. -/
theorem Pipeline.isConfig_of_validate {p : Pipeline} {f : Fault} (h : p.validate = .error f) :
    f.IsConfig := by
  unfold Pipeline.validate at h
  split at h
  · cases h
  · obtain rfl := Except.error.inj h
    exact Fault.isConfig_configuration _ _

theorem Trigger.isConfig_of_fires {t : Trigger} {e : Event} {f : Fault} (h : t.fires e = .error f) :
    f.IsConfig := by
  unfold Trigger.fires at h
  split at h
  · cases h
  · split at h
    · -- by `delta`, since the equation of the definition would read the pattern
      delta Trigger.isDue at h
      dsimp only at h
      split at h
      · obtain rfl := Except.error.inj h
        exact ⟨_, rfl⟩
      · split at h
        · cases h
        · split at h <;> cases h
    · cases h

theorem Pipeline.isConfig_of_firingOf {e : Event} {ts : List Trigger} {f : Fault}
    (h : firingOf e ts = .error f) : f.IsConfig := by
  induction ts with
  | nil => cases h
  | cons t ts ih =>
      rcases error_cases_of_bind h with ht | ⟨_, hrest⟩
      · exact Trigger.isConfig_of_fires ht
      · rcases error_cases_of_bind hrest with hts | ⟨_, hdone⟩
        · exact ih hts
        · cases hdone

/-- A request cannot be compared with a pipeline because of its configuration. -/
theorem Pipeline.isConfig_of_wants {p : Pipeline} {request : Request} {f : Fault}
    (h : p.wants request = .error f) : f.IsConfig := by
  cases request with
  | manual _ => cases h
  | event e =>
      cases hfiring : p.firing e with
      | error d =>
          have hd : d = f := by simpa [wants, hfiring, Except.map] using h
          exact hd ▸ isConfig_of_firingOf hfiring
      | ok ts => simp [wants, hfiring, Except.map] at h

namespace Run

theorem isObjection_of_planOf {p : Pipeline} {c : RunConfig} {f : Fault}
    (h : planOf p c = .error f) : f.IsObjection := by
  rcases error_cases_of_bind h with hvalid | ⟨_, hexpand⟩
  · exact .inl (Pipeline.isConfig_of_validate hvalid)
  · exact Pipeline.isObjection_of_expand hexpand

/-- A run cannot be executed just when it has no plan. -/
theorem execute_eq_error_iff {r : Run} {f : Fault} :
    r.execute = .error f ↔ planOf r.pipeline r.config = .error f := by
  cases hplan : planOf r.pipeline r.config with
  | error d => simp [execute, launch, hplan, bind, Except.bind, Functor.map, Except.map]
  | ok stages =>
      obtain ⟨q, hq⟩ := exists_launch hplan
      simp [execute, hq, Functor.map, Except.map]

/-- What is objected to a run that cannot be executed. -/
theorem isObjection_of_execute {r : Run} {f : Fault} (h : r.execute = .error f) : f.IsObjection :=
  isObjection_of_planOf (execute_eq_error_iff.1 h)

end Run

namespace Engine

variable {e e' : Engine} {id : String} {p : Pipeline} {request : Request}
  {config : Option RunConfig}

/-! ### The steps of a call -/

/-- Carries out a pipeline: the id is entered in the register, and struck out again if the run has no
plan. -/
def launchInSteps (e : Engine) (id : String) (p : Pipeline) (config : Option RunConfig) :
    Engine × Goal :=
  let created := e.create id p config
  let entered := { created with register := created.register ++ [(id, e.runs.length)] }
  match (Run.create id p (config.getD {})).execute with
  | .error f => ({ entered with register := strike entered.register id }, .over (.fault f))
  | .ok r => ({ entered with runs := e.runs ++ [r] }, .run e.runs.length 0)

/-- Carries out a pipeline when a request sets it off, with all that this does to the register. -/
def runInSteps (e : Engine) (id : String) (p : Pipeline) (request : Request)
    (config : Option RunConfig) : Engine × Goal :=
  match p.wants request with
  | .error f => (e, .over (.fault f))
  | .ok false => (e, .over .notTriggered)
  | .ok true =>
    if (e.active? id).isSome then (e, .over (.fault (alreadyActive id)))
    else e.launchInSteps id p config

/-- Whoever enters an id that is not active and strikes it out again leaves the register as it was. -/
theorem strike_append (h : id ∉ e.activeIds) (k : Nat) :
    strike (e.register ++ [(id, k)]) id = e.register := by
  have hothers : e.register.filter (fun c => c.1 ≠ id) = e.register := by
    refine List.filter_eq_self.2 fun c hc => decide_eq_true fun hid => ?_
    exact h (hid ▸ List.mem_map_of_mem hc)
  rw [strike, List.filter_append, hothers]
  simp

theorem launchInSteps_eq (h : id ∉ e.activeIds) (p : Pipeline) (config : Option RunConfig) :
    e.launchInSteps id p config = e.launch id p config := by
  unfold launchInSteps launch
  cases (Run.create id p (config.getD {})).execute with
  | error f =>
      have hstruck : strike ((e.create id p config).register ++ [(id, e.runs.length)]) id =
          (e.create id p config).register := strike_append h _
      simp only [hstruck]
  | ok r => rfl

/-- A call comes to the same with all its steps. -/
theorem runInSteps_eq (e : Engine) (id : String) (p : Pipeline) (request : Request)
    (config : Option RunConfig) :
    e.runInSteps id p request config = e.run id p request config := by
  cases hwants : p.wants request with
  | error f => simp only [runInSteps, run, hwants]
  | ok wanted =>
      cases wanted with
      | false => simp only [runInSteps, run, hwants]
      | true =>
          by_cases hactive : (e.active? id).isSome = true
          · simp only [runInSteps, run, hwants, if_pos hactive]
          · have hid : id ∉ e.activeIds := mt isSome_active?_iff.2 hactive
            simp only [runInSteps, run, hwants, if_neg hactive, launchInSteps_eq hid]

/-! ### Nothing has happened -/

/-- An engine in which nothing has happened but that runs were made, which nobody has begun. -/
structure OnlyCreates (e e' : Engine) : Prop where
  register : e'.register = e.register
  tasks : e'.tasks = e.tasks
  runs : ∃ idle, e'.runs = e.runs ++ idle ∧ ∀ r ∈ idle, ∃ id p c, r = Run.create id p c

theorem OnlyCreates.refl (e : Engine) : e.OnlyCreates e :=
  ⟨rfl, rfl, [], (List.append_nil _).symm, List.forall_mem_nil _⟩

theorem onlyCreates_create (e : Engine) (id : String) (p : Pipeline) (config : Option RunConfig) :
    e.OnlyCreates (e.create id p config) :=
  ⟨rfl, rfl, _, rfl, fun _ hr => ⟨id, p, _, List.mem_singleton.1 hr⟩⟩

namespace OnlyCreates

/-- Every run is as it was, with its reports, its slots, its calls and its measurements. -/
theorem getElem?_runs (h : e.OnlyCreates e') {k : Nat} {r : Run} (hr : e.runs[k]? = some r) :
    e'.runs[k]? = some r := by
  obtain ⟨idle, hruns, _⟩ := h.runs
  rw [hruns, List.getElem?_append_left (List.getElem?_eq_some_iff.1 hr).1, hr]

/-- A run that was not there was never begun. -/
theorem idle_of_getElem? (h : e.OnlyCreates e') {k : Nat} {r : Run} (hr : e'.runs[k]? = some r)
    (hk : e.runs.length ≤ k) : ∃ id p c, r = Run.create id p c := by
  obtain ⟨idle, hruns, hidle⟩ := h.runs
  rw [hruns, List.getElem?_append_right hk] at hr
  exact hidle r (List.mem_of_getElem? hr)

/-- What no run has at first is the same of all runs. -/
theorem flatMap_eq (h : e.OnlyCreates e') {α : Type} {f : Run → List α}
    (hf : ∀ id p c, f (Run.create id p c) = []) : e'.runs.flatMap f = e.runs.flatMap f := by
  obtain ⟨idle, hruns, hidle⟩ := h.runs
  have hnone : idle.flatMap f = [] := List.flatMap_eq_nil_iff.2 fun r hr => by
    obtain ⟨id, p, c, rfl⟩ := hidle r hr
    exact hf id p c
  rw [hruns, List.flatMap_append, hnone, List.append_nil]

theorem pipelineOf_eq (h : e.OnlyCreates e') {k : Nat} (hk : k < e.runs.length) :
    e'.pipelineOf k = e.pipelineOf k := by
  have hr : e.runs[k]? = some e.runs[k] := List.getElem?_eq_getElem hk
  rw [pipelineOf, pipelineOf, h.getElem?_runs hr, hr]

/-- The same has been measured, in the same orders. -/
theorem noted_iff (h : e.OnlyCreates e') (rs : List Reading) : e'.Noted rs ↔ e.Noted rs := by
  constructor
  · intro hrs
    refine ⟨fun x hx => ?_, fun k r hr => hrs.tally k r (h.getElem?_runs hr)⟩
    by_contra hlt
    obtain ⟨r, hr⟩ : ∃ r, e'.runs[x.run]? = some r :=
      ⟨_, List.getElem?_eq_getElem (hrs.runs x hx)⟩
    -- a run that was never begun has measured nothing
    obtain ⟨id, p, c, rfl⟩ := h.idle_of_getElem? hr (Nat.le_of_not_lt hlt)
    have hnone : Reading.ofRun x.run rs = [] := hrs.tally x.run _ hr
    have hmem : x.what ∈ Reading.ofRun x.run rs :=
      List.mem_map_of_mem (List.mem_filter.2 ⟨hx, beq_self_eq_true _⟩)
    rw [hnone] at hmem
    cases hmem
  · intro hrs
    obtain ⟨idle, hruns, _⟩ := h.runs
    refine ⟨fun x hx => ?_, fun k r hr => ?_⟩
    · have hlt := hrs.runs x hx
      rw [hruns, List.length_append]
      exact Nat.lt_add_right _ hlt
    · by_cases hk : k < e.runs.length
      · have hold : e.runs[k]? = some e.runs[k] := List.getElem?_eq_getElem hk
        obtain rfl := Option.some.inj ((h.getElem?_runs hold).symm.trans hr)
        exact hrs.tally k _ hold
      · obtain ⟨id, p, c, rfl⟩ := h.idle_of_getElem? hr (Nat.le_of_not_lt hk)
        have hnone : rs.filter (fun x => x.run == k) = [] := by
          rw [List.filter_eq_nil_iff]
          intro x hx hrun
          exact hk (beq_iff_eq.1 hrun ▸ hrs.runs x hx)
        rw [Reading.ofRun, hnone]
        rfl

/-- The samples are the same, whatever was noted before. -/
theorem noteAll_eq (h : e.OnlyCreates e') {rs : List Reading} (hrs : e.Noted rs)
    (reg : Metrics.Registry) :
    reg.noteAll e'.pipelineOf rs = reg.noteAll e.pipelineOf rs := by
  refine List.foldl_ext _ _ _ fun reg x hx => ?_
  rw [h.pipelineOf_eq (hrs.runs x hx)]

end OnlyCreates

/-- An engine in which nothing has happened to what was there: to the register of active runs, to the
runs with their reports, slots and calls, and to the samples of the metrics. -/
structure Unaffected (e e' : Engine) : Prop where
  register : e'.register = e.register
  tasks : e'.tasks = e.tasks
  runs : ∀ (k : Nat) (r : Run), e.runs[k]? = some r → e'.runs[k]? = some r
  /-- A run that was not there has not begun. -/
  idle : ∀ (k : Nat) (r : Run), e'.runs[k]? = some r → e.runs[k]? = none →
    r.reports = [] ∧ r.log = [] ∧ r.tally = [] ∧ r.pool.active = 0 ∧ r.pool.waiting = []
  reports : e'.runs.flatMap Run.reports = e.runs.flatMap Run.reports
  log : e'.runs.flatMap Run.log = e.runs.flatMap Run.log
  noted : ∀ rs, e'.Noted rs ↔ e.Noted rs
  samples : ∀ rs, e.Noted rs → ∀ reg : Metrics.Registry,
    reg.noteAll e'.pipelineOf rs = reg.noteAll e.pipelineOf rs

theorem OnlyCreates.unaffected (h : e.OnlyCreates e') : e.Unaffected e' where
  register := h.register
  tasks := h.tasks
  runs _ _ := h.getElem?_runs
  idle k r hr hnone := by
    obtain ⟨id, p, c, rfl⟩ := h.idle_of_getElem? hr (List.getElem?_eq_none_iff.1 hnone)
    exact ⟨rfl, rfl, rfl, rfl, rfl⟩
  reports := h.flatMap_eq fun _ _ _ => rfl
  log := h.flatMap_eq fun _ _ _ => rfl
  noted := h.noted_iff
  samples _ := h.noteAll_eq

/-! ### Refusals -/

/-- Why a call is refused, and what it ends with. -/
inductive Refuses (e : Engine) (id : String) (p : Pipeline) (request : Request)
    (config : Option RunConfig) : TaskEnd → Prop
  /-- The request sets nothing off. -/
  | notTriggered (h : p.wants request = .ok false) : Refuses e id p request config .notTriggered
  /-- A schedule of the pipeline cannot be read. -/
  | unreadable {f : Fault} (h : p.wants request = .error f) (hf : f.IsConfig) :
      Refuses e id p request config (.fault f)
  /-- The id is active. -/
  | active (h : p.wants request = .ok true) (hid : id ∈ e.activeIds) :
      Refuses e id p request config (.fault (alreadyActive id))
  /-- The pipeline breaks a rule, or cannot be expanded. -/
  | noPlan {f : Fault} (h : p.wants request = .ok true) (hid : id ∉ e.activeIds)
      (hplan : Run.planOf p (config.getD {}) = .error f) (hf : f.IsConfig) :
      Refuses e id p request config (.fault f)
  /-- The pipeline cannot be expanded, and the numbers that would tell why have too many digits. -/
  | untold (h : p.wants request = .ok true) (hid : id ∉ e.activeIds)
      (hplan : Run.planOf p (config.getD {}) = .error (.value Datum.unshowableText)) :
      Refuses e id p request config (.fault (.value Datum.unshowableText))

/-- A call is refused and leaves no trace, or it is carried out by a run. -/
theorem run_cases (e : Engine) (id : String) (p : Pipeline) (request : Request)
    (config : Option RunConfig) :
    (∃ ending, e.Refuses id p request config ending ∧
      (e.run id p request config).2 = .over ending ∧
      e.OnlyCreates (e.run id p request config).1) ∨
    ∃ k, (e.run id p request config).2 = .run k 0 := by
  cases hwants : p.wants request with
  | error f =>
      have hrun : e.run id p request config = (e, .over (.fault f)) := by simp only [run, hwants]
      rw [hrun]
      exact .inl ⟨_, .unreadable hwants (Pipeline.isConfig_of_wants hwants), rfl, .refl e⟩
  | ok wanted =>
      cases wanted with
      | false =>
          have hrun : e.run id p request config = (e, .over .notTriggered) := by
            simp only [run, hwants]
          rw [hrun]
          exact .inl ⟨_, .notTriggered hwants, rfl, .refl e⟩
      | true =>
          by_cases hid : id ∈ e.activeIds
          · obtain ⟨hsame, hover⟩ := run_of_active hid p request config
            rw [hsame]
            exact .inl ⟨_, .active hwants hid, hover hwants, .refl e⟩
          · have hrun : e.run id p request config = e.launch id p config := by
              have hactive : ¬ (e.active? id).isSome = true := mt isSome_active?_iff.1 hid
              simp only [run, hwants, if_neg hactive]
            rw [hrun]
            cases hexecute : (Run.create id p (config.getD {})).execute with
            | error f =>
                have hlaunch : e.launch id p config = (e.create id p config, .over (.fault f)) := by
                  simp only [launch, hexecute]
                have hplan := Run.execute_eq_error_iff.1 hexecute
                rw [hlaunch]
                have hrefuses : e.Refuses id p request config (.fault f) := by
                  rcases Run.isObjection_of_planOf hplan with hconfig | rfl
                  · exact .noPlan hwants hid hplan hconfig
                  · exact .untold hwants hid hplan
                exact .inl ⟨_, hrefuses, rfl, onlyCreates_create e id p config⟩
            | ok r =>
                refine .inr ⟨e.runs.length, ?_⟩
                simp only [launch, hexecute]

/-- **A call that is refused leaves no trace.**  If a call ever comes back because its request sets
nothing off, or with a fault, then at once, for one of the known reasons, and with everything as it
was, although its id may have stood in the register meanwhile. -/
theorem unaffected_of_refused {later : Engine} {ending : TaskEnd}
    (hend : later.taskEnd? (e.run id p request config).2 = some ending)
    (hrefused : ending = .notTriggered ∨ ∃ f, ending = .fault f) :
    e.Refuses id p request config ending ∧
    e.run id p request config = ((e.run id p request config).1, .over ending) ∧
    e.runInSteps id p request config = e.run id p request config ∧
    e.Unaffected (e.run id p request config).1 := by
  rcases e.run_cases id p request config with ⟨ending', hrefuses, hover, hsame⟩ | ⟨k, hrun⟩
  · obtain rfl : ending' = ending := by simpa [hover, taskEnd?] using hend
    exact ⟨hrefuses, Prod.ext rfl hover, runInSteps_eq .., hsame.unaffected⟩
  · -- what is carried out ends with a status, or is called off
    rw [hrun, taskEnd?] at hend
    obtain ⟨x, -, hx⟩ := Option.map_eq_some_iff.1 hend
    rcases hrefused with rfl | ⟨f, rfl⟩ <;> cases x <;> cases hx

/-- While a pipeline is carried out, a second call under its id is refused, and so is a call with a
pipeline that breaks rules. -/
theorem unaffected_of_sameId :
    ∃ e : Engine,
      ({} : Engine).afterAll [.run "first" "same" Run.buildThenTest (.manual {}) none] = some e ∧
      e.activeIds = ["same"] ∧ (∀ r ∈ e.runs, r.log ≠ []) ∧
      e.Unaffected (e.run "same" Run.buildThenTest (.manual {}) none).1 ∧
      ∃ f : Fault, f.IsConfig ∧ (e.run "other" untidy (.manual {}) none).2 = .over (.fault f) ∧
        (e.run "other" untidy (.manual {}) none).1.runs.length = 2 ∧
        e.Unaffected (e.run "other" untidy (.manual {}) none).1 := by
  have hfirst : (({} : Engine).afterAll
      [.run "first" "same" Run.buildThenTest (.manual {}) none]).any (fun e =>
        e.activeIds == ["same"] && (e.runs.all (!·.log.isEmpty) &&
          (e.run "other" untidy (.manual {}) none).1.runs.length == 2)) = true := by
    decide +kernel
  obtain ⟨e, he, hcond⟩ := (Option.any_eq_true _ _).1 hfirst
  obtain ⟨hactive, hcond⟩ := Bool.and_eq_true_iff.1 hcond
  obtain ⟨hlog, hlength⟩ := Bool.and_eq_true_iff.1 hcond
  have hactive : e.activeIds = ["same"] := beq_iff_eq.1 hactive
  refine ⟨e, he, hactive, fun r hr => ?_, ?_, ?_⟩
  · simpa using List.all_eq_true.1 hlog r hr
  · have hid : "same" ∈ e.activeIds := by simp [hactive]
    have hover := (run_of_active hid Run.buildThenTest (.manual {}) none).2 rfl
    have hend : e.taskEnd? (e.run "same" Run.buildThenTest (.manual {}) none).2 =
        some (.fault (alreadyActive "same")) := by
      rw [hover]
      rfl
    exact (unaffected_of_refused hend (.inr ⟨_, rfl⟩)).2.2.2
  · have hid : "other" ∉ e.activeIds := by simp [hactive]
    have hplan : ∃ f, f.IsConfig ∧ Run.planOf untidy (Option.getD none {}) = .error f := by
      have hnone : untidy.validate.toOption.isNone = true := by decide +kernel
      cases hvalid : untidy.validate with
      | ok u => exact absurd hnone (by rw [hvalid]; exact Bool.false_ne_true)
      | error f => exact ⟨f, Pipeline.isConfig_of_validate hvalid, by rw [Run.planOf, hvalid]; rfl⟩
    obtain ⟨f, hconfig, hplan⟩ := hplan
    have hover : (e.run "other" untidy (.manual {}) none).2 = .over (.fault f) :=
      (run_of_no_plan hid rfl hplan).2
    have hend : e.taskEnd? (e.run "other" untidy (.manual {}) none).2 = some (.fault f) := by
      rw [hover]
      rfl
    exact ⟨f, hconfig, hover, beq_iff_eq.1 hlength,
      (unaffected_of_refused hend (.inr ⟨_, rfl⟩)).2.2.2⟩

end Engine

end Conveyor
