/-
**What is checked before anything is carried out.**

A catalog that keeps all rules has nothing but triggers whose patterns can be read, so that no
request fails to be compared with them.  Whatever else is found out before the first pipeline is
started is a fault of the configuration, unless it has to tell a number of too many digits.

Main definitions:

* `Conveyor.Fault.IsConfig` — a fault of the configuration;
* `Conveyor.Fault.IsObjection` — what is objected to definitions;
* `Conveyor.Job.CapIsWritten` — a job whose size can be told together with the cap;
* `Conveyor.Catalog.IsValid` — no pipeline of the catalog breaks a rule, and neither do all of them
  together;
* `Conveyor.Catalog.wanted` — the pipelines that a request sets off.

Main results:

* `Conveyor.Pipeline.exists_wants` — a pipeline that breaks no rule can be compared with every
  request;
* `Conveyor.Job.isConfig_capFault_iff` — when the fault of a cap is one of the configuration;
* `Conveyor.Pipeline.failsWith_expand` — a pipeline fails to be expanded because of its
  configuration, or with the fault of a cap;
* `Conveyor.Engine.selection_of_valid`, `Conveyor.Engine.selection_eq_error_iff` — **what is
  selected, or why nothing is**.
-/

import Conveyor.Engine.Engine
import Conveyor.Proofs.Failing
import Conveyor.Proofs.Structure

set_option autoImplicit false

namespace Conveyor

/-! ### Checks of all members of a list -/

section
variable {ε α : Type} {f : α → Except ε Unit} {xs : List α}

theorem forM_cons_eq (x : α) : (x :: xs).forM f = f x >>= fun _ => xs.forM f := rfl

/-- A check of all members fails with the first one that fails. -/
theorem forM_eq_error_iff {d : ε} :
    xs.forM f = .error d ↔ ∃ before x after, xs = before ++ x :: after ∧
      (∀ y ∈ before, f y = .ok ()) ∧ f x = .error d := by
  induction xs with
  | nil =>
      constructor
      · intro h
        cases h
      · rintro ⟨before, x, after, hsplit, -⟩
        cases before <;> cases hsplit
  | cons y xs ih =>
      rw [forM_cons_eq]
      cases hy : f y with
      | error d' =>
          constructor
          · intro h
            exact ⟨[], y, xs, rfl, List.forall_mem_nil _, hy.trans (congrArg _ (Except.error.inj h))⟩
          · rintro ⟨before, x, after, hsplit, hbefore, hx⟩
            cases before with
            | nil =>
                obtain ⟨rfl, -⟩ := List.cons.inj hsplit
                exact congrArg _ (Except.error.inj (hy.symm.trans hx))
            | cons z before =>
                obtain ⟨rfl, -⟩ := List.cons.inj hsplit
                cases hy.symm.trans (hbefore y (List.mem_cons_self ..))
      | ok u =>
          refine ih.trans ⟨?_, ?_⟩
          · rintro ⟨before, x, after, rfl, hbefore, hx⟩
            exact ⟨y :: before, x, after, rfl, List.forall_mem_cons.2 ⟨hy, hbefore⟩, hx⟩
          · rintro ⟨before, x, after, hsplit, hbefore, hx⟩
            cases before with
            | nil =>
                obtain ⟨rfl, -⟩ := List.cons.inj hsplit
                cases hy.symm.trans hx
            | cons z before =>
                obtain ⟨rfl, hrest⟩ := List.cons.inj hsplit
                exact ⟨before, x, after, hrest, fun w hw => hbefore w (List.mem_cons_of_mem _ hw), hx⟩

theorem exists_error_of_forM {d : ε} (h : xs.forM f = .error d) : ∃ x ∈ xs, f x = .error d := by
  obtain ⟨before, x, after, rfl, -, hx⟩ := forM_eq_error_iff.1 h
  exact ⟨x, List.mem_append_right _ (List.mem_cons_self ..), hx⟩

theorem forM_eq_ok (h : ∀ x ∈ xs, f x = .ok ()) : xs.forM f = .ok () := by
  cases hall : xs.forM f with
  | error d =>
      obtain ⟨x, hx, hfx⟩ := exists_error_of_forM hall
      rw [h x hx] at hfx
      cases hfx
  | ok u => rfl

end

/-! ### Faults of the configuration -/

/-- A fault of the configuration. -/
def Fault.IsConfig (f : Fault) : Prop := ∃ violations, f.kind = .config violations

theorem Fault.isConfig_configuration (text : String) (violations : List String) :
    (Fault.configuration text violations).IsConfig := ⟨violations, rfl⟩

theorem Fault.not_isConfig_value (text : String) : ¬ (Fault.value text).IsConfig := by
  rintro ⟨_, h⟩
  cases h

/-- What is objected to definitions: a fault of the configuration, or that numbers in its message have
too many digits to be written. -/
def Fault.IsObjection (f : Fault) : Prop := f.IsConfig ∨ f = .value Datum.unshowableText

namespace Job

variable {j : Job} {cap : Int} {stageName : String}

/-- The fault of a cap can be told: neither of its numbers has too many digits to be written. -/
def CapIsWritten (j : Job) (cap : Int) : Prop :=
  j.matrixSize < Datum.hugeBound ∧ cap.natAbs < Datum.hugeBound

instance (j : Job) (cap : Int) : Decidable (j.CapIsWritten cap) := inferInstanceAs (Decidable (_ ∧ _))

theorem isShowable_and_isShowable_iff : ((Datum.int j.matrixSize).isShowable &&
    (Datum.int cap).isShowable) = true ↔ j.CapIsWritten cap := by
  simp only [Datum.isShowable, Datum.isShowableIn, Bool.and_eq_true, decide_eq_true_eq, CapIsWritten,
    Int.natAbs_natCast]

/-- A cap whose fault can be told is a matter of the configuration, and it is told with the size. -/
theorem capFault_of_written (h : j.CapIsWritten cap) :
    (j.capFault cap stageName).IsConfig ∧
      (j.capFault cap stageName).details = [("size", .int j.matrixSize), ("cap", .int cap)] := by
  rw [capFault, if_pos (isShowable_and_isShowable_iff.2 h)]
  exact ⟨⟨_, rfl⟩, rfl⟩

theorem capFault_of_not_written (h : ¬ j.CapIsWritten cap) :
    j.capFault cap stageName = .value Datum.unshowableText := by
  rw [capFault, if_neg (mt isShowable_and_isShowable_iff.1 h)]

theorem isConfig_capFault_iff : (j.capFault cap stageName).IsConfig ↔ j.CapIsWritten cap := by
  constructor
  · intro h
    refine Classical.byContradiction fun hnot => ?_
    rw [capFault_of_not_written hnot] at h
    exact Fault.not_isConfig_value _ h
  · exact fun h => (capFault_of_written h).1

theorem isObjection_capFault (j : Job) (cap : Int) (stageName : String) :
    (j.capFault cap stageName).IsObjection := by
  by_cases h : j.CapIsWritten cap
  · exact .inl (capFault_of_written h).1
  · exact .inr (capFault_of_not_written h)

theorem checkCap_eq_ok_iff : j.checkCap cap stageName = .ok () ↔ j.matrixSize ≤ cap := by
  rw [checkCap]
  split
  · simp only [reduceCtorEq, false_iff]
    omega
  · simp only [true_iff]
    omega

theorem checkCap_of_lt (h : cap < j.matrixSize) :
    j.checkCap cap stageName = .error (j.capFault cap stageName) := if_pos h

theorem failsWith_checkCap_iff {P : Fault → Prop} : FailsWith P (j.checkCap cap stageName) ↔
    (cap < j.matrixSize → P (j.capFault cap stageName)) := by
  simp [checkCap]

end Job

/-! ### What expansions fail with -/

theorem failsWith_forM {ε α : Type} {P : ε → Prop} {f : α → Except ε Unit} {xs : List α}
    (h : ∀ x ∈ xs, FailsWith P (f x)) : FailsWith P (xs.forM f) := by
  intro e he
  obtain ⟨x, hx, hfx⟩ := exists_error_of_forM he
  exact h x hx e hfx

theorem Job.failsWith_instancesFrom (j : Job) (stageName : String) (n : Int)
    (seen : List (String × List String)) (choices : List (List String)) :
    FailsWith Fault.IsConfig (j.instancesFrom stageName n seen choices) := by
  induction choices generalizing n seen with
  | nil => exact failsWith_ok _
  | cons values rest ih =>
      rw [instancesFrom]
      split
      · exact failsWith_error_iff.2 (Fault.isConfig_configuration _ _)
      · exact failsWith_map_iff.2 (ih _ _)

section
variable {P : Fault → Prop} (hconfig : ∀ f : Fault, f.IsConfig → P f) {cap : Int}
include hconfig

/-- A job fails because of its configuration, or with what the check of the cap fails with. -/
theorem Job.failsWith_expand {j : Job} {stageName : String}
    (hcap : FailsWith P (j.checkCap cap stageName)) (start : Int) :
    FailsWith P (j.expand stageName cap start) := by
  rw [expand]
  split
  · exact failsWith_error_iff.2 (hconfig _ (Fault.isConfig_configuration _ _))
  · exact failsWith_bind_iff.2 ⟨hcap, fun _ _ f hf =>
      hconfig f (j.failsWith_instancesFrom stageName start [] j.choices f hf)⟩

theorem Stage.failsWith_expand {s : Stage} (hcap : ∀ j ∈ s.jobs, FailsWith P (j.checkCap cap s.name))
    (start : Int) : FailsWith P (s.expand cap start) := by
  have hfrom (jobs : List Job) (hjobs : ∀ j ∈ jobs, FailsWith P (j.checkCap cap s.name))
      (kept : List JobInstance) (notes : List String) :
      FailsWith P (s.expandFrom cap start kept notes jobs) := by
    induction jobs generalizing kept notes with
    | nil => exact failsWith_ok _
    | cons j jobs ih =>
        obtain ⟨hj, hrest⟩ := List.forall_mem_cons.1 hjobs
        rw [expandFrom]
        exact failsWith_bind_iff.2 ⟨Job.failsWith_expand hconfig hj _, fun _ _ => ih hrest _ _⟩
  rw [expand]
  exact failsWith_bind_iff.2 ⟨hfrom s.jobs hcap [] [], fun _ _ => failsWith_ite_iff.2
    ⟨fun _ => failsWith_pure _,
      fun _ => failsWith_throw_iff.2 (hconfig _ (Fault.isConfig_configuration _ _))⟩⟩

/-- A pipeline fails because of its configuration, or with what the check of a cap fails with. -/
theorem Pipeline.failsWith_expand {p : Pipeline}
    (hcap : ∀ s ∈ p.stages, ∀ j ∈ s.jobs, FailsWith P (j.checkCap cap s.name)) :
    FailsWith P (p.expand cap) := by
  have hfrom (stages : List Stage)
      (hstages : ∀ s ∈ stages, ∀ j ∈ s.jobs, FailsWith P (j.checkCap cap s.name)) (start : Int) :
      FailsWith P (expandFrom cap start stages) := by
    induction stages generalizing start with
    | nil => exact failsWith_ok _
    | cons s stages ih =>
        obtain ⟨hs, hrest⟩ := List.forall_mem_cons.1 hstages
        rw [expandFrom]
        exact failsWith_bind_iff.2 ⟨Stage.failsWith_expand hconfig hs _, fun _ _ =>
          failsWith_bind_iff.2 ⟨ih hrest _, fun _ _ => failsWith_pure _⟩⟩
  rw [expand]
  exact failsWith_bind_iff.2 ⟨failsWith_forM fun s hs => failsWith_forM (hcap s hs),
    fun _ _ => hfrom p.stages hcap 0⟩

end

/-- What is objected to a pipeline that cannot be expanded. -/
theorem Pipeline.isObjection_of_expand {p : Pipeline} {cap : Int} {f : Fault}
    (h : p.expand cap = .error f) : f.IsObjection :=
  failsWith_expand (fun _ => .inl)
    (fun _ _ j _ => Job.failsWith_checkCap_iff.2 fun _ => j.isObjection_capFault cap _) f h

/-! ### Rules -/

theorem Pipeline.validate_of_violations {p : Pipeline} (h : p.violations = []) :
    p.validate = .ok () := by
  simp [validate, h]

/-- A catalog that keeps all rules: its pipelines can be told apart, and none of them breaks a
rule. -/
structure Catalog.IsValid (c : Catalog) : Prop where
  names : c.names.Nodup
  pipelines : ∀ p ∈ c.pipelines, p.violations = []

theorem Catalog.violations_eq_nil_iff (c : Catalog) : c.violations = [] ↔ c.IsValid := by
  rw [violations, List.append_eq_nil_iff, List.map_eq_nil_iff, repeated_eq_nil_iff,
    List.flatMap_eq_nil_iff]
  constructor
  · rintro ⟨hnames, hpipelines⟩
    exact ⟨hnames, hpipelines⟩
  · rintro ⟨hnames, hpipelines⟩
    exact ⟨hnames, hpipelines⟩

theorem Catalog.IsValid.validate {c : Catalog} (h : c.IsValid) : c.validate = .ok () := by
  simp [Catalog.validate, c.violations_eq_nil_iff.2 h]

/-- Any other catalog is refused because of its configuration. -/
theorem Catalog.exists_validate_error {c : Catalog} (h : ¬ c.IsValid) :
    ∃ f, f.IsConfig ∧ c.validate = .error f := by
  refine ⟨_, Fault.isConfig_configuration "Pipeline catalog is invalid" c.violations, ?_⟩
  exact Catalog.validate_eq_error_iff.2 ⟨mt c.violations_eq_nil_iff.1 h, rfl⟩

/-! ### Triggers -/

/-- A schedule that can be read is due or not. -/
theorem Trigger.exists_isDue {pattern : String} {c : Cron} (h : Cron.parse pattern = .ok c)
    (ref : String) : ∃ b, isDue pattern ref = .ok b := by
  -- by `delta`, since the equation of the definition would read the pattern
  delta isDue
  simp only [h]
  split
  · exact ⟨true, rfl⟩
  · split
    · exact ⟨_, rfl⟩
    · exact ⟨false, rfl⟩

/-- A trigger whose pattern can be read can be compared with every event. -/
theorem Trigger.exists_fires {t : Trigger} (h : t.patternError? = none) (e : Event) :
    ∃ b, t.fires e = .ok b := by
  unfold fires
  split
  · exact ⟨false, rfl⟩
  · split
    · rename_i hkind
      -- a schedule is read once more, and it could be read
      cases hparse : Cron.parse t.pattern with
      | error d => simp [patternError?, hkind, hparse] at h
      | ok c => exact exists_isDue hparse e.ref
    · exact ⟨_, rfl⟩

theorem Pipeline.exists_firingOf {e : Event} {ts : List Trigger}
    (h : ∀ t ∈ ts, t.patternError? = none) : ∃ fired, firingOf e ts = .ok fired := by
  induction ts with
  | nil => exact ⟨[], rfl⟩
  | cons t rest ih =>
      obtain ⟨b, hb⟩ := Trigger.exists_fires (h t (List.mem_cons_self ..)) e
      obtain ⟨more, hmore⟩ := ih fun u hu => h u (List.mem_cons_of_mem _ hu)
      exact ⟨if b then t :: more else more, by simp [firingOf, hb, hmore, bind, Except.bind, pure,
        Except.pure]⟩

/-- A pipeline that breaks no rule can be compared with every request. -/
theorem Pipeline.exists_wants {p : Pipeline} (h : p.violations = []) (request : Request) :
    ∃ b, p.wants request = .ok b := by
  cases request with
  | manual m => exact ⟨true, rfl⟩
  | event e =>
      obtain ⟨fired, hfired⟩ := exists_firingOf (e := e) fun t ht =>
        Trigger.patternError?_eq_none_iff.2 ((violations_eq_nil_iff.1 h).triggers t ht)
      exact ⟨!fired.isEmpty, by simp [wants, firing, hfired, Except.map]⟩

/-! ### Selection -/

/-- Whether a request sets off a pipeline, if the two can be compared. -/
def Pipeline.isWanted (p : Pipeline) (request : Request) : Bool :=
  match p.wants request with
  | .ok b => b
  | .error _ => false

/-- The pipelines of a catalog that a request sets off, in the order of the catalog. -/
def Catalog.wanted (c : Catalog) (request : Request) : List Pipeline :=
  c.pipelines.filter (·.isWanted request)

theorem Catalog.wants_of_mem_wanted {c : Catalog} {request : Request} {p : Pipeline}
    (h : p ∈ c.wanted request) : p.wants request = .ok true := by
  have hwanted : p.isWanted request = true := (List.mem_filter.1 h).2
  unfold Pipeline.isWanted at hwanted
  split at hwanted
  · rename_i b hb
    rw [hb, hwanted]
  · cases hwanted

theorem Pipeline.selectFrom_eq {request : Request} {ps : List Pipeline}
    (h : ∀ p ∈ ps, ∃ b, p.wants request = .ok b) :
    selectFrom request ps = .ok (ps.filter (·.isWanted request)) := by
  induction ps with
  | nil => rfl
  | cons p rest ih =>
      obtain ⟨b, hb⟩ := h p (List.mem_cons_self ..)
      have hrest := ih fun q hq => h q (List.mem_cons_of_mem _ hq)
      have hwanted : p.isWanted request = b := by simp [isWanted, hb]
      simp only [selectFrom, hb, hrest, bind, Except.bind, pure, Except.pure, List.filter_cons,
        hwanted]

/-- The pipelines of a valid catalog that a request sets off. -/
theorem Catalog.IsValid.select {c : Catalog} (h : c.IsValid) (request : Request) :
    c.select request = .ok (c.wanted request) :=
  Pipeline.selectFrom_eq fun p hp => Pipeline.exists_wants (h.pipelines p hp) request

namespace Engine

/-- **What is selected** of a catalog that is valid, if all that its request sets off can be
expanded. -/
theorem selection_of_valid {c : Catalog} {request : Request} {config : RunConfig} (h : c.IsValid)
    (hexpand : ∀ p ∈ c.wanted request, ∃ stages, p.expand config.matrixCap = .ok stages) :
    selection c request config = .ok (c.wanted request) := by
  have hchecked : ((c.wanted request).forM fun p => do
      let _ ← p.expand config.matrixCap) = (.ok () : Except Fault Unit) := by
    refine forM_eq_ok fun p hp => ?_
    obtain ⟨stages, hstages⟩ := hexpand p hp
    rw [hstages]
    rfl
  simp only [selection, h.validate, h.select request]
  exact congrArg (fun x : Except Fault Unit => x >>= fun _ => pure (c.wanted request)) hchecked

/-- Nothing is selected of a catalog that breaks a rule. -/
theorem exists_selection_error (request : Request) (config : RunConfig) {c : Catalog}
    (h : ¬ c.IsValid) : ∃ f, f.IsConfig ∧ selection c request config = .error f := by
  obtain ⟨f, hconfig, hf⟩ := Catalog.exists_validate_error h
  refine ⟨f, hconfig, ?_⟩
  simp only [selection, hf]
  rfl

/-- **Why nothing is selected** of a catalog that is valid: the first pipeline that the request sets
off and that cannot be expanded tells. -/
theorem selection_eq_error_iff {c : Catalog} {request : Request} {config : RunConfig} {f : Fault}
    (h : c.IsValid) : selection c request config = .error f ↔
      ∃ before p after, c.wanted request = before ++ p :: after ∧
        (∀ q ∈ before, ∃ stages, q.expand config.matrixCap = .ok stages) ∧
        p.expand config.matrixCap = .error f := by
  have hdone {α β : Type} (x : Except Fault α) (b : β) :
      (x >>= fun _ => pure b) = .error f ↔ x = .error f := by
    cases x <;> simp [bind, Except.bind, pure, Except.pure]
  have hpasses (p : Pipeline) : ((do let _ ← p.expand config.matrixCap) : Except Fault Unit) =
      .ok () ↔ ∃ stages, p.expand config.matrixCap = .ok stages := by
    cases p.expand config.matrixCap <;> simp [bind, Except.bind, pure, Except.pure]
  have hchecks : selection c request config = ((c.wanted request).forM fun p => do
      let _ ← p.expand config.matrixCap) >>= fun _ => pure (c.wanted request) := by
    simp only [selection, h.validate, h.select request]
    rfl
  simp only [hchecks, hdone, forM_eq_error_iff, hpasses]

end Engine

end Conveyor
