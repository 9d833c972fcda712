/-
**The instances of a pipeline, numbered through.**

Before anything is expanded, the sizes of all jobs are compared with the cap, so that the first job
that is too large is told whatever else is wrong.  The stages are then expanded one after the other.
The instances of all stages together are numbered without a gap, in the order of stages, jobs and
choices.

Main definitions:

* `Conveyor.Pipeline.placedJobs` — the jobs of a pipeline, each with its stage;
* `Conveyor.Pipeline.reportsOf` — the reports of stages, with instances that are numbered through;
* `Conveyor.Pipeline.oversize?` — the first job that is too large;
* `Conveyor.Pipeline.IsUntold` — a pipeline whose first job that is too large cannot be told.

Main results:

* `Conveyor.Stage.map_index_instancesOf`, `Conveyor.Pipeline.map_index_reportsOf` — the numbers have no
  gap;
* `Conveyor.Pipeline.expand_of_oversize` — the first job that is too large is told;
* `Conveyor.Pipeline.expand_eq_ok_iff` — the pipelines that can be expanded;
* `Conveyor.Pipeline.expand_numbered` — **which pipelines can be expanded, and how their instances are
  numbered and named**;
* `Conveyor.Pipeline.exists_oversize_pipeline_not_isConfig` — a job that cannot be told.
-/

import Conveyor.Proofs.Matrix.Collision

set_option autoImplicit false

namespace Conveyor

/-! ### Checks in order -/

section
variable {ε α β : Type}

/-- Checks of the parts of members are checks of all parts. -/
theorem forM_forM {f : α → β → Except ε Unit} {g : α → List β} {xs : List α} :
    (xs.forM fun x => (g x).forM (f x)) =
      (xs.flatMap fun x => (g x).map (x, ·)).forM fun p => f p.1 p.2 := by
  induction xs with
  | nil => rfl
  | cons x xs ih =>
      simp only [List.forM_eq_forM] at ih ⊢
      rw [List.flatMap_cons, List.forM_append, List.forM_map, List.forM_cons, ih]

end

/-! ### Numbers without a gap -/

/-- So many numbers in a row, from a start on. -/
def numbersFrom (start : Int) (count : Nat) : List Int :=
  (List.range count).map fun k : Nat => start + k

theorem numbersFrom_add (start : Int) (m n : Nat) :
    numbersFrom start (m + n) = numbersFrom start m ++ numbersFrom (start + m) n := by
  simp only [numbersFrom, List.range_add, List.map_append, List.map_map, Function.comp_def,
    Int.natCast_add, Int.add_assoc]

theorem Job.map_index_instances (j : Job) (stageName : String) (start : Int) :
    (j.instances stageName start).map JobInstance.index = numbersFrom start j.matrixSize := by
  refine List.ext_getElem? fun n => ?_
  rw [List.getElem?_map, numbersFrom, List.getElem?_map]
  rcases Nat.lt_or_ge n j.matrixSize with h | h
  · rw [getElem?_instances h, List.getElem?_range h]
    rfl
  · rw [List.getElem?_eq_none (by rwa [length_instances]),
      List.getElem?_eq_none (by rwa [List.length_range])]
    rfl

namespace Stage

theorem map_index_instancesOf (stageName : String) (start : Int) (jobs : List Job) :
    (instancesOf stageName start jobs).map JobInstance.index =
      numbersFrom start (total (jobs.map Job.matrixSize)) := by
  induction jobs generalizing start with
  | nil => rfl
  | cons j jobs ih =>
      rw [instancesOf, List.map_append, Job.map_index_instances, ih, List.map_cons, total,
        numbersFrom_add]

theorem length_instancesOf (stageName : String) (start : Int) (jobs : List Job) :
    (instancesOf stageName start jobs).length = total (jobs.map Job.matrixSize) := by
  rw [← List.length_map JobInstance.index, map_index_instancesOf, numbersFrom, List.length_map,
    List.length_range]

/-- Each job has as many instances as its matrix has choices, in the order of the jobs. -/
theorem map_job_instancesOf (stageName : String) (start : Int) (jobs : List Job) :
    (instancesOf stageName start jobs).map JobInstance.job =
      jobs.flatMap fun j => List.replicate j.matrixSize j := by
  induction jobs generalizing start with
  | nil => rfl
  | cons j jobs ih =>
      have hjob : (j.instances stageName start).map JobInstance.job =
          List.replicate j.matrixSize j := by
        rw [List.eq_replicate_iff, List.length_map, Job.length_instances]
        refine ⟨rfl, fun k hk => ?_⟩
        obtain ⟨i, hi, rfl⟩ := List.mem_map.1 hk
        exact Job.job_of_mem_instances hi
      rw [instancesOf, List.map_append, hjob, ih, List.flatMap_cons]

theorem Expands.nodup_identities {s : Stage} {cap : Int} (h : s.Expands cap) (start : Int) :
    ((s.report start).instances.map JobInstance.identity).Nodup := by
  rw [report, map_identity_instancesOf, ← map_fst_takingsOf, ← clashes_eq_nil_iff]
  exact (clashes_takings_eq_nil_iff h.jobs).2 h.distinct

end Stage

namespace Pipeline

variable {p : Pipeline} {cap start : Int} {stages : List Stage}

/-- The jobs of a pipeline in order, each with its stage. -/
def placedJobs (p : Pipeline) : List (Stage × Job) := p.stages.flatMap fun s => s.jobs.map (s, ·)

/-- The reports of stages, with instances that are numbered through from an index on. -/
def reportsOf : Int → List Stage → List StageReport
  | _, [] => []
  | start, s :: rest =>
    s.report start :: reportsOf (start + (s.report start).instances.length) rest

/-- How many instances stages have. -/
def instanceCount (stages : List Stage) : Nat :=
  total (stages.map fun s => total (s.jobs.map Job.matrixSize))

theorem map_index_reportsOf (start : Int) (stages : List Stage) :
    ((reportsOf start stages).flatMap StageReport.instances).map JobInstance.index =
      numbersFrom start (instanceCount stages) := by
  induction stages generalizing start with
  | nil => rfl
  | cons s stages ih =>
      have hcount : instanceCount (s :: stages) =
          total (s.jobs.map Job.matrixSize) + instanceCount stages := rfl
      rw [reportsOf, List.flatMap_cons, List.map_append, ih, hcount, numbersFrom_add, Stage.report,
        Stage.map_index_instancesOf, Stage.length_instancesOf]

theorem total_placedJobs (p : Pipeline) :
    total (p.placedJobs.map fun x => x.2.matrixSize) = instanceCount p.stages := by
  rw [placedJobs, instanceCount]
  induction p.stages with
  | nil => rfl
  | cons s stages ih =>
      rw [List.flatMap_cons, List.map_append, total_append, ih, List.map_map]
      rfl

/-! ### Expansion -/

theorem expandFrom_eq_ok_iff {reports : List StageReport} :
    expandFrom cap start stages = .ok reports ↔
      (∀ s ∈ stages, s.Expands cap) ∧ reports = reportsOf start stages := by
  induction stages generalizing start reports with
  | nil =>
      rw [expandFrom]
      simp [reportsOf, eq_comm]
  | cons s stages ih =>
      rw [expandFrom, bind_eq_ok_iff, List.forall_mem_cons]
      constructor
      · rintro ⟨first, hfirst, hrest⟩
        obtain ⟨hs, rfl⟩ := Stage.expand_eq_ok_iff.1 hfirst
        obtain ⟨more, hmore, hdone⟩ := bind_eq_ok_iff.1 hrest
        obtain ⟨hstages, rfl⟩ := ih.1 hmore
        cases hdone
        exact ⟨⟨hs, hstages⟩, rfl⟩
      · rintro ⟨⟨hs, hstages⟩, rfl⟩
        exact ⟨_, Stage.expand_eq_ok_iff.2 ⟨hs, rfl⟩,
          bind_eq_ok_iff.2 ⟨_, ih.2 ⟨hstages, rfl⟩, rfl⟩⟩

/-- The pipelines that can be expanded. -/
theorem expand_eq_ok_iff {reports : List StageReport} :
    p.expand cap = .ok reports ↔
      (∀ s ∈ p.stages, s.Expands cap) ∧ reports = reportsOf 0 p.stages := by
  rw [expand, bind_eq_ok_iff]
  constructor
  · rintro ⟨_, -, h⟩
    exact expandFrom_eq_ok_iff.1 h
  · intro h
    refine ⟨(), forM_eq_ok fun s hs => forM_eq_ok fun j hj => ?_, expandFrom_eq_ok_iff.2 h⟩
    exact Job.checkCap_eq_ok_iff.2 ((h.1 s hs).jobs j hj).within

theorem exists_expand_iff :
    (∃ reports, p.expand cap = .ok reports) ↔ ∀ s ∈ p.stages, s.Expands cap := by
  simp only [expand_eq_ok_iff, exists_and_left, exists_eq, and_true]

/-- What holds of each stage and its report, whatever the number it begins with. -/
theorem forall₂_report {R : Stage → StageReport → Prop} (start : Int)
    (h : ∀ s ∈ stages, ∀ n, R s (s.report n)) : List.Forall₂ R stages (reportsOf start stages) := by
  induction stages generalizing start with
  | nil => exact .nil
  | cons s stages ih =>
      obtain ⟨hs, hstages⟩ := List.forall_mem_cons.1 h
      exact .cons (hs start) (ih _ hstages)

theorem forall₂_reportsOf (h : ∀ s ∈ stages, s.Expands cap) (start : Int) :
    List.Forall₂ (fun (s : Stage) (r : StageReport) => r.name = s.name ∧ r.status = .pending ∧
      r.instances.map JobInstance.job = (s.jobs.flatMap fun j => List.replicate j.matrixSize j) ∧
      (r.instances.map JobInstance.identity).Nodup) stages (reportsOf start stages) :=
  forall₂_report start fun s hs n =>
    ⟨rfl, rfl, Stage.map_job_instancesOf .., (h s hs).nodup_identities n⟩

/-- The first job that is too large. -/
def oversize? (p : Pipeline) (cap : Int) : Option (Stage × Job) :=
  p.placedJobs.find? fun x => cap < x.2.matrixSize

/-- The first job that is too large is told, whatever else is wrong. -/
theorem expand_of_oversize {s : Stage} {j : Job} (h : p.oversize? cap = some (s, j)) :
    j.checkCap cap s.name = .error (j.capFault cap s.name) ∧
      p.expand cap = .error (j.capFault cap s.name) := by
  obtain ⟨hcap, before, after, hsplit, hbefore⟩ := List.find?_eq_some_iff_append.1 h
  have hcheck : j.checkCap cap s.name = .error (j.capFault cap s.name) :=
    Job.checkCap_of_lt (of_decide_eq_true hcap)
  have hcaps : (p.stages.forM fun s => s.jobs.forM fun j => j.checkCap cap s.name) =
      (.error (j.capFault cap s.name) : Except Fault Unit) := by
    rw [forM_forM, forM_eq_error_iff]
    refine ⟨before, (s, j), after, hsplit, fun x hx => ?_, hcheck⟩
    exact Job.checkCap_eq_ok_iff.2 (by simpa using hbefore x hx)
  -- The sizes are compared before anything else is looked at.
  rw [expand]
  exact ⟨hcheck, congrArg (· >>= fun _ => expandFrom cap 0 p.stages) hcaps⟩

theorem within_of_oversize_eq_none (h : p.oversize? cap = none) :
    ∀ s ∈ p.stages, ∀ j ∈ s.jobs, j.matrixSize ≤ cap := by
  intro s hs j hj
  have hmem : (s, j) ∈ p.placedJobs :=
    List.mem_flatMap.2 ⟨s, hs, List.mem_map.2 ⟨j, hj, rfl⟩⟩
  simpa using List.find?_eq_none.1 h _ hmem

/-- A pipeline whose first job that is too large cannot be told. -/
def IsUntold (p : Pipeline) (cap : Int) : Prop :=
  ∃ s j, p.oversize? cap = some (s, j) ∧ ¬ j.CapIsWritten cap

theorem IsUntold.expand (h : p.IsUntold cap) :
    p.expand cap = .error (.value Datum.unshowableText) := by
  obtain ⟨s, j, hfirst, hunwritten⟩ := h
  rw [(expand_of_oversize hfirst).2, Job.capFault_of_not_written hunwritten]

/-- Any other pipeline fails because of its configuration. -/
theorem isConfig_of_expand {f : Fault} (h : ¬ p.IsUntold cap) (hf : p.expand cap = .error f) :
    f.IsConfig := by
  cases hfirst : p.oversize? cap with
  | some x =>
      obtain ⟨s, j⟩ := x
      obtain rfl := Except.error.inj ((expand_of_oversize hfirst).2.symm.trans hf)
      exact Job.isConfig_capFault_iff.2 (Classical.byContradiction fun hnot => h ⟨s, j, hfirst, hnot⟩)
  | none =>
      have hwithin := within_of_oversize_eq_none hfirst
      refine failsWith_expand (fun _ => id) (fun s hs j hj => ?_) f hf
      exact Job.failsWith_checkCap_iff.2 fun hcap => absurd hcap (Int.not_lt.2 (hwithin s hs j hj))

theorem exists_isConfig_expand_iff : (∃ f, f.IsConfig ∧ p.expand cap = .error f) ↔
    (∃ f, p.expand cap = .error f) ∧ ¬ p.IsUntold cap := by
  constructor
  · rintro ⟨f, hconfig, hf⟩
    refine ⟨⟨f, hf⟩, fun h => ?_⟩
    obtain rfl := Except.error.inj (h.expand.symm.trans hf)
    exact Fault.not_isConfig_value _ hconfig
  · rintro ⟨⟨f, hf⟩, h⟩
    exact ⟨f, isConfig_of_expand h hf, hf⟩

/-- Stages cannot all be expanded when a job is too large or fails otherwise, or two jobs of one stage
want the same identity. -/
theorem not_forall_expands_iff :
    (¬ ∀ s ∈ stages, s.Expands cap) ↔
      (∃ s ∈ stages, ∃ j ∈ s.jobs, cap < j.matrixSize) ∨
      (∃ s ∈ stages, ∃ j ∈ s.jobs, ∃ f, j.expand s.name cap 0 = .error f) ∨
      ∃ s ∈ stages, s.SharesIdentity := by
  constructor
  · intro h
    refine Classical.byContradiction fun hnone => h fun s hs => ?_
    simp only [not_or, not_exists, not_and] at hnone
    refine ⟨fun j hj => ?_, hnone.2.2 s hs⟩
    have hown : ¬ ∃ f, j.expand s.name cap 0 = .error f :=
      fun ⟨f, hf⟩ => hnone.2.1 s hs j hj f hf
    rw [exists_error_iff, not_not] at hown
    exact (Job.exists_expand_iff _ _).1 hown
  · rintro (⟨s, hs, j, hj, hcap⟩ | ⟨s, hs, j, hj, f, hf⟩ | ⟨s, hs, hshares⟩) h
    · exact Int.not_le.2 hcap ((h s hs).jobs j hj).within
    · exact exists_error_iff.1 ⟨f, hf⟩ ((Job.exists_expand_iff _ _).2 ((h s hs).jobs j hj))
    · exact (h s hs).distinct hshares

/-- **Which pipelines can be expanded, and how their instances are numbered and named**: the first job
that is too large is told whatever else is wrong; a pipeline fails just when a job is too large or
fails by itself or two jobs of one stage want the same identity.  It fails because of its
configuration, unless the first job that is too large cannot be told.  Otherwise there is one report
for each stage, with the instances of its jobs in order, whose identities are different, and all
instances together are numbered from zero on without a gap. -/
theorem expand_numbered (p : Pipeline) (cap : Int) :
    (∀ s j, p.oversize? cap = some (s, j) →
      j.checkCap cap s.name = .error (j.capFault cap s.name) ∧
      p.expand cap = .error (j.capFault cap s.name) ∧
      (j.CapIsWritten cap → (j.capFault cap s.name).IsConfig ∧
        (j.capFault cap s.name).details = [("size", .int j.matrixSize), ("cap", .int cap)]) ∧
      (¬ j.CapIsWritten cap → j.capFault cap s.name = .value Datum.unshowableText)) ∧
    ((∃ f, f.IsConfig ∧ p.expand cap = .error f) ↔
      ((∃ s ∈ p.stages, ∃ j ∈ s.jobs, cap < j.matrixSize) ∨
      (∃ s ∈ p.stages, ∃ j ∈ s.jobs, ∃ f, j.expand s.name cap 0 = .error f) ∨
      ∃ s ∈ p.stages, s.SharesIdentity) ∧ ¬ p.IsUntold cap) ∧
    ((∃ f, p.expand cap = .error f) ↔
      (∃ s ∈ p.stages, ∃ j ∈ s.jobs, cap < j.matrixSize) ∨
      (∃ s ∈ p.stages, ∃ j ∈ s.jobs, ∃ f, j.expand s.name cap 0 = .error f) ∨
      ∃ s ∈ p.stages, s.SharesIdentity) ∧
    ∀ reports, p.expand cap = .ok reports →
      List.Forall₂ (fun (s : Stage) (r : StageReport) => r.name = s.name ∧ r.status = .pending ∧
        r.instances.map JobInstance.job = (s.jobs.flatMap fun j => List.replicate j.matrixSize j) ∧
        (r.instances.map JobInstance.identity).Nodup) p.stages reports ∧
      (∀ s ∈ p.stages, ∀ j ∈ s.jobs, j.matrixSize ≤ cap) ∧
      (reports.flatMap StageReport.instances).map JobInstance.index =
        (List.range (total (p.placedJobs.map fun x => x.2.matrixSize))).map Int.ofNat := by
  have hfails : (∃ f, p.expand cap = .error f) ↔
      (∃ s ∈ p.stages, ∃ j ∈ s.jobs, cap < j.matrixSize) ∨
      (∃ s ∈ p.stages, ∃ j ∈ s.jobs, ∃ f, j.expand s.name cap 0 = .error f) ∨
      ∃ s ∈ p.stages, s.SharesIdentity := by
    rw [exists_error_iff, exists_expand_iff, not_forall_expands_iff]
  refine ⟨?_, ?_, hfails, ?_⟩
  · intro s j hfirst
    exact ⟨(expand_of_oversize hfirst).1, (expand_of_oversize hfirst).2, Job.capFault_of_written,
      Job.capFault_of_not_written⟩
  · rw [exists_isConfig_expand_iff, hfails]
  · intro reports hreports
    obtain ⟨hstages, rfl⟩ := expand_eq_ok_iff.1 hreports
    refine ⟨forall₂_reportsOf hstages 0, fun s hs j hj => ((hstages s hs).jobs j hj).within, ?_⟩
    rw [map_index_reportsOf, ← total_placedJobs]
    simp [numbersFrom]

/-- A pipeline of two stages; the job of the second one has five instances. -/
def sharded : Pipeline :=
  { name := "ci"
    stages := [
      { name := "check"
        jobs := [{ name := "lint", matrix := [⟨"py", ["3.12", "3.13"]⟩] }, { name := "docs" }] },
      { name := "test", jobs := [{ name := "shard", matrix := [⟨"n", ["0", "1", "2", "3", "4"]⟩] }] }] }

/-- A cap of three is exceeded by that job, and under a cap of five the eight instances are numbered
through. -/
theorem expand_numbered_sharded :
    (∃ f, f.details = [("size", .int 5), ("cap", .int 3)] ∧ sharded.expand 3 = .error f) ∧
    ∃ reports, sharded.expand 5 = .ok reports ∧ reports.map StageReport.name = ["check", "test"] ∧
      (reports.flatMap StageReport.instances).map JobInstance.index = [0, 1, 2, 3, 4, 5, 6, 7] := by
  constructor
  · obtain ⟨-, hf, hwritten, -⟩ := (expand_numbered sharded 3).1 _ _ rfl
    exact ⟨_, (hwritten (by decide +kernel)).2, hf⟩
  · obtain ⟨reports, hreports⟩ : ∃ reports, sharded.expand 5 = .ok reports := ⟨_, rfl⟩
    obtain ⟨-, -, hindex⟩ := (expand_numbered sharded 5).2.2.2 reports hreports
    exact ⟨reports, hreports, by cases hreports; rfl, hindex⟩

/-- A pipeline of a single job. -/
def ofJob (j : Job) : Pipeline := { name := "ci", stages := [{ name := "test", jobs := [j] }] }

theorem oversize?_ofJob {j : Job} (h : cap < j.matrixSize) :
    (ofJob j).oversize? cap = some ({ name := "test", jobs := [j] }, j) :=
  List.find?_cons_of_pos (decide_eq_true h)

theorem isUntold_ofJob {j : Job} (h : j.IsUntold cap) : (ofJob j).IsUntold cap :=
  ⟨_, _, oversize?_ofJob h.exceeds, h.unwritten⟩

/-- The only job of this pipeline is too large, and that is no fault of its configuration. -/
theorem exists_oversize_pipeline_not_isConfig :
    ∃ (p : Pipeline) (s : Stage) (j : Job), p.oversize? 256 = some (s, j) ∧
      ¬ ∃ f, f.IsConfig ∧ p.expand 256 = .error f := by
  have huntold := Job.isUntold_tenfold (show (256 : Int) < Datum.hugeBound by decide +kernel)
  exact ⟨_, _, _, oversize?_ofJob huntold.exceeds,
    fun hconfig => (exists_isConfig_expand_iff.1 hconfig).2 (isUntold_ofJob huntold)⟩

end Pipeline

end Conveyor
