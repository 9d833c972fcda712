/-
**What a plan promises.**

A plan that is not refused has stages of different names, each with instances of different
identities to which nothing has happened yet, whose services have different names.

Main definitions:

* `Conveyor.StageReport.WellPlanned` — what a plan promises of a stage;
* `Conveyor.WellPlanned` — what it promises of all stages together.

Main results:

* `Conveyor.Pipeline.wellPlanned_of_expand` — the instances of a pipeline that breaks no rule;
* `Conveyor.Run.wellPlanned_of_planOf` — **what a plan promises**.
-/

import Mathlib.Data.List.Nodup
import Conveyor.Engine.Run
import Conveyor.Proofs.Report.Becomes
import Conveyor.Proofs.Structure

set_option autoImplicit false

namespace Conveyor

/-- What a plan promises of an instance in a stage: nothing has happened to it, and its services
can be told apart. -/
structure JobInstance.WellPlanned (stageName : String) (i : JobInstance) : Prop where
  untouched : i.planned = i
  stage : i.stageName = stageName
  services : (i.job.services.map Service.name).Nodup

/-- What a plan promises of a stage: its instances can be told apart. -/
structure StageReport.WellPlanned (s : StageReport) : Prop where
  status : s.status = .pending
  distinct : (s.instances.map JobInstance.identity).Nodup
  instances : ∀ i ∈ s.instances, i.WellPlanned s.name

/-- What a plan promises of all stages: they can be told apart. -/
structure WellPlanned (stages : List StageReport) : Prop where
  distinct : (stages.map StageReport.name).Nodup
  stages : ∀ s ∈ stages, s.WellPlanned

theorem JobInstance.WellPlanned.status_eq {n : String} {i : JobInstance} (h : i.WellPlanned n) :
    i.status = .pending := by
  rw [← h.untouched]
  rfl

/-- A stage as planned is its own plan. -/
theorem StageReport.WellPlanned.planned_eq {s : StageReport} (h : s.WellPlanned) :
    s.planned = s := by
  have hi : s.instances.map JobInstance.planned = s.instances := by
    refine (List.map_congr_left ?_).trans (List.map_id _)
    exact fun i hi => (h.instances i hi).untouched
  rw [StageReport.planned, hi, ← h.status]

theorem WellPlanned.map_planned {stages : List StageReport} (h : WellPlanned stages) :
    stages.map StageReport.planned = stages := by
  refine (List.map_congr_left ?_).trans (List.map_id _)
  exact fun s hs => (h.stages s hs).planned_eq

/-! ### Instances -/

/-- Nothing has happened to the instances of a job. -/
theorem Job.wellPlanned_of_instancesFrom {j : Job} {stageName : String} {n : Int}
    {seen : List (String × List String)} {choices : List (List String)} {made : List JobInstance}
    (hj : (j.services.map Service.name).Nodup)
    (h : j.instancesFrom stageName n seen choices = .ok made) :
    ∀ i ∈ made, i.WellPlanned stageName := by
  induction choices generalizing n seen made with
  | nil =>
      cases h
      simp
  | cons values rest ih =>
      simp only [instancesFrom] at h
      split at h
      · exact absurd h (by simp)
      · obtain ⟨tail, htail, rfl⟩ := exists_ok_of_map h
        intro i hi
        rcases List.mem_cons.1 hi with rfl | hi
        · exact ⟨rfl, rfl, hj⟩
        · exact ih htail i hi

theorem Job.wellPlanned_of_expand {j : Job} {stageName : String} {cap start : Int}
    {made : List JobInstance} (hj : (j.services.map Service.name).Nodup)
    (h : j.expand stageName cap start = .ok made) : ∀ i ∈ made, i.WellPlanned stageName := by
  simp only [expand] at h
  split at h
  · cases h
  · obtain ⟨_, _, h⟩ := exists_ok_of_bind h
    exact wellPlanned_of_instancesFrom hj h

namespace Stage

/-- Only instances of new identities are added. -/
theorem nodup_addInstances {s : Stage} {jobName : String} {kept made : List JobInstance}
    {notes : List String} (h : (kept.map JobInstance.identity).Nodup) :
    ((s.addInstances jobName kept notes made).1.map JobInstance.identity).Nodup := by
  induction made generalizing kept notes with
  | nil => exact h
  | cons i rest ih =>
      simp only [addInstances]
      split
      · -- an identity that is taken is noted, and the instance is left out
        exact ih h
      · rename_i hnone
        have hnew : i.identity ∉ kept.map JobInstance.identity := by
          intro hmem
          obtain ⟨k, hk, hki⟩ := List.mem_map.1 hmem
          exact List.find?_eq_none.1 hnone k hk (beq_iff_eq.2 hki)
        refine ih ?_
        rw [List.map_append, List.map_singleton]
        exact List.nodup_append.2 ⟨h, List.nodup_singleton _, fun a ha b hb => by
          rw [List.mem_singleton.1 hb]
          exact fun he => hnew (he ▸ ha)⟩

theorem mem_addInstances {s : Stage} {jobName : String} {kept made : List JobInstance}
    {notes : List String} {i : JobInstance}
    (h : i ∈ (s.addInstances jobName kept notes made).1) : i ∈ kept ∨ i ∈ made := by
  induction made generalizing kept notes with
  | nil => exact .inl h
  | cons k rest ih =>
      simp only [addInstances] at h
      split at h
      · exact (ih h).imp id (List.mem_cons_of_mem _)
      · rcases ih h with hk | hr
        · rcases List.mem_append.1 hk with hk | hk
          · exact .inl hk
          · exact .inr (List.mem_singleton.1 hk ▸ List.mem_cons_self ..)
        · exact .inr (List.mem_cons_of_mem _ hr)

theorem wellPlanned_of_expandFrom {s : Stage} {cap start : Int} {kept made : List JobInstance}
    {notes notes' : List String} {jobs : List Job}
    (hjobs : ∀ j ∈ jobs, (j.services.map Service.name).Nodup)
    (hd : (kept.map JobInstance.identity).Nodup) (hk : ∀ i ∈ kept, i.WellPlanned s.name)
    (h : s.expandFrom cap start kept notes jobs = .ok (made, notes')) :
    (made.map JobInstance.identity).Nodup ∧ ∀ i ∈ made, i.WellPlanned s.name := by
  induction jobs generalizing kept notes with
  | nil =>
      cases h
      exact ⟨hd, hk⟩
  | cons j rest ih =>
      simp only [expandFrom] at h
      obtain ⟨new, hnew, h⟩ := exists_ok_of_bind h
      have hwell := Job.wellPlanned_of_expand (hjobs j (List.mem_cons_self ..)) hnew
      refine ih (fun k hk => hjobs k (List.mem_cons_of_mem _ hk)) (nodup_addInstances hd) ?_ h
      intro i hi
      rcases mem_addInstances hi with hi | hi
      · exact hk i hi
      · exact hwell i hi

theorem wellPlanned_of_expand {s : Stage} {cap start : Int} {made : StageReport}
    (hjobs : ∀ j ∈ s.jobs, (j.services.map Service.name).Nodup)
    (h : s.expand cap start = .ok made) : made.name = s.name ∧ made.WellPlanned := by
  simp only [expand] at h
  obtain ⟨⟨instances, notes⟩, hfrom, h⟩ := exists_ok_of_bind h
  have hnil : (([] : List JobInstance).map JobInstance.identity).Nodup := List.nodup_nil
  obtain ⟨hd, hw⟩ := wellPlanned_of_expandFrom hjobs hnil
    (fun i hi => absurd hi List.not_mem_nil) hfrom
  split at h
  · cases h
    exact ⟨rfl, rfl, hd, hw⟩
  · exact absurd h (by simp)

end Stage

namespace Pipeline

theorem wellPlanned_of_expandFrom {cap start : Int} {stages : List Stage} {made : List StageReport}
    (hjobs : ∀ s ∈ stages, ∀ j ∈ s.jobs, (j.services.map Service.name).Nodup)
    (h : expandFrom cap start stages = .ok made) :
    made.map StageReport.name = stages.map Stage.name ∧ ∀ s ∈ made, s.WellPlanned := by
  induction stages generalizing start made with
  | nil =>
      cases h
      exact ⟨rfl, by simp⟩
  | cons s rest ih =>
      simp only [expandFrom] at h
      obtain ⟨first, hfirst, h⟩ := exists_ok_of_bind h
      obtain ⟨more, hmore, h⟩ := exists_ok_of_bind h
      cases h
      obtain ⟨hname, hwell⟩ :=
        Stage.wellPlanned_of_expand (hjobs s (List.mem_cons_self ..)) hfirst
      obtain ⟨hnames, hwells⟩ := ih (fun t ht => hjobs t (List.mem_cons_of_mem _ ht)) hmore
      refine ⟨by rw [List.map_cons, List.map_cons, hname, hnames], ?_⟩
      intro t ht
      rcases List.mem_cons.1 ht with rfl | ht
      · exact hwell
      · exact hwells t ht

/-- The stages of a pipeline that breaks no rule. -/
theorem wellPlanned_of_expand {p : Pipeline} {cap : Int} {made : List StageReport}
    (hp : p.violations = []) (h : p.expand cap = .ok made) : WellPlanned made := by
  simp only [expand] at h
  obtain ⟨_, _, h⟩ := exists_ok_of_bind h
  have hsound := violations_eq_nil_iff.1 hp
  obtain ⟨hnames, hwell⟩ := wellPlanned_of_expandFrom
    (fun s hs j hj => (hsound.sound s hs j hj).services) h
  exact ⟨by rw [hnames]; exact hsound.stages, hwell⟩

end Pipeline

/-- **What a plan promises.** -/
theorem Run.wellPlanned_of_planOf {p : Pipeline} {c : RunConfig} {stages : List StageReport}
    (h : Run.planOf p c = .ok stages) : WellPlanned stages := by
  simp only [planOf] at h
  obtain ⟨_, hvalid, h⟩ := exists_ok_of_bind h
  refine Pipeline.wellPlanned_of_expand ?_ h
  unfold Pipeline.validate at hvalid
  split at hvalid
  · rename_i hempty
    exact List.isEmpty_iff.1 hempty
  · exact absurd hvalid (by simp)

end Conveyor
