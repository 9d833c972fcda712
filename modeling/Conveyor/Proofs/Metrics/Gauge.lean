/-
**The gauge of instances at work shows how many there are.**

For each pipeline a gauge goes up when an instance takes up its work and down when it lays it down.
Nothing else moves it, neither other measurements nor those of other pipelines.  It is a float, but
as long as it stands for a number below `2 ^ 53` it is that very number.

Main definitions:

* `Conveyor.Metrics.Registry.noteAll` — notes the measurements of several runs;
* `Conveyor.Metrics.Registry.gauge` — what the gauge of a pipeline shows;
* `Conveyor.Metrics.IsStandard` — a registry in which nothing but measurements were noted.

Main results:

* `Conveyor.Metrics.IsStandard.gauge_record` — what a measurement does to the gauge;
* `Conveyor.Metrics.IsStandard.gauge_noteAll` — **what the gauge shows after measurements**.
-/

import Conveyor.Metrics.Collector
import Conveyor.Proofs.Metrics.Cells
import Conveyor.Proofs.Metrics.Exact
import Conveyor.Proofs.Metrics.Level

set_option autoImplicit false

namespace Conveyor.Metrics

namespace Registry

/-- Notes measurements of several runs, given the pipeline of each. -/
def noteAll (r : Registry) (pipelineOf : Nat → String) (rs : List Reading) : Registry :=
  rs.foldl (fun r x => r.record (pipelineOf x.run) x.seconds x.what) r

/-- What the gauge of a pipeline shows; one that was never moved stands at zero. -/
def gauge (r : Registry) (pipeline : String) : Float :=
  (r.sample? activeInstances [("pipeline", .text pipeline)]).getD 0

end Registry

/-- A registry in which nothing but measurements were noted. -/
structure IsStandard (r : Registry) : Prop where
  sound : r.Sound
  frames : r.frames = Registry.ofStandard.frames

/-- The metrics of runs, instances and steps are registered as they are defined. -/
theorem metrics_ofStandard :
    Registry.ofStandard.metrics.map (fun e => (e.1, e.2.shownAs, e.2.kind, e.2.labels)) =
      standard.map fun d => (d.name, d.name, d.kind, d.labels) := by
  decide +kernel

/-- Nothing was noted at first. -/
theorem cells_ofStandard : ∀ e ∈ Registry.ofStandard.metrics, e.2.cells = [] := by
  have hempty : Registry.ofStandard.metrics.all (fun e => e.2.cells.isEmpty) = true := by
    decide +kernel
  exact fun e he => List.isEmpty_iff.1 (List.all_eq_true.1 hempty e he)

theorem isStandard_ofStandard : IsStandard .ofStandard where
  sound :=
    { nodup := by
        have hnames : Registry.ofStandard.metrics.map (·.1) = standard.map (·.name) := by
          simpa [Function.comp_def] using congrArg (List.map (·.1)) metrics_ofStandard
        rw [hnames]
        decide
      apart := by decide +kernel
      even := by
        intro e he c hc
        rw [cells_ofStandard e he] at hc
        cases hc }
  frames := rfl

namespace IsStandard

variable {r : Registry} {pipeline : String} {seconds : Float} {n : String}

theorem change (h : IsStandard r) {f : Metric → List String → Except Error Metric}
    (hf : ChangesCell f) (name : String) (labels : List (String × String)) :
    IsStandard (r.change name labels f).1 :=
  ⟨(h.sound.change hf name labels).1, (h.sound.change hf name labels).2.trans h.frames⟩

theorem record (h : IsStandard r) (pipeline : String) (seconds : Float) (m : Measurement) :
    IsStandard (r.record pipeline seconds m) := by
  cases m with
  | left => exact h.change changesCell_lower _ _
  | runDuration | instanceDuration => exact h.change (changesCell_observe _) _ _
  | _ => exact h.change (changesCell_add _) _ _

/-- The metrics of a registry in which only measurements were noted are those that it had at
first. -/
theorem metric?_eq (h : IsStandard r) (name : String) :
    (r.metric? name).map (fun g => (g.shownAs, g.kind, g.labels)) =
      (standard.find? (·.name == name)).map fun d => (d.name, d.kind, d.labels) := by
  have hframe : (r.metric? name).map Metric.frame =
      (Registry.ofStandard.metric? name).map Metric.frame := by
    rw [Registry.frame_metric?, Registry.frame_metric?, h.frames]
  have htold := congrArg (Option.map fun g : Metric => (g.shownAs, g.kind, g.labels)) hframe
  have hfirst : (Registry.ofStandard.metric? name).map (fun g => (g.shownAs, g.kind, g.labels)) =
      (standard.find? (·.name == name)).map fun d => (d.name, d.kind, d.labels) := by
    simpa [Registry.metric?, List.find?_map, Function.comp_def] using
      congrArg (fun l => (l.find? (·.1 == name)).map (·.2)) metrics_ofStandard
  rw [Option.map_map, Option.map_map] at htold
  exact htold.trans hfirst

/-- Every metric of runs, instances and steps is there. -/
theorem exists_metric (h : IsStandard r) (name : String) {d : Definition}
    (hd : standard.find? (·.name == name) = some d) :
    ∃ m, r.metric? name = some m ∧ m.shownAs = d.name ∧ m.kind = d.kind ∧ m.labels = d.labels := by
  have hmetric := h.metric?_eq name
  rw [hd] at hmetric
  obtain ⟨m, hm, htold⟩ := Option.map_eq_some_iff.1 hmetric
  exact ⟨m, hm, by simpa using htold⟩

theorem gauge_eq (h : IsStandard r) (n : String) :
    r.gauge n = (r.value? activeInstances [n]).getD 0 := by
  obtain ⟨m, hm, hshown, hkind, hlabels⟩ := h.exists_metric activeInstances rfl
  have hsample := h.sound.sample?_eq hm hshown (by simp [hkind])
    (show m.labels = [("pipeline", n)].map Prod.fst from hlabels) (List.nodup_singleton _)
  exact congrArg (·.getD 0) hsample

end IsStandard

/-- No value is shown at first. -/
theorem value?_ofStandard (name : String) (row : List String) :
    Registry.ofStandard.value? name row = none := by
  rw [Registry.value?]
  cases hm : Registry.ofStandard.metric? name with
  | none => rfl
  | some m =>
      rw [Option.bind_some, Metric.value?, cells_ofStandard _ (Registry.metric?_eq_some hm)]
      rfl

/-- No gauge has been moved at first. -/
theorem gauge_ofStandard (n : String) : Registry.ofStandard.gauge n = Float.ofNat 0 := by
  rw [isStandard_ofStandard.gauge_eq, value?_ofStandard]
  rfl

/-! ### What moves the gauge -/

/-- What a measurement does to a gauge. -/
def moved (x : Float) : Measurement → Float
  | .entered => x + 1
  | .left => x - 1
  | _ => x

namespace IsStandard

variable {r : Registry}

/-- A measurement moves the gauge of its pipeline, and no other one. -/
theorem gauge_record (h : IsStandard r) (pipeline : String) (seconds : Float) (m : Measurement)
    (n : String) :
    (r.record pipeline seconds m).gauge n =
      if n = pipeline then moved (r.gauge n) m else r.gauge n := by
  obtain ⟨g, hg, _, hkind, hlabels⟩ := h.exists_metric activeInstances rfl
  have hrow : g.valuesOf [("pipeline", pipeline)] = .ok [pipeline] :=
    Metric.valuesOf_eq hlabels (List.nodup_singleton _) (by simp) (List.cons_ne_nil _ _)
  have hne := List.cons_ne_nil pipeline []
  have hkind' := (Metric.kind_withCell g [pipeline]).trans hkind
  have hholds := Metric.holds_withCell hne g
  have hother {name : String} (hname : activeInstances ≠ name) (labels : List (String × String))
      (f : Metric → List String → Except Error Metric) :
      ((r.change name labels f).1.value? activeInstances [n]).getD 0 =
        if n = pipeline then (r.value? activeInstances [n]).getD 0
        else (r.value? activeInstances [n]).getD 0 := by
    rw [Registry.value?_change_of_ne hname, ite_self]
  -- the gauge is the only metric that is moved, and only in the row of the pipeline
  have hone (move : Float → Float) {f : Metric → List String → Except Error Metric}
      (hf : f (g.withCell [pipeline]) [pipeline] = .ok ((g.withCell [pipeline]).modifyCell
        [pipeline] fun c => { c with value := move c.value })) :
      ((r.change activeInstances [("pipeline", pipeline)] f).1.value? activeInstances [n]).getD 0 =
        if n = pipeline then move ((r.value? activeInstances [n]).getD 0)
        else (r.value? activeInstances [n]).getD 0 := by
    rw [Registry.value?_change hg hrow hne hf]
    by_cases hn : n = pipeline <;> simp [hn]
  rw [(h.record pipeline seconds m).gauge_eq, h.gauge_eq]
  cases m with
  | entered => exact hone (· + 1) (Metric.add_one (by simp [hkind']) hholds)
  | left => exact hone (· - 1) (Metric.lower_one hkind' hholds)
  | _ => exact hother (by decide) _ _

variable {limit l k : Nat}

/-- A gauge that stands for a number below `2 ^ 53` is moved to the next one. -/
theorem moved_ofNat (hlimit : limit < 2 ^ 53) (hl : l ≤ limit) {m : Measurement}
    (h : m.level? limit l = some k) : moved (Float.ofNat l) m = Float.ofNat k := by
  rcases Measurement.level?_eq_some h with ⟨rfl, hlt, rfl⟩ | ⟨rfl, rfl⟩ | ⟨hneutral, rfl⟩
  · exact Exact.ofNat_add_one (by omega)
  · exact Exact.ofNat_sub_one (by omega)
  · cases m <;> first | rfl | cases hneutral

/-- **What the gauge of a pipeline shows after measurements of several runs**: how many are at work
in the runs of that pipeline. -/
theorem gauge_noteAll (h : IsStandard r) {pipelineOf : Nat → String} {n : String}
    {rs : List Reading} (hlimit : limit < 2 ^ 53) (hl : l ≤ limit) (hr : r.gauge n = Float.ofNat l)
    (hlevel : Measurement.levelAfter? limit l
      ((rs.filter fun x => pipelineOf x.run == n).map (·.what)) = some k) :
    (r.noteAll pipelineOf rs).gauge n = Float.ofNat k := by
  induction rs generalizing r l with
  | nil =>
      obtain rfl := Option.some.inj hlevel
      exact hr
  | cons x rest ih =>
      have hrecord := h.gauge_record (pipelineOf x.run) x.seconds x.what n
      have hnext := h.record (pipelineOf x.run) x.seconds x.what
      by_cases hx : pipelineOf x.run = n
      · rw [List.filter_cons_of_pos (by simpa using hx), List.map_cons,
          Measurement.levelAfter?_cons_eq_some] at hlevel
        obtain ⟨j, hj, hrest⟩ := hlevel
        rw [if_pos hx.symm, hr, moved_ofNat hlimit hl hj] at hrecord
        exact ih hnext (Measurement.le_of_level? hj hl) hrecord hrest
      · rw [List.filter_cons_of_neg (by simpa using hx)] at hlevel
        rw [if_neg (Ne.symm hx), hr] at hrecord
        exact ih hnext hl hrecord hlevel

end IsStandard

end Conveyor.Metrics
