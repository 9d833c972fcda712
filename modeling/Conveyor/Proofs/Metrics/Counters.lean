/-
**The counters of runs, instances and steps show how often each was measured.**

For each pipeline, and for each row of the other labels, a counter goes up by one with every
measurement that has these labels, and with no other one.  It is a float, but as long as it stands
for a number below `2 ^ 53` it is that very number.

Main definitions:

* `Conveyor.Measurement.isCounted` — the measurements that have a counter;
* `Conveyor.Metrics.metricOf`, `Conveyor.Metrics.labelsOf` — which metric a measurement is noted in,
  and under which labels;
* `Conveyor.Metrics.Registry.counter` — what the counter of a measurement shows.

Main results:

* `Conveyor.Metrics.IsStandard.counter_record` — what a measurement does to a counter;
* `Conveyor.Metrics.IsStandard.counter_noteAll` — **by how much a counter grows**.
-/

import Conveyor.Proofs.Metrics.Gauge

set_option autoImplicit false

namespace Conveyor

theorem Status.name_injective {s t : Status} (h : s.name = t.name) : s = t := by
  cases s <;> cases t <;> first | rfl | exact absurd h (by decide)

theorem InstanceStatus.name_injective {s t : InstanceStatus} (h : s.name = t.name) : s = t := by
  cases s <;> cases t <;> first | rfl | exact absurd h (by decide)

theorem StepOutcome.name_injective {o p : StepOutcome} (h : o.name = p.name) : o = p := by
  cases o <;> cases p <;> first | rfl | exact absurd h (by decide)

/-- Whether a measurement has a counter of its own. -/
def Measurement.isCounted : Measurement → Bool
  | .run _ | .instance .. | .step .. => true
  | _ => false

namespace Metrics

/-- The metric in which a measurement is noted. -/
def metricOf : Measurement → String
  | .entered | .left => activeInstances
  | .step .. => stepsTotal
  | .run _ => runsTotal
  | .runDuration => runDuration
  | .instance .. => instancesTotal
  | .instanceDuration _ => instanceDuration

/-- The labels under which a measurement of a pipeline is noted. -/
def labelsOf (pipeline : String) : Measurement → List (String × String)
  | .entered | .left | .runDuration => [("pipeline", pipeline)]
  | .step kind outcome =>
    [("pipeline", pipeline), ("kind", kind), ("outcome", outcome.name)]
  | .run status => [("pipeline", pipeline), ("status", status.name)]
  | .instance stage status =>
    [("pipeline", pipeline), ("stage", stage), ("status", status.name)]
  | .instanceDuration stage => [("pipeline", pipeline), ("stage", stage)]

/-- What the counter of a measurement shows; one that was never moved stands at zero. -/
def Registry.counter (r : Registry) (pipeline : String) (m : Measurement) : Float :=
  (r.sample? (metricOf m) ((labelsOf pipeline m).map fun l => (l.1, .text l.2))).getD 0

variable {m m' : Measurement} {n pipeline : String}

/-- What is counted is noted in no metric in which anything else is noted. -/
theorem isCounted_of_metricOf (hm : m.isCounted = true) (h : metricOf m = metricOf m') :
    m'.isCounted = true := by
  have happart : ∀ a ∈ [runsTotal, instancesTotal, stepsTotal],
      a ∉ [activeInstances, runDuration, instanceDuration] := by decide
  have hcounter : metricOf m ∈ [runsTotal, instancesTotal, stepsTotal] := by
    cases m <;> first | exact absurd hm Bool.false_ne_true | simp [metricOf]
  by_contra hnot
  have hother : metricOf m' ∈ [activeInstances, runDuration, instanceDuration] := by
    cases m' <;> first | exact absurd rfl hnot | simp [metricOf]
  exact happart _ hcounter (h ▸ hother)

/-- What is counted in the same metric under the same values is the same. -/
theorem eq_of_labelsOf (hm : m.isCounted = true) (hmetric : metricOf m = metricOf m')
    (hvalues : (labelsOf n m).map Prod.snd = (labelsOf pipeline m').map Prod.snd) :
    n = pipeline ∧ m = m' := by
  have hm' := isCounted_of_metricOf hm hmetric
  have hnames : runsTotal ≠ instancesTotal ∧ runsTotal ≠ stepsTotal ∧
      instancesTotal ≠ stepsTotal := by decide
  cases m with
  | run s =>
      cases m' with
      | run t =>
          obtain ⟨hn, hst⟩ : n = pipeline ∧ s.name = t.name := by simpa [labelsOf] using hvalues
          exact ⟨hn, congrArg _ (Status.name_injective hst)⟩
      | «instance» => exact absurd hmetric hnames.1
      | step => exact absurd hmetric hnames.2.1
      | _ => cases hm'
  | «instance» stage s =>
      cases m' with
      | «instance» stage' t =>
          obtain ⟨hn, rfl, hst⟩ : n = pipeline ∧ stage = stage' ∧ s.name = t.name := by
            simpa [labelsOf] using hvalues
          exact ⟨hn, congrArg _ (InstanceStatus.name_injective hst)⟩
      | run => exact absurd hmetric.symm hnames.1
      | step => exact absurd hmetric hnames.2.2
      | _ => cases hm'
  | step kind o =>
      cases m' with
      | step kind' p =>
          obtain ⟨hn, rfl, hop⟩ : n = pipeline ∧ kind = kind' ∧ o.name = p.name := by
            simpa [labelsOf] using hvalues
          exact ⟨hn, congrArg _ (StepOutcome.name_injective hop)⟩
      | run => exact absurd hmetric.symm hnames.2.1
      | «instance» => exact absurd hmetric.symm hnames.2.2
      | _ => cases hm'
  | _ => cases hm

/-- The labels of a measurement can be told apart. -/
theorem labelsOf_plain (m : Measurement) (pipeline : String) :
    ((labelsOf pipeline m).map Prod.fst).Nodup ∧
      "self" ∉ (labelsOf pipeline m).map Prod.fst ∧ labelsOf pipeline m ≠ [] := by
  cases m <;> simp [labelsOf]

/-- A measurement that is counted adds one to its counter. -/
theorem record_eq (hm : m.isCounted = true) (r : Registry) (pipeline : String) (seconds : Float) :
    r.record pipeline seconds m = (r.add (metricOf m) (labelsOf pipeline m) (.int 1)).1 := by
  cases m <;> first | rfl | cases hm

/-- A measurement moves no other metric than its own. -/
theorem value?_record_of_ne {name : String} (h : name ≠ metricOf m) (r : Registry)
    (pipeline : String) (seconds : Float) (row : List String) :
    (r.record pipeline seconds m).value? name row = r.value? name row := by
  cases m <;> exact Registry.value?_change_of_ne h _ _ _ _

namespace IsStandard

variable {r : Registry}

/-- The counter of a measurement is among the metrics, with the labels of the measurement. -/
theorem exists_counter (h : IsStandard r) (hm : m.isCounted = true) (pipeline : String) :
    ∃ g, r.metric? (metricOf m) = some g ∧ g.shownAs = metricOf m ∧ g.kind = .counter ∧
      g.labels = (labelsOf pipeline m).map Prod.fst := by
  cases m with
  | run s => exact h.exists_metric runsTotal rfl
  | «instance» stage s => exact h.exists_metric instancesTotal rfl
  | step kind o => exact h.exists_metric stepsTotal rfl
  | _ => cases hm

/-- What a counter shows is what is in its cell. -/
theorem counter_eq (h : IsStandard r) (hm : m.isCounted = true) (pipeline : String) :
    r.counter pipeline m =
      (r.value? (metricOf m) ((labelsOf pipeline m).map Prod.snd)).getD 0 := by
  obtain ⟨g, hg, hshown, hkind, hlabels⟩ := h.exists_counter hm pipeline
  rw [Registry.counter, h.sound.sample?_eq hg hshown (by simp [hkind]) hlabels
    (labelsOf_plain m pipeline).1]

/-- **A measurement adds one to its own counter**, and moves no other one. -/
theorem counter_record (h : IsStandard r) (hm : m.isCounted = true) (pipeline : String)
    (seconds : Float) (m' : Measurement) (n : String) :
    (r.record pipeline seconds m').counter n m =
      if pipeline = n ∧ m' = m then r.counter n m + 1 else r.counter n m := by
  rw [(h.record pipeline seconds m').counter_eq hm, h.counter_eq hm]
  by_cases hmetric : metricOf m = metricOf m'
  · have hm' := isCounted_of_metricOf hm hmetric
    obtain ⟨g, hg, _, hkind, hlabels⟩ := h.exists_counter hm' pipeline
    obtain ⟨hnodup, hself, hne⟩ := labelsOf_plain m' pipeline
    have hvalues : (labelsOf pipeline m').map Prod.snd ≠ [] := by simpa using hne
    have hkind' : (g.withCell ((labelsOf pipeline m').map Prod.snd)).kind ≠ .histogram := by
      simp [Metric.kind_withCell, hkind]
    rw [record_eq hm', Registry.add, hmetric, Registry.value?_change (g := (· + 1)) hg
      (Metric.valuesOf_eq hlabels hnodup hself hne) hvalues
      (Metric.add_one hkind' (Metric.holds_withCell hvalues g))]
    by_cases hrow : (labelsOf n m).map Prod.snd = (labelsOf pipeline m').map Prod.snd
    · obtain ⟨rfl, rfl⟩ := eq_of_labelsOf hm hmetric hrow
      simp
    · have hnot : ¬ (pipeline = n ∧ m' = m) := by
        rintro ⟨rfl, rfl⟩
        exact hrow rfl
      rw [if_neg hrow, if_neg hnot]
  · have hnot : ¬ (pipeline = n ∧ m' = m) := fun he => hmetric (by rw [he.2])
    rw [value?_record_of_ne hmetric, if_neg hnot]

/-- **By how much a counter grows**: by as many measurements of its pipeline as it counts. -/
theorem counter_noteAll (h : IsStandard r) (hm : m.isCounted = true) {pipelineOf : Nat → String}
    {n : String} {rs : List Reading} {k : Nat} (hr : r.counter n m = Float.ofNat k)
    (hlimit : k + ((rs.filter fun x => pipelineOf x.run == n).map (·.what)).count m < 2 ^ 53) :
    (r.noteAll pipelineOf rs).counter n m =
      Float.ofNat (k + ((rs.filter fun x => pipelineOf x.run == n).map (·.what)).count m) := by
  -- over the readings, from whatever the counter shows before them
  induction rs generalizing r k with
  | nil => exact hr
  | cons x rest ih =>
      have hrecord := h.counter_record hm (pipelineOf x.run) x.seconds x.what n
      have hnext := h.record (pipelineOf x.run) x.seconds x.what
      by_cases hx : pipelineOf x.run = n
      · rw [List.filter_cons_of_pos (by simpa using hx), List.map_cons, List.count_cons] at hlimit ⊢
        by_cases hwhat : x.what = m
        · rw [if_pos ⟨hx, hwhat⟩, hr] at hrecord
          simp only [hwhat, beq_self_eq_true, if_true] at hlimit ⊢
          have hone : Float.ofNat k + 1 = Float.ofNat (k + 1) := Exact.ofNat_add_one (by omega)
          have hthen := ih hnext (hrecord.trans hone) (by omega)
          rw [Nat.add_right_comm, Nat.add_assoc] at hthen
          exact hthen
        · have hbeq : (x.what == m) = false := by simpa using hwhat
          rw [if_neg fun he => hwhat he.2, hr] at hrecord
          simp only [hbeq, Bool.false_eq_true, if_false, Nat.add_zero] at hlimit ⊢
          exact ih hnext hrecord hlimit
      · rw [List.filter_cons_of_neg (by simpa using hx)] at hlimit ⊢
        rw [if_neg fun he => hx he.1, hr] at hrecord
        exact ih hnext hrecord hlimit

end IsStandard

/-- No counter has been moved at first. -/
theorem counter_ofStandard (hm : m.isCounted = true) (n : String) :
    Registry.ofStandard.counter n m = Float.ofNat 0 := by
  rw [isStandard_ofStandard.counter_eq hm, value?_ofStandard]
  rfl

end Metrics

end Conveyor
