/-
**What durations leave in the metrics.**

How long something took is observed in histograms, and goes into nothing else.  Two accounts of the
same measurements that differ in the durations alone lead to the same counters and gauges, and to
histograms that have the same rows.

Main definitions:

* `Conveyor.Reading.untimed` — a measurement without how long it took;
* `Conveyor.Metrics.Metric.untimed`, `Conveyor.Metrics.Registry.untimed` — metrics as if nothing had
  been observed in their histograms.

Main results:

* `Conveyor.Metrics.Registry.untimed_change` — a change that does not look at what was observed leads
  from registries that differ in nothing else to such registries;
* `Conveyor.Metrics.Registry.untimed_noteAll` — **durations are seen in histograms only**.
-/

import Conveyor.Proofs.Metrics.Gauge

set_option autoImplicit false

namespace Conveyor

/-- A measurement without how long it took. -/
def Reading.untimed (x : Reading) : Reading := { x with seconds := 0 }

namespace Metrics

/-- A cell as if nothing had been observed in it. -/
def Cell.untimed (c : Cell) : Cell := { c with value := 0, counts := c.counts.map fun _ => 0 }

namespace Metric

/-- A metric as if nothing had been observed in it; only histograms observe. -/
def untimed (m : Metric) : Metric :=
  if m.kind = .histogram then { m with cells := m.cells.map Cell.untimed } else m

variable {m m' : Metric} {values : List String}

theorem untimed_of_histogram (h : m.kind = .histogram) :
    m.untimed = { m with cells := m.cells.map Cell.untimed } := if_pos h

/-- Counters and gauges are all there is to see of them. -/
theorem untimed_of_ne (h : m.kind ≠ .histogram) : m.untimed = m := if_neg h

theorem kind_untimed (m : Metric) : m.untimed.kind = m.kind := by
  unfold untimed
  split <;> rfl

theorem valuesOf_untimed (m : Metric) (labels : List (String × String)) :
    m.untimed.valuesOf labels = m.valuesOf labels := by
  unfold untimed
  split <;> rfl

theorem holds_untimed (m : Metric) (values : List String) :
    m.untimed.holds values = m.holds values := by
  unfold untimed
  split
  · simp [holds, Cell.untimed, Function.comp_def]
  · rfl

theorem untimed_withCell (m : Metric) (values : List String) :
    (m.withCell values).untimed = m.untimed.withCell values := by
  by_cases hkind : m.kind = .histogram
  · have hthere : m.untimed.cells.any (·.labelValues == values) =
        m.cells.any (·.labelValues == values) := holds_untimed m values
    by_cases hcell : values.isEmpty = true ∨ m.cells.any (·.labelValues == values) = true
    · rw [withCell, withCell, hthere, if_pos hcell, if_pos hcell]
    · have hgrown := untimed_of_histogram
        (m := { m with cells := m.cells ++ [newCell m.bounds values] }) hkind
      rw [withCell, withCell, hthere, if_neg hcell, if_neg hcell, hgrown,
        untimed_of_histogram hkind]
      simp [newCell, Cell.untimed]
  · rw [untimed_of_ne hkind, untimed_of_ne (by rwa [kind_withCell])]

/-- Metrics that are the same when nothing is observed are histograms, or the same. -/
theorem eq_of_untimed_eq (h : m.untimed = m'.untimed) (hkind : m.kind ≠ .histogram) : m = m' := by
  have hkind' : m'.kind ≠ .histogram := by rwa [← kind_untimed, ← h, kind_untimed]
  rwa [untimed_of_ne hkind, untimed_of_ne hkind'] at h

/-- Whatever is observed, and how often, nothing else changes. -/
theorem untimed_modifyCell (h : m.kind = .histogram) (values : List String) (x : Float) :
    (m.modifyCell values fun c =>
      { c with value := c.value + x, counts := countAt x m.bounds c.counts }).untimed =
      m.untimed := by
  have hcounts (bounds counts : List Float) :
      (countAt x bounds counts).length = counts.length := by
    induction bounds generalizing counts with
    | nil => rfl
    | cons b bounds ih =>
        cases counts with
        | nil => rfl
        | cons n counts =>
            rw [countAt]
            split <;> simp [ih]
  rw [untimed_of_histogram h, untimed_of_histogram (m := m.modifyCell values _) h]
  simp only [modifyCell, List.map_map]
  congr 1
  refine List.map_congr_left fun c _ => ?_
  rw [Function.comp_apply]
  split
  · simp [Cell.untimed, List.map_const', hcounts]
  · rfl

/-! ### What is seen of a change -/

theorem untimed_add (h : m.untimed = m'.untimed) (values : List String) (amount : Datum) :
    (m.add values amount).map untimed = (m'.add values amount).map untimed := by
  by_cases hkind : m.kind = .histogram
  · have hkind' : m'.kind = .histogram := by rw [← kind_untimed, ← h, kind_untimed, hkind]
    simp only [add, hkind, hkind']
    rfl
  · rw [eq_of_untimed_eq h hkind]

theorem untimed_lower (h : m.untimed = m'.untimed) (values : List String) :
    (m.lower values).map untimed = (m'.lower values).map untimed := by
  by_cases hkind : m.kind = .histogram
  · have hkind' : m'.kind = .histogram := by rw [← kind_untimed, ← h, kind_untimed, hkind]
    simp only [lower, hkind, hkind']
    rfl
  · rw [eq_of_untimed_eq h hkind]

/-- Whatever is observed goes into the cell of the row. -/
theorem observe_float (hkind : m.kind = .histogram) (hholds : m.holds values = true) (x : Float) :
    m.observe values (.float x) = .ok (m.modifyCell values fun c =>
      { c with value := c.value + x, counts := countAt x m.bounds c.counts }) := by
  simp only [observe, amountOf, if_neg (not_not.2 hkind), if_pos hholds]
  rfl

theorem observe_of_ne (hkind : m.kind ≠ .histogram) (values : List String) (amount : Datum) :
    m.observe values amount = .error (.unable m.kind "observe") := by
  simp only [observe, if_pos hkind]
  rfl

theorem observe_of_not_holds (hkind : m.kind = .histogram) (hholds : m.holds values = false)
    (x : Float) : m.observe values (.float x) = .error (.missingLabels m.kind) := by
  simp only [observe, if_neg (not_not.2 hkind), hholds]
  rfl

theorem untimed_observe (h : m.untimed = m'.untimed) (values : List String) (x x' : Float) :
    (m.observe values (.float x)).map untimed = (m'.observe values (.float x')).map untimed := by
  by_cases hkind : m.kind = .histogram
  · have hsame : m'.kind = m.kind := by rw [← kind_untimed, ← h, kind_untimed]
    have hkind' : m'.kind = .histogram := hsame.trans hkind
    have hholds : m'.holds values = m.holds values := by
      rw [← holds_untimed, ← h, holds_untimed]
    cases hcell : m.holds values with
    | false =>
        rw [observe_of_not_holds hkind hcell, observe_of_not_holds hkind' (hholds.trans hcell),
          hsame]
    | true =>
        rw [observe_float hkind hcell, observe_float hkind' (hholds.trans hcell), Except.map,
          Except.map, untimed_modifyCell hkind, untimed_modifyCell hkind', h]
  · obtain rfl := eq_of_untimed_eq h hkind
    rw [observe_of_ne hkind, observe_of_ne hkind]

end Metric

namespace Registry

/-- A registry as if nothing had been observed in its histograms. -/
def untimed (r : Registry) : Registry := { metrics := r.metrics.map fun e => (e.1, e.2.untimed) }

variable {r r' : Registry}

theorem metric?_untimed (r : Registry) (name : String) :
    r.untimed.metric? name = (r.metric? name).map Metric.untimed := by
  rw [metric?, metric?, untimed, List.find?_map, Option.map_map, Option.map_map]
  rfl

theorem untimed_put (r : Registry) (name : String) (m : Metric) :
    (r.put name m).untimed = r.untimed.put name m.untimed := by
  simp only [untimed, put, List.map_map]
  congr 1
  refine List.map_congr_left fun e _ => ?_
  simp only [Function.comp_apply]
  split <;> rfl

/-- What is seen of a registry after a change depends on what was seen of it. -/
theorem untimed_change {f f' : Metric → List String → Except Error Metric}
    (hf : ∀ (m m' : Metric) values, m.untimed = m'.untimed →
      (f m values).map Metric.untimed = (f' m' values).map Metric.untimed)
    (h : r.untimed = r'.untimed) (name : String) (labels : List (String × String)) :
    (r.change name labels f).1.untimed = (r'.change name labels f').1.untimed := by
  have hmetric : (r.metric? name).map Metric.untimed = (r'.metric? name).map Metric.untimed := by
    rw [← metric?_untimed, ← metric?_untimed, h]
  cases hm : r.metric? name with
  | none =>
      have hm' : r'.metric? name = none := by simpa [hm, eq_comm] using hmetric
      simpa only [change, hm, hm'] using h
  | some m =>
      obtain ⟨m', hm', hseen⟩ : ∃ m', r'.metric? name = some m' ∧ m'.untimed = m.untimed := by
        simpa [hm, eq_comm] using hmetric
      have hvalues : m'.valuesOf labels = m.valuesOf labels := by
        rw [← Metric.valuesOf_untimed, hseen, Metric.valuesOf_untimed]
      cases hv : m.valuesOf labels with
      | error e => simpa only [change, hm, hm', hvalues, hv] using h
      | ok values =>
          have hcell : (m.withCell values).untimed = (m'.withCell values).untimed := by
            rw [Metric.untimed_withCell, Metric.untimed_withCell, hseen]
          have hchanged := hf _ _ values hcell
          simp only [change, hm, hm', hvalues, hv]
          -- the two changes are both carried out, or both refused
          cases hfm : f (m.withCell values) values with
          | error e =>
              cases hfm' : f' (m'.withCell values) values with
              | error e' =>
                  dsimp only
                  rw [untimed_put, untimed_put, h, hcell]
              | ok a' => simp [hfm, hfm', Except.map] at hchanged
          | ok a =>
              cases hfm' : f' (m'.withCell values) values with
              | error e' => simp [hfm, hfm', Except.map] at hchanged
              | ok a' =>
                  have hseen : a.untimed = a'.untimed := by
                    simpa [hfm, hfm', Except.map] using hchanged
                  dsimp only
                  rw [untimed_put, untimed_put, h, hseen]

/-- A measurement is seen as it is, however long it took. -/
theorem untimed_record (h : r.untimed = r'.untimed) (pipeline : String) (seconds seconds' : Float)
    (m : Measurement) :
    (r.record pipeline seconds m).untimed = (r'.record pipeline seconds' m).untimed := by
  have hadd (amount : Datum) (m m' : Metric) (values : List String) (hm : m.untimed = m'.untimed) :=
    Metric.untimed_add hm values amount
  have hobserve (m m' : Metric) (values : List String) (hm : m.untimed = m'.untimed) :=
    Metric.untimed_observe hm values seconds seconds'
  cases m with
  | left => exact untimed_change (fun _ _ values hm => Metric.untimed_lower hm values) h _ _
  | runDuration | instanceDuration => exact untimed_change hobserve h _ _
  | _ => exact untimed_change (hadd _) h _ _

/-- **Durations are seen in histograms only.** -/
theorem untimed_noteAll (h : r.untimed = r'.untimed) (pipelineOf : Nat → String)
    {rs rs' : List Reading} (hrs : rs.map Reading.untimed = rs'.map Reading.untimed) :
    (r.noteAll pipelineOf rs).untimed = (r'.noteAll pipelineOf rs').untimed := by
  induction rs generalizing r r' rs' with
  | nil =>
      obtain rfl : rs' = [] := by simpa [eq_comm] using hrs
      exact h
  | cons x rs ih =>
      cases rs' with
      | nil => simp at hrs
      | cons x' rs' =>
          rw [List.map_cons, List.map_cons, List.cons.injEq] at hrs
          have hrun : x'.run = x.run := (congrArg Reading.run hrs.1).symm
          have hwhat : x'.what = x.what := (congrArg Reading.what hrs.1).symm
          have hfirst := untimed_record h (pipelineOf x.run) x.seconds x'.seconds x.what
          simp only [noteAll, List.foldl_cons, hrun, hwhat]
          exact ih hfirst hrs.2

end Registry

end Metrics

end Conveyor
