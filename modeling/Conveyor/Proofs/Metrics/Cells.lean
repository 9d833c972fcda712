/-
**What a change of a registry leaves alone.**

A change names a metric and a row of label values.  It changes the value in one cell and nothing
else: which metrics there are, what they are called and which labels they have stays as it was when
they were registered.

Main definitions:

* `Conveyor.Metrics.Metric.frame`, `Conveyor.Metrics.Registry.frames` — metrics without their cells;
* `Conveyor.Metrics.Metric.value?`, `Conveyor.Metrics.Registry.value?` — the value in a cell;
* `Conveyor.Metrics.Metric.shownAs` — the name under which a gauge or a counter is shown;
* `Conveyor.Metrics.Registry.Sound` — metrics that cannot be taken for one another.

Main results:

* `Conveyor.Metrics.Registry.Sound.change` — every change keeps a registry sound;
* `Conveyor.Metrics.Registry.value?_change`, `Conveyor.Metrics.Registry.value?_change_of_ne` — what
  a change does to the values;
* `Conveyor.Metrics.Registry.Sound.sample?_eq` — what a gauge or a counter shows is what is in its
  cell.
-/

import Conveyor.Metrics.Registry
import Mathlib.Data.List.Find
import Mathlib.Data.List.Nodup
import Mathlib.Data.List.Pairwise

set_option autoImplicit false

namespace Conveyor.Metrics

/-! ### Metrics -/

namespace Metric

/-- A metric without its cells. -/
def frame (m : Metric) : Metric := { m with cells := [] }

/-- The value in the cell of label values. -/
def value? (m : Metric) (values : List String) : Option Float :=
  (m.cells.find? (·.labelValues == values)).map (·.value)

/-- Every cell has as many values as the metric has labels. -/
def IsEven (m : Metric) : Prop := ∀ c ∈ m.cells, c.labelValues.length = m.labels.length

variable {m m' : Metric} {values row : List String}

theorem taken_eq_of_frame (h : m.frame = m'.frame) : m.taken = m'.taken := by
  have hname : m.frame.name = m'.frame.name := by rw [h]
  have hkind : m.frame.kind = m'.frame.kind := by rw [h]
  simp only [frame] at hname hkind
  rw [taken, taken, hname, hkind]

theorem frame_withCell (m : Metric) (values : List String) :
    (m.withCell values).frame = m.frame := by
  unfold withCell
  split <;> rfl

theorem frame_modifyCell (m : Metric) (values : List String) (f : Cell → Cell) :
    (m.modifyCell values f).frame = m.frame := rfl

theorem kind_withCell (m : Metric) (values : List String) : (m.withCell values).kind = m.kind := by
  unfold withCell
  split <;> rfl

theorem holds_withCell (h : values ≠ []) (m : Metric) :
    (m.withCell values).holds values = true := by
  unfold withCell
  split
  · rename_i hthere
    exact hthere.resolve_left (by simpa using h)
  · simp [holds, newCell]

/-- A row of label values has one for each label, if it is not empty. -/
theorem length_valuesOf {labels : List (String × String)} (h : m.valuesOf labels = .ok values)
    (hv : values ≠ []) : values.length = m.labels.length := by
  unfold valuesOf at h
  split at h
  · exact absurd (Except.ok.inj h).symm hv
  split at h
  · cases h
  split at h
  · cases h
  dsimp only at h
  split at h
  · cases h
  · rw [← Except.ok.inj h, List.length_map]

/-- Labels in the order of the metric name the row of their values. -/
theorem valuesOf_eq {labels : List (String × String)} (hlabels : m.labels = labels.map Prod.fst)
    (hnodup : (labels.map Prod.fst).Nodup) (hself : "self" ∉ labels.map Prod.fst)
    (hne : labels ≠ []) : m.valuesOf labels = .ok (labels.map Prod.snd) := by
  have hfind : ∀ l ∈ labels, labels.find? (·.1 == l.1) = some l := by
    intro l hl
    obtain ⟨l', hl'⟩ : ∃ l', labels.find? (·.1 == l.1) = some l' :=
      Option.isSome_iff_exists.1 (List.find?_isSome.2 ⟨l, hl, beq_self_eq_true _⟩)
    have hkey : l'.1 = l.1 := by simpa using List.find?_some hl'
    rw [hl', List.inj_on_of_nodup_map hnodup (List.mem_of_find?_eq_some hl') hl hkey]
  have hvalues : (labels.map Prod.fst).map (fun l =>
      ((labels.find? (·.1 == l)).map (·.2)).getD "") = labels.map Prod.snd := by
    rw [List.map_map]
    refine List.map_congr_left fun l hl => ?_
    rw [Function.comp_apply, hfind l hl]
    rfl
  have hany : labels.any (·.1 == "self") = false := by
    rw [List.any_eq_false]
    intro l hl hkey
    exact hself (List.mem_map.2 ⟨l, hl, by simpa using hkey⟩)
  simp only [valuesOf, hlabels, hany, List.isEmpty_iff, List.map_eq_nil_iff, hne, if_false,
    Bool.false_eq_true, ne_eq, not_true_eq_false, hvalues]

/-- The name under which a gauge or a counter is shown. -/
def shownAs (m : Metric) : String :=
  if m.kind = .counter then m.name ++ counterEnding else m.name

theorem shownAs_mem_taken (m : Metric) : m.shownAs ∈ m.taken := by
  cases hk : m.kind <;> simp [shownAs, taken, hk, Kind.endings, counterEnding]

theorem cellSamples_eq (hkind : m.kind ≠ .histogram) (c : Cell) : m.cellSamples c =
    [{ name := m.shownAs, labels := m.labels.zip c.labelValues, value := c.value }] := by
  cases hk : m.kind with
  | histogram => exact absurd hk hkind
  | gauge => simp [cellSamples, shownAs, hk]
  | counter => simp [cellSamples, shownAs, hk]

theorem IsEven.withCell (h : m.IsEven) (hv : values ≠ [] → values.length = m.labels.length) :
    (m.withCell values).IsEven := by
  unfold Metric.withCell
  split
  · exact h
  · rename_i hnew
    intro c hc
    rcases List.mem_append.1 hc with hc | hc
    · exact h c hc
    · rw [List.mem_singleton.1 hc]
      exact hv fun he => hnew (.inl (by rw [he]; rfl))

theorem IsEven.modifyCell (h : m.IsEven) {f : Cell → Cell}
    (hf : ∀ c, (f c).labelValues = c.labelValues) : (m.modifyCell values f).IsEven := by
  intro c hc
  obtain ⟨d, hd, rfl⟩ := List.mem_map.1 hc
  split
  · rw [hf]
    exact h d hd
  · exact h d hd

/-- A cell that is named is there from then on, and holds nothing at first. -/
theorem value?_withCell (h : values ≠ []) (m : Metric) (row : List String) :
    (m.withCell values).value? row =
      if row = values then some ((m.value? values).getD 0) else m.value? row := by
  unfold withCell
  split
  · rename_i hthere
    have hany : m.cells.any (·.labelValues == values) = true :=
      hthere.resolve_left (by simpa using h)
    split
    · rename_i hrow
      obtain ⟨c, hc⟩ := Option.isSome_iff_exists.1 (List.find?_isSome.2 (List.any_eq_true.1 hany))
      simp [value?, hrow, hc]
    · rfl
  · rename_i hnew
    have hnone : m.cells.find? (·.labelValues == values) = none := by
      rw [List.find?_eq_none]
      intro c hc hcv
      exact hnew (.inr (List.any_eq_true.2 ⟨c, hc, hcv⟩))
    split
    · rename_i hrow
      simp [value?, hrow, hnone, newCell]
    · rename_i hrow
      have hother : (newCell m.bounds values).labelValues ≠ row := fun he => hrow he.symm
      simp [value?, List.find?_append, hother]

theorem value?_modifyCell (m : Metric) (values row : List String) (g : Float → Float) :
    (m.modifyCell values fun c => { c with value := g c.value }).value? row =
      if row = values then (m.value? row).map g else m.value? row := by
  have hlabels (c : Cell) : (if c.labelValues = values then { c with value := g c.value }
      else c).labelValues = c.labelValues := by
    split <;> rfl
  have hfind : ((m.modifyCell values fun c => { c with value := g c.value }).cells.find?
      (·.labelValues == row)) = (m.cells.find? (·.labelValues == row)).map fun c =>
        if c.labelValues = values then { c with value := g c.value } else c := by
    simp only [modifyCell, List.find?_map, Function.comp_def, hlabels]
  rw [value?, value?, hfind]
  cases hc : m.cells.find? (·.labelValues == row) with
  | none => simp
  | some c =>
      have hrow : c.labelValues = row := by simpa using List.find?_some hc
      by_cases he : row = values <;> simp [hrow, he]

/-- A metric shows values only under names that it takes up. -/
theorem name_mem_taken {s : Sample} (hs : s ∈ m.samples) : s.name ∈ m.taken := by
  obtain ⟨c, _, hs⟩ := List.mem_flatMap.1 hs
  unfold cellSamples at hs
  cases hk : m.kind with
  | counter =>
      simp only [hk, List.mem_singleton] at hs
      simp [hs, taken, hk, Kind.endings, counterEnding]
  | gauge =>
      simp only [hk, List.mem_singleton] at hs
      simp [hs, taken]
  | histogram =>
      simp only [hk, List.mem_append, List.mem_map, List.mem_singleton] at hs
      rcases hs with (⟨b, _, rfl⟩ | rfl) | hs
      · simp [taken, hk, Kind.endings]
      · simp [taken, hk, Kind.endings]
      · split at hs
        · simp [List.mem_singleton.1 hs, taken, hk, Kind.endings]
        · cases hs

end Metric

/-! ### Changes of one cell -/

/-- A change of one cell, which stays the cell of its row. -/
def ChangesCell (f : Metric → List String → Except Error Metric) : Prop :=
  ∀ m values m', f m values = .ok m' →
    ∃ g : Cell → Cell, (∀ c, (g c).labelValues = c.labelValues) ∧ m' = m.modifyCell values g

/-- What is added is added to the value in one cell. -/
theorem Metric.add_eq {m m' : Metric} {values : List String} {amount : Datum}
    (h : m.add values amount = .ok m') :
    ∃ x, amountOf amount = .ok x ∧
      m' = m.modifyCell values fun c => { c with value := c.value + x } := by
  have hadd (h : (do
      let x ← amountOf amount
      pure (m.modifyCell values fun c => { c with value := c.value + x })) = .ok m') :
      ∃ x, amountOf amount = .ok x ∧
        m' = m.modifyCell values fun c => { c with value := c.value + x } := by
    obtain ⟨x, hx, he⟩ := exists_ok_of_bind h
    exact ⟨x, hx, (Except.ok.inj he).symm⟩
  simp only [Metric.add] at h
  split at h
  · cases h
  split at h
  · split at h
    · obtain ⟨negative, _, h⟩ := exists_ok_of_bind h
      cases negative with
      | true => cases h
      | false => exact hadd h
    · exact hadd h
  · cases h

/-- One more in the cell of a gauge or a counter. -/
theorem Metric.add_one {m : Metric} {values : List String} (hkind : m.kind ≠ .histogram)
    (hholds : m.holds values = true) :
    m.add values (.int 1) = .ok (m.modifyCell values fun c => { c with value := c.value + 1 }) := by
  have hone : amountOf (.int 1) = .ok 1 := rfl
  cases hk : m.kind with
  | histogram => exact absurd hk hkind
  | gauge =>
      simp only [Metric.add, hk, hholds, hone]
      rfl
  | counter =>
      simp only [Metric.add, hk, hholds, hone]
      rfl

/-- One less in the cell of a gauge. -/
theorem Metric.lower_one {m : Metric} {values : List String} (hkind : m.kind = .gauge)
    (hholds : m.holds values = true) :
    m.lower values = .ok (m.modifyCell values fun c => { c with value := c.value - 1 }) := by
  simp [Metric.lower, hkind, hholds]

theorem changesCell_add (amount : Datum) :
    ChangesCell fun m values => m.add values amount := by
  intro m values m' h
  obtain ⟨x, _, rfl⟩ := Metric.add_eq h
  exact ⟨fun c => { c with value := c.value + x }, fun _ => rfl, rfl⟩

theorem changesCell_lower : ChangesCell Metric.lower := by
  intro m values m' h
  unfold Metric.lower at h
  split at h
  · cases h
  split at h
  · cases h
  · exact ⟨fun c => { c with value := c.value - 1 }, fun _ => rfl, (Except.ok.inj h).symm⟩

theorem changesCell_observe (amount : Datum) :
    ChangesCell fun m values => m.observe values amount := by
  intro m values m' h
  simp only [Metric.observe] at h
  split at h
  · cases h
  split at h
  · obtain ⟨x, _, he⟩ := exists_ok_of_bind h
    exact ⟨fun c => { c with value := c.value + x, counts := countAt x m.bounds c.counts },
      fun _ => rfl, (Except.ok.inj he).symm⟩
  · cases h

/-! ### Registries -/

namespace Registry

/-- The metrics without their cells. -/
def frames (r : Registry) : List (String × Metric) := r.metrics.map fun e => (e.1, e.2.frame)

/-- The value in the cell of a metric for label values. -/
def value? (r : Registry) (name : String) (values : List String) : Option Float :=
  (r.metric? name).bind (·.value? values)

/-- Metrics that cannot be taken for one another, with as many values in each cell as there are
labels. -/
structure Sound (r : Registry) : Prop where
  nodup : (r.metrics.map (·.1)).Nodup
  apart : r.metrics.Pairwise fun d e => ∀ n ∈ d.2.taken, n ∉ e.2.taken
  even : ∀ e ∈ r.metrics, e.2.IsEven

variable {r : Registry} {name : String} {m : Metric}

theorem metric?_eq_some (h : r.metric? name = some m) : (name, m) ∈ r.metrics := by
  obtain ⟨e, he, rfl⟩ := Option.map_eq_some_iff.1 h
  have hname : e.1 = name := by simpa using List.find?_some he
  exact hname ▸ List.mem_of_find?_eq_some he

/-- What a metric is apart from its cells can be read off the frames. -/
theorem frame_metric? (r : Registry) (name : String) :
    (r.metric? name).map Metric.frame = (r.frames.find? (·.1 == name)).map (·.2) := by
  rw [metric?, frames, List.find?_map, Option.map_map, Option.map_map]
  rfl

theorem Sound.eq_of_mem (h : r.Sound) (hm : r.metric? name = some m) {e : String × Metric}
    (he : e ∈ r.metrics) (hname : e.1 = name) : e = (name, m) :=
  List.inj_on_of_nodup_map h.nodup he (metric?_eq_some hm) hname

/-- What one metric takes up no other one does. -/
theorem Sound.not_mem_taken (h : r.Sound) {d e : String × Metric} (hd : d ∈ r.metrics)
    (he : e ∈ r.metrics) (hne : d ≠ e) (n : String) (hn : n ∈ d.2.taken) : n ∉ e.2.taken := by
  have : Std.Symm fun d e : String × Metric => ∀ n ∈ d.2.taken, n ∉ e.2.taken :=
    ⟨fun d e hde n hn hd => hde n hd hn⟩
  exact h.apart.forall hd he hne n hn

theorem metric?_put_of_ne {other : String} (h : other ≠ name) (r : Registry) (m : Metric) :
    (r.put name m).metric? other = r.metric? other := by
  have hkey (e : String × Metric) : ((if e.1 = name then (name, m) else e).1 == other) =
      (e.1 == other) := by
    split
    · rename_i he
      rw [he]
    · rfl
  rw [metric?, metric?, put, List.find?_map]
  simp only [Function.comp_def, hkey]
  cases he : r.metrics.find? (·.1 == other) with
  | none => rfl
  | some e =>
      have hother : e.1 = other := by simpa using List.find?_some he
      rw [Option.map_some, Option.map_some, if_neg (hother ▸ h), Option.map_some]

theorem metric?_put_self (h : (r.metric? name).isSome) (m : Metric) :
    (r.put name m).metric? name = some m := by
  have hkey (e : String × Metric) : ((if e.1 = name then (name, m) else e).1 == name) =
      (e.1 == name) := by
    split
    · rename_i he
      rw [he]
    · rfl
  obtain ⟨m', hm⟩ := Option.isSome_iff_exists.1 h
  obtain ⟨e, he, _⟩ := Option.map_eq_some_iff.1 hm
  have hname : e.1 = name := by simpa using List.find?_some he
  rw [metric?, put, List.find?_map]
  simp only [Function.comp_def, hkey, he, Option.map_some, if_pos hname]

/-- A metric is replaced by one that differs in its cells only. -/
theorem Sound.put (h : r.Sound) (hm : r.metric? name = some m) {m' : Metric}
    (hframe : m'.frame = m.frame) (heven : m'.IsEven) :
    (r.put name m').Sound ∧ (r.put name m').frames = r.frames := by
  have hreplaced : ∀ e ∈ r.metrics, (if e.1 = name then (name, m') else e).1 = e.1 ∧
      (if e.1 = name then (name, m') else e).2.frame = e.2.frame := by
    intro e he
    split
    · rename_i hname
      rw [h.eq_of_mem hm he hname]
      exact ⟨rfl, hframe⟩
    · exact ⟨rfl, rfl⟩
  refine ⟨⟨?_, ?_, ?_⟩, ?_⟩
  · have hkeys : (r.put name m').metrics.map (·.1) = r.metrics.map (·.1) := by
      rw [Registry.put, List.map_map]
      exact List.map_congr_left fun e he => (hreplaced e he).1
    rw [hkeys]
    exact h.nodup
  · refine List.pairwise_map.2 (h.apart.imp_of_mem fun {d e} hd he hapart => ?_)
    rw [Metric.taken_eq_of_frame (hreplaced d hd).2, Metric.taken_eq_of_frame (hreplaced e he).2]
    exact hapart
  · intro e he
    obtain ⟨d, hd, rfl⟩ := List.mem_map.1 he
    split
    · exact heven
    · exact h.even d hd
  · rw [frames, frames, Registry.put, List.map_map]
    exact List.map_congr_left fun e he => Prod.ext (hreplaced e he).1 (hreplaced e he).2

/-- Every change keeps a registry sound, and its metrics as they were registered. -/
theorem Sound.change (h : r.Sound) {f : Metric → List String → Except Error Metric}
    (hf : ChangesCell f) (name : String) (labels : List (String × String)) :
    (r.change name labels f).1.Sound ∧ (r.change name labels f).1.frames = r.frames := by
  unfold Registry.change
  split
  · exact ⟨h, rfl⟩
  rename_i m hm
  split
  · exact ⟨h, rfl⟩
  rename_i values hvalues
  have heven := (h.even _ (metric?_eq_some hm)).withCell (Metric.length_valuesOf hvalues)
  have hframe := Metric.frame_withCell m values
  dsimp only
  split
  · rename_i m' hm'
    obtain ⟨g, hg, rfl⟩ := hf _ _ _ hm'
    exact h.put hm (by rw [Metric.frame_modifyCell, hframe]) (heven.modifyCell hg)
  · exact h.put hm hframe heven

theorem value?_change_of_ne {other : String} (h : other ≠ name) (r : Registry)
    (labels : List (String × String)) (f : Metric → List String → Except Error Metric)
    (row : List String) : (r.change name labels f).1.value? other row = r.value? other row := by
  have hput (m : Metric) : (r.put name m).value? other row = r.value? other row := by
    rw [value?, value?, metric?_put_of_ne h]
  unfold change
  split
  · rfl
  split
  · rfl
  dsimp only
  split <;> exact hput _

/-- The value in the cell of a row changes, and no other value. -/
theorem value?_change {labels : List (String × String)} {values : List String}
    {f : Metric → List String → Except Error Metric} {g : Float → Float}
    (hm : r.metric? name = some m) (hlabels : m.valuesOf labels = .ok values)
    (hvalues : values ≠ [])
    (hf : f (m.withCell values) values =
      .ok ((m.withCell values).modifyCell values fun c => { c with value := g c.value }))
    (row : List String) :
    (r.change name labels f).1.value? name row =
      if row = values then some (g ((r.value? name values).getD 0)) else r.value? name row := by
  have hsome : (r.metric? name).isSome := by simp [hm]
  have hold (row : List String) : r.value? name row = m.value? row := by rw [value?, hm]; rfl
  simp only [change, hm, hlabels, hf]
  rw [hold, hold, value?, metric?_put_self hsome, Option.bind_some, Metric.value?_modifyCell,
    Metric.value?_withCell hvalues]
  split <;> simp_all

/-! ### What is shown -/

theorem find?_flatMap_of_mem {α β : Type} {f : α → List β} {p : β → Bool} {xs : List α} {x : α}
    (hx : x ∈ xs) (h : ∀ y ∈ xs, y ≠ x → (f y).find? p = none) :
    (xs.flatMap f).find? p = (f x).find? p := by
  induction xs with
  | nil => cases hx
  | cons y rest ih =>
      rw [List.flatMap_cons, List.find?_append]
      by_cases hyx : y = x
      · subst hyx
        cases hy : (f y).find? p with
        | some b => rfl
        | none =>
            refine (Option.none_or).trans (List.find?_eq_none.2 fun b hb => ?_)
            obtain ⟨z, hz, hb⟩ := List.mem_flatMap.1 hb
            by_cases hzy : z = y
            · exact List.find?_eq_none.1 hy b (hzy ▸ hb)
            · exact List.find?_eq_none.1 (h z (List.mem_cons_of_mem _ hz) hzy) b hb
      · rw [h y (List.mem_cons_self ..) hyx, Option.none_or]
        have hrest := (List.mem_cons.1 hx).resolve_left fun he => hyx he.symm
        exact ih hrest fun z hz => h z (List.mem_cons_of_mem _ hz)

/-- Rows of values for the same labels look alike only if they are the same. -/
theorem sortedLabels_zip_inj {labels vs ws : List String} (hnodup : labels.Nodup)
    (hvs : vs.length = labels.length) (hws : ws.length = labels.length) :
    sortedLabels (labels.zip vs) = sortedLabels (labels.zip ws) ↔ vs = ws := by
  constructor
  · intro h
    have hsorted (ls : List (String × String)) : (sortedLabels ls).Perm ls :=
      List.mergeSort_perm ls _
    have hperm : (labels.zip vs).Perm (labels.zip ws) := by
      refine (hsorted _).symm.trans ?_
      rw [h]
      exact hsorted _
    refine List.ext_getElem (hvs.trans hws.symm) fun n hn hn' => ?_
    -- the label at a place occurs only once, so that its value is found at that place
    have hzip : n < (labels.zip vs).length := by
      rw [List.length_zip]
      omega
    have hmem : (labels.zip vs)[n] ∈ labels.zip ws := hperm.mem_iff.1 (List.getElem_mem hzip)
    obtain ⟨k, hk, hpair⟩ := List.mem_iff_getElem.1 hmem
    simp only [List.getElem_zip, Prod.mk.injEq] at hpair
    obtain rfl := (hnodup.getElem_inj_iff).1 hpair.1
    exact hpair.2.symm
  · rintro rfl
    rfl

/-- Values that are texts are looked up as they are. -/
theorem sample?_text (r : Registry) (name : String) (labels : List (String × String)) :
    r.sample? name (labels.map fun l => (l.1, .text l.2)) = (r.samples.find? fun s =>
      s.name == name && sortedLabels s.labels == sortedLabels labels).map (·.value) := by
  have htexts : labels.mapM (fun l => some (l.1, l.2)) = some labels := by
    simpa using List.mapM_pure (m := Option) (l := labels) (f := fun l => (l.1, l.2))
  simp only [sample?, List.mapM_map, Function.comp_def, htexts, Option.bind_eq_bind,
    Option.bind_some]
  cases r.samples.find? _ <;> rfl

/-- What a gauge or a counter shows is what is in its cell. -/
theorem Sound.sample?_eq (h : r.Sound) (hm : r.metric? name = some m) (hshown : m.shownAs = name)
    (hkind : m.kind ≠ .histogram) {labels : List (String × String)}
    (hlabels : m.labels = labels.map Prod.fst) (hnodup : (labels.map Prod.fst).Nodup) :
    r.sample? name (labels.map fun l => (l.1, .text l.2)) =
      r.value? name (labels.map Prod.snd) := by
  have hmem := metric?_eq_some hm
  have hzip : m.labels.zip (labels.map Prod.snd) = labels := by
    rw [hlabels]
    exact (List.zip_of_prod rfl rfl).symm
  have hfind : r.samples.find? (fun s =>
      s.name == name && sortedLabels s.labels == sortedLabels labels) =
      m.samples.find? fun s =>
        s.name == name && sortedLabels s.labels == sortedLabels labels := by
    refine find?_flatMap_of_mem hmem fun e he hne => List.find?_eq_none.2 fun s hs hshows => ?_
    -- the sample of another metric has a name that this one takes up
    have hname : s.name = name := by simpa using (Bool.and_eq_true_iff.1 hshows).1
    have htaken : name ∈ e.2.taken := hname ▸ Metric.name_mem_taken hs
    exact h.not_mem_taken he hmem hne name htaken (hshown ▸ m.shownAs_mem_taken)
  have hrow : ∀ c ∈ m.cells, (m.shownAs == name &&
      sortedLabels (m.labels.zip c.labelValues) == sortedLabels labels) =
        (c.labelValues == labels.map Prod.snd) := by
    intro c hc
    have hinj : sortedLabels (m.labels.zip c.labelValues) =
        sortedLabels (m.labels.zip (labels.map Prod.snd)) ↔ c.labelValues = labels.map Prod.snd :=
      sortedLabels_zip_inj (hlabels ▸ hnodup) (h.even _ hmem c hc) (by simp [hlabels])
    rw [hzip] at hinj
    rw [Bool.eq_iff_iff]
    simp [hshown, hinj]
  have hsamples : m.samples = m.cells.map fun c =>
      { name := m.shownAs, labels := m.labels.zip c.labelValues, value := c.value } := by
    rw [Metric.samples, funext (Metric.cellSamples_eq hkind), List.map_eq_flatMap]
  have hrows := List.find?_congr hrow
  rw [sample?_text, hfind, hsamples, List.find?_map, value?, hm, Option.bind_some, Metric.value?,
    Option.map_map, ← hrows]
  rfl

end Registry

end Conveyor.Metrics
