/-
**What commands make of a file.**

A command ends well when its file can be loaded, its settings and the definitions are in order, and
what it shows can be shown.  The commands look at the same definitions in the same way; they differ in
what they show.  So a file that is valid can be planned just when its plan can be shown, it can be run,
and a file that can be planned is valid.

What can be shown is up to the screen, and all this holds on any screen.  More is known of the screens
on which each text stands for itself.

Main definitions:

* `Conveyor.CommandLine.Outcome.Succeeds` — a command that ends with the code zero;
* `Conveyor.CommandLine.Screen.Shows`, `Conveyor.CommandLine.Screen.Draws` — what can be shown;
* `Conveyor.CommandLine.Screen.Lawful` — a screen on which each text stands for itself;
* `Conveyor.CommandLine.IsSound` — definitions that are in order under settings;
* `Conveyor.CommandLine.Screen.ShowsPlan`, `Conveyor.CommandLine.Screen.ShowsTexts` — a plan that can
  be shown, and texts of a plan that can be shown;
* `Conveyor.CommandLine.RunOptions.IsValid` — options that nothing is wrong with.

Main results:

* `Conveyor.CommandLine.Screen.lawful_ofWidth` — on the screen that is used each text stands for itself;
* `Conveyor.CommandLine.validate_succeeds_iff`, `Conveyor.CommandLine.plan_succeeds_iff` — when
  commands end well;
* `Conveyor.CommandLine.run_eq_present` — what is in order is run;
* `Conveyor.CommandLine.perform_agree` — **what commands make of one file**;
* `Conveyor.CommandLine.exists_valid_not_planned` — a valid file that cannot be planned.
-/

import Conveyor.CommandLine.Outcome
import Conveyor.Proofs.Config
import Conveyor.Proofs.Console.Balance
import Conveyor.Proofs.Engine.Dispatch

set_option autoImplicit false

namespace Conveyor.CommandLine

open Console Console.Markup

/-! ### Ending well -/

/-- A command that ends with the code zero. -/
def Outcome.Succeeds (o : Outcome) : Prop := o.exitCode = 0

instance (o : Outcome) : Decidable o.Succeeds := inferInstanceAs (Decidable (o.exitCode = 0))

variable {screen : Screen} {next : Outcome} {f : Fault} {s : String}

theorem succeeds_exit_zero : (Outcome.exit 0).Succeeds := rfl

theorem not_succeeds_exit_one : ¬ (Outcome.exit 1).Succeeds := by
  simp [Outcome.Succeeds, Outcome.exit, Outcome.exitCode]

theorem not_succeeds_raise : ¬ (Outcome.raise f).Succeeds := by
  simp [Outcome.Succeeds, Outcome.raise, Outcome.exitCode]

/-- A text that can be shown on a screen. -/
def Screen.Shows (screen : Screen) (s : String) : Prop := ∃ ls, screen.text s = .ok ls

/-- A table that can be drawn on a screen. -/
def Screen.Draws (screen : Screen) (t : Table) : Prop := ∃ ls, screen.table t = .ok ls

theorem succeeds_draw_iff {lines : Drawing} :
    (draw lines next).Succeeds ↔ (∃ ls, lines = .ok ls) ∧ next.Succeeds := by
  cases lines with
  | error f => simp [draw, not_succeeds_raise]
  | ok ls => simp [draw, Outcome.Succeeds, Outcome.exitCode]

theorem succeeds_table_iff {t : Table} :
    (draw (screen.table t) next).Succeeds ↔ screen.Draws t ∧ next.Succeeds := succeeds_draw_iff

theorem succeeds_say_iff : (say screen s next).Succeeds ↔ screen.Shows s ∧ next.Succeeds :=
  succeeds_draw_iff

theorem not_succeeds_sayOpen : ¬ (sayOpen screen s 1).Succeeds := by
  rw [sayOpen]
  split
  · exact not_succeeds_raise
  · simp [Outcome.Succeeds, Outcome.exitCode]

theorem not_succeeds_refusedSettings : ¬ (refusedSettings screen).Succeeds := not_succeeds_sayOpen

theorem not_succeeds_unknownPipeline {c : Catalog} {name : String} :
    ¬ (unknownPipeline screen c name).Succeeds := by
  rw [unknownPipeline, succeeds_say_iff]
  exact fun h => not_succeeds_exit_one h.2

theorem not_succeeds_configFault : ¬ (configFault screen f).Succeeds := by
  rw [configFault]
  split
  · rename_i violations hkind
    clear hkind
    rw [succeeds_say_iff]
    rintro ⟨-, hrest⟩
    induction violations with
    | nil => exact not_succeeds_exit_one hrest
    | cons v violations ih =>
        rw [List.foldr_cons, succeeds_say_iff] at hrest
        exact ih hrest.2
  · exact not_succeeds_raise

theorem not_succeeds_loadFault : ¬ (loadFault screen f).Succeeds := by
  rw [loadFault]
  split
  · rw [succeeds_say_iff]
    exact fun h => not_succeeds_exit_one h.2
  · exact not_succeeds_sayOpen
  · exact not_succeeds_sayOpen
  · exact not_succeeds_raise

theorem withDefinitions_succeeds_iff {home : Path} {files : FileTree} {path : String}
    {next : Catalog → Option RunConfig → Outcome} :
    (withDefinitions screen home files path next).Succeeds ↔
      ∃ c base, load home files path = .ok (c, base) ∧ (next c base).Succeeds := by
  simp only [withDefinitions]
  split
  · rename_i hload
    simp [hload, not_succeeds_loadFault]
  · rename_i c base hload
    constructor
    · exact fun h => ⟨c, base, hload, h⟩
    · rintro ⟨_, _, hload', h⟩
      cases hload.symm.trans hload'
      exact h

/-! ### Definitions in order -/

/-- Definitions that are in order: no rule is broken, and all pipelines can be expanded. -/
structure IsSound (c : Catalog) (cap : Nat) : Prop where
  valid : c.IsValid
  expands : ∀ p ∈ c.pipelines, ∃ stages, p.expand cap = .ok stages

theorem validate_eq_ok_iff {c : Catalog} : c.validate = .ok () ↔ c.IsValid := by
  constructor
  · intro h
    by_contra hnot
    obtain ⟨f, -, hf⟩ := Catalog.exists_validate_error hnot
    cases h.symm.trans hf
  · exact Catalog.IsValid.validate

theorem sizes_eq_ok {cap : Nat} {ps : List Pipeline} {rows : List (Pipeline × Nat)}
    (h : sizes cap ps = .ok rows) :
    rows.map (·.1) = ps ∧ ∀ p ∈ ps, ∃ stages, p.expand cap = .ok stages := by
  induction ps generalizing rows with
  | nil =>
      cases h
      exact ⟨rfl, List.forall_mem_nil _⟩
  | cons p ps ih =>
      rw [sizes] at h
      obtain ⟨stages, hstages, h⟩ := exists_ok_of_bind h
      obtain ⟨rest, hrest, h⟩ := exists_ok_of_bind h
      cases h
      obtain ⟨hmap, hall⟩ := ih hrest
      exact ⟨by simp [hmap], List.forall_mem_cons.2 ⟨⟨stages, hstages⟩, hall⟩⟩

theorem exists_sizes {cap : Nat} {ps : List Pipeline}
    (h : ∀ p ∈ ps, ∃ stages, p.expand cap = .ok stages) : ∃ rows, sizes cap ps = .ok rows := by
  induction ps with
  | nil => exact ⟨[], rfl⟩
  | cons p ps ih =>
      obtain ⟨⟨stages, hstages⟩, hrest⟩ := List.forall_mem_cons.1 h
      obtain ⟨rows, hrows⟩ := ih hrest
      exact ⟨(p, instanceCount stages) :: rows, by simp [sizes, hstages, hrows, bind, Except.bind,
        pure, Except.pure]⟩

/-- Nothing is chosen that is not there. -/
theorem mem_of_mem_select {c selected : Catalog} {name : Option String}
    (hselect : select? c name = some selected) {p : Pipeline} (hp : p ∈ selected.pipelines) :
    p ∈ c.pipelines := by
  cases name with
  | none =>
      cases hselect
      exact hp
  | some name =>
      obtain ⟨q, hq, rfl⟩ := Option.map_eq_some_iff.1 hselect
      obtain rfl := List.mem_singleton.1 hp
      exact List.mem_of_find?_eq_some hq

/-- What is chosen from definitions in order is in order. -/
theorem IsSound.select {c selected : Catalog} {cap : Nat} {name : Option String}
    (h : IsSound c cap) (hselect : select? c name = some selected) : IsSound selected cap where
  valid.names := by
    cases name with
    | none =>
        cases hselect
        exact h.valid.names
    | some name =>
        obtain ⟨p, -, rfl⟩ := Option.map_eq_some_iff.1 hselect
        exact List.nodup_singleton _
  valid.pipelines p hp := h.valid.pipelines p (mem_of_mem_select hselect hp)
  expands p hp := h.expands p (mem_of_mem_select hselect hp)

/-! ### Validation -/

/-- A validation ends well when the definitions are in order and what it shows of them can be shown. -/
theorem validate_succeeds_iff {c : Catalog} {base : Option RunConfig} {cap : Option Int} :
    (validate screen c base cap).Succeeds ↔ ∃ config rows,
      settings base [("matrix_cap", .ofInt? cap)] = .good config ∧ IsSound c config.matrixCap ∧
      sizes config.matrixCap c.pipelines = .ok rows ∧
      screen.Draws (overview rows) ∧ screen.Shows (verdict rows.length) := by
  rw [validate]
  cases hsettings : settings base [("matrix_cap", .ofInt? cap)] with
  | bad problems => simp [not_succeeds_refusedSettings]
  | good config =>
      simp only [Checked.good.injEq]
      cases hvalid : c.validate with
      | error f =>
          refine iff_of_false not_succeeds_configFault ?_
          rintro ⟨_, _, rfl, hsound, -⟩
          cases hvalid.symm.trans hsound.valid.validate
      | ok u =>
          have hok := validate_eq_ok_iff.1 hvalid
          cases hsizes : sizes config.matrixCap c.pipelines with
          | error f =>
              refine iff_of_false not_succeeds_configFault ?_
              rintro ⟨_, _, rfl, -, hrows, -⟩
              cases hsizes.symm.trans hrows
          | ok rows =>
              simp only [bind, Except.bind, succeeds_table_iff, succeeds_say_iff, succeeds_exit_zero,
                and_true]
              constructor
              · exact fun h => ⟨config, rows, rfl, ⟨hok, (sizes_eq_ok hsizes).2⟩, hsizes, h⟩
              · rintro ⟨_, _, rfl, -, hrows, h⟩
                cases hsizes.symm.trans hrows
                exact h

/-! ### Plans -/

/-- The plan of a pipeline can be shown: its table, and the line about its size. -/
def Screen.ShowsPlan (screen : Screen) (p : Pipeline) (stages : List StageReport) : Prop :=
  screen.Draws (planTable p stages) ∧ screen.Shows (planLine p stages)

theorem showPlans_succeeds_iff {cap : Nat} {ps : List Pipeline} :
    (showPlans screen cap ps).Succeeds ↔
      ∀ p ∈ ps, ∃ stages, p.expand cap = .ok stages ∧ screen.ShowsPlan p stages := by
  induction ps with
  | nil => simp [showPlans, succeeds_exit_zero]
  | cons p ps ih =>
      rw [List.forall_mem_cons, ← ih, showPlans]
      split
      · rename_i f hexpand
        simp [hexpand, not_succeeds_configFault]
      · rename_i stages hexpand
        simp only [succeeds_table_iff, succeeds_say_iff, hexpand, Except.ok.injEq, exists_eq_left',
          Screen.ShowsPlan, and_assoc]

/-- A plan ends well when the definitions that are asked for are in order and can be shown. -/
theorem plan_succeeds_iff {c : Catalog} {base : Option RunConfig} {name : Option String}
    {cap : Option Int} :
    (plan screen c base name cap).Succeeds ↔ ∃ selected config, select? c name = some selected ∧
      settings base [("matrix_cap", .ofInt? cap)] = .good config ∧ IsSound selected config.matrixCap ∧
      ∀ p ∈ selected.pipelines, ∀ stages, p.expand config.matrixCap = .ok stages →
        screen.ShowsPlan p stages := by
  rw [plan]
  split
  · rename_i hselect
    simp [hselect, not_succeeds_unknownPipeline]
  · rename_i selected hselect
    split
    · rename_i hsettings
      simp [hsettings, not_succeeds_refusedSettings]
    · rename_i config hsettings
      split
      · rename_i f hvalid
        refine iff_of_false not_succeeds_configFault ?_
        rintro ⟨_, _, hselect', hsettings', hsound, -⟩
        cases hselect.symm.trans hselect'
        cases hvalid.symm.trans hsound.valid.validate
      · rename_i hvalid
        rw [showPlans_succeeds_iff]
        constructor
        · intro h
          refine ⟨selected, config, hselect, hsettings, ⟨validate_eq_ok_iff.1 hvalid, ?_⟩, ?_⟩
          · intro p hp
            obtain ⟨stages, hstages, -⟩ := h p hp
            exact ⟨stages, hstages⟩
          · intro p hp stages' hstages'
            obtain ⟨stages, hstages, hshown⟩ := h p hp
            cases hstages.symm.trans hstages'
            exact hshown
        · rintro ⟨_, _, hselect', hsettings', hsound, hshown⟩ p hp
          cases hselect.symm.trans hselect'
          cases hsettings.symm.trans hsettings'
          obtain ⟨stages, hstages⟩ := hsound.expands p hp
          exact ⟨stages, hstages, hshown p hp stages hstages⟩

/-! ### Screens on which each text stands for itself -/

/-- A screen on which each text stands for itself: a table is drawn when its texts are shown, plain
characters around a text do not count, and what is plain is shown, also in green. -/
structure Screen.Lawful (screen : Screen) : Prop where
  draws_iff {t : Table} : (∀ r ∈ t.rows, r.length = t.heads.length) →
    (screen.Draws t ↔ screen.Shows t.title ∧ (∀ s ∈ t.heads, screen.Shows s) ∧
      ∀ r ∈ t.rows, ∀ s ∈ r, screen.Shows s)
  shows_append_iff {before s after : String} : IsPlain before → IsPlain after →
    (screen.Shows (before ++ s ++ after) ↔ screen.Shows s)
  shows_plain {s : String} : IsPlain s → screen.Shows s
  shows_green {s : String} : IsPlain s → screen.Shows ("[green]" ++ s ++ "[/green]")

theorem shows_ofWidth_iff {width : Nat} : (Screen.ofWidth width).Shows s ↔ IsBalanced s := by
  have htext : (Screen.ofWidth width).text s = (wrap width .free true) <$> shown s := rfl
  rw [Screen.Shows, htext, IsBalanced]
  cases shown s <;> simp [Functor.map, Except.map]

/-- A plain text between the tags of a colour. -/
theorem isBalanced_green (h : IsPlain s) : IsBalanced ("[green]" ++ s ++ "[/green]") := by
  have htext : ("[green]" ++ s ++ "[/green]").toList =
      "[green]".toList ++ (s.toList ++ "[/green]".toList) := by
    rw [String.toList_append, String.toList_append, List.append_assoc]
  have hopen (cs : List Char) : tags ("[green]".toList ++ cs) = "green".toList :: tags cs := by
    have htag : escapedTagAt? ('[' :: ("green]".toList ++ cs)) = some (0, "green".toList, cs) := rfl
    exact tags_of_escapedTagAt? htag
  have hclose : tags "[/green]".toList = ["/green".toList] := by
    have htag : escapedTagAt? ('[' :: "/green]".toList) = some (0, "/green".toList, []) := rfl
    exact (tags_of_escapedTagAt? htag).trans (by rw [tags_nil]; rfl)
  rw [isBalanced_iff, htext, hopen, tags_plain_append fun c hc => ⟨(h c hc).1, (h c hc).2.2⟩, hclose]
  decide +kernel

/-- On the screen that is used each text stands for itself. -/
theorem Screen.lawful_ofWidth (width : Nat) : (Screen.ofWidth width).Lawful where
  draws_iff h := by
    simp only [shows_ofWidth_iff]
    exact Table.exists_draw_iff h width
  shows_append_iff hbefore hafter := by
    rw [shows_ofWidth_iff, shows_ofWidth_iff, isBalanced_append_iff hbefore hafter]
  shows_plain h := shows_ofWidth_iff.2 h.isBalanced
  shows_green h := shows_ofWidth_iff.2 (isBalanced_green h)

theorem isPlain_kinds (ts : List Trigger) :
    IsPlain (", ".intercalate (ts.map fun t => t.kind.name)) := by
  refine IsPlain.intercalate (by decide +kernel) fun t ht => ?_
  obtain ⟨trigger, -, rfl⟩ := List.mem_map.1 ht
  cases trigger.kind <;> decide +kernel

/-- The texts of a plan that come from the definitions can be shown: the names of the stages, and the
identities and the bindings of their instances. -/
def Screen.ShowsTexts (screen : Screen) (stages : List StageReport) : Prop :=
  ∀ s ∈ stages, ∀ i ∈ s.instances, screen.Shows s.name ∧ screen.Shows i.identity ∧
    screen.Shows (", ".intercalate (i.bindings.map fun b => b.1 ++ "=" ++ b.2))

namespace Screen.Lawful

/-- A table whose heads are plain can be drawn when its title and its rows can be shown. -/
theorem draws_iff_of_plain_heads (h : screen.Lawful) {t : Table} (hheads : ∀ s ∈ t.heads, IsPlain s)
    (hlength : ∀ r ∈ t.rows, r.length = t.heads.length) :
    screen.Draws t ↔ screen.Shows t.title ∧ ∀ r ∈ t.rows, ∀ s ∈ r, screen.Shows s := by
  rw [h.draws_iff hlength]
  exact and_congr_right fun _ => and_iff_right fun s hs => h.shows_plain (hheads s hs)

/-- A plain text that stands for an empty one can always be shown. -/
theorem shows_orElse_iff (h : screen.Lawful) {s t : String} (ht : IsPlain t) :
    screen.Shows (if s = "" then t else s) ↔ screen.Shows s := by
  split
  · rename_i hs
    exact iff_of_true (h.shows_plain ht) (hs ▸ h.shows_plain (by decide +kernel))
  · rfl

/-- The table of valid pipelines can be drawn when their names can be shown. -/
theorem draws_overview_iff (h : screen.Lawful) {rows : List (Pipeline × Nat)} :
    screen.Draws (overview rows) ↔ ∀ r ∈ rows, screen.Shows r.1.name := by
  have hheads : ∀ s ∈ (overview rows).heads, IsPlain s := (by decide +kernel :
    ∀ s ∈ ["Pipeline", "Triggers", "Stages", "Instances"], IsPlain s)
  have hlength : ∀ row ∈ (overview rows).rows, row.length = (overview rows).heads.length := by
    intro row hrow
    obtain ⟨r, -, rfl⟩ := List.mem_map.1 hrow
    rfl
  have htitle : screen.Shows (overview rows).title :=
    h.shows_plain (by decide +kernel : IsPlain "Pipelines")
  rw [h.draws_iff_of_plain_heads hheads hlength, and_iff_right htitle]
  simp only [overview, List.forall_mem_map, List.forall_mem_cons, List.not_mem_nil, false_implies,
    h.shows_orElse_iff (by decide +kernel : IsPlain "manual only"), h.shows_plain (isPlain_kinds _),
    h.shows_plain (isPlain_toString _), implies_true, and_true]

/-- What is said of valid pipelines can be shown, however many there are. -/
theorem shows_verdict (h : screen.Lawful) (n : Nat) : screen.Shows (verdict n) := by
  have hplain : IsPlain ("✓ " ++ toString n ++ " pipeline(s) valid") :=
    IsPlain.append (IsPlain.append (by decide +kernel) (isPlain_toString n)) (by decide +kernel)
  have htext : verdict n = "[green]" ++ ("✓ " ++ toString n ++ " pipeline(s) valid") ++ "[/green]" := by
    simp [verdict, ← String.toList_inj]
  rw [htext]
  exact h.shows_green hplain

/-- What is said of the size of a plan can be shown when the name of the pipeline can. -/
theorem shows_planLine_iff (h : screen.Lawful) {p : Pipeline} {stages : List StageReport} :
    screen.Shows (planLine p stages) ↔ screen.Shows p.name := by
  have hplain : IsPlain (": " ++ toString stages.length ++ " stages, " ++
      toString (instanceCount stages) ++ " instances") :=
    IsPlain.append (IsPlain.append (IsPlain.append (IsPlain.append (by decide +kernel)
      (isPlain_toString _)) (by decide +kernel)) (isPlain_toString _)) (by decide +kernel)
  have htext : planLine p stages = "" ++ p.name ++ (": " ++ toString stages.length ++ " stages, " ++
      toString (instanceCount stages) ++ " instances") := by
    simp [planLine, String.append_assoc]
  rw [htext, h.shows_append_iff (by decide +kernel) hplain]

/-- The table of a plan can be drawn when the name of the pipeline and the texts of the plan can be
shown. -/
theorem draws_planTable_iff (h : screen.Lawful) {p : Pipeline} {stages : List StageReport} :
    screen.Draws (planTable p stages) ↔ screen.Shows p.name ∧ screen.ShowsTexts stages := by
  have hheads : ∀ s ∈ (planTable p stages).heads, IsPlain s := (by decide +kernel :
    ∀ s ∈ ["Order", "Stage", "Instance", "Bindings"], IsPlain s)
  have hlength : ∀ row ∈ (planTable p stages).rows,
      row.length = (planTable p stages).heads.length := by
    intro row hrow
    obtain ⟨s, -, hrow⟩ := List.mem_flatMap.1 hrow
    obtain ⟨i, -, rfl⟩ := List.mem_map.1 hrow
    rfl
  have htitle : screen.Shows (planTable p stages).title ↔ screen.Shows p.name :=
    h.shows_append_iff (by decide +kernel) (by decide +kernel)
  rw [h.draws_iff_of_plain_heads hheads hlength, htitle]
  simp only [planTable, List.forall_mem_flatMap, List.forall_mem_map, List.forall_mem_cons,
    List.not_mem_nil, false_implies, h.shows_orElse_iff (by decide +kernel : IsPlain "-"),
    h.shows_plain (isPlain_toString_int _), implies_true, true_and, and_true, Screen.ShowsTexts]

theorem showsPlan_iff (h : screen.Lawful) {p : Pipeline} {stages : List StageReport} :
    screen.ShowsPlan p stages ↔ screen.Shows p.name ∧ screen.ShowsTexts stages := by
  rw [Screen.ShowsPlan, h.draws_planTable_iff, h.shows_planLine_iff]
  exact ⟨fun hplan => hplan.1, fun htexts => ⟨htexts, htexts.1⟩⟩

/-- What is planned can be listed with the valid pipelines. -/
theorem draws_overview (h : screen.Lawful) {c : Catalog} {cap : Nat} {rows : List (Pipeline × Nat)}
    (hsound : IsSound c cap) (hrows : sizes cap c.pipelines = .ok rows)
    (hshown : ∀ p ∈ c.pipelines, ∀ stages, p.expand cap = .ok stages → screen.ShowsPlan p stages) :
    screen.Draws (overview rows) := by
  refine h.draws_overview_iff.2 fun r hr => ?_
  have hp : r.1 ∈ c.pipelines := (sizes_eq_ok hrows).1 ▸ List.mem_map_of_mem hr
  obtain ⟨stages, hstages⟩ := hsound.expands _ hp
  exact (h.showsPlan_iff.1 (hshown _ hp stages hstages)).1

/-- What is listed with the valid pipelines can be planned when its texts can be shown. -/
theorem showsPlan_iff_of_overview (h : screen.Lawful) {c : Catalog} {cap : Nat}
    {rows : List (Pipeline × Nat)} (hrows : sizes cap c.pipelines = .ok rows)
    (hoverview : screen.Draws (overview rows)) {p : Pipeline} (hp : p ∈ c.pipelines)
    {stages : List StageReport} : screen.ShowsPlan p stages ↔ screen.ShowsTexts stages := by
  rw [← (sizes_eq_ok hrows).1] at hp
  obtain ⟨r, hr, rfl⟩ := List.mem_map.1 hp
  rw [h.showsPlan_iff, and_iff_right (h.draws_overview_iff.1 hoverview r hr)]

end Screen.Lawful

/-! ### Runs -/

/-- Options that nothing is wrong with, for a catalog: somebody asks for the run or something happened,
but not both; the pipeline is in the catalog; and the settings are within their bounds. -/
structure RunOptions.IsValid (o : RunOptions) (c : Catalog) : Prop where
  request : (o.manual && o.event.isSome) = false
  pipeline {name : String} : o.pipeline = some name → name ∈ c.names
  concurrency {n : Int} : o.concurrency = some n → 1 ≤ n ∧ n ≤ 256
  workingDir {dir : String} : o.workingDir = some dir → Text.allBlank dir = false

theorem exists_select {c : Catalog} {name : Option String}
    (h : ∀ n, name = some n → n ∈ c.names) : ∃ selected, select? c name = some selected := by
  cases name with
  | none => exact ⟨c, rfl⟩
  | some n =>
      obtain ⟨p, hp, hname⟩ := List.mem_map.1 (h n rfl)
      have hfound : (c.pipelines.find? (·.name == n)).isSome = true :=
        List.find?_isSome.2 ⟨p, hp, by simp [hname]⟩
      obtain ⟨q, hq⟩ := Option.isSome_iff_exists.1 hfound
      exact ⟨⟨[q]⟩, by simp [select?, Catalog.pipeline?, hq]⟩

/-- What options give for a setting besides the limit of a matrix. -/
def RunOptions.besides (o : RunOptions) (k : String) : Datum :=
  if k = "concurrency_limit" then .ofInt? o.concurrency
  else if k = "fail_fast" then (o.failFast.map Datum.bool).getD .null
  else if k = "working_dir" then .ofText? o.workingDir
  else .null

/-- Options override what the limit of a matrix alone leaves. -/
theorem lookupText_entries (o : RunOptions) (entries : List (Datum × Datum)) {k : String}
    (hk : k ∈ RunConfig.settings) :
    Datum.lookupText (RunConfig.overlay entries (RunConfig.asEntries o.entries)) k =
      RunConfig.given (Datum.lookupText (RunConfig.overlay entries
        (RunConfig.asEntries [("matrix_cap", .ofInt? o.matrixCap)])) k) (o.besides k) := by
  rw [RunConfig.lookupText_overlay, RunConfig.lookupText_overlay]
  simp only [RunConfig.settings, List.mem_cons, List.not_mem_nil, or_false] at hk
  rcases hk with rfl | rfl | rfl | rfl <;>
    simp [RunOptions.entries, RunOptions.besides, RunConfig.overlaid, RunConfig.given]

namespace RunOptions.IsValid

variable {c : Catalog} {o : RunOptions}

theorem concurrency_good (ho : o.IsValid c) : o.besides "concurrency_limit" = .null ∨
    ∃ n, RunConfig.checkLimit (o.besides "concurrency_limit").opened = .good n := by
  cases hn : o.concurrency with
  | none => exact .inl (by simp [besides, hn, Datum.ofInt?])
  | some n =>
      obtain ⟨hlow, hhigh⟩ := ho.concurrency hn
      refine .inr ⟨n.toNat, ?_⟩
      simp [besides, hn, Datum.ofInt?, Datum.opened, RunConfig.checkLimit, Check.wholeIn,
        Check.whole, Checked.andThen, Int.not_lt.2 hlow, Int.not_lt.2 hhigh]

theorem failFast_good (o : RunOptions) : o.besides "fail_fast" = .null ∨
    ∃ b, Check.truth (o.besides "fail_fast").opened = .good b := by
  cases hb : o.failFast with
  | none => exact .inl (by simp [besides, hb])
  | some b => exact .inr ⟨b, by simp [besides, hb, Datum.opened, Check.truth]⟩

theorem workingDir_good (ho : o.IsValid c) : o.besides "working_dir" = .null ∨
    ∃ dir, RunConfig.checkDir (o.besides "working_dir").opened = .good dir := by
  cases hs : o.workingDir with
  | none => exact .inl (by simp [besides, hs, Datum.ofText?])
  | some s =>
      refine .inr ⟨Text.strip s, ?_⟩
      simp [besides, hs, Datum.ofText?, Datum.opened, RunConfig.checkDir, Check.text,
        Checked.andThen, ho.workingDir hs]

end RunOptions.IsValid

/-- Valid options leave good settings good, and the limit of a matrix as it is. -/
theorem exists_settings_of_valid {c : Catalog} {base : Option RunConfig} {o : RunOptions}
    {config : RunConfig} (ho : o.IsValid c)
    (h : settings base [("matrix_cap", .ofInt? o.matrixCap)] = .good config) :
    ∃ config', settings base o.entries = .good config' ∧ config'.matrixCap = config.matrixCap := by
  have hbase := (RunConfig.merge_eq_good_iff (by simp [RunConfig.settings])).1 h
  have hlookup {k : String} := lookupText_entries o (RunConfig.entriesOf base) (k := k)
  obtain ⟨limit, hlimit⟩ := RunConfig.exists_optional_of_given (hlookup (by decide))
    ⟨_, hbase.limit⟩ ho.concurrency_good
  obtain ⟨fast, hfast⟩ := RunConfig.exists_optional_of_given (hlookup (by decide))
    ⟨_, hbase.failFast⟩ (RunOptions.IsValid.failFast_good o)
  obtain ⟨dir, hdir⟩ := RunConfig.exists_optional_of_given (hlookup (by decide))
    ⟨_, hbase.dir⟩ ho.workingDir_good
  -- The limit of a matrix is overridden in the same way on both sides.
  have hcap := (RunConfig.optional_congr (hlookup (by decide))).trans hbase.cap
  refine ⟨⟨limit, fast, config.matrixCap, dir⟩, ?_, rfl⟩
  exact (RunConfig.merge_eq_good_iff (by simp [RunOptions.entries, RunConfig.settings])).2
    ⟨hlimit, hfast, hcap, hdir⟩

theorem exists_dispatch {c : Catalog} {config : RunConfig} (h : IsSound c config.matrixCap)
    (site : Local.Site) (idOf : Pipeline → String) (request : Request) :
    ∃ rs files, Local.dispatch site idOf c request config = .ok (rs, files) := by
  have hready : c.IsReady request ((some config).getD {}) :=
    ⟨h.valid, fun p hp => h.expands p (List.mem_filter.1 hp).1⟩
  have hgoal : (({} : Engine).dispatch idOf c request (some config)).2 = .dispatch
      ((List.range' 0 (c.wanted request).length).map fun k => (k, 0)) :=
    Engine.goal_of_ready hready
  simp only [Local.dispatch, hgoal]
  exact ⟨_, _, rfl⟩

/-- Definitions in order are run, and the run ends with its reports. -/
theorem run_eq_present (screen : Screen) {c : Catalog} {base : Option RunConfig} {o : RunOptions}
    {config : RunConfig}
    (h : IsSound c config.matrixCap) (ho : o.IsValid c)
    (hsettings : settings base [("matrix_cap", .ofInt? o.matrixCap)] = .good config)
    (site : Local.Site) (idOf : Pipeline → String) :
    ∃ rs left, run screen site idOf c base o = { o.present screen rs with files := some left } := by
  obtain ⟨selected, hselect⟩ := exists_select fun _ hname => ho.pipeline hname
  obtain ⟨config', hsettings', hcap⟩ := exists_settings_of_valid ho hsettings
  have hsound : IsSound selected config'.matrixCap := hcap ▸ h.select hselect
  obtain ⟨rs, left, hdispatch⟩ := exists_dispatch hsound { site with dry := o.dryRun } idOf o.request
  refine ⟨rs, left, ?_⟩
  simp only [run, hselect, hsettings', hdispatch]

/-! ### One file -/

section
variable {home : Path} {files : FileTree} {path : String} {cap : Option Int} {c : Catalog}
  {base : Option RunConfig} {config : RunConfig}

/-- Definitions in order can be planned when the plans of what is asked for can be shown. -/
theorem perform_plan_succeeds_iff (screen : Screen) (idOf : Pipeline → String) {name : Option String}
    {selected : Catalog}
    (hload : load home files path = .ok (c, base))
    (hsettings : settings base [("matrix_cap", .ofInt? cap)] = .good config)
    (hsound : IsSound c config.matrixCap) (hselect : select? c name = some selected) :
    (perform screen home files idOf (.plan path name cap)).Succeeds ↔
      ∀ p ∈ selected.pipelines, ∀ stages, p.expand config.matrixCap = .ok stages →
        screen.ShowsPlan p stages := by
  simp only [perform, withDefinitions, hload, plan_succeeds_iff, hselect, hsettings]
  constructor
  · rintro ⟨_, _, hselected, hconfig, -, hshown⟩
    cases hselected
    cases hconfig
    exact hshown
  · exact fun hshown => ⟨selected, config, rfl, rfl, hsound.select hselect, hshown⟩

/-- Definitions in order are valid when their overview can be shown. -/
theorem perform_validate_succeeds_iff (screen : Screen) (idOf : Pipeline → String)
    {rows : List (Pipeline × Nat)}
    (hload : load home files path = .ok (c, base))
    (hsettings : settings base [("matrix_cap", .ofInt? cap)] = .good config)
    (hsound : IsSound c config.matrixCap) (hrows : sizes config.matrixCap c.pipelines = .ok rows) :
    (perform screen home files idOf (.validate path cap)).Succeeds ↔
      screen.Draws (overview rows) ∧ screen.Shows (verdict rows.length) := by
  simp only [perform, withDefinitions, hload, validate_succeeds_iff]
  constructor
  · rintro ⟨_, _, hconfig, -, hrows', hshown⟩
    cases hsettings.symm.trans hconfig
    cases hrows.symm.trans hrows'
    exact hshown
  · exact fun hshown => ⟨config, rows, hsettings, hsound, hrows, hshown⟩

end

/-- **What commands make of one file**, on any screen.  A file that is valid can be planned, as a whole
or one pipeline of it, just when that plan can be shown, and with valid options it is run up to its
reports.  A file that can be planned as a whole is valid if its overview can be shown too.  Where each
text stands for itself, a plan of a valid file can be shown just when the names of its stages, its
identities and its bindings can; and a file that can be planned as a whole is valid. -/
theorem perform_agree (screen : Screen) (home : Path) (files : FileTree) (idOf : Pipeline → String)
    (path : String) (cap : Option Int) :
    ((perform screen home files idOf (.validate path cap)).Succeeds →
      ∃ c base config, load home files path = .ok (c, base) ∧
        settings base [("matrix_cap", .ofInt? cap)] = .good config ∧
        (∀ name, (∀ n, name = some n → n ∈ c.names) → ∃ selected, select? c name = some selected ∧
          ((perform screen home files idOf (.plan path name cap)).Succeeds ↔
            ∀ p ∈ selected.pipelines, ∀ stages, p.expand config.matrixCap = .ok stages →
              screen.ShowsPlan p stages) ∧
          (screen.Lawful → ((perform screen home files idOf (.plan path name cap)).Succeeds ↔
            ∀ p ∈ selected.pipelines, ∀ stages, p.expand config.matrixCap = .ok stages →
              screen.ShowsTexts stages))) ∧
        ∀ o : RunOptions, o.matrixCap = cap → o.IsValid c →
          ∃ rs left, perform screen home files idOf (.run path o) =
            { o.present screen rs with files := some left }) ∧
    ((perform screen home files idOf (.plan path none cap)).Succeeds →
      ∃ c base config rows, load home files path = .ok (c, base) ∧
        settings base [("matrix_cap", .ofInt? cap)] = .good config ∧
        sizes config.matrixCap c.pipelines = .ok rows ∧
        ((perform screen home files idOf (.validate path cap)).Succeeds ↔
          screen.Draws (overview rows) ∧ screen.Shows (verdict rows.length)) ∧
        (screen.Lawful → (perform screen home files idOf (.validate path cap)).Succeeds)) := by
  constructor
  · intro hvalid
    obtain ⟨c, base, hload, hvalidate⟩ := withDefinitions_succeeds_iff.1 hvalid
    obtain ⟨config, rows, hsettings, hsound, hrows, hoverview, -⟩ := validate_succeeds_iff.1 hvalidate
    refine ⟨c, base, config, hload, hsettings, fun name hname => ?_, fun o hcap ho => ?_⟩
    · obtain ⟨selected, hselect⟩ := exists_select hname
      have hplan := perform_plan_succeeds_iff screen idOf hload hsettings hsound hselect
      refine ⟨selected, hselect, hplan, fun h => hplan.trans ?_⟩
      exact forall₂_congr fun p hp => forall₂_congr fun _ _ =>
        h.showsPlan_iff_of_overview hrows hoverview (mem_of_mem_select hselect hp)
    · subst hcap
      obtain ⟨rs, left, hrun⟩ := run_eq_present screen hsound ho hsettings
        { files, home := FileTree.placeOf home } idOf
      refine ⟨rs, left, ?_⟩
      simp only [perform, ho.request, Bool.false_eq_true, if_false, withDefinitions, hload, hrun]
  · intro hplanned
    obtain ⟨c, base, hload, hplan⟩ := withDefinitions_succeeds_iff.1 hplanned
    obtain ⟨_, config, hselect, hsettings, hsound, hshown⟩ := plan_succeeds_iff.1 hplan
    cases hselect
    obtain ⟨rows, hrows⟩ := exists_sizes hsound.expands
    have hvalid := perform_validate_succeeds_iff screen idOf hload hsettings hsound hrows
    exact ⟨c, base, config, rows, hload, hsettings, hrows, hvalid, fun h =>
      hvalid.2 ⟨h.draws_overview hsound hrows hshown, h.shows_verdict _⟩⟩

/-- A directory with one file of definitions: a pipeline with one job in a stage of some name. -/
def oneStage (name : String) : FileTree :=
  ({} : FileTree).write ["project", "ci.yaml"]
    (Text.encode ("name: ci\nstages:\n  - name: \"" ++ name ++ "\"\n    jobs:\n      - name: j\n")) 0

/-- A command in that directory, on the screen that is used. -/
def performOneStage (name : String) : Command → Outcome :=
  perform .usual ⟨"/", ["project"]⟩ (oneStage name) (·.name)

/-- A stage with a plain name: the file is valid, it can be planned, and it is run. -/
theorem perform_agree_test :
    (performOneStage "test" (.validate "ci.yaml" none)).Succeeds ∧
    (performOneStage "test" (.plan "ci.yaml" (some "ci") none)).Succeeds ∧
    ∃ rs left, performOneStage "test" (.run "ci.yaml" {}) =
      { RunOptions.present .usual {} rs with files := some left } := by
  have hlawful : Screen.usual.Lawful := Screen.lawful_ofWidth 400
  obtain ⟨_, _, _, _, -, -, -, -, hvalidate⟩ := (perform_agree .usual ⟨"/", ["project"]⟩
    (oneStage "test") (·.name) "ci.yaml" none).2 (by decide +kernel)
  have hvalid : (performOneStage "test" (.validate "ci.yaml" none)).Succeeds := hvalidate hlawful
  obtain ⟨_, _, _, -, -, -, hrun⟩ := (perform_agree _ _ _ _ _ _).1 hvalid
  exact ⟨hvalid, by decide +kernel, hrun {} rfl ⟨rfl, nofun, nofun, nofun⟩⟩

/-- A stage whose name is a closing tag: the file is valid, and its plan cannot be shown. -/
theorem exists_valid_not_planned :
    (performOneStage "[/x]" (.validate "ci.yaml" none)).Succeeds ∧
    ¬ (performOneStage "[/x]" (.plan "ci.yaml" none none)).Succeeds := by
  constructor <;> decide +kernel

end Conveyor.CommandLine
