/-
**No value is lost on the way from a tree to a command.**

Values stand under names: those of an instance under the names of its axes, those of a service under
the names of its variables, those of a step under the names of its arguments.  A value that is written
under a name that is there takes the place of the value before it, so that a name that is declared twice
would lose a value without a word.  Trees in order have no such names.  So the names that are declared
and the values that are written belong together one by one, and the values tell the choice.

Main definitions:

* `Conveyor.Entered` — values under the names of what was declared, one for each, in order;
* `Conveyor.JobInstance.IsWhole` — an instance that has lost no value, and loses none when its services
  and steps are filled in.

Main results:

* `Conveyor.entered_foldl_bindName` — under different names, nothing is written over;
* `Conveyor.Template.entered_of_resolveNamed` — so it is for texts that are filled in;
* `Conveyor.Job.bindingsOf_injective` — the values under the names of the axes tell the choice;
* `Conveyor.Pipeline.expand_loses_nothing` — **the instances of a tree in order have lost nothing**.
-/

import Conveyor.Proofs.Matrix.Numbering
import Conveyor.Proofs.Structure
import Conveyor.Proofs.Template.Unresolved

set_option autoImplicit false

namespace Conveyor

/-! ### Values under names -/

/-- Values under the names of what was declared, one for each, in order, and no two of them under the
same name. -/
structure Entered {α : Type} (name : α → String) (fits : α → String → Prop) (declared : List α)
    (entries : List (String × String)) : Prop where
  distinct : (entries.map Prod.fst).Nodup
  each : List.Forall₂ (fun x e => e.1 = name x ∧ fits x e.2) declared entries

section
variable {α : Type} {name : α → String} {fits : α → String → Prop} {declared : List α}

theorem forall₂_zip {values : List String} (h : List.Forall₂ fits declared values) :
    List.Forall₂ (fun x e => e.1 = name x ∧ fits x e.2) declared
      ((declared.map name).zip values) := by
  induction h with
  | nil => exact .nil
  | cons hfits _ ih => exact .cons ⟨rfl, hfits⟩ ih

/-- Under different names, nothing is written over. -/
theorem entered_foldl_bindName {values : List String} (hnames : (declared.map name).Nodup)
    (h : List.Forall₂ fits declared values) :
    Entered name fits declared
      (((declared.map name).zip values).foldl (fun bs b => bindName bs b.1 b.2) []) := by
  have hle : (declared.map name).length ≤ values.length :=
    Nat.le_of_eq ((List.length_map ..).trans h.length_eq)
  have hkeys : (((declared.map name).zip values).map Prod.fst).Nodup := by
    rwa [List.map_fst_zip hle]
  rw [foldl_bindName (by rwa [List.nil_append]), List.nil_append]
  exact ⟨hkeys, forall₂_zip h⟩

end

namespace Template

variable {c : Context} {source : String}

theorem lookup_eq_none_iff {bs : List (String × String)} {name : String} :
    lookup bs name = none ↔ name ∉ bs.map Prod.fst := by
  rw [lookup, Option.map_eq_none_iff, List.find?_eq_none]
  simp only [beq_iff_eq, List.mem_map, not_exists, not_and]

/-- Values with the same names are the same when they are found to be. -/
theorem eq_of_lookup_eq {bs bs' : List (String × String)} (hnames : bs.map Prod.fst = bs'.map Prod.fst)
    (hnodup : (bs.map Prod.fst).Nodup) (h : ∀ name, lookup bs name = lookup bs' name) : bs = bs' := by
  induction bs generalizing bs' with
  | nil => exact (List.map_eq_nil_iff.1 hnames.symm).symm
  | cons b bs ih =>
      cases bs' with
      | nil => cases hnames
      | cons b' bs' =>
          obtain ⟨hname, hnames⟩ := List.cons.inj hnames
          obtain ⟨hnew, hnodup⟩ := List.nodup_cons.1 hnodup
          have hvalue := h b.1
          rw [lookup_cons, lookup_cons, if_pos rfl, if_pos hname.symm] at hvalue
          have hrest : ∀ name, lookup bs name = lookup bs' name := by
            intro name
            by_cases hsame : b.1 = name
            · -- the first name does not stand there again
              rw [lookup_eq_none_iff.2 (hsame ▸ hnew), lookup_eq_none_iff.2 (hsame ▸ hnames ▸ hnew)]
            · have hother := h name
              rwa [lookup_cons, lookup_cons, if_neg hsame, if_neg (hname ▸ hsame)] at hother
          rw [ih hnames hnodup hrest, Prod.ext hname (Option.some.inj hvalue)]

/-- Named texts come to what each of them comes to, written under its name. -/
theorem exists_values_of_resolveNamed {named done entries : List (String × String)}
    (h : resolveNamed c source done named = .ok entries) :
    ∃ values, List.Forall₂ (fun e value => ∀ source', resolve c source' e.2 = .ok value) named values ∧
      entries = ((named.map Prod.fst).zip values).foldl (fun bs b => bindName bs b.1 b.2) done := by
  induction named generalizing done with
  | nil =>
      cases h
      exact ⟨[], .nil, rfl⟩
  | cons e named ih =>
      obtain ⟨value, hvalue, hrest⟩ := bind_eq_ok_iff.1 h
      obtain ⟨values, hvalues, rfl⟩ := ih hrest
      exact ⟨value :: values, .cons (fun _ => resolve_of_agree (fun _ _ => rfl) hvalue) hvalues, rfl⟩

theorem entered_of_resolveNamed {α : Type} {name value : α → String} {declared : List α}
    {entries : List (String × String)} (hnames : (declared.map name).Nodup)
    (h : resolveNamed c source [] (declared.map fun x => (name x, value x)) = .ok entries) :
    Entered name (fun x t => ∀ source', resolve c source' (value x) = .ok t) declared entries := by
  obtain ⟨values, hvalues, rfl⟩ := exists_values_of_resolveNamed h
  rw [List.forall₂_map_left_iff] at hvalues
  rw [List.map_map]
  exact entered_foldl_bindName hnames hvalues

end Template

/-! ### Services and steps -/

theorem Service.entered_of_resolve {c : Template.Context} {s : Service} {r : ResolvedService}
    (hnames : (s.env.map EnvVar.name).Nodup) (h : s.resolve c = .ok r) :
    Entered EnvVar.name (fun v t => ∀ source, Template.resolve c source v.value = .ok t) s.env r.env := by
  obtain ⟨_, -, hrest⟩ := bind_eq_ok_iff.1 h
  obtain ⟨_, henv, hdone⟩ := bind_eq_ok_iff.1 hrest
  cases hdone
  exact Template.entered_of_resolveNamed hnames henv

theorem Step.entered_of_resolve {c : Template.Context} {index : Int} {s : Step} {r : ResolvedStep}
    (hnames : (s.args.map StepArg.name).Nodup) (h : s.resolve c index = .ok r) :
    Entered StepArg.name (fun a t => ∀ source, Template.resolve c source a.value = .ok t)
      s.args r.args := by
  obtain ⟨_, -, hrest⟩ := bind_eq_ok_iff.1 h
  obtain ⟨_, hargs, hdone⟩ := bind_eq_ok_iff.1 hrest
  cases hdone
  exact Template.entered_of_resolveNamed hnames hargs

/-! ### Instances -/

/-- An instance that has lost no value: it has one for each axis, and so have its services for each of
their variables and its steps for each of their arguments, when they can be filled in. -/
structure JobInstance.IsWhole (i : JobInstance) : Prop where
  bindings : Entered Axis.name (fun a v => v ∈ a.values) i.job.matrix i.bindings
  env : ∀ s ∈ i.job.services, ∀ id r, s.resolve ⟨i.bindings, id⟩ = .ok r →
    Entered EnvVar.name (fun v t => ∀ source, Template.resolve ⟨i.bindings, id⟩ source v.value = .ok t)
      s.env r.env
  args : ∀ s ∈ i.job.steps, ∀ id index r, s.resolve ⟨i.bindings, id⟩ index = .ok r →
    Entered StepArg.name
      (fun a t => ∀ source, Template.resolve ⟨i.bindings, id⟩ source a.value = .ok t) s.args r.args

namespace Job

variable {j : Job} {values values' : List String}

/-- The values under the names of the axes tell the choice. -/
theorem bindingsOf_injective (hnames : j.axisNames.Nodup) (hlength : values.length = j.matrix.length)
    (hlength' : values'.length = j.matrix.length)
    (h : ∀ name, Template.lookup (j.bindingsOf values) name = Template.lookup (j.bindingsOf values') name) :
    values = values' := by
  have hle : ∀ {vs : List String}, vs.length = j.matrix.length → j.axisNames.length ≤ vs.length :=
    fun hvs => Nat.le_of_eq ((List.length_map ..).trans hvs.symm)
  have hge : ∀ {vs : List String}, vs.length = j.matrix.length → vs.length ≤ j.axisNames.length :=
    fun hvs => Nat.le_of_eq (hvs.trans (List.length_map ..).symm)
  rw [bindingsOf_eq_zip hnames hlength, bindingsOf_eq_zip hnames hlength'] at h
  have hsame : j.axisNames.zip values = j.axisNames.zip values' := by
    refine Template.eq_of_lookup_eq ?_ ?_ h
    · rw [List.map_fst_zip (hle hlength), List.map_fst_zip (hle hlength')]
    · rwa [List.map_fst_zip (hle hlength)]
  rw [← List.map_snd_zip (hge hlength), hsame, List.map_snd_zip (hge hlength')]

theorem IsSound.isWhole (h : j.IsSound) {i : JobInstance} (hjob : i.job = j)
    (hvalues : values ∈ j.choices) (hbindings : i.bindings = j.bindingsOf values) : i.IsWhole := by
  subst hjob
  refine ⟨?_, fun s hs _ _ hr => s.entered_of_resolve (h.env s hs) hr,
    fun s hs _ _ _ hr => s.entered_of_resolve (h.args s hs) hr⟩
  rw [hbindings]
  exact entered_foldl_bindName h.axes (forall₂_of_mem_choicesOf hvalues)

end Job

namespace Stage

variable {s : Stage} {cap : Int}

/-- An instance of a stage has the values of a choice of its job, and is named by them. -/
theorem exists_choice_of_mem_instancesOf {stageName : String} {start : Int} {jobs : List Job}
    {i : JobInstance} (h : i ∈ instancesOf stageName start jobs) :
    i.job ∈ jobs ∧ ∃ values ∈ i.job.choices,
      i.identity = instanceIdentity i.job.name values ∧ i.bindings = i.job.bindingsOf values := by
  induction jobs generalizing start with
  | nil => cases h
  | cons j jobs ih =>
      rcases List.mem_append.1 h with h | h
      · obtain ⟨k, hk, rfl⟩ := List.mem_mapIdx.1 h
        exact ⟨List.mem_cons_self .., _, List.getElem_mem hk, rfl, rfl⟩
      · exact (ih h).imp_left (List.mem_cons_of_mem j)

/-- Instances of one job have different values for one of its axes. -/
theorem Expands.pairwise_instances (h : s.Expands cap) (hsound : ∀ j ∈ s.jobs, j.IsSound) (start : Int) :
    (s.report start).instances.Pairwise fun i k => i.job = k.job →
      ∃ name, Template.lookup i.bindings name ≠ Template.lookup k.bindings name := by
  refine (List.pairwise_map.1 (h.nodup_identities start)).imp_of_mem ?_
  intro i k hi hk hidentity hjob
  obtain ⟨hmem, values, hvalues, hname, hbindings⟩ := exists_choice_of_mem_instancesOf hi
  obtain ⟨-, values', hvalues', hname', hbindings'⟩ := exists_choice_of_mem_instancesOf hk
  rw [← hjob] at hvalues' hname' hbindings'
  refine Classical.byContradiction fun hsame => hidentity ?_
  rw [not_exists] at hsame
  have heq : values = values' := by
    refine Job.bindingsOf_injective (hsound _ hmem).axes (Job.length_of_mem_choicesOf hvalues)
      (Job.length_of_mem_choicesOf hvalues') fun name => ?_
    rw [← hbindings, ← hbindings']
    exact not_not.1 (hsame name)
  rw [hname, hname', heq]

end Stage

namespace Pipeline

/-- **The instances of a tree in order have lost nothing**: each has one value for each axis of its job,
in order, and two instances of one job differ in one of them; and a service or a step that is filled in
for it has one entry for each variable or argument, in order, with what its text comes to. -/
theorem expand_loses_nothing {p : Pipeline} {cap : Int} {reports : List StageReport}
    (hp : p.violations = []) (h : p.expand cap = .ok reports) :
    List.Forall₂ (fun (s : Stage) (r : StageReport) =>
      (∀ i ∈ r.instances, i.job ∈ s.jobs ∧ i.IsWhole) ∧
      r.instances.Pairwise fun i k => i.job = k.job →
        ∃ name, Template.lookup i.bindings name ≠ Template.lookup k.bindings name)
      p.stages reports := by
  obtain ⟨hexpands, rfl⟩ := expand_eq_ok_iff.1 h
  have hsound := (violations_eq_nil_iff.1 hp).sound
  refine forall₂_report 0 fun s hs start => ⟨fun i hi => ?_, ?_⟩
  · obtain ⟨hjob, values, hvalues, -, hbindings⟩ := Stage.exists_choice_of_mem_instancesOf hi
    exact ⟨hjob, (hsound s hs i.job hjob).isWhole rfl hvalues hbindings⟩
  · exact (hexpands s hs).pairwise_instances (hsound s hs) start

/-- A pipeline of one job for two systems, with a database beside it. -/
def withDatabase : Pipeline :=
  { name := "ci"
    stages := [{ name := "test", jobs := [
      { name := "unit", matrix := [⟨"os", ["linux", "macos"]⟩, ⟨"py", ["3.12"]⟩]
        services := [{ name := "db", image := "postgres", env := [⟨"HOST", "$\x7bos\x7d"⟩, ⟨"PORT", "5432"⟩] }]
        steps := [.run "pytest" [⟨"python", "$\x7bpy\x7d"⟩]] }] }] }

/-- The values of its instances. -/
theorem expand_loses_nothing_withDatabase :
    withDatabase.violations = [] ∧ ∃ r, withDatabase.expand 2 = .ok [r] ∧
      r.instances.map JobInstance.bindings = [[("os", "linux"), ("py", "3.12")],
        [("os", "macos"), ("py", "3.12")]] ∧
      (∀ i ∈ r.instances, i.IsWhole) ∧
      r.instances.Pairwise fun i k => i.job = k.job →
        ∃ name, Template.lookup i.bindings name ≠ Template.lookup k.bindings name := by
  have hp : withDatabase.violations = [] := by decide
  obtain ⟨r, hr, hbindings⟩ : ∃ r, withDatabase.expand 2 = .ok [r] ∧
      r.instances.map JobInstance.bindings = [[("os", "linux"), ("py", "3.12")],
        [("os", "macos"), ("py", "3.12")]] := ⟨_, rfl, rfl⟩
  obtain ⟨⟨hwhole, hpairs⟩, -⟩ := List.forall₂_cons.1 (expand_loses_nothing hp hr)
  exact ⟨hp, r, hr, hbindings, fun i hi => (hwhole i hi).2, hpairs⟩

end Pipeline

end Conveyor
