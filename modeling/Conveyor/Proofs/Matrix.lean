/-
**What the instances of a job have in common.**

An instance has one value for each axis of its job.  So all instances of a job have values for the same
names, those of the axes; only the values differ.

Main results:

* `Conveyor.Template.lookup_bindName` — what a written value changes;
* `Conveyor.Job.exists_choice_of_expand` — an instance has the values of a choice;
* `Conveyor.Job.isSome_lookup_of_expand` — **an instance has values for the names of the axes, and for
  no others**.
-/

import Mathlib.Data.List.Forall2
import Conveyor.Matrix
import Conveyor.Template

set_option autoImplicit false

namespace Conveyor

/-! ### Values by name -/

namespace Template

@[simp] theorem lookup_nil (name : String) : lookup [] name = none := rfl

theorem lookup_cons (b : String × String) (bs : List (String × String)) (name : String) :
    lookup (b :: bs) name = if b.1 = name then some b.2 else lookup bs name := by
  unfold lookup
  by_cases h : b.1 = name
  · rw [List.find?_cons_of_pos (by simpa using h), if_pos h, Option.map_some]
  · rw [List.find?_cons_of_neg (by simpa using h), if_neg h]

/-- A written value is found under its name, and all else under the other names. -/
theorem lookup_bindName (bs : List (String × String)) (written value name : String) :
    lookup (bindName bs written value) name =
      if written = name then some value else lookup bs name := by
  induction bs with
  | nil => rw [bindName, lookup_cons]
  | cons b bs ih =>
      rw [bindName]
      split
      · rename_i hsame
        rw [lookup_cons, lookup_cons, hsame]
        split <;> rfl
      · rename_i hother
        rw [lookup_cons, lookup_cons, ih]
        by_cases hb : b.1 = name
        · have hwritten : ¬ written = name := fun h => hother (hb.trans h.symm)
          rw [if_pos hb, if_neg hwritten, if_pos hb]
        · rw [if_neg hb, if_neg hb]

theorem isSome_lookup_foldl (pairs bs : List (String × String)) (name : String) :
    (lookup (pairs.foldl (fun bs b => bindName bs b.1 b.2) bs) name).isSome = true ↔
      (lookup bs name).isSome = true ∨ name ∈ pairs.map Prod.fst := by
  induction pairs generalizing bs with
  | nil => simp
  | cons p pairs ih =>
      rw [List.foldl_cons, ih, lookup_bindName, List.map_cons, List.mem_cons]
      by_cases hp : p.1 = name
      · rw [if_pos hp]
        simp [hp]
      · rw [if_neg hp]
        simp [Ne.symm hp]

end Template

namespace Job

/-! ### Choices -/

/-- A choice has one value for each axis, from the values of that axis. -/
theorem forall₂_of_mem_choicesOf {axes : List Axis} {values : List String}
    (h : values ∈ choicesOf axes) : List.Forall₂ (fun a v => v ∈ a.values) axes values := by
  induction axes generalizing values with
  | nil =>
      obtain rfl := List.mem_singleton.1 h
      exact .nil
  | cons a axes ih =>
      obtain ⟨v, hv, hvalues⟩ := List.mem_flatMap.1 h
      obtain ⟨rest, hrest, rfl⟩ := List.mem_map.1 hvalues
      exact .cons hv (ih hrest)

theorem length_of_mem_choicesOf {axes : List Axis} {values : List String}
    (h : values ∈ choicesOf axes) : values.length = axes.length :=
  (forall₂_of_mem_choicesOf h).length_eq.symm

/-- The values of a choice stand under the names of the axes. -/
theorem isSome_lookup_bindingsOf {j : Job} {values : List String}
    (h : values.length = j.matrix.length) (name : String) :
    (Template.lookup (j.bindingsOf values) name).isSome = true ↔ name ∈ j.axisNames := by
  have hlength : j.axisNames.length ≤ values.length :=
    Nat.le_of_eq ((List.length_map ..).trans h.symm)
  rw [bindingsOf, Template.isSome_lookup_foldl, List.map_fst_zip hlength]
  simp

/-! ### Instances -/

theorem exists_choice_of_instancesFrom {j : Job} {stageName : String} {n : Int}
    {seen : List (String × List String)} {choices : List (List String)} {made : List JobInstance}
    (h : j.instancesFrom stageName n seen choices = .ok made) :
    ∀ i ∈ made, ∃ values ∈ choices, i.bindings = j.bindingsOf values := by
  induction choices generalizing n seen made with
  | nil =>
      cases h
      intro i hi
      cases hi
  | cons values rest ih =>
      rw [instancesFrom] at h
      split at h
      · cases h
      · obtain ⟨tail, htail, rfl⟩ := exists_ok_of_map h
        intro i hi
        rcases List.mem_cons.1 hi with rfl | hi
        · exact ⟨values, List.mem_cons_self .., rfl⟩
        · obtain ⟨values', hvalues', hbindings⟩ := ih htail i hi
          exact ⟨values', List.mem_cons_of_mem _ hvalues', hbindings⟩

/-- An instance of a job has the values of one of its choices. -/
theorem exists_choice_of_expand {j : Job} {stageName : String} {cap start : Int}
    {made : List JobInstance} (h : j.expand stageName cap start = .ok made) :
    ∀ i ∈ made, ∃ values ∈ j.choices, i.bindings = j.bindingsOf values := by
  simp only [expand] at h
  split at h
  · cases h
  · obtain ⟨_, -, hmade⟩ := exists_ok_of_bind h
    exact exists_choice_of_instancesFrom hmade

/-- An instance of a job has values for the names of the axes, and for no others. -/
theorem isSome_lookup_of_expand {j : Job} {stageName : String} {cap start : Int}
    {made : List JobInstance} (h : j.expand stageName cap start = .ok made) {i : JobInstance}
    (hi : i ∈ made) (name : String) :
    (Template.lookup i.bindings name).isSome = true ↔ name ∈ j.axisNames := by
  obtain ⟨values, hvalues, hbindings⟩ := exists_choice_of_expand h i hi
  rw [hbindings]
  exact isSome_lookup_bindingsOf (length_of_mem_choicesOf hvalues) name

end Job

end Conveyor
