/-
**Configurations with some settings replaced.**

Settings are checked one by one, and what becomes of one does not depend on the others.  So settings
that are replaced by good ones leave a configuration good, and leave all other settings as they are.

Main definitions:

* `Conveyor.RunConfig.overlaid` — the value of a key under overrides;
* `Conveyor.RunConfig.AllGood` — what each setting of a mapping comes to.

Main results:

* `Conveyor.RunConfig.check_eq_good_iff` — a mapping is a configuration when each setting is good;
* `Conveyor.RunConfig.lookupText_overlay` — a key has the last override that is not null;
* `Conveyor.RunConfig.merge_eq_good_iff` — **a merged configuration is good when each setting is**.
-/

import Conveyor.Config
import Conveyor.Proofs.Definition.Checking

set_option autoImplicit false

namespace Conveyor

namespace RunConfig

open Check

/-! ### Settings one by one -/

/-- What each setting of a mapping comes to. -/
structure AllGood (d : Datum) (c : RunConfig) : Prop where
  limit : optional "concurrency_limit" 4 checkLimit d = .good c.concurrencyLimit
  failFast : optional "fail_fast" true truth d = .good c.failFast
  cap : optional "matrix_cap" 256 checkCap d = .good c.matrixCap
  dir : optional "working_dir" "." checkDir d = .good c.workingDir

/-- Whether all keys of a mapping are names of settings. -/
def AllNamed (entries : List (Datum × Datum)) : Prop := ∀ e ∈ entries, ∃ k ∈ settings, e.1 = .text k

variable {entries : List (Datum × Datum)} {c : RunConfig}

/-- A mapping of settings is a configuration when each of them is good. -/
theorem check_eq_good_iff (h : AllNamed entries) :
    check (.dict entries) = .good c ↔ AllGood (.dict entries) c := by
  have honly : HasOnly settings (.dict entries) := ⟨entries, rfl, h⟩
  rw [check, record_eq_good_iff]
  simp only [Checked.seq_eq_good_iff, Checked.map_eq_good_iff]
  constructor
  · rintro ⟨-, _, _, ⟨_, _, ⟨_, _, ⟨_, hlimit, rfl⟩, hfast, rfl⟩, hcap, rfl⟩, hdir, rfl⟩
    exact ⟨hlimit, hfast, hcap, hdir⟩
  · intro hall
    exact ⟨honly, _, _, ⟨_, _, ⟨_, _, ⟨_, hall.limit, rfl⟩, hall.failFast, rfl⟩, hall.cap, rfl⟩,
      hall.dir, rfl⟩

/-! ### Overrides -/

/-- The value that an override leaves: its own, or what was there if it is null. -/
def given (found : Option Datum) : Datum → Option Datum
  | .null => found
  | v => some v

/-- The value of a key that has some value, under overrides: the last one that is not null. -/
def overlaid (k : String) (found : Option Datum) : List (String × Datum) → Option Datum
  | [] => found
  | (k', v) :: overrides => overlaid k (if k' = k then given found v else found) overrides

/-- Overrides as entries. -/
def asEntries (overrides : List (String × Datum)) : List (Datum × Datum) :=
  overrides.map fun e => (.text e.1, e.2)

/-- Under overrides a key has the last value that is not null. -/
theorem lookupText_overlay (k : String) (entries : List (Datum × Datum))
    (overrides : List (String × Datum)) :
    Datum.lookupText (overlay entries (asEntries overrides)) k =
      overlaid k (Datum.lookupText entries k) overrides := by
  induction overrides generalizing entries with
  | nil => rfl
  | cons o overrides ih =>
      obtain ⟨k', v⟩ := o
      cases v with
      | null =>
          rw [overlaid, given, ite_self]
          exact ih entries
      | _ => exact (ih _).trans (by rw [Datum.lookupText_put]; rfl)

theorem AllNamed.put {k : String} (h : AllNamed entries) (hk : k ∈ settings) (v : Datum) :
    AllNamed (Datum.put entries (.text k) v) := by
  intro e he
  rcases Datum.mem_put he with hkey | ⟨e', he', hkey⟩
  · exact ⟨k, hk, hkey⟩
  · exact hkey ▸ h e' he'

theorem AllNamed.overlay {overrides : List (String × Datum)} (h : AllNamed entries)
    (hnames : ∀ o ∈ overrides, o.1 ∈ settings) :
    AllNamed (RunConfig.overlay entries (asEntries overrides)) := by
  induction overrides generalizing entries with
  | nil => exact h
  | cons o overrides ih =>
      obtain ⟨k, v⟩ := o
      have hk : k ∈ settings := hnames _ (List.mem_cons_self ..)
      have hrest : ∀ o ∈ overrides, o.1 ∈ settings := fun o ho =>
        hnames o (List.mem_cons_of_mem _ ho)
      cases v with
      | null => exact ih h hrest
      | _ => exact ih (h.put hk _) hrest

theorem allNamed_entriesOf (base : Option RunConfig) : AllNamed (entriesOf base) := by
  cases base with
  | none => exact fun _ h => absurd h List.not_mem_nil
  | some c => simp [AllNamed, entriesOf, datum, Datum.object, settings]

/-- A merged configuration is good when each of its settings is. -/
theorem merge_eq_good_iff {base : Option RunConfig} {overrides : List (String × Datum)}
    (hnames : ∀ o ∈ overrides, o.1 ∈ settings) :
    merge base (asEntries overrides) = .good c ↔
      AllGood (.dict (overlay (entriesOf base) (asEntries overrides))) c :=
  check_eq_good_iff ((allNamed_entriesOf base).overlay hnames)

/-- What an optional field comes to depends on nothing but its value. -/
theorem optional_congr {α : Type} {k : String} {default : α} {check : Check α}
    {entries' : List (Datum × Datum)}
    (h : Datum.lookupText entries k = Datum.lookupText entries' k) :
    optional k default check (.dict entries) = optional k default check (.dict entries') := by
  simp only [Check.optional, Datum.field?, h]

/-- A setting that was good is good under an override that is null or good. -/
theorem exists_optional_of_given {α : Type} {k : String} {default : α} {check : Check α}
    {entries' : List (Datum × Datum)} {v : Datum}
    (hlookup : Datum.lookupText entries' k = given (Datum.lookupText entries k) v)
    (hold : ∃ a, optional k default check (.dict entries) = .good a)
    (hnew : v = .null ∨ ∃ a, check v.opened = .good a) :
    ∃ a, optional k default check (.dict entries') = .good a := by
  by_cases hnull : v = .null
  · subst hnull
    obtain ⟨a, ha⟩ := hold
    exact ⟨a, (optional_congr hlookup).trans ha⟩
  · obtain ⟨a, ha⟩ := hnew.resolve_left hnull
    have hgiven : given (Datum.lookupText entries k) v = some v := by
      cases v <;> first | rfl | exact absurd rfl hnull
    refine ⟨a, ?_⟩
    rw [Check.optional, Datum.field?, hlookup, hgiven]
    exact Checked.within_eq_good_iff.2 ha

end RunConfig

end Conveyor
