/-
**Configurations whose settings are assigned.**

A configuration is given by a check, by a merge or by a file, and its settings may be assigned one by
one after that.  An assignment is accepted if the configuration with the new setting passes the check,
and what is accepted is what the check makes of it; so a configuration stays valid whatever is
assigned, and a run always has a slot.

Main definitions:

* `Conveyor.RunConfig.IsGiven` — a configuration that was checked, merged or loaded;
* `Conveyor.RunConfig.Assigns` — what an accepted assignment does, setting by setting;
* `Conveyor.RunConfig.assigned`, `Conveyor.RunConfig.assignedAll` — what is there after an assignment
  and after several, accepted or refused.

Main results:

* `Conveyor.RunConfig.assign_eq_ok_iff` — which assignments are accepted, and what they do;
* `Conveyor.RunConfig.assign_eq_ok_iff_check` — **to assign a setting is to check the configuration
  with the setting replaced**;
* `Conveyor.RunConfig.isValid_assignedAll` — a valid configuration stays valid;
* `Conveyor.Run.make_eq_ok_iff` — a run can be made if its configuration gives it a slot;
* `Conveyor.RunConfig.stays_valid` — **a configuration stays valid whatever is assigned**.
-/

import Conveyor.Engine.Run
import Conveyor.Loader
import Conveyor.Proofs.Config.Merging

set_option autoImplicit false

namespace Conveyor

/-! ### Slots for a run -/

/-- There are slots if there is one at least. -/
theorem Pool.ofLimit_eq_ok_iff {α : Type} {limit : Int} {p : Pool α} :
    ofLimit limit = .ok p ↔ 1 ≤ limit ∧ p = { limit := limit.toNat } := by
  unfold ofLimit
  split
  · constructor
    · intro h
      cases h
    · rintro ⟨hle, -⟩
      omega
  · rw [Except.ok.injEq, eq_comm]
    exact (and_iff_right (by omega)).symm

/-- A run can be made if its configuration gives it a slot. -/
theorem Run.make_eq_ok_iff {id : String} {p : Pipeline} {c : RunConfig} {r : Run} :
    make id p c = .ok r ↔ 1 ≤ c.concurrencyLimit ∧ r = create id p c := by
  constructor
  · intro h
    obtain ⟨pool, hpool, h⟩ := exists_ok_of_bind h
    obtain ⟨hle, rfl⟩ := Pool.ofLimit_eq_ok_iff.1 hpool
    exact ⟨by omega, (Except.ok.inj h).symm⟩
  · rintro ⟨hle, rfl⟩
    have hpool : Pool.ofLimit (c.concurrencyLimit : Int) =
        .ok ({ limit := c.concurrencyLimit } : Pool Ticket) :=
      Pool.ofLimit_eq_ok_iff.2 ⟨by omega, rfl⟩
    rw [make, hpool]
    rfl

namespace RunConfig

open Check Datum

variable {c c' : RunConfig} {name s : String} {d : Datum} {entries : List (Datum × Datum)}

/-! ### Configurations that are given -/

/-- A configuration that was checked, merged into another one or none, or loaded from a file. -/
inductive IsGiven : RunConfig → Prop where
  | checked {d : Datum} {c : RunConfig} : check d = .good c → IsGiven c
  | merged {base : Option RunConfig} {overrides : List (Datum × Datum)} {c : RunConfig} :
      merge base overrides = .good c → IsGiven c
  | loaded {l : Loader} {files : FileTree} {path : String} {c : RunConfig} :
      (l.config files path).1 = .ok (some c) → IsGiven c

/-- The configuration of a document was checked. -/
theorem exists_check_of_document (h : Document.config entries = .ok (some c)) :
    ∃ d, check d = .good c := by
  unfold Document.config at h
  split at h
  · cases h
  · cases h
  · split at h
    · rename_i d _ _ _ hd
      cases h
      exact ⟨_, hd⟩
    · cases h

theorem IsGiven.exists_check (h : c.IsGiven) : ∃ d, check d = .good c := by
  cases h with
  | checked h => exact ⟨_, h⟩
  | merged h => exact ⟨_, h⟩
  | loaded h =>
      obtain ⟨entries, -, hentries⟩ := exists_ok_of_bind h
      exact exists_check_of_document hentries

theorem IsGiven.isValid (h : c.IsGiven) : c.IsValid := isValid_iff_exists_check.2 h.exists_check

/-! ### One assignment -/

/-- What an accepted assignment does: a setting gets what its check makes of the value. -/
inductive Assigns (c : RunConfig) (d : Datum) : String → RunConfig → Prop where
  | limit {n : Nat} : checkLimit d.opened = .good n →
      Assigns c d "concurrency_limit" { c with concurrencyLimit := n }
  | failFast {b : Bool} : truth d.opened = .good b → Assigns c d "fail_fast" { c with failFast := b }
  | cap {n : Nat} : checkCap d.opened = .good n → Assigns c d "matrix_cap" { c with matrixCap := n }
  | dir {s : String} : checkDir d.opened = .good s →
      Assigns c d "working_dir" { c with workingDir := s }

/-- A setting that was checked and put in its place. -/
theorem within_map_eq_good_iff {α β : Type} {p : Place} {x : Checked α} {f : α → β} {b : β} :
    (x.within p).map f = .good b ↔ ∃ a, x = .good a ∧ f a = b := by
  cases x <;> simp [Checked.within, Checked.map]

theorem assignChecked_eq_good_iff : assignChecked c name d = .good c' ↔ Assigns c d name c' := by
  constructor
  · intro h
    unfold assignChecked at h
    split at h
    · rename_i hname
      obtain ⟨n, hn, rfl⟩ := within_map_eq_good_iff.1 h
      exact hname ▸ .limit hn
    split at h
    · rename_i hname
      obtain ⟨b, hb, rfl⟩ := within_map_eq_good_iff.1 h
      exact hname ▸ .failFast hb
    split at h
    · rename_i hname
      obtain ⟨n, hn, rfl⟩ := within_map_eq_good_iff.1 h
      exact hname ▸ .cap hn
    split at h
    · rename_i hname
      obtain ⟨s, hs, rfl⟩ := within_map_eq_good_iff.1 h
      exact hname ▸ .dir hs
    · cases h
  · intro h
    cases h with
    | limit hn => exact within_map_eq_good_iff.2 ⟨_, hn, rfl⟩
    | failFast hb => exact within_map_eq_good_iff.2 ⟨_, hb, rfl⟩
    | cap hn => exact within_map_eq_good_iff.2 ⟨_, hn, rfl⟩
    | dir hs => exact within_map_eq_good_iff.2 ⟨_, hs, rfl⟩

/-- Only settings are assigned. -/
theorem Assigns.mem_settings (h : Assigns c d name c') : name ∈ settings := by
  cases h <;> decide

/-- No setting has a private name, and none is worked out from the others. -/
theorem isPrivate_of_mem_settings (h : name ∈ settings) :
    isPrivate name = false ∧ derived.contains name = false := by
  simp only [settings, List.mem_cons, List.not_mem_nil, or_false] at h
  rcases h with rfl | rfl | rfl | rfl <;> decide +kernel

/-- An assignment is accepted when the name is private, and changes nothing then, or when the check of
the setting accepts the value. -/
theorem assign_eq_ok_iff :
    c.assign name d = .ok c' ↔ isPrivate name = true ∧ c' = c ∨ Assigns c d name c' := by
  unfold assign
  split
  · rename_i hprivate
    have hnot : ¬ Assigns c d name c' := fun h => by
      simpa [hprivate] using (isPrivate_of_mem_settings h.mem_settings).1
    simp [hprivate, hnot, eq_comm]
  · rename_i hprivate
    rw [or_iff_right fun h => hprivate h.1]
    split
    · rename_i hderived
      have hnot : ¬ Assigns c d name c' := fun h =>
        Bool.false_ne_true ((isPrivate_of_mem_settings h.mem_settings).2.symm.trans hderived)
      simp [hnot]
    · rw [← assignChecked_eq_good_iff]
      split <;> rename_i hchecked <;> simp [hchecked]

/-- An assignment changes nothing but its own setting. -/
theorem Assigns.field?_eq (h : Assigns c d name c') (hs : s ≠ name) :
    c'.datum.field? s = c.datum.field? s := by
  cases h <;> simp [datum, object, field?, lookupText, hs.symm]

/-- A valid configuration stays valid when a setting is assigned. -/
theorem Assigns.isValid (h : Assigns c d name c') (hc : c.IsValid) : c'.IsValid := by
  cases h with
  | limit hn => exact { hc with limit := keeps_checkLimit.fit hn }
  | failFast _ => exact { hc with }
  | cap hn => exact { hc with cap := keeps_checkCap.fit hn }
  | dir hs => exact { hc with dir := keeps_checkDir.fit hs }

/-! ### Assigning is checking -/

/-- What a configuration settles to when one of its settings is replaced, for each of the settings. -/
theorem settles_replaced_iff (hc : c.IsValid) (hname : name ∈ settings) :
    Settles (fun k => if name = k then some d else present? (some c) k) c' ↔
      Assigns c d name c' := by
  have hlimit {n : Nat} : ComesTo 4 checkLimit (present? (some c) "concurrency_limit") n ↔
      n = c.concurrencyLimit := comesTo_written_iff keeps_checkLimit hc.limit
  have hfailFast {b : Bool} : ComesTo true truth (present? (some c) "fail_fast") b ↔
      b = c.failFast := comesTo_written_iff keeps_truth trivial
  have hcap {n : Nat} : ComesTo 256 checkCap (present? (some c) "matrix_cap") n ↔
      n = c.matrixCap := comesTo_written_iff keeps_checkCap hc.cap
  have hdir {s : String} : ComesTo "." checkDir (present? (some c) "working_dir") s ↔
      s = c.workingDir := comesTo_written_iff keeps_checkDir hc.dir
  obtain ⟨limit, failFast, cap, dir⟩ := c'
  constructor
  · -- the settings that are not replaced are written as they were, and so come to the same
    rintro ⟨h₁, h₂, h₃, h₄⟩
    simp only [settings, List.mem_cons, List.not_mem_nil, or_false] at hname
    rcases hname with rfl | rfl | rfl | rfl
    · obtain rfl := hfailFast.1 h₂
      obtain rfl := hcap.1 h₃
      obtain rfl := hdir.1 h₄
      exact .limit h₁
    · obtain rfl := hlimit.1 h₁
      obtain rfl := hcap.1 h₃
      obtain rfl := hdir.1 h₄
      exact .failFast h₂
    · obtain rfl := hlimit.1 h₁
      obtain rfl := hfailFast.1 h₂
      obtain rfl := hdir.1 h₄
      exact .cap h₃
    · obtain rfl := hlimit.1 h₁
      obtain rfl := hfailFast.1 h₂
      obtain rfl := hcap.1 h₃
      exact .dir h₄
  · intro h
    cases h with
    | limit hn => exact ⟨hn, hfailFast.2 rfl, hcap.2 rfl, hdir.2 rfl⟩
    | failFast hb => exact ⟨hlimit.2 rfl, hb, hcap.2 rfl, hdir.2 rfl⟩
    | cap hn => exact ⟨hlimit.2 rfl, hfailFast.2 rfl, hn, hdir.2 rfl⟩
    | dir hs => exact ⟨hlimit.2 rfl, hfailFast.2 rfl, hcap.2 rfl, hs⟩

/-- To assign a setting is to check the configuration with the setting replaced. -/
theorem assign_eq_ok_iff_check (hc : c.IsValid) (hname : isPrivate name = false) :
    c.assign name d = .ok c' ↔
      check (.dict (put (entriesOf (some c)) (.text name) d)) = .good c' := by
  have hfound : lookupText (put (entriesOf (some c)) (.text name) d) =
      fun k => if name = k then some d else present? (some c) k :=
    funext fun k => lookupText_put _ name k d
  have hnamed : (∃ k ∈ settings, Datum.text name = .text k) ↔ name ∈ settings :=
    ⟨fun ⟨k, hk, heq⟩ => Datum.text.inj heq ▸ hk, fun h => ⟨name, h, rfl⟩⟩
  rw [assign_eq_ok_iff, hname, check_dict_eq_good_iff, allNamed_put_iff, hnamed,
    allGood_iff_settles, hfound, and_iff_right (allNamed_entriesOf _)]
  constructor
  · rintro (⟨hprivate, -⟩ | h)
    · cases hprivate
    · exact ⟨h.mem_settings, (settles_replaced_iff hc h.mem_settings).2 h⟩
  · rintro ⟨hsetting, h⟩
    exact .inr ((settles_replaced_iff hc hsetting).1 h)

/-! ### Assignments, one after the other -/

/-- What is there after an assignment: the changed configuration, or the same one if the value is
refused. -/
def assigned (c : RunConfig) (a : String × Datum) : RunConfig :=
  match c.assign a.1 a.2 with
  | .ok c' => c'
  | .error _ => c

/-- What is there after assignments, one after the other. -/
def assignedAll (c : RunConfig) (as : List (String × Datum)) : RunConfig := as.foldl assigned c

theorem assignedAll_concat (c : RunConfig) (as : List (String × Datum)) (a : String × Datum) :
    c.assignedAll (as ++ [a]) = (c.assignedAll as).assigned a := by
  simp [assignedAll]

/-- A valid configuration stays valid, whether an assignment is accepted or refused. -/
theorem isValid_assigned (hc : c.IsValid) (a : String × Datum) : (c.assigned a).IsValid := by
  unfold assigned
  split
  · rename_i c' h
    rcases assign_eq_ok_iff.1 h with ⟨-, rfl⟩ | h
    · exact hc
    · exact h.isValid hc
  · exact hc

/-- A valid configuration stays valid whatever is assigned. -/
theorem isValid_assignedAll (hc : c.IsValid) (as : List (String × Datum)) :
    (c.assignedAll as).IsValid := by
  induction as generalizing c with
  | nil => exact hc
  | cons a as ih => exact ih (isValid_assigned hc a)

/-- **A configuration stays valid whatever is assigned**, and a run can always be made with it.  An
assignment that is refused leaves all as it was; one that is accepted changes nothing but the setting
of that name, and comes to what the check makes of the configuration with the setting replaced. -/
theorem stays_valid (hc : c.IsGiven) (as : List (String × Datum)) :
    (c.assignedAll as).IsValid ∧
    (∀ id p, Run.make id p (c.assignedAll as) = .ok (Run.create id p (c.assignedAll as))) ∧
    ∀ name d,
      (∀ f, (c.assignedAll as).assign name d = .error f →
        c.assignedAll (as ++ [(name, d)]) = c.assignedAll as) ∧
      (∀ c', (c.assignedAll as).assign name d = .ok c' →
        c.assignedAll (as ++ [(name, d)]) = c' ∧
          ∀ s, s ≠ name → c'.datum.field? s = (c.assignedAll as).datum.field? s) ∧
      (isPrivate name = false → ∀ c', (c.assignedAll as).assign name d = .ok c' ↔
        check (.dict (put (entriesOf (some (c.assignedAll as))) (.text name) d)) = .good c') := by
  have hvalid : (c.assignedAll as).IsValid := isValid_assignedAll hc.isValid as
  refine ⟨hvalid, fun id p => Run.make_eq_ok_iff.2 ⟨hvalid.limit.1, rfl⟩, fun name d => ?_⟩
  rw [assignedAll_concat]
  refine ⟨fun f h => by rw [assigned, h], fun c' h => ⟨by rw [assigned, h], fun s hs => ?_⟩, ?_⟩
  · rcases assign_eq_ok_iff.1 h with ⟨-, rfl⟩ | h
    · rfl
    · exact h.field?_eq hs
  · exact fun hname c' => assign_eq_ok_iff_check hvalid hname

/-- A limit that is read from a text, a directory among blanks, and assignments three of which are
refused: a limit of zero, a name that no setting has, and a blank directory. -/
theorem stays_valid_outDir :
    let given : Datum := object [("concurrency_limit", .text " 8 "), ("working_dir", .text " src ")]
    let as : List (String × Datum) :=
      [("concurrency_limit", .int 0), ("matrix_cap", .text "7"), ("cap", .int 1), ("_cap", .int 1),
        ("working_dir", .text " out ")]
    ∃ c : RunConfig, check given = .good c ∧ c.assignedAll as = ⟨8, true, 7, "out"⟩ ∧
      (c.assignedAll as).IsValid ∧
      c.assignedAll (as ++ [("working_dir", .text " ")]) = c.assignedAll as ∧
      (c.assignedAll (as ++ [("fail_fast", .text "off")])).datum.field? "working_dir" =
        some (.text "out") := by
  intro given as
  have hc : check given = .good ⟨8, true, 256, "src"⟩ :=
    Checked.eq_good_of_toExcept (by decide +kernel)
  have has : RunConfig.assignedAll ⟨8, true, 256, "src"⟩ as = ⟨8, true, 7, "out"⟩ := by
    decide +kernel
  obtain ⟨hvalid, -, hassign⟩ := stays_valid (.checked hc) as
  refine ⟨_, hc, has, hvalid, ?_, ?_⟩
  · obtain ⟨hrefused, -, -⟩ := hassign "working_dir" (.text " ")
    refine hrefused (.ofProblems [⟨[.key "working_dir"], .refused "working_dir cannot be empty"⟩]) ?_
    rw [has]
    rfl
  · obtain ⟨-, haccepted, -⟩ := hassign "fail_fast" (.text "off")
    obtain ⟨hafter, hothers⟩ := haccepted ⟨8, false, 7, "out"⟩ (by rw [has]; rfl)
    rw [hafter, hothers "working_dir" (by decide), has]
    rfl

end RunConfig

end Conveyor
