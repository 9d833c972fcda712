/-
**Configurations merged one after the other.**

What a check makes of a setting is written in a form that the check keeps.  So to merge overrides into
what came of other overrides is to merge all of them at once, the later ones over the earlier ones, and
to merge the same overrides once more changes nothing.  A merged configuration is a new one: those that
were there before stay as they are, whatever becomes of it.

Main definitions:

* `Conveyor.Datum.IsMapping` — entries with one entry for each key;
* `Conveyor.RunConfig.override?` — the value that overrides give to a setting;
* `Conveyor.RunConfig.Keeps` — a check that reads what it gave, once that is written;
* `Conveyor.RunConfig.IsValid` — the configurations that a check gives;
* `Conveyor.RunConfig.Settles` — what a configuration comes to, from what is found for its settings;
* `Conveyor.RunConfig.Shelf` — configurations side by side, and what is done with them.

Main results:

* `Conveyor.RunConfig.merge_eq_good_iff_settles` — what a merge comes to, setting by setting;
* `Conveyor.RunConfig.isValid_iff_exists_check` — a check gives just the valid configurations;
* `Conveyor.RunConfig.merge_then`, `Conveyor.RunConfig.merge_nulls`, `Conveyor.RunConfig.merge_again`
  — overrides one after the other, overrides that are all null, and the same overrides again;
* `Conveyor.RunConfig.Shelf.getElem?_afterAll` — what is done with others leaves a configuration alone;
* `Conveyor.RunConfig.merge_laws` — **merging composes**.
-/

import Conveyor.Proofs.Config

set_option autoImplicit false

namespace Conveyor

/-! ### Mappings -/

namespace Datum

/-- Entries with one entry for each key. -/
def IsMapping (entries : List (Datum × Datum)) : Prop :=
  entries.Pairwise fun a b => a.1.sameKey b.1 = false

variable {entries : List (Datum × Datum)} {key v : Datum} {s k : String}

/-- A text is the same key as that text only. -/
theorem eq_text_of_text_sameKey (h : (Datum.text s).sameKey key = true) : key = .text s := by
  cases key with
  | text t =>
      rw [sameKey_text, beq_iff_eq] at h
      rw [h]
  | _ => simp [sameKey, whole?] at h

/-- Writing another key does not change what is found under a text. -/
theorem lookupText_put_of_ne (h : key ≠ .text k) :
    lookupText (put entries key v) k = lookupText entries k := by
  induction entries with
  | nil =>
      cases key with
      | text s => exact if_neg fun hs => h (congrArg Datum.text hs)
      | _ => rfl
  | cons e entries ih =>
      obtain ⟨key', w⟩ := e
      simp only [put]
      split
      · rename_i hsame
        cases key' with
        | text t =>
            obtain rfl := eq_text_of_text_sameKey hsame
            have ht : t ≠ k := fun ht => h (congrArg Datum.text ht)
            simp only [lookupText_cons_text, if_neg ht]
        | _ => rfl
      · cases key' with
        | text t => simp only [lookupText_cons_text, ih]
        | _ => exact ih

/-- Under a text is found what was written last, or what was there before. -/
theorem lookupText_put_or :
    lookupText (put entries key v) k = (lookupText (put [] key v) k).or (lookupText entries k) := by
  by_cases h : key = .text k
  · subst h
    rw [lookupText_put, lookupText_put, if_pos rfl, if_pos rfl, Option.some_or]
  · rw [lookupText_put_of_ne h, lookupText_put_of_ne h, lookupText_nil, Option.none_or]

/-- An entry after a text key is written is that entry, or one that was there. -/
theorem eq_or_mem_of_mem_put {e : Datum × Datum} (h : e ∈ put entries (.text s) v) :
    e = (.text s, v) ∨ e ∈ entries := by
  induction entries with
  | nil => exact .inl (List.mem_singleton.1 h)
  | cons first entries ih =>
      obtain ⟨key, w⟩ := first
      simp only [put] at h
      split at h
      · rename_i hsame
        obtain rfl := eq_text_of_sameKey hsame
        exact (List.mem_cons.1 h).imp_right (List.mem_cons_of_mem _)
      · rcases List.mem_cons.1 h with rfl | h
        · exact .inr (List.mem_cons_self ..)
        · exact (ih h).imp_right (List.mem_cons_of_mem _)

theorem IsMapping.put (h : IsMapping entries) : IsMapping (put entries (.text s) v) := by
  induction entries with
  | nil => exact List.pairwise_singleton ..
  | cons first entries ih =>
      obtain ⟨key, w⟩ := first
      obtain ⟨hfirst, hrest⟩ := List.pairwise_cons.1 h
      simp only [Datum.put]
      split
      · exact List.pairwise_cons.2 ⟨hfirst, hrest⟩
      · rename_i hother
        refine List.pairwise_cons.2 ⟨fun e he => ?_, ih hrest⟩
        rcases eq_or_mem_of_mem_put he with rfl | he
        · exact Bool.eq_false_iff.2 hother
        · exact hfirst e he

end Datum

namespace RunConfig

open Check Datum

/-! ### Overrides -/

/-- The value that overrides give to a setting, if they do. -/
def override? (overrides : List (Datum × Datum)) (k : String) : Option Datum :=
  lookupText (overlay [] overrides) k

/-- Overrides that give values to settings only. -/
def OnlySettings (overrides : List (Datum × Datum)) : Prop :=
  ∀ e ∈ overrides, e.2 ≠ .null → ∃ k ∈ settings, e.1 = .text k

variable {entries overrides o₁ o₂ : List (Datum × Datum)} {key v : Datum} {s k : String}

theorem overlay_cons_null :
    overlay entries ((key, .null) :: overrides) = overlay entries overrides := rfl

theorem overlay_cons (h : v ≠ .null) :
    overlay entries ((key, v) :: overrides) = overlay (put entries key v) overrides := by
  cases v with
  | null => exact absurd rfl h
  | _ => rfl

/-- A setting has the value that overrides give to it, or the one that it had. -/
theorem lookupText_overlay_or (entries overrides : List (Datum × Datum)) (k : String) :
    lookupText (overlay entries overrides) k =
      (override? overrides k).or (lookupText entries k) := by
  unfold override?
  induction overrides generalizing entries with
  | nil => rfl
  | cons e overrides ih =>
      obtain ⟨key, v⟩ := e
      by_cases hnull : v = .null
      · subst hnull
        rw [overlay_cons_null, overlay_cons_null, ih]
      · rw [overlay_cons hnull, overlay_cons hnull, ih, ih (put [] key v), lookupText_put_or,
          Option.or_assoc]

theorem override?_cons (e : Datum × Datum) (overrides : List (Datum × Datum)) (k : String) :
    override? (e :: overrides) k = (override? overrides k).or (override? [e] k) := by
  obtain ⟨key, v⟩ := e
  by_cases hnull : v = .null
  · subst hnull
    exact (Option.or_none).symm
  · rw [override?, overlay_cons hnull, lookupText_overlay_or, override?, override?,
      overlay_cons hnull]
    rfl

theorem override?_singleton (hv : v ≠ .null) :
    override? [(.text s, v)] k = if s = k then some v else none := by
  rw [override?, overlay_cons hv]
  exact lookupText_put [] s k v

/-- Overrides give no value to a setting that they do not name. -/
theorem override?_eq_none (h : ∀ e ∈ overrides, e.1 ≠ .text k) : override? overrides k = none := by
  induction overrides with
  | nil => rfl
  | cons e overrides ih =>
      have hrest := ih fun e' he' => h e' (List.mem_cons_of_mem _ he')
      have hfirst : e.1 ≠ .text k := h e (List.mem_cons_self ..)
      obtain ⟨key, v⟩ := e
      rw [override?_cons, hrest, Option.none_or]
      by_cases hnull : v = .null
      · subst hnull
        rfl
      · rw [override?, overlay_cons hnull]
        exact lookupText_put_of_ne hfirst

/-- To write an override over others is to override them. -/
theorem override?_put (hmap : IsMapping overrides) (hv : v ≠ .null) :
    override? (put overrides (.text s) v) k = if s = k then some v else override? overrides k := by
  induction overrides with
  | nil => exact override?_singleton hv
  | cons first overrides ih =>
      obtain ⟨key, w⟩ := first
      obtain ⟨hfirst, hrest⟩ := List.pairwise_cons.1 hmap
      simp only [put]
      split
      · rename_i hsame
        obtain rfl := eq_text_of_sameKey hsame
        rw [override?_cons, override?_singleton hv]
        by_cases hs : s = k
        · -- in a mapping the other overrides do not name the setting once more
          subst hs
          have hothers : override? overrides s = none :=
            override?_eq_none fun e he hkey => by simpa [hkey] using hfirst e he
          rw [hothers, if_pos rfl, if_pos rfl, Option.none_or]
        · have hone : override? [(.text s, w)] k = none :=
            override?_eq_none fun e he hkey => by
              obtain rfl := List.mem_singleton.1 he
              exact hs (Datum.text.inj hkey)
          rw [if_neg hs, if_neg hs, override?_cons, hone]
      · rw [override?_cons, ih hrest, override?_cons (key, w) overrides]
        split
        · exact Option.some_or
        · rfl

/-- Overrides over others give what they give, and otherwise what the others do. -/
theorem override?_overlay (hmap : IsMapping o₁) (honly : OnlySettings o₂) :
    override? (overlay o₁ o₂) k = (override? o₂ k).or (override? o₁ k) := by
  induction o₂ generalizing o₁ with
  | nil => rfl
  | cons e o₂ ih =>
      have hrest : OnlySettings o₂ := fun e' he' => honly e' (List.mem_cons_of_mem _ he')
      have hfirst := honly e (List.mem_cons_self ..)
      obtain ⟨key, v⟩ := e
      by_cases hnull : v = .null
      · subst hnull
        exact ih hmap hrest
      · obtain ⟨s, -, rfl⟩ := hfirst hnull
        rw [overlay_cons hnull, ih hmap.put hrest, override?_put hmap hnull, override?_cons,
          override?_singleton hnull, Option.or_assoc]
        congr 1
        split <;> rfl

/-! ### Names of settings -/

theorem exists_key_of_put (entries : List (Datum × Datum)) (key v : Datum) :
    (∀ e ∈ entries, ∃ e' ∈ put entries key v, e'.1 = e.1) ∧
      ∃ e' ∈ put entries key v, e'.1 = key ∨ e'.1.sameKey key = true := by
  induction entries with
  | nil => exact ⟨fun _ he => absurd he List.not_mem_nil, _, List.mem_singleton_self _, .inl rfl⟩
  | cons first entries ih =>
      obtain ⟨key', w⟩ := first
      obtain ⟨hold, hnew⟩ := ih
      simp only [put]
      split
      · rename_i hsame
        refine ⟨fun e he => ?_, _, List.mem_cons_self .., .inr hsame⟩
        rcases List.mem_cons.1 he with rfl | he
        · exact ⟨_, List.mem_cons_self .., rfl⟩
        · exact ⟨e, List.mem_cons_of_mem _ he, rfl⟩
      · obtain ⟨e', he', hkey⟩ := hnew
        refine ⟨fun e he => ?_, e', List.mem_cons_of_mem _ he', hkey⟩
        rcases List.mem_cons.1 he with rfl | he
        · exact ⟨_, List.mem_cons_self .., rfl⟩
        · obtain ⟨e'', he'', hsame⟩ := hold e he
          exact ⟨e'', List.mem_cons_of_mem _ he'', hsame⟩

theorem allNamed_put_iff :
    AllNamed (put entries key v) ↔ AllNamed entries ∧ ∃ k ∈ settings, key = .text k := by
  constructor
  · intro h
    obtain ⟨hold, e, he, hkey⟩ := exists_key_of_put entries key v
    refine ⟨fun e' he' => ?_, ?_⟩
    · obtain ⟨e'', he'', hsame⟩ := hold e' he'
      exact hsame ▸ h e'' he''
    · obtain ⟨k, hk, hname⟩ := h e he
      rw [hname] at hkey
      rcases hkey with rfl | hsame
      · exact ⟨k, hk, rfl⟩
      · exact ⟨k, hk, eq_text_of_text_sameKey hsame⟩
  · rintro ⟨h, k, hk, rfl⟩
    exact h.put hk v

theorem allNamed_overlay_iff :
    AllNamed (overlay entries overrides) ↔ AllNamed entries ∧ OnlySettings overrides := by
  induction overrides generalizing entries with
  | nil => exact (and_iff_left fun _ he => absurd he List.not_mem_nil).symm
  | cons e overrides ih =>
      obtain ⟨key, v⟩ := e
      have hcons : OnlySettings ((key, v) :: overrides) ↔
          (v ≠ .null → ∃ k ∈ settings, key = .text k) ∧ OnlySettings overrides := by
        simp only [OnlySettings, List.forall_mem_cons]
      by_cases hnull : v = .null
      · subst hnull
        rw [overlay_cons_null, ih, hcons, and_iff_right fun h => absurd rfl h]
      · rw [overlay_cons hnull, ih, allNamed_put_iff, hcons, and_assoc, imp_iff_right hnull]

/-- Overrides over others name settings only if both do. -/
theorem OnlySettings.overlay (h₁ : OnlySettings o₁) (h₂ : OnlySettings o₂) :
    OnlySettings (overlay o₁ o₂) := by
  induction o₂ generalizing o₁ with
  | nil => exact h₁
  | cons e o₂ ih =>
      have hrest : OnlySettings o₂ := fun e' he' => h₂ e' (List.mem_cons_of_mem _ he')
      have hfirst := h₂ e (List.mem_cons_self ..)
      obtain ⟨key, v⟩ := e
      by_cases hnull : v = .null
      · subst hnull
        exact ih h₁ hrest
      · obtain ⟨s, hs, rfl⟩ := hfirst hnull
        rw [overlay_cons hnull]
        refine ih (fun e he hgiven => ?_) hrest
        rcases eq_or_mem_of_mem_put he with rfl | he
        · exact ⟨s, hs, rfl⟩
        · exact h₁ e he hgiven

variable {base : Option RunConfig} {c c₁ c₂ : RunConfig}

/-- A mapping is a configuration when its keys are names of settings and each setting is good. -/
theorem check_dict_eq_good_iff :
    check (.dict entries) = .good c ↔ AllNamed entries ∧ AllGood (.dict entries) c := by
  constructor
  · intro h
    have honly : HasOnly settings (.dict entries) := (record_eq_good_iff.1 h).1
    obtain ⟨_, he, hnamed⟩ := honly
    obtain rfl := Datum.dict.inj he
    exact ⟨hnamed, (check_eq_good_iff hnamed).1 h⟩
  · rintro ⟨hnamed, hgood⟩
    exact (check_eq_good_iff hnamed).2 hgood

/-! ### What a check keeps -/

/-- A check that gives just some values, and that reads those as they are written. -/
structure Keeps {α : Type} (check : Check α) (IsFit : α → Prop) (datum : α → Datum) : Prop where
  fit {d : Datum} {a : α} : check d = .good a → IsFit a
  written {a : α} : IsFit a → check (datum a).opened = .good a

/-- The texts that a check of directories gives: not blank, and without blanks around them. -/
def IsDir (s : String) : Prop := Text.allBlank s = false ∧ Text.strip s = s

theorem keeps_checkLimit : Keeps checkLimit (fun n => 1 ≤ n ∧ n ≤ 256) fun n => .int n where
  fit h := ((reads_wholeIn 1 256 _ _).1 h).2
  written h := (reads_wholeIn 1 256 _ _).2 ⟨rfl, h⟩

theorem keeps_truth : Keeps truth (fun _ => True) .bool where
  fit _ := trivial
  written _ := rfl

theorem keeps_checkCap : Keeps checkCap (fun n => 1 ≤ n) fun n => .int n where
  fit h := by
    obtain ⟨i, -, h⟩ := Checked.andThen_eq_good_iff.1 h
    split at h
    · cases h
    · cases h
      omega
  written h := Checked.andThen_eq_good_iff.2 ⟨_, rfl, if_neg (by omega)⟩

theorem keeps_checkDir : Keeps checkDir IsDir .text where
  fit h := by
    obtain ⟨s, -, h⟩ := Checked.andThen_eq_good_iff.1 h
    split at h
    · cases h
    · rename_i hfull
      cases h
      exact ⟨(Text.allBlank_strip s).trans (Bool.eq_false_iff.2 hfull), Text.strip_idem s⟩
  written h := by
    refine Checked.andThen_eq_good_iff.2 ⟨_, rfl, ?_⟩
    rw [h.1, h.2]
    rfl

/-- A configuration that a check may give. -/
structure IsValid (c : RunConfig) : Prop where
  limit : 1 ≤ c.concurrencyLimit ∧ c.concurrencyLimit ≤ 256
  cap : 1 ≤ c.matrixCap
  dir : IsDir c.workingDir

theorem isValid_default : IsValid {} where
  limit := by decide
  cap := by decide
  dir := ⟨by decide +kernel, by decide +kernel⟩

/-! ### Settings from what is found -/

section

variable {α : Type} {default a b : α} {check : Check α} {IsFit : α → Prop} {datum : α → Datum}
  {found given : Option Datum}

/-- A setting comes to a value: the one that is found there, or the usual one if there is none. -/
def ComesTo (default : α) (check : Check α) : Option Datum → α → Prop
  | some v, a => check v.opened = .good a
  | none, a => a = default

theorem optional_eq_good_iff :
    optional k default check (.dict entries) = .good a ↔
      ComesTo default check (lookupText entries k) a := by
  unfold Check.optional Datum.field? ComesTo
  cases lookupText entries k with
  | some v => exact Checked.within_eq_good_iff
  | none => exact ⟨fun h => by cases h; rfl, fun h => congrArg Checked.good h.symm⟩

/-- Whatever a setting comes to is fit for it. -/
theorem ComesTo.fit (hk : Keeps check IsFit datum) (hdefault : IsFit default)
    (h : ComesTo default check found a) : IsFit a := by
  cases found with
  | some v => exact hk.fit h
  | none =>
      obtain rfl : a = default := h
      exact hdefault

/-- A setting that was written comes to what it was. -/
theorem comesTo_written_iff (hk : Keeps check IsFit datum) (ha : IsFit a) :
    ComesTo default check (some (datum a)) b ↔ b = a := by
  show check (datum a).opened = .good b ↔ b = a
  rw [hk.written ha, Checked.good.injEq, eq_comm]

/-- To give a setting a value once it has come to one is to give the value at once. -/
theorem ComesTo.andThen (hk : Keeps check IsFit datum) (hdefault : IsFit default)
    (h₁ : ComesTo default check found a) (h₂ : ComesTo default check (given.or (some (datum a))) b) :
    ComesTo default check (given.or found) b := by
  cases given with
  | some v => exact h₂
  | none =>
      obtain rfl := (comesTo_written_iff hk (h₁.fit hk hdefault)).1 h₂
      exact h₁

/-- To give a setting the same value once more changes nothing. -/
theorem ComesTo.again (hk : Keeps check IsFit datum) (hdefault : IsFit default)
    (h : ComesTo default check (given.or found) a) :
    ComesTo default check (given.or (some (datum a))) a := by
  cases given with
  | some v => exact h
  | none => exact (comesTo_written_iff hk (h.fit hk hdefault)).2 rfl

end

/-! ### Configurations from what is found -/

/-- What a configuration comes to, from what is found for its settings. -/
structure Settles (found : String → Option Datum) (c : RunConfig) : Prop where
  limit : ComesTo 4 checkLimit (found "concurrency_limit") c.concurrencyLimit
  failFast : ComesTo true truth (found "fail_fast") c.failFast
  cap : ComesTo 256 checkCap (found "matrix_cap") c.matrixCap
  dir : ComesTo "." checkDir (found "working_dir") c.workingDir

/-- What is found for the settings of a configuration that is there. -/
def present? (base : Option RunConfig) (k : String) : Option Datum := lookupText (entriesOf base) k

variable {found given : String → Option Datum}

theorem allGood_iff_settles : AllGood (.dict entries) c ↔ Settles (lookupText entries) c where
  mp h :=
    { limit := optional_eq_good_iff.1 h.limit
      failFast := optional_eq_good_iff.1 h.failFast
      cap := optional_eq_good_iff.1 h.cap
      dir := optional_eq_good_iff.1 h.dir }
  mpr h :=
    { limit := optional_eq_good_iff.2 h.limit
      failFast := optional_eq_good_iff.2 h.failFast
      cap := optional_eq_good_iff.2 h.cap
      dir := optional_eq_good_iff.2 h.dir }

/-- What a merge comes to: the settings that are overridden, and the others as they were. -/
theorem merge_eq_good_iff_settles :
    merge base overrides = .good c ↔
      OnlySettings overrides ∧ Settles (fun k => (override? overrides k).or (present? base k)) c := by
  have hlookup : lookupText (overlay (entriesOf base) overrides) =
      fun k => (override? overrides k).or (present? base k) :=
    funext fun k => lookupText_overlay_or _ _ k
  rw [merge, check_dict_eq_good_iff, allNamed_overlay_iff, allGood_iff_settles, hlookup,
    and_iff_right (allNamed_entriesOf base)]

namespace Settles

theorem isValid (h : Settles found c) : c.IsValid where
  limit := (h.limit.fit keeps_checkLimit isValid_default.limit :)
  cap := h.cap.fit keeps_checkCap isValid_default.cap
  dir := h.dir.fit keeps_checkDir isValid_default.dir

theorem andThen (h₁ : Settles found c₁)
    (h₂ : Settles (fun k => (given k).or (present? (some c₁) k)) c₂) :
    Settles (fun k => (given k).or (found k)) c₂ where
  limit := h₁.limit.andThen keeps_checkLimit isValid_default.limit h₂.limit
  failFast := h₁.failFast.andThen keeps_truth trivial h₂.failFast
  cap := h₁.cap.andThen keeps_checkCap isValid_default.cap h₂.cap
  dir := h₁.dir.andThen keeps_checkDir isValid_default.dir h₂.dir

theorem again (h : Settles (fun k => (given k).or (found k)) c) :
    Settles (fun k => (given k).or (present? (some c) k)) c where
  limit := h.limit.again keeps_checkLimit isValid_default.limit
  failFast := h.failFast.again keeps_truth trivial
  cap := h.cap.again keeps_checkCap isValid_default.cap
  dir := h.dir.again keeps_checkDir isValid_default.dir

/-- A valid configuration comes to itself, and without settings the usual one does. -/
theorem of_isValid (hvalid : ∀ b ∈ base, IsValid b) :
    Settles (present? base) (base.getD {}) := by
  cases base with
  | none => exact ⟨rfl, rfl, rfl, rfl⟩
  | some b =>
      have hb : b.IsValid := hvalid b rfl
      exact ⟨keeps_checkLimit.written hb.limit, keeps_truth.written trivial,
        keeps_checkCap.written hb.cap, keeps_checkDir.written hb.dir⟩

end Settles

/-- A check gives just the valid configurations. -/
theorem isValid_iff_exists_check : c.IsValid ↔ ∃ d, check d = .good c := by
  constructor
  · intro hc
    refine ⟨.dict (entriesOf (some c)), check_dict_eq_good_iff.2 ⟨allNamed_entriesOf _, ?_⟩⟩
    exact allGood_iff_settles.2 (Settles.of_isValid fun b hb => Option.some.inj hb ▸ hc)
  · rintro ⟨d, hd⟩
    obtain ⟨entries, rfl⟩ := (record_eq_good_iff.1 hd).1.exists_dict
    exact (allGood_iff_settles.1 (check_dict_eq_good_iff.1 hd).2).isValid

/-! ### Laws of merging -/

/-- To merge overrides into what came of others is to merge all of them at once. -/
theorem merge_then (hmap : IsMapping o₁) (h₁ : merge base o₁ = .good c₁)
    (h₂ : merge (some c₁) o₂ = .good c₂) : merge base (overlay o₁ o₂) = .good c₂ := by
  obtain ⟨honly₁, hc₁⟩ := merge_eq_good_iff_settles.1 h₁
  obtain ⟨honly₂, hc₂⟩ := merge_eq_good_iff_settles.1 h₂
  have hboth : (fun k => (override? (overlay o₁ o₂) k).or (present? base k)) =
      fun k => (override? o₂ k).or ((override? o₁ k).or (present? base k)) := by
    funext k
    rw [override?_overlay hmap honly₂, Option.or_assoc]
  refine merge_eq_good_iff_settles.2 ⟨honly₁.overlay honly₂, ?_⟩
  rw [hboth]
  exact hc₁.andThen hc₂

/-- To merge the same overrides once more changes nothing. -/
theorem merge_again (h : merge base overrides = .good c) :
    merge (some c) overrides = .good c := by
  obtain ⟨honly, hc⟩ := merge_eq_good_iff_settles.1 h
  exact merge_eq_good_iff_settles.2 ⟨honly, hc.again⟩

/-- To merge nothing but nulls changes nothing. -/
theorem merge_nulls (hvalid : ∀ b ∈ base, IsValid b) (hnull : ∀ e ∈ overrides, e.2 = .null) :
    merge base overrides = .good (base.getD {}) := by
  have hnone : overlay (entriesOf base) overrides = entriesOf base := by
    induction overrides with
    | nil => rfl
    | cons e overrides ih =>
        obtain ⟨key, v⟩ := e
        obtain rfl : v = .null := hnull _ (List.mem_cons_self ..)
        exact ih fun e he => hnull e (List.mem_cons_of_mem _ he)
  rw [merge, hnone]
  exact check_dict_eq_good_iff.2
    ⟨allNamed_entriesOf base, allGood_iff_settles.2 (Settles.of_isValid hvalid)⟩

/-! ### Configurations side by side -/

/-- Configurations side by side, each at its place. -/
abbrev Shelf := List RunConfig

/-- What is done with configurations that stand side by side. -/
inductive Act where
  /-- Merges overrides into the configuration at a place, or into none. -/
  | merge (base : Option Nat) (overrides : List (Datum × Datum))
  /-- Changes a setting of the configuration at a place. -/
  | assign (place : Nat) (setting : String) (d : Datum)

/-- An act that changes no setting at a place. -/
def Act.Spares (place : Nat) : Act → Prop
  | .merge .. => True
  | .assign changed .. => changed ≠ place

namespace Shelf

/-- The configuration to merge into: the one at a place, or none at all. -/
def base? (shelf : Shelf) : Option Nat → Option (Option RunConfig)
  | none => some none
  | some place => shelf[place]?.map some

/-- What comes of an act.  A merged configuration is put at a new place, a changed one stays at its
place, and an act that is refused leaves all as it was. -/
def after (shelf : Shelf) : Act → Shelf
  | .merge base overrides =>
    match (shelf.base? base).map fun b => RunConfig.merge b overrides with
    | some (.good c) => shelf ++ [c]
    | _ => shelf
  | .assign place setting d =>
    match shelf[place]?.map fun c => RunConfig.assign c setting d with
    | some (.ok c) => shelf.set place c
    | _ => shelf

/-- What comes of acts, one after the other. -/
def afterAll (shelf : Shelf) (acts : List Act) : Shelf := acts.foldl after shelf

variable {shelf : Shelf} {place : Nat} {act : Act} {acts : List Act}

theorem length_le_after (shelf : Shelf) (act : Act) : shelf.length ≤ (shelf.after act).length := by
  cases act with
  | merge =>
      simp only [after]
      split
      · rw [List.length_append]
        exact Nat.le_add_right ..
      · exact Nat.le_refl _
  | assign =>
      simp only [after]
      split
      · exact Nat.le_of_eq (List.length_set ..).symm
      · exact Nat.le_refl _

/-- An act leaves alone what it spares. -/
theorem getElem?_after (hplace : place < shelf.length) (hspares : act.Spares place) :
    (shelf.after act)[place]? = shelf[place]? := by
  cases act with
  | merge =>
      simp only [after]
      split
      · exact List.getElem?_append_left hplace
      · rfl
  | assign changed =>
      have hne : changed ≠ place := hspares
      simp only [after]
      split
      · exact List.getElem?_set_ne hne
      · rfl

/-- Acts leave alone what all of them spare. -/
theorem getElem?_afterAll (hplace : place < shelf.length) (hspares : ∀ act ∈ acts, act.Spares place) :
    (shelf.afterAll acts)[place]? = shelf[place]? := by
  induction acts generalizing shelf with
  | nil => rfl
  | cons act acts ih =>
      have hstep := getElem?_after hplace (hspares act (List.mem_cons_self ..))
      have hstill := Nat.lt_of_lt_of_le hplace (length_le_after shelf act)
      exact (ih hstill fun a ha => hspares a (List.mem_cons_of_mem _ ha)).trans hstep

end Shelf

/-- **Merging composes.**  Overrides merged into what came of other overrides are all of them merged
at once, the later ones over the earlier ones; nothing but nulls leaves a valid configuration as it is,
and none the usual one; the same overrides merged once more change nothing; and a configuration stays
as it is whatever is merged into it, and whatever becomes of what came of that. -/
theorem merge_laws :
    (∀ (base : Option RunConfig) (o₁ o₂ : List (Datum × Datum)) (c₁ c₂ : RunConfig), IsMapping o₁ →
        merge base o₁ = .good c₁ → merge (some c₁) o₂ = .good c₂ →
        merge base (overlay o₁ o₂) = .good c₂) ∧
      (∀ (base : Option RunConfig) (overrides : List (Datum × Datum)), (∀ b ∈ base, IsValid b) →
        (∀ e ∈ overrides, e.2 = .null) → merge base overrides = .good (base.getD {})) ∧
      (∀ (base : Option RunConfig) (overrides : List (Datum × Datum)) (c : RunConfig),
        merge base overrides = .good c → merge (some c) overrides = .good c) ∧
      ∀ (shelf : Shelf) (place : Nat) (b : RunConfig) (acts : List Act), shelf[place]? = some b →
        (∀ act ∈ acts, act.Spares place) → (shelf.afterAll acts)[place]? = some b := by
  refine ⟨fun _ _ _ _ _ => merge_then, fun _ _ => merge_nulls, fun _ _ _ => merge_again, ?_⟩
  intro shelf place b acts hb hspares
  obtain ⟨hplace, -⟩ := List.getElem?_eq_some_iff.1 hb
  exact (Shelf.getElem?_afterAll hplace hspares).trans hb

/-- A limit in a text and a directory among blanks are merged, then whether a failure stops all. -/
theorem merge_laws_directory :
    let base : RunConfig := ⟨2, false, 256, "src"⟩
    let first : List (Datum × Datum) :=
      [(.text "concurrency_limit", .text " 8 "), (.text "fail_fast", .null),
        (.text "working_dir", .text " out ")]
    let second : List (Datum × Datum) :=
      [(.text "fail_fast", .text "yes"), (.text "concurrency_limit", .null)]
    merge (some base) (overlay first second) = .good ⟨8, true, 256, "out"⟩ ∧
      merge (some base) [(.text "fail_fast", .null)] = .good base ∧
      merge (some ⟨8, false, 256, "out"⟩) first = .good ⟨8, false, 256, "out"⟩ ∧
      (Shelf.afterAll [base] [.merge (some 0) first, .assign 1 "fail_fast" (.bool true)])[0]? =
        some base := by
  intro base first second
  have hfirst : merge (some base) first = .good ⟨8, false, 256, "out"⟩ :=
    Checked.eq_good_of_toExcept (by decide +kernel)
  have hsecond : merge (some ⟨8, false, 256, "out"⟩) second = .good ⟨8, true, 256, "out"⟩ :=
    Checked.eq_good_of_toExcept (by decide +kernel)
  have hmap : IsMapping first := by simp [IsMapping, first]
  have hvalid : ∀ b ∈ some base, IsValid b := by
    rintro _ ⟨⟩
    exact ⟨by decide, by decide, by decide +kernel, by decide +kernel⟩
  obtain ⟨hthen, hnulls, hagain, hstays⟩ := merge_laws
  refine ⟨hthen (some base) first second _ _ hmap hfirst hsecond, ?_, ?_, ?_⟩
  · exact hnulls (some base) _ hvalid (by simp)
  · exact hagain (some base) first _ hfirst
  · refine hstays [base] 0 base _ rfl ?_
    simp [Act.Spares]

end RunConfig

end Conveyor
