/-
**Documents of one pipeline, and of many.**

A single pipeline can be written in a list, under a key, or as the document itself, and a configuration
may stand beside it.  All of these define the same.  A list of pipelines defines its pipelines in their
order if all of them are good; otherwise the first faulty one is told by its index, its name and its
problems, unless it has a name that cannot be shown.

Main definitions:

* `Conveyor.Document.IsBare` — a mapping that is a document of one pipeline by itself;
* `Conveyor.Document.Form` — the documents of one pipeline;
* `Conveyor.Document.Lists` — a document with a list of pipelines;
* `Conveyor.Document.Blames` — what is told of a faulty pipeline.

Main results:

* `Conveyor.Document.exists_item_of_form` — each form holds the pipeline and nothing else;
* `Conveyor.Document.checkFrom_eq_ok_iff`, `Conveyor.Document.checkFrom_eq_error_iff` — lists of
  pipelines;
* `Conveyor.Document.catalog_of_forms` — **all forms define the same, and lists what their pipelines
  do**;
* `Conveyor.Document.exists_list_not_blamed` — not every faulty pipeline is told.
-/

import Mathlib.Data.List.Forall2
import Conveyor.Loader

set_option autoImplicit false

namespace Conveyor

/-! ### Keys of mappings -/

namespace Datum

variable {entries before after : List (Datum × Datum)} {s k : String} {v d : Datum}

theorem opened_opened (d : Datum) : d.opened.opened = d.opened := by
  induction d using opened.induct with
  | case1 number d ih => exact ih
  | case2 d hd => cases d <;> first | rfl | exact absurd rfl (hd _ _)

/-- A number does not change what a key holds. -/
theorem field?_opened (d : Datum) (k : String) : d.opened.field? k = d.field? k := by
  induction d using opened.induct with
  | case1 number d ih => exact ih
  | case2 d hd => cases d <;> first | rfl | exact absurd rfl (hd _ _)

theorem lookupText_append (before after : List (Datum × Datum)) (k : String) :
    lookupText (before ++ after) k = (lookupText before k).or (lookupText after k) := by
  induction before with
  | nil => rfl
  | cons e before ih =>
      obtain ⟨key, v⟩ := e
      cases key with
      | text s =>
          simp only [List.cons_append, lookupText_cons_text]
          split
          · rfl
          · exact ih
      | _ => exact ih

/-- One entry makes no difference to the other keys. -/
theorem lookupText_insert (hne : s ≠ k) :
    lookupText (before ++ (.text s, v) :: after) k = lookupText (before ++ after) k := by
  rw [lookupText_append, lookupText_cons_text, if_neg hne, lookupText_append]

/-- A key that is not there is the key of no entry. -/
theorem ne_text_of_lookupText (h : lookupText entries k = none) : ∀ e ∈ entries, e.1 ≠ .text k := by
  rintro ⟨key, v⟩ he rfl
  obtain ⟨before, after, rfl⟩ := List.append_of_mem he
  rw [lookupText_append, lookupText_cons_text, if_pos rfl] at h
  simp at h

end Datum

namespace Document

open Datum

/-! ### Forms -/

/-- A mapping that is a document of one pipeline by itself: it has a name, and none of the keys that
other documents have. -/
structure IsBare (d : List (Datum × Datum)) : Prop where
  named : ∃ name, lookupText d "name" = some name
  noPipelines : lookupText d "pipelines" = none
  noPipeline : lookupText d "pipeline" = none
  noConfig : lookupText d "config" = none

/-- The documents of one pipeline: a list that holds it, the pipeline under a key, and the pipeline
itself, alone or with a configuration at some place in it. -/
inductive Form (d : List (Datum × Datum)) : List (Datum × Datum) → Prop
  | listed {entries : List (Datum × Datum)} {list item : Datum}
      (found : lookupText entries "pipelines" = some list) (one : list.opened = .list [item])
      (whole : item.opened = .dict d) : Form d entries
  | keyed {entries : List (Datum × Datum)} {item : Datum}
      (noList : lookupText entries "pipelines" = none)
      (found : lookupText entries "pipeline" = some item) (whole : item.opened = .dict d) :
      Form d entries
  | bare : Form d d
  | configured {before after : List (Datum × Datum)} (config : Datum)
      (rest : before ++ after = d) : Form d (before ++ (.text "config", config) :: after)

/-- A document with a list of pipelines, whatever else it holds. -/
def Lists (entries : List (Datum × Datum)) (ds : List Datum) : Prop :=
  ∃ list, lookupText entries "pipelines" = some list ∧ list.opened = .list ds

variable {d entries entries' : List (Datum × Datum)} {item : Datum} {ds : List Datum} {i : Nat}
  {f : Fault} {problems problems' : List Problem}

theorem pipelines_of_lists (h : Lists entries ds) : pipelines entries = .ok ds := by
  obtain ⟨list, hfound, hlist⟩ := h
  simp only [pipelines, hfound, Option.map_some, hlist]

/-- The entries that are not of the configuration. -/
def besideConfig (entries : List (Datum × Datum)) : List (Datum × Datum) :=
  entries.filter fun e => match e.1 with
    | .text k => k != "config"
    | _ => true

theorem besideConfig_eq_self (h : lookupText entries "config" = none) :
    besideConfig entries = entries := by
  refine List.filter_eq_self.2 fun e he => ?_
  have hne := ne_text_of_lookupText h e he
  split
  · rename_i k hk
    rw [hk] at hne
    simpa using hne
  · rfl

theorem besideConfig_insert (before after : List (Datum × Datum)) (config : Datum) :
    besideConfig (before ++ (.text "config", config) :: after) = besideConfig (before ++ after) := by
  rw [besideConfig, List.filter_append, List.filter_cons_of_neg (by simp), ← List.filter_append]
  rfl

/-- A document with a name and no other pipelines is one itself, apart from its configuration. -/
theorem pipelines_of_named {name : Datum} (hname : lookupText entries "name" = some name)
    (hlist : lookupText entries "pipelines" = none) (hkey : lookupText entries "pipeline" = none) :
    pipelines entries = .ok [.dict (besideConfig entries)] := by
  simp only [pipelines, hlist, hkey, hname, Option.map_none]
  rfl

/-- Each form holds the pipeline and nothing else. -/
theorem exists_item_of_form (hd : IsBare d) (h : Form d entries) :
    ∃ item, pipelines entries = .ok [item] ∧ item.opened = .dict d := by
  obtain ⟨name, hname⟩ := hd.named
  cases h with
  | listed found one whole => exact ⟨_, pipelines_of_lists ⟨_, found, one⟩, whole⟩
  | keyed noList found whole =>
      exact ⟨_, by simp only [pipelines, noList, found, Option.map_none], whole⟩
  | bare =>
      have hself := pipelines_of_named hname hd.noPipelines hd.noPipeline
      rw [besideConfig_eq_self hd.noConfig] at hself
      exact ⟨_, hself, rfl⟩
  | @configured before after config rest =>
      subst rest
      -- the entry of the configuration changes none of the keys that tell the form
      have hkeep : ∀ k, "config" ≠ k → lookupText (before ++ (.text "config", config) :: after) k =
          lookupText (before ++ after) k := fun k hk => lookupText_insert hk
      have hself := pipelines_of_named ((hkeep "name" (by decide)).trans hname)
        ((hkeep "pipelines" (by decide)).trans hd.noPipelines)
        ((hkeep "pipeline" (by decide)).trans hd.noPipeline)
      rw [besideConfig_insert, besideConfig_eq_self hd.noConfig] at hself
      exact ⟨_, hself, rfl⟩

/-! ### Lists -/

theorem nameShown_opened (item : Datum) : nameShown item.opened = nameShown item := by
  rw [nameShown, nameShown, field?_opened]

/-- Pipelines are checked without their numbers. -/
theorem checkFrom_opened (i : Nat) (item : Datum) :
    checkFrom i [item.opened] = checkFrom i [item] := by
  simp only [checkFrom, opened_opened, nameShown_opened]

theorem catalog_eq (entries : List (Datum × Datum)) :
    catalog entries = (pipelines entries).bind fun ds => (checkFrom 0 ds).map Catalog.mk := by
  rw [catalog]
  cases pipelines entries with
  | error f => rfl
  | ok ds => cases h : checkFrom 0 ds <;> simp [h, bind, Except.bind, Except.map, pure, Except.pure]

/-- All forms of a pipeline define the same. -/
theorem catalog_eq_of_form (hd : IsBare d) (h : Form d entries) :
    catalog entries = (checkFrom 0 [.dict d]).map Catalog.mk := by
  obtain ⟨item, hitem, hwhole⟩ := exists_item_of_form hd h
  rw [catalog_eq, hitem, ← hwhole, checkFrom_opened]
  rfl

theorem checkFrom_of_good {item : Datum} {p : Pipeline} (h : Pipeline.check item.opened = .good p) :
    checkFrom i (item :: ds) = (p :: ·) <$> checkFrom (i + 1) ds := by
  rw [checkFrom, h]

theorem checkFrom_of_bad {item : Datum} (h : Pipeline.check item.opened = .bad problems) :
    checkFrom i (item :: ds) = (nameShown item).bind fun name => .error
      (fault ("Invalid pipeline definition at index " ++ toString i ++ name) (some problems)) := by
  rw [checkFrom, h]
  rfl

theorem bind_error_ne_ok {ε α β : Type} {x : Except ε α} {g : α → ε} {b : β} :
    x.bind (fun a => .error (g a)) ≠ .ok b := by
  cases x <;> exact nofun

/-- A list of pipelines is good when each of them is. -/
theorem checkFrom_eq_ok_iff {ps : List Pipeline} :
    checkFrom i ds = .ok ps ↔ List.Forall₂ (fun d p => Pipeline.check d.opened = .good p) ds ps := by
  induction ds generalizing i ps with
  | nil =>
      rw [List.forall₂_nil_left_iff]
      exact ⟨fun h => (Except.ok.inj h).symm, fun h => h ▸ rfl⟩
  | cons d ds ih =>
      rw [List.forall₂_cons_left_iff]
      cases hcheck : Pipeline.check d.opened with
      | good p =>
          rw [checkFrom_of_good hcheck]
          constructor
          · intro h
            obtain ⟨rest, hrest, rfl⟩ := exists_ok_of_map h
            exact ⟨p, rest, rfl, ih.1 hrest, rfl⟩
          · rintro ⟨_, rest, hp, hrest, rfl⟩
            obtain rfl := Checked.good.inj hp
            rw [ih.2 hrest]
            rfl
      | bad problems =>
          rw [checkFrom_of_bad hcheck]
          refine iff_of_false bind_error_ne_ok ?_
          rintro ⟨_, _, hp, -⟩
          cases hp

/-- What is told of a faulty pipeline: its index, its name if it has one, and its problems.  A name
that cannot be shown is told instead of all of this. -/
inductive Blames (i : Nat) (d : Datum) (problems : List Problem) : Fault → Prop
  | nameless (noName : ∀ name, d.field? "name" = some name → name.truthy = false) :
      Blames i d problems
        (fault ("Invalid pipeline definition at index " ++ toString i) (some problems))
  | named {name : Datum} (found : d.field? "name" = some name) (truthy : name.truthy = true)
      (showable : name.isShowable = true) :
      Blames i d problems (fault ("Invalid pipeline definition at index " ++ toString i ++
        (" ('" ++ name.shown ++ "')")) (some problems))
  | unshowable {name : Datum} (found : d.field? "name" = some name) (truthy : name.truthy = true)
      (unshowable : name.isShowable = false) : Blames i d problems (.value unshowableText)

/-- The first faulty pipeline of a list, with its index and its problems. -/
structure IsFirstFaulty (ds : List Datum) (index : Nat) (d : Datum) (problems : List Problem) :
    Prop where
  found : ds[index]? = some d
  faulty : Pipeline.check d.opened = .bad problems
  good_before : ∀ j < index, ∀ e, ds[j]? = some e → ∃ p, Pipeline.check e.opened = .good p

theorem bind_nameShown_eq_error_iff {α : Type} : (nameShown item).bind (fun name => (.error
      (fault ("Invalid pipeline definition at index " ++ toString i ++ name) (some problems)) :
        Except Fault α)) = .error f ↔ Blames i item problems f := by
  constructor
  · intro h
    rw [nameShown] at h
    split at h
    · rename_i name hname
      split at h
      · rename_i hfalse
        obtain rfl := Except.error.inj h
        rw [String.append_empty]
        refine .nameless fun name' hname' => ?_
        obtain rfl : name = name' := Option.some.inj (hname.symm.trans hname')
        simpa using hfalse
      · rename_i htrue
        have htruthy : name.truthy = true := by simpa using htrue
        split at h
        · rename_i hshown
          obtain rfl := Except.error.inj h
          exact .named hname htruthy hshown
        · rename_i hhidden
          obtain rfl := Except.error.inj h
          exact .unshowable hname htruthy (Bool.eq_false_iff.2 hhidden)
    · rename_i hname
      obtain rfl := Except.error.inj h
      rw [String.append_empty]
      refine .nameless fun name' hname' => ?_
      rw [hname] at hname'
      cases hname'
  · intro h
    cases h with
    | nameless noName =>
        have hshown : nameShown item = .ok "" := by
          rw [nameShown]
          split
          · rename_i name hname
            rw [if_pos (by simp [noName name hname])]
          · rfl
        rw [hshown, Except.bind, String.append_empty]
    | named found truthy showable =>
        simp only [nameShown, found, truthy, showable, Bool.not_true, Bool.false_eq_true, if_false,
          if_true, Except.bind]
    | unshowable found truthy unshowable =>
        simp only [nameShown, found, truthy, unshowable, Bool.not_true, Bool.false_eq_true, if_false,
          Except.bind]

theorem isFirstFaulty_cons_iff_of_good {first : Datum} {p : Pipeline} {index : Nat}
    (h : Pipeline.check first.opened = .good p) : IsFirstFaulty (first :: ds) index item problems ↔
      ∃ n, index = n + 1 ∧ IsFirstFaulty ds n item problems := by
  constructor
  · intro hfirst
    cases index with
    | zero =>
        obtain rfl : first = item := Option.some.inj hfirst.found
        cases h.symm.trans hfirst.faulty
    | succ n =>
        exact ⟨n, rfl, hfirst.found, hfirst.faulty,
          fun j hj e he => hfirst.good_before (j + 1) (Nat.succ_lt_succ hj) e he⟩
  · rintro ⟨n, rfl, hfirst⟩
    refine ⟨hfirst.found, hfirst.faulty, fun j hj e he => ?_⟩
    cases j with
    | zero =>
        obtain rfl : first = e := Option.some.inj he
        exact ⟨p, h⟩
    | succ j => exact hfirst.good_before j (Nat.lt_of_succ_lt_succ hj) e he

theorem isFirstFaulty_cons_iff_of_bad {first : Datum} {index : Nat}
    (h : Pipeline.check first.opened = .bad problems') :
    IsFirstFaulty (first :: ds) index item problems ↔
      index = 0 ∧ item = first ∧ problems = problems' := by
  constructor
  · intro hfirst
    cases index with
    | zero =>
        obtain rfl : first = item := Option.some.inj hfirst.found
        exact ⟨rfl, rfl, Checked.bad.inj (hfirst.faulty.symm.trans h)⟩
    | succ n =>
        obtain ⟨p, hp⟩ := hfirst.good_before 0 (Nat.succ_pos n) first rfl
        cases h.symm.trans hp
  · rintro ⟨rfl, rfl, rfl⟩
    exact ⟨rfl, h, fun j hj => absurd hj (Nat.not_lt_zero j)⟩

/-- Of a list that is not good, the first faulty pipeline is told. -/
theorem checkFrom_eq_error_iff : checkFrom i ds = .error f ↔
    ∃ index d problems, IsFirstFaulty ds index d problems ∧ Blames (i + index) d problems f := by
  induction ds generalizing i with
  | nil =>
      refine iff_of_false nofun ?_
      rintro ⟨index, d, problems, hfirst, -⟩
      cases hfirst.found
  | cons d ds ih =>
      cases hcheck : Pipeline.check d.opened with
      | good p =>
          rw [checkFrom_of_good hcheck]
          simp only [isFirstFaulty_cons_iff_of_good hcheck]
          have hmap : ((p :: ·) <$> checkFrom (i + 1) ds) = .error f ↔
              checkFrom (i + 1) ds = .error f := by
            cases checkFrom (i + 1) ds <;> simp [Functor.map, Except.map]
          have hshift : ∀ index, i + 1 + index = i + (index + 1) := fun index => by omega
          rw [hmap, ih]
          simp only [hshift]
          constructor
          · rintro ⟨index, e, problems, hfirst, hblames⟩
            exact ⟨index + 1, e, problems, ⟨index, rfl, hfirst⟩, hblames⟩
          · rintro ⟨_, e, problems, ⟨index, rfl, hfirst⟩, hblames⟩
            exact ⟨index, e, problems, hfirst, hblames⟩
      | bad problems =>
          rw [checkFrom_of_bad hcheck, bind_nameShown_eq_error_iff]
          simp only [isFirstFaulty_cons_iff_of_bad hcheck]
          constructor
          · intro hblames
            exact ⟨0, d, problems, ⟨rfl, rfl, rfl⟩, hblames⟩
          · rintro ⟨_, _, _, ⟨rfl, rfl, rfl⟩, hblames⟩
            exact hblames

/-! ### Documents -/

theorem catalog_of_lists (h : Lists entries ds) :
    catalog entries = (checkFrom 0 ds).map Catalog.mk := by
  rw [catalog_eq, pipelines_of_lists h]
  rfl

/-- A text defines what the document in it does. -/
theorem catalogOfText_of_read {text : String} (h : read text "<string>" = .ok entries) :
    catalogOfText text = catalog entries := by
  rw [catalogOfText, h]
  rfl

/-- A file defines what the document in it does, read anew or as it is remembered. -/
theorem catalog_of_document {l : Loader} {files : FileTree} {path : String}
    (h : (l.document files path).1 = .ok entries) : (l.catalog files path).1 = catalog entries := by
  show (l.document files path).1.bind catalog = catalog entries
  rw [h]
  rfl

/-- **All forms of a pipeline define the same, and a list what its pipelines do.**  A document defines
the same in a text and in a file.  With a list of pipelines it defines just these, in their order, if each
of them is good.  Otherwise its fault tells the first faulty one. -/
theorem catalog_of_forms (entries : List (Datum × Datum)) :
    (∀ text : String, read text "<string>" = .ok entries →
      catalogOfText text = catalog entries) ∧
    (∀ (l : Loader) (files : FileTree) (path : String), (l.document files path).1 = .ok entries →
      (l.catalog files path).1 = catalog entries) ∧
    (∀ d entries' : List (Datum × Datum), IsBare d → Form d entries → Form d entries' →
      catalog entries = catalog entries') ∧
    ∀ ds : List Datum, Lists entries ds →
      (∀ c, catalog entries = .ok c ↔
        List.Forall₂ (fun d p => Pipeline.check d.opened = .good p) ds c.pipelines) ∧
      ∀ f, catalog entries = .error f ↔
        ∃ index d problems, IsFirstFaulty ds index d problems ∧ Blames index d problems f := by
  refine ⟨fun _ => catalogOfText_of_read, fun _ _ _ => catalog_of_document,
    fun d entries' hd h h' => ?_, fun ds h => ⟨fun c => ?_, fun f => ?_⟩⟩
  · rw [catalog_eq_of_form hd h, catalog_eq_of_form hd h']
  · rw [catalog_of_lists h, ← checkFrom_eq_ok_iff (i := 0)]
    cases checkFrom 0 ds <;> cases c <;> simp [Except.map]
  · have hblames : checkFrom 0 ds = .error f ↔ ∃ index d problems,
        IsFirstFaulty ds index d problems ∧ Blames index d problems f := by
      simpa only [Nat.zero_add] using checkFrom_eq_error_iff (i := 0)
    rw [catalog_of_lists h, ← hblames]
    cases checkFrom 0 ds <;> simp [Except.map]

/-- A pipeline without a right list of stages. -/
def stageless : List (Datum × Datum) := [(.text "name", .text "ci"), (.text "stages", .text "none")]

theorem isBare_stageless : IsBare stageless := ⟨⟨_, rfl⟩, rfl, rfl, rfl⟩

theorem check_stageless :
    Pipeline.check (.dict stageless) = .bad [⟨[.key "stages"], .notSequence⟩] := rfl

/-- The text of a document. -/
def nameOnly : String := "name: ci\n"

theorem exists_entries_nameOnly : ∃ entries, read nameOnly "<string>" = .ok entries := by
  have hok : (read nameOnly "<string>").isOk = true := by decide +kernel
  cases h : read nameOnly "<string>" with
  | ok entries => exact ⟨entries, rfl⟩
  | error f => simp [h, Except.isOk, Except.toBool] at hok

theorem blames_stageless : Blames 1 (.dict stageless) [⟨[.key "stages"], .notSequence⟩]
    (fault ("Invalid pipeline definition at index " ++ toString 1 ++ (" ('" ++ "ci" ++ "')"))
      (some [⟨[.key "stages"], .notSequence⟩])) := by
  have hname : (Datum.dict stageless).field? "name" = some (.text "ci") := rfl
  have hblames : Blames 1 (.dict stageless) [⟨[.key "stages"], .notSequence⟩] _ :=
    .named hname (by decide) (by decide)
  exact hblames

/-- A faulty pipeline, alone with a configuration and behind a good one. -/
theorem catalog_of_forms_stageless :
    (∃ entries, read nameOnly "<string>" = .ok entries ∧
      catalogOfText nameOnly = catalog entries) ∧
    IsBare stageless ∧
    catalog [(.text "pipelines", .list [.dict stageless])] =
      catalog [(.text "name", .text "ci"), (.text "config", .null), (.text "stages", .text "none")] ∧
    catalog [(.text "pipelines", .list [.object [("name", .text "a")], .dict stageless])] =
      .error (fault ("Invalid pipeline definition at index " ++ toString 1 ++ (" ('" ++ "ci" ++ "')"))
        (some [⟨[.key "stages"], .notSequence⟩])) := by
  obtain ⟨entries, hread⟩ := exists_entries_nameOnly
  obtain ⟨htext, -⟩ := catalog_of_forms entries
  obtain ⟨-, -, hforms, -⟩ := catalog_of_forms [(.text "pipelines", .list [.dict stageless])]
  obtain ⟨-, -, -, hlists⟩ := catalog_of_forms
    [(.text "pipelines", .list [.object [("name", .text "a")], .dict stageless])]
  refine ⟨⟨entries, hread, htext nameOnly hread⟩, isBare_stageless,
    hforms stageless _ isBare_stageless (.listed rfl rfl rfl) ?_, ?_⟩
  · exact Form.configured .null (show [(.text "name", .text "ci")] ++ [_] = stageless from rfl)
  · refine ((hlists [.object [("name", .text "a")], .dict stageless] ⟨_, rfl, rfl⟩).2 _).2
      ⟨1, _, _, ⟨rfl, check_stageless, fun j hj e he => ?_⟩, blames_stageless⟩
    obtain rfl : j = 0 := Nat.lt_one_iff.1 hj
    obtain rfl := Option.some.inj he
    exact ⟨⟨"a", [], [], []⟩, rfl⟩

/-- A pipeline whose name is a number with too many digits. -/
def numbered : Datum := .object [("name", .int (hugeBound + 1))]

theorem check_numbered : Pipeline.check numbered = .bad [⟨[.key "name"], .notText⟩] := rfl

/-- Not every faulty pipeline is told by its problems. -/
theorem exists_list_not_blamed :
    ¬ ∀ (entries : List (Datum × Datum)) (ds : List Datum), Lists entries ds →
      ∀ f, catalog entries = .error f →
        ∃ index d problems, IsFirstFaulty ds index d problems ∧
          f.kind = .definition (some problems) := by
  intro h
  have htruthy : (Datum.int (hugeBound + 1)).truthy = true := by
    rw [truthy, bne_iff_ne]
    omega
  have hhidden : (Datum.int (hugeBound + 1)).isShowable = false := by
    rw [isShowable, isShowableIn, decide_eq_false_iff_not]
    omega
  have hlists : Lists [(.text "pipelines", .list [numbered])] [numbered] := ⟨_, rfl, rfl⟩
  have hfirst : IsFirstFaulty [numbered] 0 numbered [⟨[.key "name"], .notText⟩] :=
    ⟨rfl, check_numbered, fun j hj => absurd hj (Nat.not_lt_zero j)⟩
  have hfails : checkFrom 0 [numbered] = .error (.value unshowableText) :=
    checkFrom_eq_error_iff.2 ⟨0, _, _, hfirst, .unshowable rfl htruthy hhidden⟩
  obtain ⟨_, _, _, -, hkind⟩ := h _ _ hlists (.value unshowableText)
    (by rw [catalog_of_lists hlists, hfails]; rfl)
  cases hkind

end Document

end Conveyor
