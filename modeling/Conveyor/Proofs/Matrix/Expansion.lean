/-
**The choices of a matrix by their numbers, and the instances of a job one by one.**

The choices of a matrix are numbered from zero on.  A number has one digit for each axis, and the base
of the digit is the number of values that the axis has; the last axis has the lowest digit.  The digits
tell which values the choice of that number has.

A job can be expanded when each of its axes has a value, there are not more choices than the cap
allows, and no two choices have the same identity.  Its instances are then those of its choices in
order, numbered through from the index that is given.  The fault of a cap tells two numbers, and when
one of them has too many digits, writing it fails with another fault.

Main definitions:

* `Conveyor.Job.choiceCount` — how many choices axes have;
* `Conveyor.Job.choiceAt` — the choice of a number, value by value;
* `Conveyor.Job.identityAt` — the identity that it gives;
* `Conveyor.Job.Expands` — a job that can be expanded;
* `Conveyor.Job.IsUntold` — a job whose cap is exceeded, and the fault of that cannot be told;
* `Conveyor.Job.instanceOf` — the instance of a choice;
* `Conveyor.Job.instances` — the instances of all choices, numbered from an index on.

Main results:

* `Conveyor.Job.choiceAt_mod` — digits do not depend on those above them;
* `Conveyor.Job.choicesOf_eq_map` — **the choices in order are those of the numbers in order**;
* `Conveyor.Job.identities_eq_map` — and so are their identities;
* `Conveyor.Job.bindingsOf_eq_zip` — the values of a choice stand under the names of their axes, if
  these are different;
* `Conveyor.Job.instancesFrom_eq_ok_iff` — the instances of choices with different identities;
* `Conveyor.Job.expand_eq_ok_iff` — the instances of a job that can be expanded;
* `Conveyor.Job.exists_isConfig_expand_iff` — the jobs that fail because of their configuration;
* `Conveyor.Job.expand_in_order` — **which jobs can be expanded, and to which instances**;
* `Conveyor.Job.exists_oversize_not_isConfig` — a size that cannot be told.
-/

import Conveyor.Matrix
import Conveyor.Proofs.Failing
import Conveyor.Proofs.Matrix
import Conveyor.Proofs.Selection

set_option autoImplicit false

namespace Conveyor

/-- Parts of the same length in a row: the quotient of a place tells the part, and the remainder the
place in it. -/
theorem getElem?_flatMap_of_forall {α β : Type} {f : α → List β} {n : Nat} (hn : 0 < n)
    {xs : List α} (h : ∀ x ∈ xs, (f x).length = n) (k : Nat) :
    (xs.flatMap f)[k]? = xs[k / n]?.bind fun x => (f x)[k % n]? := by
  induction xs generalizing k with
  | nil => rfl
  | cons x xs ih =>
      have hx : (f x).length = n := h x (List.mem_cons_self ..)
      have hxs := ih fun y hy => h y (List.mem_cons_of_mem _ hy)
      rw [List.flatMap_cons]
      rcases Nat.lt_or_ge k n with hk | hk
      · rw [List.getElem?_append_left (by omega), Nat.div_eq_of_lt hk, Nat.mod_eq_of_lt hk]
        rfl
      · rw [List.getElem?_append_right (by omega), hx, hxs, Nat.div_eq_sub_div hn hk,
          Nat.mod_eq_sub_mod hk]
        rfl

namespace Job

/-! ### Digits -/

/-- How many choices axes have. -/
def choiceCount (axes : List Axis) : Nat := product (axes.map fun a => a.values.length)

/-- The choice of a number.  The digit of an axis is what is left of the number when the axes after it
have been gone through, in the base of its own size. -/
def choiceAt : List Axis → Nat → List String
  | [], _ => []
  | a :: rest, n => a.values.getD (n / choiceCount rest % a.values.length) "" :: choiceAt rest n

theorem choiceCount_cons (a : Axis) (axes : List Axis) :
    choiceCount (a :: axes) = a.values.length * choiceCount axes := rfl

@[simp] theorem length_choiceAt (axes : List Axis) (n : Nat) :
    (choiceAt axes n).length = axes.length := by
  induction axes with
  | nil => rfl
  | cons a axes ih => rw [choiceAt, List.length_cons, List.length_cons, ih]

/-- The digits of axes do not depend on what lies above them. -/
theorem choiceAt_mod (axes : List Axis) (m n : Nat) :
    choiceAt axes (n % (m * choiceCount axes)) = choiceAt axes n := by
  induction axes generalizing m with
  | nil => rfl
  | cons a axes ih =>
      have hassoc : m * choiceCount (a :: axes) = m * a.values.length * choiceCount axes := by
        rw [choiceCount_cons, Nat.mul_assoc]
      rw [choiceAt, choiceAt, hassoc, ih, Nat.mod_mul_left_div_self, Nat.mod_mul_left_mod]

theorem choiceAt_mod_self (axes : List Axis) (n : Nat) :
    choiceAt axes (n % choiceCount axes) = choiceAt axes n := by
  have h := choiceAt_mod axes 1 n
  rwa [Nat.one_mul] at h

/-! ### Choices in order -/

theorem length_choicesOf_eq (axes : List Axis) : (choicesOf axes).length = choiceCount axes :=
  length_choicesOf axes

theorem getElem?_choicesOf {axes : List Axis} {n : Nat} (h : n < choiceCount axes) :
    (choicesOf axes)[n]? = some (choiceAt axes n) := by
  induction axes generalizing n with
  | nil =>
      obtain rfl := Nat.lt_one_iff.1 h
      rfl
  | cons a axes ih =>
      rw [choiceCount_cons] at h
      have hpos : 0 < choiceCount axes :=
        Nat.pos_of_ne_zero fun hzero => by simp [hzero] at h
      have hdigit : n / choiceCount axes < a.values.length := (Nat.div_lt_iff_lt_mul hpos).2 h
      -- the first digit tells the block of a value, the others the place in the block
      have hrest := ih (Nat.mod_lt n hpos)
      have hlength : ∀ v ∈ a.values, ((choicesOf axes).map (v :: ·)).length = choiceCount axes :=
        fun v _ => (List.length_map ..).trans (length_choicesOf_eq axes)
      rw [choicesOf, getElem?_flatMap_of_forall hpos hlength, List.getElem?_eq_getElem hdigit,
        Option.bind_some, List.getElem?_map, hrest, choiceAt_mod_self, Option.map_some, choiceAt,
        Nat.mod_eq_of_lt hdigit, List.getD_eq_getElem?_getD, List.getElem?_eq_getElem hdigit,
        Option.getD_some]

/-- The choices in order are those of the numbers in order. -/
theorem choicesOf_eq_map (axes : List Axis) :
    choicesOf axes = (List.range (choiceCount axes)).map (choiceAt axes) := by
  refine List.ext_getElem? fun n => ?_
  rw [List.getElem?_map]
  rcases Nat.lt_or_ge n (choiceCount axes) with h | h
  · rw [getElem?_choicesOf h, List.getElem?_range h, Option.map_some]
  · rw [List.getElem?_eq_none (by rw [length_choicesOf_eq]; exact h),
      List.getElem?_eq_none (by rw [List.length_range]; exact h), Option.map_none]

example : choiceAt [⟨"os", ["linux", "macos"]⟩, ⟨"py", ["3.11", "3.12", "3.13"]⟩] 4 =
    ["macos", "3.12"] := rfl

/-! ### Identities -/

/-- The identities of the choices, in order. -/
def identities (j : Job) : List String := j.choices.map (instanceIdentity j.name)

/-- The identity of the choice of a number: the job and the values, joined by dashes. -/
def identityAt (j : Job) (n : Nat) : String := "-".intercalate (j.name :: choiceAt j.matrix n)

theorem identities_eq_map (j : Job) :
    j.identities = (List.range j.matrixSize).map j.identityAt := by
  rw [identities, choices, choicesOf_eq_map, List.map_map]
  rfl

theorem mem_identities_iff {j : Job} {identity : String} :
    identity ∈ j.identities ↔ ∃ n < j.matrixSize, j.identityAt n = identity := by
  simp only [identities_eq_map, List.mem_map, List.mem_range]

/-- Identities are different when no two numbers have the same one. -/
theorem nodup_identities_iff {j : Job} :
    j.identities.Nodup ↔ ∀ m n, m < n → n < j.matrixSize → j.identityAt m ≠ j.identityAt n := by
  rw [identities_eq_map, List.nodup_iff_pairwise_ne, List.pairwise_map, List.pairwise_iff_getElem]
  simp only [List.length_range, List.getElem_range]
  constructor
  · intro h m n hmn hn
    exact h m n (Nat.lt_trans hmn hn) hn hmn
  · intro h m n _ hn hmn
    exact h m n hmn hn

end Job

/-! ### Values under names -/

theorem bindName_of_not_mem {bs : List (String × String)} {name : String}
    (h : name ∉ bs.map Prod.fst) (value : String) :
    bindName bs name value = bs ++ [(name, value)] := by
  induction bs with
  | nil => rfl
  | cons b bs ih =>
      rw [List.map_cons, List.mem_cons, not_or] at h
      rw [bindName, if_neg (Ne.symm h.1), ih h.2, List.cons_append]

theorem foldl_bindName {pairs bs : List (String × String)}
    (h : ((bs ++ pairs).map Prod.fst).Nodup) :
    pairs.foldl (fun bs b => bindName bs b.1 b.2) bs = bs ++ pairs := by
  induction pairs generalizing bs with
  | nil => rw [List.foldl_nil, List.append_nil]
  | cons p pairs ih =>
      have hsplit : bs ++ p :: pairs = bs ++ [p] ++ pairs := by simp
      have hnew : p.1 ∉ bs.map Prod.fst := by
        rw [List.map_append, List.nodup_append] at h
        intro hmem
        exact h.2.2 _ hmem _ (List.mem_map_of_mem (List.mem_cons_self ..)) rfl
      rw [List.foldl_cons, bindName_of_not_mem hnew, ih (hsplit ▸ h), hsplit]

namespace Job

variable {j : Job} {stageName : String} {cap start : Int}

/-- The values of a choice stand under the names of their axes, if these are different. -/
theorem bindingsOf_eq_zip {values : List String} (h : j.axisNames.Nodup)
    (hlength : values.length = j.matrix.length) :
    j.bindingsOf values = j.axisNames.zip values := by
  have hle : j.axisNames.length ≤ values.length :=
    Nat.le_of_eq ((List.length_map ..).trans hlength.symm)
  have hnames : ((j.axisNames.zip values).map Prod.fst).Nodup := by rwa [List.map_fst_zip hle]
  rw [bindingsOf, foldl_bindName (by rwa [List.nil_append]), List.nil_append]

/-! ### The instances of choices -/

/-- The instance of a choice. -/
def instanceOf (j : Job) (stageName : String) (index : Int) (values : List String) : JobInstance :=
  { identity := instanceIdentity j.name values, stageName, job := j,
    bindings := j.bindingsOf values, index }

/-- The instances of choices, numbered from an index on. -/
def instancesOf (j : Job) (stageName : String) (start : Int) (choices : List (List String)) :
    List JobInstance :=
  choices.mapIdx fun k values => j.instanceOf stageName (start + k) values

/-- The instances of all choices of a job, numbered from an index on. -/
def instances (j : Job) (stageName : String) (start : Int) : List JobInstance :=
  j.instancesOf stageName start j.choices

theorem instancesOf_cons (j : Job) (stageName : String) (start : Int) (values : List String)
    (rest : List (List String)) :
    j.instancesOf stageName start (values :: rest) =
      j.instanceOf stageName start values :: j.instancesOf stageName (start + 1) rest := by
  have hindex : ∀ k : Nat, start + ((k + 1 : Nat) : Int) = start + 1 + k := fun k => by omega
  simp only [instancesOf, List.mapIdx_cons, hindex]
  rw [show start + ((0 : Nat) : Int) = start by omega]

@[simp] theorem length_instances (j : Job) (stageName : String) (start : Int) :
    (j.instances stageName start).length = j.matrixSize := by
  rw [instances, instancesOf, List.length_mapIdx, length_choices]

theorem getElem?_instances {n : Nat} (h : n < j.matrixSize) :
    (j.instances stageName start)[n]? =
      some (j.instanceOf stageName (start + n) (choiceAt j.matrix n)) := by
  rw [instances, instancesOf, List.getElem?_mapIdx, choices, getElem?_choicesOf h, Option.map_some]

theorem job_of_mem_instances {i : JobInstance} (h : i ∈ j.instances stageName start) : i.job = j := by
  obtain ⟨k, hk, rfl⟩ := List.mem_mapIdx.1 h
  rfl

theorem map_identity_instances (j : Job) (stageName : String) (start : Int) :
    (j.instances stageName start).map JobInstance.identity = j.identities := by
  refine List.ext_getElem? fun n => ?_
  simp only [instances, instancesOf, identities, List.getElem?_map, List.getElem?_mapIdx,
    Option.map_map]
  rfl

/-- The instances of choices with different identities, none of which was seen before. -/
theorem instancesFrom_eq_ok_iff {seen : List (String × List String)} {choices : List (List String)}
    {made : List JobInstance} :
    j.instancesFrom stageName start seen choices = .ok made ↔
      (∀ values ∈ choices, instanceIdentity j.name values ∉ seen.map Prod.fst) ∧
      (choices.map (instanceIdentity j.name)).Nodup ∧
      made = j.instancesOf stageName start choices := by
  induction choices generalizing start seen made with
  | nil =>
      rw [instancesFrom]
      simp [instancesOf, eq_comm]
  | cons values rest ih =>
      rw [instancesFrom]
      split
      · -- the identity was seen
        rename_i first hfound
        have hmem : instanceIdentity j.name values ∈ seen.map Prod.fst :=
          List.mem_map.2 ⟨_, List.mem_of_find?_eq_some hfound, by simpa using List.find?_some hfound⟩
        constructor
        · intro h
          cases h
        · rintro ⟨hnew, -, -⟩
          exact absurd hmem (hnew values (List.mem_cons_self ..))
      · rename_i hnone
        have hnew : instanceIdentity j.name values ∉ seen.map Prod.fst := by
          intro hmem
          obtain ⟨e, he, hidentity⟩ := List.mem_map.1 hmem
          exact List.find?_eq_none.1 hnone e he (by simpa using hidentity)
        -- for the choices after it, the identity counts as seen
        have hseen : (∀ other ∈ rest, instanceIdentity j.name other ∉
              (seen ++ [(instanceIdentity j.name values, values)]).map Prod.fst) ↔
            (∀ other ∈ rest, instanceIdentity j.name other ∉ seen.map Prod.fst) ∧
              instanceIdentity j.name values ∉ rest.map (instanceIdentity j.name) := by
          simp only [List.map_append, List.map_cons, List.map_nil, List.mem_append,
            List.mem_singleton, not_or, @List.mem_map _ _ (instanceIdentity j.name values),
            not_exists, not_and]
          exact ⟨fun h => ⟨fun o ho => (h o ho).1, fun o ho => (h o ho).2⟩,
            fun h o ho => ⟨h.1 o ho, h.2 o ho⟩⟩
        rw [map_eq_ok_iff, List.forall_mem_cons, List.map_cons, List.nodup_cons, instancesOf_cons]
        constructor
        · rintro ⟨tail, htail, rfl⟩
          obtain ⟨hall, hdistinct, rfl⟩ := ih.1 htail
          obtain ⟨hbefore, hself⟩ := hseen.1 hall
          exact ⟨⟨hnew, hbefore⟩, ⟨hself, hdistinct⟩, rfl⟩
        · rintro ⟨⟨-, hbefore⟩, ⟨hself, hdistinct⟩, rfl⟩
          exact ⟨_, ih.2 ⟨hseen.2 ⟨hbefore, hself⟩, hdistinct, rfl⟩, rfl⟩

/-! ### Expansion -/

/-- A job that can be expanded: each axis has a value, the cap allows all choices, and no two of them
have the same identity. -/
structure Expands (j : Job) (cap : Int) : Prop where
  values : ∀ a ∈ j.matrix, a.values ≠ []
  within : j.matrixSize ≤ cap
  distinct : j.identities.Nodup

theorem emptyAxes_eq_nil_iff : (j.matrix.filter fun a => a.values.isEmpty).map Axis.name = [] ↔
    ∀ a ∈ j.matrix, a.values ≠ [] := by
  simp [List.filter_eq_nil_iff]

/-- An axis without values is told before anything else is looked at. -/
theorem expand_of_empty_axis (h : ∃ a ∈ j.matrix, a.values = []) (stageName : String)
    (cap start : Int) : ∃ f, f.IsConfig ∧ j.expand stageName cap start = .error f := by
  have hsome : ¬ (j.matrix.filter fun a => a.values.isEmpty).map Axis.name = [] := by
    rw [emptyAxes_eq_nil_iff]
    rintro hall
    obtain ⟨a, ha, hempty⟩ := h
    exact hall a ha hempty
  refine ⟨_, ?_, by rw [expand, if_pos (by simpa using hsome)]; rfl⟩
  exact Fault.isConfig_configuration _ _

/-- Otherwise the cap is looked at. -/
theorem expand_of_values (h : ∀ a ∈ j.matrix, a.values ≠ []) : j.expand stageName cap start =
    j.checkCap cap stageName >>= fun _ => j.instancesFrom stageName start [] j.choices := by
  rw [expand, if_neg (by simpa using emptyAxes_eq_nil_iff.2 h)]

/-- The instances of a job that can be expanded. -/
theorem expand_eq_ok_iff {made : List JobInstance} :
    j.expand stageName cap start = .ok made ↔
      j.Expands cap ∧ made = j.instances stageName start := by
  have hchoices : j.instancesFrom stageName start [] j.choices = .ok made ↔
      j.identities.Nodup ∧ made = j.instances stageName start := by
    rw [instancesFrom_eq_ok_iff]
    simp [identities, instances]
  by_cases hvalues : ∀ a ∈ j.matrix, a.values ≠ []
  · rw [expand_of_values hvalues, bind_eq_ok_iff]
    constructor
    · rintro ⟨⟨⟩, hcap, hmade⟩
      obtain ⟨hdistinct, hmade⟩ := hchoices.1 hmade
      exact ⟨⟨hvalues, checkCap_eq_ok_iff.1 hcap, hdistinct⟩, hmade⟩
    · rintro ⟨h, hmade⟩
      exact ⟨(), checkCap_eq_ok_iff.2 h.within, hchoices.2 ⟨h.distinct, hmade⟩⟩
  · obtain ⟨f, -, hf⟩ := expand_of_empty_axis (by simpa using hvalues) stageName cap start
    rw [hf]
    exact ⟨nofun, fun h => absurd h.1.values hvalues⟩

theorem exists_expand_iff (stageName : String) (start : Int) :
    (∃ made, j.expand stageName cap start = .ok made) ↔ j.Expands cap := by
  simp only [expand_eq_ok_iff, exists_and_left, exists_eq, and_true]

/-- A job whose cap is exceeded, and the fault of that cannot be told. -/
structure IsUntold (j : Job) (cap : Int) : Prop where
  values : ∀ a ∈ j.matrix, a.values ≠ []
  exceeds : cap < j.matrixSize
  unwritten : ¬ j.CapIsWritten cap

theorem IsUntold.expand (h : j.IsUntold cap) (stageName : String) (start : Int) :
    j.expand stageName cap start = .error (.value Datum.unshowableText) := by
  rw [expand_of_values h.values, checkCap_of_lt h.exceeds, capFault_of_not_written h.unwritten]
  rfl

/-- Any other job fails because of its configuration. -/
theorem isConfig_of_expand {f : Fault} (h : ¬ j.IsUntold cap)
    (hf : j.expand stageName cap start = .error f) : f.IsConfig := by
  by_cases hvalues : ∀ a ∈ j.matrix, a.values ≠ []
  · refine failsWith_expand (fun _ => id) (failsWith_checkCap_iff.2 fun hcap => ?_) start f hf
    exact isConfig_capFault_iff.2 (Classical.byContradiction fun hnot => h ⟨hvalues, hcap, hnot⟩)
  · obtain ⟨g, hg, hg'⟩ := expand_of_empty_axis (by simpa using hvalues) stageName cap start
    exact Except.error.inj (hg'.symm.trans hf) ▸ hg

theorem exists_isConfig_expand_iff (stageName : String) (start : Int) :
    (∃ f, f.IsConfig ∧ j.expand stageName cap start = .error f) ↔
      ¬ j.Expands cap ∧ ¬ j.IsUntold cap := by
  constructor
  · rintro ⟨f, hconfig, hf⟩
    refine ⟨fun h => ?_, fun h => ?_⟩
    · exact exists_error_iff.1 ⟨f, hf⟩ ((exists_expand_iff ..).2 h)
    · obtain rfl := Except.error.inj ((h.expand stageName start).symm.trans hf)
      exact Fault.not_isConfig_value _ hconfig
  · rintro ⟨hexpands, huntold⟩
    obtain ⟨f, hf⟩ := exists_error_iff.2 (mt (exists_expand_iff stageName start).1 hexpands)
    exact ⟨f, isConfig_of_expand huntold hf, hf⟩

theorem not_expands_iff :
    ¬ j.Expands cap ↔ (∃ a ∈ j.matrix, a.values = []) ∨ cap < j.matrixSize ∨
      ∃ m n, m < n ∧ n < j.matrixSize ∧ j.identityAt m = j.identityAt n := by
  constructor
  · intro h
    refine Classical.byContradiction fun hnone => ?_
    simp only [not_or, not_exists, not_and, Int.not_lt] at hnone
    obtain ⟨hvalues, hwithin, hdistinct⟩ := hnone
    exact h ⟨hvalues, hwithin, nodup_identities_iff.2 hdistinct⟩
  · rintro (⟨a, ha, hempty⟩ | hcap | ⟨m, n, hmn, hn, hsame⟩) h
    · exact h.values a ha hempty
    · exact Int.not_le.2 hcap h.within
    · exact nodup_identities_iff.1 h.distinct m n hmn hn hsame

/-- **Which jobs can be expanded, and to which instances**: a job fails just when an axis is empty, the
cap is exceeded, or two numbers of choices give the same identity.  It fails because of its
configuration, unless the size or the cap has too many digits to be told.  Otherwise its instances are
those of the numbers in order, none of them started. -/
theorem expand_in_order (j : Job) (stageName : String) (cap start : Int) :
    ((∃ f, f.IsConfig ∧ j.expand stageName cap start = .error f) ↔
      ((∃ a ∈ j.matrix, a.values = []) ∨ cap < j.matrixSize ∨
        ∃ m n, m < n ∧ n < j.matrixSize ∧ j.identityAt m = j.identityAt n) ∧ ¬ j.IsUntold cap) ∧
    (j.IsUntold cap → j.expand stageName cap start = .error (.value Datum.unshowableText)) ∧
    (¬ ((∃ a ∈ j.matrix, a.values = []) ∨ cap < j.matrixSize ∨
        ∃ m n, m < n ∧ n < j.matrixSize ∧ j.identityAt m = j.identityAt n) →
      ∃ made, j.expand stageName cap start = .ok made ∧ made.length = j.matrixSize ∧
        (made.map JobInstance.identity).Nodup ∧
        ∀ (n : Nat) (i : JobInstance), made[n]? = some i →
          i.status = .pending ∧ i.job = j ∧ i.stageName = stageName ∧ i.index = start + n ∧
          i.identity = "-".intercalate (j.name :: choiceAt j.matrix n) ∧
          (j.axisNames.Nodup → i.bindings = j.axisNames.zip (choiceAt j.matrix n))) := by
  rw [exists_isConfig_expand_iff, ← not_expands_iff]
  refine ⟨Iff.rfl, fun h => h.expand stageName start, fun h => ?_⟩
  have hexpands : j.Expands cap := Classical.not_not.1 h
  refine ⟨_, expand_eq_ok_iff.2 ⟨hexpands, rfl⟩, length_instances .., ?_, ?_⟩
  · rw [map_identity_instances]
    exact hexpands.distinct
  · intro n i hi
    have hn : n < j.matrixSize := by
      rw [← length_instances j stageName start]
      exact (List.getElem?_eq_some_iff.1 hi).1
    obtain rfl := Option.some.inj ((getElem?_instances hn).symm.trans hi)
    exact ⟨rfl, rfl, rfl, rfl, rfl, fun hnames => bindingsOf_eq_zip hnames (length_choiceAt ..)⟩

/-- A job for two systems and three versions. -/
def perVersion : Job :=
  { name := "test", matrix := [⟨"os", ["linux", "macos"]⟩, ⟨"py", ["3.11", "3.12", "3.13"]⟩] }

/-- It has six instances, which a cap of six allows and a cap of five does not. -/
theorem expand_in_order_perVersion :
    (∃ made, perVersion.expand "ci" 6 10 = .ok made ∧ made.length = 6 ∧
      ∀ i, made[4]? = some i → i.status = .pending ∧ i.index = 14 ∧ i.identity = "test-macos-3.12" ∧
        i.bindings = [("os", "macos"), ("py", "3.12")]) ∧
    ∃ f, f.IsConfig ∧ perVersion.expand "ci" 5 10 = .error f := by
  constructor
  · have hfine : ¬ ((∃ a ∈ perVersion.matrix, a.values = []) ∨ (6 : Int) < perVersion.matrixSize ∨
        ∃ m n, m < n ∧ n < perVersion.matrixSize ∧
          perVersion.identityAt m = perVersion.identityAt n) := by
      rw [← not_expands_iff, not_not]
      exact ⟨by decide, by decide, by decide⟩
    obtain ⟨made, hmade, hlength, -, hall⟩ := (expand_in_order perVersion "ci" 6 10).2.2 hfine
    refine ⟨made, hmade, hlength, fun i hi => ?_⟩
    obtain ⟨hstatus, -, -, hindex, hidentity, hbindings⟩ := hall 4 i hi
    exact ⟨hstatus, hindex, hidentity, hbindings (by decide)⟩
  · have hwritten : perVersion.CapIsWritten 5 := by
      decide +kernel
    exact (expand_in_order perVersion "ci" 5 10).1.2
      ⟨.inr (.inl (by decide)), fun h => h.unwritten hwritten⟩

/-- A job with so many axes of ten values. -/
def tenfold (count : Nat) : Job :=
  { name := "test", matrix := (List.range count).map fun n => ⟨toString n, List.replicate 10 "x"⟩ }

theorem product_replicate (n m : Nat) : product (List.replicate n m) = Nat.pow m n := by
  induction n with
  | zero => rfl
  | succ n ih => rw [List.replicate_succ, product, ih, Nat.mul_comm]; rfl

/-- With as many axes as a number may have digits, there are too many choices to be told. -/
theorem matrixSize_tenfold : (tenfold Text.maxDigits).matrixSize = Datum.hugeBound := by
  delta Datum.hugeBound
  generalize Text.maxDigits = count
  have hsizes : ((tenfold count).matrix.map fun a => a.values.length) = List.replicate count 10 := by
    simp [tenfold, List.eq_replicate_iff]
  rw [matrixSize, hsizes]
  exact product_replicate count 10

theorem isUntold_tenfold {cap : Int} (h : cap < Datum.hugeBound) :
    (tenfold Text.maxDigits).IsUntold cap where
  values a ha := by
    simp only [tenfold, List.mem_map] at ha
    obtain ⟨n, -, rfl⟩ := ha
    exact List.cons_ne_nil _ _
  exceeds := by rwa [matrixSize_tenfold]
  unwritten hwritten := Nat.lt_irrefl _ (matrixSize_tenfold ▸ hwritten.1)

/-- The cap of this job is exceeded, and that is no fault of its configuration. -/
theorem exists_oversize_not_isConfig :
    ∃ j : Job, (256 : Int) < j.matrixSize ∧
      ¬ ∃ f, f.IsConfig ∧ j.expand "" 256 0 = .error f := by
  have huntold := isUntold_tenfold (show (256 : Int) < Datum.hugeBound by decide +kernel)
  exact ⟨_, huntold.exceeds,
    fun hconfig => ((exists_isConfig_expand_iff "" 0).1 hconfig).2 huntold⟩

end Job

end Conveyor
