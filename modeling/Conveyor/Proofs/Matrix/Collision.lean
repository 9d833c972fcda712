/-
**Identities that two jobs of a stage want.**

The jobs of a stage take their identities one after the other.  An identity that was taken before is
noted, with the job that took it first; one note is enough for the stage to be refused.  As identities
are joined by dashes, dashes in names and values are the only cause of this: without them an identity
tells the job and the values.

Main definitions:

* `Conveyor.Stage.takings` — the identities of a stage in the order in which they are taken;
* `Conveyor.clashes` — those that were taken before;
* `Conveyor.Stage.instancesOf` — the instances of jobs, numbered through;
* `Conveyor.Stage.SharesIdentity` — two jobs want the same identity;
* `Conveyor.Stage.Expands` — a stage that can be expanded;
* `Conveyor.Stage.Tallied` — the instances that are kept and the notes that are made.

Main results:

* `Conveyor.clashes_eq_nil_iff` — there are no clashes when all identities are different;
* `Conveyor.Stage.tallied_expandFrom` — notes are made of just the clashes;
* `Conveyor.Stage.expand_of_expands` — what becomes of a stage whose jobs can be expanded;
* `Conveyor.Stage.expand_eq_ok_iff` — the stages that can be expanded;
* `Conveyor.instanceIdentity_injective` — without dashes, an identity tells the job and the values;
* `Conveyor.Stage.expand_collisions` — **which stages are refused, and with what notes**.
-/

import Mathlib.Data.List.Induction
import Mathlib.Data.List.Nodup
import Conveyor.Proofs.Matrix.Expansion

set_option autoImplicit false

namespace Conveyor

/-! ### Clashes -/

/-- An identity that was taken before: the job that took it first, and the one that wants it now. -/
structure Clash where
  identity : String
  owner : String
  job : String
  deriving DecidableEq, Repr

/-- The clash of a taking with those before it. -/
def clashOf (before : List (String × String)) (t : String × String) : Option Clash :=
  (before.find? (·.1 == t.1)).map fun first => ⟨t.1, first.2, t.2⟩

/-- The clashes among identities that are taken in order, each by a job: one for every place at which
an identity stands that stands further in front, too. -/
def clashes (takings : List (String × String)) : List Clash :=
  (List.range takings.length).filterMap fun n => takings[n]?.bind (clashOf (takings.take n))

theorem clashes_append_singleton (ts : List (String × String)) (t : String × String) :
    clashes (ts ++ [t]) = clashes ts ++ (clashOf ts t).toList := by
  -- What stands further in front than the new taking does not see it.
  have hfront : ∀ n ∈ List.range ts.length,
      (ts ++ [t])[n]?.bind (clashOf ((ts ++ [t]).take n)) = ts[n]?.bind (clashOf (ts.take n)) := by
    intro n hn
    have hlt : n < ts.length := List.mem_range.1 hn
    rw [List.getElem?_append_left hlt, List.take_append_of_le_length (Nat.le_of_lt hlt)]
  have hlast : (ts ++ [t])[ts.length]?.bind (clashOf ((ts ++ [t]).take ts.length)) =
      clashOf ts t := by
    rw [List.getElem?_concat_length, Option.bind_some, List.take_left]
  rw [clashes, List.length_append, List.length_singleton, List.range_succ, List.filterMap_append,
    List.filterMap_congr hfront, List.filterMap_cons, hlast, clashes]
  cases clashOf ts t <;> rfl

theorem clashOf_eq_none_iff {before : List (String × String)} {t : String × String} :
    clashOf before t = none ↔ t.1 ∉ before.map Prod.fst := by
  rw [clashOf, Option.map_eq_none_iff, List.find?_eq_none]
  simp only [beq_iff_eq, List.mem_map, not_exists, not_and]

/-- There are no clashes when all identities are different. -/
theorem clashes_eq_nil_iff {ts : List (String × String)} :
    clashes ts = [] ↔ (ts.map Prod.fst).Nodup := by
  induction ts using List.reverseRecOn with
  | nil => simp [clashes]
  | append_singleton ts t ih =>
      rw [clashes_append_singleton, List.append_eq_nil_iff, ih, Option.toList_eq_nil_iff,
        clashOf_eq_none_iff, List.map_append, List.map_singleton, List.nodup_append_comm,
        List.singleton_append, List.nodup_cons, and_comm]

namespace Stage

variable {s : Stage} {cap start : Int} {jobs : List Job} {kept made : List JobInstance}
  {notes : List String} {taken : List (String × String)}

/-- The identities of jobs in the order in which they are taken, each with the name of its job. -/
def takingsOf (jobs : List Job) : List (String × String) :=
  jobs.flatMap fun j => j.identities.map fun identity => (identity, j.name)

/-- The identities of a stage in the order in which they are taken. -/
def takings (s : Stage) : List (String × String) := takingsOf s.jobs

/-- The instances of jobs, numbered through from an index on. -/
def instancesOf (stageName : String) : Int → List Job → List JobInstance
  | _, [] => []
  | start, j :: rest =>
    j.instances stageName start ++ instancesOf stageName (start + j.matrixSize) rest

/-- How a stage notes a clash. -/
def clashText (s : Stage) (c : Clash) : String :=
  "stage '" ++ s.name ++ "': identity '" ++ c.identity ++ "' produced by jobs '" ++ c.owner
    ++ "' and '" ++ c.job ++ "'"

theorem takingsOf_cons (j : Job) (jobs : List Job) :
    takingsOf (j :: jobs) = (j.identities.map fun identity => (identity, j.name)) ++ takingsOf jobs :=
  List.flatMap_cons ..

theorem map_fst_takingsOf (jobs : List Job) :
    (takingsOf jobs).map Prod.fst = jobs.flatMap Job.identities := by
  simp [takingsOf, List.map_flatMap, Function.comp_def]

theorem map_identity_instancesOf (stageName : String) (start : Int) (jobs : List Job) :
    (instancesOf stageName start jobs).map JobInstance.identity = jobs.flatMap Job.identities := by
  induction jobs generalizing start with
  | nil => rfl
  | cons j jobs ih =>
      rw [instancesOf, List.map_append, Job.map_identity_instances, ih, List.flatMap_cons]

/-! ### Notes -/

/-- What is kept and noted when identities were taken: a note for each clash, and an instance for each
identity, of the job that took it first. -/
structure Tallied (s : Stage) (taken : List (String × String)) (kept : List JobInstance)
    (notes : List String) : Prop where
  notes : notes = (clashes taken).map s.clashText
  owners : ∀ identity, (kept.find? (·.identity == identity)).map (·.job.name) =
    (taken.find? (·.1 == identity)).map Prod.snd

theorem tallied_nil (s : Stage) : s.Tallied [] [] [] := ⟨rfl, fun _ => rfl⟩

/-- An identity that was taken is noted, and its owner stays the same. -/
theorem Tallied.clash (h : s.Tallied taken kept notes) {t : String × String} {owner : JobInstance}
    (howner : kept.find? (·.identity == t.1) = some owner) :
    s.Tallied (taken ++ [t]) kept (notes ++ [s.clashText ⟨t.1, owner.job.name, t.2⟩]) := by
  have hfirst := h.owners t.1
  rw [howner, Option.map_some] at hfirst
  obtain ⟨first, hfound, hname⟩ := Option.map_eq_some_iff.1 hfirst.symm
  constructor
  · rw [clashes_append_singleton, clashOf, hfound, List.map_append, ← h.notes, ← hname]
    rfl
  · -- the first one to take the identity is found before the new taking
    intro identity
    rw [h.owners identity, List.find?_append]
    by_cases hsame : t.1 = identity
    · rw [← hsame, hfound, Option.some_or]
    · rw [List.find?_cons_of_neg (by simpa using hsame), List.find?_nil, Option.or_none]

/-- An identity that was not taken before gets an instance. -/
theorem Tallied.keep (h : s.Tallied taken kept notes) {i : JobInstance}
    (hnone : kept.find? (·.identity == i.identity) = none) :
    s.Tallied (taken ++ [(i.identity, i.job.name)]) (kept ++ [i]) notes := by
  have hfresh : taken.find? (·.1 == i.identity) = none := by
    have hi := h.owners i.identity
    rw [hnone, Option.map_none] at hi
    exact Option.map_eq_none_iff.1 hi.symm
  constructor
  · rw [clashes_append_singleton, clashOf, hfresh, h.notes]
    simp
  · intro identity
    rw [List.find?_append, List.find?_append, Option.map_or, Option.map_or, h.owners identity]
    by_cases hsame : i.identity = identity
    · rw [List.find?_cons_of_pos (by simpa using hsame), List.find?_cons_of_pos (by simpa using hsame)]
      rfl
    · rw [List.find?_cons_of_neg (by simpa using hsame), List.find?_cons_of_neg (by simpa using hsame)]
      rfl

theorem Tallied.addInstances {jobName : String} (h : s.Tallied taken kept notes)
    (hjob : ∀ i ∈ made, i.job.name = jobName) :
    s.Tallied (taken ++ made.map fun i => (i.identity, jobName))
      (s.addInstances jobName kept notes made).1 (s.addInstances jobName kept notes made).2 := by
  induction made generalizing taken kept notes with
  | nil =>
      rw [List.map_nil, List.append_nil]
      exact h
  | cons i made ih =>
      have hi : i.job.name = jobName := hjob i (List.mem_cons_self ..)
      have hmade : ∀ k ∈ made, k.job.name = jobName := fun k hk => hjob k (List.mem_cons_of_mem _ hk)
      have hsplit : (taken ++ (i :: made).map fun i => (i.identity, jobName)) =
          taken ++ [(i.identity, jobName)] ++ made.map fun i => (i.identity, jobName) := by simp
      rw [hsplit, Stage.addInstances]
      split
      · rename_i owner howner
        exact ih (h.clash (t := (i.identity, jobName)) howner) hmade
      · rename_i hnone
        exact ih (hi ▸ h.keep hnone) hmade

/-- Notes are made of just the clashes. -/
theorem tallied_expandFrom {made : List JobInstance} {notes' : List String}
    (h : s.Tallied taken kept notes)
    (hrun : s.expandFrom cap start kept notes jobs = .ok (made, notes')) :
    s.Tallied (taken ++ takingsOf jobs) made notes' := by
  induction jobs generalizing taken kept notes with
  | nil =>
      cases hrun
      rw [show takingsOf [] = [] from rfl, List.append_nil]
      exact h
  | cons j jobs ih =>
      rw [expandFrom] at hrun
      obtain ⟨new, hnew, hrest⟩ := bind_eq_ok_iff.1 hrun
      obtain ⟨-, rfl⟩ := Job.expand_eq_ok_iff.1 hnew
      have hjob : ∀ i ∈ j.instances s.name (start + kept.length), i.job.name = j.name :=
        fun i hi => congrArg Job.name (Job.job_of_mem_instances hi)
      have htaken : (j.instances s.name (start + kept.length)).map (fun i => (i.identity, j.name)) =
          j.identities.map fun identity => (identity, j.name) := by
        rw [← Job.map_identity_instances j s.name (start + kept.length), List.map_map]
        rfl
      have hadded := h.addInstances hjob
      rw [htaken] at hadded
      rw [takingsOf_cons, ← List.append_assoc]
      exact ih hadded hrest

/-! ### Stages whose jobs can be expanded -/

theorem exists_expandFrom_iff (s : Stage) (start : Int) (kept : List JobInstance)
    (notes : List String) :
    (∃ r, s.expandFrom cap start kept notes jobs = .ok r) ↔ ∀ j ∈ jobs, j.Expands cap := by
  induction jobs generalizing kept notes with
  | nil => exact ⟨fun _ => List.forall_mem_nil _, fun _ => ⟨_, rfl⟩⟩
  | cons j jobs ih =>
      rw [List.forall_mem_cons, expandFrom]
      constructor
      · rintro ⟨r, hr⟩
        obtain ⟨new, hnew, hrest⟩ := bind_eq_ok_iff.1 hr
        exact ⟨(Job.exists_expand_iff _ _).1 ⟨new, hnew⟩, (ih _ _).1 ⟨r, hrest⟩⟩
      · rintro ⟨hj, hjobs⟩
        obtain ⟨new, hnew⟩ := (Job.exists_expand_iff _ _).2 hj
        obtain ⟨r, hr⟩ := (ih _ _).2 hjobs
        exact ⟨r, bind_eq_ok_iff.2 ⟨new, hnew, hr⟩⟩

/-- Instances of different identities are all kept, and nothing is noted. -/
theorem addInstances_of_nodup {jobName : String}
    (h : ((kept ++ made).map JobInstance.identity).Nodup) :
    s.addInstances jobName kept notes made = (kept ++ made, notes) := by
  induction made generalizing kept with
  | nil => rw [addInstances, List.append_nil]
  | cons i made ih =>
      have hsplit : kept ++ i :: made = kept ++ [i] ++ made := by simp
      have hnew : kept.find? (·.identity == i.identity) = none := by
        rw [List.find?_eq_none]
        intro k hk hsame
        rw [List.map_append, List.nodup_append] at h
        exact h.2.2 _ (List.mem_map_of_mem hk) _ (List.mem_map_of_mem (List.mem_cons_self ..))
          (beq_iff_eq.1 hsame)
      rw [addInstances, hnew, hsplit]
      exact ih (hsplit ▸ h)

theorem expandFrom_of_nodup (start : Int) (kept : List JobInstance) (notes : List String)
    (hjobs : ∀ j ∈ jobs, j.Expands cap)
    (h : (kept.map JobInstance.identity ++ jobs.flatMap Job.identities).Nodup) :
    s.expandFrom cap start kept notes jobs =
      .ok (kept ++ instancesOf s.name (start + kept.length) jobs, notes) := by
  induction jobs generalizing kept with
  | nil => rw [expandFrom, instancesOf, List.append_nil]
  | cons j jobs ih =>
      obtain ⟨hj, hjobs⟩ := List.forall_mem_cons.1 hjobs
      rw [List.flatMap_cons, ← List.append_assoc] at h
      have hkept : ((kept ++ j.instances s.name (start + kept.length)).map
          JobInstance.identity).Nodup := by
        rw [List.map_append, Job.map_identity_instances]
        exact (List.nodup_append.1 h).1
      have hrest := ih (kept ++ j.instances s.name (start + kept.length)) hjobs
        (by rwa [List.map_append, Job.map_identity_instances])
      have hindex : start + ((kept ++ j.instances s.name (start + kept.length)).length : Int) =
          start + kept.length + j.matrixSize := by
        rw [List.length_append, Job.length_instances]
        omega
      rw [expandFrom, Job.expand_eq_ok_iff.2 ⟨hj, rfl⟩]
      simp only [bind, Except.bind, addInstances_of_nodup hkept]
      rw [hrest, hindex, instancesOf, List.append_assoc]

/-- What becomes of a stage whose jobs can be expanded. -/
theorem expand_of_expands (h : ∀ j ∈ s.jobs, j.Expands cap) :
    s.expand cap start =
      if clashes s.takings = [] then .ok { name := s.name, instances := instancesOf s.name start s.jobs }
      else .error (.configuration ("Stage '" ++ s.name ++ "' has colliding instance identities")
        ((clashes s.takings).map s.clashText)) := by
  obtain ⟨⟨made, notes⟩, hrun⟩ := (exists_expandFrom_iff s start [] []).2 h
  have hnotes : notes = (clashes s.takings).map s.clashText := by
    have htallied := (tallied_expandFrom (tallied_nil s) hrun).notes
    rwa [List.nil_append] at htallied
  simp only [expand, hrun, bind, Except.bind]
  split
  · -- nothing was noted, so that all identities are different and nothing was left out
    rename_i hempty
    have hnil : clashes s.takings = [] := by
      rw [hnotes, List.isEmpty_iff, List.map_eq_nil_iff] at hempty
      exact hempty
    have hnodup : (s.jobs.flatMap Job.identities).Nodup := by
      rw [← map_fst_takingsOf]
      exact clashes_eq_nil_iff.1 hnil
    have hall := expandFrom_of_nodup (s := s) start [] [] h
      (by rwa [List.map_nil, List.nil_append])
    rw [hrun] at hall
    obtain ⟨rfl, -⟩ := Prod.mk.inj (Except.ok.inj hall)
    rw [if_pos hnil, List.length_nil, List.nil_append, Int.natCast_zero, Int.add_zero]
    rfl
  · rename_i hempty
    have hsome : clashes s.takings ≠ [] := by
      intro hnil
      rw [hnotes, hnil] at hempty
      exact hempty rfl
    rw [if_neg hsome, hnotes]
    rfl

/-- Two jobs of a stage want the same identity, each for one of its choices. -/
def SharesIdentity (s : Stage) : Prop :=
  ∃ (k l : Nat) (j j' : Job) (m n : Nat), k < l ∧ s.jobs[k]? = some j ∧ s.jobs[l]? = some j' ∧
    m < j.matrixSize ∧ n < j'.matrixSize ∧ j.identityAt m = j'.identityAt n

/-- No two jobs want the same identity when what they want is disjoint. -/
theorem not_sharesIdentity_iff :
    ¬ s.SharesIdentity ↔ s.jobs.Pairwise fun j j' => j.identities.Disjoint j'.identities := by
  rw [List.pairwise_iff_getElem]
  constructor
  · intro h k l hk hl hkl identity hidentity hidentity'
    obtain ⟨m, hm, hsame⟩ := Job.mem_identities_iff.1 hidentity
    obtain ⟨n, hn, hsame'⟩ := Job.mem_identities_iff.1 hidentity'
    exact h ⟨k, l, _, _, m, n, hkl, List.getElem?_eq_getElem hk, List.getElem?_eq_getElem hl, hm, hn,
      hsame.trans hsame'.symm⟩
  · rintro h ⟨k, l, j, j', m, n, hkl, hj, hj', hm, hn, hsame⟩
    obtain ⟨hk, rfl⟩ := List.getElem?_eq_some_iff.1 hj
    obtain ⟨hl, rfl⟩ := List.getElem?_eq_some_iff.1 hj'
    exact h k l hk hl hkl (Job.mem_identities_iff.2 ⟨m, hm, rfl⟩)
      (Job.mem_identities_iff.2 ⟨n, hn, hsame.symm⟩)

/-- Jobs that can be expanded clash only with each other. -/
theorem clashes_takings_eq_nil_iff (h : ∀ j ∈ s.jobs, j.Expands cap) :
    clashes s.takings = [] ↔ ¬ s.SharesIdentity := by
  rw [clashes_eq_nil_iff, takings, map_fst_takingsOf, List.nodup_flatMap, not_sharesIdentity_iff]
  exact and_iff_right fun j hj => (h j hj).distinct

/-- A stage that can be expanded: each of its jobs can, and no two of them want the same identity. -/
structure Expands (s : Stage) (cap : Int) : Prop where
  jobs : ∀ j ∈ s.jobs, j.Expands cap
  distinct : ¬ s.SharesIdentity

/-- The report of a stage before it is carried out. -/
def report (s : Stage) (start : Int) : StageReport :=
  { name := s.name, instances := instancesOf s.name start s.jobs }

/-- The stages that can be expanded. -/
theorem expand_eq_ok_iff {r : StageReport} :
    s.expand cap start = .ok r ↔ s.Expands cap ∧ r = s.report start := by
  constructor
  · intro h
    have hjobs : ∀ j ∈ s.jobs, j.Expands cap := by
      rw [expand] at h
      obtain ⟨made, hmade, -⟩ := bind_eq_ok_iff.1 h
      exact (exists_expandFrom_iff _ _ _ _).1 ⟨made, hmade⟩
    rw [expand_of_expands hjobs] at h
    split at h
    · rename_i hnil
      exact ⟨⟨hjobs, (clashes_takings_eq_nil_iff hjobs).1 hnil⟩, (Except.ok.inj h).symm⟩
    · cases h
  · rintro ⟨⟨hjobs, hshares⟩, rfl⟩
    rw [expand_of_expands hjobs, if_pos ((clashes_takings_eq_nil_iff hjobs).2 hshares)]
    rfl

end Stage

/-! ### Without dashes -/

/-- Without dashes in names and values, an identity tells the job and the values. -/
theorem instanceIdentity_injective {name name' : String} {values values' : List String}
    (hname : '-' ∉ name.toList) (hvalues : ∀ v ∈ values, '-' ∉ v.toList)
    (hname' : '-' ∉ name'.toList) (hvalues' : ∀ v ∈ values', '-' ∉ v.toList)
    (h : instanceIdentity name values = instanceIdentity name' values') :
    name = name' ∧ values = values' := by
  have hpieces : ∀ (n : String) (vs : List String), '-' ∉ n.toList → (∀ v ∈ vs, '-' ∉ v.toList) →
      (instanceIdentity n vs).toList.splitOn '-' = (n :: vs).map String.toList := by
    intro n vs hn hvs
    rw [instanceIdentity, String.toList_intercalate, show "-".toList = ['-'] from rfl]
    refine List.splitOn_intercalate '-' ?_ (List.cons_ne_nil _ _)
    simpa using ⟨hn, hvs⟩
  have hsame : (name :: values).map String.toList = (name' :: values').map String.toList := by
    rw [← hpieces name values hname hvalues, h, hpieces name' values' hname' hvalues']
  have hinj : Function.Injective String.toList := fun _ _ => String.toList_inj.1
  exact List.cons.inj (List.map_injective_iff.2 hinj hsame)

namespace Job

variable {j : Job}

/-- The values of a choice are values of axes. -/
theorem exists_axis_of_mem_choicesOf {axes : List Axis} {values : List String}
    (h : values ∈ choicesOf axes) : ∀ v ∈ values, ∃ a ∈ axes, v ∈ a.values := by
  intro v hv
  obtain ⟨n, hn, rfl⟩ := List.getElem_of_mem hv
  have hlength := length_of_mem_choicesOf h
  exact ⟨axes[n], List.getElem_mem _, (forall₂_of_mem_choicesOf h).get (by omega) hn⟩

/-- The choices are different when the values of each axis are. -/
theorem nodup_choicesOf {axes : List Axis} (h : ∀ a ∈ axes, a.values.Nodup) :
    (choicesOf axes).Nodup := by
  induction axes with
  | nil => exact List.nodup_singleton _
  | cons a axes ih =>
      obtain ⟨ha, haxes⟩ := List.forall_mem_cons.1 h
      rw [choicesOf, List.nodup_flatMap]
      constructor
      · intro v _
        exact (ih haxes).map fun _ _ => List.tail_eq_of_cons_eq
      · refine ha.imp fun {v w} hne values hv hw => ?_
        obtain ⟨rest, -, rfl⟩ := List.mem_map.1 hv
        obtain ⟨rest', -, hsame⟩ := List.mem_map.1 hw
        exact hne (List.head_eq_of_cons_eq hsame).symm

/-- A job without dashes in its name and its values. -/
def IsDashless (j : Job) : Prop :=
  '-' ∉ j.name.toList ∧ ∀ a ∈ j.matrix, ∀ v ∈ a.values, '-' ∉ v.toList

theorem IsDashless.not_mem (h : j.IsDashless) {values : List String} (hvalues : values ∈ j.choices) :
    ∀ v ∈ values, '-' ∉ v.toList := by
  intro v hv
  obtain ⟨a, ha, hmem⟩ := exists_axis_of_mem_choicesOf hvalues v hv
  exact h.2 a ha v hmem

theorem IsDashless.nodup_identities (h : j.IsDashless) (hvalues : ∀ a ∈ j.matrix, a.values.Nodup) :
    j.identities.Nodup := by
  refine List.Nodup.map_on ?_ (nodup_choicesOf hvalues)
  intro vs hvs ws hws hsame
  exact (instanceIdentity_injective h.1 (h.not_mem hvs) h.1 (h.not_mem hws) hsame).2

theorem IsDashless.disjoint {j' : Job} (h : j.IsDashless) (h' : j'.IsDashless) (hne : j.name ≠ j'.name) :
    j.identities.Disjoint j'.identities := by
  intro identity hj hj'
  obtain ⟨vs, hvs, rfl⟩ := List.mem_map.1 hj
  obtain ⟨ws, hws, hsame⟩ := List.mem_map.1 hj'
  exact hne (instanceIdentity_injective h'.1 (h'.not_mem hws) h.1 (h.not_mem hvs) hsame).1.symm

end Job

namespace Stage

/-- **Which stages are refused, and with what notes**: a stage whose jobs can each be expanded is
refused just when two of them want the same identity, and the notes are then those of all clashes.
Only dashes lead to that, if names and values are different. -/
theorem expand_collisions (s : Stage) (cap start : Int) :
    ((∀ j ∈ s.jobs, ∃ n made, j.expand s.name cap n = .ok made) →
      ((∃ f, s.expand cap start = .error f) ↔ s.SharesIdentity) ∧
      ∀ f, s.expand cap start = .error f →
        f = .configuration ("Stage '" ++ s.name ++ "' has colliding instance identities")
          ((clashes s.takings).map s.clashText)) ∧
    ((s.jobs.map Job.name).Nodup →
      (∀ j ∈ s.jobs, j.matrixSize ≤ cap ∧ '-' ∉ j.name.toList ∧ ∀ a ∈ j.matrix,
        a.values ≠ [] ∧ a.values.Nodup ∧ ∀ v ∈ a.values, '-' ∉ v.toList) →
      ∃ r, s.expand cap start = .ok r) := by
  constructor
  · intro h
    have hjobs : ∀ j ∈ s.jobs, j.Expands cap := by
      intro j hj
      obtain ⟨n, hn⟩ := h j hj
      exact (Job.exists_expand_iff _ _).1 hn
    have hnil := clashes_takings_eq_nil_iff hjobs
    rw [expand_of_expands hjobs]
    split
    · rename_i hempty
      exact ⟨⟨nofun, fun hshares => absurd hshares (hnil.1 hempty)⟩, nofun⟩
    · rename_i hsome
      refine ⟨⟨fun _ => Classical.not_not.1 fun hnot => hsome (hnil.2 hnot), fun _ => ⟨_, rfl⟩⟩, ?_⟩
      intro f hf
      exact (Except.error.inj hf).symm
  · intro hnames hplain
    have hdashless : ∀ j ∈ s.jobs, j.IsDashless := fun j hj =>
      ⟨(hplain j hj).2.1, fun a ha => ((hplain j hj).2.2 a ha).2.2⟩
    have hjobs : ∀ j ∈ s.jobs, j.Expands cap := fun j hj =>
      { values := fun a ha => ((hplain j hj).2.2 a ha).1
        within := (hplain j hj).1
        distinct := (hdashless j hj).nodup_identities fun a ha => ((hplain j hj).2.2 a ha).2.1 }
    have hshares : ¬ s.SharesIdentity := by
      rw [not_sharesIdentity_iff]
      refine (List.pairwise_map.1 hnames).imp_of_mem fun hj hj' hne => ?_
      exact (hdashless _ hj).disjoint (hdashless _ hj') hne
    exact ⟨_, expand_eq_ok_iff.2 ⟨⟨hjobs, hshares⟩, rfl⟩⟩

/-- Three jobs, the first of which wants the names of the others for its instances. -/
def builds : Stage :=
  { name := "ci"
    jobs := [{ name := "build", matrix := [⟨"v", ["x", "y"]⟩] }, { name := "build-y" },
      { name := "build-x" }] }

/-- Two jobs without dashes. -/
def checks : Stage :=
  { name := "ci", jobs := [{ name := "test", matrix := [⟨"os", ["linux", ""]⟩] }, { name := "lint" }] }

/-- The first job has taken both identities when the others want them; without dashes nothing of the
kind happens. -/
theorem expand_collisions_builds :
    (∃ f, builds.expand 2 0 = .error f ∧ f.kind = .config
      ["stage 'ci': identity 'build-y' produced by jobs 'build' and 'build-y'",
        "stage 'ci': identity 'build-x' produced by jobs 'build' and 'build-x'"]) ∧
    ∃ r, checks.expand 2 0 = .ok r := by
  constructor
  · have hjobs : ∀ j ∈ builds.jobs, ∃ n made, j.expand builds.name 2 n = .ok made := by
      intro j hj
      simp only [builds, List.mem_cons, List.not_mem_nil, or_false] at hj
      rcases hj with rfl | rfl | rfl <;> exact ⟨0, _, rfl⟩
    have hshares : builds.SharesIdentity :=
      ⟨0, 1, _, _, 1, 0, by decide, rfl, rfl, by decide, by decide, by decide⟩
    obtain ⟨hiff, htext⟩ := (expand_collisions builds 2 0).1 hjobs
    obtain ⟨f, hf⟩ := hiff.2 hshares
    refine ⟨f, hf, ?_⟩
    rw [htext f hf]
    rfl
  · exact (expand_collisions checks 2 0).2 (by decide) (by decide)

end Stage

end Conveyor
