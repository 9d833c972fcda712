/-
**Which rules a definition tree breaks.**

A place in a tree is a row of numbers that leads to it, so that places in order are the tree from its
front to its back.  Each rule that is broken is told at its place: a name that stands several times in
one scope at the first of its places, everything else where it stands.  The violations that are
collected are those of all places in order, each once.

Main definitions:

* `Conveyor.RepeatsAt` — a name that stands again later and not before;
* `Conveyor.Job.Breaks`, `Conveyor.Stage.Breaks`, `Conveyor.Pipeline.Breaks` — the rules that are
  broken, each with its place and its text;
* `Conveyor.Listed` — texts for just the rules that are broken, in the order of their places;
* `Conveyor.Trigger.IsReadable`, `Conveyor.Job.IsSound`, `Conveyor.Pipeline.IsSound` — trees in order.

Main results:

* `Conveyor.listed_repeated` — names that stand several times;
* `Conveyor.Pipeline.violations_eq_nil_iff` — a tree is in order when it breaks no rule;
* `Conveyor.Pipeline.listed_violations` — the violations are those of all places in order;
* `Conveyor.violations_exact` — **validation is sound and complete**.
-/

import Conveyor.Proofs.Trigger.Cron
import Conveyor.Structure

set_option autoImplicit false

namespace Conveyor

/-! ### Lists in the order of places -/

/-- Texts for just the rules that are broken, in the order of their places, each once. -/
def Listed (texts : List String) (breaks : List Nat → String → Prop) : Prop :=
  ∃ told : List (List Nat × String), told.Pairwise (fun v w => v.1.Lex (· < ·) w.1) ∧
    (∀ place text, (place, text) ∈ told ↔ breaks place text) ∧ texts = told.map Prod.snd

/-- A name stands at a place, again later, and not before. -/
structure RepeatsAt (names : List String) (k : Nat) (name : String) : Prop where
  here : names[k]? = some name
  fresh : name ∉ names.take k
  again : name ∈ names.drop (k + 1)

section
variable {α : Type} {texts : List String} {breaks breaks' : List Nat → String → Prop}

theorem Listed.congr (h : Listed texts breaks)
    (hiff : ∀ place text, breaks place text ↔ breaks' place text) : Listed texts breaks' := by
  obtain ⟨told, hsorted, hmem, htexts⟩ := h
  exact ⟨told, hsorted, fun place text => (hmem place text).trans (hiff place text), htexts⟩

theorem Listed.map (h : Listed texts breaks) (f : String → String) :
    Listed (texts.map f) fun place text => ∃ name, breaks place name ∧ f name = text := by
  obtain ⟨told, hsorted, hmem, rfl⟩ := h
  refine ⟨told.map fun v => (v.1, f v.2), List.pairwise_map.2 hsorted, ?_, by simp⟩
  intro place text
  simp only [List.mem_map, Prod.exists, Prod.mk.injEq, hmem]
  constructor
  · rintro ⟨_, name, hbreaks, rfl, rfl⟩
    exact ⟨name, hbreaks, rfl⟩
  · rintro ⟨name, hbreaks, rfl⟩
    exact ⟨place, name, hbreaks, rfl, rfl⟩

theorem Listed.cons (place : List Nat) (text : String) (h : Listed texts breaks)
    (hfirst : ∀ p t, breaks p t → place.Lex (· < ·) p) :
    Listed (text :: texts) fun p t => (p = place ∧ t = text) ∨ breaks p t := by
  obtain ⟨told, hsorted, hmem, rfl⟩ := h
  refine ⟨(place, text) :: told, List.pairwise_cons.2 ⟨?_, hsorted⟩, fun p t => ?_, rfl⟩
  · rintro ⟨p, t⟩ hv
    exact hfirst p t ((hmem p t).1 hv)
  · rw [List.mem_cons, Prod.mk.injEq, hmem]

/-- What the members of a list break, one member after the other: a place begins with the number of the
member. -/
theorem listed_zipIdx {xs : List α} {f : α → Nat → List String}
    {b : α → Nat → List Nat → String → Prop} (start : Nat)
    (h : ∀ x n, (x, n) ∈ xs.zipIdx start → Listed (f x n) (b x n)) :
    Listed ((xs.zipIdx start).flatMap fun m => f m.1 m.2) fun place text =>
      ∃ n rest x, place = (start + n) :: rest ∧ xs[n]? = some x ∧ b x (start + n) rest text := by
  induction xs generalizing start with
  | nil => exact ⟨[], .nil, by simp, rfl⟩
  | cons x xs ih =>
      rw [List.zipIdx_cons] at h ⊢
      obtain ⟨first, hfirst, hmem, htexts⟩ := h x start (List.mem_cons_self ..)
      obtain ⟨more, hmore, hmem', htexts'⟩ :=
        ih (start + 1) fun y n hy => h y n (List.mem_cons_of_mem _ hy)
      refine ⟨first.map (fun v => (start :: v.1, v.2)) ++ more, ?_, ?_, ?_⟩
      · rw [List.pairwise_append, List.pairwise_map]
        refine ⟨hfirst.imp fun hlex => .cons hlex, hmore, ?_⟩
        rintro v hv ⟨place, text⟩ hw
        obtain ⟨u, -, rfl⟩ := List.mem_map.1 hv
        obtain ⟨n, rest, -, rfl, -, -⟩ := (hmem' place text).1 hw
        exact .rel (by omega)
      · intro place text
        rw [List.mem_append, hmem']
        constructor
        · rintro (hfront | ⟨n, rest, y, rfl, hy, hbreaks⟩)
          · obtain ⟨⟨rest, t⟩, hu, hsame⟩ := List.mem_map.1 hfront
            obtain ⟨rfl, rfl⟩ := Prod.mk.inj hsame
            exact ⟨0, rest, x, rfl, rfl, (hmem rest t).1 hu⟩
          · have hindex : start + 1 + n = start + (n + 1) := by omega
            rw [hindex] at hbreaks ⊢
            exact ⟨n + 1, rest, y, rfl, hy, hbreaks⟩
        · rintro ⟨n, rest, y, rfl, hy, hbreaks⟩
          cases n with
          | zero =>
              obtain rfl : x = y := Option.some.inj hy
              exact .inl (List.mem_map.2 ⟨(rest, text), (hmem rest text).2 hbreaks, rfl⟩)
          | succ n =>
              have hindex : start + (n + 1) = start + 1 + n := by omega
              rw [hindex] at hbreaks ⊢
              exact .inr ⟨n, rest, y, rfl, hy, hbreaks⟩
      · rw [List.flatMap_cons, htexts, htexts', List.map_append, List.map_map]
        rfl

theorem listed_indexed {xs : List α} {f : α → Nat → List String}
    {b : α → Nat → List Nat → String → Prop}
    (h : ∀ x n, (x, n) ∈ xs.zipIdx → Listed (f x n) (b x n)) :
    Listed (xs.zipIdx.flatMap fun m => f m.1 m.2) fun place text =>
      ∃ n rest x, place = n :: rest ∧ xs[n]? = some x ∧ b x n rest text := by
  simpa only [Nat.zero_add] using listed_zipIdx 0 h

theorem listed_flatMap {xs : List α} {f : α → List String} {breaks : α → List Nat → String → Prop}
    (h : ∀ x ∈ xs, Listed (f x) (breaks x)) :
    Listed (xs.flatMap f) fun place text =>
      ∃ n rest x, place = n :: rest ∧ xs[n]? = some x ∧ breaks x rest text := by
  have hzip := listed_indexed (f := fun x _ => f x) (b := fun x _ => breaks x) fun x _ hm =>
    h x (List.mem_of_getElem? (List.mem_zipIdx_iff_getElem?.1 hm))
  rwa [← List.flatMap_map Prod.fst, List.zipIdx_map_fst] at hzip

/-- At most one text. -/
theorem listed_toList (o : Option String) :
    Listed o.toList fun place text => place = [] ∧ o = some text := by
  cases o with
  | none => exact ⟨[], .nil, by simp, rfl⟩
  | some t => exact ⟨[([], t)], List.pairwise_singleton .., by simp [eq_comm], rfl⟩

theorem repeatsAt_cons_zero {x name : String} {names : List String} :
    RepeatsAt (x :: names) 0 name ↔ x = name ∧ name ∈ names := by
  constructor
  · intro h
    exact ⟨Option.some.inj h.here, h.again⟩
  · rintro ⟨rfl, hmem⟩
    exact ⟨rfl, List.not_mem_nil, hmem⟩

theorem repeatsAt_cons_succ {x name : String} {names : List String} {k : Nat} :
    RepeatsAt (x :: names) (k + 1) name ↔ name ≠ x ∧ RepeatsAt names k name := by
  constructor
  · intro h
    have hfresh := h.fresh
    rw [List.take_succ_cons, List.mem_cons, not_or] at hfresh
    exact ⟨hfresh.1, h.here, hfresh.2, h.again⟩
  · rintro ⟨hne, h⟩
    refine ⟨h.here, ?_, h.again⟩
    rw [List.take_succ_cons, List.mem_cons, not_or]
    exact ⟨hne, h.fresh⟩

/-- The names of a list that stand there several times are its first one, perhaps, and those of the
others that are different from it. -/
theorem repeats_cons_iff {x name : String} {seen names place : _} {start : Nat} :
    (∃ k, place = [start + k] ∧ name ∉ seen ∧ RepeatsAt (x :: names) k name) ↔
      (place = [start] ∧ x = name ∧ name ∉ seen ∧ name ∈ names) ∨
        ∃ k, place = [start + 1 + k] ∧ name ∉ x :: seen ∧ RepeatsAt names k name := by
  constructor
  · rintro ⟨k, rfl, hseen, h⟩
    cases k with
    | zero =>
        obtain ⟨rfl, hmem⟩ := repeatsAt_cons_zero.1 h
        exact .inl ⟨rfl, rfl, hseen, hmem⟩
    | succ k =>
        obtain ⟨hne, h⟩ := repeatsAt_cons_succ.1 h
        have hindex : start + (k + 1) = start + 1 + k := by omega
        exact .inr ⟨k, by rw [hindex], List.not_mem_cons_of_ne_of_not_mem hne hseen, h⟩
  · rintro (⟨rfl, rfl, hseen, hmem⟩ | ⟨k, rfl, hseen, h⟩)
    · exact ⟨0, rfl, hseen, repeatsAt_cons_zero.2 ⟨rfl, hmem⟩⟩
    · rw [List.mem_cons, not_or] at hseen
      have hindex : start + 1 + k = start + (k + 1) := by omega
      exact ⟨k + 1, by rw [hindex], hseen.2, repeatsAt_cons_succ.2 ⟨hseen.1, h⟩⟩

theorem listed_repeatedFrom (seen names : List String) (start : Nat) :
    Listed (repeatedFrom seen names) fun place name =>
      ∃ k, place = [start + k] ∧ name ∉ seen ∧ RepeatsAt names k name := by
  induction names generalizing seen start with
  | nil =>
      refine ⟨[], .nil, fun place name => ?_, rfl⟩
      constructor
      · intro h
        cases h
      · rintro ⟨k, -, -, h⟩
        cases h.here
  | cons x names ih =>
      rw [repeatedFrom]
      split
      · -- a name that was seen is left out, at this place and later
        rename_i hx
        refine (ih seen (start + 1)).congr fun place name => ?_
        have hseen : name ∉ x :: seen ↔ name ∉ seen := by
          rw [List.mem_cons, not_or]
          exact and_iff_right_of_imp fun hnot hname => hnot (hname ▸ hx)
        rw [repeats_cons_iff, hseen]
        refine (or_iff_right ?_).symm
        rintro ⟨-, rfl, hnot, -⟩
        exact hnot hx
      · rename_i hx
        have hrest := ih (x :: seen) (start + 1)
        split
        · rename_i hmem
          refine (hrest.cons [start] x ?_).congr fun place name => ?_
          · rintro _ _ ⟨k, rfl, -, -⟩
            exact .rel (by omega)
          · rw [repeats_cons_iff]
            refine or_congr_left (and_congr_right fun _ => ?_)
            constructor
            · rintro rfl
              exact ⟨rfl, hx, hmem⟩
            · exact fun h => h.1.symm
        · rename_i hmem
          refine hrest.congr fun place name => ?_
          rw [repeats_cons_iff]
          refine (or_iff_right ?_).symm
          rintro ⟨-, rfl, -, hagain⟩
          exact hmem hagain

/-- The names that stand several times, each at the first of its places. -/
theorem listed_repeated (names : List String) :
    Listed (repeated names) fun place name => ∃ k, place = [k] ∧ RepeatsAt names k name := by
  simpa [repeated] using listed_repeatedFrom [] names 0

/-- Names that stand several times, each in a text. -/
theorem listed_map_repeated (names : List String) (f : String → String) :
    Listed ((repeated names).map f) fun place text =>
      ∃ k name, place = [k] ∧ RepeatsAt names k name ∧ f name = text := by
  refine ((listed_repeated names).map f).congr fun place text => ?_
  constructor
  · rintro ⟨name, ⟨k, rfl, h⟩, rfl⟩
    exact ⟨k, name, rfl, h, rfl⟩
  · rintro ⟨k, name, rfl, h, rfl⟩
    exact ⟨name, ⟨k, rfl, h⟩, rfl⟩

/-- Members of a list of which something holds, each in a text. -/
theorem listed_map_filter (xs : List α) (p : α → Bool) (f : α → String) :
    Listed ((xs.filter p).map f) fun place text =>
      ∃ k x, place = [k] ∧ xs[k]? = some x ∧ p x = true ∧ f x = text := by
  have hsplit : (xs.filter p).map f =
      xs.flatMap fun x => (if p x then some (f x) else none).toList := by
    induction xs with
    | nil => rfl
    | cons x xs ih =>
        rw [List.flatMap_cons, List.filter_cons, ← ih]
        split <;> rfl
  rw [hsplit]
  refine (listed_flatMap fun x _ => listed_toList _).congr fun place text => ?_
  constructor
  · rintro ⟨k, rest, x, rfl, hx, rfl, htext⟩
    rw [Option.ite_none_right_eq_some, Option.some.injEq] at htext
    exact ⟨k, x, rfl, hx, htext⟩
  · rintro ⟨k, x, rfl, hx, hp, rfl⟩
    exact ⟨k, [], x, rfl, hx, rfl, if_pos hp⟩

/-- Sections one after the other: a place begins with the number of its section. -/
theorem listed_sections {sections : List (List String)}
    (hplace : ∀ place text, breaks place text → ∃ n rest, place = n :: rest ∧ n < sections.length)
    (h : ∀ m ∈ sections.zipIdx, Listed m.1 fun rest text => breaks (m.2 :: rest) text) :
    Listed sections.flatten breaks := by
  have hzip := listed_indexed (f := fun texts _ => texts)
    (b := fun _ n rest text => breaks (n :: rest) text) fun texts n hm => h (texts, n) hm
  rw [List.flatMap_def, List.zipIdx_map_fst] at hzip
  refine hzip.congr fun place text => ?_
  constructor
  · rintro ⟨n, rest, -, rfl, -, hbreaks⟩
    exact hbreaks
  · intro hbreaks
    obtain ⟨n, rest, rfl, hn⟩ := hplace place text hbreaks
    exact ⟨n, rest, sections[n], rfl, List.getElem?_eq_getElem hn, hbreaks⟩

end

/-! ### Triggers -/

/-- A pattern that can be read: a rule for a schedule, and for every other kind a glob that is not
empty, has no blanks, and as many opening brackets as closing ones. -/
def Trigger.IsReadable (t : Trigger) : Prop :=
  match t.kind with
  | .schedule => ∃ texts es, Cron.IsRule t.pattern texts es
  | _ => t.pattern ≠ "" ∧ (∀ c ∈ t.pattern.toList, Text.isBlank c = false) ∧
      t.pattern.toList.count '[' = t.pattern.toList.count ']'

theorem Glob.error?_eq_none_iff {pattern : String} :
    Glob.error? pattern = none ↔
      pattern ≠ "" ∧ (∀ c ∈ pattern.toList, Text.isBlank c = false) ∧
        pattern.toList.count '[' = pattern.toList.count ']' := by
  have hsolid : pattern.toList.any Text.isBlank = false ↔
      ∀ c ∈ pattern.toList, Text.isBlank c = false := by simp
  have hblank : Text.allBlank pattern = true → pattern.toList.any Text.isBlank = false →
      pattern = "" := by
    intro hall hany
    rw [← String.toList_eq_nil_iff, List.eq_nil_iff_forall_not_mem]
    intro c hc
    have hc' : Text.isBlank c = true := List.all_eq_true.1 hall c hc
    rw [hsolid.1 hany c hc] at hc'
    cases hc'
  rw [Glob.error?, ← hsolid]
  split
  · rename_i hall
    simp only [reduceCtorEq, false_iff]
    rintro ⟨hne, hany, -⟩
    exact hne (hblank hall hany)
  · rename_i hall
    have hne : pattern ≠ "" := by
      rintro rfl
      exact hall rfl
    split
    · rename_i hany
      simp [hany]
    · rename_i hany
      simp [hne, hany]

theorem Trigger.patternError?_eq_none_iff {t : Trigger} :
    t.patternError? = none ↔ t.IsReadable := by
  obtain ⟨kind, pattern⟩ := t
  cases kind with
  | schedule =>
      have hrule : (∃ c, Cron.parse pattern = .ok c) ↔
          ∃ texts es, Cron.IsRule pattern texts es := by
        constructor
        · rintro ⟨c, hc⟩
          obtain ⟨texts, es, h, -⟩ := Cron.parse_eq_ok_iff.1 hc
          exact ⟨texts, es, h⟩
        · rintro ⟨texts, es, h⟩
          exact ⟨_, Cron.parse_eq_ok_iff.2 ⟨texts, es, h, rfl⟩⟩
      refine Iff.trans ?_ hrule
      simp only [patternError?]
      cases Cron.parse pattern <;> simp
  | push | tag | pullRequest | manual => exact Glob.error?_eq_none_iff

/-! ### Trees in order -/

/-- A job in order. -/
structure Job.IsSound (j : Job) : Prop where
  axes : j.axisNames.Nodup
  values : ∀ a ∈ j.matrix, a.values ≠ []
  services : (j.services.map Service.name).Nodup
  env : ∀ s ∈ j.services, (s.env.map EnvVar.name).Nodup
  args : ∀ t ∈ j.steps, (t.args.map StepArg.name).Nodup

/-- A pipeline in order. -/
structure Pipeline.IsSound (p : Pipeline) : Prop where
  triggers : ∀ t ∈ p.triggers, t.IsReadable
  stages : p.stageNames.Nodup
  jobs : ∀ s ∈ p.stages, (s.jobs.map Job.name).Nodup
  sound : ∀ s ∈ p.stages, ∀ j ∈ s.jobs, j.IsSound

/-! ### Rules that are broken -/

/-- The rules that a job breaks; the text begins with the place of the job in words. -/
inductive Job.Breaks (around : String) (j : Job) : List Nat → String → Prop
  | axis {k : Nat} {name : String} : RepeatsAt j.axisNames k name →
      Breaks around j [0, k] (around ++ ": duplicate matrix axis '" ++ name ++ "'")
  | values {k : Nat} {a : Axis} : j.matrix[k]? = some a → a.values = [] →
      Breaks around j [1, k] (around ++ ": matrix axis '" ++ a.name ++ "' has no values")
  | service {k : Nat} {name : String} : RepeatsAt (j.services.map Service.name) k name →
      Breaks around j [2, k] (around ++ ": duplicate service '" ++ name ++ "'")
  | env {n k : Nat} {s : Service} {name : String} : j.services[n]? = some s →
      RepeatsAt (s.env.map EnvVar.name) k name →
      Breaks around j [3, n, k]
        (around ++ "/service '" ++ s.name ++ "': duplicate env var '" ++ name ++ "'")
  | arg {n k : Nat} {t : Step} {name : String} : j.steps[n]? = some t →
      RepeatsAt (t.args.map StepArg.name) k name →
      Breaks around j [4, n, k]
        (around ++ "/step " ++ toString n ++ ": duplicate argument '" ++ name ++ "'")

/-- The rules that a stage breaks. -/
inductive Stage.Breaks (around : String) (s : Stage) : List Nat → String → Prop
  | job {k : Nat} {name : String} : RepeatsAt (s.jobs.map Job.name) k name →
      Breaks around s [0, k] (around ++ ": duplicate job '" ++ name ++ "'")
  | inner {n : Nat} {j : Job} {place : List Nat} {text : String} : s.jobs[n]? = some j →
      j.Breaks (around ++ "/job '" ++ j.name ++ "'") place text → Breaks around s (1 :: n :: place) text

/-- The rules that a pipeline breaks. -/
inductive Pipeline.Breaks (p : Pipeline) : List Nat → String → Prop
  | trigger {n : Nat} {t : Trigger} {e : String} : p.triggers[n]? = some t →
      t.patternError? = some e →
      Breaks p [0, n] ("pipeline '" ++ p.name ++ "'" ++ "/trigger " ++ toString n ++ " ("
        ++ t.kind.name ++ "): " ++ e)
  | stage {k : Nat} {name : String} : RepeatsAt p.stageNames k name →
      Breaks p [1, k] ("pipeline '" ++ p.name ++ "'" ++ ": duplicate stage '" ++ name ++ "'")
  | inner {n : Nat} {s : Stage} {place : List Nat} {text : String} : p.stages[n]? = some s →
      s.Breaks ("pipeline '" ++ p.name ++ "'" ++ "/stage '" ++ s.name ++ "'") place text →
      Breaks p (2 :: n :: place) text

namespace Job

variable {j : Job} {around : String}

/-- What the step of a number breaks. -/
def argViolations (around : String) (t : Step) (n : Nat) : List String :=
  (repeated (t.args.map StepArg.name)).map fun name =>
    around ++ "/step " ++ toString n ++ ": duplicate argument '" ++ name ++ "'"

theorem stepViolations_eq (around : String) (start : Nat) (steps : List Step) :
    stepViolations around start steps =
      (steps.zipIdx start).flatMap fun m => argViolations around m.1 m.2 := by
  induction steps generalizing start with
  | nil => rfl
  | cons t steps ih =>
      rw [stepViolations, ih, List.zipIdx_cons, List.flatMap_cons]
      rfl

theorem violations_eq_nil_iff : j.violations around = [] ↔ j.IsSound := by
  simp only [violations, stepViolations_eq, argViolations, serviceViolations, List.append_eq_nil_iff,
    List.map_eq_nil_iff, List.flatMap_eq_nil_iff, repeated_eq_nil_iff, List.filter_eq_nil_iff]
  constructor
  · rintro ⟨⟨⟨⟨haxes, hvalues⟩, hservices⟩, henv⟩, hargs⟩
    refine ⟨haxes, fun a ha hnil => hvalues a ha (List.isEmpty_iff.2 hnil), hservices, henv, ?_⟩
    intro t ht
    obtain ⟨n, hn⟩ := List.mem_iff_getElem?.1 ht
    exact hargs (t, n) (List.mem_zipIdx_iff_getElem?.2 hn)
  · intro h
    refine ⟨⟨⟨⟨h.axes, fun a ha hnil => h.values a ha (List.isEmpty_iff.1 hnil)⟩, h.services⟩, h.env⟩, ?_⟩
    intro m hm
    exact h.args m.1 (List.mem_of_getElem? (List.mem_zipIdx_iff_getElem?.1 hm))

/-- The violations of a job are those of all its places in order. -/
theorem listed_violations (around : String) (j : Job) :
    Listed (j.violations around) (j.Breaks (around ++ "/job '" ++ j.name ++ "'")) := by
  have hsections : ∀ a b c d e : List String, a ++ b ++ c ++ d ++ e = [a, b, c, d, e].flatten :=
    fun a b c d e => by simp
  rw [violations, hsections]
  refine listed_sections ?_ ?_
  · rintro _ _ (_ | _ | _ | _ | _) <;> exact ⟨_, _, rfl, by simp⟩
  simp only [List.zipIdx_cons, List.zipIdx_nil, List.forall_mem_cons, stepViolations_eq]
  refine ⟨?axes, ?values, ?services, ?env, ?args, List.forall_mem_nil _⟩
  case axes =>
    refine (listed_map_repeated ..).congr fun place text => ⟨?_, ?_⟩
    · rintro ⟨k, name, rfl, h, rfl⟩
      exact .axis h
    · rintro (h | _)
      exact ⟨_, _, rfl, h, rfl⟩
  case values =>
    refine (listed_map_filter ..).congr fun place text => ⟨?_, ?_⟩
    · rintro ⟨k, a, rfl, ha, hempty, rfl⟩
      exact .values ha (List.isEmpty_iff.1 hempty)
    · rintro (_ | ⟨ha, hempty⟩)
      exact ⟨_, _, rfl, ha, List.isEmpty_iff.2 hempty, rfl⟩
  case services =>
    refine (listed_map_repeated ..).congr fun place text => ⟨?_, ?_⟩
    · rintro ⟨k, name, rfl, h, rfl⟩
      exact .service h
    · rintro (_ | _ | h)
      exact ⟨_, _, rfl, h, rfl⟩
  case env =>
    refine (listed_flatMap fun s _ => listed_map_repeated ..).congr fun place text => ⟨?_, ?_⟩
    · rintro ⟨n, _, s, rfl, hs, k, name, rfl, h, rfl⟩
      exact .env hs h
    · rintro (_ | _ | _ | ⟨hs, h⟩)
      exact ⟨_, _, _, rfl, hs, _, _, rfl, h, rfl⟩
  case args =>
    refine (listed_indexed (f := argViolations _) fun t n _ =>
      listed_map_repeated ..).congr fun place text => ⟨?_, ?_⟩
    · rintro ⟨n, _, t, rfl, ht, k, name, rfl, h, rfl⟩
      exact .arg ht h
    · rintro (_ | _ | _ | _ | ⟨ht, h⟩)
      exact ⟨_, _, _, rfl, ht, _, _, rfl, h, rfl⟩

end Job

namespace Stage

variable {s : Stage} {around : String}

theorem violations_eq_nil_iff :
    s.violations around = [] ↔ (s.jobs.map Job.name).Nodup ∧ ∀ j ∈ s.jobs, j.IsSound := by
  simp only [violations, List.append_eq_nil_iff, List.map_eq_nil_iff, List.flatMap_eq_nil_iff,
    repeated_eq_nil_iff, Job.violations_eq_nil_iff]

/-- The violations of a stage are those of all its places in order. -/
theorem listed_violations (around : String) (s : Stage) :
    Listed (s.violations around) (s.Breaks (around ++ "/stage '" ++ s.name ++ "'")) := by
  have hsections : ∀ a b : List String, a ++ b = [a, b].flatten := fun a b => by simp
  rw [violations, hsections]
  refine listed_sections ?_ ?_
  · rintro _ _ (_ | _) <;> exact ⟨_, _, rfl, by simp⟩
  simp only [List.zipIdx_cons, List.zipIdx_nil, List.forall_mem_cons]
  refine ⟨?jobs, ?inner, List.forall_mem_nil _⟩
  case jobs =>
    refine (listed_map_repeated ..).congr fun place text => ⟨?_, ?_⟩
    · rintro ⟨k, name, rfl, h, rfl⟩
      exact .job h
    · rintro (h | _)
      exact ⟨_, _, rfl, h, rfl⟩
  case inner =>
    refine (listed_flatMap fun j _ => j.listed_violations _).congr fun place text => ⟨?_, ?_⟩
    · rintro ⟨n, rest, j, rfl, hj, h⟩
      exact .inner hj h
    · rintro (_ | ⟨hj, h⟩)
      exact ⟨_, _, _, rfl, hj, h⟩

end Stage

namespace Pipeline

variable {p : Pipeline}

/-- What the trigger of a number breaks. -/
def triggerViolation? (around : String) (t : Trigger) (n : Nat) : Option String :=
  t.patternError?.map fun e => around ++ "/trigger " ++ toString n ++ " (" ++ t.kind.name ++ "): " ++ e

theorem triggerViolations_eq (around : String) (start : Nat) (triggers : List Trigger) :
    triggerViolations around start triggers =
      (triggers.zipIdx start).flatMap fun m => (triggerViolation? around m.1 m.2).toList := by
  induction triggers generalizing start with
  | nil => rfl
  | cons t triggers ih =>
      rw [triggerViolations, ih, List.zipIdx_cons, List.flatMap_cons, triggerViolation?]
      cases t.patternError? <;> rfl

/-- A tree is in order when it breaks no rule. -/
theorem violations_eq_nil_iff : p.violations = [] ↔ p.IsSound := by
  have hstages : p.stages.flatMap (Stage.violations ("pipeline '" ++ p.name ++ "'")) = [] ↔
      (∀ s ∈ p.stages, (s.jobs.map Job.name).Nodup) ∧
        ∀ s ∈ p.stages, ∀ j ∈ s.jobs, j.IsSound := by
    simp only [List.flatMap_eq_nil_iff, Stage.violations_eq_nil_iff]
    exact forall₂_and
  have htriggers : triggerViolations ("pipeline '" ++ p.name ++ "'") 0 p.triggers = [] ↔
      ∀ t ∈ p.triggers, t.IsReadable := by
    simp only [triggerViolations_eq, List.flatMap_eq_nil_iff, Option.toList_eq_nil_iff,
      triggerViolation?, Option.map_eq_none_iff, Trigger.patternError?_eq_none_iff]
    constructor
    · intro h t ht
      obtain ⟨n, hn⟩ := List.mem_iff_getElem?.1 ht
      exact h (t, n) (List.mem_zipIdx_iff_getElem?.2 hn)
    · intro h m hm
      exact h m.1 (List.mem_of_getElem? (List.mem_zipIdx_iff_getElem?.1 hm))
  rw [violations, List.append_eq_nil_iff, List.append_eq_nil_iff, htriggers, List.map_eq_nil_iff,
    repeated_eq_nil_iff, hstages]
  constructor
  · rintro ⟨⟨htriggers, hnames⟩, hjobs, hsound⟩
    exact ⟨htriggers, hnames, hjobs, hsound⟩
  · intro h
    exact ⟨⟨h.triggers, h.stages⟩, h.jobs, h.sound⟩

/-- The violations of a pipeline are those of all its places in order. -/
theorem listed_violations (p : Pipeline) : Listed p.violations p.Breaks := by
  have hsections : ∀ a b c : List String, a ++ b ++ c = [a, b, c].flatten := fun a b c => by simp
  rw [violations, hsections]
  refine listed_sections ?_ ?_
  · rintro _ _ (_ | _ | _) <;> exact ⟨_, _, rfl, by simp⟩
  simp only [List.zipIdx_cons, List.zipIdx_nil, List.forall_mem_cons, triggerViolations_eq]
  refine ⟨?triggers, ?stages, ?inner, List.forall_mem_nil _⟩
  case triggers =>
    refine (listed_indexed (f := fun t n => (triggerViolation? _ t n).toList) fun t n _ =>
      listed_toList _).congr fun place text => ⟨?_, ?_⟩
    · rintro ⟨n, _, t, rfl, ht, rfl, h⟩
      obtain ⟨e, he, rfl⟩ := Option.map_eq_some_iff.1 h
      exact .trigger ht he
    · rintro (⟨ht, he⟩ | _)
      exact ⟨_, _, _, rfl, ht, rfl, congrArg (Option.map _) he⟩
  case stages =>
    refine (listed_map_repeated ..).congr fun place text => ⟨?_, ?_⟩
    · rintro ⟨k, name, rfl, h, rfl⟩
      exact .stage h
    · rintro (_ | h)
      exact ⟨_, _, rfl, h, rfl⟩
  case inner =>
    refine (listed_flatMap fun s _ => s.listed_violations _).congr fun place text => ⟨?_, ?_⟩
    · rintro ⟨n, rest, s, rfl, hs, h⟩
      exact .inner hs h
    · rintro (_ | _ | ⟨hs, h⟩)
      exact ⟨_, _, _, rfl, hs, h⟩

end Pipeline

/-! ### Catalogs -/

/-- A catalog is refused when it breaks a rule, with all its violations. -/
theorem Catalog.validate_eq_error_iff {c : Catalog} {f : Fault} :
    c.validate = .error f ↔ c.violations ≠ [] ∧
      f = .configuration "Pipeline catalog is invalid" c.violations := by
  rw [validate]
  split
  · rename_i hempty
    simp [List.isEmpty_iff.1 hempty]
  · rename_i hsome
    rw [List.isEmpty_iff] at hsome
    simp [hsome, eq_comm]

/-- **Validation is sound and complete**: a pipeline breaks no rule just when it is in order, and
otherwise its violations are told in the order of their places, each once.  A catalog is refused just
when two of its pipelines share a name or one of them is not in order, with the names that stand several
times and then the violations of all pipelines in order. -/
theorem violations_exact :
    (∀ p : Pipeline, (p.violations = [] ↔ p.IsSound) ∧ Listed p.violations p.Breaks) ∧
    ∀ c : Catalog,
      ((∃ f, c.validate = .error f) ↔ ¬ c.names.Nodup ∨ ∃ p ∈ c.pipelines, ¬ p.IsSound) ∧
      ∃ names, Listed names (fun place name => ∃ k, place = [k] ∧ RepeatsAt c.names k name) ∧
        ∀ f, c.validate = .error f → f = .configuration "Pipeline catalog is invalid"
          (names.map (fun name => "duplicate pipeline name '" ++ name ++ "'") ++
            c.pipelines.flatMap Pipeline.violations) := by
  refine ⟨fun p => ⟨p.violations_eq_nil_iff, p.listed_violations⟩, fun c => ⟨?_, ?_⟩⟩
  · have hnil : c.violations = [] ↔ c.names.Nodup ∧ ∀ p ∈ c.pipelines, p.IsSound := by
      simp only [Catalog.violations, List.append_eq_nil_iff, List.map_eq_nil_iff,
        repeated_eq_nil_iff, List.flatMap_eq_nil_iff, Pipeline.violations_eq_nil_iff]
    simp only [Catalog.validate_eq_error_iff, exists_and_left, exists_eq, and_true, ne_eq, hnil,
      not_and_or, not_forall, exists_prop]
  · exact ⟨repeated c.names, listed_repeated c.names, fun f hf => (Catalog.validate_eq_error_iff.1 hf).2⟩

/-- A pipeline with a pattern that cannot be read and a name that stands three times. -/
def untidy : Pipeline :=
  { name := "ci"
    triggers := [⟨.push, "main"⟩, ⟨.tag, "v 1"⟩]
    stages := [{ name := "build", jobs := [{ name := "c" }, { name := "c" }, { name := "c" }] }] }

theorem violations_exact_untidy :
    untidy.violations ≠ [] ∧ ¬ untidy.IsSound ∧
    untidy.Breaks [0, 1] "pipeline 'ci'/trigger 1 (tag): pattern cannot contain whitespace" ∧
    Listed untidy.violations untidy.Breaks ∧
    ∃ f, (Catalog.mk [untidy]).validate = .error f := by
  obtain ⟨hnil, hlisted⟩ := violations_exact.1 untidy
  have hsome : untidy.violations ≠ [] := by decide
  have hsound : ¬ untidy.IsSound := fun h => hsome (hnil.2 h)
  have htrigger := Pipeline.Breaks.trigger (p := untidy) (n := 1) (t := ⟨.tag, "v 1"⟩)
    (e := "pattern cannot contain whitespace") rfl (by decide)
  refine ⟨hsome, hsound, ?_, hlisted, ?_⟩
  · convert htrigger using 1
    decide
  · exact (violations_exact.2 ⟨[untidy]⟩).1.2 (.inr ⟨untidy, List.mem_singleton_self _, hsound⟩)

end Conveyor
