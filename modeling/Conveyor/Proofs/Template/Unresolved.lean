/-
**Names without values.**

Filling in fails when a name has no value, and then it tells the first such name.  The values play no
part in this, and the rest of the bindings plays none at all.  So a service or a step, whose texts are
filled in one after the other, goes the same way for all instances of a job: these have values for the
same names.

Main definitions:

* `Conveyor.Template.Context.lacks` — whether a name has no value;
* `Conveyor.Template.mentions`, `Conveyor.Service.mentions`, `Conveyor.Step.mentions` — the names in
  texts, in the order in which they are filled in, each with the place of its text;
* `Conveyor.Template.FailAlike` — two computations that fail for the same name, or both do not fail.

Main results:

* `Conveyor.Template.failure?_resolve` — a text fails with its first name without a value;
* `Conveyor.Template.resolve_of_agree` — its result depends on the values of its names only;
* `Conveyor.Service.failure?_resolve`, `Conveyor.Step.failure?_resolve` — so do services and steps;
* `Conveyor.Template.resolve_fails_iff` — **what filling in depends on**.
-/

import Conveyor.Proofs.Failing
import Conveyor.Proofs.Matrix
import Conveyor.Proofs.Template.Composition
import Conveyor.Resolution

set_option autoImplicit false

namespace Conveyor

namespace Template

/-- Whether a name has no value. -/
def Context.lacks (c : Context) (name : String) : Bool := (lookup c.bindings name).isNone

/-! ### One text -/

/-- Pieces fail with the first name that has no value. -/
theorem failure?_resolvePieces (c : Context) (ps : List Piece) :
    failure? (resolvePieces c.bindings ps) = (ps.filterMap Piece.name?).find? c.lacks := by
  induction ps with
  | nil => rfl
  | cons p ps ih =>
      -- A piece that is no placeholder neither fails nor has a name.
      have hrest : ∀ front : List Char,
          failure? ((resolvePieces c.bindings ps).map (front ++ ·)) =
            (ps.filterMap Piece.name?).find? c.lacks := by
        intro front
        rw [← ih]
        cases resolvePieces c.bindings ps <;> rfl
      cases p with
      | char d => exact hrest [d]
      | plain text => exact hrest text
      | placeholder name =>
          have hnames : (Piece.placeholder name :: ps).filterMap Piece.name? =
            name :: ps.filterMap Piece.name? := rfl
          cases hvalue : lookup c.bindings name with
          | none =>
              rw [hnames, List.find?_cons_of_pos (by rw [Context.lacks, hvalue]; rfl), resolvePieces,
                Piece.resolve, hvalue]
              rfl
          | some value =>
              rw [hnames, List.find?_cons_of_neg (by rw [Context.lacks, hvalue]; simp), resolvePieces,
                Piece.resolve, hvalue]
              exact hrest value.toList

/-- A text fails with the first of its names that has no value. -/
theorem failure?_resolve (c : Context) (source : Option String) (s : String) :
    failure? (resolve c source s) = ((names s).find? c.lacks).map (unresolved c source) := by
  rw [names, ← failure?_resolvePieces, resolve]
  cases resolvePieces c.bindings (pieces s) <;> rfl

theorem resolvePieces_congr {bindings bindings' : List (String × String)} {ps : List Piece}
    (h : ∀ n ∈ ps.filterMap Piece.name?, lookup bindings n = lookup bindings' n) :
    resolvePieces bindings ps = resolvePieces bindings' ps := by
  induction ps with
  | nil => rfl
  | cons p ps ih =>
      cases p with
      | char d => rw [resolvePieces, resolvePieces, Piece.resolve, Piece.resolve, ih h]
      | plain text => rw [resolvePieces, resolvePieces, Piece.resolve, Piece.resolve, ih h]
      | placeholder name =>
          have hname : lookup bindings name = lookup bindings' name := h name (List.mem_cons_self ..)
          have hrest := ih fun n hn => h n (List.mem_cons_of_mem _ hn)
          rw [resolvePieces, resolvePieces, Piece.resolve, Piece.resolve, hname, hrest]

/-- What a text comes to depends on the values of its names only. -/
theorem resolve_of_agree {c c' : Context} {source source' : Option String} {s r : String}
    (h : ∀ n ∈ names s, lookup c.bindings n = lookup c'.bindings n)
    (hr : resolve c source s = .ok r) : resolve c' source' s = .ok r := by
  rw [resolve_eq_ok_iff] at hr ⊢
  rw [← hr]
  exact (resolvePieces_congr h).symm

/-! ### Texts one after the other -/

/-- The names in a text, each with the place of the text. -/
def mentions (source s : String) : List (String × String) := (names s).map fun n => (source, n)

/-- The names in named texts, each with the place of its text. -/
def mentionsOf (source : String) (named : List (String × String)) : List (String × String) :=
  named.flatMap fun e => mentions (source ++ " " ++ e.1) e.2

/-- The fault of the first name that has no value. -/
def Context.firstFault? (c : Context) (ms : List (String × String)) : Option Fault :=
  (ms.find? fun m => c.lacks m.2).map fun m => unresolved c (some m.1) m.2

theorem Context.firstFault?_append (c : Context) (ms ns : List (String × String)) :
    c.firstFault? (ms ++ ns) = (c.firstFault? ms).or (c.firstFault? ns) := by
  rw [firstFault?, List.find?_append]
  cases hfind : ms.find? fun m => c.lacks m.2 <;> simp [firstFault?, hfind]

theorem Context.firstFault?_mentions (c : Context) (source s : String) :
    failure? (resolve c (some source) s) = c.firstFault? (mentions source s) := by
  rw [failure?_resolve, firstFault?, mentions, List.find?_map, Option.map_map]
  rfl

/-- Named texts fail with the first name that has no value. -/
theorem failure?_resolveNamed (c : Context) (source : String) (done named : List (String × String)) :
    failure? (resolveNamed c source done named) = c.firstFault? (mentionsOf source named) := by
  induction named generalizing done with
  | nil => rfl
  | cons e named ih =>
      rw [resolveNamed, failure?_bind fun value _ => ih (bindName done e.1 value),
        c.firstFault?_mentions, ← c.firstFault?_append]
      rfl

/-- A text and named texts after it fail with the first name that has no value. -/
theorem failure?_resolve_resolveNamed {α : Type} (c : Context) (source source' s : String)
    (named : List (String × String)) (f : String → List (String × String) → α) :
    (failure? do
      let text ← resolve c (some source) s
      let texts ← resolveNamed c source' [] named
      pure (f text texts)) = c.firstFault? (mentions source s ++ mentionsOf source' named) := by
  have hnamed : ∀ text, (failure? do
      let texts ← resolveNamed c source' [] named
      pure (f text texts)) = c.firstFault? (mentionsOf source' named) := by
    intro text
    rw [failure?_bind (o := none) fun texts _ => rfl, Option.or_none, failure?_resolveNamed]
  rw [failure?_bind fun text _ => hnamed text, c.firstFault?_mentions, ← c.firstFault?_append]

end Template

open Template

/-- The names in a service: those of its image, then those of its variables in order. -/
def Service.mentions (s : Service) : List (String × String) :=
  let place := "service '" ++ s.name ++ "'"
  Template.mentions (place ++ " image") s.image
    ++ mentionsOf (place ++ " env") (s.env.map fun v => (v.name, v.value))

/-- The names in a step: those of its command, then those of its arguments in order. -/
def Step.mentions (index : Int) (s : Step) : List (String × String) :=
  let place := "step " ++ toString index
  Template.mentions (place ++ " command") s.command
    ++ mentionsOf (place ++ " arg") (s.args.map fun a => (a.name, a.value))

/-- A service fails with the first of its names that has no value. -/
theorem Service.failure?_resolve (c : Context) (s : Service) :
    failure? (s.resolve c) = c.firstFault? s.mentions :=
  failure?_resolve_resolveNamed ..

/-- A step fails with the first of its names that has no value. -/
theorem Step.failure?_resolve (c : Context) (index : Int) (s : Step) :
    failure? (s.resolve c index) = c.firstFault? (s.mentions index) :=
  failure?_resolve_resolveNamed ..

namespace Template

/-! ### Two instances of a job -/

variable {c c' : Context}

/-- Two computations that go the same way: both are done, when all names have values for both; or both
fail with the first name that has none, for either of them. -/
inductive FailAlike {α : Type} (c c' : Context) (ms : List (String × String)) :
    Except Fault α → Except Fault α → Prop
  | done (a b : α) (bound : ∀ m ∈ ms, c.lacks m.2 = false ∧ c'.lacks m.2 = false) :
      FailAlike c c' ms (.ok a) (.ok b)
  | failed {before after : List (String × String)} {m : String × String}
      (first : ms = before ++ m :: after)
      (bound : ∀ k ∈ before, c.lacks k.2 = false ∧ c'.lacks k.2 = false)
      (unbound : c.lacks m.2 = true ∧ c'.lacks m.2 = true) :
      FailAlike c c' ms (.error (unresolved c (some m.1) m.2))
        (.error (unresolved c' (some m.1) m.2))

/-- Where the same names have no values, computations that fail with the first of them go the same
way. -/
theorem failAlike_of_firstFault? {α : Type} {ms : List (String × String)} {x y : Except Fault α}
    (hlacks : ∀ n, c.lacks n = c'.lacks n) (hx : failure? x = c.firstFault? ms)
    (hy : failure? y = c'.firstFault? ms) : FailAlike c c' ms x y := by
  have hsame : (fun m : String × String => c'.lacks m.2) = fun m => c.lacks m.2 :=
    funext fun m => (hlacks m.2).symm
  rw [Context.firstFault?] at hx hy
  rw [hsame] at hy
  cases hfind : ms.find? fun m => c.lacks m.2 with
  | none =>
      rw [hfind] at hx hy
      obtain ⟨a, rfl⟩ := failure?_eq_none_iff.1 hx
      obtain ⟨b, rfl⟩ := failure?_eq_none_iff.1 hy
      refine .done a b fun m hm => ?_
      have hbound := List.find?_eq_none.1 hfind m hm
      rw [Bool.not_eq_true] at hbound
      exact ⟨hbound, hlacks m.2 ▸ hbound⟩
  | some m =>
      rw [hfind] at hx hy
      obtain rfl := failure?_eq_some_iff.1 hx
      obtain rfl := failure?_eq_some_iff.1 hy
      obtain ⟨hunbound, before, after, hsplit, hbefore⟩ := List.find?_eq_some_iff_append.1 hfind
      refine .failed hsplit (fun k hk => ?_) ⟨hunbound, hlacks m.2 ▸ hunbound⟩
      have hbound : c.lacks k.2 = false := Bool.not_eq_true' _ ▸ hbefore k hk
      exact ⟨hbound, hlacks k.2 ▸ hbound⟩

/-- Instances of one job have values for the same names. -/
theorem lacks_eq_of_expand {j : Job} {stageName stageName' : String} {cap cap' start start' : Int}
    {made made' : List JobInstance} {i i' : JobInstance}
    (h : j.expand stageName cap start = .ok made) (hi : i ∈ made)
    (h' : j.expand stageName' cap' start' = .ok made') (hi' : i' ∈ made')
    (hc : c.bindings = i.bindings) (hc' : c'.bindings = i'.bindings) (n : String) :
    c.lacks n = c'.lacks n := by
  have hsome : (lookup c.bindings n).isSome = true ↔ (lookup c'.bindings n).isSome = true := by
    rw [hc, hc', Job.isSome_lookup_of_expand h hi, Job.isSome_lookup_of_expand h' hi']
  rw [Context.lacks, Context.lacks, ← Option.not_isSome, ← Option.not_isSome, Bool.eq_iff_iff.2 hsome]

/-- **What filling in depends on**: a text fails just when one of its names has no value, and tells the
first one; its result depends on the values of its names only; and of two instances of one job, a
service or a step fails for both or for neither, with the same name: the first, in the order of its
texts, that has no value. -/
theorem resolve_fails_iff (c c' : Context) :
    (∀ (source source' : Option String) (s : String),
      ((∃ f, resolve c source s = .error f) ↔ ∃ n ∈ names s, c.lacks n = true) ∧
      (∀ f, resolve c source s = .error f ↔
        ∃ n, (names s).find? c.lacks = some n ∧ f = unresolved c source n) ∧
      ((∀ n ∈ names s, lookup c.bindings n = lookup c'.bindings n) →
        ∀ r, resolve c source s = .ok r → resolve c' source' s = .ok r)) ∧
    ∀ (j : Job) (stageName stageName' : String) (cap cap' start start' : Int)
      (made made' : List JobInstance), j.expand stageName cap start = .ok made →
      j.expand stageName' cap' start' = .ok made' → ∀ i ∈ made, ∀ i' ∈ made',
      c.bindings = i.bindings → c'.bindings = i'.bindings →
        (∀ s : Service, FailAlike c c' s.mentions (s.resolve c) (s.resolve c')) ∧
        ∀ (n : Int) (s : Step), FailAlike c c' (s.mentions n) (s.resolve c n) (s.resolve c' n) := by
  constructor
  · intro source source' s
    have hfault : ∀ f, resolve c source s = .error f ↔
        ∃ n, (names s).find? c.lacks = some n ∧ f = unresolved c source n := by
      intro f
      rw [← failure?_eq_some_iff, failure?_resolve, Option.map_eq_some_iff]
      simp only [eq_comm]
    refine ⟨?_, hfault, fun hagree r hr => resolve_of_agree hagree hr⟩
    constructor
    · rintro ⟨f, hf⟩
      obtain ⟨n, hn, -⟩ := (hfault f).1 hf
      exact ⟨n, List.mem_of_find?_eq_some hn, List.find?_some hn⟩
    · rintro ⟨n, hmem, hlacks⟩
      obtain ⟨first, hfirst⟩ := Option.isSome_iff_exists.1 (List.find?_isSome.2 ⟨n, hmem, hlacks⟩)
      exact ⟨_, (hfault _).2 ⟨first, hfirst, rfl⟩⟩
  · intro j _ _ _ _ _ _ made made' h h' i hi i' hi' hc hc'
    have hlacks := lacks_eq_of_expand h hi h' hi' hc hc'
    constructor
    · intro s
      exact failAlike_of_firstFault? hlacks (s.failure?_resolve c) (s.failure?_resolve c')
    · intro n s
      exact failAlike_of_firstFault? hlacks (s.failure?_resolve c n) (s.failure?_resolve c' n)

/-- A job for two systems. -/
def perSystem : Job :=
  { name := "test", matrix := [⟨"os", ["linux", "macos"]⟩, ⟨"py", ["3.12"]⟩] }

/-- Its instance for a system. -/
def onSystem (os : String) (index : Int) : JobInstance :=
  { identity := "test-" ++ os ++ "-3.12", stageName := "ci", job := perSystem,
    bindings := [("os", os), ("py", "3.12")], index }

/-- The values of that instance. -/
def systemContext (os : String) : Context := { bindings := (onSystem os 0).bindings }

/-- A service whose image has a value, and one of whose variables has none. -/
def database : Service :=
  { name := "db", image := "postgres:$\x7bpy\x7d",
    env := [⟨"HOST", "$\x7bos\x7d"⟩, ⟨"VERSION", "$$\x7bos\x7d $\x7bpg\x7d"⟩] }

/-- The first name without a value is told; a name whose values agree gives the same text; and for both
systems the database fails in the same way. -/
theorem resolve_fails_iff_perSystem :
    (∃ f, resolve (systemContext "linux") none "$\x7bos\x7d-$\x7bpg\x7d-$\x7bgem\x7d" = .error f) ∧
    resolve (systemContext "linux") none "$\x7bos\x7d-$\x7bpg\x7d-$\x7bgem\x7d" =
      .error (unresolved (systemContext "linux") none "pg") ∧
    resolve (systemContext "macos") none "py$\x7bpy\x7d" = .ok "py3.12" ∧
    FailAlike (systemContext "linux") (systemContext "macos") database.mentions
      (database.resolve (systemContext "linux")) (database.resolve (systemContext "macos")) := by
  obtain ⟨htexts, hinstances⟩ := resolve_fails_iff (systemContext "linux") (systemContext "macos")
  have hexpand : perSystem.expand "ci" 256 0 = .ok [onSystem "linux" 0, onSystem "macos" 1] := rfl
  refine ⟨?_, ?_, ?_, ?_⟩
  · exact (htexts none none _).1.2 ⟨"pg", by decide +kernel, by decide +kernel⟩
  · exact ((htexts none none _).2.1 _).2 ⟨"pg", by decide +kernel, rfl⟩
  · exact (htexts none none _).2.2 (by decide +kernel) _
      (resolve_eq_ok_of_toOption (by decide +kernel))
  · exact (hinstances perSystem "ci" "ci" 256 256 0 0 _ _ hexpand hexpand _ (List.mem_cons_self ..) _
      (List.mem_cons_of_mem _ (List.mem_cons_self ..)) rfl rfl).1 database

end Template

end Conveyor
