/-
**Which refs set off a trigger.**

A trigger that is no schedule reads the short form of the ref of an event: the front of branches or tags
is dropped, once, and the pattern has to read what is left.  So it makes no difference whether a short
ref comes with its front or without it.  The pattern itself is not shortened: one that is written with
the front waits for refs with that front twice.

Main definitions:

* `Conveyor.TriggerKind.HasFront` — the fronts of the kinds of triggers;
* `Conveyor.TriggerKind.Shortens` — the short form of a ref.

Main results:

* `Conveyor.TriggerKind.shortens_iff` — each ref has one short form;
* `Conveyor.Trigger.fires_iff_cuts` — **a trigger waits for the refs whose short form its pattern
  reads**;
* `Conveyor.Trigger.fires_own_ref` — **a literal trigger waits for its own pattern if that has no
  front**, and fronts of short refs do not matter;
* `Conveyor.Trigger.exists_own_ref_missed` — there are triggers that do not wait for their own pattern.
-/

import Conveyor.Proofs.Trigger.Glob
import Conveyor.Trigger.Matcher

set_option autoImplicit false

namespace Conveyor

/-! ### Short refs -/

namespace TriggerKind

/-- The fronts of the kinds of triggers: those of branches and of tags. -/
inductive HasFront : TriggerKind → String → Prop
  | push : HasFront .push "refs/heads/"
  | pullRequest : HasFront .pullRequest "refs/heads/"
  | tag : HasFront .tag "refs/tags/"

/-- Whether a ref begins with the front of a kind. -/
def Fronted (k : TriggerKind) (ref : String) : Prop :=
  ∃ front rest, k.HasFront front ∧ ref = front ++ rest

/-- The short form of a ref: what follows the front, or the whole ref if it does not begin with it. -/
inductive Shortens (k : TriggerKind) : String → String → Prop
  | fronted {front : String} (hfront : k.HasFront front) (rest : String) :
      Shortens k (front ++ rest) rest
  | whole {ref : String} (hwhole : ¬ k.Fronted ref) : Shortens k ref ref

variable {k : TriggerKind} {front ref short : String}

theorem hasFront_iff : k.HasFront front ↔ k.refFront? = some front := by
  constructor
  · intro h
    cases h <;> rfl
  · intro h
    cases k <;> cases h <;> constructor

/-- What follows the front of a ref is its short form. -/
theorem HasFront.shortRef_append (h : k.HasFront front) (rest : String) :
    k.shortRef (front ++ rest) = rest := by
  have hbegins : front.toList.isPrefixOf (front ++ rest).toList = true := by
    rw [String.toList_append, List.isPrefixOf_iff_prefix]
    exact List.prefix_append ..
  simp only [shortRef, hasFront_iff.1 h, if_pos hbegins]
  rw [String.toList_append, ← String.length_toList, List.drop_left, String.ofList_toList]

theorem shortRef_of_not_fronted (h : ¬ k.Fronted ref) : k.shortRef ref = ref := by
  rw [shortRef]
  split
  · rfl
  · rename_i front hfront
    refine if_neg fun hbegins => h ?_
    obtain ⟨rest, hrest⟩ := List.isPrefixOf_iff_prefix.1 hbegins
    refine ⟨front, String.ofList rest, hasFront_iff.2 hfront, String.toList_inj.1 ?_⟩
    rw [String.toList_append, String.toList_ofList, hrest]

/-- Each ref has one short form. -/
theorem shortens_iff : k.Shortens ref short ↔ k.shortRef ref = short := by
  constructor
  · intro h
    cases h with
    | fronted hfront => exact hfront.shortRef_append short
    | whole hwhole => exact shortRef_of_not_fronted hwhole
  · rintro rfl
    by_cases hfronted : k.Fronted ref
    · obtain ⟨front, rest, hfront, rfl⟩ := hfronted
      have hshort : k.Shortens (front ++ rest) rest := .fronted hfront rest
      rwa [hfront.shortRef_append]
    · rw [shortRef_of_not_fronted hfronted]
      exact .whole hfronted

/-- A ref is its own short form just if it has no front. -/
theorem shortRef_eq_self_iff : k.shortRef ref = ref ↔ ¬ k.Fronted ref := by
  constructor
  · rintro hself ⟨front, rest, hfront, rfl⟩
    rw [hfront.shortRef_append] at hself
    have hlength := congrArg String.length hself
    rw [String.length_append] at hlength
    have hpos : 0 < front.length := by cases hfront <;> decide
    omega
  · exact shortRef_of_not_fronted

/-- In front of a short ref, a front makes no difference. -/
theorem HasFront.shortRef_eq (h : k.HasFront front) (hshort : ¬ k.Fronted ref) :
    k.shortRef (front ++ ref) = k.shortRef ref := by
  rw [h.shortRef_append, shortRef_of_not_fronted hshort]

end TriggerKind

/-! ### Triggers -/

namespace Trigger

variable {k : TriggerKind} {pattern : String}

/-- A trigger that is no schedule is compared with the short form of the ref. -/
theorem fires_eq (hk : k ≠ .schedule) (pattern : String) (e : Event) :
    fires ⟨k, pattern⟩ e =
      .ok (k.name == e.kind && Glob.matchesText pattern (k.shortRef e.ref)) := by
  rw [fires]
  by_cases hkind : k.name = e.kind
  · rw [if_neg (not_not.2 hkind), beq_iff_eq.2 hkind, Bool.true_and]
    cases k with
    | schedule => exact absurd rfl hk
    | _ => rfl
  · rw [if_pos hkind, beq_eq_false_iff_ne.2 hkind, Bool.false_and]

/-- **A trigger waits for the refs whose short form its pattern reads**: if it is no schedule and has no
sets, it answers every event, and says yes just if the event is of its kind and the short form of the
ref can be cut along the characters of the pattern. -/
theorem fires_iff_cuts (t : Trigger) (hkind : t.kind ≠ .schedule) (hset : '[' ∉ t.pattern.toList)
    (e : Event) :
    ∃ answer, t.fires e = .ok answer ∧
      (answer = true ↔ t.kind.name = e.kind ∧
        ∃ short, t.kind.Shortens e.ref short ∧ Glob.Cuts t.pattern short) := by
  refine ⟨_, fires_eq hkind t.pattern e, ?_⟩
  rw [Bool.and_eq_true, beq_iff_eq, Glob.matchesText_iff_cuts hset]
  refine and_congr_right fun _ => ?_
  simp only [TriggerKind.shortens_iff, exists_eq_left']

/-- Stars also stand for slashes and for line feeds, and only one front is dropped. -/
theorem fires_iff_cuts_release :
    TriggerKind.push ≠ .schedule ∧ '[' ∉ "rel*/?.x*".toList ∧
      fires ⟨.push, "rel*/?.x*"⟩ ⟨"push", "refs/heads/release/a/1.x\n"⟩ = .ok true ∧
      fires ⟨.push, "rel*/?.x*"⟩ ⟨"push", "refs/heads/refs/heads/rel/1.x"⟩ = .ok false := by
  have hkind : TriggerKind.push ≠ .schedule := by decide
  have hset : '[' ∉ "rel*/?.x*".toList := by decide
  refine ⟨hkind, hset, ?_, ?_⟩
  · obtain ⟨answer, hfires, hiff⟩ := fires_iff_cuts ⟨.push, "rel*/?.x*"⟩ hkind hset
      ⟨"push", "refs/heads/release/a/1.x\n"⟩
    have hshort : TriggerKind.push.Shortens "refs/heads/release/a/1.x\n" "release/a/1.x\n" :=
      .fronted .push "release/a/1.x\n"
    have hcuts : Glob.Cuts "rel*/?.x*" "release/a/1.x\n" :=
      (Glob.matchesText_iff_cuts hset).1 (by decide)
    rw [hfires, hiff.2 ⟨rfl, _, hshort, hcuts⟩]
  · obtain ⟨answer, hfires, hiff⟩ := fires_iff_cuts ⟨.push, "rel*/?.x*"⟩ hkind hset
      ⟨"push", "refs/heads/refs/heads/rel/1.x"⟩
    have hcuts : ¬ Glob.Cuts "rel*/?.x*" "refs/heads/rel/1.x" :=
      mt (Glob.matchesText_iff_cuts hset).2 (by decide)
    have hno : answer = false := by
      refine Bool.eq_false_iff.2 fun hyes => ?_
      obtain ⟨-, short, hshort, hcut⟩ := hiff.1 hyes
      obtain rfl := TriggerKind.shortens_iff.1 hshort
      exact hcuts hcut
    rw [hfires, hno]

/-- A literal trigger waits for the refs whose short form is its pattern. -/
theorem fires_literal_iff (hk : k ≠ .schedule) (hliteral : Glob.IsLiteral pattern) (ref : String) :
    ∃ answer, fires ⟨k, pattern⟩ ⟨k.name, ref⟩ = .ok answer ∧
      (answer = true ↔ k.shortRef ref = pattern) := by
  refine ⟨_, fires_eq hk pattern ⟨k.name, ref⟩, ?_⟩
  rw [Bool.and_eq_true, beq_iff_eq, Glob.matchesText_iff_eq hliteral]
  exact and_iff_right rfl

/-- **A literal trigger waits for its own pattern just if that does not begin with the front of its
kind**, and for its pattern behind a front in any case.  In front of a ref that does not begin with
it, a front makes no difference, whatever the pattern is. -/
theorem fires_own_ref (k : TriggerKind) (pattern : String) (hk : k ≠ .schedule) :
    (Glob.IsLiteral pattern →
      (∃ answer, fires ⟨k, pattern⟩ ⟨k.name, pattern⟩ = .ok answer ∧
        (answer = true ↔ ¬ k.Fronted pattern)) ∧
      ∀ front, k.HasFront front → fires ⟨k, pattern⟩ ⟨k.name, front ++ pattern⟩ = .ok true) ∧
    ∀ front, k.HasFront front → ∀ kind ref : String, ¬ k.Fronted ref →
      fires ⟨k, pattern⟩ ⟨kind, front ++ ref⟩ = fires ⟨k, pattern⟩ ⟨kind, ref⟩ := by
  refine ⟨fun hliteral => ⟨?_, fun front hfront => ?_⟩, fun front hfront kind ref hshort => ?_⟩
  · simpa only [TriggerKind.shortRef_eq_self_iff] using fires_literal_iff hk hliteral pattern
  · obtain ⟨answer, hfires, hiff⟩ := fires_literal_iff hk hliteral (front ++ pattern)
    rw [hfires, hiff.2 (hfront.shortRef_append pattern)]
  · rw [fires_eq hk, fires_eq hk]
    simp only [hfront.shortRef_eq hshort]

/-- A push to a branch, with a pattern that is the name of the branch or its whole ref. -/
theorem fires_own_ref_main :
    TriggerKind.push ≠ .schedule ∧ Glob.IsLiteral "main" ∧ Glob.IsLiteral "refs/heads/main" ∧
      TriggerKind.HasFront .push "refs/heads/" ∧ ¬ TriggerKind.Fronted .push "main" ∧
      fires ⟨.push, "main"⟩ ⟨"push", "main"⟩ = .ok true ∧
      fires ⟨.push, "refs/heads/main"⟩ ⟨"push", "refs/heads/main"⟩ = .ok false ∧
      fires ⟨.push, "refs/heads/main"⟩ ⟨"push", "refs/heads/" ++ "refs/heads/main"⟩ = .ok true ∧
      fires ⟨.push, "[!r]*"⟩ ⟨"push", "refs/heads/" ++ "main"⟩ =
        fires ⟨.push, "[!r]*"⟩ ⟨"push", "main"⟩ := by
  have hkind : TriggerKind.push ≠ .schedule := by decide
  have hshort : Glob.IsLiteral "main" := by decide
  have hwhole : Glob.IsLiteral "refs/heads/main" := by decide
  have hmain : ¬ TriggerKind.Fronted .push "main" :=
    TriggerKind.shortRef_eq_self_iff.1 (by decide)
  have hfronted : TriggerKind.Fronted .push "refs/heads/main" := ⟨_, "main", .push, by decide⟩
  obtain ⟨yes, hyes, hyesiff⟩ := ((fires_own_ref .push "main" hkind).1 hshort).1
  obtain ⟨⟨no, hno, hnoiff⟩, hbehind⟩ := (fires_own_ref .push "refs/heads/main" hkind).1 hwhole
  obtain rfl : yes = true := hyesiff.2 hmain
  obtain rfl : no = false := Bool.eq_false_iff.2 fun h => hnoiff.1 h hfronted
  exact ⟨hkind, hshort, hwhole, .push, hmain, hyes, hno, hbehind _ .push,
    (fires_own_ref .push "[!r]*" hkind).2 _ .push "push" "main" hmain⟩

/-- Not every literal pattern that is accepted has a trigger that waits for it. -/
theorem exists_own_ref_missed :
    ¬ ∀ (k : TriggerKind) (pattern : String), k ≠ .schedule → Glob.IsLiteral pattern →
      patternError? ⟨k, pattern⟩ = none → fires ⟨k, pattern⟩ ⟨k.name, pattern⟩ = .ok true := by
  intro h
  have hfires := h .push "refs/heads/main" (by decide) (by decide) (by decide)
  obtain ⟨answer, hanswer, hiff⟩ :=
    fires_literal_iff (k := .push) (by decide) (by decide : Glob.IsLiteral "refs/heads/main")
      "refs/heads/main"
  obtain rfl : answer = true := Except.ok.inj (hanswer.symm.trans hfires)
  exact absurd (hiff.1 rfl) (by decide)

end Trigger

end Conveyor
