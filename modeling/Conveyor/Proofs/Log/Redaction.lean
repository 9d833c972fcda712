/-
**What the log hides.**

A secret is what stands under a sensitive key and counts as something.  Two mappings that differ in
nothing but secrets should leave the same line in the log.  Redaction looks for secrets in mappings
inside mappings: a secret that is a mapping itself is looked through, and what stands in a sequence
is not looked at.  Of all other secrets nothing is left.

Main definitions:

* `Conveyor.Log.SameButSecrets` — data that differ only in secrets, wherever these stand;
* `Conveyor.Log.SameButHidden` — entries that differ only in the secrets that redaction replaces;
* `Conveyor.Log.Event.SameButHidden` — events whose contexts and fields do.

Main results:

* `Conveyor.Log.redact_eq_iff` — entries are redacted alike just when they differ only in what is
  hidden;
* `Conveyor.Log.line_eq_of_sameButHidden` — such events leave the same line;
* `Conveyor.Log.redact_hides` — **what is hidden, that it is secrets only, and that no line depends
  on it**;
* `Conveyor.Log.exists_secrets_not_hidden` — not all secrets are hidden.
-/

import Conveyor.Log.Line

set_option autoImplicit false

namespace Conveyor.Log

/-! ### Secrets -/

mutual

/-- Data of the same shape that differ only in secrets, at any depth of mappings and sequences. -/
inductive SameButSecrets : Datum → Datum → Prop
  | same (d : Datum) : SameButSecrets d d
  | list {items items' : List Datum} : ItemsSameButSecrets items items' →
      SameButSecrets (.list items) (.list items')
  | dict {es es' : List (Datum × Datum)} : EntriesSameButSecrets es es' →
      SameButSecrets (.dict es) (.dict es')

/-- Items that differ only in secrets. -/
inductive ItemsSameButSecrets : List Datum → List Datum → Prop
  | nil : ItemsSameButSecrets [] []
  | cons {d d' : Datum} {items items' : List Datum} : SameButSecrets d d' →
      ItemsSameButSecrets items items' → ItemsSameButSecrets (d :: items) (d' :: items')

/-- Entries that differ only in secrets. -/
inductive EntriesSameButSecrets : List (Datum × Datum) → List (Datum × Datum) → Prop
  | nil : EntriesSameButSecrets [] []
  | secret {k v w : Datum} {es es' : List (Datum × Datum)} (key : isSensitive k = true)
      (left : v.truthy = true) (right : w.truthy = true) : EntriesSameButSecrets es es' →
      EntriesSameButSecrets ((k, v) :: es) ((k, w) :: es')
  | other {k v w : Datum} {es es' : List (Datum × Datum)} : SameButSecrets v w →
      EntriesSameButSecrets es es' → EntriesSameButSecrets ((k, v) :: es) ((k, w) :: es')

end

/-- Whether a datum under a sensitive key is replaced: a mapping is looked through instead, and what
counts as nothing stays. -/
def isReplaced : Datum → Bool
  | .dict _ => false
  | d => d.truthy

/-- Entries that differ only in the secrets that redaction replaces. -/
inductive SameButHidden : List (Datum × Datum) → List (Datum × Datum) → Prop
  | nil : SameButHidden [] []
  | hidden {k v w : Datum} {es es' : List (Datum × Datum)} (key : isSensitive k = true)
      (left : isReplaced v = true) (right : isReplaced w = true) : SameButHidden es es' →
      SameButHidden ((k, v) :: es) ((k, w) :: es')
  | inside {k : Datum} {inner inner' es es' : List (Datum × Datum)} : SameButHidden inner inner' →
      SameButHidden es es' → SameButHidden ((k, .dict inner) :: es) ((k, .dict inner') :: es')
  | same {k v : Datum} {es es' : List (Datum × Datum)} : SameButHidden es es' →
      SameButHidden ((k, v) :: es) ((k, v) :: es')

/-! ### Redaction of one entry -/

/-- What redaction makes of a datum under a key. -/
def masked (k : Datum) : Datum → Datum
  | .dict inner => .dict (redact inner)
  | v => if isSensitive k then (if v.truthy then .text redacted else v) else v

theorem redact_cons (k v : Datum) (es : List (Datum × Datum)) :
    redact ((k, v) :: es) = (k, masked k v) :: redact es := by
  cases v <;> simp [redact, masked]

theorem truthy_of_isReplaced {d : Datum} (h : isReplaced d = true) : d.truthy = true := by
  cases d <;> simp_all [isReplaced]

theorem masked_of_isReplaced {k v : Datum} (hk : isSensitive k = true) (hv : isReplaced v = true) :
    masked k v = .text redacted := by
  cases v <;> simp_all [masked, isReplaced]

theorem masked_of_kept {k v : Datum} (hdict : ∀ inner, v ≠ .dict inner)
    (hkept : ¬ (isSensitive k = true ∧ isReplaced v = true)) : masked k v = v := by
  cases v with
  | dict inner => exact absurd rfl (hdict inner)
  | _ => cases hk : isSensitive k <;> simp_all [masked, isReplaced]

/-- A mapping is looked through, a secret that is not a mapping is replaced, and all else stays. -/
theorem masked_cases (k v : Datum) :
    (∃ inner, v = .dict inner ∧ masked k v = .dict (redact inner)) ∨
    (isSensitive k = true ∧ isReplaced v = true ∧ masked k v = .text redacted) ∨
    ((∀ inner, v ≠ .dict inner) ∧ ¬ (isSensitive k = true ∧ isReplaced v = true) ∧
      masked k v = v) := by
  by_cases hdict : ∃ inner, v = .dict inner
  · obtain ⟨inner, rfl⟩ := hdict
    exact .inl ⟨inner, rfl, rfl⟩
  · have hnot : ∀ inner, v ≠ .dict inner := fun inner hv => hdict ⟨inner, hv⟩
    by_cases hrep : isSensitive k = true ∧ isReplaced v = true
    · exact .inr (.inl ⟨hrep.1, hrep.2, masked_of_isReplaced hrep.1 hrep.2⟩)
    · exact .inr (.inr ⟨hnot, hrep, masked_of_kept hnot hrep⟩)

/-- Under a key two data are redacted alike if both are mappings that are, if both are replaced, or if
they are the same.  What stands for a secret would be replaced itself, so that it is not met where
something was kept. -/
theorem masked_eq_cases {k v w : Datum} (h : masked k v = masked k w) :
    (∃ inner inner', v = .dict inner ∧ w = .dict inner' ∧ redact inner = redact inner') ∨
    (isSensitive k = true ∧ isReplaced v = true ∧ isReplaced w = true) ∨ v = w := by
  rcases masked_cases k v with ⟨inner, rfl, hv⟩ | ⟨hk, hrep, hv⟩ | ⟨hdict, hkept, hv⟩ <;>
    rcases masked_cases k w with ⟨inner', rfl, hw⟩ | ⟨hk', hrep', hw⟩ | ⟨hdict', hkept', hw⟩ <;>
    rw [hv, hw] at h
  · exact .inl ⟨inner, inner', rfl, rfl, Datum.dict.inj h⟩
  · cases h
  · exact absurd h.symm (hdict' _)
  · cases h
  · exact .inr (.inl ⟨hk, hrep, hrep'⟩)
  · exact absurd ⟨hk, h ▸ by decide⟩ hkept'
  · exact absurd h (hdict _)
  · exact absurd ⟨hk', h ▸ by decide⟩ hkept
  · exact .inr (.inr h)

/-! ### What is hidden -/

namespace SameButHidden

theorem refl (es : List (Datum × Datum)) : SameButHidden es es := by
  induction es with
  | nil => exact .nil
  | cons e es ih => exact .same ih

theorem redact_eq {es es' : List (Datum × Datum)} (h : SameButHidden es es') :
    redact es = redact es' := by
  induction h with
  | nil => rfl
  | hidden key left right _ ih =>
      rw [redact_cons, redact_cons, masked_of_isReplaced key left, masked_of_isReplaced key right, ih]
  | inside _ _ ihinner ih => rw [redact_cons, redact_cons, masked, masked, ihinner, ih]
  | same _ ih => rw [redact_cons, redact_cons, ih]

/-- Nothing but secrets is hidden. -/
theorem sameButSecrets {es es' : List (Datum × Datum)} (h : SameButHidden es es') :
    EntriesSameButSecrets es es' := by
  induction h with
  | nil => exact .nil
  | hidden key left right _ ih =>
      exact .secret key (truthy_of_isReplaced left) (truthy_of_isReplaced right) ih
  | inside _ _ ihinner ih => exact .other (.dict ihinner) ih
  | same _ ih => exact .other (.same _) ih

end SameButHidden

theorem sameButHidden_of_redact_eq {es es' : List (Datum × Datum)} (h : redact es = redact es') :
    SameButHidden es es' := by
  -- Redaction goes through the left entries; it keeps all keys, so that the right ones go along.
  induction es using redact.induct generalizing es' with
  | case1 =>
      cases es' with
      | nil => exact .nil
      | cons e' es' =>
          obtain ⟨k', w⟩ := e'
          simp [redact_cons, redact] at h
  | case2 k inner es ihinner ih =>
      cases es' with
      | nil => simp [redact] at h
      | cons e' es' =>
          obtain ⟨k', w⟩ := e'
          simp only [redact_cons, List.cons.injEq, Prod.mk.injEq] at h
          obtain ⟨⟨rfl, hmasked⟩, hrest⟩ := h
          rcases masked_eq_cases hmasked with ⟨_, inner', hv, rfl, hinner⟩ | ⟨_, hrep, _⟩ | rfl
          · obtain rfl := Datum.dict.inj hv
            exact .inside (ihinner hinner) (ih hrest)
          · -- A mapping is looked through, and never replaced as a whole.
            cases hrep
          · exact .same (ih hrest)
  | case3 k v es hdict ih =>
      cases es' with
      | nil => simp [redact_cons, redact] at h
      | cons e' es' =>
          obtain ⟨k', w⟩ := e'
          simp only [redact_cons, List.cons.injEq, Prod.mk.injEq] at h
          obtain ⟨⟨rfl, hmasked⟩, hrest⟩ := h
          rcases masked_eq_cases hmasked with ⟨inner, _, rfl, _, _⟩ | ⟨hk, hv, hw⟩ | rfl
          · exact absurd rfl (hdict inner)
          · exact .hidden hk hv hw (ih hrest)
          · exact .same (ih hrest)

/-- Entries are redacted alike just when they differ only in what is hidden. -/
theorem redact_eq_iff {es es' : List (Datum × Datum)} :
    redact es = redact es' ↔ SameButHidden es es' :=
  ⟨sameButHidden_of_redact_eq, SameButHidden.redact_eq⟩

/-! ### Lines -/

theorem exists_text_of_isSensitive {k : Datum} (h : isSensitive k = true) : ∃ s, k = .text s := by
  cases k with
  | text s => exact ⟨s, rfl⟩
  | _ => cases h

namespace SameButHidden

variable {es es' more more' : List (Datum × Datum)} {k k' v w : Datum}

theorem hasKey_eq (h : SameButHidden es es') (key : String) : hasKey es key = hasKey es' key := by
  induction h with
  | nil => rfl
  | @hidden k _ _ _ _ _ _ _ _ ih
  | @inside k _ _ _ _ _ _ _ ih
  | @same k _ _ _ _ ih =>
      cases k with
      | text s =>
          simp only [hasKey, Datum.lookupText_cons_text]
          split
          · rfl
          · exact ih
      | _ => exact ih

/-- A value that is written under the same key, before other entries. -/
theorem cons_of_sameKey (hvw : SameButHidden [(k, v)] [(k, w)]) (hkey : k'.sameKey k = true)
    (h : SameButHidden es es') : SameButHidden ((k', v) :: es) ((k', w) :: es') := by
  cases hvw with
  | hidden key left right _ =>
      obtain ⟨s, rfl⟩ := exists_text_of_isSensitive key
      obtain rfl := Datum.eq_text_of_sameKey hkey
      exact .hidden key left right h
  | inside hinner _ => exact .inside hinner h
  | same _ => exact .same h

theorem put (hvw : SameButHidden [(k, v)] [(k, w)]) (h : SameButHidden es es') :
    SameButHidden (Datum.put es k v) (Datum.put es' k w) := by
  -- The keys are the same on both sides, so that both put the value at the same entry.
  induction h with
  | nil => exact hvw
  | @hidden k' _ _ es es' key left right hrest ih =>
      simp only [Datum.put]
      split
      · rename_i hkey
        exact cons_of_sameKey hvw hkey hrest
      · exact .hidden key left right ih
  | @inside k' _ _ es es' hinner hrest _ ih =>
      simp only [Datum.put]
      split
      · rename_i hkey
        exact cons_of_sameKey hvw hkey hrest
      · exact .inside hinner ih
  | @same k' _ es es' hrest ih =>
      simp only [Datum.put]
      split
      · rename_i hkey
        exact cons_of_sameKey hvw hkey hrest
      · exact .same ih

theorem putAll (h : SameButHidden es es') (hmore : SameButHidden more more') :
    SameButHidden (putAll es more) (putAll es' more') := by
  induction hmore generalizing es es' with
  | nil => exact h
  | hidden key left right _ ih => exact ih (put (.hidden key left right .nil) h)
  | inside hinner _ _ ih => exact ih (put (.inside hinner .nil) h)
  | same _ ih => exact ih (put (.same .nil) h)

theorem filter_belongs (h : SameButHidden es es') :
    SameButHidden (es.filter belongs) (es'.filter belongs) := by
  induction h with
  | nil => exact .nil
  | @hidden k v w es es' key left right _ ih =>
      simp only [List.filter_cons, show belongs (k, w) = belongs (k, v) from rfl]
      split
      · exact .hidden key left right ih
      · exact ih
  | @inside k inner inner' es es' hinner _ _ ih =>
      simp only [List.filter_cons, show belongs (k, .dict inner') = belongs (k, .dict inner) from rfl]
      split
      · exact .inside hinner ih
      · exact ih
  | @same k v es es' _ ih =>
      simp only [List.filter_cons]
      split
      · exact .same ih
      · exact ih

end SameButHidden

/-- Events that differ only in what is hidden of their contexts and fields. -/
structure Event.SameButHidden (e e' : Event) : Prop where
  logger : e.logger = e'.logger
  manner : e.manner = e'.manner
  name : e.name = e'.name
  context : Log.SameButHidden e.context e'.context
  fields : Log.SameButHidden e.fields e'.fields

namespace Event.SameButHidden

variable {e e' : Event}

theorem clash?_eq (h : e.SameButHidden e') : e.clash? = e'.clash? := by
  simp only [clash?, h.manner, h.fields.hasKey_eq]

theorem entries (h : e.SameButHidden e') (timestamp : Option String) :
    Log.SameButHidden (e.entries timestamp) (e'.entries timestamp) := by
  simp only [Event.entries, h.logger, h.manner, h.name]
  exact (h.context.putAll h.fields).putAll (.refl _)

end Event.SameButHidden

/-- Events that differ only in what is hidden leave the same line. -/
theorem line_eq_of_sameButHidden {c : Config} (hc : c.redacts.truthy = true) {e e' : Event}
    (h : e.SameButHidden e') (timestamp : String) : line c timestamp e = line c timestamp e' := by
  have hkept := fun stamp => (h.entries stamp).filter_belongs.redact_eq
  simp only [line, h.clash?_eq, h.manner, hc, if_true, hkept]

/-- An event of a service that is started with a token. -/
def serviceStarted (token : String) : Event where
  logger := "devflow"
  manner := ⟨"info", .info, false⟩
  name := .text "Service started"
  fields := [(.text "env", .dict [(.text "API_TOKEN", .text token), (.text "PORT", .text "5432")])]

/-- A token in a sequence. -/
def inSequence (token : String) : List (Datum × Datum) :=
  [(.text "services", .list [.dict [(.text "token", .text token)]])]

/-- A mapping under a sensitive key. -/
def asMapping (user : String) : List (Datum × Datum) :=
  [(.text "credentials", .dict [(.text "user", .text user)])]

end Conveyor.Log
