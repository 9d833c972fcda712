/-
**What a cron rule writes.**

The texts that are rules are described by a grammar, from the whole down to a value: a rule is five
words or a name for them, a word is elements with commas between them, an element is a star, a value or
a range, perhaps with a step.  The reader of rules accepts just the texts of the grammar, and the values
that it keeps for a field are those that the elements of the field go through.

Main definitions:

* `Conveyor.Cron.Field.WritesValue`, `Conveyor.Cron.Field.WritesBounds`,
  `Conveyor.Cron.Field.WritesElement`, `Conveyor.Cron.Field.Writes` — the grammar of a field;
* `Conveyor.Cron.StandsFor`, `Conveyor.Cron.Spells`, `Conveyor.Cron.IsRule` — the grammar of a rule;
* `Conveyor.Cron.Admits` — the values that elements go through;
* `Conveyor.Cron.IsExactly` — a list of just the numbers with a property, all within bounds.

Main results:

* `Conveyor.Cron.element_eq_ok_iff`, `Conveyor.Cron.elements_eq_ok_iff` — what is read is what is
  written;
* `Conveyor.Cron.spells_iff` — the text of a rule is what a text spells;
* `Conveyor.Cron.isExactly_valuesOf` — the values of a field;
* `Conveyor.Cron.parse_exact` — **which texts are rules, and what they admit**.
-/

import Mathlib.Data.List.TakeDrop
import Mathlib.Data.List.TakeWhile
import Conveyor.Proofs.Failing
import Conveyor.Proofs.Text.Whole
import Conveyor.Proofs.Text.Words
import Conveyor.Trigger.Cron

set_option autoImplicit false

namespace Conveyor.Cron

/-! ### The grammar -/

namespace Field

variable (f : Field)

/-- A value: a name of the field in any letter case, or a whole number. -/
inductive WritesValue : String → Int → Prop
  | word {s : String} {n : Nat} : f.words.lookup (Text.lower s) = some n → WritesValue s n
  | number {s : String} {n : Int} :
      f.words.lookup (Text.lower s) = none → Text.WritesWhole s.toList n → WritesValue s n

/-- The first and the last value of an element without its step.  A single value is both, but with a
step it goes on to the end of the field. -/
inductive WritesBounds (stepped : Bool) : String → Int → Int → Prop
  | star : WritesBounds stepped "*" f.low f.high
  | range {a b : String} {m n : Int} : '-' ∉ a.toList → f.WritesValue a m → f.WritesValue b n →
      WritesBounds stepped (a ++ "-" ++ b) m n
  | single {s : String} {m : Int} : s ≠ "*" → '-' ∉ s.toList → f.WritesValue s m →
      WritesBounds stepped s m (if stepped then f.high else m)

/-- The values of an element are in order and within the field. -/
def Holds (e : Element) : Prop := f.low ≤ e.first ∧ e.first ≤ e.last ∧ e.last ≤ f.high

/-- An element: bounds, perhaps with a slash and a step after them. -/
inductive WritesElement : String → Element → Prop
  | plain {s : String} {e : Element} : s ≠ "" → '/' ∉ s.toList →
      f.WritesBounds false s e.first e.last → e.step = 1 → f.Holds e → WritesElement s e
  | stepped {base step : String} {e : Element} : '/' ∉ base.toList →
      f.WritesBounds true base e.first e.last → Text.WritesWhole step.toList e.step → f.Holds e →
      WritesElement (base ++ "/" ++ step) e

/-- A field: elements with commas between them. -/
def Writes (s : String) (es : List Element) : Prop :=
  ∃ parts : List String, parts ≠ [] ∧ (∀ part ∈ parts, ',' ∉ part.toList) ∧
    s = ",".intercalate parts ∧ List.Forall₂ f.WritesElement parts es

end Field

/-- One of something for each field of a rule. -/
structure Fields (α : Type) where
  minute : α
  hour : α
  day : α
  month : α
  weekday : α

/-- What there is for the fields, in their order. -/
def Fields.toList {α : Type} (t : Fields α) : List α := [t.minute, t.hour, t.day, t.month, t.weekday]

/-- The names that stand for rules. -/
inductive StandsFor : String → String → Prop
  | yearly : StandsFor "@yearly" "0 0 1 1 *"
  | annually : StandsFor "@annually" "0 0 1 1 *"
  | monthly : StandsFor "@monthly" "0 0 1 * *"
  | weekly : StandsFor "@weekly" "0 0 * * 0"
  | daily : StandsFor "@daily" "0 0 * * *"
  | midnight : StandsFor "@midnight" "0 0 * * *"
  | hourly : StandsFor "@hourly" "0 * * * *"

/-- What a text spells: the rule that it names, in any letter case, or itself if it names none.  Blanks
around it do not count. -/
inductive Spells (s : String) : String → Prop
  | name {core rule : String} : Text.Surrounded core.toList s.toList →
      StandsFor (Text.lower core) rule → Spells s rule
  | plain {core : String} : Text.Surrounded core.toList s.toList →
      (∀ rule, ¬StandsFor (Text.lower core) rule) → Spells s core

/-- A rule: what it spells is five words, each with the elements of its field. -/
structure IsRule (s : String) (words : Fields String) (es : Fields (List Element)) : Prop where
  cut : ∃ rule, Spells s rule ∧ Text.Separated rule.toList (words.toList.map String.toList)
  minute : minuteField.Writes words.minute es.minute
  hour : hourField.Writes words.hour es.hour
  day : dayField.Writes words.day es.day
  month : monthField.Writes words.month es.month
  weekday : weekdayField.Writes words.weekday es.weekday

/-- The values that elements go through. -/
def Admits (es : List Element) (n : Nat) : Prop :=
  ∃ e ∈ es, n ≤ e.last ∧ ∃ k, n = e.first + k * e.step

/-- A list has just the numbers with a property.  There are some, and they are within bounds. -/
structure IsExactly (ns : List Nat) (p : Nat → Prop) (low high : Nat) : Prop where
  mem_iff : ∀ n, n ∈ ns ↔ p n
  ne_nil : ns ≠ []
  within : ∀ n ∈ ns, low ≤ n ∧ n ≤ high

/-! ### Cutting -/

section
variable {x : Char} {s a b : String}

theorem cut?_of_split (hx : x ∉ a.toList) (hs : s.toList = a.toList ++ x :: b.toList) :
    cut? x s = some (a, b) := by
  have hfront : ∀ c ∈ a.toList, (c != x) = true := fun c hc => bne_iff_ne.2 fun h => hx (h ▸ hc)
  rw [cut?, hs, List.span_eq_takeWhile_dropWhile, List.takeWhile_append_of_pos hfront,
    List.dropWhile_append_of_pos hfront]
  simp

theorem cut?_of_not_mem (hx : x ∉ s.toList) : cut? x s = none := by
  have hall : ∀ c ∈ s.toList, (c != x) = true := fun c hc => bne_iff_ne.2 fun h => hx (h ▸ hc)
  rw [cut?, List.span_eq_takeWhile_dropWhile, List.dropWhile_eq_nil_iff.2 hall]

/-- A text has a first place where a character stands, or none. -/
theorem not_mem_or_split (x : Char) (s : String) : x ∉ s.toList ∨
    ∃ a b : String, x ∉ a.toList ∧ s.toList = a.toList ++ x :: b.toList := by
  by_cases hx : x ∈ s.toList
  · obtain ⟨front, rest, hs, hfront⟩ := List.eq_append_cons_of_mem hx
    refine .inr ⟨String.ofList front, String.ofList rest, ?_, ?_⟩
    · rwa [String.toList_ofList]
    · rwa [String.toList_ofList, String.toList_ofList]
  · exact .inl hx

end

/-! ### Elements -/

section
variable {f : Field} {s base : String} {stepped : Bool} {m n : Int} {e : Element} {es : List Element}

theorem value_of_lookup_eq_none (h : f.words.lookup (Text.lower s) = none) :
    value f s = .ok n ↔ Text.WritesWhole s.toList n := by
  rw [← Text.wholeNumber_eq_ok_iff, value, h]
  cases Text.wholeNumber s <;> simp

theorem value_eq_ok_iff : value f s = .ok n ↔ f.WritesValue s n := by
  cases hlookup : f.words.lookup (Text.lower s) with
  | some k =>
      rw [value, hlookup]
      constructor
      · intro h
        obtain rfl := Except.ok.inj h
        exact .word hlookup
      · intro h
        cases h with
        | word hk => rw [Option.some.inj (hlookup.symm.trans hk)]
        | number hnone _ => exact nomatch hlookup.symm.trans hnone
  | none =>
      rw [value_of_lookup_eq_none hlookup]
      constructor
      · exact .number hlookup
      · intro h
        cases h with
        | word hk => exact nomatch hlookup.symm.trans hk
        | number _ hwhole => exact hwhole

theorem bounds_range {a b : String} (ha : '-' ∉ a.toList) :
    bounds f (a ++ "-" ++ b) stepped = .ok (m, n) ↔ f.WritesValue a m ∧ f.WritesValue b n := by
  have hstar : a ++ "-" ++ b ≠ "*" := by
    intro h
    have hmem : '-' ∈ (a ++ "-" ++ b).toList := by simp
    rw [h] at hmem
    exact absurd hmem (by decide)
  rw [bounds, if_neg hstar, cut?_of_split (b := b) ha (by simp)]
  simp only [bind_eq_ok_iff, value_eq_ok_iff]
  constructor
  · rintro ⟨m', hm, n', hn, h⟩
    obtain ⟨rfl, rfl⟩ := Prod.mk.inj (Except.ok.inj h)
    exact ⟨hm, hn⟩
  · rintro ⟨hm, hn⟩
    exact ⟨m, hm, n, hn, rfl⟩

theorem bounds_single (hs : s ≠ "*") (hdash : '-' ∉ s.toList) :
    bounds f s stepped = .ok (m, n) ↔
      f.WritesValue s m ∧ n = if stepped then (f.high : Int) else m := by
  rw [bounds, if_neg hs, cut?_of_not_mem hdash]
  simp only [bind_eq_ok_iff, value_eq_ok_iff]
  constructor
  · rintro ⟨m', hm, h⟩
    obtain ⟨rfl, rfl⟩ := Prod.mk.inj (Except.ok.inj h)
    exact ⟨hm, rfl⟩
  · rintro ⟨hm, rfl⟩
    exact ⟨m, hm, rfl⟩

theorem bounds_eq_ok_iff : bounds f s stepped = .ok (m, n) ↔ f.WritesBounds stepped s m n := by
  constructor
  · intro h
    by_cases hs : s = "*"
    · subst hs
      cases h
      exact .star
    · rcases not_mem_or_split '-' s with hdash | ⟨a, b, ha, hsplit⟩
      · obtain ⟨hm, rfl⟩ := (bounds_single hs hdash).1 h
        exact .single hs hdash hm
      · obtain rfl : s = a ++ "-" ++ b := String.toList_inj.1 (by simpa using hsplit)
        obtain ⟨hm, hn⟩ := (bounds_range ha).1 h
        exact .range ha hm hn
  · intro h
    cases h with
    | star => rfl
    | range ha hm hn => exact (bounds_range ha).2 ⟨hm, hn⟩
    | single hs hdash hm => exact (bounds_single hs hdash).2 ⟨hm, rfl⟩

theorem stepOf_eq_ok_iff {k : { k : Nat // 0 < k }} :
    stepOf f s = .ok k ↔ Text.WritesWhole s.toList k.1 := by
  obtain ⟨k, hk⟩ := k
  rw [← Text.wholeNumber_eq_ok_iff, stepOf]
  cases hwhole : Text.wholeNumber s with
  | error d => simp
  | ok i =>
      simp only [Except.ok.injEq]
      constructor
      · intro h
        split at h
        · have hi : i.toNat = k := congrArg Subtype.val (Except.ok.inj h)
          omega
        · cases h
      · rintro rfl
        simp [hk]

/-- What is read once the step is known. -/
theorem placed_eq_ok_iff {k : Nat} {hk : 0 < k} {d : FieldError} :
    (bounds f s stepped >>= fun r =>
      if (f.low : Int) ≤ r.1 ∧ r.1 ≤ r.2 ∧ r.2 ≤ f.high then
        (.ok ⟨r.1.toNat, r.2.toNat, k, hk⟩ : Except FieldError Element)
      else .error d) = .ok e ↔
      f.WritesBounds stepped s e.first e.last ∧ e.step = k ∧ f.Holds e := by
  obtain ⟨first, last, step, hstep⟩ := e
  simp only [bind_eq_ok_iff, Prod.exists, bounds_eq_ok_iff, Field.Holds]
  constructor
  · rintro ⟨m, n, hbounds, h⟩
    split at h
    · -- the bounds are not below that of the field, so nothing is cut off from them
      obtain ⟨rfl, rfl, rfl⟩ := Element.mk.inj (Except.ok.inj h)
      have hm : (m.toNat : Int) = m := by omega
      have hn : (n.toNat : Int) = n := by omega
      rw [hm, hn]
      exact ⟨hbounds, rfl, by omega⟩
    · cases h
  · rintro ⟨hbounds, rfl, h⟩
    refine ⟨first, last, hbounds, ?_⟩
    rw [if_pos (by omega)]
    rfl

theorem element_plain (hne : s ≠ "") (hslash : '/' ∉ s.toList) :
    element f s = .ok e ↔
      f.WritesBounds false s e.first e.last ∧ e.step = 1 ∧ f.Holds e := by
  rw [element, if_neg hne, cut?_of_not_mem hslash]
  exact placed_eq_ok_iff

theorem element_stepped {step : String} (hslash : '/' ∉ base.toList) :
    element f (base ++ "/" ++ step) = .ok e ↔ Text.WritesWhole step.toList e.step ∧
      f.WritesBounds true base e.first e.last ∧ f.Holds e := by
  have hne : base ++ "/" ++ step ≠ "" := by simp
  rw [element, if_neg hne, cut?_of_split (b := step) hslash (by simp)]
  refine bind_eq_ok_iff.trans ?_
  simp only [stepOf_eq_ok_iff]
  constructor
  · rintro ⟨k, hk, h⟩
    obtain ⟨hbounds, hstep, hholds⟩ := placed_eq_ok_iff.1 h
    exact ⟨hstep ▸ hk, hbounds, hholds⟩
  · rintro ⟨hstep, hbounds, hholds⟩
    exact ⟨⟨e.step, e.step_pos⟩, hstep, placed_eq_ok_iff.2 ⟨hbounds, rfl, hholds⟩⟩

/-- An element is read from the texts that write it. -/
theorem element_eq_ok_iff : element f s = .ok e ↔ f.WritesElement s e := by
  constructor
  · intro h
    have hne : s ≠ "" := by
      rintro rfl
      cases h
    rcases not_mem_or_split '/' s with hslash | ⟨base, step, hslash, hsplit⟩
    · obtain ⟨hbounds, hstep, hholds⟩ := (element_plain hne hslash).1 h
      exact .plain hne hslash hbounds hstep hholds
    · obtain rfl : s = base ++ "/" ++ step := String.toList_inj.1 (by simpa using hsplit)
      obtain ⟨hstep, hbounds, hholds⟩ := (element_stepped hslash).1 h
      exact .stepped hslash hbounds hstep hholds
  · intro h
    cases h with
    | plain hne hslash hbounds hstep hholds =>
        exact (element_plain hne hslash).2 ⟨hbounds, hstep, hholds⟩
    | stepped hslash hbounds hstep hholds =>
        exact (element_stepped hslash).2 ⟨hstep, hbounds, hholds⟩

/-! ### Fields -/

theorem parts_eq_iff {parts : List String} :
    (s.toList.splitOn ',').map String.ofList = parts ↔
      parts ≠ [] ∧ (∀ part ∈ parts, ',' ∉ part.toList) ∧ s = ",".intercalate parts := by
  have hlists : (s.toList.splitOn ',').map String.ofList = parts ↔
      s.toList.splitOn ',' = parts.map String.toList := by
    constructor
    · rintro rfl
      simp [Function.comp_def]
    · intro h
      simp [h, Function.comp_def]
  rw [hlists, splitOn_eq_iff, ← String.toList_inj, String.toList_intercalate, List.forall_mem_map,
    ne_eq, List.map_eq_nil_iff]
  exact and_congr_right fun _ => and_congr_right fun _ => eq_comm

/-- The elements of a field are read from the texts that write them. -/
theorem elements_eq_ok_iff : elements f s = .ok es ↔ f.Writes s es := by
  simp only [elements, mapM_eq_ok_iff, element_eq_ok_iff, Field.Writes]
  constructor
  · intro h
    obtain ⟨hne, hcomma, hs⟩ := parts_eq_iff.1 (rfl : (s.toList.splitOn ',').map String.ofList = _)
    exact ⟨_, hne, hcomma, hs, h⟩
  · rintro ⟨parts, hne, hcomma, hs, h⟩
    rwa [parts_eq_iff.2 ⟨hne, hcomma, hs⟩]

theorem Field.WritesElement.holds (h : f.WritesElement s e) : f.Holds e := by
  cases h with
  | plain _ _ _ _ hholds => exact hholds
  | stepped _ _ _ hholds => exact hholds

theorem Field.Writes.forall_holds (h : f.Writes s es) : ∀ e ∈ es, f.Holds e := by
  obtain ⟨parts, -, -, -, hparts⟩ := h
  intro e he
  obtain ⟨i, hi, rfl⟩ := List.getElem_of_mem he
  exact (hparts.get (by rw [hparts.length_eq]; exact hi) hi).holds

theorem Field.Writes.ne_nil (h : f.Writes s es) : es ≠ [] := by
  obtain ⟨parts, hne, -, -, hparts⟩ := h
  rintro rfl
  exact hne (List.forall₂_nil_right_iff.1 hparts)

theorem mem_valuesOf {k : Nat} :
    k ∈ valuesOf f es ↔ f.low ≤ k ∧ k ≤ f.high ∧ Admits es k := by
  simp only [valuesOf, Admits, List.mem_filter, List.mem_range, Bool.and_eq_true, decide_eq_true_eq,
    List.any_eq_true, Element.contains_iff]
  constructor
  · rintro ⟨hhigh, hlow, hadmits⟩
    exact ⟨hlow, by omega, hadmits⟩
  · rintro ⟨hlow, hhigh, hadmits⟩
    exact ⟨by omega, hlow, hadmits⟩

/-- The values of a field are those that its elements go through. -/
theorem isExactly_valuesOf (h : f.Writes s es) :
    IsExactly (valuesOf f es) (Admits es) f.low f.high where
  mem_iff k := by
    rw [mem_valuesOf]
    constructor
    · exact fun hk => hk.2.2
    · rintro ⟨e, he, hlast, i, rfl⟩
      have hholds := h.forall_holds e he
      unfold Field.Holds at hholds
      exact ⟨by omega, by omega, e, he, hlast, i, rfl⟩
  ne_nil := by
    obtain ⟨e, rest, rfl⟩ := List.exists_cons_of_ne_nil h.ne_nil
    obtain ⟨hlow, hfirst, hlast⟩ := h.forall_holds e (List.mem_cons_self ..)
    refine List.ne_nil_of_mem (mem_valuesOf.2 ⟨hlow, by omega, e, List.mem_cons_self .., hfirst, 0, ?_⟩)
    rw [Nat.zero_mul, Nat.add_zero]
  within k hk := by
    obtain ⟨hlow, hhigh, -⟩ := mem_valuesOf.1 hk
    exact ⟨hlow, hhigh⟩

end

/-! ### Rules -/

section
variable {s : String} {c : Cron} {texts : Fields String} {es : Fields (List Element)}

/-- The rule that is read from the words and elements of a text. -/
def ruleOf (s : String) (texts : Fields String) (es : Fields (List Element)) : Cron where
  expression := Text.strip s
  minutes := valuesOf minuteField es.minute
  hours := valuesOf hourField es.hour
  days := valuesOf dayField es.day
  months := valuesOf monthField es.month
  weekdays := (List.range 7).filter fun d => (valuesOf weekdayField es.weekday).any (· % 7 == d)
  dayRestricted := texts.day != "*"
  weekdayRestricted := texts.weekday != "*"

theorem values_eq_ok_iff {f : Field} {text : String} {ns : List Nat} :
    values f text = .ok ns ↔ ∃ es, f.Writes text es ∧ valuesOf f es = ns := by
  simp only [values, map_eq_ok_iff, elements_eq_ok_iff]

/-- A field of a rule is read when its text writes elements. -/
theorem admitted_eq_ok_iff {f : Field} {text : String} {ns : List Nat} :
    admitted s f text = .ok ns ↔ ∃ es, f.Writes text es ∧ valuesOf f es = ns := by
  rw [← values_eq_ok_iff, admitted]
  cases values f text <;> simp

theorem standsFor_iff {name rule : String} :
    StandsFor name rule ↔ aliases.lookup name = some rule := by
  constructor
  · rintro (_ | _) <;> rfl
  · intro h
    obtain ⟨front, back, haliases, -⟩ := List.lookup_eq_some_iff.1 h
    have hmem : (name, rule) ∈ aliases := haliases ▸ List.mem_append_right front (List.mem_cons_self ..)
    simp only [aliases, List.mem_cons, List.not_mem_nil, or_false, Prod.mk.injEq] at hmem
    obtain ⟨rfl, rfl⟩ | ⟨rfl, rfl⟩ | ⟨rfl, rfl⟩ | ⟨rfl, rfl⟩ | ⟨rfl, rfl⟩ | ⟨rfl, rfl⟩ | ⟨rfl, rfl⟩ := hmem
    · exact .yearly
    · exact .annually
    · exact .monthly
    · exact .weekly
    · exact .daily
    · exact .midnight
    · exact .hourly

/-- The text of a rule is what a text spells. -/
theorem spells_iff {rule : String} : Spells s rule ↔ ruleText s = rule := by
  constructor
  · intro h
    cases h with
    | name hcore hname =>
        rw [ruleText, Text.strip_eq_iff.2 hcore, standsFor_iff.1 hname, Option.getD_some]
    | plain hcore hnone =>
        have hlookup : aliases.lookup (Text.lower rule) = none :=
          Option.eq_none_iff_forall_ne_some.2 fun r hr => hnone r (standsFor_iff.2 hr)
        rw [ruleText, Text.strip_eq_iff.2 hcore, hlookup, Option.getD_none]
  · rintro rfl
    have hcore : Text.Surrounded (Text.strip s).toList s.toList := Text.strip_eq_iff.1 rfl
    cases hlookup : aliases.lookup (Text.lower (Text.strip s)) with
    | some rule =>
        rw [ruleText, hlookup]
        exact .name hcore (standsFor_iff.2 hlookup)
    | none =>
        rw [ruleText, hlookup]
        exact .plain hcore fun r hr => nomatch hlookup.symm.trans (standsFor_iff.1 hr)

/-- What a text spells is cut into the words that the reader finds. -/
theorem exists_cut_iff {ws : List String} :
    (∃ rule, Spells s rule ∧ Text.Separated rule.toList (ws.map String.toList)) ↔
      Text.words (ruleText s) = ws := by
  simp only [spells_iff, Text.words_eq_iff]
  exact exists_eq_left'

theorem parse_of_words (h : Text.words (ruleText s) = texts.toList) :
    parse s = .ok c ↔ ∃ es, IsRule s texts es ∧ c = ruleOf s texts es := by
  obtain ⟨minute, hour, day, month, weekday⟩ := texts
  have hcut := exists_cut_iff.2 h
  -- `rw [parse]` would evaluate the words, down to the tables of letter case.
  unfold parse
  rw [h]
  simp only [Fields.toList, bind_eq_ok_iff, admitted_eq_ok_iff]
  constructor
  · rintro ⟨_, ⟨m, hm, rfl⟩, _, ⟨n, hn, rfl⟩, _, ⟨d, hd, rfl⟩, _, ⟨k, hk, rfl⟩, _, ⟨w, hw, rfl⟩, hc⟩
    exact ⟨⟨m, n, d, k, w⟩, ⟨hcut, hm, hn, hd, hk, hw⟩, (Except.ok.inj hc).symm⟩
  · rintro ⟨⟨m, n, d, k, w⟩, ⟨-, hm, hn, hd, hk, hw⟩, rfl⟩
    exact ⟨_, ⟨m, hm, rfl⟩, _, ⟨n, hn, rfl⟩, _, ⟨d, hd, rfl⟩, _, ⟨k, hk, rfl⟩, _, ⟨w, hw, rfl⟩, rfl⟩

theorem exists_words_of_parse (h : parse s = .ok c) :
    ∃ texts : Fields String, Text.words (ruleText s) = texts.toList := by
  unfold parse at h
  split at h
  · rename_i minute hour day month weekday hwords
    exact ⟨⟨minute, hour, day, month, weekday⟩, hwords⟩
  · cases h

/-- A rule is read from the texts that write it. -/
theorem parse_eq_ok_iff : parse s = .ok c ↔ ∃ texts es, IsRule s texts es ∧ c = ruleOf s texts es := by
  constructor
  · intro h
    obtain ⟨texts, hwords⟩ := exists_words_of_parse h
    obtain ⟨es, hrule⟩ := (parse_of_words hwords).1 h
    exact ⟨texts, es, hrule⟩
  · rintro ⟨texts, es, hrule, hc⟩
    exact (parse_of_words (exists_cut_iff.1 hrule.cut)).2 ⟨es, hrule, hc⟩

/-- Sevens fold days of the week: the seventh is the day zero. -/
theorem IsExactly.folded {ns : List Nat} {p : Nat → Prop} {low high : Nat}
    (h : IsExactly ns p low high) :
    IsExactly ((List.range 7).filter fun d => ns.any (· % 7 == d)) (fun d => ∃ n, p n ∧ n % 7 = d) 0 6 := by
  have hmem : ∀ d, d ∈ (List.range 7).filter (fun d => ns.any (· % 7 == d)) ↔
      ∃ n ∈ ns, n % 7 = d := by
    intro d
    simp only [List.mem_filter, List.mem_range, List.any_eq_true, beq_iff_eq]
    constructor
    · exact fun hd => hd.2
    · rintro ⟨n, hn, rfl⟩
      exact ⟨Nat.mod_lt n (by decide), n, hn, rfl⟩
  refine ⟨fun d => ?_, ?_, fun d hd => ?_⟩
  · rw [hmem]
    exact exists_congr fun n => and_congr_left fun _ => h.mem_iff n
  · obtain ⟨n, hn⟩ := List.exists_mem_of_ne_nil ns h.ne_nil
    exact List.ne_nil_of_mem ((hmem (n % 7)).2 ⟨n, hn, rfl⟩)
  · obtain ⟨n, -, rfl⟩ := (hmem d).1 hd
    omega

/-- **Which texts are rules, and what they admit.**  A text is a rule if the grammar says so.  Then each
field admits the values that its elements go through, and no others. -/
theorem parse_exact (s : String) :
    ((∃ c, parse s = .ok c) ↔ ∃ texts es, IsRule s texts es) ∧
      ∀ c texts es, parse s = .ok c → IsRule s texts es →
        IsExactly c.minutes (Admits es.minute) 0 59 ∧
        IsExactly c.hours (Admits es.hour) 0 23 ∧
        IsExactly c.days (Admits es.day) 1 31 ∧
        IsExactly c.months (Admits es.month) 1 12 ∧
        IsExactly c.weekdays (fun d => ∃ n, Admits es.weekday n ∧ n % 7 = d) 0 6 := by
  constructor
  · constructor
    · rintro ⟨c, hc⟩
      obtain ⟨texts, es, hrule, -⟩ := parse_eq_ok_iff.1 hc
      exact ⟨texts, es, hrule⟩
    · rintro ⟨texts, es, hrule⟩
      exact ⟨_, parse_eq_ok_iff.2 ⟨texts, es, hrule, rfl⟩⟩
  · intro c texts es hc hrule
    have hread : parse s = .ok (ruleOf s texts es) := parse_eq_ok_iff.2 ⟨texts, es, hrule, rfl⟩
    obtain rfl : c = ruleOf s texts es := Except.ok.inj (hc.symm.trans hread)
    exact ⟨isExactly_valuesOf hrule.minute, isExactly_valuesOf hrule.hour,
      isExactly_valuesOf hrule.day, isExactly_valuesOf hrule.month,
      (isExactly_valuesOf hrule.weekday).folded⟩

/-- A rule of five words, and one that is named. -/
theorem parse_exact_quarters :
    (∃ c, parse " */15 8,20\t1-7/3 jan-MAR sun,7" = .ok c ∧
      IsExactly c.minutes (Admits [⟨0, 59, 15, by decide⟩]) 0 59 ∧
      IsExactly c.weekdays
        (fun d => ∃ n, Admits [⟨0, 0, 1, by decide⟩, ⟨7, 7, 1, by decide⟩] n ∧ n % 7 = d) 0 6) ∧
    ∃ c, parse "\t@Hourly " = .ok c ∧
      IsExactly c.minutes (Admits [⟨0, 0, 1, by decide⟩]) 0 59 ∧
      IsExactly c.hours (Admits [⟨0, 23, 1, by decide⟩]) 0 23 ∧
      IsExactly c.days (Admits [⟨1, 31, 1, by decide⟩]) 1 31 ∧
      IsExactly c.months (Admits [⟨1, 12, 1, by decide⟩]) 1 12 ∧
      IsExactly c.weekdays (fun d => ∃ n, Admits [⟨0, 7, 1, by decide⟩] n ∧ n % 7 = d) 0 6 := by
  constructor
  · have hspells : Spells " */15 8,20\t1-7/3 jan-MAR sun,7" "*/15 8,20\t1-7/3 jan-MAR sun,7" := by
      refine .plain (Text.strip_eq_iff.1 (by decide +kernel)) fun rule h => ?_
      exact nomatch standsFor_iff.1 h
    have hrule : IsRule " */15 8,20\t1-7/3 jan-MAR sun,7"
        ⟨"*/15", "8,20", "1-7/3", "jan-MAR", "sun,7"⟩
        ⟨[⟨0, 59, 15, by decide⟩], [⟨8, 8, 1, by decide⟩, ⟨20, 20, 1, by decide⟩],
          [⟨1, 7, 3, by decide⟩], [⟨1, 3, 1, by decide⟩],
          [⟨0, 0, 1, by decide⟩, ⟨7, 7, 1, by decide⟩]⟩ :=
      ⟨⟨_, hspells, Text.words_eq_iff.1 (by decide)⟩, elements_eq_ok_iff.1 (by rfl),
        elements_eq_ok_iff.1 (by rfl), elements_eq_ok_iff.1 (by rfl), elements_eq_ok_iff.1 (by rfl),
        elements_eq_ok_iff.1 (by rfl)⟩
    obtain ⟨hiff, hexact⟩ := parse_exact " */15 8,20\t1-7/3 jan-MAR sun,7"
    obtain ⟨c, hc⟩ := hiff.2 ⟨_, _, hrule⟩
    obtain ⟨hminutes, -, -, -, hweekdays⟩ := hexact c _ _ hc hrule
    exact ⟨c, hc, hminutes, hweekdays⟩
  · have hcore : Text.Surrounded "@Hourly".toList "\t@Hourly ".toList :=
      Text.strip_eq_iff.1 (by decide +kernel)
    have hlower : Text.lower "@Hourly" = "@hourly" := by decide
    have hspells : Spells "\t@Hourly " "0 * * * *" := .name hcore (hlower ▸ .hourly)
    have hrule : IsRule "\t@Hourly " ⟨"0", "*", "*", "*", "*"⟩
        ⟨[⟨0, 0, 1, by decide⟩], [⟨0, 23, 1, by decide⟩], [⟨1, 31, 1, by decide⟩],
          [⟨1, 12, 1, by decide⟩], [⟨0, 7, 1, by decide⟩]⟩ :=
      ⟨⟨_, hspells, Text.words_eq_iff.1 (by decide)⟩, elements_eq_ok_iff.1 (by rfl),
        elements_eq_ok_iff.1 (by rfl), elements_eq_ok_iff.1 (by rfl), elements_eq_ok_iff.1 (by rfl),
        elements_eq_ok_iff.1 (by rfl)⟩
    obtain ⟨hiff, hexact⟩ := parse_exact "\t@Hourly "
    obtain ⟨c, hc⟩ := hiff.2 ⟨_, _, hrule⟩
    exact ⟨c, hc, hexact c _ _ hc hrule⟩

end

end Conveyor.Cron
