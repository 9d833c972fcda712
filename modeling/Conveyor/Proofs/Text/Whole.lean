/-
**Whole numbers, as they are written.**

Blanks, perhaps a sign, digits of any script with single underscores between them, and blanks again:
these texts write whole numbers, if the digits are not too many.  What reads whole numbers reads just
these texts, and reads what they write.

Main definitions:

* `Conveyor.Text.WritesDigits` — digits with single underscores between them;
* `Conveyor.Text.WritesWhole` — a text that writes a whole number.

Main results:

* `Conveyor.Text.digitOf?_ten` — a digit of base ten is a decimal digit;
* `Conveyor.Text.digitsOf?_eq_some_iff` — digits are read to the number that they write;
* `Conveyor.Text.wholeNumber_eq_ok_iff` — **the texts that are read as whole numbers, and as which**.
-/

import Conveyor.Proofs.Failing
import Conveyor.Text.Number

set_option autoImplicit false

namespace Conveyor.Text

/-! ### What is written -/

/-- Digits of any script with single underscores between them, and the values of the digits. -/
inductive WritesDigits : List Char → List Nat → Prop
  | last {c : Char} {d : Nat} : digitValue? c = some d → WritesDigits [c] [d]
  | digit {c : Char} {d : Nat} {cs : List Char} {ds : List Nat} :
      digitValue? c = some d → WritesDigits cs ds → WritesDigits (c :: cs) (d :: ds)
  | joint {c : Char} {d : Nat} {cs : List Char} {ds : List Nat} :
      digitValue? c = some d → WritesDigits cs ds → WritesDigits (c :: '_' :: cs) (d :: ds)

/-- A sign, or none, and the unit that it stands for. -/
inductive WritesSign : List Char → Int → Prop
  | none : WritesSign [] 1
  | plus : WritesSign ['+'] 1
  | minus : WritesSign ['-'] (-1)

/-- A text that writes a whole number. -/
inductive WritesWhole : List Char → Int → Prop
  | intro {before sign body after : List Char} {unit : Int} {ds : List Nat} :
      (∀ c ∈ before, isPadding c = true) → WritesSign sign unit → WritesDigits body ds →
      ds.length ≤ maxDigits → (∀ c ∈ after, isPadding c = true) →
      WritesWhole (before ++ (sign ++ body) ++ after) (unit * digitsNumber ds)

variable {c : Char} {d m n : Nat} {cs core before after : List Char} {ds : List Nat}

/-! ### Digits -/

theorem digitValue?_cases (h : digitValue? c = some d) :
    c.isDigit = true ∧ d = c.toNat - 48 ∨
      ∃ z ∈ digitZeros, 128 ≤ c.toNat ∧ z ≤ c.toNat ∧ c.toNat < z + 10 ∧ d = c.toNat - z := by
  unfold digitValue? at h
  split at h
  · split at h
    · rename_i hdigit
      exact .inl ⟨hdigit, (Option.some.inj h).symm⟩
    · cases h
  · rename_i hlarge
    obtain ⟨z, hz, rfl⟩ := Option.map_eq_some_iff.1 h
    have hrange := List.find?_some hz
    simp only [Bool.and_eq_true, decide_eq_true_eq] at hrange
    exact .inr ⟨z, List.mem_of_find?_eq_some hz, by omega, hrange.1, hrange.2, rfl⟩

theorem toNat_of_isDigit (h : c.isDigit = true) : 48 ≤ c.toNat ∧ c.toNat ≤ 57 := by
  simp only [Char.isDigit, Bool.and_eq_true, decide_eq_true_eq] at h
  exact ⟨h.1, h.2⟩

theorem digitValue?_lt_ten (h : digitValue? c = some d) : d < 10 := by
  rcases digitValue?_cases h with ⟨hdigit, rfl⟩ | ⟨z, -, -, hle, hlt, rfl⟩
  · have := toNat_of_isDigit hdigit
    omega
  · omega

/-- No digit of any script is blank. -/
theorem isBlank_of_digitValue? (h : digitValue? c = some d) : isBlank c = false := by
  have hapart : ∀ z ∈ 48 :: digitZeros, ∀ r ∈ blankRanges, r.2 < z ∨ z + 10 ≤ r.1 := by decide
  have hzero : ∃ z ∈ 48 :: digitZeros, z ≤ c.toNat ∧ c.toNat < z + 10 := by
    rcases digitValue?_cases h with ⟨hdigit, -⟩ | ⟨z, hz, -, hle, hlt, -⟩
    · have := toNat_of_isDigit hdigit
      exact ⟨48, List.mem_cons_self .., by omega, by omega⟩
    · exact ⟨z, List.mem_cons_of_mem _ hz, hle, hlt⟩
  obtain ⟨z, hz, hle, hlt⟩ := hzero
  rw [isBlank, List.any_eq_false]
  intro r hr
  have := hapart z hz r hr
  simp only [Bool.and_eq_true, decide_eq_true_eq]
  omega

theorem isPadding_of_digitValue? (h : digitValue? c = some d) : isPadding c = false := by
  rw [isPadding, isBlank_of_digitValue? h, Bool.false_and]

theorem ne_of_digitValue? {x : Char} (h : digitValue? c = some d) (hx : digitValue? x = none) :
    c ≠ x := by
  rintro rfl
  rw [hx] at h
  cases h

theorem ten_le_hexValue? (hc : c.isDigit = false) (h : Json.hexValue? c = some d) : 10 ≤ d := by
  unfold Json.hexValue? at h
  rw [hc, if_neg Bool.false_ne_true] at h
  split at h
  · rename_i hlower
    have : 97 ≤ c.toNat := hlower.1
    obtain rfl := Option.some.inj h
    omega
  · split at h
    · rename_i hupper
      have : 65 ≤ c.toNat := hupper.1
      obtain rfl := Option.some.inj h
      omega
    · cases h

/-- A digit of base ten is a decimal digit. -/
theorem digitOf?_ten (c : Char) : digitOf? 10 c = digitValue? c := by
  unfold digitOf?
  cases hvalue : digitValue? c with
  | some d => simp [digitValue?_lt_ten hvalue]
  | none =>
      have hdigit : c.isDigit = false := by
        refine Bool.eq_false_iff.2 fun hdigit => ?_
        have hsmall : c.toNat < 128 := by
          have := toNat_of_isDigit hdigit
          omega
        rw [digitValue?, if_pos hsmall, if_pos hdigit] at hvalue
        cases hvalue
      rw [Option.none_or]
      cases hhex : Json.hexValue? c with
      | none => rfl
      | some d => simp [Nat.not_lt.2 (ten_le_hexValue? hdigit hhex)]

/-! ### Digits one after the other -/

/-- What may follow a digit: nothing, or more digits, perhaps after an underscore. -/
def Follows (cs : List Char) (ds : List Nat) : Prop :=
  cs = [] ∧ ds = [] ∨ WritesDigits cs ds ∨ ∃ rest, cs = '_' :: rest ∧ WritesDigits rest ds

theorem not_writesDigits_nil : ¬ WritesDigits [] ds := nofun

theorem writesDigits_cons_iff :
    WritesDigits (c :: cs) ds ↔ ∃ d rest, digitValue? c = some d ∧ ds = d :: rest ∧ Follows cs rest := by
  constructor
  · intro h
    cases h with
    | last hc => exact ⟨_, _, hc, rfl, .inl ⟨rfl, rfl⟩⟩
    | digit hc hrest => exact ⟨_, _, hc, rfl, .inr (.inl hrest)⟩
    | joint hc hrest => exact ⟨_, _, hc, rfl, .inr (.inr ⟨_, rfl, hrest⟩)⟩
  · rintro ⟨d, rest, hc, rfl, ⟨rfl, rfl⟩ | hrest | ⟨cs, rfl, hrest⟩⟩
    · exact .last hc
    · exact .digit hc hrest
    · exact .joint hc hrest

theorem not_writesDigits_joint : ¬ WritesDigits ('_' :: cs) ds := by
  intro h
  obtain ⟨d, -, hc, -⟩ := writesDigits_cons_iff.1 h
  exact ne_of_digitValue? hc (by decide) rfl

theorem follows_nil_iff : Follows [] ds ↔ ds = [] := by
  simp [Follows, not_writesDigits_nil]

theorem follows_joint_iff : Follows ('_' :: cs) ds ↔ WritesDigits cs ds := by
  simp [Follows, not_writesDigits_joint]

theorem follows_cons_iff (hc : c ≠ '_') : Follows (c :: cs) ds ↔ WritesDigits (c :: cs) ds := by
  simp [Follows, hc]

/-- Digits are read to the number that they write, both at their front and after a digit. -/
theorem digitsOf?_eq_some (cs : List Char) (n m : Nat) :
    (digitsOf? 10 false n cs = some m ↔
      ∃ ds, WritesDigits cs ds ∧ ds.foldl (fun n d => 10 * n + d) n = m) ∧
    (digitsOf? 10 true n cs = some m ↔
      ∃ ds, Follows cs ds ∧ ds.foldl (fun n d => 10 * n + d) n = m) := by
  -- Both at once: a digit leads to the second, an underscore back to the first.
  induction cs generalizing n with
  | nil => simp [digitsOf?, not_writesDigits_nil, follows_nil_iff]
  | cons c cs ih =>
      by_cases hc : c = '_'
      · subst hc
        simp [digitsOf?, not_writesDigits_joint, follows_joint_iff, (ih n).1]
      · simp only [digitsOf?, if_neg hc, digitOf?_ten, follows_cons_iff hc, writesDigits_cons_iff]
        cases hvalue : digitValue? c with
        | none => simp
        | some d =>
            simp only [(ih (10 * n + d)).2, Option.some.injEq]
            constructor <;>
            · constructor
              · rintro ⟨ds, hds, hm⟩
                exact ⟨d :: ds, ⟨d, ds, rfl, rfl, hds⟩, hm⟩
              · rintro ⟨_, ⟨_, ds, rfl, rfl, hds⟩, hm⟩
                exact ⟨ds, hds, hm⟩

/-- Digits are read to the number that they write. -/
theorem digitsOf?_eq_some_iff :
    digitsOf? 10 false 0 cs = some m ↔ ∃ ds, WritesDigits cs ds ∧ digitsNumber ds = m :=
  (digitsOf?_eq_some cs 0 m).1

/-! ### The number of digits -/

namespace WritesDigits

theorem exists_cons (h : WritesDigits cs ds) :
    ∃ c rest d, cs = c :: rest ∧ digitValue? c = some d := by
  cases h with
  | last hc => exact ⟨_, _, _, rfl, hc⟩
  | digit hc _ => exact ⟨_, _, _, rfl, hc⟩
  | joint hc _ => exact ⟨_, _, _, rfl, hc⟩

theorem exists_getLast? (h : WritesDigits cs ds) : ∃ c d, cs.getLast? = some c ∧ digitValue? c = some d := by
  induction h with
  | last hc => exact ⟨_, _, rfl, hc⟩
  | digit _ _ ih =>
      obtain ⟨c, d, hlast, hc⟩ := ih
      exact ⟨c, d, by rw [List.getLast?_cons, hlast]; rfl, hc⟩
  | joint _ _ ih =>
      obtain ⟨c, d, hlast, hc⟩ := ih
      exact ⟨c, d, by rw [List.getLast?_cons, List.getLast?_cons, hlast]; rfl, hc⟩

theorem frontRun_eq (h : WritesDigits cs ds) : frontRun cs = cs := by
  unfold frontRun
  induction h with
  | last hc => simp [hc]
  | digit hc _ ih => simp [hc, ih]
  | joint hc _ ih => simp [hc, ih]

theorem hasDoubleJoint_eq (h : WritesDigits cs ds) : hasDoubleJoint cs = false := by
  have hdigit : ∀ {c : Char} {d : Nat} {rest : List Char}, digitValue? c = some d →
      hasDoubleJoint (c :: rest) = hasDoubleJoint rest := by
    intro c d rest hc
    have hne : c ≠ '_' := ne_of_digitValue? hc (by decide)
    rw [hasDoubleJoint]
    rintro - rfl
    exact absurd rfl hne
  induction h with
  | last hc => rw [hdigit hc]; rfl
  | digit hc _ ih => rw [hdigit hc, ih]
  | joint hc hrest ih =>
      obtain ⟨c, rest, d, rfl, hnext⟩ := hrest.exists_cons
      have hne : c ≠ '_' := ne_of_digitValue? hnext (by decide)
      rw [hdigit hc, hasDoubleJoint, ih]
      rintro tail - hjoint
      exact absurd (List.cons.inj hjoint).1 hne

theorem length_filter (h : WritesDigits cs ds) : (cs.filter (· != '_')).length = ds.length := by
  have hdigit : ∀ {c : Char} {d : Nat}, digitValue? c = some d → c ≠ '_' :=
    fun hc => ne_of_digitValue? hc (by decide)
  induction h with
  | last hc => simp [hdigit hc]
  | digit hc _ ih => simp [hdigit hc, ih]
  | joint hc _ ih => simp [hdigit hc, ih]

theorem digitCount_eq (h : WritesDigits cs ds) : digitCount cs = ds.length := by
  obtain ⟨c, rest, d, hcons, hc⟩ := h.exists_cons
  obtain ⟨x, e, hlast, hx⟩ := h.exists_getLast?
  have hfirst : c ≠ '_' := ne_of_digitValue? hc (by decide)
  have hfinal : x ≠ '_' := ne_of_digitValue? hx (by decide)
  have hhead : cs.head? = some c := by rw [hcons]; rfl
  simp [digitCount, h.frontRun_eq, hhead, hlast, h.hasDoubleJoint_eq, hfirst, hfinal, h.length_filter]

end WritesDigits

/-! ### Blanks around numbers -/

theorem unpadded_eq {s : String} (hs : s.toList = before ++ core ++ after) (hne : core ≠ [])
    (hbefore : ∀ c ∈ before, isPadding c = true) (hafter : ∀ c ∈ after, isPadding c = true)
    (hfirst : ∀ c ∈ core.head?, isPadding c = false)
    (hlast : ∀ c ∈ core.getLast?, isPadding c = false) : unpadded s = core := by
  have hfront : (core ++ after).dropWhile isPadding = core ++ after := by
    refine dropWhile_eq_self ?_
    cases core with
    | nil => exact absurd rfl hne
    | cons c core => exact hfirst
  rw [unpadded, hs, List.append_assoc, List.dropWhile_append_of_pos hbefore, hfront,
    List.reverse_append, List.dropWhile_append_of_pos (by simpa using hafter),
    dropWhile_eq_self (by simpa using hlast), List.reverse_reverse]

theorem exists_padding (s : String) : ∃ before after, s.toList = before ++ unpadded s ++ after ∧
    (∀ c ∈ before, isPadding c = true) ∧ ∀ c ∈ after, isPadding c = true := by
  have htake : ∀ cs : List Char, ∀ c ∈ cs.takeWhile isPadding, isPadding c = true :=
    fun cs c hc => (List.all_eq_true.1 (List.all_takeWhile (l := cs))) c hc
  refine ⟨s.toList.takeWhile isPadding,
    ((s.toList.dropWhile isPadding).reverse.takeWhile isPadding).reverse, ?_, htake _,
    fun c hc => htake _ c (List.mem_reverse.1 hc)⟩
  rw [unpadded, List.append_assoc, ← List.reverse_append, List.takeWhile_append_dropWhile,
    List.reverse_reverse, List.takeWhile_append_dropWhile]

/-! ### Whole numbers -/

theorem dropMark_ten (cs : List Char) : dropMark 10 cs = cs := by
  unfold dropMark
  split <;> rfl

theorem magnitude_eq_ok_iff {s : String} : magnitude 10 s cs = .ok m ↔
    ∃ ds, WritesDigits cs ds ∧ ds.length ≤ maxDigits ∧ digitsNumber ds = m := by
  unfold magnitude
  rw [dropMark_ten]
  cases hread : digitsOf? 10 false 0 cs with
  | none =>
      have hnone : ¬ ∃ ds, WritesDigits cs ds := by
        rintro ⟨ds, hds⟩
        rw [digitsOf?_eq_some_iff.2 ⟨ds, hds, rfl⟩] at hread
        cases hread
      constructor
      · intro h
        split at h <;> cases h
      · rintro ⟨ds, hds, -⟩
        exact absurd ⟨ds, hds⟩ hnone
  | some k =>
      obtain ⟨ds, hds, rfl⟩ := digitsOf?_eq_some_iff.1 hread
      rw [hds.digitCount_eq]
      constructor
      · intro h
        split at h
        · cases h
        · rename_i hlength
          exact ⟨ds, hds, by omega, Except.ok.inj h⟩
      · -- two ways to write digits have as many of them, as both are counted in the text
        rintro ⟨ds', hds', hlength, rfl⟩
        rw [← hds.digitCount_eq, hds'.digitCount_eq, if_neg (by omega)]
        exact congrArg Except.ok (Option.some.inj (hread.symm.trans (digitsOf?_eq_some_iff.2 ⟨ds', hds', rfl⟩)))

/-- Nothing around a sign and digits is dropped but blanks. -/
theorem unpadded_of_writes {sign body : List Char} {unit : Int} (hsign : WritesSign sign unit)
    (hbody : WritesDigits body ds) (hbefore : ∀ c ∈ before, isPadding c = true)
    (hafter : ∀ c ∈ after, isPadding c = true) {s : String}
    (hs : s.toList = before ++ (sign ++ body) ++ after) : unpadded s = sign ++ body := by
  obtain ⟨c, rest, d, rfl, hc⟩ := hbody.exists_cons
  obtain ⟨x, e, hlast, hx⟩ := hbody.exists_getLast?
  have hplus : isPadding '+' = false := by decide
  have hminus : isPadding '-' = false := by decide
  refine unpadded_eq hs (by simp) hbefore hafter ?_ ?_
  · cases hsign with
    | none => simp [isPadding_of_digitValue? hc]
    | plus => simp [hplus]
    | minus => simp [hminus]
  · simp [List.getLast?_append, hlast, isPadding_of_digitValue? hx]

theorem WritesWhole.wholeNumber_eq {s : String} {n : Int} (h : WritesWhole s.toList n) :
    wholeNumber s = .ok n := by
  generalize hs : s.toList = cs at h
  cases h with
  | @intro before sign body after unit ds hbefore hsign hbody hlength hafter =>
      have hread : magnitude 10 s body = .ok (digitsNumber ds) :=
        magnitude_eq_ok_iff.2 ⟨ds, hbody, hlength, rfl⟩
      rw [wholeNumber, wholeNumberIn, unpadded_of_writes hsign hbody hbefore hafter hs]
      cases hsign with
      | none =>
          obtain ⟨c, rest, d, rfl, hc⟩ := hbody.exists_cons
          have hplus : c ≠ '+' := ne_of_digitValue? hc (by decide)
          have hminus : c ≠ '-' := ne_of_digitValue? hc (by decide)
          simp [hplus, hminus, hread, Functor.map, Except.map]
      | plus => simp [hread, Functor.map, Except.map]
      | minus => simp [hread, Functor.map, Except.map]

theorem writesWhole_of_wholeNumber {s : String} {n : Int} (h : wholeNumber s = .ok n) :
    WritesWhole s.toList n := by
  obtain ⟨before, after, hs, hbefore, hafter⟩ := exists_padding s
  have hread : ∀ {sign body : List Char} {unit : Int} {m : Nat}, WritesSign sign unit →
      unpadded s = sign ++ body → magnitude 10 s body = .ok m → WritesWhole s.toList (unit * m) := by
    rintro sign body unit m hsign hcore hm
    obtain ⟨ds, hds, hlength, rfl⟩ := magnitude_eq_ok_iff.1 hm
    rw [hs, hcore]
    exact .intro hbefore hsign hds hlength hafter
  unfold wholeNumber wholeNumberIn at h
  split at h
  · rename_i hcore
    obtain ⟨m, hm, rfl⟩ := map_eq_ok_iff.1 h
    simpa using hread .plus hcore hm
  · rename_i hcore
    obtain ⟨m, hm, rfl⟩ := map_eq_ok_iff.1 h
    simpa using hread .minus hcore hm
  · obtain ⟨m, hm, rfl⟩ := map_eq_ok_iff.1 h
    simpa using hread .none rfl hm

/-- **The texts that are read as whole numbers, and as which.** -/
theorem wholeNumber_eq_ok_iff {s : String} {n : Int} :
    wholeNumber s = .ok n ↔ WritesWhole s.toList n :=
  ⟨writesWhole_of_wholeNumber, WritesWhole.wholeNumber_eq⟩

end Conveyor.Text
