/-
**The calendar, and moments as they are written.**

The first day of the calendar, 1 January of year 1, was a Monday, and the day after each day is the next
day of the week.  Each day is reached from the first one in this way, and its number goes up by one with
each step; so the number modulo seven is the weekday of every day, leap years and centuries included.

A moment is written as its date and its time of day, with as many digits as the largest number of its
kind has.  What is written so is read as the same moment, and with a distance of zero behind it as the
same moment in universal time.

Main definitions:

* `Conveyor.Date.IsDay` — a day of the calendar, however late;
* `Conveyor.Date.next` — the day after a day;
* `Conveyor.Date.FallsOn` — days and their weekdays, from the first day on;
* `Conveyor.Text.IsPlain` — visible characters of one byte;
* `Conveyor.Moment.IsValid` — a date of the calendar with a time of day;
* `Conveyor.Moment.stamp` — a moment as `YYYY-MM-DDTHH:MM:SS`.

Main results:

* `Conveyor.Date.dayNumber_next` — the day after a day has the next number;
* `Conveyor.Date.exists_prev` — each day but the first is the day after a day;
* `Conveyor.Date.fallsOn_iff` — **the weekday of a day is its number modulo seven**;
* `Conveyor.Moment.digits?_padded` — numbers in a fixed number of digits;
* `Conveyor.Moment.date?_text`, `Conveyor.Moment.clock?_clockText` — dates and times of day;
* `Conveyor.Moment.parse?_stamp_append` — **a written moment is read as that moment**.
-/

import Mathlib.Algebra.Group.Nat.Defs
import Mathlib.Data.List.TakeDrop
import Mathlib.Data.List.TakeWhile
import Conveyor.Calendar.Moment
import Conveyor.Text.Blank

set_option autoImplicit false

namespace Conveyor

namespace Date

/-- A day of the calendar, of whatever year. -/
structure IsDay (t : Date) : Prop where
  year : 1 ≤ t.year
  month : 1 ≤ t.month ∧ t.month ≤ 12
  day : 1 ≤ t.day ∧ t.day ≤ daysInMonth t.year t.month

/-- The day after a day. -/
def next (t : Date) : Date :=
  if t.day < daysInMonth t.year t.month then ⟨t.year, t.month, t.day + 1⟩
  else if t.month < 12 then ⟨t.year, t.month + 1, 1⟩
  else ⟨t.year + 1, 1, 1⟩

/-- Days and their weekdays, from a Monday on, which was 1 January of year 1.  Sunday is zero. -/
inductive FallsOn : Date → Nat → Prop
  | first : FallsOn ⟨1, 1, 1⟩ 1
  | next {t : Date} {w : Nat} : FallsOn t w → FallsOn t.next ((w + 1) % 7)

variable {t : Date} {w y m : Nat}

/-! ### Counting days -/

theorem daysInMonth_pos (y m : Nat) : 1 ≤ daysInMonth y m := by
  unfold daysInMonth
  split
  · split <;> decide
  · split <;> decide

theorem daysBeforeMonth_succ (hm : 1 ≤ m) :
    daysBeforeMonth y (m + 1) = daysBeforeMonth y m + daysInMonth y m := by
  obtain ⟨k, rfl⟩ : ∃ k, m = k + 1 := ⟨m - 1, by omega⟩
  simp only [daysBeforeMonth, Nat.add_sub_cancel, List.range_succ, List.map_append, total_append]
  rfl

theorem daysBeforeMonth_thirteen (y : Nat) :
    daysBeforeMonth y 13 = 365 + if isLeap y then 1 else 0 := by
  simp only [daysBeforeMonth, daysInMonth]
  cases isLeap y <;> rfl

theorem isLeap_iff : isLeap y = true ↔ y % 4 = 0 ∧ (y % 100 ≠ 0 ∨ y % 400 = 0) := by
  simp [isLeap]

/-- A year has the days of its twelve months. -/
theorem daysBeforeYear_succ (hy : 1 ≤ y) :
    daysBeforeYear (y + 1) = daysBeforeYear y + daysBeforeMonth y 13 := by
  obtain ⟨n, rfl⟩ : ∃ n, y = n + 1 := ⟨y - 1, by omega⟩
  have hdiv : ∀ k, (n + 1) / k = n / k + if (n + 1) % k = 0 then 1 else 0 := fun k => by
    rw [Nat.succ_div]
    simp only [Nat.dvd_iff_mod_eq_zero]
  have hle : n / 100 ≤ n / 4 := Nat.div_le_div_left (by decide) (by decide)
  have h100 : (n + 1) % 100 = 0 → (n + 1) % 4 = 0 := by omega
  have h400 : (n + 1) % 400 = 0 → (n + 1) % 100 = 0 := by omega
  rw [daysBeforeMonth_thirteen]
  simp only [daysBeforeYear, Nat.add_sub_cancel, isLeap_iff, hdiv]
  -- only the three remainders matter from here on
  clear hdiv hy
  generalize (n + 1) % 4 = r₄ at *
  generalize (n + 1) % 100 = r₁₀₀ at *
  generalize (n + 1) % 400 = r₄₀₀ at *
  generalize n / 4 = q₄ at *
  generalize n / 100 = q₁₀₀ at *
  generalize n / 400 = q₄₀₀ at *
  split <;> split <;> split <;> split <;> omega

/-! ### The day after -/

/-- What the day after a day is: in the same month, the first of the next one, or the first of a year. -/
theorem next_cases (h : t.IsDay) :
    (t.day < daysInMonth t.year t.month ∧ t.next = ⟨t.year, t.month, t.day + 1⟩) ∨
    (t.day = daysInMonth t.year t.month ∧ t.month < 12 ∧ t.next = ⟨t.year, t.month + 1, 1⟩) ∨
    (t.day = daysInMonth t.year t.month ∧ t.month = 12 ∧ t.next = ⟨t.year + 1, 1, 1⟩) := by
  obtain ⟨-, ⟨-, hmonth⟩, -, hday⟩ := h
  unfold next
  split
  · rename_i hlt
    exact .inl ⟨hlt, rfl⟩
  · rename_i hlast
    split
    · rename_i hlt
      exact .inr (.inl ⟨by omega, hlt, rfl⟩)
    · exact .inr (.inr ⟨by omega, by omega, rfl⟩)

theorem isDay_next (h : t.IsDay) : t.next.IsDay := by
  obtain ⟨hlt, hnext⟩ | ⟨-, hlt, hnext⟩ | ⟨-, -, hnext⟩ := next_cases h
  · rw [hnext]
    exact ⟨h.year, h.month, Nat.le_add_left .., hlt⟩
  · rw [hnext]
    exact ⟨h.year, ⟨Nat.le_add_left .., hlt⟩, Nat.le_refl 1, daysInMonth_pos ..⟩
  · rw [hnext]
    exact ⟨Nat.le_add_left .., ⟨Nat.le_refl 1, Nat.le_add_left 1 11⟩, Nat.le_refl 1, daysInMonth_pos ..⟩

/-- The day after a day has the next number. -/
theorem dayNumber_next (h : t.IsDay) : t.next.dayNumber = t.dayNumber + 1 := by
  obtain ⟨hlt, hnext⟩ | ⟨hlast, hlt, hnext⟩ | ⟨hlast, hmonth, hnext⟩ := next_cases h
  · rw [hnext]
    rfl
  · rw [hnext]
    simp only [dayNumber, daysBeforeMonth_succ h.month.1, hlast]
    omega
  · have hyear := daysBeforeYear_succ h.year
    rw [daysBeforeMonth_succ (m := 12) (by decide), ← hmonth, ← hlast] at hyear
    rw [hnext]
    simp only [dayNumber, hyear, show daysBeforeMonth (t.year + 1) 1 = 0 from rfl]
    omega

/-- Each day but the first is the day after a day. -/
theorem exists_prev (h : t.IsDay) (hfirst : t ≠ ⟨1, 1, 1⟩) : ∃ s : Date, s.IsDay ∧ s.next = t := by
  obtain ⟨y, m, d⟩ := t
  obtain ⟨hyear, ⟨hmonth, hmonth'⟩, hday, hday'⟩ := h
  simp only at hyear hmonth hmonth' hday hday'
  by_cases hd : d = 1
  · subst hd
    by_cases hm : m = 1
    · -- the first day of a year comes after the last day of the year before it
      subst hm
      have hy : y ≠ 1 := fun hy => hfirst (hy ▸ rfl)
      obtain ⟨n, rfl⟩ : ∃ n, y = n + 1 := ⟨y - 1, by omega⟩
      refine ⟨⟨n, 12, 31⟩, ⟨by simp only; omega, ⟨Nat.le_add_left 1 11, Nat.le_refl 12⟩,
        Nat.le_add_left 1 30, Nat.le_refl 31⟩, ?_⟩
      rw [next, if_neg (by exact Nat.lt_irrefl 31), if_neg (by simp only; omega)]
    · obtain ⟨k, rfl⟩ : ∃ k, m = k + 1 := ⟨m - 1, by omega⟩
      refine ⟨⟨y, k, daysInMonth y k⟩,
        ⟨hyear, ⟨by simp only; omega, by simp only; omega⟩, daysInMonth_pos .., Nat.le_refl _⟩, ?_⟩
      rw [next, if_neg (Nat.lt_irrefl _), if_pos (by simp only; omega)]
  · obtain ⟨k, rfl⟩ : ∃ k, d = k + 1 := ⟨d - 1, by omega⟩
    refine ⟨⟨y, m, k⟩, ⟨hyear, ⟨hmonth, hmonth'⟩, by simp only; omega, by simp only; omega⟩, ?_⟩
    rw [next, if_pos (by simp only; omega)]

/-! ### The day of the week -/

theorem FallsOn.isDay (h : FallsOn t w) : t.IsDay := by
  induction h with
  | first => exact ⟨Nat.le_refl 1, by decide, by decide⟩
  | next _ ih => exact isDay_next ih

theorem FallsOn.eq_weekday (h : FallsOn t w) : w = t.weekday := by
  induction h with
  | first => rfl
  | next h ih =>
      rw [weekday, dayNumber_next h.isDay, ih, weekday, Nat.mod_add_mod]

/-- Each day is reached from the first one. -/
theorem fallsOn_weekday (h : t.IsDay) : FallsOn t t.weekday := by
  induction hn : t.dayNumber using Nat.strongRecOn generalizing t with
  | ind n ih =>
      by_cases hfirst : t = ⟨1, 1, 1⟩
      · subst hfirst
        exact .first
      · obtain ⟨s, hs, rfl⟩ := exists_prev h hfirst
        have hnumber := dayNumber_next hs
        have hstep := (ih s.dayNumber (by omega) hs rfl).next
        rwa [weekday, Nat.mod_add_mod, ← hnumber] at hstep

/-- **The weekday of a day is its number modulo seven.** -/
theorem fallsOn_iff (h : t.IsDay) : FallsOn t w ↔ w = t.weekday := by
  constructor
  · exact FallsOn.eq_weekday
  · rintro rfl
    exact fallsOn_weekday h

/-- The last day of February 2000, a leap year, was a Tuesday. -/
example : weekday ⟨2000, 2, 29⟩ = 2 := by decide

end Date

/-! ### Visible characters of one byte -/

namespace Text

/-- Visible characters of one byte. -/
def IsPlain (cs : List Char) : Prop := ∀ c ∈ cs, 33 ≤ c.toNat ∧ c.toNat ≤ 126

instance (cs : List Char) : Decidable (IsPlain cs) := List.decidableBAll _ cs

variable {cs ds : List Char} {c : Char}

theorem isPlain_append : IsPlain (cs ++ ds) ↔ IsPlain cs ∧ IsPlain ds := List.forall_mem_append

theorem isPlain_cons : IsPlain (c :: cs) ↔ (33 ≤ c.toNat ∧ c.toNat ≤ 126) ∧ IsPlain cs :=
  List.forall_mem_cons

theorem isPlain_of_digits (h : ∀ c ∈ cs, c.isDigit = true) : IsPlain cs := by
  intro c hc
  obtain ⟨hlow, hhigh⟩ := Char.isDigit_iff_toNat.1 (h c hc)
  exact ⟨Nat.le_trans (by decide) hlow, Nat.le_trans hhigh (by decide)⟩

theorem IsPlain.isBlank_eq_false (h : IsPlain cs) (hc : c ∈ cs) : isBlank c = false := by
  obtain ⟨hlow, hhigh⟩ := h c hc
  simp only [isBlank, blankRanges, List.any_cons, List.any_nil, Bool.or_eq_false_iff,
    Bool.and_eq_false_iff, decide_eq_false_iff_not, and_true]
  omega

theorem utf8Size_of_le {c : Char} (h : c.toNat ≤ 126) : c.utf8Size = 1 := by
  rw [Char.utf8Size_eq_one_iff, UInt32.le_iff_toNat_le]
  exact Nat.le_trans h (by decide)

end Text

/-! ### Numbers -/

namespace Date

variable {width n : Nat}

theorem toList_padded (width n : Nat) : (padded width n).toList =
    List.replicate (width - (Nat.toDigits 10 n).length) '0' ++ Nat.toDigits 10 n :=
  String.toList_ofList ..

theorem length_padded (hwidth : 0 < width) (hn : n < 10 ^ width) :
    (padded width n).toList.length = width := by
  have hle : (Nat.toDigits 10 n).length ≤ width :=
    (Nat.length_toDigits_le_iff (by decide) hwidth).2 hn
  rw [toList_padded, List.length_append, List.length_replicate]
  omega

theorem isDigit_of_mem_padded {c : Char} (h : c ∈ (padded width n).toList) : c.isDigit = true := by
  rw [toList_padded, List.mem_append] at h
  rcases h with h | h
  · rw [List.eq_of_mem_replicate h]
    rfl
  · exact Nat.isDigit_of_mem_toDigits (by decide) (by decide) h

theorem toList_padded_ne_nil (width n : Nat) : (padded width n).toList ≠ [] := by
  rw [toList_padded]
  exact List.append_ne_nil_of_right_ne_nil _ Nat.toDigits_ne_nil

theorem ofDigitChars_padded (width n : Nat) :
    Nat.ofDigitChars 10 (padded width n).toList 0 = n := by
  rw [toList_padded, Nat.ofDigitChars_append, Nat.ofDigitChars_replicate_zero, Nat.mul_zero,
    Nat.ofDigitChars_ten_toDigits]

theorem isPlain_padded (width n : Nat) : Text.IsPlain (padded width n).toList :=
  Text.isPlain_of_digits fun _ => isDigit_of_mem_padded

theorem toList_text (t : Date) : t.text.toList = (padded 4 t.year).toList ++
    '-' :: ((padded 2 t.month).toList ++ '-' :: (padded 2 t.day).toList) := by
  simp [text]

section
variable {y m d : Nat}

theorem Valid.year_lt (h : Valid y m d) : y < 10 ^ 4 := Nat.lt_succ_of_le h.1.2

theorem Valid.month_lt (h : Valid y m d) : m < 10 ^ 2 := Nat.lt_of_le_of_lt h.2.1.2 (by decide)

theorem Valid.day_lt (h : Valid y m d) : d < 10 ^ 2 := by
  have hdays : daysInMonth y m ≤ 31 := by
    unfold daysInMonth
    split
    · split <;> decide
    · split <;> decide
  exact Nat.lt_of_le_of_lt (Nat.le_trans h.2.2.2 hdays) (by decide)

end

theorem length_text {t : Date} (h : Valid t.year t.month t.day) : t.text.toList.length = 10 := by
  rw [toList_text, List.length_append, List.length_cons, List.length_append, List.length_cons,
    length_padded (by decide) h.year_lt, length_padded (by decide) h.month_lt,
    length_padded (by decide) h.day_lt]

theorem isPlain_text (t : Date) : Text.IsPlain t.text.toList := by
  rw [toList_text]
  simp only [Text.isPlain_append, Text.isPlain_cons, isPlain_padded, and_true, true_and]
  decide

end Date

namespace Moment

variable {width n v : Nat} {cs ds : List Char}

theorem digitsOnto?_append (h : ∀ c ∈ ds, c.isDigit = true) :
    digitsOnto? ds.length v (ds ++ cs) = some (Nat.ofDigitChars 10 ds v, cs) := by
  induction ds generalizing v with
  | nil => rw [Nat.ofDigitChars_nil]; rfl
  | cons c ds ih =>
      obtain ⟨hc, hds⟩ := List.forall_mem_cons.1 h
      rw [List.length_cons, List.cons_append, digitsOnto?, if_pos hc, ih hds, Nat.ofDigitChars_cons]
      rfl

/-- A number in a fixed number of digits is read back. -/
theorem digits?_padded (hwidth : 0 < width) (hn : n < 10 ^ width) :
    digits? width ((Date.padded width n).toList ++ cs) = some (n, cs) := by
  have hread : digitsOnto? (Date.padded width n).toList.length 0 ((Date.padded width n).toList ++ cs) =
      some (Nat.ofDigitChars 10 (Date.padded width n).toList 0, cs) :=
    digitsOnto?_append fun _ => Date.isDigit_of_mem_padded
  rwa [Date.length_padded hwidth hn, Date.ofDigitChars_padded] at hread

theorem digits?_padded_last (hwidth : 0 < width) (hn : n < 10 ^ width) :
    digits? width (Date.padded width n).toList = some (n, []) := by
  rw [← List.append_nil (Date.padded width n).toList]
  exact digits?_padded hwidth hn

/-! ### Dates -/

/-- A date is read back. -/
theorem date?_text {t : Date} (h : Date.Valid t.year t.month t.day) :
    date? t.text.toList = some (t.year, t.month, t.day) := by
  have hmore : digits? 2 ((Date.padded 2 t.month).toList ++ '-' :: (Date.padded 2 t.day).toList) =
      some (t.month, '-' :: (Date.padded 2 t.day).toList) := digits?_padded (by decide) h.month_lt
  rw [Date.toList_text, date?, digits?_padded (by decide) h.year_lt]
  simp only [Option.bind_eq_bind, Option.bind_some]
  split
  · -- the second number does not begin with the letter of weeks
    rename_i rest hweek
    rw [hweek] at hmore
    cases hmore
  · rw [hmore]
    simp only [Option.bind_some]
    rw [digits?_padded_last (by decide) h.day_lt]
    rfl

/-- The date in front of a time of day is found by its marks. -/
theorem dateLength_text {t : Date} (h : Date.Valid t.year t.month t.day) (c : Char)
    (cs : List Char) : dateLength (t.text.toList ++ c :: cs) = 10 := by
  have hyear : (Date.padded 4 t.year).toList.length = 4 :=
    Date.length_padded (by decide) h.year_lt
  have hmonth : (Date.padded 2 t.month).toList.length = 2 :=
    Date.length_padded (by decide) h.month_lt
  have hmark : (t.text.toList ++ c :: cs)[4]? = some '-' := by
    rw [Date.toList_text, List.append_assoc, List.getElem?_append_right (by omega), hyear]
    rfl
  -- the second number does not begin with the letter of weeks
  have hweek : (t.text.toList ++ c :: cs)[5]? ≠ some 'W' := by
    rw [Date.toList_text, List.append_assoc, List.getElem?_append_right (by omega), hyear]
    rw [List.cons_append, List.getElem?_cons_succ, List.append_assoc,
      List.getElem?_append_left (by omega)]
    intro hletter
    exact absurd (Date.isDigit_of_mem_padded (List.mem_of_getElem? hletter)) (by decide)
  have hlength : (t.text.toList ++ c :: cs).length ≠ 7 := by
    rw [List.length_append, Date.length_text h]
    omega
  simp only [dateLength, hmark, beq_iff_eq, hweek, hlength, if_false, if_true, beq_self_eq_true]

/-! ### Times of day -/

/-- A time of day as `HH:MM:SS`. -/
def clockText (t : Moment) : String :=
  Date.padded 2 t.hour ++ ":" ++ Date.padded 2 t.minute ++ ":" ++ Date.padded 2 t.second

/-- A moment that there is: a date of the calendar with a time of day. -/
structure IsValid (t : Moment) : Prop where
  date : Date.Valid t.date.year t.date.month t.date.day
  hour : t.hour < 24
  minute : t.minute < 60
  second : t.second < 60

/-- The time of day of a moment, as it is read. -/
def clock (t : Moment) : Clock := { hour := t.hour, minute := t.minute, second := t.second }

theorem toList_clockText (t : Moment) : t.clockText.toList = (Date.padded 2 t.hour).toList ++
    ':' :: ((Date.padded 2 t.minute).toList ++ ':' :: (Date.padded 2 t.second).toList) := by
  simp [clockText]

theorem clockStep_colon (h : cs ≠ []) : clockStep true (':' :: cs) = .pair cs := by
  obtain ⟨c, rest, rfl⟩ := List.exists_cons_of_ne_nil h
  rfl

/-- A time of day is read back. -/
theorem clock?_clockText {t : Moment} (h : t.IsValid) : clock? t.clockText.toList = some t.clock := by
  have hhour : t.hour < 10 ^ 2 := Nat.lt_trans h.hour (by decide)
  have hminute : t.minute < 10 ^ 2 := Nat.lt_trans h.minute (by decide)
  have hsecond : t.second < 10 ^ 2 := Nat.lt_trans h.second (by decide)
  rw [toList_clockText, clock?, digits?_padded (by decide) hhour]
  simp only [Option.bind_eq_bind, Option.bind_some, hasColons, List.head?_cons, beq_self_eq_true]
  rw [clockStep_colon (by simp)]
  simp only
  rw [digits?_padded (by decide) hminute]
  simp only [Option.bind_some]
  rw [clockStep_colon (Date.toList_padded_ne_nil 2 t.second)]
  simp only
  rw [digits?_padded_last (by decide) hsecond]
  rfl

/-- The characters of a time of day do not begin a distance from universal time. -/
theorem no_mark_of_mem_clockText {t : Moment} {c : Char} (h : c ∈ t.clockText.toList) :
    (c == '+' || c == '-' || c == 'Z') = false := by
  have hdigit : ∀ n, c ∈ (Date.padded 2 n).toList → (c == '+' || c == '-' || c == 'Z') = false := by
    intro n hc
    have hc' := Date.isDigit_of_mem_padded hc
    simp only [Bool.or_eq_false_iff, beq_eq_false_iff_ne]
    refine ⟨⟨?_, ?_⟩, ?_⟩ <;> rintro rfl <;> cases hc'
  rw [toList_clockText] at h
  simp only [List.mem_append, List.mem_cons] at h
  obtain h | rfl | h | rfl | h := h
  · exact hdigit _ h
  · rfl
  · exact hdigit _ h
  · rfl
  · exact hdigit _ h

/-- A time of day is read up to the distance from universal time behind it. -/
theorem span_clockText (t : Moment) (zone : List Char)
    (h : ∀ c ∈ zone.head?, (c == '+' || c == '-' || c == 'Z') = true) :
    (t.clockText.toList ++ zone).span (fun c => !(c == '+' || c == '-' || c == 'Z')) =
      (t.clockText.toList, zone) := by
  have hclock : ∀ c ∈ t.clockText.toList, (!(c == '+' || c == '-' || c == 'Z')) = true :=
    fun c hc => by rw [no_mark_of_mem_clockText hc]; rfl
  have hzone : ∀ c ∈ zone.head?, (!(c == '+' || c == '-' || c == 'Z')) = false :=
    fun c hc => by rw [h c hc]; rfl
  rw [List.span_eq_takeWhile_dropWhile, List.takeWhile_append_of_pos hclock,
    List.dropWhile_append_of_pos hclock, Text.dropWhile_eq_self hzone]
  cases zone with
  | nil => simp
  | cons c zone => rw [List.takeWhile_cons_of_neg (by simpa using hzone c rfl), List.append_nil]

theorem timeAndOffset?_clockText {t : Moment} (h : t.IsValid) :
    timeAndOffset? t.clockText.toList = some (t.clock, none) := by
  have hspan := t.span_clockText [] (by simp)
  rw [List.append_nil] at hspan
  rw [timeAndOffset?, hspan]
  simp only [clock?_clockText h, Option.bind_eq_bind, Option.bind_some]
  rfl

theorem timeAndOffset?_clockText_universal {t : Moment} (h : t.IsValid) :
    timeAndOffset? (t.clockText.toList ++ "+00:00".toList) = some (t.clock, some 0) := by
  rw [timeAndOffset?, t.span_clockText _ (by simp)]
  simp only [clock?_clockText h, Option.bind_eq_bind, Option.bind_some]
  rfl

/-! ### Moments -/

/-- A moment as `YYYY-MM-DDTHH:MM:SS`. -/
def stamp (t : Moment) : String := t.date.text ++ "T" ++ t.clockText

theorem toList_stamp (t : Moment) :
    t.stamp.toList = t.date.text.toList ++ 'T' :: t.clockText.toList := by
  simp [stamp]

theorem isPlain_stamp (t : Moment) : Text.IsPlain t.stamp.toList := by
  rw [toList_stamp, toList_clockText]
  simp only [Text.isPlain_append, Text.isPlain_cons, Date.isPlain_text, Date.isPlain_padded, and_true,
    true_and]
  decide

theorem exists_head?_stamp (t : Moment) : ∃ c, t.stamp.toList.head? = some c ∧ c.isDigit = true := by
  obtain ⟨c, rest, hc⟩ := List.exists_cons_of_ne_nil (Date.toList_padded_ne_nil 4 t.date.year)
  refine ⟨c, ?_, Date.isDigit_of_mem_padded (hc ▸ List.mem_cons_self ..)⟩
  rw [toList_stamp, Date.toList_text, hc]
  rfl

theorem exists_getLast?_stamp (t : Moment) :
    ∃ c, t.stamp.toList.getLast? = some c ∧ c.isDigit = true := by
  have hne := Date.toList_padded_ne_nil 2 t.second
  obtain ⟨front, hfront⟩ : ∃ front, t.stamp.toList = front ++ (Date.padded 2 t.second).toList :=
    ⟨(t.date.text ++ "T" ++ (Date.padded 2 t.hour ++ ":" ++ Date.padded 2 t.minute ++ ":")).toList,
      by simp [stamp, clockText]⟩
  refine ⟨_, ?_, Date.isDigit_of_mem_padded (List.getLast_mem hne)⟩
  rw [hfront, List.getLast?_append, List.getLast?_eq_some_getLast hne, Option.some_or]

theorem units_of_isPlain {s : String} (h : Text.IsPlain s.toList) : units s = s.toList := by
  have hone : ∀ c ∈ s.toList, List.replicate c.utf8Size c = [c] := fun c hc => by
    rw [Text.utf8Size_of_le (h c hc).2]
    rfl
  rw [units, List.flatMap_def, List.map_congr_left hone, ← List.flatMap_def, List.flatMap_singleton']

theorem check_of_isValid {t : Moment} {offset : Option Int} (h : t.IsValid)
    (hoffset : ∀ o ∈ offset, o.natAbs < 86400000000) :
    check t.date.year t.date.month t.date.day t.hour t.minute t.second 0 offset =
      .ok { t with micro := 0, offset := offset } := by
  have hdate := Date.check_eq_ok_iff.2 ⟨h.date, rfl⟩
  cases offset with
  | none => simp [check, hdate, h.hour, h.minute, h.second, bind, Except.bind, pure, Except.pure]
  | some o =>
      simp [check, hdate, h.hour, h.minute, h.second, hoffset o rfl, bind, Except.bind, pure,
        Except.pure]

/-- **A written moment is read as that moment**, with the distance from universal time behind it. -/
theorem parse?_stamp_append {t : Moment} {zone : String} {offset : Option Int} (h : t.IsValid)
    (hzone : Text.IsPlain zone.toList)
    (htime : timeAndOffset? (t.clockText.toList ++ zone.toList) = some (t.clock, offset))
    (hoffset : ∀ o ∈ offset, o.natAbs < 86400000000) :
    parse? (t.stamp ++ zone) = some { t with micro := 0, offset := offset } := by
  have hunits : units (t.stamp ++ zone) =
      t.date.text.toList ++ 'T' :: (t.clockText.toList ++ zone.toList) := by
    rw [units_of_isPlain, String.toList_append, toList_stamp, List.append_assoc, List.cons_append]
    rw [String.toList_append, Text.isPlain_append]
    exact ⟨t.isPlain_stamp, hzone⟩
  have hlength := Date.length_text h.date
  have hlong : ¬ (t.date.text.toList ++ 'T' :: (t.clockText.toList ++ zone.toList)).length < 7 := by
    rw [List.length_append, hlength]
    omega
  rw [parse?, hunits]
  simp only [if_neg hlong, dateLength_text h.date]
  rw [List.take_left' hlength, List.drop_left' hlength, date?_text h.date]
  simp only [Option.bind_eq_bind, Option.bind_some]
  rw [show 'T'.utf8Size - 1 = 0 from rfl, List.drop_zero, htime]
  simp only [Option.bind_some, clock, check_of_isValid h hoffset]

end Moment

end Conveyor
