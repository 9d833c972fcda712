/-
**Dates of the proleptic Gregorian calendar.**

Years run from 1 to 9999.  Days are numbered from 1 January of year 1, which was a Monday, so the
number of a day modulo seven is its weekday with Sunday as zero.  A week belongs to the year that
holds its Thursday, and weeks begin on Monday.

Main definitions:

* `Conveyor.Date.check` — the date with a given year, month and day, or what is wrong with it;
* `Conveyor.Date.dayNumber`, `Conveyor.Date.ofDayNumber` — days counted from year 1;
* `Conveyor.Date.weekday` — the day of the week, Sunday being zero;
* `Conveyor.Date.ofWeek?` — a day given by year, week and weekday.

Main results:

* `Conveyor.Date.check_eq_ok_iff` — exactly the dates of the calendar are accepted.
-/

import Conveyor.Counts

set_option autoImplicit false

namespace Conveyor

/-- A day of the calendar. -/
structure Date where
  year : Nat
  month : Nat
  day : Nat
  deriving DecidableEq, Repr, Inhabited

/-- What is wrong with a date or a time of day. -/
inductive DateError where
  | year (n : Nat)
  | month
  | day
  | hour
  | minute
  | second
  | offset (seconds : Int)
  deriving DecidableEq, Repr

namespace Date

def isLeap (y : Nat) : Bool := y % 4 == 0 && (y % 100 != 0 || y % 400 == 0)

/-- The number of days of a month. -/
def daysInMonth (y m : Nat) : Nat :=
  if m == 2 then (if isLeap y then 29 else 28)
  else if m == 4 || m == 6 || m == 9 || m == 11 then 30
  else 31

/-- Whether the three numbers make a date. -/
def Valid (y m d : Nat) : Prop :=
  (1 ≤ y ∧ y ≤ 9999) ∧ (1 ≤ m ∧ m ≤ 12) ∧ (1 ≤ d ∧ d ≤ daysInMonth y m)

instance (y m d : Nat) : Decidable (Valid y m d) := by unfold Valid; infer_instance

/-- The date with a given year, month and day; the year is looked at first, the day last. -/
def check (y m d : Nat) : Except DateError Date :=
  if ¬(1 ≤ y ∧ y ≤ 9999) then .error (.year y)
  else if ¬(1 ≤ m ∧ m ≤ 12) then .error .month
  else if ¬(1 ≤ d ∧ d ≤ daysInMonth y m) then .error .day
  else .ok ⟨y, m, d⟩

theorem check_eq_ok_iff {y m d : Nat} {t : Date} :
    check y m d = .ok t ↔ Valid y m d ∧ t = ⟨y, m, d⟩ := by
  unfold check Valid
  by_cases hy : 1 ≤ y ∧ y ≤ 9999 <;> by_cases hm : 1 ≤ m ∧ m ≤ 12 <;>
    by_cases hd : 1 ≤ d ∧ d ≤ daysInMonth y m <;> simp [hy, hm, hd, eq_comm]

/-- Days of the years before `y`. -/
def daysBeforeYear (y : Nat) : Nat :=
  let n := y - 1
  365 * n + n / 4 - n / 100 + n / 400

/-- Days of the year before the month `m`. -/
def daysBeforeMonth (y m : Nat) : Nat :=
  total ((List.range (m - 1)).map fun i => daysInMonth y (i + 1))

/-- The number of a day, 1 January of year 1 being day 1. -/
def dayNumber (t : Date) : Nat :=
  daysBeforeYear t.year + daysBeforeMonth t.year t.month + t.day

/-- The day of the week: Sunday is 0, Saturday is 6. -/
def weekday (t : Date) : Nat := t.dayNumber % 7

/-- The month and the day of a day of the year counted from zero, from month `m` on. -/
def splitYearDay (y : Nat) : Nat → Nat → Nat → Nat × Nat
  | 0, m, n => (m, n + 1)
  | fuel + 1, m, n =>
    if n < daysInMonth y m then (m, n + 1) else splitYearDay y fuel (m + 1) (n - daysInMonth y m)

/-- The day with a given number. -/
def ofDayNumber (n : Nat) : Date :=
  let n := n - 1
  let n400 := n / 146097
  let r := n % 146097
  let n100 := min (r / 36524) 3
  let r := r - n100 * 36524
  let n4 := r / 1461
  let r := r % 1461
  let n1 := min (r / 365) 3
  let r := r - n1 * 365
  let y := 400 * n400 + 100 * n100 + 4 * n4 + n1 + 1
  let (m, d) := splitYearDay y 12 1 r
  ⟨y, m, d⟩

/-- The number of the Monday of the first week of a year. -/
def firstMonday (y : Nat) : Int :=
  let first : Int := daysBeforeYear y + 1
  let weekday := (first + 6) % 7
  if weekday > 3 then first - weekday + 7 else first - weekday

/-- The number of weeks of a year. -/
def weeksInYear (y : Nat) : Nat := ((firstMonday (y + 1) - firstMonday y) / 7).toNat

/-- The day that is weekday `d` (Monday is 1, Sunday is 7) of week `w` of a year. -/
def ofWeek? (y w d : Nat) : Option Date :=
  if 1 ≤ y ∧ y ≤ 9999 ∧ 1 ≤ w ∧ w ≤ weeksInYear y ∧ 1 ≤ d ∧ d ≤ 7 then
    let n := firstMonday y + ((w - 1) * 7 + (d - 1) : Nat)
    if 1 ≤ n then some (ofDayNumber n.toNat) else none
  else none

/-! ### Writing -/

/-- A number in at least `width` decimal digits. -/
def padded (width n : Nat) : String :=
  let ds := Nat.toDigits 10 n
  String.ofList (List.replicate (width - ds.length) '0' ++ ds)

/-- A date as `YYYY-MM-DD`. -/
def text (t : Date) : String :=
  padded 4 t.year ++ "-" ++ padded 2 t.month ++ "-" ++ padded 2 t.day

end Date

namespace DateError

/-- An offset of so many seconds, as it is named in messages. -/
def durationText (seconds : Int) : String :=
  let days := Int.fdiv seconds 86400
  let rest := Int.fmod seconds 86400
  let parts := (if days = 0 then [] else ["days=" ++ toString days]) ++
    (if rest = 0 then [] else ["seconds=" ++ toString rest])
  "datetime.timedelta(" ++ (if parts.isEmpty then "0" else ", ".intercalate parts) ++ ")"

/-- The wording of what is wrong with a date or a time of day. -/
def message : DateError → String
  | .year n => "year " ++ toString n ++ " is out of range"
  | .month => "month must be in 1..12"
  | .day => "day is out of range for month"
  | .hour => "hour must be in 0..23"
  | .minute => "minute must be in 0..59"
  | .second => "second must be in 0..59"
  | .offset n =>
    "offset must be a timedelta strictly between -timedelta(hours=24) and timedelta(hours=24), not "
      ++ durationText n ++ "."

end DateError

end Conveyor
