/-
**Cron: rules for times.**

A rule has five fields, for minutes, hours, days, months and weekdays.  A field is a list of
elements; an element is a star, a value or a range of values, perhaps with a step.  Seven is Sunday
as well as zero.  If both days and weekdays are restricted, one of the two is enough.

Main definitions:

* `Conveyor.Cron.Element`, `Conveyor.Cron.Field` — the parts of a rule;
* `Conveyor.Cron.Error` — what is wrong with a rule;
* `Conveyor.Cron` — a rule, as the values that each field admits;
* `Conveyor.Cron.ruleText` — the text of a rule, aliases replaced;
* `Conveyor.Cron.parse` — the rule that a text writes;
* `Conveyor.Cron.admits` — whether a moment obeys a rule.

Main results:

* `Conveyor.Cron.Element.contains_iff` — the values of an element go up in steps from its start.
-/

import Conveyor.Calendar.Moment
import Conveyor.Text.Number

set_option autoImplicit false

namespace Conveyor

namespace Cron

/-- A field of a rule: its name, its bounds, and the names of values. -/
structure Field where
  name : String
  low : Nat
  high : Nat
  words : List (String × Nat) := []
  deriving DecidableEq, Repr

/-- Names, counted from a number on. -/
def numbered (start : Nat) : List String → List (String × Nat)
  | [] => []
  | w :: ws => (w, start) :: numbered (start + 1) ws

/-- The minutes of an hour. -/
def minuteField : Field := { name := "minute", low := 0, high := 59 }

/-- The hours of a day. -/
def hourField : Field := { name := "hour", low := 0, high := 23 }

/-- The days of a month. -/
def dayField : Field := { name := "day", low := 1, high := 31 }

/-- The months of a year. -/
def monthField : Field :=
  { name := "month", low := 1, high := 12
    words := numbered 1
      ["jan", "feb", "mar", "apr", "may", "jun", "jul", "aug", "sep", "oct", "nov", "dec"] }

/-- The days of a week; Sunday is 0 and 7. -/
def weekdayField : Field :=
  { name := "weekday", low := 0, high := 7
    words := numbered 0 ["sun", "mon", "tue", "wed", "thu", "fri", "sat"] }

/-- Texts that stand for rules. -/
def aliases : List (String × String) := [
  ("@yearly", "0 0 1 1 *"), ("@annually", "0 0 1 1 *"), ("@monthly", "0 0 1 * *"),
  ("@weekly", "0 0 * * 0"), ("@daily", "0 0 * * *"), ("@midnight", "0 0 * * *"),
  ("@hourly", "0 * * * *")]

/-- What is wrong with a field. -/
inductive FieldError where
  | emptyElement (field : String)
  | number (e : Text.NumberError)
  | step (field : String)
  | range (field : Field) (element : String)
  deriving DecidableEq, Repr

/-- The wording of what is wrong with a field. -/
def FieldError.message : FieldError → String
  | .emptyElement field => "empty element in " ++ field ++ " field"
  | .number e => e.message
  | .step field => "step must be positive in " ++ field ++ " field"
  | .range field element =>
    field.name ++ " value out of range " ++ toString field.low ++ "-" ++ toString field.high
      ++ ": '" ++ element ++ "'"

/-- What is wrong with a rule. -/
inductive Error where
  | fieldCount (n : Nat) (rule : String)
  | field (rule : String) (e : FieldError)
  deriving DecidableEq, Repr

/-- The wording of what is wrong with a rule. -/
def Error.message : Error → String
  | .fieldCount n rule =>
    "Cron expression must have 5 fields, got " ++ toString n ++ ": '" ++ rule ++ "'"
  | .field rule e => "Invalid cron expression '" ++ rule ++ "': " ++ e.message

/-! ### Elements -/

/-- The values from a first to a last one, in steps. -/
structure Element where
  first : Nat
  last : Nat
  step : Nat
  step_pos : 0 < step
  deriving DecidableEq, Repr

/-- Whether a value is among those of an element. -/
def Element.contains (e : Element) (n : Nat) : Bool :=
  e.first ≤ n && n ≤ e.last && (n - e.first) % e.step == 0

/-- The values of an element go up in steps from its start. -/
theorem Element.contains_iff (e : Element) (n : Nat) :
    e.contains n = true ↔ n ≤ e.last ∧ ∃ k, n = e.first + k * e.step := by
  simp only [contains, Bool.and_eq_true, decide_eq_true_eq, beq_iff_eq]
  constructor
  · rintro ⟨⟨h₁, h₂⟩, h₃⟩
    obtain ⟨k, hk⟩ := Nat.dvd_of_mod_eq_zero h₃
    exact ⟨h₂, k, by rw [Nat.mul_comm] at hk; omega⟩
  · rintro ⟨h, k, rfl⟩
    exact ⟨⟨by omega, h⟩, by simp⟩

/-- A value: a name in any letter case, or a number. -/
def value (f : Field) (s : String) : Except FieldError Int :=
  match f.words.lookup (Text.lower s) with
  | some n => .ok n
  | none =>
    match Text.wholeNumber s with
    | .ok n => .ok n
    | .error e => .error (.number e)

/-- Cuts at the first of a character. -/
def cut? (x : Char) (s : String) : Option (String × String) :=
  match s.toList.span (· != x) with
  | (front, _ :: rest) => some (String.ofList front, String.ofList rest)
  | (_, []) => none

/-- The step of an element: a positive number. -/
def stepOf (f : Field) (s : String) : Except FieldError { n : Nat // 0 < n } :=
  match Text.wholeNumber s with
  | .error e => .error (.number e)
  | .ok n => if h : 0 < n.toNat then .ok ⟨n.toNat, h⟩ else .error (.step f.name)

/-- The first and the last value of an element without its step. -/
def bounds (f : Field) (base : String) (stepped : Bool) : Except FieldError (Int × Int) :=
  if base = "*" then .ok (f.low, f.high)
  else
    match cut? '-' base with
    | some (a, b) => do
      let first ← value f a
      let last ← value f b
      return (first, last)
    | none => do
      let first ← value f base
      return (first, if stepped then (f.high : Int) else first)

/-- An element of a field. -/
def element (f : Field) (s : String) : Except FieldError Element := do
  if s = "" then throw (.emptyElement f.name)
  let (base, step, stepped) ← match cut? '/' s with
    | some (base, text) => do
      let step ← stepOf f text
      pure (base, step, true)
    | none => pure (s, ⟨1, by decide⟩, false)
  let (first, last) ← bounds f base stepped
  if (f.low : Int) ≤ first ∧ first ≤ last ∧ last ≤ f.high then
    return ⟨first.toNat, last.toNat, step.1, step.2⟩
  else throw (.range f s)

/-- The elements of a field, between commas. -/
def elements (f : Field) (s : String) : Except FieldError (List Element) :=
  ((s.toList.splitOn ',').map String.ofList).mapM (element f)

/-- The values that elements admit, in order. -/
def valuesOf (f : Field) (es : List Element) : List Nat :=
  (List.range (f.high + 1)).filter fun n => f.low ≤ n && es.any (·.contains n)

/-- The values that a field admits, in order. -/
def values (f : Field) (s : String) : Except FieldError (List Nat) := valuesOf f <$> elements f s

end Cron

/-- A rule, as the values that each field admits. -/
structure Cron where
  expression : String
  minutes : List Nat
  hours : List Nat
  days : List Nat
  months : List Nat
  weekdays : List Nat
  dayRestricted : Bool
  weekdayRestricted : Bool
  deriving DecidableEq, Repr

namespace Cron

/-- The text of a rule without the blanks around it; an alias, in any letter case, is replaced. -/
def ruleText (s : String) : String :=
  (aliases.lookup (Text.lower (Text.strip s))).getD (Text.strip s)

/-- The values that a field of a rule admits. -/
def admitted (rule : String) (f : Field) (s : String) : Except Error (List Nat) :=
  match values f s with
  | .ok ns => .ok ns
  | .error e => .error (.field rule e)

/-- The rule that a text writes. -/
def parse (s : String) : Except Error Cron :=
  match Text.words (ruleText s) with
  | [minute, hour, day, month, weekday] => do
    let minutes ← admitted s minuteField minute
    let hours ← admitted s hourField hour
    let days ← admitted s dayField day
    let months ← admitted s monthField month
    let weekdays ← admitted s weekdayField weekday
    return {
      expression := Text.strip s, minutes, hours, days, months
      weekdays := (List.range 7).filter fun d => weekdays.any (· % 7 == d)
      dayRestricted := day != "*"
      weekdayRestricted := weekday != "*" }
  | fields => .error (.fieldCount fields.length s)

/-- Whether a day obeys the rule for days and the rule for weekdays. -/
def admitsDay (c : Cron) (t : Date) : Bool :=
  let day := c.days.contains t.day
  let weekday := c.weekdays.contains t.weekday
  if c.dayRestricted && c.weekdayRestricted then day || weekday else day && weekday

/-- Whether a moment obeys a rule. -/
def admits (c : Cron) (t : Moment) : Bool :=
  c.minutes.contains t.minute && c.hours.contains t.hour && c.months.contains t.date.month &&
    c.admitsDay t.date

/-- A rule as messages show it. -/
def shown (c : Cron) : String := "CronExpression(" ++ Text.quoted c.expression ++ ")"

end Cron

end Conveyor
