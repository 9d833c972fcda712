/-
**Moments: a date with a time of day.**

The written form of a moment is a date, one separating character and a time.  Dates are
`YYYY-MM-DD`, `YYYYMMDD`, `YYYY-Www`, `YYYYWww`, `YYYY-Www-D` or `YYYYWwwD`; times are `HH`,
`HH:MM` or `HH:MM:SS`, the colons all present or all absent, with an optional fraction and an
optional distance from universal time.  Positions are counted in bytes, so a wide character stands
for as many units as it has bytes.

Main definitions:

* `Conveyor.Moment` — a date, a time of day and perhaps a distance from universal time;
* `Conveyor.Moment.check` — the moment with given parts, or what is wrong with it;
* `Conveyor.Moment.parse?` — reads a written moment;
* `Conveyor.Moment.text` — writes a moment.
-/

import Conveyor.Calendar.Date

set_option autoImplicit false

namespace Conveyor

/-- A date with a time of day, and perhaps its distance in microseconds from universal time. -/
structure Moment where
  date : Date
  hour : Nat
  minute : Nat
  second : Nat
  micro : Nat := 0
  offset : Option Int := none
  deriving DecidableEq, Repr, Inhabited

namespace Moment

/-- The moment with given parts; the date is looked at first, the offset last. -/
def check (y m d hh mm ss us : Nat) (offset : Option Int) : Except DateError Moment := do
  match offset with
  | some o =>
    if o.natAbs < 86400000000 then pure () else throw (.offset (Int.fdiv o 1000000))
  | none => pure ()
  let date ← Date.check y m d
  if ¬hh < 24 then throw .hour
  if ¬mm < 60 then throw .minute
  if ¬ss < 60 then throw .second
  return ⟨date, hh, mm, ss, us, offset⟩

/-- The microseconds from the first day on, as the clock shows them. -/
def clockMicros (t : Moment) : Int :=
  (((t.date.dayNumber * 24 + t.hour) * 60 + t.minute) * 60 + t.second) * 1000000 + t.micro

/-- Whether two moments are the same instant.  Without a distance from universal time, only moments
of the same kind are compared. -/
def sameInstant (s t : Moment) : Bool :=
  match s.offset, t.offset with
  | none, none => s == t
  | some o, some p => s.clockMicros - o == t.clockMicros - p
  | _, _ => false

/-! ### Reading -/

/-- The bytes of a text, each shown as the character it belongs to. -/
def units (s : String) : List Char := s.toList.flatMap fun c => List.replicate c.utf8Size c

/-- Reads exactly `n` digits onto the value read so far. -/
def digitsOnto? : Nat → Nat → List Char → Option (Nat × List Char)
  | 0, v, cs => some (v, cs)
  | n + 1, v, c :: cs => if c.isDigit then digitsOnto? n (10 * v + (c.toNat - 48)) cs else none
  | _ + 1, _, [] => none

/-- Reads exactly `n` digits. -/
def digits? (n : Nat) (cs : List Char) : Option (Nat × List Char) := digitsOnto? n 0 cs

/-- A time of day as read: its parts, and whether something was left after it. -/
structure Clock where
  hour : Nat := 0
  minute : Nat := 0
  second : Nat := 0
  micro : Nat := 0
  rest : Bool := false
  deriving DecidableEq, Repr

/-- Reads the fraction of a second: at most six digits count, further digits are dropped, and
whatever follows is left over. -/
def fraction? (k : Clock) (cs : List Char) : Option Clock :=
  let n := min cs.length 6
  match digits? n cs with
  | none => none
  | some (v, rest) =>
    some { k with micro := v * Nat.pow 10 (6 - n), rest := !(rest.dropWhile Char.isDigit).isEmpty }

/-- What may follow a pair of digits of a time. -/
inductive ClockStep where
  | done (rest : Bool)
  | pair (cs : List Char)
  | fraction (cs : List Char)
  | wrong

/-- Looks at what follows a pair of digits.  A single character that follows the last pair is left
over; a point or a comma begins the fraction; otherwise the next pair follows, after a colon if
`colons` says so. -/
def clockStep (colons : Bool) : List Char → ClockStep
  | [] => .done false
  | [_] => .done true
  | c :: cs =>
    if colons && c == ':' then .pair cs
    else if c == '.' || c == ',' then .fraction cs
    else if !colons then .pair (c :: cs)
    else .wrong

/-- Whether the pairs are separated by colons, seen from what follows the first one. -/
def hasColons (cs : List Char) : Bool := cs.head? == some ':'

/-- Reads a time of day that makes up the whole of `cs`, but for what it leaves over. -/
def clock? (cs : List Char) : Option Clock := do
  let (hour, cs) ← digits? 2 cs
  let colons := hasColons cs
  match clockStep colons cs with
  | .wrong => none
  | .done rest => some { hour, rest }
  | .fraction cs => fraction? { hour } cs
  | .pair cs =>
    let (minute, cs) ← digits? 2 cs
    match clockStep colons cs with
    | .wrong => none
    | .done rest => some { hour, minute, rest }
    | .fraction cs => fraction? { hour, minute } cs
    | .pair cs =>
      let (second, cs) ← digits? 2 cs
      match clockStep colons cs with
      | .wrong => none
      | .done rest => some { hour, minute, second, rest }
      | .fraction cs => fraction? { hour, minute, second } cs
      | .pair cs => fraction? { hour, minute, second } cs

/-- Reads a time of day and its distance from universal time, in microseconds. -/
def timeAndOffset? (cs : List Char) : Option (Clock × Option Int) := do
  let isMark (c : Char) : Bool := c == '+' || c == '-' || c == 'Z'
  let (time, zone) := cs.span fun c => !isMark c
  let k ← clock? time
  match zone with
  | [] => if k.rest then none else some (k, none)
  | 'Z' :: more => if more.isEmpty then some (k, some 0) else none
  | mark :: more =>
    let z ← clock? more
    if z.rest then none
    else
      let size : Int := ((z.hour * 60 + z.minute) * 60 + z.second) * 1000000 + z.micro
      some (k, some (if mark == '-' then -size else size))

/-- Reads a date that makes up the whole of `cs`. -/
def date? (cs : List Char) : Option (Nat × Nat × Nat) := do
  let (y, cs) ← digits? 4 cs
  let (dashed, cs) := match cs with
    | '-' :: cs => (true, cs)
    | cs => (false, cs)
  match cs with
  | 'W' :: cs =>
    let (w, cs) ← digits? 2 cs
    let d ← match cs with
      | [] => some 1
      | c :: rest =>
        if dashed then (if c == '-' then (digits? 1 rest).map Prod.fst else none)
        else (digits? 1 cs).map Prod.fst
    let t ← Date.ofWeek? y w d
    return (t.year, t.month, t.day)
  | cs =>
    let (m, cs) ← digits? 2 cs
    let cs ← if dashed then (match cs with
      | '-' :: cs => some cs
      | _ => none) else some cs
    let (d, cs) ← digits? 2 cs
    if cs.isEmpty then some (y, m, d) else none

/-- The number of units of the date at the front of a written moment. -/
def dateLength (cs : List Char) : Nat :=
  let digitAt (n : Nat) : Bool := (cs[n]?).any Char.isDigit
  if cs.length == 7 then 7
  else if cs[4]? == some '-' then
    if cs[5]? == some 'W' then
      if cs[8]? == some '-' then (if digitAt 10 then 8 else 10) else 8
    else 10
  else if cs[4]? == some 'W' then
    let pos := 7 + ((cs.drop 7).takeWhile Char.isDigit).length
    if pos < 9 then pos else if pos % 2 == 0 then 7 else 8
  else 8

/-- Reads a written moment; without a time it is the first moment of the day. -/
def parse? (s : String) : Option Moment := do
  let cs := units s
  if cs.length < 7 then none
  else
    let n := dateLength cs
    let (y, m, d) ← date? (cs.take n)
    let (k, offset) ← match cs.drop n with
      | [] => some ({}, none)
      | c :: rest => timeAndOffset? (rest.drop (c.utf8Size - 1))
    match check y m d k.hour k.minute k.second k.micro offset with
    | .ok t => some t
    | .error _ => none

/-! ### Writing -/

/-- A distance from universal time as `+HH:MM`, with seconds and microseconds if there are any. -/
def offsetText (o : Int) : String :=
  let n := o.natAbs
  let us := n % 1000000
  let s := n / 1000000
  (if o < 0 then "-" else "+") ++ Date.padded 2 (s / 3600) ++ ":" ++ Date.padded 2 (s / 60 % 60) ++
    (if s % 60 == 0 && us == 0 then "" else ":" ++ Date.padded 2 (s % 60)) ++
    (if us == 0 then "" else "." ++ Date.padded 6 us)

/-- A moment as `YYYY-MM-DD HH:MM:SS`, with microseconds and offset if there are any. -/
def text (t : Moment) : String :=
  t.date.text ++ " " ++ Date.padded 2 t.hour ++ ":" ++ Date.padded 2 t.minute ++ ":" ++
    Date.padded 2 t.second ++ (if t.micro == 0 then "" else "." ++ Date.padded 6 t.micro) ++
    (match t.offset with
    | some o => offsetText o
    | none => "")

end Moment

end Conveyor
