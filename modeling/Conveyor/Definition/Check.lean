/-
**Checking data, and finding all that is wrong with it.**

Checking does not stop at the first problem: the problems of all parts are collected in the order
of the parts.  Numbers and truth values are also read from texts, and texts from bytes.

Main definitions:

* `Conveyor.Checked` — a result, or the problems that stand against it;
* `Conveyor.Check` — how one kind of value is read from a datum;
* `Conveyor.Check.text`, `Conveyor.Check.whole`, `Conveyor.Check.truth` — the checks of scalars;
* `Conveyor.Check.required`, `Conveyor.Check.optional` — the checks of the fields of a record;
* `Conveyor.Check.record` — the check of a record with known fields;
* `Conveyor.Check.sequence` — the check of a sequence.

Main results:

* `Conveyor.Checked.all_eq_good_iff` — a row of checks is good when each of them is.
-/

import Conveyor.Datum.Display
import Conveyor.Definition.Problem
import Conveyor.Text.Whole

set_option autoImplicit false

namespace Conveyor

/-- A result, or the problems that stand against it. -/
inductive Checked (α : Type) where
  | good (a : α)
  | bad (problems : List Problem)
  deriving Repr

namespace Checked

variable {α β : Type}

/-- Applies a function to a good result. -/
def map (f : α → β) : Checked α → Checked β
  | .good a => .good (f a)
  | .bad ps => .bad ps

/-- Applies a checked function to a checked result; the problems of both are kept. -/
def seq (f : Checked (α → β)) (x : Unit → Checked α) : Checked β :=
  match f, x () with
  | .good f, .good a => .good (f a)
  | .good _, .bad ps => .bad ps
  | .bad ps, .good _ => .bad ps
  | .bad ps, .bad qs => .bad (ps ++ qs)

instance : Functor Checked where
  map := map

instance : Applicative Checked where
  pure := .good
  seq := seq

/-- Goes on with a good result. -/
def andThen (x : Checked α) (f : α → Checked β) : Checked β :=
  match x with
  | .good a => f a
  | .bad ps => .bad ps

/-- The problems of a part, seen from the whole. -/
def within (p : Place) : Checked α → Checked α
  | .good a => .good a
  | .bad ps => .bad (ps.map (Problem.within p))

/-- A row of checks: the results in order, or the problems in order. -/
def all : List (Checked α) → Checked (List α)
  | [] => .good []
  | x :: xs => seq (map List.cons x) fun _ => all xs

/-- The result, or the problems. -/
def toExcept : Checked α → Except (List Problem) α
  | .good a => .ok a
  | .bad ps => .error ps

/-- A row of checks is good when each of them is. -/
theorem all_eq_good_iff {xs : List (Checked α)} {as : List α} :
    all xs = .good as ↔ xs = as.map .good := by
  induction xs generalizing as with
  | nil => cases as <;> simp [all]
  | cons x xs ih =>
      cases x with
      | bad ps =>
          cases as with
          | nil => cases h : all xs <;> simp [all, seq, map, h]
          | cons a as => cases h : all xs <;> simp [all, seq, map, h]
      | good b =>
          cases as with
          | nil => cases h : all xs <;> simp [all, seq, map, h]
          | cons a as =>
              cases h : all xs with
              | bad ps =>
                  have hne : ¬ xs = as.map .good := fun he => by simp [ih.2 he] at h
                  simp [all, seq, map, h, hne]
              | good bs =>
                  have hbs := ih.1 h
                  subst hbs
                  simp [all, seq, map, h, List.map_inj_right]

end Checked

/-- How one kind of value is read from a datum. -/
abbrev Check (α : Type) := Datum → Checked α

namespace Check

variable {α : Type}

/-- A single problem at the datum itself. -/
def fail (c : Problem.Cause) : Checked α := .bad [⟨[], c⟩]

/-! ### Scalars -/

/-- A text; bytes count as the text they encode. -/
def text : Check String
  | .text s => .good s
  | .bytes bs =>
    match String.fromUTF8? (ByteArray.mk bs.toArray) with
    | some s => .good s
    | none => fail .notUnicode
  | .codes _ => fail .notUnicode
  | _ => fail .notText

/-- A text of at least one character. -/
def nonEmpty (d : Datum) : Checked String :=
  (text d).andThen fun s => if s = "" then fail (.tooShort 1) else .good s

/-- Null, or what the check accepts. -/
def nullable (check : Check α) : Check (Option α)
  | .null => .good none
  | d => (check d).map some

/-- A whole number written as a text. -/
def wholeOfText (s : String) : Checked Int :=
  match Text.readWhole s with
  | .ok n => .good n
  | .error .tooLong => fail .tooLarge
  | .error .malformed => fail .notWholeText

/-- The least float that is too large for a whole number. -/
def floatBound : Float := 9223372036854775808.0

/-- A whole number given as a float. -/
def wholeOfFloat (x : Float) : Checked Int :=
  if x.isNaN || x.isInf then fail .notFinite
  else if x.floor != x then fail .fractional
  else if -floatBound < x && x < floatBound then .good x.toInt64.toInt
  else fail .tooLarge

/-- A whole number. -/
def whole : Check Int
  | .int i => .good i
  | .bool b => .good (if b then 1 else 0)
  | .float x => wholeOfFloat x
  | .text s => wholeOfText s
  | .codes _ => fail .notUnicode
  | .bytes bs =>
    match String.fromUTF8? (ByteArray.mk bs.toArray) with
    | some s => wholeOfText s
    | none => fail .notWholeText
  | _ => fail .notWhole

/-- A whole number that is not below a bound, and not above one if there is one. -/
def wholeIn (low : Nat) (high : Option Nat) (d : Datum) : Checked Nat :=
  (whole d).andThen fun i =>
    if i < low then fail (.below low)
    else
      match high with
      | some high => if high < i then fail (.above high) else .good i.toNat
      | none => .good i.toNat

/-- A truth value written as a text, in any letter case. -/
def truthOfText (s : String) : Checked Bool :=
  let word := String.ofList (s.toList.map Char.toLower)
  if ["1", "on", "t", "true", "y", "yes"].contains word then .good true
  else if ["0", "off", "f", "false", "n", "no"].contains word then .good false
  else fail .notTruthWord

/-- A truth value given as a number: one or zero. -/
def truthOfInt (i : Int) : Checked Bool :=
  if i = 1 then .good true
  else if i = 0 then .good false
  else if -9223372036854775808 ≤ i ∧ i < 9223372036854775808 then fail .notTruthWord
  else fail .notTruth

/-- A truth value. -/
def truth : Check Bool
  | .bool b => .good b
  | .text s => truthOfText s
  | .codes _ => fail .notUnicode
  | .int i => truthOfInt i
  | .float x =>
    match wholeOfFloat x with
    | .good i => truthOfInt i
    | .bad _ => fail .notTruth
  | .bytes bs =>
    match String.fromUTF8? (ByteArray.mk bs.toArray) with
    | some s => truthOfText s
    | none => fail .notTruthWord
  | _ => fail .notTruth

/-- One given word. -/
def word (w : String) : Check Unit
  | .text s => if s = w then .good () else fail (.notWord w)
  | _ => fail (.notWord w)

/-! ### Sequences and records -/

/-- The items of a sequence, each checked at its index. -/
def items (check : Check α) : Nat → List Datum → List (Checked α)
  | _, [] => []
  | i, d :: ds => (check d.opened).within (.index i) :: items check (i + 1) ds

/-- A sequence; a mapping is none. -/
def sequence (check : Check α) : Check (List α)
  | .list ds | .tuple ds | .set ds => Checked.all (items check 0 ds)
  | _ => fail .notSequence

/-- The value of a field that has to be there. -/
def required (key : String) (check : Check α) (d : Datum) : Checked α :=
  match d.field? key with
  | some v => (check v.opened).within (.key key)
  | none => .bad [⟨[.key key], .missing⟩]

/-- The value of a field that may be missing. -/
def optional (key : String) (default : α) (check : Check α) (d : Datum) : Checked α :=
  match d.field? key with
  | some v => (check v.opened).within (.key key)
  | none => .good default

/-- The place of a key that is no text. -/
def keyPlace : Datum → Place
  | .int i =>
    if -9223372036854775808 ≤ i ∧ i < 9223372036854775808 then .index i
    else .key (Datum.int i).shownSafely
  | .bool b => .index (if b then 1 else 0)
  | d => .key d.inner

/-- What is wrong with a key of a record with some known fields. -/
def keyProblem? (known : List String) : Datum → Option Problem
  | .text k => if known.contains k then none else some ⟨[.key k], .unknownKey⟩
  | k => some ⟨[keyPlace k], .keyNotText⟩

/-- A record has no other fields than the known ones. -/
def noOthers (known : List String) (entries : List (Datum × Datum)) : Checked Unit :=
  match entries.filterMap fun e => keyProblem? known e.1 with
  | [] => .good ()
  | ps => .bad ps

/-- Whether a key is a text that no characters make up. -/
def isBrokenKey : Datum → Bool
  | .codes _ => true
  | _ => false

/-- A record: its fields, and no others.  A key that cannot be read is the only problem told. -/
def record (what : String) (known : List String) (fields : Check α) : Check α
  | .dict entries =>
    if entries.any fun e => isBrokenKey e.1 then fail .notUnicode
    else (fun a _ => a) <$> fields (.dict entries) <*> noOthers known entries
  | _ => fail (.notRecord what)

/-- A record whose field `kind` says which of some forms it has. -/
def tagged (forms : List (String × Check α)) : Check α
  | .dict entries =>
    match (Datum.dict entries).field? "kind" with
    | none => fail (.tagMissing "kind")
    | some tag =>
      let found : Option (String × Check α) := match tag with
        | .text k => forms.find? fun f => f.1 == k
        | _ => none
      match found with
      | some (k, check) => (check (.dict entries)).within (.key k)
      | none => fail (.tagUnknown "kind" tag.shownSafely (forms.map (·.1)))
  | _ => fail .notTagged

end Check

end Conveyor
