/-
**Dynamic data: what documents hold before they are checked.**

A definition document is read into data first and checked against the definition tree afterwards.
Mappings keep the order in which their keys were written; writing a key again replaces its value
and keeps its place.  A collection may hold itself; such a collection is unfolded as deep as anybody
looks, and its number tells where it is met again.

Main definitions:

* `Conveyor.Datum` — nulls, truth values, numbers, texts, dates, sequences, sets and mappings;
* `Conveyor.Datum.opened` — a datum without its number;
* `Conveyor.Datum.sameKey` — whether two data are the same key;
* `Conveyor.Datum.put` — writes an entry of a mapping;
* `Conveyor.Datum.field?` — the value of a text key;
* `Conveyor.Datum.typeName` — the kind of a datum, as messages name it;
* `Conveyor.Datum.truthy` — whether a datum counts as something.
-/

import Conveyor.Calendar.Moment
import Conveyor.Decimal.Shortest

set_option autoImplicit false

namespace Conveyor

/-- A dynamic value. -/
inductive Datum where
  | null
  | bool (b : Bool)
  | int (i : Int)
  | float (x : Float)
  | text (s : String)
  /-- A text some of whose code points are no characters. -/
  | codes (cs : List Nat)
  | date (t : Date)
  | moment (t : Moment)
  | bytes (bs : List UInt8)
  | list (items : List Datum)
  | tuple (items : List Datum)
  | set (items : List Datum)
  | dict (entries : List (Datum × Datum))
  /-- A collection that may hold itself, with its number. -/
  | knot (number : Nat) (d : Datum)
  deriving Inhabited

namespace Datum

/-- A mapping with text keys. -/
def object (entries : List (String × Datum)) : Datum :=
  .dict (entries.map fun e => (.text e.1, e.2))

/-- A sequence of texts. -/
def texts (ss : List String) : Datum := .list (ss.map .text)

/-- A text, or null if there is none. -/
def ofText? : Option String → Datum
  | some s => .text s
  | none => .null

/-- A number, or null if there is none. -/
def ofInt? : Option Int → Datum
  | some i => .int i
  | none => .null

/-- A datum without its number. -/
def opened : Datum → Datum
  | .knot _ d => opened d
  | d => d

/-- The whole number that a datum is, if it is one: truth values count as one and zero. -/
def whole? : Datum → Option Int
  | .bool b => some (if b then 1 else 0)
  | .int i => some i
  | .float x => Decimal.wholeOfFloat? x
  | _ => none

mutual
/-- Whether two data are the same key: numbers are compared by value across their kinds. -/
def sameKey : Datum → Datum → Bool
  | .null, .null => true
  | .text s, .text t => s == t
  | .date s, .date t => s == t
  | .codes s, .codes t => s == t
  | .moment s, .moment t => s.sameInstant t
  | .bytes s, .bytes t => s == t
  | .float x, .float y => x == y
  | .tuple s, .tuple t => sameKeys s t
  | a, b =>
    match a.whole?, b.whole? with
    | some i, some j => i == j
    | _, _ => false

/-- Whether two rows of data are the same, place by place. -/
def sameKeys : List Datum → List Datum → Bool
  | [], [] => true
  | a :: s, b :: t => sameKey a b && sameKeys s t
  | _, _ => false
end

/-- Writes an entry: a key that is already there keeps its place and gets the new value. -/
def put (entries : List (Datum × Datum)) (k v : Datum) : List (Datum × Datum) :=
  match entries with
  | [] => [(k, v)]
  | (k', v') :: rest => if sameKey k' k then (k', v) :: rest else (k', v') :: put rest k v

/-- The value of a text key in a list of entries. -/
def lookupText (entries : List (Datum × Datum)) (k : String) : Option Datum :=
  match entries with
  | [] => none
  | (.text s, v) :: rest => if s = k then some v else lookupText rest k
  | _ :: rest => lookupText rest k

/-- The value of a text key of a mapping. -/
def field? (d : Datum) (k : String) : Option Datum :=
  match d with
  | .dict entries => lookupText entries k
  | .knot _ d => field? d k
  | _ => none

/-- The value of a text key of a mapping, unless it is missing or null. -/
def present? (d : Datum) (k : String) : Option Datum :=
  match d.field? k with
  | some .null => none
  | other => other

/-- The kind of a datum, as messages name it. -/
def typeName : Datum → String
  | .null => "NoneType"
  | .bool _ => "bool"
  | .int _ => "int"
  | .float _ => "float"
  | .text _ | .codes _ => "str"
  | .date _ => "date"
  | .moment _ => "datetime"
  | .bytes _ => "bytes"
  | .list _ => "list"
  | .tuple _ => "tuple"
  | .set _ => "set"
  | .dict _ => "dict"
  | .knot _ d => d.typeName

/-- Whether a datum counts as something: null, false, zero and everything empty do not. -/
def truthy : Datum → Bool
  | .null => false
  | .bool b => b
  | .int i => i != 0
  | .float x => x != 0
  | .text s => s != ""
  | .bytes bs => !bs.isEmpty
  | .list items | .tuple items | .set items => !items.isEmpty
  | .dict entries => !entries.isEmpty
  | .date _ | .moment _ | .codes _ => true
  | .knot _ d => d.truthy

/-! ### Laws of mappings -/

@[simp] theorem sameKey_text (s t : String) : sameKey (.text s) (.text t) = (s == t) := by
  simp [sameKey]

@[simp] theorem lookupText_nil (k : String) : lookupText [] k = none := rfl

@[simp] theorem lookupText_cons_text (s k : String) (v : Datum) (rest : List (Datum × Datum)) :
    lookupText ((.text s, v) :: rest) k = if s = k then some v else lookupText rest k := rfl

/-- Only a text is the same key as a text. -/
theorem eq_text_of_sameKey {k : Datum} {s : String} (h : k.sameKey (.text s) = true) :
    k = .text s := by
  cases k with
  | text t => simpa using h
  | _ => simp [sameKey, whole?] at h

/-- What was written is found under its key, and all else under the other keys. -/
theorem lookupText_put (entries : List (Datum × Datum)) (s k : String) (v : Datum) :
    lookupText (put entries (.text s) v) k = if s = k then some v else lookupText entries k := by
  induction entries with
  | nil => rfl
  | cons e rest ih =>
      obtain ⟨key, w⟩ := e
      simp only [put]
      split
      · rename_i hsame
        obtain rfl := eq_text_of_sameKey hsame
        simp only [lookupText_cons_text]
        split <;> rfl
      · rename_i hother
        cases key with
        | text t =>
            have hne : t ≠ s := by simpa using hother
            simp only [lookupText_cons_text, ih]
            split
            · rename_i ht
              rw [if_neg (ht ▸ hne.symm)]
            · rfl
        | _ => exact ih

/-- A written entry has its own key or one that was there. -/
theorem mem_put {entries : List (Datum × Datum)} {k v : Datum} {e : Datum × Datum}
    (h : e ∈ put entries k v) : e.1 = k ∨ ∃ e' ∈ entries, e'.1 = e.1 := by
  induction entries with
  | nil =>
      obtain rfl := List.mem_singleton.1 h
      exact .inl rfl
  | cons first rest ih =>
      obtain ⟨key, w⟩ := first
      simp only [put] at h
      split at h
      · rcases List.mem_cons.1 h with rfl | h
        · exact .inr ⟨_, List.mem_cons_self .., rfl⟩
        · exact .inr ⟨e, List.mem_cons_of_mem _ h, rfl⟩
      · rcases List.mem_cons.1 h with rfl | h
        · exact .inr ⟨_, List.mem_cons_self .., rfl⟩
        · rcases ih h with hk | ⟨e', he', hsame⟩
          · exact .inl hk
          · exact .inr ⟨e', List.mem_cons_of_mem _ he', hsame⟩

end Datum

end Conveyor
