/-
**Conditions: what `test` decides.**

A condition is a row of arguments.  Two arguments joined by a comparison, an argument after a
question about a file or a text, and a single argument, which asks whether it is not empty, are
joined by `-a`, which binds more tightly, and `-o`, turned around by `!` and put in parentheses.
What looks like a question is an argument like others where nothing or a comparison follows.

Main definitions:

* `Conveyor.Shell.Condition.decided` — whether a row of arguments holds, or what is wrong with it.
-/

import Conveyor.Shell.Arithmetic

set_option autoImplicit false

namespace Conveyor.Shell.Condition

/-- What an argument is where it stands. -/
inductive Kind where
  | ending
  | operand
  /-- A question about the argument after it. -/
  | question
  /-- A comparison of the arguments around it. -/
  | comparison
  | negation
  | conjunction
  | disjunction
  | opening
  | closing
  deriving DecidableEq, Repr

/-- The meaning of an argument that has one. -/
def meaning? (s : String) : Option Kind :=
  if ["-r", "-w", "-x", "-e", "-f", "-d", "-c", "-b", "-p", "-u", "-g", "-k", "-s", "-t", "-z", "-n",
      "-h", "-L", "-S", "-O", "-G"].contains s then some .question
  else if ["=", "!=", "<", ">", "-eq", "-ne", "-ge", "-gt", "-le", "-lt", "-nt", "-ot",
      "-ef"].contains s then some .comparison
  else
    match s with
    | "!" => some .negation
    | "-a" => some .conjunction
    | "-o" => some .disjunction
    | "(" => some .opening
    | ")" => some .closing
    | _ => none

/-- What the first argument of a row is. -/
def kind : List String → Kind
  | [] => .ending
  | s :: rest =>
    match meaning? s, rest with
    | some .question, [] => .operand
    | some .question, [_] => .question
    | some .question, t :: _ => if meaning? t == some .comparison then .operand else .question
    | some .opening, [] => .operand
    | some k, _ => k
    | none, _ => .operand

/-- What is wrong at an argument. -/
def wrongAt (s text : String) : String := if s = "" then text else s ++ ": " ++ text

/-- The whole number that an argument writes. -/
def whole (s : String) : Except String Int :=
  let isGap := fun (c : Char) => c == ' ' || (9 ≤ c.toNat && c.toNat ≤ 13)
  let (negative, cs) := match s.toList.dropWhile isGap with
    | '-' :: rest => (true, rest)
    | '+' :: rest => (false, rest)
    | rest => (false, rest)
  let (n, rest) := Sum.digits 10 cs
  if (cs.headD ' ').isDigit && rest.all isGap && n ≤ Sum.greatest then
    .ok (if negative then -Int.ofNat n else n)
  else .error ("Illegal number: " ++ s)

/-- Whether a comparison holds; `look` answers those of files. -/
def compare (look : String → String → String → Bool) (op a b : String) : Except String Bool := do
  match op with
  | "=" => return a == b
  | "!=" => return a != b
  | "<" => return decide (a < b)
  | ">" => return decide (b < a)
  | "-nt" | "-ot" | "-ef" => return look op a b
  | _ =>
    let x ← whole a
    let y ← whole b
    return match op with
      | "-eq" => x == y
      | "-ne" => x != y
      | "-lt" => decide (x < y)
      | "-le" => decide (x ≤ y)
      | "-gt" => decide (y < x)
      | _ => decide (y ≤ x)

/-- The answer to a question; `look` answers those about files. -/
def answer (look : String → String → String → Bool) (op a : String) : Except String Bool := do
  match op with
  | "-n" => return a != ""
  | "-z" => return a == ""
  | "-t" =>
    let _ ← whole a
    return false
  | _ => return look op a ""

mutual
/-- Conditions joined by `-o`, from a row on; the row from the last argument that was used on. -/
def anyFrom (look : String → String → String → Bool) :
    Nat → Kind → List String → Except String (Bool × List String)
  | 0, _, row => .ok (false, row)
  | fuel + 1, k, row => do
    let (a, row) ← allFrom look fuel k row
    if kind row.tail == .disjunction then
      let (b, row) ← anyFrom look fuel (kind row.tail.tail) row.tail.tail
      return (a || b, row)
    else return (a, row)

/-- Conditions joined by `-a`. -/
def allFrom (look : String → String → String → Bool) :
    Nat → Kind → List String → Except String (Bool × List String)
  | 0, _, row => .ok (false, row)
  | fuel + 1, k, row => do
    let (a, row) ← notFrom look fuel k row
    if kind row.tail == .conjunction then
      let (b, row) ← allFrom look fuel (kind row.tail.tail) row.tail.tail
      return (a && b, row)
    else return (a, row)

/-- A condition, perhaps turned around. -/
def notFrom (look : String → String → String → Bool) :
    Nat → Kind → List String → Except String (Bool × List String)
  | 0, _, row => .ok (false, row)
  | fuel + 1, k, row =>
    if k = .negation then do
      let next := kind row.tail
      let (a, row) ← notFrom look fuel next (if next = .ending then row else row.tail)
      return (!a, row)
    else oneFrom look fuel k row

/-- A single condition. -/
def oneFrom (look : String → String → String → Bool) :
    Nat → Kind → List String → Except String (Bool × List String)
  | 0, _, row => .ok (false, row)
  | fuel + 1, k, row =>
    match k with
    | .ending => .ok (false, row)
    | .opening => do
      let next := kind row.tail
      if next = .closing then return (false, row.tail)
      else
        let (a, row) ← anyFrom look fuel next row.tail
        if kind row.tail == .closing then return (a, row.tail)
        else throw "closing paren expected"
    | .question =>
      match row with
      | op :: a :: rest => do return (← answer look op a, a :: rest)
      | row => .error (wrongAt (row.headD "") "argument expected")
    | _ =>
      match row with
      | a :: op :: rest =>
        if kind (op :: rest) == .comparison then
          match rest with
          | b :: _ => do return (← compare look op a b, rest)
          | [] => .error (wrongAt op "argument expected")
        else .ok (a != "", row)
      | row => .ok (row.headD "" != "", row)
end

/-- Whether a row of arguments holds, from a kind for its first one on; nothing may be left over. -/
def wholeRow (look : String → String → String → Bool) (k : Kind) (row : List String) :
    Except String Bool := do
  match ← anyFrom look (4 * row.length + 4) k row with
  | (_, s :: _ :: _) => throw (wrongAt s "unexpected operator")
  | (a, _) => return a

/-- Whether arguments hold, or what is wrong with them.  Three or four arguments mean a comparison,
something in parentheses, or something turned around, if they can. -/
def decided (look : String → String → String → Bool) : Nat → List String → Except String Bool
  | 0, _ => .ok false
  | _ + 1, [] => .ok false
  | fuel + 1, row =>
    let inParentheses := row.head? == some "(" && row.getLast? == some ")"
    let usual := wholeRow look (kind row) row
    let special := fun (_ : Unit) =>
      if inParentheses then
        let inside := row.tail.dropLast
        wholeRow look (kind inside) inside
      else if row.head? == some "!" then (decided look fuel row.tail).map (!·)
      else usual
    match row with
    | [_, op, _] =>
      if meaning? op == some .comparison then wholeRow look .operand row else special ()
    | [_, _, _, _] => special ()
    | _ => usual

end Conveyor.Shell.Condition
