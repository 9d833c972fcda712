/-
**Sums in scripts.**

A sum is calculated with signed numbers of 64 bits.  Operators bind as they do among numbers
elsewhere; a name stands for the value of a variable, and a sum can set variables.

Main definitions:

* `Conveyor.Shell.Sum` — a sum;
* `Conveyor.Shell.Sum.parse` — the sum that a text writes;
* `Conveyor.Shell.Sum.value` — what a sum comes to, and the variables afterwards.
-/

set_option autoImplicit false

namespace Conveyor.Shell

/-- A sum. -/
inductive Sum where
  | number (n : Int64)
  | name (s : String)
  | sign (op : String) (a : Sum)
  | both (op : String) (a b : Sum)
  | choose (test yes no : Sum)
  /-- Sets a variable, perhaps to its old value joined with the sum by an operator. -/
  | assign (target op : String) (a : Sum)
  deriving Repr, Inhabited

namespace Sum

/-- What is wrong with a sum. -/
inductive Error where
  /-- Something else has to stand at a place. -/
  | expecting (what : String)
  | divisionByZero
  /-- A variable holds no number. -/
  | illegal (value : String)
  deriving DecidableEq, Repr

/-- The wording of what is wrong with a sum. -/
def Error.message (sum : String) : Error → String
  | .expecting what => "arithmetic expression: expecting " ++ what ++ ": \"" ++ sum ++ "\""
  | .divisionByZero => "arithmetic expression: division by zero: \"" ++ sum ++ "\""
  | .illegal value => "Illegal number: " ++ value

/-! ### Numbers -/

/-- The value of a digit in a base. -/
def digit? (base : Nat) (c : Char) : Option Nat :=
  let n := if c.isDigit then some (c.toNat - '0'.toNat)
    else if 'a' ≤ c ∧ c ≤ 'f' then some (c.toNat - 'a'.toNat + 10)
    else if 'A' ≤ c ∧ c ≤ 'F' then some (c.toNat - 'A'.toNat + 10)
    else none
  n.filter (· < base)

/-- The digits in a base at the front of a text, and what follows them. -/
def digits (base : Nat) (cs : List Char) : Nat × List Char :=
  let isDigit := fun (c : Char) => (digit? base c).isSome
  ((cs.takeWhile isDigit).foldl (fun n c => base * n + (digit? base c).getD 0) 0,
    cs.dropWhile isDigit)

/-- The number at the front of a text, and what follows it: octal after a zero, and sixteen is the
base after `0x`. -/
def numberFrom (cs : List Char) : Nat × List Char :=
  match cs with
  | '0' :: x :: c :: rest =>
    if (x = 'x' ∨ x = 'X') ∧ (digit? 16 c).isSome then digits 16 (c :: rest)
    else digits 8 (x :: c :: rest)
  | '0' :: rest => digits 8 rest
  | cs => digits 10 cs

/-- The greatest number. -/
def greatest : Nat := 9223372036854775807

/-- A number; one that is too large counts as the greatest. -/
def bounded (n : Nat) : Int64 := Int64.ofNat (min n greatest)

/-- The number that the value of a variable writes; nothing is zero. -/
def ofValue (s : String) : Except Error Int64 :=
  let isGap := fun (c : Char) => c == ' ' || (9 ≤ c.toNat && c.toNat ≤ 13)
  let cs := s.toList.dropWhile isGap
  let (negative, cs) := match cs with
    | '-' :: rest => (true, rest)
    | '+' :: rest => (false, rest)
    | cs => (false, cs)
  let (n, rest) := numberFrom cs
  if s = "" then .ok 0
  else if (cs.headD ' ').isDigit && rest.all isGap then
    .ok (if negative then -bounded n else bounded n)
  else .error (.illegal s)

/-! ### Reading -/

/-- A number, a name or an operator. -/
inductive Token where
  | number (n : Int64)
  | name (s : String)
  | op (s : String)
  deriving DecidableEq, Repr

/-- The operators of more than one character, the longest first. -/
def longOperators : List String :=
  ["<<=", ">>=", "<<", ">>", "<=", ">=", "==", "!=", "&&", "||", "+=", "-=", "*=", "/=", "%=",
    "&=", "^=", "|="]

/-- The tokens of a text. -/
def tokens : Nat → List Char → List Token
  | 0, _ => []
  | _ + 1, [] => []
  | fuel + 1, c :: cs =>
    if c = ' ' ∨ c = '\t' ∨ c = '\n' then tokens fuel cs
    else if c.isDigit then
      let (n, rest) := numberFrom (c :: cs)
      .number (bounded n) :: tokens fuel rest
    else if c.isAlpha ∨ c = '_' then
      let isPart := fun (c : Char) => c.isAlphanum || c == '_'
      .name (String.ofList (c :: cs.takeWhile isPart)) :: tokens fuel (cs.dropWhile isPart)
    else
      match longOperators.find? fun o => o.toList.isPrefixOf (c :: cs) with
      | some o => .op o :: tokens fuel ((c :: cs).drop o.length)
      | none => .op (String.singleton c) :: tokens fuel cs

/-- The operators between two sums, those that bind most tightly first. -/
def levels : List (List String) :=
  [["*", "/", "%"], ["+", "-"], ["<<", ">>"], ["<", "<=", ">", ">="], ["==", "!="], ["&"], ["^"],
    ["|"], ["&&"], ["||"]]

/-- The operator of an assignment, without its equals sign. -/
def assignment? : Token → Option String
  | .op "=" => some ""
  | .op o =>
    if ["+=", "-=", "*=", "/=", "%=", "<<=", ">>=", "&=", "^=", "|="].contains o then
      some (String.ofList o.toList.dropLast)
    else none
  | _ => none

mutual
/-- A sum that sets a variable, or a choice. -/
def wholeFrom : Nat → List Token → Except Error (Sum × List Token)
  | 0, _ => .error (.expecting "primary")
  | fuel + 1, ts =>
    match ts with
    | .name s :: t :: rest =>
      match assignment? t with
      | some op => do
        let (a, rest) ← wholeFrom fuel rest
        return (.assign s op a, rest)
      | none => choiceFrom fuel ts
    | _ => choiceFrom fuel ts

/-- A choice between two sums, or a sum without one. -/
def choiceFrom : Nat → List Token → Except Error (Sum × List Token)
  | 0, _ => .error (.expecting "primary")
  | fuel + 1, ts => do
    let (test, rest) ← levelFrom fuel levels.length ts
    match rest with
    | .op "?" :: rest =>
      let (yes, rest) ← wholeFrom fuel rest
      match rest with
      | .op ":" :: rest =>
        let (no, rest) ← choiceFrom fuel rest
        return (.choose test yes no, rest)
      | _ => throw (.expecting "':'")
    | rest => return (test, rest)

/-- A sum with operators of the first so many levels. -/
def levelFrom : Nat → Nat → List Token → Except Error (Sum × List Token)
  | 0, _, _ => .error (.expecting "primary")
  | fuel + 1, 0, ts => primaryFrom fuel ts
  | fuel + 1, level + 1, ts => do
    let (a, rest) ← levelFrom fuel level ts
    moreFrom fuel level a rest

/-- More of a sum with operators of one level, after its first part. -/
def moreFrom : Nat → Nat → Sum → List Token → Except Error (Sum × List Token)
  | 0, _, _, _ => .error (.expecting "primary")
  | fuel + 1, level, a, ts =>
    match ts with
    | .op o :: rest =>
      if (levels[level]?.getD []).contains o then do
        let (b, rest) ← levelFrom fuel level rest
        moreFrom fuel level (.both o a b) rest
      else .ok (a, ts)
    | ts => .ok (a, ts)

/-- A number, a name, a sum in parentheses, or one of these with a sign. -/
def primaryFrom : Nat → List Token → Except Error (Sum × List Token)
  | 0, _ => .error (.expecting "primary")
  | fuel + 1, ts =>
    match ts with
    | .number n :: rest => .ok (.number n, rest)
    | .name s :: rest => .ok (.name s, rest)
    | .op "(" :: rest => do
      let (a, rest) ← wholeFrom fuel rest
      match rest with
      | .op ")" :: rest => return (a, rest)
      | _ => throw (.expecting "')'")
    | .op o :: rest =>
      if ["+", "-", "!", "~"].contains o then do
        let (a, rest) ← primaryFrom fuel rest
        return (.sign o a, rest)
      else .error (.expecting "primary")
    | [] => .error (.expecting "primary")
end

/-- The sum that a text writes. -/
def parse (s : String) : Except Error Sum := do
  let ts := tokens s.length.succ s.toList
  match ← wholeFrom (16 * ts.length + 16) ts with
  | (a, []) => return a
  | _ => throw (.expecting "EOF")

/-! ### Values -/

/-- One for what is so, and zero for what is not. -/
def ofBool (b : Bool) : Int64 := if b then 1 else 0

/-- What an operator makes of two numbers. -/
def join (op : String) (a b : Int64) : Except Error Int64 :=
  match op with
  | "*" => .ok (a * b)
  | "/" => if b = 0 then .error .divisionByZero else .ok (a / b)
  | "%" => if b = 0 then .error .divisionByZero else .ok (a % b)
  | "+" => .ok (a + b)
  | "-" => .ok (a - b)
  | "<<" => .ok (a <<< b)
  | ">>" => .ok (a >>> b)
  | "<" => .ok (ofBool (a < b))
  | "<=" => .ok (ofBool (a ≤ b))
  | ">" => .ok (ofBool (b < a))
  | ">=" => .ok (ofBool (b ≤ a))
  | "==" => .ok (ofBool (a == b))
  | "!=" => .ok (ofBool (a != b))
  | "&" => .ok (a &&& b)
  | "^" => .ok (a ^^^ b)
  | "|" => .ok (a ||| b)
  | _ => .ok b

/-- The variables that a sum reads and sets. -/
abbrev Names := List (String × String)

/-- What a sum comes to, and the variables afterwards; `look` finds the values of those that are not
set.  The second part of `&&` and `||` counts only when the first one does not decide. -/
def value (look : String → String) : Sum → Names → Except Error (Int64 × Names)
  | .number n, env => .ok (n, env)
  | .name s, env => do
    return (← ofValue (((env.find? (·.1 == s)).map (·.2)).getD (look s)), env)
  | .sign op a, env => do
    let (n, env) ← value look a env
    return (if op = "-" then -n else if op = "!" then ofBool (n == 0) else if op = "~" then ~~~n
      else n, env)
  | .both op a b, env => do
    let (x, env) ← value look a env
    if op = "&&" ∧ x = 0 then return (0, env)
    else if op = "||" ∧ x ≠ 0 then return (1, env)
    else
      let (y, env) ← value look b env
      if op = "&&" ∨ op = "||" then return (ofBool (y != 0), env)
      else return (← join op x y, env)
  | .choose test yes no, env => do
    let (x, env) ← value look test env
    if x ≠ 0 then value look yes env else value look no env
  | .assign target op a, env => do
    let (y, env) ← value look a env
    let old ← if op = "" then pure 0
      else ofValue (((env.find? (·.1 == target)).map (·.2)).getD (look target))
    let n ← if op = "" then pure y else join op old y
    return (n, (target, toString n.toInt) :: env.filter (·.1 != target))

end Sum

end Conveyor.Shell
