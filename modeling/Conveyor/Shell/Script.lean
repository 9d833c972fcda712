/-
**Scripts: words and commands.**

A word is text with values in it: values of variables, what scripts write, and results of sums.  A
command is words, with streams that are led elsewhere; a script joins commands.  Each depends on the
other, so both stand here.

Text in scripts is a text of bytes: each character stands for one byte.

Main definitions:

* `Conveyor.Shell.Part`, `Conveyor.Shell.Use` — the parts of words, and what becomes of values;
* `Conveyor.Shell.Script` — scripts;
* `Conveyor.Shell.Defect` — why a text is no script.
-/

set_option autoImplicit false

namespace Conveyor.Shell

/-- What another text does for a value. -/
inductive Replacement where
  /-- It stands in the place of a missing value. -/
  | missing
  /-- It becomes the missing value. -/
  | assign
  /-- It says why the value may not be missing. -/
  | refuse
  /-- It stands in the place of a value that is there. -/
  | present
  deriving DecidableEq, Repr

/-- Where a stream is led. -/
inductive Direction where
  | input
  /-- The input is a text that stands in the script, by its number. -/
  | here (number : Nat)
  | output
  /-- The same, also where files are not to be overwritten. -/
  | overwrite
  | append
  /-- For both reading and writing. -/
  | both
  /-- To where another stream leads. -/
  | duplicate
  deriving DecidableEq, Repr

/-- A stream that is led elsewhere. -/
structure Redirection (α : Type) where
  stream : Nat
  direction : Direction
  target : α

mutual
/-- A part of a word. -/
inductive Part where
  | text (s : String) (quoted : Bool)
  /-- The value of a variable. -/
  | value (name : String) (use : Use) (quoted : Bool)
  /-- What a script writes. -/
  | output (script : Script) (quoted : Bool)
  /-- What a sum comes to. -/
  | number (sum : List Part) (quoted : Bool)

/-- What becomes of a value. -/
inductive Use where
  | plain
  | length
  /-- Another text may replace it; if marked, an empty value counts as missing. -/
  | replace (how : Replacement) (emptyToo : Bool) (other : List Part)
  /-- The shortest or longest part at one end that a pattern matches is dropped. -/
  | trim (fromEnd longest : Bool) (pattern : List Part)
  /-- A text stands behind it, and what follows in the word does not count. -/
  | final (other : List Part)
  /-- It is not written in any of these ways. -/
  | faulty

/-- A script.  Lines are those that messages name. -/
inductive Script where
  | nothing
  | command (line : Nat) (assignments : List (String × List Part)) (words : List (List Part))
      (led : List (Redirection (List Part)))
  /-- A script in parentheses, which keeps its state to itself, or in braces. -/
  | inside (line : Nat) (body : Script) (apart : Bool) (led : List (Redirection (List Part)))
  | pipe (a b : Script)
  /-- The second one if the first one succeeds. -/
  | both (a b : Script)
  /-- The second one if the first one fails. -/
  | either (a b : Script)
  | seq (a b : Script)
  | negate (a : Script)
  /-- A script that nobody waits for. -/
  | background (line : Nat) (a : Script)
  /-- One of two scripts, as the first one succeeds or not. -/
  | choose (test yes no : Script)
  /-- A script for as long as a test succeeds, or for as long as it fails. -/
  | loop (succeeds : Bool) (test body : Script)
  /-- A script for each of the fields of words. -/
  | each (line : Nat) (name : String) (words : List (List Part)) (body : Script)
  /-- The first script whose patterns match a word. -/
  | select (line : Nat) (value : List Part) (branches : List (List (List Part) × Script))
  /-- Gives a script a name. -/
  | define (name : String) (body : Script)
end

instance : Inhabited Part := ⟨.text "" false⟩
instance : Inhabited Script := ⟨.nothing⟩

/-- Whether what follows a part in a word does not count. -/
def Part.isFinal : Part → Bool
  | .value _ (.final _) _ => true
  | _ => false

/-- A word: its parts in order. -/
abbrev Word := List Part

/-- The streams of a command that are led elsewhere. -/
abbrev Redirections := List (Redirection Word)

/-- What is wrong with a text that is no script. -/
inductive Flaw where
  | unterminated
  /-- What closes the output of a script is missing. -/
  | openOutput
  /-- What closes a value or a sum is missing. -/
  | missing (closing : String)
  /-- What is to be defined has no name that it could have. -/
  | badName
  /-- What is to be set for each field has no name that it could have. -/
  | badVariable
  /-- What names a stream is no number. -/
  | badNumber
  /-- Something stands where it may not; perhaps something else is expected there. -/
  | unexpected (found : String) (expecting : Option String)
  deriving DecidableEq, Repr

/-- The wording of what is wrong. -/
def Flaw.message : Flaw → String
  | .unterminated => "Unterminated quoted string"
  | .openOutput => "EOF in backquote substitution"
  | .missing closing => "Missing '" ++ closing ++ "'"
  | .badName => "Bad function name"
  | .badVariable => "Bad for loop variable"
  | .badNumber => "Bad fd number"
  | .unexpected found none => found ++ " unexpected"
  | .unexpected found (some e) => found ++ " unexpected (expecting " ++ e ++ ")"

/-- Why a text is no script, and in which line this shows. -/
structure Defect where
  line : Nat
  flaw : Flaw
  deriving DecidableEq, Repr

/-- The wording of a defect. -/
def Defect.message (d : Defect) : String := "Syntax error: " ++ d.flaw.message

/-! ### Names -/

/-- Whether a character may stand in the name of a variable. -/
def isNameChar (c : Char) : Bool := c.isAlphanum || c == '_'

/-- Whether a character may stand at the front of the name of a variable. -/
def isNameStart (c : Char) : Bool := c.isAlpha || c == '_'

/-- Whether a text is the name of a variable. -/
def isName (s : String) : Bool :=
  match s.toList with
  | [] => false
  | c :: cs => isNameStart c && cs.all isNameChar

/-! ### Words -/

/-- Puts a character in front of parts that are in reverse order. -/
def Word.push (c : Char) (quoted : Bool) : Word → Word
  | .text s q :: ps =>
    if q == quoted then .text (s.push c) q :: ps
    else .text (String.singleton c) quoted :: .text s q :: ps
  | ps => .text (String.singleton c) quoted :: ps

/-- The word of a text that stands for itself. -/
def Word.ofText (s : String) : Word := [.text s false]

/-- The text of a word that is nothing but text without quotes. -/
def Word.plain? : Word → Option String
  | [.text s false] => some s
  | _ => none

/-- Takes a name and an equals sign off the front of a word. -/
def Word.assignment? : Word → Option (String × Word)
  | .text s false :: rest =>
    let name := String.ofList (s.toList.takeWhile (· != '='))
    match s.toList.dropWhile (· != '=') with
    | _ :: value =>
      if isName name then
        some (name, if value.isEmpty then rest else .text (String.ofList value) false :: rest)
      else none
    | [] => none
  | _ => none

end Conveyor.Shell
