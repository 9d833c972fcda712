/-
**The words of a command line.**

An option begins with a dash.  A long option begins with two; its value follows an equals sign or is
the next word.  Short options may share a word; the value of the last one is the rest of the word or
the next word.  A value may itself begin with a dash.  Two dashes end the options.

Main definitions:

* `Conveyor.CommandLine.OptionRule` — an option and its names;
* `Conveyor.CommandLine.UsageError` — what is wrong with a command line;
* `Conveyor.CommandLine.Reading` — the settings and the other words of a command line;
* `Conveyor.CommandLine.read` — what words say.
-/

import Conveyor.Text.Whole

set_option autoImplicit false

namespace Conveyor.CommandLine

/-- What is wrong with a command line. -/
inductive UsageError where
  | noCommand
  | unknownCommand (name : String)
  | unknownOption (name : String)
  | missingValue (option : String)
  | needlessValue (option : String)
  | badValue (option value : String)
  | missingWord (what : String)
  | extraWords (words : List String)
  deriving DecidableEq, Repr

/-- The wording of what is wrong. -/
def UsageError.message : UsageError → String
  | .noCommand => "Missing command."
  | .unknownCommand name => "No such command '" ++ name ++ "'."
  | .unknownOption name => "No such option: " ++ name
  | .missingValue option => "Option '" ++ option ++ "' requires an argument."
  | .needlessValue option => "Option '" ++ option ++ "' does not take a value."
  | .badValue option value => "Invalid value for '" ++ option ++ "': '" ++ value ++ "'."
  | .missingWord what => "Missing argument '" ++ what ++ "'."
  | .extraWords words => "Got unexpected extra arguments (" ++ " ".intercalate words ++ ")"

/-- What an option is set to. -/
inductive Setting where
  | text (s : String)
  | truth (b : Bool)
  deriving DecidableEq, Repr

/-- An option: what it is about, and its names with their dashes. -/
structure OptionRule where
  key : String
  names : List String
  /-- What an option without a value is set to. -/
  fixed : Option Bool := none
  deriving DecidableEq, Repr

/-- The settings and the other words of a command line, both in order. -/
structure Reading where
  settings : List (String × Setting) := []
  words : List String := []
  deriving DecidableEq, Repr

/-- Whether a word is an option. -/
def isOption (w : String) : Bool := w.length > 1 && w.toList.head? == some '-'

/-- Whether a name is that of a long option. -/
def isLong (name : String) : Bool := ['-', '-'].isPrefixOf name.toList

/-- The option of a name. -/
def ruleOf? (rules : List OptionRule) (name : String) : Option OptionRule :=
  rules.find? fun r => r.names.contains name

/-- Reads short options that share a word: what they set, and the option that waits for its
value. -/
def readShort (rules : List OptionRule) :
    List Char → Except UsageError (List (String × Setting) × Option OptionRule)
  | [] => .ok ([], none)
  | c :: cs =>
    let name := String.ofList ['-', c]
    match ruleOf? rules name with
    | none => .error (.unknownOption name)
    | some r =>
      match r.fixed with
      | some b => (fun rest => ((r.key, .truth b) :: rest.1, rest.2)) <$> readShort rules cs
      | none =>
        if cs.isEmpty then .ok ([], some r) else .ok ([(r.key, .text (String.ofList cs))], none)

/-- Reads a word that is an option: what it sets, and the option that waits for its value. -/
def readOption (rules : List OptionRule) (w : String) :
    Except UsageError (List (String × Setting) × Option OptionRule) :=
  if isLong w then
    let name := String.ofList (w.toList.takeWhile (· != '='))
    let value : Option String := match w.toList.dropWhile (· != '=') with
      | [] => none
      | _ :: cs => some (String.ofList cs)
    match ruleOf? rules name with
    | none => .error (.unknownOption name)
    | some r =>
      match r.fixed, value with
      | some b, none => .ok ([(r.key, .truth b)], none)
      | some _, some _ => .error (.needlessValue name)
      | none, some v => .ok ([(r.key, .text v)], none)
      | none, none => .ok ([], some r)
  else readShort rules (w.toList.drop 1)

/-- A reading with settings in front. -/
def Reading.withSettings (settings : List (String × Setting)) (r : Reading) : Reading :=
  { r with settings := settings ++ r.settings }

/-- Reads words.  When options may not follow other words, the first other word ends the reading. -/
def read (rules : List OptionRule) (mixed : Bool) : List String → Except UsageError Reading
  | [] => .ok {}
  | w :: ws =>
    if w = "--" then .ok { words := ws }
    else if isOption w then
      match readOption rules w with
      | .error e => .error e
      | .ok (settings, none) => Reading.withSettings settings <$> read rules mixed ws
      | .ok (settings, some r) =>
        match ws with
        | [] => .error (.missingValue (r.names.headD r.key))
        | v :: ws =>
          Reading.withSettings (settings ++ [(r.key, .text v)]) <$> read rules mixed ws
    else if mixed then
      (fun r : Reading => { r with words := w :: r.words }) <$> read rules mixed ws
    else .ok { words := w :: ws }

namespace Reading

/-- What an option was set to last. -/
def setting? (r : Reading) (key : String) : Option Setting :=
  (r.settings.reverse.find? (·.1 == key)).map (·.2)

/-- The text that an option was set to last. -/
def text? (r : Reading) (key : String) : Option String :=
  (r.setting? key).bind fun
    | .text s => some s
    | .truth _ => none

/-- What an option without a value was set to last. -/
def truth? (r : Reading) (key : String) : Option Bool :=
  (r.setting? key).bind fun
    | .truth b => some b
    | .text _ => none

/-- The whole number that an option was set to last. -/
def whole? (r : Reading) (key : String) : Except UsageError (Option Int) :=
  match r.text? key with
  | none => .ok none
  | some s =>
    match Text.readWhole s with
    | .ok n => .ok (some n)
    | .error _ => .error (.badValue key s)

/-- The only word beside the options. -/
def onlyWord (r : Reading) (what : String) : Except UsageError String :=
  match r.words with
  | [] => .error (.missingWord what)
  | [w] => .ok w
  | _ :: ws => .error (.extraWords ws)

end Reading

end Conveyor.CommandLine
