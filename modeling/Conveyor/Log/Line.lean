/-
**Lines of the log.**

An event has entries: the context of its logger, its fields, its name, its logger and its level.  A
line is a JSON object, a coloured line for a screen, or a row of `key=value` words.  A way to log that
tells of an exception adds a line for it; there is never an exception under way.

Main definitions:

* `Conveyor.Log.Manner` — a way to log;
* `Conveyor.Log.Event` — something that is logged;
* `Conveyor.Log.Event.entries` — its entries in order;
* `Conveyor.Log.Event.clash?` — a field that cannot be told apart from the event itself;
* `Conveyor.Log.wordLine` — a row of words;
* `Conveyor.Log.line` — the line of an event, if its level is grave enough;
* `Conveyor.Log.record` — the lines of events.
-/

import Conveyor.Json.Writer
import Conveyor.Log.Coloured
import Conveyor.Log.Config
import Conveyor.Log.Redact

set_option autoImplicit false

namespace Conveyor.Log

/-- A way to log: its name, how grave it is, and whether it tells of an exception. -/
structure Manner where
  name : String
  level : Level
  tells : Bool := false
  deriving DecidableEq, Repr

/-- The way to log that has a name.  Two names mean the same as others. -/
def Manner.ofName? (name : String) : Option Manner :=
  if name = "warn" then some ⟨"warning", .warning, false⟩
  else if name = "fatal" then some ⟨name, .critical, false⟩
  else if name = "exception" then some ⟨name, .error, true⟩
  else (Level.all.find? (·.name == name)).map fun l => ⟨name, l, false⟩

/-- Something that is logged. -/
structure Event where
  /-- The name of the logger; the one without a name is the root. -/
  logger : String
  manner : Manner
  /-- What happened; null says nothing. -/
  name : Datum
  /-- The context of the logger. -/
  context : List (Datum × Datum) := []
  fields : List (Datum × Datum) := []

/-- Whether a list of entries has a key. -/
def hasKey (entries : List (Datum × Datum)) (key : String) : Bool :=
  (Datum.lookupText entries key).isSome

/-- The fault of a name that is given twice. -/
def givenTwice (call name : String) : Fault :=
  .outside "TypeError" (call ++ "() got multiple values for argument '" ++ name ++ "'")

/-- An entry of the context that cannot be told apart from the logger, as a fault. -/
def Event.contextClash? (e : Event) : Option Fault :=
  if hasKey e.context "name" then some (givenTwice "get_logger" "name")
  else if hasKey e.context "self" then some (givenTwice "BoundLoggerLazyProxy.bind" "self")
  else none

/-- A field that cannot be told apart from the event itself, as a fault. -/
def Event.clash? (e : Event) : Option Fault :=
  let call := "BoundLogger." ++ e.manner.name
  if hasKey e.fields "self" then some (givenTwice call "self")
  else if hasKey e.fields "event" then some (givenTwice call "event")
  else if hasKey e.fields "method_name" then
    some (givenTwice "BoundLogger._proxy_to_logger" "method_name")
  else none

/-- Writes entries one after the other; a key that is there keeps its place. -/
def putAll (entries more : List (Datum × Datum)) : List (Datum × Datum) :=
  more.foldl (fun es e => Datum.put es e.1 e.2) entries

/-- The entries of an event in order; `timestamp` is written last if there is one. -/
def Event.entries (e : Event) (timestamp : Option String) : List (Datum × Datum) :=
  let happened := match e.name with
    | .null => []
    | name => [(.text "event", name)]
  let more := [("logger", if e.logger = "" then "root" else e.logger),
    ("level", e.manner.level.name)] ++ (timestamp.map fun t => ("timestamp", t)).toList
  putAll (putAll e.context e.fields) (happened ++ more.map fun m => (.text m.1, .text m.2))

/-- A value in a row of words: quoted when a blank, an equals sign or a quote stands in it. -/
def wordValue (s : String) : String :=
  let cs := s.toList
  let quotes := cs.any fun c => c = ' ' || c = '=' || c = '"'
  let escaped := cs.flatMap fun c =>
    if c = '"' then ['\\', '"']
    else if c = '\n' then ['\\', 'n']
    else if c = '\\' ∧ quotes then ['\\', '\\']
    else [c]
  String.ofList (if quotes then '"' :: escaped ++ ['"'] else escaped)

/-- An entry in a row of words.  What is true stands there by its key alone. -/
def word (key : String) : Datum → String
  | .null => key ++ "="
  | .bool true => key
  | .bool false => key ++ "=false"
  | d => key ++ "=" ++ wordValue d.shown

/-- A row of words; blanks may not stand in a key. -/
def wordLine : List (Datum × Datum) → Except Fault (List String)
  | [] => .ok []
  | (k, v) :: rest => do
    let key := k.shown
    if key.toList.any (· ≤ ' ') then throw (.value ("Invalid key: \"" ++ key ++ "\""))
    let words ← wordLine rest
    return word key v :: words

/-- The line of entries in a format; a format that is not known is a row of words. -/
def render (format : String) (entries : List (Datum × Datum)) : Except Fault String :=
  if format = "json" then .ok (Json.render Json.spaced (.dict entries))
  else if format = "console" then colouredLine entries
  else " ".intercalate <$> wordLine entries

/-- Whether an entry belongs to a line: what stands for an exception under way does not. -/
def belongs (entry : Datum × Datum) : Bool :=
  match entry.1 with
  | .text key => key != "exc_info"
  | _ => true

/-- A line that is to tell of an exception, with the line that says that there is none. -/
def withoutException (line : String) : String :=
  line ++ (if line.toList.getLast? == some '\n' then "" else "\n") ++ "NoneType: None"

/-- The line of an event, if its level is grave enough. -/
def line (c : Config) (timestamp : String) (e : Event) : Except Fault (Option String) :=
  match e.clash? with
  | some f => .error f
  | none =>
    if e.manner.level.rank < c.level.rank then .ok none
    else do
      let stamp := if c.timestamps.truthy then some timestamp else none
      let entries := (e.entries stamp).filter belongs
      let kept := if c.redacts.truthy then redact entries else entries
      let line ← render c.format (← truncate c.maxLength kept)
      return some (if e.manner.tells then withoutException line else line)

/-- The lines of events, each with what went wrong with it.  A logger that cannot be made ends
everything. -/
def record (c : Config) (timestamp : String) (es : List Event) :
    Except Fault (List (Except Fault (Option String))) :=
  es.mapM fun e =>
    match e.contextClash? with
    | some f => .error f
    | none => .ok (line c timestamp e)

end Conveyor.Log
