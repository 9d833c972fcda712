/-
**How lines of the log are written.**

Main definitions:

* `Conveyor.Log.Level` — how grave a line is;
* `Conveyor.Log.Config` — what is written and how;
* `Conveyor.Log.Config.ofArguments`, `Conveyor.Log.Config.ofEnvironment` — the configuration that
  arguments or variables give.
-/

import Conveyor.Fault
import Conveyor.Text.Case

set_option autoImplicit false

namespace Conveyor.Log

/-- How grave a line is. -/
inductive Level where
  | debug
  | info
  | warning
  | error
  | critical
  deriving DecidableEq, Repr

namespace Level

/-- The name of a level. -/
def name : Level → String
  | .debug => "debug"
  | .info => "info"
  | .warning => "warning"
  | .error => "error"
  | .critical => "critical"

/-- The name of a level in a configuration. -/
def title : Level → String
  | .debug => "DEBUG"
  | .info => "INFO"
  | .warning => "WARNING"
  | .error => "ERROR"
  | .critical => "CRITICAL"

/-- All levels, the least grave one first. -/
def all : List Level := [.debug, .info, .warning, .error, .critical]

/-- The place of a level, from the least grave one on. -/
def rank : Level → Nat
  | .debug => 0
  | .info => 1
  | .warning => 2
  | .error => 3
  | .critical => 4

/-- The level of a name in a configuration, in any letter case. -/
def parse (s : String) : Except Fault Level :=
  let wanted := Text.upper s
  match all.find? (·.title == wanted) with
  | some l => .ok l
  | none => .error (.value (Text.quoted wanted ++ " is not a valid LogLevel"))

end Level

/-- What is written and how.  Most settings are kept as they are given. -/
structure Config where
  level : Level := .info
  /-- The name of the format in small letters. -/
  format : String := "json"
  timestamps : Datum := .bool true
  /-- How long a text may be before it is cut. -/
  maxLength : Datum := .int 2000
  redacts : Datum := .bool true
  file : Datum := .null

namespace Config

/-- The text of a format, which is not anything else. -/
def formatText : Datum → Except Fault String
  | .text s => .ok (Text.lower s)
  | d => .error (.outside "AttributeError"
      ("'" ++ d.typeName ++ "' object has no attribute 'lower'"))

/-- The configuration that arguments give; what is missing has its usual value. -/
def ofArguments (args : Datum) : Except Fault Config := do
  let usual : Config := {}
  let level ← match args.field? "level" with
    | none => pure usual.level
    | some d => Level.parse d.shown
  let format ← match args.field? "format" with
    | none => pure usual.format
    | some d => formatText d
  return {
    level, format
    timestamps := (args.field? "include_timestamp").getD usual.timestamps
    maxLength := (args.field? "max_string_length").getD usual.maxLength
    redacts := (args.field? "sanitize_keys").getD usual.redacts
    file := (args.field? "log_file").getD usual.file }

/-- The configuration that variables give. -/
def ofEnvironment (env : List (String × String)) : Except Fault Config := do
  let value := fun (name : String) => (env.find? (·.1 == name)).map (·.2)
  let level ← Level.parse ((value "DEVFLOW_LOG_LEVEL").getD "INFO")
  return {
    level
    format := Text.lower ((value "DEVFLOW_LOG_FORMAT").getD "json")
    file := match value "DEVFLOW_LOG_FILE" with
      | some "" | none => .null
      | some s => .text s }

/-- A configuration as a datum. -/
def datum (c : Config) : Datum :=
  .object [("level", .text c.level.title), ("format", .text c.format),
    ("include_timestamp", c.timestamps), ("max_string_length", c.maxLength),
    ("sanitize_keys", c.redacts), ("log_file", c.file)]

end Config

end Conveyor.Log
