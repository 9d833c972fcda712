/-
**What goes wrong, and how it is told.**

A fault has a kind, a text and details.  The details follow the text in parentheses, and the
violations of a faulty configuration follow after a colon.

Main definitions:

* `Conveyor.Fault` — a kind, a text and details;
* `Conveyor.Fault.kindName` — the name of the kind;
* `Conveyor.Fault.message` — the whole wording;
* `Conveyor.Fault.configuration`, `Conveyor.Fault.wrapped` — faults that are made in one way.

Main results:

* `Conveyor.exists_ok_of_bind`, `Conveyor.exists_ok_of_map` — what is done in parts is done when all
  parts are;
* `Conveyor.error_cases_of_bind` — it fails when one of them does.
-/

import Conveyor.Datum.Display
import Conveyor.Definition.Problem

set_option autoImplicit false

namespace Conveyor

namespace Fault

/-- The kinds of faults. -/
inductive Kind where
  /-- A fault without more to it. -/
  | general
  /-- A definition tree breaks rules. -/
  | config (violations : List String)
  /-- A placeholder names nothing. -/
  | resolution (placeholder instanceId : Option String)
  /-- An instance fails. -/
  | execution (instanceId : Option String) (stepIndex exitStatus : Option Int)
      (serviceName : Option String)
  /-- A service does not start. -/
  | serviceStart
  /-- Work was called off. -/
  | cancellation (instanceId : Option String)
  /-- An instance cannot take a status. -/
  | transition
  /-- A document holds no definition. -/
  | definition (problems : Option (List Problem))
  /-- A document cannot be read at all. -/
  | malformed
  /-- Data are not what they should be. -/
  | invalid (problems : List Problem)
  /-- A fault from outside, by its name. -/
  | foreign (name : String)
  deriving DecidableEq, Repr

end Fault

/-- A kind, a text and details. -/
structure Fault where
  kind : Fault.Kind
  text : String
  details : List (String × Datum) := []

namespace Fault

/-- The name of the kind of a fault. -/
def kindName (f : Fault) : String :=
  match f.kind with
  | .general => "DevflowError"
  | .config _ => "ConfigError"
  | .resolution .. => "ResolutionError"
  | .execution .. => "ExecutionError"
  | .serviceStart => "ServiceStartError"
  | .cancellation _ => "CancellationError"
  | .transition => "InvalidTransitionError"
  | .definition _ | .malformed => "YAMLDefinitionError"
  | .invalid _ => "ValidationError"
  | .foreign name => name

/-- The details of a fault in parentheses. -/
def detailsText (details : List (String × Datum)) : String :=
  if details.isEmpty then ""
  else " (" ++ ", ".intercalate (details.map fun e => e.1 ++ "=" ++ e.2.shown) ++ ")"

/-- The whole wording of a fault.  A missing key is told between quotes. -/
def message (f : Fault) : String :=
  match f.kind with
  | .config violations =>
    f.text ++ detailsText f.details ++
      (if violations.isEmpty then "" else ": " ++ "; ".intercalate violations)
  | .foreign name => if name = "KeyError" then Text.quoted f.text else f.text
  | _ => f.text ++ detailsText f.details

/-- A fault of a kind, given by the name of the kind. -/
def named (name text : String) : Fault :=
  let kind := match name with
    | "DevflowError" => Kind.general
    | "ConfigError" => .config []
    | "ResolutionError" => .resolution none none
    | "ExecutionError" => .execution none none none none
    | "ServiceStartError" => .serviceStart
    | "CancellationError" => .cancellation none
    | "InvalidTransitionError" => .transition
    | "YAMLDefinitionError" => .definition none
    | name => .foreign name
  { kind, text }

/-- A fault from outside. -/
def outside (name text : String) : Fault := { kind := .foreign name, text }

/-- A value that is refused. -/
def value (text : String) : Fault := outside "ValueError" text

/-- Data that are not what they should be. -/
def ofProblems (ps : List Problem) : Fault := { kind := .invalid ps, text := "" }

/-- A configuration with violations, which are also counted. -/
def configuration (text : String) (violations : List String) : Fault :=
  { kind := .config violations, text,
    details := [("error_count", .int violations.length)] }

/-- A fault that an instance meets in its surroundings. -/
def wrapped (instanceId : String) (f : Fault) (stepIndex : Option Int) : Fault :=
  { kind := .execution (some instanceId) stepIndex none none
    text := "Runtime error in '" ++ instanceId ++ "': " ++ f.message
    details := [("error_type", .text f.kindName)] }

/-- The text that a call-off has when none is given. -/
def cancelText : String := "Run cancelled"

end Fault

/-! ### What is done in parts -/

/-- What is done in two parts is done when both parts are. -/
theorem exists_ok_of_bind {ε α β : Type} {x : Except ε α} {f : α → Except ε β} {b : β}
    (h : x >>= f = .ok b) : ∃ a, x = .ok a ∧ f a = .ok b := by
  cases x with
  | error e => cases h
  | ok a => exact ⟨a, rfl, h⟩

/-- What is done in two parts fails when one of them does. -/
theorem error_cases_of_bind {ε α β : Type} {x : Except ε α} {f : α → Except ε β} {d : ε}
    (h : x >>= f = .error d) : x = .error d ∨ ∃ a, f a = .error d := by
  cases x with
  | error e => exact .inl (congrArg Except.error (Except.error.inj h))
  | ok a => exact .inr ⟨a, h⟩

theorem exists_ok_of_map {ε α β : Type} {x : Except ε α} {f : α → β} {b : β}
    (h : f <$> x = .ok b) : ∃ a, x = .ok a ∧ f a = b := by
  cases x with
  | error e => cases h
  | ok a => exact ⟨a, rfl, Except.ok.inj h⟩

end Conveyor
