/-
**Services and steps with the values of an instance filled in.**

Main definitions:

* `Conveyor.ResolvedService`, `Conveyor.ResolvedStep` — a service and a step without placeholders;
* `Conveyor.Service.resolve`, `Conveyor.Step.resolve` — filling in the values.
-/

import Conveyor.Matrix
import Conveyor.Template

set_option autoImplicit false

namespace Conveyor

/-- A service without placeholders. -/
structure ResolvedService where
  name : String
  image : String
  /-- The values of the variables, by name. -/
  env : List (String × String) := []
  hostPort : Option Nat := none
  containerPort : Option Nat := none
  deriving DecidableEq, Repr, Inhabited

/-- A step without placeholders. -/
structure ResolvedStep where
  index : Int
  kind : String
  command : String
  /-- The values of the arguments, by name. -/
  args : List (String × String) := []
  deriving DecidableEq, Repr, Inhabited

namespace Template

/-- Named templates with the values filled in, after those before them.  A name that stands there
twice keeps its first place and its last value. -/
def resolveNamed (c : Context) (source : String) (done : List (String × String)) :
    List (String × String) → Except Fault (List (String × String))
  | [] => .ok done
  | (name, text) :: rest => do
    let value ← resolve c (some (source ++ " " ++ name)) text
    resolveNamed c source (bindName done name value) rest

end Template

/-- A service with the values filled in, the image first. -/
def Service.resolve (c : Template.Context) (s : Service) : Except Fault ResolvedService := do
  let place := "service '" ++ s.name ++ "'"
  let image ← Template.resolve c (some (place ++ " image")) s.image
  let env ← Template.resolveNamed c (place ++ " env") [] (s.env.map fun v => (v.name, v.value))
  return { name := s.name, image, env, hostPort := s.hostPort, containerPort := s.containerPort }

/-- What is carried out for a command: a script is handed to its interpreter. -/
def Step.invocation (command : String) : Step → String
  | .run .. => command
  | .script _ shell _ => shell ++ " " ++ command

/-- A step with the values filled in, the command first. -/
def Step.resolve (c : Template.Context) (index : Int) (s : Step) : Except Fault ResolvedStep := do
  let place := "step " ++ toString index
  let command ← Template.resolve c (some (place ++ " command")) s.command
  let args ← Template.resolveNamed c (place ++ " arg") [] (s.args.map fun a => (a.name, a.value))
  return { index, kind := s.kindName, command := s.invocation command, args }

end Conveyor
