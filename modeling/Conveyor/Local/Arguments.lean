/-
**The arguments of a step as variables of its environment.**

Main definitions:

* `Conveyor.Local.variableName` — the variable of an argument;
* `Conveyor.Local.environment` — the variables of arguments.
-/

import Conveyor.Matrix

set_option autoImplicit false

namespace Conveyor.Local

/-- What stands before the name of an argument in its variable. -/
def variableFront : String := "DEVFLOW_ARG_"

/-- The variable of an argument: capitals, digits and underscores. -/
def variableName (name : String) : String :=
  variableFront ++ String.ofList (name.toList.map fun c =>
    if c.isAlphanum || c == '_' then c.toUpper else '_')

/-- The variables of arguments.  Of two arguments with the same variable the last one counts. -/
def environment (args : List (String × String)) : List (String × String) :=
  args.foldl (fun vs a => bindName vs (variableName a.1) a.2) []

end Conveyor.Local
