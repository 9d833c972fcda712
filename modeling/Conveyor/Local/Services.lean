/-
**Services that are only written down.**

Nothing is started: a service is up as long as it stands in the register.

Main definitions:

* `Conveyor.Local.Handle` — a service in the register;
* `Conveyor.Local.Services` — the register;
* `Conveyor.Local.Services.start`, `Conveyor.Local.Services.stop`.
-/

import Conveyor.Resolution

set_option autoImplicit false

namespace Conveyor.Local

/-- A service in the register. -/
structure Handle where
  number : Nat
  name : String
  image : String
  hostPort : Option Nat := none
  containerPort : Option Nat := none
  /-- The names of its variables in order. -/
  envNames : List String := []
  deriving DecidableEq, Repr

/-- The services that are up, and the number of the next one. -/
structure Services where
  up : List Handle := []
  next : Nat := 0
  deriving Repr

/-- Writes a service down; one without a name is named for its image. -/
def Services.start (s : Services) (r : ResolvedService) : Handle × Services :=
  let handle : Handle :=
    { number := s.next
      name := if r.name = "" then r.image else r.name
      image := r.image, hostPort := r.hostPort, containerPort := r.containerPort
      envNames := (r.env.map (·.1)).mergeSort fun a b => decide (a ≤ b) }
  (handle, { up := s.up ++ [handle], next := s.next + 1 })

/-- Takes a service off the register; one that is not there changes nothing. -/
def Services.stop (s : Services) (h : Handle) : Services :=
  { s with up := s.up.filter (·.number ≠ h.number) }

/-- What a command is answered with that is not run. -/
def dryOutput (command : String) : String := "[dry-run] " ++ command

end Conveyor.Local
