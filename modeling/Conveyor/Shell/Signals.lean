/-
**Signals.**

Main definitions:

* `Conveyor.Shell.signalNames` — the names of signals by their numbers;
* `Conveyor.Shell.Session.meaning` — what a signal does to a script;
* `Conveyor.Shell.send` — sends a signal to a process;
* `Conveyor.Shell.deliver` — kills the script if a signal that arrived does so.
-/

import Conveyor.Shell.Session

set_option autoImplicit false

namespace Conveyor.Shell

/-- The names of signals by their numbers, from one on. -/
def signalNames : List String :=
  ["HUP", "INT", "QUIT", "ILL", "TRAP", "ABRT", "BUS", "FPE", "KILL", "USR1", "SEGV", "USR2", "PIPE",
    "ALRM", "TERM", "STKFLT", "CHLD", "CONT", "STOP", "TSTP", "TTIN", "TTOU", "URG", "XCPU", "XFSZ",
    "VTALRM", "PROF", "WINCH", "POLL", "PWR", "SYS", "32", "33", "RTMIN"]

/-- The greatest number of a signal. -/
def lastSignal : Nat := 64

/-- The name of a signal. -/
def signalName (n : Nat) : String :=
  if n = 0 then "EXIT" else signalNames.getD (n - 1) (toString n)

/-- The signal that a text names, by its number or its name; zero means the end of a script. -/
def signal? (s : String) : Option Nat :=
  match digits? s with
  | some n => if n ≤ lastSignal then some n else none
  | none =>
    let name := String.ofList (s.toList.map Char.toUpper)
    if name = "EXIT" then some 0
    else if name = "IO" then some 29
    else (signalNames.findIdx? (· == name)).map (· + 1)

/-- What is said about a script that a signal killed. -/
def signalText (n : Nat) : Option String :=
  match n with
  | 1 => some "Hangup"
  | 3 => some "Quit"
  | 4 => some "Illegal instruction"
  | 5 => some "Trace/breakpoint trap"
  | 6 => some "Aborted"
  | 7 => some "Bus error"
  | 8 => some "Floating point exception"
  | 9 => some "Killed"
  | 10 => some "User defined signal 1"
  | 11 => some "Segmentation fault"
  | 12 => some "User defined signal 2"
  | 14 => some "Alarm clock"
  | 15 => some "Terminated"
  | 16 => some "Stack fault"
  | 24 => some "CPU time limit exceeded"
  | 25 => some "File size limit exceeded"
  | 26 => some "Virtual timer expired"
  | 27 => some "Profiling timer expired"
  | 29 => some "I/O possible"
  | 30 => some "Power failure"
  | 31 => some "Bad system call"
  | 2 | 13 => none
  | n => if n < 32 then none else some ("Real-time signal " ++ toString (n - 34))

/-- What a signal does to a script. -/
inductive Meaning where
  | kills
  | nothing
  /-- A text is carried out. -/
  | does (action : String)
  deriving DecidableEq, Repr

/-- What a signal does to a script: what is said for it, or else what is usual. -/
def Session.meaning (s : Session) (signal : Nat) : Meaning :=
  if signal = 9 then .kills
  else
    match s.traps.find? (·.1 == signal) with
    | some (_, "") => .nothing
    | some (_, action) => .does action
    | none => if [0, 17, 18, 19, 20, 21, 22, 23, 28].contains signal then .nothing else .kills

/-- The signals that arrived at the script, the first one first. -/
def arrived : Act (List Nat) := do
  let s ← session
  return ((← get).world.signals.filter (·.1 == s.self)).map (·.2)

/-- Kills the script if a signal that arrived does so; those that do nothing are dropped. -/
def deliver : Act Unit := do
  let s ← session
  let here ← arrived
  match here.find? fun n => s.meaning n == .kills with
  | some n =>
    changeWorld fun w => { w with signals := w.signals.filter (·.1 != s.self) }
    throw (.killed n)
  | none =>
    changeWorld fun w =>
      { w with signals := w.signals.filter fun g => g.1 != s.self || s.meaning g.2 != .nothing }

/-- The first signal that arrived and for which a text is carried out, taken away, and that text. -/
def takeAction : Act (Option String) := do
  let s ← session
  match (← arrived).find? fun n => match s.meaning n with
      | .does _ => true
      | _ => false with
  | none => return none
  | some n =>
    changeWorld fun w => { w with signals := w.signals.erase (s.self, n) }
    match s.meaning n with
    | .does action => return some action
    | _ => return none

/-- Sends a signal to a process, and says whether there is such a process: the script itself, one of
those around it, or one that nobody waits for. -/
def send (signal process : Nat) : Act Bool := do
  let m ← get
  let s := m.session
  match m.jobs.find? (·.1 == process) with
  | some (_, .ended _ _) => return false
  | some (_, .planned t _) =>
    if signal != 0 then
      match t.meaning signal with
      | .kills =>
        let killed := Job.ended (128 + signal) (some signal)
        modify fun m => { m with jobs := m.jobs.map fun j =>
          if j.1 == process then (process, killed) else j }
      | _ => pure ()
    return true
  | none =>
    if process != s.process && process != s.self then return false
    if signal != 0 then
      changeWorld fun w => { w with signals := w.signals ++ [(process, signal)] }
      deliver
    return true

end Conveyor.Shell
