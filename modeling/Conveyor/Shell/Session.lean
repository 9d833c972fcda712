/-
**What a script works on: files, streams and variables.**

All that a script does, it does to a world of files and channels; what it remembers is its session.
A script of its own process gets a session of its own, and its world is the same.

Main definitions:

* `Conveyor.Shell.World` — the files, and the channels that streams lead to;
* `Conveyor.Shell.Session` — the state of one script;
* `Conveyor.Shell.Stop` — why a script does not go on;
* `Conveyor.Shell.Act` — what can be done.
-/

import Conveyor.FileTree
import Conveyor.Matrix
import Conveyor.Shell.Bytes
import Conveyor.Shell.Syntax

set_option autoImplicit false

namespace Conveyor.Shell

/-! ### The world -/

/-- What streams lead to. -/
inductive Channel where
  /-- It takes everything and gives nothing. -/
  | nowhere
  /-- It gives zeros without end. -/
  | zeros
  /-- What was written, in pieces with the last one first, and before it what can be read next. -/
  | buffer (front : List UInt8) (pieces : List (List UInt8))
  /-- A file, at a position or always at its end. -/
  | file (place : List String) (position : Nat) (atEnd : Bool)
  | directory
  deriving DecidableEq, Repr

/-- The files, and what streams lead to. -/
structure World where
  files : FileTree
  channels : Array Channel := #[.buffer [] []]
  /-- Signals on their way, each with the number of its process. -/
  signals : List (Nat × Nat) := []
  /-- The number of the last process. -/
  processes : Nat := 4711

/-- The bytes that a channel still gives. -/
def World.rest (w : World) : Channel → List UInt8
  | .nowhere | .zeros | .directory => []
  | .buffer front pieces => front ++ pieces.reverse.flatten
  | .file place position _ =>
    match w.files.node? place with
    | some (.file bytes _) => bytes.drop position
    | _ => []

/-! ### Sessions -/

/-- A variable. -/
structure Variable where
  value : Option String := none
  /-- Whether commands get to see it. -/
  exported : Bool := false
  /-- Whether it stays what it is. -/
  fixed : Bool := false
  deriving DecidableEq, Repr, Inhabited

/-- The state of one script. -/
structure Session where
  /-- The place of the working directory. -/
  dir : List String
  names : List (String × Variable) := []
  functions : List (String × Script) := []
  aliases : List (String × String) := []
  /-- The texts that stand in the script, by their numbers. -/
  texts : Array Word := #[]
  /-- The letters of the options that are set, the last one first. -/
  options : List Char := []
  status : Nat := 0
  /-- The status of the last script whose output was used. -/
  outputStatus : Nat := 0
  /-- The line that messages name, and the one up to which the script was read. -/
  line : Nat := 1
  readLine : Nat := 1
  /-- The name of the script in messages. -/
  name : String := "/bin/sh"
  /-- The command that the script itself carries out, in messages. -/
  command : Option String := none
  /-- The number of the process that the script counts as, and of its own one. -/
  process : Nat := 4711
  self : Nat := 4711
  arguments : List String := []
  /-- Where streams lead, by the numbers of channels. -/
  streams : List (Nat × Nat) := [(0, 1), (1, 0), (2, 0)]
  /-- For each script of a name that is being carried out: what variables were before. -/
  frames : List (List (String × Option Variable)) := []
  /-- What is carried out for a signal, by its number, and for zero at the end of the script. -/
  traps : List (Nat × String) := []
  /-- How many loops are around. -/
  loops : Nat := 0
  /-- How many scripts of names are around. -/
  depth : Nat := 0
  /-- The processes of scripts that nobody waited for, the last one first. -/
  jobs : List Nat := []
  lastJob : Option Nat := none
  /-- How far the joined options of an argument were read. -/
  optionPlace : Option Nat := none
  /-- The programs whose places are known. -/
  known : List String := []
  /-- The status before what is carried out for a signal. -/
  statusBefore : Option Nat := none
  /-- The permissions that new files do not get. -/
  mask : Nat := 0o022
  /-- Whether sleeping takes no time. -/
  wakes : Bool := true

/-- Why a script does not go on. -/
inductive Stop where
  /-- It ends here. -/
  | exit (n : Nat)
  /-- A command gave up, and with it the script. -/
  | failure (n : Nat)
  /-- It is killed by a signal. -/
  | killed (signal : Nat)
  /-- It would sleep, and nobody wakes it. -/
  | asleep
  /-- The script of a name ends here. -/
  | back (n : Nat)
  /-- So many loops end here. -/
  | leave (loops : Nat)
  /-- So many loops but one end here, and that one goes on with its next round. -/
  | again (loops : Nat)
  deriving DecidableEq, Repr

/-- A script of its own process that nobody waits for: it starts later, or it ended. -/
inductive Job where
  | planned (session : Session) (script : Script)
  | ended (status : Nat) (signal : Option Nat)

/-- All that there is while a script is carried out. -/
structure Machine where
  session : Session
  world : World
  /-- Scripts that nobody waits for, by the numbers of their processes. -/
  jobs : List (Nat × Job) := []

/-- What can be done: it changes the machine, and perhaps the script does not go on. -/
abbrev Act := ExceptT Stop (StateM Machine)

/-! ### Values of variables -/

namespace Session

/-- The text of the working directory. -/
def dirText (s : Session) : String := rawText ("/" ++ "/".intercalate s.dir)

/-- The path that a text means in the working directory. -/
def path (s : Session) (text : String) : Path :=
  (Path.mk "/" s.dir).join (Path.ofText (readable text))

/-- The variable of a name. -/
def named? (s : Session) (name : String) : Option Variable :=
  (s.names.find? (·.1 == name)).map (·.2)

/-- Whether an option is set. -/
def has (s : Session) (option : Char) : Bool := s.options.contains option

/-- The characters that separate fields. -/
def separators (s : Session) : List Char :=
  match (s.named? "IFS").bind (·.value) with
  | some t => t.toList
  | none => [' ', '\t', '\n']

/-- What stands between arguments that become one text. -/
def joint (s : Session) : String := String.ofList (s.separators.take 1)

/-- The value of a name: of a variable, of an argument, or one that the script itself keeps. -/
def value? (s : Session) (name : String) : Option String :=
  if name = "$" then some (toString s.process)
  else if name = "?" then some (toString s.status)
  else if name = "#" then some (toString s.arguments.length)
  else if name = "-" then some (String.ofList s.options)
  else if name = "!" then s.lastJob.map toString
  else if name = "@" ∨ name = "*" then
    some (s.joint.intercalate s.arguments)
  else
    match name.toNat? with
    | some 0 => some s.name
    | some n => s.arguments[n - 1]?
    | none => (s.named? name).bind (·.value)

/-- The place of a name in the order in which commands see variables. -/
def slot (name : String) : Nat :=
  let cs := name.toList
  ((cs.headD ' ').toNat * 16 + cs.foldl (fun n c => n + c.toNat) 0) % 39

/-- The variables that commands get to see, in their order. -/
def environment (s : Session) : List (String × String) :=
  let shown := s.names.filterMap fun v =>
    if v.2.exported then v.2.value.map fun t => (v.1, t) else none
  shown.mergeSort fun a b => decide (slot a.1 ≤ slot b.1)

/-- The session with a variable changed; a new one comes after the others. -/
def change (s : Session) (name : String) (f : Variable → Variable) : Session :=
  if s.names.any (·.1 == name) then
    { s with names := s.names.map fun v => if v.1 == name then (name, f v.2) else v }
  else { s with names := s.names ++ [(name, f {})] }

/-- The session with a variable as it was before. -/
def restore (s : Session) (name : String) : Option Variable → Session
  | some v => s.change name fun _ => v
  | none => { s with names := s.names.filter (·.1 != name) }

/-- The session in another directory, with the text that its path has. -/
def enter (s : Session) (dir : List String) : Session :=
  let old := s.dirText
  let s := { s with dir }
  (s.change "OLDPWD" fun v => { v with value := some old, exported := true }).change "PWD"
    fun v => { v with value := some s.dirText, exported := true }

/-- The session of a script of its own process. -/
def fork (s : Session) (self : Nat) : Session :=
  { s with self, traps := s.traps.filter (·.2 == ""), jobs := [] }

end Session

/-! ### Doing things -/

/-- The session. -/
def session : Act Session := do return (← get).session

/-- Changes the session. -/
def changeSession (f : Session → Session) : Act Unit :=
  modify fun m => { m with session := f m.session }

/-- Changes the world. -/
def changeWorld (f : World → World) : Act Unit := modify fun m => { m with world := f m.world }

/-- Changes the files. -/
def changeFiles (f : FileTree → FileTree) : Act Unit :=
  changeWorld fun w => { w with files := f w.files }

/-- The files. -/
def files : Act FileTree := do return (← get).world.files

/-- A new channel, by its number. -/
def newChannel (c : Channel) : Act Nat := do
  let n := (← get).world.channels.size
  changeWorld fun w => { w with channels := w.channels.push c }
  return n

/-- The channel that a stream leads to. -/
def channelOf (stream : Nat) : Act (Option Nat) := do
  return ((← session).streams.find? (·.1 == stream)).map (·.2)

/-- Leads a stream to a channel, or closes it. -/
def lead (stream : Nat) (channel : Option Nat) : Act Unit := changeSession fun s =>
  let others := s.streams.filter (·.1 != stream)
  { s with streams := match channel with
      | some n => (stream, n) :: others
      | none => others }

/-- A file with bytes written at a position. -/
def overwrite (old : List UInt8) (position : Nat) (bytes : List UInt8) : List UInt8 :=
  old.take position ++ List.replicate (position - old.length) 0 ++ bytes ++
    old.drop (position + bytes.length)

/-- Writes bytes to a channel. -/
def World.write (w : World) (channel : Nat) (bytes : List UInt8) : World :=
  match w.channels[channel]? with
  | some (.buffer _ _) =>
    { w with channels := w.channels.modify channel fun c => match c with
        | .buffer front pieces => .buffer front (bytes :: pieces)
        | c => c }
  | some (.file place position atEnd) =>
    let (old, changed) := match w.files.node? place with
      | some (.file old changed) => (old, changed)
      | _ => ([], 0)
    let position := if atEnd then old.length else position
    { w with
      files := w.files.put place (.file (overwrite old position bytes) changed)
      channels := w.channels.set! channel (.file place (position + bytes.length) atEnd) }
  | _ => w

/-- Writes bytes to a stream, and says whether it leads anywhere. -/
def writeTo (stream : Nat) (bytes : List UInt8) : Act Bool := do
  match ← channelOf stream with
  | none => return false
  | some n =>
    unless bytes.isEmpty do changeWorld (·.write n bytes)
    return true

/-- Writes bytes to the output. -/
def put (bytes : List UInt8) : Act Unit := do
  let _ ← writeTo 1 bytes

/-- Writes a text to the output. -/
def say (text : String) : Act Unit := put (bytesOfText text)

/-- Writes lines to the output. -/
def sayLines (ls : List String) : Act Unit := say (String.join (ls.map (· ++ "\n")))

/-- Writes a text to the stream of errors. -/
def complain (text : String) : Act Unit := do
  let _ ← writeTo 2 (bytesOfText text)

/-- What the input still gives. -/
def inputRest : Act (List UInt8) := do
  match ← channelOf 0 with
  | none => return []
  | some n =>
    let w := (← get).world
    return w.rest (w.channels.getD n .nowhere)

/-- Takes bytes away from the input. -/
def dropInput (count : Nat) : Act Unit := do
  match ← channelOf 0 with
  | none => return
  | some n =>
    changeWorld fun w => { w with channels := w.channels.modify n fun c => match c with
      | .buffer front pieces => .buffer ((front ++ pieces.reverse.flatten).drop count) []
      | .file place position atEnd => .file place (position + count) atEnd
      | c => c }

/-- Takes all that the input still gives. -/
def takeInput : Act (List UInt8) := do
  let bytes ← inputRest
  dropInput bytes.length
  return bytes

/-- A message of the script itself. -/
def Session.complaint (s : Session) (text : String) : String :=
  let command := match s.command with
    | some name => name ++ ": "
    | none => ""
  s.name ++ ": " ++ toString s.line ++ ": " ++ command ++ text ++ "\n"

/-- Complains in the name of the script. -/
def warn (text : String) : Act Unit := do complain ((← session).complaint text)

/-- Complains in the name of the script, and gives up. -/
def giveUp {α : Type} (text : String) (status : Nat) : Act α := do
  warn text
  throw (.failure status)

/-- Gives up because of a text that is no number. -/
def notNumber {α : Type} (text : String) : Act α := giveUp ("Illegal number: " ++ text) 2

/-- Sets a variable, unless it stays what it is. -/
def assign (name value : String) : Act Unit := do
  let s ← session
  match s.named? name with
  | some v => if v.fixed then giveUp (name ++ ": is read only") 2
  | none => pure ()
  let exports := s.has 'a'
  changeSession fun s => s.change name fun v =>
    { v with value := some value, exported := v.exported || exports }
  if name = "OPTIND" then changeSession fun s => { s with optionPlace := none }
  else if name = "PATH" then changeSession fun s => { s with known := [] }

/-- Remembers what a variable was before the script of a name. -/
def remember (name : String) : Act Unit := changeSession fun s =>
  match s.frames with
  | [] => s
  | frame :: frames => { s with frames := ((name, s.named? name) :: frame) :: frames }

/-- Does something, and then something else, also when the first one does not go on. -/
def finishing {α : Type} (act : Act α) (last : Act Unit) : Act α := do
  let a ← tryCatch act fun stop => do
    last
    throw stop
  last
  return a

/-- Does something after which variables that were remembered change back. -/
def inFrame {α : Type} (act : Act α) : Act α := do
  changeSession fun s => { s with frames := [] :: s.frames }
  finishing act (changeSession fun s =>
    match s.frames with
    | [] => s
    | frame :: frames => { frame.foldl (fun t v => t.restore v.1 v.2) s with frames })

/-- Does something after which streams lead where they led before. -/
def withStreams {α : Type} (act : Act α) : Act α := do
  let streams := (← session).streams
  finishing act (changeSession fun s => { s with streams })

/-- A number for a new process. -/
def newProcess : Act Nat := do
  changeWorld fun w => { w with processes := w.processes + 1 }
  return (← get).world.processes

/-- Ends a command with a status. -/
def finish (status : Nat) : Act Nat := do
  changeSession fun s => { s with status }
  return status

end Conveyor.Shell
