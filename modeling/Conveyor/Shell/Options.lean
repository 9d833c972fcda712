/-
**The options of commands.**

Options may stand anywhere among the arguments, up to two dashes.  Letters may be joined, a value may
stand with its letter or after it, and a long name may be shortened as long as it names one option.

Main definitions:

* `Conveyor.Shell.Options` — the options and the other arguments of a command;
* `Conveyor.Shell.Options.read` — the options that arguments write;
* `Conveyor.Shell.usage` — complains about arguments;
* `Conveyor.Shell.named` — a name as messages show it.
-/

import Conveyor.Shell.Session

set_option autoImplicit false

namespace Conveyor.Shell

/-! ### Names in messages -/

/-- Whether a character needs quotes in a name. -/
def needsQuotes (c : Char) : Bool := " !\"$&'()*;<=>?[\\^\x60|".toList.contains c || c.toNat < 32

/-- The text of bytes of the quotes that some messages put around words. -/
def curled (s : String) : String := rawText "‘" ++ s ++ rawText "’"

/-- A name in quotes. -/
def quotedName (s : String) : String :=
  let cs := s.toList
  if cs.contains '\'' && !cs.any fun c => needsQuotes c && c != '\'' && c != ' ' then
    "\"" ++ s ++ "\""
  else
    let inside := cs.flatMap fun c =>
      if c == '\'' then "'\\''".toList
      else if c == '\n' then "'$'\\n''".toList
      else if c == '\t' then "'$'\\t''".toList
      else [c]
    "'" ++ String.ofList inside ++ "'"

/-- A name as messages show it: in quotes if it needs them. -/
def named (s : String) : String :=
  let first := s.toList.head?
  if s = "" || s.toList.any needsQuotes || first == some '#' || first == some '~' then quotedName s
  else s

/-! ### Options -/

/-- The options of a command, with their values, and its other arguments. -/
structure Options where
  options : List (Char × String) := []
  operands : List String := []

/-- What options a command has: its letters, a colon after those with a value, and the long names of
some of them. -/
structure OptionForm where
  letters : String
  longs : List (String × Char) := []

namespace OptionForm

/-- Whether a letter is an option, and whether it has a value. -/
def letter? (f : OptionForm) (c : Char) : Option Bool :=
  match f.letters.toList.dropWhile (· != c) with
  | _ :: ':' :: _ => if c == ':' then none else some true
  | _ :: _ => if c == ':' then none else some false
  | [] => none

/-- The letters of the long names that a text may stand for. -/
def long? (f : OptionForm) (name : String) : Option Char :=
  match f.longs.find? (·.1 == name) with
  | some (_, c) => some c
  | none =>
    match (f.longs.filter fun l => name.toList.isPrefixOf l.1.toList).map (·.2) with
    | [c] => some c
    | _ => none

end OptionForm

namespace Options

/-- Puts an option in front. -/
def add (o : Options) (c : Char) (value : String) : Options :=
  { o with options := (c, value) :: o.options }

/-- Reads joined letters; the arguments after them may hold a value. -/
def readLetters (f : OptionForm) :
    List Char → List String → Except String (List (Char × String) × List String)
  | [], args => .ok ([], args)
  | c :: cs, args =>
    match f.letter? c with
    | none => .error ("invalid option -- '" ++ String.singleton c ++ "'")
    | some false => do
      let (more, args) ← readLetters f cs args
      return ((c, "") :: more, args)
    | some true =>
      if !cs.isEmpty then .ok ([(c, String.ofList cs)], args)
      else
        match args with
        | v :: args => .ok ([(c, v)], args)
        | [] => .error ("option requires an argument -- '" ++ String.singleton c ++ "'")

/-- Reads arguments; `anywhere` says that options may follow other arguments. -/
def readFrom (f : OptionForm) (anywhere : Bool) :
    Nat → List String → Except String Options
  | 0, args => .ok { operands := args }
  | _ + 1, [] => .ok {}
  | fuel + 1, a :: args =>
    match a.toList with
    | ['-', '-'] => .ok { operands := args }
    | '-' :: '-' :: long => do
      let name := String.ofList (long.takeWhile (· != '='))
      match f.long? name, long.dropWhile (· != '=') with
      | none, _ => throw ("unrecognized option '" ++ a ++ "'")
      | some c, _ :: value =>
        return (← readFrom f anywhere fuel args).add c (String.ofList value)
      | some c, [] =>
        if f.letter? c == some true then
          match args with
          | v :: args => return (← readFrom f anywhere fuel args).add c v
          | [] => throw ("option '" ++ a ++ "' requires an argument")
        else return (← readFrom f anywhere fuel args).add c ""
    | '-' :: c :: cs => do
      let (found, args) ← readLetters f (c :: cs) args
      let more ← readFrom f anywhere fuel args
      return { more with options := found ++ more.options }
    | _ =>
      if anywhere then do
        let more ← readFrom f anywhere fuel args
        return { more with operands := a :: more.operands }
      else .ok { operands := a :: args }

/-- The options that arguments write, or what is wrong with them. -/
def read (f : OptionForm) (args : List String) : Except String Options :=
  readFrom f true args.length.succ args

/-- The same for a command whose options stand before its other arguments. -/
def readFront (f : OptionForm) (args : List String) : Except String Options :=
  readFrom f false args.length.succ args

/-- Whether an option is set. -/
def has (o : Options) (c : Char) : Bool := o.options.any (·.1 == c)

/-- The last value of an option. -/
def value? (o : Options) (c : Char) : Option String := (o.options.reverse.find? (·.1 == c)).map (·.2)

/-- All values of an option. -/
def values (o : Options) (c : Char) : List String :=
  o.options.filterMap fun v => if v.1 == c then some v.2 else none

end Options

/-- Complains about arguments, and shows where help is. -/
def usage (name text : String) (status : Nat) : Act Nat := do
  complain (name ++ ": " ++ text ++ "\nTry '" ++ name ++ " --help' for more information.\n")
  return status

/-- Carries a command out with the options that its arguments write. -/
def withOptions (name : String) (f : OptionForm) (wrong : Nat) (args : List String)
    (act : Options → Act Nat) : Act Nat :=
  match Options.read f args with
  | .ok o => act o
  | .error text => usage name text wrong

/-- Goes through arguments; one that fails makes the status of the command. -/
def eachOf {α : Type} (failure : Nat) (args : List α) (act : α → Act (Option String)) : Act Nat :=
  args.foldlM (fun status a => do
    match ← act a with
    | none => return status
    | some text =>
      complain (text ++ "\n")
      return failure) 0

/-! ### Reading files -/

/-- What stands at the end of a path. -/
def look (path : String) : Act (Except FileError FileNode) := do
  let p := (← session).path path
  let t ← files
  if path = "" then return .error .notFound
  else
    match t.find p with
    | .ok (.file bytes changed) =>
      return if path.toList.getLast? == some '/' then .error .notDirectory
        else .ok (.file bytes changed)
    | r => return r

/-- The place that a path leads to, where something stands or could stand. -/
def placeOf (path : String) : Act (Except FileError (List String)) := do
  let p := (← session).path path
  let t ← files
  if path = "" then return .error .notFound
  else
    match t.locate p with
    | .error e => return .error e
    | .ok place =>
      match t.node? place.dropLast with
      | some .directory => return .ok place
      | some _ => return .error .notDirectory
      | none => return .error .notFound

/-- The number of the stream that a path names. -/
def streamOf? (path : String) : Option Nat :=
  match path with
  | "/dev/stdin" => some 0
  | "/dev/stdout" => some 1
  | "/dev/stderr" => some 2
  | path =>
    match path.splitOn "/dev/fd/" with
    | ["", n] => digits? n
    | _ => none

/-- The text of a file, or of the input. -/
def readFile (path : String) : Act (Except FileError String) := do
  if path = "/dev/null" then return .ok ""
  else if path = "/dev/zero" then return .ok (String.ofList (List.replicate 65536 '\x00'))
  else if streamOf? path == some 0 then return .ok (textOfBytes (← takeInput))
  else
    match ← look path with
    | .ok .directory => return .error .isDirectory
    | .ok (.file bytes _) => return .ok (textOfBytes bytes)
    | .error e => return .error e

/-- The text of the input, or what is wrong with it. -/
def readInput : Act (Except String String) := do
  match ← channelOf 0 with
  | none => return .error "Bad file descriptor"
  | some n =>
    match (← get).world.channels.getD n .nowhere with
    | .directory => return .error "Is a directory"
    | .zeros => return .ok (String.ofList (List.replicate 65536 '\x00'))
    | _ => return .ok (textOfBytes (← takeInput))

/-- The text of a file; a dash means the input. -/
def readSource (path : String) : Act (Except String String) := do
  if path = "-" then readInput
  else
    match ← readFile path with
    | .ok t => return .ok t
    | .error e => return .error e.text

/-- The texts of files, or of the input if none is named; those that fail are complained about in the
name of a command.  The names come with the texts. -/
def readSources (failure : String → String → String) (paths : List String) :
    Act (List (String × String) × Bool) := do
  let paths := if paths.isEmpty then ["-"] else paths
  paths.foldlM (fun (acc : List (String × String) × Bool) path => do
    match ← readSource path with
    | .ok t => return (acc.1 ++ [(path, t)], acc.2)
    | .error e =>
      complain (failure path e ++ "\n")
      return (acc.1, true)) ([], false)

/-- A message about a file in the name of a command. -/
def aboutFile (name path text : String) : String := name ++ ": " ++ named path ++ ": " ++ text

/-- Writes a file; one that is new gets the usual permissions. -/
def writeFile (place : List String) (text : String) : Act Unit := do
  let mask := (← session).mask
  changeFiles fun t =>
    let isNew := (t.node? place).isNone
    let t := t.put place (.file (bytesOfText text) 0)
    if isNew && mask != 0o022 then t.setMode place (0o666 - (mask % 0o1000).land 0o666) else t

/-- Makes a directory with the usual permissions. -/
def makeDirectoryAt (place : List String) : Act Unit := do
  let mask := (← session).mask
  changeFiles fun t =>
    let t := t.put place .directory
    if mask != 0o022 then t.setMode place (0o777 - (mask % 0o1000)) else t

end Conveyor.Shell
