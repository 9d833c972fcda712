/-
**Commands that a script carries out itself.**

They change the session: variables, options, traps, the working directory.  Those that carry out
other commands stand with the carrying out of scripts.

Main definitions:

* `Conveyor.Shell.builtin?` — the command of a name, and whether it is a special one, whose failure
  ends the script and which keeps the variables that are set for it;
* `Conveyor.Shell.programPlace` — where the program of a name stands.
-/

import Conveyor.Shell.Condition
import Conveyor.Shell.Field
import Conveyor.Shell.Format
import Conveyor.Shell.Options
import Conveyor.Shell.Permissions
import Conveyor.Shell.Signals

set_option autoImplicit false

namespace Conveyor.Shell

/-! ### Arguments -/

/-- The whole number that an argument writes, which may not be negative. -/
def natural (s : String) : Act Nat := do
  match Condition.whole s with
  | .ok n => if 0 ≤ n && n ≤ 2147483647 then return n.toNat else notNumber s
  | .error _ => notNumber s

/-- The options at the front of arguments, with their values, and the other arguments. -/
def optionsOf (letters : String) : List String → Act Options
  | [] => return {}
  | a :: rest => do
    let form : OptionForm := ⟨letters, []⟩
    match a.toList with
    | ['-', '-'] => return { operands := rest }
    | '-' :: c :: cs =>
      let all := c :: cs
      let plain := all.takeWhile fun d => form.letter? d == some false
      let flags := plain.map fun d => (d, "")
      match all.drop plain.length with
      | [] =>
        let more ← optionsOf letters rest
        return { more with options := flags ++ more.options }
      | d :: value =>
        if (form.letter? d).isNone then giveUp ("Illegal option -" ++ String.singleton d) 2
        match value, rest with
        | [], v :: rest =>
          let more ← optionsOf letters rest
          return { more with options := flags ++ (d, v) :: more.options }
        | [], [] => giveUp ("No arg for -" ++ String.singleton d ++ " option") 2
        | value, rest =>
          let more ← optionsOf letters rest
          return { more with options := flags ++ (d, String.ofList value) :: more.options }
    | _ => return { operands := a :: rest }

/-- A text in quotes, from which a script reads it again. -/
def reread (s : String) : String :=
  let pieces := s.splitOn "'"
  let quoted := pieces.map fun p => if p = "" then "" else "'" ++ p ++ "'"
  if pieces.length = 1 then "'" ++ s ++ "'" else "\"'\"".intercalate quoted

/-- Writes a text to the output in the name of a command; a stream that leads nowhere is a failure. -/
def emit (name text : String) : Act Nat := do
  if (← writeTo 1 (bytesOfText text)) || text = "" then return 0
  else
    warn (name ++ ": I/O error")
    return 1

/-- Takes a name and, after an equals sign, a value off an argument. -/
def bindingOf (a : String) : String × Option String :=
  let cs := a.toList
  let name := cs.takeWhile (· != '=')
  match cs.drop name.length with
  | _ :: value => (String.ofList name, some (String.ofList value))
  | [] => (a, none)

/-- Gives up unless a text is the name of a variable. -/
def checkName (name : String) : Act Unit := do
  unless isName name do giveUp (name ++ ": bad variable name") 2

/-! ### Texts -/

/-- Writes arguments with blanks between them. -/
def echo (args : List String) : Act Nat := do
  let (args, close) := match args with
    | "-n" :: rest => (rest, false)
    | args => (args, true)
  let (cs, goes) := escaped (" ".intercalate args)
  emit "echo" (String.ofList (if close && goes then cs ++ ['\n'] else cs))

/-- Writes arguments as a format says. -/
def printf (args : List String) : Act Nat := do
  let o ← optionsOf "" args
  match o.operands with
  | [] => giveUp "usage: printf format [arg ...]" 2
  | format :: rest =>
    let filled := formatted format rest
    (filled.complaints ++ filled.refused.toList).forM warn
    let status ← emit "printf" (String.ofList filled.chars)
    if filled.refused.isSome then throw (.failure 2)
    return if filled.complaints.isEmpty then status else 1

/-- Whether a node may be executed. -/
def isExecutable (t : FileTree) (place : List String) : Bool := (t.mode place).land 0o111 != 0

/-- The answer to a question about files. -/
def fileAnswer (s : Session) (t : FileTree) (op a b : String) : Bool :=
  let at? := fun (path : String) =>
    if path = "" then none
    else
      match t.locate (s.path path) with
      | .ok place => (t.node? place).bind fun n =>
          if n != .directory && path.toList.getLast? == some '/' then none else some (place, n)
      | .error _ => none
  let isDevice := ["/dev/null", "/dev/zero", "/dev/tty"].contains a
  match op, at? a, at? b with
  | "-e", x, _ | "-r", x, _ | "-w", x, _ | "-O", x, _ | "-G", x, _ => x.isSome
  | "-x", some (place, _), _ => isExecutable t place
  | "-f", some (_, .file _ _), _ => !isDevice
  | "-s", some (_, .file bytes _), _ => !bytes.isEmpty
  | "-s", some (_, .directory), _ => true
  | "-d", some (_, .directory), _ => true
  | "-c", some _, _ => isDevice
  | "-u", some (place, _), _ => (t.mode place).land 0o4000 != 0
  | "-g", some (place, _), _ => (t.mode place).land 0o2000 != 0
  | "-k", some (place, _), _ => (t.mode place).land 0o1000 != 0
  | "-nt", some _, none => true
  | "-ot", none, some _ => true
  | "-ef", some (x, _), some (y, _) => x == y
  | _, _, _ => false

/-- Decides a condition. -/
def test (args : List String) : Act Nat := do
  let s ← session
  let t ← files
  match Condition.decided (fileAnswer s t) args.length.succ args with
  | .ok true => return 0
  | .ok false => return 1
  | .error text => giveUp text 2

/-- Decides a condition in brackets. -/
def bracketTest (args : List String) : Act Nat := do
  if args.getLast? == some "]" then test args.dropLast else giveUp "missing ]" 2

/-- The next line of the input: its marks, and whether it was complete.  A backslash protects the
character after it, or joins two lines, unless all is taken as it is. -/
def lineMarks (raw : Bool) : Nat → List UInt8 → List Mark × List UInt8 × Bool
  | 0, bytes => ([], bytes, false)
  | _ + 1, [] => ([], [], false)
  | fuel + 1, b :: bytes =>
    let add := fun (m : Mark) (rest : List UInt8) =>
      let (ms, rest, complete) := lineMarks raw fuel rest
      (m :: ms, rest, complete)
    if b = 10 then ([], bytes, true)
    else if b = 0 then lineMarks raw fuel bytes
    else if b = 92 && !raw then
      match bytes with
      | [] => ([], [], false)
      | 10 :: rest => lineMarks raw fuel rest
      | c :: rest => add (.letter (Char.ofNat c.toNat) true false) rest
    else add (.letter (Char.ofNat b.toNat) false true) bytes

/-- Reads a line of the input into variables; the last one gets all that is left of it. -/
def readBuiltin (args : List String) : Act Nat := do
  let o ← optionsOf "p:r" args
  if o.operands.isEmpty then giveUp "arg count" 2
  o.operands.forM checkName
  let bytes ← inputRest
  let (marks, rest, complete) := lineMarks (o.has 'r') bytes.length.succ bytes
  dropInput (bytes.length - rest.length)
  let shares := shareOut (← session).separators o.operands.length marks
  (o.operands.zip shares).forM fun (name, share) => assign name share
  return if complete then 0 else 1

/-! ### Variables -/

/-- Variables in the order of their names, as a command that makes them again. -/
def listing (command : String) (vs : List (String × Variable)) : String :=
  let sorted := vs.mergeSort fun a b => decide (a.1 ≤ b.1)
  String.join (sorted.map fun v =>
    command ++ v.1 ++ (match v.2.value with
      | some t => "=" ++ reread t
      | none => "") ++ "\n")

/-- Marks variables, perhaps with values; without any, shows those that are marked. -/
def markBuiltin (command : String) (mark : Variable → Variable) (isMarked : Variable → Bool)
    (args : List String) : Act Nat := do
  let o ← optionsOf "p" args
  if o.operands.isEmpty || o.has 'p' then
    emit command (listing (command ++ " ") ((← session).names.filter fun v => isMarked v.2))
  else
    o.operands.forM fun a => do
      let (name, value) := bindingOf a
      checkName name
      if let some t := value then assign name t
      changeSession fun s => s.change name mark
    return 0

/-- Drops variables, or functions. -/
def unset (args : List String) : Act Nat := do
  let o ← optionsOf "vf" args
  o.operands.forM fun name => do
    if o.has 'f' then
      changeSession fun s => { s with functions := s.functions.filter (·.1 != name) }
    else
      checkName name
      if (((← session).named? name).map (·.fixed)).getD false then
        giveUp (name ++ ": is read only") 2
      changeSession fun s => { s with names := s.names.filter (·.1 != name) }
  return 0

/-- Sets variables that get their old values back when the function ends. -/
def localBuiltin (args : List String) : Act Nat := do
  if (← session).depth = 0 then giveUp "not in a function" 2
  args.forM fun a => do
    let (name, value) := bindingOf a
    checkName name
    remember name
    match value with
    | some t => assign name t
    | none => pure ()
  return 0

/-- The options of a script: their names and letters. -/
def optionNames : List (String × Char) :=
  [("errexit", 'e'), ("noglob", 'f'), ("ignoreeof", 'I'), ("interactive", 'i'), ("monitor", 'm'),
    ("noexec", 'n'), ("stdin", 's'), ("xtrace", 'x'), ("verbose", 'v'), ("vi", 'V'), ("emacs", 'E'),
    ("noclobber", 'C'), ("allexport", 'a'), ("notify", 'b'), ("nounset", 'u'), ("privileged", 'p'),
    ("nolog", 'L'), ("debug", 'D')]

/-- The letters by which options are set. -/
def optionLetters : List Char := "efIimnsxvVECabup".toList

/-- The options with one of them set or not; the one that was set last comes first. -/
def switched (on : Bool) (c : Char) (options : List Char) : List Char :=
  let order := optionNames.reverse.map (·.2)
  let kept := options.filter (· != c)
  if on then order.filter fun d => d == c || kept.contains d else kept

/-- The options of a script, shown. -/
def optionsShown (again : Bool) (options : List Char) : String :=
  let rows := optionNames.map fun (name, c) =>
    if again then "set " ++ (if options.contains c then "-o " else "+o ") ++ name ++ "\n"
    else name ++ String.ofList (List.replicate (16 - name.length) ' ') ++
      (if options.contains c then "on" else "off") ++ "\n"
  (if again then "" else "Current option settings\n") ++ String.join rows

/-- Reads options of a script off the front of arguments: the options then, the arguments left, and
whether these are given at all; or a text that is none. -/
def scriptOptions (options : List Char) :
    List String → Except String (List Char × List String × Bool × List String)
  | [] => .ok (options, [], false, [])
  | a :: rest =>
    match a.toList with
    | ['-', '-'] => .ok (options, rest, true, [])
    | ['-'] =>
      .ok (switched false 'x' (switched false 'v' options), rest, !rest.isEmpty, [])
    | sign :: cs =>
      if sign != '-' && sign != '+' then .ok (options, a :: rest, true, [])
      else
        let on := sign == '-'
        let illegal? := fun (cs : List Char) => cs.find? fun c => c != 'o' && !optionLetters.contains c
        let changedBy := fun (cs : List Char) => cs.foldl (fun os c => switched on c os) options
        let changed := changedBy (cs.filter (· != 'o'))
        match illegal? (cs.takeWhile (· != 'o')), cs.contains 'o', rest, illegal? cs with
        | some c, _, _, _ => .error ("Illegal option -" ++ String.singleton c)
        | none, true, name :: rest, later =>
          match optionNames.find? (·.1 == name), later with
          | none, _ => .error ("Illegal option " ++ String.singleton sign ++ "o " ++ name)
          | some _, some c => .error ("Illegal option -" ++ String.singleton c)
          | some (_, c), none => scriptOptions (switched on c changed) rest
        | none, true, [], _ =>
          .ok (changed, [], false, [optionsShown (!on) (changedBy (cs.takeWhile (· != 'o')))])
        | none, false, rest, _ => scriptOptions changed rest
    | [] => .ok (options, a :: rest, true, [])

/-- Changes the options of the script, or its arguments; without any, shows the variables. -/
def setBuiltin (args : List String) : Act Nat := do
  let s ← session
  if args.isEmpty then
    return ← emit "set" (listing "" (s.names.filter fun v => v.2.value.isSome))
  match scriptOptions s.options args with
  | .error text => giveUp text 2
  | .ok (options, rest, given, shown) =>
    changeSession fun s => { s with options, arguments := if given then rest else s.arguments }
    shown.forM say
    return 0

/-- Drops arguments of the script from the front. -/
def shift (args : List String) : Act Nat := do
  let n ← match args with
    | a :: _ => natural a
    | [] => pure 1
  if (← session).arguments.length < n then giveUp "can't shift that many" 2
  changeSession fun s => { s with arguments := s.arguments.drop n, optionPlace := none }
  assign "OPTIND" "1"
  return 0

/-- Takes the next option off arguments. -/
def getopts (args : List String) : Act Nat := do
  match args with
  | letters :: name :: given =>
    let s ← session
    let args := if given.isEmpty then s.arguments else given
    let quiet := letters.toList.head? == some ':'
    let form : OptionForm := ⟨if quiet then String.ofList letters.toList.tail else letters, []⟩
    let index := ((s.value? "OPTIND").bind digits?).getD 1
    let index := if args.length + 1 < index then 1 else index
    let inside := match s.optionPlace with
      | some place => if index ≤ 1 then [] else ((args.getD (index - 2) "").toList.drop place)
      | none => []
    let finish := fun (index : Nat) (found : Char) (place : Option Nat) (status : Nat) => do
      assign "OPTIND" (toString index)
      assign name (String.singleton found)
      changeSession fun s => { s with optionPlace := place }
      return status
    let letters := if inside.isEmpty then
        match (args.getD (index - 1) "").toList with
        | ['-', '-'] => .error (index + 1)
        | '-' :: c :: cs => .ok (c :: cs, index + 1)
        | _ => .error index
      else Except.ok (inside, index)
    match letters with
    | .error index => finish index '?' none 1
    | .ok (cs, index) =>
      let c := cs.headD '?'
      let rest := cs.tail
      let place := if rest.isEmpty then none
        else some ((args.getD (index - 2) "").length - rest.length)
      let dropValue := changeSession fun s => { s with names := s.names.filter (·.1 != "OPTARG") }
      match form.letter? c with
      | none =>
        if quiet then assign "OPTARG" (String.singleton c)
        else
          complain ("Illegal option -" ++ String.singleton c ++ "\n")
          dropValue
        finish index '?' place 0
      | some false =>
        assign "OPTARG" ""
        finish index c place 0
      | some true =>
        if !rest.isEmpty then
          assign "OPTARG" (String.ofList rest)
          finish index c none 0
        else
          match args[index - 1]? with
          | some v =>
            assign "OPTARG" v
            finish (index + 1) c none 0
          | none =>
            if quiet then
              assign "OPTARG" (String.singleton c)
              finish index ':' none 0
            else
              complain ("No arg for -" ++ String.singleton c ++ " option\n")
              dropValue
              finish index '?' none 0
  | _ => giveUp "Usage: getopts optstring var [arg...]" 2

/-! ### Directories -/

/-- Changes the working directory. -/
def cd (args : List String) : Act Nat := do
  let o ← optionsOf "LP" args
  let s ← session
  let (target, shows) := match o.operands with
    | [] => ((s.value? "HOME").getD "", false)
    | "-" :: _ => ((s.value? "OLDPWD").getD "", true)
    | a :: _ => (a, false)
  let enterable := fun (path : String) => do
    match ← look path, ← placeOf path with
    | .ok .directory, .ok place => return some place
    | .ok .directory, .error _ => return some ([] : List String)
    | _, _ => return none
  let isFixed := ["/", ".", ".."].contains target ||
    ["/", "./", "../"].any fun p => p.toList.isPrefixOf target.toList
  let fronts := if isFixed then [""] else
    match s.value? "CDPATH" with
    | some t => (t.splitOn ":").map fun d => if d = "" then "" else d ++ "/"
    | none => [""]
  let found ← fronts.findSomeM? fun front => do
    let target := if target = "" then "." else target
    return (← enterable (front ++ target)).map fun place => (place, front != "")
  match found with
  | none => giveUp ("can't cd to " ++ target) 2
  | some (place, isElsewhere) =>
    changeSession fun s => s.enter place
    if shows || isElsewhere then sayLines [(← session).dirText]
    return 0

/-- Shows the working directory. -/
def pwd (args : List String) : Act Nat := do
  let _ ← optionsOf "LP" args
  emit "pwd" ((← session).dirText ++ "\n")

/-- Shows or sets the permissions that new files do not get. -/
def umask (args : List String) : Act Nat := do
  let o ← optionsOf "S" args
  let mask := (← session).mask
  match o.operands with
  | [] =>
    let allowed := 0o777 - mask.land 0o777
    let part := fun (n : Nat) => Permissions.letters (allowed / n % 8)
    if o.has 'S' then sayLines ["u=" ++ part 64 ++ ",g=" ++ part 8 ++ ",o=" ++ part 1]
    else sayLines [Permissions.octalText 4 mask]
    return 0
  | a :: _ =>
    if (a.toList.head?.map Char.isDigit).getD false then
      match Permissions.octal? a with
      | some n =>
        if n ≤ 0o777 then
          changeSession fun s => { s with mask := n }
          return 0
        else giveUp ("Illegal number: " ++ a) 2
      | none => giveUp ("Illegal number: " ++ a) 2
    else
      match Permissions.changed? 0 false a (0o777 - mask.land 0o777) with
      | some allowed =>
        changeSession fun s => { s with mask := 0o777 - allowed.land 0o777 }
        return 0
      | none => giveUp ("Illegal mode: " ++ a) 2

/-! ### Signals -/

/-- Says what is carried out for signals; without arguments, shows it. -/
def trap (args : List String) : Act Nat := do
  let o ← optionsOf "" args
  match o.operands with
  | [] =>
    let traps := (← session).traps.mergeSort fun a b => decide (a.1 ≤ b.1)
    sayLines (traps.map fun t => "trap -- " ++ reread t.2 ++ " " ++ signalName t.1)
    return 0
  | first :: rest =>
    let (action, names) := if rest.isEmpty then (none, [first])
      else if (digits? first).isSome then (none, first :: rest)
      else (if first = "-" then none else some first, rest)
    let drop := fun (n : Nat) => changeSession fun s =>
      { s with traps := s.traps.filter (·.1 != n) }
    let setAll := fun (ok : Bool) (name : String) => do
      if !ok then return false
      match signal? name with
      | none =>
        complain ("trap: " ++ name ++ ": bad trap\n")
        return false
      | some n =>
        drop n
        if let some t := action then
          changeSession fun s => { s with traps := (n, t) :: s.traps }
        return true
    return if ← names.foldlM setAll true then 0 else 1

/-- How signals are sent. -/
def killUsage : String :=
  "Usage: kill [-s sigspec | -signum | -sigspec] [pid | job]... or\nkill -l [exitstatus]"

/-- Sends a signal to processes, or shows the names of signals. -/
def kill (args : List String) : Act Nat := do
  let sendAll := fun (signal : Nat) (targets : List String) => do
    if targets.isEmpty then giveUp killUsage 2
    targets.foldlM (fun status target => do
      let process ← match target.toList with
        | '%' :: _ => giveUp ("No such job: " ++ target) 2
        | '-' :: cs => natural (String.ofList cs)
        | _ => natural target
      let around := (← session).process
      let process := if process = 0 then around else process
      if ← send signal process then return status
      else
        warn "No such process\n"
        return 1) 0
  match args with
  | [] => giveUp killUsage 2
  | a :: rest =>
    match a.toList with
    | ['-', '-'] => sendAll 15 rest
    | '-' :: c :: cs =>
      match signal? (String.ofList (c :: cs)) with
      | some n => sendAll n rest
      | none =>
        let o ← optionsOf "ls:" args
        if o.has 'l' then
          match o.operands with
          | [] =>
            sayLines ("0" :: signalNames.dropLast ++ (List.range 31).map fun i => toString (i + 34))
            return 0
          | n :: _ =>
            let number ← natural n
            let signal := if 128 < number then number - 128 else number
            if signal = 0 || lastSignal < signal then
              giveUp ("invalid signal number or exit status: " ++ n) 2
            sayLines [signalName signal]
            return 0
        else
          let name := (o.value? 's').getD ""
          match signal? name with
          | some n => sendAll n o.operands
          | none => giveUp ("invalid signal number or name: " ++ name) 2
    | _ => sendAll 15 args

/-! ### Control -/

/-- Ends the script. -/
def exitBuiltin (args : List String) : Act Nat := do
  let s ← session
  match args with
  | [] => throw (.exit (s.statusBefore.getD s.status))
  | a :: _ =>
    let n ← natural a
    throw (.exit n)

/-- Ends a function, or a script that another one reads. -/
def returnBuiltin (args : List String) : Act Nat := do
  let s ← session
  match args with
  | [] => throw (.back s.status)
  | a :: _ =>
    let n ← natural a
    throw (.back n)

/-- Ends loops, or goes on with the next round of one. -/
def endLoops (stop : Nat → Stop) (args : List String) : Act Nat := do
  let n ← match args with
    | a :: _ => natural a
    | [] => pure 1
  if n = 0 then notNumber (args.headD "")
  let n := min n (← session).loops
  if n = 0 then return 0 else throw (stop n)

/-! ### Names -/

/-- Other names of commands with one of them set; a new one comes after the others. -/
def setAlias (name text : String) : List (String × String) → List (String × String)
  | [] => [(name, text)]
  | e :: es => if e.1 == name then (name, text) :: es else e :: setAlias name text es

/-- Gives commands other names, or shows these. -/
def aliases (args : List String) : Act Nat := do
  let row := fun (a : String × String) => a.1 ++ "=" ++ reread a.2 ++ "\n"
  if args.isEmpty then
    let sorted := (← session).aliases.mergeSort fun a b =>
      decide (Session.slot a.1 ≤ Session.slot b.1)
    emit "alias" (String.join (sorted.map row))
  else
    args.foldlM (fun status a => do
      match bindingOf a with
      | (name, some text) =>
        changeSession fun s => { s with aliases := setAlias name text s.aliases }
        return status
      | (name, none) =>
        match (← session).aliases.find? (·.1 == name) with
        | some e =>
          say (row e)
          return status
        | none =>
          complain ("alias: " ++ name ++ " not found\n")
          return 1) 0

/-- Drops other names of commands. -/
def unalias (args : List String) : Act Nat := do
  let o ← optionsOf "a" args
  if o.has 'a' then
    changeSession fun s => { s with aliases := [] }
    return 0
  else
    o.operands.foldlM (fun status name => do
      if (← session).aliases.any (·.1 == name) then
        changeSession fun s => { s with aliases := s.aliases.filter (·.1 != name) }
        return status
      else
        complain ("unalias: " ++ name ++ " not found\n")
        return 1) 0

/-- The names of commands that a script carries out itself and that are not special. -/
def regularNames : List String :=
  ["[", "alias", "bg", "cd", "chdir", "command", "echo", "false", "fc", "fg", "getopts", "hash",
    "jobs", "kill", "printf", "pwd", "read", "test", "true", "type", "ulimit", "umask", "unalias",
    "wait"]

/-- The place of a program, or why there is none. -/
inductive Program where
  | found (path : String)
  /-- A file is there, and it may not be executed. -/
  | denied
  | missing
  deriving DecidableEq, Repr

/-- Whether a file at a path may be executed; nothing if there is none. -/
def executable? (path : String) : Act (Option Bool) := do
  match ← look path, ← placeOf path with
  | .ok (.file _ _), .ok place => return some (isExecutable (← files) place)
  | _, _ => return none

/-- Where the program of a name stands. -/
def programPlace (name : String) : Act Program := do
  if name.toList.contains '/' then
    match ← look name with
    | .ok .directory => return .denied
    | .ok (.file _ _) =>
      return if (← executable? name) == some true then .found name else .denied
    | .error _ => return .missing
  else
    let dirs := match (← session).value? "PATH" with
      | some t => t.splitOn ":"
      | none => []
    dirs.foldlM (fun (found : Program) dir => do
      match found with
      | .found path => return .found path
      | found =>
        let path := if dir = "" then name else dir ++ "/" ++ name
        if name = "" then return .denied
        match ← executable? path with
        | some true => return .found path
        | some false => return .denied
        | none => return found) .missing

/-- Says what a name means; `short` asks for as little as a script needs. -/
def describe (short : Bool) (name : String) : Act Nat := do
  let s ← session
  let tell := fun (brief long : String) => do
    sayLines [if short then brief else name ++ long]
    return 0
  if keywords.contains name then tell name " is a shell keyword"
  else
    match s.aliases.find? (·.1 == name) with
    | some (_, text) => tell ("alias " ++ name ++ "=" ++ reread text) (" is an alias for " ++ text)
    | none =>
      if s.functions.any (·.1 == name) then tell name " is a shell function"
      else if name != "local" && specialNames.contains name then
        tell name " is a special shell builtin"
      else if name = "local" || regularNames.contains name then tell name " is a shell builtin"
      else
        match ← programPlace name with
        | .found path =>
          if name.toList.contains '/' then tell path (" is " ++ path)
          else
            changeSession fun s => { s with known := name :: s.known }
            tell path ((if s.known.contains name then " is a tracked alias for " else " is ") ++ path)
        | _ =>
          unless short do sayLines [name ++ ": not found"]
          return 127

/-- Says what names mean. -/
def typeBuiltin (args : List String) : Act Nat :=
  args.foldlM (fun status name => do return (status ||| (← describe false name))) 0

/-- Remembers where programs stand. -/
def hash (args : List String) : Act Nat := do
  let o ← optionsOf "rv" args
  if o.has 'r' then changeSession fun s => { s with known := [] }
  if o.operands.isEmpty && !o.has 'r' then
    let known := (← session).known.reverse.eraseDups
    known.forM fun name => do
      if let .found path ← programPlace name then sayLines [path]
  o.operands.foldlM (fun status name => do
    match ← programPlace name with
    | .found _ =>
      changeSession fun s => { s with known := name :: s.known }
      return status
    | _ =>
      warn (name ++ ": not found")
      return 1) 0

/-! ### All of them -/

/-- The command of a name that the script carries out itself, and whether it is a special one. -/
def builtin? (name : String) : Option (Bool × (List String → Act Nat)) :=
  match name with
  | ":" => some (true, fun _ => return 0)
  | "true" => some (false, fun _ => return 0)
  | "false" => some (false, fun _ => return 1)
  | "[" => some (false, bracketTest)
  | "alias" => some (false, aliases)
  | "bg" | "fg" => some (false, fun _ => giveUp "No current job" 2)
  | "break" => some (true, endLoops .leave)
  | "cd" | "chdir" => some (false, cd)
  | "continue" => some (true, endLoops .again)
  | "echo" => some (false, echo)
  | "exit" => some (true, exitBuiltin)
  | "export" => some (true, markBuiltin "export" (fun v => { v with exported := true }) (·.exported))
  | "getopts" => some (false, getopts)
  | "hash" => some (false, hash)
  | "jobs" => some (false, fun _ => return 0)
  | "kill" => some (false, kill)
  | "local" => some (true, localBuiltin)
  | "printf" => some (false, printf)
  | "pwd" => some (false, pwd)
  | "read" => some (false, readBuiltin)
  | "readonly" => some (true, markBuiltin "readonly" (fun v => { v with fixed := true }) (·.fixed))
  | "return" => some (true, returnBuiltin)
  | "set" => some (true, setBuiltin)
  | "shift" => some (true, shift)
  | "test" => some (false, test)
  | "times" => some (true, fun _ => do
      sayLines ["0m0.000000s 0m0.000000s", "0m0.000000s 0m0.000000s"]
      return 0)
  | "trap" => some (true, trap)
  | "type" => some (false, typeBuiltin)
  | "ulimit" => some (false, fun args => do
      let _ ← optionsOf "HSatfdscmlpnvwr" args
      sayLines ["unlimited"]
      return 0)
  | "umask" => some (false, umask)
  | "unalias" => some (false, unalias)
  | "unset" => some (true, unset)
  | _ => none

end Conveyor.Shell
