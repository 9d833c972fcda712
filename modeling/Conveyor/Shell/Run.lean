/-
**Carrying out scripts.**

Everything that a script does, it does to the files and the texts that it is given: nothing outside
is touched.  A script is read line by line, and each line is carried out before the next one is read.

Main definitions:

* `Conveyor.Shell.run` — carries out a script;
* `Conveyor.Shell.runText` — reads a text line by line and carries it out;
* `Conveyor.Shell.Result` — the status, the text and the files that a command leaves;
* `Conveyor.Shell.carryOut` — carries out the text of a command in a directory.
-/

import Conveyor.Fault
import Conveyor.Shell.Expand
import Conveyor.Shell.Launch

set_option autoImplicit false

namespace Conveyor.Shell

/-! ### Ends -/

/-- The status of a script that does not go on, unless something else becomes of it. -/
def Stop.status? : Stop → Option Nat
  | .exit n | .failure n | .back n => some n
  | .leave _ | .again _ => some 0
  | .killed _ | .asleep => none

/-- Ends the script if failures do that and nothing looks at this one. -/
def checked (tested : Bool) (status : Nat) : Act Nat := do
  if status ≠ 0 && !tested && (← session).has 'e' then throw (.exit status) else finish status

/-- Says that a signal killed a process. -/
def announce (signal : Option Nat) : Act Unit := do
  if let some text := signal.bind signalText then complain (text ++ "\n")

/-- How many functions may be around. -/
def deepest : Nat := 1000

/-- How a round of a loop ends. -/
inductive Round where
  /-- The loop goes on. -/
  | next (status : Nat)
  /-- The loop ends here. -/
  | over

/-- A round of a loop; what ends outer loops goes on to them. -/
def oneRound (loops : Nat) (act : Act Nat) : Act Round := do
  changeSession fun s => { s with loops := loops + 1 }
  let round ← tryCatch (.next <$> act) fun stop =>
    match stop with
    | .leave n => if n ≤ 1 then return .over else throw (.leave (n - 1))
    | .again n => if n ≤ 1 then return .next 0 else throw (.again (n - 1))
    | stop => throw stop
  changeSession fun s => { s with loops }
  return round

/-! ### Commands -/

/-- What the name of a command means. -/
inductive Meant where
  | function (body : Script)
  /-- A command that the script itself carries out; perhaps a special one. -/
  | builtin (special : Bool)
  | program

/-- The commands of the script itself that carry out others. -/
def control? (name : String) : Option Bool :=
  match name with
  | "." | "eval" | "exec" => some true
  | "command" | "wait" => some false
  | _ => none

/-- What the name of a command means. -/
def Session.meant (s : Session) (functions : Bool) (name : String) : Meant :=
  match if functions then s.functions.find? (·.1 == name) else none with
  | some (_, body) => .function body
  | none =>
    match ((builtin? name).map (·.1)).or (control? name) with
    | some special => .builtin special
    | none => .program

/-- Fields without the words that only say how the name after them is meant, and whether there are
any. -/
def withoutPrefix : List String → List String × Bool
  | "command" :: "-p" :: a :: rest => (if a = "--" then rest else a :: rest, true)
  | "command" :: "--" :: a :: rest => (a :: rest, true)
  | "command" :: "command" :: rest => withoutPrefix ("command" :: rest)
  | "command" :: a :: rest =>
    if a.toList.head? == some '-' then ("command" :: a :: rest, false) else (a :: rest, true)
  | fields => (fields, false)

/-- Whether the arguments after some fields may be assignments. -/
def declares (s : Session) (fields : List String) : Bool :=
  match withoutPrefix fields with
  | (name :: _, _) =>
    ["alias", "export", "local", "readonly"].contains name && !s.functions.any (·.1 == name)
  | ([], _) => false

/-- The variables that a script knows from the start. -/
def standingNames : List (String × Variable) :=
  [("IFS", { value := some " \t\n" }), ("OPTIND", { value := some "1" }),
    ("PATH", { value := some "/usr/local/sbin:/usr/local/bin:/usr/sbin:/usr/bin:/sbin:/bin" }),
    ("PPID", { value := some "4710" }), ("PS1", { value := some "# " }),
    ("PS2", { value := some "> " }), ("PS4", { value := some "+ " })]

/-- The session of a new script in a directory, with the variables that it gets to see. -/
def Session.new (dir : List String) (env : List (String × String)) : Session :=
  let start : Session := { dir, names := standingNames }
  let s := env.foldl (fun (s : Session) v =>
    if v.1 = "IFS" || !isName v.1 then s
    else s.change v.1 fun _ => { value := some v.2, exported := true }) start
  s.change "PWD" fun _ => { value := some s.dirText, exported := true }

/-- The session of another script that a script carries out. -/
def Session.inner (s : Session) (name : String) (arguments : List String) (options : List Char) :
    Session :=
  { Session.new s.dir s.environment with
    name, arguments, options, process := s.self, self := s.self, streams := s.streams
    traps := s.traps.filter (·.2 == ""), mask := s.mask, wakes := s.wakes }

/-- What a script is asked to carry out by its arguments. -/
structure Task where
  options : List Char := []
  /-- Whether the first operand is a text to be carried out. -/
  given : Bool := false
  operands : List String := []

/-- Reads the arguments of another script. -/
def taskOf : List Char → Bool → List String → Except String Task
  | options, given, [] => .ok { options, given }
  | options, given, a :: rest =>
    match a.toList with
    | ['-'] | ['-', '-'] => .ok { options, given, operands := rest }
    | sign :: cs =>
      if sign != '-' && sign != '+' then .ok { options, given, operands := a :: rest }
      else
        match cs.find? fun c => !(['c', 'o', 'l'].contains c) && !optionLetters.contains c with
        | some c => .error ("Illegal option -" ++ String.singleton c)
        | none =>
          let on := sign == '-'
          let set := (cs.filter optionLetters.contains).foldl (fun os c => switched on c os) options
          let given := given || cs.contains 'c'
          if !cs.contains 'o' then taskOf set given rest
          else
            match rest with
            | [] => .ok { options := set, given }
            | name :: rest =>
              match optionNames.find? (·.1 == name) with
              | some (_, c) => taskOf (switched on c set) given rest
              | none => .error ("Illegal option " ++ String.singleton sign ++ "o " ++ name)
    | [] => .ok { options, given, operands := a :: rest }

/-- Whether a program is another script that carries out texts. -/
def isShell (name : String) : Bool := ["sh", "dash", "bash"].contains name

/-- The directories in which programs stand. -/
def programDirectories : List (List String) := [["bin"], ["usr", "bin"]]

/-- The program that stands at a place, if it is one that stands there from the start. -/
def programAt? (place : List String) (bytes : List UInt8) : Option String :=
  if programDirectories.contains place.dropLast && bytes.isEmpty then place.getLast? else none

/-- The interpreter that the first line of a file names, with its arguments. -/
def interpreter? (text : String) : Option (List String) :=
  match text.toList with
  | '#' :: '!' :: cs =>
    let line := cs.takeWhile (· != '\n')
    let isGap := fun (c : Char) => c == ' ' || c == '\t'
    let line := (line.dropWhile isGap).reverse.dropWhile isGap |>.reverse
    let name := line.takeWhile fun c => !isGap c
    let rest := (line.drop name.length).dropWhile isGap
    some (String.ofList name :: if rest.isEmpty then [] else [String.ofList rest])
  | _ => none

/-! ### Scripts -/

/-- Leads streams elsewhere, one after the other; says whether that was possible. -/
def leadAll : List (Redirection String) → Act Bool
  | [] => return true
  | r :: rs => do
    match ← redirect r.stream r.direction r.target with
    | none => leadAll rs
    | some text =>
      warn text
      return false

/-- The mark in front of commands that are shown. -/
def Session.mark (s : Session) : String := (s.value? "PS4").getD ""

mutual
/-- Carries out a script.  `tested` says that its failure is looked at by what stands around it. -/
def run : Nat → Bool → Script → Act Nat
  | 0, _, _ => finish 2
  | fuel + 1, tested, script => do
    if (← session).has 'n' then return 0
    let status ← match script with
      | .nothing => pure 0
      | .seq a b => do
        let _ ← run fuel tested a
        run fuel tested b
      | .both a b => do
        let n ← run fuel true a
        if n = 0 then run fuel tested b else pure n
      | .either a b => do
        let n ← run fuel true a
        if n = 0 then pure n else run fuel tested b
      | .negate a => do
        let n ← run fuel true a
        finish (if n = 0 then 1 else 0)
      | .pipe a b => do
        let n ← runPipe fuel none (.pipe a b)
        checked tested n
      | .inside line body apart led => do
        changeSession fun s => { s with line }
        let targets ← expandTargets fuel led
        if apart then
          let (n, signal) ← forked fuel do
            if ← leadAll targets then run fuel tested body else return 2
          announce signal
          checked tested n
        else
          withStreams do
            if ← leadAll targets then run fuel tested body else checked tested 2
      | .choose test yes no => do
        let n ← run fuel true test
        finish (← run fuel tested (if n = 0 then yes else no))
      | .loop succeeds test body => do
        let loops := (← session).loops
        finish (← runLoop fuel tested loops succeeds test body 0)
      | .each line name words body => do
        changeSession fun s => { s with line }
        let fields ← expandWords fuel [] words
        let loops := (← session).loops
        finish (← runEach fuel tested loops name body 0 fields)
      | .select line value branches => do
        changeSession fun s => { s with line }
        let text ← expandText fuel .atFront value
        finish (← runBranches fuel tested text branches)
      | .define name body => do
        changeSession fun s =>
          { s with functions := (name, body) :: s.functions.filter (·.1 != name) }
        finish 0
      | .background _ a => do
        let process ← newProcess
        let nothing ← newChannel .nowhere
        let s ← session
        let t := s.fork process
        let t := { t with streams := (0, nothing) :: t.streams.filter (·.1 != 0) }
        modify fun m => { m with jobs := m.jobs ++ [(process, .planned t a)] }
        changeSession fun s => { s with lastJob := some process, jobs := process :: s.jobs }
        finish 0
      | .command line assignments words led => do
        let n ← runCommand fuel tested line assignments words led
        checked tested n
    runTraps fuel
    return status

/-- Carries out what is said for the signals that arrived. -/
def runTraps : Nat → Act Unit
  | 0 => return
  | fuel + 1 => do
    match ← takeAction with
    | none => return
    | some action =>
      let s ← session
      let status := s.statusBefore.getD s.status
      changeSession fun s => { s with statusBefore := some status }
      let _ ← runText fuel false action
      changeSession fun t => { t with status := s.status, statusBefore := s.statusBefore }
      runTraps fuel

/-- Carries out scripts that pass on what they write, each in a process of its own; `input` is the
channel from which the first one reads. -/
def runPipe : Nat → Option Nat → Script → Act Nat
  | 0, _, _ => return 2
  | fuel + 1, input, script => do
    let readsFrom := match input with
      | some n => lead 0 (some n)
      | none => return
    match script with
    | .pipe a b =>
      let n ← newChannel (.buffer [] [])
      let (_, signal) ← forked fuel do
        readsFrom
        lead 1 (some n)
        run fuel false a
      announce signal
      runPipe fuel (some n) b
    | a =>
      let (status, signal) ← forked fuel do
        readsFrom
        run fuel false a
      announce signal
      return status

/-- Carries out a script again and again; `last` is how it ended before. -/
def runLoop : Nat → Bool → Nat → Bool → Script → Script → Nat → Act Nat
  | 0, _, _, _, _, _, _ => return 2
  | fuel + 1, tested, loops, succeeds, test, body, last => do
    match ← oneRound loops (run fuel true test) with
    | .over => return 0
    | .next n =>
      if (n == 0) != succeeds then return last
      else
        match ← oneRound loops (run fuel tested body) with
        | .over => return 0
        | .next n => runLoop fuel tested loops succeeds test body n

/-- Carries out a script for each of some fields; `last` is how it ended before. -/
def runEach : Nat → Bool → Nat → String → Script → Nat → List String → Act Nat
  | 0, _, _, _, _, _, _ => return 2
  | _ + 1, _, _, _, _, last, [] => return last
  | fuel + 1, tested, loops, name, body, _, field :: fields => do
    assign name field
    match ← oneRound loops (run fuel tested body) with
    | .over => return 0
    | .next n => runEach fuel tested loops name body n fields

/-- Carries out the first script whose patterns match a text. -/
def runBranches : Nat → Bool → String → List (List Word × Script) → Act Nat
  | 0, _, _, _ => return 2
  | _ + 1, _, _, [] => return 0
  | fuel + 1, tested, text, (patterns, body) :: rest => do
    if ← matchesAny fuel text patterns then run fuel tested body
    else runBranches fuel tested text rest

/-- Whether one of some patterns matches a text. -/
def matchesAny : Nat → String → List Word → Act Bool
  | 0, _, _ => return false
  | _ + 1, _, [] => return false
  | fuel + 1, text, w :: ws => do
    let marks ← expandParts fuel false false .atFront true w
    if (Pattern.ofLetters (lettersOf marks)).covers text then return true
    else matchesAny fuel text ws

/-- Carries out a command. -/
def runCommand : Nat → Bool → Nat → List (String × Word) → List Word → Redirections → Act Nat
  | 0, _, _, _, _, _ => finish 2
  | fuel + 1, tested, line, assignments, words, led => do
    changeSession fun s => { s with line, outputStatus := 0 }
    let fields ← expandWords fuel [] words
    let (fields, isPrefixed) := withoutPrefix fields
    let meant := fields.head?.map ((← session).meant !isPrefixed)
    let special := !isPrefixed && match meant with
      | some (.builtin special) => special
      | _ => false
    let keeps := special || fields.isEmpty
    let messages ← channelOf 2
    let targets ← expandTargets fuel led
    let act := do
      unless ← leadAll targets do
        if special then throw (.failure 2)
        return ← finish 2
      let body := do
        let set ← assignAll fuel (!keeps) assignments
        if (← session).has 'x' then
          let mark := (← session).mark
          let shown := " ".intercalate (set ++ fields) ++ "\n"
          if let some n := messages then changeWorld (·.write n (bytesOfText (mark ++ shown)))
        match fields, meant with
        | name :: args, some meant => runFields fuel tested meant special name args
        | _, _ => return (← session).outputStatus
      if keeps || assignments.isEmpty then body else inFrame body
    if fields == ["exec"] then act else withStreams act

/-- Carries out the command of a name with arguments. -/
def runFields : Nat → Bool → Meant → Bool → String → List String → Act Nat
  | 0, _, _, _, _, _ => finish 2
  | fuel + 1, tested, meant, special, name, args => do
    match meant with
    | .function body =>
      let s ← session
      if deepest ≤ s.depth then
        giveUp ("Maximum function recursion depth (" ++ toString deepest ++ ") reached") 2
      changeSession fun s => { s with arguments := args, loops := 0, depth := s.depth + 1 }
      finishing
        (inFrame (tryCatch (run fuel tested body) fun stop =>
          match stop with
          | .back n => return n
          | stop => throw stop))
        (changeSession fun t =>
          { t with arguments := s.arguments, loops := s.loops, depth := s.depth })
    | .builtin _ =>
      let before := (← session).command
      changeSession fun s => { s with command := some name }
      finishing
        (tryCatch (runBuiltin fuel tested name args) fun stop =>
          match stop with
          | .failure n => if special then throw stop else return n
          | stop => throw stop)
        (changeSession fun s => { s with command := before })
    | .program =>
      match ← programPlace name with
      | .missing =>
        warn (name ++ ": not found")
        return 127
      | .denied =>
        warn (name ++ ": Permission denied")
        let known := (← session).known.contains name
        return if name.toList.contains '/' || known then 126 else 127
      | .found path =>
        unless name.toList.contains '/' do
          changeSession fun s => { s with known := name :: s.known }
        runProgram fuel name path args

/-- Carries out a command that the script itself carries out. -/
def runBuiltin : Nat → Bool → String → List String → Act Nat
  | 0, _, _, _ => finish 2
  | fuel + 1, tested, name, args => do
    match name with
    | "eval" => runText fuel tested (" ".intercalate args)
    | "." =>
      match args with
      | [] => return 0
      | a :: _ =>
        let path ← if a.toList.contains '/' then pure a else do
          let dirs := (((← session).value? "PATH").getD "").splitOn ":"
          let paths := dirs.map fun d => if d = "" then a else d ++ "/" ++ a
          match ← paths.findM? fun p => do return (← executable? p).isSome with
          | some p => pure p
          | none => giveUp (a ++ ": not found") 2
        match ← readFile path with
        | .error e => giveUp (openError true path e) 2
        | .ok text =>
          changeSession fun s => { s with command := some path }
          tryCatch (runText fuel tested text) fun stop =>
            match stop with
            | .back n => return n
            | stop => throw stop
    | "exec" =>
      match args with
      | [] => return 0
      | a :: args =>
        match ← programPlace a with
        | .missing => giveUp (a ++ ": not found") 127
        | .denied => giveUp (a ++ ": Permission denied") 126
        | .found path =>
          let n ← runProgram fuel a path args
          changeSession fun s => { s with traps := [] }
          throw (.exit n)
    | "command" =>
      let o ← optionsOf "pvV" args
      match o.operands with
      | [] => return 0
      | a :: rest =>
        if o.has 'v' || o.has 'V' then describe (o.has 'v') a
        else runFields fuel tested ((← session).meant false a) false a rest
    | "wait" => runWait fuel args
    | name =>
      match builtin? name with
      | some (_, act) => act args
      | none => return 0

/-- Waits for scripts that nobody waited for. -/
def runWait : Nat → List String → Act Nat
  | 0, _ => return 0
  | fuel + 1, args => do
    let _ ← optionsOf "" args
    runJobs fuel (← session).jobs.reverse
    match args with
    | [] =>
      changeSession fun s => { s with jobs := [] }
      return 0
    | args =>
      args.foldlM (fun _ a => do
        if a.toList.head? == some '%' then giveUp ("No such job: " ++ a) 2
        let process ← natural a
        let s ← session
        match (← get).jobs.find? fun j => j.1 == process && s.jobs.contains process with
        | some (_, .ended n signal) =>
          announce signal
          changeSession fun s => { s with jobs := s.jobs.filter (· != process) }
          return n
        | _ => return 127) 0

/-- Carries out scripts that nobody waited for, one after the other. -/
def runJobs : Nat → List Nat → Act Unit
  | 0, _ => return
  | _ + 1, [] => return
  | fuel + 1, process :: rest => do
    match (← get).jobs.find? (·.1 == process) with
    | some (_, .planned t script) =>
      let s ← session
      let set := fun (job : Job) => modify fun m =>
        { m with jobs := m.jobs.map fun j => if j.1 == process then (process, job) else j }
      set (.ended 0 none)
      changeSession fun _ => t
      let (status, signal) ← runProcess fuel (run fuel false script)
      set (.ended status signal)
      changeSession fun _ => s
      deliver
    | _ => pure ()
    runJobs fuel rest

/-- Carries out a program at a path; `name` is the one by which it was called. -/
def runProgram : Nat → String → String → List String → Act Nat
  | 0, _, _, _ => return 2
  | fuel + 1, name, path, args => do
    let place ← match ← placeOf path with
      | .ok place => pure place
      | .error _ => pure []
    let bytes := match (← files).node? place with
      | some (.file bytes _) => bytes
      | _ => []
    let launch := fun (fields : List String) => do
      match fields with
      | [] => return (some 0 : Option Nat)
      | a :: rest =>
        match ← programPlace a with
        | .found path => return some (← runProgram fuel a path rest)
        | .denied => return some 126
        | .missing => return none
    match programAt? place bytes with
    | some program =>
      if program = "sleep" then runJobs fuel (← session).jobs.reverse
      if isShell program then runShell fuel name args
      else
        match launcher? program, program? program with
        | some act, _ => act launch args
        | none, some act =>
          tryCatch (act args) fun stop =>
            match stop with
            | .failure n => return n
            | stop => throw stop
        | none, none => return 0
    | none =>
      match interpreter? (textOfBytes bytes) with
      | none => runShell fuel name (path :: args)
      | some [] => return 0
      | some (other :: more) =>
        match ← programPlace other with
        | .found found =>
          if isShell (((found.splitOn "/").getLast?).getD "") then
            runShell fuel name (more ++ path :: args)
          else runProgram fuel other found (more ++ path :: args)
        | _ =>
          warn (name ++ ": not found")
          return 127

/-- Carries out another script, as arguments ask for it. -/
def runShell : Nat → String → List String → Act Nat
  | 0, _, _ => return 2
  | fuel + 1, name, args => do
    let wrong := fun (text : String) => do
      complain (name ++ ": 0: " ++ text ++ "\n")
      return 2
    let begin_ := fun (task : Task) (own : String) (arguments : List String) (text : String) => do
      let (status, signal) ← forked fuel do
        changeSession fun s => s.inner own arguments task.options
        runText fuel false text
      announce signal
      return status
    match taskOf [] false args with
    | .error text => wrong text
    | .ok task =>
      if task.given then
        match task.operands with
        | [] => wrong "-c requires an argument"
        | text :: rest => begin_ task (rest.headD name) rest.tail text
      else
        match task.operands with
        | path :: rest =>
          if task.options.contains 's' then
            begin_ task name task.operands (textOfBytes (← takeInput))
          else
            match ← readFile path with
            | .error e => wrong (openError true path e)
            | .ok text => begin_ task path rest text
        | [] => begin_ task name [] (textOfBytes (← takeInput))

/-- What a process does, up to its end: also what it carries out there, and the scripts that nobody
waited for.  The result is its status, and the signal that killed it. -/
def runProcess : Nat → Act Nat → Act (Nat × Option Nat)
  | 0, _ => return (2, none)
  | fuel + 1, act => do
    let outcome ← tryCatch ((fun n => (n, none)) <$> act) fun stop =>
      match stop, stop.status? with
      | .killed n, _ => return (128 + n, some n)
      | _, some n => return (n, none)
      | stop, none => throw stop
    let s ← session
    let outcome ← match outcome, s.traps.find? (·.1 == 0) with
      | (status, none), some (_, action) => do
        changeSession fun s =>
          { s with traps := s.traps.filter (·.1 != 0), status, statusBefore := some status }
        tryCatch ((fun _ => (status, none)) <$> runText fuel false action) fun stop =>
          match stop, stop.status? with
          | .killed n, _ => return (128 + n, some n)
          | .back _, _ => return (status, none)
          | _, some n => return (n, none)
          | stop, none => throw stop
      | outcome, _ => pure outcome
    runJobs fuel (← session).jobs.reverse
    return outcome

/-- Does something in a process of its own; says how it ended. -/
def forked : Nat → Act Nat → Act (Nat × Option Nat)
  | 0, _ => return (2, none)
  | fuel + 1, act => do
    let s ← session
    let process ← newProcess
    changeSession (·.fork process)
    let (status, signal) ← runProcess fuel act
    changeSession fun _ => s
    deliver
    return (status % 256, signal)

/-- Carries out a text, line by line. -/
def runText : Nat → Bool → String → Act Nat
  | 0, _, _ => return 2
  | fuel + 1, tested, text => do
    let s ← session
    runSource fuel tested 0 (Source.ofText s.aliases s.texts text)

/-- Carries out what is left of a text; `status` is how the last line ended. -/
def runSource : Nat → Bool → Nat → Source → Act Nat
  | 0, _, status, _ => return status
  | fuel + 1, tested, status, source => do
    let s ← session
    match readLine?.run { source with aliases := s.aliases, texts := s.texts } with
    | .error d =>
      changeSession fun s => { s with line := d.line }
      giveUp d.message 2
    | .ok (none, _) => return status
    | .ok (some script, source) =>
      changeSession fun s => { s with texts := source.texts }
      let status ← match script with
        | .nothing => pure status
        | script => run fuel tested script
      runSource fuel tested status source

/-- The fields that words stand for, after some others. -/
def expandWords : Nat → List String → List Word → Act (List String)
  | 0, fields, _ => return fields
  | _ + 1, fields, [] => return fields
  | fuel + 1, fields, w :: ws => do
    if (Word.assignment? w).isSome && declares (← session) fields then
      let text ← expandAssignment fuel w
      expandWords fuel (fields ++ [text]) ws
    else
      let marks ← expandParts fuel true false .atFront true w
      let s ← session
      let t ← files
      let here := (fieldsOf s.separators marks).flatMap (pathsOf s t)
      expandWords fuel (fields ++ here) ws

/-- The text of a word that is an assignment. -/
def expandAssignment : Nat → Word → Act String
  | 0, _ => return ""
  | fuel + 1, w => do
    match Word.assignment? w with
    | some (name, value) => return name ++ "=" ++ (← expandText fuel .afterColons value)
    | none => expandText fuel .nowhere w

/-- The text that a word stands for, not cut. -/
def expandText : Nat → Tilde → Word → Act String
  | 0, _, _ => return ""
  | fuel + 1, tilde, w => do return marksText (← expandParts fuel false false tilde true w)

/-- The marks that the parts of a word stand for.  `splits` says that values are cut, `cuts` that the
text of the word is; `first` says that no part was there yet. -/
def expandParts : Nat → Bool → Bool → Tilde → Bool → Word → Act (List Mark)
  | 0, _, _, _, _, _ => return []
  | _ + 1, _, _, _, _, [] => return []
  | fuel + 1, splits, cuts, tilde, first, p :: ps => do
    let here ← match p with
      | .text s true => do
        match ps with
        | .value "@" .plain true :: rest =>
          let goesOn := match rest with
            | .text _ quoted :: _ | .value _ _ quoted :: _ | .output _ quoted :: _
            | .number _ quoted :: _ => quoted
            | [] => false
          if s = "" && !goesOn && splits then pure [] else pure (.quote :: marksOf true s)
        | _ => pure (.quote :: marksOf true s)
      | .text s false => do
        let session ← session
        let pieces := tildeParts session.homeOf tilde first ps.isEmpty s
        pure (pieces.flatMap fun (s, quoted) => textMarks quoted cuts s)
      | .value name use quoted => expandValue fuel splits tilde name use quoted
      | .output script quoted => do
        let n ← newChannel (.buffer [] [])
        let (status, signal) ← forked fuel do
          lead 1 (some n)
          run fuel false script
        announce signal
        changeSession fun s => { s with outputStatus := status }
        let w := (← get).world
        let bytes := (w.rest (w.channels.getD n .nowhere)).filter (· != 0)
        pure (textMarks quoted splits (dropBreaks (textOfBytes bytes)))
      | .number sum quoted => do pure (textMarks quoted splits (← expandSum fuel sum))
    if p.isFinal then return here
    return here ++ (← expandParts fuel splits cuts tilde false ps)

/-- What becomes of the value of a name. -/
def expandValue : Nat → Bool → Tilde → String → Use → Bool → Act (List Mark)
  | 0, _, _, _, _, _ => return []
  | fuel + 1, splits, tilde, name, use, quoted => do
    let s ← session
    let found := s.value? name
    let value := found.getD ""
    let plain := do return plainMarks (← session) splits name quoted
    let other := fun (w : Word) => expandParts fuel splits (splits && !quoted) (if quoted then .nowhere else tilde) true w
    let checkSet := do
      if found.isNone && s.has 'u' then giveUp (name ++ ": parameter not set") 2
    match use with
    | .plain =>
      checkSet
      plain
    | .length =>
      checkSet
      return textMarks quoted splits (toString value.length)
    | .replace how emptyToo w =>
      let isMissing := found.isNone || (emptyToo && value == "")
      match how with
      | .present => if isMissing then return [] else other w
      | .missing => if isMissing then other w else plain
      | .assign =>
        if isMissing then
          unless isName name do giveUp (name ++ ": bad variable name") 2
          let text ← expandText fuel (if quoted then .nowhere else tilde) w
          assign name text
        plain
      | .refuse =>
        if isMissing then
          let usual := "parameter not set" ++ if emptyToo then " or null" else ""
          let text ← expandText fuel .nowhere w
          giveUp (name ++ ": " ++ if w.isEmpty then usual else text) 2
        else plain
    | .trim fromEnd longest w =>
      checkSet
      let marks ← expandParts fuel false false .atFront true w
      let pattern := Pattern.ofLetters (lettersOf marks)
      return textMarks quoted splits (pattern.trim fromEnd longest value)
    | .final w =>
      checkSet
      return (← plain) ++ (← other w)
    | .faulty => giveUp "Bad substitution" 2

/-- What a sum comes to. -/
def expandSum : Nat → Word → Act String
  | 0, _ => return ""
  | fuel + 1, sum => do
    let text ← expandText fuel .nowhere sum
    let s ← session
    let look := fun (name : String) => (s.value? name).getD ""
    match Sum.parse text >>= fun a => a.value look [] with
    | .error e => giveUp (e.message text) 2
    | .ok (n, env) =>
      env.reverse.forM fun (name, value) => assign name value
      return toString n.toInt

/-- Sets variables, and gives them as they are set; `forCommand` says that they are set only for a
command, which gets to see them. -/
def assignAll : Nat → Bool → List (String × Word) → Act (List String)
  | 0, _, _ => return []
  | _ + 1, _, [] => return []
  | fuel + 1, forCommand, (name, w) :: rest => do
    let text ← expandText fuel .afterColons w
    if forCommand then remember name
    assign name text
    if forCommand then changeSession fun s => s.change name fun v => { v with exported := true }
    return (name ++ "=" ++ text) :: (← assignAll fuel forCommand rest)

/-- The targets of streams that are led elsewhere. -/
def expandTargets : Nat → Redirections → Act (List (Redirection String))
  | 0, _ => return []
  | _ + 1, [] => return []
  | fuel + 1, r :: rs => do
    let target ← match r.direction with
      | .here number => do
        let word := (← session).texts.getD number []
        expandText fuel .nowhere word
      | _ => expandText fuel .atFront r.target
    if r.direction == .duplicate && target != "-" then
      unless target.length = 1 && (digits? target).isSome do
        giveUp (Defect.message ⟨0, .badNumber⟩) 2
    return ⟨r.stream, r.direction, target⟩ :: (← expandTargets fuel rs)
end

/-! ### Commands -/

/-- What a command leaves: a status, which is negative for a signal, a text, and the files. -/
structure Result where
  status : Int
  output : String
  files : FileTree
  /-- Whether the command would sleep, and nobody wakes it. -/
  asleep : Bool := false

/-- The surroundings of commands. -/
structure Surroundings where
  files : FileTree
  /-- The place that relative paths are seen from. -/
  home : List String
  env : List (String × String) := []
  wakes : Bool := true

/-- The variables that surroundings have when nothing else is said. -/
def usualEnv : List (String × String) :=
  [("HOME", "/root"), ("PATH", "/usr/local/bin:/usr/bin:/bin")]

/-- Whether a text can be handed to another process. -/
def isClean (s : String) : Bool := !s.toList.contains '\x00'

/-- How many steps a command may take. -/
def patience : Nat := 1000000

/-- The fault of a directory that cannot be the working directory. -/
def refusal (dir : String) (e : FileError) : Fault :=
  .outside (match e with
    | .notDirectory => "NotADirectoryError"
    | _ => "FileNotFoundError") (e.message dir)

/-- The names of programs. -/
def programNames : List String :=
  ["sh", "dash", "bash", "[", "base64", "basename", "cat", "chmod", "cmp", "comm", "cp", "cut",
    "dirname", "echo", "egrep", "env", "expr", "false", "fgrep", "find", "fold", "grep", "head", "id",
    "ln", "ls", "mkdir", "mv", "nice", "nl", "nohup", "od", "paste", "printenv", "printf", "pwd",
    "readlink", "realpath", "rev", "rm", "rmdir", "sed", "seq", "setsid", "sleep", "sort", "stat",
    "stdbuf", "sync", "tac", "tail", "tee", "test", "timeout", "touch", "tr", "true", "truncate", "tty",
    "uname", "uniq", "unlink", "wc", "which", "whoami", "xargs", "yes"]

/-- The directories and files that are there from the start. -/
def standing : List (List String × FileNode) :=
  let directories := [["bin"], ["dev"], ["etc"], ["home"], ["lib"], ["opt"], ["proc"], ["root"],
    ["run"], ["sbin"], ["srv"], ["sys"], ["tmp"], ["usr"], ["var"], ["usr", "bin"], ["usr", "lib"],
    ["usr", "local"], ["usr", "local", "bin"], ["usr", "sbin"], ["usr", "share"], ["var", "tmp"]]
  let devices := ["null", "zero", "stdin", "stdout", "stderr"].map fun n => ["dev", n]
  let programs := programDirectories.flatMap fun d => programNames.map fun n => d ++ [n]
  directories.map (fun p => (p, .directory)) ++
    (devices ++ programs ++ [["etc", "passwd"]]).map fun p => (p, FileNode.file [] 0)

/-- Files with those that are there from the start. -/
def withStanding (t : FileTree) : FileTree :=
  let added := standing.filter fun e => (t.node? e.1).isNone
  let programs := added.filter fun e => programDirectories.contains e.1.dropLast
  { nodes := t.nodes ++ added, modes := t.modes ++ programs.map fun e => (e.1, 0o755) }

/-- Files without those that were there from the start and not in the given ones. -/
def withoutStanding (given t : FileTree) : FileTree :=
  let added := (standing.filter fun e => (given.node? e.1).isNone).map (·.1)
  { nodes := t.nodes.filter fun e => !added.contains e.1
    modes := t.modes.filter fun e => !added.contains e.1 }

/-- Carries out the text of a command in a directory. -/
def carryOut (c : Surroundings) (command dir : String) : Except Fault Result := do
  unless isClean command && isClean dir && c.env.all fun v => isClean v.2 do
    throw (.value "embedded null byte")
  if dir = "" then throw (refusal dir .notFound)
  let path := (Path.mk "/" c.home).join (Path.ofText dir)
  let files := withStanding c.files
  let place ← match files.find path, files.locate path with
    | .ok .directory, .ok place => pure place
    | .ok (.file _ _), _ => throw (refusal dir .notDirectory)
    | .error e, _ | _, .error e => throw (refusal dir e)
  let session := { Session.new place (c.env.map fun v => (rawText v.1, rawText v.2)) with
    wakes := c.wakes }
  let act := runProcess patience (runText patience false (rawText command))
  let (outcome, m) := act.run.run { session, world := { files } }
  let status : Int := match outcome with
    | .ok (_, some signal) => -signal
    | .ok (n, none) => n % 256
    | .error _ => 0
  let output := Text.decodeLossy (m.world.rest (m.world.channels.getD 0 .nowhere))
  return { status, output, files := withoutStanding c.files m.world.files
           asleep := outcome matches .error .asleep }

end Conveyor.Shell
