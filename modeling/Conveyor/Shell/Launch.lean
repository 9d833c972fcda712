/-
**Programs that carry out other programs.**

Each is given the means of carrying out fields as a command; nothing comes back if there is no such
command.

Main definitions:

* `Conveyor.Shell.env`, `Conveyor.Shell.xargs`, `Conveyor.Shell.find`, `Conveyor.Shell.timeout`;
* `Conveyor.Shell.launcher?` — the program of a name that carries out others.
-/

import Conveyor.Shell.Edit

set_option autoImplicit false

namespace Conveyor.Shell

/-- The means of carrying out fields as a command. -/
abbrev Launch := List String → Act (Option Nat)

/-- Carries out fields; a command that is not there is complained about in the name of another one. -/
def launchFrom (launch : Launch) (name : String) (fields : List String) : Act Nat := do
  match ← launch fields with
  | some n => return n
  | none =>
    complain (name ++ ": " ++ curled (fields.headD "") ++ ": No such file or directory\n")
    return 127

/-- Carries out a command with other variables, or shows the variables. -/
def env (launch : Launch) (args : List String) : Act Nat := do
  let (args, clear) := match args with
    | "-" :: rest => (rest, true)
    | args => (args, false)
  match Options.readFront ⟨"i0u:C:S:v", [("ignore-environment", 'i'), ("unset", 'u')]⟩ args with
  | .error text => usage "env" text 125
  | .ok o =>
    let isSetting := fun (a : String) => (bindingOf a).2.isSome
    let (more, clear) := match o.operands with
      | "-" :: rest => (rest, true)
      | rest => (rest, clear || o.has 'i')
    let settings := more.takeWhile isSetting
    let fields := more.drop settings.length
    let before := (← session).names
    if clear then
      changeSession fun s => { s with names := s.names.map fun v =>
        (v.1, { v.2 with exported := false }) }
    (o.values 'u').forM fun name =>
      changeSession fun s => { s with names := s.names.filter (·.1 != name) }
    settings.forM fun a => do
      let (name, value) := bindingOf a
      changeSession fun s => s.change name fun _ => { value, exported := true }
    finishing
      (if fields.isEmpty then do
        sayLines ((← session).environment.map fun v => v.1 ++ "=" ++ v.2)
        return 0
      else launchFrom launch "env" fields)
      (changeSession fun s => { s with names := before })

/-- The items of a text: words, in which quotes and backslashes protect characters. -/
def itemsOf : Nat → Bool → List Char → List Char → Except String (List String)
  | 0, _, _, _ => .ok []
  | _ + 1, isOpen, acc, [] => .ok (if isOpen then [String.ofList acc.reverse] else [])
  | fuel + 1, isOpen, acc, c :: cs =>
    if c == ' ' || c == '\t' || c == '\n' then
      (itemsOf fuel false [] cs).map fun items =>
        if isOpen then String.ofList acc.reverse :: items else items
    else if c == '\'' || c == '"' then
      let inside := cs.takeWhile fun d => d != c && d != '\n'
      match cs.drop inside.length with
      | d :: rest =>
        if d == c then itemsOf fuel true (inside.reverse ++ acc) rest
        else .error (if c == '"' then "double" else "single")
      | [] => .error (if c == '"' then "double" else "single")
    else if c == '\\' then
      match cs with
      | d :: rest => itemsOf fuel true (d :: acc) rest
      | [] => itemsOf fuel true acc []
    else itemsOf fuel true (c :: acc) cs

/-- Cuts a list into parts of a length. -/
def chunks {α : Type} (size : Nat) : Nat → List α → List (List α)
  | 0, _ => []
  | _ + 1, [] => []
  | fuel + 1, x :: xs => (x :: xs).take size :: chunks size fuel ((x :: xs).drop size)

/-- Carries out a command with arguments from the input. -/
def xargs (launch : Launch) (args : List String) : Act Nat := do
  match Options.readFront ⟨"0rtxn:L:I:d:P:s:E:a:", [("null", '0'), ("no-run-if-empty", 'r'),
      ("max-args", 'n'), ("replace", 'I'), ("delimiter", 'd'), ("max-procs", 'P'),
      ("max-lines", 'L')]⟩ args with
  | .error text => usage "xargs" text 1
  | .ok o =>
    let text := textOfBytes (← takeInput)
    let cutAt := fun (s : String) =>
      let items := text.splitOn s
      if items.getLast? == some "" then items.dropLast else items
    let mark := match (o.value? 'd').map String.toList with
      | some ('\\' :: 'n' :: _) => some "\n"
      | some ('\\' :: 't' :: _) => some "\t"
      | some ('\\' :: '0' :: _) => some "\x00"
      | some (c :: _) => some (String.singleton c)
      | _ => none
    let trimmed := fun (l : String) => String.ofList (l.toList.dropWhile fun c => c == ' ' || c == '\t')
    let items : Except String (List String) := if o.has '0' then .ok (cutAt "\x00")
      else match mark with
        | some m => .ok (cutAt m)
        | none =>
          if (o.value? 'I').isSome then
            .ok (((linesOf text).map trimmed).filter (· != ""))
          else itemsOf text.length.succ false [] text.toList
    match items with
    | .error kind =>
      complain ("xargs: unmatched " ++ kind ++ " quote; by default quotes are special to xargs " ++
        "unless you use the -0 option\n")
      return 1
    | .ok items =>
      let front := if o.operands.isEmpty then ["echo"] else o.operands
      let commands := match o.value? 'I' with
        | some mark => items.map fun (item : String) =>
            front.map fun (f : String) => item.intercalate (f.splitOn mark)
        | none =>
          let size := ((o.value? 'n').or (o.value? 'L')).bind digits? |>.getD items.length
          let groups := if items.isEmpty then (if o.has 'r' then [] else [[]])
            else chunks (max 1 size) items.length.succ items
          groups.map fun g => front ++ g
      let nothing ← newChannel .nowhere
      withStreams do
        lead 0 (some nothing)
        let ended ← commands.foldlM (fun (acc : Nat × Bool) fields => do
          if acc.2 then return acc
          if o.has 't' then complain (" ".intercalate fields ++ "\n")
          match ← launch fields with
          | none =>
            complain ("xargs: " ++ fields.headD "" ++ ": No such file or directory\n")
            return (127, true)
          | some 0 => return acc
          | some 126 =>
            complain ("xargs: " ++ fields.headD "" ++ ": Permission denied\n")
            return (126, true)
          | some 255 =>
            complain ("xargs: " ++ fields.headD "" ++ ": exited with status 255; aborting\n")
            return (124, true)
          | some _ => return (123, false)) (0, false)
        return ended.1

/-! ### Finding -/

/-- What is asked of files that are found. -/
inductive Question where
  | always (b : Bool)
  /-- A pattern matches the name, or the path. -/
  | named (whole folds : Bool) (pattern : String)
  | kind (isDirectory : Bool)
  | empty
  | size (sign : Option Char) (n : Nat) (unit : Nat)
  /-- The path is written, with a character after it. -/
  | print (stop : String)
  | delete
  /-- A command is carried out for the path, or for all paths at the end. -/
  | exec (fields : List String) (atEnd : Bool)
  | prune
  | quit
  | negate (q : Question)
  | both (a b : Question)
  | either (a b : Question)
  deriving Repr, Inhabited

/-- Whether a question does something that makes writing the path unnecessary. -/
def Question.acts : Question → Bool
  | .print _ | .delete | .exec _ _ | .quit => true
  | .negate q => q.acts
  | .both a b | .either a b => a.acts || b.acts
  | _ => false

/-- The fields of a command among arguments, whether it is carried out only at the end, and the
arguments after it. -/
def execFields : List String → Option (List String × Bool × List String)
  | ";" :: rest => some ([], false, rest)
  | "\x7b\x7d" :: "+" :: rest => some ([], true, rest)
  | f :: rest => (execFields rest).map fun (fields, atEnd, rest) => (f :: fields, atEnd, rest)
  | [] => none

mutual
/-- Questions joined by `-o`. -/
def eitherFrom : Nat → List String → Except String (Question × List String)
  | 0, args => .ok (.always true, args)
  | fuel + 1, args => do
    let (a, rest) ← bothFrom fuel args
    match rest with
    | o :: rest =>
      if o = "-o" || o = "-or" then
        let (b, rest) ← eitherFrom fuel rest
        return (.either a b, rest)
      else return (a, o :: rest)
    | [] => return (a, [])

/-- Questions joined by `-a`, which may be missing. -/
def bothFrom : Nat → List String → Except String (Question × List String)
  | 0, args => .ok (.always true, args)
  | fuel + 1, args => do
    let (a, rest) ← questionFrom fuel args
    match rest with
    | [] => return (a, [])
    | o :: more =>
      if o = "-o" || o = "-or" || o = ")" then return (a, rest)
      else
        let (b, rest) ← bothFrom fuel (if o = "-a" || o = "-and" then more else rest)
        return (.both a b, rest)

/-- A single question. -/
def questionFrom : Nat → List String → Except String (Question × List String)
  | 0, args => .ok (.always true, args)
  | fuel + 1, args => do
    let value := fun (rest : List String) =>
      match rest with
      | v :: rest => Except.ok (v, rest)
      | [] => .error ("missing argument to \x60" ++ args.headD "" ++ "'")
    match args with
    | [] => return (.always true, [])
    | "!" :: rest | "-not" :: rest =>
      let (q, rest) ← questionFrom fuel rest
      return (.negate q, rest)
    | "(" :: rest =>
      let (q, rest) ← eitherFrom fuel rest
      match rest with
      | ")" :: rest => return (q, rest)
      | _ => throw "invalid expression; I was expecting to find a ')' somewhere but did not see one."
    | "-print" :: rest => return (.print "\n", rest)
    | "-print0" :: rest => return (.print "\x00", rest)
    | "-delete" :: rest => return (.delete, rest)
    | "-prune" :: rest => return (.prune, rest)
    | "-quit" :: rest => return (.quit, rest)
    | "-true" :: rest | "-depth" :: rest => return (.always true, rest)
    | "-false" :: rest => return (.always false, rest)
    | "-empty" :: rest => return (.empty, rest)
    | "-exec" :: rest =>
      match execFields rest with
      | some (fields, atEnd, rest) => return (.exec fields atEnd, rest)
      | none => throw "missing argument to \x60-exec'"
    | op :: rest =>
      let (v, after) ← match op with
        | "-name" | "-iname" | "-path" | "-wholename" | "-ipath" | "-type" | "-size" | "-maxdepth"
        | "-mindepth" => value rest
        | op => throw (if op.toList.head? == some '-' then "unknown predicate \x60" ++ op ++ "'"
            else "paths must precede expression: \x60" ++ op ++ "'")
      match op with
      | "-name" => return (.named false false v, after)
      | "-iname" => return (.named false true v, after)
      | "-path" | "-wholename" => return (.named true false v, after)
      | "-ipath" => return (.named true true v, after)
      | "-type" =>
        if v = "d" then return (.kind true, after)
        else if v = "f" then return (.kind false, after)
        else if ["l", "p", "s", "b", "c"].contains v then return (.always false, after)
        else throw ("Unknown argument to -type: " ++ v)
      | "-size" =>
        let (sign, cs) := match v.toList with
          | '+' :: cs => (some '+', cs)
          | '-' :: cs => (some '-', cs)
          | cs => (none, cs)
        let ds := cs.takeWhile Char.isDigit
        let unit := match cs.drop ds.length with
          | ['c'] => 1
          | ['k'] => 1024
          | ['M'] => 1048576
          | _ => 512
        return (.size sign ((digits? (String.ofList ds)).getD 0) unit, after)
      | _ => return (.always true, after)
end

/-- What the search has found out so far. -/
structure Search where
  /-- Whether the search does not go below the last path. -/
  pruned : Bool := false
  halted : Bool := false
  /-- The paths for which commands are carried out at the end. -/
  later : List (List String × List String) := []
  failed : Bool := false

/-- Adds a path to those for which a command is carried out. -/
def addPath (fields : List String) (path : String) :
    List (List String × List String) → List (List String × List String)
  | [] => [(fields, [path])]
  | l :: ls => if l.1 == fields then (fields, l.2 ++ [path]) :: ls else l :: addPath fields path ls

/-- The answer to a question about a path; some questions do something. -/
def answerOf (launch : Launch) (path : String) (place : List String) :
    Question → Search → Act (Bool × Search)
  | .always b, f => return (b, f)
  | .named whole folds pattern, f => do
    let text := if whole then path else
      if path.toList.all (· == '/') then "/" else baseName path ""
    let lower := fun (s : String) =>
      if folds then String.ofList (s.toList.map Char.toLower) else s
    return ((Pattern.ofText (lower pattern)).covers (lower text), f)
  | .kind isDirectory, f => do
    return (((← files).node? place == some .directory) == isDirectory, f)
  | .empty, f => do
    let t ← files
    return (match t.node? place with
      | some (.file bytes _) => bytes.isEmpty
      | _ => (t.names place).isEmpty, f)
  | .size sign n unit, f => do
    let size := match (← files).node? place with
      | some (.file bytes _) => bytes.length
      | _ => 4096
    let units := (size + unit - 1) / unit
    return (match sign with
      | some '+' => decide (n < units)
      | some _ => decide (units < n)
      | none => units == n, f)
  | .print stop, f => do
    say (path ++ stop)
    return (true, f)
  | .delete, f => do
    let t ← files
    if t.node? place == some .directory && !(t.names place).isEmpty then
      complain ("find: cannot delete " ++ curled path ++ ": Directory not empty\n")
      return (false, { f with failed := true })
    else
      changeFiles (·.remove place)
      return (true, f)
  | .exec fields false, f => do
    let filled := fields.map fun a => path.intercalate (a.splitOn "\x7b\x7d")
    match ← launch filled with
    | some n => return (n == 0, f)
    | none =>
      complain ("find: " ++ curled (filled.headD "") ++ ": No such file or directory\n")
      return (false, f)
  | .exec fields true, f =>
    return (true, { f with later := addPath fields path f.later })
  | .prune, f => return (true, { f with pruned := true })
  | .quit, f => return (true, { f with halted := true })
  | .negate q, f => do
    let (b, f) ← answerOf launch path place q f
    return (!b, f)
  | .both a b, f => do
    let (x, f) ← answerOf launch path place a f
    if x && !f.halted then answerOf launch path place b f else return (x, f)
  | .either a b, f => do
    let (x, f) ← answerOf launch path place a f
    if x || f.halted then return (x, f) else answerOf launch path place b f

/-- Asks a question about a path and those below it; with `upward`, about these first. -/
def search (launch : Launch) (q : Question) (least most : Nat) (upward : Bool) :
    Nat → Nat → String → List String → Search → Act Search
  | 0, _, _, _, f => return f
  | fuel + 1, depth, path, place, f => do
    if f.halted then return f
    let ask := fun (f : Search) => do
      if depth < least || f.halted then return f
      return (← answerOf launch path place q { f with pruned := false }).2
    let f ← if upward then pure { f with pruned := false } else ask { f with pruned := false }
    let t ← files
    let f ← if depth < most && !f.pruned && t.node? place == some .directory then
        (namesIn t place).foldlM (fun f n =>
          search launch q least most upward fuel (depth + 1) (under path n)
            (place ++ [readable n]) f) f
      else pure f
    if upward then ask f else return f

/-- The value after an option among arguments, and the arguments without both. -/
def takeValue (name : String) : List String → Option String × List String
  | [] => (none, [])
  | a :: rest =>
    if a = name then
      match rest with
      | v :: rest => (some v, rest)
      | [] => (none, [a])
    else
      let (v, others) := takeValue name rest
      (v, a :: others)

/-- Finds files, and does something with them. -/
def find (launch : Launch) (args : List String) : Act Nat := do
  let isPath := fun (a : String) =>
    a.toList.head? != some '-' && !(["(", ")", "!"].contains a)
  let paths := args.takeWhile isPath
  let rest := args.drop paths.length
  let (most, rest) := takeValue "-maxdepth" rest
  let (least, rest) := takeValue "-mindepth" rest
  match eitherFrom (4 * rest.length + 4) rest with
  | .error text =>
    complain ("find: " ++ text ++ "\n")
    return 1
  | .ok (q, _) =>
    let q := if q.acts then q else .both q (.print "\n")
    let upward := rest.contains "-delete" || rest.contains "-depth"
    let f ← (if paths.isEmpty then ["."] else paths).foldlM (fun f path => do
      match ← look path, ← placeOf path with
      | .ok _, .ok place =>
        search launch q ((least.bind digits?).getD 0) ((most.bind digits?).getD 1000) upward 1000 0
          path place f
      | .error e, _ | _, .error e =>
        complain ("find: " ++ curled path ++ ": " ++ e.text ++ "\n")
        return { f with failed := true }) ({} : Search)
    f.later.forM fun (fields, paths) => do
      let _ ← launchFrom launch "find" (fields ++ paths)
    return if f.failed then 1 else 0

/-! ### Others -/

/-- Carries out a command, and stops it after a time. -/
def timeout (launch : Launch) (args : List String) : Act Nat := do
  match Options.readFront ⟨"s:k:v", [("signal", 's'), ("kill-after", 'k')]⟩ args with
  | .error text => usage "timeout" text 125
  | .ok o =>
    match o.operands with
    | limit :: name :: rest =>
      match sleepTime? [limit] with
      | .error a => usage "timeout" ("invalid time interval " ++ curled a) 125
      | .ok limit =>
        let time := if name = "sleep" then
            match sleepTime? rest with
            | .ok n => n
            | .error _ => 0
          else 0
        if 0 < limit && limit < time then return 124
        else
          match ← launch (name :: rest) with
          | some n => return n
          | none =>
            complain ("timeout: failed to run command " ++ curled name ++
              ": No such file or directory\n")
            return 127
    | _ => usage "timeout" "missing operand" 125

/-- Carries out the command in its arguments. -/
def pass (name form : String) (launch : Launch) (args : List String) : Act Nat := do
  match Options.readFront ⟨form, []⟩ args with
  | .error text => usage name text 125
  | .ok o => launchFrom launch name o.operands

/-- The program of a name that carries out no others. -/
def program? (name : String) : Option (List String → Act Nat) :=
  match name with
  | "grep" => some (grep [])
  | "egrep" => some (grep ['E'])
  | "fgrep" => some (grep ['F'])
  | "sed" => some sed
  | name => utility? name

/-- The program of a name that carries out others. -/
def launcher? (name : String) : Option (Launch → List String → Act Nat) :=
  match name with
  | "env" => some env
  | "find" => some find
  | "nice" => some (pass "nice" "n:")
  | "nohup" => some (pass "nohup" "")
  | "setsid" => some (pass "setsid" "cfw")
  | "stdbuf" => some (pass "stdbuf" "i:o:e:")
  | "timeout" => some timeout
  | "xargs" => some xargs
  | _ => none

end Conveyor.Shell
