/-
**Commands that work on files.**

Main definitions:

* `Conveyor.Shell.ls`, `Conveyor.Shell.rm`, `Conveyor.Shell.mkdir`, `Conveyor.Shell.copyOrMove` and
  others — commands that show, make, copy and remove files;
* `Conveyor.Shell.expr` — what a row of arguments comes to;
* `Conveyor.Shell.sleepTime?` — how long a command sleeps.
-/

import Conveyor.Shell.Builtin
import Conveyor.Shell.Filter
import Conveyor.Shell.Regex

set_option autoImplicit false

namespace Conveyor.Shell

/-- Complains in the name of a command, and fails. -/
def fail (name text : String) : Act Nat := do
  complain (name ++ ": " ++ text ++ "\n")
  return 1

/-- The names in a directory, as texts of bytes in their order. -/
def namesIn (t : FileTree) (place : List String) : List String :=
  ((t.names place).map rawText).mergeSort fun a b => decide (a ≤ b)

/-- A path with one more part. -/
def under (path name : String) : String :=
  if path.toList.getLast? == some '/' then path ++ name else path ++ "/" ++ name

/-! ### Showing -/

/-- A name with the mark of what stands there. -/
def marked (o : Options) (t : FileTree) (place : List String) (name : String) : String :=
  match t.node? place with
  | some .directory => if o.has 'F' || o.has 'p' then name ++ "/" else name
  | _ => if o.has 'F' && isExecutable t place then name ++ "*" else name

/-- Names in a row, or one in each line. -/
def nameRows (o : Options) (names : List String) : String :=
  let names := if o.has 'r' then names.reverse else names
  if o.has 'm' then (if names.isEmpty then "" else ", ".intercalate names ++ "\n")
  else String.join (names.map (· ++ "\n"))

/-- The letters of permissions, as they are shown for a node. -/
def modeText (isDirectory : Bool) (mode : Nat) : String :=
  let part := fun (n : Nat) => String.ofList ((['r', 'w', 'x'].zip [4, 2, 1]).map fun (c, b) =>
    if n / b % 2 = 1 then c else '-')
  (if isDirectory then "d" else "-") ++ part (mode / 64 % 8) ++ part (mode / 8 % 8) ++ part (mode % 8)

/-- How much room a node takes, in bytes and in blocks. -/
def sizeOf (t : FileTree) (place : List String) : Nat × Nat :=
  match t.node? place with
  | some (.file bytes _) => (bytes.length, (bytes.length + 4095) / 4096 * 4)
  | _ => (4096, 4)

/-- Names with what else is known about them, in columns. -/
def longRows (t : FileTree) (rows : List (String × List String)) : List String :=
  let links := fun (place : List String) =>
    if t.node? place == some .directory then
      2 + ((t.names place).filter fun n => t.node? (place ++ [n]) == some .directory).length
    else 1
  let width := fun (f : List String → Nat) =>
    rows.foldl (fun w r => max w (toString (f r.2)).length) 0
  let sizes := width fun p => (sizeOf t p).1
  let linkWidth := width links
  rows.map fun (name, place) =>
    let isDirectory := t.node? place == some .directory
    " ".intercalate [modeText isDirectory (t.mode place), column linkWidth (links place), "root root",
      column sizes (sizeOf t place).1, "Jan  1 00:00", name]

/-- The names in a directory, as `ls` shows them. -/
def listed (o : Options) (t : FileTree) (place : List String) : String :=
  let all := namesIn t place
  let shown := all.filter fun n => o.has 'a' || o.has 'A' || n.toList.head? != some '.'
  let points := if o.has 'a' then
    [(".", place), ("..", place.dropLast)].map fun (n, p) =>
      (if o.has 'F' || o.has 'p' then n ++ "/" else n, p) else []
  let rows := points ++ shown.map fun n =>
    (marked o t (place ++ [readable n]) n, place ++ [readable n])
  if o.has 'l' then
    let total := rows.foldl (fun n r => n + (sizeOf t r.2).2) 0
    "total " ++ toString total ++ "\n" ++ nameRows o (longRows t rows)
  else nameRows o (rows.map (·.1))

/-- The directories in a directory and below it, with the paths by which they are named. -/
def below (t : FileTree) : Nat → String → List String → List (String × List String)
  | 0, path, place => [(path, place)]
  | fuel + 1, path, place =>
    let inside := (namesIn t place).filter fun n =>
      n.toList.head? != some '.' && t.node? (place ++ [readable n]) == some .directory
    (path, place) :: inside.flatMap fun n => below t fuel (under path n) (place ++ [readable n])

/-- Shows files and what directories hold. -/
def ls (args : List String) : Act Nat :=
  let form : OptionForm := ⟨"1aACdfFghiklmnopqrRsStuUvwxXZ", [("all", 'a'), ("almost-all", 'A'),
    ("directory", 'd'), ("reverse", 'r'), ("recursive", 'R'), ("classify", 'F')]⟩
  withOptions "ls" form 2 args fun o => do
    let paths := if o.operands.isEmpty then ["."] else o.operands
    let paths := paths.mergeSort fun a b => decide (a ≤ b)
    let status ← eachOf 2 o.operands fun path => do
      match ← look path with
      | .ok _ => return none
      | .error e => return some ("ls: cannot access " ++ quotedName path ++ ": " ++ e.text)
    let t ← files
    let found ← paths.filterMapM fun path => do
      match ← look path, ← placeOf path with
      | .ok n, .ok place => return some (path, n, place)
      | .ok n, .error _ => return some (path, n, ([] : List String))
      | _, _ => return none
    let isShown := fun (n : FileNode) => n != .directory || o.has 'd'
    let single := found.filter fun e => isShown e.2.1
    let directories := found.filter fun e => !isShown e.2.1
    let directories := directories.flatMap fun (path, _, place) =>
      if o.has 'R' then below t 1000 path place else [(path, place)]
    let directories := if o.has 'r' && !o.has 'R' then directories.reverse else directories
    let singleRows := single.map fun (path, _, place) => (marked o t place path, place)
    let first := nameRows o (if o.has 'l' then longRows t singleRows else singleRows.map (·.1))
    let titled := 1 < paths.length || o.has 'R'
    let rest := directories.map fun (path, place) =>
      (if titled then path ++ ":\n" else "") ++ listed o t place
    say ("\n".intercalate ((if single.isEmpty then [] else [first]) ++ rest))
    return status

/-- What a letter of a format tells about a node. -/
def nodeFact (t : FileTree) (path : String) (place : List String) (n : FileNode) (c : Char) : String :=
  let mode := t.mode place
  let size := match n with
    | .file bytes _ => bytes.length
    | .directory => 4096
  match c with
  | 'a' => Permissions.octalText 1 mode
  | 'A' => modeText (n == .directory) mode
  | 'n' => path
  | 'N' => quotedName path
  | 's' => toString size
  | 'F' => match n with
    | .directory => "directory"
    | .file [] _ => "regular empty file"
    | .file _ _ => "regular file"
  | 'u' | 'g' => "0"
  | 'U' | 'G' => "root"
  | 'h' => if n == .directory then "2" else "1"
  | c => String.singleton c

/-- A format with facts about a node. -/
def factsFrom (fact : Char → String) : List Char → String
  | '%' :: c :: cs => fact c ++ factsFrom fact cs
  | c :: cs => String.singleton c ++ factsFrom fact cs
  | [] => ""

/-- Tells facts about files. -/
def stat (args : List String) : Act Nat :=
  withOptions "stat" ⟨"c:Lft", [("format", 'c'), ("dereference", 'L')]⟩ 1 args fun o => do
    if o.operands.isEmpty then usage "stat" "missing operand" 1
    else
      eachOf 1 o.operands fun path => do
        match ← look path, ← placeOf path with
        | .ok n, .ok place =>
          let t ← files
          say (factsFrom (nodeFact t path place n) ((o.value? 'c').getD "%n").toList ++ "\n")
          return none
        | .error e, _ | _, .error e =>
          return some ("stat: cannot statx " ++ quotedName path ++ ": " ++ e.text)

/-! ### Making and removing -/

/-- Whether the last part of a path is a point or two. -/
def endsInPoints (path : String) : Bool :=
  let last := ((path.splitOn "/").filter (· != "")).getLastD ""
  last = "." || last = ".."

/-- Removes files, and with an option directories. -/
def rm (args : List String) : Act Nat :=
  let form : OptionForm := ⟨"dfiIrRv", [("force", 'f'), ("recursive", 'r'), ("verbose", 'v'),
    ("dir", 'd')]⟩
  withOptions "rm" form 1 args fun o => do
    let deep := o.has 'r' || o.has 'R'
    if o.operands.isEmpty && !o.has 'f' then return ← usage "rm" "missing operand" 1
    eachOf 1 o.operands fun path => do
      let failure := fun (text : String) => some ("rm: cannot remove " ++ quotedName path ++ ": " ++ text)
      match ← look path, ← placeOf path with
      | .ok .directory, .ok place =>
        if !deep && !o.has 'd' then return failure "Is a directory"
        else if endsInPoints path then
          return some ("rm: refusing to remove '.' or '..' directory: skipping " ++ quotedName path)
        else if !deep && !((← files).names place).isEmpty then return failure "Directory not empty"
        else
          changeFiles (·.remove place)
          if o.has 'v' then sayLines ["removed directory " ++ quotedName path]
          return none
      | .ok _, .ok place =>
        changeFiles (·.remove place)
        if o.has 'v' then sayLines ["removed " ++ quotedName path]
        return none
      | .ok _, .error _ => return failure "Is a directory"
      | .error .notFound, _ => return if o.has 'f' then none else failure FileError.notFound.text
      | .error e, _ => return failure e.text

/-- Makes a directory and those above it, one after the other; the texts are paths as they are named. -/
def makeAll (shows : Bool) : List String → Act (Option String)
  | [] => return none
  | path :: rest => do
    let failure := fun (text : String) =>
      some ("mkdir: cannot create directory " ++ curled path ++ ": " ++ text)
    match ← look path, ← placeOf path with
    | .ok .directory, _ => makeAll shows rest
    | .ok _, _ => return failure (if rest.isEmpty then "File exists" else "Not a directory")
    | .error _, .ok place =>
      makeDirectoryAt place
      if shows then sayLines ["mkdir: created directory " ++ quotedName path]
      makeAll shows rest
    | .error _, .error e => return failure e.text

/-- The path up to each of its parts. -/
def fronts (path : String) : List String :=
  let pieces := path.splitOn "/"
  let ends := (List.range pieces.length).filter fun i => pieces.getD i "" != ""
  ends.map fun i => "/".intercalate (pieces.take (i + 1))

/-- Makes directories, and with an option those above them. -/
def mkdir (args : List String) : Act Nat :=
  let form : OptionForm := ⟨"m:pvZ", [("parents", 'p'), ("mode", 'm'), ("verbose", 'v')]⟩
  withOptions "mkdir" form 1 args fun o => do
    if o.operands.isEmpty then return ← usage "mkdir" "missing operand" 1
    let shows := o.has 'v'
    let setMode := fun (path : String) => do
      match o.value? 'm', ← placeOf path with
      | some m, .ok place =>
        changeFiles fun t => t.setMode place ((Permissions.changed? 0 true m 0o777).getD 0o755)
      | _, _ => pure ()
    eachOf 1 o.operands fun path => do
      let failure := fun (text : String) =>
        some ("mkdir: cannot create directory " ++ curled path ++ ": " ++ text)
      if o.has 'p' && path != "" then
        let failed ← makeAll shows (fronts path)
        if failed.isNone then setMode path
        return failed
      else
        let bare := String.ofList (path.toList.reverse.dropWhile (· == '/')).reverse
        match ← look path, ← placeOf bare with
        | .ok _, _ | .error .notDirectory, .ok _ => return failure "File exists"
        | .error _, .ok place =>
          makeDirectoryAt place
          if shows then sayLines ["mkdir: created directory " ++ quotedName path]
          setMode path
          return none
        | .error _, .error e => return failure e.text

/-- Removes directories that are empty. -/
def rmdir (args : List String) : Act Nat :=
  let form : OptionForm := ⟨"pvi", [("parents", 'p'), ("verbose", 'v'),
    ("ignore-fail-on-non-empty", 'i')]⟩
  withOptions "rmdir" form 1 args fun o => do
    if o.operands.isEmpty then return ← usage "rmdir" "missing operand" 1
    let paths := o.operands.flatMap fun path => if o.has 'p' then (fronts path).reverse else [path]
    eachOf 1 paths fun path => do
      let failure := fun (text : String) =>
        some ("rmdir: failed to remove " ++ quotedName path ++ ": " ++ text)
      if o.has 'v' then sayLines ["rmdir: removing directory, " ++ quotedName path]
      match ← look path, ← placeOf path with
      | .ok .directory, .ok place =>
        if path = "." then return failure "Invalid argument"
        else if !((← files).names place).isEmpty then
          return if o.has 'i' then none else failure "Directory not empty"
        else
          changeFiles (·.remove place)
          return none
      | .ok _, _ => return failure FileError.notDirectory.text
      | .error e, _ => return failure e.text

/-- Makes files that are not there. -/
def touch (args : List String) : Act Nat :=
  withOptions "touch" ⟨"acd:fhmr:t:", [("no-create", 'c'), ("date", 'd'), ("reference", 'r')]⟩ 1 args
    fun o => do
    if o.operands.isEmpty then return ← usage "touch" "missing file operand" 1
    eachOf 1 o.operands fun path => do
      let failure := fun (e : FileError) =>
        some ("touch: cannot touch " ++ quotedName path ++ ": " ++ e.text)
      match ← look path, ← placeOf path with
      | .ok _, _ => return none
      | .error .notFound, .ok place =>
        if o.has 'c' then return none
        else if path.toList.getLast? == some '/' then
          return some ("touch: setting times of " ++ quotedName path ++ ": " ++
            FileError.notFound.text)
        else
          writeFile place ""
          return none
      | .error e, .ok _ => return failure e
      | .error _, .error e => return if o.has 'c' then none else failure e

/-- Changes the permissions of files. -/
def chmod (args : List String) : Act Nat := do
  let isMode := fun (a : String) => match a.toList with
    | '-' :: c :: _ => "rwxXst".toList.contains c
    | _ => false
  let (flags, rest) := match args.findIdx? isMode with
    | some i => (args.take i, "--" :: args.drop i)
    | none => (args, [])
  let form : OptionForm := ⟨"Rvcf", [("recursive", 'R'), ("verbose", 'v'), ("silent", 'f')]⟩
  withOptions "chmod" form 1 (flags ++ rest) fun o => do
    match o.operands with
    | [] => usage "chmod" "missing operand" 1
    | [m] => usage "chmod" ("missing operand after " ++ curled m) 1
    | m :: paths =>
      let mask := (← session).mask
      if (Permissions.changed? mask false m 0).isNone then
        usage "chmod" ("invalid mode: " ++ curled m) 1
      else
        eachOf 1 paths fun path => do
          match ← look path, ← placeOf path with
          | .ok _, .ok place =>
            let t ← files
            let all := if o.has 'R' then
                (t.nodes.map (·.1)).filter fun p => place.isPrefixOf p
              else [place]
            all.forM fun p => do
              let isDirectory := t.node? p == some .directory
              let old := t.mode p
              let new := (Permissions.changed? mask isDirectory m old).getD old
              changeFiles fun t => t.setMode p new
              if o.has 'v' then
                let shown := fun (n : Nat) => Permissions.octalText 4 n ++ " (" ++
                  String.ofList (modeText isDirectory n).toList.tail ++ ")"
                let name := quotedName path
                sayLines [if old = new then "mode of " ++ name ++ " retained as " ++ shown old
                  else "mode of " ++ name ++ " changed from " ++ shown old ++ " to " ++ shown new]
            return none
          | .ok _, .error _ => return none
          | .error e, _ =>
            return some ("chmod: cannot access " ++ quotedName path ++ ": " ++ e.text)

/-! ### Copying and moving -/

/-- A tree with what stands at a place, and below it, also at another one. -/
def copied (t : FileTree) (old new : List String) : FileTree :=
  (t.nodes.filter fun e => old.isPrefixOf e.1).foldl (fun u e =>
    let place := new ++ e.1.drop old.length
    match u.node? place, e.2 with
    | some .directory, .directory => u
    | _, _ =>
      let u := u.put place e.2
      if t.mode e.1 == u.mode place then u else u.setMode place (t.mode e.1)) t

/-- A tree with what stands at a place, and below it, at another one. -/
def moved (t : FileTree) (old new : List String) : FileTree :=
  let t := t.remove new
  let change := fun (p : List String) =>
    if old.isPrefixOf p then new ++ p.drop old.length else p
  { nodes := t.nodes.map fun e => (change e.1, e.2), modes := t.modes.map fun e => (change e.1, e.2) }

/-- The path without slashes at its end. -/
def bareEnd (path : String) : String :=
  match path.toList.reverse.dropWhile (· == '/') with
  | [] => path
  | cs => String.ofList cs.reverse

/-- The lines that tell what is copied, from a directory down. -/
def copyLines (t : FileTree) (old new : List String) (from_ target : String) : List String :=
  let row := fun (a b : String) => quotedName a ++ " -> " ++ quotedName b
  let inside := (t.nodes.filter fun e => old.isPrefixOf e.1 && e.1 != old && !new.isPrefixOf e.1).map
    fun e => "/".intercalate (e.1.drop old.length)
  row from_ target :: ((inside.mergeSort fun a b => decide (a ≤ b)).map fun p =>
    row (under from_ (rawText p)) (under target (rawText p)))

/-- Copies or moves one file to a target that is named, and says why that fails. -/
def transfer (moves : Bool) (o : Options) (source target : String) : Act (Option String) := do
  let name := if moves then "mv" else "cp"
  let deep := o.has 'r' || o.has 'R' || o.has 'a'
  let failure := fun (text : String) => some (name ++ ": " ++ text)
  let bare := bareEnd target
  match ← look source, ← placeOf source with
  | .error e, _ | _, .error e => return failure ("cannot stat " ++ quotedName source ++ ": " ++ e.text)
  | .ok node, .ok old =>
    let isDirectory := node == .directory
    if isDirectory && !moves && !deep then
      return failure ("-r not specified; omitting directory " ++ quotedName source)
    match ← placeOf bare with
    | .error e =>
      return failure (if moves then "cannot move " ++ quotedName source ++ " to " ++
          quotedName target ++ ": " ++ e.text
        else if isDirectory then "cannot create directory " ++ quotedName target ++ ": " ++ e.text
        else "cannot create regular file " ++ quotedName target ++ ": " ++ e.text)
    | .ok new =>
      let t ← files
      let there := t.node? new
      if old == new then
        return failure (if moves && isDirectory then "cannot move " ++ quotedName source ++
            " to a subdirectory of itself, " ++ quotedName (under target (old.getLastD ""))
          else quotedName source ++ " and " ++ quotedName target ++ " are the same file")
      else if isDirectory && old.isPrefixOf new then
        return failure (if moves then "cannot move " ++ quotedName source ++
            " to a subdirectory of itself, " ++ quotedName target
          else "cannot copy a directory, " ++ quotedName source ++ ", into itself, " ++
            quotedName target)
      else if isDirectory && there.any (· != .directory) then
        return failure ("cannot overwrite non-directory " ++ quotedName target ++ " with directory " ++
          quotedName source)
      else if !isDirectory && there == some .directory then
        return failure ("cannot overwrite directory " ++ quotedName target ++ " with non-directory")
      else if !isDirectory && bare != target then
        return failure (if moves then "cannot move " ++ quotedName source ++ " to " ++
            quotedName target ++ ": Not a directory"
          else "cannot create regular file " ++ quotedName target ++ ": Not a directory")
      else if moves && isDirectory && there == some .directory && !(t.names new).isEmpty then
        return failure ("cannot overwrite " ++ quotedName target ++ ": Directory not empty")
      else if o.has 'n' && there.isSome then
        return if moves then failure ("not replacing " ++ quotedName target) else none
      else
        if o.has 'v' then
          sayLines (if moves then
              ["renamed " ++ quotedName source ++ " -> " ++ quotedName target]
            else copyLines t old new source target)
        changeFiles fun t => if moves then moved t old new else copied t old new
        return none

/-- Copies or moves files. -/
def copyOrMove (moves : Bool) (args : List String) : Act Nat :=
  let name := if moves then "mv" else "cp"
  let form : OptionForm := ⟨if moves then "fint:Tuv" else "adfHiLnPprRst:Tuvx",
    [("recursive", 'r'), ("force", 'f'), ("no-clobber", 'n'), ("verbose", 'v'), ("archive", 'a'),
      ("target-directory", 't'), ("no-target-directory", 'T')]⟩
  withOptions name form 1 args fun o => do
    let (sources, target) := match o.value? 't' with
      | some t => (o.operands, t)
      | none => (o.operands.dropLast, o.operands.getLastD "")
    if o.operands.isEmpty then return ← usage name "missing file operand" 1
    if sources.isEmpty then
      return ← usage name ("missing destination file operand after " ++ quotedName target) 1
    if o.has 'n' && !moves then
      complain ("cp: warning: behavior of -n is non-portable and may change in future; " ++
        "use --update=none instead\n")
    let isDirectory ← match ← look target with
      | .ok .directory => pure !(o.has 'T')
      | found =>
        if 1 < sources.length || o.has 't' then
          let text := match found with
            | .error e => e.text
            | .ok _ => FileError.notDirectory.text
          return ← fail name ("target " ++ quotedName target ++ ": " ++ text)
        else pure false
    eachOf 1 sources fun source =>
      transfer moves o source
        (if isDirectory then under target (((bareEnd source).splitOn "/").getLastD "") else target)

/-- Makes another name for a file; the two go their own ways when one of them is written anew. -/
def ln (args : List String) : Act Nat :=
  withOptions "ln" ⟨"sfnvT", [("symbolic", 's'), ("force", 'f')]⟩ 1 args fun o => do
    match o.operands with
    | [] => usage "ln" "missing file operand" 1
    | [a, b] =>
      match ← look a, ← placeOf a, ← placeOf b with
      | .error e, _, _ | .ok _, .error e, _ =>
        fail "ln" ("failed to access " ++ quotedName a ++ ": " ++ e.text)
      | .ok .directory, _, _ =>
        fail "ln" (quotedName a ++ ": hard link not allowed for directory")
      | .ok _, .ok _, .error e =>
        fail "ln" ("failed to create hard link " ++ quotedName b ++ ": " ++ e.text)
      | .ok _, .ok old, .ok new =>
        let t ← files
        let new := if t.node? new == some .directory then new ++ [old.getLastD ""] else new
        if (t.node? new).isSome && !o.has 'f' then
          fail "ln" ("failed to create hard link " ++ quotedName b ++ ": File exists")
        else
          changeFiles fun t => copied t old new
          return 0
    | _ => return 1

/-! ### Paths -/

/-- The last part of a path, without an ending. -/
def baseName (path ending : String) : String :=
  let bare := bareEnd path
  let last := if bare.toList.all (· == '/') then (if bare = "" then "" else "/")
    else (bare.splitOn "/").getLastD ""
  let cs := last.toList
  let es := ending.toList
  if es.isSuffixOf cs && cs.length != es.length then String.ofList (cs.take (cs.length - es.length))
  else last

/-- A path without its last part. -/
def dirName (path : String) : String :=
  let cs := (bareEnd path).toList.reverse
  let front := (cs.dropWhile (· != '/'))
  if front.isEmpty then (if path.toList.head? == some '/' then "/" else ".")
  else
    match front.dropWhile (· == '/') with
    | [] => "/"
    | rest => String.ofList rest.reverse

/-- Shows the last parts of paths. -/
def basename (args : List String) : Act Nat := do
  match Options.readFront ⟨"as:z", [("multiple", 'a'), ("suffix", 's'), ("zero", 'z')]⟩ args with
  | .error text => usage "basename" text 1
  | .ok o =>
    let stop := if o.has 'z' then "\x00" else "\n"
    let many := o.has 'a' || o.has 's'
    match o.operands with
    | [] => usage "basename" "missing operand" 1
    | _ :: _ :: extra :: _ =>
      if many then
        say (String.join (o.operands.map fun p => baseName p ((o.value? 's').getD "") ++ stop))
        return 0
      else usage "basename" ("extra operand " ++ curled extra) 1
    | path :: rest =>
      let names := if many then o.operands.map fun p => baseName p ((o.value? 's').getD "")
        else [baseName path (rest.headD "")]
      say (String.join (names.map (· ++ stop)))
      return 0

/-- Shows paths without their last parts. -/
def dirname (args : List String) : Act Nat := do
  match Options.readFront ⟨"z", [("zero", 'z')]⟩ args with
  | .error text => usage "dirname" text 1
  | .ok o =>
    if o.operands.isEmpty then usage "dirname" "missing operand" 1
    else
      sayLines (o.operands.map dirName)
      return 0

/-- Shows paths from the root on. -/
def realpath (name : String) (args : List String) : Act Nat :=
  withOptions name ⟨"efmnqsz", []⟩ 1 args fun o => do
    if o.operands.isEmpty then return ← usage name "missing operand" 1
    if name = "readlink" && !(o.has 'f' || o.has 'e' || o.has 'm') then return 1
    eachOf 1 o.operands fun path => do
      let found ← placeOf path
      let there := (← look path).isOk
      match found with
      | .ok place =>
        if o.has 'e' && !there then return some (aboutFile name path FileError.notFound.text)
        else
          sayLines [rawText ("/" ++ "/".intercalate place)]
          return none
      | .error e => return some (aboutFile name path e.text)

/-- Shows where programs stand. -/
def which (args : List String) : Act Nat :=
  args.foldlM (fun status name => do
    match ← programPlace name with
    | .found path =>
      sayLines [path]
      return status
    | _ => return 1) (if args.isEmpty then 1 else 0)

/-! ### Comparing -/

/-- The first place where two texts differ, with the lines before it. -/
def firstDifference : Nat → Nat → List Char → List Char → Option (Nat × Nat)
  | n, l, a :: as, b :: bs =>
    if a == b then firstDifference (n + 1) (if a == '\n' then l + 1 else l) as bs else some (n, l)
  | _, _, _, _ => none

/-- Says where two files differ. -/
def cmp (args : List String) : Act Nat :=
  withOptions "cmp" ⟨"slb", [("silent", 's'), ("quiet", 's')]⟩ 2 args fun o => do
    let a := o.operands.headD "-"
    let b := o.operands.getD 1 "-"
    match ← readSource a, ← readSource b with
    | .error e, _ =>
      unless o.has 's' do complain ("cmp: " ++ a ++ ": " ++ e ++ "\n")
      return 2
    | _, .error e =>
      unless o.has 's' do complain ("cmp: " ++ b ++ ": " ++ e ++ "\n")
      return 2
    | .ok s, .ok t =>
      if s == t then return 0
      else if o.has 's' then return 1
      else
        match firstDifference 1 1 s.toList t.toList with
        | some (n, l) =>
          sayLines [a ++ " " ++ b ++ " differ: byte " ++ toString n ++ ", line " ++ toString l]
          return 1
        | none =>
          let (name, short) := if s.length < t.length then (a, s) else (b, t)
          let lines := (short.toList.filter (· == '\n')).length
          complain (if short = "" then "cmp: EOF on " ++ name ++ " which is empty\n"
            else if short.toList.getLast? == some '\n' then "cmp: EOF on " ++ name ++
              " after byte " ++ toString short.length ++ ", line " ++ toString lines ++ "\n"
            else "cmp: EOF on " ++ name ++ " after byte " ++ toString short.length ++ ", in line " ++
              toString (lines + 1) ++ "\n")
          return 1

/-- The lines of two lists that are in order: those of the first one, of the second one, and of both. -/
def mergedLines : Nat → List String → List String → List (Nat × String)
  | 0, _, _ => []
  | _ + 1, as, [] => as.map fun a => (1, a)
  | _ + 1, [], bs => bs.map fun b => (2, b)
  | fuel + 1, a :: as, b :: bs =>
    if a == b then (3, a) :: mergedLines fuel as bs
    else if a ≤ b then (1, a) :: mergedLines fuel as (b :: bs)
    else (2, b) :: mergedLines fuel (a :: as) bs

/-- Shows which lines two files have in common. -/
def comm (args : List String) : Act Nat :=
  withOptions "comm" ⟨"123", []⟩ 1 args fun o => do
    match o.operands with
    | [a, b] =>
      match ← readSource a, ← readSource b with
      | .error e, _ => fail "comm" (named a ++ ": " ++ e)
      | _, .error e => fail "comm" (named b ++ ": " ++ e)
      | .ok s, .ok t =>
        let (as, bs) := (linesOf s, linesOf t)
        let tab := fun (c : Char) => if o.has c then "" else "\t"
        sayLines ((mergedLines (as.length + bs.length + 1) as bs).filterMap fun (n, l) =>
          match n with
          | 1 => if o.has '1' then none else some l
          | 2 => if o.has '2' then none else some (tab '1' ++ l)
          | _ => if o.has '3' then none else some (tab '1' ++ tab '2' ++ l))
        return 0
    | [] => usage "comm" "missing operand" 1
    | a :: _ => usage "comm" ("missing operand after " ++ curled a) 1

/-! ### Codes -/

/-- The characters of numbers of six bits. -/
def sixBits : List Char :=
  "ABCDEFGHIJKLMNOPQRSTUVWXYZabcdefghijklmnopqrstuvwxyz0123456789+/".toList

/-- Bytes in groups of three as characters of six bits. -/
def encodeSix : List Nat → List Char
  | a :: b :: c :: rest =>
    let n := a * 65536 + b * 256 + c
    [n / 262144, n / 4096 % 64, n / 64 % 64, n % 64].map (sixBits.getD · '=') ++ encodeSix rest
  | [a, b] =>
    let n := a * 1024 + b * 4
    [n / 4096, n / 64 % 64, n % 64].map (sixBits.getD · '=') ++ ['=']
  | [a] => [a / 4, a % 4 * 16].map (sixBits.getD · '=') ++ ['=', '=']
  | [] => []

/-- The bytes of characters of six bits. -/
def decodeSix : List Nat → List Nat
  | a :: b :: c :: d :: rest =>
    let n := a * 262144 + b * 4096 + c * 64 + d
    [n / 65536, n / 256 % 256, n % 256] ++ decodeSix rest
  | [a, b, c] =>
    let n := a * 4096 + b * 64 + c
    [n / 1024, n / 4 % 256]
  | [a, b] => [(a * 64 + b) / 16]
  | _ => []

/-- Writes bytes with characters of six bits, or reads them again. -/
def base64 (args : List String) : Act Nat :=
  withOptions "base64" ⟨"dDiw:", [("decode", 'd'), ("wrap", 'w')]⟩ 1 args fun o => do
    match ← readSource (o.operands.headD "-") with
    | .error e => fail "base64" (named (o.operands.headD "-") ++ ": " ++ e)
    | .ok text =>
      if o.has 'd' then
        let cs := text.toList.filter fun c => c != '\n' && c != '='
        let codes := cs.filterMap fun c => sixBits.findIdx? (· == c)
        say (String.ofList ((decodeSix codes).map Char.ofNat))
        if codes.length = cs.length then return 0 else fail "base64" "invalid input"
      else
        let cs := encodeSix (text.toList.map Char.toNat)
        let width := ((o.value? 'w').bind digits?).getD 76
        if width = 0 then say (String.ofList cs)
        else sayLines ((folded width false cs.length.succ cs).map String.ofList |>.filter (· != ""))
        return 0

/-- A byte as `od` shows it. -/
def byteShown (kind : Char) (c : Char) : String :=
  let n := c.toNat
  let octalText := Permissions.octalText 3 n
  let hex := fun (n : Nat) => "0123456789abcdef".toList.getD n '0'
  match kind with
  | 'x' => " " ++ String.ofList [hex (n / 16), hex (n % 16)]
  | 'd' => column 5 (if n < 128 then n else n)
  | 'o' => " " ++ octalText
  | _ =>
    let shown := match c with
      | '\x00' => "\\0"
      | '\n' => "\\n"
      | '\t' => "\\t"
      | '\r' => "\\r"
      | '\x07' => "\\a"
      | '\x08' => "\\b"
      | '\x0b' => "\\v"
      | '\x0c' => "\\f"
      | c => if 32 ≤ n && n < 127 then String.singleton c else octalText
    String.ofList (padded false 4 shown.toList)

/-- Shows bytes: as characters, or as numbers of one or two bytes. -/
def od (args : List String) : Act Nat :=
  withOptions "od" ⟨"A:t:cbxdoj:N:vw:", []⟩ 1 args fun o => do
    match ← readSource (o.operands.headD "-") with
    | .error e => fail "od" (named (o.operands.headD "-") ++ ": " ++ e)
    | .ok text =>
      let kind := if o.has 'c' then 'c' else if o.has 'b' then 'o'
        else match (o.value? 't').map String.toList with
          | some ('x' :: '1' :: _) => 'x'
          | some ('c' :: _) => 'c'
          | some ('o' :: '1' :: _) => 'o'
          | _ => 'w'
      let cs := match (o.value? 'N').bind digits? with
        | some n => text.toList.take n
        | none => text.toList
      let plain := o.value? 'A' == some "n"
      let words := fun (row : List Char) =>
        (List.range ((row.length + 1) / 2)).map fun i =>
          let n := (row.getD (2 * i) '\x00').toNat + 256 * (row.getD (2 * i + 1) '\x00').toNat
          if o.has 'x' then " " ++ String.ofList
            ((byteShown 'x' (Char.ofNat (n / 256))).toList.drop 1 ++
              (byteShown 'x' (Char.ofNat (n % 256))).toList.drop 1)
          else if o.has 'd' then " " ++ column 5 n
          else " " ++ Permissions.octalText 6 n
      let rows := folded 16 false cs.length.succ cs |>.filter (!·.isEmpty)
      let shown := rows.zipIdx.map fun (row, i) =>
        (if plain then "" else Permissions.octalText 7 (16 * i)) ++
          String.join (if kind == 'w' then words row else row.map (byteShown kind))
      sayLines (shown ++ if plain then [] else [Permissions.octalText 7 cs.length])
      return 0

/-! ### Expressions -/

/-- Why a row of arguments comes to nothing. -/
inductive ExprError where
  | missingAfter (a : String)
  | unexpected (a : String)
  | noNumber
  | divisionByZero
  | badPattern (text : String)
  deriving DecidableEq, Repr

/-- The wording of what is wrong with a row of arguments. -/
def ExprError.message : ExprError → String
  | .missingAfter a => "syntax error: missing argument after " ++ curled a
  | .unexpected a => "syntax error: unexpected argument " ++ curled a
  | .noNumber => "non-integer argument"
  | .divisionByZero => "division by zero"
  | .badPattern text => text

/-- The whole number that a text writes. -/
def integer? (s : String) : Option Int :=
  match s.toList with
  | '-' :: cs => (digits? (String.ofList cs)).map fun n => -Int.ofNat n
  | cs => (digits? (String.ofList cs)).map Int.ofNat

/-- Whether a value counts as nothing. -/
def isNothing (s : String) : Bool := s = "" || integer? s == some 0

/-- What the front of a text gives for an expression: what its group matched, or the length. -/
def matched (text pattern : String) : Except ExprError String := do
  match Regex.parse false pattern with
  | .error e => throw (.badPattern e)
  | .ok (r, groups) =>
    let start : Regex.Place := { before := [], after := text.toList }
    match Regex.longest (Regex.ends false 100000 r start) with
    | none => return if groups = 0 then "0" else ""
    | some stop =>
      if groups = 0 then return toString (text.length - stop.after.length)
      else return String.ofList (((stop.groups.find? (·.1 == 1)).map (·.2)).getD [])

/-- The operators between values, those that bind most loosely first. -/
def exprLevels : List (List String) :=
  [["|"], ["&"], ["<", "<=", "=", "==", "!=", ">=", ">"], ["+", "-"], ["*", "/", "%"], [":"]]

/-- What an operator makes of two values. -/
def exprJoin (op a b : String) : Except ExprError String := do
  let truth := fun (x : Bool) => if x then "1" else "0"
  let numbers := match integer? a, integer? b with
    | some x, some y => some (x, y)
    | _, _ => none
  let compare := fun (numeric : Int → Int → Bool) (textual : String → String → Bool) =>
    truth (match numbers with
      | some (x, y) => numeric x y
      | none => textual a b)
  let arithmetic := fun (f : Int → Int → Except ExprError Int) =>
    match numbers with
    | some (x, y) => (f x y).map toString
    | none => .error .noNumber
  match op with
  | "|" => return if !isNothing a then a else if !isNothing b then b else "0"
  | "&" => return if isNothing a || isNothing b then "0" else a
  | "<" => return compare (fun x y => decide (x < y)) fun x y => decide (x < y)
  | "<=" => return compare (fun x y => decide (x ≤ y)) fun x y => decide (x ≤ y)
  | ">" => return compare (fun x y => decide (y < x)) fun x y => decide (y < x)
  | ">=" => return compare (fun x y => decide (y ≤ x)) fun x y => decide (y ≤ x)
  | "=" | "==" => return compare (· == ·) (· == ·)
  | "!=" => return compare (· != ·) (· != ·)
  | "+" => arithmetic fun x y => .ok (x + y)
  | "-" => arithmetic fun x y => .ok (x - y)
  | "*" => arithmetic fun x y => .ok (x * y)
  | "/" => arithmetic fun x y => if y = 0 then .error .divisionByZero else .ok (x.tdiv y)
  | "%" => arithmetic fun x y => if y = 0 then .error .divisionByZero else .ok (x.tmod y)
  | _ => matched a b

mutual
/-- What a row comes to, with operators from a level on, and the row after it; `last` is the argument
before. -/
def exprFrom : Nat → Nat → String → List String → Except ExprError (String × String × List String)
  | 0, _, last, _ => .error (.missingAfter last)
  | fuel + 1, level, last, row =>
    if level < exprLevels.length then do
      let (a, last, rest) ← exprFrom fuel (level + 1) last row
      exprMore fuel level a last rest
    else exprOne fuel last row

/-- More of a row with operators of a level. -/
def exprMore : Nat → Nat → String → String → List String →
    Except ExprError (String × String × List String)
  | 0, _, a, last, row => .ok (a, last, row)
  | fuel + 1, level, a, last, row =>
    match row with
    | op :: rest =>
      if (exprLevels.getD level []).contains op then do
        let (b, last, rest) ← exprFrom fuel (level + 1) op rest
        exprMore fuel level (← exprJoin op a b) last rest
      else .ok (a, last, row)
    | [] => .ok (a, last, [])

/-- A single value: an argument, a row in parentheses, or what a word does to values. -/
def exprOne : Nat → String → List String → Except ExprError (String × String × List String)
  | 0, last, _ => .error (.missingAfter last)
  | fuel + 1, last, row =>
    match row with
    | [] => .error (.missingAfter last)
    | "(" :: rest => do
      let (a, last, rest) ← exprFrom fuel 0 "(" rest
      match rest with
      | ")" :: rest => return (a, ")", rest)
      | b :: _ => throw (.unexpected b)
      | [] => throw (.missingAfter last)
    | "+" :: a :: rest => .ok (a, a, rest)
    | ")" :: _ => .error (.unexpected ")")
    | "length" :: rest => do
      let (a, last, rest) ← exprOne fuel "length" rest
      return (toString (readable a).length, last, rest)
    | "match" :: rest => do
      let (a, last, rest) ← exprOne fuel "match" rest
      let (b, last, rest) ← exprOne fuel last rest
      return (← matched a b, last, rest)
    | "index" :: rest => do
      let (a, last, rest) ← exprOne fuel "index" rest
      let (b, last, rest) ← exprOne fuel last rest
      let place := (a.toList.findIdx? fun c => b.toList.contains c).map (· + 1)
      return (toString (place.getD 0), last, rest)
    | "substr" :: rest => do
      let (a, last, rest) ← exprOne fuel "substr" rest
      let (b, last, rest) ← exprOne fuel last rest
      let (c, last, rest) ← exprOne fuel last rest
      let part := match digits? b, digits? c with
        | some n, some k => if n = 0 then [] else (a.toList.drop (n - 1)).take k
        | _, _ => []
      return (String.ofList part, last, rest)
    | a :: rest => .ok (a, a, rest)
end

/-- Shows what a row of arguments comes to. -/
def expr (args : List String) : Act Nat := do
  let args := if args.head? == some "--" then args.tail else args
  if args.isEmpty then return ← usage "expr" "missing operand" 2
  let found := do
    match ← exprFrom (8 * args.length + 8) 0 "" args with
    | (a, _, []) => return a
    | (_, _, b :: _) => throw (ExprError.unexpected b)
  match found with
  | .error e =>
    complain ("expr: " ++ e.message ++ "\n")
    return 2
  | .ok a =>
    sayLines [a]
    return if isNothing a then 1 else 0

/-! ### Others -/

/-- The number of milliseconds that arguments write as a time. -/
def sleepTime? (args : List String) : Except String Nat :=
  args.foldlM (fun total a => do
    let cs := a.toList
    let (number, unit) := match cs.getLast? with
      | some 's' => (cs.dropLast, 1000)
      | some 'm' => (cs.dropLast, 60000)
      | some 'h' => (cs.dropLast, 3600000)
      | some 'd' => (cs.dropLast, 86400000)
      | _ => (cs, 1000)
    match decimalOf? (String.ofList number) with
    | some (n, places) =>
      if 0 ≤ n then return total + n.toNat * unit / Nat.pow 10 places else throw a
    | none => throw a) 0

/-- Sleeps; perhaps nobody wakes the script. -/
def sleep (args : List String) : Act Nat :=
  withOptions "sleep" ⟨"", []⟩ 1 args fun o => do
    if o.operands.isEmpty then return ← usage "sleep" "missing operand" 1
    match sleepTime? o.operands with
    | .error a => usage "sleep" ("invalid time interval " ++ curled a) 1
    | .ok time =>
      if time = 0 || (← session).wakes then return 0 else throw .asleep

/-- Writes arguments with blanks between them, as the program does: escapes count only with an
option. -/
def echoProgram (args : List String) : Act Nat := do
  let isFlag := fun (a : String) => match a.toList with
    | '-' :: c :: cs => (c :: cs).all fun c => "neE".toList.contains c
    | _ => false
  let flags := args.takeWhile isFlag
  let letters := flags.flatMap String.toList
  let text := " ".intercalate (args.drop flags.length)
  let escapes := letters.foldl (fun (on : Bool) c =>
    if c == 'e' then true else if c == 'E' then false else on) false
  let (cs, goes) := if escapes then escaped text else (text.toList, true)
  say (String.ofList (if goes && !letters.contains 'n' then cs ++ ['\n'] else cs))
  return 0

/-- Shows the variables that commands get to see. -/
def printenv (args : List String) : Act Nat := do
  let shown := (← session).environment
  match args with
  | [] =>
    sayLines (shown.map fun v => v.1 ++ "=" ++ v.2)
    return 0
  | names =>
    names.foldlM (fun status name => do
      match shown.find? (·.1 == name) with
      | some v =>
        sayLines [v.2]
        return status
      | none => return 1) 0

/-- Makes a file shorter or longer. -/
def truncate (args : List String) : Act Nat :=
  withOptions "truncate" ⟨"s:c", [("size", 's'), ("no-create", 'c')]⟩ 1 args fun o => do
    match (o.value? 's').map fun v => (v, count? v) with
    | none => usage "truncate" "you must specify either '--size' or '--reference'" 1
    | some (v, none) => fail "truncate" ("Invalid number: " ++ quotedName v)
    | some (_, some (sign, n)) =>
      eachOf 1 o.operands fun path => do
        match ← look path, ← placeOf path with
        | .error _, .error e => return some ("truncate: cannot open " ++ quotedName path ++
            " for writing: " ++ e.text)
        | found, .ok place =>
          let old := match found with
            | .ok (.file bytes _) => bytes
            | _ => []
          let size := match sign with
            | some '+' => old.length + n
            | some _ => old.length - n
            | none => n
          let bytes := (old ++ List.replicate (size - old.length) 0).take size
          unless o.has 'c' && !found.isOk do writeFile place (textOfBytes bytes)
          return none
        | _, _ => return none

/-- The program of a name that carries out no other commands. -/
def utility? (name : String) : Option (List String → Act Nat) :=
  match name with
  | "true" => some fun _ => return 0
  | "false" => some fun _ => return 1
  | "base64" => some base64
  | "basename" => some basename
  | "cat" => some cat
  | "chmod" => some chmod
  | "cmp" => some cmp
  | "comm" => some comm
  | "cp" => some (copyOrMove false)
  | "cut" => some cut
  | "dirname" => some dirname
  | "echo" => some echoProgram
  | "expr" => some expr
  | "fold" => some fold
  | "head" => some headOf
  | "id" => some fun args => do
    sayLines [if args.contains "-un" || args.contains "-gn" then "root"
      else if args.isEmpty then "uid=0(root) gid=0(root) groups=0(root)" else "0"]
    return 0
  | "ln" => some ln
  | "ls" => some ls
  | "mkdir" => some mkdir
  | "mv" => some (copyOrMove true)
  | "nl" => some nl
  | "od" => some od
  | "paste" => some paste
  | "printenv" => some printenv
  | "printf" => some fun args => do
    let filled := formatted (args.headD "") args.tail
    say (String.ofList filled.chars)
    return 0
  | "pwd" => some fun _ => do
    sayLines [(← session).dirText]
    return 0
  | "readlink" => some (realpath "readlink")
  | "realpath" => some (realpath "realpath")
  | "rev" => some rev
  | "rm" => some rm
  | "rmdir" => some rmdir
  | "seq" => some seq
  | "sleep" => some sleep
  | "sort" => some sort
  | "stat" => some stat
  | "sync" => some fun _ => return 0
  | "tac" => some tac
  | "tail" => some tailOf
  | "tee" => some tee
  | "test" => some test
  | "[" => some bracketTest
  | "touch" => some touch
  | "tr" => some tr
  | "truncate" => some truncate
  | "tty" => some fun _ => do
    sayLines ["not a tty"]
    return 1
  | "uname" => some fun _ => do
    sayLines ["Linux"]
    return 0
  | "uniq" => some uniq
  | "unlink" => some fun args => rm ("--" :: args)
  | "wc" => some wc
  | "which" => some which
  | "whoami" => some fun _ => do
    sayLines ["root"]
    return 0
  | "yes" => some yes
  | _ => none

end Conveyor.Shell
