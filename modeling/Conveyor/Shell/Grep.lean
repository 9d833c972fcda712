/-
**Looking for lines.**

Main definitions:

* `Conveyor.Shell.Wanted` — what lines are looked for, and how they are shown;
* `Conveyor.Shell.Wanted.shown` — what is shown of a text;
* `Conveyor.Shell.grep` — shows lines in which an expression matches.
-/

import Conveyor.Shell.Utility

set_option autoImplicit false

namespace Conveyor.Shell

/-- What lines are looked for, and how they are shown. -/
structure Wanted where
  expression : Regex
  folds : Bool := false
  /-- A match may have no characters of words around it. -/
  wholeWords : Bool := false
  negated : Bool := false
  /-- Only what matches is shown. -/
  onlyMatches : Bool := false
  numbered : Bool := false
  offsets : Bool := false
  /-- So many lines are shown at most. -/
  most : Option Nat := none
  before : Nat := 0
  after : Nat := 0
  /-- Whether lines around others are shown. -/
  around : Bool := false
  separator : Option String := some "--"

namespace Wanted

/-- The first and longest match from a place on: its begin and its end. -/
def find? (w : Wanted) : Nat → Regex.Place → Option (Regex.Place × Regex.Place)
  | 0, _ => none
  | fuel + 1, p =>
    let ends := Regex.ends w.folds 100000 w.expression p
    let isFree := fun (c : Option Char) => !c.any Regex.isWordChar
    let ends := if w.wholeWords then
        ends.filter fun q => isFree p.before.head? && isFree q.after.head?
      else ends
    match Regex.longest ends with
    | some q => some (p, q)
    | none =>
      match p.after with
      | [] => none
      | _ :: _ => find? w fuel (p.skip 1)

/-- All matches in a line, each with how many characters are before it. -/
def matchesFrom (w : Wanted) : Nat → Regex.Place → List (Nat × List Char)
  | 0, _ => []
  | fuel + 1, p =>
    match w.find? p.after.length.succ p with
    | none => []
    | some (p, q) =>
      let text := p.after.take (p.after.length - q.after.length)
      if text.isEmpty then
        match p.after with
        | [] => []
        | _ :: _ => matchesFrom w fuel (p.skip 1)
      else (p.before.length, text) :: matchesFrom w fuel { q with groups := [] }

/-- Whether a line is one that is looked for. -/
def isWanted (w : Wanted) (line : String) : Bool :=
  (w.find? line.length.succ { before := [], after := line.toList }).isSome != w.negated

/-- How far the showing of lines is. -/
structure Progress where
  /-- What is shown, the last one first. -/
  rows : List String := []
  /-- How many lines were found. -/
  found : Nat := 0
  /-- The lines before that may be shown, the last one first, with their numbers and offsets. -/
  held : List (Nat × Nat × String) := []
  /-- How many lines after the last one that was found are still shown. -/
  owed : Nat := 0
  /-- The number of the last line that was shown. -/
  last : Option Nat := none
  number : Nat := 1
  offset : Nat := 0

/-- A line as it is shown; `mark` stands after what is in front of it. -/
def row (w : Wanted) (name : String) (mark : String) (number offset : Nat) (text : String) : String :=
  (if name = "" then "" else name ++ mark) ++
    (if w.numbered then toString number ++ mark else "") ++
    (if w.offsets then toString offset ++ mark else "") ++ text

/-- Goes on by one line. -/
def step (w : Wanted) (name : String) (p : Progress) (line : String) : Progress :=
  let next := { p with number := p.number + 1, offset := p.offset + line.utf8ByteSize + 1 }
  if w.most.any (· ≤ p.found) && p.owed = 0 then p
  else if !w.most.any (· ≤ p.found) && w.isWanted line then
    let held := p.held.reverse
    let first := match held with
      | h :: _ => h.1
      | [] => p.number
    let gap := match w.separator, p.last with
      | some s, some l => if w.around && l + 1 < first then [s] else []
      | _, _ => []
    let rows := if w.onlyMatches then
        if w.negated then []
        else (w.matchesFrom line.length.succ { before := [], after := line.toList }).map
          fun (before, text) =>
            w.row name ":" p.number (p.offset + (String.ofList (line.toList.take before)).utf8ByteSize)
              (String.ofList text)
      else held.map (fun (n, o, l) => w.row name "-" n o l) ++ [w.row name ":" p.number p.offset line]
    { next with rows := rows.reverse ++ gap ++ p.rows, found := p.found + 1, held := []
                owed := w.after, last := some p.number }
  else if p.owed != 0 then
    { next with
      rows := if w.onlyMatches then p.rows else w.row name "-" p.number p.offset line :: p.rows
      owed := p.owed - 1, last := some p.number, held := [] }
  else { next with held := ((p.number, p.offset, line) :: p.held).take w.before }

/-- What is shown of the lines of a text, and how many were found. -/
def shown (w : Wanted) (name : String) (ls : List String) : List String × Nat :=
  let p := ls.foldl (w.step name) {}
  (p.rows.reverse, p.found)

end Wanted

/-- The expression of a text that stands for itself. -/
def literal (s : String) : Regex :=
  s.toList.foldr (fun c r => .seq (.char c) r) .empty

/-- How `grep` is used. -/
def grepUsage : String :=
  "Usage: grep [OPTION]... PATTERNS [FILE]...\nTry 'grep --help' for more information.\n"

/-- The options of `grep`. -/
def grepForm : OptionForm :=
  ⟨"EFGPe:f:iyvwxcsqlLom:nbHhrRaUIA:B:C:d:zTJ:K:MN:O0123456789",
    [("extended-regexp", 'E'), ("fixed-strings", 'F'), ("basic-regexp", 'G'), ("perl-regexp", 'P'),
      ("regexp", 'e'), ("file", 'f'), ("ignore-case", 'i'), ("invert-match", 'v'),
      ("word-regexp", 'w'), ("line-regexp", 'x'), ("count", 'c'), ("no-messages", 's'), ("quiet", 'q'),
      ("silent", 'q'), ("files-with-matches", 'l'), ("files-without-match", 'L'),
      ("only-matching", 'o'), ("max-count", 'm'), ("line-number", 'n'), ("byte-offset", 'b'),
      ("with-filename", 'H'), ("no-filename", 'h'), ("recursive", 'r'),
      ("dereference-recursive", 'R'), ("text", 'a'), ("after-context", 'A'), ("before-context", 'B'),
      ("context", 'C'), ("directories", 'd'), ("include", 'J'), ("exclude", 'K'),
      ("no-group-separator", 'M'), ("group-separator", 'N'), ("color", 'O'), ("colour", 'O')]⟩

/-- The expression that patterns ask for, each in a line of its own. -/
def wantedExpression (o : Options) (extended : Bool) (patterns : List String) : Except String Regex := do
  let rs ← patterns.mapM fun p =>
    if o.has 'F' then return literal (readable p)
    else
      match Regex.parse extended (readable p) with
      | .ok (r, _) => return r
      | .error e => throw (if "Unmatched [".toList.isPrefixOf e.toList then
          "Invalid regular expression" else e)
  let whole := fun (r : Regex) => if o.has 'x' then Regex.seq .lineStart (.seq r .lineEnd) else r
  match rs with
  | [] => return .set false []
  | r :: rest => return rest.foldl (fun a b => .either a (whole b)) (whole r)

/-- The files in a directory and below it, with the paths by which they are named. -/
def filesBelow (t : FileTree) : Nat → String → List String → List (String × List String)
  | 0, _, _ => []
  | fuel + 1, path, place =>
    match t.node? place with
    | some .directory => (namesIn t place).flatMap fun n =>
        filesBelow t fuel (if path = "" then n else under path n) (place ++ [readable n])
    | some _ => [(path, place)]
    | none => []

/-- The number that the value of an option writes. -/
def Options.number? (o : Options) (c : Char) : Option Nat := (o.value? c).bind digits?

/-- Shows lines in which expressions match; `usual` holds options that are set in any case. -/
def grep (usual : List Char) (args : List String) : Act Nat := do
  match Options.read grepForm args with
  | .error text =>
    complain ("grep: " ++ text ++ "\n" ++ grepUsage)
    return 2
  | .ok o =>
    let o := { o with options := usual.map (fun c => (c, "")) ++ o.options }
    let quiet := o.has 's'
    let hasPatterns := o.has 'e' || o.has 'f'
    if !hasPatterns && o.operands.isEmpty then
      complain grepUsage
      return 2
    let given := if hasPatterns then [] else o.operands.take 1
    let paths := if hasPatterns then o.operands else o.operands.drop 1
    let (fromFiles, failed) ← (o.values 'f').foldlM (fun (acc : List String × Bool) path => do
      match ← readSource path with
      | .ok t => return (acc.1 ++ linesOf t, acc.2)
      | .error e =>
        complain ("grep: " ++ path ++ ": " ++ e ++ "\n")
        return (acc.1, true)) ([], false)
    if failed then return 2
    let patterns := (given ++ o.values 'e').flatMap (·.splitOn "\n") ++ fromFiles
    match wantedExpression o (o.has 'E' || o.has 'P') patterns with
    | .error e =>
      complain ("grep: " ++ e ++ "\n")
      return 2
    | .ok expression =>
      let digits := o.options.filterMap fun v => if v.1.isDigit then some v.1 else none
      let usualContext := (o.number? 'C').or (digits? (String.ofList digits))
      let wanted : Wanted :=
        { expression, folds := o.has 'i' || o.has 'y', wholeWords := o.has 'w', negated := o.has 'v'
          onlyMatches := o.has 'o', numbered := o.has 'n', offsets := o.has 'b', most := o.number? 'm'
          before := ((o.number? 'B').or usualContext).getD 0
          after := ((o.number? 'A').or usualContext).getD 0
          around := o.has 'A' || o.has 'B' || o.has 'C' || !digits.isEmpty
          separator := if o.has 'M' then none else some ((o.value? 'N').getD "--") }
      let deep := o.has 'r' || o.has 'R'
      let t ← files
      let isAsked := fun (path : String) =>
        let name := ((path.splitOn "/").getLast?).getD ""
        let covers := fun (p : String) => (Pattern.ofText p).covers name
        ((o.values 'J').isEmpty || (o.values 'J').any covers) && !(o.values 'K').any covers
      let expanded ← (if paths.isEmpty then [if deep then "" else "-"] else paths).flatMapM fun path => do
        match ← look (if path = "" then "." else path), ← placeOf (if path = "" then "." else path) with
        | .ok .directory, .ok place =>
          return if deep && path != "-" then
            ((filesBelow t 1000 path place).map (·.1)).filter isAsked else [path]
        | _, _ => return if deep && path != "-" && !isAsked path then [] else [path]
      let titled := !o.has 'h' && (o.has 'H' || 1 < paths.length || (deep && (paths.isEmpty ||
        (match ← look (paths.headD "") with
          | .ok .directory => true
          | _ => false))))
      let (found, failed, _) ← expanded.foldlM (fun (acc : Bool × Bool × Bool) path => do
        if acc.1 && o.has 'q' then return acc
        match ← readSource path with
        | .error e =>
          unless quiet || (e = "Is a directory" && o.value? 'd' == some "skip") do
            let name := if path = "-" then "(standard input)" else path
            complain ("grep: " ++ name ++ ": " ++ e ++ "\n")
          return (acc.1, acc.2.1 || o.value? 'd' != some "skip", acc.2.2)
        | .ok raw =>
          let text := readable raw
          let isBinary := (raw.toList.contains '\x00' || rawText text != raw) && !o.has 'a'
          let name := if path = "-" then "(standard input)" else path
          let (rows, count) := wanted.shown (if titled then name else "") (linesOf text)
          let title := if titled then name ++ ":" else ""
          if o.has 'q' then pure ()
          else if o.has 'l' || o.has 'L' then
            if (count != 0) == o.has 'l' then say (name ++ "\n")
          else if o.has 'c' then say (title ++ toString count ++ "\n")
          else if isBinary then
            if count != 0 then say ("grep: " ++ name ++ ": binary file matches\n")
          else
            match wanted.separator with
            | some s => if wanted.around && acc.2.2 && !rows.isEmpty then say (s ++ "\n")
            | none => pure ()
            say (String.join (rows.map fun r => rawText r ++ "\n"))
          let isFound := if o.has 'L' then count = 0 else count != 0
          return (acc.1 || isFound, acc.2.1, acc.2.2 || !rows.isEmpty)) (false, false, false)
      return if failed && !(found && o.has 'q') then 2 else if found then 0 else 1

end Conveyor.Shell
