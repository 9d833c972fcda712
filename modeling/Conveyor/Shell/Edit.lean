/-
**Editing texts line by line.**

An editing script is a row of steps.  For each line of a text the steps are carried out that its
number or its characters ask for; the line is then written, and the next one begins.  A second line
can be held meanwhile.

Main definitions:

* `Conveyor.Shell.Edit.Step` — the steps of a script;
* `Conveyor.Shell.Edit.parse` — the steps that a text writes;
* `Conveyor.Shell.Edit.State` — the line, the held line, and what was written so far;
* `Conveyor.Shell.Edit.edited` — carries a script out on lines;
* `Conveyor.Shell.sed` — edits files.
-/

import Conveyor.Shell.Grep

set_option autoImplicit false

namespace Conveyor.Shell.Edit

/-! ### Steps -/

/-- A line, by its number or by what it holds. -/
inductive Address where
  | line (n : Nat)
  | last
  /-- An expression matches; none means the one that was used last. -/
  | holds (r : Option Regex) (folds : Bool)
  /-- Every so manieth line from a first one on. -/
  | every (first gap : Nat)
  deriving Repr

/-- The end of a row of lines. -/
inductive RowEnd where
  | at_ (a : Address)
  /-- So many lines after the first one. -/
  | after (n : Nat)
  /-- The next line whose number is a multiple. -/
  | multiple (n : Nat)
  deriving Repr

/-- The lines for which a step is carried out. -/
structure Scope where
  first : Option Address := none
  last : Option RowEnd := none
  negated : Bool := false
  deriving Repr

/-- A part of what stands in the place of a match. -/
inductive Part where
  | text (s : List Char)
  /-- What a group matched; zero means the whole match. -/
  | group (n : Nat)
  /-- The case of the characters after it changes. -/
  | case (kind : Char)
  deriving Repr

/-- What is done to a line. -/
inductive Action where
  /-- The steps up to another one are passed over, unless the line is in the scope. -/
  | block (stop : Nat)
  | nothing
  | append (text : String)
  | insert (text : String)
  | change (text : String)
  /-- Goes on at a step; without one, at the end. -/
  | jump (label : String)
  | jumpIf (replaced : Bool) (label : String)
  | delete
  | deleteFirst
  | print
  | printFirst
  | quit (silent : Bool) (status : Nat)
  | next
  | appendNext
  | hold (adds : Bool)
  | get (adds : Bool)
  | exchange
  | number
  | visible
  | name
  | clear
  | read (path : String)
  | write (path : String)
  | map (pairs : List (Char × Char))
  | substitute (r : Option Regex) (folds : Bool) (parts : List Part) (place : Nat) (all shows : Bool)
      (path : Option String)
  deriving Repr

/-- A step of an editing script. -/
structure Step where
  scope : Scope
  action : Action
  deriving Repr

/-! ### Reading -/

/-- What is still to be read, how long the text was, and the steps so far, the last one first. -/
structure Reader where
  rest : List Char
  length : Nat
  steps : List Step := []
  /-- The numbers of blocks that are open. -/
  opened : List Nat := []
  labels : List (String × Nat) := []

/-- A step of reading; what is wrong comes with the place, if it has one. -/
abbrev Reading := StateT Reader (Except (Option Nat × String))

/-- Gives up at the place that was reached. -/
def wrong {α : Type} (text : String) : Reading α := do
  let s ← get
  throw (some (s.length - s.rest.length), text)

/-- The next character, taken away. -/
def takeOne : Reading (Option Char) := do
  let s ← get
  match s.rest with
  | [] => return none
  | c :: cs =>
    set { s with rest := cs }
    return some c

/-- The next character. -/
def look : Reading (Option Char) := do return (← get).rest.head?

/-- Drops characters at the front. -/
def dropAll (f : Char → Bool) : Reading Unit := modify fun s => { s with rest := s.rest.dropWhile f }

/-- Takes characters off the front. -/
def takeAll (f : Char → Bool) : Reading (List Char) := do
  let s ← get
  let cs := s.rest.takeWhile f
  set { s with rest := s.rest.drop cs.length }
  return cs

/-- Whether a character is a blank. -/
def isBlank (c : Char) : Bool := c == ' ' || c == '\t'

/-- Whether a character is a blank or a line break. -/
def isGap (c : Char) : Bool := isBlank c || c == '\n'

/-- The number at the front. -/
def takeNumber : Reading Nat := do
  let ds ← takeAll Char.isDigit
  return ds.foldl (fun n c => 10 * n + (c.toNat - 48)) 0

/-- Where the reading of an expression is with regard to brackets. -/
inductive Bracket where
  | outside
  /-- So many characters after the opening bracket. -/
  | inside (n : Nat)
  deriving DecidableEq

/-- Takes a text up to a mark; `regex` says that it is an expression, in whose brackets the mark means
nothing. Nothing comes back if the mark is missing. -/
def upTo (mark : Char) (regex : Bool) : Nat → Bracket → List Char → Reading (Option (List Char))
  | 0, _, _ => return none
  | fuel + 1, b, acc => do
    match ← takeOne with
    | none => return none
    | some c =>
      if b == .outside && c == mark then return some acc.reverse
      else if c == '\n' && !regex then return none
      else if b == .outside && c == '\\' then
        match ← takeOne with
        | none => return none
        | some d =>
          if d == mark && !(d == '&' && !regex) then
            upTo mark regex fuel b (if regex && "^$.*[]+?(){}|".toList.contains d then d :: '\\' :: acc
              else d :: acc)
          else if d == 'n' && regex then upTo mark regex fuel b ('n' :: '\\' :: acc)
          else upTo mark regex fuel b (d :: '\\' :: acc)
      else
        let b := match b with
          | .outside => if regex && c == '[' then .inside 0 else .outside
          | .inside n =>
            if c == ']' && n != 0 then .outside
            else if c == '^' && n = 0 then .inside 0
            else .inside (n + 1)
        upTo mark regex fuel b (c :: acc)

/-- The value of two digits of sixteen at the front, and what follows them. -/
def hexFrom (cs : List Char) : Option (Char × List Char) :=
  match cs with
  | a :: b :: rest =>
    match Sum.digit? 16 a, Sum.digit? 16 b with
    | some x, some y => some (Char.ofNat (16 * x + y), rest)
    | _, _ => none
  | _ => none

/-- An expression without characters that are written by their codes. -/
def plainCodes : Nat → List Char → List Char
  | 0, cs => cs
  | _ + 1, [] => []
  | fuel + 1, '\\' :: 'x' :: cs =>
    match hexFrom cs with
    | some (c, rest) =>
      (if c.isAlphanum then [c] else ['\\', c]) ++ plainCodes fuel rest
    | none => '\\' :: 'x' :: plainCodes fuel cs
  | fuel + 1, '\\' :: c :: cs => '\\' :: c :: plainCodes fuel cs
  | fuel + 1, c :: cs => c :: plainCodes fuel cs

/-- The expression that a text writes, with the number of its groups; an empty text means the one that
was used last. -/
def expression (extended : Bool) (text : List Char) : Reading (Option Regex × Nat) := do
  if text.isEmpty then return (none, 9)
  else if extended && (text.head?.map "*+?".toList.contains).getD false then
    wrong "Invalid preceding regular expression"
  else
    match Regex.parse extended (String.ofList (plainCodes text.length.succ text)) with
    | .ok (r, groups) => return (some r, groups)
    | .error e => wrong e

/-- An address, if one stands at the front. -/
def takeAddress (extended : Bool) : Reading (Option Address) := do
  let holds := fun (mark : Char) => do
    match ← upTo mark true (← get).rest.length.succ .outside [] with
    | none => wrong "unterminated address regex"
    | some text =>
      let flags ← takeAll fun c => c == 'I' || c == 'M'
      return some (Address.holds (← expression extended text).1 (flags.contains 'I'))
  match ← look with
  | some '$' =>
    let _ ← takeOne
    return some .last
  | some '/' =>
    let _ ← takeOne
    holds '/'
  | some '\\' =>
    let _ ← takeOne
    match ← takeOne with
    | some c => holds c
    | none => wrong "unterminated address regex"
  | some c =>
    if c.isDigit then
      let n ← takeNumber
      if (← look) == some '~' then
        let _ ← takeOne
        return some (.every n (← takeNumber))
      else return some (.line n)
    else return none
  | none => return none

/-- The lines that are named in front of a command. -/
def takeScope (extended : Bool) : Reading Scope := do
  match ← takeAddress extended with
  | none =>
    if (← look) == some ',' then
      let _ ← takeOne
      wrong "unexpected \x60,'"
    return {}
  | some first =>
    dropAll isBlank
    if (← look) != some ',' then return { first := some first }
    else
      let _ ← takeOne
      dropAll isBlank
      match ← look with
      | some '+' =>
        let _ ← takeOne
        return { first := some first, last := some (.after (← takeNumber)) }
      | some '~' =>
        let _ ← takeOne
        return { first := some first, last := some (.multiple (← takeNumber)) }
      | _ =>
        match ← takeAddress extended with
        | some a => return { first := some first, last := some (.at_ a) }
        | none =>
          let _ ← takeOne
          wrong "unexpected \x60,'"

/-- Checks that a command ends here. -/
def endCommand : Reading Unit := do
  dropAll isBlank
  match ← look with
  | none | some '\x7d' | some '#' => return
  | some c =>
    let _ ← takeOne
    unless c == ';' || c == '\n' do wrong "extra characters after command"

/-- The text of a line with its escapes read; a backslash at its end joins it to the next one. -/
def takeText : Nat → List Char → Reading (List Char)
  | 0, acc => return acc.reverse
  | fuel + 1, acc => do
    match ← takeOne with
    | none | some '\n' => return acc.reverse
    | some '\\' =>
      match ← takeOne with
      | none => return acc.reverse
      | some 't' => takeText fuel ('\t' :: acc)
      | some 'n' => takeText fuel ('\n' :: acc)
      | some c => takeText fuel (c :: acc)
    | some c => takeText fuel (c :: acc)

/-- The text that a command writes. -/
def takeWritten : Reading String := do
  dropAll isBlank
  let fuel := (← get).rest.length.succ
  let text ← match ← look with
    | none => wrong "expected \\ after \x60a', \x60c' or \x60i'"
    | some '\\' => do
      let _ ← takeOne
      let blanks ← takeAll isBlank
      match ← look with
      | some '\n' => do
        let _ ← takeOne
        if (← look).isNone then wrong "incomplete command"
        takeText fuel []
      | none => return ""
      | some c => do
        let _ ← takeOne
        let rest ← takeText fuel []
        pure (blanks ++ c :: rest)
    | _ => takeText fuel []
  return String.ofList text ++ "\n"

/-- The name of a file, up to the end of the line. -/
def takePath : Reading String := do
  dropAll isBlank
  let cs ← takeAll (· != '\n')
  if cs.isEmpty then wrong "missing filename in r/R/w/W commands"
  return String.ofList cs

/-- The name of a step; where it is gone to, a brace ends it. -/
def takeLabel (isTarget : Bool) : Reading String := do
  dropAll isBlank
  return String.ofList (← takeAll fun c => !isGap c && c != ';' && !(isTarget && c == '\x7d'))

/-- The parts of what stands in the place of a match; `acc` holds characters, the last one first. -/
def partsFrom : Nat → List Char → List Char → List Part
  | 0, acc, _ => [.text acc.reverse]
  | _ + 1, acc, [] => if acc.isEmpty then [] else [.text acc.reverse]
  | fuel + 1, acc, c :: cs =>
    let done := if acc.isEmpty then [] else [Part.text acc.reverse]
    if c == '&' then done ++ .group 0 :: partsFrom fuel [] cs
    else if c == '\\' then
      match cs with
      | [] => done ++ [.text ['\\']]
      | d :: rest =>
        if d.isDigit then done ++ .group (d.toNat - 48) :: partsFrom fuel [] rest
        else if "ULulE".toList.contains d then done ++ .case d :: partsFrom fuel [] rest
        else
          match d with
          | 'n' => partsFrom fuel ('\n' :: acc) rest
          | 't' => partsFrom fuel ('\t' :: acc) rest
          | 'r' => partsFrom fuel ('\r' :: acc) rest
          | 'f' => partsFrom fuel ('\x0c' :: acc) rest
          | 'v' => partsFrom fuel ('\x0b' :: acc) rest
          | 'a' => partsFrom fuel ('\x07' :: acc) rest
          | 'x' =>
            match hexFrom rest with
            | some (c, rest) => partsFrom fuel (c :: acc) rest
            | none => partsFrom fuel ('x' :: acc) rest
          | d => partsFrom fuel (d :: acc) rest
    else partsFrom fuel (c :: acc) cs

/-- The highest group that parts refer to. -/
def highestGroup (parts : List Part) : Nat :=
  parts.foldl (fun n p => match p with
    | .group k => max n k
    | _ => n) 0

/-- What is said after the replacement of a match. -/
structure Flags where
  place : Option Nat := none
  all : Bool := false
  shows : Bool := false
  folds : Bool := false
  path : Option String := none

/-- Takes what is said after the replacement of a match. -/
def takeFlags : Nat → Flags → Reading Flags
  | 0, f => return f
  | fuel + 1, f => do
    match ← look with
    | none | some '\x7d' | some '#' => return f
    | some c =>
      if c.isDigit then
        let n ← takeNumber
        if f.place.isSome then wrong "multiple number options to \x60s' command"
        if n = 0 then wrong "number option to \x60s' command may not be zero"
        takeFlags fuel { f with place := some n }
      else
        let _ ← takeOne
        match c with
        | 'g' =>
          if f.all then wrong "multiple \x60g' options to \x60s' command"
          takeFlags fuel { f with all := true }
        | 'p' =>
          if f.shows then wrong "multiple \x60p' options to \x60s' command"
          takeFlags fuel { f with shows := true }
        | 'i' | 'I' => takeFlags fuel { f with folds := true }
        | 'm' | 'M' | 'e' => takeFlags fuel f
        | 'w' => return { f with path := some (← takePath) }
        | ' ' | '\t' => takeFlags fuel f
        | '\n' | ';' => return f
        | _ => wrong "unknown option to \x60s'"

/-- The command that replaces matches, after its letter. -/
def takeSubstitute (extended : Bool) : Reading Action := do
  let unfinished := "unterminated \x60s' command"
  match ← takeOne with
  | none => wrong unfinished
  | some mark =>
    match ← upTo mark true (← get).rest.length.succ .outside [] with
    | none => wrong unfinished
    | some text =>
      match ← upTo mark false (← get).rest.length.succ .outside [] with
      | none => wrong unfinished
      | some other =>
        let f ← takeFlags (← get).rest.length.succ {}
        let (r, groups) ← expression extended text
        let parts := partsFrom other.length.succ [] other
        let highest := highestGroup parts
        if groups < highest then
          wrong ("invalid reference \\" ++ toString highest ++ " on \x60s' command's RHS")
        return .substitute r f.folds parts (f.place.getD 1) f.all f.shows f.path

/-- Characters with escapes read, as they stand in a row of replacements. -/
def mapLetters : List Char → List Char
  | '\\' :: 'n' :: cs => '\n' :: mapLetters cs
  | '\\' :: 't' :: cs => '\t' :: mapLetters cs
  | '\\' :: '\\' :: cs => '\\' :: mapLetters cs
  | c :: cs => c :: mapLetters cs
  | [] => []

/-- The command that replaces single characters, after its letter. -/
def takeMap : Reading Action := do
  let unfinished := "unterminated \x60y' command"
  match ← takeOne with
  | none => wrong unfinished
  | some mark =>
    match ← upTo mark false (← get).rest.length.succ .outside [] with
    | none => wrong unfinished
    | some olds =>
      match ← upTo mark false (← get).rest.length.succ .outside [] with
      | none => wrong unfinished
      | some news =>
        let (olds, news) := (mapLetters olds, mapLetters news)
        if olds.length != news.length then
          wrong "strings for \x60y' command are different lengths"
        endCommand
        return .map (olds.zip news)

/-- Adds a step. -/
def addStep (scope : Scope) (action : Action) : Reading Unit :=
  modify fun s => { s with steps := ⟨scope, action⟩ :: s.steps }

/-- Steps with the action of one of them changed; the last step comes first. -/
def setAction (n : Nat) (action : Action) (steps : List Step) : List Step :=
  let place := steps.length - 1 - n
  match steps[place]? with
  | some s => steps.set place { s with action }
  | none => steps

/-- Reads the command after its scope. -/
def takeCommand (extended : Bool) (scope : Scope) : Reading Unit := do
  let simple := fun (a : Action) => do
    endCommand
    addStep scope a
  match ← takeOne with
  | none => wrong "missing command"
  | some c =>
    match c with
    | '\x7b' =>
      modify fun s => { s with opened := s.steps.length :: s.opened }
      addStep scope (.block 0)
    | '\x7d' =>
      let s ← get
      match s.opened with
      | [] => wrong "unexpected \x60\x7d'"
      | n :: opened =>
        if scope.first.isSome then wrong "\x7d doesn't want any addresses"
        set { s with opened, steps := setAction n (.block s.steps.length) s.steps }
        endCommand
    | ':' =>
      if scope.first.isSome then wrong ": doesn't want any addresses"
      let label ← takeLabel false
      if label = "" then wrong "\":\" lacks a label"
      modify fun s => { s with labels := (label, s.steps.length) :: s.labels }
      endCommand
    | 'a' => addStep scope (.append (← takeWritten))
    | 'i' => addStep scope (.insert (← takeWritten))
    | 'c' => addStep scope (.change (← takeWritten))
    | 'b' =>
      addStep scope (.jump (← takeLabel true))
      endCommand
    | 't' =>
      addStep scope (.jumpIf true (← takeLabel true))
      endCommand
    | 'T' =>
      addStep scope (.jumpIf false (← takeLabel true))
      endCommand
    | 'd' => simple .delete
    | 'D' => simple .deleteFirst
    | 'p' => simple .print
    | 'P' => simple .printFirst
    | 'q' | 'Q' =>
      if scope.last.isSome then wrong "command only uses one address"
      dropAll isBlank
      simple (.quit (c == 'Q') (← takeNumber))
    | 'n' => simple .next
    | 'N' => simple .appendNext
    | 'h' => simple (.hold false)
    | 'H' => simple (.hold true)
    | 'g' => simple (.get false)
    | 'G' => simple (.get true)
    | 'x' => simple .exchange
    | '=' => simple .number
    | 'l' =>
      dropAll isBlank
      let _ ← takeNumber
      simple .visible
    | 'F' => simple .name
    | 'z' => simple .clear
    | 'r' => addStep scope (.read (← takePath))
    | 'w' => addStep scope (.write (← takePath))
    | 's' => addStep scope (← takeSubstitute extended)
    | 'y' => addStep scope (← takeMap)
    | c => wrong ("unknown command: \x60" ++ String.singleton c ++ "'")

/-- Reads commands up to the end. -/
def takeCommands (extended : Bool) : Nat → Reading Unit
  | 0 => return
  | fuel + 1 => do
    dropAll fun c => isGap c || c == ';'
    match ← look with
    | none => return
    | some '#' =>
      dropAll (· != '\n')
      takeCommands extended fuel
    | some _ =>
      let scope ← takeScope extended
      let zero := match scope.first, scope.last with
        | some (.line 0), some (.at_ (.holds _ _)) => false
        | some (.line 0), _ => true
        | _, _ => false
      dropAll isBlank
      let negated := (← look) == some '!'
      if negated then
        let _ ← takeOne
        dropAll isBlank
        if (← look) == some '!' then
          let _ ← takeOne
          wrong "multiple \x60!'s"
      if zero then
        let _ ← takeOne
        wrong "invalid usage of line address 0"
      takeCommand extended { scope with negated }
      takeCommands extended fuel

/-- The steps that texts write, one after the other, and where labels stand; or what is wrong, with the
number of the text and the place in it. -/
def parse (extended : Bool) (texts : List String) :
    Except String (Array Step × List (String × Nat)) := do
  let about := fun (number : Nat) (place : Nat) (text : String) =>
    "-e expression #" ++ toString number ++ ", char " ++ toString place ++ ": " ++ text
  let start : Reader := { rest := [], length := 0 }
  let s ← texts.zipIdx.foldlM (fun (s : Reader) (text, i) =>
    let cs := (readable text).toList
    match (takeCommands extended cs.length.succ).run { s with rest := cs, length := cs.length } with
    | .ok (_, s) => .ok s
    | .error (place, e) => .error (about (i + 1) (place.getD 0) e)) start
  unless s.opened.isEmpty do throw (about texts.length 0 "unmatched \x60\x7b'")
  let jumps := s.steps.filterMap fun step => match step.action with
    | .jump l | .jumpIf _ l => if l = "" then none else some l
    | _ => none
  match jumps.reverse.find? fun l => !s.labels.any (·.1 == l) with
  | some l => throw ("can't find label for jump to \x60" ++ l ++ "'")
  | none => return (s.steps.reverse.toArray, s.labels)

/-! ### Carrying out -/

/-- A line of a text, with whether its line break is there, and the name of its file. -/
structure Line where
  text : List Char
  complete : Bool := true
  file : String := "-"

/-- The line, the held line, and what was written so far. -/
structure State where
  space : List Char := []
  held : List Char := []
  complete : Bool := true
  file : String := "-"
  number : Nat := 0
  rest : List Line
  /-- Whether a match was replaced since the line was read. -/
  replaced : Bool := false
  /-- What is written after the line, the last one first. -/
  queue : List String := []
  /-- What was written, the last one first, and whether a line break is still missing there. -/
  written : List String := []
  unfinished : Bool := false
  /-- What was written to files, by their paths. -/
  files : List (String × List String) := []
  /-- The steps in whose rows of lines the line is, with the last line where it is known. -/
  rows : List (Nat × Option Nat) := []
  /-- The expression that was used last. -/
  used : Option Regex := none

/-- A script with what it needs. -/
structure Script where
  steps : Array Step
  labels : List (String × Nat)
  /-- Whether lines are written only when a step says so. -/
  silent : Bool
  /-- The texts of files that are read. -/
  texts : List (String × String) := []

namespace State

/-- Writes a text; what was written before is completed. -/
def put (s : State) (text : String) : State :=
  if text = "" then s
  else { s with written := text :: (if s.unfinished then "\n" :: s.written else s.written)
                unfinished := false }

/-- Writes a line. -/
def putLine (s : State) (line : List Char) (complete : Bool) : State :=
  let text := String.ofList line
  if complete then s.put (text ++ "\n")
  else { s with written := text :: (if s.unfinished then "\n" :: s.written else s.written)
                unfinished := true }

/-- Writes the line. -/
def putSpace (s : State) : State := s.putLine s.space s.complete

/-- Writes what comes after the line. -/
def putQueue (s : State) : State :=
  s.queue.reverse.foldl (fun s t => s.put t) { s with queue := [] }

/-- The next line, taken away. -/
def takeNext (s : State) : Option (Line × State) :=
  match s.rest with
  | [] => none
  | l :: rest =>
    some (l, { s with rest, complete := l.complete, file := l.file, number := s.number + 1
                      replaced := false })

/-- Adds a line to what is written to a file. -/
def writeTo (s : State) (path : String) (line : List Char) : State :=
  let text := String.ofList line ++ "\n"
  if path = "/dev/stdout" then s.put text
  else { s with files := if s.files.any (·.1 == path) then
                    s.files.map fun f => if f.1 == path then (path, text :: f.2) else f
                  else s.files ++ [(path, [text])] }

/-- Whether the line is the one of an address, with the expression that is used. -/
def isAt (s : State) : Address → Bool × State
  | .line n => (s.number == n, s)
  | .last => (s.rest.isEmpty, s)
  | .every first gap =>
    (if gap = 0 then s.number == first
      else first ≤ s.number && (s.number - first) % gap = 0, s)
  | .holds r folds =>
    match r.or s.used with
    | none => (false, s)
    | some r =>
      ((Regex.findIn? folds r s.space).isSome, { s with used := some r })

/-- Whether the line is in the scope of a step. -/
def isIn (s : State) (n : Nat) (scope : Scope) : Bool × State :=
  let leave := fun (s : State) => { s with rows := s.rows.filter (·.1 != n) }
  let enter := fun (s : State) (last : Option Nat) => { s with rows := (n, last) :: s.rows }
  match scope.first with
  | none => (true, s)
  | some first =>
    match scope.last with
    | none => s.isAt first
    | some last =>
      let isOpen := match s.rows.find? (·.1 == n), first with
        | some (_, l), _ => some l
        | none, .line 0 => if s.number = 1 then some none else none
        | none, _ => none
      match isOpen with
      | some (some l) =>
        if s.number < l then (true, s)
        else if s.number = l then (true, leave s)
        else
          let (found, s) := (leave s).isAt first
          (found, s)
      | some none =>
        match last with
        | .at_ a =>
          let (ends, s) := s.isAt a
          (true, if ends then leave s else if s.rows.any (·.1 == n) then s else enter s none)
        | _ => (true, leave s)
      | none =>
        let (found, s) := s.isAt first
        if !found then (false, s)
        else
          match last with
          | .at_ (.line l) => (true, if l ≤ s.number then s else enter s (some l))
          | .at_ .last => (true, if s.rest.isEmpty then s else enter s none)
          | .at_ _ => (true, enter s none)
          | .after k => (true, if k = 0 then s else enter s (some (s.number + k)))
          | .multiple k =>
            (true, if k = 0 || s.number % k = 0 then s
              else enter s (some ((s.number / k + 1) * k)))

end State

/-- The characters of a line with those that cannot be seen written in another way. -/
def visibleChars (line : List Char) : List String :=
  let octal := fun (n : Nat) => "\\" ++ Permissions.octalText 3 n
  (bytesOfText (rawText (String.ofList line))).map fun b =>
    let n := b.toNat
    match n with
    | 92 => "\\\\"
    | 7 => "\\a"
    | 8 => "\\b"
    | 12 => "\\f"
    | 10 => "\\n"
    | 13 => "\\r"
    | 9 => "\\t"
    | 11 => "\\v"
    | n => if 32 ≤ n && n < 127 then String.singleton (Char.ofNat n) else octal n

/-- Pieces joined into lines that are not too wide. -/
def wrapped (width : Nat) : String → List String → String
  | line, [] => line ++ "$\n"
  | line, p :: ps =>
    if width < line.length + p.length + 1 then line ++ "\\\n" ++ wrapped width p ps
    else wrapped width (line ++ p) ps

/-- How the case of characters changes: of all of them, and of the next one. -/
structure Casing where
  all : Char := 'E'
  one : Option Char := none

/-- Characters in a case. -/
def Casing.apply (k : Casing) (cs : List Char) : List Char × Casing :=
  let change := fun (kind c : Char) =>
    if kind == 'U' || kind == 'u' then c.toUpper
    else if kind == 'L' || kind == 'l' then c.toLower else c
  match cs, k.one with
  | c :: cs, some kind => (change kind c :: cs.map (change k.all), { k with one := none })
  | cs, _ => (cs.map (change k.all), k)

/-- What stands in the place of a match. -/
def replacement (whole : List Char) (groups : List (Nat × List Char)) (parts : List Part) : List Char :=
  let add := fun (acc : List Char × Casing) (cs : List Char) =>
    let (cs, k) := acc.2.apply cs
    (acc.1 ++ cs, k)
  (parts.foldl (fun (acc : List Char × Casing) p =>
    match p with
    | .text cs => add acc cs
    | .group 0 => add acc whole
    | .group n => add acc (((groups.find? (·.1 == n)).map (·.2)).getD [])
    | .case 'E' => (acc.1, {})
    | .case k =>
      if k == 'u' || k == 'l' then (acc.1, { acc.2 with one := some k })
      else (acc.1, { all := k })) ([], {})).1

/-- A line with matches replaced, from a place on; `number` counts the matches, and `afterMatch` says
that one ended here.  The result comes with whether anything was replaced. -/
def replaced (folds : Bool) (r : Regex) (parts : List Part) (place : Nat) (all : Bool) :
    Nat → Nat → Bool → Regex.Place → List Char × Bool
  | 0, _, _, p => (p.after, false)
  | fuel + 1, number, afterMatch, p =>
    match Regex.find? folds r p.after.length.succ p with
    | none => (p.after, false)
    | some (start, stop) =>
      let gap := p.after.take (p.after.length - start.after.length)
      let whole := start.after.take (start.after.length - stop.after.length)
      let step := fun (q : Regex.Place) (number : Nat) =>
        match q.after with
        | [] => ([], false)
        | c :: _ =>
          let (rest, found) := replaced folds r parts place all fuel number false
            { q.skip 1 with groups := [] }
          (c :: rest, found)
      if whole.isEmpty && afterMatch && gap.isEmpty then step start number
      else if number < place then
        if whole.isEmpty then
          let (rest, found) := step start (number + 1)
          (gap ++ rest, found)
        else
          let (rest, found) := replaced folds r parts place all fuel (number + 1) true
            { stop with groups := [] }
          (gap ++ whole ++ rest, found)
      else
        let new := replacement whole stop.groups parts
        if !all then (gap ++ new ++ stop.after, true)
        else if whole.isEmpty then (gap ++ new ++ (step start (number + 1)).1, true)
        else
          (gap ++ new ++ (replaced folds r parts place all fuel (number + 1) true
            { stop with groups := [] }).1, true)

/-- How the steps for a line end. -/
inductive Ending where
  /-- The line is written. -/
  | usual
  | deleted
  /-- The steps begin again with what is left of the line. -/
  | again
  | quit (silent : Bool) (status : Nat)
  /-- There is no next line. -/
  | dry (silent : Bool)
  /-- The expression that was used last is meant, and there is none. -/
  | stuck

/-- The text up to the first line break, and what follows it. -/
def cutLine (cs : List Char) : List Char × Option (List Char) :=
  let line := cs.takeWhile (· != '\n')
  match cs.drop line.length with
  | _ :: rest => (line, some rest)
  | [] => (line, none)

/-- Carries out the steps from a number on. -/
def steps (script : Script) : Nat → Nat → State → Ending × State
  | 0, _, s => (.usual, s)
  | fuel + 1, n, s =>
    match script.steps[n]? with
    | none => (.usual, s)
    | some step =>
      let (found, s) := s.isIn n step.scope
      let goOn := fun (s : State) => steps script fuel (n + 1) s
      let jump := fun (label : String) (s : State) =>
        match script.labels.find? (·.1 == label) with
        | some (_, place) => steps script fuel place s
        | none => (.usual, s)
      if found == step.scope.negated then
        match step.action with
        | .block stop => steps script fuel stop s
        | _ => goOn s
      else
        match step.action with
        | .block _ | .nothing => goOn s
        | .append text => goOn { s with queue := text :: s.queue }
        | .insert text => goOn (s.put text)
        | .change text =>
          let inside := s.rows.any (·.1 == n) && !step.scope.negated
          (.deleted, if inside then s else s.put text)
        | .jump label => jump label s
        | .jumpIf wanted label =>
          if s.replaced == wanted then jump label { s with replaced := false }
          else goOn { s with replaced := false }
        | .delete => (.deleted, s)
        | .deleteFirst =>
          match cutLine s.space with
          | (_, none) => (.deleted, s)
          | (_, some rest) => (.again, { s with space := rest })
        | .print => goOn s.putSpace
        | .printFirst => goOn (s.putLine (cutLine s.space).1 true)
        | .quit silent status => (.quit silent status, s)
        | .next =>
          if s.rest.isEmpty then (.dry false, s)
          else
            let s := (if script.silent then s else s.putSpace).putQueue
            match s.takeNext with
            | some (l, s) => goOn { s with space := l.text }
            | none => (.dry false, s)
        | .appendNext =>
          match s.putQueue.takeNext with
          | some (l, t) => goOn { t with space := s.space ++ '\n' :: l.text }
          | none => (.dry false, s)
        | .hold adds =>
          goOn { s with held := if adds then s.held ++ '\n' :: s.space else s.space }
        | .get adds =>
          goOn { s with space := if adds then s.space ++ '\n' :: s.held else s.held }
        | .exchange => goOn { s with space := s.held, held := s.space }
        | .number => goOn (s.put (toString s.number ++ "\n"))
        | .visible => goOn (s.put (wrapped 70 "" (visibleChars s.space)))
        | .name => goOn (s.put (s.file ++ "\n"))
        | .clear => goOn { s with space := [] }
        | .read path =>
          match script.texts.find? (·.1 == path) with
          | some (_, text) => goOn { s with queue := text :: s.queue }
          | none => goOn s
        | .write path => goOn (s.writeTo path s.space)
        | .map pairs =>
          goOn { s with space := s.space.map fun c =>
            ((pairs.find? (·.1 == c)).map (·.2)).getD c }
        | .substitute r folds parts place all shows path =>
          match r.or s.used with
          | none => (.stuck, s)
          | some r =>
            let start : Regex.Place := { before := [], after := s.space }
            let (space, found) :=
              replaced folds r parts place all (2 * s.space.length + 2) 1 false start
            let s := { s with used := some r }
            if !found then goOn s
            else
              let s := { s with space, replaced := true }
              let s := if shows then s.putSpace else s
              goOn (match path with
                | some p => s.writeTo p s.space
                | none => s)

/-- How many steps a line may take. -/
def patience : Nat := 100000

/-- Carries a script out on lines; the status is that of a step that ended it, and none says that a
step could not be carried out. -/
def edited (script : Script) : Nat → Bool → State → Option Nat × State
  | 0, _, s => (some 0, s)
  | fuel + 1, keeps, s =>
    let begun := if keeps then some s
      else s.takeNext.map fun (l, s) => { s with space := l.text }
    match begun with
    | none => (some 0, s)
    | some s =>
      let write := fun (s : State) => if script.silent then s else s.putSpace
      match steps script patience 0 s with
      | (.usual, s) => edited script fuel false (write s).putQueue
      | (.deleted, s) => edited script fuel false s.putQueue
      | (.again, s) => edited script fuel true s.putQueue
      | (.stuck, s) => (none, s)
      | (.dry silent, s) => (some 0, (if silent then s else write s).putQueue)
      | (.quit true status, s) => (some status, s)
      | (.quit false status, s) => (some status, (write s).putQueue)

/-- The lines of a text, between stops. -/
def linesFrom (stop : String) (file text : String) : List Line :=
  let ls := text.splitOn stop
  let front : List Line := ls.dropLast.map fun l => { text := l.toList, file }
  match ls.getLast? with
  | some "" | none => front
  | some l => front ++ [{ text := l.toList, complete := false, file }]

end Edit

/-- How `sed` is used. -/
def sedUsage : String :=
  "Usage: sed [OPTION]... \x7bscript-only-if-no-other-script\x7d [input-file]...\n"

/-- The paths of files that a script reads. -/
def Edit.readPaths (steps : Array Edit.Step) : List String :=
  steps.toList.filterMap fun s => match s.action with
    | .read path => some path
    | _ => none

/-- The paths of files that a script writes. -/
def Edit.writtenPaths (steps : Array Edit.Step) : List String :=
  (steps.toList.filterMap fun s => match s.action with
    | .write path => some path
    | .substitute _ _ _ _ _ _ path => path
    | _ => none).eraseDups

/-- Arguments in which the option to edit files in place has its value joined to it. -/
def inPlaceArgs : List String → List String
  | [] => []
  | a :: rest =>
    match a.toList with
    | ['-', 'i'] => "--in-place=" :: inPlaceArgs rest
    | '-' :: 'i' :: cs => ("--in-place=" ++ String.ofList cs) :: inPlaceArgs rest
    | '-' :: c :: cs =>
      if c != '-' && cs.getLast? == some 'i' && !(c :: cs).contains 'e' && !(c :: cs).contains 'f' then
        String.ofList ('-' :: c :: cs.dropLast) :: "--in-place=" :: inPlaceArgs rest
      else a :: inPlaceArgs rest
    | _ => (if a = "--in-place" then "--in-place=" else a) :: inPlaceArgs rest

/-- Joins texts that end in a backslash to the next one. -/
def joinContinued : List String → List String
  | a :: b :: rest =>
    if a.toList.getLast? == some '\\' then joinContinued ((a ++ "\n" ++ b) :: rest)
    else a :: joinContinued (b :: rest)
  | texts => texts
termination_by texts => texts.length

/-- Edits files, or the input. -/
def sed (args : List String) : Act Nat := do
  let form : OptionForm := ⟨"nEre:f:l:suzi:p", [("quiet", 'n'), ("silent", 'n'), ("expression", 'e'),
    ("file", 'f'), ("regexp-extended", 'E'), ("separate", 's'), ("unbuffered", 'u'),
    ("null-data", 'z'), ("in-place", 'i'), ("posix", 'p'), ("line-length", 'l')]⟩
  match Options.read form (inPlaceArgs args) with
  | .error text =>
    complain ("sed: " ++ text ++ "\n" ++ sedUsage)
    return 1
  | .ok o =>
    let given := o.has 'e' || o.has 'f'
    if !given && o.operands.isEmpty then
      complain sedUsage
      return 1
    let texts ← (o.options.filter fun v => v.1 == 'e' || v.1 == 'f').mapM fun (c, v) => do
      if c == 'e' then return Except.ok v
      else
        match ← readSource v with
        | .ok t => return Except.ok (if t.toList.getLast? == some '\n' then
            String.ofList t.toList.dropLast else t)
        | .error e => return .error ("couldn't open file " ++ v ++ ": " ++ e)
    let texts := if given then texts else [Except.ok (o.operands.headD "")]
    let paths := if given then o.operands else o.operands.tail
    let silent := o.has 'n' || (match texts with
      | .ok t :: _ => t = "#n" || "#n\n".toList.isPrefixOf t.toList
      | _ => false)
    match texts.mapM id >>= fun ts => Edit.parse (o.has 'E' || o.has 'r') (joinContinued ts) with
    | .error e =>
      complain ("sed: " ++ e ++ "\n")
      return 1
    | .ok (steps, labels) =>
      if o.has 'i' && paths.isEmpty then
        complain "sed: no input files\n"
        return 4
      let readTexts ← (Edit.readPaths steps).filterMapM fun path => do
        match ← readFile path with
        | .ok t => return some (path, readable t)
        | .error _ => return none
      let script : Edit.Script := { steps, labels, silent, texts := readTexts }
      let stop := if o.has 'z' then "\x00" else "\n"
      let (sources, failed) ← (if paths.isEmpty then ["-"] else paths).foldlM
        (fun (acc : List (String × String) × Nat) path => do
          match ← readSource path with
          | .ok t => return (acc.1 ++ [(path, t)], acc.2)
          | .error e =>
            if e = "Is a directory" then
              complain (if o.has 'i' then "sed: couldn't edit " ++ path ++ ": not a regular file\n"
                else "sed: " ++ "read error on " ++ path ++ ": " ++ e ++ "\n")
              return (acc.1, 4)
            else
              complain ("sed: can't read " ++ path ++ ": " ++ e ++ "\n")
              return (acc.1, 2)) ([], 0)
      let linesOfFile := fun (f : String × String) => Edit.linesFrom stop f.1 (readable f.2)
      let parts := if o.has 'i' || o.has 's' then sources.map fun f => (f.1, linesOfFile f)
        else [("-", sources.flatMap linesOfFile)]
      let (status, written, _, _) ← parts.foldlM
        (fun (acc : Nat × List (String × List String) × List Char × Bool) (path, ls) => do
          if acc.2.2.2 then return acc
          let start : Edit.State := { rest := ls, held := acc.2.2.1, files := acc.2.1 }
          let (ended, s) := Edit.edited script (2 * ls.length + 100000) false start
          if ended.isNone then
            complain "sed: -e expression #1, char 0: no previous regular expression\n"
          let status := ended.getD 1
          let left := if o.has 'i' then
              s.rest.map fun l => String.ofList l.text ++ if l.complete then "\n" else ""
            else []
          let text := rawText (String.join (s.written.reverse ++ left))
          let text := if o.has 'z' then text.replace "\n" "\x00" else text
          if o.has 'i' then
            match ← placeOf path with
            | .ok place =>
              let suffix := (o.value? 'i').getD ""
              let kept := place.dropLast ++ [place.getLastD "" ++ readable suffix]
              if suffix != "" then changeFiles fun t => copied t place kept
              writeFile place text
            | .error _ => pure ()
          else say text
          let isOver := status != 0 || (!o.has 'i' && !s.rest.isEmpty)
          return (if status != 0 then status else acc.1, s.files, s.held, isOver))
        (0, [], [], false)
      (Edit.writtenPaths steps).forM fun path => do
        unless path = "/dev/stdout" do
          let rows := ((written.find? (·.1 == path)).map (·.2)).getD []
          match ← placeOf path with
          | .ok place =>
            if path != "/dev/null" then writeFile place (rawText (String.join rows.reverse))
          | .error _ => pure ()
      return if status != 0 then status else failed

end Conveyor.Shell
