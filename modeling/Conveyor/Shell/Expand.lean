/-
**What words stand for, as far as no script has to be carried out.**

Main definitions:

* `Conveyor.Shell.tildeParts` — a text with the names of home directories replaced;
* `Conveyor.Shell.plainMarks` — the marks of a value;
* `Conveyor.Shell.pathsOf` — the paths that a field stands for.
-/

import Conveyor.Shell.Builtin

set_option autoImplicit false

namespace Conveyor.Shell

/-! ### Home directories -/

/-- Where a tilde means a home directory. -/
inductive Tilde where
  | nowhere
  | atFront
  /-- At the front and after each colon. -/
  | afterColons
  deriving DecidableEq, Repr

/-- The home directory that a name means; no name means one's own. -/
def Session.homeOf (s : Session) (name : String) : Option String :=
  if name = "" then s.value? "HOME" else if name = "root" then some "/root" else none

/-- A piece of a text with the name of a home directory at its front replaced; `closed` says that the
name ends at the end of the piece.  Parts come with whether they count as quoted. -/
def tildePiece (home : String → Option String) (closed : Bool) (s : String) : List (String × Bool) :=
  match s.toList with
  | '~' :: cs =>
    let name := cs.takeWhile (· != '/')
    let rest := cs.drop name.length
    if rest.isEmpty && !closed then [(s, false)]
    else
      match home (String.ofList name) with
      | some dir => [(dir, true), (String.ofList rest, false)]
      | none => [(s, false)]
  | _ => [(s, false)]

/-- A text with the names of home directories replaced; `first` says that it stands at the front, and
`last` that nothing follows it. -/
def tildeParts (home : String → Option String) (tilde : Tilde) (first last : Bool) (s : String) :
    List (String × Bool) :=
  match tilde with
  | .nowhere => [(s, false)]
  | .atFront => if first then tildePiece home last s else [(s, false)]
  | .afterColons =>
    let pieces := s.splitOn ":"
    (pieces.zipIdx.flatMap fun (p, i) =>
      let isLast := i + 1 = pieces.length
      (if i = 0 then [] else [(":", false)]) ++
        if i = 0 && !first then [(p, false)] else tildePiece home (last || !isLast) p)

/-! ### Values -/

/-- The marks of a text that is a value: quoted, or cut if it `splits`, or neither. -/
def textMarks (quoted splits : Bool) (s : String) : List Mark :=
  s.toList.map fun c => .letter c quoted (splits && !quoted)

/-- Lists of marks with a mark between them. -/
def joinMarks (between : Mark) : List (List Mark) → List Mark
  | [] => []
  | [ms] => ms
  | ms :: rest => ms ++ between :: joinMarks between rest

/-- The marks of the value of a name. -/
def plainMarks (s : Session) (splits : Bool) (name : String) (quoted : Bool) : List Mark :=
  if splits && name = "@" && quoted then
    let all := joinMarks .border (s.arguments.map (marksOf true))
    if s.arguments.isEmpty then [] else .quote :: all
  else if splits && !quoted && (name = "@" || name = "*") then
    joinMarks .gap (s.arguments.map valueMarks)
  else textMarks quoted splits ((s.value? name).getD "")

/-- A text without the line breaks at its end. -/
def dropBreaks (s : String) : String :=
  String.ofList (s.toList.reverse.dropWhile (· == '\n')).reverse

/-! ### Paths -/

/-- Cuts letters at slashes. -/
def segmentsOf : List Letter → List (List Letter)
  | [] => [[]]
  | l :: ls =>
    if l.1 == '/' then [] :: segmentsOf ls
    else
      match segmentsOf ls with
      | s :: ss => (l :: s) :: ss
      | [] => [[l]]

/-- The paths that segments match, below a path that is given as a text. -/
def pathsFrom (s : Session) (t : FileTree) : String → List (List Letter) → List String
  | _, [] => []
  | front, segment :: rest =>
    let pattern := Pattern.ofLetters segment
    let place? := fun (path : String) =>
      match t.locate (s.path (if path = "" then "." else path)) with
      | .ok place => some place
      | .error _ => none
    let names :=
      if !pattern.isOpen then
        let text := lettersText segment
        match place? (front ++ text) with
        | some place => if (t.node? place).isSome then [text] else []
        | none => []
      else
        match place? front with
        | none => []
        | some place =>
          let isHidden := fun (n : String) => n.toList.head? == some '.'
          let all := [".", ".."] ++ (t.names place).map rawText
          all.filter fun n => pattern.covers n &&
            (!isHidden n || (segment.head?.map (·.1)) == some '.')
    match rest with
    | [] => names.map (front ++ ·)
    | rest =>
      let isDirectory := fun (n : String) =>
        (place? (front ++ n)).any fun place => t.node? place == some .directory
      (names.filter isDirectory).flatMap fun n => pathsFrom s t (front ++ n ++ "/") rest

/-- The paths that a field stands for: itself, or those that it matches as a pattern. -/
def pathsOf (s : Session) (t : FileTree) (field : List Letter) : List String :=
  let text := lettersText field
  if s.has 'f' || !field.any (fun l => !l.2 && "*?[".toList.contains l.1) then [text]
  else
    let found := pathsFrom s t "" (segmentsOf field)
    if found.isEmpty || !(Pattern.ofLetters field).isOpen then [text]
    else found.mergeSort fun a b => decide (a ≤ b)

/-! ### Streams -/

/-- What follows when a path cannot be opened for reading, or be made. -/
def openError (reads : Bool) (path : String) (e : FileError) : String :=
  let text := match e with
    | .notFound | .notDirectory => if reads then "No such file" else "Directory nonexistent"
    | e => e.text
  (if reads then "cannot open " else "cannot create ") ++ path ++ ": " ++ text

/-- Leads a stream to a file for writing, or says why not. -/
def leadToFile (stream : Nat) (d : Direction) (path : String) : Act (Option String) := do
  match ← look path, ← placeOf path with
  | .ok .directory, _ => return openError false path .isDirectory
  | _, .error e => return openError false path e
  | found, .ok place =>
    if found.isOk && d == .output && (← session).has 'C' then
      return "cannot create " ++ path ++ ": File exists"
    if d != .append && d != .both then writeFile place ""
    else if !found.isOk then writeFile place ""
    lead stream (some (← newChannel (.file place 0 (d == .append))))
    return none

/-- Leads a stream elsewhere, or says why not. -/
def redirect (stream : Nat) (d : Direction) (target : String) : Act (Option String) := do
  let copy := fun (n : Nat) => do
    match ← channelOf n with
    | some channel =>
      lead stream (some channel)
      return (none : Option String)
    | none => return some (toString n ++ ": Bad file descriptor")
  match d with
  | .here _ =>
    lead stream (some (← newChannel (.buffer (bytesOfText target) [])))
    return none
  | .duplicate =>
    if target = "-" then
      lead stream none
      return none
    else copy ((digits? target).getD 0)
  | d =>
    if target = "/dev/null" then
      lead stream (some (← newChannel .nowhere))
      return none
    else if let some n := streamOf? target then copy n
    else if d != .input then leadToFile stream d target
    else if target = "/dev/zero" then
      lead stream (some (← newChannel .zeros))
      return none
    else
      match ← look target, ← placeOf target with
      | .ok .directory, _ =>
        lead stream (some (← newChannel .directory))
        return none
      | .ok _, .ok place =>
        lead stream (some (← newChannel (.file place 0 false)))
        return none
      | .error e, _ | _, .error e => return openError true target e

end Conveyor.Shell
