/-
**Commands that read texts and write them changed.**

Main definitions:

* `Conveyor.Shell.cat`, `Conveyor.Shell.headOf`, `Conveyor.Shell.wc`, `Conveyor.Shell.cut` and
  others — commands that read files or the input;
* `Conveyor.Shell.exchange` — a text with some characters replaced by others;
* `Conveyor.Shell.Order` — how lines are put in order.
-/

import Conveyor.Shell.Format
import Conveyor.Shell.Options
import Conveyor.Shell.Pattern
import Conveyor.Text.Blank

set_option autoImplicit false

namespace Conveyor.Shell

/-- The lines of a text with their breaks. -/
def linesKept (s : String) : List String :=
  let ls := s.splitOn "\n"
  let front := ls.dropLast.map (·.push '\n')
  match ls.getLast? with
  | some "" | none => front
  | some last => front ++ [last]

/-- A number with blanks in front, up to a width. -/
def column (width n : Nat) : String := String.ofList (padded false width (toString n).toList)

/-! ### Copying -/

/-- A line with all its characters shown. -/
def visibleLine (breaks tabs others : Bool) (line : List Char) : List Char :=
  line.flatMap fun c =>
    if c == '\n' then (if breaks then ['$', '\n'] else ['\n'])
    else if c == '\t' then (if tabs then ['^', 'I'] else ['\t'])
    else if !others then [c]
    else
      let (front, n) := if 128 ≤ c.toNat then (['M', '-'], c.toNat - 128) else ([], c.toNat)
      front ++ if n < 32 then ['^', Char.ofNat (n + 64)] else if n = 127 then ['^', '?']
        else [Char.ofNat n]

/-- Numbers lines; with `full`, only those that are not empty. -/
def numberLines (full : Bool) : Nat → List String → List String
  | _, [] => []
  | n, l :: ls =>
    if full && l == "\n" then l :: numberLines full n ls
    else (column 6 n ++ "\t" ++ l) :: numberLines full (n + 1) ls

/-- Drops empty lines that follow another one. -/
def squeezeLines : List String → List String
  | "\n" :: "\n" :: ls => squeezeLines ("\n" :: ls)
  | l :: ls => l :: squeezeLines ls
  | [] => []

/-- The place of the file to which the output leads. -/
def outputPlace : Act (Option (List String)) := do
  match ← channelOf 1 with
  | some n =>
    match (← get).world.channels.getD n .nowhere with
    | .file place _ _ => return some place
    | _ => return none
  | none => return none

/-- Copies files, or the input, to the output. -/
def cat (args : List String) : Act Nat :=
  withOptions "cat" ⟨"AbeEnstTuv", [("number", 'n'), ("show-all", 'A')]⟩ 1 args fun o => do
    let closed := (← channelOf 0).isNone
    let target ← outputPlace
    let isTarget := fun (path : String) => do
      match ← look path, ← placeOf path with
      | .ok (.file (_ :: _) _), .ok place => return some place == target
      | _, _ => return false
    let own ← o.operands.filterM isTarget
    own.forM fun path => complain ("cat: " ++ path ++ ": input file is output file\n")
    let paths := o.operands.filter fun p => !own.contains p
    let (found, failed) ← if paths.isEmpty && !own.isEmpty then pure ([], true)
      else readSources (aboutFile "cat") paths
    let failed := failed || !own.isEmpty
    let text := String.join (found.map (·.2))
    let all := o.has 'A'
    let ls := if o.options.isEmpty then [text] else linesKept text
    let ls := if o.has 's' then squeezeLines ls else ls
    let ls := ls.map fun l => String.ofList (visibleLine (all || o.has 'E' || o.has 'e')
      (all || o.has 'T' || o.has 't') (all || o.has 'v' || o.has 'e' || o.has 't') l.toList)
    say (String.join (if o.has 'b' then numberLines true 1 ls
      else if o.has 'n' then numberLines false 1 ls else ls))
    if closed && (o.operands.isEmpty || o.operands.contains "-") then
      complain "cat: closing standard input: Bad file descriptor\n"
    return if failed then 1 else 0

/-! ### Parts -/

/-- The value of a letter that multiplies a number. -/
def multiplier? (s : String) : Option Nat :=
  match s with
  | "" => some 1
  | "b" => some 512
  | "k" | "K" | "KiB" => some 1024
  | "kB" | "KB" => some 1000
  | "m" | "M" | "MiB" => some 1048576
  | "MB" => some 1000000
  | _ => none

/-- A count: a sign, a number and a letter that multiplies it. -/
def count? (s : String) : Option (Option Char × Nat) :=
  let (sign, cs) := match s.toList with
    | '-' :: cs => (some '-', cs)
    | '+' :: cs => (some '+', cs)
    | cs => (none, cs)
  let ds := cs.takeWhile Char.isDigit
  match digits? (String.ofList ds), multiplier? (String.ofList (cs.drop ds.length)) with
  | some n, some m => some (sign, n * m)
  | _, _ => none

/-- Arguments with an old way of giving a count put into the usual form. -/
def modernCount (signs : List Char) : List String → List String
  | a :: rest =>
    match a.toList with
    | s :: c :: cs =>
      if signs.contains s && c.isDigit then
        let ds := String.ofList (c :: cs)
        "-n" :: (if s == '+' then "+" ++ ds else ds) :: rest
      else a :: rest
    | _ => a :: rest
  | [] => []

/-- The name of a source over its part. -/
def sourceTitle (path : String) : String :=
  "==> " ++ (if path = "-" then "standard input" else path) ++ " <==\n"

/-- Shows a part of each source; `part` gets the count. -/
def partsOf (name : String) (args : List String)
    (part : Bool → Option Char × Nat → String → String) (usual : Option Char × Nat) : Act Nat :=
  let form : OptionForm :=
    ⟨"c:n:qvzf", [("lines", 'n'), ("bytes", 'c'), ("quiet", 'q'), ("silent", 'q'), ("verbose", 'v')]⟩
  withOptions name form 1 args fun o => do
    let ofBytes := match (o.options.reverse.find? fun v => v.1 == 'c' || v.1 == 'n') with
      | some (c, _) => c == 'c'
      | none => false
    let given := if ofBytes then o.value? 'c' else o.value? 'n'
    match given.map fun g => (g, count? g) with
    | some (g, none) =>
      let unit := if ofBytes then "bytes" else "lines"
      complain (name ++ ": invalid number of " ++ unit ++ ": " ++ curled g ++ "\n")
      return 1
    | found =>
      let count := (found.bind (·.2)).getD usual
      let paths := if o.operands.isEmpty then ["-"] else o.operands
      let titled := (1 < paths.length || o.has 'v') && !o.has 'q'
      let failure ← paths.foldlM (fun (acc : Bool × Bool) path => do
        let title := (if acc.1 then "" else "\n") ++ sourceTitle path
        let found ← if path = "-" then
            if name = "head" then (fun b => Except.ok (textOfBytes b)) <$> inputRest else readInput
          else readSource path
        match found with
        | .ok text =>
          if titled then say title
          let shown := if path = "/dev/zero" then String.ofList (List.replicate count.2 '\x00')
            else part ofBytes count text
          say shown
          if path = "-" && name = "head" then
            match (← channelOf 0).map (← get).world.channels.getD with
            | some channel =>
              match channel .nowhere with
              | .file _ _ _ => dropInput shown.length
              | _ => dropInput text.length
            | none => pure ()
          return (false, acc.2)
        | .error e =>
          if e = "Is a directory" then
            if titled then say title
            complain (name ++ ": error reading " ++ quotedName path ++ ": " ++ e ++ "\n")
          else complain (name ++ ": cannot open " ++ quotedName path ++ " for reading: " ++ e ++ "\n")
          return (acc.1, true)) (true, false)
      return if failure.2 then 1 else 0

/-- Shows the first lines or bytes, or all but the last ones. -/
def headOf (args : List String) : Act Nat :=
  partsOf "head" (modernCount ['-'] args) (fun ofBytes (sign, n) text =>
    if ofBytes then
      String.ofList (if sign == some '-' then text.toList.take (text.length - n)
        else text.toList.take n)
    else
      let ls := linesKept text
      String.join (if sign == some '-' then ls.take (ls.length - n) else ls.take n)) (none, 10)

/-- Shows the last lines or bytes, or those from a certain one on. -/
def tailOf (args : List String) : Act Nat :=
  partsOf "tail" (modernCount ['-', '+'] args) (fun ofBytes (sign, n) text =>
    if ofBytes then
      String.ofList (if sign == some '+' then text.toList.drop (n - 1)
        else text.toList.drop (text.length - n))
    else
      let ls := linesKept text
      String.join (if sign == some '+' then ls.drop (n - 1) else ls.drop (ls.length - n))) (none, 10)

/-! ### Counting -/

/-- Lines, words, characters, bytes and the longest line of a text. -/
def countsOf (text : String) : List (Char × Nat) :=
  let shown := readable text
  [('l', text.toList.count '\n'), ('w', (Text.words shown).length), ('m', shown.length),
    ('c', text.length), ('L', (linesOf shown).foldl (fun n l => max n l.length) 0)]

/-- Counts lines, words, characters or bytes. -/
def wc (args : List String) : Act Nat :=
  let form : OptionForm := ⟨"clLmw", [("lines", 'l'), ("words", 'w'), ("bytes", 'c'), ("chars", 'm'),
    ("max-line-length", 'L')]⟩
  withOptions "wc" form 1 args fun o => do
    let wanted := if o.options.isEmpty then ['l', 'w', 'c'] else o.options.map (·.1)
    let isRegular := fun (path : String) => do
      if path = "-" then
        match (← channelOf 0) with
        | some n =>
          match (← get).world.channels.getD n .nowhere with
          | .file place _ _ =>
            match (← files).node? place with
            | some (.file bytes _) => return some bytes.length
            | _ => return none
          | _ => return none
        | none => return none
      else
        match ← look path with
        | .ok (.file bytes _) => return some bytes.length
        | .ok .directory => return none
        | .error _ => return some 0
    let paths := if o.operands.isEmpty then ["-"] else o.operands
    let sizes ← paths.mapM isRegular
    let total := sizes.foldl (fun n s => n + s.getD 0) 0
    let least := if sizes.all Option.isSome then 1 else 7
    let width := if paths.length = 1 && wanted.eraseDups.length = 1 then 1
      else max least (toString total).length
    let row := fun (counts : List (Char × Nat)) (path : String) =>
      let shown := counts.filter fun e => wanted.contains e.1
      " ".intercalate (shown.map fun e => column width e.2) ++
        (if o.operands.isEmpty then "" else " " ++ path) ++ "\n"
    let zero := countsOf ""
    let add := fun (a b : List (Char × Nat)) => (a.zip b).map fun (x, y) =>
      (x.1, if x.1 == 'L' then max x.2 y.2 else x.2 + y.2)
    let (sum, failed) ← paths.foldlM (fun (acc : List (Char × Nat) × Bool) path => do
      match ← readSource path with
      | .ok text =>
        let counts := countsOf text
        say (row counts path)
        return (add acc.1 counts, acc.2)
      | .error e =>
        let name := if o.operands.isEmpty then "standard input" else path
        complain (aboutFile "wc" name e ++ "\n")
        if e = "Is a directory" then say (row zero path)
        return (acc.1, true)) (zero, false)
    if 1 < paths.length then say (row sum "total")
    return if failed then 1 else 0

/-! ### Characters -/

/-- The characters of a set as it is written, with a mark for what is repeated. -/
structure CharSet where
  chars : List Char := []
  /-- The place and the character of a repetition that fills the set up. -/
  filler : Option (Nat × Char) := none

/-- A text with its escapes read, each character with whether it was one. -/
def unescaped : Nat → List Char → List Letter
  | 0, _ => []
  | _ + 1, [] => []
  | fuel + 1, '\\' :: c :: cs =>
    if '0' ≤ c ∧ c ≤ '7' then
      let (v, rest) := octal 3 0 (c :: cs)
      (Char.ofNat (v % 256), true) :: unescaped fuel rest
    else ((escapeChar? c).getD c, true) :: unescaped fuel cs
  | fuel + 1, c :: cs => (c, false) :: unescaped fuel cs

/-- Puts characters at the front of a set. -/
def CharSet.add (s : CharSet) (cs : List Char) : CharSet :=
  { chars := cs ++ s.chars, filler := s.filler.map fun f => (f.1 + cs.length, f.2) }

/-- The repetition at the front of letters, after its bracket and character, and what follows. -/
def repetition? (ls : List Letter) : Option (Nat × List Letter) :=
  let ds := ls.takeWhile fun l => l.1.isDigit
  match ls.drop ds.length with
  | (']', false) :: rest =>
    let text := ds.map (·.1)
    let n := if text.head? == some '0' then (octal text.length 0 text).1
      else text.foldl (fun n c => 10 * n + (c.toNat - 48)) 0
    some (n, rest)
  | _ => none

/-- The characters that a set of letters stands for, or what is wrong with it. -/
def charSetFrom : Nat → List Letter → Except String CharSet
  | 0, _ => .ok {}
  | _ + 1, [] => .ok {}
  | fuel + 1, ('[', false) :: (':', false) :: rest => do
    let name := rest.takeWhile (·.1 != ':')
    match rest.drop name.length with
    | (':', false) :: (']', false) :: after =>
      match Pattern.class? (lettersText name) with
      | some f =>
        let all := ((List.range 256).map Char.ofNat).filter f
        return (← charSetFrom fuel after).add all
      | none => throw ("invalid character class " ++ curled (lettersText name))
    | _ => return (← charSetFrom fuel ((':', false) :: rest)).add ['[']
  | fuel + 1, (a, q) :: ('-', false) :: (b, _) :: rest => do
    if b < a then
      throw ("range-endpoints of '" ++ String.ofList [a, '-', b] ++
        "' are in reverse collating sequence order")
    let _ := q
    let all := (List.range (b.toNat + 1 - a.toNat)).map fun i => Char.ofNat (a.toNat + i)
    return (← charSetFrom fuel rest).add all
  | fuel + 1, ('[', false) :: (c, q) :: ('*', false) :: rest => do
    match repetition? rest with
    | some (0, after) =>
      let more ← charSetFrom fuel after
      return { more with filler := some (0, c) }
    | some (n, after) => return (← charSetFrom fuel after).add (List.replicate n c)
    | none => return (← charSetFrom fuel ((c, q) :: ('*', false) :: rest)).add ['[']
  | fuel + 1, (c, _) :: rest => do return (← charSetFrom fuel rest).add [c]

/-- The characters that a text stands for. -/
def charSet (s : String) : Except String CharSet :=
  let ls := unescaped s.length.succ s.toList
  charSetFrom ls.length.succ ls

/-- The characters of a set that is filled up to a length. -/
def CharSet.filled (s : CharSet) (length : Nat) : List Char :=
  match s.filler with
  | some (place, c) =>
    s.chars.take place ++ List.replicate (length - s.chars.length) c ++ s.chars.drop place
  | none => s.chars

/-- A text with the characters of a set replaced by those of another set at the same places, the
later ones first; the last one of the other set goes on. -/
def exchange (olds news : List Char) (cs : List Char) : List Char :=
  let pairs := (olds.zipIdx.map fun (c, i) => (c, news[i]?.getD (news.getLastD c))).reverse
  cs.map fun c =>
    match pairs.find? (·.1 == c) with
    | some (_, d) => d
    | none => c

/-- A text in which characters of a set do not follow themselves. -/
def squeeze (set : List Char) : List Char → List Char
  | a :: b :: cs =>
    if a == b && set.contains a then squeeze set (b :: cs) else a :: squeeze set (b :: cs)
  | cs => cs

/-- Replaces characters of the input, drops them, or joins those that repeat. -/
def tr (args : List String) : Act Nat := do
  let form : OptionForm := ⟨"cCdst", [("complement", 'c'), ("delete", 'd'), ("squeeze-repeats", 's'),
    ("truncate-set1", 't')]⟩
  match Options.readFront form args with
  | .error text => usage "tr" text 1
  | .ok o =>
    let drops := o.has 'd'
    let joins := o.has 's'
    let least := if drops == joins then 2 else 1
    let most := if drops && !joins then 1 else 2
    let fail := fun (text : String) => do
      complain ("tr: " ++ text ++ "\n")
      return 1
    match o.operands with
    | [] => usage "tr" "missing operand" 1
    | sets =>
      if sets.length < least then
        let why := if drops then "Two strings must be given when both deleting and squeezing repeats."
          else "Two strings must be given when translating."
        usage "tr" ("missing operand after " ++ curled (sets.headD "") ++ "\n" ++ why) 1
      else if most < sets.length then
        let hint := if drops && sets.length = 2 then
          "\nOnly one string may be given when deleting without squeezing repeats." else ""
        usage "tr" ("extra operand " ++ curled (sets.getD most "") ++ hint) 1
      else
        match charSet (sets.headD ""), charSet (sets.getD 1 "") with
        | .error e, _ | _, .error e => fail e
        | .ok first, .ok second =>
          let named := first.filled 0
          let complement := o.has 'c' || o.has 'C'
          let olds := if complement then
              ((List.range 256).map Char.ofNat).filter fun c => !named.contains c
            else named
          let news := second.filled olds.length
          if sets.length = 2 && !drops && news.isEmpty && !olds.isEmpty && !o.has 't' then
            fail "when not truncating set1, string2 must be non-empty"
          else
            match ← readInput with
            | .error e => fail ("read error: " ++ e)
            | .ok text =>
              let cs := text.toList
              let shown := if drops then
                  let kept := cs.filter fun c => !olds.contains c
                  if joins then squeeze news kept else kept
                else if sets.length = 1 then squeeze olds cs
                else
                  let olds := if o.has 't' then olds.take news.length else olds
                  let made := exchange olds news cs
                  if joins then squeeze news made else made
              say (String.ofList shown)
              return 0

/-! ### Columns -/

/-- The ranges of a list of numbers, or what is wrong with it; `noun` says what is numbered. -/
def rangesOf (noun : String) (list : String) : Except String (List (Nat × Option Nat)) :=
  (list.splitOn ",").mapM fun r =>
    let number := fun (s : String) =>
      match digits? s with
      | some 0 => throw (noun ++ " are numbered from 1")
      | some n => return n
      | none =>
        throw ("invalid " ++ (if noun = "fields" then "field value " else "byte/character position ")
          ++ curled s)
    match r.splitOn "-" with
    | ["", ""] => .error ("invalid range with no endpoint: " ++ r)
    | [a, ""] => do return (← number a, none)
    | ["", b] => do return (1, some (← number b))
    | [a, b] => do
      let a ← number a
      let b ← number b
      if b < a then throw "invalid decreasing range"
      return (a, some b)
    | _ => do
      let n ← number r
      return (n, some n)

/-- Whether a place, counted from one, is in ranges. -/
def inRanges (ranges : List (Nat × Option Nat)) (n : Nat) : Bool :=
  ranges.any fun r => r.1 ≤ n && (r.2.all fun b => n ≤ b)

/-- The elements of a list whose places are in ranges. -/
def chosen {α : Type} (ranges : List (Nat × Option Nat)) (others : Bool) (xs : List α) : List α :=
  (xs.zipIdx.filter fun x => inRanges ranges (x.2 + 1) != others).map (·.1)

/-- Shows some fields, characters or bytes of each line. -/
def cut (args : List String) : Act Nat :=
  let form : OptionForm := ⟨"b:c:d:f:nszO:V", [("fields", 'f'), ("delimiter", 'd'),
    ("characters", 'c'), ("bytes", 'b'), ("only-delimited", 's'), ("output-delimiter", 'O'),
    ("complement", 'V'), ("zero-terminated", 'z')]⟩
  withOptions "cut" form 1 args fun o => do
    let lists := o.options.filter fun v => ['b', 'c', 'f'].contains v.1
    match lists with
    | [] => usage "cut" "you must specify a list of bytes, characters, or fields" 1
    | _ :: _ :: _ => usage "cut" "only one list may be specified" 1
    | [(kind, list)] =>
      let byFields := kind == 'f'
      let mark := o.value? 'd'
      if mark.any fun m => 1 < m.length then
        usage "cut" "the delimiter must be a single character" 1
      else if !byFields && mark.isSome then
        usage "cut" "an input delimiter may be specified only when operating on fields" 1
      else if !byFields && o.has 's' then
        usage "cut"
          "suppressing non-delimited lines makes sense\n\tonly when operating on fields" 1
      else
        match rangesOf (if byFields then "fields" else "byte/character positions") list with
        | .error e => usage "cut" e 1
        | .ok ranges =>
          let mark := mark.getD "\t"
          let mark := if mark = "" then "\x00" else mark
          let others := o.has 'V'
          let (found, failed) ← readSources (aboutFile "cut") o.operands
          let ls := found.flatMap fun f => linesOf f.2
          sayLines (ls.filterMap fun l =>
            if byFields then
              let fs := l.splitOn mark
              if fs.length = 1 then (if o.has 's' then none else some l)
              else some (((o.value? 'O').getD mark).intercalate (chosen ranges others fs))
            else some (String.ofList (chosen ranges others l.toList)))
          return if failed then 1 else 0

/-! ### Lines in order -/

/-- How lines or keys of them are compared. -/
structure LineOrder where
  numeric : Bool := false
  human : Bool := false
  folds : Bool := false
  reversed : Bool := false
  dropsBlanks : Bool := false
  /-- Parts of digits count as numbers. -/
  version : Bool := false
  /-- The fields and characters between which the key stands; without them, it is the line. -/
  start : Nat × Nat := (1, 1)
  stop : Option (Nat × Nat) := none

/-- The number at the front of a text: its sign, its digits before the point and those after it. -/
def leadingNumber (human : Bool) (s : List Char) : Int :=
  let cs := s.dropWhile fun c => c == ' ' || c == '\t'
  let (negative, cs) := match cs with
    | '-' :: cs => (true, cs)
    | cs => (false, cs)
  let whole := cs.takeWhile Char.isDigit
  let rest := cs.drop whole.length
  let (fraction, rest) := match rest with
    | '.' :: rest => (rest.takeWhile Char.isDigit, rest.dropWhile Char.isDigit)
    | rest => ([], rest)
  let fraction := (fraction ++ List.replicate 20 '0').take 20
  let n := (whole ++ fraction).foldl (fun n c => 10 * n + (c.toNat - 48)) 0
  let scale := if human then ("KMGTPE".toList.findIdx? (· == (rest.headD ' ').toUpper)).elim 0 (· + 1)
    else 0
  let n := n * Nat.pow 1024 scale
  if negative then -Int.ofNat n else n

/-- Cuts a text into runs of digits and others. -/
def runsOf : Nat → List Char → List (Bool × List Char)
  | 0, _ => []
  | _ + 1, [] => []
  | fuel + 1, c :: cs =>
    let run := (c :: cs).takeWhile fun d => d.isDigit == c.isDigit
    (c.isDigit, run) :: runsOf fuel ((c :: cs).drop run.length)

/-- Compares runs of digits as numbers, and others as they are. -/
def compareRuns : List (Bool × List Char) → List (Bool × List Char) → Ordering
  | [], [] => .eq
  | [], _ :: _ => .lt
  | _ :: _, [] => .gt
  | (d, a) :: as, (e, b) :: bs =>
    let number := fun (ds : List Char) => ds.foldl (fun n c => 10 * n + (c.toNat - 48)) 0
    let first := if d && e then Ord.compare (number a) (number b)
      else Ord.compare (String.ofList a) (String.ofList b)
    if first == .eq then compareRuns as bs else first

/-- The fields of a line with the blanks before them, or those between marks. -/
def sortFields (mark : Option Char) (line : List Char) : List (List Char) :=
  match mark with
  | some m => ((String.ofList line).splitOn (String.singleton m)).map String.toList
  | none => cutFields line.length.succ line
where
  /-- Cuts before blanks. -/
  cutFields : Nat → List Char → List (List Char)
    | 0, _ => []
    | _ + 1, [] => []
    | fuel + 1, cs =>
      let isGap := fun (c : Char) => c == ' ' || c == '\t'
      let gap := cs.takeWhile isGap
      let word := (cs.drop gap.length).takeWhile fun c => !isGap c
      (gap ++ word) :: cutFields fuel (cs.drop (gap.length + word.length))

/-- The key of a line. -/
def LineOrder.key (o : LineOrder) (mark : Option Char) (line : List Char) : List Char :=
  let fields := sortFields mark line
  let joint := if mark.isSome then 1 else 0
  let offset := fun (n : Nat) => (fields.take n).foldl (fun k f => k + f.length + joint) 0
  let start := offset (o.start.1 - 1) + (o.start.2 - 1)
  let stop := match o.stop with
    | none => line.length
    | some (f, 0) => offset f - joint
    | some (f, c) => offset (f - 1) + c
  (line.take stop).drop start

/-- Compares two keys. -/
def LineOrder.compare (o : LineOrder) (a b : List Char) : Ordering :=
  let strip := fun (cs : List Char) =>
    if o.dropsBlanks then cs.dropWhile fun c => c == ' ' || c == '\t' else cs
  let (a, b) := (strip a, strip b)
  let found := if o.numeric || o.human then
      Ord.compare (leadingNumber o.human a) (leadingNumber o.human b)
    else if o.version then compareRuns (runsOf a.length.succ a) (runsOf b.length.succ b)
    else
      let fold := fun (cs : List Char) => if o.folds then cs.map Char.toUpper else cs
      Ord.compare (String.ofList (fold a)) (String.ofList (fold b))
  if o.reversed then found.swap else found

/-- The order that letters ask for. -/
def LineOrder.with (o : LineOrder) (letters : List Char) : LineOrder :=
  letters.foldl (fun o c => match c with
    | 'n' | 'g' => { o with numeric := true }
    | 'h' => { o with human := true }
    | 'f' => { o with folds := true }
    | 'r' => { o with reversed := true }
    | 'b' => { o with dropsBlanks := true }
    | 'V' => { o with version := true }
    | _ => o) o

/-- The order of a key as it is written: a field and a character, perhaps with letters, and those up
to which it goes. -/
def orderOf (usual : LineOrder) (text : String) : LineOrder :=
  let part := fun (s : String) =>
    let cs := s.toList
    let f := cs.takeWhile Char.isDigit
    let rest := cs.drop f.length
    let (c, rest) := match rest with
      | '.' :: rest => (rest.takeWhile Char.isDigit, rest.dropWhile Char.isDigit)
      | rest => ([], rest)
    ((digits? (String.ofList f)).getD 1, digits? (String.ofList c), rest)
  match text.splitOn "," with
  | [a] =>
    let (f, c, letters) := part a
    { (if letters.isEmpty then usual else LineOrder.with {} letters) with start := (f, c.getD 1) }
  | a :: b :: _ =>
    let (f, c, letters) := part a
    let (g, d, more) := part b
    let o := if letters.isEmpty && more.isEmpty then usual else LineOrder.with {} (letters ++ more)
    { o with start := (f, c.getD 1), stop := some (g, d.getD 0) }
  | [] => usual

/-- Shows lines in order. -/
def sort (args : List String) : Act Nat :=
  let form : OptionForm := ⟨"bcCfghimMno:rRsS:t:uk:VdzT:", [("numeric-sort", 'n'), ("reverse", 'r'),
    ("unique", 'u'), ("key", 'k'), ("field-separator", 't'), ("output", 'o'), ("stable", 's'),
    ("ignore-case", 'f'), ("check", 'c'), ("human-numeric-sort", 'h'), ("version-sort", 'V')]⟩
  withOptions "sort" form 2 args fun o => do
    let (found, failed) ← readSources (fun path e =>
      if e = "Is a directory" then "sort: read failed: " ++ named path ++ ": " ++ e
      else "sort: cannot read: " ++ named path ++ ": " ++ e) o.operands
    if failed then return 2
    let usual := LineOrder.with {} (o.options.map (·.1))
    let mark := (o.value? 't').map fun t => if t = "\\0" then '\x00' else t.toList.headD '\t'
    let orders := match o.values 'k' with
      | [] => [usual]
      | keys => keys.map (orderOf usual)
    let byKeys := fun (a b : String) =>
      orders.foldl (fun (found : Ordering) order =>
        if found == .eq then
          order.compare (order.key mark a.toList) (order.key mark b.toList)
        else found) Ordering.eq
    let whole := fun (a b : String) =>
      match byKeys a b with
      | .eq =>
        if o.has 's' || o.has 'u' then Ordering.eq
        else
          let last := Ord.compare a b
          if usual.reversed then last.swap else last
      | found => found
    let ls := found.flatMap fun f => linesOf f.2
    if o.has 'c' || o.has 'C' then
      let pairs := (ls.zip (ls.drop 1)).zipIdx
      match pairs.find? fun p => whole p.1.1 p.1.2 == .gt ||
          (o.has 'u' && byKeys p.1.1 p.1.2 == .eq) with
      | some ((_, b), i) =>
        let name := (o.operands.headD "-")
        unless o.has 'C' do
          complain ("sort: " ++ name ++ ":" ++ toString (i + 2) ++ ": disorder: " ++ b ++ "\n")
        return 1
      | none => return 0
    else
      let sorted := ls.mergeSort fun a b => whole a b != .gt
      let sorted := if o.has 'u' then
          (sorted.foldl (fun (acc : List String) l =>
            match acc with
            | k :: _ => if byKeys k l == .eq then acc else l :: acc
            | [] => [l]) []).reverse
        else sorted
      match o.value? 'o' with
      | none =>
        sayLines sorted
        return 0
      | some path =>
        match ← placeOf path with
        | .ok place =>
          writeFile place (String.join (sorted.map (· ++ "\n")))
          return 0
        | .error e =>
          complain ("sort: open failed: " ++ named path ++ ": " ++ e.text ++ "\n")
          return 2

/-- Groups lines that follow each other and have the same key. -/
def groupsOf (key : String → String) : List String → List (List String)
  | [] => []
  | l :: ls =>
    match groupsOf key ls with
    | (m :: ms) :: gs => if key l == key m then (l :: m :: ms) :: gs else [l] :: (m :: ms) :: gs
    | gs => [l] :: gs

/-- Shows lines, but of equal lines in a row only the first one. -/
def uniq (args : List String) : Act Nat :=
  let form : OptionForm := ⟨"cdDuif:s:w:z", [("count", 'c'), ("repeated", 'd'), ("unique", 'u'),
    ("ignore-case", 'i')]⟩
  withOptions "uniq" form 1 args fun o => do
    match ← readSource (o.operands.headD "-") with
    | .error e =>
      complain (aboutFile "uniq" (o.operands.headD "-") e ++ "\n")
      return 1
    | .ok text =>
      let number := fun (c : Char) => ((o.value? c).bind digits?).getD 0
      let isGap := fun (c : Char) => c == ' ' || c == '\t'
      let skipField := fun (cs : List Char) => (cs.dropWhile isGap).dropWhile fun c => !isGap c
      let key := fun (l : String) =>
        let cs := (List.range (number 'f')).foldl (fun cs _ => skipField cs) l.toList
        let cs := cs.drop (number 's')
        let cs := if o.has 'w' then cs.take (number 'w') else cs
        String.ofList (if o.has 'i' then cs.map Char.toLower else cs)
      let groups := groupsOf key (linesOf text)
      let groups := if o.has 'd' || o.has 'D' then groups.filter (1 < ·.length) else groups
      let groups := if o.has 'u' then groups.filter (·.length = 1) else groups
      let ls := groups.flatMap fun g =>
        if o.has 'D' then g
        else if o.has 'c' then [column 7 g.length ++ " " ++ g.headD ""]
        else g.take 1
      match o.operands.tail.head? with
      | none => sayLines ls
      | some path =>
        match ← placeOf path with
        | .ok place => writeFile place (String.join (ls.map (· ++ "\n")))
        | .error e => complain (aboutFile "uniq" path e.text ++ "\n")
      return 0

/-! ### Others -/

/-- Shows the lines of sources, each changed. -/
def eachLine (name : String) (args : List String) (f : List String → List String) : Act Nat := do
  let (found, failed) ← readSources (aboutFile name) args
  say (String.join (f (found.flatMap fun t => linesKept t.2)))
  return if failed then 1 else 0

/-- Shows lines from their ends. -/
def rev (args : List String) : Act Nat := do
  let (found, failed) ← readSources (fun path e => "rev: cannot open " ++ path ++ ": " ++ e) args
  let ls := found.flatMap fun t => linesKept t.2
  say (String.join (ls.map fun l =>
    let line := if l.toList.getLast? == some '\n' then String.ofList l.toList.dropLast else l
    let back := rawText (String.ofList (readable line).toList.reverse)
    if line == l then back else back ++ "\n"))
  return if failed then 1 else 0

/-- Shows lines, the last one first. -/
def tac (args : List String) : Act Nat := do
  let (found, failed) ← readSources (fun path e =>
    "tac: failed to open " ++ quotedName path ++ " for reading: " ++ e) args
  say (String.join (found.map fun t => String.join (linesKept t.2).reverse))
  return if failed then 1 else 0

/-- Numbers lines. -/
def nl (args : List String) : Act Nat :=
  withOptions "nl" ⟨"b:w:s:v:i:n:", []⟩ 1 args fun o => do
    let (found, failed) ← readSources (aboutFile "nl") o.operands
    let width := ((o.value? 'w').bind digits?).getD 6
    let joint := (o.value? 's').getD "\t"
    let step := ((o.value? 'i').bind digits?).getD 1
    let (ls, _) := (found.flatMap fun t => linesOf t.2).foldl (fun (acc : List String × Nat) l =>
      if l = "" && o.value? 'b' != some "a" then
        (String.ofList (List.replicate (width + joint.length) ' ') :: acc.1, acc.2)
      else ((column width acc.2 ++ joint ++ l) :: acc.1, acc.2 + step))
      ([], ((o.value? 'v').bind digits?).getD 1)
    sayLines ls.reverse
    return if failed then 1 else 0

/-- The lines of lists at the same places, with marks between them that go round. -/
def pasted (marks : List Char) (lists : List (List String)) : List String :=
  let count := lists.foldl (fun n l => max n l.length) 0
  (List.range count).map fun i =>
    String.join (lists.zipIdx.map fun (l, j) =>
      let mark := if j = 0 then "" else
        match marks[(j - 1) % max 1 marks.length]? with
        | some m => String.singleton m
        | none => ""
      mark ++ l.getD i "")

/-- Joins lines of sources. -/
def paste (args : List String) : Act Nat :=
  withOptions "paste" ⟨"d:sz", [("delimiters", 'd'), ("serial", 's')]⟩ 1 args fun o => do
    let marks := (unescaped 1000 ((o.value? 'd').getD "\t").toList).map fun l =>
      if l.2 && l.1 == '0' then '\x00' else l.1
    let paths := if o.operands.isEmpty then ["-"] else o.operands
    let inputs := (paths.filter (· == "-")).length
    let input ← if inputs = 0 then pure [] else
      match ← readInput with
      | .ok t => pure (linesOf t)
      | .error _ => pure []
    let (lists, _, failed) ← paths.foldlM
      (fun (acc : List (List String) × Nat × Bool) path => do
        if path = "-" then
          let mine := (input.zipIdx.filter fun l => l.2 % inputs == acc.2.1).map (·.1)
          return (acc.1 ++ [mine], acc.2.1 + 1, acc.2.2)
        else
          match ← readSource path with
          | .ok t => return (acc.1 ++ [linesOf t], acc.2)
          | .error e =>
            complain (aboutFile "paste" path e ++ "\n")
            return (acc.1, acc.2.1, true)) ([], 0, false)
    if failed then return 1
    sayLines (if o.has 's' then
        lists.map fun l => (pasted marks (l.map fun x => [x])).headD ""
      else pasted marks lists)
    return 0

/-- Breaks a line so that no piece is too wide; with `atBlanks`, after a blank where there is one. -/
def folded (width : Nat) (atBlanks : Bool) : Nat → List Char → List (List Char)
  | 0, cs => [cs]
  | fuel + 1, cs =>
    if cs.length ≤ width then [cs]
    else
      let front := cs.take width
      let kept := (front.reverse.dropWhile (· != ' ')).length
      let n := if atBlanks && kept != 0 then kept else max 1 width
      cs.take n :: folded width atBlanks fuel (cs.drop n)

/-- Breaks lines that are too wide. -/
def fold (args : List String) : Act Nat :=
  withOptions "fold" ⟨"w:sb", [("width", 'w'), ("spaces", 's')]⟩ 1 args fun o => do
    let width := ((o.value? 'w').bind digits?).getD 80
    eachLine "fold" o.operands fun ls => ls.map fun l =>
      let hasEnd := l.toList.getLast? == some '\n'
      let line := if hasEnd then l.toList.dropLast else l.toList
      let pieces := folded width (o.has 's') l.length.succ line
      "\n".intercalate (pieces.map String.ofList) ++ if hasEnd then "\n" else ""

/-- Copies the input to the output and to files. -/
def tee (args : List String) : Act Nat :=
  withOptions "tee" ⟨"aip", [("append", 'a')]⟩ 1 args fun o => do
    let text := match ← readInput with
      | .ok t => t
      | .error _ => ""
    let failed ← eachOf 1 o.operands fun path => do
      match ← look path, ← placeOf path with
      | .ok .directory, _ => return some ("tee: " ++ named path ++ ": Is a directory")
      | _, .error e =>
        return if path = "/dev/null" then none else some (aboutFile "tee" path e.text)
      | found, .ok place =>
        if let some n := streamOf? path then
          let _ ← writeTo n (bytesOfText text)
        else if path != "/dev/null" then
          let old := match found with
            | .ok (.file bytes _) => if o.has 'a' then textOfBytes bytes else ""
            | _ => ""
          writeFile place (old ++ text)
        return none
    say text
    return failed

/-- How often a line is written that is written without end. -/
def manyTimes : Nat := 65536

/-- Writes a line many times. -/
def yes (args : List String) : Act Nat := do
  let line := if args.isEmpty then "y" else " ".intercalate args
  sayLines (List.replicate manyTimes line)
  return 0

/-- A decimal number as a text writes it: its sign, its digits and how many of them stand after the
point. -/
def decimalOf? (s : String) : Option (Int × Nat) :=
  let (negative, cs) := match s.toList with
    | '-' :: cs => (true, cs)
    | '+' :: cs => (false, cs)
    | cs => (false, cs)
  let whole := cs.takeWhile Char.isDigit
  let fraction := match cs.drop whole.length with
    | '.' :: rest => if rest.all Char.isDigit then some rest else none
    | [] => some []
    | _ => none
  fraction.bind fun f =>
    if whole.isEmpty && f.isEmpty then none
    else
      let n := Int.ofNat ((whole ++ f).foldl (fun n c => 10 * n + (c.toNat - 48)) 0)
      some (if negative then -n else n, f.length)

/-- A number of units, so many of which make one, with so many places. -/
def placesText (places : Nat) (n : Int) : String :=
  String.ofList ((if n < 0 then ['-'] else []) ++ Decimal.pointed places (Decimal.digits n.natAbs))

/-- Counts from one number to another in steps. -/
def seq (args : List String) : Act Nat := do
  let form : OptionForm := ⟨"f:s:w", [("separator", 's'), ("equal-width", 'w'), ("format", 'f')]⟩
  let isNumber := fun (a : String) => match a.toList with
    | '-' :: c :: _ => c.isDigit || c == '.'
    | _ => false
  let front := args.takeWhile fun a => !isNumber a
  match Options.readFront form front with
  | .error text => usage "seq" text 1
  | .ok o =>
    let operands := o.operands ++ args.drop front.length
    if operands.isEmpty then usage "seq" "missing operand" 1
    else if 3 < operands.length then
      usage "seq" ("extra operand " ++ curled (operands.getD 3 "")) 1
    else
      match operands.find? fun a => (decimalOf? a).isNone with
      | some a => usage "seq" ("invalid floating point argument: " ++ curled a) 1
      | none =>
        let ns := operands.filterMap decimalOf?
        let (first, step, last) := match ns with
          | [c] => ((1, 0), (1, 0), c)
          | [a, c] => (a, (1, 0), c)
          | [a, b, c] => (a, b, c)
          | _ => ((1, 0), (1, 0), (0, 0))
        if step.1 = 0 then
          usage "seq" ("invalid Zero increment value: " ++ curled (operands.getD 1 "")) 1
        else
          let places := max first.2 step.2
          let scale := max places last.2
          let unit := fun (n : Int × Nat) => n.1 * Int.ofNat (Nat.pow 10 (scale - n.2))
          let (a, b, c) := (unit first, unit step, unit last)
          let count := if (b > 0 && a > c) || (b < 0 && a < c) then 0
            else ((c - a).tdiv b).toNat + 1
          let values := (List.range count).map fun i => a + b * Int.ofNat i
          let shown := values.map fun n => placesText places (n.tdiv (Nat.pow 10 (scale - places)))
          let width := shown.foldl (fun w t => max w t.length) 0
          let shown := match o.value? 'f' with
            | some f => shown.map fun t => String.ofList (formatted f [t]).chars
            | none =>
              if o.has 'w' then shown.map fun t =>
                let cs := t.toList
                let sign := cs.takeWhile (· == '-')
                String.ofList (sign ++ List.replicate (width - cs.length) '0' ++ cs.drop sign.length)
              else shown
          unless shown.isEmpty do say (((o.value? 's').getD "\n").intercalate shown ++ "\n")
          return 0

end Conveyor.Shell
