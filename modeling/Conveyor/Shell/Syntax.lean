/-
**How a text writes a script.**

A script is read from the front, word by word, without looking ahead further than one token; each
step returns what is left.  What stands in the output of a script between parentheses is read on the
way, so a script with a defect inside is defect as a whole.

Main definitions:

* `Conveyor.Shell.partsFrom` — the parts of a word;
* `Conveyor.Shell.readToken` — the next word or sign;
* `Conveyor.Shell.listFrom` — commands one after the other;
* `Conveyor.Shell.readLine?` — the next line of a script, with all that it needs to be complete.
-/

import Conveyor.Shell.Source

set_option autoImplicit false

namespace Conveyor.Shell

/-! ### Words -/

/-- What stands around the parts that are read, which decides where they end. -/
inductive Context where
  /-- Nothing: a blank or a sign ends the word. -/
  | bare
  /-- Double quotes, perhaps inside of braces. -/
  | quotes (inBraces : Bool)
  /-- The braces around a value, after its name; perhaps these stand in quotes, and perhaps in a
  text below the script. -/
  | braces (quoted inText : Bool)
  /-- The parentheses around a sum, with so many open ones inside. -/
  | sum (depth : Nat)
  /-- A text below the script, up to a closing line. -/
  | below (closing : String) (dropsTabs : Bool)
  deriving DecidableEq, Repr

/-- Whether what stands in a context counts as quoted. -/
def Context.quoted : Context → Bool
  | .bare => false
  | .braces quoted _ => quoted
  | .quotes _ | .sum _ | .below _ _ => true

/-- Whether a context stands in a text below the script. -/
def Context.inText : Context → Bool
  | .below _ _ => true
  | .braces _ inText => inText
  | _ => false

/-- What is wrong when a text ends in a context; a word may end with it. -/
def Context.flaw? : Context → Option Flaw
  | .bare | .below _ _ => none
  | .quotes _ => some .unterminated
  | .braces quoted inText => some (if quoted && !inText then .unterminated else .missing "\x7d")
  | .sum _ => some (.missing "))")

/-- Whether a backslash takes away the meaning of a character in a context that counts as quoted. -/
def Context.protects (ctx : Context) (c : Char) : Bool :=
  c == '\\' || c == '$' || c == '\x60' ||
    match ctx with
    | .quotes inBraces => c == '"' || (inBraces && c == '\x7d')
    | .braces _ _ => c == '"' || c == '\x7d'
    | .sum _ => c == '"'
    | _ => false

/-- Whether a character ends a word. -/
def endsWord (c : Char) : Bool := " \t\n;&|()<>".toList.contains c

/-- Whether a character is the name of a value that the script itself keeps. -/
def isSpecial (c : Char) : Bool := "$?#@*!-".toList.contains c

/-- The text up to a closing quote. -/
def untilQuote : Nat → String → Reading String
  | 0, _ => flawed .unterminated
  | fuel + 1, s => do
    match ← takeRaw with
    | none => flawed .unterminated
    | some '\'' => return s
    | some c => untilQuote fuel (s.push c)

/-- The text up to a closing backtick; a backslash protects a character. -/
def untilBacktick (quoted : Bool) : Nat → String → Reading String
  | 0, _ => flawed .openOutput
  | fuel + 1, s => do
    match ← takeChar with
    | none => flawed .openOutput
    | some '\x60' => return s
    | some '\\' =>
      match ← takeRaw with
      | none => flawed .openOutput
      | some c =>
        let isPlain := c == '\\' || c == '\x60' || c == '$' || (quoted && c == '"')
        untilBacktick quoted fuel (if isPlain then s.push c else (s.push '\\').push c)
    | some c => untilBacktick quoted fuel (s.push c)

/-- The characters of the name at the front. -/
def takeName : Nat → String → Reading String
  | 0, s => return s
  | fuel + 1, s => do
    match ← peek with
    | some c =>
      if isNameChar c then
        let _ ← takeRaw
        takeName fuel (s.push c)
      else return s
    | none => return s

/-- The digits at the front. -/
def takeDigits : Nat → String → Reading String
  | 0, s => return s
  | fuel + 1, s => do
    match ← peek with
    | some c =>
      if c.isDigit then
        let _ ← takeRaw
        takeDigits fuel (s.push c)
      else return s
    | none => return s

/-- The name of the value in braces: a variable, a number or a special character; nothing if none of
these stands there. -/
def takeValueName (fuel : Nat) : Reading (Option String) := do
  match ← peek with
  | none => return none
  | some c =>
    if isNameStart c then return some (← takeName fuel "")
    else if c.isDigit then return some (← takeDigits fuel "")
    else if isSpecial c then
      let _ ← takeRaw
      return some (String.singleton c)
    else return none

/-- What is done to a value in braces, as far as the sign after its name says. -/
inductive Sign where
  | none
  | replace (how : Replacement) (emptyToo : Bool)
  | trim (fromEnd longest : Bool)
  /-- A colon before the closing brace, which is taken for a sign. -/
  | final
  /-- The sign has no meaning, or stands where none may; what follows is read on. -/
  | faulty
  deriving DecidableEq, Repr

/-- The replacement that a sign asks for. -/
def replacement? : Char → Option Replacement
  | '-' => some .missing
  | '=' => some .assign
  | '?' => some .refuse
  | '+' => some .present
  | _ => none

/-- Takes the sign after the name of a value.  An end of a line that stands there does not count. -/
def takeSign : Reading Sign := do
  match ← takeUncounted with
  | none => return .faulty
  | some ':' =>
    match ← takeUncounted with
    | none => return .faulty
    | some c =>
      match replacement? c with
      | some how => return .replace how true
      | none => return if c == '\x7d' then .final else .faulty
  | some '%' => return .trim true (← takeIf '%')
  | some '#' => return .trim false (← takeIf '#')
  | some '\x7d' => return .none
  | some c =>
    match replacement? c with
    | some how => return .replace how false
    | none => return .faulty

/-- The number sign at the front of a value in braces: the length of the value with the name after
it, if nothing else follows; otherwise it is itself the name.  The result is the name, and whether
its length is meant; no name means that none can stand there. -/
def takeLength (fuel : Nat) : Reading (Option String × Bool) := do
  match ← peek with
  | some c =>
    if isNameChar c then
      let name ← takeValueName fuel
      return (name, true)
    else if c == '\x7d' then return (some "#", false)
    else
      let before ← get
      let _ ← takeUncounted
      if (← peek) == some '\x7d' then
        return if isSpecial c then (some (String.singleton c), true) else (none, false)
      else
        set before
        return (some "#", false)
  | none => return (some "#", false)

/-- Whether the closing line of a text below the script stands at the front, and the cells after it;
otherwise the cells of the next line. -/
def closingLine (closing : String) (dropsTabs : Bool) (cells : List Cell) :
    Bool × List Cell :=
  let cells := if dropsTabs then cells.dropWhile (· == .char '\t') else cells
  let line := cells.takeWhile (· != .char '\n')
  if line == closing.toList.map .char then (true, cells.drop (line.length + 1)) else (false, cells)

/-- Goes to the front of a line of a text below the script; says whether the text ends there. -/
def startLine (closing : String) (dropsTabs : Bool) : Reading Bool := do
  let s ← get
  let (ends, cells) := closingLine closing dropsTabs s.cells
  set { s with cells, line := if ends then s.line + 1 else s.line }
  return ends

/-- The lines of a text below the script that has no values in it. -/
def plainLines (closing : String) (dropsTabs : Bool) : Nat → String → Reading String
  | 0, s => return s
  | fuel + 1, s => do
    if ← startLine closing dropsTabs then return s
    let source ← get
    let line := source.cells.takeWhile (· != .char '\n')
    let text := String.ofList (line.filterMap fun c => match c with
      | .char c => some c
      | .close _ _ => none)
    match source.cells.drop line.length with
    | [] =>
      set { source with cells := ([] : List Cell) }
      return s ++ text
    | _ :: cells =>
      set { source with cells, line := source.line + 1 }
      plainLines closing dropsTabs fuel ((s ++ text).push '\n')

/-! ### Tokens -/

/-- The words that have a meaning of their own. -/
def keywords : List String :=
  ["!", "case", "do", "done", "elif", "else", "esac", "fi", "for", "if", "in", "then", "until",
    "while", "\x7b", "\x7d"]

/-- What is looked at when the next token is read. -/
structure Checks where
  /-- Ends of lines are passed over. -/
  lines : Bool := false
  keywords : Bool := false
  aliases : Bool := false
  /-- The token is the closing line of a text below the script: it has no values in it. -/
  closing : Bool := false

/-- All that is looked at where a command begins. -/
def Checks.all : Checks := { lines := true, keywords := true, aliases := true }

/-- A token as messages tell it. -/
def Token.shown : Token → String
  | .word _ => "word"
  | .keyword s => "\"" ++ s ++ "\""
  | .sign "\n" => "newline"
  | .sign s => "\"" ++ s ++ "\""
  | .redirect _ _ | .here _ _ => "redirection"
  | .ending => "end of file"

/-- Whether a token is a certain sign. -/
def Token.isSign (s : String) : Token → Bool
  | .sign t => t == s
  | _ => false

/-- Whether a token is a certain keyword. -/
def Token.isKeyword (s : String) : Token → Bool
  | .keyword t => t == s
  | _ => false

/-- Whether a token closes a part of a script. -/
def Token.closes : Token → Bool
  | .ending => true
  | .sign s => s == ")" || s == ";;"
  | .keyword s => ["do", "done", "elif", "else", "esac", "fi", "then", "\x7d"].contains s
  | _ => false

/-- Gives a token back. -/
def giveBack (t : Token) : Reading Unit := modify fun s => { s with returned := some t }

/-- Gives up because of a token. -/
def unexpected {α : Type} (t : Token) : Reading α := flawed (.unexpected t.shown none)

/-- Gives up because of a token in the place of another one. -/
def instead {α : Type} (t wanted : Token) : Reading α :=
  flawed (.unexpected t.shown (some wanted.shown))

/-- The sign at the front, taken away. -/
def takeSignToken? : Reading (Option Token) := do
  match ← peek with
  | none => return some .ending
  | some '\n' =>
    let _ ← takeRaw
    return some (.sign "\n")
  | some '&' =>
    let _ ← takeRaw
    return some (.sign (if ← takeIf '&' then "&&" else "&"))
  | some '|' =>
    let _ ← takeRaw
    return some (.sign (if ← takeIf '|' then "||" else "|"))
  | some ';' =>
    let _ ← takeRaw
    return some (.sign (if ← takeIf ';' then ";;" else ";"))
  | some '(' =>
    let _ ← takeRaw
    return some (.sign "(")
  | some ')' =>
    let _ ← takeRaw
    return some (.sign ")")
  | some _ => return none

/-- The sign at the front that leads a stream elsewhere, taken away; `stream` is the number before
it. -/
def takeRedirect (stream : Option Nat) : Reading Token := do
  if (← takeChar) == some '>' then
    let n := stream.getD 1
    if ← takeIf '>' then return .redirect n .append
    else if ← takeIf '|' then return .redirect n .overwrite
    else if ← takeIf '&' then return .redirect n .duplicate
    else return .redirect n .output
  else
    if ← takeIf '<' then return .here (stream.getD 0) (← takeIf '-')
    else if ← takeIf '&' then return .redirect (stream.getD 0) .duplicate
    else if ← takeIf '>' then return .redirect (stream.getD 0) .both
    else return .redirect (stream.getD 0) .input

/-- The number of a stream at the front, if a sign that leads it elsewhere follows. -/
def streamNumber? : Reading (Option (Option Nat)) := do
  match ← peek with
  | some c =>
    if c == '<' || c == '>' then return some none
    else if c.isDigit then
      let before ← get
      let _ ← takeRaw
      match ← peek with
      | some d =>
        if d == '<' || d == '>' then return some (some (c.toNat - '0'.toNat))
        else
          set before
          return none
      | none =>
        set before
        return none
    else return none
  | none => return none

/-- The scripts that have a name of their own, which no other script can get. -/
def specialNames : List String :=
  [".", ":", "break", "continue", "eval", "exec", "exit", "export", "local", "readonly", "return",
    "set", "shift", "times", "trap", "unset"]

/-- Joins a script to those before it. -/
def afterwards : Option Script → Script → Script
  | none, b => b
  | some a, b => .seq a b

mutual
/-- The parts of a word up to what ends it in its context; `acc` holds those that were read, the last
one first. -/
def partsFrom : Nat → Context → Word → Reading Word
  | 0, _, acc => return acc.reverse
  | fuel + 1, ctx, acc => do
    match ← peek with
    | none =>
      match ctx.flaw? with
      | some f => flawed f
      | none => return acc.reverse
    | some c =>
      if ctx == .bare && endsWord c then return acc.reverse
      let _ ← takeRaw
      let add := fun (c : Char) => partsFrom fuel ctx (Word.push c ctx.quoted acc)
      match c with
      | '$' => partsFrom fuel ctx ((← dollarFrom fuel ctx) :: acc)
      | '\x60' => partsFrom fuel ctx ((← backtickFrom fuel ctx.quoted) :: acc)
      | '\\' =>
        match ← takeRaw with
        | none => partsFrom fuel ctx (Word.push '\\' true acc)
        | some d =>
          let acc := if ctx.quoted && !ctx.protects d then Word.push '\\' true acc else acc
          partsFrom fuel ctx (Word.push d true acc)
      | '\'' =>
        if ctx.quoted then add c
        else
          let text ← untilQuote fuel ""
          partsFrom fuel ctx (.text text true :: acc)
      | '"' =>
        match ctx with
        | .quotes _ => return acc.reverse
        | .sum _ | .below _ _ => add c
        | _ =>
          let inside ← partsFrom fuel (.quotes (ctx != .bare)) []
          partsFrom fuel ctx (inside.reverse ++ .text "" true :: acc)
      | '\x7d' =>
        match ctx with
        | .braces _ _ => return acc.reverse
        | _ => add c
      | '(' =>
        match ctx with
        | .sum depth => partsFrom fuel (.sum (depth + 1)) (Word.push c true acc)
        | _ => add c
      | ')' =>
        match ctx with
        | .sum 0 => if ← takeIf ')' then return acc.reverse else add c
        | .sum (depth + 1) => partsFrom fuel (.sum depth) (Word.push c true acc)
        | _ => add c
      | '\n' =>
        match ctx with
        | .below closing dropsTabs =>
          let acc := Word.push c true acc
          if ← startLine closing dropsTabs then return acc.reverse
          else partsFrom fuel ctx acc
        | _ => add c
      | _ => add c

/-- What stands after a dollar sign. -/
def dollarFrom : Nat → Context → Reading Part
  | 0, _ => return default
  | fuel + 1, ctx => do
    match ← peek with
    | some '(' =>
      let _ ← takeRaw
      if ← takeIf '(' then return .number (← partsFrom fuel (.sum 0) []) ctx.quoted
      else return .output (← outputFrom fuel) ctx.quoted
    | some '\x7b' =>
      let _ ← takeRaw
      bracesFrom fuel ctx
    | some c =>
      if isNameStart c then return .value (← takeName fuel "") .plain ctx.quoted
      else if isSpecial c || c.isDigit then
        let _ ← takeRaw
        return .value (String.singleton c) .plain ctx.quoted
      else return .text "$" ctx.quoted
    | none => return .text "$" ctx.quoted

/-- A value in braces, after the first one. -/
def bracesFrom : Nat → Context → Reading Part
  | 0, _ => return default
  | fuel + 1, ctx => do
    let inside := Context.braces ctx.quoted ctx.inText
    let faulty := fun (name : String) => do
      let _ ← partsFrom fuel inside []
      return Part.value name .faulty ctx.quoted
    let (name, isLength) ← if ← takeIf '#' then takeLength fuel
      else (fun name => (name, false)) <$> takeValueName fuel
    match name with
    | none =>
      unless (← peek) == some '\x7d' do
        let _ ← takeUncounted
      faulty ""
    | some name =>
      if isLength then
        if ← takeIf '\x7d' then return .value name .length ctx.quoted else faulty name
      else
        match ← takeSign with
        | .none => return .value name .plain ctx.quoted
        | .replace how emptyToo =>
          return .value name (.replace how emptyToo (← partsFrom fuel inside [])) ctx.quoted
        | .final => return .value name (.final (← partsFrom fuel inside [])) ctx.quoted
        | .trim fromEnd longest =>
          let pattern ← partsFrom fuel (.braces false ctx.inText) []
          return .value name (.trim fromEnd longest pattern) ctx.quoted
        | .faulty => faulty name

/-- The script whose output stands between parentheses, after the first one. -/
def outputFrom : Nat → Reading Script
  | 0 => return .nothing
  | fuel + 1 => do
    let outer ← get
    set { outer with awaited := [], looksUp := false, returned := none }
    let script ← listFrom fuel false true none
    let t ← readToken fuel {}
    unless t.isSign ")" do instead t (.sign ")")
    awaitedFrom fuel
    modify fun s => { s with awaited := outer.awaited, returned := none }
    return script.getD .nothing

/-- The script whose output stands between backticks, after the first one. -/
def backtickFrom : Nat → Bool → Reading Part
  | 0, _ => return default
  | fuel + 1, quoted => do
    let text ← untilBacktick quoted fuel ""
    let outer ← get
    set (Source.ofText outer.aliases outer.texts text)
    let script ← listFrom fuel false true none
    awaitedFrom fuel
    modify fun s => { outer with texts := s.texts }
    return .output (script.getD .nothing) quoted

/-- Reads the texts that stand below the line, in order. -/
def awaitedFrom : Nat → Reading Unit
  | 0 => return
  | fuel + 1 => do
    match (← get).awaited with
    | [] => return
    | a :: rest =>
      modify fun s => { s with awaited := rest }
      let word ← if a.hasValues then do
          if ← startLine a.closing a.dropsTabs then pure []
          else partsFrom fuel (.below a.closing a.dropsTabs) []
        else
          let text ← plainLines a.closing a.dropsTabs fuel ""
          pure [Part.text text true]
      modify fun s => { s with texts := s.texts.set! a.number word }
      awaitedFrom fuel

/-- The next word or sign, whatever it means; one that was given back comes first. -/
def anyToken : Nat → Bool → Reading Token
  | 0, _ => return .ending
  | fuel + 1, closing => do
    match (← get).returned with
    | some t =>
      modify fun s => { s with returned := none }
      return t
    | none =>
      skipBlanks fuel
      match ← takeSignToken? with
      | some t => return t
      | none =>
        match ← streamNumber? with
        | some stream => takeRedirect stream
        | none =>
          if closing then .word <$> closingWord fuel []
          else .word <$> partsFrom fuel .bare []

/-- The word that closes a text below the script: quotes count, and nothing else does. -/
def closingWord : Nat → Word → Reading Word
  | 0, acc => return acc.reverse
  | fuel + 1, acc => do
    match ← peek with
    | none => return acc.reverse
    | some c =>
      if endsWord c then return acc.reverse
      let _ ← takeRaw
      match c with
      | '\\' =>
        match ← takeRaw with
        | none => closingWord fuel (Word.push '\\' true acc)
        | some d => closingWord fuel (Word.push d true acc)
      | '\'' => closingWord fuel (.text (← untilQuote fuel "") true :: acc)
      | '"' =>
        let inside ← partsFrom fuel (.quotes false) []
        closingWord fuel (inside.reverse ++ .text "" true :: acc)
      | c => closingWord fuel (Word.push c (c == '\x60') acc)

/-- The next word or sign, with its meaning where it stands. -/
def readToken : Nat → Checks → Reading Token
  | 0, _ => return .ending
  | fuel + 1, checks => do
    let t ← anyToken fuel checks.closing
    if checks.lines && t.isSign "\n" then
      awaitedFrom fuel
      readToken fuel checks
    else
      let s ← get
      let checks := { checks with aliases := checks.aliases || s.looksUp }
      set { s with looksUp := false }
      match t with
      | .word w =>
        match Word.plain? w with
        | none => return t
        | some text =>
          if checks.keywords && keywords.contains text then return .keyword text
          else if checks.aliases then
            match (← get).expand? text with
            | some s =>
              set s
              readToken fuel checks
            | none => return t
          else return t
      | t => return t

/-- Commands one after the other: those of a `line`, or those up to what closes a part of a script.
`mayEnd` says that nothing more need come. -/
def listFrom : Nat → Bool → Bool → Option Script → Reading (Option Script)
  | 0, _, _, acc => return acc
  | fuel + 1, line, mayEnd, acc => do
    let t ← readToken fuel { Checks.all with lines := !line }
    match t with
    | .sign "\n" =>
      awaitedFrom fuel
      return some (acc.getD .nothing)
    | .ending =>
      awaitedFrom fuel
      giveBack .ending
      return acc
    | t =>
      giveBack t
      if mayEnd && t.closes then return acc
      let a ← chainFrom fuel
      let t ← readToken fuel {}
      let a := if t.isSign "&" then Script.background 0 a else a
      let acc := some (afterwards acc a)
      match t with
      | .sign "\n" | .ending =>
        giveBack t
        listFrom fuel line (!line) acc
      | .sign ";" | .sign "&" => listFrom fuel line (!line) acc
      | t =>
        if line then unexpected t
        giveBack t
        return acc

/-- A row of pipelines that depend on each other. -/
def chainFrom : Nat → Reading Script
  | 0 => return .nothing
  | fuel + 1 => do
    let a ← pipelineFrom fuel {}
    chainMore fuel a

/-- More of such a row, after its first part. -/
def chainMore : Nat → Script → Reading Script
  | 0, a => return a
  | fuel + 1, a => do
    let t ← readToken fuel {}
    match t with
    | .sign "&&" => chainMore fuel (.both a (← pipelineFrom fuel Checks.all))
    | .sign "||" => chainMore fuel (.either a (← pipelineFrom fuel Checks.all))
    | t =>
      giveBack t
      return a

/-- Commands with bars between them. -/
def pipelineFrom : Nat → Checks → Reading Script
  | 0, _ => return .nothing
  | fuel + 1, checks => do
    let t ← readToken fuel checks
    if t.isKeyword "!" then
      let a ← commandFrom fuel { Checks.all with lines := false }
      return .negate (← pipeMore fuel a)
    else
      giveBack t
      pipeMore fuel (← commandFrom fuel {})

/-- More of a pipeline, after its first command. -/
def pipeMore : Nat → Script → Reading Script
  | 0, a => return a
  | fuel + 1, a => do
    let t ← readToken fuel {}
    if t.isSign "|" then
      let b ← commandFrom fuel Checks.all
      return .pipe a (← pipeMore fuel b)
    else
      giveBack t
      return a

/-- A list of commands that is closed by a certain token. -/
def listUntil : Nat → Token → Reading Script
  | 0, _ => return .nothing
  | fuel + 1, wanted => do
    let a ← listFrom fuel false false none
    let t ← readToken fuel {}
    let found := match t, wanted with
      | .keyword s, .keyword s' | .sign s, .sign s' => s == s'
      | _, _ => false
    unless found do instead t wanted
    return a.getD .nothing

/-- A command. -/
def commandFrom : Nat → Checks → Reading Script
  | 0, _ => return .nothing
  | fuel + 1, checks => do
    let line := (← get).line
    let t ← readToken fuel checks
    match t with
    | .keyword "if" => ledFrom fuel line (← chooseFrom fuel)
    | .keyword "while" =>
      let test ← listUntil fuel (.keyword "do")
      ledFrom fuel line (.loop true test (← listUntil fuel (.keyword "done")))
    | .keyword "until" =>
      let test ← listUntil fuel (.keyword "do")
      ledFrom fuel line (.loop false test (← listUntil fuel (.keyword "done")))
    | .keyword "for" =>
      let (name, words) ← eachHead fuel
      let t ← readToken fuel Checks.all
      unless t.isKeyword "do" do instead t (.keyword "do")
      ledFrom fuel line (.each line name words (← listUntil fuel (.keyword "done")))
    | .keyword "case" =>
      match ← readToken fuel {} with
      | .word value =>
        let t ← readToken fuel Checks.all
        unless t.isKeyword "in" do instead t (.keyword "in")
        ledFrom fuel line (.select line value (← branchesFrom fuel []))
      | t => instead t (.word [])
    | .keyword "\x7b" => ledFrom fuel line (← listUntil fuel (.keyword "\x7d"))
    | .sign "(" =>
      let body ← listUntil fuel (.sign ")")
      let led ← redirectsFrom fuel { Checks.all with lines := false } []
      return .inside line body true led
    | .word _ | .redirect _ _ | .here _ _ =>
      giveBack t
      simpleFrom fuel (← get).line true [] [] []
    | t => unexpected t

/-- The streams after a script that is closed, led elsewhere. -/
def ledFrom : Nat → Nat → Script → Reading Script
  | 0, _, s => return s
  | fuel + 1, line, s => do
    match ← redirectsFrom fuel { Checks.all with lines := false } [] with
    | [] => return s
    | led => return .inside line s false led

/-- Signs that lead streams elsewhere, each with its target. -/
def redirectsFrom : Nat → Checks → Redirections → Reading Redirections
  | 0, _, acc => return acc.reverse
  | fuel + 1, checks, acc => do
    match ← readToken fuel checks with
    | .redirect n d => redirectsFrom fuel checks (⟨n, d, ← targetFrom fuel⟩ :: acc)
    | .here n dropsTabs => redirectsFrom fuel checks ((← hereFrom fuel n dropsTabs) :: acc)
    | t =>
      giveBack t
      return acc.reverse

/-- The target of a stream that is led elsewhere. -/
def targetFrom : Nat → Reading Word
  | 0 => return []
  | fuel + 1 => do
    match ← readToken fuel {} with
    | .word w => return w
    | t => unexpected t

/-- The text below the script that a stream is led to. -/
def hereFrom : Nat → Nat → Bool → Reading (Redirection Word)
  | 0, n, _ => return ⟨n, .here 0, []⟩
  | fuel + 1, n, dropsTabs => do
    match ← readToken fuel { closing := true } with
    | .word w =>
      let number := (← get).texts.size
      let isQuoted := fun (p : Part) => match p with
        | .text _ quoted => quoted
        | _ => true
      let closing := String.join (w.map fun p => match p with
        | .text s _ => s
        | _ => "")
      modify fun s => { s with
        texts := s.texts.push []
        awaited := s.awaited ++ [⟨number, closing, dropsTabs, !w.any isQuoted⟩] }
      return ⟨n, .here number, []⟩
    | t => unexpected t

/-- A choice, from its test on. -/
def chooseFrom : Nat → Reading Script
  | 0 => return .nothing
  | fuel + 1 => do
    let test ← listUntil fuel (.keyword "then")
    let yes ← listFrom fuel false false none
    let yes := yes.getD .nothing
    let t ← readToken fuel {}
    match t with
    | .keyword "elif" => return .choose test yes (← chooseFrom fuel)
    | .keyword "else" => return .choose test yes (← listUntil fuel (.keyword "fi"))
    | .keyword "fi" => return .choose test yes .nothing
    | t => instead t (.keyword "fi")

/-- The name and the words of a loop over fields; without words, the arguments are meant. -/
def eachHead : Nat → Reading (String × List Word)
  | 0 => return ("", [])
  | fuel + 1 => do
    match ← readToken fuel {} with
    | .word w =>
      match (Word.plain? w).filter isName with
      | none => flawed .badVariable
      | some name =>
        let t ← readToken fuel Checks.all
        if t.isKeyword "in" then return (name, ← wordsFrom fuel [])
        else
          unless t.isSign ";" do giveBack t
          return (name, [[.value "@" .plain true]])
    | _ => flawed .badVariable

/-- Words up to the end of a line or a semicolon. -/
def wordsFrom : Nat → List Word → Reading (List Word)
  | 0, acc => return acc.reverse
  | fuel + 1, acc => do
    match ← readToken fuel {} with
    | .word w => wordsFrom fuel (w :: acc)
    | .sign "\n" =>
      awaitedFrom fuel
      return acc.reverse
    | .sign ";" => return acc.reverse
    | t => unexpected t

/-- The branches for the patterns that a word may match, from the first pattern on. -/
def branchesFrom : Nat → List (List Word × Script) → Reading (List (List Word × Script))
  | 0, acc => return acc.reverse
  | fuel + 1, acc => do
    let t ← readToken fuel { lines := true, keywords := true }
    if t.isKeyword "esac" then return acc.reverse
    let t ← if t.isSign "(" then readToken fuel {} else pure t
    let patterns ← patternsFrom fuel t []
    let body ← listFrom fuel false true none
    let acc := (patterns, body.getD .nothing) :: acc
    let t ← readToken fuel { lines := true, keywords := true }
    if t.isKeyword "esac" then return acc.reverse
    else if t.isSign ";;" then branchesFrom fuel acc
    else instead t (.sign ";;")

/-- The patterns of a branch, between bars, from a token on. -/
def patternsFrom : Nat → Token → List Word → Reading (List Word)
  | 0, _, acc => return acc.reverse
  | fuel + 1, t, acc => do
    let w := match t with
      | .word w => w
      | .keyword s => Word.ofText s
      | _ => []
    let t ← readToken fuel {}
    if t.isSign "|" then patternsFrom fuel (← readToken fuel {}) (w :: acc)
    else if t.isSign ")" then return (w :: acc).reverse
    else instead t (.sign ")")

/-- A command of words, with assignments before them, or a script that gets a name. `lookup` says
that no word was there yet. -/
def simpleFrom : Nat → Nat → Bool → List (String × Word) → List Word → Redirections → Reading Script
  | 0, line, _, assignments, words, led =>
    return .command line assignments.reverse words.reverse led.reverse
  | fuel + 1, line, lookup, assignments, words, led => do
    let t ← readToken fuel { aliases := lookup }
    let ends := do
      giveBack t
      return Script.command line assignments.reverse words.reverse led.reverse
    match t with
    | .word w =>
      match if lookup then Word.assignment? w else none with
      | some a => simpleFrom fuel line true (a :: assignments) words led
      | none => simpleFrom fuel line false assignments (w :: words) led
    | .redirect n d =>
      let target ← targetFrom fuel
      simpleFrom fuel line lookup assignments words (⟨n, d, target⟩ :: led)
    | .here n dropsTabs =>
      let r ← hereFrom fuel n dropsTabs
      simpleFrom fuel line lookup assignments words (r :: led)
    | .sign "(" =>
      match assignments, words, led with
      | [], [w], [] =>
        let t ← readToken fuel {}
        unless t.isSign ")" do instead t (.sign ")")
        match (Word.plain? w).filter fun n => isName n && !specialNames.contains n with
        | none => flawed .badName
        | some name => return .define name (← commandFrom fuel Checks.all)
      | _, _, _ => ends
    | _ => ends
end

/-! ### Lines -/

/-- How far the reading of one line may go: further than any line does. -/
def readingFuel : Nat := 10000000

/-- The next line of a script, with all that it needs to be complete; nothing at the end. -/
def readLine? : Reading (Option Script) := do
  modify fun s => { s with returned := none, awaited := [], looksUp := false }
  listFrom readingFuel true false none

end Conveyor.Shell
