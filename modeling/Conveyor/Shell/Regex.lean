/-
**Regular expressions.**

An expression is written in one of two ways, which differ in the characters that need a backslash.
Of all places where an expression matches, the first one counts, and there the longest match.

Main definitions:

* `Conveyor.Shell.Regex` — expressions;
* `Conveyor.Shell.Regex.parse` — the expression that a text writes;
* `Conveyor.Shell.Regex.find?` — the first and longest match in a line.
-/

import Conveyor.Shell.Pattern

set_option autoImplicit false

namespace Conveyor.Shell

/-- A regular expression. -/
inductive Regex where
  | empty
  | char (c : Char)
  | any
  | set (negated : Bool) (items : List Pattern.Item)
  | lineStart
  | lineEnd
  /-- A place between a character of a word and another one, at the start or the end of the word. -/
  | edge (atStart atEnd : Bool)
  /-- A place that is no such edge. -/
  | noEdge
  | group (n : Nat) (r : Regex)
  /-- What a group matched. -/
  | back (n : Nat)
  | seq (a b : Regex)
  | either (a b : Regex)
  /-- So many times at least, and perhaps not more than so many. -/
  | many (least : Nat) (most : Option Nat) (r : Regex)
  deriving Repr, Inhabited

namespace Regex

/-! ### Matching -/

/-- A place in a line: what is before it, the last character first, what is after it, and what groups
matched. -/
structure Place where
  before : List Char
  after : List Char
  groups : List (Nat × List Char) := []

/-- Whether a character belongs to a word. -/
def isWordChar (c : Char) : Bool := c.isAlphanum || c == '_' || 128 ≤ c.toNat

/-- Whether two characters are the same, perhaps but for their case. -/
def same (folds : Bool) (a b : Char) : Bool := a == b || (folds && a.toLower == b.toLower)

/-- Goes on over so many characters. -/
def Place.skip (p : Place) (n : Nat) : Place :=
  { p with before := (p.after.take n).reverse ++ p.before, after := p.after.drop n }

/-- The places where an expression can end that begins at a place, the preferred ones first. -/
def ends (folds : Bool) : Nat → Regex → Place → List Place
  | 0, _, _ => []
  | fuel + 1, r, p =>
    let one := fun (accepts : Char → Bool) =>
      match p.after with
      | c :: _ => if accepts c then [p.skip 1] else []
      | [] => []
    let isAfterWord := (p.before.head?.any isWordChar)
    let isBeforeWord := (p.after.head?.any isWordChar)
    match r with
    | .empty => [p]
    | .char c => one (same folds c)
    | .any => one fun c => c != '\n'
    | .set negated items => one fun c =>
        (items.any (Pattern.Item.has c) ||
          (folds && items.any fun i => Pattern.Item.has c.toLower i || Pattern.Item.has c.toUpper i))
          != negated
    | .lineStart => if p.before.isEmpty then [p] else []
    | .lineEnd => if p.after.isEmpty then [p] else []
    | .edge atStart atEnd =>
      if (atStart && !isAfterWord && isBeforeWord) || (atEnd && isAfterWord && !isBeforeWord) then [p]
      else []
    | .noEdge => if isAfterWord == isBeforeWord then [p] else []
    | .group n r => (ends folds fuel r p).map fun q =>
        let text := p.after.take (p.after.length - q.after.length)
        { q with groups := (n, text) :: q.groups.filter (·.1 != n) }
    | .back n =>
      match p.groups.find? (·.1 == n) with
      | some (_, text) =>
        let front := p.after.take text.length
        if front.length == text.length && (front.zip text).all fun c => same folds c.1 c.2 then
          [p.skip text.length]
        else []
      | none => []
    | .seq a b => (ends folds fuel a p).flatMap (ends folds fuel b)
    | .either a b => ends folds fuel a p ++ ends folds fuel b p
    | .many least most r =>
      if most == some 0 then [p]
      else
        let next := Regex.many (least - 1) (most.map (· - 1)) r
        let more := ((ends folds fuel r p).filter fun q =>
          q.after.length < p.after.length || 0 < least).flatMap (ends folds fuel next)
        if least = 0 then more ++ [p] else more

/-- The longest of some places. -/
def longest : List Place → Option Place
  | [] => none
  | p :: ps =>
    match longest ps with
    | some q => if q.after.length < p.after.length then some q else some p
    | none => some p

/-- The first and longest match from a place on: its begin and its end. -/
def find? (folds : Bool) (r : Regex) : Nat → Place → Option (Place × Place)
  | 0, _ => none
  | fuel + 1, p =>
    match longest (ends folds 100000 r p) with
    | some q => some (p, q)
    | none =>
      match p.after with
      | [] => none
      | _ :: _ => find? folds r fuel (p.skip 1)

/-- The first and longest match in a line. -/
def findIn? (folds : Bool) (r : Regex) (line : List Char) : Option (Place × Place) :=
  find? folds r line.length.succ { before := [], after := line }

/-! ### Writing expressions -/

/-- A sign of an expression. -/
inductive Sign where
  | atom (r : Regex)
  | opening
  | closing
  | bar
  | times (least : Nat) (most : Option Nat) (char : Option Char)
  | caret
  | dollar
  deriving Inhabited

/-- The numbers of an interval, and what follows it. -/
def interval? (extended : Bool) (cs : List Char) : Option (Nat × Option Nat × List Char) :=
  let number := fun (ds : List Char) => ds.foldl (fun n c => 10 * n + (c.toNat - 48)) 0
  let first := cs.takeWhile Char.isDigit
  let rest := cs.drop first.length
  let (most, rest) := match rest with
    | ',' :: rest =>
      let second := rest.takeWhile Char.isDigit
      (if second.isEmpty then none else some (number second), rest.drop second.length)
    | rest => (some (number first), rest)
  match extended, rest with
  | true, '\x7d' :: rest => some (number first, most, rest)
  | false, '\\' :: '\x7d' :: rest => some (number first, most, rest)
  | _, _ => none

/-- The set at the front of a text, after its bracket, and what follows it. -/
def setFrom? (cs : List Char) : Option (Regex × List Char) :=
  let (negated, inside) := match cs with
    | '^' :: rest => (true, rest)
    | cs => (false, cs)
  let letters := inside.map fun c => (c, false)
  match Pattern.itemsFrom letters.length.succ true letters with
  | some (items, rest) => some (.set negated items, rest.map (·.1))
  | none => none

/-- What a letter after a backslash means in both ways of writing. -/
def escaped (c : Char) : Regex :=
  let word := [Pattern.Item.named "alnum", .range '_' '_',
    .range (Char.ofNat 0x80) (Char.ofNat 0x10ffff)]
  match c with
  | 'w' => .set false word
  | 'W' => .set true word
  | 's' => .set false [.named "space"]
  | 'S' => .set true [.named "space"]
  | 'b' => .edge true true
  | 'B' => .noEdge
  | '<' => .edge true false
  | '>' => .edge false true
  | '\x60' => .lineStart
  | '\'' => .lineEnd
  | 'n' => .char '\n'
  | 't' => .char '\t'
  | c =>
    if c.isDigit && c != '0' then .back (c.toNat - '0'.toNat) else .char c

/-- Whether a class is named in a set that there is not. -/
def namesUnknown : List Char → Bool
  | '[' :: ':' :: rest =>
    let name := rest.takeWhile Char.isAlpha
    let isClass := match rest.drop name.length with
      | ':' :: ']' :: _ => true
      | _ => false
    (isClass && (Pattern.class? (String.ofList name)).isNone) || namesUnknown rest
  | _ :: rest => namesUnknown rest
  | [] => false

/-- What is wrong with the set at the front of a text, after its bracket. -/
def setFlaw? (cs : List Char) : Option String :=
  let isEmpty := fun (i : Pattern.Item) => match i with
    | .range a b => decide (b < a)
    | .named _ => false
  match setFrom? cs with
  | some (.set _ items, rest) =>
    let inside := cs.take (cs.length - rest.length - 1)
    if 1 < inside.length && inside.head? == some ':' && inside.getLast? == some ':' then
      some "character class syntax is [[:space:]], not [:space:]"
    else if namesUnknown (cs.take (cs.length - rest.length)) then some "Invalid character class name"
    else if items.any isEmpty then some "Invalid range end"
    else none
  | _ => none

/-- The signs of a text; `first` says that none was there yet. -/
def signsFrom (extended : Bool) : Nat → Bool → List Char → Except String (List Sign)
  | 0, _, _ => .ok []
  | _ + 1, _, [] => .ok []
  | fuel + 1, first, c :: cs => do
    let goOn := fun (s : Sign) (rest : List Char) => do
      return s :: (← signsFrom extended fuel false rest)
    let plain := goOn (.atom (.char c)) cs
    let braces := fun (rest : List Char) (otherwise : Except String (List Sign)) =>
      match interval? extended rest with
      | some (least, most, rest) =>
        if most.any (· < least) then throw "Invalid content of \\\x7b\\\x7d"
        else goOn (.times least most none) rest
      | none => otherwise
    match c with
    | '\\' =>
      match cs with
      | [] => throw "Trailing backslash"
      | d :: rest =>
        if extended then goOn (.atom (escaped d)) rest
        else
          match d with
          | '(' => goOn .opening rest
          | ')' => goOn .closing rest
          | '|' => goOn .bar rest
          | '+' => goOn (.times 1 none none) rest
          | '?' => goOn (.times 0 (some 1) none) rest
          | '\x7b' =>
            if first then goOn (.atom (.char '\x7b')) rest
            else braces rest (throw "Unmatched \\\x7b")
          | d => goOn (.atom (escaped d)) rest
    | '.' => goOn (.atom .any) cs
    | '[' =>
      match setFlaw? cs, setFrom? cs with
      | some text, _ => throw text
      | none, some (r, rest) => goOn (.atom r) rest
      | none, none => throw "Unmatched [, [^, [:, [., or [="
    | '*' => goOn (.times 0 none (some '*')) cs
    | '^' => goOn .caret cs
    | '$' => goOn .dollar cs
    | '(' => if extended then goOn .opening cs else plain
    | ')' => if extended then goOn .closing cs else plain
    | '|' => if extended then goOn .bar cs else plain
    | '+' => if extended then goOn (.times 1 none (some '+')) cs else plain
    | '?' => if extended then goOn (.times 0 (some 1) (some '?')) cs else plain
    | '\x7b' => if extended then braces cs plain else plain
    | _ => plain

/-- Whether signs end a branch. -/
def endsBranch : List Sign → Bool
  | [] | .closing :: _ | .bar :: _ => true
  | _ => false

/-- The repetitions after an expression. -/
def repeated : Nat → Regex → List Sign → Regex × List Sign
  | 0, r, ss => (r, ss)
  | fuel + 1, r, .times least most _ :: ss => repeated fuel (.many least most r) ss
  | _ + 1, r, ss => (r, ss)

mutual
/-- Branches between bars; `groups` counts the groups so far. -/
def branchesFrom (extended : Bool) : Nat → Nat → List Sign → Except String (Regex × Nat × List Sign)
  | 0, groups, ss => .ok (.empty, groups, ss)
  | fuel + 1, groups, ss => do
    let (a, groups, rest) ← branchFrom extended fuel groups true ss
    match rest with
    | .bar :: rest =>
      let (b, groups, rest) ← branchesFrom extended fuel groups rest
      return (.either a b, groups, rest)
    | rest => return (a, groups, rest)

/-- A branch: expressions one after the other; `first` says that none was there yet. -/
def branchFrom (extended : Bool) : Nat → Nat → Bool → List Sign →
    Except String (Regex × Nat × List Sign)
  | 0, groups, _, ss => .ok (.empty, groups, ss)
  | fuel + 1, groups, first, ss =>
    if endsBranch ss then .ok (.empty, groups, ss)
    else do
      let put := fun (r : Regex) (groups : Nat) (isFirst : Bool) (rest : List Sign) => do
        let (r, rest) := repeated rest.length.succ r rest
        let (more, groups, rest) ← branchFrom extended fuel groups isFirst rest
        return (Regex.seq r more, groups, rest)
      match ss with
      | .atom r :: rest => put r groups false rest
      | .times _ _ c :: rest =>
        match c with
        | some c => put (.char c) groups false rest
        | none => throw "Invalid preceding regular expression"
      | .caret :: rest =>
        if extended || first then
          let (more, groups, rest) ← branchFrom extended fuel groups true rest
          return (.seq .lineStart more, groups, rest)
        else put (.char '^') groups false rest
      | .dollar :: rest =>
        if extended || endsBranch rest then put .lineEnd groups false rest
        else put (.char '$') groups false rest
      | .opening :: rest =>
        let n := groups + 1
        let (r, groups, rest) ← branchesFrom extended fuel n rest
        match rest with
        | .closing :: rest => put (.group n r) groups false rest
        | _ => throw "Unmatched ( or \\("
      | rest => return (.empty, groups, rest)
end

/-- The highest number of a group that an expression refers to. -/
def highest : Regex → Nat
  | .back n => n
  | .seq a b | .either a b => max (highest a) (highest b)
  | .many _ _ r | .group _ r => highest r
  | _ => 0

/-- The expression that a text writes, and the number of its groups, or what is wrong with it. -/
def parse (extended : Bool) (s : String) : Except String (Regex × Nat) := do
  let signs ← signsFrom extended s.length.succ true s.toList
  let (r, groups, rest) ← branchesFrom extended (2 * signs.length + 2) 0 signs
  unless rest.isEmpty do throw "Unmatched ) or \\)"
  if groups < highest r then throw "Invalid back reference"
  return (r, groups)

end Regex

end Conveyor.Shell
