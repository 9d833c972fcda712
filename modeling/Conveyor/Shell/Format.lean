/-
**Texts with escapes, and formats that are filled in.**

Main definitions:

* `Conveyor.Shell.escaped` — a text with its backslash escapes read;
* `Conveyor.Shell.formatted` — a format with its arguments filled in, as often as there are arguments
  for it.
-/

import Conveyor.Decimal.Places
import Conveyor.Shell.Arithmetic
import Conveyor.Shell.Bytes
import Conveyor.Text.Number

set_option autoImplicit false

namespace Conveyor.Shell

/-! ### Escapes -/

/-- The value of octal digits at the front, at most so many, and what follows them. -/
def octal : Nat → Nat → List Char → Nat × List Char
  | 0, v, cs => (v, cs)
  | n + 1, v, c :: cs =>
    if '0' ≤ c ∧ c ≤ '7' then octal n (8 * v + (c.toNat - '0'.toNat)) cs else (v, c :: cs)
  | _ + 1, v, [] => (v, [])

/-- The character that a letter after a backslash stands for. -/
def escapeChar? : Char → Option Char
  | 'a' => some '\x07'
  | 'b' => some '\x08'
  | 'e' => some '\x1b'
  | 'f' => some '\x0c'
  | 'n' => some '\n'
  | 'r' => some '\r'
  | 't' => some '\t'
  | 'v' => some '\x0b'
  | '\\' => some '\\'
  | _ => none

/-- What stands after a backslash, and what follows it; a backslash that begins no escape stands for
itself. -/
def escape (cs : List Char) : Char × List Char :=
  match cs with
  | [] => ('\\', [])
  | c :: rest =>
    match escapeChar? c with
    | some e => (e, rest)
    | none =>
      if '0' ≤ c ∧ c ≤ '7' then
        let (v, rest) := octal 3 0 (c :: rest)
        (Char.ofNat (v % 256), rest)
      else ('\\', c :: rest)

/-- A text with its backslash escapes read, and whether it goes on after them: it ends at `\c`. -/
def escapedFrom : Nat → List Char → List Char × Bool
  | 0, _ => ([], true)
  | _ + 1, [] => ([], true)
  | _ + 1, '\\' :: 'c' :: _ => ([], false)
  | fuel + 1, '\\' :: '0' :: cs =>
    let (v, rest) := octal 3 0 cs
    let (more, goes) := escapedFrom fuel rest
    (Char.ofNat (v % 256) :: more, goes)
  | fuel + 1, '\\' :: cs =>
    let (c, rest) := escape cs
    let (more, goes) := escapedFrom fuel rest
    (c :: more, goes)
  | fuel + 1, c :: cs =>
    let (more, goes) := escapedFrom fuel cs
    (c :: more, goes)

/-- A text with its backslash escapes read, and whether it goes on after them. -/
def escaped (s : String) : List Char × Bool := escapedFrom s.length.succ s.toList

/-! ### Formats -/

/-- How a value is shown. -/
structure Layout where
  left : Bool := false
  zeros : Bool := false
  plus : Bool := false
  blank : Bool := false
  /-- The base of a number is shown, and zeros at the end of its places are kept. -/
  marked : Bool := false
  width : Nat := 0
  precision : Option Nat := none

/-- A sign or a mark in front and digits, up to the width of a layout; `fills` says that zeros may
fill it. -/
def Layout.signed (l : Layout) (front digits : List Char) (fills : Bool) : List Char :=
  let gap := l.width - front.length - digits.length
  if fills && l.zeros && !l.left then front ++ List.replicate gap '0' ++ digits
  else padded l.left l.width (front ++ digits)

/-- The sign of a number. -/
def Layout.sign (l : Layout) (negative : Bool) : List Char :=
  if negative then ['-'] else if l.plus then ['+'] else if l.blank then [' '] else []

/-- What is wrong with an argument that should be a number. -/
def wrongNumber (s : String) (rest : List Char) (tooLarge : Bool) : List String :=
  if rest.isEmpty then (if tooLarge then [s ++ ": Numerical result out of range"] else [])
  else if rest.length = s.length then [s ++ ": expected numeric value"]
  else [s ++ ": not completely converted"]

/-- The sign at the front of a number, after blanks, and what follows it. -/
def signFrom (cs : List Char) : Bool × List Char :=
  match cs.dropWhile fun c => c == ' ' || (9 ≤ c.toNat && c.toNat ≤ 13) with
  | '-' :: rest => (true, rest)
  | '+' :: rest => (false, rest)
  | rest => (false, rest)

/-- The whole number that an argument writes, and what is wrong with it; after a quote, the code of a
character. -/
def wholeArgument (signed : Bool) (s : String) : Int × List String :=
  match s.toList with
  | '\'' :: rest | '"' :: rest => ((rest.headD '\x00').toNat, [])
  | cs =>
    let (negative, after) := signFrom cs
    if (after.headD ' ').isDigit then
      let (n, rest) := Sum.numberFrom after
      let bound := if signed then (if negative then Nat.pow 2 63 else Nat.pow 2 63 - 1)
        else Nat.pow 2 64 - 1
      let m : Int := if n ≤ bound || !signed then min n bound else bound
      (if negative && n ≤ bound || negative && signed then -m else m,
        wrongNumber s rest (decide (bound < n)))
    else (0, wrongNumber s cs false)

/-- The float at the front of a text, and what follows it. -/
def floatFrom (cs : List Char) : Option (Float × List Char) :=
  let word := (cs.takeWhile Char.isAlpha).map Char.toLower
  if word == "inf".toList || word == "infinity".toList then some (1.0 / 0.0, cs.drop word.length)
  else if word == "nan".toList then some (0.0 / 0.0, cs.drop 3)
  else
    let whole := cs.takeWhile Char.isDigit
    let after := cs.drop whole.length
    let (fraction, after) := match after with
      | '.' :: rest => (rest.takeWhile Char.isDigit, rest.dropWhile Char.isDigit)
      | rest => ([], rest)
    if whole.isEmpty && fraction.isEmpty then none
    else
      let number := fun (ds : List Char) => ds.foldl (fun n c => 10 * n + (c.toNat - 48)) 0
      let (e, after) : Int × List Char := match after with
        | c :: rest =>
          if c == 'e' || c == 'E' then
            let (negative, ds) := match rest with
              | '-' :: ds => (true, ds)
              | '+' :: ds => (false, ds)
              | ds => (false, ds)
            let run := ds.takeWhile Char.isDigit
            if run.isEmpty then (0, after)
            else (if negative then -Int.ofNat (number run) else number run, ds.drop run.length)
          else (0, after)
        | [] => (0, [])
      some (Json.scientific (number (whole ++ fraction)) (e - fraction.length), after)

/-- The float that an argument writes, and what is wrong with it. -/
def floatArgument (s : String) : Float × List String :=
  match s.toList with
  | '\'' :: rest | '"' :: rest => (Float.ofNat (rest.headD '\x00').toNat, [])
  | cs =>
    let (negative, after) := signFrom cs
    match floatFrom after with
    | none => (0.0, wrongNumber s cs false)
    | some (x, rest) =>
      let isName := (after.headD ' ').isAlpha
      (if negative then -x else x, wrongNumber s rest (x.isInf && !isName))

/-- The digits of a number in a base. -/
def digitsIn (base : Nat) (capital : Bool) (n : Nat) : List Char :=
  (Nat.toDigits base n).map fun c => if capital then c.toUpper else c

/-- A whole number in a layout. -/
def Layout.whole (l : Layout) (negative : Bool) (front digits : List Char) : List Char :=
  let digits := if l.precision == some 0 && digits == ['0'] then [] else digits
  let digits := List.replicate (l.precision.getD 1 - digits.length) '0' ++ digits
  l.signed ((if negative then ['-'] else []) ++ front) digits l.precision.isNone

/-- A float in a layout. -/
def Layout.float (l : Layout) (kind : Char) (x : Float) : List Char :=
  let negative := x < 0 || (x == 0 && 1 / x < 0)
  let capital := fun (cs : List Char) => if kind.isUpper then cs.map Char.toUpper else cs
  if x.isNaN || x.isInf then
    l.signed (l.sign (x < 0)) (capital (if x.isNaN then "nan" else "inf").toList) false
  else
    let places := l.precision.getD 6
    let digits := match kind.toLower with
      | 'f' => Decimal.inPlaces places x
      | 'e' => Decimal.withExponent places x
      | _ => Decimal.inShort places l.marked x
    l.signed (l.sign negative) (capital digits) true

/-- The characters of an argument in a layout, what is wrong with it, and whether the format goes on
after it; `kind` says how it is shown. -/
def shownAs (l : Layout) (kind : Char) (argument : Option String) :
    Option (List Char × List String × Bool) :=
  let text := argument.getD ""
  let cut := fun (cs : List Char) => padded l.left l.width (match l.precision with
    | some n => cs.take n
    | none => cs)
  let number := fun (base : Nat) (front : Nat → List Char) =>
    let (n, wrong) := wholeArgument false text
    let n := (if n < 0 then n + Int.ofNat (Nat.pow 2 64) else n).toNat
    some (l.whole false (if l.marked then front n else []) (digitsIn base kind.isUpper n), wrong, true)
  match kind with
  | 's' => some (cut text.toList, [], true)
  | 'c' => some (padded l.left l.width [text.toList.headD '\x00'], [], true)
  | 'b' =>
    let (cs, goes) := escaped text
    some (cut cs, [], goes)
  | 'd' | 'i' =>
    let (n, wrong) := wholeArgument true text
    let front := if n < 0 then [] else l.sign false
    some (l.whole (decide (n < 0)) front (digitsIn 10 false n.natAbs), wrong, true)
  | 'u' => number 10 fun _ => []
  | 'o' => number 8 fun n => if n = 0 then [] else ['0']
  | 'x' => number 16 fun n => if n = 0 then [] else ['0', 'x']
  | 'X' => number 16 fun n => if n = 0 then [] else ['0', 'X']
  | 'e' | 'E' | 'f' | 'F' | 'g' | 'G' =>
    let (x, wrong) := if text = "" then (0.0, []) else floatArgument text
    some (l.float kind x, wrong, true)
  | _ => none

/-- A format that was filled in: its characters, the arguments that are left, and what is wrong. -/
structure Filled where
  chars : List Char := []
  left : List String := []
  complaints : List String := []
  /-- What is wrong with the format itself, which ends here. -/
  refused : Option String := none
  /-- Whether the format goes on. -/
  goes : Bool := true

/-- Puts what was filled in before in front. -/
def Filled.after (f : Filled) (cs : List Char) (complaints : List String) : Filled :=
  { f with chars := cs ++ f.chars, complaints := complaints ++ f.complaints }

/-- A number in a layout, which may be the next argument; what follows it, and the arguments left. -/
def sizeFrom (cs : List Char) (args : List String) :
    Option Int × List String × List Char × List String :=
  match cs with
  | '*' :: rest =>
    let (n, wrong) := wholeArgument true (args.headD "")
    (some n, wrong, rest, args.tail)
  | cs =>
    let ds := cs.takeWhile Char.isDigit
    let n : Nat := ds.foldl (fun n c => 10 * n + (c.toNat - 48)) 0
    (if ds.isEmpty then none else some (Int.ofNat n), [], cs.drop ds.length, args)

/-- The layout at the front of a format, after the percent sign: itself, what is wrong, what follows
it, and the arguments left. -/
def layoutFrom (cs : List Char) (args : List String) :
    Layout × List String × List Char × List String :=
  let isFlag := fun (c : Char) => "#-+ 0".toList.contains c
  let flags := cs.takeWhile isFlag
  let (width, wrong, rest, args) := sizeFrom (cs.dropWhile isFlag) args
  let (precision, more, rest, args) : Option Nat × List String × List Char × List String :=
    match rest with
    | '.' :: rest =>
      let (n, wrong, rest, args) := sizeFrom rest args
      (if n.getD 0 < 0 then none else some (n.getD 0).toNat, wrong, rest, args)
    | rest => (none, [], rest, args)
  ({ left := flags.contains '-' || width.getD 0 < 0, zeros := flags.contains '0'
     plus := flags.contains '+', blank := flags.contains ' ', marked := flags.contains '#'
     width := (width.getD 0).natAbs, precision }, wrong ++ more, rest, args)

/-- A format with arguments filled in once. -/
def formatOnce : Nat → List Char → List String → Filled
  | 0, _, args => { left := args }
  | _ + 1, [], args => { left := args }
  | fuel + 1, '%' :: '%' :: cs, args => (formatOnce fuel cs args).after ['%'] []
  | fuel + 1, '%' :: cs, args =>
    let (layout, wrong, rest, args) := layoutFrom cs args
    match rest with
    | [] => { left := args, complaints := wrong, refused := some "missing format character" }
    | kind :: rest =>
      match shownAs layout kind args.head? with
      | some (shown, more, true) =>
        (formatOnce fuel rest args.tail).after shown (wrong ++ more)
      | some (shown, more, false) => { chars := shown, complaints := wrong ++ more, goes := false }
      | none =>
        let text := String.ofList ('%' :: cs.take (cs.length - rest.length))
        { left := args, complaints := wrong, refused := some (text ++ ": invalid directive") }
  | fuel + 1, '\\' :: cs, args =>
    let (c, rest) := escape cs
    (formatOnce fuel rest args).after [c] []
  | fuel + 1, c :: cs, args => (formatOnce fuel cs args).after [c] []

/-- A format, used again as long as arguments are left. -/
def formattedFrom : Nat → String → List String → Filled
  | 0, _, _ => {}
  | fuel + 1, format, args =>
    let filled := formatOnce format.length.succ format.toList args
    if filled.refused.isSome || !filled.goes || filled.left.isEmpty ||
        filled.left.length == args.length then filled
    else (formattedFrom fuel format filled.left).after filled.chars filled.complaints

/-- A format with all arguments filled in. -/
def formatted (format : String) (args : List String) : Filled :=
  formattedFrom args.length.succ format args

end Conveyor.Shell
