/-
**A place in the text of a document.**

The cursor knows what is left of the text and where it stands: how many characters were read, how
many lines ended before it and how many columns of its line lie before it.  The end of the text
reads as the character NUL, which no document holds.

Main definitions:

* `Conveyor.Yaml.Cursor` — what is left of a text, with its position;
* `Conveyor.Yaml.Cursor.peek`, `Conveyor.Yaml.Cursor.advance` — looking ahead and moving on;
* `Conveyor.Yaml.Cursor.lineBreak` — moves over one line break and says what it counts as;
* `Conveyor.Yaml.isReadable` — the characters a document may hold.
-/

set_option autoImplicit false

namespace Conveyor.Yaml

/-! ### Classes of characters -/

/-- The character that stands for the end of the text. -/
def endMark : Char := Char.ofNat 0

/-- The characters a document may hold. -/
def isReadable (c : Char) : Bool :=
  let n := c.toNat
  n == 9 || n == 10 || n == 13 || (0x20 ≤ n && n ≤ 0x7E) || n == 0x85 ||
    (0xA0 ≤ n && n ≤ 0xD7FF) || (0xE000 ≤ n && n ≤ 0xFFFD) || 0x10000 ≤ n

/-- The characters that end a line. -/
def isBreak (c : Char) : Bool :=
  c == '\n' || c == '\r' || c.toNat == 0x85 || c.toNat == 0x2028 || c.toNat == 0x2029

/-- A line break or the end of the text. -/
def isBreakOrEnd (c : Char) : Bool := isBreak c || c == endMark

/-- A space, a line break or the end of the text. -/
def isSpaceOrEnd (c : Char) : Bool := c == ' ' || isBreakOrEnd c

/-- A space, a tab, a line break or the end of the text. -/
def isBlankOrEnd (c : Char) : Bool := c == '\t' || isSpaceOrEnd c

/-- The characters of names of anchors, directives and tag handles. -/
def isNameChar (c : Char) : Bool := c.isAlphanum || c == '-' || c == '_'

/-! ### The cursor -/

/-- What is left of a text, with its position. -/
structure Cursor where
  rest : List Char
  index : Nat := 0
  line : Nat := 0
  column : Nat := 0
  deriving Repr

namespace Cursor

/-- The character `n` places ahead. -/
def peek (c : Cursor) (n : Nat := 0) : Char := (c.rest[n]?).getD endMark

/-- Whether the characters ahead begin with `cs`. -/
def startsWith (c : Cursor) (cs : List Char) : Bool := cs.isPrefixOf c.rest

/-- The next `n` characters. -/
def ahead (c : Cursor) (n : Nat) : List Char := c.rest.take n

/-- Moves over one character.  A carriage return before a line feed does not yet end the line, and
a byte order mark takes no column. -/
def step (c : Cursor) : Cursor :=
  match c.rest with
  | [] => c
  | x :: rest =>
    let ends := isBreak x && !(x == '\r' && rest.head? == some '\n')
    { rest
      index := c.index + 1
      line := if ends then c.line + 1 else c.line
      column := if ends then 0 else if x.toNat == 0xFEFF then c.column else c.column + 1 }

/-- Moves over `n` characters. -/
def advance (c : Cursor) : Nat → Cursor
  | 0 => c
  | n + 1 => c.step.advance n

/-- The number of characters ahead that satisfy `p`, up to the first that does not. -/
def run (c : Cursor) (p : Char → Bool) : Nat := (c.rest.takeWhile p).length

/-- Moves over the characters that satisfy `p`. -/
def skip (c : Cursor) (p : Char → Bool) : Cursor := c.advance (c.run p)

/-- Moves over one line break, if there is one, and says what it counts as: a line feed, or one of
the two separators that stand for themselves. -/
def lineBreak (c : Cursor) : List Char × Cursor :=
  if c.startsWith ['\r', '\n'] then (['\n'], c.advance 2)
  else
    let x := c.peek
    if x == '\n' || x == '\r' || x.toNat == 0x85 then (['\n'], c.advance 1)
    else if x.toNat == 0x2028 || x.toNat == 0x2029 then ([x], c.advance 1)
    else ([], c)

/-- Whether a document marker stands here: three dashes or three points, and a blank. -/
def atMarker (c : Cursor) : Bool :=
  (c.startsWith ['-', '-', '-'] || c.startsWith ['.', '.', '.']) && isBlankOrEnd (c.peek 3)

end Cursor

end Conveyor.Yaml
