/-
**Tables and panels drawn with lines.**

A column is as wide as its widest cell with a blank on either side.  When a table is too wide, the
widest columns give way first.

Main definitions:

* `Conveyor.Console.Table` — a title, the heads of columns, and rows of cells;
* `Conveyor.Console.columnWidths` — the widths of columns;
* `Conveyor.Console.Table.draw` — the lines of a table;
* `Conveyor.Console.Panel`, `Conveyor.Console.Panel.draw` — a text in a frame with a title.
-/

import Conveyor.Console.Markup
import Conveyor.Console.Wrap
import Conveyor.Counts

set_option autoImplicit false

namespace Conveyor.Console

/-- A title, the heads of columns, and rows of cells; all are texts with tags. -/
structure Table where
  title : String
  heads : List String
  rows : List (List String) := []
  deriving DecidableEq, Repr

/-! ### Widths -/

/-- A quotient rounded to the nearest number, and a half to the even one. -/
def roundDiv (a b : Nat) : Nat :=
  let q := a / b
  let twice := 2 * (a % b)
  if twice < b then q else if b < twice then q + 1 else q + q % 2

/-- Takes cells off the columns of a width: `left` cells are to be taken off `shares` columns, and
from none more than `most`. -/
def shrink (widest most : Nat) (left shares : Nat) : List Nat → List Nat
  | [] => []
  | w :: ws =>
    if w = widest ∧ shares ≠ 0 then
      let part := min most (roundDiv left shares)
      (w - part) :: shrink widest most (left - part) (shares - 1) ws
    else w :: shrink widest most left shares ws

/-- Takes cells off the widest columns until all fit into a room, at most so many times. -/
def collapse (room : Nat) : Nat → List Nat → List Nat
  | 0, ws => ws
  | n + 1, ws =>
    let excess := total ws - room
    if excess = 0 then ws
    else
      let widest := ws.foldl max 0
      let second := (ws.filter (· != widest)).foldl max 0
      collapse room n
        (shrink widest (min excess (widest - second)) excess (ws.count widest) ws)

/-- The cells of a column that hold a text with a blank on either side. -/
def columnNeed (cs : List Char) : Nat := naturalWidth (withoutControls cs) + 2

/-- The widths of columns in a room. -/
def columnWidths (room : Nat) (columns : List (List (List Char))) : List Nat :=
  let natural := columns.map fun column => min room ((column.map columnNeed).foldl max 0)
  collapse room (total natural - room) natural

/-! ### Lines -/

/-- The strokes of a horizontal line: its left end, its stroke, its crossings, and its right end. -/
structure Rule where
  left : Char
  stroke : Char
  crossing : Char
  right : Char

/-- The line above the heads. -/
def Rule.top : Rule := ⟨'┏', '━', '┳', '┓'⟩

/-- The line below the heads. -/
def Rule.head : Rule := ⟨'┡', '━', '╇', '┩'⟩

/-- The line below the rows. -/
def Rule.bottom : Rule := ⟨'└', '─', '┴', '┘'⟩

/-- A horizontal line over columns of some widths. -/
def Rule.draw (r : Rule) (ws : List Nat) : List Char :=
  r.left :: [r.crossing].intercalate (ws.map fun w => List.replicate w r.stroke) ++ [r.right]

/-- The lines of a cell of some width. -/
def cellLines (w : Nat) (cs : List Char) : List (List Char) :=
  (wrap (w - 2) .left false cs).map fun l => ' ' :: l ++ [' ']

/-- The lines of a row; shorter cells are filled up with blank lines. -/
def rowLines (bar : Char) (ws : List Nat) (row : List (List Char)) : List (List Char) :=
  let drawn := (ws.zip row).map fun c => (c.1, cellLines c.1 c.2)
  let height := (drawn.map fun c => c.2.length).foldl max 0
  (List.range height).map fun i =>
    bar :: [bar].intercalate (drawn.map fun c => c.2[i]?.getD (spaces c.1)) ++ [bar]

/-- Reads the tags of texts. -/
def shownAll : List String → Except Fault (List (List Char))
  | [] => .ok []
  | s :: ss => do
    let cs ← Markup.shown s
    let rest ← shownAll ss
    return cs :: rest

/-- Reads the tags of the cells of columns. -/
def shownColumns : List (List String) → Except Fault (List (List (List Char)))
  | [] => .ok []
  | c :: cs => do
    let cells ← shownAll c
    let rest ← shownColumns cs
    return cells :: rest

namespace Table

/-- The columns of a table, each with its head. -/
def columns (t : Table) : List (List String) :=
  t.heads.mapIdx fun i head => head :: t.rows.map fun r => r[i]?.getD ""

/-- How many cells of a screen are left for columns between the bars. -/
def room (t : Table) (screen : Nat) : Nat := screen - (t.heads.length + 1)

/-- The lines of a table on a screen.  The title stands over its middle. -/
def draw (t : Table) (screen : Nat) : Except Fault (List (List Char)) := do
  let columns ← shownColumns t.columns
  let title ← Markup.shown t.title
  let ws := columnWidths (t.room screen) columns
  let row := fun (i : Nat) => columns.map fun column => column[i]?.getD []
  return wrap (total ws + (t.heads.length + 1)) .middle true title ++
    [Rule.top.draw ws] ++ rowLines '┃' ws (row 0) ++
    [Rule.head.draw ws] ++ (List.range t.rows.length).flatMap (fun i => rowLines '│' ws (row (i + 1)))
    ++ [Rule.bottom.draw ws]

end Table

/-- A text in a frame with a title; both are texts with tags. -/
structure Panel where
  title : String
  text : String
  deriving DecidableEq, Repr

/-- The lines of a panel on a screen.  The frame is as wide as the text or the title needs. -/
def Panel.draw (p : Panel) (screen : Nat) : Except Fault (List (List Char)) := do
  let title ← Markup.shown p.title
  let text ← Markup.shown p.text
  let title := ' ' :: expandTabs ((withoutControls title).map fun c => if c = '\n' then ' ' else c)
    ++ [' ']
  let inner := min (screen - 2) (max (min (screen - 2) (columnNeed text)) (width title + 2))
  let shownTitle := truncate (inner - 2) false title
  let rest := inner - 2 - width shownTitle
  let strokes := fun (n : Nat) => List.replicate n '─'
  let top := '╭' :: '─' :: strokes (rest / 2) ++ shownTitle ++ strokes (rest - rest / 2) ++ ['─', '╮']
  return top :: (wrap (inner - 2) .free true text).map (fun l =>
    '│' :: ' ' :: fit (inner - 2) l ++ [' ', '│']) ++ [['╰'] ++ strokes inner ++ ['╯']]

end Conveyor.Console
