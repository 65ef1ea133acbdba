import NoteQuery.Binary64.Decimal
import NoteQuery.Text.Wrap

/-!
# Box tables

A table with a title, a header and lines drawn around its columns. A column is as wide as its widest
line. A table that is wider than the page has its widest columns shrunk, and the text of their cells
is wrapped; a word that does not fit is cut short with dots.
-/

namespace NoteQuery.BoxTable

/-- A column with its heading and its cells from top to bottom. -/
structure Column where
  heading : List Char
  cells : List (List Char)
  justify : Text.Justify

/-- A column with the spaces to the left and the right of its cells. -/
structure Placed where
  column : Column
  left : Nat
  right : Nat

/-- Cells have a space on either side, but not at the edges of the table. -/
def place (columns : List Column) : List Placed :=
  columns.zipIdx.map fun (c, n) =>
    ⟨c, if n = 0 then 0 else 1, if n + 1 = columns.length then 0 else 1⟩

/-! ## Widths -/

/-- Characters that end a line of text. -/
def endsLine (c : Char) : Bool :=
  [0x0a, 0x0b, 0x0c, 0x0d, 0x1c, 0x1d, 0x1e, 0x85, 0x2028, 0x2029].contains c.toNat

/-- The cells of the widest line of a text. -/
def textWidth (cs : List Char) : Nat :=
  ((cs.map fun c => if endsLine c then '\n' else c).splitOn '\n').foldl
    (fun w line => max w (Text.width line)) 0

/-- The width of a cell with its spaces, on a page of `page` cells. -/
def cellWidth (page : Nat) (p : Placed) (cell : List Char) : Nat :=
  let margin := p.left + p.right
  if page ≤ margin then page else min page (min page (textWidth cell) + margin)

def Placed.texts (p : Placed) : List (List Char) := p.column.heading :: p.column.cells

/-- The width that a column asks for. -/
def columnWidth (page : Nat) (p : Placed) : Nat :=
  p.texts.foldl (fun w cell => max w (cellWidth page p cell)) 0

/-- Takes `total` away from the values marked by `shares`, in equal parts that are rounded, but from
each at most its limit. -/
def shareOut (total shares : Nat) : List (Bool × Nat × Nat) → List Nat
  | [] => []
  | (share, limit, value) :: rest =>
    if share && limit ≠ 0 then
      let taken := min limit (Binary64.roundDiv total shares)
      (value - taken) :: shareOut (total - taken) (shares - 1) rest
    else value :: shareOut total shares rest

/-- The number of values that can be reduced. -/
def countShares (entries : List (Bool × Nat × Nat)) : Nat :=
  entries.countP fun e => e.1 && e.2.1 ≠ 0

def reduce (total : Nat) (entries : List (Bool × Nat × Nat)) : List Nat :=
  shareOut total (countShares entries) entries

/-- One step of shrinking: the widest columns come down to the next widest, as far as needed. -/
def shrinkStep (page : Nat) (widths : List Nat) : List Nat :=
  let excess := Text.total widths - page
  let widest := widths.foldl max 0
  let next := (widths.filter (· ≠ widest)).foldl max 0
  reduce excess (widths.map fun w => (w == widest, min excess (widest - next), w))

/-- Shrinks until the widths fit or there is nothing left to take. Each step takes something. -/
def shrink (page : Nat) : Nat → List Nat → List Nat
  | 0, widths => widths
  | steps + 1, widths =>
    if Text.total widths ≤ page || Text.total widths = 0 then widths
    else shrink page steps (shrinkStep page widths)

/-- The widths of the columns on a page with room for `page` cells. -/
def widths (page : Nat) (ps : List Placed) : List Nat :=
  let wanted := ps.map fun p => max 1 (columnWidth page p)
  if Text.total wanted ≤ page then wanted
  else
    let shrunk := shrink page (Text.total wanted) wanted
    let shrunk :=
      if Text.total shrunk ≤ page then shrunk
      else reduce (Text.total shrunk - page) (shrunk.map fun w => (true, w, w))
    List.zipWith columnWidth shrunk ps

/-! ## Lines -/

/-- The lines of a cell, each as wide as its column. A cell without room has no lines. -/
def cellLines (w : Nat) (p : Placed) (justify : Text.Justify) (text : List Char) :
    List (List Char) :=
  let inner := w - p.left - p.right
  if inner = 0 then []
  else (Text.wrap inner .ellipsis justify text).map fun line =>
    Text.spaces p.left ++ Text.setWidth inner line ++ Text.spaces p.right

/-- Cells of equal height, filled up below or above. -/
def levelled (atBottom : Bool) (widths : List Nat) (cells : List (List (List Char))) :
    List (List (List Char)) :=
  let height := cells.foldl (fun h cell => max h cell.length) 1
  List.zipWith (fun w cell =>
    let blank := List.replicate (height - cell.length) (Text.spaces w)
    if atBottom then blank ++ cell else cell ++ blank) widths cells

/-- The lines of a row from the lines of its cells. -/
def acrossLines (bar : Char) : Nat → List (List (List Char)) → List (List Char)
  | 0, _ => []
  | height + 1, cells =>
    (bar :: [bar].intercalate (cells.map fun cell => cell.headD []) ++ [bar]) ::
      acrossLines bar height (cells.map List.tail)

def rowLines (bar : Char) (atBottom : Bool) (widths : List Nat)
    (cells : List (List (List Char))) : List (List Char) :=
  let cells := levelled atBottom widths cells
  acrossLines bar ((cells.headD []).length) cells

/-- A ruled line with its two corners and its crossings. -/
def rule (left stroke crossing right : Char) (widths : List Nat) : List Char :=
  left :: [crossing].intercalate (widths.map fun w => List.replicate w stroke) ++ [right]

/-- The cells of the columns, row by row. -/
def rows (height : Nat) (ps : List Placed) : List (List (List Char)) :=
  (List.range height).map fun n => ps.map fun p => (p.column.cells[n]?).getD []

/-- The lines of a table that is at most `page` cells wide, with its title above it. A table without
columns is an empty line. -/
def lines (page : Nat) (title : Option (List Char)) (columns : List Column) (height : Nat) :
    List (List Char) :=
  if columns.isEmpty then [[]]
  else
    let ps := place columns
    let frame := columns.length + 1
    let ws := widths (page - frame) ps
    let total := Text.total ws + frame
    let cellsOf (texts : List (List Char)) : List (List (List Char)) :=
      (List.zip (List.zip ws ps) texts).map fun ((w, p), text) =>
        cellLines w p p.column.justify text
    let titleLines := match title with
      | some title => (Text.wrap total .fold .center title).map (Text.setWidth total)
      | none => []
    let all := titleLines ++
      rule '┏' '━' '┳' '┓' ws ::
      rowLines '┃' true ws (cellsOf (ps.map fun p => p.column.heading)) ++
      rule '┡' '━' '╇' '┩' ws ::
      (rows height ps).flatMap (fun texts => rowLines '│' false ws (cellsOf texts)) ++
      [rule '└' '─' '┴' '┘' ws]
    all.map fun line => if page < Text.width line then Text.setWidth page line else line

end NoteQuery.BoxTable
