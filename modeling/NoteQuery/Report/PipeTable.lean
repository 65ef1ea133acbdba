import NoteQuery.Note.Row
import NoteQuery.Text.Width

/-!
# Pipe tables

Rows as the lines of a table in a markdown text: a header, a separator, and one line per row. Every
column is as wide as its widest cell on a terminal, so that the bars stand below each other.
-/

namespace NoteQuery.PipeTable

/-- What is shown in place of a table without rows. -/
def noResults : String := "No results found."

/-- The display text of one field of a row; a missing field is blank. -/
def cell (row : OrderedMap Value) (field : String) : List Char :=
  (Value.orNull (row.get? field)).displayChars

/-- The grid of the cells, row by row. -/
def cells (rows : List (OrderedMap Value)) (fields : List String) : List (List (List Char)) :=
  rows.map fun row => fields.map (cell row)

/-- The widths of the columns, which start as wide as `widths` and hold every line. -/
def columnWidths (widths : List Nat) (lines : List (List (List Char))) : List Nat :=
  lines.foldl (fun ws line => List.zipWith (fun w text => max w (Text.width text)) ws line) widths

def padAll (widths : List Nat) (line : List (List Char)) : List (List Char) :=
  List.zipWith Text.padEnd widths line

def dashes (n : Nat) : List Char := List.replicate n '-'

/-- The number of digits of the last row number. -/
def numberWidth (rows : List (OrderedMap Value)) : Nat := (Nat.toDigits 10 rows.length).length

/-- A line of cells between bars. -/
def barLine (texts : List (List Char)) : List Char :=
  "| ".toList ++ " | ".toList.intercalate texts ++ " |".toList

/-- The line between header and rows. -/
def ruleLine (rules : List (List Char)) : List Char :=
  "|-".toList ++ "-|-".toList.intercalate rules ++ "-|".toList

/-- The lines of the table. The rows are numbered from one if asked for. -/
def charLines (rows : List (OrderedMap Value)) (fields : List String) (numbered : Bool) :
    List (List Char) :=
  if rows.isEmpty then [noResults.toList]
  else
    let header := fields.map String.toList
    let body := cells rows fields
    let widths := columnWidths (header.map Text.width) body
    let w := numberWidth rows
    let numberCell (text : List Char) (line : List (List Char)) : List (List Char) :=
      if numbered then Text.padEnd w text :: line else line
    let rules := widths.map dashes
    barLine (numberCell ['#'] (padAll widths header)) ::
      ruleLine (if numbered then dashes w :: rules else rules) ::
      (body.zipIdx 1).map fun (line, n) =>
        barLine (numberCell (Nat.toDigits 10 n) (padAll widths line))

def lines (rows : List (OrderedMap Value)) (fields : List String) (numbered : Bool) :
    List String :=
  (charLines rows fields numbered).map String.ofList

end NoteQuery.PipeTable
