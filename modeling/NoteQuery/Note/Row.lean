import NoteQuery.Note.Record

/-!
# Rows

A row is a record as reports and machine-readable output show it: dates are replaced by their
literals, and the identity of the file is added under `_file`.
-/

namespace NoteQuery

mutual

/-- The value with every date in it, at any depth of lists, replaced by its literal. -/
def Value.plain : Value → Value
  | .date d => .text d.raw
  | .list items => .list (plainAll items)
  | v => v

def plainAll : List Value → List Value
  | [] => []
  | v :: vs => v.plain :: plainAll vs

end

def textOrNull : Option String → Value
  | some s => .text s
  | none => .null

def FileIdentity.toValue (file : FileIdentity) : Value :=
  .table [("path", textOrNull file.path), ("name", textOrNull file.name),
    ("title", textOrNull file.title)]

/-- The row of a record. -/
def Record.row (r : Record) : OrderedMap Value :=
  (r.fields.map Value.plain).insert "_file" r.file.toValue

end NoteQuery
