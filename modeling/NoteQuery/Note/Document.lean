import NoteQuery.Note.Body

/-!
# Documents

A document may begin with a block: a line `---`, the body, and another line `---`. Without both lines
there is no block, and the record of the document has no fields.
-/

namespace NoteQuery.Document

def isDelimiter (line : List Char) : Bool := Text.trimEnd line == ['-', '-', '-']

/-- The lines before the first delimiter, if there is one. -/
def untilDelimiter? : List (List Char) → Option (List (List Char))
  | [] => none
  | l :: ls => if isDelimiter l then some [] else (untilDelimiter? ls).map (l :: ·)

/-- The body of the leading block. -/
def block? (content : List Char) : Option (List Char) :=
  match Text.lines content with
  | [] => none
  | l :: ls =>
    if isDelimiter l then (untilDelimiter? ls).map fun body => ['\n'].intercalate body else none

/-- The fields of a document. -/
def fields (content : List Char) : OrderedMap Value :=
  match block? content with
  | some body => Body.fields body
  | none => .empty

/-- The record of the document at a path. -/
def record (content path : String) : Record :=
  ⟨FileIdentity.ofPath path, fields content.toList⟩

end NoteQuery.Document
