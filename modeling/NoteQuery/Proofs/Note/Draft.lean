import NoteQuery.Note.Document
import NoteQuery.Proofs.Value.DateLiterals

/-!
# Drafts of documents

A draft is what a document is written from: fields with different names, whose values are scalars or
lists of scalars, and the text behind the block. It fixes the layout of each list, too: an item line
for each item, or brackets on the key line. Writing is the counterpart of reading a document; floats
have no place in a draft, since a float is read back only up to rounding.
-/

namespace NoteQuery.Draft

/-- A scalar that has a written form. -/
inductive Atom where
  | null
  | bool (b : Bool)
  | int (i : Int) (short : (Nat.toDigits 10 i.natAbs).length ≤ Text.digitLimit)
  | text (s : String) (oneLine : '\n' ∉ s.toList)
  | date (d : DateLiteral) (wellFormed : d.IsWellFormed)

namespace Atom

def value : Atom → Value
  | null => .null
  | bool b => .bool b
  | int i _ => .int i
  | text s _ => .text s
  | date d _ => .date d

/-- The written form; texts stand between double quotes as they are. -/
def write : Atom → List Char
  | null => "null".toList
  | bool b => if b then "true".toList else "false".toList
  | int i _ => Value.intChars i
  | text s _ => '"' :: (s.toList ++ ['"'])
  | date d _ => d.raw.toList

end Atom

/-- The value of a field and its layout. Brackets are no layout for texts with commas. -/
inductive Content where
  | scalar (a : Atom)
  | block (items : List Atom)
  | bracketed (items : List Atom)
      (noComma : ∀ s oneLine, Atom.text s oneLine ∈ items → ',' ∉ s.toList)

def Content.value : Content → Value
  | scalar a => a.value
  | block items => .list (items.map Atom.value)
  | bracketed items _ => .list (items.map Atom.value)

structure Entry where
  key : String
  key_ne_nil : key.toList ≠ []
  key_word : ∀ c ∈ key.toList, Text.isWord c
  content : Content

/-- The lines of an entry. -/
def Entry.lines (e : Entry) : List (List Char) :=
  match e.content with
  | .scalar a => [e.key.toList ++ ':' :: ' ' :: a.write]
  | .block items =>
    (e.key.toList ++ [':']) :: items.map fun a => ' ' :: ' ' :: '-' :: ' ' :: a.write
  | .bracketed items _ =>
    [e.key.toList ++ ':' :: ' ' :: '[' :: ([',', ' '].intercalate (items.map Atom.write) ++ [']'])]

end Draft

structure Draft where
  entries : List Draft.Entry
  distinct : (entries.map Draft.Entry.key).Nodup
  /-- What stands behind the block, from the end of its closing line on. -/
  trailing : List Char
  trailing_newline : trailing = [] ∨ ∃ cs, trailing = '\n' :: cs

namespace Draft

/-- The lines between the delimiters. -/
def body (d : Draft) : List (List Char) := d.entries.flatMap Entry.lines

/-- The text of the document: the opening delimiter, the body and the closing delimiter, each line
with its newline but for the last, and what stands behind. -/
def write (d : Draft) : String :=
  String.ofList ((['-', '-', '-'] :: d.body).flatMap (· ++ ['\n']) ++ ['-', '-', '-'] ++ d.trailing)

/-- The fields, in order. -/
def fields (d : Draft) : OrderedMap Value where
  entries := d.entries.map fun e => (e.key, e.content.value)
  nodup := by
    rw [List.map_map]
    exact d.distinct

end Draft

end NoteQuery
