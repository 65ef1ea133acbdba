import NoteQuery.Note.Record
import NoteQuery.Note.Scalar

/-!
# The body of a block

A body is read line by line. A *key line* has a name at its very start, a colon and a text; an *item
line* has a hyphen, blanks and a text; all other lines count for nothing. A key line with the items
that follow it, up to the next key line, is a *section*. The items belong to the value only if the
text of the key line is blank.
-/

namespace NoteQuery.Body

/-- An item line and the text of its item. -/
structure Item where
  line : List Char
  text : List Char
  deriving DecidableEq, Repr

inductive Line where
  | key (name text : List Char)
  | item (item : Item)
  | other
  deriving DecidableEq, Repr

/-- The text after a hyphen and blanks. It has at least one character, if need be the last of the
blanks. -/
def itemText? (line : List Char) : Option (List Char) :=
  match Text.trimStart line with
  | '-' :: rest =>
    let blanks := rest.takeWhile Text.isBlank
    match rest.dropWhile Text.isBlank with
    | [] => if 2 ≤ blanks.length then blanks.getLast?.map fun c => [c] else none
    | c :: cs => if blanks.isEmpty then none else some (c :: cs)
  | _ => none

/-- The name and the text of a key line. -/
def keyLine? (line : List Char) : Option (List Char × List Char) :=
  let name := line.takeWhile Text.isWord
  match line.dropWhile Text.isWord with
  | ':' :: rest => if name.isEmpty then none else some (name, Text.trimStart rest)
  | _ => none

/-- Whether the line is blank or a comment. -/
def isIdle (line : List Char) : Bool :=
  match Text.trim line with
  | [] => true
  | c :: _ => c == '#'

def Line.ofText (line : List Char) : Line :=
  if isIdle line then .other
  else match itemText? line with
    | some text => .item ⟨line, text⟩
    | none =>
      match keyLine? line with
      | some (name, text) => .key name text
      | none => .other

/-- A key line with the items that follow it. -/
structure Section where
  name : List Char
  text : List Char
  items : List Item
  deriving Repr

/-- The items before the first key line, and the sections. -/
def sections : List Line → List Item × List Section
  | [] => ([], [])
  | .other :: ls => sections ls
  | .item i :: ls => (i :: (sections ls).1, (sections ls).2)
  | .key name text :: ls => ([], ⟨name, text, (sections ls).1⟩ :: (sections ls).2)

namespace Section

/-- Whether the items are the value. -/
def isBlock (s : Section) : Bool := Text.trim s.text == []

def value (s : Section) : Value :=
  if s.isBlock then .list (s.items.map fun i => Scalar.read i.text)
  else match Scalar.readList? s.text with
    | some vs => .list vs
    | none => Scalar.read s.text

def entry (s : Section) : String × Value := (String.ofList s.name, s.value)

/-- The items that belong to no value. -/
def strays (s : Section) : List Item := if s.isBlock then [] else s.items

end Section

def parse (body : List Char) : List Item × List Section :=
  sections ((Text.lines body).map Line.ofText)

/-- The fields of a body. A repeated key keeps its first place and takes its last value. -/
def fields (body : List Char) : OrderedMap Value :=
  OrderedMap.ofList ((parse body).2.map Section.entry)

/-- The item lines that belong to no list, in order. -/
def strayItems (body : List Char) : List Item :=
  (parse body).1 ++ (parse body).2.flatMap Section.strays

end NoteQuery.Body
