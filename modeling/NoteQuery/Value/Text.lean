import NoteQuery.Binary64.Shortest
import NoteQuery.Text.Digits
import NoteQuery.Value.Basic

/-!
# Texts of values

A value has three texts. Its *literal* tells the kinds of values apart: texts are quoted and nulls
and booleans are capitalised names. Its *plain text* is what values of different kinds are compared
by, and what a search for a piece of text sees: a null is empty, booleans are lower-case words, lists
are joined by commas. Its *display* is what a table shows: as the plain text, but booleans are `yes`
and `no`.

An integer of too many digits cannot be written, and so a value with such an integer in it has no
text at all. The texts below say what would be written if it could; whoever needs a text asks
`isWritable` first. Integers of notes have few enough digits, as have those that are typed; longer
ones come from a hexadecimal numeral in a configuration file, or from a caller.
-/

namespace NoteQuery

namespace Binary64

/-- Numbers of a text: an exponent from 10^16 on and below 10^-4, with two digits at least. -/
def textLayout : Layout := ⟨-4, 16, 2⟩

def chars : Binary64 → List Char
  | nan => "nan".toList
  | infinite negative => (if negative then "-inf" else "inf").toList
  | finite negative units => textLayout.write negative units

end Binary64

namespace Value

/-- The decimal digits of an integer, after a minus sign if it is negative. -/
def intChars (i : Int) : List Char :=
  if i < 0 then '-' :: Nat.toDigits 10 i.natAbs else Nat.toDigits 10 i.natAbs

/-- Texts with a comma and a space between them. -/
def commaJoin (texts : List (List Char)) : List Char := [',', ' '].intercalate texts

/-! ## Literals -/

mutual

def literalChars : Value → List Char
  | null => "None".toList
  | bool b => (if b then "True" else "False").toList
  | int i => intChars i
  | float x => x.chars
  | text s => Text.quotedChars s.toList
  | date d => d.literal.toList
  | list items => '[' :: commaJoin (literalItems items) ++ [']']
  | tuple [v] => '(' :: literalChars v ++ [',', ')']
  | tuple items => '(' :: commaJoin (literalItems items) ++ [')']
  | stamp s => s.literal.toList
  | table entries => '\x7b' :: commaJoin (literalEntries entries) ++ ['\x7d']

def literalItems : List Value → List (List Char)
  | [] => []
  | v :: vs => literalChars v :: literalItems vs

def literalEntries : List (String × Value) → List (List Char)
  | [] => []
  | (name, v) :: es =>
    (Text.quotedChars name.toList ++ ':' :: ' ' :: literalChars v) :: literalEntries es

end

/-- The text of a value that stands alone: texts, dates and stamps are bare, all others are written
as literals. -/
def bareChars : Value → List Char
  | text s => s.toList
  | date d => d.raw.toList
  | stamp s => (s.iso " ").toList
  | v => literalChars v

/-! ## Plain texts -/

mutual

def plainChars : Value → List Char
  | null => []
  | bool b => (if b then "true" else "false").toList
  | list items => commaJoin (plainItems items)
  | v => bareChars v

def plainItems : List Value → List (List Char)
  | [] => []
  | v :: vs => plainChars v :: plainItems vs

end

def plainText (v : Value) : String := String.ofList v.plainChars

/-! ## Display -/

mutual

def displayChars : Value → List Char
  | null => []
  | bool b => (if b then "yes" else "no").toList
  | list items => commaJoin (displayItems items)
  | v => bareChars v

def displayItems : List Value → List (List Char)
  | [] => []
  | v :: vs => displayChars v :: displayItems vs

end

def display (v : Value) : String := String.ofList v.displayChars

def bareText (v : Value) : String := String.ofList v.bareChars

/-! ## Values that can be written -/

mutual

/-- Whether the value has texts: no integer in it has more digits than can be written. -/
def isWritable : Value → Bool
  | int i => (Nat.toDigits 10 i.natAbs).length ≤ Text.digitLimit
  | list items => areWritable items
  | tuple items => areWritable items
  | table entries => entriesAreWritable entries
  | _ => true

def areWritable : List Value → Bool
  | [] => true
  | v :: vs => isWritable v && areWritable vs

def entriesAreWritable : List (String × Value) → Bool
  | [] => true
  | (_, v) :: es => isWritable v && entriesAreWritable es

end

end Value

end NoteQuery
