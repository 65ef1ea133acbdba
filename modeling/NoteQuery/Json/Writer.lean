import NoteQuery.Value.Text

/-!
# JSON texts

Two ways of writing values as JSON. Machine-readable reports are indented and leave every character
that need not be escaped as it is. Log lines and the values inside plain reports stand on one line and
hold ASCII characters only.
-/

namespace NoteQuery.Json

/-- Numbers of an indented text: an exponent from 10^16 on and below 10^-5. -/
def numberLayout : Binary64.Layout := ⟨-5, 16, 1⟩

/-- The short escapes. -/
def shortEscapes : List (Char × Char) :=
  [('"', '"'), ('\\', '\\'), ('\n', 'n'), ('\r', 'r'), ('\t', 't'), (Char.ofNat 8, 'b'),
    (Char.ofNat 12, 'f')]

def unitEscape (n : Nat) : List Char := '\\' :: 'u' :: Text.hex 4 n

/-- A character in a string; escapes without a short form are written by `long`. -/
def escapeWith (long : Char → List Char) (c : Char) : List Char :=
  match shortEscapes.lookup c with
  | some e => ['\\', e]
  | none => long c

/-- Control characters are escaped. -/
def rawEscape : Char → List Char :=
  escapeWith fun c => if c.toNat < 0x20 then unitEscape c.toNat else [c]

/-- Everything but the printable characters of ASCII is escaped in units of sixteen bits. -/
def asciiEscape : Char → List Char :=
  escapeWith fun c =>
    let n := c.toNat
    if 0x20 ≤ n && n < 0x7f then [c]
    else if n < 0x10000 then unitEscape n
    else unitEscape (0xd800 + (n - 0x10000) / 0x400) ++ unitEscape (0xdc00 + n % 0x400)

def quote (escape : Char → List Char) (s : String) : List Char :=
  '"' :: s.toList.flatMap escape ++ ['"']

/-! ## Indented texts -/

/-- A line break and the indentation of a level. -/
def newline (level : Nat) : List Char := '\n' :: List.replicate (2 * level) ' '

/-- The parts of an array or an object on lines of their own, between its brackets. -/
def bracketed (opening closing : Char) (level : Nat) (parts : List (List Char)) : List Char :=
  if parts.isEmpty then [opening, closing]
  else opening :: newline (level + 1) ++ (',' :: newline (level + 1)).intercalate parts ++
    newline level ++ [closing]

def indentedFloat : Binary64 → List Char
  | .finite negative units => numberLayout.write negative units
  | _ => "null".toList

/-- The parts of a date. -/
def dateParts (d : DateLiteral) : List (List Char) :=
  let part (name : String) (text : List Char) : List Char :=
    quote rawEscape name ++ ':' :: ' ' :: text
  [part "year" (Nat.toDigits 10 d.year), part "month" (Nat.toDigits 10 d.month),
    part "day" (Nat.toDigits 10 d.day), part "raw" (quote rawEscape d.raw)]

/-- A stamp in universal time ends in `Z`. -/
def stampText : Stamp → String
  | .moment d t (some 0) => (Stamp.moment d t none).iso "T" ++ "Z"
  | s => s.iso "T"

mutual

/-- The text of a value at a level of indentation. Numbers that are not finite are null, and a date is
an object of its parts. -/
def indented (level : Nat) : Value → List Char
  | .null => "null".toList
  | .bool b => (if b then "true" else "false").toList
  | .int i => Value.intChars i
  | .float x => indentedFloat x
  | .text s => quote rawEscape s
  | .date d => bracketed '\x7b' '\x7d' level (dateParts d)
  | .stamp s => quote rawEscape (stampText s)
  | .list items => bracketed '[' ']' level (indentedItems (level + 1) items)
  | .tuple items => bracketed '[' ']' level (indentedItems (level + 1) items)
  | .table entries => bracketed '\x7b' '\x7d' level (indentedEntries (level + 1) entries)

def indentedItems (level : Nat) : List Value → List (List Char)
  | [] => []
  | v :: vs => indented level v :: indentedItems level vs

def indentedEntries (level : Nat) : List (String × Value) → List (List Char)
  | [] => []
  | (name, v) :: es =>
    (quote rawEscape name ++ ':' :: ' ' :: indented level v) :: indentedEntries level es

end

/-! ## Single lines -/

/-- What stands between the items, and between a name and its value. -/
structure Separators where
  item : List Char
  entry : List Char

def narrow : Separators := ⟨[','], [':']⟩

def spaced : Separators := ⟨[',', ' '], [':', ' ']⟩

def lineFloat : Binary64 → List Char
  | .nan => "NaN".toList
  | .infinite negative => (if negative then "-Infinity" else "Infinity").toList
  | x => x.chars

mutual

/-- The text of a value on one line. -/
def line (sep : Separators) : Value → List Char
  | .null => "null".toList
  | .bool b => (if b then "true" else "false").toList
  | .int i => Value.intChars i
  | .float x => lineFloat x
  | .text s => quote asciiEscape s
  | .date d => quote asciiEscape d.raw
  | .stamp s => quote asciiEscape (s.iso "T")
  | .list items => '[' :: sep.item.intercalate (lineItems sep items) ++ [']']
  | .tuple items => '[' :: sep.item.intercalate (lineItems sep items) ++ [']']
  | .table entries => '\x7b' :: sep.item.intercalate (lineEntries sep entries) ++ ['\x7d']

def lineItems (sep : Separators) : List Value → List (List Char)
  | [] => []
  | v :: vs => line sep v :: lineItems sep vs

def lineEntries (sep : Separators) : List (String × Value) → List (List Char)
  | [] => []
  | (name, v) :: es =>
    (quote asciiEscape name ++ sep.entry ++ line sep v) :: lineEntries sep es

end

end NoteQuery.Json
