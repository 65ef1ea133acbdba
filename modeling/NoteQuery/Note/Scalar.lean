import NoteQuery.Binary64.Decimal
import NoteQuery.Text.Basic
import NoteQuery.Text.Digits
import NoteQuery.Value.Basic

/-!
# Scalar literals

The value that a short text stands for. The kinds are tried in a fixed order: words, numbers, dates,
quoted texts, and whatever is left is a text as it stands. A list in brackets holds scalars between
commas; there is no quoting of commas.
-/

namespace NoteQuery.Scalar

/-- The words for null and the two booleans; the empty text is null. -/
def word? (cs : List Char) : Option Value :=
  if cs = [] || cs = "null".toList || cs = ['~'] then some .null
  else if cs = "true".toList then some (.bool true)
  else if cs = "false".toList then some (.bool false)
  else none

/-- An integer; with too many digits it is read as a float. -/
def integer (negative : Bool) (digits : List Char) : Value :=
  let n := Text.natOfDigits digits
  if digits.length ≤ Text.digitLimit then .int (if negative then -(n : Int) else n)
  else .float (Binary64.ofDecimal negative n 0)

def fractional (negative : Bool) (whole fraction : List Char) : Value :=
  .float (Binary64.ofDecimal negative (Text.natOfDigits (whole ++ fraction)) (-fraction.length))

/-- Digits with an optional sign, and at most one point among or around them. -/
def number? (cs : List Char) : Option Value :=
  let (negative, cs) := Text.takeSign cs
  let whole := cs.takeWhile Char.isDigit
  match cs.dropWhile Char.isDigit with
  | [] => if whole.isEmpty then none else some (integer negative whole)
  | c :: fraction =>
    if c = '.' && fraction.all Char.isDigit && !(whole.isEmpty && fraction.isEmpty) then
      some (fractional negative whole fraction)
    else none

/-- Four digits, two and two, with hyphens between them. -/
def date? (cs : List Char) : Option DateLiteral :=
  match cs with
  | [y1, y2, y3, y4, h1, m1, m2, h2, d1, d2] =>
    if h1 = '-' && h2 = '-' && [y1, y2, y3, y4, m1, m2, d1, d2].all Char.isDigit then
      some ⟨Text.natOfDigits [y1, y2, y3, y4], Text.natOfDigits [m1, m2],
        Text.natOfDigits [d1, d2], String.ofList cs⟩
    else none
  | _ => none

/-- What stands between two equal quotes. -/
def unquote? : List Char → Option (List Char)
  | [] => none
  | q :: cs =>
    if (q = '"' || q = Char.ofNat 0x27) && cs.getLast? = some q then some cs.dropLast else none

/-- The value of a scalar literal; blanks around it do not count. -/
def read (text : List Char) : Value :=
  let cs := Text.trim text
  match word? cs with
  | some v => v
  | none =>
    match number? cs with
    | some v => v
    | none =>
      match date? cs with
      | some d => .date d
      | none => .text (String.ofList ((unquote? cs).getD cs))

/-- The scalars between brackets, if the text is one line in brackets. -/
def readList? (text : List Char) : Option (List Value) :=
  match Text.trim text with
  | c :: cs =>
    if c = '[' && cs.getLast? = some ']' && !cs.contains '\n' then
      some ((Text.commaItems cs.dropLast).map read)
    else none
  | [] => none

end NoteQuery.Scalar
