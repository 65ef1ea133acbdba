import NoteQuery.Binary64.Decimal
import NoteQuery.OrderedMap
import NoteQuery.Text.Digits
import NoteQuery.Value.Basic

/-!
# Reading JSON

The values of JSON texts. Besides the numbers of the format, the words `NaN`, `Infinity` and
`-Infinity` are read. A name that occurs twice in an object has its last value in its first place.
-/

namespace NoteQuery.Json

/-- What was read, and the rest, if the text has the form asked for. -/
abbrev Result (α : Type) := Option (α × List Char)

def isSpace (c : Char) : Bool := c == ' ' || c == '\t' || c == '\n' || c == '\r'

def skipSpace (cs : List Char) : List Char := cs.dropWhile isSpace

/-! ## Strings -/

/-- The number of four hexadecimal digits. -/
def unit? (digits : List Char) : Option Nat :=
  (digits.mapM Text.hexValue?).map fun ns => ns.foldl (fun n d => 16 * n + d) 0

/-- The short escapes. -/
def readEscapes : List (Char × Char) :=
  [('"', '"'), ('\\', '\\'), ('/', '/'), ('b', Char.ofNat 8), ('f', Char.ofNat 12), ('n', '\n'),
    ('r', '\r'), ('t', '\t')]

/-- Adds a unit of sixteen bits to the text behind it. The first half of a pair joins with the second
half, which the text then begins with; a half that stands alone is replaced. -/
def prependUnit (unit : Nat) (next : Option Nat) (text : List Char) : List Char :=
  if 0xd800 ≤ unit && unit < 0xdc00 then
    match next with
    | some low =>
      if 0xdc00 ≤ low && low < 0xe000 then
        Char.ofNat (0x10000 + (unit - 0xd800) * 0x400 + (low - 0xdc00)) :: text.drop 1
      else Char.ofNat 0xfffd :: text
    | none => Char.ofNat 0xfffd :: text
  else if 0xdc00 ≤ unit && unit < 0xe000 then Char.ofNat 0xfffd :: text
  else Char.ofNat unit :: text

/-- The unit that an escape at the start of the text writes. -/
def leadingUnit? : List Char → Option Nat
  | '\\' :: 'u' :: a :: b :: c :: d :: _ => unit? [a, b, c, d]
  | _ => none

/-- The text of a string up to its closing quote. -/
def stringBody : List Char → Result (List Char)
  | [] => none
  | '"' :: rest => some ([], rest)
  | '\\' :: 'u' :: a :: b :: c :: d :: rest =>
    match unit? [a, b, c, d], stringBody rest with
    | some unit, some (text, after) => some (prependUnit unit (leadingUnit? rest) text, after)
    | _, _ => none
  | '\\' :: e :: rest =>
    match readEscapes.lookup e, stringBody rest with
    | some c, some (text, after) => some (c :: text, after)
    | _, _ => none
  | c :: rest =>
    if c.toNat < 0x20 || c = '\\' then none
    else (stringBody rest).map fun (text, after) => (c :: text, after)

/-! ## Numbers -/

/-- An integer, or a float if there is a fraction or a power of ten. -/
def number? (cs : List Char) : Result Value :=
  let (negative, body) := match cs with
    | '-' :: rest => (true, rest)
    | _ => (false, cs)
  let whole := match body with
    | '0' :: _ => ['0']
    | _ => body.takeWhile Char.isDigit
  let rest := body.drop whole.length
  let (fraction, rest) := match rest with
    | '.' :: more =>
      let ds := more.takeWhile Char.isDigit
      if ds.isEmpty then ([], rest) else (ds, more.drop ds.length)
    | _ => ([], rest)
  let (exponent, after) := match rest with
    | c :: more =>
      let (down, ds) := Text.takeSign more
      let digits := ds.takeWhile Char.isDigit
      let n : Int := Text.natOfDigits digits
      if (c = 'e' || c = 'E') && !digits.isEmpty then
        (some (if down then -n else n), ds.drop digits.length)
      else (none, rest)
    | [] => (none, [])
  if whole.isEmpty then none
  else if fraction.isEmpty && exponent.isNone then
    let n : Int := Text.natOfDigits whole
    if Text.digitLimit < whole.length then none
    else some (.int (if negative then -n else n), after)
  else
    some (.float (Binary64.ofDecimal negative (Text.natOfDigits (whole ++ fraction))
      (exponent.getD 0 - fraction.length)), after)

/-- The words and what they stand for. -/
def wordValues : List (String × Value) :=
  [("null", .null), ("true", .bool true), ("false", .bool false), ("NaN", .float .nan),
    ("Infinity", .float (.infinite false)), ("-Infinity", .float (.infinite true))]

/-! ## Values -/

mutual

/-- A value of any kind. -/
def value : Nat → List Char → Result Value
  | 0, _ => none
  | fuel + 1, cs =>
    match cs with
    | '"' :: rest => (stringBody rest).map fun (text, after) => (.text (String.ofList text), after)
    | '[' :: rest =>
      match skipSpace rest with
      | ']' :: after => some (.list [], after)
      | rest => (items fuel rest).map fun (vs, after) => (.list vs, after)
    | '\x7b' :: rest =>
      match skipSpace rest with
      | '\x7d' :: after => some (.table [], after)
      | rest =>
        (entries fuel rest).map fun (es, after) => (.table (OrderedMap.ofList es).entries, after)
    | _ =>
      match wordValues.find? fun w => w.1.toList.isPrefixOf cs with
      | some w => some (w.2, cs.drop w.1.length)
      | none => number? cs

def items : Nat → List Char → Result (List Value)
  | 0, _ => none
  | fuel + 1, cs =>
    match value fuel cs with
    | none => none
    | some (v, rest) =>
      match skipSpace rest with
      | ']' :: after => some ([v], after)
      | ',' :: more => (items fuel (skipSpace more)).map fun (vs, after) => (v :: vs, after)
      | _ => none

def entries : Nat → List Char → Result (List (String × Value))
  | 0, _ => none
  | fuel + 1, cs =>
    match cs with
    | '"' :: rest =>
      match stringBody rest with
      | none => none
      | some (name, rest) =>
        match skipSpace rest with
        | ':' :: rest =>
          match value fuel (skipSpace rest) with
          | none => none
          | some (v, rest) =>
            match skipSpace rest with
            | '\x7d' :: after => some ([(String.ofList name, v)], after)
            | ',' :: more =>
              (entries fuel (skipSpace more)).map fun (es, after) =>
                ((String.ofList name, v) :: es, after)
            | _ => none
        | _ => none
    | _ => none

end

/-- The value that a text writes, with white space around it. -/
def parse? (cs : List Char) : Option Value :=
  match value (cs.length + 1) (skipSpace cs) with
  | some (v, rest) => if (skipSpace rest).isEmpty then some v else none
  | none => none

end NoteQuery.Json
