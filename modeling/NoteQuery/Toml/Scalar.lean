import NoteQuery.Binary64.Decimal
import NoteQuery.Toml.Text
import NoteQuery.Value.Basic

/-!
# TOML numbers and dates

The values that are written without quotes or brackets. Each reader takes the longest text that has
its form; what cannot follow is for the caller to refuse.
-/

namespace NoteQuery.Toml

/-! ## Dates and times -/

/-- Exactly `width` digits that write a number from `low` to `high`. -/
def fixed? (width low high : Nat) (cs : List Char) : Option (Nat × List Char) :=
  let ds := cs.take width
  let n := Text.natOfDigits ds
  if ds.length = width && ds.all Char.isDigit && low ≤ n && n ≤ high then some (n, cs.drop width)
  else none

/-- The rest after a given character. -/
def after? (c : Char) : List Char → Option (List Char)
  | d :: cs => if d = c then some cs else none
  | [] => none

def day? (cs : List Char) : Option (Day × List Char) := do
  let (y, cs) ← fixed? 4 0 9999 cs
  let cs ← after? '-' cs
  let (m, cs) ← fixed? 2 1 12 cs
  let cs ← after? '-' cs
  let (d, cs) ← fixed? 2 1 31 cs
  return (⟨y, m, d⟩, cs)

/-- A fraction of a second, of which six digits count. -/
def microseconds (cs : List Char) : Nat × List Char :=
  match cs with
  | '.' :: rest =>
    let ds := rest.takeWhile Char.isDigit
    if ds.isEmpty then (0, cs)
    else (Text.natOfDigits ((ds ++ List.replicate 6 '0').take 6), rest.drop ds.length)
  | _ => (0, cs)

def clock? (cs : List Char) : Option (Clock × List Char) := do
  let (h, cs) ← fixed? 2 0 23 cs
  let cs ← after? ':' cs
  let (m, cs) ← fixed? 2 0 59 cs
  let cs ← after? ':' cs
  let (s, cs) ← fixed? 2 0 59 cs
  let (micro, cs) := microseconds cs
  return (⟨h, m, s, micro⟩, cs)

/-- A signed offset in hours and minutes. -/
def offset? (cs : List Char) : Option (Int × List Char) := do
  let (h, cs) ← fixed? 2 0 23 cs
  let cs ← after? ':' cs
  let (m, cs) ← fixed? 2 0 59 cs
  return ((60 * h + m : Nat), cs)

/-- The offset after a time, if there is one. -/
def zone (cs : List Char) : Option Int × List Char :=
  match cs with
  | c :: rest =>
    if c = 'Z' || c = 'z' then (some 0, rest)
    else if c = '+' || c = '-' then
      match offset? rest with
      | some (minutes, rest) => (some (if c = '-' then -minutes else minutes), rest)
      | none => (none, cs)
    else (none, cs)
  | [] => (none, [])

/-- A day, or a moment if a time follows the day. -/
def stamp? (cs : List Char) : Option (Stamp × List Char) :=
  match day? cs with
  | none => none
  | some (d, rest) =>
    match rest with
    | c :: more =>
      if c = 'T' || c = 't' || c = ' ' then
        match clock? more with
        | some (t, more) => some (.moment d t (zone more).1, (zone more).2)
        | none => some (.day d, rest)
      else some (.day d, rest)
    | [] => some (.day d, [])

/-- Whether the day of a stamp is in the calendar. -/
def hasDay : Stamp → Bool
  | .day d => d.isValid
  | .moment d _ _ => d.isValid
  | .clock _ => true

/-! ## Numbers -/

/-- Digits with single underscores between them, and the rest. -/
def digitRun (isDigit : Char → Bool) : List Char → List Char × List Char
  | [] => ([], [])
  | c :: cs =>
    if isDigit c then (c :: (digitRun isDigit cs).1, (digitRun isDigit cs).2)
    else if c = '_' && (cs.head?.any isDigit) then digitRun isDigit cs
    else ([], c :: cs)

/-- Digits that start with a digit. -/
def run? (isDigit : Char → Bool) (cs : List Char) : Option (List Char × List Char) :=
  if cs.head?.any isDigit then some (digitRun isDigit cs) else none

/-- The bases other than ten, with their marks after a zero. -/
def bases : List (Char × Nat) := [('x', 16), ('b', 2), ('o', 8)]

def isDigitOf (base : Nat) (c : Char) : Bool := (Text.hexValue? c).any (· < base)

/-- A whole number in another base. -/
def basedNumber? (cs : List Char) : Option (Value × List Char) :=
  match cs with
  | '0' :: mark :: rest =>
    match bases.lookup mark with
    | none => none
    | some base =>
      (run? (isDigitOf base) rest).map fun (ds, rest) =>
        (.int ((ds.filterMap Text.hexValue?).foldl (fun n d => base * n + d) 0 : Nat), rest)
  | _ => none

/-- The whole part of a decimal number: a zero, or digits that do not start with one. -/
def wholePart? (cs : List Char) : Option (List Char × List Char) :=
  match cs with
  | '0' :: rest => some (['0'], rest)
  | _ => run? Char.isDigit cs

/-- The digits after a point, if there are any. -/
def fractionPart (cs : List Char) : Option (List Char) × List Char :=
  match cs with
  | '.' :: rest =>
    match run? Char.isDigit rest with
    | some (ds, rest) => (some ds, rest)
    | none => (none, cs)
  | _ => (none, cs)

/-- The power of ten, if there is one. -/
def exponentPart (cs : List Char) : Option Int × List Char :=
  match cs with
  | c :: rest =>
    if c = 'e' || c = 'E' then
      match run? Char.isDigit (Text.takeSign rest).2 with
      | some (ds, more) =>
        let n : Int := Text.natOfDigits ds
        (some (if (Text.takeSign rest).1 then -n else n), more)
      | none => (none, cs)
    else (none, cs)
  | [] => (none, [])

/-- A decimal number: an integer, or a float if it has a fraction or a power of ten. -/
def decimalNumber? (cs : List Char) : Option (Except Error Value × List Char) :=
  let (negative, body) := Text.takeSign cs
  match wholePart? body with
  | none => none
  | some (whole, rest) =>
    let (fraction, rest) := fractionPart rest
    let (exponent, rest) := exponentPart rest
    if fraction.isNone && exponent.isNone then
      let n : Int := Text.natOfDigits whole
      if Text.digitLimit < whole.length then some (.error (.hugeInteger whole.length), rest)
      else some (.ok (.int (if negative then -n else n)), rest)
    else
      let places := fraction.getD []
      some (.ok (.float (Binary64.ofDecimal negative (Text.natOfDigits (whole ++ places))
        (exponent.getD 0 - places.length))), rest)

/-- Infinity and the number that is none, with a sign or without. -/
def specialFloat? (cs : List Char) : Option (Value × List Char) :=
  let (negative, body) := Text.takeSign cs
  if ['i', 'n', 'f'].isPrefixOf body then some (.float (.infinite negative), body.drop 3)
  else if ['n', 'a', 'n'].isPrefixOf body then some (.float .nan, body.drop 3)
  else none

/-- A value without quotes or brackets. -/
def bareValue (cs : List Char) : Result Value :=
  if "true".toList.isPrefixOf cs then .ok (.bool true, cs.drop 4)
  else if "false".toList.isPrefixOf cs then .ok (.bool false, cs.drop 5)
  else match stamp? cs with
    | some (s, rest) => if hasDay s then .ok (.stamp s, rest) else malformed
    | none =>
      match clock? cs with
      | some (t, rest) => .ok (.stamp (.clock t), rest)
      | none =>
        match basedNumber? cs with
        | some result => .ok result
        | none =>
          match decimalNumber? cs with
          | some (.ok v, rest) => .ok (v, rest)
          | some (.error e, _) => .error e
          | none =>
            match specialFloat? cs with
            | some result => .ok result
            | none => malformed

end NoteQuery.Toml
