import NoteQuery.Binary64.Decimal

/-!
# Shortest decimals

The decimal that stands for a binary64 number in a text has the fewest digits that read back as the
same number, and of those with as few digits it is the nearest. The numbers that read back fill an
interval around the number. On the grid of the decimals with so many digits, if any point lies in
that interval then one of the number's two neighbours does, so only these two are tried.
-/

namespace NoteQuery.Binary64

/-- The decimal `digits * 10^exponent`. -/
structure Decimal where
  digits : Nat
  exponent : Int
  deriving DecidableEq, Repr

/-- The distance in units to the next larger number of the same binary length. -/
def gap (units : Nat) : Nat := Nat.pow 2 (bitLength units - 53)

/-- Whether `num / den` quarters of a unit round to `units`. The ends of the interval round to it if
its significand is even; below a power of two the numbers lie twice as close. -/
def roundsTo (units num den : Nat) : Bool :=
  let g := gap units
  let below := if units = Nat.pow 2 52 * g && 1 < g then g else 2 * g
  let low := (4 * units - below) * den
  let high := (4 * units + 2 * g) * den
  if units / g % 2 = 0 then low ≤ num && num ≤ high else low < num && num < high

/-- The place of the first decimal digit of `units`, which is not zero: `0` for the ones. -/
def leadingPlace (units : Nat) : Int :=
  (Nat.toDigits 10 (units * Nat.pow 10 400 / unitsPerOne)).length - 401

/-- The nearer neighbour of `units` on the grid of the multiples of `10^place`, if it or else the
other one rounds to `units`. -/
def onGrid? (units : Nat) (place : Int) : Option Decimal :=
  let up := Nat.pow 10 (-place).toNat
  let den := unitsPerOne * Nat.pow 10 place.toNat
  let num := units * up
  let floor := num / den
  let fits (d : Nat) : Bool := roundsTo units (4 * d * den) up
  let nearer := roundDiv num den
  let farther := if nearer = floor then floor + 1 else floor
  if fits nearer then some ⟨nearer, place⟩
  else if fits farther then some ⟨farther, place⟩
  else none

/-- The shortest decimal that rounds to `units`. -/
def shortest (units : Nat) : Decimal :=
  let first := leadingPlace units
  ((List.range 17).findSome? fun (n : Nat) => onGrid? units (first - n)).getD ⟨0, 0⟩

/-! ## Layouts -/

/-- How a format writes the digits: which places of the first digit it writes without an exponent,
and how many digits the exponent has at least. -/
structure Layout where
  least : Int
  limit : Int
  exponentDigits : Nat

def zeros (n : Nat) : List Char := List.replicate n '0'

/-- A whole number with at least `width` digits. -/
def padded (width n : Nat) : List Char :=
  let ds := Nat.toDigits 10 n
  zeros (width - ds.length) ++ ds

/-- Digits without an exponent; the first digit stands at `place`. -/
def positional (ds : List Char) (place : Int) : List Char :=
  if place < 0 then '0' :: '.' :: zeros (-place - 1).toNat ++ ds
  else
    let whole := place.toNat + 1
    let rest := ds.drop whole
    ds.take whole ++ zeros (whole - ds.length) ++ '.' :: (if rest.isEmpty then ['0'] else rest)

/-- Digits with an exponent. -/
def scientific (exponentDigits : Nat) (ds : List Char) (place : Int) : List Char :=
  let significand := match ds with
    | d :: e :: rest => d :: '.' :: e :: rest
    | one => one
  significand ++ 'e' :: (if place < 0 then '-' else '+') :: padded exponentDigits place.natAbs

/-- The text of a finite number. -/
def Layout.write (layout : Layout) (negative : Bool) (units : Nat) : List Char :=
  let sign := if negative then ['-'] else []
  if units = 0 then sign ++ ['0', '.', '0']
  else
    let decimal := shortest units
    let all := Nat.toDigits 10 decimal.digits
    let place : Int := all.length - 1 + decimal.exponent
    let ds := (all.reverse.dropWhile (· == '0')).reverse
    sign ++
      if layout.least ≤ place && place < layout.limit then positional ds place
      else scientific layout.exponentDigits ds place

end NoteQuery.Binary64
