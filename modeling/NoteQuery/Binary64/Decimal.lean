import NoteQuery.Binary64.Basic

/-!
# Rounding decimals to binary64

A decimal number `digits * 10^exponent` is rounded to the nearest binary64 number; of two that are
equally near, the one with an even significand is taken. All arithmetic is exact.
-/

namespace NoteQuery.Binary64

/-- The number of binary digits. -/
def bitLength (n : Nat) : Nat := if n = 0 then 0 else n.log2 + 1

/-- The whole number nearest to `num / den`, the even one of two. -/
def roundDiv (num den : Nat) : Nat :=
  let q := num / den
  let twice := 2 * (num % den)
  if twice < den then q
  else if den < twice then q + 1
  else q + q % 2

/-- The units of the binary64 number nearest to `num / den` units: at most 53 binary digits are
kept. -/
def roundUnits (num den : Nat) : Nat :=
  let dropped := bitLength (num / den) - 53
  roundDiv num (den * Nat.pow 2 dropped) * Nat.pow 2 dropped

/-- The number of units that is too large for a finite number. -/
def unitsLimit : Nat := Nat.pow 2 2098

/-- The finite number of that many units, or the infinity beyond the last one. -/
def ofUnits (negative : Bool) (units : Nat) : Binary64 :=
  if units < unitsLimit then finite negative units else infinite negative

/-- The number nearest to `digits * 10^exponent`. Exponents that settle the answer by their size
are not raised to. -/
def ofDecimal (negative : Bool) (digits : Nat) (exponent : Int) : Binary64 :=
  let length := (Nat.toDigits 10 digits).length
  if digits = 0 then finite negative 0
  else if 400 < length + exponent then infinite negative
  else if length + exponent < -400 then finite negative 0
  else if 0 ≤ exponent then
    ofUnits negative (roundUnits (digits * Nat.pow 10 exponent.toNat * unitsPerOne) 1)
  else ofUnits negative (roundUnits (digits * unitsPerOne) (Nat.pow 10 (-exponent).toNat))

end NoteQuery.Binary64
