/-!
# Binary64 numbers

A floating-point number of 64 bits is one of the two infinities, the value that is not a number,
or a whole number of the smallest positive one, which is 2^-1074. Stated so, the order of two
numbers is the order of two integers, and an integer `i` is `i * 2^1074` of these units, whatever its
size.
-/

namespace NoteQuery

/-- A binary64 number; the finite ones are `units * 2^-1074`, with a sign that zero has too. -/
inductive Binary64 where
  | nan
  | infinite (negative : Bool)
  | finite (negative : Bool) (units : Nat)
  deriving DecidableEq, Repr, Inhabited

namespace Binary64

/-- The number of units in one. -/
def unitsPerOne : Nat := Nat.pow 2 1074

/-- The signed number of units of a finite number. -/
def signed (negative : Bool) (units : Nat) : Int :=
  if negative then -(units : Int) else units

def isZero : Binary64 → Bool
  | finite _ units => units == 0
  | _ => false

/-- The integer that the number is, if it is one. -/
def toInt? : Binary64 → Option Int
  | finite negative units =>
    if units % unitsPerOne = 0 then some (signed negative (units / unitsPerOne)) else none
  | _ => none

/-! ## Order -/

/-- A point of the line of numbers with both ends: what a number other than `nan` stands for. -/
inductive Point where
  | least
  | units (n : Int)
  | greatest
  deriving DecidableEq, Repr

namespace Point

def compare : Point → Point → Ordering
  | least, least => .eq
  | least, _ => .lt
  | units _, least => .gt
  | units a, units b => Ord.compare a b
  | units _, greatest => .lt
  | greatest, greatest => .eq
  | greatest, _ => .gt

end Point

/-- Where the number stands; `nan` stands nowhere. -/
def point? : Binary64 → Option Point
  | nan => none
  | infinite true => some .least
  | infinite false => some .greatest
  | finite negative units => some (.units (signed negative units))

end Binary64

end NoteQuery
