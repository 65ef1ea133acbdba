import NoteQuery.Binary64.Decimal
import NoteQuery.Text.Digits

/-!
# Reading decimals

A decimal has an optional sign, digits with at most one point among or around them, and an optional
power of ten after `e` or `E`.
-/

namespace NoteQuery.Binary64

/-- The signed exponent after its mark. -/
def readExponent? : List Char → Option Int
  | [] => some 0
  | c :: cs =>
    if c = 'e' || c = 'E' then
      let (negative, ds) := Text.takeSign cs
      if ds.isEmpty || !ds.all Char.isDigit then none
      else
        let n : Int := Text.natOfDigits ds
        some (if negative then -n else n)
    else none

/-- The number nearest to the decimal that the text writes. -/
def read? (cs : List Char) : Option Binary64 :=
  let (negative, cs) := Text.takeSign cs
  let whole := cs.takeWhile Char.isDigit
  let rest := cs.dropWhile Char.isDigit
  let (fraction, rest) := match rest with
    | '.' :: rest => (rest.takeWhile Char.isDigit, rest.dropWhile Char.isDigit)
    | rest => ([], rest)
  if whole.isEmpty && fraction.isEmpty then none
  else (readExponent? rest).map fun exponent =>
    ofDecimal negative (Text.natOfDigits (whole ++ fraction)) (exponent - fraction.length)

end NoteQuery.Binary64
