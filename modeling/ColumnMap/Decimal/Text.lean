import ColumnMap.Decimal.Shortest

/-!
Decimal text of a double: its shortest digits, set out in positional or in exponent notation.
-/

namespace ColumnMap.Decimal

/-- How the digits of a number are set out: from which place of the leading digit to which the
notation is positional. -/
structure Style where
  positional : Int → Bool

/-- The digits of a number, with as many zeros after them as `zeros` says. -/
def padded (digits : List Char) (zeros : Nat) : List Char := digits ++ List.replicate zeros '0'

/-- Positional notation of `0.d₁d₂… * 10 ^ point`; a whole number ends in `.0`. -/
def positional (digits : List Char) (point : Int) : List Char :=
  if point ≤ 0 then '0' :: '.' :: padded [] (-point).toNat ++ digits
  else if digits.length ≤ point.toNat then
    padded digits (point.toNat - digits.length) ++ ['.', '0']
  else digits.take point.toNat ++ '.' :: digits.drop point.toNat

/-- Exponent notation, the sign of the exponent always written. -/
def scientific (digits : List Char) (place : Int) : List Char :=
  let head := digits.take 1 ++ (if digits.length ≤ 1 then [] else '.' :: digits.drop 1)
  head ++ 'e' :: (if place < 0 then '-' else '+') :: Nat.toDigits 10 place.natAbs

/-- The text of a finite double. -/
def Double.text (style : Style) (d : Double) : String :=
  let s := d.shortest
  let digits := Nat.toDigits 10 s.digits
  let place := s.exponent + (digits.length : Int) - 1
  let body := if d.isZero then ['0', '.', '0']
    else if style.positional place then positional digits (place + 1)
    else scientific digits place
  String.ofList (if d.isNegative then '-' :: body else body)

end ColumnMap.Decimal
