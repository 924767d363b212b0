import ColumnMap.Decimal.Text

/-!
The double nearest to a decimal number. A number halfway between two doubles goes to the one with
the even mantissa, and one beyond all doubles becomes infinite.
-/

namespace ColumnMap.Decimal

/-- The nearest whole number; a half goes to the even neighbour. -/
def Ratio.rounded (a : Ratio) : Nat :=
  let n := a.num / a.den
  let twice := 2 * (a.num % a.den)
  if twice < a.den then n else if a.den < twice then n + 1 else n + n % 2

/-- The place of the leading binary digit of a positive number. -/
def Ratio.leadingBit (a : Ratio) : Int :=
  let l := (a.num.log2 : Int) - a.den.log2
  if (Ratio.binary 1 l).le a then l else l - 1

/-- `a / 2 ^ e` -/
def Ratio.shifted (a : Ratio) (e : Int) : Ratio :=
  if 0 ≤ e then ⟨a.num, a.den * Nat.pow 2 e.toNat⟩ else ⟨a.num * Nat.pow 2 (-e).toNat, a.den⟩

namespace Double

/-- The bits of the positive infinity. -/
def infinityBits : Nat := 2047 * Nat.pow 2 52

/-- The bits of the double nearest to a positive number. -/
def nearestBits (a : Ratio) : Nat :=
  let e := max (a.leadingBit - 52) (-1074)
  min infinityBits ((e + 1074).toNat * Nat.pow 2 52 + (a.shifted e).rounded)

/-- The double nearest to `digits * 10 ^ exponent`, with a sign. -/
def nearest (isNegative : Bool) (s : Scaled) : Double :=
  let places := (digitCount s.digits : Int) + s.exponent
  let magnitude :=
    if s.digits = 0 || places < -330 then 0
    else if 310 < places then infinityBits
    else nearestBits (.decimal s.digits s.exponent)
  ⟨UInt64.ofNat (magnitude + if isNegative then Nat.pow 2 63 else 0)⟩

def infinity (isNegative : Bool) : Double :=
  ⟨UInt64.ofNat (infinityBits + if isNegative then Nat.pow 2 63 else 0)⟩

def isNaN (d : Double) : Bool := d.exponentBits == 2047 && d.fractionBits != 0
def notANumber : Double := ⟨UInt64.ofNat (infinityBits + Nat.pow 2 51)⟩

/-- The text of any double. -/
def anyText (style : Style) (d : Double) : String :=
  if d.isFinite then d.text style
  else if d.isNaN then "NaN"
  else if d.isNegative then "-inf" else "inf"

end Double

end ColumnMap.Decimal
