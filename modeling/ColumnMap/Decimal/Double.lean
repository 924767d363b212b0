/-!
The bits of an IEEE 754 double taken apart: sign, and the finite value as a natural number times a
power of two.
-/

namespace ColumnMap.Decimal

structure Double where
  bits : UInt64
  deriving DecidableEq, Repr

namespace Double

def ofFloat (x : Float) : Double := ⟨x.toBits⟩
def toFloat (d : Double) : Float := Float.ofBits d.bits

def isNegative (d : Double) : Bool := Nat.pow 2 63 ≤ d.bits.toNat

/-- The eleven bits of the exponent. -/
def exponentBits (d : Double) : Nat := d.bits.toNat / Nat.pow 2 52 % Nat.pow 2 11

/-- The fifty-two bits after the binary point. -/
def fractionBits (d : Double) : Nat := d.bits.toNat % Nat.pow 2 52

def isFinite (d : Double) : Bool := d.exponentBits != 2047
def isZero (d : Double) : Bool := d.bits.toNat % Nat.pow 2 63 == 0

/-- The magnitude of a finite double is `mantissa * 2 ^ exponent`. -/
def mantissa (d : Double) : Nat :=
  if d.exponentBits = 0 then d.fractionBits else d.fractionBits + Nat.pow 2 52

def exponent (d : Double) : Int :=
  (if d.exponentBits = 0 then 1 else (d.exponentBits : Int)) - 1075

/-- Equal as numbers: the two zeros are one number. -/
def same (a b : Double) : Bool := a == b || (a.isZero && b.isZero)

end Double

end ColumnMap.Decimal
