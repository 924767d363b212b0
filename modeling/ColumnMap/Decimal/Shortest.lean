import ColumnMap.Decimal.Double

/-!
The fewest decimal digits that read back as a given double. The reals that round to a double form
an interval; on the coarsest decimal grid with a point in that interval, the point next to the
double is taken. All comparisons are between natural numbers.
-/

namespace ColumnMap.Decimal

/-- The number `digits * 10 ^ exponent`. -/
structure Scaled where
  digits : Nat
  exponent : Int
  deriving DecidableEq, Repr

/-- A positive rational number as numerator and denominator. -/
structure Ratio where
  num : Nat
  den : Nat

namespace Ratio

/-- `n * 2 ^ e` -/
def binary (n : Nat) (e : Int) : Ratio :=
  if 0 ≤ e then ⟨n * Nat.pow 2 e.toNat, 1⟩ else ⟨n, Nat.pow 2 (-e).toNat⟩

/-- `n * 10 ^ e` -/
def decimal (n : Nat) (e : Int) : Ratio :=
  if 0 ≤ e then ⟨n * Nat.pow 10 e.toNat, 1⟩ else ⟨n, Nat.pow 10 (-e).toNat⟩

def lt (a b : Ratio) : Bool := a.num * b.den < b.num * a.den
def le (a b : Ratio) : Bool := a.num * b.den ≤ b.num * a.den

/-- The distance between two numbers. -/
def gap (a b : Ratio) : Ratio :=
  ⟨(a.num * b.den - b.num * a.den) + (b.num * a.den - a.num * b.den), a.den * b.den⟩

/-- The whole number of times that `10 ^ e` goes into `a`. -/
def quotient (a : Ratio) (e : Int) : Nat :=
  if 0 ≤ e then a.num / (a.den * Nat.pow 10 e.toNat) else a.num * Nat.pow 10 (-e).toNat / a.den

end Ratio

/-- Count of decimal digits; 0 has none. -/
def digitCount (n : Nat) : Nat :=
  if n = 0 then 0 else digitCount (n / 10) + 1

namespace Double

def value (d : Double) : Ratio := .binary d.mantissa d.exponent

/-- Whether a number rounds to the double `d`. The lower half of the interval is shorter where the
doubles below `d` lie closer together, and the ends belong to it if the mantissa is even. -/
def isRoundedFrom (d : Double) (a : Ratio) : Bool :=
  let lower := if d.fractionBits = 0 ∧ 1 < d.exponentBits then 4 * d.mantissa - 1
    else 4 * d.mantissa - 2
  let low := Ratio.binary lower (d.exponent - 2)
  let high := Ratio.binary (4 * d.mantissa + 2) (d.exponent - 2)
  if d.mantissa % 2 = 0 then low.le a && a.le high else low.lt a && a.lt high

/-- The place of the leading digit: `10 ^ leading ≤ value < 10 ^ (leading + 1)`. -/
def leading (d : Double) : Int := (digitCount (d.value.quotient (-400)) : Int) - 401

/-- The point of the grid of multiples of `10 ^ e` that rounds to `d` and is nearest to it. -/
def onGrid? (d : Double) (e : Int) : Option Scaled :=
  let below := d.value.quotient e
  let hit (n : Nat) : Bool := d.isRoundedFrom (.decimal n e)
  let far (n : Nat) : Ratio := d.value.gap (.decimal n e)
  match hit below, hit (below + 1) with
  | true, true =>
    if (far below).lt (far (below + 1)) then some ⟨below, e⟩
    else if (far (below + 1)).lt (far below) then some ⟨below + 1, e⟩
    else if below % 2 = 0 then some ⟨below, e⟩ else some ⟨below + 1, e⟩
  | true, false => some ⟨below, e⟩
  | false, true => some ⟨below + 1, e⟩
  | false, false => none

/-- Tries grids from `e` on downwards, each ten times finer than the one before. -/
def shortestFrom (d : Double) (e : Int) : Nat → Scaled
  | 0 => ⟨d.value.quotient e, e⟩
  | n + 1 => (d.onGrid? e).getD (shortestFrom d (e - 1) n)

/-- The fewest digits that read back as the magnitude of `d`; seventeen always suffice. The first grid
is the one on which only a power of ten above `d` can be found. -/
def shortest (d : Double) : Scaled :=
  if d.isZero then ⟨0, 0⟩ else shortestFrom d (d.leading + 1) 18

end Double

end ColumnMap.Decimal
