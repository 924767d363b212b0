import ColumnMap.Decimal.Text

/-!
JSON values. A number is an exact integer of 64 bits, signed or unsigned, or a double.
-/

namespace ColumnMap

inductive Number where
  | int (n : Int)
  | double (d : Decimal.Double)
  deriving DecidableEq, Repr

namespace Number

/-- The integers that a number token can hold exactly. -/
def InRange (n : Int) : Prop := -(Nat.pow 2 63 : Int) ≤ n ∧ n < UInt64.size

/-- Doubles stand in positional notation from 0.00001 on and below 10^16. -/
def style : Decimal.Style := ⟨fun place => -5 ≤ place && place < 16⟩

/-- Decimal digits of an integer, with a sign in front of a negative one. -/
def intText (n : Int) : List Char :=
  if n < 0 then '-' :: Nat.toDigits 10 n.natAbs else Nat.toDigits 10 n.natAbs

def text : Number → String
  | .int n => String.ofList (intText n)
  | .double d => d.text style

/-- Equal as numbers of one kind: no integer equals a double, and the two zeros are equal. -/
def same : Number → Number → Bool
  | .int a, .int b => a == b
  | .double a, .double b => a.same b
  | _, _ => false

end Number

inductive Json where
  | null
  | bool (b : Bool)
  | number (n : Number)
  | string (s : String)
  | array (items : List Json)
  | object (fields : List (String × Json))
  deriving Repr

namespace Json

def ofNat (n : Nat) : Json := .number (.int n)
def ofInt (n : Int) : Json := .number (.int n)
def strings (l : List String) : Json := .array (l.map .string)

/-- The last field of that name, as a reader of the whole object sees it. -/
def field? (key : String) : Json → Option Json
  | .object fields => (fields.reverse.find? (·.1 == key)).map (·.2)
  | _ => none

end Json

end ColumnMap
