import ColumnMap.Text.Property.Printing

/-!
Text between double quotes. Quotes, backslashes, the common controls and every character that a
reader could not see are written as escapes; the rest stands for itself.
-/

namespace ColumnMap.Text.Quoted

def hexDigit (n : Nat) : Char :=
  if n < 10 then Char.ofNat (48 + n) else Char.ofNat (87 + n)

/-- Hexadecimal digits of `n`, in lower case and without leading zeros. -/
def hexDigits (n : Nat) : List Char :=
  if n < 16 then [hexDigit n] else hexDigits (n / 16) ++ [hexDigit (n % 16)]

/-- A character by its number. -/
def byNumber (c : Char) : List Char :=
  ['\\', 'u', '\x7b'] ++ hexDigits c.toNat ++ ['\x7d']

/-- A character as it stands between the quotes. -/
def encodeChar (c : Char) : List Char :=
  if c = '\x00' then ['\\', '0']
  else if c = '\t' then ['\\', 't']
  else if c = '\r' then ['\\', 'r']
  else if c = '\n' then ['\\', 'n']
  else if c = '\\' then ['\\', '\\']
  else if c = '"' then ['\\', '"']
  else if ' ' ≤ c && c ≤ '~' then [c]
  else if extending.contains c || hidden.contains c then byNumber c
  else [c]

def encode (s : List Char) : List Char := '"' :: s.flatMap encodeChar ++ ['"']

end ColumnMap.Text.Quoted

namespace ColumnMap.Text

/-- The text between quotes, with escapes. -/
def quote (s : String) : String := String.ofList (Quoted.encode s.toList)

end ColumnMap.Text
