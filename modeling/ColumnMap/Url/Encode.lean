/-!
Percent-encoding. Every part of an address has a set of characters that it writes as the bytes of
their UTF-8 form; characters outside ASCII are always written so.
-/

namespace ColumnMap.Url

def hexDigitUpper (n : Nat) : Char :=
  if n < 10 then Char.ofNat (48 + n) else Char.ofNat (55 + n)

def hexValue? (c : Char) : Option Nat :=
  if '0' ≤ c ∧ c ≤ '9' then some (c.toNat - 48)
  else if 'a' ≤ c ∧ c ≤ 'f' then some (c.toNat - 87)
  else if 'A' ≤ c ∧ c ≤ 'F' then some (c.toNat - 55)
  else none

/-- The three characters for a byte. -/
def percentByte (b : UInt8) : List Char :=
  ['%', hexDigitUpper (b.toNat / 16), hexDigitUpper (b.toNat % 16)]

def percentChar (c : Char) : List Char := (String.utf8EncodeChar c).flatMap percentByte

/-- Writes the characters of `escaped`, and all that are not ASCII, as their bytes. -/
def encode (escaped : Char → Bool) (s : List Char) : List Char :=
  s.flatMap fun c => if c.toNat < 0x80 && !escaped c then [c] else percentChar c

@[simp] theorem encode_nil (escaped : Char → Bool) : encode escaped [] = [] := rfl

theorem encode_append (escaped : Char → Bool) (s t : List Char) :
    encode escaped (s ++ t) = encode escaped s ++ encode escaped t := by
  simp [encode]

/-- Takes the bytes that percent signs stand for; a sign without two digits stands for itself. -/
def decode : List Char → List UInt8
  | [] => []
  | '%' :: a :: b :: r =>
    match hexValue? a, hexValue? b with
    | some m, some n => UInt8.ofNat (16 * m + n) :: decode r
    | _, _ => 37 :: decode (a :: b :: r)
  | c :: r => String.utf8EncodeChar c ++ decode r

/-! ### What each part of an address escapes -/

def inControls (c : Char) : Bool := c.toNat < 0x20 || c.toNat == 0x7f

def inFragment (c : Char) : Bool :=
  inControls c || c == ' ' || c == '"' || c == '<' || c == '>' || c == '\x60'

def inQuery (special : Bool) (c : Char) : Bool :=
  inControls c || c == ' ' || c == '"' || c == '#' || c == '<' || c == '>' || (special && c == '\'')

def inPath (c : Char) : Bool := inFragment c || c == '#' || c == '?' || c == '\x7b' || c == '\x7d'

def inUserInfo (c : Char) : Bool :=
  inPath c || c == '/' || c == ':' || c == ';' || c == '=' || c == '@' || c == '[' || c == '\\'
    || c == ']' || c == '^' || c == '|'

/-- In a segment on its own, what would separate segments or start an escape is no exception. -/
def inSegment (special : Bool) (c : Char) : Bool :=
  inPath c || c == '/' || c == '%' || (special && c == '\\')

/-- Tabs and line ends count for nothing, wherever they stand. -/
def isIgnored (c : Char) : Bool := c == '\t' || c == '\n' || c == '\r'

end ColumnMap.Url
