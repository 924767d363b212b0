import ColumnMap.Url.Basic
import ColumnMap.Url.Label

/-!
Hosts. A special scheme reads a number, or up to four of them, as an address of 32 bits, and a name
in lower case; other schemes keep what is written. Brackets hold an address of 128 bits.
-/

namespace ColumnMap.Url

/-! ### Addresses of 32 bits -/

def digitsIn (base : Nat) (s : List Char) : Option Nat :=
  s.foldlM (fun n c => (hexValue? c).bind fun d => if d < base then some (base * n + d) else none) 0

/-- A number in base sixteen, eight or ten, by how it starts. -/
def ipv4Number? : List Char → Option Nat
  | [] => none
  | '0' :: x :: r => if x == 'x' || x == 'X' then digitsIn 16 r else digitsIn 8 (x :: r)
  | s => digitsIn 10 s

/-- The parts between the points, without an empty one after the last. -/
def pointParts (s : List Char) : List (List Char) :=
  let parts := split (· == '.') s
  if parts.getLast? == some [] then parts.dropLast else parts

/-- Such a name is an address or nothing. -/
def endsInNumber (s : List Char) : Bool :=
  match (pointParts s).getLast? with
  | none => false
  | some last => (!last.isEmpty && last.all Char.isDigit) || (ipv4Number? last).isSome

/-- Every number but the last is a byte; the last fills the bytes that are left. -/
def ipv4? (s : List Char) : Option Nat := do
  let parts := pointParts s
  if 4 < parts.length then none
  let numbers ← parts.mapM ipv4Number?
  let last ← numbers.getLast?
  let bytes := numbers.dropLast
  if Nat.pow 256 (4 - bytes.length) ≤ last || bytes.any (255 < ·) then none
  some (bytes.foldl (256 * · + ·) 0 * Nat.pow 256 (4 - bytes.length) + last)

/-! ### Addresses of 128 bits -/

/-- A byte in base ten without leading zeros. -/
def byte? (s : List Char) : Option Nat :=
  if s.isEmpty || !s.all Char.isDigit || (1 < s.length && s.head? == some '0') then none
  else (digitsIn 10 s).filter (· ≤ 255)

/-- The two pieces that four bytes with points between them give. -/
def pointed? (s : List Char) : Option (List Nat) :=
  match (split (· == '.') s).mapM byte? with
  | some [a, b, c, d] => some [256 * a + b, 256 * c + d]
  | _ => none

def hexPiece (s : List Char) : List Char := (s.take 4).takeWhile fun c => (hexValue? c).isSome

/-- Reads the pieces that follow `pieces`, in front of one of which, if `gap` is its place, zeros
are left out. The gap stands for one zero at least. -/
def ipv6Pieces (pieces : List Nat) (gap : Option Nat) (s : List Char) :
    Option (List Nat × Option Nat) :=
  match hs : s with
  | [] => some (pieces, gap)
  | ':' :: r =>
    if pieces.length = 8 ∨ gap.isSome then none
    else ipv6Pieces (pieces ++ [0]) (some (pieces.length + 1)) r
  | c :: t =>
    if pieces.length = 8 then none
    else
      let digits := hexPiece (c :: t)
      let grown := pieces ++ [(digitsIn 16 digits).getD 0]
      match _hr : (c :: t).drop digits.length with
      | [] => some (grown, gap)
      | '.' :: _ =>
        if digits.isEmpty || 6 < pieces.length then none
        else (pointed? (c :: t)).map fun two => (pieces ++ two, gap)
      | ':' :: r => if r.isEmpty then none else ipv6Pieces grown gap r
      | _ => none
termination_by s.length
decreasing_by
  · simp
  · have h := congrArg List.length _hr
    simp only [List.length_drop, List.length_cons] at h ⊢
    omega

def ipv6? (s : List Char) : Option (List Nat) := do
  let s ← match s with
    | ':' :: r => if r.head? == some ':' then some r else none
    | _ => some s
  match ← ipv6Pieces [] none s with
  | (pieces, none) => if pieces.length = 8 then some pieces else none
  | (pieces, some gap) =>
    some (pieces.take gap ++ List.replicate (8 - pieces.length) 0 ++ pieces.drop gap)

/-- What stands between brackets. -/
def bracketed (s : List Char) : Except Fault Host :=
  if s.getLast? == some ']' then
    match ipv6? (s.drop 1).dropLast with
    | some pieces => .ok (.ipv6 pieces)
    | none => .error .badIpv6
  else .error .badIpv6

/-! ### Names -/

/-- The characters that no name of a special scheme has. -/
def isDenied (c : Char) : Bool := c ≤ ' ' || c == '\x7f' || "%#/:<>?@[\\]^|".toList.contains c

/-- The name that `s` stands for, in small letters and in ASCII. -/
def domain? (s : List Char) : Option (List Char) := do
  let text ← String.fromUTF8? ⟨(decode s).toArray⟩
  let name := (text.toList.filter (!isUnnamed ·)).map nameChar
  if name.any isDenied then none
  let labels ← (split (· == '.') name).mapM label?
  some (['.'].intercalate labels)

/-- A host of a special scheme. -/
def specialHost (s : List Char) : Except Fault Host :=
  if s.head? == some '[' then bracketed s
  else
    match domain? s with
    | none => .error .badDomain
    | some name =>
      if name.isEmpty then .error .emptyHost
      else if endsInNumber name then
        match ipv4? name with
        | some address => .ok (.ipv4 address)
        | none => .error .badIpv4
      else .ok (.domain (String.ofList name))

def isForbidden (c : Char) : Bool := "\x00\t\n\r #/:<>?@[\\]^|".toList.contains c

/-- A host of another scheme. -/
def otherHost (s : List Char) : Except Fault Host :=
  if s.head? == some '[' then bracketed s
  else if s.any isForbidden then .error .badHostCharacter
  else .ok (.domain (String.ofList (encode inControls s)))

end ColumnMap.Url
