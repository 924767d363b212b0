import ColumnMap.Toml.Token

/-!
Numbers, dates and times in a TOML text.
-/

namespace ColumnMap.Toml

def isDigit (c : Char) : Bool := '0' ≤ c && c ≤ '9'

/-! ### Dates and times -/

/-- Reads a number of exactly `count` decimal digits. -/
def fixedDigits? (count : Nat) (s : Input) : Option (Nat × Input) :=
  let digits := s.take count
  if digits.length = count && digits.all isDigit then
    some (digits.foldl (fun n c => 10 * n + (c.toNat - 48)) 0, s.drop count)
  else none

/-- Reads a number of two digits between `low` and `high`. -/
def twoDigits? (low high : Nat) (s : Input) : Option (Nat × Input) :=
  match fixedDigits? 2 s with
  | some (n, r) => if low ≤ n && n ≤ high then some (n, r) else none
  | none => none

def daysInMonth (year month : Nat) : Nat :=
  if month = 2 then
    if year % 4 = 0 && (year % 100 ≠ 0 || year % 400 = 0) then 29 else 28
  else if month = 4 || month = 6 || month = 9 || month = 11 then 30 else 31

/-- Reads a date if its year and first hyphen are there; from then on it has to be one. -/
def date? (s : Input) : Except Fault (Option Input) :=
  match fixedDigits? 4 s with
  | some (year, '-' :: r) =>
    match twoDigits? 1 12 r with
    | some (month, '-' :: t) =>
      match twoDigits? 1 31 t with
      | some (day, u) =>
        if day ≤ daysInMonth year month then .ok (some u)
        else refuse t (some "date-time") "value is out of range"
      | none => .error { label := some "date-time", span := .at t }
    | some (_, t) => .error { label := some "date-time", expected := ["`-`"], span := .at t }
    | none => .error { label := some "date-time", span := .at r }
  | _ => .ok none

/-- Skips a fraction of a second. -/
def skipFraction : Input → Input
  | '.' :: c :: r => if isDigit c then r.dropWhile isDigit else '.' :: c :: r
  | s => s

/-- Reads a time of day if its hour and first colon are there; from then on it has to be one. -/
def time? (s : Input) : Except Fault (Option Input) :=
  match twoDigits? 0 23 s with
  | some (_, ':' :: r) =>
    match twoDigits? 0 59 r with
    | some (_, ':' :: t) =>
      match twoDigits? 0 60 t with
      | some (_, u) => .ok (some (skipFraction u))
      | none => .error { label := some "date-time", span := .at t }
    | some (_, t) => .error { label := some "date-time", span := .at t }
    | none => .error { label := some "date-time", span := .at r }
  | _ => .ok none

/-- Reads the distance to universal time, if there is one. -/
def skipOffset (s : Input) : Except Fault Input :=
  match s with
  | 'Z' :: r | 'z' :: r => .ok r
  | '+' :: r | '-' :: r =>
    match twoDigits? 0 23 r with
    | some (_, ':' :: t) =>
      match twoDigits? 0 59 t with
      | some (_, u) => .ok u
      | none => .error { label := some "time offset", span := .at t }
    | some (_, t) => .error { label := some "time offset", span := .at t }
    | none => .error { label := some "time offset", span := .at r }
  | _ => .ok s

/-- Reads what follows a date: a time of day and an offset, if they are there. -/
def afterDate (s : Input) : Except Fault Input :=
  match s with
  | c :: r =>
    if c = 'T' || c = 't' || c = ' ' then
      match time? r with
      | .error e => .error e
      | .ok none => .ok s
      | .ok (some t) => skipOffset t
    else .ok s
  | [] => .ok []

/-- Reads a date, a time or both, if there is one. -/
def dateTime? (s : Input) : Except Fault (Option Input) :=
  match date? s with
  | .error e => .error e
  | .ok (some r) => (afterDate r).map some
  | .ok none => time? s

/-! ### Numbers -/

/-- Splits off digits, which may have single underscores between them. An underscore has to be
followed by a digit. -/
def digitRun (isDigit : Char → Bool) : Input → Scan (List Char)
  | [] => .ok ([], [])
  | '_' :: c :: r =>
    if isDigit c then
      match digitRun isDigit r with
      | .error e => .error e
      | .ok (digits, t) => .ok (c :: digits, t)
    else fail (c :: r) none ["digit"]
  | c :: r =>
    if isDigit c then
      match digitRun isDigit r with
      | .error e => .error e
      | .ok (digits, t) => .ok (c :: digits, t)
    else if c = '_' then fail r none ["digit"]
    else .ok ([], c :: r)

/-- Splits off a sign. -/
def sign : Input → Bool × Input
  | '-' :: r => (true, r)
  | '+' :: r => (false, r)
  | s => (false, s)

/-- Splits off the digits of a whole number without leading zeros. -/
def wholeDigits (s : Input) : Scan (List Char) :=
  match s with
  | '0' :: r => .ok (['0'], r)
  | c :: _ => if isDigit c then digitRun isDigit s else fail s none
  | [] => fail s none

/-- Splits off digits that may begin with zeros. -/
def anyDigits (s : Input) : Scan (List Char) :=
  match s with
  | c :: _ => if isDigit c then digitRun isDigit s else fail s none ["digit"]
  | [] => fail s none ["digit"]

def natOf (base : Nat) (digits : List Char) : Nat :=
  digits.foldl (fun n c => base * n + (hexValue? c).getD 0) 0

/-- Reads an exponent, if there is one. -/
def exponent? (s : Input) : Except Fault (Option Int × Input) :=
  match s with
  | c :: r =>
    if c = 'e' || c = 'E' then
      match anyDigits (sign r).2 with
      | .error e => .error e
      | .ok (digits, t) =>
        .ok (some (if (sign r).1 then -(natOf 10 digits : Int) else natOf 10 digits), t)
    else .ok (none, s)
  | [] => .ok (none, [])

/-- The float that digits before and after the point and an exponent write. Positive numbers must
not become infinite. -/
def makeFloat (start : Input) (isNegative : Bool) (whole fraction : List Char) (exponent : Int)
    (rest : Input) : Scan Scalar :=
  let d := Decimal.Double.nearest isNegative
    ⟨natOf 10 (whole ++ fraction), exponent - fraction.length⟩
  if d == Decimal.Double.infinity false then fail start (some "floating-point number")
  else .ok (.float d, rest)

/-- Integers that can be held. -/
def fits (n : Int) : Bool := -(Nat.pow 2 63 : Int) ≤ n && n < Nat.pow 2 63

def makeInteger (start : Input) (n : Int) (rest : Input) : Scan Scalar :=
  if fits n then .ok (.integer n, rest)
  else refuse start (some "integer") "number too large to fit in target type"

/-- Reads a decimal number. -/
def decimal (s : Input) : Scan Scalar :=
  let (isNegative, r) := sign s
  match wholeDigits r with
  | .error e => .error { e with label := some "integer" }
  | .ok (whole, '.' :: t) =>
    match anyDigits t with
    | .error e => .error { e with label := some "floating-point number" }
    | .ok (fraction, u) =>
      match exponent? u with
      | .error e => .error { e with label := some "floating-point number" }
      | .ok (exponent, v) => makeFloat s isNegative whole fraction (exponent.getD 0) v
  | .ok (whole, t) =>
    match exponent? t with
    | .error e => .error { e with label := some "floating-point number" }
    | .ok (some exponent, u) => makeFloat s isNegative whole [] exponent u
    | .ok (none, u) =>
      makeInteger s (if isNegative then -(natOf 10 whole : Int) else natOf 10 whole) u

/-- Reads the digits of an integer of another base. -/
def based (start : Input) (base : Nat) (label : String) (isDigit : Char → Bool) (s : Input) :
    Scan Scalar :=
  match s with
  | c :: _ =>
    if isDigit c then
      match digitRun isDigit s with
      | .error e => .error { e with label := some label }
      | .ok (digits, r) => makeInteger start (natOf base digits) r
    else fail s (some label)
  | [] => fail s (some label)

def isOctal (c : Char) : Bool := '0' ≤ c && c ≤ '7'
def isBinary (c : Char) : Bool := c = '0' || c = '1'

/-- Reads a word. -/
def word (expected : String) (value : Scalar) (s : Input) : Scan Scalar :=
  if s.take expected.length = expected.toList then .ok (value, s.drop expected.length)
  else fail s none ["`" ++ expected ++ "`"]

def infinity (isNegative : Bool) : Scalar := .float (.infinity isNegative)
def notANumber : Scalar := .float .notANumber

/-- Reads what begins with a digit or a sign. -/
def number (s : Input) : Scan Scalar :=
  match dateTime? s with
  | .error e => .error e
  | .ok (some r) => .ok (.dateTime, r)
  | .ok none =>
    match s, (sign s).2 with
    | '0' :: 'x' :: r, _ => based s 16 "hexadecimal integer" (fun c => (hexValue? c).isSome) r
    | '0' :: 'o' :: r, _ => based s 8 "octal integer" isOctal r
    | '0' :: 'b' :: r, _ => based s 2 "binary integer" isBinary r
    | _, 'i' :: r => word "inf" (infinity (sign s).1) ('i' :: r)
    | _, 'n' :: r => word "nan" notANumber ('n' :: r)
    | _, _ => decimal s

/-- Reads a value that has no parts. -/
def scalar (s : Input) : Scan Scalar :=
  match s with
  | [] => .error { span := .at s }
  | c :: _ =>
    if c = '"' || c = '\'' then (string s).map fun (t, r) => (.string t, r)
    else if isDigit c || c = '+' || c = '-' then number s
    else if c = '_' then fail s (some "integer") ["leading digit"]
    else if c = '.' then fail s (some "floating-point number") ["leading digit"]
    else if c = 't' then word "true" (.bool true) s
    else if c = 'f' then word "false" (.bool false) s
    else if c = 'i' then word "inf" (infinity false) s
    else if c = 'n' then word "nan" notANumber s
    else fail s (some "string") ["`\"`", "`'`"]

end ColumnMap.Toml
