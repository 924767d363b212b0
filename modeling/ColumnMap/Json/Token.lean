import ColumnMap.Json.Fault

/-!
The tokens of JSON: words, numbers and strings, each read from the front of the input. Every
reading function that succeeds leaves a shorter rest, or at least no longer one, as the lemma after
it says; the readers of lists and objects end because of that.
-/

namespace ColumnMap.Json

/-- What a reading function gives: a result and the input after it, or a fault. -/
abbrev Scan (α : Type) := Except Fault (α × Bytes)

/-- The byte of an ASCII character. -/
abbrev byte (c : Char) : UInt8 := c.toUInt8

/-- A fault just before the rest. -/
def fail {α : Type} (cause : Cause) (rest : Bytes) : Scan α := .error ⟨cause, rest, 0, false⟩

/-- A fault at the first byte of the rest. -/
def failAt {α : Type} (cause : Cause) (rest : Bytes) : Scan α := .error ⟨cause, rest, 1, false⟩

/-- Changes the result of a reading function and leaves the rest of the input. -/
def onResult {α β : Type} (f : α → β) : Scan α → Scan β
  | .error e => .error e
  | .ok (a, r) => .ok (f a, r)

theorem of_onResult_eq_ok {α β : Type} {f : α → β} {x : Scan α} {b : β} {r : Bytes}
    (h : onResult f x = .ok (b, r)) : ∃ a, x = .ok (a, r) := by
  cases x with
  | error e => simp [onResult] at h
  | ok v =>
    simp only [onResult, Except.ok.injEq, Prod.mk.injEq] at h
    exact ⟨v.1, by rw [← h.2]⟩

def isSpace (b : UInt8) : Bool :=
  b == byte ' ' || b == byte '\n' || b == byte '\t' || b == byte '\r'

def skipSpace (s : Bytes) : Bytes := s.dropWhile isSpace

theorem skipSpace_length (s : Bytes) : (skipSpace s).length ≤ s.length :=
  (List.dropWhile_suffix isSpace).length_le

/-! ### Words -/

/-- Reads the given bytes and nothing else. -/
def word : Bytes → Bytes → Scan Unit
  | [], s => .ok ((), s)
  | _ :: _, [] => fail .endInValue []
  | w :: ws, b :: r => if b = w then word ws r else failAt .noWord (b :: r)

theorem word_length {w s r : Bytes} {a : Unit} (h : word w s = .ok (a, r)) :
    r.length ≤ s.length := by
  induction w generalizing s with
  | nil => simp only [word, Except.ok.injEq, Prod.mk.injEq] at h; simp [h]
  | cons x xs ih =>
    cases s with
    | nil => simp [word, fail] at h
    | cons b t =>
      simp only [word] at h
      split at h
      · have := ih h; simp only [List.length_cons]; omega
      · simp [failAt] at h

/-! ### Numbers -/

def isDigit (b : UInt8) : Bool := byte '0' ≤ b && b ≤ byte '9'
def digitValue (b : UInt8) : Nat := b.toNat - 48

/-- The greatest unsigned integer of 64 bits. -/
def maxWord : Nat := UInt64.size - 1

/-- A number read from digits, how many there were, and the input after them. -/
structure Digits where
  value : Nat
  count : Nat
  rest : Bytes

/-- Reads digits behind `n` while the number fits 64 bits, and counts them. -/
def takeDigits (n count : Nat) : Bytes → Digits
  | [] => ⟨n, count, []⟩
  | b :: r =>
    if isDigit b && decide (n * 10 + digitValue b ≤ maxWord) then
      takeDigits (n * 10 + digitValue b) (count + 1) r
    else ⟨n, count, b :: r⟩

/-- Passes over all digits and counts them; the number `n` stays as it is. -/
def dropDigits (n count : Nat) : Bytes → Digits
  | [] => ⟨n, count, []⟩
  | b :: r => if isDigit b then dropDigits n (count + 1) r else ⟨n, count, b :: r⟩

theorem takeDigits_length (n count : Nat) (s : Bytes) :
    (takeDigits n count s).rest.length ≤ s.length := by
  induction s generalizing n count with
  | nil => simp [takeDigits]
  | cons b r ih =>
    simp only [takeDigits]
    split
    · have := ih (n * 10 + digitValue b) (count + 1); simp only [List.length_cons]; omega
    · simp

theorem dropDigits_length (n count : Nat) (s : Bytes) :
    (dropDigits n count s).rest.length ≤ s.length := by
  induction s generalizing count with
  | nil => simp [dropDigits]
  | cons b r ih =>
    simp only [dropDigits]
    split
    · have := ih (count + 1); simp only [List.length_cons]; omega
    · simp

def startsWithDigit : Bytes → Bool
  | [] => false
  | b :: _ => isDigit b

def powerOfTen (n : Nat) : Float := Float.ofScientific 1 false n

/-- `x * 10 ^ e` in floating point, by one product or quotient of powers up to 10^308. None if it is
too large for a double. -/
def scaleByTen (x : Float) (e : Int) : Option Float :=
  if e.natAbs ≤ 308 then
    if 0 ≤ e then
      let y := x * powerOfTen e.natAbs
      if y.isInf then none else some y
    else some (x / powerOfTen e.natAbs)
  else if x == 0 then some x
  else if 0 ≤ e then none
  else scaleByTen (x / powerOfTen 308) (e + 308)
termination_by e.natAbs
decreasing_by omega

/-- The double `± n * 10 ^ e`. -/
def doubleOf (positive : Bool) (n : Nat) (e : Int) (rest : Bytes) : Scan Number :=
  match scaleByTen n.toUInt64.toFloat e with
  | none => fail .numberOutOfRange rest
  | some x => .ok (.double (.ofFloat (if positive then x else -x)), rest)

theorem doubleOf_rest {p : Bool} {n : Nat} {e : Int} {s r : Bytes} {a : Number}
    (h : doubleOf p n e s = .ok (a, r)) : r = s := by
  unfold doubleOf at h
  split at h
  · simp [fail] at h
  · simp only [Except.ok.injEq, Prod.mk.injEq] at h; exact h.2.symm

/-- The greatest exponent that is still counted. -/
def maxExponent : Nat := Nat.pow 2 31 - 1

/-- Reads the further digits of an exponent. One that is too large to count makes zero of zero and
of a negative exponent, and otherwise is out of range. -/
def exponentDigits (positive : Bool) (n : Nat) (start : Int) (negative : Bool) (e : Nat) :
    Bytes → Scan Number
  | [] => doubleOf positive n (start + if negative then -(e : Int) else e) []
  | b :: r =>
    if isDigit b then
      if maxExponent < e * 10 + digitValue b then
        if n != 0 && !negative then fail .numberOutOfRange r
        else .ok (.double (.ofFloat (if positive then 0 else -0)), (dropDigits 0 0 r).rest)
      else exponentDigits positive n start negative (e * 10 + digitValue b) r
    else doubleOf positive n (start + if negative then -(e : Int) else e) (b :: r)

theorem exponentDigits_length {p : Bool} {n : Nat} {st : Int} {neg : Bool} {e : Nat} {s r : Bytes}
    {a : Number} (h : exponentDigits p n st neg e s = .ok (a, r)) : r.length ≤ s.length := by
  induction s generalizing e with
  | nil => rw [exponentDigits] at h; exact Nat.le_of_eq (congrArg List.length (doubleOf_rest h))
  | cons b t ih =>
    simp only [exponentDigits] at h
    split at h
    · split at h
      · split at h
        · simp [fail] at h
        · simp only [Except.ok.injEq, Prod.mk.injEq] at h
          rw [← h.2]
          have := dropDigits_length 0 0 t
          simp only [List.length_cons]; omega
      · have := ih h; simp only [List.length_cons]; omega
    · exact Nat.le_of_eq (congrArg List.length (doubleOf_rest h))

/-- Reads an exponent, of which the letter has been read. -/
def exponentPart (positive : Bool) (n : Nat) (start : Int) (s : Bytes) : Scan Number :=
  let negative := s.head? == some (byte '-')
  let t := if negative || s.head? == some (byte '+') then s.drop 1 else s
  match t with
  | [] => fail .endInValue []
  | b :: r =>
    if isDigit b then exponentDigits positive n start negative (digitValue b) r
    else failAt .badNumber (b :: r)

theorem exponentPart_length {p : Bool} {n : Nat} {st : Int} {s r : Bytes} {a : Number}
    (h : exponentPart p n st s = .ok (a, r)) : r.length ≤ s.length := by
  unfold exponentPart at h
  simp only at h
  split at h
  · simp [fail] at h
  · rename_i b t ht
    split at h
    · have h1 := exponentDigits_length h
      have h2 : (b :: t).length ≤ s.length := by
        rw [← ht]; split <;> simp
      simp only [List.length_cons] at h2; omega
    · simp [failAt] at h

def isExponentLetter (b : UInt8) : Bool := b == byte 'e' || b == byte 'E'

/-- Ends a number at an exponent or at the first byte that cannot belong to it. -/
def scaledPart (positive : Bool) (n : Nat) (e : Int) : Bytes → Scan Number
  | [] => doubleOf positive n e []
  | b :: r => if isExponentLetter b then exponentPart positive n e r else doubleOf positive n e (b :: r)

theorem scaledPart_length {p : Bool} {n : Nat} {e : Int} {s r : Bytes} {a : Number}
    (h : scaledPart p n e s = .ok (a, r)) : r.length ≤ s.length := by
  cases s with
  | nil => rw [scaledPart] at h; exact Nat.le_of_eq (congrArg List.length (doubleOf_rest h))
  | cons b t =>
    simp only [scaledPart] at h
    split at h
    · have := exponentPart_length h; simp only [List.length_cons]; omega
    · exact Nat.le_of_eq (congrArg List.length (doubleOf_rest h))

/-- Reads the digits behind a point. Those that do not fit 64 bits any more do not count. -/
def fractionPart (positive : Bool) (n : Nat) (e : Int) (s : Bytes) : Scan Number :=
  let d := takeDigits n 0 s
  if startsWithDigit d.rest then
    scaledPart positive d.value (e - d.count) (dropDigits d.value 0 d.rest).rest
  else if d.count = 0 then
    if d.rest.isEmpty then fail .endInValue [] else failAt .badNumber d.rest
  else scaledPart positive d.value (e - d.count) d.rest

theorem fractionPart_length {p : Bool} {n : Nat} {e : Int} {s r : Bytes} {a : Number}
    (h : fractionPart p n e s = .ok (a, r)) : r.length ≤ s.length := by
  unfold fractionPart at h
  have h1 := takeDigits_length n 0 s
  simp only at h
  generalize takeDigits n 0 s = d at h h1
  split at h
  · have h2 := scaledPart_length h
    have h3 := dropDigits_length d.value 0 d.rest
    omega
  · split at h
    · split at h
      · simp [fail] at h
      · simp [failAt] at h
    · have h2 := scaledPart_length h
      omega

/-- The integer `± n`; one below the signed range, and negative zero, is a double. -/
def integer (positive : Bool) (n : Nat) : Number :=
  if positive then .int n
  else if 0 < n ∧ n ≤ Nat.pow 2 63 then .int (-n)
  else .double (.ofFloat (-n.toUInt64.toFloat))

/-- Ends a number whose integer part has been read exactly. -/
def afterInteger (positive : Bool) (n : Nat) : Bytes → Scan Number
  | [] => .ok (integer positive n, [])
  | b :: r =>
    if b = byte '.' then fractionPart positive n 0 r
    else if isExponentLetter b then exponentPart positive n 0 r
    else .ok (integer positive n, b :: r)

/-- Ends a number of whose integer part the last `e` digits did not fit. -/
def afterLongInteger (positive : Bool) (n : Nat) (e : Int) : Bytes → Scan Number
  | [] => doubleOf positive n e []
  | b :: r => if b = byte '.' then fractionPart positive n e r else scaledPart positive n e (b :: r)

theorem afterInteger_length {p : Bool} {n : Nat} {s r : Bytes} {a : Number}
    (h : afterInteger p n s = .ok (a, r)) : r.length ≤ s.length := by
  cases s with
  | nil => simp only [afterInteger, Except.ok.injEq, Prod.mk.injEq] at h; simp [← h.2]
  | cons b t =>
    simp only [afterInteger] at h
    split at h
    · have := fractionPart_length h; simp only [List.length_cons]; omega
    · split at h
      · have := exponentPart_length h; simp only [List.length_cons]; omega
      · simp only [Except.ok.injEq, Prod.mk.injEq] at h; simp [← h.2]

theorem afterLongInteger_length {p : Bool} {n : Nat} {e : Int} {s r : Bytes} {a : Number}
    (h : afterLongInteger p n e s = .ok (a, r)) : r.length ≤ s.length := by
  cases s with
  | nil => rw [afterLongInteger] at h; exact Nat.le_of_eq (congrArg List.length (doubleOf_rest h))
  | cons b t =>
    simp only [afterLongInteger] at h
    split at h
    · have := fractionPart_length h; simp only [List.length_cons]; omega
    · exact scaledPart_length h

/-- Reads a number, of which a minus sign has been read. -/
def scanNumber (positive : Bool) : Bytes → Scan Number
  | [] => fail .endInValue []
  | b :: r =>
    if b = byte '0' then
      if startsWithDigit r then failAt .badNumber r else afterInteger positive 0 r
    else if isDigit b then
      let d := takeDigits (digitValue b) 0 r
      if startsWithDigit d.rest then
        let e := dropDigits d.value 0 d.rest
        afterLongInteger positive e.value e.count e.rest
      else afterInteger positive d.value d.rest
    else failAt .badNumber (b :: r)

theorem scanNumber_length {p : Bool} {s r : Bytes} {a : Number}
    (h : scanNumber p s = .ok (a, r)) : r.length < s.length := by
  cases s with
  | nil => simp [scanNumber, fail] at h
  | cons b t =>
    simp only [scanNumber] at h
    split at h
    · split at h
      · simp [failAt] at h
      · have := afterInteger_length h; simp only [List.length_cons]; omega
    · split at h
      · have h1 := takeDigits_length (digitValue b) 0 t
        generalize takeDigits (digitValue b) 0 t = d at h h1
        split at h
        · have h2 := afterLongInteger_length h
          have h3 := dropDigits_length d.value 0 d.rest
          simp only [List.length_cons]; omega
        · have h2 := afterInteger_length h
          simp only [List.length_cons]; omega
      · simp [failAt] at h

/-! ### Strings -/

def hexValue? (b : UInt8) : Option Nat :=
  if isDigit b then some (b.toNat - 48)
  else if byte 'a' ≤ b && b ≤ byte 'f' then some (b.toNat - 87)
  else if byte 'A' ≤ b && b ≤ byte 'F' then some (b.toNat - 55)
  else none

/-- Reads four hexadecimal digits. -/
def hex4 : Bytes → Scan Nat
  | a :: b :: c :: d :: r =>
    match hexValue? a, hexValue? b, hexValue? c, hexValue? d with
    | some w, some x, some y, some z => .ok (((w * 16 + x) * 16 + y) * 16 + z, r)
    | _, _, _, _ => fail .badEscape r
  | _ => fail .endInString []

theorem hex4_length {s r : Bytes} {n : Nat} (h : hex4 s = .ok (n, r)) : r.length < s.length := by
  unfold hex4 at h
  split at h
  · split at h
    · simp only [Except.ok.injEq, Prod.mk.injEq] at h
      simp only [List.length_cons, ← h.2]; omega
    · simp [fail] at h
  · simp [fail] at h

def utf8 (n : Nat) : Bytes := String.utf8EncodeChar (Char.ofNat n)

/-- Reads the second half of a surrogate pair whose first half is `high`. -/
def lowSurrogate (high : Nat) : Bytes → Scan Bytes
  | [] => fail .endInString []
  | b :: r =>
    if b ≠ byte '\\' then fail .unfinishedPair r
    else match r with
      | [] => fail .endInString []
      | c :: t =>
        if c ≠ byte 'u' then fail .unfinishedPair t
        else match hex4 t with
          | .error e => .error e
          | .ok (low, u) =>
            if 0xDC00 ≤ low && low ≤ 0xDFFF then
              .ok (utf8 ((high - 0xD800) * 0x400 + (low - 0xDC00) + 0x10000), u)
            else fail .loneSurrogate u

/-- Reads the digits of a numbered character, and its second half if it needs one. -/
def numbered (s : Bytes) : Scan Bytes :=
  match hex4 s with
  | .error e => .error e
  | .ok (n, r) =>
    if 0xDC00 ≤ n && n ≤ 0xDFFF then fail .loneSurrogate r
    else if 0xD800 ≤ n && n ≤ 0xDBFF then lowSurrogate n r
    else .ok (utf8 n, r)

theorem lowSurrogate_length {n : Nat} {s r a : Bytes} (h : lowSurrogate n s = .ok (a, r)) :
    r.length < s.length := by
  unfold lowSurrogate at h
  split at h
  · simp [fail] at h
  · split at h
    · simp [fail] at h
    · split at h
      · simp [fail] at h
      · split at h
        · simp [fail] at h
        · split at h
          · simp at h
          · rename_i hx
            have := hex4_length hx
            split at h
            · simp only [Except.ok.injEq, Prod.mk.injEq] at h
              simp only [List.length_cons, ← h.2]; omega
            · simp [fail] at h

theorem numbered_length {s r a : Bytes} (h : numbered s = .ok (a, r)) : r.length < s.length := by
  unfold numbered at h
  split at h
  · simp at h
  · rename_i hx
    have := hex4_length hx
    split at h
    · simp [fail] at h
    · split at h
      · have := lowSurrogate_length h; omega
      · simp only [Except.ok.injEq, Prod.mk.injEq] at h
        rw [← h.2]; omega

/-- The bytes that a one-letter escape stands for. -/
def escapeLetter? (b : UInt8) : Option UInt8 :=
  if b = byte '"' then some (byte '"')
  else if b = byte '\\' then some (byte '\\')
  else if b = byte '/' then some (byte '/')
  else if b = byte 'b' then some 0x08
  else if b = byte 'f' then some 0x0C
  else if b = byte 'n' then some 0x0A
  else if b = byte 'r' then some 0x0D
  else if b = byte 't' then some 0x09
  else none

/-- Reads an escape, of which the backslash has been read. -/
def escape : Bytes → Scan Bytes
  | [] => fail .endInString []
  | b :: r =>
    if b = byte 'u' then numbered r
    else match escapeLetter? b with
      | some c => .ok ([c], r)
      | none => fail .badEscape r

theorem escape_length {s r a : Bytes} (h : escape s = .ok (a, r)) : r.length < s.length := by
  unfold escape at h
  split at h
  · simp [fail] at h
  · split at h
    · have := numbered_length h; simp only [List.length_cons]; omega
    · split at h
      · simp only [Except.ok.injEq, Prod.mk.injEq] at h
        simp only [List.length_cons, ← h.2]; omega
      · simp [fail] at h

/-- Reads the bytes of a string, of which the opening quote has been read, behind those read
before, which are in `read` with the last one first. -/
def stringBytes (read : Bytes) (s : Bytes) : Scan Bytes :=
  match s with
  | [] => fail .endInString []
  | b :: r =>
    if b = byte '"' then .ok (read.reverse, r)
    else if b = byte '\\' then
      match _h : escape r with
      | .error e => .error e
      | .ok (c, t) => stringBytes (c.reverse ++ read) t
    else if b < 0x20 then fail .controlCharacter r
    else stringBytes (b :: read) r
termination_by s.length
decreasing_by
  · have := escape_length _h; simp only [List.length_cons]; omega
  · simp only [List.length_cons]; omega

theorem stringBytes_length {d s r a : Bytes} (h : stringBytes d s = .ok (a, r)) :
    r.length < s.length := by
  fun_induction stringBytes d s with
  | case1 => simp [fail] at h
  | case2 =>
    simp only [Except.ok.injEq, Prod.mk.injEq] at h
    simp only [List.length_cons, ← h.2]; omega
  | case3 => simp at h
  | case4 _ _ _ _ hx _ ih =>
    have := escape_length hx
    have := ih h
    simp only [List.length_cons]; omega
  | case5 => simp [fail] at h
  | case6 _ _ _ _ _ _ ih =>
    have := ih h
    simp only [List.length_cons]; omega

/-- Reads a string, of which the opening quote has been read. Its bytes must be UTF-8. -/
def scanString (s : Bytes) : Scan String :=
  match stringBytes [] s with
  | .error e => .error e
  | .ok (bytes, r) =>
    match String.fromUTF8? ⟨bytes.toArray⟩ with
    | some text => .ok (text, r)
    | none => fail .invalidUtf8 r

theorem scanString_length {s r : Bytes} {a : String} (h : scanString s = .ok (a, r)) :
    r.length < s.length := by
  unfold scanString at h
  split at h
  · simp at h
  · rename_i hx
    have := stringBytes_length hx
    split at h
    · simp only [Except.ok.injEq, Prod.mk.injEq] at h; rw [← h.2]; omega
    · simp [fail] at h

end ColumnMap.Json
