import ColumnMap.Json.Token

/-!
Passing over a value whose content does not matter. Its brackets must match and its tokens must be
well formed, but it may nest to any depth, its numbers may be too large for a double, and its
strings may hold unpaired surrogates and bytes that are not UTF-8.
-/

namespace ColumnMap.Json

/-- The input after a sign, if one stands here. -/
def afterSign (s : Bytes) : Bytes :=
  if s.head? == some (byte '-') || s.head? == some (byte '+') then s.drop 1 else s

theorem afterSign_length (s : Bytes) : (afterSign s).length ≤ s.length := by
  unfold afterSign; split <;> simp

/-- Passes over the digits of an exponent, of which the letter has been read. -/
def skipExponent (s : Bytes) : Scan Unit :=
  let t := afterSign s
  if startsWithDigit t then .ok ((), t.dropWhile isDigit) else failAt .badNumber t

theorem skipExponent_length {s r : Bytes} {u : Unit} (h : skipExponent s = .ok (u, r)) :
    r.length ≤ s.length := by
  simp only [skipExponent] at h
  split at h
  · simp only [Except.ok.injEq, Prod.mk.injEq, true_and] at h
    have h1 := afterSign_length s
    have h2 := (List.dropWhile_suffix (l := afterSign s) isDigit).length_le
    rw [← h]; omega
  · simp [failAt] at h

/-- Passes over an exponent if one stands here. -/
def skipScale : Bytes → Scan Unit
  | [] => .ok ((), [])
  | b :: r => if isExponentLetter b then skipExponent r else .ok ((), b :: r)

theorem skipScale_length {s r : Bytes} {u : Unit} (h : skipScale s = .ok (u, r)) :
    r.length ≤ s.length := by
  cases s with
  | nil => simp only [skipScale, Except.ok.injEq, Prod.mk.injEq, true_and] at h; simp [← h]
  | cons b t =>
    simp only [skipScale] at h
    split at h
    · have := skipExponent_length h; simp only [List.length_cons]; omega
    · simp only [Except.ok.injEq, Prod.mk.injEq, true_and] at h; simp [← h]

/-- Passes over what may follow the integer part of a number. -/
def skipFraction : Bytes → Scan Unit
  | [] => .ok ((), [])
  | b :: r =>
    if b = byte '.' then
      if startsWithDigit r then skipScale (r.dropWhile isDigit) else failAt .badNumber r
    else skipScale (b :: r)

theorem skipFraction_length {s r : Bytes} {u : Unit} (h : skipFraction s = .ok (u, r)) :
    r.length ≤ s.length := by
  cases s with
  | nil => simp only [skipFraction, Except.ok.injEq, Prod.mk.injEq, true_and] at h; simp [← h]
  | cons b t =>
    simp only [skipFraction] at h
    split at h
    · split at h
      · have h1 := skipScale_length h
        have h2 := (List.dropWhile_suffix (l := t) isDigit).length_le
        simp only [List.length_cons]; omega
      · simp [failAt] at h
    · exact skipScale_length h

/-- Passes over a number, of which a minus sign has been read. -/
def skipNumber : Bytes → Scan Unit
  | [] => fail .badNumber []
  | b :: r =>
    if b = byte '0' then
      if startsWithDigit r then failAt .badNumber r else skipFraction r
    else if isDigit b then skipFraction (r.dropWhile isDigit)
    else failAt .badNumber (b :: r)

theorem skipNumber_length {s r : Bytes} {u : Unit} (h : skipNumber s = .ok (u, r)) :
    r.length < s.length := by
  cases s with
  | nil => simp [skipNumber, fail] at h
  | cons b t =>
    simp only [skipNumber] at h
    split at h
    · split at h
      · simp [failAt] at h
      · have := skipFraction_length h; simp only [List.length_cons]; omega
    · split at h
      · have h1 := skipFraction_length h
        have h2 := (List.dropWhile_suffix (l := t) isDigit).length_le
        simp only [List.length_cons]; omega
      · simp [failAt] at h

/-- Passes over an escape, of which the backslash has been read. -/
def skipEscape : Bytes → Scan Unit
  | [] => fail .endInString []
  | b :: r =>
    if b = byte 'u' then onResult (fun _ => ()) (hex4 r)
    else if (escapeLetter? b).isSome then .ok ((), r)
    else fail .badEscape r

theorem skipEscape_length {s r : Bytes} {u : Unit} (h : skipEscape s = .ok (u, r)) :
    r.length < s.length := by
  cases s with
  | nil => simp [skipEscape, fail] at h
  | cons b t =>
    simp only [skipEscape] at h
    split at h
    · have := hex4_length (of_onResult_eq_ok h).choose_spec
      simp only [List.length_cons]; omega
    · split at h
      · simp only [Except.ok.injEq, Prod.mk.injEq, true_and] at h; simp [← h]
      · simp [fail] at h

/-- Passes over a string, of which the opening quote has been read. -/
def skipString (s : Bytes) : Scan Unit :=
  match s with
  | [] => fail .endInString []
  | b :: r =>
    if b = byte '"' then .ok ((), r)
    else if b = byte '\\' then
      match _h : skipEscape r with
      | .error e => .error e
      | .ok (_, t) => skipString t
    else if b < 0x20 then fail .controlCharacter (b :: r)
    else skipString r
termination_by s.length
decreasing_by
  · have := skipEscape_length _h; simp only [List.length_cons]; omega
  · simp only [List.length_cons]; omega

theorem skipString_length {s r : Bytes} {u : Unit} (h : skipString s = .ok (u, r)) :
    r.length < s.length := by
  fun_induction skipString s with
  | case1 => simp [fail] at h
  | case2 =>
    simp only [Except.ok.injEq, Prod.mk.injEq, true_and] at h
    simp [← h]
  | case3 => simp at h
  | case4 _ _ _ hx _ ih =>
    have := skipEscape_length hx
    have := ih h
    simp only [List.length_cons]; omega
  | case5 => simp [fail] at h
  | case6 _ _ _ _ _ ih =>
    have := ih h
    simp only [List.length_cons]; omega

/-- Passes over a value that is no list or object and begins with `b`. -/
def skipScalar (b : UInt8) (r : Bytes) : Scan Unit :=
  if b = byte 'n' then word [byte 'u', byte 'l', byte 'l'] r
  else if b = byte 't' then word [byte 'r', byte 'u', byte 'e'] r
  else if b = byte 'f' then word [byte 'a', byte 'l', byte 's', byte 'e'] r
  else if b = byte '-' then skipNumber r
  else if isDigit b then skipNumber (b :: r)
  else if b = byte '"' then skipString r
  else failAt .noValue (b :: r)

theorem skipScalar_length {b : UInt8} {s r : Bytes} {u : Unit}
    (h : skipScalar b s = .ok (u, r)) : r.length ≤ s.length := by
  unfold skipScalar at h
  split at h
  · exact word_length h
  · split at h
    · exact word_length h
    · split at h
      · exact word_length h
      · split at h
        · exact Nat.le_of_lt (skipNumber_length h)
        · split at h
          · have := skipNumber_length h; simp only [List.length_cons] at this; omega
          · split at h
            · exact Nat.le_of_lt (skipString_length h)
            · simp [failAt] at h

inductive Bracket where
  | list | object
  deriving DecidableEq, Repr

/-- What may stand next: a value, the rest of a list or object after an item, or its first item. -/
inductive Awaited where
  | value | more | first
  deriving DecidableEq, Repr

def Bracket.close : Bracket → UInt8
  | .list => byte ']'
  | .object => byte '\x7d'

def Bracket.noComma : Bracket → Cause
  | .list => .noCommaInArray
  | .object => .noCommaInObject

def Bracket.end : Bracket → Cause
  | .list => .endInArray
  | .object => .endInObject

/-- Passes over the key of an object's field and its colon. -/
def skipKey (s : Bytes) : Scan Unit :=
  match skipSpace s with
  | [] => fail .endInObject []
  | b :: r =>
    if b = byte '"' then
      match skipString r with
      | .error e => .error e
      | .ok (_, t) =>
        match skipSpace t with
        | [] => fail .endInObject []
        | c :: u => if c = byte ':' then .ok ((), u) else failAt .noColon (c :: u)
    else failAt .keyNotString (b :: r)

theorem skipKey_length {s r : Bytes} {u : Unit} (h : skipKey s = .ok (u, r)) :
    r.length < s.length := by
  unfold skipKey at h
  have h0 := skipSpace_length s
  split at h
  · simp [fail] at h
  · rename_i b t ht
    rw [ht] at h0
    simp only [List.length_cons] at h0
    split at h
    · split at h
      · simp at h
      · rename_i v hv
        have h1 := skipString_length hv
        have h2 := skipSpace_length v
        split at h
        · simp [fail] at h
        · rename_i c w hw
          rw [hw] at h2
          simp only [List.length_cons] at h2
          split at h
          · simp only [Except.ok.injEq, Prod.mk.injEq, true_and] at h
            rw [← h]; omega
          · simp [failAt] at h
    · simp [failAt] at h

/-- The key of the next field, if the innermost bracket is an object. -/
def skipKeyIn : List Bracket → Bytes → Scan Unit
  | .object :: _, s => skipKey s
  | _, s => .ok ((), s)

theorem skipKeyIn_length {l : List Bracket} {s r : Bytes} {u : Unit}
    (h : skipKeyIn l s = .ok (u, r)) : r.length ≤ s.length := by
  unfold skipKeyIn at h
  split at h
  · exact Nat.le_of_lt (skipKey_length h)
  · simp only [Except.ok.injEq, Prod.mk.injEq, true_and] at h; simp [← h]

/-- Passes over what is awaited inside the given brackets, the innermost first, and over all that
follows up to the end of the outermost value. -/
def skipWithin (awaited : Awaited) (inside : List Bracket) (s : Bytes) : Scan Unit :=
  match awaited, inside with
  | .value, inside =>
    match _h : skipSpace s with
    | [] => fail .endInValue []
    | b :: r =>
      if b = byte '[' then skipWithin .first (.list :: inside) r
      else if b = byte '\x7b' then skipWithin .first (.object :: inside) r
      else
        match _hs : skipScalar b r with
        | .error e => .error e
        | .ok (_, t) => skipWithin .more inside t
  | .more, [] => .ok ((), s)
  | .more, bracket :: outer =>
    match _h : skipSpace s with
    | [] => fail bracket.end []
    | b :: r =>
      if b = bracket.close then skipWithin .more outer r
      else if b = byte ',' then
        match _hs : skipKeyIn (bracket :: outer) r with
        | .error e => .error e
        | .ok (_, t) => skipWithin .value (bracket :: outer) t
      else failAt bracket.noComma (b :: r)
  | .first, [] => .ok ((), s)
  | .first, bracket :: outer =>
    match _h : skipSpace s with
    | [] => fail bracket.end []
    | b :: r =>
      if b = bracket.close then skipWithin .more outer r
      else
        match _hs : skipKeyIn (bracket :: outer) (b :: r) with
        | .error e => .error e
        | .ok (_, t) => skipWithin .value (bracket :: outer) t
termination_by (s.length, if awaited = .first then 1 else 0)
decreasing_by
  all_goals simp_wf
  all_goals have h0 := skipSpace_length s
  all_goals rw [_h] at h0
  all_goals simp only [List.length_cons] at h0
  · apply Prod.Lex.left; omega
  · apply Prod.Lex.left; omega
  · have := skipScalar_length _hs; apply Prod.Lex.left; omega
  · apply Prod.Lex.left; omega
  · have := skipKeyIn_length _hs; apply Prod.Lex.left; omega
  · apply Prod.Lex.left; omega
  · have := skipKeyIn_length _hs
    simp only [List.length_cons] at this
    rcases Nat.lt_or_ge t.length s.length with hlt | hge
    · apply Prod.Lex.left; omega
    · have : t.length = s.length := by omega
      rw [this]; apply Prod.Lex.right; omega

theorem skipWithin_length {a : Awaited} {l : List Bracket} {s r : Bytes} {u : Unit}
    (h : skipWithin a l s = .ok (u, r)) :
    r.length ≤ s.length ∧ (a = .value → r.length < s.length) := by
  have space {t : Bytes} {b : UInt8} {q : Bytes} (ht : skipSpace t = b :: q) :
      q.length + 1 ≤ t.length := by
    have := skipSpace_length t
    rw [ht] at this
    simpa using this
  fun_induction skipWithin a l s
  case case2 ht ih | case3 ht _ ih | case8 ht ih | case14 ht ih =>
    have := space ht
    have := (ih h).1
    exact ⟨by omega, fun _ => by omega⟩
  case case5 hs ih =>
    rename_i ht _ _ _ _
    have := space ht
    have := skipScalar_length hs
    have := (ih h).1
    exact ⟨by omega, fun _ => by omega⟩
  case case6 | case12 =>
    simp only [Except.ok.injEq, Prod.mk.injEq, true_and] at h
    simp [h]
  case case10 hs ht _ ih =>
    have := space ht
    have := skipKeyIn_length hs
    have := (ih h).1
    exact ⟨by omega, fun _ => by omega⟩
  case case16 ht _ _ _ hs ih =>
    have := space ht
    have := skipKeyIn_length hs
    have := (ih h).1
    simp only [List.length_cons] at *
    exact ⟨by omega, fun hv => by cases hv⟩
  all_goals simp [fail, failAt] at h

/-- Passes over one value. -/
def skipValue (s : Bytes) : Scan Unit := skipWithin .value [] s

theorem skipValue_length {s r : Bytes} {u : Unit} (h : skipValue s = .ok (u, r)) :
    r.length < s.length :=
  (skipWithin_length h).2 rfl

end ColumnMap.Json
