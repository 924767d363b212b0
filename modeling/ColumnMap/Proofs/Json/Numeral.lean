import ColumnMap.Json.Skip

/-!
Numbers as JSON writes them: their parts, the number that these denote, and which are passed over.
Digits count as far as they fit 64 bits; further ones before the point only scale the number, and
further ones behind it are lost.
-/

namespace ColumnMap.Json

/-! ### Digits -/

/-- One digit or more. -/
def Run (ds : Bytes) : Prop := ds ≠ [] ∧ ∀ b ∈ ds, isDigit b = true

/-- The number that digits write behind `n`. -/
def digitsFrom (n : Nat) (ds : Bytes) : Nat := ds.foldl (fun m b => m * 10 + digitValue b) n

theorem le_digitsFrom (n : Nat) (ds : Bytes) : n ≤ digitsFrom n ds := by
  induction ds generalizing n with
  | nil => exact Nat.le_refl n
  | cons b ds ih =>
    have : n * 10 + digitValue b ≤ digitsFrom n (b :: ds) := ih _
    omega

@[simp] theorem startsWithDigit_cons (b : UInt8) (s : Bytes) :
    startsWithDigit (b :: s) = isDigit b := rfl

theorem exists_run {s : Bytes} (h : startsWithDigit s = true) :
    ∃ ds r, Run ds ∧ startsWithDigit r = false ∧ s = ds ++ r := by
  induction s with
  | nil => cases h
  | cons b s ih =>
    cases more : startsWithDigit s with
    | false => exact ⟨[b], s, ⟨by simp, by simpa using h⟩, more, rfl⟩
    | true =>
      obtain ⟨ds, r, run, stop, rfl⟩ := ih more
      exact ⟨b :: ds, r, ⟨by simp, List.forall_mem_cons.mpr ⟨h, run.2⟩⟩, stop, rfl⟩

theorem Run.first {ds : Bytes} (h : Run ds) : ∃ b more, ds = b :: more ∧ isDigit b = true := by
  cases ds with
  | nil => exact absurd rfl h.1
  | cons b more => exact ⟨b, more, rfl, h.2 b List.mem_cons_self⟩

theorem Run.starts {ds : Bytes} (h : Run ds) (r : Bytes) : startsWithDigit (ds ++ r) = true := by
  obtain ⟨b, more, rfl, digit⟩ := h.first
  exact digit

theorem dropWhile_stop {r : Bytes} (h : startsWithDigit r = false) : r.dropWhile isDigit = r := by
  cases r with
  | nil => rfl
  | cons b r => exact List.dropWhile_cons_of_neg (by simpa using h)

theorem dropWhile_digits {ds r : Bytes} (h : ∀ b ∈ ds, isDigit b = true)
    (stop : startsWithDigit r = false) : (ds ++ r).dropWhile isDigit = r := by
  rw [List.dropWhile_append_of_pos h, dropWhile_stop stop]

theorem dropDigits_digits {ds r : Bytes} (h : ∀ b ∈ ds, isDigit b = true)
    (stop : startsWithDigit r = false) (n count : Nat) :
    dropDigits n count (ds ++ r) = ⟨n, count + ds.length, r⟩ := by
  induction ds generalizing count with
  | nil =>
    cases r with
    | nil => rfl
    | cons b r =>
      have : isDigit b = false := stop
      simp [dropDigits, this]
  | cons b ds ih =>
    rw [List.cons_append, dropDigits, if_pos (h b List.mem_cons_self),
      ih fun x hx => h x (List.mem_cons_of_mem b hx), List.length_cons]
    congr 1
    omega

/-- Digits that are taken are taken from the digits alone. -/
theorem takeDigits_digits {ds r : Bytes} (h : ∀ b ∈ ds, isDigit b = true)
    (stop : startsWithDigit r = false) (n count : Nat) :
    takeDigits n count (ds ++ r) =
      { takeDigits n count ds with rest := (takeDigits n count ds).rest ++ r } := by
  induction ds generalizing n count with
  | nil =>
    cases r with
    | nil => rfl
    | cons b r =>
      have : isDigit b = false := stop
      simp [takeDigits, this]
  | cons b ds ih =>
    simp only [List.cons_append, takeDigits]
    split
    · exact ih (fun x hx => h x (List.mem_cons_of_mem b hx)) _ _
    · rfl

theorem takeDigits_rest (n count : Nat) (ds : Bytes) :
    ∃ taken, ds = taken ++ (takeDigits n count ds).rest ∧
      (takeDigits n count ds).count = count + taken.length := by
  induction ds generalizing n count with
  | nil => exact ⟨[], rfl, rfl⟩
  | cons b ds ih =>
    simp only [takeDigits]
    split
    · obtain ⟨taken, whole, counted⟩ := ih (n * 10 + digitValue b) (count + 1)
      exact ⟨b :: taken, congrArg (b :: ·) whole, by rw [counted, List.length_cons]; omega⟩
    · exact ⟨[], rfl, rfl⟩

theorem digitValue_le {b : UInt8} (h : isDigit b = true) : digitValue b ≤ 9 := by
  simp only [isDigit, Bool.and_eq_true, decide_eq_true_eq, UInt8.le_iff_toNat_le] at h
  have : (byte '9').toNat = 57 := rfl
  simp only [digitValue]
  omega

theorem takeDigits_count (n count : Nat) (ds : Bytes) :
    takeDigits n count ds =
      { takeDigits n 0 ds with count := count + (takeDigits n 0 ds).count } := by
  induction ds generalizing n count with
  | nil => rfl
  | cons b ds ih =>
    simp only [takeDigits]
    split
    · rw [ih _ (count + 1), ih _ (0 + 1)]
      simp only [Nat.zero_add, Nat.add_assoc]
    · rfl

/-- The first digit always fits. -/
theorem takeDigits_first {b : UInt8} (h : isDigit b = true) (ds : Bytes) :
    takeDigits 0 0 (b :: ds) = { takeDigits (digitValue b) 0 ds with
      count := 1 + (takeDigits (digitValue b) 0 ds).count } := by
  have fits : digitValue b ≤ maxWord := Nat.le_trans (digitValue_le h) (by decide)
  rw [← takeDigits_count]
  simp [takeDigits, h, fits]

/-! ### Numerals -/

/-- A power of ten behind a number: a letter, an optional sign, and digits. -/
structure Exponent where
  letter : UInt8
  sign : Bytes
  digits : Bytes
  isLetter : isExponentLetter letter = true
  isSign : sign = [] ∨ sign = [byte '+'] ∨ sign = [byte '-']
  run : Run digits

/-- Digits before a point: a zero comes first only if it is the only one. -/
structure Whole (ds : Bytes) : Prop where
  run : Run ds
  lead : ds.head? = some (byte '0') → ds = [byte '0']

/-- The parts of a number. -/
structure Numeral where
  positive : Bool
  whole : Bytes
  fraction : Option Bytes
  exponent : Option Exponent
  isWhole : Whole whole
  fractionRun : ∀ ds ∈ fraction, Run ds

def fractionText : Option Bytes → Bytes
  | none => []
  | some ds => byte '.' :: ds

def scaleText : Option Exponent → Bytes
  | none => []
  | some x => x.letter :: (x.sign ++ x.digits)

namespace Numeral

/-- The text of a number without its minus sign. -/
def unsigned (n : Numeral) : Bytes := n.whole ++ (fractionText n.fraction ++ scaleText n.exponent)

def text (n : Numeral) : Bytes :=
  if n.positive then n.unsigned else byte '-' :: n.unsigned

theorem unsigned_first (n : Numeral) : ∃ b t, n.unsigned = b :: t ∧ isDigit b = true := by
  obtain ⟨b, more, whole, digit⟩ := n.isWhole.run.first
  exact ⟨b, _, by rw [unsigned, whole, List.cons_append], digit⟩

theorem text_positive {n : Numeral} (h : n.positive = true) : n.text = n.unsigned := if_pos h

theorem text_negative {n : Numeral} (h : n.positive = false) : n.text = byte '-' :: n.unsigned :=
  if_neg (by simp [h])

theorem unsigned_of_cons {n : Numeral} {b : UInt8} {s r : Bytes} (h : b :: s = n.unsigned ++ r) :
    ∃ t, n.unsigned = b :: t ∧ s = t ++ r := by
  obtain ⟨c, t, first, -⟩ := n.unsigned_first
  rw [first, List.cons_append] at h
  obtain ⟨rfl, rfl⟩ := List.cons.inj h
  exact ⟨t, first, rfl⟩

end Numeral

/-- The double `± n * 10 ^ e`, unless it is too large. -/
def double? (positive : Bool) (n : Nat) (e : Int) : Option Number :=
  (scaleByTen n.toUInt64.toFloat e).map fun x => .double (.ofFloat (if positive then x else -x))

/-- The double `± n * 10 ^ start` times a further power of ten. -/
def power? (positive : Bool) (n : Nat) (start : Int) (negative : Bool) (e : Nat) : Option Number :=
  if maxExponent < e then
    if n != 0 && !negative then none else some (.double (.ofFloat (if positive then 0 else -0)))
  else double? positive n (start + if negative then -(e : Int) else e)

def scaled? (positive : Bool) (n : Nat) (start : Int) : Option Exponent → Option Number
  | none => double? positive n start
  | some x => power? positive n start (x.sign == [byte '-']) (digitsFrom 0 x.digits)

/-- The number that a numeral denotes: an integer if it fits 64 bits and has neither fraction nor
exponent, else a double. None if it is out of range. -/
def Numeral.number? (n : Numeral) : Option Number :=
  let whole := takeDigits 0 0 n.whole
  if n.fraction.isNone && n.exponent.isNone && whole.rest.isEmpty then
    some (integer n.positive whole.value)
  else
    let all := takeDigits whole.value 0 (n.fraction.getD [])
    scaled? n.positive all.value (whole.rest.length - all.count) n.exponent

/-- What may stand behind a number with these parts: nothing that would belong to it. -/
structure Stops (fraction : Option Bytes) (exponent : Option Exponent) (r : Bytes) : Prop where
  digit : startsWithDigit r = false
  letter : exponent = none → ∀ b ∈ r.head?, isExponentLetter b = false
  point : exponent = none → fraction = none → ∀ b ∈ r.head?, b ≠ byte '.'

/-! ### Passing over a number -/

theorem afterSign_sign {sign ds : Bytes} (h : sign = [] ∨ sign = [byte '+'] ∨ sign = [byte '-'])
    (run : Run ds) (r : Bytes) : afterSign (sign ++ (ds ++ r)) = ds ++ r := by
  rcases h with rfl | rfl | rfl
  · cases ds with
    | nil => exact absurd rfl run.1
    | cons b ds =>
      have digit := run.2 b List.mem_cons_self
      have minus : b ≠ byte '-' := by
        rintro rfl
        cases digit
      have plus : b ≠ byte '+' := by
        rintro rfl
        cases digit
      simp [afterSign, minus, plus]
  · rfl
  · rfl

theorem exists_sign (s : Bytes) :
    ∃ sign, (sign = [] ∨ sign = [byte '+'] ∨ sign = [byte '-']) ∧ s = sign ++ afterSign s := by
  unfold afterSign
  split
  · rename_i signed
    cases s with
    | nil => cases signed
    | cons b s =>
      simp only [List.head?_cons, Bool.or_eq_true, beq_iff_eq, Option.some.injEq] at signed
      rcases signed with rfl | rfl
      · exact ⟨[byte '-'], by simp, rfl⟩
      · exact ⟨[byte '+'], by simp, rfl⟩
  · exact ⟨[], .inl rfl, rfl⟩

theorem skipExponent_run (x : Exponent) {r : Bytes} (stop : startsWithDigit r = false) :
    skipExponent (x.sign ++ (x.digits ++ r)) = .ok ((), r) := by
  simp only [skipExponent, afterSign_sign x.isSign x.run, x.run.starts, if_true,
    dropWhile_digits x.run.2 stop]

theorem skipScale_scale {fraction : Option Bytes} {x : Option Exponent} {r : Bytes}
    (h : Stops fraction x r) : skipScale (scaleText x ++ r) = .ok ((), r) := by
  cases x with
  | none =>
    cases r with
    | nil => rfl
    | cons b r =>
      have other := h.letter rfl b rfl
      rw [scaleText, List.nil_append, skipScale, if_neg (by simp [other])]
  | some x =>
    rw [scaleText, List.cons_append, skipScale, if_pos x.isLetter, List.append_assoc,
      skipExponent_run x h.digit]

theorem skipScale_gives {s r : Bytes} (h : skipScale s = .ok ((), r))
    (stop : startsWithDigit s = false) :
    ∃ x, s = scaleText x ++ r ∧ startsWithDigit r = false ∧
      (x = none → ∀ b ∈ r.head?, isExponentLetter b = false) := by
  cases s with
  | nil =>
    cases h
    exact ⟨none, rfl, rfl, by simp⟩
  | cons b s =>
    simp only [skipScale] at h
    split at h
    · rename_i letter
      obtain ⟨sign, isSign, whole⟩ := exists_sign s
      simp only [skipExponent] at h
      split at h
      · rename_i digits
        obtain ⟨ds, t, run, stop', after⟩ := exists_run digits
        rw [after, dropWhile_digits run.2 stop'] at h
        cases h
        refine ⟨some ⟨b, sign, ds, letter, isSign, run⟩, ?_, stop', by simp⟩
        rw [whole, after]
        simp [scaleText]
      · simp [failAt] at h
    · rename_i letter
      cases h
      exact ⟨none, rfl, stop, by simpa using letter⟩

theorem startsWithDigit_scale {fraction : Option Bytes} {x : Option Exponent} {r : Bytes}
    (h : Stops fraction x r) : startsWithDigit (scaleText x ++ r) = false := by
  cases x with
  | none => exact h.digit
  | some x =>
    have letter := x.isLetter
    simp only [isExponentLetter, Bool.or_eq_true, beq_iff_eq] at letter
    simp only [scaleText, List.cons_append, startsWithDigit]
    rcases letter with e | e <;> rw [e] <;> decide

theorem startsWithDigit_fraction {fraction : Option Bytes} {x : Option Exponent} {r : Bytes}
    (h : Stops fraction x r) :
    startsWithDigit (fractionText fraction ++ (scaleText x ++ r)) = false := by
  cases fraction with
  | none => exact startsWithDigit_scale h
  | some ds => rfl

theorem head?_scale_ne_point {x : Option Exponent} {r : Bytes} (h : Stops none x r) :
    ∀ b ∈ (scaleText x ++ r).head?, b ≠ byte '.' := by
  cases x with
  | none => exact h.point rfl rfl
  | some x =>
    rintro _ ⟨⟩ point
    have letter := x.isLetter
    rw [point] at letter
    cases letter

theorem skipFraction_parts {fraction : Option Bytes} {x : Option Exponent} {r : Bytes}
    (run : ∀ ds ∈ fraction, Run ds) (h : Stops fraction x r) :
    skipFraction (fractionText fraction ++ (scaleText x ++ r)) = .ok ((), r) := by
  have scale := skipScale_scale h
  cases fraction with
  | none =>
    have point := head?_scale_ne_point h
    rw [fractionText, List.nil_append]
    generalize scaleText x ++ r = s at scale point
    cases s with
    | nil => exact scale
    | cons b s => rw [skipFraction, if_neg (point b rfl), scale]
  | some ds =>
    have run := run ds rfl
    rw [fractionText, List.cons_append, skipFraction, if_pos rfl, if_pos (run.starts _),
      dropWhile_digits run.2 (startsWithDigit_scale h), scale]

theorem skipFraction_gives {s r : Bytes} (h : skipFraction s = .ok ((), r))
    (stop : startsWithDigit s = false) :
    ∃ fraction x, (∀ ds ∈ fraction, Run ds) ∧ s = fractionText fraction ++ (scaleText x ++ r) ∧
      Stops fraction x r := by
  cases s with
  | nil =>
    cases h
    exact ⟨none, none, by simp, rfl, rfl, by simp, by simp⟩
  | cons b s =>
    simp only [skipFraction] at h
    split at h
    · rename_i point
      subst point
      split at h
      · rename_i digits
        obtain ⟨ds, t, run, stop', rfl⟩ := exists_run digits
        rw [dropWhile_digits run.2 stop'] at h
        obtain ⟨x, rfl, digit, letter⟩ := skipScale_gives h stop'
        exact ⟨some ds, x, by simpa using run, rfl, digit, letter, by simp⟩
      · simp [failAt] at h
    · rename_i point
      obtain ⟨x, whole, digit, letter⟩ := skipScale_gives h stop
      refine ⟨none, x, by simp, whole, digit, letter, ?_⟩
      rintro rfl - c hc
      rw [scaleText, List.nil_append] at whole
      rw [← whole] at hc
      cases hc
      exact point

/-- Digits that may be the integer part of a number are passed over as that. -/
theorem skipNumber_whole {ds r : Bytes} (h : Whole ds) (stop : startsWithDigit r = false) :
    skipNumber (ds ++ r) = skipFraction r := by
  obtain ⟨run, lead⟩ := h
  cases ds with
  | nil => exact absurd rfl run.1
  | cons b ds =>
    have digits := fun x hx => run.2 x (List.mem_cons_of_mem b hx)
    rw [List.cons_append, skipNumber]
    split
    · rename_i zero
      obtain ⟨-, rfl⟩ := List.cons.inj (lead (congrArg some zero))
      rw [List.nil_append, stop, if_neg (by decide)]
    · rw [if_pos (run.2 b List.mem_cons_self), dropWhile_digits digits stop]

theorem whole_zero {s : Bytes} (stop : ¬ startsWithDigit s = true) :
    ∃ ds t, Whole ds ∧ startsWithDigit t = false ∧ byte '0' :: s = ds ++ t :=
  ⟨[byte '0'], s, ⟨⟨by simp, by simp; decide⟩, fun _ => rfl⟩, by simpa using stop, rfl⟩

theorem whole_nonzero {b : UInt8} {s : Bytes} (digit : isDigit b = true) (nonzero : b ≠ byte '0') :
    ∃ ds t, Whole ds ∧ startsWithDigit t = false ∧ b :: s = ds ++ t := by
  obtain ⟨ds, t, run, stop, whole⟩ := exists_run (s := b :: s) digit
  refine ⟨ds, t, ⟨run, fun zero => ?_⟩, stop, whole⟩
  cases ds with
  | nil => cases zero
  | cons c ds =>
    obtain ⟨rfl, -⟩ := List.cons.inj whole
    exact absurd (Option.some.inj zero) nonzero

/-- What begins a number that can be passed over. -/
theorem whole_of_skipNumber {s r : Bytes} (h : skipNumber s = .ok ((), r)) :
    ∃ ds t, Whole ds ∧ startsWithDigit t = false ∧ s = ds ++ t := by
  cases s with
  | nil => simp [skipNumber, fail] at h
  | cons b s =>
    simp only [skipNumber] at h
    split at h
    · rename_i zero
      subst zero
      split at h
      · simp [failAt] at h
      · exact whole_zero ‹_›
    · rename_i nonzero
      split at h
      · exact whole_nonzero ‹_› nonzero
      · simp [failAt] at h

theorem skipNumber_unsigned (n : Numeral) {r : Bytes} (h : Stops n.fraction n.exponent r) :
    skipNumber (n.unsigned ++ r) = .ok ((), r) := by
  rw [Numeral.unsigned, List.append_assoc, List.append_assoc,
    skipNumber_whole n.isWhole (startsWithDigit_fraction h), skipFraction_parts n.fractionRun h]

/-- Only numbers are passed over as numbers. -/
theorem skipNumber_gives {s r : Bytes} (h : skipNumber s = .ok ((), r)) (positive : Bool) :
    ∃ n : Numeral, n.positive = positive ∧ s = n.unsigned ++ r ∧
      Stops n.fraction n.exponent r := by
  obtain ⟨ds, t, isWhole, stop, rfl⟩ := whole_of_skipNumber h
  rw [skipNumber_whole isWhole stop] at h
  obtain ⟨fraction, x, fractionRun, rfl, stops⟩ := skipFraction_gives h stop
  exact ⟨⟨positive, ds, fraction, x, isWhole, fractionRun⟩, rfl, by simp [Numeral.unsigned],
    stops⟩

end ColumnMap.Json
