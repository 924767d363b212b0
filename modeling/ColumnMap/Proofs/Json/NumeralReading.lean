import ColumnMap.Proofs.Json.Numeral

/-!
What is read as a number: the numerals that denote one, up to a byte that would not belong to them.
Whatever is read could be passed over, so it is a numeral, and a numeral is read as its number.
-/

namespace ColumnMap.Json

/-! ### Reading a number -/

theorem doubleOf_toOption (positive : Bool) (n : Nat) (e : Int) (r : Bytes) :
    (doubleOf positive n e r).toOption = (double? positive n e).map (·, r) := by
  unfold doubleOf double?
  split <;> simp_all [fail, Except.toOption]

/-- All digits of an exponent count: one that has become too large stays so. -/
theorem exponentDigits_run {ds r : Bytes} (h : ∀ b ∈ ds, isDigit b = true)
    (stop : startsWithDigit r = false) (positive : Bool) (n : Nat) (start : Int) (negative : Bool)
    {e : Nat} (small : e ≤ maxExponent) :
    (exponentDigits positive n start negative e (ds ++ r)).toOption =
      (power? positive n start negative (digitsFrom e ds)).map (·, r) := by
  induction ds generalizing e with
  | nil =>
    have within : ¬ maxExponent < digitsFrom e [] := Nat.not_lt.mpr small
    rw [power?, if_neg within]
    cases r with
    | nil => exact doubleOf_toOption positive n _ _
    | cons b r =>
      have other : ¬ isDigit b = true := by simpa using stop
      rw [List.nil_append, exponentDigits, if_neg other]
      exact doubleOf_toOption positive n _ _
  | cons b ds ih =>
    have rest := fun x hx => h x (List.mem_cons_of_mem b hx)
    rw [List.cons_append, exponentDigits, if_pos (h b List.mem_cons_self)]
    split
    · rename_i large
      have beyond : maxExponent < digitsFrom e (b :: ds) :=
        Nat.lt_of_lt_of_le large (le_digitsFrom _ ds)
      rw [power?, if_pos beyond]
      split
      · rfl
      · simp [dropDigits_digits rest stop, Except.toOption]
    · rename_i large
      exact ih rest (Nat.le_of_not_lt large)

theorem head?_sign {sign ds : Bytes} (h : sign = [] ∨ sign = [byte '+'] ∨ sign = [byte '-'])
    (run : Run ds) (r : Bytes) :
    ((sign ++ (ds ++ r)).head? == some (byte '-')) = (sign == [byte '-']) := by
  rcases h with rfl | rfl | rfl
  · cases ds with
    | nil => exact absurd rfl run.1
    | cons b ds =>
      have minus : b ≠ byte '-' := by
        rintro rfl
        cases run.2 _ List.mem_cons_self
      simp [minus]
  · rfl
  · rfl

theorem exponentPart_digit {s r : Bytes} {b : UInt8} (h : afterSign s = b :: r)
    (digit : isDigit b = true) (positive : Bool) (n : Nat) (start : Int) :
    exponentPart positive n start s =
      exponentDigits positive n start (s.head? == some (byte '-')) (digitValue b) r := by
  rw [afterSign] at h
  simp only [exponentPart, h, if_pos digit]

theorem exponentPart_run (x : Exponent) {r : Bytes} (stop : startsWithDigit r = false)
    (positive : Bool) (n : Nat) (start : Int) :
    (exponentPart positive n start (x.sign ++ (x.digits ++ r))).toOption =
      (scaled? positive n start (some x)).map (·, r) := by
  have behind := afterSign_sign x.isSign x.run r
  have sign := head?_sign x.isSign x.run r
  have run := x.run
  rw [scaled?]
  generalize x.digits = ds at behind sign run
  cases ds with
  | nil => exact absurd rfl run.1
  | cons b ds =>
    have digit := run.2 b List.mem_cons_self
    have small : digitValue b ≤ maxExponent := Nat.le_trans (digitValue_le digit) (by decide)
    have first : digitsFrom 0 (b :: ds) = digitsFrom (digitValue b) ds := by
      simp [digitsFrom]
    rw [exponentPart_digit behind digit, sign, first]
    exact exponentDigits_run (fun c hc => run.2 c (List.mem_cons_of_mem b hc)) stop positive n
      start _ small

theorem scaledPart_scale {fraction : Option Bytes} {x : Option Exponent} {r : Bytes}
    (h : Stops fraction x r) (positive : Bool) (n : Nat) (e : Int) :
    (scaledPart positive n e (scaleText x ++ r)).toOption =
      (scaled? positive n e x).map (·, r) := by
  cases x with
  | none =>
    cases r with
    | nil => exact doubleOf_toOption positive n e []
    | cons b r =>
      have other := h.letter rfl b rfl
      rw [scaleText, List.nil_append, scaledPart, if_neg (by simp [other])]
      exact doubleOf_toOption positive n e _
  | some x =>
    rw [scaleText, List.cons_append, scaledPart, if_pos x.isLetter, List.append_assoc]
    exact exponentPart_run x h.digit positive n e

/-- The digits of a fraction count as far as they can be taken behind the integer part. -/
theorem fractionPart_run {ds r : Bytes} (run : Run ds) (stop : startsWithDigit r = false)
    (positive : Bool) (n : Nat) (e : Int) :
    fractionPart positive n e (ds ++ r) =
      scaledPart positive (takeDigits n 0 ds).value (e - (takeDigits n 0 ds).count) r := by
  obtain ⟨taken, whole, counted⟩ := takeDigits_rest n 0 ds
  simp only [fractionPart, takeDigits_digits run.2 stop]
  generalize takeDigits n 0 ds = d at whole counted
  cases hrest : d.rest with
  | nil =>
    have some_ : d.count ≠ 0 := by
      rw [hrest, List.append_nil] at whole
      have := List.length_pos_iff.mpr run.1
      rw [whole] at this
      omega
    simp only [List.nil_append, stop, if_neg some_, Bool.false_eq_true, if_false]
  | cons b rest =>
    have digits : ∀ c ∈ b :: rest, isDigit c = true := fun c hc =>
      run.2 c (by rw [whole, hrest]; exact List.mem_append_right taken hc)
    simp only [List.cons_append, startsWithDigit_cons, digits b List.mem_cons_self, if_true]
    rw [← List.cons_append, dropDigits_digits digits stop]

theorem afterInteger_point (positive : Bool) (n : Nat) (s : Bytes) :
    afterInteger positive n (byte '.' :: s) = fractionPart positive n 0 s := by
  rw [afterInteger, if_pos rfl]

theorem afterLongInteger_point (positive : Bool) (n : Nat) (e : Int) (s : Bytes) :
    afterLongInteger positive n e (byte '.' :: s) = fractionPart positive n e s := by
  rw [afterLongInteger, if_pos rfl]

/-- What is read behind an integer part whose digits have given `d`. -/
def afterDigits (positive : Bool) (d : Digits) (s : Bytes) : Scan Number :=
  if d.rest.isEmpty then afterInteger positive d.value s
  else afterLongInteger positive d.value d.rest.length s

theorem scanNumber_whole {ds r : Bytes} (h : Whole ds) (stop : startsWithDigit r = false)
    (positive : Bool) :
    scanNumber positive (ds ++ r) = afterDigits positive (takeDigits 0 0 ds) r := by
  obtain ⟨run, lead⟩ := h
  cases ds with
  | nil => exact absurd rfl run.1
  | cons b ds =>
    have digit := run.2 b List.mem_cons_self
    have digits := fun x hx => run.2 x (List.mem_cons_of_mem b hx)
    rw [List.cons_append, scanNumber, takeDigits_first digit]
    split
    · rename_i zero
      obtain ⟨-, rfl⟩ := List.cons.inj (lead (congrArg some zero))
      rw [List.nil_append, stop, if_neg (by decide), zero]
      rfl
    · obtain ⟨taken, whole, -⟩ := takeDigits_rest (digitValue b) 0 ds
      simp only [takeDigits_digits digits stop, afterDigits]
      generalize takeDigits (digitValue b) 0 ds = d at whole
      cases hrest : d.rest with
      | nil => simp [stop]
      | cons c rest =>
        have left : ∀ x ∈ c :: rest, isDigit x = true := fun x hx =>
          digits x (by rw [whole, hrest]; exact List.mem_append_right taken hx)
        have skipped := dropDigits_digits left stop d.value 0
        simp only [List.cons_append] at skipped ⊢
        simp [left c List.mem_cons_self, skipped]

theorem afterDigits_fraction {ds r : Bytes} {x : Option Exponent} (run : Run ds)
    (h : Stops (some ds) x r) (positive : Bool) (d : Digits) :
    (afterDigits positive d (fractionText (some ds) ++ (scaleText x ++ r))).toOption =
      (scaled? positive (takeDigits d.value 0 ds).value
        (d.rest.length - (takeDigits d.value 0 ds).count) x).map (·, r) := by
  have stop := startsWithDigit_scale h
  rw [fractionText, List.cons_append, afterDigits]
  split
  · rename_i exact_
    rw [List.isEmpty_iff.mp exact_, afterInteger_point, fractionPart_run run stop,
      scaledPart_scale h]
    rfl
  · rw [afterLongInteger_point, fractionPart_run run stop, scaledPart_scale h]

theorem afterInteger_plain {x : Option Exponent} {r : Bytes} (h : Stops none x r)
    (positive : Bool) (n : Nat) :
    (afterInteger positive n (scaleText x ++ r)).toOption =
      (if x.isNone then some (integer positive n) else scaled? positive n 0 x).map (·, r) := by
  cases x with
  | none =>
    cases r with
    | nil => rfl
    | cons b r =>
      have letter := h.letter rfl b rfl
      rw [scaleText, List.nil_append, afterInteger, if_neg (h.point rfl rfl b rfl),
        if_neg (by simp [letter])]
      rfl
  | some x =>
    have point := head?_scale_ne_point h x.letter rfl
    rw [scaleText, List.cons_append, afterInteger, if_neg point, if_pos x.isLetter,
      List.append_assoc]
    exact exponentPart_run x h.digit positive n 0

theorem afterLongInteger_plain {x : Option Exponent} {r : Bytes} (h : Stops none x r)
    (positive : Bool) (n : Nat) (e : Int) :
    (afterLongInteger positive n e (scaleText x ++ r)).toOption =
      (scaled? positive n e x).map (·, r) := by
  have point := head?_scale_ne_point h
  have scaled := scaledPart_scale h positive n e
  generalize scaleText x ++ r = s at point scaled
  cases s with
  | nil => exact scaled
  | cons b s => rw [afterLongInteger, if_neg (point b rfl), scaled]

/-- What is read from a numeral, if anything is, is the number that it denotes. -/
theorem scanNumber_unsigned (n : Numeral) {r : Bytes} (h : Stops n.fraction n.exponent r) :
    (scanNumber n.positive (n.unsigned ++ r)).toOption = n.number?.map (·, r) := by
  rw [Numeral.unsigned, List.append_assoc, List.append_assoc,
    scanNumber_whole n.isWhole (startsWithDigit_fraction h), Numeral.number?]
  generalize takeDigits 0 0 n.whole = d
  cases fraction : n.fraction with
  | some ds =>
    rw [fraction] at h
    exact afterDigits_fraction (n.fractionRun ds fraction) h n.positive d
  | none =>
    rw [fraction] at h
    rw [fractionText, List.nil_append, afterDigits]
    cases hrest : d.rest with
    | nil =>
      rw [List.isEmpty_nil, if_pos rfl, afterInteger_plain h]
      cases n.exponent <;> rfl
    | cons b rest =>
      rw [if_neg (by simp), afterLongInteger_plain h]
      simp [takeDigits]

/-! ### Whatever is read could be passed over -/

section

variable {positive : Bool} {n : Nat} {start e : Int} {s r : Bytes} {a : Number}

theorem skipExponent_of_exponentPart (h : exponentPart positive n start s = .ok (a, r)) :
    ∃ u, skipExponent s = .ok ((), u) := by
  have digit : startsWithDigit (afterSign s) = true := by
    simp only [exponentPart] at h
    split at h
    · simp [fail] at h
    · rename_i b t after
      rw [afterSign, after]
      split at h
      · assumption
      · simp [failAt] at h
  exact ⟨_, by simp only [skipExponent, digit, if_true]; rfl⟩

theorem skipScale_of_scaledPart (h : scaledPart positive n e s = .ok (a, r)) :
    ∃ u, skipScale s = .ok ((), u) := by
  cases s with
  | nil => exact ⟨[], rfl⟩
  | cons b s =>
    simp only [scaledPart] at h
    simp only [skipScale]
    split at h
    · rename_i letter
      rw [if_pos letter]
      exact skipExponent_of_exponentPart h
    · rename_i letter
      exact ⟨_, if_neg letter⟩

theorem skipFraction_of_fractionPart (h : fractionPart positive n e s = .ok (a, r)) :
    ∃ u, skipFraction (byte '.' :: s) = .ok ((), u) := by
  cases digits : startsWithDigit s with
  | true =>
    obtain ⟨ds, t, run, stop, rfl⟩ := exists_run digits
    rw [fractionPart_run run stop] at h
    rw [skipFraction, if_pos rfl, if_pos digits, dropWhile_digits run.2 stop]
    exact skipScale_of_scaledPart h
  | false =>
    have none_ : takeDigits n 0 s = ⟨n, 0, s⟩ := @takeDigits_digits [] s (by simp) digits n 0
    simp only [fractionPart, none_, digits, Bool.false_eq_true, if_false, if_true] at h
    split at h <;> simp [fail, failAt] at h

theorem skipFraction_of_afterInteger (h : afterInteger positive n s = .ok (a, r)) :
    ∃ u, skipFraction s = .ok ((), u) := by
  cases s with
  | nil => exact ⟨[], rfl⟩
  | cons b s =>
    simp only [afterInteger] at h
    split at h
    · rename_i point
      rw [point]
      exact skipFraction_of_fractionPart h
    · rename_i point
      rw [skipFraction, if_neg point, skipScale]
      split at h
      · rename_i letter
        rw [if_pos letter]
        exact skipExponent_of_exponentPart h
      · rename_i letter
        exact ⟨_, if_neg letter⟩

theorem skipFraction_of_afterLongInteger (h : afterLongInteger positive n e s = .ok (a, r)) :
    ∃ u, skipFraction s = .ok ((), u) := by
  cases s with
  | nil => exact ⟨[], rfl⟩
  | cons b s =>
    simp only [afterLongInteger] at h
    split at h
    · rename_i point
      rw [point]
      exact skipFraction_of_fractionPart h
    · rename_i point
      rw [skipFraction, if_neg point]
      exact skipScale_of_scaledPart h

theorem whole_of_scanNumber (h : scanNumber positive s = .ok (a, r)) :
    ∃ ds t, Whole ds ∧ startsWithDigit t = false ∧ s = ds ++ t := by
  cases s with
  | nil => simp [scanNumber, fail] at h
  | cons b s =>
    simp only [scanNumber] at h
    split at h
    · rename_i zero
      subst zero
      split at h
      · simp [failAt] at h
      · exact whole_zero ‹_›
    · rename_i nonzero
      split at h
      · exact whole_nonzero ‹_› nonzero
      · simp [failAt] at h

theorem skipNumber_of_scanNumber (h : scanNumber positive s = .ok (a, r)) :
    ∃ u, skipNumber s = .ok ((), u) := by
  obtain ⟨ds, t, isWhole, stop, rfl⟩ := whole_of_scanNumber h
  rw [scanNumber_whole isWhole stop, afterDigits] at h
  rw [skipNumber_whole isWhole stop]
  split at h
  · exact skipFraction_of_afterInteger h
  · exact skipFraction_of_afterLongInteger h

end

/-- A number is read from a numeral that denotes it and from nothing else. -/
theorem scanNumber_iff {positive : Bool} {s r : Bytes} {a : Number} :
    scanNumber positive s = .ok (a, r) ↔ ∃ n : Numeral, n.positive = positive ∧
      s = n.unsigned ++ r ∧ Stops n.fraction n.exponent r ∧ n.number? = some a := by
  constructor
  · intro h
    obtain ⟨u, skipped⟩ := skipNumber_of_scanNumber h
    obtain ⟨n, rfl, rfl, stops⟩ := skipNumber_gives skipped positive
    have read := scanNumber_unsigned n stops
    rw [h] at read
    obtain ⟨b, value, same⟩ := Option.map_eq_some_iff.mp read.symm
    cases same
    exact ⟨n, rfl, rfl, stops, value⟩
  · rintro ⟨n, rfl, rfl, stops, value⟩
    have read := scanNumber_unsigned n stops
    rw [value] at read
    cases found : scanNumber n.positive (n.unsigned ++ r) with
    | error e => rw [found] at read; cases read
    | ok b => rw [found] at read; cases read; rfl

end ColumnMap.Json
