import ColumnMap.Toml.Number

/-!
Decimal digits at the end of a line are read as their number, if it is one of 63 bits, and are
refused otherwise. They are never taken for a date, a time, a float or a number of another base.
-/

namespace ColumnMap.Toml

/-! ### Digits -/

theorem isDigit_eq (c : Char) : isDigit c = c.isDigit := by
  simp only [isDigit, Char.isDigit]
  rfl

theorem isDigit_toDigits {n : Nat} {c : Char} (h : c ∈ Nat.toDigits 10 n) : isDigit c = true := by
  rw [isDigit_eq]
  exact Nat.isDigit_of_mem_toDigits (by decide) (by decide) h

/-- Only zero begins with a zero. -/
theorem head?_toDigits {n : Nat} (h : n ≠ 0) : (Nat.toDigits 10 n).head? ≠ some '0' := by
  induction n using Nat.strongRecOn with
  | ind n ih =>
    rw [Nat.toDigits_eq_if (by decide)]
    split
    case isTrue small =>
      have all : ∀ k : Fin 10, k.val ≠ 0 → [k.val.digitChar].head? ≠ some '0' := by decide
      exact all ⟨n, small⟩ h
    case isFalse large =>
      have tenth : n / 10 ≠ 0 := by omega
      have first := ih (n / 10) (by omega) tenth
      cases digits : Nat.toDigits 10 (n / 10) with
      | nil => exact absurd digits Nat.toDigits_ne_nil
      | cons c ds =>
        rw [digits] at first
        exact first

theorem hexValue?_isDigit {c : Char} (h : isDigit c = true) :
    hexValue? c = some (c.toNat - '0'.toNat) := if_pos h

theorem natOf_digits {digits : List Char} (h : ∀ c ∈ digits, isDigit c = true) (n : Nat) :
    digits.foldl (fun n c => 10 * n + (hexValue? c).getD 0) n = Nat.ofDigitChars 10 digits n := by
  induction digits generalizing n with
  | nil => rfl
  | cons c digits ih =>
    rw [List.foldl_cons, hexValue?_isDigit (h c List.mem_cons_self),
      ih fun d hd => h d (List.mem_cons_of_mem c hd)]
    rfl

theorem natOf_toDigits (n : Nat) : natOf 10 (Nat.toDigits 10 n) = n := by
  rw [natOf, natOf_digits fun c => isDigit_toDigits, Nat.ofDigitChars_toDigits (by decide) (by decide)]

section

variable {digits : List Char} (h : ∀ c ∈ digits, isDigit c = true) (rest : Input)

include h

theorem digitRun_digits :
    digitRun isDigit (digits ++ '\n' :: rest) = .ok (digits, '\n' :: rest) := by
  induction digits with
  | nil => rfl
  | cons c digits ih =>
    have digit := h c List.mem_cons_self
    have run := ih fun d hd => h d (List.mem_cons_of_mem c hd)
    rw [List.cons_append, digitRun, if_pos digit, run]
    rintro d r rfl
    exact absurd digit (by decide)

/-! ### Neither a date nor a time -/

/-- What follows some of the digits is one more, or the line ends. -/
theorem fixedDigits?_digits {count n : Nat} {r : Input}
    (taken : fixedDigits? count (digits ++ '\n' :: rest) = some (n, r)) :
    ∃ c t, r = c :: t ∧ (isDigit c = true ∨ c = '\n') := by
  rw [fixedDigits?] at taken
  split at taken
  case isFalse => cases taken
  case isTrue some_ =>
    simp only [Option.some.injEq, Prod.mk.injEq] at taken
    rw [← taken.2]
    simp only [Bool.and_eq_true, decide_eq_true_eq, List.all_eq_true] at some_
    by_cases inside : count ≤ digits.length
    · rw [List.drop_append_of_le_length inside]
      cases more : digits.drop count with
      | nil => exact ⟨'\n', rest, rfl, .inr rfl⟩
      | cons c t =>
        have member : c ∈ digits := List.mem_of_mem_drop (more ▸ List.mem_cons_self)
        exact ⟨c, t ++ '\n' :: rest, rfl, .inl (h c member)⟩
    · -- The end of the line would be one of the digits.
      have line : '\n' ∈ (digits ++ '\n' :: rest).take count := by
        obtain ⟨k, more⟩ : ∃ k, count - digits.length = k + 1 := ⟨count - digits.length - 1, by omega⟩
        rw [List.take_append, more, List.take_succ_cons]
        simp
      exact absurd (some_.2 _ line) (by decide)

theorem dateTime?_digits : dateTime? (digits ++ '\n' :: rest) = .ok none := by
  have date : date? (digits ++ '\n' :: rest) = .ok none := by
    unfold date?
    split
    case h_1 year r taken =>
      obtain ⟨c, t, eq, sign⟩ := fixedDigits?_digits h rest taken
      injection eq with eq
      subst eq
      exact absurd sign (by decide)
    case h_2 => rfl
  have time : time? (digits ++ '\n' :: rest) = .ok none := by
    unfold time?
    split
    case h_1 hour r taken =>
      rw [twoDigits?] at taken
      split at taken
      case h_2 => cases taken
      case h_1 n t two =>
        split at taken
        case isFalse => cases taken
        case isTrue =>
          obtain ⟨c, u, eq, sign⟩ := fixedDigits?_digits h rest two
          simp only [Option.some.injEq, Prod.mk.injEq] at taken
          rw [taken.2, List.cons.injEq] at eq
          rw [← eq.1] at sign
          exact absurd sign (by decide)
    case h_2 => rfl
  rw [dateTime?, date]
  exact time

end

/-! ### The number -/

theorem toDigits_eq_cons (n : Nat) :
    ∃ c ds, Nat.toDigits 10 n = c :: ds ∧ isDigit c = true := by
  cases digits : Nat.toDigits 10 n with
  | nil => exact absurd digits Nat.toDigits_ne_nil
  | cons c ds => exact ⟨c, ds, rfl, isDigit_toDigits (n := n) (digits ▸ List.mem_cons_self)⟩

theorem wholeDigits_toDigits (n : Nat) (rest : Input) :
    wholeDigits (Nat.toDigits 10 n ++ '\n' :: rest) = .ok (Nat.toDigits 10 n, '\n' :: rest) := by
  by_cases zero : n = 0
  · subst zero
    rfl
  · have run := digitRun_digits (fun c => isDigit_toDigits (n := n)) rest
    have first := head?_toDigits zero
    obtain ⟨c, ds, digits, digit⟩ := toDigits_eq_cons n
    rw [digits] at run first ⊢
    rw [List.cons_append] at run ⊢
    rw [wholeDigits, if_pos digit, run]
    rintro rfl
    exact first rfl

theorem sign_digit {c : Char} (h : isDigit c = true) (s : Input) :
    sign (c :: s) = (false, c :: s) := by
  rw [sign]
  · rintro r minus
    rw [(List.cons.inj minus).1] at h
    exact absurd h (by decide)
  · rintro r plus
    rw [(List.cons.inj plus).1] at h
    exact absurd h (by decide)

theorem decimal_toDigits (n : Nat) (rest : Input) :
    decimal (Nat.toDigits 10 n ++ '\n' :: rest) =
      makeInteger (Nat.toDigits 10 n ++ '\n' :: rest) n ('\n' :: rest) := by
  have unsigned : sign (Nat.toDigits 10 n ++ '\n' :: rest) =
      (false, Nat.toDigits 10 n ++ '\n' :: rest) := by
    obtain ⟨c, ds, digits, digit⟩ := toDigits_eq_cons n
    rw [digits, List.cons_append, sign_digit digit]
  rw [decimal, unsigned]
  simp [wholeDigits_toDigits, exponent?, natOf_toDigits]

/-- Digits at the end of a line are read as one decimal number. -/
theorem number_toDigits (n : Nat) (rest : Input) :
    number (Nat.toDigits 10 n ++ '\n' :: rest) =
      makeInteger (Nat.toDigits 10 n ++ '\n' :: rest) n ('\n' :: rest) := by
  have noDate := dateTime?_digits (fun c => isDigit_toDigits (n := n)) rest
  have whole := decimal_toDigits n rest
  obtain ⟨c, ds, digits, digit⟩ := toDigits_eq_cons n
  have more : ∀ d ∈ ds, isDigit d = true := fun d hd =>
    isDigit_toDigits (n := n) (digits ▸ List.mem_cons_of_mem c hd)
  rw [digits] at noDate whole ⊢
  rw [List.cons_append] at noDate whole ⊢
  -- A digit or the end of the line comes second, so no other base is named.
  have second : ∀ d r, ds ++ '\n' :: rest = d :: r → isDigit d = true ∨ d = '\n' := by
    intro d r eq
    cases ds with
    | nil => exact .inr (List.cons.inj eq).1.symm
    | cons e ds => exact .inl ((List.cons.inj eq).1 ▸ more e List.mem_cons_self)
  unfold number
  simp only [noDate, sign_digit digit]
  split
  case h_1 r hex =>
    exact absurd (second 'x' r (List.cons.inj hex).2) (by decide)
  case h_2 r octal =>
    exact absurd (second 'o' r (List.cons.inj octal).2) (by decide)
  case h_3 r binary =>
    exact absurd (second 'b' r (List.cons.inj binary).2) (by decide)
  case h_4 r inf _ _ _ =>
    rw [(List.cons.inj inf).1] at digit
    exact absurd digit (by decide)
  case h_5 r nan _ _ _ =>
    rw [(List.cons.inj nan).1] at digit
    exact absurd digit (by decide)
  case h_6 => exact whole

theorem fits_natCast (n : Nat) : fits (n : Int) = true ↔ n < Nat.pow 2 63 := by
  simp only [fits, Bool.and_eq_true, decide_eq_true_eq]
  omega

end ColumnMap.Toml
