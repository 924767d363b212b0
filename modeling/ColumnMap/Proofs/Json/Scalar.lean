import ColumnMap.Proofs.Json.Grammar
import ColumnMap.Proofs.Json.Printing
import ColumnMap.Proofs.Toml.Integer

/-!
What the printer writes for values without parts, as texts of the grammar. An integer is printed as
a numeral that denotes exactly it, up to the ends of what 64 bits hold with and without a sign.
-/

namespace ColumnMap.Json

/-! ### Strings -/

theorem stringText_quoted (s : String) : StringText (quoted s) s := by
  obtain ⟨t, text, whole⟩ := scanString_iff.mp (scanString_printed s [])
  rw [List.append_nil] at whole
  rw [quoted_eq, whole]
  exact text

/-! ### Integers -/

theorem toNat_digit {c : Char} (h : c.isDigit = true) : 48 ≤ c.toNat ∧ c.toNat ≤ 57 := by
  simp only [Char.isDigit, Bool.and_eq_true, decide_eq_true_eq, ge_iff_le,
    UInt32.le_iff_toNat_le] at h
  exact h

theorem encode_digits {ds : List Char} (h : ∀ c ∈ ds, c.isDigit = true) :
    encode ds = ds.map byte := by
  induction ds with
  | nil => rfl
  | cons c ds ih =>
    have := toNat_digit (h c List.mem_cons_self)
    rw [encode_ascii (by omega), ih fun d hd => h d (List.mem_cons_of_mem c hd), List.map_cons]

theorem digit_byte {c : Char} (h : c.isDigit = true) :
    isDigit (byte c) = true ∧ digitValue (byte c) = c.toNat - '0'.toNat := by
  have bounds := toNat_digit h
  have same := toNat_byte (c := c) (by omega)
  have zero : (byte '0').toNat = 48 := rfl
  have nine : (byte '9').toNat = 57 := rfl
  refine ⟨?_, by rw [digitValue, same]; rfl⟩
  simp only [isDigit, Bool.and_eq_true, decide_eq_true_eq, UInt8.le_iff_toNat_le, zero, nine, same]
  exact bounds

theorem digitsFrom_map {ds : List Char} (h : ∀ c ∈ ds, c.isDigit = true) (n : Nat) :
    digitsFrom n (ds.map byte) = Nat.ofDigitChars 10 ds n := by
  induction ds generalizing n with
  | nil => rfl
  | cons c ds ih =>
    have step := ih (fun d hd => h d (List.mem_cons_of_mem c hd)) (n * 10 + digitValue (byte c))
    rw [Nat.ofDigitChars_cons, ← (digit_byte (h c List.mem_cons_self)).2, Nat.mul_comm 10 n, ← step]
    rfl

theorem takeDigits_fits {ds : Bytes} (h : ∀ b ∈ ds, isDigit b = true) {n : Nat}
    (fits : digitsFrom n ds ≤ maxWord) (count : Nat) :
    (takeDigits n count ds).value = digitsFrom n ds ∧ (takeDigits n count ds).rest = [] := by
  induction ds generalizing n count with
  | nil => exact ⟨rfl, rfl⟩
  | cons b ds ih =>
    have next : n * 10 + digitValue b ≤ maxWord := Nat.le_trans (le_digitsFrom _ ds) fits
    have step := ih (fun c hc => h c (List.mem_cons_of_mem b hc)) fits (count + 1)
    simp only [takeDigits, h b List.mem_cons_self, next, decide_true, Bool.and_self, if_true]
    exact step

/-- The digits of a number, in bytes. -/
def digitBytes (n : Nat) : Bytes := encode (Nat.toDigits 10 n)

theorem isDigit_of_mem (n : Nat) : ∀ c ∈ Nat.toDigits 10 n, c.isDigit = true :=
  fun _ => Nat.isDigit_of_mem_toDigits (by decide) (by decide)

theorem whole_digitBytes (n : Nat) : Whole (digitBytes n) := by
  rw [digitBytes, encode_digits (isDigit_of_mem n)]
  refine ⟨⟨by simp [Nat.toDigits_ne_nil], ?_⟩, fun zero => ?_⟩
  · simp only [List.mem_map]
    rintro _ ⟨c, hc, rfl⟩
    exact (digit_byte (isDigit_of_mem n c hc)).1
  · rw [List.head?_map, Option.map_eq_some_iff] at zero
    obtain ⟨c, first, same⟩ := zero
    have := toNat_digit (isDigit_of_mem n c (List.mem_of_head? first))
    obtain rfl : c = '0' := (byte_inj (by omega) (by decide)).mp same
    have none_ : n = 0 := by
      by_contra nonzero
      exact Toml.head?_toDigits nonzero first
    rw [none_]
    rfl

theorem digitsFrom_digitBytes (n : Nat) : digitsFrom 0 (digitBytes n) = n := by
  rw [digitBytes, encode_digits (isDigit_of_mem n), digitsFrom_map (isDigit_of_mem n),
    Nat.ofDigitChars_toDigits (by decide) (by decide)]

/-- The numeral that is printed for an integer. -/
def Numeral.ofInt (n : Int) : Numeral where
  positive := decide (0 ≤ n)
  whole := digitBytes n.natAbs
  fraction := none
  exponent := none
  isWhole := whole_digitBytes n.natAbs
  fractionRun := by simp

theorem text_ofInt (n : Int) : (Numeral.ofInt n).text = encode (Number.intText n) := by
  have unsigned : (Numeral.ofInt n).unsigned = digitBytes n.natAbs := List.append_nil _
  rw [Numeral.text, unsigned, Number.intText]
  by_cases negative : n < 0
  · rw [if_neg (by simpa [Numeral.ofInt] using negative), if_pos negative, encode_ascii (by decide)]
    rfl
  · rw [if_pos (by simpa [Numeral.ofInt] using negative), if_neg negative]
    rfl

/-- Every integer of 64 bits, signed or unsigned, is read exactly. -/
theorem number?_ofInt {n : Int} (h : Number.InRange n) :
    (Numeral.ofInt n).number? = some (.int n) := by
  have fits : digitsFrom 0 (digitBytes n.natAbs) ≤ maxWord := by
    rw [digitsFrom_digitBytes]
    simp only [Number.InRange] at h
    have : maxWord = 18446744073709551615 := rfl
    have : UInt64.size = 18446744073709551616 := rfl
    have : Nat.pow 2 63 = 9223372036854775808 := rfl
    omega
  obtain ⟨value, rest⟩ := takeDigits_fits (whole_digitBytes n.natAbs).run.2 fits 0
  rw [digitsFrom_digitBytes] at value
  have exact_ : (Numeral.ofInt n).number? = some (integer (decide (0 ≤ n)) n.natAbs) := by
    simp [Numeral.number?, Numeral.ofInt, value, rest]
  rw [exact_, integer]
  by_cases positive : 0 ≤ n
  · rw [if_pos (by simpa using positive), Int.natAbs_of_nonneg positive]
  · have small : 0 < n.natAbs ∧ n.natAbs ≤ Nat.pow 2 63 := by
      simp only [Number.InRange] at h
      omega
    have negated : -(n.natAbs : Int) = n := by omega
    rw [if_neg (by simpa using positive), if_pos small, negated]

/-! ### Lists on one line -/

/-- Items printed on one line, as a row without gaps. -/
theorem encode_compactItems (items : List Json) :
    encode (compactItems items) = row [] (items.map fun v => encode (compactChars v)) := by
  induction items with
  | nil => simp [compactItems, row]
  | cons v items ih =>
    cases items with
    | nil => simp [compactItems, row]
    | cons u items =>
      rw [compactItems, encode_append, encode_ascii (by decide), ih]
      · rfl
      · simp

end ColumnMap.Json
