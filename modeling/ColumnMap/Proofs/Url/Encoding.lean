import ColumnMap.Proofs.Json.Characters
import ColumnMap.Url.Path

/-!
Percent-encoded text can be taken back, if percent signs are encoded too. What is written for one
segment of a path separates nothing, and it names a dot only where the text itself is dots.
-/

namespace ColumnMap.Url

/-! ### Decoding -/

theorem hexValue?_hexDigitUpper {n : Nat} (h : n < 16) : hexValue? (hexDigitUpper n) = some n := by
  have all : ∀ k : Fin 16, hexValue? (hexDigitUpper k) = some k.val := by decide
  exact all ⟨n, h⟩

/-- The three characters for a byte are taken as this byte. -/
theorem decode_percentByte (b : UInt8) (rest : List Char) :
    decode (percentByte b ++ rest) = b :: decode rest := by
  have bound : b.toNat < 256 := b.toNat_lt
  have high : b.toNat / 16 < 16 := by omega
  have low : b.toNat % 16 < 16 := by omega
  have whole : 16 * (b.toNat / 16) + b.toNat % 16 = b.toNat := by omega
  rw [percentByte, List.cons_append, List.cons_append, List.singleton_append, decode,
    hexValue?_hexDigitUpper high, hexValue?_hexDigitUpper low]
  simp only [whole, UInt8.ofNat_toNat]

theorem decode_percentBytes (bytes : List UInt8) (rest : List Char) :
    decode (bytes.flatMap percentByte ++ rest) = bytes ++ decode rest := by
  induction bytes with
  | nil => rfl
  | cons b bytes ih =>
    rw [List.flatMap_cons, List.append_assoc, decode_percentByte, ih, List.cons_append]

/-- A character other than a percent sign stands for itself. -/
theorem decode_cons {c : Char} (h : c ≠ '%') (rest : List Char) :
    decode (c :: rest) = String.utf8EncodeChar c ++ decode rest := by
  rw [decode]
  intro a b r percent
  exact absurd percent h

/-! ### What is written for a character -/

/-- Either the character itself is written, or its bytes are. -/
theorem encode_cons (escaped : Char → Bool) (c : Char) (s : List Char) :
    c.toNat < 0x80 ∧ escaped c = false ∧ encode escaped (c :: s) = c :: encode escaped s ∨
    (0x80 ≤ c.toNat ∨ escaped c = true) ∧
      encode escaped (c :: s) = percentChar c ++ encode escaped s := by
  simp only [encode, List.flatMap_cons]
  split
  case isTrue literal =>
    simp only [Bool.and_eq_true, decide_eq_true_eq, Bool.not_eq_true'] at literal
    exact .inl ⟨literal.1, literal.2, rfl⟩
  case isFalse literal =>
    refine .inr ⟨?_, rfl⟩
    by_cases ascii : c.toNat < 0x80
    · exact .inr (by simpa [ascii] using literal)
    · exact .inl (Nat.le_of_not_lt ascii)

/-- Where percent signs are encoded, decoding gives the bytes of the text. -/
theorem decode_encode {escaped : Char → Bool} (h : escaped '%' = true) (s : List Char) :
    decode (encode escaped s) = Json.encode s := by
  induction s with
  | nil => rfl
  | cons c s ih =>
    rw [Json.encode_cons, ← ih]
    rcases encode_cons escaped c s with ⟨_, literal, written⟩ | ⟨_, written⟩
    · have other : c ≠ '%' := by
        rintro rfl
        simp [h] at literal
      rw [written, decode_cons other]
    · rw [written, percentChar, decode_percentBytes]

/-- The characters that stand for bytes. -/
def isPercentText (c : Char) : Bool := c == '%' || (hexValue? c).isSome

theorem isPercentText_percentByte {b : UInt8} {c : Char} (h : c ∈ percentByte b) :
    isPercentText c = true := by
  have bound : b.toNat < 256 := b.toNat_lt
  simp only [percentByte, List.mem_cons, List.not_mem_nil, or_false] at h
  rcases h with rfl | rfl | rfl
  · rfl
  · simp [isPercentText, hexValue?_hexDigitUpper (show b.toNat / 16 < 16 by omega)]
  · simp [isPercentText, hexValue?_hexDigitUpper (show b.toNat % 16 < 16 by omega)]

/-- Encoded text consists of what is not encoded, and of what stands for bytes. -/
theorem mem_encode {escaped : Char → Bool} {s : List Char} {c : Char} (h : c ∈ encode escaped s) :
    (c ∈ s ∧ escaped c = false) ∨ isPercentText c = true := by
  obtain ⟨d, member, written⟩ := List.mem_flatMap.mp h
  split at written
  case isTrue literal =>
    rw [List.mem_singleton] at written
    subst written
    simp only [Bool.and_eq_true, decide_eq_true_eq, Bool.not_eq_true'] at literal
    exact .inl ⟨member, literal.2⟩
  case isFalse =>
    obtain ⟨b, _, inByte⟩ := List.mem_flatMap.mp written
    exact .inr (isPercentText_percentByte inByte)

/-! ### One segment -/

/-- What stands inside one segment: neither a slash nor the mark of a query or a fragment. -/
def Single (s : List Char) : Prop := ∀ c ∈ s, c ≠ '/' ∧ c ≠ '?' ∧ c ≠ '#'

/-- A text that is encoded as one segment is one segment, whatever it holds. -/
theorem single_encode_inSegment (special : Bool) (s : List Char) :
    Single (encode (inSegment special) s) := by
  intro c member
  rcases mem_encode member with ⟨_, literal⟩ | percent
  · refine ⟨?_, ?_, ?_⟩ <;>
      (rintro rfl; cases special <;> exact absurd literal (by decide))
  · refine ⟨?_, ?_, ?_⟩ <;> (rintro rfl; exact absurd percent (by decide))

theorem toNat_lt_of_isAlphanum {c : Char} (h : c.isAlphanum = true) : c.toNat < 0x80 := by
  have ranges : (((c.val ≥ 65 ∧ c.val ≤ 90 : Bool) || (c.val ≥ 97 && c.val ≤ 122)) ||
      (c.val ≥ 48 && c.val ≤ 57)) = true := h
  simp only [Bool.or_eq_true, Bool.and_eq_true, decide_eq_true_eq, UInt32.le_iff_toNat_le] at ranges
  have number : c.toNat = c.val.toNat := rfl
  have bounds : (90 : UInt32).toNat = 90 ∧ (122 : UInt32).toNat = 122 ∧ (57 : UInt32).toNat = 57 :=
    ⟨rfl, rfl, rfl⟩
  omega

theorem literal_of_isAlphanum (special : Bool) {c : Char} (h : c.isAlphanum = true) :
    inSegment special c = false ∧ isIgnored c = false := by
  have all : ∀ k : Fin 128, (Char.ofNat k).isAlphanum = true → ∀ special : Bool,
      inSegment special (Char.ofNat k) = false ∧ isIgnored (Char.ofNat k) = false := by decide
  have known := all ⟨c.toNat, toNat_lt_of_isAlphanum h⟩
  simp only [Char.ofNat_toNat] at known
  exact known h special

/-- Words of letters and digits stand for themselves. -/
theorem encode_word (special : Bool) {s : List Char} (h : ∀ c ∈ s, c.isAlphanum = true) :
    encode (inSegment special) s = s := by
  induction s with
  | nil => rfl
  | cons c s ih =>
    have word := h c List.mem_cons_self
    have literal := (literal_of_isAlphanum special word).1
    rcases encode_cons (inSegment special) c s with ⟨_, _, written⟩ | ⟨sign, _⟩
    · rw [written, ih fun d hd => h d (List.mem_cons_of_mem c hd)]
    · rw [literal] at sign
      have := toNat_lt_of_isAlphanum word
      rcases sign with far | ⟨⟨⟩⟩
      omega

/-! ### Dots -/

theorem dots?_percentByte {b : UInt8} (h : b ≠ 0x2E) (rest : List Char) :
    dots? (percentByte b ++ rest) = none := by
  have bound : b.toNat < 256 := b.toNat_lt
  have high := hexValue?_hexDigitUpper (show b.toNat / 16 < 16 by omega)
  have low := hexValue?_hexDigitUpper (show b.toNat % 16 < 16 by omega)
  have other : ∀ r e, hexValue? e = some 14 → percentByte b ++ rest ≠ '%' :: '2' :: e :: r := by
    intro r e he written
    simp only [percentByte, List.cons_append, List.nil_append, List.cons.injEq, true_and] at written
    rw [written.1] at high
    rw [written.2.1, he] at low
    have two : 2 = b.toNat / 16 := Option.some.inj high
    have fourteen : 14 = b.toNat % 16 := Option.some.inj low
    apply h
    rw [← UInt8.toNat_inj]
    show b.toNat = 46
    omega
  apply dots?.eq_5
  · simp [percentByte]
  · simp [percentByte]
  · exact fun r => other r 'e' (by decide)
  · exact fun r => other r 'E' (by decide)

/-- A dot is never written as its byte, and no other character has this byte in front. -/
theorem dots?_percentChar {c : Char} (h : c ≠ '.') (rest : List Char) :
    dots? (percentChar c ++ rest) = none := by
  cases hc : String.utf8EncodeChar c with
  | nil => exact absurd hc String.utf8EncodeChar_ne_nil
  | cons b bytes =>
    have other : b ≠ 0x2E := by
      by_cases ascii : c.toNat < 0x80
      · rw [Json.utf8EncodeChar_ascii ascii, List.cons.injEq] at hc
        rw [← hc.1, show (0x2E : UInt8) = Json.byte '.' from rfl, Ne,
          Json.byte_inj ascii (by decide)]
        exact h
      · have far := Json.le_of_mem_utf8EncodeChar (Nat.le_of_not_lt ascii)
          (hc ▸ List.mem_cons_self : b ∈ String.utf8EncodeChar c)
        rintro rfl
        exact absurd far (by decide)
    rw [percentChar, hc, List.flatMap_cons, List.append_assoc, dots?_percentByte other]

theorem dots?_cons {c : Char} (dot : c ≠ '.') (percent : c ≠ '%') (rest : List Char) :
    dots? (c :: rest) = none := by
  apply dots?.eq_5 <;> simp [dot, percent]

/-- A text is written as dots only if it is dots. -/
theorem dots?_encode (special : Bool) (s : List Char) (n : Nat) :
    dots? (encode (inSegment special) s) = some n ↔ s = List.replicate n '.' := by
  induction s generalizing n with
  | nil => cases n <;> simp [dots?, List.replicate_succ]
  | cons c s ih =>
    have whole : c :: s = List.replicate n '.' ↔
        c = '.' ∧ ∃ m, m + 1 = n ∧ s = List.replicate m '.' := by
      cases n with
      | zero => simp
      | succ m => simp [List.replicate_succ]
    rw [whole]
    rcases encode_cons (inSegment special) c s with ⟨_, literal, written⟩ | ⟨sign, written⟩
    · rw [written]
      by_cases dot : c = '.'
      · subst dot
        simp [dots?, ih, and_comm]
      · have percent : c ≠ '%' := by
          rintro rfl
          cases special <;> exact absurd literal (by decide)
        simp [dots?_cons dot percent, dot]
    · have dot : c ≠ '.' := by
        rintro rfl
        cases special <;> exact absurd sign (by decide)
      rw [written, dots?_percentChar dot]
      simp [dot]

end ColumnMap.Url
