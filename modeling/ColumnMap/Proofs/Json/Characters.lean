import ColumnMap.Json.Reader
import ColumnMap.Json.Printer
import Mathlib.Data.List.Forall2
import Mathlib.Tactic.SplitIfs

/-!
The UTF-8 bytes of a text, and what the reader of JSON strings makes of them. A character stands
inside a string as itself or as an escape; the reader gives back the bytes of the character.
-/

namespace ColumnMap.Json

/-! ### Bytes of a text -/

/-- The bytes of characters in UTF-8. -/
def encode (s : List Char) : Bytes := s.flatMap String.utf8EncodeChar

@[simp] theorem encode_nil : encode [] = [] := rfl

@[simp] theorem encode_append (s t : List Char) : encode (s ++ t) = encode s ++ encode t :=
  List.flatMap_append

theorem encode_cons (c : Char) (s : List Char) :
    encode (c :: s) = String.utf8EncodeChar c ++ encode s := rfl

theorem encode_flatMap {α : Type} (l : List α) (f : α → List Char) :
    encode (l.flatMap f) = l.flatMap fun a => encode (f a) := List.flatMap_assoc

theorem utf8EncodeChar_ascii {c : Char} (h : c.toNat < 0x80) :
    String.utf8EncodeChar c = [byte c] := by
  have small : c.val ≤ 127 := by
    rw [UInt32.le_iff_toNat_le]
    exact Nat.le_of_lt_succ h
  exact String.utf8EncodeChar_eq_singleton (Char.utf8Size_eq_one_iff.mpr small)

theorem encode_ascii {c : Char} (h : c.toNat < 0x80) (s : List Char) :
    encode (c :: s) = byte c :: encode s := by
  rw [encode_cons, utf8EncodeChar_ascii h, List.singleton_append]

theorem toList_loop (bytes : ByteArray) (i : Nat) (read : Bytes) :
    ByteArray.toList.loop bytes i read = read.reverse ++ bytes.data.toList.drop i := by
  fun_induction ByteArray.toList.loop bytes i read with
  | case1 i read h ih =>
    have hi : i < bytes.data.toList.length := by simpa using h
    rw [ih, List.drop_eq_getElem_cons hi]
    simp [ByteArray.get!, h]
  | case2 i read h =>
    rw [List.drop_eq_nil_of_le (by simpa using Nat.le_of_not_lt h)]
    simp

theorem toList_toUTF8 (s : String) : s.toUTF8.toList = encode s.toList := by
  rw [ByteArray.toList, toList_loop, String.toUTF8_eq_toByteArray, ← String.utf8Encode_toList]
  simp [List.utf8Encode, encode]

theorem fromUTF8?_toUTF8 (s : String) : String.fromUTF8? s.toUTF8 = some s :=
  dif_pos s.isValidUTF8

/-- The bytes of a text are read as this text. -/
theorem fromUTF8?_encode (s : List Char) :
    String.fromUTF8? ⟨(encode s).toArray⟩ = some (String.ofList s) := by
  have whole : (⟨(encode s).toArray⟩ : ByteArray) = (String.ofList s).toUTF8 := by
    rw [String.toUTF8_eq_toByteArray, String.toByteArray_ofList]
    apply ByteArray.ext
    rw [← Array.toList_inj, List.utf8Encode, List.toList_data_toByteArray, encode]
  rw [whole, fromUTF8?_toUTF8]

/-! ### One step of the reader of strings -/

/-- Bytes that stand for themselves inside a string. -/
def Plain (b : UInt8) : Prop := b ≠ byte '"' ∧ b ≠ byte '\\' ∧ ¬ b < 0x20

theorem stringBytes_quote (read rest : Bytes) :
    stringBytes read (byte '"' :: rest) = .ok (read.reverse, rest) := by
  rw [stringBytes, if_pos rfl]

theorem stringBytes_plain {s : Bytes} (h : ∀ b ∈ s, Plain b) (read rest : Bytes) :
    stringBytes read (s ++ rest) = stringBytes (s.reverse ++ read) rest := by
  induction s generalizing read with
  | nil => rfl
  | cons b s ih =>
    obtain ⟨quote, backslash, control⟩ := h b List.mem_cons_self
    rw [List.cons_append, stringBytes, if_neg quote, if_neg backslash, if_neg control,
      ih fun x hx => h x (List.mem_cons_of_mem b hx)]
    simp

theorem stringBytes_escape {s c rest : Bytes} (h : escape s = .ok (c, rest)) (read : Bytes) :
    stringBytes read (byte '\\' :: s) = stringBytes (c.reverse ++ read) rest := by
  rw [stringBytes, if_neg (by decide), if_pos rfl]
  split
  · simp_all
  · rename_i hx
    rw [h] at hx
    cases hx
    rfl

/-! ### Spellings of a character -/

/-- Inside a string, `text` is read as the character `c`. -/
def Spells (text : Bytes) (c : Char) : Prop :=
  ∀ read rest, stringBytes read (text ++ rest) =
    stringBytes ((String.utf8EncodeChar c).reverse ++ read) rest

theorem le_of_mem_utf8EncodeChar {c : Char} (h : 0x80 ≤ c.toNat) {b : UInt8}
    (hb : b ∈ String.utf8EncodeChar c) : 0x80 ≤ b.toNat := by
  have valid : c.val.toNat < 0x110000 := by
    have := c.valid
    simp only [UInt32.isValidChar, Nat.isValidChar] at this
    omega
  have h : ¬ c.val.toNat ≤ 127 := by
    have : c.toNat = c.val.toNat := rfl
    omega
  simp only [String.utf8EncodeChar, if_neg h] at hb
  split at hb
  · simp only [List.mem_cons, List.not_mem_nil, or_false] at hb
    rcases hb with rfl | rfl <;> rw [UInt8.toNat_ofNat'] <;> omega
  · split at hb
    · simp only [List.mem_cons, List.not_mem_nil, or_false] at hb
      rcases hb with rfl | rfl | rfl <;> rw [UInt8.toNat_ofNat'] <;> omega
    · simp only [List.mem_cons, List.not_mem_nil, or_false] at hb
      rcases hb with rfl | rfl | rfl | rfl <;> rw [UInt8.toNat_ofNat'] <;> omega

theorem plain_of_le {b : UInt8} (h : 0x80 ≤ b.toNat) : Plain b := by
  refine ⟨?_, ?_, ?_⟩
  · rintro rfl
    exact absurd h (by decide)
  · rintro rfl
    exact absurd h (by decide)
  · rw [UInt8.lt_iff_toNat_lt]
    have : (0x20 : UInt8).toNat = 0x20 := rfl
    omega

theorem toNat_byte {c : Char} (h : c.toNat < 0x80) : (byte c).toNat = c.toNat := by
  rw [byte, Char.toUInt8, UInt32.toNat_toUInt8, Nat.mod_eq_of_lt]
  · rfl
  · exact Nat.lt_trans h (by decide)

theorem byte_inj {c d : Char} (hc : c.toNat < 0x80) (hd : d.toNat < 0x80) :
    byte c = byte d ↔ c = d := by
  refine ⟨fun h => ?_, congrArg byte⟩
  rw [← Char.ofNat_toNat c, ← Char.ofNat_toNat d, ← toNat_byte hc, ← toNat_byte hd, h]

theorem plain_byte {c : Char} (ascii : c.toNat < 0x80) (control : 0x20 ≤ c.toNat) (quote : c ≠ '"')
    (backslash : c ≠ '\\') : Plain (byte c) := by
  refine ⟨?_, ?_, ?_⟩
  · rwa [Ne, byte_inj ascii (by decide)]
  · rwa [Ne, byte_inj ascii (by decide)]
  · rw [UInt8.lt_iff_toNat_lt, toNat_byte ascii]
    exact Nat.not_lt.mpr control

theorem plain_of_mem {c : Char} (control : 0x20 ≤ c.toNat) (quote : c ≠ '"')
    (backslash : c ≠ '\\') {b : UInt8} (hb : b ∈ String.utf8EncodeChar c) : Plain b := by
  by_cases ascii : c.toNat < 0x80
  · rw [utf8EncodeChar_ascii ascii, List.mem_singleton] at hb
    exact hb ▸ plain_byte ascii control quote backslash
  · exact plain_of_le (le_of_mem_utf8EncodeChar (Nat.le_of_not_lt ascii) hb)

/-- A character other than a quote, a backslash and a control spells itself. -/
theorem spells_self {c : Char} (control : 0x20 ≤ c.toNat) (quote : c ≠ '"') (backslash : c ≠ '\\') :
    Spells (String.utf8EncodeChar c) c := by
  intro read rest
  exact stringBytes_plain (fun b hb => plain_of_mem control quote backslash hb) read rest

/-- An escape of one letter. -/
theorem spells_letter {b d : UInt8} {c : Char} (hb : b ≠ byte 'u') (h : escapeLetter? b = some d)
    (hc : String.utf8EncodeChar c = [d]) : Spells [byte '\\', b] c := by
  intro read rest
  have found : escape (b :: rest) = .ok ([d], rest) := by
    rw [escape, if_neg hb, h]
  rw [hc]
  exact stringBytes_escape found read

/-- An escape of four hexadecimal digits. No character has the number of half a surrogate pair. -/
theorem spells_number {p q r s : UInt8} {w x y z : Nat} {c : Char} (hp : hexValue? p = some w)
    (hq : hexValue? q = some x) (hr : hexValue? r = some y) (hs : hexValue? s = some z)
    (hc : c.toNat = ((w * 16 + x) * 16 + y) * 16 + z) :
    Spells [byte '\\', byte 'u', p, q, r, s] c := by
  intro read rest
  have number : hex4 (p :: q :: r :: s :: rest) = .ok (c.toNat, rest) := by
    simp only [hex4, hp, hq, hr, hs, hc]
  have valid : c.toNat < 0xD800 ∨ 0xDFFF < c.toNat := by
    rcases c.valid with h | h
    · exact .inl h
    · exact .inr h.1
  have found : escape (byte 'u' :: p :: q :: r :: s :: rest)
      = .ok (String.utf8EncodeChar c, rest) := by
    rw [escape, if_pos rfl, numbered, number]
    simp only [Bool.and_eq_true, decide_eq_true_eq]
    rw [if_neg (by omega), if_neg (by omega), utf8, Char.ofNat_toNat]
  exact stringBytes_escape found read

/-! ### Printed strings -/

theorem hexValue?_hexDigit {n : Nat} (h : n < 16) : hexValue? (byte (hexDigit n)) = some n := by
  have all : ∀ k : Fin 16, hexValue? (byte (hexDigit k)) = some k.val := by decide
  exact all ⟨n, h⟩

theorem hexDigit_ascii {n : Nat} (h : n < 16) : (hexDigit n).toNat < 0x80 := by
  have all : ∀ k : Fin 16, (hexDigit k).toNat < 0x80 := by decide
  exact all ⟨n, h⟩

theorem spells_control {c : Char} (h : c.toNat < 0x20) :
    Spells (encode ['\\', 'u', '0', '0', hexDigit (c.toNat / 16), hexDigit (c.toNat % 16)]) c := by
  have high : c.toNat / 16 < 16 := by omega
  have low : c.toNat % 16 < 16 := by omega
  rw [encode_ascii (by decide), encode_ascii (by decide), encode_ascii (by decide),
    encode_ascii (by decide), encode_ascii (hexDigit_ascii high), encode_ascii (hexDigit_ascii low)]
  refine spells_number (w := 0) (x := 0) (by decide) (by decide) (hexValue?_hexDigit high)
    (hexValue?_hexDigit low) ?_
  omega

/-- A character as it is printed is read back. -/
theorem spells_escapeChar (c : Char) : Spells (encode (escapeChar c)) c := by
  unfold escapeChar
  split_ifs with quote backslash _ _ _ _ _ control
  · subst c; exact spells_letter (b := byte '"') (by decide) rfl rfl
  · subst c; exact spells_letter (b := byte '\\') (by decide) rfl rfl
  · subst c; exact spells_letter (b := byte 'b') (by decide) rfl rfl
  · subst c; exact spells_letter (b := byte 'f') (by decide) rfl rfl
  · subst c; exact spells_letter (b := byte 'n') (by decide) rfl rfl
  · subst c; exact spells_letter (b := byte 'r') (by decide) rfl rfl
  · subst c; exact spells_letter (b := byte 't') (by decide) rfl rfl
  · exact spells_control control
  · rw [encode_cons, encode_nil, List.append_nil]
    exact spells_self (Nat.le_of_not_lt control) quote backslash

theorem stringBytes_spelled {texts : List Bytes} {s : List Char} (h : List.Forall₂ Spells texts s)
    (read rest : Bytes) :
    stringBytes read (texts.flatten ++ byte '"' :: rest) =
      .ok (read.reverse ++ encode s, rest) := by
  induction h generalizing read with
  | nil => simpa using stringBytes_quote read rest
  | cons first _ ih =>
    rw [List.flatten_cons, List.append_assoc, first, ih, encode_cons]
    simp

/-- Characters in any spelling, up to the closing quote, are read as the string of them. -/
theorem scanString_spelled {texts : List Bytes} {s : List Char} (h : List.Forall₂ Spells texts s)
    (rest : Bytes) :
    scanString (texts.flatten ++ byte '"' :: rest) = .ok (String.ofList s, rest) := by
  simp only [scanString, stringBytes_spelled h, List.reverse_nil, List.nil_append,
    fromUTF8?_encode]

/-- The bytes of a string as it is printed. -/
abbrev quoted (s : String) : Bytes := encode (stringChars s)

theorem quoted_eq (s : String) :
    quoted s = byte '"' :: (encode (s.toList.flatMap escapeChar) ++ [byte '"']) := by
  rw [quoted, stringChars, List.cons_append, encode_ascii (by decide), encode_append,
    encode_ascii (by decide), encode_nil]

/-- A string as it is printed is read back. -/
theorem scanString_printed (s : String) (rest : Bytes) :
    scanString (encode (s.toList.flatMap escapeChar) ++ byte '"' :: rest) = .ok (s, rest) := by
  have spelled : List.Forall₂ Spells (s.toList.map fun c => encode (escapeChar c)) s.toList := by
    rw [List.forall₂_map_left_iff, List.forall₂_same]
    exact fun c _ => spells_escapeChar c
  rw [encode_flatMap, List.flatMap_def, scanString_spelled spelled, String.ofList_toList]

end ColumnMap.Json
