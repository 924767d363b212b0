import ColumnMap.Json.Skip
import ColumnMap.Proofs.Json.Characters
import Mathlib.Data.FinEnum

/-!
What may stand between the quotes of a JSON string. A string that is read is a spelling of its
characters, one after the other; a string that is passed over need not denote a text at all.
-/

namespace ColumnMap.Json

/-! ### Where a character begins among bytes -/

theorem utf8EncodeChar_first {c : Char} {b : UInt8} {more : Bytes}
    (h : String.utf8EncodeChar c = b :: more) :
    b.IsUTF8FirstByte ∧ ∀ x ∈ more, ¬ x.IsUTF8FirstByte := by
  have only_first : ∀ i (hi : i < (b :: more).length), (b :: more)[i].IsUTF8FirstByte ↔ i = 0 := by
    intro i hi
    have bound : i < [c].utf8Encode.size := by simpa [List.utf8Encode_singleton, h] using hi
    have at_index : [c].utf8Encode[i].IsUTF8FirstByte ↔ i = 0 :=
      List.isUTF8FirstByte_getElem_utf8Encode_singleton
    simpa [List.utf8Encode_singleton, h] using at_index
  refine ⟨(only_first 0 (by simp)).mpr rfl, fun x hx => ?_⟩
  obtain ⟨i, hi, rfl⟩ := List.getElem_of_mem hx
  have later := only_first (i + 1) (by simpa using hi)
  rw [List.getElem_cons_succ] at later
  exact fun first => absurd (later.mp first) (Nat.succ_ne_zero i)

theorem exists_utf8EncodeChar (c : Char) : ∃ b more, String.utf8EncodeChar c = b :: more := by
  cases h : String.utf8EncodeChar c with
  | nil =>
    have := c.utf8Size_pos
    rw [← String.length_utf8EncodeChar, h] at this
    exact absurd this (by simp)
  | cons b more => exact ⟨b, more, rfl⟩

/-- The bytes of a character are no beginning of another character's bytes. -/
theorem utf8EncodeChar_append_inj {c d : Char} {s t : Bytes}
    (h : String.utf8EncodeChar c ++ s = String.utf8EncodeChar d ++ t) : c = d ∧ s = t := by
  have same : c = d := by
    have first : ∀ (e : Char) (u : Bytes),
        (String.utf8EncodeChar e ++ u).toByteArray.utf8DecodeChar? 0 = some e := fun e u => by
      rw [List.toByteArray_append]
      exact ByteArray.utf8DecodeChar?_utf8EncodeChar_append
    have := first c s
    rw [h, first d t] at this
    exact (Option.some.inj this).symm
  subst same
  exact ⟨rfl, List.append_cancel_left h⟩

/-- Bytes that are read as a text are the bytes of its characters. -/
theorem eq_encode_of_fromUTF8? {bytes : Bytes} {s : String}
    (h : String.fromUTF8? ⟨bytes.toArray⟩ = some s) : bytes = encode s.toList := by
  unfold String.fromUTF8? at h
  split at h
  · rename_i valid
    have whole : s.toByteArray = ⟨bytes.toArray⟩ := by
      rw [← Option.some.inj h]
      rfl
    rw [← String.utf8Encode_toList] at whole
    have := congrArg (fun a => a.data.toList) whole
    simpa [List.utf8Encode, encode] using this.symm
  · simp at h

/-! ### Spellings -/

/-- Four hexadecimal digits that write a number. -/
inductive Hex : Bytes → Nat → Prop where
  | digits {p q r s : UInt8} {w x y z : Nat} (hp : hexValue? p = some w)
      (hq : hexValue? q = some x) (hr : hexValue? r = some y) (hs : hexValue? s = some z) :
      Hex [p, q, r, s] (((w * 16 + x) * 16 + y) * 16 + z)

/-- The ways to write a character inside a string: as itself, as a letter or a number behind a
backslash, or as the two numbers of its surrogate pair. -/
inductive Spelling : Bytes → Char → Prop where
  | self {c : Char} (control : 0x20 ≤ c.toNat) (quote : c ≠ '"') (backslash : c ≠ '\\') :
      Spelling (String.utf8EncodeChar c) c
  | letter {b : UInt8} {c : Char} (h : escapeLetter? b = some (byte c)) (ascii : c.toNat < 0x80) :
      Spelling [byte '\\', b] c
  | number {ds : Bytes} {c : Char} (h : Hex ds c.toNat) :
      Spelling (byte '\\' :: byte 'u' :: ds) c
  | pair {ds es : Bytes} {high low : Nat} {c : Char} (hd : Hex ds high) (he : Hex es low)
      (lead : 0xD800 ≤ high ∧ high ≤ 0xDBFF) (trail : 0xDC00 ≤ low ∧ low ≤ 0xDFFF)
      (whole : c.toNat = (high - 0xD800) * 0x400 + (low - 0xDC00) + 0x10000) :
      Spelling (byte '\\' :: byte 'u' :: (ds ++ byte '\\' :: byte 'u' :: es)) c

/-- The text of a string, in its quotes. -/
def StringText (text : Bytes) (s : String) : Prop :=
  ∃ texts, List.Forall₂ Spelling texts s.toList ∧
    text = byte '"' :: (texts.flatten ++ [byte '"'])

/-- What may stand inside a string that is passed over. -/
inductive Piece : Bytes → Prop where
  | plain {b : UInt8} (h : Plain b) : Piece [b]
  | letter {b : UInt8} (h : (escapeLetter? b).isSome) : Piece [byte '\\', b]
  | number {ds : Bytes} {n : Nat} (h : Hex ds n) : Piece (byte '\\' :: byte 'u' :: ds)

/-- The text of a string that is passed over, in its quotes. -/
def StringForm (text : Bytes) : Prop :=
  ∃ pieces : List Bytes, (∀ p ∈ pieces, Piece p) ∧
    text = byte '"' :: (pieces.flatten ++ [byte '"'])

theorem StringText.begins {t : Bytes} {s : String} (h : StringText t s) :
    ∃ u, t = byte '"' :: u := by
  obtain ⟨_, -, rfl⟩ := h
  exact ⟨_, rfl⟩

theorem StringForm.begins {t : Bytes} (h : StringForm t) : ∃ u, t = byte '"' :: u := by
  obtain ⟨_, -, rfl⟩ := h
  exact ⟨_, rfl⟩

/-! ### Escapes -/

theorem hex4_iff {s r : Bytes} {n : Nat} :
    hex4 s = .ok (n, r) ↔ ∃ ds, Hex ds n ∧ s = ds ++ r := by
  constructor
  · intro h
    unfold hex4 at h
    split at h
    · split at h
      · rename_i hp hq hr hs
        simp only [Except.ok.injEq, Prod.mk.injEq] at h
        obtain ⟨rfl, rfl⟩ := h
        exact ⟨_, .digits hp hq hr hs, rfl⟩
      · simp [fail] at h
    · simp [fail] at h
  · rintro ⟨_, ⟨hp, hq, hr, hs⟩, rfl⟩
    simp only [hex4, List.cons_append, List.nil_append, hp, hq, hr, hs]

theorem Hex.lt {ds : Bytes} {n : Nat} (h : Hex ds n) : n < 0x10000 := by
  have small : ∀ {b : UInt8} {k : Nat}, hexValue? b = some k → k < 16 := by
    intro b k hb
    have all : ∀ b : UInt8, (hexValue? b).all (· < 16) := by decide +kernel
    simpa [hb] using all b
  obtain ⟨hp, hq, hr, hs⟩ := h
  have := small hp
  have := small hq
  have := small hr
  have := small hs
  omega

theorem escapeLetter?_ascii {b d : UInt8} (h : escapeLetter? b = some d) :
    ∃ c : Char, c.toNat < 0x80 ∧ d = byte c := by
  have all : ∀ b : UInt8, (escapeLetter? b).all fun d =>
      (Char.ofNat d.toNat).toNat < 0x80 ∧ d = byte (Char.ofNat d.toNat) := by decide +kernel
  exact ⟨Char.ofNat d.toNat, by simpa [h] using all b⟩

theorem toNat_ofNat {n : Nat} (h : n.isValidChar) : (Char.ofNat n).toNat = n := by
  rw [Char.ofNat, dif_pos h]
  rfl

theorem isValidChar_single {n : Nat} (small : n < 0x10000) (low : ¬ (0xDC00 ≤ n ∧ n ≤ 0xDFFF))
    (high : ¬ (0xD800 ≤ n ∧ n ≤ 0xDBFF)) : n.isValidChar := by
  simp only [Nat.isValidChar]
  omega

theorem isValidChar_pair {high low : Nat} (lead : 0xD800 ≤ high ∧ high ≤ 0xDBFF)
    (trail : 0xDC00 ≤ low ∧ low ≤ 0xDFFF) :
    ((high - 0xD800) * 0x400 + (low - 0xDC00) + 0x10000).isValidChar := by
  simp only [Nat.isValidChar]
  omega

theorem lowSurrogate_gives {high : Nat} {s r a : Bytes}
    (h : lowSurrogate high s = .ok (a, r)) :
    ∃ es low, Hex es low ∧ (0xDC00 ≤ low ∧ low ≤ 0xDFFF) ∧
      s = byte '\\' :: byte 'u' :: (es ++ r) ∧
      a = utf8 ((high - 0xD800) * 0x400 + (low - 0xDC00) + 0x10000) := by
  unfold lowSurrogate at h
  split at h
  · simp [fail] at h
  split at h
  · simp [fail] at h
  rename_i backslash
  split at h
  · simp [fail] at h
  split at h
  · simp [fail] at h
  rename_i letter
  split at h
  · simp at h
  rename_i found
  split at h
  · rename_i trail
    simp only [Except.ok.injEq, Prod.mk.injEq] at h
    obtain ⟨rfl, rfl⟩ := h
    obtain ⟨es, digits, rfl⟩ := hex4_iff.mp found
    simp only [Bool.and_eq_true, decide_eq_true_eq] at trail
    rw [not_not] at backslash letter
    exact ⟨es, _, digits, trail, by rw [backslash, letter], rfl⟩
  · simp [fail] at h

/-- An escape that is read is the spelling of a character. -/
theorem escape_gives {s r a : Bytes} (h : escape s = .ok (a, r)) :
    ∃ t c, Spelling (byte '\\' :: t) c ∧ s = t ++ r ∧ a = String.utf8EncodeChar c := by
  unfold escape at h
  split at h
  · simp [fail] at h
  split at h
  · rename_i letter
    subst letter
    unfold numbered at h
    split at h
    · simp at h
    rename_i found
    obtain ⟨ds, digits, rfl⟩ := hex4_iff.mp found
    split at h
    · simp [fail] at h
    rename_i low
    split at h
    · rename_i high
      simp only [Bool.and_eq_true, decide_eq_true_eq] at high
      obtain ⟨es, low, digits', trail, rfl, bytes⟩ := lowSurrogate_gives h
      have whole := toNat_ofNat (isValidChar_pair high trail)
      refine ⟨_, _, .pair digits digits' high trail whole, ?_, bytes⟩
      rw [List.cons_append, List.append_assoc]
      rfl
    · rename_i high
      simp only [Bool.and_eq_true, decide_eq_true_eq] at low high
      simp only [Except.ok.injEq, Prod.mk.injEq] at h
      obtain ⟨rfl, rfl⟩ := h
      refine ⟨_, Char.ofNat _, .number ?_, rfl, rfl⟩
      rw [toNat_ofNat (isValidChar_single digits.lt low high)]
      exact digits
  · split at h
    · rename_i known
      simp only [Except.ok.injEq, Prod.mk.injEq] at h
      obtain ⟨rfl, rfl⟩ := h
      obtain ⟨c, ascii, rfl⟩ := escapeLetter?_ascii known
      exact ⟨[_], c, .letter known ascii, rfl, (utf8EncodeChar_ascii ascii).symm⟩
    · simp [fail] at h

theorem spells_pair {ds es : Bytes} {high low : Nat} {c : Char} (hd : Hex ds high)
    (he : Hex es low) (lead : 0xD800 ≤ high ∧ high ≤ 0xDBFF)
    (trail : 0xDC00 ≤ low ∧ low ≤ 0xDFFF)
    (whole : c.toNat = (high - 0xD800) * 0x400 + (low - 0xDC00) + 0x10000) :
    Spells (byte '\\' :: byte 'u' :: (ds ++ byte '\\' :: byte 'u' :: es)) c := by
  intro read rest
  have first : hex4 (ds ++ byte '\\' :: byte 'u' :: (es ++ rest)) =
      .ok (high, byte '\\' :: byte 'u' :: (es ++ rest)) := hex4_iff.mpr ⟨ds, hd, rfl⟩
  have second : hex4 (es ++ rest) = .ok (low, rest) := hex4_iff.mpr ⟨es, he, rfl⟩
  have found : escape (byte 'u' :: (ds ++ byte '\\' :: byte 'u' :: (es ++ rest))) =
      .ok (String.utf8EncodeChar c, rest) := by
    rw [escape, if_pos rfl, numbered, first]
    simp only [Bool.and_eq_true, decide_eq_true_eq]
    rw [if_neg (by omega), if_pos lead, lowSurrogate, if_neg (by simp)]
    simp only [ne_eq, not_true_eq_false, if_false, second, Bool.and_eq_true, decide_eq_true_eq,
      if_pos trail, ← whole, utf8, Char.ofNat_toNat]
  simpa using stringBytes_escape found read

/-- A spelling of a character is read as it. -/
theorem Spelling.spells {t : Bytes} {c : Char} (h : Spelling t c) : Spells t c := by
  cases h with
  | self control quote backslash => exact spells_self control quote backslash
  | letter known ascii =>
    refine spells_letter ?_ known (utf8EncodeChar_ascii ascii)
    rintro rfl
    cases known
  | number digits =>
    generalize hn : c.toNat = n at digits
    obtain ⟨hp, hq, hr, hs⟩ := digits
    exact spells_number hp hq hr hs hn
  | pair hd he lead trail whole => exact spells_pair hd he lead trail whole

/-! ### Strings that are read -/

theorem stringBytes_prefix {read s bytes r : Bytes} (h : stringBytes read s = .ok (bytes, r)) :
    ∃ new, bytes = read.reverse ++ new := by
  fun_induction stringBytes read s with
  | case2 read =>
    simp only [Except.ok.injEq, Prod.mk.injEq] at h
    exact ⟨[], by rw [← h.1, List.append_nil]⟩
  | case4 _ _ c _ _ _ ih =>
    obtain ⟨new, rfl⟩ := ih h
    exact ⟨c ++ new, by simp⟩
  | case6 _ b _ _ _ _ ih =>
    obtain ⟨new, rfl⟩ := ih h
    exact ⟨b :: new, by simp⟩
  | case1 | case5 => simp [fail] at h
  | case3 => simp at h

theorem self_of_plain {c : Char} {b : UInt8} {more : Bytes}
    (hc : String.utf8EncodeChar c = b :: more) (h : Plain b) :
    Spelling (String.utf8EncodeChar c) c := by
  by_cases ascii : c.toNat < 0x80
  · rw [utf8EncodeChar_ascii ascii] at hc
    obtain ⟨rfl, -⟩ := List.cons.inj hc
    obtain ⟨quote, backslash, control⟩ := h
    refine .self ?_ (fun e => quote (congrArg byte e)) (fun e => backslash (congrArg byte e))
    rw [UInt8.lt_iff_toNat_lt, toNat_byte ascii] at control
    exact Nat.le_of_not_lt control
  · refine .self (by omega) ?_ ?_
    · rintro rfl
      exact ascii (by decide)
    · rintro rfl
      exact ascii (by decide)

/-- What is read as the bytes of a text spells its characters. Of the character that is being read,
the bytes `open_` are still to come; none of them can be an escape, which begins a character. -/
theorem spelled_of_stringBytes {read s open_ r : Bytes} {cs : List Char}
    (h : stringBytes read s = .ok (read.reverse ++ (open_ ++ encode cs), r))
    (inner : ∀ x ∈ open_, ¬ x.IsUTF8FirstByte) :
    ∃ texts, List.Forall₂ Spelling texts cs ∧ s = open_ ++ (texts.flatten ++ byte '"' :: r) := by
  generalize hbytes : read.reverse ++ (open_ ++ encode cs) = bytes at h
  fun_induction stringBytes read s generalizing open_ cs with
  | case1 | case5 => simp [fail] at h
  | case3 => simp at h
  | case2 read rest =>
    simp only [Except.ok.injEq, Prod.mk.injEq] at h
    obtain ⟨rfl, rfl⟩ := h
    obtain ⟨rfl, none_⟩ := List.append_eq_nil_iff.mp (List.append_right_eq_self.mp hbytes)
    cases cs with
    | nil => exact ⟨[], .nil, rfl⟩
    | cons c cs =>
      obtain ⟨b, more, hc⟩ := exists_utf8EncodeChar c
      rw [encode_cons, hc] at none_
      exact absurd none_ (by simp)
  | case4 read rest bytes' rest' found _ ih =>
    obtain ⟨t, d, spelling, rfl, rfl⟩ := escape_gives found
    obtain ⟨new, hnew⟩ := stringBytes_prefix h
    obtain ⟨b, more, hd⟩ := exists_utf8EncodeChar d
    have behind : open_ ++ encode cs = String.utf8EncodeChar d ++ new := by
      rw [hnew] at hbytes
      simpa using hbytes
    cases open_ with
    | cons x open_ =>
      rw [hd] at behind
      obtain ⟨rfl, -⟩ := List.cons.inj behind
      exact absurd (utf8EncodeChar_first hd).1 (inner x List.mem_cons_self)
    | nil =>
      cases cs with
      | nil => rw [hd] at behind; exact absurd behind (by simp)
      | cons c cs =>
        rw [List.nil_append, encode_cons] at behind
        obtain ⟨rfl, rfl⟩ := utf8EncodeChar_append_inj behind
        obtain ⟨texts, spelled, rfl⟩ := @ih [] cs (by simp) (by simp [hnew]) h
        exact ⟨_ :: texts, .cons spelling spelled, by simp⟩
  | case6 read b rest quote backslash control ih =>
    obtain ⟨new, hnew⟩ := stringBytes_prefix h
    have behind : open_ ++ encode cs = b :: new := by
      rw [hnew] at hbytes
      simpa using hbytes
    cases open_ with
    | cons x open_ =>
      obtain ⟨rfl, rfl⟩ := List.cons.inj behind
      obtain ⟨texts, spelled, rfl⟩ :=
        ih (fun y hy => inner y (List.mem_cons_of_mem x hy)) (by simpa using hbytes) h
      exact ⟨texts, spelled, rfl⟩
    | nil =>
      cases cs with
      | nil => exact absurd behind (by simp)
      | cons c cs =>
        obtain ⟨first, more, hc⟩ := exists_utf8EncodeChar c
        rw [List.nil_append, encode_cons, hc] at behind
        obtain ⟨rfl, rfl⟩ := List.cons.inj behind
        obtain ⟨texts, spelled, rfl⟩ :=
          ih (utf8EncodeChar_first hc).2 (by simpa [encode_cons, hc] using hbytes) h
        refine ⟨(first :: more) :: texts, .cons (hc ▸ ?_) spelled, by simp⟩
        exact self_of_plain hc ⟨quote, backslash, control⟩

/-- A string is read from the spellings of its characters and from nothing else. -/
theorem scanString_iff {s r : Bytes} {x : String} :
    scanString s = .ok (x, r) ↔ ∃ t, StringText (byte '"' :: t) x ∧ s = t ++ r := by
  constructor
  · intro h
    unfold scanString at h
    split at h
    · simp at h
    rename_i found
    split at h
    · rename_i decoded
      simp only [Except.ok.injEq, Prod.mk.injEq] at h
      obtain ⟨rfl, rfl⟩ := h
      rw [eq_encode_of_fromUTF8? decoded] at found
      obtain ⟨texts, spelled, rfl⟩ := @spelled_of_stringBytes [] _ [] _ _ found (by simp)
      exact ⟨_, ⟨texts, spelled, rfl⟩, by simp⟩
    · simp [fail] at h
  · rintro ⟨_, ⟨texts, spelled, h⟩, rfl⟩
    obtain ⟨-, rfl⟩ := List.cons.inj h
    rw [List.append_assoc, List.singleton_append,
      scanString_spelled (spelled.imp fun _ _ => Spelling.spells), String.ofList_toList]

/-! ### Strings that are passed over -/

theorem skipEscape_iff {s r : Bytes} :
    skipEscape s = .ok ((), r) ↔ ∃ t, Piece (byte '\\' :: t) ∧ s = t ++ r := by
  constructor
  · intro h
    unfold skipEscape at h
    split at h
    · simp [fail] at h
    split at h
    · rename_i letter
      subst letter
      obtain ⟨n, found⟩ := of_onResult_eq_ok h
      obtain ⟨ds, digits, rfl⟩ := hex4_iff.mp found
      exact ⟨_, .number digits, rfl⟩
    · split at h
      · rename_i known
        simp only [Except.ok.injEq, Prod.mk.injEq, true_and] at h
        subst h
        exact ⟨[_], .letter known, rfl⟩
      · simp [fail] at h
  · rintro ⟨t, piece, rfl⟩
    generalize ht : byte '\\' :: t = text at piece
    cases piece with
    | plain plain =>
      obtain ⟨rfl, -⟩ := List.cons.inj ht
      exact absurd rfl plain.2.1
    | @letter b known =>
      obtain ⟨-, rfl⟩ := List.cons.inj ht
      have other : b ≠ byte 'u' := by
        rintro rfl
        cases known
      rw [List.singleton_append, skipEscape, if_neg other, if_pos known]
    | number digits =>
      obtain ⟨-, rfl⟩ := List.cons.inj ht
      rw [List.cons_append, skipEscape, if_pos rfl, hex4_iff.mpr ⟨_, digits, rfl⟩]
      rfl

theorem skipString_plain {b : UInt8} (h : Plain b) (s : Bytes) :
    skipString (b :: s) = skipString s := by
  rw [skipString, if_neg h.1, if_neg h.2.1, if_neg h.2.2]

theorem skipString_escape {s r : Bytes} (h : skipEscape s = .ok ((), r)) :
    skipString (byte '\\' :: s) = skipString r := by
  rw [skipString, if_neg (by decide), if_pos rfl]
  split
  · simp_all
  · rename_i hx
    rw [h] at hx
    cases hx
    rfl

theorem skipString_pieces {pieces : List Bytes} (h : ∀ p ∈ pieces, Piece p) (r : Bytes) :
    skipString (pieces.flatten ++ byte '"' :: r) = .ok ((), r) := by
  induction pieces with
  | nil => rw [List.flatten_nil, List.nil_append, skipString, if_pos rfl]
  | cons p pieces ih =>
    have rest := ih fun q hq => h q (List.mem_cons_of_mem p hq)
    rw [List.flatten_cons, List.append_assoc]
    cases h p List.mem_cons_self with
    | plain plain => rw [List.singleton_append, skipString_plain plain, rest]
    | letter known =>
      exact (skipString_escape (skipEscape_iff.mpr ⟨_, .letter known, rfl⟩)).trans rest
    | number digits =>
      exact (skipString_escape (skipEscape_iff.mpr ⟨_, .number digits, rfl⟩)).trans rest

/-- A string is passed over if every byte of it is plain or belongs to an escape. -/
theorem skipString_iff {s r : Bytes} :
    skipString s = .ok ((), r) ↔ ∃ t, StringForm (byte '"' :: t) ∧ s = t ++ r := by
  constructor
  · intro h
    suffices found : ∃ pieces : List Bytes, (∀ p ∈ pieces, Piece p) ∧
        s = pieces.flatten ++ byte '"' :: r by
      obtain ⟨pieces, each, rfl⟩ := found
      exact ⟨_, ⟨pieces, each, rfl⟩, by simp⟩
    fun_induction skipString s with
    | case1 | case5 => simp [fail] at h
    | case3 => simp at h
    | case2 =>
      simp only [Except.ok.injEq, Prod.mk.injEq, true_and] at h
      exact ⟨[], by simp, by rw [h]; rfl⟩
    | case4 _ _ _ found _ ih =>
      obtain ⟨pieces, each, rfl⟩ := ih h
      obtain ⟨t, piece, rfl⟩ := skipEscape_iff.mp found
      exact ⟨_ :: pieces, List.forall_mem_cons.mpr ⟨piece, each⟩, by simp⟩
    | case6 b _ quote backslash control ih =>
      obtain ⟨pieces, each, rfl⟩ := ih h
      exact ⟨[b] :: pieces,
        List.forall_mem_cons.mpr ⟨.plain ⟨quote, backslash, control⟩, each⟩, by simp⟩
  · rintro ⟨_, ⟨pieces, each, h⟩, rfl⟩
    obtain ⟨-, rfl⟩ := List.cons.inj h
    rw [List.append_assoc, List.singleton_append, skipString_pieces each]

end ColumnMap.Json
