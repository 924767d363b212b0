import ColumnMap.Text.Quoted
import ColumnMap.Toml.Token
import Mathlib.Tactic.ByContra
import Mathlib.Tactic.SplitIfs

/-!
Quoted texts as TOML strings. The two notations agree on most characters: a quoted text is read as
the string that it stands for, unless it holds a NUL or a character that is quoted by its number.
Such a text is refused.
-/

namespace ColumnMap.Toml

open Text.Quoted (encodeChar byNumber)

/-! ### One character -/

/-- Characters that are read as they are quoted: not NUL, and not quoted by their number. -/
def IsReadable (c : Char) : Prop := c ≠ '\x00' ∧ encodeChar c ≠ byNumber c

/-- Controls other than the common ones are quoted by their number. -/
theorem hidden_control {c : Char} (control : c < ' ' ∨ c = '\x7f') : Text.hidden.contains c = true := by
  have all : ∀ n : Fin 128, n.val < 32 ∨ n.val = 127 →
      Text.hidden.contains (Char.ofNat n.val) = true := by decide +kernel
  have small : c.toNat < 32 ∨ c.toNat = 127 := by
    rcases control with less | rfl
    · exact .inl less
    · exact .inr rfl
  have known := all ⟨c.toNat, by omega⟩ small
  rwa [Char.ofNat_toNat] at known

/-- A quoted character is one that is escaped by its number or as NUL, or an escape that is read as
the character, or the character itself. -/
theorem encodeChar_cases (c : Char) :
    c = '\x00' ∧ encodeChar c = ['\\', '0'] ∨
    encodeChar c = byNumber c ∨
    (∃ e, encodeChar c = ['\\', e] ∧ ∀ rest, escape (e :: rest) = .ok (c, rest)) ∨
    encodeChar c = [c] ∧ isBasicChar c = true := by
  unfold encodeChar
  split_ifs with nul tab ret line slash quote shown number
  · exact .inl ⟨nul, rfl⟩
  · exact .inr (.inr (.inl ⟨'t', rfl, fun rest => by rw [tab]; rfl⟩))
  · exact .inr (.inr (.inl ⟨'r', rfl, fun rest => by rw [ret]; rfl⟩))
  · exact .inr (.inr (.inl ⟨'n', rfl, fun rest => by rw [line]; rfl⟩))
  · exact .inr (.inr (.inl ⟨'\\', rfl, fun rest => by rw [slash]; rfl⟩))
  · exact .inr (.inr (.inl ⟨'"', rfl, fun rest => by rw [quote]; rfl⟩))
  · refine .inr (.inr (.inr ⟨rfl, ?_⟩))
    have visible : ' ' ≤ c ∧ c ≤ '~' := by simpa using shown
    have other : c ≠ '\x7f' := by
      rintro rfl
      exact absurd visible.2 (by decide)
    simp [isBasicChar, isCommentChar, visible.1, other, slash, quote]
  · exact .inr (.inl rfl)
  · refine .inr (.inr (.inr ⟨rfl, ?_⟩))
    have seen : ¬ Text.hidden.contains c = true := by
      simp only [Bool.or_eq_true, not_or] at number
      exact number.2
    have above : ' ' ≤ c := by
      rw [← Char.not_lt]
      exact fun below => seen (hidden_control (.inl below))
    have other : c ≠ '\x7f' := fun delete => seen (hidden_control (.inr delete))
    simp [isBasicChar, isCommentChar, above, other, slash, quote]

/-- Visible characters are read as they are quoted. -/
theorem isReadable_of_visible {c : Char} (h : ' ' ≤ c ∧ c ≤ '~') : IsReadable c := by
  refine ⟨?_, ?_⟩
  · rintro rfl
    exact absurd h.1 (by decide)
  · unfold encodeChar byNumber
    split_ifs <;> simp_all

theorem basicRest_encodeChar (fuel : Nat) (read : List Char) {c : Char} (h : IsReadable c)
    (rest : Input) :
    basicRest (fuel + 1) read (encodeChar c ++ rest) = basicRest fuel (c :: read) rest := by
  rcases encodeChar_cases c with ⟨nul, _⟩ | number | ⟨e, escaped, taken⟩ | ⟨itself, basic⟩
  · exact absurd nul h.1
  · exact absurd number h.2
  · rw [escaped, List.cons_append, List.singleton_append, basicRest, taken]
  · have other : c ≠ '"' ∧ c ≠ '\\' := by
      constructor <;> (rintro rfl; exact absurd basic (by decide))
    rw [itself, List.singleton_append, basicRest, if_pos basic]
    · exact fun quote => other.1 quote
    · exact fun slash => other.2 slash

/-- A character by its number is written with a brace, which is no digit. -/
theorem codeEscape_brace (count : Nat) (rest : Input) :
    ∃ fault, codeEscape (count + 1) ('\x7b' :: rest) = .error fault := by
  have none : hexChar? (('\x7b' :: rest).take (count + 1)) = none := by
    rw [List.take_succ_cons, hexChar?, List.mapM_cons]
    rfl
  rw [codeEscape, none]
  exact ⟨_, rfl⟩

theorem basicRest_encodeChar_error (fuel : Nat) (read : List Char) {c : Char} (h : ¬ IsReadable c)
    (rest : Input) :
    ∃ fault, basicRest (fuel + 1) read (encodeChar c ++ rest) = .error fault := by
  by_cases nul : c = '\x00'
  · subst nul
    exact ⟨_, rfl⟩
  · have number : encodeChar c = byNumber c := by
      by_contra other
      exact h ⟨nul, other⟩
    obtain ⟨fault, refused⟩ := codeEscape_brace 3
      (Text.Quoted.hexDigits c.toNat ++ ['\x7d'] ++ rest)
    refine ⟨fault, ?_⟩
    have text : encodeChar c ++ rest = '\\' :: 'u' :: '\x7b' ::
        (Text.Quoted.hexDigits c.toNat ++ ['\x7d'] ++ rest) := by
      rw [number, byNumber]
      simp
    rw [text, basicRest, escape, refused]

/-! ### A whole text -/

theorem basicRest_flatMap {s : List Char} (h : ∀ c ∈ s, IsReadable c) {fuel : Nat}
    (enough : s.length < fuel) (read : List Char) (rest : Input) :
    basicRest fuel read (s.flatMap encodeChar ++ '"' :: rest) =
      .ok (String.ofList (read.reverse ++ s), rest) := by
  induction s generalizing fuel read with
  | nil =>
    obtain ⟨fuel, rfl⟩ : ∃ n, fuel = n + 1 := ⟨fuel - 1, by simp at enough; omega⟩
    simp [basicRest]
  | cons c s ih =>
    simp only [List.length_cons] at enough
    obtain ⟨fuel, rfl⟩ : ∃ n, fuel = n + 1 := ⟨fuel - 1, by omega⟩
    rw [List.flatMap_cons, List.append_assoc, basicRest_encodeChar fuel read (h c List.mem_cons_self),
      ih (fun d hd => h d (List.mem_cons_of_mem c hd)) (by omega)]
    simp

theorem basicRest_flatMap_error {s : List Char} (h : ¬ ∀ c ∈ s, IsReadable c) {fuel : Nat}
    (enough : s.length < fuel) (read : List Char) (rest : Input) :
    ∃ fault, basicRest fuel read (s.flatMap encodeChar ++ '"' :: rest) = .error fault := by
  induction s generalizing fuel read with
  | nil => simp at h
  | cons c s ih =>
    simp only [List.length_cons] at enough
    obtain ⟨fuel, rfl⟩ : ∃ n, fuel = n + 1 := ⟨fuel - 1, by omega⟩
    rw [List.flatMap_cons, List.append_assoc]
    by_cases first : IsReadable c
    · rw [basicRest_encodeChar fuel read first]
      have more : ¬ ∀ d ∈ s, IsReadable d := fun all =>
        h (List.forall_mem_cons.mpr ⟨first, all⟩)
      exact ih more (by omega) (c :: read)
    · exact basicRest_encodeChar_error fuel read first _

theorem encodeChar_eq_cons (c : Char) : ∃ a more, encodeChar c = a :: more ∧ a ≠ '"' := by
  rcases encodeChar_cases c with ⟨_, zero⟩ | number | ⟨e, escaped, _⟩ | ⟨itself, basic⟩
  · exact ⟨_, _, zero, by decide⟩
  · exact ⟨_, _, number, by decide⟩
  · exact ⟨_, _, escaped, by decide⟩
  · refine ⟨_, _, itself, ?_⟩
    rintro rfl
    exact absurd basic (by decide)

theorem length_le_flatMap (s : List Char) : s.length ≤ (s.flatMap encodeChar).length := by
  induction s with
  | nil => simp
  | cons c s ih =>
    obtain ⟨a, more, text, _⟩ := encodeChar_eq_cons c
    rw [List.flatMap_cons, List.length_append, text, List.length_cons, List.length_cons]
    omega

/-- A quoted text as it stands in a document. -/
def quoted (s : String) : Input := '"' :: (s.toList.flatMap encodeChar ++ ['"'])

theorem toList_quote (s : String) : (Text.quote s).toList = quoted s := by
  simp [Text.quote, Text.Quoted.encode, quoted]

/-- A quoted text is taken for a string of one line, as no third quote can follow. -/
theorem string_quoted_eq (s : String) {rest : Input} (ends : rest.head? ≠ some '"') :
    ∃ fuel, s.toList.length < fuel ∧ string (quoted s ++ rest) =
      basicRest fuel [] (s.toList.flatMap encodeChar ++ '"' :: rest) := by
  refine ⟨(s.toList.flatMap encodeChar ++ '"' :: rest).length + 1, ?_, ?_⟩
  · have := length_le_flatMap s.toList
    simp only [List.length_append, List.length_cons]
    omega
  · have text : quoted s ++ rest = '"' :: (s.toList.flatMap encodeChar ++ '"' :: rest) := by
      simp [quoted]
    rw [text, string]
    intro r three
    cases hs : s.toList with
    | nil =>
      rw [hs, List.flatMap_nil, List.nil_append, List.cons.injEq] at three
      rw [three.2] at ends
      exact ends rfl
    | cons c l =>
      obtain ⟨a, more, written, other⟩ := encodeChar_eq_cons c
      rw [hs, List.flatMap_cons, written, List.cons_append, List.cons_append, List.cons.injEq] at three
      exact other three.1

/-- A text is readable if all of its characters are. -/
def Readable (s : String) : Prop := ∀ c ∈ s.toList, IsReadable c

theorem string_quoted {s : String} (h : Readable s) {rest : Input}
    (ends : rest.head? ≠ some '"') : string (quoted s ++ rest) = .ok (s, rest) := by
  obtain ⟨fuel, enough, eq⟩ := string_quoted_eq s ends
  rw [eq, basicRest_flatMap h enough]
  simp

theorem string_quoted_error {s : String} (h : ¬ Readable s) {rest : Input}
    (ends : rest.head? ≠ some '"') : ∃ fault, string (quoted s ++ rest) = .error fault := by
  obtain ⟨fuel, enough, eq⟩ := string_quoted_eq s ends
  rw [eq]
  exact basicRest_flatMap_error h enough [] rest

end ColumnMap.Toml
