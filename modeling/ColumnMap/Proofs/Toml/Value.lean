import ColumnMap.Proofs.Toml.Integer
import ColumnMap.Proofs.Toml.Quoted
import ColumnMap.Toml.Reader
import Mathlib.Data.List.Forall2

/-!
The values of a configuration as TOML values: strings, lists of strings, numbers and switches. Each
of them is read as itself at the end of a line, or it is refused there.
-/

namespace ColumnMap.Toml

/-! ### Strings -/

/-- A value that is the string `s`. -/
def IsString (s : String) (t : Tree) : Prop := ∃ span, t = .scalar span (.string s)

theorem valueWith_scalar (item : Input → Scan Tree) {c : Char} (noArray : c ≠ '[')
    (noTable : c ≠ '\x7b') (r : Input) :
    valueWith item (c :: r) = (scalar (c :: r)).map fun (v, t) =>
      (.scalar ⟨(c :: r).length, t.length⟩ v, t) := by
  rw [valueWith]
  · cases scalar (c :: r) <;> rfl
  · intro r' eq
    exact noArray (List.cons.inj eq).1
  · intro r' eq
    exact noTable (List.cons.inj eq).1

theorem value_scalar (depth : Nat) {c : Char} (noArray : c ≠ '[') (noTable : c ≠ '\x7b')
    (r : Input) :
    value depth (c :: r) = (scalar (c :: r)).map fun (v, t) =>
      (.scalar ⟨(c :: r).length, t.length⟩ v, t) := by
  cases depth with
  | zero =>
    rw [value, if_neg (by simp [noArray, noTable])]
    exact valueWith_scalar _ noArray noTable r
  | succ depth => exact valueWith_scalar _ noArray noTable r

theorem value_quoted_eq (depth : Nat) (s : String) (rest : Input) :
    value depth (quoted s ++ rest) = (string (quoted s ++ rest)).map fun (v, t) =>
      (.scalar ⟨(quoted s ++ rest).length, t.length⟩ (.string v), t) := by
  have text : quoted s ++ rest = '"' :: (s.toList.flatMap Text.Quoted.encodeChar ++ ['"'] ++ rest) :=
    rfl
  rw [text, value_scalar depth (by decide) (by decide), scalar, if_pos (by decide)]
  cases string _ <;> rfl

theorem value_quoted (depth : Nat) {s : String} (h : Readable s) {rest : Input}
    (ends : rest.head? ≠ some '"') :
    ∃ t, value depth (quoted s ++ rest) = .ok (t, rest) ∧ IsString s t := by
  rw [value_quoted_eq, string_quoted h ends]
  exact ⟨_, rfl, _, rfl⟩

theorem value_quoted_error (depth : Nat) {s : String} (h : ¬ Readable s) {rest : Input}
    (ends : rest.head? ≠ some '"') : ∃ fault, value depth (quoted s ++ rest) = .error fault := by
  obtain ⟨fault, refused⟩ := string_quoted_error h ends
  rw [value_quoted_eq, refused]
  exact ⟨fault, rfl⟩

/-! ### Lists of strings -/

/-- Quoted texts with commas and blanks between them, of which there is one at least. -/
def listed (s : String) : List String → Input
  | [] => quoted s
  | t :: l => quoted s ++ ',' :: ' ' :: listed t l

theorem listed_eq_cons (s : String) (l : List String) : ∃ r, listed s l = '"' :: r := by
  cases l <;> exact ⟨_, rfl⟩

theorem skipLines_cons {c : Char} (solid : isBlank c = false ∧ c ≠ '#' ∧ c ≠ '\n' ∧ c ≠ '\r')
    (r : Input) : skipLines (c :: r).length (c :: r) = .ok (c :: r) := by
  obtain ⟨visible, comment, line, ret⟩ := solid
  have blanks : skipBlanks (c :: r) = c :: r := by simp [skipBlanks, visible]
  have last : newline? (c :: r) = none := by
    rw [newline?]
    · intro t eq
      exact line (List.cons.inj eq).1
    · intro t eq
      exact ret (List.cons.inj eq).1
  rw [List.length_cons, skipLines, blanks, last]
  simp [comment]

section

variable (item : Input → Scan Tree) (fuel : Nat) (read : List Tree)

theorem arrayItems_blank (r : Input) :
    arrayItems item (fuel + 1) read (' ' :: '"' :: r) =
      arrayItems item (fuel + 1) read ('"' :: r) := by
  have blank : skipLines (' ' :: '"' :: r).length (' ' :: '"' :: r) = .ok ('"' :: r) := rfl
  rw [arrayItems, arrayItems, blank, skipLines_cons (by decide)]

variable {r : Input}

theorem arrayItems_error {fault : Fault} (first : item ('"' :: r) = .error fault) :
    arrayItems item (fuel + 1) read ('"' :: r) = .error fault := by
  rw [arrayItems, skipLines_cons (by decide)]
  simp [first]

variable {v : Tree} {t : Input}

theorem arrayItems_comma (first : item ('"' :: r) = .ok (v, ',' :: t)) :
    arrayItems item (fuel + 1) read ('"' :: r) = arrayItems item fuel (v :: read) t := by
  have next : skipLines (',' :: t).length (',' :: t) = .ok (',' :: t) :=
    skipLines_cons (by decide) t
  rw [arrayItems, skipLines_cons (by decide)]
  simp [first, next, -List.length_cons]

theorem arrayItems_bracket (first : item ('"' :: r) = .ok (v, ']' :: t)) :
    arrayItems item (fuel + 1) read ('"' :: r) = .ok ((v :: read).reverse, t) := by
  have next : skipLines (']' :: t).length (']' :: t) = .ok (']' :: t) :=
    skipLines_cons (by decide) t
  rw [arrayItems, skipLines_cons (by decide)]
  simp [first, next, -List.length_cons]

end

theorem listed_cons (s x : String) (l : List String) (rest : Input) :
    listed s (x :: l) ++ rest = quoted s ++ ',' :: ' ' :: (listed x l ++ rest) := by
  simp [listed]

/-- Behind the first of several quoted texts the reader goes on with the others. -/
theorem arrayItems_listed_cons {depth : Nat} {s x : String} {l : List String} {rest : Input}
    {t : Tree} (taken : value depth (quoted s ++ ',' :: ' ' :: (listed x l ++ rest)) =
      .ok (t, ',' :: ' ' :: (listed x l ++ rest))) (fuel : Nat) (read : List Tree) :
    arrayItems (value depth) (fuel + 2) read (listed s (x :: l) ++ rest) =
      arrayItems (value depth) (fuel + 1) (t :: read) (listed x l ++ rest) := by
  obtain ⟨r, start⟩ := listed_eq_cons x l
  rw [listed_cons]
  refine (arrayItems_comma (value depth) (fuel + 1) read taken).trans ?_
  rw [start, List.cons_append, arrayItems_blank]

/-- The items of an array of quoted texts. -/
theorem arrayItems_listed (depth : Nat) {s : String} {l : List String}
    (h : ∀ x ∈ s :: l, Readable x) {fuel : Nat} (enough : l.length < fuel) (read : List Tree)
    (rest : Input) :
    ∃ items, List.Forall₂ IsString (s :: l) items ∧
      arrayItems (value depth) fuel read (listed s l ++ ']' :: rest) =
        .ok (read.reverse ++ items, rest) := by
  induction l generalizing s fuel read with
  | nil =>
    obtain ⟨fuel, rfl⟩ : ∃ n, fuel = n + 1 := ⟨fuel - 1, by simp at enough; omega⟩
    have ends : (']' :: rest).head? ≠ some '"' := by simp
    obtain ⟨t, taken, isString⟩ := value_quoted depth (h s List.mem_cons_self) ends
    refine ⟨[t], .cons isString .nil, ?_⟩
    rw [listed]
    exact (arrayItems_bracket (value depth) fuel read taken).trans (by simp)
  | cons x l ih =>
    simp only [List.length_cons] at enough
    obtain ⟨fuel, rfl⟩ : ∃ n, fuel = n + 2 := ⟨fuel - 2, by omega⟩
    have ends : (',' :: ' ' :: (listed x l ++ ']' :: rest)).head? ≠ some '"' := by simp
    obtain ⟨t, taken, isString⟩ := value_quoted depth (h s List.mem_cons_self) ends
    have fewer : l.length < fuel + 1 := by omega
    obtain ⟨items, areStrings, more⟩ :=
      ih (fun y hy => h y (List.mem_cons_of_mem s hy)) fewer (t :: read)
    refine ⟨t :: items, .cons isString areStrings, ?_⟩
    rw [arrayItems_listed_cons taken, more]
    simp

theorem arrayItems_listed_error (depth : Nat) {s : String} {l : List String}
    (h : ¬ ∀ x ∈ s :: l, Readable x) {fuel : Nat} (enough : l.length < fuel) (read : List Tree)
    (rest : Input) :
    ∃ fault, arrayItems (value depth) fuel read (listed s l ++ ']' :: rest) = .error fault := by
  induction l generalizing s fuel read with
  | nil =>
    obtain ⟨fuel, rfl⟩ : ∃ n, fuel = n + 1 := ⟨fuel - 1, by simp at enough; omega⟩
    have unreadable : ¬ Readable s := by simpa using h
    have ends : (']' :: rest).head? ≠ some '"' := by simp
    obtain ⟨fault, refused⟩ := value_quoted_error depth unreadable ends
    exact ⟨fault, arrayItems_error (value depth) fuel read refused⟩
  | cons x l ih =>
    simp only [List.length_cons] at enough
    obtain ⟨fuel, rfl⟩ : ∃ n, fuel = n + 2 := ⟨fuel - 2, by omega⟩
    have ends : (',' :: ' ' :: (listed x l ++ ']' :: rest)).head? ≠ some '"' := by simp
    by_cases first : Readable s
    · obtain ⟨t, taken, _⟩ := value_quoted depth first ends
      have others : ¬ ∀ y ∈ x :: l, Readable y := fun all =>
        h (List.forall_mem_cons.mpr ⟨first, all⟩)
      have fewer : l.length < fuel + 1 := by omega
      rw [arrayItems_listed_cons taken]
      exact ih others fewer (t :: read)
    · obtain ⟨fault, refused⟩ := value_quoted_error depth first ends
      rw [listed_cons]
      exact ⟨fault, arrayItems_error (value depth) (fuel + 1) read refused⟩

/-! ### All values -/

/-- What a configuration writes behind a key. -/
inductive Datum where
  | string (s : String)
  | strings (l : List String)
  | number (n : Nat)
  | switch (b : Bool)

namespace Datum

/-- A value as it is written. -/
def chars : Datum → Input
  | string s => quoted s
  | strings [] => ['[', ']']
  | strings (s :: l) => '[' :: (listed s l ++ [']'])
  | number n => Nat.toDigits 10 n
  | switch true => ['t', 'r', 'u', 'e']
  | switch false => ['f', 'a', 'l', 's', 'e']

/-- Whether a value is read as it is written: texts without the characters that are quoted in
another way, and numbers of 63 bits. -/
def IsReadable : Datum → Prop
  | string s => Readable s
  | strings l => ∀ s ∈ l, Readable s
  | number n => n < Nat.pow 2 63
  | switch _ => True

/-- What a value is read as. -/
def Holds : Datum → Tree → Prop
  | string s, t => IsString s t
  | strings l, t => ∃ span items, t = .array span items ∧ List.Forall₂ IsString l items
  | number n, t => ∃ span, t = .scalar span (.integer n)
  | switch b, t => ∃ span, t = .scalar span (.bool b)

theorem chars_strings (s : String) (l : List String) (rest : Input) :
    (strings (s :: l)).chars ++ rest = '[' :: (listed s l ++ ']' :: rest) := by
  simp [chars]

theorem length_lt_listed (s : String) (l : List String) : l.length < (listed s l).length := by
  induction l generalizing s with
  | nil => simp [listed, quoted]
  | cons t l ih =>
    have := ih t
    simp only [listed, List.length_append, List.length_cons]
    omega

/-- The array reader is given more steps than there are items. -/
theorem value_listed_eq (depth : Nat) (s : String) (l : List String) (rest : Input) :
    ∃ fuel start, l.length < fuel ∧ value (depth + 1) ('[' :: (listed s l ++ ']' :: rest)) =
      (arrayItems (value depth) fuel [] (listed s l ++ ']' :: rest)).map fun (items, t) =>
        (.array ⟨start, t.length⟩ items, t) := by
  refine ⟨(listed s l ++ ']' :: rest).length + 1, ('[' :: (listed s l ++ ']' :: rest)).length, ?_, ?_⟩
  · have := length_lt_listed s l
    simp only [List.length_append]
    omega
  · rw [value, valueWith]
    cases arrayItems _ _ _ _ <;> rfl

theorem value_digits (depth n : Nat) (rest : Input) :
    ∃ start, value depth (Nat.toDigits 10 n ++ '\n' :: rest) =
      (makeInteger (Nat.toDigits 10 n ++ '\n' :: rest) n ('\n' :: rest)).map fun (v, t) =>
        (.scalar ⟨start, t.length⟩ v, t) := by
  have taken := number_toDigits n rest
  obtain ⟨c, ds, digits, digit⟩ := toDigits_eq_cons n
  have other : c ≠ '[' ∧ c ≠ '\x7b' ∧ c ≠ '"' ∧ c ≠ '\'' := by
    refine ⟨?_, ?_, ?_, ?_⟩ <;> (rintro rfl; exact absurd digit (by decide))
  rw [digits, List.cons_append] at taken ⊢
  refine ⟨(c :: (ds ++ '\n' :: rest)).length, ?_⟩
  rw [value_scalar depth other.1 other.2.1, scalar, if_neg (by simp [other]),
    if_pos (by simp [digit]), taken]

/-- A value at the end of a line is read as itself. -/
theorem value_chars (depth : Nat) {x : Datum} (h : x.IsReadable) (rest : Input) :
    ∃ t, value (depth + 1) (x.chars ++ '\n' :: rest) = .ok (t, '\n' :: rest) ∧ x.Holds t := by
  match x with
  | string s => exact value_quoted (depth + 1) h (by simp)
  | strings [] => exact ⟨_, rfl, _, _, rfl, .nil⟩
  | strings (s :: l) =>
    obtain ⟨fuel, start, enough, eq⟩ := value_listed_eq depth s l ('\n' :: rest)
    obtain ⟨items, areStrings, taken⟩ := arrayItems_listed depth h enough [] ('\n' :: rest)
    rw [chars_strings, eq, taken]
    exact ⟨_, rfl, _, _, rfl, areStrings⟩
  | number n =>
    obtain ⟨start, eq⟩ := value_digits (depth + 1) n rest
    have held : fits (n : Int) = true := (fits_natCast n).mpr h
    rw [chars, eq, makeInteger, if_pos held]
    exact ⟨_, rfl, _, rfl⟩
  | switch true => exact ⟨_, rfl, _, rfl⟩
  | switch false => exact ⟨_, rfl, _, rfl⟩

/-- Any other value is refused. -/
theorem value_chars_error (depth : Nat) {x : Datum} (h : ¬ x.IsReadable) (rest : Input) :
    ∃ fault, value (depth + 1) (x.chars ++ '\n' :: rest) = .error fault := by
  match x with
  | string s => exact value_quoted_error (depth + 1) h (by simp)
  | strings [] => exact absurd (by simp [IsReadable]) h
  | strings (s :: l) =>
    obtain ⟨fuel, start, enough, eq⟩ := value_listed_eq depth s l ('\n' :: rest)
    obtain ⟨fault, refused⟩ := arrayItems_listed_error depth h enough [] ('\n' :: rest)
    rw [chars_strings, eq, refused]
    exact ⟨_, rfl⟩
  | number n =>
    obtain ⟨start, eq⟩ := value_digits (depth + 1) n rest
    have unfit : ¬ fits (n : Int) = true := fun held => h ((fits_natCast n).mp held)
    rw [chars, eq, makeInteger, if_neg unfit]
    exact ⟨_, rfl⟩
  | switch b => exact absurd trivial h

end Datum

end ColumnMap.Toml
