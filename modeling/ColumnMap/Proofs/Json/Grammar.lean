import ColumnMap.Proofs.Json.Layout
import ColumnMap.Proofs.Json.NumeralReading
import ColumnMap.Proofs.Json.Spelling

/-!
The grammar of JSON texts, and readers that accept just the texts of a grammar. Such a reader takes
every text of the grammar, and all that it reads is one, so the texts that it decodes are known.
-/

namespace ColumnMap.Json

/-! ### Blanks -/

theorem blank_append {s t : Bytes} (hs : Blank s) (ht : Blank t) : Blank (s ++ t) :=
  fun b hb => (List.mem_append.mp hb).elim (hs b) (ht b)

theorem exists_gap (s : Bytes) : ∃ gap, Blank gap ∧ s = gap ++ skipSpace s := by
  refine ⟨s.takeWhile isSpace, fun b hb => ?_, (List.takeWhile_append_dropWhile).symm⟩
  exact List.all_eq_true.mp List.all_takeWhile b hb

/-- What stands before the first byte that is no blank. -/
theorem gap_of_skipSpace {s u : Bytes} {b : UInt8} (h : skipSpace s = b :: u) :
    ∃ gap, Blank gap ∧ s = gap ++ b :: u := by
  obtain ⟨gap, blank, whole⟩ := exists_gap s
  exact ⟨gap, blank, h ▸ whole⟩

theorem blank_of_skipSpace {s : Bytes} (h : skipSpace s = []) : Blank s := by
  obtain ⟨gap, blank, whole⟩ := exists_gap s
  rw [h, List.append_nil] at whole
  exact whole ▸ blank

theorem skipSpace_nil {gap : Bytes} (h : Blank gap) : skipSpace gap = [] := by
  have := skipSpace_blank h []
  rwa [List.append_nil] at this

/-! ### Scalars -/

theorem word_iff {w s r : Bytes} : word w s = .ok ((), r) ↔ s = w ++ r := by
  induction w generalizing s with
  | nil => simp [word]
  | cons x w ih =>
    cases s with
    | nil => simp [word, fail]
    | cons b s =>
      simp only [word, List.cons_append, List.cons.injEq]
      split
      · rename_i same
        simp [same, ih]
      · rename_i other
        simp [other, failAt]

/-- The text of a value without parts. -/
inductive ScalarText : Bytes → Json → Prop where
  | null : ScalarText (encode "null".toList) .null
  | bool (b : Bool) : ScalarText (encode (boolChars b)) (.bool b)
  | number (n : Numeral) {a : Number} (h : n.number? = some a) : ScalarText n.text (.number a)
  | string {t : Bytes} {s : String} (h : StringText t s) : ScalarText t (.string s)

theorem Ends.stops {r : Bytes} (h : Ends r) (fraction : Option Bytes) (x : Option Exponent) :
    Stops fraction x r := by
  cases r with
  | nil => exact ⟨rfl, by simp, by simp⟩
  | cons b r =>
    have other : isDigit b = false ∧ isExponentLetter b = false ∧ b ≠ byte '.' := by
      rcases h with space | rfl | rfl | rfl
      · simp only [isSpace, Bool.or_eq_true, beq_iff_eq] at space
        rcases space with ((rfl | rfl) | rfl) | rfl <;> decide
      all_goals decide
    exact ⟨other.1, by simp [other.2.1], by simp [other.2.2]⟩

theorem onResult_eq_ok {α β : Type} {f : α → β} {x : Scan α} {b : β} {r : Bytes} :
    onResult f x = .ok (b, r) ↔ ∃ a, x = .ok (a, r) ∧ f a = b := by
  cases x with
  | error e => simp [onResult]
  | ok v =>
    obtain ⟨a, t⟩ := v
    simp only [onResult, Except.ok.injEq, Prod.mk.injEq]
    constructor
    · rintro ⟨rfl, rfl⟩
      exact ⟨a, ⟨rfl, rfl⟩, rfl⟩
    · rintro ⟨_, ⟨rfl, rfl⟩, rfl⟩
      exact ⟨rfl, rfl⟩

/-- What is read as a value without parts is the text of one. -/
theorem scalar_gives {b : UInt8} {s r : Bytes} {v : Json} (h : scalar b s = .ok (v, r)) :
    ∃ t, ScalarText (b :: t) v ∧ s = t ++ r := by
  unfold scalar at h
  split at h
  · obtain ⟨_, found, rfl⟩ := onResult_eq_ok.mp h
    exact ⟨_, ‹b = _› ▸ .null, word_iff.mp found⟩
  split at h
  · obtain ⟨_, found, rfl⟩ := onResult_eq_ok.mp h
    exact ⟨_, ‹b = _› ▸ .bool true, word_iff.mp found⟩
  split at h
  · obtain ⟨_, found, rfl⟩ := onResult_eq_ok.mp h
    exact ⟨_, ‹b = _› ▸ .bool false, word_iff.mp found⟩
  split at h
  · rename_i minus
    obtain ⟨a, found, rfl⟩ := onResult_eq_ok.mp h
    obtain ⟨n, negative, rfl, -, value⟩ := scanNumber_iff.mp found
    exact ⟨n.unsigned, minus ▸ Numeral.text_negative negative ▸ .number n value, rfl⟩
  split at h
  · obtain ⟨a, found, rfl⟩ := onResult_eq_ok.mp h
    obtain ⟨n, positive, whole, -, value⟩ := scanNumber_iff.mp found
    obtain ⟨t, first, rfl⟩ := Numeral.unsigned_of_cons whole
    exact ⟨t, first ▸ Numeral.text_positive positive ▸ .number n value, rfl⟩
  split at h
  · rename_i quote
    obtain ⟨x, found, rfl⟩ := onResult_eq_ok.mp h
    obtain ⟨t, string, rfl⟩ := scanString_iff.mp found
    exact ⟨t, .string (quote ▸ string), rfl⟩
  · simp [failAt] at h

theorem Numeral.text_begins (n : Numeral) :
    ∃ b r, n.text = b :: r ∧ isSpace b = false ∧ b ≠ byte ']' ∧ b ≠ byte '[' ∧
      b ≠ byte '\x7b' := by
  unfold text
  split
  · obtain ⟨b, t, first, digit⟩ := n.unsigned_first
    have other : ∀ c : UInt8, isDigit c = true → isSpace c = false ∧ c ≠ byte ']' ∧
        c ≠ byte '[' ∧ c ≠ byte '\x7b' := by decide +kernel
    exact ⟨b, t, first, other b digit⟩
  · exact ⟨_, _, rfl, by decide⟩

theorem no_word_of_isDigit {b : UInt8} (h : isDigit b = true) :
    b ≠ byte 'n' ∧ b ≠ byte 't' ∧ b ≠ byte 'f' ∧ b ≠ byte '-' := by
  have all : ∀ c : UInt8, isDigit c = true → c ≠ byte 'n' ∧ c ≠ byte 't' ∧ c ≠ byte 'f' ∧
      c ≠ byte '-' := by decide +kernel
  exact all b h

/-- A scalar begins with a byte that begins nothing else. -/
theorem ScalarText.begins {t : Bytes} {v : Json} (h : ScalarText t v) :
    ∃ b r, t = b :: r ∧ isSpace b = false ∧ b ≠ byte ']' ∧ b ≠ byte '[' ∧ b ≠ byte '\x7b' := by
  cases h with
  | null => exact ⟨_, _, rfl, by decide⟩
  | bool b => cases b <;> exact ⟨_, _, rfl, by decide⟩
  | number n => exact n.text_begins
  | string h =>
    obtain ⟨_, rfl⟩ := h.begins
    exact ⟨_, _, rfl, by decide⟩

/-- The text of a value without parts is read as it. -/
theorem scalar_takes {b : UInt8} {t r : Bytes} {v : Json} (h : ScalarText (b :: t) v)
    (ends : Ends r) : scalar b (t ++ r) = .ok (v, r) := by
  generalize ht : b :: t = text at h
  cases h with
  | null =>
    obtain ⟨rfl, rfl⟩ := List.cons.inj ht
    rfl
  | bool x =>
    cases x <;> obtain ⟨rfl, rfl⟩ := List.cons.inj ht <;> rfl
  | number n value =>
    have read := scanNumber_iff.mpr ⟨n, rfl, rfl, ends.stops _ _, value⟩
    unfold Numeral.text at ht
    split at ht
    · rename_i positive
      obtain ⟨c, u, first, digit⟩ := n.unsigned_first
      rw [← ht, positive, List.cons_append] at read
      rw [first] at ht
      obtain ⟨rfl, -⟩ := List.cons.inj ht
      obtain ⟨hn, ht, hf, hm⟩ := no_word_of_isDigit digit
      rw [scalar, if_neg hn, if_neg ht, if_neg hf, if_neg hm, if_pos digit, read]
      rfl
    · rename_i negative
      obtain ⟨rfl, rfl⟩ := List.cons.inj ht
      rw [Bool.not_eq_true] at negative
      rw [negative] at read
      rw [scalar, if_neg (by decide), if_neg (by decide), if_neg (by decide), if_pos rfl, read]
      rfl
  | string h =>
    subst ht
    obtain ⟨_, quote⟩ := h.begins
    obtain rfl : b = byte '"' := (List.cons.inj quote).1
    have read : scanString (t ++ r) = .ok (_, r) := scanString_iff.mpr ⟨t, h, rfl⟩
    rw [scalar, if_neg (by decide), if_neg (by decide), if_neg (by decide), if_neg (by decide),
      if_neg (by decide), if_pos rfl, read]
    rfl

/-! ### Readers of a grammar -/

section

variable {α β : Type}

/-- The reader accepts the texts that stand in `L` to a value, and reads this value from them. -/
structure Reader.Reads (reader : Reader α) (L : Bytes → α → Prop) : Prop where
  takes : ∀ {t a}, L t a → reader.Takes t a
  gives : ∀ {s r a}, reader.read s = .ok (a, r) →
    ∃ gap t, Blank gap ∧ s = gap ++ (t ++ r) ∧ L t a

/-- A text of `L` with blanks around it. -/
def Padded (L : Bytes → α → Prop) (s : Bytes) (a : α) : Prop :=
  ∃ gap t close, Blank gap ∧ Blank close ∧ s = gap ++ (t ++ close) ∧ L t a

theorem Reader.Reads.decode_iff {reader : Reader α} {L : Bytes → α → Prop} (h : reader.Reads L)
    {s : Bytes} {a : α} : reader.decode s = .ok a ↔ Padded L s a := by
  constructor
  · intro found
    unfold Reader.decode at found
    split at found
    · simp at found
    rename_i read
    split at found
    · rename_i rest
      obtain ⟨gap, t, blank, rfl, text⟩ := h.gives read
      cases found
      exact ⟨gap, t, _, blank, blank_of_skipSpace rest, rfl, text⟩
    · simp at found
  · rintro ⟨gap, t, close, hg, hc, rfl, text⟩
    have behind : Ends close := by
      rw [← List.append_nil close]
      exact ends_blank hc trivial
    simp only [Reader.decode, (h.takes text).reads hg behind, skipSpace_nil hc]

theorem Reader.Reads.map {reader : Reader α} {L : Bytes → α → Prop} (h : reader.Reads L)
    (f : α → β) : (reader.map f).Reads fun t b => ∃ a, L t a ∧ f a = b where
  takes := by
    rintro t _ ⟨a, text, rfl⟩
    exact (h.takes text).map f
  gives found := by
    obtain ⟨a, read, rfl⟩ := onResult_eq_ok.mp found
    obtain ⟨gap, t, blank, whole, text⟩ := h.gives read
    exact ⟨gap, t, blank, whole, a, text, rfl⟩

/-- The reader of strings accepts the texts of strings. -/
theorem reads_string : Reader.string.Reads StringText where
  takes := by
    rintro t x string
    obtain ⟨t, rfl⟩ := string.begins
    refine ⟨⟨_, _, rfl, by decide, by decide⟩, fun {gap rest} hg _ => ?_⟩
    have read : scanString (t ++ rest) = .ok (x, rest) := scanString_iff.mpr ⟨t, string, rfl⟩
    simp only [Reader.string, readString, List.cons_append,
      skipSpace_to hg (by decide : isSpace (byte '"') = false), if_true, read]
  gives {s r x} found := by
    simp only [Reader.string, readString] at found
    split at found
    · simp [fail] at found
    rename_i here
    obtain ⟨gap, blank, rfl⟩ := gap_of_skipSpace here
    split at found
    · rename_i quote
      obtain ⟨t, string, rfl⟩ := scanString_iff.mp found
      exact ⟨gap, _, blank, by rw [quote]; rfl, string⟩
    · simp at found

/-! ### Lists -/

/-- What stands before an item: a gap, with a comma in it behind another item. -/
inductive Separator : Bool → Bytes → Prop where
  | first {gap : Bytes} (h : Blank gap) : Separator true gap
  | comma {before gap : Bytes} (hb : Blank before) (hg : Blank gap) :
      Separator false (before ++ byte ',' :: gap)

/-- The texts of items between brackets, the first of them or not. -/
inductive Separated (item : Bytes → α → Prop) : Bool → Bytes → List α → Prop where
  | done {first : Bool} {gap : Bytes} (h : Blank gap) : Separated item first gap []
  | item {first : Bool} {sep t rest : Bytes} {a : α} {l : List α} (hs : Separator first sep)
      (ha : item t a) (hl : Separated item false rest l) :
      Separated item first (sep ++ (t ++ rest)) (a :: l)

/-- The text of a list. -/
def ListText (item : Bytes → α → Prop) (text : Bytes) (l : List α) : Prop :=
  ∃ body, Separated item true body l ∧ text = byte '[' :: (body ++ [byte ']'])

theorem Separator.append {first : Bool} {sep gap : Bytes} (h : Separator first sep)
    (hg : Blank gap) : Separator first (sep ++ gap) := by
  cases h with
  | first h => exact .first (blank_append h hg)
  | comma hb h =>
    rw [List.append_assoc, List.cons_append]
    exact .comma hb (blank_append h hg)

theorem Separated.ends {item : Bytes → α → Prop} {body : Bytes} {l : List α}
    (h : Separated item false body l) {b : UInt8} (hb : b = byte ']' ∨ b = byte '\x7d')
    (r : Bytes) : Ends (body ++ b :: r) := by
  cases h with
  | done h => exact ends_blank h (.inr (.inr hb))
  | item hs =>
    cases hs with
    | comma hb =>
      rw [List.append_assoc, List.append_assoc]
      exact ends_blank hb (.inr (.inl rfl))

variable {item : Reader α} {L : Bytes → α → Prop}

theorem nextItem_separator {first : Bool} {sep t : Bytes} {a : α} (hs : Separator first sep)
    (h : item.Takes t a) (r : Bytes) :
    nextItem first (sep ++ (t ++ r)) = .ok (some (t ++ r)) := by
  cases hs with
  | first hg => exact nextItem_first hg h r
  | comma hb hg =>
    rw [List.append_assoc, List.cons_append, ← nextItem_next hg h r]
    simp only [nextItem, skipSpace_blank hb]

theorem nextItem_gives {first : Bool} {s t : Bytes} (h : nextItem first s = .ok (some t)) :
    ∃ sep, Separator first sep ∧ s = sep ++ t := by
  unfold nextItem at h
  split at h
  · simp at h
  rename_i here
  obtain ⟨gap, blank, rfl⟩ := gap_of_skipSpace here
  split at h
  · simp at h
  split at h
  · rename_i first_
    cases h
    exact ⟨gap, first_ ▸ .first blank, rfl⟩
  rename_i first_
  split at h
  · rename_i comma
    split at h
    · simp at h
    rename_i here'
    obtain ⟨gap', blank', rfl⟩ := gap_of_skipSpace here'
    split at h
    · simp at h
    · cases h
      obtain rfl : first = false := by simpa using first_
      exact ⟨gap ++ byte ',' :: gap', .comma blank blank', by simp [comma]⟩
  · simp at h

theorem nextItem_none {first : Bool} {s : Bytes} (h : nextItem first s = .ok none) :
    ∃ gap, Blank gap ∧ s = gap ++ byte ']' :: (skipSpace s).drop 1 := by
  unfold nextItem at h
  split at h
  · simp at h
  rename_i here
  split at h
  · rename_i close
    obtain ⟨gap, blank, whole⟩ := gap_of_skipSpace here
    rw [here]
    exact ⟨gap, blank, close ▸ whole⟩
  split at h
  · simp at h
  split at h
  · split at h
    · simp at h
    · split at h <;> simp at h
  · simp at h

theorem listItems_separated (h : item.Reads L) {first : Bool} {body : Bytes} {l : List α}
    (texts : Separated L first body l) (read : List α) (r : Bytes) :
    listItems item first read (body ++ byte ']' :: r) = .ok (read.reverse ++ l, r) := by
  induction texts generalizing read with
  | done hg =>
    rw [listItems_close (nextItem_close hg _ r), skipSpace_to hg (by decide)]
    simp
  | @item first sep t rest a l hs ha hl ih =>
    have taken := h.takes ha
    rw [List.append_assoc, List.append_assoc,
      listItems_item (nextItem_separator hs taken _) (taken.here (hl.ends (.inl rfl) r)), ih]
    simp

theorem listItems_gives (h : item.Reads L) {first : Bool} {read l : List α} {s r : Bytes}
    (found : listItems item first read s = .ok (l, r)) :
    ∃ body new, Separated L first body new ∧ l = read.reverse ++ new ∧
      s = body ++ byte ']' :: r := by
  fun_induction listItems item first read s with
  | case1 => simp at found
  | case2 _ _ _ close =>
    obtain ⟨gap, blank, whole⟩ := nextItem_none close
    cases found
    exact ⟨gap, [], .done blank, by simp, whole⟩
  | case3 => simp at found
  | case4 first read s t next a u taken ih =>
    obtain ⟨body, new, texts, rfl, rfl⟩ := ih found
    obtain ⟨sep, hs, rfl⟩ := nextItem_gives next
    obtain ⟨gap, text, blank, rfl, ha⟩ := h.gives taken
    exact ⟨_, a :: new, .item (hs.append blank) ha texts, by simp, by simp⟩

/-- The reader of lists accepts the lists of what the reader of items accepts. -/
theorem reads_list (h : item.Reads L) (depth : Nat) :
    (Reader.list (depth + 1) item).Reads (ListText L) where
  takes := by
    rintro _ l ⟨body, texts, rfl⟩
    refine ⟨⟨_, _, rfl, by decide, by decide⟩, fun {gap rest} hg _ => ?_⟩
    have found : skipSpace (gap ++ (byte '[' :: (body ++ [byte ']']) ++ rest)) =
        byte '[' :: (body ++ byte ']' :: rest) := by
      rw [List.cons_append, skipSpace_to hg (by decide)]
      simp
    simp only [Reader.list, readList, found, if_true, Nat.succ_ne_zero, if_false,
      listItems_separated h texts, List.reverse_nil, List.nil_append]
  gives {s r l} found := by
    simp only [Reader.list, readList] at found
    split at found
    · simp [fail] at found
    rename_i here
    obtain ⟨gap, blank, rfl⟩ := gap_of_skipSpace here
    split at found
    · rename_i open_
      rw [if_neg (Nat.succ_ne_zero depth)] at found
      obtain ⟨body, new, texts, rfl, rfl⟩ := listItems_gives h found
      exact ⟨gap, _, blank, by simp [open_], body, texts, rfl⟩
    · simp at found

end

end ColumnMap.Json
