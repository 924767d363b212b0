import ColumnMap.Proofs.Json.Grammar

/-!
Which texts are passed over as a value whose content does not matter. The reader of them keeps a
stack of open brackets and no tree; what it has still to see is a text that closes them in turn.
-/

namespace ColumnMap.Json

/-! ### Scalars -/

/-- The form of a value without parts. -/
inductive ScalarForm : Bytes → Prop where
  | null : ScalarForm (encode "null".toList)
  | bool (b : Bool) : ScalarForm (encode (boolChars b))
  | number (n : Numeral) : ScalarForm n.text
  | string {t : Bytes} (h : StringForm t) : ScalarForm t

theorem ScalarForm.begins {t : Bytes} (h : ScalarForm t) :
    ∃ b r, t = b :: r ∧ isSpace b = false ∧ b ≠ byte ']' ∧ b ≠ byte '[' ∧ b ≠ byte '\x7b' := by
  cases h with
  | null => exact ⟨_, _, rfl, by decide⟩
  | bool b => cases b <;> exact ⟨_, _, rfl, by decide⟩
  | number n => exact n.text_begins
  | string h =>
    obtain ⟨_, rfl⟩ := h.begins
    exact ⟨_, _, rfl, by decide⟩

theorem skipScalar_gives {b : UInt8} {s r : Bytes} (h : skipScalar b s = .ok ((), r)) :
    ∃ t, ScalarForm (b :: t) ∧ s = t ++ r := by
  unfold skipScalar at h
  split at h
  · exact ⟨_, ‹b = _› ▸ .null, word_iff.mp h⟩
  split at h
  · exact ⟨_, ‹b = _› ▸ .bool true, word_iff.mp h⟩
  split at h
  · exact ⟨_, ‹b = _› ▸ .bool false, word_iff.mp h⟩
  split at h
  · rename_i minus
    obtain ⟨n, negative, rfl, -⟩ := skipNumber_gives h false
    exact ⟨n.unsigned, minus ▸ Numeral.text_negative negative ▸ .number n, rfl⟩
  split at h
  · obtain ⟨n, positive, whole, -⟩ := skipNumber_gives h true
    obtain ⟨t, first, rfl⟩ := Numeral.unsigned_of_cons whole
    exact ⟨t, first ▸ Numeral.text_positive positive ▸ .number n, rfl⟩
  split at h
  · rename_i quote
    obtain ⟨t, string, rfl⟩ := skipString_iff.mp h
    exact ⟨t, .string (quote ▸ string), rfl⟩
  · simp [failAt] at h

theorem skipScalar_takes {b : UInt8} {t r : Bytes} (h : ScalarForm (b :: t)) (ends : Ends r) :
    skipScalar b (t ++ r) = .ok ((), r) := by
  generalize ht : b :: t = text at h
  cases h with
  | null =>
    obtain ⟨rfl, rfl⟩ := List.cons.inj ht
    rfl
  | bool x =>
    cases x <;> obtain ⟨rfl, rfl⟩ := List.cons.inj ht <;> rfl
  | number n =>
    have passed := skipNumber_unsigned n (ends.stops _ _)
    unfold Numeral.text at ht
    split at ht
    · obtain ⟨c, u, first, digit⟩ := n.unsigned_first
      rw [← ht, List.cons_append] at passed
      rw [first] at ht
      obtain ⟨rfl, -⟩ := List.cons.inj ht
      obtain ⟨hn, ht, hf, hm⟩ := no_word_of_isDigit digit
      rw [skipScalar, if_neg hn, if_neg ht, if_neg hf, if_neg hm, if_pos digit, passed]
    · obtain ⟨rfl, rfl⟩ := List.cons.inj ht
      rw [skipScalar, if_neg (by decide), if_neg (by decide), if_neg (by decide), if_pos rfl,
        passed]
  | string h =>
    subst ht
    obtain ⟨_, quote⟩ := h.begins
    obtain rfl : b = byte '"' := (List.cons.inj quote).1
    rw [skipScalar, if_neg (by decide), if_neg (by decide), if_neg (by decide),
      if_neg (by decide), if_neg (by decide), if_pos rfl]
    exact skipString_iff.mpr ⟨t, h, rfl⟩

/-! ### Lists and objects -/

def Bracket.opening : Bracket → UInt8
  | .list => byte '['
  | .object => byte '\x7b'

/-- The form of what stands before a value inside a bracket: in an object a key and its colon. -/
def KeyForm : Bracket → Bytes → Prop
  | .list, key => key = []
  | .object, key => ∃ name gap gap', StringForm name ∧ Blank gap ∧ Blank gap' ∧
      key = name ++ (gap ++ byte ':' :: gap')

/-- The parts of a text: a value, or all that stands inside a bracket from its first item on or from
behind an item. -/
inductive Part where
  | value
  | inside (bracket : Bracket) (first : Bool)

/-- The form of the parts of a text: brackets match and tokens are well formed. -/
inductive Form : Part → Bytes → Prop where
  | scalar {t : Bytes} (h : ScalarForm t) : Form .value t
  | bracket (b : Bracket) {body : Bytes} (h : Form (.inside b true) body) :
      Form .value (b.opening :: (body ++ [b.close]))
  | done {b : Bracket} {first : Bool} {gap : Bytes} (h : Blank gap) : Form (.inside b first) gap
  | item {b : Bracket} {first : Bool} {sep key t rest : Bytes} (hs : Separator first sep)
      (hk : KeyForm b key) (ht : Form .value t) (hr : Form (.inside b false) rest) :
      Form (.inside b first) (sep ++ (key ++ (t ++ rest)))

/-- The form of a value. -/
abbrev ValueForm : Bytes → Prop := Form .value

theorem ValueForm.begins {t : Bytes} (h : ValueForm t) :
    ∃ b r, t = b :: r ∧ isSpace b = false ∧ b ≠ byte ']' := by
  cases h with
  | scalar h =>
    obtain ⟨b, r, e, solid, close, -⟩ := h.begins
    exact ⟨b, r, e, solid, close⟩
  | bracket b => cases b <;> exact ⟨_, _, rfl, by decide⟩

theorem Form.ends {b : Bracket} {body : Bytes} (h : Form (.inside b false) body) (r : Bytes) :
    Ends (body ++ b.close :: r) := by
  have close : b.close = byte ']' ∨ b.close = byte '\x7d' := by
    cases b
    · exact .inl rfl
    · exact .inr rfl
  cases h with
  | done h => exact ends_blank h (.inr (.inr close))
  | item hs =>
    cases hs with
    | comma hb =>
      rw [List.append_assoc, List.append_assoc]
      exact ends_blank hb (.inr (.inl rfl))

/-! ### What is passed over has the form of a value -/

theorem skipKey_gives {s r : Bytes} (h : skipKey s = .ok ((), r)) :
    ∃ gap key, Blank gap ∧ KeyForm .object key ∧ s = gap ++ (key ++ r) := by
  unfold skipKey at h
  split at h
  · simp [fail] at h
  rename_i here
  obtain ⟨gap, blank, rfl⟩ := gap_of_skipSpace here
  split at h
  · rename_i quote
    split at h
    · simp at h
    rename_i found
    obtain ⟨name, string, rfl⟩ := skipString_iff.mp found
    split at h
    · simp [fail] at h
    rename_i here'
    obtain ⟨gap', blank', rfl⟩ := gap_of_skipSpace here'
    split at h
    · rename_i colon
      cases h
      refine ⟨gap, _, blank, ⟨_, gap', [], string, blank', blank_nil, rfl⟩, ?_⟩
      simp [quote, colon]
    · simp [failAt] at h
  · simp [failAt] at h

theorem skipKeyIn_gives {b : Bracket} {outer : List Bracket} {s r : Bytes}
    (h : skipKeyIn (b :: outer) s = .ok ((), r)) :
    ∃ gap key, Blank gap ∧ KeyForm b key ∧ s = gap ++ (key ++ r) := by
  cases b with
  | object => exact skipKey_gives h
  | list =>
    cases h
    exact ⟨[], [], blank_nil, rfl, rfl⟩

/-- Behind an item inside these brackets, `s` closes them one after the other and leaves `r`. -/
def Closes : List Bracket → Bytes → Bytes → Prop
  | [], s, r => s = r
  | b :: outer, s, r => ∃ body u, Form (.inside b false) body ∧ s = body ++ b.close :: u ∧
      Closes outer u r

/-- A text begins with what is awaited and then closes the brackets. -/
def Awaits : Awaited → List Bracket → Bytes → Bytes → Prop
  | .value, inside, s, r => ∃ gap t u, Blank gap ∧ ValueForm t ∧ s = gap ++ (t ++ u) ∧
      Closes inside u r
  | .more, inside, s, r => Closes inside s r
  | .first, [], s, r => s = r
  | .first, b :: outer, s, r => ∃ body u, Form (.inside b true) body ∧ s = body ++ b.close :: u ∧
      Closes outer u r

/-- An item with blanks between its key and its value. -/
theorem Form.item_gap {b : Bracket} {first : Bool} {sep key gap t rest : Bytes}
    (hs : Separator first sep) (hk : KeyForm b key) (hg : Blank gap) (ht : ValueForm t)
    (hr : Form (.inside b false) rest) :
    Form (.inside b first) (sep ++ (key ++ (gap ++ (t ++ rest)))) := by
  cases b with
  | list =>
    obtain rfl := hk
    have keyless : KeyForm .list [] := rfl
    have := Form.item (hs.append hg) keyless ht hr
    simpa using this
  | object =>
    obtain ⟨name, before, after, string, hb, ha, rfl⟩ := hk
    have := Form.item (b := .object) hs
      ⟨name, before, after ++ gap, string, hb, blank_append ha hg, rfl⟩ ht hr
    simpa using this

/-- What closes brackets behind an item does so from in front of it. -/
theorem Awaits.item {b : Bracket} {outer : List Bracket} {first : Bool} {sep key s r : Bytes}
    (hs : Separator first sep) (hk : KeyForm b key) (h : Awaits .value (b :: outer) s r) :
    ∃ body u, Form (.inside b first) body ∧ sep ++ (key ++ s) = body ++ b.close :: u ∧
      Closes outer u r := by
  obtain ⟨gap, t, u, hg, ht, rfl, body, v, hr, rfl, closes⟩ := h
  exact ⟨_, v, .item_gap hs hk hg ht hr, by simp, closes⟩

theorem skipWithin_gives {awaited : Awaited} {inside : List Bracket} {s r : Bytes}
    (h : skipWithin awaited inside s = .ok ((), r)) : Awaits awaited inside s r := by
  fun_induction skipWithin awaited inside s with
  | case1 | case7 | case11 | case13 => simp [fail, failAt] at h
  | case4 | case9 | case15 => simp at h
  | case6 | case12 =>
    cases h
    rfl
  | case2 s inside u here ih =>
    obtain ⟨gap, blank, rfl⟩ := gap_of_skipSpace here
    obtain ⟨body, v, form, rfl, closes⟩ := ih h
    exact ⟨gap, _, v, blank, .bracket .list form, by simp [Bracket.opening, Bracket.close], closes⟩
  | case3 s inside u here _ ih =>
    obtain ⟨gap, blank, rfl⟩ := gap_of_skipSpace here
    obtain ⟨body, v, form, rfl, closes⟩ := ih h
    exact ⟨gap, _, v, blank, .bracket .object form, by simp [Bracket.opening, Bracket.close],
      closes⟩
  | case5 s inside b u here _ _ _ v found ih =>
    obtain ⟨gap, blank, rfl⟩ := gap_of_skipSpace here
    obtain ⟨t, form, rfl⟩ := skipScalar_gives found
    exact ⟨gap, b :: t, v, blank, .scalar form, by simp, ih h⟩
  | case8 s b outer u here ih | case14 s b outer u here ih =>
    obtain ⟨gap, blank, rfl⟩ := gap_of_skipSpace here
    exact ⟨gap, u, .done blank, rfl, ih h⟩
  | case10 s b outer u _ v found here _ ih =>
    obtain ⟨before, hb, rfl⟩ := gap_of_skipSpace here
    obtain ⟨gap, key, hg, hk, rfl⟩ := skipKeyIn_gives found
    have := Awaits.item (.comma hb hg) hk (ih h)
    simpa [Awaits, Closes] using this
  | case16 s b outer c u here _ _ v found ih =>
    obtain ⟨before, hb, rfl⟩ := gap_of_skipSpace here
    obtain ⟨gap, key, hg, hk, whole⟩ := skipKeyIn_gives found
    have := Awaits.item (.first (blank_append hb hg)) hk (ih h)
    rw [whole]
    simpa [Awaits] using this

/-- Whatever is passed over has the form of a value. -/
theorem skipValue_gives {s r : Bytes} (h : skipValue s = .ok ((), r)) :
    ∃ gap t, Blank gap ∧ ValueForm t ∧ s = gap ++ (t ++ r) := by
  obtain ⟨gap, t, _, blank, form, whole, rfl⟩ := skipWithin_gives h
  exact ⟨gap, t, blank, form, whole⟩

/-! ### What has the form of a value is passed over -/

theorem KeyForm.begins {b : Bracket} {key t : Bytes} (hk : KeyForm b key) (ht : ValueForm t)
    (r : Bytes) : ∃ c u, key ++ (t ++ r) = c :: u ∧ isSpace c = false ∧ c ≠ b.close := by
  cases b with
  | list =>
    obtain rfl := hk
    obtain ⟨c, u, rfl, solid, close⟩ := ht.begins
    exact ⟨c, u ++ r, rfl, solid, close⟩
  | object =>
    obtain ⟨_, _, _, ⟨_, -, rfl⟩, -, -, rfl⟩ := hk
    exact ⟨_, _, rfl, by decide, by decide⟩

theorem skipKey_takes {gap key : Bytes} (hg : Blank gap) (h : KeyForm .object key) (r : Bytes) :
    ∃ gap', Blank gap' ∧ skipKey (gap ++ (key ++ r)) = .ok ((), gap' ++ r) := by
  obtain ⟨name, before, after, string, hb, ha, rfl⟩ := h
  obtain ⟨t, rfl⟩ := string.begins
  have passed : skipString (t ++ (before ++ byte ':' :: (after ++ r))) =
      .ok ((), before ++ byte ':' :: (after ++ r)) := skipString_iff.mpr ⟨t, string, rfl⟩
  refine ⟨after, ha, ?_⟩
  simp only [skipKey, List.cons_append, List.append_assoc, passed, if_true,
    skipSpace_to hg (by decide : isSpace (byte '"') = false),
    skipSpace_to hb (by decide : isSpace (byte ':') = false)]

theorem skipKeyIn_takes {b : Bracket} {gap key : Bytes} (hg : Blank gap) (h : KeyForm b key)
    (outer : List Bracket) (r : Bytes) :
    ∃ gap', Blank gap' ∧ skipKeyIn (b :: outer) (gap ++ (key ++ r)) = .ok ((), gap' ++ r) := by
  cases b with
  | object => exact skipKey_takes hg h r
  | list =>
    obtain rfl := h
    exact ⟨gap, hg, rfl⟩

section

variable {inside outer : List Bracket} {b : Bracket} {s u v : Bytes} {c : UInt8}

theorem skipWithin_bracket (h : skipSpace s = b.opening :: u) :
    skipWithin .value inside s = skipWithin .first (b :: inside) u := by
  rw [skipWithin]
  split
  · simp_all
  rename_i here
  rw [h] at here
  cases here
  cases b <;> rfl

theorem skipWithin_scalar (h : skipSpace s = c :: u) (hl : c ≠ byte '[') (ho : c ≠ byte '\x7b')
    (hs : skipScalar c u = .ok ((), v)) :
    skipWithin .value inside s = skipWithin .more inside v := by
  rw [skipWithin]
  split
  · simp_all
  rename_i here
  rw [h] at here
  cases here
  rw [if_neg hl, if_neg ho]
  split
  · simp_all
  rename_i passed
  rw [hs] at passed
  cases passed
  rfl

theorem skipWithin_first (h : skipSpace s = c :: u) (hc : c ≠ b.close)
    (hk : skipKeyIn (b :: outer) (c :: u) = .ok ((), v)) :
    skipWithin .first (b :: outer) s = skipWithin .value (b :: outer) v := by
  conv => lhs; rw [skipWithin]
  split
  · simp_all
  rename_i here
  rw [h] at here
  cases here
  rw [if_neg hc]
  split
  · simp_all
  rename_i passed
  rw [hk] at passed
  cases passed
  rfl

theorem skipWithin_comma (h : skipSpace s = byte ',' :: u)
    (hk : skipKeyIn (b :: outer) u = .ok ((), v)) :
    skipWithin .more (b :: outer) s = skipWithin .value (b :: outer) v := by
  have other : byte ',' ≠ b.close := by cases b <;> decide
  conv => lhs; rw [skipWithin]
  split
  · simp_all
  rename_i here
  rw [h] at here
  cases here
  rw [if_neg other, if_pos rfl]
  split
  · simp_all
  rename_i passed
  rw [hk] at passed
  cases passed
  rfl

/-- What is awaited inside a bracket from its first item on or from behind an item. -/
def Awaited.within : Bool → Awaited
  | true => .first
  | false => .more

theorem skipWithin_close {first : Bool} (h : skipSpace s = b.close :: u) :
    skipWithin (.within first) (b :: outer) s = skipWithin .more outer u := by
  cases first <;>
  · rw [Awaited.within, skipWithin]
    split
    · simp_all
    rename_i here
    rw [h] at here
    cases here
    rw [if_pos rfl]

/-- Comes to the value of an item. -/
theorem skipWithin_item {first : Bool} {sep key t : Bytes} (hs : Separator first sep)
    (hk : KeyForm b key) (ht : ValueForm t) (outer : List Bracket) (r : Bytes) :
    ∃ gap, Blank gap ∧ skipWithin (.within first) (b :: outer) (sep ++ (key ++ (t ++ r))) =
      skipWithin .value (b :: outer) (gap ++ (t ++ r)) := by
  cases hs with
  | first hg =>
    obtain ⟨c, u, here, solid, close⟩ := hk.begins ht r
    obtain ⟨gap, blank, passed⟩ := skipKeyIn_takes blank_nil hk outer (t ++ r)
    rw [List.nil_append, here] at passed
    exact ⟨gap, blank, skipWithin_first (by rw [here, skipSpace_to hg solid]) close passed⟩
  | comma hb hg =>
    obtain ⟨gap, blank, passed⟩ := skipKeyIn_takes hg hk outer (t ++ r)
    rw [List.append_assoc, List.cons_append]
    exact ⟨gap, blank, skipWithin_comma (skipSpace_to hb (by decide) _) passed⟩

/-- A part of a text is passed over inside any brackets. -/
def Part.Skips : Part → Bytes → Prop
  | .value, t => ∀ {gap r : Bytes} {inside : List Bracket}, Blank gap → Ends r →
      skipWithin .value inside (gap ++ (t ++ r)) = skipWithin .more inside r
  | .inside b first, body => ∀ {r : Bytes} {outer : List Bracket},
      skipWithin (.within first) (b :: outer) (body ++ b.close :: r) = skipWithin .more outer r

theorem Form.skips {part : Part} {t : Bytes} (h : Form part t) : part.Skips t := by
  induction h with
  | scalar h =>
    intro gap r inside hg ends
    obtain ⟨c, u, rfl, solid, -, hl, ho⟩ := h.begins
    exact skipWithin_scalar (skipSpace_to hg solid _) hl ho (skipScalar_takes h ends)
  | @bracket b body _ ih =>
    intro gap r inside hg _
    have solid : isSpace b.opening = false := by cases b <;> decide
    rw [List.cons_append, skipWithin_bracket (skipSpace_to hg solid _), List.append_assoc]
    exact ih
  | @done b _ gap hg =>
    intro r outer
    have solid : isSpace b.close = false := by cases b <;> decide
    exact skipWithin_close (skipSpace_to hg solid r)
  | @item b first sep key t rest hs hk ht hr value more =>
    intro r outer
    obtain ⟨gap, blank, reached⟩ :=
      skipWithin_item hs hk ht outer (rest ++ b.close :: r)
    simp only [List.append_assoc]
    rw [reached, value blank (hr.ends r)]
    exact more

/-- Whatever has the form of a value is passed over. -/
theorem skipValue_takes {gap t r : Bytes} (hg : Blank gap) (h : ValueForm t) (ends : Ends r) :
    skipValue (gap ++ (t ++ r)) = .ok ((), r) := by
  rw [skipValue, h.skips hg ends, skipWithin]

end

end ColumnMap.Json
