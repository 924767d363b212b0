import ColumnMap.Program.Lookup
import ColumnMap.Proofs.Json.Scalar

/-!
Values as JSON. Nothing but the text tells a value's kind: a list of values is read from the lists
of texts without parts, and a list that is printed is read back as it was.
-/

namespace ColumnMap.Value

open Json

/-! ### Reading -/

/-- The text of a value. -/
def Spelled (t : Bytes) (v : Value) : Prop := ScalarText t v.toJson

theorem ofJson_eq_ok {j : Json} {v : Value} : ofJson j = .ok v ↔ j = v.toJson := by
  cases j <;> cases v <;> simp [ofJson, ofJson?, toJson]

theorem takes_any {t : Bytes} {j : Json} (h : ScalarText t j) (depth : Nat) :
    (Reader.any depth).Takes t j := by
  obtain ⟨b, r, rfl, solid, close, list, object⟩ := h.begins
  refine ⟨⟨b, r, rfl, solid, close⟩, fun {gap rest} hg ends => ?_⟩
  have read := scalar_takes h ends
  cases depth <;>
  simp [Reader.any, List.cons_append, skipSpace_to hg solid, list, object, read]

theorem gives_any {depth : Nat} {s r : Bytes} {j : Json} {v : Value}
    (h : (Reader.any depth).read s = .ok (j, r)) (scalar : j = v.toJson) :
    ∃ gap t, Blank gap ∧ s = gap ++ (t ++ r) ∧ ScalarText t j := by
  have list : ∀ l, j ≠ .array l := by
    subst scalar
    cases v <;> simp [toJson]
  have object : ∀ l, j ≠ .object l := by
    subst scalar
    cases v <;> simp [toJson]
  have found : ∀ {b : UInt8} {u : Bytes}, skipSpace s = b :: u → Json.scalar b u = .ok (j, r) →
      ∃ gap t, Blank gap ∧ s = gap ++ (t ++ r) ∧ ScalarText t j := fun here read => by
    obtain ⟨gap, blank, rfl⟩ := gap_of_skipSpace here
    obtain ⟨t, text, rfl⟩ := scalar_gives read
    exact ⟨gap, _, blank, rfl, text⟩
  cases depth with
  | zero =>
    simp only [Reader.any] at h
    split at h
    · simp [fail] at h
    rename_i here
    split at h
    · simp [failAt] at h
    · exact found here h
  | succ depth =>
    simp only [Reader.any] at h
    split at h
    · simp [fail] at h
    rename_i here
    split at h
    · obtain ⟨l, -, same⟩ := onResult_eq_ok.mp h
      exact absurd same.symm (list l)
    split at h
    · obtain ⟨l, -, same⟩ := onResult_eq_ok.mp h
      exact absurd same.symm (object l)
    · exact found here h

/-- A value is read from its texts and from nothing else. -/
theorem reads_value (depth : Nat) : (reader depth).Reads Spelled where
  takes {t v} text := by
    have taken := takes_any text depth
    refine ⟨taken.begins, fun {gap rest} hg ends => ?_⟩
    simp only [reader, Reader.accept, taken.reads hg ends, ofJson_eq_ok.mpr rfl]
  gives {s r v} h := by
    simp only [reader, Reader.accept] at h
    split at h
    · simp at h
    rename_i read
    split at h
    · simp at h
    rename_i accepted
    cases h
    obtain rfl := ofJson_eq_ok.mp accepted
    exact gives_any read rfl

/-- A list of values is read from the lists of their texts and from nothing else. -/
theorem reads_values {level : Nat} (h : level < maxDepth) :
    (listReader level).Reads (ListText Spelled) := by
  obtain ⟨depth, below⟩ : ∃ depth, maxDepth - level = depth + 1 := ⟨maxDepth - level - 1, by omega⟩
  rw [listReader, below]
  exact reads_list (reads_value _) depth

/-! ### Printing -/

/-- Without digits behind a point, and within 64 bits. -/
def Integral : Value → Prop
  | .number n => ∃ i, n = .int i ∧ Number.InRange i
  | _ => True

def printed (v : Value) : Bytes := encode (scalarChars v.toJson)

theorem spelled_printed {v : Value} (h : v.Integral) : Spelled v.printed v := by
  cases v with
  | null => exact .null
  | bool b => exact .bool b
  | number n =>
    obtain ⟨i, rfl, range⟩ := h
    have text : encode (scalarChars (.number (.int i))) = (Numeral.ofInt i).text := by
      rw [scalarChars, Number.text, String.toList_ofList, text_ofInt]
    rw [printed, toJson, text]
    exact .number _ (number?_ofInt range)
  | text s => exact .string (stringText_quoted s)

theorem compactChars_toJson (v : Value) : compactChars v.toJson = scalarChars v.toJson := by
  cases v <;> simp [toJson, compactChars]

theorem prettyChars_toJson (level : Nat) (v : Value) :
    prettyChars level v.toJson = scalarChars v.toJson := by
  cases v <;> simp [toJson, prettyChars]

variable {values : List Value}

theorem encode_compact (values : List Value) :
    encode (compactChars (listToJson values)) =
      byte '[' :: (row [] (values.map printed) ++ ([] ++ [byte ']'])) := by
  rw [listToJson, compactChars, List.cons_append, encode_ascii (by decide), encode_append,
    encode_compactItems, List.map_map]
  simp only [Function.comp_def, compactChars_toJson]
  rfl

theorem encode_pretty (values : List Value) : ∃ gap close, Blank gap ∧ Blank close ∧
    encode (prettyChars 0 (listToJson values)) =
      byte '[' :: (row gap (values.map printed) ++ (close ++ [byte ']'])) := by
  obtain ⟨close, blank, text⟩ := encode_prettyArray 0 (values.map toJson)
  refine ⟨_, close, blank_indent 1, blank, ?_⟩
  rw [listToJson, text, List.map_map]
  simp only [Function.comp_def, prettyChars_toJson]
  rfl

theorem listOfText_row (h : ∀ v ∈ values, v.Integral) {gap close behind : Bytes} (hg : Blank gap)
    (hc : Blank close) (hb : Blank behind) {text : String}
    (ht : encode text.toList =
      byte '[' :: (row gap (values.map printed) ++ (close ++ [byte ']'])) ++ behind) :
    listOfText text = .ok values := by
  have each : ∀ v ∈ values, (reader (maxDepth - 1)).Takes v.printed v := fun v hv =>
    (reads_value _).takes (spelled_printed (h v hv))
  have taken := takes_list (maxDepth - 1) hg hc each
  rw [listOfText, toList_toUTF8, ht]
  exact taken.decode hb

/-- A list of values whose numbers are integers of 64 bits, signed or unsigned, is read back from
its compact text, from its text in lines and from what a lookup prints. -/
theorem listOfText_printed (h : ∀ v ∈ values, v.Integral) :
    listOfText (listToJson values).compact = .ok values ∧
      listOfText (listToJson values).pretty = .ok values ∧
      listOfText (Program.listing true (values.map .ofValue)) = .ok values := by
  obtain ⟨gap, close, hg, hc, text⟩ := encode_pretty values
  refine ⟨?_, ?_, ?_⟩
  · refine listOfText_row h blank_nil blank_nil blank_nil ?_
    rw [Json.compact, String.toList_ofList, encode_compact, List.append_nil]
  · refine listOfText_row h hg hc blank_nil ?_
    rw [Json.pretty, String.toList_ofList, text, List.append_nil]
  · have line : Blank [byte '\n'] := by simp [Blank]; decide
    have same : (values.map Suggestion.ofValue).map (·.value) = values := by
      simp [Function.comp_def, Suggestion.ofValue]
    refine listOfText_row h hg hc line ?_
    rw [Program.listing, if_pos rfl, same, String.toList_append, encode_append, Json.pretty,
      String.toList_ofList, text]
    rfl

/-- Texts that look like other values, and the ends of both ranges. -/
theorem listOfText_printed_lookalikes :
    let values : List Value := [.text "null", .null, .text "true", .bool true, .text "1",
      .number (.int 1), .text "", .text "\"\\\x00😀", .number (.int 18446744073709551615),
      .number (.int (-9223372036854775808))]
    listOfText (listToJson values).compact = .ok values ∧
      listOfText (listToJson values).pretty = .ok values ∧
      listOfText (Program.listing true (values.map .ofValue)) = .ok values := by
  intro values
  apply listOfText_printed
  have range (n : Int) (low : -9223372036854775808 ≤ n) (high : n < 18446744073709551616) :
      Integral (.number (.int n)) := ⟨n, rfl, low, high⟩
  simp only [values, List.forall_mem_cons, List.not_mem_nil, false_imp_iff, implies_true, and_true]
  exact ⟨trivial, trivial, trivial, trivial, trivial, range _ (by decide) (by decide), trivial,
    trivial, range _ (by decide) (by decide), range _ (by decide) (by decide)⟩

end ColumnMap.Value
