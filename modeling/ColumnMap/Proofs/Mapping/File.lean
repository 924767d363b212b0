import ColumnMap.Mapping.File
import ColumnMap.Proofs.Json.Printing

/-!
The text of a mapping file is read as the mappings it was made from, whatever characters stand in
their fields.
-/

namespace ColumnMap.Mapping

open Json

/-- The fields of a mapping, by the names that a file gives them. -/
def fields (m : Mapping) : List (String × String) :=
  [("column", m.column), ("value", m.value), ("auxiliaryInput", m.auxiliaryInput)]

theorem ofFields_fields (m : Mapping) : ofFields m.fields = m := rfl

theorem admits_fields (m : Mapping) : shape.Admits m.fields where
  known := by simp [fields, shape, Shape.has]
  distinct := by simp [fields]
  complete := by simp [fields, shape, Shape.missing?]

/-- The object of a mapping has, under every name, what the field of that name holds. -/
theorem field?_toJson (m : Mapping) (name : String) :
    m.toJson.field? name = (m.fields.lookup name).map .string := by
  by_cases known : name = "column" ∨ name = "value" ∨ name = "auxiliaryInput"
  · rcases known with rfl | rfl | rfl <;> rfl
  · simp only [not_or] at known
    obtain ⟨column, value, note⟩ := known
    have unheld : m.fields.lookup name = none := by
      simp [fields, List.lookup_eq_none_iff, column, value, note]
    rw [unheld]
    simp [toJson, field?, Ne.symm column, Ne.symm value, Ne.symm note]

/-- The names under which it has something are those that a reader of mappings knows. -/
theorem isSome_field?_toJson (m : Mapping) (name : String) :
    (m.toJson.field? name).isSome = shape.has name := by
  simp only [toJson, field?, Option.isSome_map, List.isSome_find?, List.any_reverse]
  rfl

/-- A printed mapping is taken, at any level of nesting. -/
theorem takes_toJson (level depth : Nat) (m : Mapping) :
    (reader (depth + 1)).Takes (encode (prettyChars level m.toJson)) m := by
  obtain ⟨close, blank, printed⟩ :=
    encode_prettyObject level (m.fields.map fun f => (f.1, .string f.2))
  have row_eq : (m.fields.map fun f => (f.1, Json.string f.2)).map (prettyField (level + 1)) =
      m.fields.map (fieldText [byte ' '] quoted) := by
    rw [List.map_map]
    rfl
  have space : Blank [byte ' '] := blank_spaces 1
  have taken : (reader (depth + 1)).Takes _ (ofFields m.fields) :=
    (takes_record depth (blank_indent (level + 1)) blank space (fun f _ => takes_string f.2)
      m.admits_fields).map ofFields
  rwa [ofFields_fields, ← row_eq, ← printed] at taken

/-- A printed list of mappings is taken. -/
theorem takes_listed (mappings : List Mapping) :
    listReader.Takes (encode (prettyChars 0 (.array (mappings.map toJson)))) mappings := by
  obtain ⟨close, blank, printed⟩ := encode_prettyArray 0 (mappings.map toJson)
  rw [printed, List.map_map]
  exact takes_list 126 (blank_indent 1) blank fun m _ => takes_toJson 1 125 m

theorem toList_toText (mappings : List Mapping) :
    (toText mappings).toList = prettyChars 0 (.array (mappings.map toJson)) ++ ['\n'] := by
  simp [toText, pretty]

theorem isBlankText_toText (mappings : List Mapping) :
    Text.isBlankText (toText mappings) = false := by
  rw [Text.isBlankText, toList_toText]
  cases mappings with
  | nil => decide
  | cons m mappings => rfl

/-- The text of a mapping file is read as the mappings it was made from. -/
theorem ofText_toText (mappings : List Mapping) : ofText (toText mappings) = .ok mappings := by
  have lineEnd : Blank [byte '\n'] := by simp [Blank, isSpace]
  rw [ofText, isBlankText_toText, if_neg (by decide), toList_toUTF8, toList_toText, encode_append]
  exact (takes_listed mappings).decode lineEnd

theorem ofBytes_toText (mappings : List Mapping) :
    ofBytes (toText mappings).toUTF8 = .ok mappings := by
  simp only [ofBytes, fromUTF8?_toUTF8, ofText_toText]
  rfl

end ColumnMap.Mapping
