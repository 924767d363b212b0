import ColumnMap.Proofs.Json.Layout

/-!
How the printer lays a value out: a list is the row of its items and an object the row of its
fields, each on a line of its own.
-/

namespace ColumnMap.Json

theorem blank_spaces (n : Nat) : Blank (encode (List.replicate n ' ')) := by
  induction n with
  | zero => exact blank_nil
  | succ n ih =>
    rw [List.replicate_succ, encode_ascii (by decide)]
    exact List.forall_mem_cons.mpr ⟨by decide, ih⟩

theorem blank_indent (level : Nat) : Blank (encode (indent level)) := by
  rw [indent, encode_ascii (by decide)]
  exact List.forall_mem_cons.mpr ⟨by decide, blank_spaces _⟩

theorem encode_prettyItems (level : Nat) (items : List Json) :
    encode (prettyItems level items) =
      row (encode (indent level)) (items.map fun v => encode (prettyChars level v)) := by
  induction items with
  | nil => simp [prettyItems, row]
  | cons v items ih =>
    cases items with
    | nil => simp [prettyItems, row]
    | cons u items =>
      rw [prettyItems, encode_append, encode_append, encode_ascii (by decide), ih]
      · rfl
      · simp

/-- A field as the printer writes it. -/
abbrev prettyField (level : Nat) : String × Json → Bytes :=
  fieldText [byte ' '] fun v => encode (prettyChars level v)

theorem encode_field (key : String) (level : Nat) (v : Json) :
    encode (stringChars key ++ ':' :: ' ' :: prettyChars level v) = prettyField level (key, v) := by
  rw [encode_append, encode_ascii (by decide), encode_ascii (by decide)]
  rfl

theorem encode_prettyFields (level : Nat) (fields : List (String × Json)) :
    encode (prettyFields level fields) =
      row (encode (indent level)) (fields.map (prettyField level)) := by
  induction fields with
  | nil => simp [prettyFields, row]
  | cons f fields ih =>
    cases fields with
    | nil => rw [prettyFields, List.append_assoc, encode_append, encode_field]; rfl
    | cons g fields =>
      rw [prettyFields, encode_append, List.append_assoc, encode_append, encode_field,
        encode_ascii (by decide), ih]
      · rfl
      · simp

/-- A printed list, with the blanks before its closing bracket. -/
theorem encode_prettyArray (level : Nat) (items : List Json) :
    ∃ close, Blank close ∧ encode (prettyChars level (.array items)) =
      byte '[' :: (row (encode (indent (level + 1)))
        (items.map fun v => encode (prettyChars (level + 1) v)) ++ (close ++ [byte ']'])) := by
  cases items with
  | nil => exact ⟨[], blank_nil, rfl⟩
  | cons v items =>
    refine ⟨encode (indent level), blank_indent level, ?_⟩
    rw [prettyChars, List.cons_append, List.cons_append, encode_ascii (by decide), encode_append,
      encode_append, encode_prettyItems, List.append_assoc]
    · rfl
    · simp

/-- A printed object, with the blanks before its closing bracket. -/
theorem encode_prettyObject (level : Nat) (fields : List (String × Json)) :
    ∃ close, Blank close ∧ encode (prettyChars level (.object fields)) =
      byte '\x7b' :: (row (encode (indent (level + 1))) (fields.map (prettyField (level + 1)))
        ++ (close ++ [byte '\x7d'])) := by
  cases fields with
  | nil => exact ⟨[], blank_nil, rfl⟩
  | cons f fields =>
    refine ⟨encode (indent level), blank_indent level, ?_⟩
    rw [prettyChars, List.cons_append, List.cons_append, encode_ascii (by decide), encode_append,
      encode_append, encode_prettyFields, List.append_assoc]
    · rfl
    · simp

end ColumnMap.Json
