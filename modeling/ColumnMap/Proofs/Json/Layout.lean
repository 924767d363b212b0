import ColumnMap.Json.Record
import ColumnMap.Proofs.Json.Characters
import Mathlib.Data.List.Nodup

/-!
Texts that a reader takes whole. Strings, lists and records are taken from texts in which blanks may
stand around every token; a list or record is taken if its parts are.
-/

namespace ColumnMap.Json

/-! ### Blanks -/

def Blank (s : Bytes) : Prop := ∀ b ∈ s, isSpace b = true

theorem blank_nil : Blank [] := fun _ h => nomatch h

theorem skipSpace_blank {gap : Bytes} (h : Blank gap) (s : Bytes) :
    skipSpace (gap ++ s) = skipSpace s :=
  List.dropWhile_append_of_pos h

theorem skipSpace_cons {b : UInt8} (h : isSpace b = false) (s : Bytes) :
    skipSpace (b :: s) = b :: s :=
  List.dropWhile_cons_of_neg (by simp [h])

/-- Comes to a byte that is no blank. -/
theorem skipSpace_to {gap : Bytes} (h : Blank gap) {b : UInt8} (hb : isSpace b = false)
    (s : Bytes) : skipSpace (gap ++ b :: s) = b :: s := by
  rw [skipSpace_blank h, skipSpace_cons hb]

/-- What may stand behind a value: nothing, a blank, a comma or a closing bracket. -/
def Ends : Bytes → Prop
  | [] => True
  | b :: _ => isSpace b = true ∨ b = byte ',' ∨ b = byte ']' ∨ b = byte '\x7d'

theorem ends_blank {gap rest : Bytes} (h : Blank gap) (hr : Ends rest) : Ends (gap ++ rest) := by
  cases gap with
  | nil => exact hr
  | cons b gap => exact .inl (h b List.mem_cons_self)

section

variable {α β : Type}

/-- The reader takes `a` from its text, with blanks before it and the end of a value behind. -/
structure Reader.Takes (reader : Reader α) (text : Bytes) (a : α) : Prop where
  begins : ∃ b r, text = b :: r ∧ isSpace b = false ∧ b ≠ byte ']'
  reads : ∀ {gap rest}, Blank gap → Ends rest → reader.read (gap ++ (text ++ rest)) = .ok (a, rest)

theorem Reader.Takes.here {reader : Reader α} {text rest : Bytes} {a : α} (h : reader.Takes text a)
    (hr : Ends rest) : reader.read (text ++ rest) = .ok (a, rest) := by
  simpa using h.reads blank_nil hr

theorem Reader.Takes.map {reader : Reader α} {text : Bytes} {a : α} (h : reader.Takes text a)
    (f : α → β) : (reader.map f).Takes text (f a) where
  begins := h.begins
  reads hg hr := by simp only [Reader.map, h.reads hg hr, onResult]

/-- A whole text that a value is taken from, and blanks behind it. -/
theorem Reader.Takes.decode {reader : Reader α} {text : Bytes} {a : α} (h : reader.Takes text a)
    {gap : Bytes} (hg : Blank gap) : reader.decode (text ++ gap) = .ok a := by
  have behind : Ends gap := by
    rw [← List.append_nil gap]
    exact ends_blank hg trivial
  have rest : skipSpace gap = [] := by
    rw [← List.append_nil gap, skipSpace_blank hg]
    rfl
  simp only [Reader.decode, h.here behind, rest]

theorem skipSpace_string {gap : Bytes} (hg : Blank gap) (s : String) (rest : Bytes) :
    skipSpace (gap ++ (quoted s ++ rest)) =
      byte '"' :: (encode (s.toList.flatMap escapeChar) ++ byte '"' :: rest) := by
  rw [quoted_eq, List.cons_append, skipSpace_to hg (by decide), List.append_assoc,
    List.singleton_append]

/-- A printed string is taken. -/
theorem takes_string (s : String) : Reader.string.Takes (quoted s) s where
  begins := ⟨_, _, quoted_eq s, by decide, by decide⟩
  reads hg _ := by
    simp only [Reader.string, readString, skipSpace_string hg, if_true, scanString_printed]

/-! ### Rows -/

/-- Texts with commas between them, each behind a gap. -/
def row (gap : Bytes) : List Bytes → Bytes
  | [] => []
  | [t] => gap ++ t
  | t :: rest => gap ++ t ++ byte ',' :: row gap rest

/-- The texts of a row behind its first, each with the comma before it. -/
def tail (gap : Bytes) (texts : List Bytes) : Bytes := texts.flatMap fun t => byte ',' :: (gap ++ t)

theorem row_cons (gap t : Bytes) (rest : List Bytes) :
    row gap (t :: rest) = gap ++ (t ++ tail gap rest) := by
  induction rest generalizing t with
  | nil => simp [row, tail]
  | cons u rest ih => simp [row, ih, tail]

/-- Behind an item there are further items, or the closing bracket. -/
theorem ends_tail (gap : Bytes) (texts : List Bytes) {close : Bytes} (hc : Blank close) {b : UInt8}
    (hb : b = byte ']' ∨ b = byte '\x7d') (rest : Bytes) :
    Ends (tail gap texts ++ (close ++ b :: rest)) := by
  cases texts with
  | nil =>
    change Ends (close ++ b :: rest)
    exact ends_blank hc (.inr (.inr hb))
  | cons t texts => exact .inr (.inl rfl)

/-! ### Lists -/

theorem nextItem_close {gap : Bytes} (hg : Blank gap) (first : Bool) (rest : Bytes) :
    nextItem first (gap ++ byte ']' :: rest) = .ok none := by
  simp only [nextItem, skipSpace_to hg (by decide : isSpace (byte ']') = false), if_true]

theorem nextItem_first {item : Reader α} {gap text : Bytes} {a : α} (hg : Blank gap)
    (h : item.Takes text a) (rest : Bytes) :
    nextItem true (gap ++ (text ++ rest)) = .ok (some (text ++ rest)) := by
  obtain ⟨b, r, rfl, solid, open_⟩ := h.begins
  simp only [nextItem, List.cons_append, skipSpace_to hg solid, if_neg open_, if_true]

theorem nextItem_next {item : Reader α} {gap text : Bytes} {a : α} (hg : Blank gap)
    (h : item.Takes text a) (rest : Bytes) :
    nextItem false (byte ',' :: (gap ++ (text ++ rest))) = .ok (some (text ++ rest)) := by
  obtain ⟨b, r, rfl, solid, open_⟩ := h.begins
  have comma : skipSpace (byte ',' :: (gap ++ b :: (r ++ rest))) =
      byte ',' :: (gap ++ b :: (r ++ rest)) := skipSpace_cons (by decide) _
  simp only [nextItem, List.cons_append, comma, skipSpace_to hg solid, if_neg open_, if_true]
  rfl

theorem listItems_close {item : Reader α} {first : Bool} {s : Bytes}
    (h : nextItem first s = .ok none) (read : List α) :
    listItems item first read s = .ok (read.reverse, (skipSpace s).drop 1) := by
  rw [listItems]
  split <;> simp_all

theorem listItems_item {item : Reader α} {first : Bool} {s t r : Bytes} {a : α}
    (h : nextItem first s = .ok (some t)) (ha : item.read t = .ok (a, r)) (read : List α) :
    listItems item first read s = listItems item false (a :: read) r := by
  rw [listItems]
  split
  · simp_all
  · simp_all
  · rename_i _ hn
    rw [h] at hn
    cases hn
    split
    · simp_all
    · rename_i hr
      rw [ha] at hr
      cases hr
      rfl

variable {item : Reader α} {text : α → Bytes} {gap close : Bytes}

theorem listItems_tail (hg : Blank gap) (hc : Blank close) {items : List α}
    (h : ∀ a ∈ items, item.Takes (text a) a) (read : List α) (rest : Bytes) :
    listItems item false read (tail gap (items.map text) ++ (close ++ byte ']' :: rest)) =
      .ok (read.reverse ++ items, rest) := by
  induction items generalizing read with
  | nil =>
    rw [List.map_nil, tail, List.flatMap_nil, List.nil_append,
      listItems_close (nextItem_close hc false rest), skipSpace_to hc (by decide)]
    simp
  | cons a items ih =>
    have taken := h a List.mem_cons_self
    have behind := ends_tail gap (items.map text) hc (.inl rfl) rest
    have front : tail gap ((a :: items).map text) ++ (close ++ byte ']' :: rest) =
        byte ',' :: (gap ++ (text a ++
          (tail gap (items.map text) ++ (close ++ byte ']' :: rest)))) := by
      simp [tail]
    rw [front, listItems_item (nextItem_next hg taken _) (taken.here behind),
      ih fun b hb => h b (List.mem_cons_of_mem a hb)]
    simp

theorem listItems_row (hg : Blank gap) (hc : Blank close) {items : List α}
    (h : ∀ a ∈ items, item.Takes (text a) a) (rest : Bytes) :
    listItems item true [] (row gap (items.map text) ++ (close ++ byte ']' :: rest)) =
      .ok (items, rest) := by
  cases items with
  | nil =>
    rw [List.map_nil, row, List.nil_append, listItems_close (nextItem_close hc true rest),
      skipSpace_to hc (by decide)]
    rfl
  | cons a items =>
    have taken := h a List.mem_cons_self
    have behind := ends_tail gap (items.map text) hc (.inl rfl) rest
    rw [List.map_cons, row_cons, List.append_assoc, List.append_assoc,
      listItems_item (nextItem_first hg taken _) (taken.here behind),
      listItems_tail hg hc fun b hb => h b (List.mem_cons_of_mem a hb)]
    rfl

/-- A list is taken if its items are. -/
theorem takes_list (depth : Nat) (hg : Blank gap) (hc : Blank close) {items : List α}
    (h : ∀ a ∈ items, item.Takes (text a) a) :
    (Reader.list (depth + 1) item).Takes
      (byte '[' :: (row gap (items.map text) ++ (close ++ [byte ']']))) items where
  begins := ⟨_, _, rfl, by decide, by decide⟩
  reads {before rest} hb _ := by
    have found : skipSpace (before ++
        (byte '[' :: (row gap (items.map text) ++ (close ++ [byte ']'])) ++ rest)) =
        byte '[' :: (row gap (items.map text) ++ (close ++ byte ']' :: rest)) := by
      rw [List.cons_append, skipSpace_to hb (by decide)]
      simp
    simp only [Reader.list, readList, found, if_true, Nat.succ_ne_zero, if_false,
      listItems_row hg hc h]

/-! ### Records -/

theorem nextKey_close (hg : Blank gap) (first : Bool) (rest : Bytes) :
    nextKey first (gap ++ byte '\x7d' :: rest) = .ok (none, byte '\x7d' :: rest) := by
  simp only [nextKey, skipSpace_to hg (by decide : isSpace (byte '\x7d') = false), if_true]

theorem nextKey_first (hg : Blank gap) (key : String) (rest : Bytes) :
    nextKey true (gap ++ (quoted key ++ rest)) = .ok (some key, rest) := by
  simp only [nextKey, skipSpace_string hg, scanString_printed, onResult]
  rfl

theorem nextKey_next (hg : Blank gap) (key : String) (rest : Bytes) :
    nextKey false (byte ',' :: (gap ++ (quoted key ++ rest))) =
      .ok (some key, rest) := by
  have comma : skipSpace (byte ',' :: (gap ++ (quoted key ++ rest))) =
      byte ',' :: (gap ++ (quoted key ++ rest)) := skipSpace_cons (by decide) _
  simp only [nextKey, comma, skipSpace_string hg, scanString_printed, onResult]
  rfl

theorem colon_here (rest : Bytes) : colon (byte ':' :: rest) = .ok ((), rest) := by
  simp only [colon, skipSpace_cons (by decide : isSpace (byte ':') = false), if_true]

/-- The fields are a full record: each is known and stands once, and none is missing. -/
structure Shape.Admits (shape : Shape) (fields : List (String × α)) : Prop where
  known : ∀ f ∈ fields, shape.has f.1 = true
  distinct : (fields.map (·.1)).Nodup
  complete : shape.missing? fields = none

theorem Shape.missing?_congr (shape : Shape) {given other : List (String × α)}
    (h : ∀ f, f ∈ given ↔ f ∈ other) : shape.missing? given = shape.missing? other := by
  have same : ∀ name : String, given.any (·.1 == name) = other.any (·.1 == name) := by
    intro name
    rw [Bool.eq_iff_iff, List.any_eq_true, List.any_eq_true]
    simp only [h]
  simp only [Shape.missing?, same]

variable {shape : Shape} {value : Reader α}

theorem namedFields_close {first : Bool} {given : List (String × α)} {s r : Bytes}
    (h : nextKey first s = .ok (none, r)) (complete : shape.missing? given = none) :
    namedFields shape value first given s = .ok (given.reverse, r.drop 1) := by
  rw [namedFields]
  split
  · simp_all
  · rename_i _ hn
    rw [h] at hn
    cases hn
    rw [closeFields, complete]
  · simp_all

theorem namedFields_field {first : Bool} {given : List (String × α)} {s r t u : Bytes}
    {key : String} {a : α} (h : nextKey first s = .ok (some key, r)) (known : shape.has key = true)
    (fresh : ∀ f ∈ given, f.1 ≠ key) (hc : colon r = .ok ((), t)) (ha : value.read t = .ok (a, u)) :
    namedFields shape value first given s =
      namedFields shape value false ((key, a) :: given) u := by
  have unseen : given.any (·.1 == key) = false := by
    rw [List.any_eq_false]
    intro f hf
    simpa using fresh f hf
  rw [namedFields]
  split
  · simp_all
  · simp_all
  · rename_i _ _ hn
    rw [h] at hn
    cases hn
    rw [if_pos known, unseen, if_neg (by decide)]
    split
    · simp_all
    · rename_i hx
      rw [hc] at hx
      cases hx
      split
      · simp_all
      · rename_i hr
        rw [ha] at hr
        cases hr
        rfl

/-- A field as it stands in an object: its name, a colon, and the value behind a space. -/
def fieldText (space : Bytes) (text : α → Bytes) (f : String × α) : Bytes :=
  quoted f.1 ++ byte ':' :: (space ++ text f.2)

variable {space : Bytes}

theorem namedFields_tail (hg : Blank gap) (hc : Blank close) (hs : Blank space)
    {fields : List (String × α)} (h : ∀ f ∈ fields, value.Takes (text f.2) f.2)
    {given : List (String × α)} (admits : shape.Admits (given.reverse ++ fields)) (rest : Bytes) :
    namedFields shape value false given
        (tail gap (fields.map (fieldText space text)) ++ (close ++ byte '\x7d' :: rest)) =
      .ok (given.reverse ++ fields, rest) := by
  induction fields generalizing given with
  | nil =>
    have complete : shape.missing? given = none := by
      rw [← admits.complete]
      exact shape.missing?_congr fun f => by simp
    rw [List.map_nil, tail, List.flatMap_nil, List.nil_append,
      namedFields_close (nextKey_close hc false rest) complete]
    simp
  | cons f fields ih =>
    have behind := ends_tail gap (fields.map (fieldText space text)) hc (.inr rfl) rest
    have fresh : ∀ g ∈ given, g.1 ≠ f.1 := by
      intro g hg'
      have apart := admits.distinct
      rw [List.map_append, List.map_cons, List.nodup_append] at apart
      exact apart.2.2 g.1 (by simpa using ⟨g.2, hg'⟩) f.1 List.mem_cons_self
    have front : tail gap ((f :: fields).map (fieldText space text)) ++
        (close ++ byte '\x7d' :: rest) =
        byte ',' :: (gap ++ (quoted f.1 ++ byte ':' :: (space ++ (text f.2 ++
          (tail gap (fields.map (fieldText space text)) ++ (close ++ byte '\x7d' :: rest)))))) := by
      simp [tail, fieldText]
    rw [front, namedFields_field (nextKey_next hg f.1 _) (admits.known f (by simp)) fresh
      (colon_here _) ((h f List.mem_cons_self).reads hs behind),
      ih (fun g hg => h g (List.mem_cons_of_mem f hg)) (by simpa using admits)]
    simp

theorem namedFields_row (hg : Blank gap) (hc : Blank close) (hs : Blank space)
    {fields : List (String × α)} (h : ∀ f ∈ fields, value.Takes (text f.2) f.2)
    (admits : shape.Admits fields) (rest : Bytes) :
    namedFields shape value true []
        (row gap (fields.map (fieldText space text)) ++ (close ++ byte '\x7d' :: rest)) =
      .ok (fields, rest) := by
  cases fields with
  | nil =>
    rw [List.map_nil, row, List.nil_append,
      namedFields_close (nextKey_close hc true rest) admits.complete]
    rfl
  | cons f fields =>
    have behind := ends_tail gap (fields.map (fieldText space text)) hc (.inr rfl) rest
    have front : row gap ((f :: fields).map (fieldText space text)) ++
        (close ++ byte '\x7d' :: rest) =
        gap ++ (quoted f.1 ++ byte ':' :: (space ++ (text f.2 ++
          (tail gap (fields.map (fieldText space text)) ++ (close ++ byte '\x7d' :: rest))))) := by
      simp [row_cons, fieldText]
    rw [front, namedFields_field (nextKey_first hg f.1 _) (admits.known f List.mem_cons_self)
      (by simp) (colon_here _) ((h f List.mem_cons_self).reads hs behind),
      namedFields_tail hg hc hs (fun g hg => h g (List.mem_cons_of_mem f hg)) admits]
    rfl

/-- A record is taken if the values of its fields are. -/
theorem takes_record (depth : Nat) (hg : Blank gap) (hc : Blank close) (hs : Blank space)
    {fields : List (String × α)} (h : ∀ f ∈ fields, value.Takes (text f.2) f.2)
    (admits : shape.Admits fields) :
    (Reader.record (depth + 1) shape value).Takes
      (byte '\x7b' :: (row gap (fields.map (fieldText space text)) ++ (close ++ [byte '\x7d'])))
      fields where
  begins := ⟨_, _, rfl, by decide, by decide⟩
  reads {before rest} hb _ := by
    have found : skipSpace (before ++ (byte '\x7b' ::
        (row gap (fields.map (fieldText space text)) ++ (close ++ [byte '\x7d'])) ++ rest)) =
        byte '\x7b' :: (row gap (fields.map (fieldText space text)) ++
          (close ++ byte '\x7d' :: rest)) := by
      rw [List.cons_append, skipSpace_to hb (by decide)]
      simp
    have kind : byte '\x7b' ≠ byte '[' := by decide
    simp only [Reader.record, readRecord, found, if_neg kind, if_true, Nat.succ_ne_zero, if_false,
      namedFields_row hg hc hs h admits]

end

end ColumnMap.Json
