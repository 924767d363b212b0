import ColumnMap.Lookup.Backend
import ColumnMap.Proofs.Json.RecordText
import ColumnMap.Proofs.Lookup.Values

/-!
Which bodies of a successful response are accepted, and as which values. Beside the documented
object, a list that holds only the list of values is accepted.
-/

namespace ColumnMap.Lookup.Backend

open Json

/-- The documented response: an object with one member `result`, the list of values. Of its other
members only the form matters. -/
def Documented (t : Bytes) (values : List Value) : Prop :=
  ∃ before result after, ObjectText t (before ++ ("result", result) :: after) ∧
    ListText Value.Spelled result values ∧
    ∀ m ∈ before ++ after, m.1 ≠ "result" ∧ ValueForm m.2

/-- The response as a list of its only field. -/
def Unnamed (t : Bytes) (values : List Value) : Prop :=
  ListText (ListText Value.Spelled) t [values]

/-- A body that is accepted, with the values that are found in it. -/
def Accepted (body : Bytes) (values : List Value) : Prop :=
  Padded Documented body values ∨ Padded Unnamed body values

theorem shape_has {key : String} : shape.has key = true ↔ key = "result" := by
  simp only [shape, Shape.has, List.any_cons, List.any_nil, Bool.or_false, beq_iff_eq]
  exact eq_comm

theorem shape_missing? {fields : List (String × List Value)} :
    shape.missing? fields = none ↔ ∃ values, ("result", values) ∈ fields := by
  simp only [shape, Shape.missing?, Option.map_eq_none_iff, List.find?_cons, List.find?_nil,
    Bool.true_and]
  cases given : fields.any (·.1 == "result") with
  | true =>
    obtain ⟨⟨_, values⟩, mem, same⟩ := List.any_eq_true.mp given
    obtain rfl := beq_iff_eq.mp same
    simpa using ⟨values, mem⟩
  | false =>
    simp only [Bool.not_false, reduceCtorEq, false_iff, not_exists]
    intro values mem
    have := List.any_eq_false.mp given _ mem
    exact this (beq_iff_eq.mpr rfl)

/-- A full record is one field, the list of values. -/
theorem admits_iff {fields : List (String × List Value)} :
    shape.Admits fields ↔ ∃ values, fields = [("result", values)] := by
  constructor
  · rintro ⟨known, distinct, complete⟩
    obtain ⟨values, mem⟩ := shape_missing?.mp complete
    match fields, known, distinct with
    | [(key, values)], known, _ =>
      obtain rfl : key = "result" := shape_has.mp (known _ List.mem_cons_self)
      exact ⟨values, rfl⟩
    | (key, _) :: (key', _) :: _, known, distinct =>
      have first : key = "result" := shape_has.mp (known _ List.mem_cons_self)
      have second : key' = "result" :=
        shape_has.mp (known _ (List.mem_cons_of_mem _ List.mem_cons_self))
      rw [first, second, List.map_cons, List.map_cons, List.nodup_cons] at distinct
      exact absurd List.mem_cons_self distinct.1
  · rintro ⟨values, rfl⟩
    exact ⟨by simp [shape_has], by simp, shape_missing?.mpr ⟨values, List.mem_cons_self⟩⟩

theorem namedText_iff {t : Bytes} {values : List Value} :
    NamedText shape (ListText Value.Spelled) t [("result", values)] ↔ Documented t values := by
  constructor
  · rintro ⟨members, object, fills, -⟩
    obtain ⟨before, result, after, rfl, -, text, plain, rest⟩ := fills_cons.mp fills
    refine ⟨before, result, after, object, text, fun m hm => ?_⟩
    obtain ⟨other, form⟩ : shape.has m.1 = false ∧ ValueForm m.2 :=
      (List.mem_append.mp hm).elim (plain m) (fills_nil.mp rest m)
    refine ⟨fun same => ?_, form⟩
    rw [shape_has.mpr same] at other
    cases other
  · rintro ⟨before, result, after, object, text, others⟩
    have unknown : ∀ m ∈ before ++ after, shape.has m.1 = false ∧ ValueForm m.2 := by
      intro m hm
      obtain ⟨other, form⟩ := others m hm
      refine ⟨?_, form⟩
      rw [← Bool.not_eq_true, shape_has]
      exact other
    refine ⟨_, object, fills_cons.mpr ⟨before, result, after, rfl, shape_has.mpr rfl, text, ?_, ?_⟩,
      admits_iff.mpr ⟨values, rfl⟩⟩
    · exact fun m hm => unknown m (List.mem_append_left after hm)
    · exact fills_nil.mpr fun m hm => unknown m (List.mem_append_right before hm)

theorem listedText_iff {t : Bytes} {fields : List (String × List Value)} :
    ListedText shape (ListText Value.Spelled) t fields ↔
      ∃ values, fields = [("result", values)] ∧ Unnamed t values := by
  constructor
  · rintro ⟨lists, text, short, optional, rfl⟩
    match lists, short, optional with
    | [], _, optional =>
      have := optional ⟨"result", true⟩ List.mem_cons_self
      cases this
    | [values], _, _ => exact ⟨values, rfl, text⟩
    | _ :: _ :: _, short, _ => exact absurd short (by simp [shape])
  · rintro ⟨values, rfl, text⟩
    exact ⟨[values], text, by simp [shape], by simp [shape], rfl⟩

/-- A response is read from the documented objects and from the lists of their only field. -/
theorem reads_response :
    reader.Reads fun t values => Documented t values ∨ Unnamed t values := by
  have lists : (Value.listReader 1).Reads (ListText Value.Spelled) :=
    Value.reads_values (by decide)
  have records : (Reader.record maxDepth shape (Value.listReader 1)).Reads
      (RecordText shape (ListText Value.Spelled)) := reads_record lists 126
  have read := records.map fun given => (given.lookup "result").getD []
  have same : (fun (t : Bytes) (values : List Value) => Documented t values ∨ Unnamed t values) =
      fun t values => ∃ fields, RecordText shape (ListText Value.Spelled) t fields ∧
        (fields.lookup "result").getD [] = values := by
    funext t values
    apply propext
    constructor
    · rintro (named | unnamed)
      · exact ⟨_, .inl (namedText_iff.mpr named), rfl⟩
      · exact ⟨_, .inr (listedText_iff.mpr ⟨values, rfl, unnamed⟩), rfl⟩
    · rintro ⟨fields, named | listed, rfl⟩
      · obtain ⟨_, -, -, admits⟩ := id named
        obtain ⟨values, rfl⟩ := admits_iff.mp admits
        exact .inl (namedText_iff.mp named)
      · obtain ⟨values, rfl, unnamed⟩ := listedText_iff.mp listed
        exact .inr unnamed
  rw [same]
  exact read

theorem padded_or {L M : Bytes → List Value → Prop} {s : Bytes} {values : List Value} :
    Padded (fun t v => L t v ∨ M t v) s values ↔ Padded L s values ∨ Padded M s values := by
  constructor
  · rintro ⟨gap, t, close, hg, hc, whole, text | text⟩
    · exact .inl ⟨gap, t, close, hg, hc, whole, text⟩
    · exact .inr ⟨gap, t, close, hg, hc, whole, text⟩
  · rintro (⟨gap, t, close, hg, hc, whole, text⟩ | ⟨gap, t, close, hg, hc, whole, text⟩)
    · exact ⟨gap, t, close, hg, hc, whole, .inl text⟩
    · exact ⟨gap, t, close, hg, hc, whole, .inr text⟩

theorem answer_success_iff {status : Nat} (success : 200 ≤ status ∧ status < 300) {body : Bytes}
    {values : List Value} :
    answer (.answered status body) = .ok values ↔ Accepted body values := by
  rw [answer, if_pos success, Accepted, ← padded_or, ← reads_response.decode_iff]
  cases reader.decode body <;> simp [Except.mapError]

theorem answer_success_error {status : Nat} (success : 200 ≤ status ∧ status < 300) {body : Bytes}
    (refused : ¬ ∃ values, Accepted body values) :
    answer (.answered status body) = .error (.malformed notValues) := by
  cases found : answer (.answered status body) with
  | ok values => exact absurd ⟨values, (answer_success_iff success).mp found⟩ refused
  | error failure =>
    rw [answer, if_pos success] at found
    cases decoded : reader.decode body <;> simp_all [Except.mapError]

/-- The body of a response with status 200 to 299 is accepted, through any exchange, exactly if it
is the documented object or the list of its only field, and gives the values that stand in it.
Every other body is malformed, and the lookup finds nothing. -/
theorem lookUp_success_iff {b : Backend} {exchange : Url → Exchange} {table : DataSource}
    {column : String} {url : Url} {status : Nat} {body : Bytes}
    (address : b.valuesUrl table.id column = .ok url)
    (answered : exchange url = .answered status body) (success : 200 ≤ status ∧ status < 300) :
    (∀ values, b.lookUp exchange table.id column = .ok values ↔ Accepted body values) ∧
      ((¬ ∃ values, Accepted body values) →
        b.lookUp exchange table.id column = .error (.malformed notValues) ∧
        (fetch name table column false (b.lookUp exchange table.id column)).outcome =
          .loaded []) := by
  have reached : b.lookUp exchange table.id column = answer (.answered status body) := by
    rw [lookUp, address, ← answered]
  rw [reached]
  refine ⟨fun values => answer_success_iff success, fun refused => ?_⟩
  have malformed := answer_success_error success refused
  refine ⟨malformed, ?_⟩
  rw [malformed, fetch]
  cases table.supportsLookup <;> rfl

theorem lookUp_success_iff_births :
    let b : Backend :=
      ⟨⟨"http", some { host := .domain "bi.local" }, .segments [""], none, none⟩, none⟩
    let births : DataSource := { id := 12, name := "births", columns := ["country"] }
    let exchange : Url → Exchange := fun _ =>
      .answered 200 (encode "\x7b\"count\":null, \"result\":[\"India\",7]\x7d".toList)
    (∃ url, b.valuesUrl births.id "country" = .ok url) ∧
      b.lookUp exchange births.id "country" = .ok [.text "India", .number (.int 7)] := by
  intro b births exchange
  obtain ⟨url, address⟩ : ∃ url, b.valuesUrl births.id "country" = .ok url := ⟨_, rfl⟩
  have iff : ∀ values, b.lookUp exchange births.id "country" = .ok values ↔ Accepted _ values :=
    (lookUp_success_iff address rfl (by decide)).1
  have india : Value.Spelled (quoted "India") (.text "India") := .string (stringText_quoted "India")
  have seven : Value.Spelled (Numeral.ofInt 7).text (.number (.int 7)) :=
    .number _ (number?_ofInt ⟨by decide, by decide⟩)
  have result : ListText Value.Spelled (encode "[\"India\",7]".toList)
      [.text "India", .number (.int 7)] :=
    ⟨_, .item (.first blank_nil) india (.item (.comma blank_nil blank_nil) seven (.done blank_nil)),
      by decide⟩
  have members : ObjectText (encode "\x7b\"count\":null, \"result\":[\"India\",7]\x7d".toList)
      [("count", encode "null".toList), ("result", encode "[\"India\",7]".toList)] := by
    have space : Blank [byte ' '] := by simp [Blank]; decide
    exact ⟨_, .item (.first blank_nil) (.member (stringText_quoted "count") blank_nil blank_nil _)
      (.item (.comma blank_nil space)
        (.member (stringText_quoted "result") blank_nil blank_nil _) (.done blank_nil)), by decide⟩
  have documented : Documented _ _ :=
    ⟨[("count", encode "null".toList)], _, [], members, result, by simp; exact .scalar .null⟩
  refine ⟨⟨url, address⟩, (iff _).mpr (.inl ⟨[], _, [], blank_nil, blank_nil, ?_, documented⟩)⟩
  simp

theorem not_padded_documented {s : Bytes} {b : UInt8} (solid : isSpace b = false)
    (other : b ≠ byte '\x7b') (values : List Value) : ¬ Padded Documented (b :: s) values := by
  rintro ⟨gap, _, close, blank, -, whole, _, _, _, ⟨_, -, rfl⟩, -⟩
  cases gap with
  | nil => exact other (List.cons.inj whole).1
  | cons c gap =>
    obtain ⟨rfl, -⟩ := List.cons.inj whole
    rw [blank b List.mem_cons_self] at solid
    cases solid

/-- A list of the list of values is no documented response, but is accepted as one. -/
theorem not_only_documented :
    let body := encode "[[\"India\"]]".toList
    answer (.answered 200 body) = .ok [.text "India"] ∧
      ¬ ∃ values, Padded Documented body values := by
  intro body
  have text : Value.Spelled (quoted "India") (.text "India") := .string (stringText_quoted "India")
  have inner : ListText Value.Spelled (byte '[' :: (quoted "India" ++ [byte ']']))
      [.text "India"] :=
    ⟨_, .item (.first blank_nil) text (.done blank_nil), by simp⟩
  have outer : Unnamed body [.text "India"] :=
    ⟨_, .item (.first blank_nil) inner (.done blank_nil), by decide⟩
  have padded : Padded Unnamed body [.text "India"] :=
    ⟨[], body, [], blank_nil, blank_nil, by simp, outer⟩
  refine ⟨(answer_success_iff (by decide)).mpr (.inr padded), ?_⟩
  rintro ⟨values, documented⟩
  exact not_padded_documented (by decide) (by decide) values documented

end ColumnMap.Lookup.Backend
