import ColumnMap.Lookup.Backend
import ColumnMap.Proofs.Url.Path

/-!
The address of a lookup. A column is one segment of it, which can be read back, unless the column is
made of dots or holds characters that addresses leave out. Whatever the column is, the address stays
below the table that it belongs to.
-/

namespace ColumnMap.Url

/-! ### Adding to a path -/

/-- The characters of a segment that count. -/
def kept (segment : String) : List Char := segment.toList.filter (!isIgnored ·)

theorem push_eq (special : Bool) (segments : List String) {segment : String}
    (named : ¬ (segment = "." ∨ segment = "..")) :
    push special false segments segment =
      if kept segment = ['.'] then roomFor segments ++ [""]
      else if kept segment = ['.', '.'] then parent (roomFor segments) ++ [""]
      else roomFor segments ++ [String.ofList (encode (inSegment special) (kept segment))] := by
  have pushed : push special false segments segment =
      descend false true (roomFor segments) (encode (inSegment special) (kept segment)) :=
    if_neg named
  have one := dots?_encode special (kept segment) 1
  have two := dots?_encode special (kept segment) 2
  rw [show List.replicate 1 '.' = ['.'] from rfl] at one
  rw [show List.replicate 2 '.' = ['.', '.'] from rfl] at two
  rw [pushed]
  rcases descend_cases true (roomFor segments) (encode (inSegment special) (kept segment))
    with ⟨dot, eq⟩ | ⟨dots, eq⟩ | ⟨noDot, noDots, eq⟩
  · rw [eq, if_pos (one.mp dot)]
    rfl
  · have notOne : ¬ kept segment = ['.'] := by simp [two.mp dots]
    rw [if_neg notOne, if_pos (two.mp dots), eq]
    rfl
  · rw [eq, if_neg (mt one.mpr noDot), if_neg (mt two.mpr noDots)]

/-- A word of letters and digits; it may be empty. -/
def IsWord (s : String) : Prop := s.toList.all Char.isAlphanum = true

instance : DecidablePred IsWord := fun s =>
  inferInstanceAs (Decidable (s.toList.all Char.isAlphanum = true))

theorem IsWord.isAlphanum {s : String} (h : IsWord s) : ∀ c ∈ s.toList, c.isAlphanum = true :=
  List.all_eq_true.mp h

theorem IsWord.kept {s : String} (h : IsWord s) : kept s = s.toList := by
  rw [Url.kept, List.filter_eq_self]
  intro c hc
  simp [(literal_of_isAlphanum true (h.isAlphanum c hc)).2]

theorem IsWord.no_dot {s : String} (h : IsWord s) : '.' ∉ s.toList :=
  fun dot => absurd (h.isAlphanum '.' dot) (by decide)

theorem push_word (special : Bool) (segments : List String) {s : String} (h : IsWord s) :
    push special false segments s = roomFor segments ++ [s] := by
  have dot := h.no_dot
  rw [push_eq, h.kept, if_neg, if_neg, encode_word special h.isAlphanum, String.ofList_toList]
  · rintro two
    simp [two] at dot
  · rintro one
    simp [one] at dot
  · rintro (rfl | rfl) <;> exact dot (by decide)

/-- A path that names anything has room. -/
theorem roomFor_of_mem {segments : List String} {s : String} (h : s ∈ segments) (hs : s ≠ "") :
    roomFor segments = segments := by
  refine if_neg ?_
  rintro rfl
  exact hs (List.mem_singleton.mp h)

theorem foldl_push_words (special : Bool) {segments words : List String} {s : String}
    (h : s ∈ segments) (hs : s ≠ "") (hw : ∀ w ∈ words, IsWord w) :
    words.foldl (push special false) segments = segments ++ words := by
  induction words generalizing segments with
  | nil => simp
  | cons w words ih =>
    rw [List.foldl_cons, push_word special segments (hw w List.mem_cons_self), roomFor_of_mem h hs,
      ih (List.mem_append_left _ h) fun v hv => hw v (List.mem_cons_of_mem w hv)]
    simp

end ColumnMap.Url

namespace ColumnMap.Lookup.Backend

open Url

/-- Where a table is, below the base. -/
def tablePath (id : UInt64) : List String :=
  ["api", "v1", "datasource", "table", toString id.toNat]

/-- What a column adds behind its table. -/
def columnPath (special : Bool) (column : String) : List String :=
  if column = "." ∨ column = ".." then ["column"]
  else if kept column = ['.'] then ["column", ""]
  else if kept column = ['.', '.'] then [""]
  else ["column", String.ofList (encode (inSegment special) (kept column))]

theorem isWord_number (n : Nat) : IsWord (toString n) := by
  rw [IsWord, List.all_eq_true]
  intro c hc
  rw [Nat.toString_eq_ofList_toDigits, String.toList_ofList] at hc
  simp [Char.isAlphanum, Nat.isDigit_of_mem_toDigits (by decide) (by decide) hc]

theorem parent_column (segments : List String) : parent (segments ++ ["column"]) = segments := by
  rw [parent, List.getLast?_concat, List.dropLast_concat]
  exact if_neg (by decide)

theorem push_column (special : Bool) (segments : List String) (column : String) :
    push special false (segments ++ ["column"]) column = segments ++ columnPath special column := by
  have room : roomFor (segments ++ ["column"]) = segments ++ ["column"] :=
    roomFor_of_mem (List.mem_append_right _ List.mem_cons_self) (by decide)
  unfold columnPath
  by_cases dots : column = "." ∨ column = ".."
  · rw [if_pos dots]
    exact if_pos dots
  · rw [if_neg dots, push_eq special _ dots, room, parent_column]
    split
    · simp
    · split <;> simp

/-- The path of a lookup, from the path of the base and the column. -/
theorem foldl_push_valuesPath (special : Bool) (segments : List String) (id : UInt64)
    (column : String) :
    (valuesPath id column).foldl (push special false) segments =
      roomFor segments ++ tablePath id ++ columnPath special column ++ ["values", ""] := by
  have table : ∀ w ∈ ["v1", "datasource", "table", toString id.toNat, "column"], IsWord w := by
    have known : ∀ w ∈ ["v1", "datasource", "table", "column"], IsWord w := by decide
    have number := isWord_number id.toNat
    grind
  have ends : ∀ w ∈ ["values", ""], IsWord w := by decide
  have api : push special false segments "api" = roomFor segments ++ ["api"] :=
    push_word special segments (by decide)
  have toColumn : ["v1", "datasource", "table", toString id.toNat, "column"].foldl
      (push special false) (roomFor segments ++ ["api"]) =
      roomFor segments ++ tablePath id ++ ["column"] := by
    rw [foldl_push_words special (s := "api") (by simp) (by decide) table]
    simp [tablePath]
  have path : valuesPath id column =
      "api" :: (["v1", "datasource", "table", toString id.toNat, "column"] ++ column ::
        ["values", ""]) := rfl
  rw [path, List.foldl_cons, List.foldl_append, List.foldl_cons, api, toColumn, push_column,
    foldl_push_words special (s := "api") (by simp [tablePath]) (by decide) ends]

/-- The address of a lookup below a base for the web. -/
theorem valuesUrl_eq {b : Backend} (web : b.base.IsWeb) {segments : List String}
    (h : Located b.base segments) (id : UInt64) (column : String) :
    b.valuesUrl id column = .ok { b.base with
      path := .segments (front segments ++ tablePath id ++ columnPath true column ++
        ["values", ""]) } := by
  obtain ⟨file, special⟩ := web.special
  simp only [valuesUrl, below?, h.path, file, special, foldl_push_valuesPath, front]

theorem located_base {text : String} {timeout : Option Nat} {b : Backend}
    (h : ofText text timeout = .ok b) (web : b.base.IsWeb) :
    ∃ segments, Located b.base segments := by
  unfold ofText at h
  split at h
  · cases h
  case h_2 url read =>
    split at h
    · cases h
    · cases h
      exact located_ofText read web

/-! ### Below the table -/

/-- The address differs from the base in nothing but the path, which begins with the path of the
base, without a slash at its end, and the table. -/
structure IsBelow (b : Backend) (id : UInt64) (url : Url) : Prop where
  scheme : url.scheme = b.base.scheme
  authority : url.authority = b.base.authority
  query : url.query = b.base.query
  fragment : url.fragment = b.base.fragment
  path : withoutSlash b.base.path.text.toList
    ++ ("/api/v1/datasource/table/" ++ toString id.toNat ++ "/").toList <+: url.path.text.toList

theorem text_front {b : Backend} {segments : List String} (h : Located b.base segments) :
    joined (front segments) = withoutSlash b.base.path.text.toList := by
  rw [joined_front h.nonempty h.singles, h.path, toList_text_segments]

theorem isBelow_valuesUrl {b : Backend} (web : b.base.IsWeb) {segments : List String}
    (h : Located b.base segments) (id : UInt64) (column : String) :
    ∃ url, b.valuesUrl id column = .ok url ∧ b.IsBelow id url := by
  refine ⟨_, valuesUrl_eq web h id column, rfl, rfl, rfl, rfl, ?_⟩
  obtain ⟨first, rest, more⟩ : ∃ first rest, columnPath true column ++ ["values", ""] =
      first :: rest := by
    cases columnPath true column with
    | nil => exact ⟨_, _, rfl⟩
    | cons s l => exact ⟨s, l ++ ["values", ""], rfl⟩
  have table : ("/api/v1/datasource/table/" ++ toString id.toNat ++ "/").toList =
      joined (tablePath id) ++ ['/'] := by
    simp [joined, tablePath]
  rw [toList_text_segments, List.append_assoc, more, joined_append, joined_append, text_front h,
    table, ← List.append_assoc]
  exact ⟨first.toList ++ joined rest, by simp [joined]⟩

/-- A slash at the end of the base's path makes no difference. -/
theorem valuesUrl_slash {b b' : Backend} (web : b.base.IsWeb) {segments segments' : List String}
    (h : Located b.base segments) (h' : Located b'.base segments')
    (same : b'.base = { b.base with path := b'.base.path })
    (bare : b.base.path.text.toList.getLast? ≠ some '/')
    (slash : b'.base.path.text = b.base.path.text ++ "/") (id : UInt64) (column : String) :
    b'.valuesUrl id column = b.valuesUrl id column := by
  have web' : b'.base.IsWeb := by
    rw [same]
    exact web
  have text' : withoutSlash b'.base.path.text.toList = withoutSlash b.base.path.text.toList := by
    have single : b.base.path.text.toList ≠ ['/'] := by
      intro eq
      rw [eq] at bare
      exact bare rfl
    rw [slash, String.toList_append, show "/".toList = ['/'] from rfl]
    simp [withoutSlash, bare, single]
  have fronts : front segments' = front segments := by
    apply joined_inj (singles_front h'.singles) (singles_front h.singles)
    rw [text_front h, text_front h', text']
  rw [valuesUrl_eq web h, valuesUrl_eq web' h', fronts, same]

/-- No column leads a lookup away from its table: the address has all parts of the base, and its
path begins with the path of the base and the table. Whether the path of the base ends in a slash
makes no difference. -/
theorem column_stays_below {text : String} {timeout : Option Nat} {b : Backend}
    (read : ofText text timeout = .ok b) (web : b.base.IsWeb) :
    (∀ id column, ∃ url, b.valuesUrl id column = .ok url ∧ b.IsBelow id url) ∧
    (b.base.path.text.toList.getLast? ≠ some '/' →
      ∀ (text' : String) (timeout' : Option Nat) (b' : Backend), ofText text' timeout' = .ok b' →
        b'.base = { b.base with path := b'.base.path } →
        b'.base.path.text = b.base.path.text ++ "/" →
        ∀ id column, b'.valuesUrl id column = b.valuesUrl id column) := by
  obtain ⟨segments, h⟩ := located_base read web
  refine ⟨isBelow_valuesUrl web h, ?_⟩
  intro bare text' timeout' b' read' same slash
  have web' : b'.base.IsWeb := by
    rw [same]
    exact web
  obtain ⟨segments', h'⟩ := located_base read' web'
  exact valuesUrl_slash web h h' same bare slash

theorem column_stays_below_upward :
    let column := ".\t."
    ∃ b b', ofText "https://u@bi.local/superset?q" none = .ok b ∧ b.base.IsWeb ∧
      (∃ url, b.valuesUrl 12 column = .ok url ∧ b.IsBelow 12 url) ∧
      ofText "https://u@bi.local/superset/?q" none = .ok b' ∧
      b'.valuesUrl 12 column = b.valuesUrl 12 column := by
  intro column
  let b (path : List String) : Backend :=
    ⟨⟨"https", some { username := "u", host := .domain "bi.local" }, .segments path, some "q", none⟩,
      none⟩
  have read : ofText "https://u@bi.local/superset?q" none = .ok (b ["superset"]) := rfl
  have read' : ofText "https://u@bi.local/superset/?q" none = .ok (b ["superset", ""]) := rfl
  have web : (b ["superset"]).base.IsWeb := .inr rfl
  obtain ⟨below, slash⟩ := column_stays_below read web
  refine ⟨_, _, read, web, below 12 column, read', ?_⟩
  exact slash (by decide) _ none _ read' rfl (by decide) 12 column

/-! ### One segment -/

/-- Behind `front`, the path of the address is the way to the values of a column, and in the
column's place one segment that the column can be read from. -/
def Names (front : List String) (id : UInt64) (column : String) (url : Url) : Prop :=
  ∃ segment, url.path = .segments (front ++ ["api", "v1", "datasource", "table", toString id.toNat,
      "column", segment, "values", ""]) ∧
    Single segment.toList ∧ String.fromUTF8? ⟨(decode segment.toList).toArray⟩ = some column

/-- Neither a dot nor two dots, and nothing that an address leaves out. -/
def IsPlain (column : String) : Prop :=
  column ≠ "." ∧ column ≠ ".." ∧ ∀ c ∈ column.toList, isIgnored c = false

theorem kept_eq_self {column : String} :
    kept column = column.toList ↔ ∀ c ∈ column.toList, isIgnored c = false := by
  simp [kept]

/-- A column's segment is read as what is kept of the column. -/
theorem fromUTF8?_segment (special : Bool) (s : List Char) :
    String.fromUTF8? ⟨(decode (String.ofList (encode (inSegment special) s)).toList).toArray⟩ =
      some (String.ofList s) := by
  rw [String.toList_ofList, decode_encode (by cases special <;> decide), Json.fromUTF8?_encode]

theorem columnPath_plain (special : Bool) {column : String} (h : IsPlain column) :
    columnPath special column =
      ["column", String.ofList (encode (inSegment special) column.toList)] := by
  obtain ⟨one, two, whole⟩ := h
  rw [columnPath, kept_eq_self.mpr whole, if_neg (by simp [one, two]), if_neg, if_neg]
  · intro dots
    exact two (String.toList_inj.mp dots)
  · intro dot
    exact one (String.toList_inj.mp dot)

/-- Where the column's place is one segment that it can be read from, the column is plain. -/
theorem isPlain_of_columnPath {special : Bool} {column segment : String}
    (path : columnPath special column = ["column", segment])
    (named : String.fromUTF8? ⟨(decode segment.toList).toArray⟩ = some column) :
    IsPlain column := by
  unfold columnPath at path
  split at path
  case isTrue => simp at path
  case isFalse dots =>
    split at path
    case isTrue dot =>
      -- The segment is empty, so no dot can be read from it.
      injection path with _ path
      injection path with empty _
      subst empty
      have : column = "" := (Option.some.inj ((fromUTF8?_segment special []).symm.trans named)).symm
      subst this
      simp [kept] at dot
    case isFalse =>
      split at path
      case isTrue => simp at path
      case isFalse =>
        injection path with _ path
        injection path with whole _
        rw [← whole, fromUTF8?_segment, Option.some.injEq, ← String.toList_inj,
          String.toList_ofList] at named
        exact ⟨fun h => dots (.inl h), fun h => dots (.inr h), kept_eq_self.mp named⟩

theorem columnPath_inj {special : Bool} {column column' : String} (h : IsPlain column)
    (h' : IsPlain column') (same : columnPath special column = columnPath special column') :
    column = column' := by
  rw [columnPath_plain special h, columnPath_plain special h', List.cons.injEq] at same
  injection same.2 with segment _
  have read := fromUTF8?_segment special column.toList
  rw [segment, fromUTF8?_segment, Option.some.injEq, String.ofList_toList,
    String.ofList_toList] at read
  exact read.symm

/-- The column's place is one segment that it can be read from exactly if it is plain. -/
theorem names_iff (front : List String) (id : UInt64) (column : String) {url : Url}
    (path : url.path = .segments (front ++ tablePath id ++ columnPath true column ++
      ["values", ""])) :
    Names front id column url ↔ IsPlain column := by
  constructor
  · rintro ⟨segment, written, _, named⟩
    have same : columnPath true column = ["column", segment] := by
      have ends : front ++ ["api", "v1", "datasource", "table", toString id.toNat, "column",
          segment, "values", ""] =
          front ++ tablePath id ++ ["column", segment] ++ ["values", ""] := by
        simp [tablePath]
      rw [path, Path.segments.injEq, ends, List.append_left_inj, List.append_right_inj] at written
      exact written
    exact isPlain_of_columnPath same named
  · intro plain
    refine ⟨String.ofList (encode (inSegment true) column.toList), ?_, ?_, ?_⟩
    · rw [path, columnPath_plain true plain]
      simp [tablePath]
    · rw [String.toList_ofList]
      exact single_encode_inSegment true column.toList
    · rw [fromUTF8?_segment, String.ofList_toList]

theorem singles_words {words : List String} (h : ∀ w ∈ words, IsWord w) : Singles words := by
  intro s hs c hc
  have word := (h s hs).isAlphanum c hc
  refine ⟨?_, ?_, ?_⟩ <;> (rintro rfl; exact absurd word (by decide))

theorem singles_columnPath (special : Bool) (column : String) :
    Singles (columnPath special column) := by
  unfold columnPath
  split
  · exact singles_words (by decide)
  · split
    · exact singles_words (by decide)
    · split
      · exact singles_words (by decide)
      · have segment := single_encode_inSegment special (kept column)
        rw [← String.toList_ofList (l := encode _ _)] at segment
        have column : Singles ["column"] := singles_words (by decide)
        exact singles_concat column segment

theorem number_inj {id id' : UInt64} (h : id.toNat.repr = id'.toNat.repr) : id = id' := by
  rw [← Nat.toString_eq_repr, ← Nat.toString_eq_repr, Nat.toString_eq_ofList_toDigits,
    Nat.toString_eq_ofList_toDigits, String.ofList_inj] at h
  have value := congrArg (Nat.ofDigitChars 10 · 0) h
  simp only [Nat.ofDigitChars_toDigits (by decide : 1 < 10) (by decide : 10 ≤ 10)] at value
  exact UInt64.toNat_inj.mp value

/-- The text of a lookup's address determines the table and the way from there. -/
theorem valuesUrl_inj {b : Backend} (web : b.base.IsWeb) {segments : List String}
    (h : Located b.base segments) {id id' : UInt64} {column column' : String} {url url' : Url}
    (eq : b.valuesUrl id column = .ok url) (eq' : b.valuesUrl id' column' = .ok url')
    (same : url.text = url'.text) :
    id = id' ∧ columnPath true column = columnPath true column' := by
  rw [valuesUrl_eq web h, Except.ok.injEq] at eq eq'
  subst eq eq'
  obtain ⟨a, hosted⟩ := h.hosted
  have singles : ∀ id column, Singles
      (front segments ++ tablePath id ++ columnPath true column ++ ["values", ""]) := by
    intro id column s hs
    simp only [List.mem_append] at hs
    rcases hs with ((hs | hs) | hs) | hs
    · exact singles_front h.singles s hs
    · have table : ∀ w ∈ tablePath id, IsWord w := by
        have known : ∀ w ∈ ["api", "v1", "datasource", "table"], IsWord w := by decide
        have number := isWord_number id.toNat
        grind [tablePath]
      exact singles_words table s hs
    · exact singles_columnPath true column s hs
    · exact singles_words (by decide) s hs
  have paths := joined_inj (singles id column) (singles id' column') (by
    rw [← toList_text_segments, ← toList_text_segments]
    simpa [Url.text, hosted] using congrArg String.toList same)
  rw [List.append_left_inj, List.append_assoc, List.append_assoc, List.append_right_inj] at paths
  obtain ⟨table, columns⟩ := List.append_inj paths rfl
  refine ⟨?_, columns⟩
  exact number_inj (by simpa [tablePath] using table)

/-- A column is one segment of its address, from which it can be read, exactly if it is plain. Two
lookups of plain columns share no address. -/
theorem column_named_iff {text : String} {timeout : Option Nat} {b : Backend}
    (read : ofText text timeout = .ok b) (web : b.base.IsWeb) :
    (∃ front, ∀ id column, ∃ url, b.valuesUrl id column = .ok url ∧
      (Names front id column url ↔ IsPlain column)) ∧
    ∀ id id' column column' url url', IsPlain column → IsPlain column' →
      b.valuesUrl id column = .ok url → b.valuesUrl id' column' = .ok url' →
      url.text = url'.text → id = id' ∧ column = column' := by
  obtain ⟨segments, h⟩ := located_base read web
  constructor
  · refine ⟨front segments, fun id column => ⟨_, valuesUrl_eq web h id column, ?_⟩⟩
    exact names_iff (front segments) id column rfl
  · intro id id' column column' url url' plain plain' eq eq' same
    obtain ⟨ids, paths⟩ := valuesUrl_inj web h eq eq' same
    exact ⟨ids, columnPath_inj plain plain' paths⟩

theorem column_named_iff_slashes :
    let column := "a/b?%2e"
    ∃ b, ofText "http://bi.local/" none = .ok b ∧ b.base.IsWeb ∧
      ∃ front url, b.valuesUrl 12 column = .ok url ∧ Names front 12 column url ∧
        ∀ id url', b.valuesUrl id "." = .ok url' → ¬ Names front id "." url' := by
  intro column
  let b : Backend :=
    ⟨⟨"http", some { host := .domain "bi.local" }, .segments [""], none, none⟩, none⟩
  have read : ofText "http://bi.local/" none = .ok b := rfl
  have web : b.base.IsWeb := .inl rfl
  obtain ⟨⟨front, named⟩, _⟩ := column_named_iff read web
  obtain ⟨url, eq, iff⟩ := named 12 column
  have plain : IsPlain column := ⟨by decide, by decide, kept_eq_self.mp (by decide)⟩
  refine ⟨b, read, web, front, url, eq, iff.mpr plain, ?_⟩
  intro id url' eq' names
  obtain ⟨url'', eq'', iff'⟩ := named id "."
  rw [eq', Except.ok.injEq] at eq''
  subst eq''
  exact (iff'.mp names).1 rfl

/-- The columns `.` and `..` share an address, and so do a column with a tab and the one without;
neither a dot nor the tab can be read from the address, whatever comes in front of it. -/
theorem not_column_named :
    ∃ b, ofText "http://bi.local/" none = .ok b ∧ b.base.IsWeb ∧
      (∃ url, b.valuesUrl 12 "." = .ok url ∧ b.valuesUrl 12 ".." = .ok url ∧
        ∀ front, ¬ Names front 12 "." url) ∧
      ∃ url, b.valuesUrl 12 "a\tb" = .ok url ∧ b.valuesUrl 12 "ab" = .ok url ∧
        ∀ front, ¬ Names front 12 "a\tb" url := by
  let url (path : List String) : Url :=
    ⟨"http", some { host := .domain "bi.local" }, .segments path, none, none⟩
  let b : Backend := ⟨url [""], none⟩
  have located : Located b.base [""] := ⟨rfl, by decide, singles_words (by decide), _, rfl⟩
  have address : ∀ column, b.valuesUrl 12 column = .ok (url
      (["api", "v1", "datasource", "table", "12"] ++ columnPath true column ++ ["values", ""])) :=
    fun column => valuesUrl_eq (.inl rfl) located 12 column
  have dots : columnPath true "." = ["column"] ∧ columnPath true ".." = ["column"] := by decide
  have tab : columnPath true "a\tb" = ["column", "ab"] ∧ columnPath true "ab" = ["column", "ab"] := by
    decide
  refine ⟨b, rfl, .inl rfl, ⟨url ["api", "v1", "datasource", "table", "12", "column", "values", ""],
    ?_, ?_, ?_⟩, url ["api", "v1", "datasource", "table", "12", "column", "ab", "values", ""],
    ?_, ?_, ?_⟩
  · rw [address, dots.1]
    rfl
  · rw [address, dots.2]
    rfl
  · rintro front ⟨segment, path, _⟩
    have length := congrArg List.length (Path.segments.inj path)
    simp only [List.length_append, List.length_cons, List.length_nil] at length
    omega
  · rw [address, tab.1]
    rfl
  · rw [address, tab.2]
    rfl
  · rintro front ⟨segment, path, _, named⟩
    have path := Path.segments.inj path
    have none : front = [] := by
      have length := congrArg List.length path
      simp only [List.length_append, List.length_cons, List.length_nil] at length
      exact List.length_eq_zero_iff.mp (by omega)
    subst none
    have literal : "ab" = segment := Option.some.inj (congrArg (·[6]?) path)
    subst literal
    have read := fromUTF8?_segment true ['a', 'b']
    rw [show encode (inSegment true) ['a', 'b'] = ['a', 'b'] from rfl] at read
    exact absurd (Option.some.inj (read.symm.trans named)) (by decide)

end ColumnMap.Lookup.Backend
