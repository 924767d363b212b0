import ColumnMap.Proofs.Json.Form

/-!
The texts of records. Written as an object, a record may have its fields in any order and others
among them, whose values need only have the form of one. Written as a list, it has its fields in
their order, and the last of them may be left out unless they must be given.
-/

namespace ColumnMap.Json

/-- The text of an object's member, with the text of its value. -/
inductive MemberText : Bytes → String × Bytes → Prop where
  | member {name before after : Bytes} {key : String} (hn : StringText name key)
      (hb : Blank before) (ha : Blank after) (t : Bytes) :
      MemberText (name ++ (before ++ byte ':' :: (after ++ t))) (key, t)

/-- The text of an object with these members. What the texts of their values are is left open. -/
def ObjectText (text : Bytes) (members : List (String × Bytes)) : Prop :=
  ∃ body, Separated MemberText true body members ∧ text = byte '\x7b' :: (body ++ [byte '\x7d'])

section

variable {α : Type}

/-- Members of an object that give these fields: known ones by values in `L`, and others between
them. -/
inductive Fills (shape : Shape) (L : Bytes → α → Prop) :
    List (String × Bytes) → List (String × α) → Prop where
  | nil : Fills shape L [] []
  | known {key : String} {t : Bytes} {a : α} {members : List (String × Bytes)}
      {fields : List (String × α)} (hk : shape.has key = true) (ha : L t a)
      (h : Fills shape L members fields) : Fills shape L ((key, t) :: members) ((key, a) :: fields)
  | other {key : String} {t : Bytes} {members : List (String × Bytes)}
      {fields : List (String × α)} (hk : shape.has key = false) (ht : ValueForm t)
      (h : Fills shape L members fields) : Fills shape L ((key, t) :: members) fields

/-- A record written as an object. -/
def NamedText (shape : Shape) (L : Bytes → α → Prop) (text : Bytes)
    (fields : List (String × α)) : Prop :=
  ∃ members, ObjectText text members ∧ Fills shape L members fields ∧ shape.Admits fields

/-- A record written as the list of its fields. -/
def ListedText (shape : Shape) (L : Bytes → α → Prop) (text : Bytes)
    (fields : List (String × α)) : Prop :=
  ∃ values, ListText L text values ∧ values.length ≤ shape.fields.length ∧
    (∀ f ∈ shape.fields.drop values.length, f.required = false) ∧
    fields = (shape.fields.map (·.name)).zip values

/-- The text of a record. -/
def RecordText (shape : Shape) (L : Bytes → α → Prop) (text : Bytes)
    (fields : List (String × α)) : Prop :=
  NamedText shape L text fields ∨ ListedText shape L text fields

/-! ### Keys -/

theorem nextKey_separator {first : Bool} {sep name : Bytes} {key : String}
    (hs : Separator first sep) (hn : StringText name key) (r : Bytes) :
    nextKey first (sep ++ (name ++ r)) = .ok (some key, r) := by
  obtain ⟨t, rfl⟩ := hn.begins
  have read : scanString (t ++ r) = .ok (key, r) := scanString_iff.mpr ⟨t, hn, rfl⟩
  have quote : isSpace (byte '"') = false := by decide
  cases hs with
  | first hg =>
    simp only [nextKey, List.cons_append, skipSpace_to hg quote, read, onResult, if_true]
    rfl
  | comma hb hg =>
    simp only [nextKey, List.cons_append, List.append_assoc, skipSpace_to hg quote, read, onResult,
      skipSpace_to hb (by decide : isSpace (byte ',') = false), if_true]
    rfl

theorem nextKey_gives {first : Bool} {s r : Bytes} {key : String}
    (h : nextKey first s = .ok (some key, r)) :
    ∃ sep name, Separator first sep ∧ StringText name key ∧ s = sep ++ (name ++ r) := by
  have string : ∀ {u : Bytes}, onResult some (scanString u) = .ok (some key, r) →
      ∃ t, StringText (byte '"' :: t) key ∧ u = t ++ r := fun found => by
    obtain ⟨_, read, same⟩ := onResult_eq_ok.mp found
    cases same
    exact scanString_iff.mp read
  unfold nextKey at h
  split at h
  · simp [fail] at h
  rename_i here
  obtain ⟨gap, blank, rfl⟩ := gap_of_skipSpace here
  split at h
  · simp at h
  split at h
  · rename_i first_
    split at h
    · rename_i quote
      obtain ⟨t, text, rfl⟩ := string h
      exact ⟨gap, _, first_ ▸ .first blank, text, by rw [quote]; rfl⟩
    · simp [failAt] at h
  rename_i first_
  obtain rfl : first = false := by simpa using first_
  split at h
  · rename_i comma
    split at h
    · simp [fail] at h
    rename_i here'
    obtain ⟨gap', blank', rfl⟩ := gap_of_skipSpace here'
    split at h
    · rename_i quote
      obtain ⟨t, text, rfl⟩ := string h
      exact ⟨_, _, .comma blank blank', text, by simp [comma, quote]⟩
    · split at h <;> simp [failAt] at h
  · simp [failAt] at h

theorem nextKey_none {first : Bool} {s r : Bytes} (h : nextKey first s = .ok (none, r)) :
    ∃ gap u, Blank gap ∧ r = byte '\x7d' :: u ∧ s = gap ++ byte '\x7d' :: u := by
  have string : ∀ u : Bytes, onResult some (scanString u) ≠ .ok (none, r) := fun u found => by
    obtain ⟨_, -, same⟩ := onResult_eq_ok.mp found
    cases same
  unfold nextKey at h
  split at h
  · simp [fail] at h
  rename_i here
  obtain ⟨gap, blank, rfl⟩ := gap_of_skipSpace here
  split at h
  · rename_i close
    cases h
    exact ⟨gap, _, blank, by rw [close], by rw [close]⟩
  split at h
  · split at h
    · exact absurd h (string _)
    · simp [failAt] at h
  split at h
  · split at h
    · simp [fail] at h
    split at h
    · exact absurd h (string _)
    · split at h <;> simp [failAt] at h
  · simp [failAt] at h

theorem colon_iff {s r : Bytes} :
    colon s = .ok ((), r) ↔ ∃ gap, Blank gap ∧ s = gap ++ byte ':' :: r := by
  constructor
  · intro h
    unfold colon at h
    split at h
    · simp [fail] at h
    rename_i here
    obtain ⟨gap, blank, rfl⟩ := gap_of_skipSpace here
    split at h
    · rename_i colon
      cases h
      exact ⟨gap, blank, by rw [colon]⟩
    · simp [failAt] at h
  · rintro ⟨gap, blank, rfl⟩
    simp only [colon, skipSpace_to blank (by decide : isSpace (byte ':') = false), if_true]

/-! ### Records written as objects -/

variable {shape : Shape} {value : Reader α} {L : Bytes → α → Prop}

theorem namedFields_other {first : Bool} {given : List (String × α)} {s r t u : Bytes}
    {key : String} (h : nextKey first s = .ok (some key, r)) (other : shape.has key = false)
    (hc : colon r = .ok ((), t)) (hv : skipValue t = .ok ((), u)) :
    namedFields shape value first given s = namedFields shape value false given u := by
  conv => lhs; rw [namedFields]
  split
  · simp_all
  · simp_all
  rename_i next
  rw [h] at next
  cases next
  rw [if_neg (by simp [other])]
  split
  · simp_all
  rename_i here
  rw [hc] at here
  cases here
  split
  · simp_all
  rename_i passed
  rw [hv] at passed
  cases passed
  rfl

theorem namedFields_separated (h : value.Reads L) {first : Bool} {body : Bytes}
    {members : List (String × Bytes)} (texts : Separated MemberText first body members)
    {fields : List (String × α)} (fills : Fills shape L members fields)
    (given : List (String × α)) (admits : shape.Admits (given.reverse ++ fields)) (r : Bytes) :
    namedFields shape value first given (body ++ byte '\x7d' :: r) =
      .ok (given.reverse ++ fields, r) := by
  induction texts generalizing fields given with
  | done hg =>
    cases fills
    have complete : shape.missing? given = none := by
      rw [← admits.complete]
      exact shape.missing?_congr fun f => by simp
    rw [namedFields_close (nextKey_close hg _ r) complete]
    simp
  | @item first sep t rest m members hs ha hl ih =>
    obtain @⟨name, before, after, key, hn, hb, hg, t⟩ := ha
    have next := nextKey_separator hs hn
      (before ++ byte ':' :: (after ++ (t ++ (rest ++ byte '\x7d' :: r))))
    have here : colon (before ++ byte ':' :: (after ++ (t ++ (rest ++ byte '\x7d' :: r)))) =
        .ok ((), after ++ (t ++ (rest ++ byte '\x7d' :: r))) := colon_iff.mpr ⟨before, hb, rfl⟩
    have behind := hl.ends (.inr rfl) r
    have whole : sep ++ (name ++ (before ++ byte ':' :: (after ++ t)) ++ rest) ++ byte '\x7d' :: r =
        sep ++ (name ++ (before ++ byte ':' :: (after ++ (t ++ (rest ++ byte '\x7d' :: r))))) := by
      simp
    rw [whole]
    cases fills with
    | @known _ _ a _ fields known value_ fills =>
      have fresh : ∀ g ∈ given, g.1 ≠ key := by
        intro g hg'
        have apart := admits.distinct
        rw [List.map_append, List.map_cons, List.nodup_append] at apart
        exact apart.2.2 g.1 (by simpa using ⟨g.2, hg'⟩) key List.mem_cons_self
      rw [namedFields_field next known fresh here ((h.takes value_).reads hg behind),
        ih fills _ (by simpa using admits)]
      simp
    | other unknown form fills =>
      have passed := skipValue_takes hg form behind
      rw [namedFields_other next unknown here passed, ih fills given admits]

theorem namedFields_gives (h : value.Reads L) {first : Bool} {given l : List (String × α)}
    {s r : Bytes} (distinct : (given.map (·.1)).Nodup)
    (found : namedFields shape value first given s = .ok (l, r)) :
    ∃ body members new, Separated MemberText first body members ∧ Fills shape L members new ∧
      s = body ++ byte '\x7d' :: r ∧ l = given.reverse ++ new ∧ (l.map (·.1)).Nodup ∧
      shape.missing? l = none := by
  fun_induction namedFields shape value first given s with
  | case2 first given s u close =>
    obtain ⟨gap, v, blank, rfl, rfl⟩ := nextKey_none close
    unfold closeFields at found
    split at found
    · simp at found
    rename_i complete
    cases found
    refine ⟨gap, [], [], .done blank, .nil, rfl, by simp, by simpa using distinct, ?_⟩
    rw [← complete]
    exact shape.missing?_congr fun f => by simp
  | case6 first given s key u next known fresh _ t here a v read ih =>
    have distinct' : (((key, a) :: given).map (·.1)).Nodup := by
      rw [List.map_cons, List.nodup_cons]
      exact ⟨by simpa using fresh, distinct⟩
    obtain ⟨body, members, new, texts, fills, rfl, rfl, apart, complete⟩ := ih distinct' found
    obtain ⟨sep, name, hs, hn, rfl⟩ := nextKey_gives next
    obtain ⟨before, hb, rfl⟩ := colon_iff.mp here
    obtain ⟨after, text, ha, rfl, value_⟩ := h.gives read
    exact ⟨_, _, _, .item hs (.member hn hb ha text) texts, .known known value_ fills, by simp,
      by simp, apart, complete⟩
  | case9 first given s key u next unknown _ t here _ v passed ih =>
    obtain ⟨body, members, new, texts, fills, rfl, rfl, apart, complete⟩ := ih distinct found
    obtain ⟨sep, name, hs, hn, rfl⟩ := nextKey_gives next
    obtain ⟨before, hb, rfl⟩ := colon_iff.mp here
    obtain ⟨after, text, ha, form, rfl⟩ := skipValue_gives passed
    have other : shape.has key = false := by simpa using unknown
    exact ⟨_, _, _, .item hs (.member hn hb ha text) texts, .other other form fills, by simp, rfl,
      apart, complete⟩
  | _ => simp at found

theorem Fills.known_of_mem {members : List (String × Bytes)} {fields : List (String × α)}
    (h : Fills shape L members fields) : ∀ f ∈ fields, shape.has f.1 = true := by
  induction h with
  | nil => simp
  | known hk _ _ ih => exact List.forall_mem_cons.mpr ⟨hk, ih⟩
  | other _ _ _ ih => exact ih

theorem fills_nil {members : List (String × Bytes)} :
    Fills shape L members [] ↔ ∀ m ∈ members, shape.has m.1 = false ∧ ValueForm m.2 := by
  constructor
  · intro h
    generalize none_ : ([] : List (String × α)) = fields at h
    induction h with
    | nil => simp
    | known => cases none_
    | other hk ht _ ih => exact List.forall_mem_cons.mpr ⟨⟨hk, ht⟩, ih none_⟩
  · intro h
    induction members with
    | nil => exact .nil
    | cons m members ih =>
      obtain ⟨⟨hk, ht⟩, rest⟩ := List.forall_mem_cons.mp h
      exact .other hk ht (ih rest)

/-- The first field is given by one member, and those before it are no fields. -/
theorem fills_cons {members : List (String × Bytes)} {key : String} {a : α}
    {fields : List (String × α)} :
    Fills shape L members ((key, a) :: fields) ↔ ∃ before t after,
      members = before ++ (key, t) :: after ∧ shape.has key = true ∧ L t a ∧
        (∀ m ∈ before, shape.has m.1 = false ∧ ValueForm m.2) ∧ Fills shape L after fields := by
  constructor
  · intro h
    generalize some_ : (key, a) :: fields = all at h
    induction h with
    | nil => cases some_
    | @known key t a members fields hk ha h =>
      cases some_
      exact ⟨[], t, members, rfl, hk, ha, by simp, h⟩
    | @other key t members fields hk ht _ ih =>
      obtain ⟨before, u, after, rfl, hk', ha, plain, rest⟩ := ih some_
      exact ⟨(key, t) :: before, u, after, rfl, hk', ha,
        List.forall_mem_cons.mpr ⟨⟨hk, ht⟩, plain⟩, rest⟩
  · rintro ⟨before, t, after, rfl, hk, ha, plain, rest⟩
    induction before with
    | nil => exact .known hk ha rest
    | cons m before ih =>
      obtain ⟨⟨hk', ht'⟩, plain⟩ := List.forall_mem_cons.mp plain
      exact .other hk' ht' (ih plain)

/-! ### Records written as lists -/

theorem closeList_iff {s r : Bytes} :
    closeList s = .ok ((), r) ↔ ∃ gap, Blank gap ∧ s = gap ++ byte ']' :: r := by
  constructor
  · intro h
    unfold closeList at h
    split at h
    · simp [fail] at h
    rename_i here
    obtain ⟨gap, blank, rfl⟩ := gap_of_skipSpace here
    split at h
    · rename_i close
      cases h
      exact ⟨gap, blank, by rw [close]⟩
    split at h
    · split at h <;> simp [failAt] at h
    · simp [failAt] at h
  · rintro ⟨gap, blank, rfl⟩
    simp only [closeList, skipSpace_to blank (by decide : isSpace (byte ']') = false), if_true]

/-- At the end of the list the remaining fields are left out. -/
theorem listedFields_end {index : Nat} {given l : List (String × α)} {fields : List FieldName}
    {s r : Bytes} (close : nextItem (index == 0) s = .ok none)
    (found : listedFields shape value index given fields s = .ok (l, r)) :
    (∀ f ∈ fields, f.required = false) ∧ l = given.reverse ∧
      ∃ gap, Blank gap ∧ s = gap ++ byte ']' :: r := by
  induction fields with
  | nil =>
    obtain ⟨_, closed, rfl⟩ := onResult_eq_ok.mp found
    exact ⟨by simp, rfl, closeList_iff.mp closed⟩
  | cons f fields ih =>
    simp only [listedFields, close] at found
    split at found
    · simp at found
    · rename_i optional
      obtain ⟨rest, whole, closed⟩ := ih found
      exact ⟨List.forall_mem_cons.mpr ⟨by simpa using optional, rest⟩, whole, closed⟩

theorem listedFields_gives (h : value.Reads L) {index : Nat} {given l : List (String × α)}
    {fields : List FieldName} {s r : Bytes}
    (found : listedFields shape value index given fields s = .ok (l, r)) :
    ∃ body values, Separated L (index == 0) body values ∧ s = body ++ byte ']' :: r ∧
      values.length ≤ fields.length ∧ (∀ f ∈ fields.drop values.length, f.required = false) ∧
      l = given.reverse ++ (fields.map (·.name)).zip values := by
  induction fields generalizing index given s with
  | nil =>
    obtain ⟨_, closed, rfl⟩ := onResult_eq_ok.mp found
    obtain ⟨gap, blank, rfl⟩ := closeList_iff.mp closed
    exact ⟨gap, [], .done blank, rfl, by simp, by simp, by simp⟩
  | cons f fields ih =>
    cases next : nextItem (index == 0) s with
    | error e => simp [listedFields, next] at found
    | ok here =>
      cases here with
      | none =>
        obtain ⟨optional, rfl, gap, blank, rfl⟩ := listedFields_end next found
        exact ⟨gap, [], .done blank, rfl, by simp, by simpa using optional, by simp⟩
      | some t =>
        simp only [listedFields, next] at found
        split at found
        · simp at found
        rename_i a u read
        obtain ⟨body, values, texts, rfl, short, optional, rfl⟩ := ih found
        obtain ⟨sep, hs, rfl⟩ := nextItem_gives next
        obtain ⟨gap, text, blank, rfl, value_⟩ := h.gives read
        exact ⟨_, a :: values, .item (hs.append blank) value_ texts, by simp,
          Nat.succ_le_succ short, optional, by simp⟩

theorem listedFields_separated (h : value.Reads L) (index : Nat) {body : Bytes} {values : List α}
    (texts : Separated L (index == 0) body values) {fields : List FieldName}
    (short : values.length ≤ fields.length)
    (optional : ∀ f ∈ fields.drop values.length, f.required = false)
    (given : List (String × α)) (r : Bytes) :
    listedFields shape value index given fields (body ++ byte ']' :: r) =
      .ok (given.reverse ++ (fields.map (·.name)).zip values, r) := by
  induction fields generalizing index given body values with
  | nil =>
    obtain rfl : values = [] := List.eq_nil_of_length_eq_zero (Nat.le_zero.mp short)
    cases texts with
    | done hg =>
      rw [listedFields, closeList_iff.mpr ⟨body, hg, rfl⟩]
      simp [onResult]
  | cons f fields ih =>
    cases texts with
    | done hg =>
      have optional := List.forall_mem_cons.mp optional
      simp only [listedFields, nextItem_close hg, optional.1, Bool.false_eq_true, if_false]
      rw [ih index (.done hg) (Nat.zero_le _) optional.2]
      simp
    | @item _ sep t rest a values hs ha hl =>
      have taken := h.takes ha
      have next := nextItem_separator hs taken (rest ++ byte ']' :: r)
      simp only [listedFields, List.append_assoc, next, taken.here (hl.ends (.inl rfl) r)]
      rw [ih (index + 1) hl (Nat.le_of_succ_le_succ short) optional]
      simp

/-! ### Both -/

/-- The reader of records accepts the texts of records. -/
theorem reads_record (h : value.Reads L) (depth : Nat) :
    (Reader.record (depth + 1) shape value).Reads (RecordText shape L) where
  takes := by
    have kind : byte '\x7b' ≠ byte '[' := by decide
    rintro _ fields (⟨members, ⟨body, texts, rfl⟩, fills, admits⟩ |
      ⟨values, ⟨body, texts, rfl⟩, short, optional, rfl⟩)
    · refine ⟨⟨_, _, rfl, by decide, by decide⟩, fun {gap rest} hg _ => ?_⟩
      have read := namedFields_separated h texts fills [] admits rest
      simp only [Reader.record, readRecord, List.cons_append, List.append_assoc, if_neg kind,
        skipSpace_to hg (by decide : isSpace (byte '\x7b') = false), if_true, Nat.succ_ne_zero,
        if_false, read, List.reverse_nil, List.nil_append]
    · refine ⟨⟨_, _, rfl, by decide, by decide⟩, fun {gap rest} hg _ => ?_⟩
      have read := @listedFields_separated _ shape _ _ h 0 _ _ texts _ short optional [] rest
      simp only [Reader.record, readRecord, List.cons_append, List.append_assoc,
        skipSpace_to hg (by decide : isSpace (byte '[') = false), if_true, Nat.succ_ne_zero,
        if_false, read, List.reverse_nil, List.nil_append]
  gives {s r fields} found := by
    simp only [Reader.record, readRecord] at found
    split at found
    · simp [fail] at found
    rename_i here
    obtain ⟨gap, blank, rfl⟩ := gap_of_skipSpace here
    split at found
    · rename_i open_
      rw [if_neg (Nat.succ_ne_zero depth)] at found
      obtain ⟨body, values, texts, rfl, short, optional, rfl⟩ := listedFields_gives h found
      exact ⟨gap, _, blank, by simp [open_],
        .inr ⟨values, ⟨body, texts, rfl⟩, short, optional, rfl⟩⟩
    split at found
    · rename_i open_
      rw [if_neg (Nat.succ_ne_zero depth)] at found
      obtain ⟨body, members, new, texts, fills, rfl, rfl, distinct, complete⟩ :=
        namedFields_gives h (by simp) found
      exact ⟨gap, _, blank, by simp [open_], .inl ⟨members, ⟨body, texts, rfl⟩, fills,
        fills.known_of_mem, distinct, complete⟩⟩
    · simp at found

end

end ColumnMap.Json
