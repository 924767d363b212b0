import ColumnMap.Proofs.Json.RecordText

/-!
The grammar of JSON texts is unambiguous as far as the readers need it: where a list or an object
begins, its bytes say where it ends and which items or members it has. So two descriptions of one
text, such as the one that its author has and the one that a reader finds, agree.
-/

namespace ColumnMap.Json

/-! ### Strings and values -/

theorem Spelling.pieces {t : Bytes} {c : Char} (h : Spelling t c) :
    ∃ pieces : List Bytes, (∀ p ∈ pieces, Piece p) ∧ t = pieces.flatten := by
  cases h with
  | self control quote backslash =>
    refine ⟨(String.utf8EncodeChar c).map ([·]), ?_, ?_⟩
    · rw [List.forall_mem_map]
      exact fun b hb => .plain (plain_of_mem control quote backslash hb)
    · rw [← List.flatMap_def, List.flatMap_singleton']
  | @letter b _ known ascii =>
    exact ⟨[[byte '\\', b]], by simpa using .letter (by simp [known]), by simp⟩
  | number digits => exact ⟨[_], by simpa using .number digits, by simp⟩
  | @pair ds es _ _ _ hd he =>
    refine ⟨[byte '\\' :: byte 'u' :: ds, byte '\\' :: byte 'u' :: es], ?_, by simp⟩
    simpa using ⟨.number hd, .number he⟩

/-- The text of a string has the form of one. -/
theorem StringText.form {t : Bytes} {s : String} (h : StringText t s) : StringForm t := by
  obtain ⟨texts, spelled, rfl⟩ := h
  suffices found : ∃ pieces : List Bytes, (∀ p ∈ pieces, Piece p) ∧
      texts.flatten = pieces.flatten by
    obtain ⟨pieces, each, same⟩ := found
    exact ⟨pieces, each, by rw [same]⟩
  generalize s.toList = cs at spelled
  induction spelled with
  | nil => exact ⟨[], by simp, rfl⟩
  | cons first _ ih =>
    obtain ⟨pieces, each, rfl⟩ := first.pieces
    obtain ⟨more, each', same⟩ := ih
    exact ⟨pieces ++ more, List.forall_mem_append.mpr ⟨each, each'⟩, by simp [same]⟩

theorem StringText.valueForm {t : Bytes} {s : String} (h : StringText t s) : ValueForm t :=
  .scalar (.string h.form)

theorem StringText.determined {t u r s : Bytes} {x y : String} (ht : StringText t x)
    (hu : StringText u y) (whole : t ++ r = u ++ s) : r = s ∧ x = y := by
  obtain ⟨t, rfl⟩ := ht.begins
  obtain ⟨u, rfl⟩ := hu.begins
  have first : scanString (t ++ r) = .ok (x, r) := scanString_iff.mpr ⟨t, ht, rfl⟩
  have second : scanString (u ++ s) = .ok (y, s) := scanString_iff.mpr ⟨u, hu, rfl⟩
  have same : t ++ r = u ++ s := (List.cons.inj whole).2
  rw [same, second] at first
  cases first
  exact ⟨rfl, rfl⟩

theorem StringText.unique {t : Bytes} {x y : String} (hx : StringText t x) (hy : StringText t y) :
    x = y :=
  (hx.determined hy rfl : ([] : Bytes) = [] ∧ x = y).2

theorem ValueForm.determined {gap gap' t u r s : Bytes} (hg : Blank gap) (hg' : Blank gap')
    (ht : ValueForm t) (hu : ValueForm u) (hr : Ends r) (hs : Ends s)
    (whole : gap ++ (t ++ r) = gap' ++ (u ++ s)) : r = s ∧ t = u := by
  -- Passing over a value is a function of the bytes, so both readings leave the same rest.
  have first := skipValue_takes hg ht hr
  rw [whole, skipValue_takes hg' hu hs] at first
  cases first
  obtain ⟨b, t, rfl, solid, -⟩ := ht.begins
  obtain ⟨c, u, rfl, solid', -⟩ := hu.begins
  have same := congrArg skipSpace whole
  rw [List.cons_append, List.cons_append, skipSpace_to hg solid, skipSpace_to hg' solid'] at same
  exact ⟨rfl, List.append_cancel_right same⟩

/-! ### Items between brackets -/

section

variable {α β : Type}

/-- The text begins with a byte that is no blank and does not close the bracket. -/
def Opens (close : UInt8) (t : Bytes) : Prop := ∃ b u, t = b :: u ∧ isSpace b = false ∧ b ≠ close

theorem Separator.determined {first : Bool} {sep sep' t u r s : Bytes} {close : UInt8}
    (hs : Separator first sep) (hs' : Separator first sep') (ht : Opens close t)
    (hu : Opens close u) (whole : sep ++ (t ++ r) = sep' ++ (u ++ s)) : t ++ r = u ++ s := by
  obtain ⟨b, t, rfl, solid, -⟩ := ht
  obtain ⟨c, u, rfl, solid', -⟩ := hu
  have same := congrArg skipSpace whole
  have comma : isSpace (byte ',') = false := by decide
  cases hs with
  | first hg =>
    cases hs' with
    | first hg' => rwa [List.cons_append, List.cons_append, skipSpace_to hg solid,
        skipSpace_to hg' solid'] at same
  | comma hb hg =>
    cases hs' with
    | comma hb' hg' =>
      simp only [List.append_assoc, List.cons_append, skipSpace_to hb comma,
        skipSpace_to hb' comma] at same
      have behind := congrArg skipSpace (List.cons.inj same).2
      rwa [skipSpace_to hg solid, skipSpace_to hg' solid'] at behind

/-- Where a bracket closes no item stands. -/
theorem Separator.not_close {first : Bool} {sep gap t r s : Bytes} {close : UInt8}
    (solid : isSpace close = false) (other : close ≠ byte ',') (hs : Separator first sep)
    (ht : Opens close t) (hg : Blank gap) : gap ++ close :: r ≠ sep ++ (t ++ s) := by
  obtain ⟨b, t, rfl, solid', open_⟩ := ht
  intro whole
  have same := congrArg skipSpace whole
  rw [skipSpace_to hg solid] at same
  cases hs with
  | first hg' =>
    rw [List.cons_append, skipSpace_to hg' solid'] at same
    exact open_ (List.cons.inj same).1.symm
  | comma hb _ =>
    rw [List.append_assoc, List.cons_append, skipSpace_to hb (by decide)] at same
    exact other (List.cons.inj same).1

/-- Two readings of the bytes up to a closing bracket have related items, one by one, if each item
is determined where it begins. -/
theorem Separated.determined {L : Bytes → α → Prop} {M : Bytes → β → Prop} {R : α → β → Prop}
    {close : UInt8} (bracket : close = byte ']' ∨ close = byte '\x7d')
    (hL : ∀ {t a}, L t a → Opens close t) (hM : ∀ {t b}, M t b → Opens close t)
    (item : ∀ {t u r s a b}, L t a → M u b → Ends r → Ends s → t ++ r = u ++ s → r = s ∧ R a b)
    {first : Bool} {body body' r s : Bytes} {l : List α} {m : List β}
    (hl : Separated L first body l) (hm : Separated M first body' m)
    (whole : body ++ close :: r = body' ++ close :: s) : r = s ∧ List.Forall₂ R l m := by
  have solid : isSpace close = false := by rcases bracket with rfl | rfl <;> decide
  have other : close ≠ byte ',' := by rcases bracket with rfl | rfl <;> decide
  -- By induction on the first reading: the second has to stop, or to go on, at the same place.
  induction hl generalizing body' m with
  | done hg =>
    cases hm with
    | done hg' =>
      have same := congrArg skipSpace whole
      rw [skipSpace_to hg solid, skipSpace_to hg' solid] at same
      exact ⟨(List.cons.inj same).2, .nil⟩
    | item hs hb =>
      rw [List.append_assoc, List.append_assoc] at whole
      exact absurd whole (hs.not_close solid other (hM hb) hg)
  | item hs ha hl ih =>
    cases hm with
    | done hg =>
      rw [List.append_assoc, List.append_assoc] at whole
      exact absurd whole.symm (hs.not_close solid other (hL ha) hg)
    | item hs' hb hm =>
      rw [List.append_assoc, List.append_assoc, List.append_assoc, List.append_assoc] at whole
      have here := hs.determined hs' (hL ha) (hM hb) whole
      obtain ⟨rest, same⟩ := item ha hb (hl.ends bracket r) (hm.ends bracket s) here
      obtain ⟨end_, more⟩ := ih hm rest
      exact ⟨end_, .cons same more⟩

theorem Separated.and_mem {L : Bytes → α → Prop} {P : α → Prop} {first : Bool} {body : Bytes}
    {l : List α} (h : Separated L first body l) (each : ∀ a ∈ l, P a) :
    Separated (fun t a => L t a ∧ P a) first body l := by
  induction h with
  | done hg => exact .done hg
  | item hs ha _ ih =>
    obtain ⟨here, more⟩ := List.forall_mem_cons.mp each
    exact .item hs ⟨ha, here⟩ (ih more)

/-- Other readings of the items make another reading of the whole. -/
theorem Separated.map₂ {L : Bytes → α → Prop} {M : Bytes → β → Prop} {R : α → β → Prop}
    (item : ∀ {t a b}, L t a → R a b → M t b) {first : Bool} {body : Bytes} {l : List α}
    {m : List β} (h : Separated L first body l) (same : List.Forall₂ R l m) :
    Separated M first body m := by
  induction h generalizing m with
  | done hg =>
    cases same
    exact .done hg
  | item hs ha _ ih =>
    cases same with
    | cons here more => exact .item hs (item ha here) (ih more)

/-! ### Objects -/

theorem MemberText.opens {t : Bytes} {m : String × Bytes} (h : MemberText t m) :
    Opens (byte '\x7d') t := by
  obtain ⟨⟨_, -, rfl⟩⟩ := h
  exact ⟨_, _, rfl, by decide, by decide⟩

theorem MemberText.determined {t u r s : Bytes} {m n : String × Bytes} (ht : MemberText t m)
    (hu : MemberText u n) (hm : ValueForm m.2) (hn : ValueForm n.2) (hr : Ends r) (hs : Ends s)
    (whole : t ++ r = u ++ s) : r = s ∧ m = n := by
  obtain ⟨name, hb, ha, value⟩ := ht
  obtain ⟨name', hb', ha', value'⟩ := hu
  simp only [List.append_assoc, List.cons_append] at whole
  obtain ⟨behind, rfl⟩ := name.determined name' whole
  have colon := congrArg skipSpace behind
  rw [skipSpace_to hb (by decide), skipSpace_to hb' (by decide)] at colon
  obtain ⟨rfl, rfl⟩ := hm.determined ha ha' hn hr hs (List.cons.inj colon).2
  exact ⟨rfl, rfl⟩

/-- An object is determined where it begins, if its values have the form of values. -/
theorem ObjectText.determined {t u r s : Bytes} {o p : List (String × Bytes)} (ht : ObjectText t o)
    (hu : ObjectText u p) (ho : ∀ m ∈ o, ValueForm m.2) (hp : ∀ m ∈ p, ValueForm m.2)
    (whole : t ++ r = u ++ s) : r = s ∧ o = p := by
  obtain ⟨body, texts, rfl⟩ := ht
  obtain ⟨body', texts', rfl⟩ := hu
  simp only [List.append_assoc, List.cons_append, List.nil_append] at whole
  have found := (texts.and_mem ho).determined (R := Eq) (.inr rfl) (fun h => h.1.opens)
    (fun h => h.1.opens) (fun h h' hr hs same => h.1.determined h'.1 h.2 h'.2 hr hs same)
    (texts'.and_mem hp) (List.cons.inj whole).2
  exact ⟨found.1, List.forall₂_eq_eq_eq ▸ found.2⟩

end

end ColumnMap.Json
