import ColumnMap.Proofs.Json.Determined
import ColumnMap.Proofs.Json.Scalar
import ColumnMap.Proofs.Program.Files
import Mathlib.Data.List.Count

/-!
Reading a file of mappings goes by the known keys of its objects and by nothing else. A list of
objects is read as one mapping for each, or not at all.
-/

namespace ColumnMap

open Json

/-! ### Members by name -/

namespace Json

variable {α : Type}

/-- What stands under a name, in order. -/
def named (name : String) (members : List (String × α)) : List α :=
  (members.filter (·.1 == name)).map (·.2)

theorem named_cons (name key : String) (a : α) (members : List (String × α)) :
    named name ((key, a) :: members) =
      if key = name then a :: named name members else named name members := by
  by_cases same : key = name
  · simp [named, same]
  · simp [named, same]

theorem length_named (name : String) (members : List (String × α)) :
    (named name members).length = (members.map (·.1)).count name := by
  rw [named, List.length_map, List.count_eq_length_filter, List.filter_map, List.length_map]
  rfl

theorem lookup_eq_head? (name : String) (members : List (String × α)) :
    members.lookup name = (named name members).head? := by
  induction members with
  | nil => rfl
  | cons m members ih =>
    obtain ⟨key, a⟩ := m
    rw [named_cons]
    by_cases same : key = name
    · rw [same, List.lookup_cons_self, if_pos rfl]
      rfl
    · have other : (name == key) = false := by simpa using Ne.symm same
      rw [List.lookup_cons, other, if_neg same, ih]

theorem mem_named {name : String} {a : α} {members : List (String × α)} :
    a ∈ named name members ↔ (name, a) ∈ members := by
  simp [named]

theorem perm_named (name : String) {l m : List (String × α)} (h : l.Perm m) :
    (named name l).Perm (named name m) :=
  (h.filter _).map _

theorem named_append (name : String) (l m : List (String × α)) :
    named name (l ++ m) = named name l ++ named name m := by
  simp [named]

theorem named_eq_nil {name : String} {l : List (String × α)} (h : ∀ m ∈ l, m.1 ≠ name) :
    named name l = [] := by
  rw [named, List.map_eq_nil_iff, List.filter_eq_nil_iff]
  simpa using h

variable {shape : Shape} {L : Bytes → α → Prop} {members : List (String × Bytes)}
  {fields : List (String × α)}

/-- The fields of a known name are those that the members of that name give. -/
theorem Fills.named (h : Fills shape L members fields) {name : String}
    (known : shape.has name = true) : List.Forall₂ L (named name members) (named name fields) := by
  induction h with
  | nil => exact .nil
  | @known key t a members fields _ ha _ ih =>
    rw [named_cons, named_cons]
    split
    · exact .cons ha ih
    · exact ih
  | @other key t members fields unknown _ _ ih =>
    have apart : key ≠ name := by
      rintro rfl
      rw [known] at unknown
      cases unknown
    rwa [named_cons, if_neg apart]

/-- Members whose known names have values fill a record. -/
theorem exists_fills (forms : ∀ m ∈ members, ValueForm m.2)
    (values : ∀ m ∈ members, shape.has m.1 = true → ∃ a, L m.2 a) :
    ∃ fields, Fills shape L members fields := by
  induction members with
  | nil => exact ⟨[], .nil⟩
  | cons m members ih =>
    obtain ⟨form, forms⟩ := List.forall_mem_cons.mp forms
    obtain ⟨value, values⟩ := List.forall_mem_cons.mp values
    obtain ⟨fields, fills⟩ := ih forms values
    cases known : shape.has m.1 with
    | true =>
      obtain ⟨a, text⟩ := value known
      exact ⟨(m.1, a) :: fields, .known known text fills⟩
    | false => exact ⟨fields, .other known form fills⟩

theorem Fills.forms (text : ∀ {t a}, L t a → ValueForm t) (h : Fills shape L members fields) :
    ∀ m ∈ members, ValueForm m.2 := by
  induction h with
  | nil => simp
  | known _ ha _ ih => exact List.forall_mem_cons.mpr ⟨text ha, ih⟩
  | other _ form _ ih => exact List.forall_mem_cons.mpr ⟨form, ih⟩

end Json

/-! ### Objects -/

namespace Mapping

/-- The members of an object, with the texts of their values. -/
abbrev Members := List (String × Bytes)

/-- The text of an object whose values have the form of values. -/
def ObjectForm (t : Bytes) (o : Members) : Prop := ObjectText t o ∧ ∀ m ∈ o, ValueForm m.2

/-- The names under which an object has what a mapping is made of. -/
def names : List String := ["column", "value", "auxiliaryInput"]

/-- One member has this name, and its value is the string `s`. -/
def Gives (o : Members) (name s : String) : Prop := ∃ t, named name o = [t] ∧ StringText t s

/-- The same, or no member has this name and `s` is empty. -/
def MayGive (o : Members) (name s : String) : Prop := Gives o name s ∨ named name o = [] ∧ s = ""

/-- The mapping of an object: the known names give its fields, and only the column must be given. -/
structure Describes (o : Members) (m : Mapping) : Prop where
  column : Gives o "column" m.column
  value : MayGive o "value" m.value
  auxiliaryInput : MayGive o "auxiliaryInput" m.auxiliaryInput

/-- The column is given, and no known name stands twice or holds anything but a string. -/
structure Sound (o : Members) : Prop where
  column : "column" ∈ o.map (·.1)
  once : ∀ name ∈ names, (o.map (·.1)).count name ≤ 1
  text : ∀ m ∈ o, m.1 ∈ names → ∃ s, StringText m.2 s

/-- The second object has the members of the first in any order, and others of unknown names. -/
def Extends (o p : Members) : Prop := ∃ extra, p.Perm (o ++ extra) ∧ ∀ m ∈ extra, m.1 ∉ names

variable {o p : Members} {m : Mapping} {fields : List (String × String)} {name s : String}

theorem shape_has : shape.has name = true ↔ name ∈ names := by
  simp only [shape, Shape.has, names, List.any_cons, List.any_nil, Bool.or_false, Bool.or_eq_true,
    beq_iff_eq, List.mem_cons, List.not_mem_nil, or_false, eq_comm (b := name)]

theorem shape_missing? : shape.missing? fields = none ↔ named "column" fields ≠ [] := by
  simp [shape, Shape.missing?, named]

/-! ### One name -/

/-- The field of a known name, by what stands under the name in the object. -/
theorem lookup_getD (fills : Fills shape StringText o fields) (known : name ∈ names)
    (gives : MayGive o name s) : (fields.lookup name).getD "" = s := by
  have same := fills.named (shape_has.mpr known)
  rw [lookup_eq_head?]
  rcases gives with ⟨t, found, text⟩ | ⟨missing, rfl⟩
  · rw [found] at same
    obtain ⟨x, rest, text', none_, values⟩ := List.forall₂_cons_left_iff.mp same
    rw [values, text.unique text']
    rfl
  · rw [missing, List.forall₂_nil_left_iff] at same
    rw [same]
    rfl

/-- A known name that no field has twice gives what the field has. -/
theorem mayGive_lookup (fills : Fills shape StringText o fields) (known : name ∈ names)
    (distinct : (fields.map (·.1)).Nodup) : MayGive o name ((fields.lookup name).getD "") := by
  have same := fills.named (shape_has.mpr known)
  have short : (named name fields).length ≤ 1 := by
    rw [length_named]
    exact List.nodup_iff_count_le_one.mp distinct name
  rw [lookup_eq_head?]
  generalize named name fields = values at same short
  match values, same, short with
  | [], same, _ =>
    rw [List.forall₂_nil_right_iff] at same
    exact .inr ⟨same, rfl⟩
  | [s], same, _ =>
    obtain ⟨t, rest, text, none_, found⟩ := List.forall₂_cons_right_iff.mp same
    rw [List.forall₂_nil_right_iff] at none_
    exact .inl ⟨t, by rw [found, none_], text⟩

theorem MayGive.gives (h : MayGive o name s) (there : named name o ≠ []) : Gives o name s :=
  h.resolve_right fun missing => there missing.1

theorem Gives.there (h : Gives o name s) : named name o ≠ [] := by
  obtain ⟨t, found, -⟩ := h
  simp [found]

/-- Something is given, or nothing has to be, if the name stands at most once and holds a string. -/
theorem exists_mayGive_iff :
    (∃ s, MayGive o name s) ↔
      (named name o).length ≤ 1 ∧ ∀ t ∈ named name o, ∃ s, StringText t s := by
  constructor
  · rintro ⟨s, ⟨t, found, text⟩ | ⟨missing, -⟩⟩
    · rw [found]
      exact ⟨Nat.le_refl 1, fun u mem => ⟨s, List.mem_singleton.mp mem ▸ text⟩⟩
    · simp [missing]
  · rintro ⟨short, texts⟩
    match found : named name o, short, texts with
    | [], _, _ => exact ⟨"", .inr ⟨found, rfl⟩⟩
    | [t], _, texts =>
      obtain ⟨s, text⟩ := texts t List.mem_cons_self
      exact ⟨s, .inl ⟨t, found, text⟩⟩

/-! ### Whole objects -/

theorem sound_iff :
    Sound o ↔ named "column" o ≠ [] ∧ ∀ name ∈ names, ∃ s, MayGive o name s := by
  simp only [exists_mayGive_iff, length_named]
  constructor
  · intro h
    refine ⟨fun none_ => ?_, fun name known => ⟨h.once name known, fun t mem => ?_⟩⟩
    · obtain ⟨⟨_, t⟩, mem, rfl⟩ := List.mem_map.mp h.column
      rw [← mem_named, none_] at mem
      cases mem
    · exact h.text (name, t) (mem_named.mp mem) known
  · rintro ⟨there, each⟩
    refine ⟨?_, fun name known => (each name known).1, ?_⟩
    · obtain ⟨t, mem⟩ := List.exists_mem_of_ne_nil _ there
      exact List.mem_map.mpr ⟨_, mem_named.mp mem, rfl⟩
    · rintro ⟨name, t⟩ mem known
      exact (each name known).2 t (mem_named.mpr mem)

/-- The objects that are mappings. -/
theorem exists_describes : (∃ m, Describes o m) ↔ Sound o := by
  rw [sound_iff]
  constructor
  · rintro ⟨m, hc, hv, ha⟩
    refine ⟨hc.there, fun name known => ?_⟩
    simp only [names, List.mem_cons, List.not_mem_nil, or_false] at known
    rcases known with rfl | rfl | rfl
    · exact ⟨_, .inl hc⟩
    · exact ⟨_, hv⟩
    · exact ⟨_, ha⟩
  · rintro ⟨there, each⟩
    obtain ⟨column, hc⟩ := each "column" (by decide)
    obtain ⟨value, hv⟩ := each "value" (by decide)
    obtain ⟨auxiliaryInput, ha⟩ := each "auxiliaryInput" (by decide)
    exact ⟨⟨column, value, auxiliaryInput⟩, hc.gives there, hv, ha⟩

/-- A record is filled by the members that describe its mapping. -/
theorem describes_iff (forms : ∀ x ∈ o, ValueForm x.2) :
    Describes o m ↔ ∃ fields, Fills shape StringText o fields ∧ shape.Admits fields ∧
      ofFields fields = m := by
  constructor
  · intro h
    have sound : Sound o := exists_describes.mp ⟨m, h⟩
    obtain ⟨fields, fills⟩ := exists_fills forms fun x hx known =>
      sound.text x hx (shape_has.mp known)
    have pairs := fun {name : String} (known : name ∈ names) => fills.named (shape_has.mpr known)
    refine ⟨fields, fills, ⟨fills.known_of_mem, ?_, ?_⟩, ?_⟩
    · -- Fields have known names only, and of each as many as the object has members.
      rw [List.nodup_iff_count_le_one]
      intro name
      by_cases known : name ∈ names
      · rw [← length_named, ← (pairs known).length_eq, length_named]
        exact sound.once name known
      · have unused : name ∉ fields.map (·.1) := by
          intro mem
          obtain ⟨f, hf, rfl⟩ := List.mem_map.mp mem
          exact known (shape_has.mp (fills.known_of_mem f hf))
        rw [List.count_eq_zero.mpr unused]
        exact Nat.zero_le 1
    · rw [shape_missing?]
      intro none_
      have same := pairs (by decide : "column" ∈ names)
      rw [none_, List.forall₂_nil_right_iff] at same
      exact h.column.there same
    · rw [ofFields, lookup_getD fills (by decide) (.inl h.column),
        lookup_getD fills (by decide) h.value, lookup_getD fills (by decide) h.auxiliaryInput]
  · rintro ⟨fields, fills, admits, rfl⟩
    refine ⟨?_, mayGive_lookup fills (by decide) admits.distinct,
      mayGive_lookup fills (by decide) admits.distinct⟩
    refine (mayGive_lookup fills (by decide) admits.distinct).gives fun missing => ?_
    have same := fills.named (shape_has.mpr (by decide : "column" ∈ names))
    rw [missing, List.forall₂_nil_left_iff] at same
    exact shape_missing?.mp admits.complete same

theorem exists_forall₂_describes {objects : List Members} :
    (∃ mappings, List.Forall₂ Describes objects mappings) ↔ ∀ o ∈ objects, Sound o := by
  constructor
  · rintro ⟨mappings, described⟩
    induction described with
    | nil => simp
    | cons here _ ih => exact List.forall_mem_cons.mpr ⟨exists_describes.mp ⟨_, here⟩, ih⟩
  · intro sound
    induction objects with
    | nil => exact ⟨[], .nil⟩
    | cons o objects ih =>
      obtain ⟨here, more⟩ := List.forall_mem_cons.mp sound
      obtain ⟨m, described⟩ := exists_describes.mpr here
      obtain ⟨mappings, rest⟩ := ih more
      exact ⟨m :: mappings, .cons described rest⟩

/-- What describes a mapping is under the known names only. -/
theorem Extends.describes_iff (h : Extends o p) : Describes p m ↔ Describes o m := by
  obtain ⟨extra, perm, unknown⟩ := h
  have under : ∀ name ∈ names, (named name p).Perm (named name o) := by
    intro name known
    have none_ : named name extra = [] := by
      refine named_eq_nil fun x hx same => ?_
      exact unknown x hx (same ▸ known)
    have kept := perm_named name perm
    rwa [named_append, none_, List.append_nil] at kept
  have gives : ∀ name ∈ names, ∀ s, Gives p name s ↔ Gives o name s := by
    intro name known s
    refine exists_congr fun t => and_congr_left fun _ => ?_
    rw [← List.perm_singleton, ← List.perm_singleton]
    exact ⟨(under name known).symm.trans, (under name known).trans⟩
  have mayGive : ∀ name ∈ names, ∀ s, MayGive p name s ↔ MayGive o name s := by
    intro name known s
    refine or_congr (gives name known s) (and_congr_left fun _ => ?_)
    rw [← List.perm_nil, ← List.perm_nil]
    exact ⟨(under name known).symm.trans, (under name known).trans⟩
  have column := gives "column" (by decide)
  have value := mayGive "value" (by decide)
  have auxiliaryInput := mayGive "auxiliaryInput" (by decide)
  constructor
  · rintro ⟨hc, hv, ha⟩
    exact ⟨(column _).mp hc, (value _).mp hv, (auxiliaryInput _).mp ha⟩
  · rintro ⟨hc, hv, ha⟩
    exact ⟨(column _).mpr hc, (value _).mpr hv, (auxiliaryInput _).mpr ha⟩

/-! ### Whole files -/

/-- The text of a mapping, as the reader has it. -/
def MappingText (t : Bytes) (m : Mapping) : Prop :=
  ∃ fields, RecordText shape StringText t fields ∧ ofFields fields = m

/-- The text is a JSON list of objects with these members. Which known names the objects have, and
what stands under them, is left open. -/
def Lists (text : String) (objects : List Members) : Prop :=
  Padded (ListText ObjectForm) text.toUTF8.toList objects

theorem reads_mapping (depth : Nat) : (reader (depth + 1)).Reads MappingText :=
  (reads_record reads_string depth).map ofFields

theorem ObjectForm.opens {t : Bytes} (h : ObjectForm t o) : Opens (byte ']') t := by
  obtain ⟨⟨_, -, rfl⟩, -⟩ := h
  exact ⟨_, _, rfl, by decide, by decide⟩

theorem MappingText.opens {t : Bytes} (h : MappingText t m) : Opens (byte ']') t := by
  obtain ⟨_, ⟨_, ⟨_, -, rfl⟩, -⟩ | ⟨_, ⟨_, -, rfl⟩, -⟩, -⟩ := h
  · exact ⟨_, _, rfl, by decide, by decide⟩
  · exact ⟨_, _, rfl, by decide, by decide⟩

theorem Describes.mappingText {t : Bytes} (h : Describes o m) (object : ObjectForm t o) :
    MappingText t m := by
  obtain ⟨fields, fills, admits, whole⟩ := (describes_iff object.2).mp h
  exact ⟨fields, .inl ⟨o, object.1, fills, admits⟩, whole⟩

/-- What is read where an object begins is the mapping of the object. -/
theorem ObjectForm.describes {t u r s : Bytes} (object : ObjectForm t o) (text : MappingText u m)
    (whole : t ++ r = u ++ s) : r = s ∧ Describes o m := by
  obtain ⟨fields, ⟨members, object', fills, admits⟩ | ⟨_, ⟨_, -, rfl⟩, -⟩, described⟩ := text
  · have forms := fills.forms StringText.valueForm
    obtain ⟨rest, rfl⟩ := object.1.determined object' object.2 forms whole
    exact ⟨rest, (describes_iff object.2).mpr ⟨fields, fills, admits, described⟩⟩
  · -- A record that is written as a list does not begin like an object.
    obtain ⟨⟨_, -, rfl⟩, -⟩ := object
    exact absurd (List.cons.inj whole).1 (by decide)

theorem forall₂_extends {objects others : List Members} {mappings : List Mapping}
    (h : List.Forall₂ Extends objects others) :
    List.Forall₂ Describes others mappings ↔ List.Forall₂ Describes objects mappings := by
  induction h generalizing mappings with
  | nil => exact Iff.rfl
  | cons here _ ih =>
    cases mappings with
    | nil => constructor <;> intro none_ <;> cases none_
    | cons m mappings => rw [List.forall₂_cons, List.forall₂_cons, here.describes_iff, ih]

variable {text : String} {objects : List Members} {mappings : List Mapping}

theorem decode_iff (listed : Lists text objects) :
    listReader.decode text.toUTF8.toList = .ok mappings ↔
      List.Forall₂ Describes objects mappings := by
  obtain ⟨gap, _, close, hg, hc, whole, body, texts, rfl⟩ := listed
  have reads : listReader.Reads (ListText MappingText) := reads_list (reads_mapping 125) 126
  rw [reads.decode_iff, whole]
  constructor
  · rintro ⟨gap', _, close', hg', -, same, body', texts', rfl⟩
    simp only [List.append_assoc, List.cons_append, List.nil_append] at same
    have here := congrArg skipSpace same
    rw [skipSpace_to hg (by decide), skipSpace_to hg' (by decide)] at here
    exact (texts.determined (L := ObjectForm) (M := MappingText) (.inl rfl) (fun h => h.opens)
      (fun h => h.opens) (fun object text _ _ => object.describes text) texts'
      (List.cons.inj here).2).2
  · intro described
    exact ⟨gap, _, close, hg, hc, rfl, body,
      texts.map₂ (fun object described => described.mappingText object) described, rfl⟩

theorem lists_singleton {before behind t : Bytes} (hb : Blank before) (ha : Blank behind)
    (object : ObjectForm t o)
    (whole : encode text.toList = byte '[' :: (before ++ (t ++ behind) ++ [byte ']'])) :
    Lists text [o] := by
  refine ⟨[], _, [], blank_nil, blank_nil, ?_, _, .item (.first hb) object (.done ha), rfl⟩
  rw [toList_toUTF8, whole, List.nil_append, List.append_nil]

theorem not_isBlankText (listed : Lists text objects) : Text.isBlankText text = false := by
  obtain ⟨gap, _, close, -, -, whole, body, -, rfl⟩ := listed
  have bracket : byte '[' ∈ encode text.toList := by
    rw [← toList_toUTF8, whole]
    simp
  obtain ⟨c, mem, found⟩ := List.mem_flatMap.mp bracket
  have ascii : c.toNat < 0x80 := by
    by_contra large
    have := le_of_mem_utf8EncodeChar (Nat.le_of_not_lt large) found
    exact absurd this (by decide)
  rw [utf8EncodeChar_ascii ascii, List.mem_singleton, byte_inj (by decide) ascii] at found
  rw [Text.isBlankText, List.all_eq_false]
  exact ⟨c, mem, by rw [← found]; decide⟩

theorem ofBytes_iff (listed : Lists text objects) :
    ofBytes text.toUTF8 = .ok mappings ↔ List.Forall₂ Describes objects mappings := by
  rw [← decode_iff listed]
  simp only [ofBytes, fromUTF8?_toUTF8, ofText, not_isBlankText listed, Bool.false_eq_true,
    if_false]
  cases listReader.decode text.toUTF8.toList <;> simp [Except.mapError]

theorem ofBytes_refused (listed : Lists text objects) (unsound : ¬ ∀ o ∈ objects, Sound o) :
    ∃ reason, ofBytes text.toUTF8 = .error (.notMappings reason) := by
  cases found : ofBytes text.toUTF8 with
  | ok mappings =>
    have described := (ofBytes_iff listed).mp found
    exact absurd (exists_forall₂_describes.mp ⟨mappings, described⟩) unsound
  | error e =>
    simp only [ofBytes, fromUTF8?_toUTF8] at found
    cases refused : ofText text with
    | ok _ => simp [refused, Except.mapError] at found
    | error fault =>
      rw [refused] at found
      cases found
      exact ⟨_, rfl⟩

end Mapping

/-! ### Files on a machine -/

namespace Program

open Mapping

/-- A file with a list of objects is read as mappings exactly if these are the mappings of its
objects, one for each. So it is read if in each of them the column is given, and the known names
stand at most once and hold strings; otherwise it is refused as a whole. A file with the members of
the objects in another order, and with others of unknown names, is read as the same mappings, or
refused like this one. -/
theorem readMappings_objects {text : String} {objects : List Members}
    (listed : Lists text objects) {σ : Type} {host : Host (StateM σ)} {path : String} {s : σ}
    (found : (host.read path s).1 = .ok text.toUTF8) (logger : Logger) :
    let read := (readMappings host logger (some path) s).1
    (∀ mappings, read = .ok mappings ↔ List.Forall₂ Describes objects mappings) ∧
      ((∃ mappings, read = .ok mappings) ↔ ∀ o ∈ objects, Sound o) ∧
      ((¬ ∀ o ∈ objects, Sound o) →
        ∃ reason, read = .error ((FileError.notMappings reason).trouble path)) ∧
      ∀ (other : String) (others : List Members) (u : σ), Lists other others →
        List.Forall₂ Extends objects others → (host.read path u).1 = .ok other.toUTF8 →
        ∀ mappings, (readMappings host logger (some path) u).1 = .ok mappings ↔
          read = .ok mappings := by
  have iff : ∀ {text : String} {objects : List Members} {s : σ}, Lists text objects →
      (host.read path s).1 = .ok text.toUTF8 → ∀ mappings,
        (readMappings host logger (some path) s).1 = .ok mappings ↔
          List.Forall₂ Describes objects mappings := by
    intro text objects s listed found mappings
    rw [readMappings_of_read logger found, ← ofBytes_iff listed]
    cases ofBytes text.toUTF8 <;> simp [Except.mapError]
  intro read
  refine ⟨iff listed found, ?_, ?_, ?_⟩
  · rw [← exists_forall₂_describes]
    exact exists_congr (iff listed found)
  · intro unsound
    obtain ⟨reason, refused⟩ := ofBytes_refused listed unsound
    refine ⟨reason, (readMappings_of_read logger found).trans ?_⟩
    rw [refused]
    rfl
  · intro other others u listed' extended found' mappings
    rw [iff listed' found', iff listed found, forall₂_extends extended]

/-- A member of an unknown name, blanks and another spelling of the name change nothing. A column
that is given twice is refused, though both times it is the same. -/
theorem readMappings_objects_spelled :
    let logger : Logger := ⟨(Log.Filter.ofSound "debug").1, none, true⟩
    let read (text : String) :=
      (readMappings Disk.host logger (some "m.json") fun _ => some text.toUTF8).1
    read "[\x7b\"column\":\"a\"\x7d]" = .ok [⟨"a", "", ""⟩] ∧
      read "[ \x7b\"x\": null, \"col\\u0075mn\" : \"a\"\x7d ]" = .ok [⟨"a", "", ""⟩] ∧
      ∃ reason, read "[\x7b\"column\":\"a\",\"column\":\"a\"\x7d]" =
        .error ⟨"Invalid mappings file m.json", [reason]⟩ := by
  intro logger read
  have space : Blank [byte ' '] := by simp [Blank]; decide
  have key := stringText_quoted "column"
  have value := stringText_quoted "a"
  have self : ∀ c ∈ ['c', 'o', 'l', 'm', 'n'], Spelling (String.utf8EncodeChar c) c := by
    intro c mem
    simp only [List.mem_cons, List.not_mem_nil, or_false] at mem
    rcases mem with rfl | rfl | rfl | rfl | rfl <;> exact .self (by decide) (by decide) (by decide)
  have digits : Hex [byte '0', byte '0', byte '7', byte '5'] (((0 * 16 + 0) * 16 + 7) * 16 + 5) :=
    .digits rfl rfl rfl rfl
  have spelled : StringText (encode "\"col\\u0075mn\"".toList) "column" :=
    ⟨_, .cons (self 'c' (by decide)) (.cons (self 'o' (by decide)) (.cons (self 'l' (by decide))
      (.cons (.number digits) (.cons (self 'm' (by decide)) (.cons (self 'n' (by decide)) .nil))))),
      by decide⟩
  have plain : Lists "[\x7b\"column\":\"a\"\x7d]" [[("column", quoted "a")]] :=
    lists_singleton blank_nil blank_nil
      ⟨⟨_, .item (.first blank_nil) (.member key blank_nil blank_nil _) (.done blank_nil), rfl⟩,
        by simpa using value.valueForm⟩ (by decide)
  have other : Lists "[ \x7b\"x\": null, \"col\\u0075mn\" : \"a\"\x7d ]"
      [[("x", encode "null".toList), ("column", quoted "a")]] :=
    lists_singleton space space
      ⟨⟨_, .item (.first blank_nil) (.member (stringText_quoted "x") blank_nil space _)
        (.item (.comma blank_nil space) (.member spelled space space _) (.done blank_nil)), rfl⟩,
        by simpa using ⟨.scalar .null, value.valueForm⟩⟩ (by decide)
  have twice : Lists "[\x7b\"column\":\"a\",\"column\":\"a\"\x7d]"
      [[("column", quoted "a"), ("column", quoted "a")]] :=
    lists_singleton blank_nil blank_nil
      ⟨⟨_, .item (.first blank_nil) (.member key blank_nil blank_nil _)
        (.item (.comma blank_nil blank_nil) (.member key blank_nil blank_nil _) (.done blank_nil)),
        rfl⟩, by simpa using value.valueForm⟩ (by decide)
  have extended : Extends [("column", quoted "a")]
      [("x", encode "null".toList), ("column", quoted "a")] :=
    ⟨[("x", encode "null".toList)], .swap _ _ _, by simp [names]⟩
  have described : Describes [("column", quoted "a")] ⟨"a", "", ""⟩ :=
    ⟨⟨_, rfl, value⟩, .inr ⟨rfl, rfl⟩, .inr ⟨rfl, rfl⟩⟩
  have got : ∀ text : String, (Disk.host.read "m.json" fun _ => some text.toUTF8).1 =
      .ok text.toUTF8 := fun _ => rfl
  obtain ⟨iff, -, -, same⟩ := readMappings_objects plain (got _) logger
  obtain ⟨-, -, refused, -⟩ := readMappings_objects twice (got _) logger
  have read_plain := (iff [⟨"a", "", ""⟩]).mpr (.cons described .nil)
  refine ⟨read_plain, ?_, refused fun sound => ?_⟩
  · exact (same _ _ _ other (.cons extended .nil) (got _) _).mpr read_plain
  · exact absurd ((sound _ List.mem_cons_self).once "column" (by decide)) (by decide)

end Program

end ColumnMap
