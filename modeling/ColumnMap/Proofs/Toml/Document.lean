import ColumnMap.Proofs.Toml.Value

/-!
Documents of two levels: lines with a key and a value, and tables of such lines under headers, with
comments and empty lines between them. Such a document is read if all of its values are readable,
and the fields of its tables then hold these values in their order. Otherwise it is refused.
-/

namespace ColumnMap.Toml

/-! ### Lines -/

inductive Line where
  | blank
  /-- The text does not include the sign in front of it. -/
  | comment (text : String)
  | entry (name : String) (x : Datum)

/-- Names that need no quotes. -/
def IsBare (name : String) : Prop :=
  name.toList ≠ [] ∧ name.toList.all isBareKeyChar = true

instance : DecidablePred IsBare := fun name =>
  inferInstanceAs (Decidable (name.toList ≠ [] ∧ name.toList.all isBareKeyChar = true))

namespace Line

def chars : Line → Input
  | blank => ['\n']
  | comment text => '#' :: (text.toList ++ ['\n'])
  | entry name x => name.toList ++ ' ' :: '=' :: ' ' :: (x.chars ++ ['\n'])

def IsWellFormed : Line → Prop
  | blank => True
  | comment text => text.toList.all isCommentChar = true
  | entry name _ => IsBare name

/-- The keys and values that lines give. -/
def entries (ls : List Line) : List (String × Datum) :=
  ls.filterMap fun
    | entry name x => some (name, x)
    | _ => none

end Line

/-! ### Keys -/

/-- A bare name begins with none of the signs that begin other things. -/
theorem IsBare.eq_cons {name : String} (h : IsBare name) :
    ∃ c r, name.toList = c :: r ∧ isBareKeyChar c = true := by
  cases chars : name.toList with
  | nil => exact absurd chars h.1
  | cons c r =>
    have all := List.all_eq_true.mp h.2
    exact ⟨c, r, rfl, all c (chars ▸ List.mem_cons_self)⟩

theorem simpleKey_bare {name : String} (h : IsBare name) {c : Char} (ends : isBareKeyChar c = false)
    (rest : Input) : simpleKey (name.toList ++ c :: rest) = .ok (name, c :: rest) := by
  obtain ⟨d, r, chars, bare⟩ := h.eq_cons
  have taken : (name.toList ++ c :: rest).takeWhile isBareKeyChar = name.toList := by
    rw [List.takeWhile_append_of_pos (List.all_eq_true.mp h.2),
      List.takeWhile_cons_of_neg (by simp [ends]), List.append_nil]
  have left : (name.toList ++ c :: rest).dropWhile isBareKeyChar = c :: rest := by
    rw [List.dropWhile_append_of_pos (List.all_eq_true.mp h.2),
      List.dropWhile_cons_of_neg (by simp [ends])]
  unfold simpleKey
  split
  case h_1 r' quote =>
    rw [chars, List.cons_append] at quote
    rw [(List.cons.inj quote).1] at bare
    exact absurd bare (by decide)
  case h_2 r' quote =>
    rw [chars, List.cons_append] at quote
    rw [(List.cons.inj quote).1] at bare
    exact absurd bare (by decide)
  case h_3 =>
    simp only [taken, left]
    simp [h.1]

theorem skipBlanks_cons {c : Char} (h : isBlank c = false) (s : Input) :
    skipBlanks (c :: s) = c :: s := by
  rw [skipBlanks, List.dropWhile_cons_of_neg (by simp [h])]

theorem isBlank_of_isBareKeyChar {c : Char} (h : isBareKeyChar c = true) : isBlank c = false := by
  rw [← Bool.not_eq_true]
  intro blank
  simp only [isBlank, Bool.or_eq_true, decide_eq_true_eq] at blank
  rcases blank with rfl | rfl <;> exact absurd h (by decide)

theorem key_bare {name : String} (h : IsBare name) {c d : Char} (ends : isBareKeyChar c = false)
    {rest t : Input} (next : skipBlanks (c :: rest) = d :: t) (noDot : d ≠ '.') :
    key (name.toList ++ c :: rest) = .ok ([name], d :: t) := by
  have solid : skipBlanks (name.toList ++ c :: rest) = name.toList ++ c :: rest := by
    obtain ⟨e, r, chars, bare⟩ := h.eq_cons
    rw [chars, List.cons_append, skipBlanks_cons (isBlank_of_isBareKeyChar bare)]
  rw [key, keyParts, solid, simpleKey_bare h ends]
  simp [next, noDot, nestingLimit]

/-! ### Reading one line -/

theorem Datum.chars_eq_cons (x : Datum) : ∃ c r, x.chars = c :: r ∧ isBlank c = false := by
  match x with
  | .string s => exact ⟨_, _, rfl, by decide⟩
  | .strings [] => exact ⟨_, _, rfl, by decide⟩
  | .strings (s :: l) => exact ⟨_, _, rfl, by decide⟩
  | .switch true => exact ⟨_, _, rfl, by decide⟩
  | .switch false => exact ⟨_, _, rfl, by decide⟩
  | .number n =>
    obtain ⟨c, ds, digits, digit⟩ := toDigits_eq_cons n
    refine ⟨c, ds, digits, ?_⟩
    rw [← Bool.not_eq_true]
    intro blank
    simp only [isBlank, Bool.or_eq_true, decide_eq_true_eq] at blank
    rcases blank with rfl | rfl <;> exact absurd digit (by decide)

theorem pair_entry (item : Input → Scan Tree) {name : String} (h : IsBare name) (x : Datum)
    (rest : Input) :
    pair item (name.toList ++ ' ' :: '=' :: ' ' :: (x.chars ++ rest)) =
      (item (x.chars ++ rest)).map fun (v, t) => (([name], v), t) := by
  obtain ⟨c, r, text, solid⟩ := x.chars_eq_cons
  have value : skipBlanks (' ' :: (x.chars ++ rest)) = x.chars ++ rest := by
    rw [text, List.cons_append]
    exact skipBlanks_cons solid _
  rw [pair, key_bare h (by decide) rfl (by decide)]
  simp only [value]
  cases item (x.chars ++ rest) <;> rfl

theorem add_fresh {d : Draft} {name : String} (fresh : name ∉ d.fields.map Prod.fst) (v : Tree) :
    d.add [name] v = .ok { d with fields := d.fields ++ [(name, v)] } := by
  have none : Fields.has d.fields name = false := by
    rw [← Bool.not_eq_true]
    intro known
    simp only [Fields.has, List.any_eq_true, beq_iff_eq] at known
    obtain ⟨f, member, same⟩ := known
    exact fresh (List.mem_map.mpr ⟨f, member, same⟩)
  simp [Draft.add, insert, descend, none, Except.map]

theorem lines_blank (fuel : Nat) (d : Draft) (rest : Input) :
    lines (fuel + 1) d ('\n' :: rest) = lines fuel d rest := rfl

theorem lines_comment (fuel : Nat) (d : Draft) {text : String}
    (h : (Line.comment text).IsWellFormed) (rest : Input) :
    lines (fuel + 1) d ((Line.comment text).chars ++ rest) = lines fuel d rest := by
  have chars : (Line.comment text).chars ++ rest = '#' :: (text.toList ++ '\n' :: rest) := by
    simp [Line.chars]
  have skipped : (text.toList ++ '\n' :: rest).dropWhile isCommentChar = '\n' :: rest := by
    rw [List.dropWhile_append_of_pos (List.all_eq_true.mp h)]
    rfl
  have solid := skipBlanks_cons (by decide : isBlank '#' = false) (text.toList ++ '\n' :: rest)
  have ended : endLine ('#' :: (text.toList ++ '\n' :: rest)) = .ok ((), rest) := by
    rw [endLine, solid]
    simp [skipComment, skipped, newline?]
  rw [chars, lines, solid]
  simp [ended]

/-- What is no header, comment or empty line is a key with its value. -/
theorem lines_assignment (fuel : Nat) (d : Draft) {name : String} (h : IsBare name) (s : Input) :
    lines (fuel + 1) d (name.toList ++ s) =
      match assignment (name.toList ++ s) d with
      | .error e => .error e
      | .ok (d, t) => lines fuel d t := by
  obtain ⟨c, r, chars, bare⟩ := h.eq_cons
  have other : c ≠ '[' ∧ c ≠ '#' ∧ c ≠ '\n' ∧ c ≠ '\r' := by
    refine ⟨?_, ?_, ?_, ?_⟩ <;> (rintro rfl; exact absurd bare (by decide))
  have solid : skipBlanks (c :: (r ++ s)) = c :: (r ++ s) :=
    skipBlanks_cons (isBlank_of_isBareKeyChar bare) _
  rw [chars, List.cons_append, lines, solid]
  simp only [other, if_false, decide_false, Bool.or_self]
  cases assignment (c :: (r ++ s)) d <;> rfl

section

variable (fuel : Nat) {d : Draft} {name : String} (h : IsBare name) {x : Datum} (rest : Input)

include h

theorem lines_entry (fresh : name ∉ d.fields.map Prod.fst) (readable : x.IsReadable) :
    ∃ t, x.Holds t ∧
      lines (fuel + 1) d ((Line.entry name x).chars ++ rest) =
        lines fuel { d with fields := d.fields ++ [(name, t)] } rest := by
  obtain ⟨t, taken, holds⟩ :
      ∃ t, value (nestingLimit - 1) (x.chars ++ '\n' :: rest) = .ok (t, '\n' :: rest) ∧ x.Holds t :=
    Datum.value_chars 78 readable rest
  have text : (Line.entry name x).chars ++ rest =
      name.toList ++ ' ' :: '=' :: ' ' :: (x.chars ++ '\n' :: rest) := by simp [Line.chars]
  have given := pair_entry (value (nestingLimit - 1)) h x ('\n' :: rest)
  rw [taken] at given
  have ended : endLine ('\n' :: rest) = .ok ((), rest) := rfl
  refine ⟨t, holds, ?_⟩
  rw [text, lines_assignment fuel d h, assignment, given]
  simp [Except.map, ended, add_fresh fresh, orRefuse, Except.mapError]

theorem lines_entry_error (d : Draft) (unreadable : ¬ x.IsReadable) :
    ∃ fault, lines (fuel + 1) d ((Line.entry name x).chars ++ rest) = .error fault := by
  obtain ⟨fault, refused⟩ :
      ∃ fault, value (nestingLimit - 1) (x.chars ++ '\n' :: rest) = .error fault :=
    Datum.value_chars_error 78 unreadable rest
  have text : (Line.entry name x).chars ++ rest =
      name.toList ++ ' ' :: '=' :: ' ' :: (x.chars ++ '\n' :: rest) := by simp [Line.chars]
  have given := pair_entry (value (nestingLimit - 1)) h x ('\n' :: rest)
  rw [refused] at given
  refine ⟨fault, ?_⟩
  rw [text, lines_assignment fuel d h, assignment, given]
  rfl

end

/-! ### The lines of a table -/

/-- A field that holds a value under its name. -/
def HoldsField (e : String × Datum) (f : String × Tree) : Prop := f.1 = e.1 ∧ e.2.Holds f.2

/-- Lines that give each key once. -/
structure IsSection (ls : List Line) : Prop where
  wellFormed : ∀ l ∈ ls, l.IsWellFormed
  nodup : ((Line.entries ls).map Prod.fst).Nodup

theorem names_eq {es : List (String × Datum)} {fields : Fields}
    (h : List.Forall₂ HoldsField es fields) : fields.map Prod.fst = es.map Prod.fst := by
  induction h with
  | nil => rfl
  | cons first _ ih => rw [List.map_cons, List.map_cons, ih, first.1]

theorem holdsField_cons {name : String} {x : Datum} {es : List (String × Datum)} {fields : Fields}
    (h : List.Forall₂ HoldsField ((name, x) :: es) fields) :
    ∃ t more, fields = (name, t) :: more ∧ x.Holds t ∧ List.Forall₂ HoldsField es more := by
  obtain ⟨⟨own, t⟩, more, ⟨same, holds⟩, others, rfl⟩ := List.forall₂_cons_left_iff.mp h
  exact ⟨t, more, by rw [show own = name from same], holds, others⟩

/-- Among names that differ the first of the later ones is new. -/
theorem fresh_of_nodup {known others : List String} {name : String}
    (h : (known ++ name :: others).Nodup) : name ∉ known :=
  fun old => (List.nodup_append.mp h).2.2 name old name List.mem_cons_self rfl

/-- Readable values are added to the table that is being read. -/
theorem lines_section (ls : List Line) (wellFormed : ∀ l ∈ ls, l.IsWellFormed)
    (readable : ∀ e ∈ Line.entries ls, e.2.IsReadable) {d : Draft}
    (fresh : (d.fields.map Prod.fst ++ (Line.entries ls).map Prod.fst).Nodup) (fuel : Nat)
    (rest : Input) :
    ∃ fields, List.Forall₂ HoldsField (Line.entries ls) fields ∧
      lines (fuel + ls.length) d (ls.flatMap Line.chars ++ rest) =
        lines fuel { d with fields := d.fields ++ fields } rest := by
  induction ls generalizing d with
  | nil => exact ⟨[], .nil, by simp⟩
  | cons l ls ih =>
    have more : ∀ m ∈ ls, m.IsWellFormed := fun m hm => wellFormed m (List.mem_cons_of_mem l hm)
    have own := wellFormed l List.mem_cons_self
    rw [List.length_cons, ← Nat.add_assoc, List.flatMap_cons, List.append_assoc]
    match l with
    | .blank =>
      obtain ⟨fields, holds, eq⟩ := ih more readable fresh
      exact ⟨fields, holds, (lines_blank _ d _).trans eq⟩
    | .comment text =>
      obtain ⟨fields, holds, eq⟩ := ih more readable fresh
      exact ⟨fields, holds, (lines_comment _ d own _).trans eq⟩
    | .entry name x =>
      have entries : Line.entries (.entry name x :: ls) = (name, x) :: Line.entries ls := rfl
      rw [entries, List.forall_mem_cons] at readable
      rw [entries, List.map_cons] at fresh
      obtain ⟨t, holds, step⟩ := lines_entry (fuel + ls.length) own (ls.flatMap Line.chars ++ rest)
        (fresh_of_nodup fresh) readable.1
      have fresh' : ((d.fields ++ [(name, t)]).map Prod.fst ++
          (Line.entries ls).map Prod.fst).Nodup := by
        simpa using fresh
      obtain ⟨fields, allHold, eq⟩ :=
        ih more readable.2 (d := { d with fields := d.fields ++ [(name, t)] }) fresh'
      refine ⟨(name, t) :: fields, .cons ⟨rfl, holds⟩ allHold, ?_⟩
      rw [step, eq]
      simp

theorem lines_section_error (ls : List Line) (wellFormed : ∀ l ∈ ls, l.IsWellFormed)
    (unreadable : ¬ ∀ e ∈ Line.entries ls, e.2.IsReadable) {d : Draft}
    (fresh : (d.fields.map Prod.fst ++ (Line.entries ls).map Prod.fst).Nodup) (fuel : Nat)
    (rest : Input) :
    ∃ fault, lines (fuel + ls.length) d (ls.flatMap Line.chars ++ rest) = .error fault := by
  induction ls generalizing d with
  | nil => simp [Line.entries] at unreadable
  | cons l ls ih =>
    have more : ∀ m ∈ ls, m.IsWellFormed := fun m hm => wellFormed m (List.mem_cons_of_mem l hm)
    have own := wellFormed l List.mem_cons_self
    rw [List.length_cons, ← Nat.add_assoc, List.flatMap_cons, List.append_assoc]
    match l with
    | .blank => exact ih more unreadable fresh
    | .comment text =>
      obtain ⟨fault, refused⟩ := ih more unreadable fresh
      exact ⟨fault, (lines_comment _ d own _).trans refused⟩
    | .entry name x =>
      have entries : Line.entries (.entry name x :: ls) = (name, x) :: Line.entries ls := rfl
      rw [entries] at unreadable
      rw [entries, List.map_cons] at fresh
      by_cases first : x.IsReadable
      · obtain ⟨t, _, step⟩ := lines_entry (fuel + ls.length) own (ls.flatMap Line.chars ++ rest)
          (fresh_of_nodup fresh) first
        have fresh' : ((d.fields ++ [(name, t)]).map Prod.fst ++
            (Line.entries ls).map Prod.fst).Nodup := by
          simpa using fresh
        have others : ¬ ∀ e ∈ Line.entries ls, e.2.IsReadable := fun all =>
          unreadable (List.forall_mem_cons.mpr ⟨first, all⟩)
        rw [step]
        exact ih more others fresh'
      · exact lines_entry_error _ own _ d first

/-! ### Headers -/

theorem lookup_fresh {fields : Fields} {name : String} (fresh : name ∉ fields.map Prod.fst) :
    fields.lookup name = none := by
  rw [List.lookup_eq_none_iff]
  intro f member
  rw [bne_iff_ne]
  rintro rfl
  exact fresh (List.mem_map_of_mem member)

theorem startTable_fresh {d : Draft} {root : Fields} (finished : d.finish = .ok root)
    {name : String} (fresh : name ∉ root.map Prod.fst) (span : Span) :
    d.startTable [name] span = .ok { root, path := [name], span } := by
  simp [Draft.startTable, finished, descend, lookup_fresh fresh, Except.map]

theorem finish_table (root : Fields) (name : String) (span : Span) (fields : Fields) :
    ({ root, path := [name], span, fields } : Draft).finish =
      .ok (root ++ [(name, .table span .headed fields)]) := rfl

/-- The header of a new table. -/
theorem lines_header (fuel : Nat) {d : Draft} {root : Fields} (finished : d.finish = .ok root)
    {name : String} (h : IsBare name) (fresh : name ∉ root.map Prod.fst) (rest : Input) :
    ∃ span, lines (fuel + 1) d ('[' :: (name.toList ++ ']' :: '\n' :: rest)) =
      lines fuel { root, path := [name], span } rest := by
  have named : key (name.toList ++ ']' :: '\n' :: rest) = .ok ([name], ']' :: '\n' :: rest) :=
    key_bare h (by decide) rfl (by decide)
  have single : ¬ ('[' :: (name.toList ++ ']' :: '\n' :: rest)).take 2 = ['[', '['] := by
    obtain ⟨c, r, chars, bare⟩ := h.eq_cons
    rw [chars]
    rintro eq
    have : c = '[' := by simpa using eq
    rw [this] at bare
    exact absurd bare (by decide)
  have ended : endLine ('\n' :: rest) = .ok ((), rest) := rfl
  have solid := skipBlanks_cons (by decide : isBlank '[' = false)
    (name.toList ++ ']' :: '\n' :: rest)
  refine ⟨⟨('[' :: (name.toList ++ ']' :: '\n' :: rest)).length, ('\n' :: rest).length⟩, ?_⟩
  rw [lines, solid]
  simp only [header, single, if_false, List.drop_one, List.tail_cons, named, if_true]
  simp [ended, startTable_fresh finished fresh, orRefuse, Except.mapError]

/-! ### Whole documents -/

/-- Lines, and tables with the lines below their headers. -/
structure Document where
  body : List Line
  tables : List (String × List Line)

/-- A header and the lines below it. -/
def tableChars (t : String × List Line) : Input :=
  '[' :: (t.1.toList ++ ']' :: '\n' :: t.2.flatMap Line.chars)

/-- A field that is a table with the values of its lines. -/
def HoldsTable (t : String × List Line) (f : String × Tree) : Prop :=
  f.1 = t.1 ∧ ∃ span fields, f.2 = .table span .headed fields ∧
    List.Forall₂ HoldsField (Line.entries t.2) fields

/-- The number of lines of tables. -/
def lineCount (tables : List (String × List Line)) : Nat :=
  (tables.flatMap Prod.snd).length + tables.length

theorem lineCount_cons (t : String × List Line) (tables : List (String × List Line)) :
    lineCount (t :: tables) = lineCount tables + t.2.length + 1 := by
  simp only [lineCount, List.flatMap_cons, List.length_append, List.length_cons]
  omega

structure IsTable (t : String × List Line) : Prop where
  bare : IsBare t.1
  section_ : IsSection t.2

/-- The header of the first table is read, and the lines below it are next. -/
theorem lines_table (fuel : Nat) {d : Draft} {root : Fields} (finished : d.finish = .ok root)
    {t : String × List Line} {tables : List (String × List Line)} (h : IsTable t)
    (fresh : (root.map Prod.fst ++ (t :: tables).map Prod.fst).Nodup) :
    ∃ span, lines (fuel + lineCount (t :: tables)) d ((t :: tables).flatMap tableChars) =
      lines (fuel + lineCount tables + t.2.length) { root, path := [t.1], span }
        (t.2.flatMap Line.chars ++ tables.flatMap tableChars) := by
  obtain ⟨span, step⟩ := lines_header (fuel + lineCount tables + t.2.length) finished h.bare
    (fresh_of_nodup fresh) (t.2.flatMap Line.chars ++ tables.flatMap tableChars)
  have count : fuel + lineCount (t :: tables) = fuel + lineCount tables + t.2.length + 1 := by
    rw [lineCount_cons]
    omega
  have text : (t :: tables).flatMap tableChars =
      '[' :: (t.1.toList ++ ']' :: '\n' ::
        (t.2.flatMap Line.chars ++ tables.flatMap tableChars)) := by
    simp [tableChars]
  exact ⟨span, by rw [count, text, step]⟩

theorem lines_tables (tables : List (String × List Line)) (wellFormed : ∀ t ∈ tables, IsTable t)
    (readable : ∀ t ∈ tables, ∀ e ∈ Line.entries t.2, e.2.IsReadable) {d : Draft} {root : Fields}
    (finished : d.finish = .ok root) (fresh : (root.map Prod.fst ++ tables.map Prod.fst).Nodup)
    (fuel : Nat) :
    ∃ d' fields, List.Forall₂ HoldsTable tables fields ∧ d'.finish = .ok (root ++ fields) ∧
      lines (fuel + lineCount tables) d (tables.flatMap tableChars) = lines fuel d' [] := by
  induction tables generalizing d root with
  | nil => exact ⟨d, [], .nil, by simpa using finished, rfl⟩
  | cons t tables ih =>
    obtain ⟨name, ls⟩ := t
    have own := wellFormed (name, ls) List.mem_cons_self
    rw [List.forall_mem_cons] at readable
    obtain ⟨span, step⟩ := lines_table fuel finished own fresh
    obtain ⟨fields, holds, inside⟩ := lines_section ls own.section_.wellFormed readable.1
      (d := { root, path := [name], span }) (by simpa using own.section_.nodup)
      (fuel + lineCount tables) (tables.flatMap tableChars)
    have fresh' : ((root ++ [(name, Tree.table span .headed fields)]).map Prod.fst ++
        tables.map Prod.fst).Nodup := by
      simpa using fresh
    obtain ⟨d', others, allHold, ended, eq⟩ :=
      ih (fun t ht => wellFormed t (List.mem_cons_of_mem _ ht)) readable.2
        (finish_table root name span fields) fresh'
    refine ⟨d', (name, .table span .headed fields) :: others,
      .cons ⟨rfl, span, fields, rfl, holds⟩ allHold, by simpa using ended, ?_⟩
    rw [step, inside]
    simpa using eq

theorem lines_tables_error (tables : List (String × List Line))
    (wellFormed : ∀ t ∈ tables, IsTable t)
    (unreadable : ¬ ∀ t ∈ tables, ∀ e ∈ Line.entries t.2, e.2.IsReadable) {d : Draft}
    {root : Fields} (finished : d.finish = .ok root) (fresh : (root.map Prod.fst ++ tables.map Prod.fst).Nodup)
    (fuel : Nat) :
    ∃ fault, lines (fuel + lineCount tables) d (tables.flatMap tableChars) = .error fault := by
  induction tables generalizing d root with
  | nil => simp at unreadable
  | cons t tables ih =>
    obtain ⟨name, ls⟩ := t
    have own := wellFormed (name, ls) List.mem_cons_self
    obtain ⟨span, step⟩ := lines_table fuel finished own fresh
    have fresh' : (([] : Fields).map Prod.fst ++ (Line.entries ls).map Prod.fst).Nodup := by
      simpa using own.section_.nodup
    rw [step]
    by_cases first : ∀ e ∈ Line.entries ls, e.2.IsReadable
    · obtain ⟨fields, holds, inside⟩ := lines_section ls own.section_.wellFormed first
        (d := { root, path := [name], span }) fresh' (fuel + lineCount tables)
        (tables.flatMap tableChars)
      have others : ¬ ∀ t ∈ tables, ∀ e ∈ Line.entries t.2, e.2.IsReadable := fun all =>
        unreadable (List.forall_mem_cons.mpr ⟨first, all⟩)
      rw [inside]
      exact ih (fun t ht => wellFormed t (List.mem_cons_of_mem _ ht)) others
        (finish_table root name span fields) (by simpa using fresh)
    · exact lines_section_error ls own.section_.wellFormed first
        (d := { root, path := [name], span }) fresh' _ _

namespace Document

def chars (doc : Document) : Input := doc.body.flatMap Line.chars ++ doc.tables.flatMap tableChars

/-- Every key and every table has a name of its own. -/
structure IsWellFormed (doc : Document) : Prop where
  body : ∀ l ∈ doc.body, l.IsWellFormed
  tables : ∀ t ∈ doc.tables, IsTable t
  nodup : ((Line.entries doc.body).map Prod.fst ++ doc.tables.map Prod.fst).Nodup

structure IsReadable (doc : Document) : Prop where
  body : ∀ e ∈ Line.entries doc.body, e.2.IsReadable
  tables : ∀ t ∈ doc.tables, ∀ e ∈ Line.entries t.2, e.2.IsReadable

theorem length_le_chars (ls : List Line) : ls.length ≤ (ls.flatMap Line.chars).length := by
  induction ls with
  | nil => simp
  | cons l ls ih =>
    have one : 1 ≤ l.chars.length := by
      cases l <;> simp [Line.chars]
      omega
    rw [List.length_cons, List.flatMap_cons, List.length_append]
    omega

theorem lineCount_le_chars (tables : List (String × List Line)) :
    lineCount tables ≤ (tables.flatMap tableChars).length := by
  induction tables with
  | nil => simp [lineCount]
  | cons t tables ih =>
    have inside := length_le_chars t.2
    rw [lineCount_cons]
    simp only [List.flatMap_cons, List.length_append, tableChars, List.length_cons]
    omega

theorem lines_nil (fuel : Nat) (d : Draft) : lines fuel d [] = .ok d := by
  cases fuel <;> rfl

/-- There are no more lines than characters. -/
theorem exists_fuel (doc : Document) :
    ∃ fuel, doc.chars.length + 1 = fuel + lineCount doc.tables + doc.body.length := by
  have bodyLines := length_le_chars doc.body
  have tableLines := lineCount_le_chars doc.tables
  refine ⟨doc.chars.length + 1 - lineCount doc.tables - doc.body.length, ?_⟩
  rw [chars, List.length_append]
  omega

section

variable {doc : Document} {text : String} (written : text.toList = doc.chars)
  (unmarked : doc.chars.head? ≠ some '\ufeff')

include written unmarked

theorem withoutMark_chars : withoutMark text.toList = doc.chars := by
  rw [written]
  cases first : doc.chars with
  | nil => rfl
  | cons c r =>
    rw [first] at unmarked
    rw [withoutMark]
    intro r' eq
    rw [(List.cons.inj eq).1] at unmarked
    exact unmarked rfl

variable (h : doc.IsWellFormed)

include h

/-- A readable document is read as its values. -/
theorem parse_document (readable : doc.IsReadable) :
    ∃ span body tables, parse text = .ok (.table span .headed (body ++ tables)) ∧
      List.Forall₂ HoldsField (Line.entries doc.body) body ∧
      List.Forall₂ HoldsTable doc.tables tables := by
  obtain ⟨fuel, enough⟩ := exists_fuel doc
  obtain ⟨body, holds, inBody⟩ := lines_section doc.body h.body readable.body (d := {})
    (by simpa using (List.nodup_append.mp h.nodup).1) (fuel + lineCount doc.tables)
    (doc.tables.flatMap tableChars)
  have finished : ({ fields := body } : Draft).finish = .ok body := rfl
  obtain ⟨d, tables, allHold, ended, inTables⟩ := lines_tables doc.tables h.tables readable.tables
    finished (by rw [names_eq holds]; exact h.nodup) fuel
  have all : lines (doc.chars.length + 1) {} doc.chars = .ok d := by
    rw [enough, chars, inBody, List.nil_append, inTables, lines_nil]
  refine ⟨⟨doc.chars.length, 0⟩, body, tables, ?_, holds, allHold⟩
  simp only [parse, withoutMark_chars written unmarked, all, ended]
  rfl

/-- Any other document is refused. -/
theorem parse_document_error (unreadable : ¬ doc.IsReadable) :
    ∃ fault, parse text = .error fault := by
  obtain ⟨fuel, enough⟩ := exists_fuel doc
  have fresh : (({} : Draft).fields.map Prod.fst ++ (Line.entries doc.body).map Prod.fst).Nodup := by
    simpa using (List.nodup_append.mp h.nodup).1
  obtain ⟨fault, refused⟩ : ∃ fault, lines (doc.chars.length + 1) {} doc.chars = .error fault := by
    rw [enough, chars]
    by_cases first : ∀ e ∈ Line.entries doc.body, e.2.IsReadable
    · obtain ⟨body, holds, inBody⟩ := lines_section doc.body h.body first fresh
        (fuel + lineCount doc.tables) (doc.tables.flatMap tableChars)
      have finished : ({ fields := body } : Draft).finish = .ok body := rfl
      rw [inBody]
      exact lines_tables_error doc.tables h.tables (fun tables => unreadable ⟨first, tables⟩)
        finished (by rw [names_eq holds]; exact h.nodup) fuel
    · exact lines_section_error doc.body h.body first fresh (fuel + lineCount doc.tables)
        (doc.tables.flatMap tableChars)
  refine ⟨fault, ?_⟩
  simp only [parse, withoutMark_chars written unmarked, refused]

end

end Document

end ColumnMap.Toml
