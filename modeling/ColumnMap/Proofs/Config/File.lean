import ColumnMap.Config.Environment
import ColumnMap.Config.File
import ColumnMap.Proofs.Toml.Document

/-!
The text of a configuration is a document of two tables. It is read back as the same configuration,
but for the two switches that stand in no file, exactly if its texts and its numbers are readable as
they are written; otherwise the text is refused.
-/

namespace ColumnMap

theorem Rotation.ofText_text (r : Rotation) : Rotation.ofText r.text = r := by
  cases r <;> decide +kernel

namespace Config

open Toml (Document Line Datum Tree)

/-! ### The document of a configuration -/

def bodyLines (c : Config) : List Line :=
  [.comment " mapctl configuration",
    .comment "",
    .comment " Precedence: environment variables > this file > built-in defaults",
    .comment " Env: MAPCTL_BACKEND_URL, MAPCTL_TIMEOUT_SECS, MAPCTL_DATASOURCE_ID,",
    .comment "      MAPCTL_NO_TUI, MAPCTL_DEMO",
    .blank,
    .comment " Analytics backend base URL",
    .entry "backend_url" (.string c.backendUrl),
    .comment " Value lookup timeout in seconds (0 disables the timeout)",
    .entry "request_timeout_secs" (.number c.timeout.toNat)]

def dataSourceLines (d : DataSource) : List Line :=
  [.entry "id" (.number d.id.toNat),
    .entry "name" (.string d.name),
    .entry "columns" (.strings d.columns),
    .comment " Set to false if the backend cannot list distinct column values",
    .entry "supports_lookup" (.switch d.supportsLookup)]

def logLines (l : LogConfig) : List Line :=
  [.comment " trace, debug, info, warn, error (RUST_LOG overrides)",
    .entry "level" (.string l.level),
    .entry "file_enabled" (.switch l.fileEnabled),
    .entry "file_dir" (.string l.fileDirectory),
    .comment " hourly, daily, never",
    .entry "file_rotation" (.string l.fileRotation.text),
    .entry "file_prefix" (.string l.filePrefix)]

/-- The lines of a configuration, with its tables. An empty line comes before each header. -/
def document (c : Config) : Document where
  body := c.bodyLines ++ [.blank]
  tables := [("datasource", dataSourceLines c.dataSource ++ [.blank]), ("logging", logLines c.log)]

theorem toList_quote (s : String) : (Text.quote s).toList = (Datum.string s).chars :=
  Toml.toList_quote s

theorem toList_toString (n : UInt64) : (toString n).toList = (Datum.number n.toNat).chars := by
  show (toString n.toNat).toList = _
  rw [Nat.toString_eq_ofList_toDigits, String.toList_ofList, Datum.chars]

theorem toList_boolText (b : Bool) : (boolText b).toList = (Datum.switch b).chars := by
  cases b <;> rfl

theorem intercalate_quote (s : String) (l : List String) :
    (String.intercalate ", " ((s :: l).map Text.quote)).toList = Toml.listed s l := by
  induction l generalizing s with
  | nil => simp [Toml.listed, Toml.toList_quote]
  | cons t l ih =>
    have more := ih t
    rw [List.map_cons] at more
    rw [List.map_cons, List.map_cons, String.intercalate_cons_cons, String.toList_append,
      String.toList_append, more, Toml.toList_quote]
    simp [Toml.listed]

theorem toList_columns (l : List String) :
    "[".toList ++ (String.intercalate ", " (l.map Text.quote)).toList ++ "]".toList =
      (Datum.strings l).chars := by
  cases l with
  | nil => simp [Datum.chars]
  | cons s l =>
    rw [intercalate_quote]
    simp [Datum.chars]

theorem chars_entry (name : String) (x : Datum) :
    (Line.entry name x).chars = name.toList ++ ([' ', '=', ' '] ++ (x.chars ++ ['\n'])) := rfl

theorem toList_dataSourceText (d : DataSource) :
    (dataSourceText d).toList = '\n' :: Toml.tableChars ("datasource", dataSourceLines d) := by
  have header : "\n[datasource]\n".toList = '\n' :: '[' :: ("datasource".toList ++ [']', '\n']) := by
    simp
  have id : "id = ".toList = "id".toList ++ [' ', '=', ' '] := by simp
  have name : "name = ".toList = "name".toList ++ [' ', '=', ' '] := by simp
  have columns : "columns = [".toList = "columns".toList ++ ([' ', '=', ' '] ++ "[".toList) := by simp
  have comment : "# Set to false if the backend cannot list distinct column values\n".toList =
      (Line.comment " Set to false if the backend cannot list distinct column values").chars := by
    simp [Line.chars]
  have lookup : "supports_lookup = ".toList = "supports_lookup".toList ++ [' ', '=', ' '] := by simp
  have line : "\n".toList = ['\n'] := by simp
  have list : "]\n".toList = "]".toList ++ ['\n'] := by simp
  unfold dataSourceText
  simp only [String.toList_append]
  simp only [header, id, name, columns, comment, lookup, line, list, toList_quote, toList_toString,
    toList_boolText]
  simp only [Toml.tableChars, dataSourceLines, List.flatMap_cons, List.flatMap_nil, chars_entry,
    ← toList_columns]
  simp only [List.append_assoc, List.cons_append, List.nil_append, List.append_nil]

theorem toList_logText (l : LogConfig) :
    (logText l).toList = '\n' :: Toml.tableChars ("logging", logLines l) := by
  have header : "\n[logging]\n".toList = '\n' :: '[' :: ("logging".toList ++ [']', '\n']) := by simp
  have levels : "# trace, debug, info, warn, error (RUST_LOG overrides)\n".toList =
      (Line.comment " trace, debug, info, warn, error (RUST_LOG overrides)").chars := by
    simp [Line.chars]
  have level : "level = ".toList = "level".toList ++ [' ', '=', ' '] := by simp
  have enabled : "file_enabled = ".toList = "file_enabled".toList ++ [' ', '=', ' '] := by simp
  have directory : "file_dir = ".toList = "file_dir".toList ++ [' ', '=', ' '] := by simp
  have rotations : "# hourly, daily, never\n".toList =
      (Line.comment " hourly, daily, never").chars := by
    simp [Line.chars]
  have rotation : "file_rotation = ".toList = "file_rotation".toList ++ [' ', '=', ' '] := by simp
  have start : "file_prefix = ".toList = "file_prefix".toList ++ [' ', '=', ' '] := by simp
  have line : "\n".toList = ['\n'] := by simp
  unfold logText
  simp only [String.toList_append]
  simp only [header, levels, level, enabled, directory, rotations, rotation, start, line,
    toList_quote, toList_boolText]
  simp only [Toml.tableChars, logLines, List.flatMap_cons, List.flatMap_nil, chars_entry]
  simp only [List.append_assoc, List.cons_append, List.nil_append, List.append_nil]

/-- The text of a configuration is its document. -/
theorem toList_toText (c : Config) : c.toText.toList = c.document.chars := by
  have title : "# mapctl configuration\n".toList =
      (Line.comment " mapctl configuration").chars := by simp [Line.chars]
  have gap : "#\n".toList = (Line.comment "").chars := by simp [Line.chars]
  have order : "# Precedence: environment variables > this file > built-in defaults\n".toList =
      (Line.comment " Precedence: environment variables > this file > built-in defaults").chars := by
    simp [Line.chars]
  have env :
      "# Env: MAPCTL_BACKEND_URL, MAPCTL_TIMEOUT_SECS, MAPCTL_DATASOURCE_ID,\n".toList =
      (Line.comment " Env: MAPCTL_BACKEND_URL, MAPCTL_TIMEOUT_SECS, MAPCTL_DATASOURCE_ID,").chars := by
    simp [Line.chars]
  have switches : "#      MAPCTL_NO_TUI, MAPCTL_DEMO\n\n".toList =
      (Line.comment "      MAPCTL_NO_TUI, MAPCTL_DEMO").chars ++ Line.blank.chars := by
    simp [Line.chars]
  have base : "# Analytics backend base URL\n".toList =
      (Line.comment " Analytics backend base URL").chars := by simp [Line.chars]
  have url : "backend_url = ".toList = "backend_url".toList ++ [' ', '=', ' '] := by simp
  have limit : "# Value lookup timeout in seconds (0 disables the timeout)\n".toList =
      (Line.comment " Value lookup timeout in seconds (0 disables the timeout)").chars := by
    simp [Line.chars]
  have timeout : "request_timeout_secs = ".toList =
      "request_timeout_secs".toList ++ [' ', '=', ' '] := by simp
  have line : "\n".toList = ['\n'] := by simp
  unfold toText
  simp only [String.toList_append]
  simp only [title, gap, order, env, switches, base, url, limit, timeout, line, toList_quote,
    toList_toString, toList_dataSourceText, toList_logText]
  simp only [document, Document.chars, bodyLines, Toml.tableChars, List.flatMap_append,
    List.flatMap_cons, List.flatMap_nil, Line.chars]
  simp only [List.append_assoc, List.cons_append, List.nil_append, List.append_nil]

/-! ### The fields of the document -/

theorem entries_body (c : Config) : Line.entries c.document.body =
    [("backend_url", .string c.backendUrl), ("request_timeout_secs", .number c.timeout.toNat)] :=
  rfl

theorem entries_dataSource (d : DataSource) : Line.entries (dataSourceLines d ++ [.blank]) =
    [("id", .number d.id.toNat), ("name", .string d.name), ("columns", .strings d.columns),
      ("supports_lookup", .switch d.supportsLookup)] :=
  rfl

theorem entries_log (l : LogConfig) : Line.entries (logLines l) =
    [("level", .string l.level), ("file_enabled", .switch l.fileEnabled),
      ("file_dir", .string l.fileDirectory), ("file_rotation", .string l.fileRotation.text),
      ("file_prefix", .string l.filePrefix)] :=
  rfl

theorem isWellFormed_bodyLines (c : Config) : ∀ l ∈ c.bodyLines ++ [.blank], l.IsWellFormed := by
  simp only [bodyLines, List.cons_append, List.nil_append, List.forall_mem_cons, Line.IsWellFormed]
  exact ⟨by decide, by decide, by decide, by decide, by decide, trivial, by decide, by decide,
    by decide, by decide, trivial, nofun⟩

theorem isSection_dataSourceLines (d : DataSource) :
    Toml.IsSection (dataSourceLines d ++ [.blank]) where
  wellFormed := by
    simp only [dataSourceLines, List.cons_append, List.nil_append, List.forall_mem_cons,
      Line.IsWellFormed]
    exact ⟨by decide, by decide, by decide, by decide, by decide, trivial, nofun⟩
  nodup := by
    rw [entries_dataSource]
    simp

theorem isSection_logLines (l : LogConfig) : Toml.IsSection (logLines l) where
  wellFormed := by
    simp only [logLines, List.forall_mem_cons, Line.IsWellFormed]
    exact ⟨by decide, by decide, by decide, by decide, by decide, by decide, by decide, nofun⟩
  nodup := by
    rw [entries_log]
    simp

theorem isWellFormed_document (c : Config) : c.document.IsWellFormed where
  body := c.isWellFormed_bodyLines
  tables := by
    simp only [document, List.forall_mem_cons]
    have names : Toml.IsBare "datasource" ∧ Toml.IsBare "logging" := by decide
    exact ⟨⟨names.1, isSection_dataSourceLines c.dataSource⟩,
      ⟨names.2, isSection_logLines c.log⟩, nofun⟩
  nodup := by
    show ["backend_url", "request_timeout_secs", "datasource", "logging"].Nodup
    decide

/-! ### What can be read back -/

/-- The texts that a configuration gives. -/
def texts (c : Config) : List String :=
  c.backendUrl :: c.dataSource.name :: c.log.level :: c.log.fileDirectory :: c.log.filePrefix ::
    c.dataSource.columns

/-- Whether the texts and the numbers of a configuration are read as they are written. -/
def IsReadable (c : Config) : Prop :=
  (∀ s ∈ c.texts, Toml.Readable s) ∧ c.timeout.toNat < Nat.pow 2 63 ∧
    c.dataSource.id.toNat < Nat.pow 2 63

theorem readable_rotation (r : Rotation) : Toml.Readable r.text := by
  have visible : r.text.toList.all (fun c => ' ' ≤ c && c ≤ '~') = true := by
    cases r <;> decide
  intro c hc
  have inside := List.all_eq_true.mp visible c hc
  exact Toml.isReadable_of_visible (by simpa using inside)

theorem isReadable_document (c : Config) : c.document.IsReadable ↔ c.IsReadable := by
  have rotation := readable_rotation c.log.fileRotation
  have tables : c.document.tables = [("datasource", dataSourceLines c.dataSource ++ [.blank]),
      ("logging", logLines c.log)] := rfl
  constructor
  · rintro ⟨inBody, inTables⟩
    rw [entries_body] at inBody
    rw [tables] at inTables
    simp only [List.forall_mem_cons, entries_dataSource, entries_log, Datum.IsReadable]
      at inBody inTables
    obtain ⟨url, timeout, _⟩ := inBody
    obtain ⟨⟨id, name, columns, _⟩, ⟨level, _, directory, _, start, _⟩, _⟩ := inTables
    refine ⟨?_, timeout, id⟩
    simp only [texts, List.forall_mem_cons]
    exact ⟨url, name, level, directory, start, columns⟩
  · rintro ⟨all, timeout, id⟩
    simp only [texts, List.forall_mem_cons] at all
    obtain ⟨url, name, level, directory, start, columns⟩ := all
    constructor
    · rw [entries_body]
      simp only [List.forall_mem_cons, Datum.IsReadable]
      exact ⟨url, timeout, List.forall_mem_nil _⟩
    · rw [tables]
      simp only [List.forall_mem_cons, entries_dataSource, entries_log, Datum.IsReadable]
      exact ⟨⟨id, name, columns, trivial, List.forall_mem_nil _⟩,
        ⟨level, trivial, directory, rotation, start, List.forall_mem_nil _⟩,
        List.forall_mem_nil _⟩

/-! ### Reading the fields -/

theorem natural_number (n : UInt64) (span : Toml.Span) :
    natural (.scalar span (.integer n.toNat)) = .ok n := by
  simp [natural]

theorem mapM_string {l : List String} {items : List Tree} (h : List.Forall₂ Toml.IsString l items) :
    items.mapM string = .ok l := by
  induction h with
  | nil => rfl
  | cons first _ ih =>
    obtain ⟨span, rfl⟩ := first
    rw [List.mapM_cons, ih]
    rfl

theorem strings_holds {l : List String} {t : Tree} (h : (Datum.strings l).Holds t) :
    strings t = .ok l := by
  obtain ⟨span, items, rfl, areStrings⟩ := h
  exact mapM_string areStrings

/-- The fields of a table, where none is left out. -/
theorem fields_dataSource {d : DataSource} {source : Toml.Fields}
    (h : List.Forall₂ Toml.HoldsField (Line.entries (dataSourceLines d ++ [.blank])) source)
    (r : DataSource) : fields dataSourceKeys source r = .ok d := by
  rw [entries_dataSource] at h
  obtain ⟨_, _, rfl, ⟨idSpan, rfl⟩, h₂⟩ := Toml.holdsField_cons h
  obtain ⟨_, _, rfl, ⟨nameSpan, rfl⟩, h₃⟩ := Toml.holdsField_cons h₂
  obtain ⟨columns, _, rfl, given, h₄⟩ := Toml.holdsField_cons h₃
  obtain ⟨_, _, rfl, ⟨switchSpan, rfl⟩, h₅⟩ := Toml.holdsField_cons h₄
  obtain rfl := List.forall₂_nil_left_iff.mp h₅
  have list := strings_holds given
  simp [fields, dataSourceKeys, Key.of, Except.map, natural_number, list, string, bool]

theorem fields_log {l : LogConfig} {log : Toml.Fields}
    (h : List.Forall₂ Toml.HoldsField (Line.entries (logLines l)) log) (r : LogConfig) :
    fields logKeys log r = .ok l := by
  rw [entries_log] at h
  obtain ⟨_, _, rfl, ⟨levelSpan, rfl⟩, h₂⟩ := Toml.holdsField_cons h
  obtain ⟨_, _, rfl, ⟨switchSpan, rfl⟩, h₃⟩ := Toml.holdsField_cons h₂
  obtain ⟨_, _, rfl, ⟨directorySpan, rfl⟩, h₄⟩ := Toml.holdsField_cons h₃
  obtain ⟨_, _, rfl, ⟨rotationSpan, rfl⟩, h₅⟩ := Toml.holdsField_cons h₄
  obtain ⟨_, _, rfl, ⟨prefixSpan, rfl⟩, h₆⟩ := Toml.holdsField_cons h₅
  obtain rfl := List.forall₂_nil_left_iff.mp h₆
  simp [fields, logKeys, Key.of, Except.map, string, bool, Rotation.ofText_text]

/-! ### Writing and reading -/

theorem unmarked_document (c : Config) : c.document.chars.head? ≠ some '\ufeff' := by
  show some '#' ≠ some '\ufeff'
  decide

/-- A readable configuration is read back from its text, but for the two switches. -/
theorem ofText_toText {c : Config} (h : c.IsReadable) :
    ofText c.toText = .ok { c with enableTui := true, demoMode := false } := by
  obtain ⟨span, body, tables, parsed, inBody, inTables⟩ :=
    Document.parse_document (toList_toText c) c.unmarked_document c.isWellFormed_document
      (c.isReadable_document.mpr h)
  rw [entries_body] at inBody
  obtain ⟨_, _, rfl, ⟨urlSpan, rfl⟩, h₂⟩ := Toml.holdsField_cons inBody
  obtain ⟨_, _, rfl, ⟨timeoutSpan, rfl⟩, h₃⟩ := Toml.holdsField_cons h₂
  obtain rfl := List.forall₂_nil_left_iff.mp h₃
  obtain ⟨⟨_, _⟩, _, ⟨rfl, sourceSpan, source, rfl, inSource⟩, h₅, rfl⟩ :=
    List.forall₂_cons_left_iff.mp inTables
  obtain ⟨⟨_, _⟩, _, ⟨rfl, logSpan, log, rfl, inLog⟩, h₆, rfl⟩ := List.forall₂_cons_left_iff.mp h₅
  obtain rfl := List.forall₂_nil_left_iff.mp h₆
  rw [ofText, parsed]
  simp [record, fields, keys, Key.of, Except.map, string, natural_number, fields_dataSource inSource,
    fields_log inLog, Except.mapError]

theorem ofText_toText_error {c : Config} (h : ¬ c.IsReadable) :
    ∃ error, ofText c.toText = .error error := by
  obtain ⟨fault, refused⟩ := Document.parse_document_error (toList_toText c) c.unmarked_document
    c.isWellFormed_document (mt c.isReadable_document.mp h)
  rw [ofText, refused]
  exact ⟨_, rfl⟩

/-- The text of a configuration is read back as the same configuration if no variable is set, exactly
if all of its texts and numbers are readable. Otherwise the text is no document at all. -/
theorem ofText_toText_iff (c : Config) :
    ((∃ read, (ofText c.toText).map (Environment.override {}) = .ok read ∧
      read.backendUrl = c.backendUrl ∧ read.timeout = c.timeout ∧
      read.dataSource = c.dataSource ∧ read.log = c.log) ↔ c.IsReadable) ∧
    (¬ c.IsReadable → ∃ error, ofText c.toText = .error error) := by
  refine ⟨⟨?_, ?_⟩, ofText_toText_error⟩
  · rintro ⟨read, eq, _⟩
    by_contra unreadable
    obtain ⟨error, refused⟩ := ofText_toText_error unreadable
    rw [refused] at eq
    cases eq
  · intro readable
    rw [ofText_toText readable]
    exact ⟨_, rfl, rfl, rfl, rfl, rfl⟩

/-- A name with a combining accent, and a limit of time that takes all 64 bits. -/
theorem not_ofText_toText :
    let accented : Config :=
      { dataSource := { id := 42, name := "Cafe\u0301 sales", columns := ["country"] } }
    let patient : Config := { timeout := 9223372036854775808 }
    ∀ c ∈ [accented, patient], ∃ error, (ofText c.toText).map (Environment.override {}) = .error error := by
  intro accented patient
  have refused : ∀ c : Config, ¬ c.IsReadable →
      ∃ error, (ofText c.toText).map (Environment.override {}) = .error error := by
    intro c unreadable
    obtain ⟨error, refused⟩ := ofText_toText_error unreadable
    rw [refused]
    exact ⟨error, rfl⟩
  have accent : ¬ accented.IsReadable := by
    rintro ⟨readable, _⟩
    have name := readable "Cafe\u0301 sales" (by simp [texts, accented])
    have byNumber : Text.Quoted.encodeChar '\u0301' = Text.Quoted.byNumber '\u0301' := by
      decide +kernel
    exact (name '\u0301' (by decide)).2 byNumber
  have limit : ¬ patient.IsReadable := by
    rintro ⟨_, timeout, _⟩
    exact absurd timeout (by decide)
  simp only [List.forall_mem_cons]
  exact ⟨refused accented accent, refused patient limit, nofun⟩

end Config

end ColumnMap
