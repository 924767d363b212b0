import Mathlib.Data.List.Nodup
import Mathlib.Data.List.Perm.Basic
import ColumnMap.Proofs.CommandLine.Spelling

/-!
Command lines that start the editor. Main statement: without a command they are understood exactly
if they are after the word `run`, and as the same options; these are the command lines that spell
each of their options once.
-/

namespace ColumnMap.CommandLine

variable {s t u : State} {options : List (Opt × String)} {o : Opt} {value : String}

/-! ### Options taken one after the other -/

/-- An option of `run` with a value that it may have. -/
def Fits (p : Opt × String) : Prop :=
  p.1 ∈ runOptions ∧ (p.1.takesValue = true → p.2 ≠ "") ∧ (p.1.role = .switch → p.2 = "")

theorem Spelled.fits {words : List String} (h : Spelled options words) : ∀ p ∈ options, Fits p := by
  induction h with
  | nil | dashes => exact nofun
  | cons known here more ih =>
    refine List.forall_mem_cons.mpr ⟨⟨known, ?_⟩, ih⟩
    cases here with
    | switch role => exact ⟨fun valued => absurd role (Opt.ne_switch valued), fun _ => rfl⟩
    | apart valued _ filled | joined valued _ filled =>
      exact ⟨fun _ => filled, fun role => absurd role (Opt.ne_switch valued)⟩

namespace State

/-- Takes options one after the other. -/
def addAll (s : State) : List (Opt × String) → Except Fault State
  | [] => .ok s
  | (o, value) :: more => (s.add o value).bind fun s => s.addAll more

theorem has_iff : s.has o = true ↔ o ∈ s.given.map Prod.fst := by
  simp [has]

theorem add_fresh (fresh : o ∉ s.given.map Prod.fst) (filled : o.takesValue = true → value ≠ "") :
    s.add o value = .ok { s with given := s.given ++ [(o, value)], waiting := none } := by
  have absent : s.has o = false := Bool.eq_false_iff.mpr (mt has_iff.mp fresh)
  have full : (o.takesValue && value.isEmpty) = false := by
    cases valued : o.takesValue with
    | true => simp [filled valued]
    | false => rfl
  simp [add, absent, full]

theorem add_repeated (present : o ∈ s.given.map Prod.fst) :
    s.add o value = .error (.repeated o) := by
  rw [add, if_pos (has_iff.mpr present)]

/-- Options that differ are all taken. Of others, one that is given twice is refused. -/
theorem addAll_cases (distinct : (s.given.map Prod.fst).Nodup) (fits : ∀ p ∈ options, Fits p) :
    ((s.given ++ options).map Prod.fst).Nodup ∧
        (∃ t, s.addAll options = .ok t ∧ t.given = s.given ++ options) ∨
      ∃ o, 2 ≤ ((s.given ++ options).map Prod.fst).count o ∧
        s.addAll options = .error (.repeated o) := by
  induction options generalizing s with
  | nil => exact .inl ⟨by simpa using distinct, s, rfl, by simp⟩
  | cons p more ih =>
    obtain ⟨o, value⟩ := p
    obtain ⟨⟨-, filled, -⟩, rest⟩ := List.forall_mem_cons.mp fits
    by_cases present : o ∈ s.given.map Prod.fst
    · refine .inr ⟨o, ?_, by rw [addAll, add_repeated present]; rfl⟩
      have := List.count_pos_iff.mpr present
      simp only [List.map_append, List.map_cons, List.count_append, List.count_cons_self]
      omega
    · have still : ((s.given ++ [(o, value)]).map Prod.fst).Nodup := by
        rw [List.map_append]
        exact distinct.append (List.nodup_singleton o) (List.disjoint_singleton.mpr present)
      have later :=
        ih (s := { s with given := s.given ++ [(o, value)], waiting := none }) still rest
      rw [addAll, add_fresh present filled]
      simpa only [Except.bind, List.append_assoc, List.singleton_append] using later

theorem valueOf?_eq_some_iff (distinct : (s.given.map Prod.fst).Nodup) :
    s.valueOf? o = some value ↔ (o, value) ∈ s.given := by
  rw [valueOf?, Option.map_eq_some_iff]
  constructor
  · rintro ⟨p, found, rfl⟩
    obtain rfl : p.1 = o := by simpa using List.find?_some found
    exact List.mem_of_find?_eq_some found
  · intro h
    cases found : s.given.find? (·.1 == o) with
    | none =>
      have := List.find?_eq_none.mp found _ h
      simp at this
    | some p =>
      have same : p.1 = o := by simpa using List.find?_some found
      have only : p = (o, value) :=
        List.inj_on_of_nodup_map distinct (List.mem_of_find?_eq_some found) h same
      exact ⟨p, rfl, by rw [only]⟩

end State

/-! ### What `run` is told -/

/-- The options that stand for what `run` is told. -/
def RunOptions.given (r : RunOptions) : List (Opt × String) :=
  r.mappings.toList.map (mappingsOption, ·) ++ r.output.toList.map (outputOption, ·) ++
    if r.demo then [(demoOption, "")] else []

/-- The words tell `run` these options, each of them once, in any order. -/
def Tells (words : List String) (r : RunOptions) : Prop :=
  ∃ options, options.Perm r.given ∧ Spelled options words

namespace RunOptions

variable {r : RunOptions}

theorem mem_given : (o, value) ∈ r.given ↔
    o = mappingsOption ∧ r.mappings = some value ∨ o = outputOption ∧ r.output = some value ∨
      o = demoOption ∧ value = "" ∧ r.demo = true := by
  obtain ⟨mappings, output, demo⟩ := r
  cases mappings <;> cases output <;> cases demo <;> simp [given, eq_comm]

theorem distinct_given (r : RunOptions) : (r.given.map Prod.fst).Nodup := by
  obtain ⟨mappings, output, demo⟩ := r
  cases mappings <;> cases output <;> cases demo <;>
    simp [given, mappingsOption, outputOption, demoOption]

end RunOptions

theorem State.perm_runOptions (distinct : (s.given.map Prod.fst).Nodup)
    (fits : ∀ p ∈ s.given, Fits p) : s.given.Perm s.runOptions.given := by
  rw [List.perm_ext_iff_of_nodup (.of_map _ distinct) (.of_map _ (RunOptions.distinct_given _))]
  rintro ⟨o, value⟩
  rw [RunOptions.mem_given]
  constructor
  · intro mem
    obtain ⟨known, -, bare⟩ := fits _ mem
    have known : o = mappingsOption ∨ o = outputOption ∨ o = demoOption := by
      simpa [CommandLine.runOptions] using known
    rcases known with rfl | rfl | rfl
    · exact .inl ⟨rfl, (valueOf?_eq_some_iff distinct).mpr mem⟩
    · exact .inr (.inl ⟨rfl, (valueOf?_eq_some_iff distinct).mpr mem⟩)
    · exact .inr (.inr ⟨rfl, bare rfl, has_iff.mpr (List.mem_map_of_mem mem)⟩)
  · rintro (⟨rfl, found⟩ | ⟨rfl, found⟩ | ⟨rfl, rfl, present⟩)
    · exact (valueOf?_eq_some_iff distinct).mp found
    · exact (valueOf?_eq_some_iff distinct).mp found
    · obtain ⟨⟨_, value⟩, mem, rfl⟩ := List.mem_map.mp (has_iff.mp present)
      obtain ⟨-, -, bare⟩ := fits _ mem
      obtain rfl : value = "" := bare rfl
      exact mem

theorem RunOptions.eq_of_perm {r r' : RunOptions} (h : r.given.Perm r'.given) : r = r' := by
  have apart : mappingsOption ≠ outputOption ∧ mappingsOption ≠ demoOption ∧
      outputOption ≠ demoOption := by decide
  have same (o : Opt) (value : String) : (o, value) ∈ r.given ↔ (o, value) ∈ r'.given := h.mem_iff
  have mappings : r.mappings = r'.mappings :=
    Option.ext fun value => by simpa [mem_given, apart] using same mappingsOption value
  have output : r.output = r'.output :=
    Option.ext fun value => by simpa [mem_given, apart, apart.1.symm] using same outputOption value
  have demo : r.demo = r'.demo := Bool.eq_iff_iff.mpr
    (by simpa [mem_given, apart.2.1.symm, apart.2.2.symm] using same demoOption "")
  cases r
  cases r'
  exact RunOptions.mk.injEq .. ▸ ⟨mappings, output, demo⟩

/-- The options that were taken are what `run` is told. -/
theorem State.runOptions_eq_iff {r : RunOptions} (distinct : (s.given.map Prod.fst).Nodup)
    (fits : ∀ p ∈ s.given, Fits p) : s.runOptions = r ↔ s.given.Perm r.given := by
  have whole := perm_runOptions distinct fits
  constructor
  · rintro rfl
    exact whole
  · exact fun same => RunOptions.eq_of_perm (whole.symm.trans same)

/-! ### Words one after the other -/

section

variable {c : Command} {inner : Option String} {word : String} {words rest : List String}
  {call : Option (String × List String)}

theorem scan_free (stays : (!s.isWaiting && !s.isStarted && c.words.contains word) = false)
    (solid : word ≠ "--") :
    scan c false s (word :: rest) =
      (placeFree c s word rest).bind fun s => scan c false s rest := by
  simp only [scan, stays, solid, Bool.false_eq_true, if_false]

theorem scan_word (runs : c.Runs) (known : o ∈ runOptions) (h : o.Word inner word) :
    scan c false s (word :: rest) =
      (perform c s o inner).bind fun s => scan c false s rest := by
  obtain ⟨marked, solid⟩ := h.not_plain known
  rw [scan_free (by simp [mt runs.words marked]) solid, placeFree_word runs known h]

theorem scan_dashes (runs : c.Runs) : scan c false s ("--" :: rest) = scan c true s rest := by
  have other : "--" ∉ c.words := fun h => (runs.words h).not_dashes rfl
  simp [scan, other]

/-- A plain word is the value of the option in front of it. -/
theorem scan_value (waits : s.waiting = some (o, none)) (plain : IsPlain word) :
    scan c false s (word :: rest) =
      scan c false { s with waiting := some (o, some word) } rest := by
  rw [scan_free (by simp [State.isWaiting_of_some waits]) plain.not_dashes, placeFree_plain plain]
  simp only [placeWord, waits]
  rfl

/-- A plain word has no other place. -/
theorem placeWord_gives (runs : c.Runs) {isTrailing : Bool}
    (h : placeWord c isTrailing s word = .ok u) :
    isTrailing = false ∧
      ∃ o, s.waiting = some (o, none) ∧ u = { s with waiting := some (o, some word) } := by
  unfold placeWord at h
  split at h
  · rename_i o waits
    exact ⟨rfl, o, waits, (Except.ok.inj h).symm⟩
  · simp [runs.operand, refuse] at h

theorem scan_trailing (runs : c.Runs) (h : scan c true s words = .ok (u, call)) :
    words = [] ∧ u = s := by
  cases words with
  | nil => exact ⟨rfl, (Prod.mk.inj (Except.ok.inj h)).1.symm⟩
  | cons word rest =>
    obtain ⟨v, placed, -⟩ := of_bind_eq_ok h
    obtain ⟨⟨⟩, -⟩ := placeWord_gives runs placed

theorem finish_eq (runs : c.Runs) : finish c s = s.settle.mapError (.refused c) := by
  rw [finish, runs.operand, settle]
  cases s.settle <;> rfl

theorem settle_addAll_cons :
    s.settle.bind (·.addAll ((o, value) :: options)) =
      (s.settle.bind (·.add o value)).bind (·.addAll options) := by
  cases s.settle <;> rfl

/-- The words call no other command, and these options are taken one after the other. -/
def Yields (c : Command) (s : State) (words : List String) (options : List (Opt × String)) : Prop :=
  ∃ x : Except Stop State, scan c false s words = x.map (·, none) ∧
    x.bind (finish c) = (s.settle.bind (·.addAll options)).mapError (.refused c)

theorem yields_nil (runs : c.Runs) (h : scan c false s words = .ok (s, none)) :
    Yields c s words [] := by
  refine ⟨.ok s, h, ?_⟩
  rw [Except.bind, finish_eq runs]
  cases s.settle <;> rfl

theorem yields_word (runs : c.Runs) (known : o ∈ runOptions) (name : o.Word inner word)
    (does : perform c s o inner = (s.settle.bind (·.add o value)).mapError (.refused c))
    (later : ∀ s, Yields c s rest options) : Yields c s (word :: rest) ((o, value) :: options) := by
  rw [Yields, scan_word runs known name, does, settle_addAll_cons]
  cases added : s.settle.bind (·.add o value) with
  | error fault => exact ⟨.error (.refused c fault), rfl, rfl⟩
  | ok v =>
    obtain ⟨-, -, ready⟩ := settle_add_gives added
    obtain ⟨x, scanned, finished⟩ := later v
    refine ⟨x, scanned, finished.trans ?_⟩
    rw [State.settle, ready]

/-- Between its two words an option waits for its value. With it, the option waits until the next
one or the end. -/
theorem yields_apart (runs : c.Runs) (known : o ∈ runOptions) (valued : o.takesValue = true)
    (name : o.Word none word) (plain : IsPlain value) (later : ∀ s, Yields c s rest options) :
    Yields c s (word :: value :: rest) ((o, value) :: options) := by
  rw [Yields, scan_word runs known name, perform_name valued]
  cases ready : s.settle with
  | error fault => exact ⟨.error (.refused c fault), rfl, rfl⟩
  | ok v =>
    obtain ⟨x, scanned, finished⟩ := later { v with waiting := some (o, some value) }
    exact ⟨x, (scan_value rfl plain).trans scanned, finished⟩

/-- A command that takes the options of `run` takes those that its words spell. -/
theorem yields_of_spelled (runs : c.Runs) (h : Spelled options words) (s : State) :
    Yields c s words options := by
  induction h generalizing s with
  | nil => exact yields_nil runs rfl
  | dashes => exact yields_nil runs (scan_dashes runs)
  | cons known here more ih =>
    cases here with
    | switch role name => exact yields_word runs known name (perform_switch role) ih
    | joined valued name _ => exact yields_word runs known name (perform_value valued _) ih
    | apart valued name _ plain => exact yields_apart runs known valued name plain ih

/-- Words that are all taken give the options that they spell. -/
theorem addAll_of_scan (runs : c.Runs) (spelled : Spelled options words)
    (h : scan c false s words = .ok (u, none)) (done : finish c u = .ok t) :
    ∃ v, s.settle = .ok v ∧ v.addAll options = .ok t := by
  obtain ⟨x, scanned, finished⟩ := yields_of_spelled runs spelled s
  rw [h] at scanned
  cases x with
  | error stop => cases scanned
  | ok v =>
    obtain ⟨rfl, -⟩ := Prod.mk.inj (Except.ok.inj scanned)
    exact of_bind_eq_ok (of_mapError_eq_ok (finished.symm.trans done))

/-- After what was read, the words are a spelling. An option that waits has its value in front. -/
def Continues (s : State) (words : List String) : Prop :=
  (s.isWaiting = false → ∃ options, Spelled options words) ∧
    ∀ o, s.waiting = some (o, none) → o.takesValue = true →
      ∃ value rest options, words = value :: rest ∧ value ≠ "" ∧ IsPlain value ∧
        Spelled options rest

theorem continues_of_spelled (idle : s.isWaiting = false) (spelled : Spelled options words) :
    Continues s words :=
  ⟨fun _ => ⟨options, spelled⟩, fun o waits => absurd waits (State.waiting_ne idle o)⟩

theorem continues_word {v : State} (known : o ∈ runOptions) (name : o.Word inner word)
    (taken : perform c s o inner = .ok v) (later : Continues v rest) :
    Continues s (word :: rest) := by
  obtain ⟨idle, result⟩ := perform_gives taken
  rcases result with ⟨valued, rfl, waits⟩ | ⟨value, valued, rfl, filled, ready⟩ | ⟨role, rfl, ready⟩
  · obtain ⟨value, more, options, rfl, filled, plain, spelled⟩ := later.2 o waits valued
    exact continues_of_spelled idle (.cons known (.apart valued name filled plain) spelled)
  · obtain ⟨options, spelled⟩ := later.1 (State.isWaiting_of_none ready)
    exact continues_of_spelled idle (.cons known (.joined valued name filled) spelled)
  · obtain ⟨options, spelled⟩ := later.1 (State.isWaiting_of_none ready)
    exact continues_of_spelled idle (.cons known (.switch role name) spelled)

theorem continues_value (waits : s.waiting = some (o, none)) (plain : IsPlain word)
    (filled : o.takesValue = true → word ≠ "") (spelled : Spelled options rest) :
    Continues s (word :: rest) := by
  refine ⟨fun idle => absurd waits (State.waiting_ne idle o), fun o' waits' valued => ?_⟩
  obtain ⟨rfl, -⟩ := Prod.mk.inj (Option.some.inj (waits.symm.trans waits'))
  exact ⟨word, rest, options, rfl, filled valued, plain, spelled⟩

theorem idle_of_finish (runs : c.Runs) (done : finish c s = .ok t) : s.isWaiting = false := by
  rw [finish_eq runs] at done
  exact (State.settle_gives (of_mapError_eq_ok done)).1

/-- Words that are all taken continue what was read. -/
theorem continues_of_scan (runs : c.Runs) (h : scan c false s words = .ok (u, none))
    (done : finish c u = .ok t) : Continues s words := by
  induction words generalizing s with
  | nil =>
    obtain ⟨rfl, -⟩ := Prod.mk.inj (Except.ok.inj h)
    exact continues_of_spelled (idle_of_finish runs done) .nil
  | cons word rest ih =>
    cases stays : (!s.isWaiting && !s.isStarted && c.words.contains word) with
    | true =>
      -- the word calls another command
      simp only [scan, stays, Bool.false_eq_true, if_false, if_true] at h
      cases h
    | false =>
      by_cases dashes : word = "--"
      · rw [dashes, scan_dashes runs] at h
        obtain ⟨rfl, rfl⟩ := scan_trailing runs h
        rw [dashes]
        exact continues_of_spelled (idle_of_finish runs done) .dashes
      rw [scan_free stays dashes] at h
      obtain ⟨v, placed, scanned⟩ := of_bind_eq_ok h
      rcases placeFree_gives runs placed with plain | ⟨o, known, inner, name, taken⟩
      · rw [placeFree_plain plain] at placed
        obtain ⟨-, o, waits, rfl⟩ := placeWord_gives runs placed
        obtain ⟨options, spelled⟩ := (ih scanned).1 rfl
        -- the value is taken later, and only then found not to be empty
        obtain ⟨w, added, -⟩ := addAll_of_scan runs spelled scanned done
        obtain ⟨-, filled, -⟩ := State.add_gives added
        exact continues_value waits plain filled spelled
      · exact continues_word known name taken (ih scanned)

/-- A command without others below it calls none. -/
theorem call_eq_none (alone : c.words = []) {isTrailing : Bool}
    (h : scan c isTrailing s words = .ok (u, call)) : call = none := by
  induction words generalizing s isTrailing with
  | nil => exact (Prod.mk.inj (Except.ok.inj h)).2.symm
  | cons word rest ih =>
    simp only [scan, alone, List.contains_nil, Bool.and_false, Bool.false_eq_true, if_false] at h
    split at h
    · obtain ⟨v, -, scanned⟩ := of_bind_eq_ok h
      exact ih scanned
    · split at h
      · exact ih h
      · obtain ⟨v, -, scanned⟩ := of_bind_eq_ok h
        exact ih scanned

end

/-! ### Whole command lines -/

section

variable {words : List String} {r : RunOptions}

theorem addAll_runOptions_iff (fits : ∀ p ∈ options, Fits p) :
    (∃ t, ({} : State).addAll options = .ok t ∧ t.runOptions = r) ↔ options.Perm r.given := by
  have either := State.addAll_cases (s := {}) List.nodup_nil fits
  rw [show ({} : State).given ++ options = options from rfl] at either
  constructor
  · rintro ⟨t, taken, rfl⟩
    rcases either with ⟨distinct, v, added, rfl⟩ | ⟨o, -, refused⟩
    · rw [taken] at added
      obtain rfl := Except.ok.inj added
      exact State.perm_runOptions distinct fits
    · rw [taken] at refused
      cases refused
  · intro same
    rcases either with ⟨distinct, v, added, rfl⟩ | ⟨o, twice, -⟩
    · exact ⟨v, added, (State.runOptions_eq_iff distinct fits).mpr same⟩
    · have distinct := (same.map Prod.fst).nodup_iff.mpr r.distinct_given
      have := List.nodup_iff_count_le_one.mp distinct o
      omega

/-- Words that are all taken tell `run` what comes out. -/
theorem tells_of_scan {c : Command} (runs : c.Runs) (h : scan c false {} words = .ok (u, none))
    (done : finish c u = .ok t) : Tells words t.runOptions := by
  obtain ⟨options, spelled⟩ := (continues_of_scan runs h done).1 rfl
  obtain ⟨v, settled, taken⟩ := addAll_of_scan runs spelled h done
  obtain rfl := Except.ok.inj settled
  exact ⟨options, (addAll_runOptions_iff spelled.fits).mp ⟨t, taken, rfl⟩, spelled⟩

theorem parse_spelled (spelled : Spelled options words) :
    parse words = ((({} : State).addAll options).mapError (.refused program)).map
      fun s => ⟨none, s.runOptions⟩ := by
  obtain ⟨x, scanned, finished⟩ := yields_of_spelled program_runs spelled {}
  have finished : x.bind (finish program) =
    (({} : State).addAll options).mapError (.refused program) := finished
  rw [parse, scanned, ← finished]
  cases x <;> rfl

theorem parse_run (words : List String) :
    parse ("run" :: words) =
      (scanAll runCommand words).map fun s => ⟨some (.run s.runOptions), {}⟩ := by
  have called : scan program false {} ("run" :: words) = .ok ({}, some ("run", words)) := rfl
  rw [parse, called]
  simp only [Except.bind, requestOf]
  cases scanAll runCommand words <;> rfl

theorem parse_run_spelled (spelled : Spelled options words) :
    parse ("run" :: words) = ((({} : State).addAll options).mapError (.refused runCommand)).map
      fun s => ⟨some (.run s.runOptions), {}⟩ := by
  obtain ⟨x, scanned, finished⟩ := yields_of_spelled runCommand_runs spelled {}
  have finished : x.bind (finish runCommand) =
    (({} : State).addAll options).mapError (.refused runCommand) := finished
  rw [parse_run, scanAll, scanned, ← finished]
  cases x <;> rfl

/-- Without a command exactly the words that tell `run` its options are understood. -/
theorem parse_iff : parse words = .ok ⟨none, r⟩ ↔ Tells words r := by
  constructor
  · intro h
    obtain ⟨⟨u, call⟩, scanned, rest⟩ := of_bind_eq_ok h
    cases call with
    | none =>
      cases done : finish program u with
      | error stop => simp [done, Except.map] at rest
      | ok t =>
        obtain rfl : t.runOptions = r := by simpa [done, Except.map] using rest
        exact tells_of_scan program_runs scanned done
    | some call => cases asked : requestOf call.1 call.2 <;> simp [asked, Except.map] at rest
  · rintro ⟨options, same, spelled⟩
    obtain ⟨t, taken, rfl⟩ := (addAll_runOptions_iff spelled.fits).mpr same
    rw [parse_spelled spelled, taken]
    rfl

/-- So they are after the word `run`. -/
theorem parse_run_iff :
    (∃ top, parse ("run" :: words) = .ok ⟨some (.run r), top⟩) ↔ Tells words r := by
  constructor
  · rintro ⟨top, h⟩
    rw [parse_run] at h
    cases read : scanAll runCommand words with
    | error stop => simp [read, Except.map] at h
    | ok t =>
      obtain ⟨rfl, -⟩ : t.runOptions = r ∧ {} = top := by simpa [read, Except.map] using h
      obtain ⟨⟨u, call⟩, scanned, done⟩ := of_bind_eq_ok read
      obtain rfl := call_eq_none rfl scanned
      exact tells_of_scan runCommand_runs scanned done
  · rintro ⟨options, same, spelled⟩
    obtain ⟨t, taken, rfl⟩ := (addAll_runOptions_iff spelled.fits).mpr same
    refine ⟨{}, ?_⟩
    rw [parse_run_spelled spelled, taken]
    rfl

/-- An option that is given twice is refused in the same way with the word `run` and without. -/
theorem parse_repeated (spelled : Spelled options words)
    (twice : ¬ (options.map Prod.fst).Nodup) :
    ∃ o, 2 ≤ (options.map Prod.fst).count o ∧
      parse words = .error (.refused program (.repeated o)) ∧
      parse ("run" :: words) = .error (.refused runCommand (.repeated o)) := by
  rcases State.addAll_cases (s := {}) List.nodup_nil spelled.fits with
    ⟨distinct, -⟩ | ⟨o, count, refused⟩
  · exact absurd distinct twice
  · refine ⟨o, count, ?_, ?_⟩
    · rw [parse_spelled spelled, refused]
      rfl
    · rw [parse_run_spelled spelled, refused]
      rfl

end

end ColumnMap.CommandLine
