import Mathlib.Logic.Basic
import Mathlib.Tactic.ByContra
import ColumnMap.CommandLine.Basic

/-!
How the options of `run` are spelled on a command line, and what a command that takes them reads of
a single word. A word that it takes is plain, or it is the name of an option with or without a value
behind it, and then it does what the option is for.
-/

namespace ColumnMap.CommandLine

/-! ### Words -/

/-- A word that is no option. A dash alone is none. -/
def IsPlain (word : String) : Prop := word = "-" ∨ word.toList.head? ≠ some '-'

/-- What stands behind the name of an option: nothing, or an equals sign and a value. -/
def attached : Option String → String
  | none => ""
  | some value => "=" ++ value

/-- The words that name an option, with the value that is part of the word. -/
inductive Opt.Word (o : Opt) : Option String → String → Prop where
  | long (value : Option String) : o.Word value ("--" ++ o.long ++ attached value)
  | letter {l : Char} (h : o.letter = some l) (value : Option String) :
      o.Word value ("-" ++ l.toString ++ attached value)
  /-- The value may follow the letter at once, unless that would be an equals sign. -/
  | behind {l : Char} (h : o.letter = some l) {value : String} (filled : value ≠ "")
      (solid : value.toList.head? ≠ some '=') : o.Word (some value) ("-" ++ l.toString ++ value)

/-- The words that give an option and its value, which is empty for a switch. -/
inductive Opt.Given (o : Opt) : String → List String → Prop where
  | switch {word : String} (h : o.role = .switch) (name : o.Word none word) : o.Given "" [word]
  | apart {word value : String} (h : o.takesValue = true) (name : o.Word none word)
      (filled : value ≠ "") (plain : IsPlain value) : o.Given value [word, value]
  | joined {word value : String} (h : o.takesValue = true) (name : o.Word (some value) word)
      (filled : value ≠ "") : o.Given value [word]

/-- The words give these options of `run` in this order. Two dashes may end them. -/
inductive Spelled : List (Opt × String) → List String → Prop where
  | nil : Spelled [] []
  | dashes : Spelled [] ["--"]
  | cons {o : Opt} {value : String} {words rest : List String} {options : List (Opt × String)}
      (known : o ∈ runOptions) (here : o.Given value words) (more : Spelled options rest) :
      Spelled ((o, value) :: options) (words ++ rest)

/-- A text is a name in front of what may be attached to it. -/
theorem exists_attached (r : List Char) :
    ∃ (name : String) (value : Option String),
      '=' ∉ name.toList ∧ r = name.toList ++ (attached value).toList := by
  induction r with
  | nil => exact ⟨"", none, by simp, rfl⟩
  | cons c r ih =>
    by_cases mark : c = '='
    · exact ⟨"", some (String.ofList r), by simp, by simp [attached, mark]⟩
    · obtain ⟨name, value, clear, rfl⟩ := ih
      refine ⟨String.ofList (c :: name.toList), value, ?_, by simp⟩
      rw [String.toList_ofList, List.mem_cons, not_or]
      exact ⟨Ne.symm mark, clear⟩

theorem asLong?_spelled {name : String} (clear : '=' ∉ name.toList) (value : Option String) :
    asLong? ("--" ++ name ++ attached value) = some (name, value) := by
  have all : ∀ c ∈ name.toList, (c != '=') = true := by
    intro c hc
    exact bne_iff_ne.mpr fun same => clear (same ▸ hc)
  have whole : ("--" ++ name ++ attached value).toList =
      '-' :: '-' :: (name.toList ++ (attached value).toList) := by
    rw [String.toList_append, String.toList_append, List.append_assoc]
    rfl
  simp only [asLong?, whole, List.takeWhile_append_of_pos all, List.dropWhile_append_of_pos all]
  cases value <;> simp [attached]

theorem asLong?_gives {word name : String} {value : Option String}
    (h : asLong? word = some (name, value)) : word = "--" ++ name ++ attached value := by
  obtain ⟨r, whole⟩ : ∃ r, word.toList = '-' :: '-' :: r := by
    unfold asLong? at h
    split at h
    · exact ⟨_, ‹_›⟩
    · cases h
  -- the text splits in some way, and what is seen of it is this splitting
  obtain ⟨name', value', clear, rfl⟩ := exists_attached r
  have same : word = "--" ++ name' ++ attached value' := by
    apply String.toList_inj.mp
    rw [whole, String.toList_append, String.toList_append, List.append_assoc]
    rfl
  rw [same, asLong?_spelled clear] at h
  obtain ⟨rfl, rfl⟩ := Prod.mk.inj (Option.some.inj h)
  exact same

theorem asLetters?_iff {word : String} {l : Char} {r : List Char} :
    asLetters? word = some (l :: r) ↔ word.toList = '-' :: l :: r ∧ l ≠ '-' := by
  constructor
  · intro h
    unfold asLetters? at h
    split at h
    · rename_i c t whole
      split at h
      · cases h
      · rename_i other
        obtain ⟨rfl, rfl⟩ := List.cons.inj (Option.some.inj h)
        exact ⟨whole, by simpa using other⟩
    · cases h
  · rintro ⟨whole, other⟩
    simp [asLetters?, whole, other]

theorem not_isPlain_iff {word : String} :
    ¬ IsPlain word ↔ ∃ c r, word.toList = '-' :: c :: r := by
  rw [IsPlain, not_or, not_not, ← String.toList_inj]
  constructor
  · rintro ⟨more, dash⟩
    cases whole : word.toList with
    | nil =>
      rw [whole] at dash
      cases dash
    | cons b t =>
      rw [whole] at dash
      obtain rfl := Option.some.inj dash
      cases t with
      | nil => exact absurd whole more
      | cons c r => exact ⟨c, r, rfl⟩
  · rintro ⟨c, r, whole⟩
    rw [whole]
    exact ⟨nofun, rfl⟩

theorem isPlain_iff {word : String} :
    IsPlain word ↔ asLong? word = none ∧ asLetters? word = none := by
  constructor
  · intro plain
    constructor
    · unfold asLong?
      split
      · exact absurd plain (not_isPlain_iff.mpr ⟨_, _, ‹_›⟩)
      · rfl
    · unfold asLetters?
      split
      · exact absurd plain (not_isPlain_iff.mpr ⟨_, _, ‹_›⟩)
      · rfl
  · rintro ⟨long, short⟩
    by_contra other
    obtain ⟨c, r, whole⟩ := not_isPlain_iff.mp other
    by_cases dash : c = '-'
    · simp [asLong?, whole, dash] at long
    · rw [asLetters?_iff.mpr ⟨whole, dash⟩] at short
      cases short

theorem IsPlain.not_dashes {word : String} (h : IsPlain word) : word ≠ "--" := by
  rintro rfl
  exact not_isPlain_iff.mpr ⟨_, _, rfl⟩ h

/-! ### The options of `run` -/

theorem of_mem_runOptions {o : Opt} (h : o ∈ runOptions) :
    o.long ≠ "" ∧ '=' ∉ o.long.toList ∧
      ∀ l, o.letter = some l → l ≠ '-' ∧ o.takesValue = true := by
  simp only [runOptions, List.mem_cons, List.not_mem_nil, or_false] at h
  rcases h with rfl | rfl | rfl
  · exact ⟨by decide, by decide, nofun⟩
  · refine ⟨by decide, by decide, ?_⟩
    rintro l ⟨rfl⟩
    exact ⟨by decide, rfl⟩
  · exact ⟨by decide, by decide, nofun⟩

/-- What the letters after that of an option mean to it. -/
def afterLetter (r : List Char) : Option String :=
  if r.isEmpty then none
  else some (String.ofList (if r.head? == some '=' then r.drop 1 else r))

theorem afterLetter_attached (value : Option String) :
    afterLetter (attached value).toList = value := by
  cases value <;> simp [attached, afterLetter]

theorem afterLetter_solid {value : String} (filled : value ≠ "")
    (solid : value.toList.head? ≠ some '=') : afterLetter value.toList = some value := by
  simp [afterLetter, filled, solid]

variable {o : Opt} {value : Option String} {word : String}

/-- A word of an option is seen as one. -/
theorem Opt.Word.seen (h : o.Word value word) (known : o ∈ runOptions) :
    asLong? word = some (o.long, value) ∨ asLong? word = none ∧
      ∃ l r, o.letter = some l ∧ asLetters? word = some (l :: r) ∧ afterLetter r = value := by
  obtain ⟨-, clear, letters⟩ := of_mem_runOptions known
  have short {l : Char} (named : o.letter = some l) (t : String) :
      asLong? ("-" ++ l.toString ++ t) = none ∧
        asLetters? ("-" ++ l.toString ++ t) = some (l :: t.toList) := by
    obtain ⟨other, -⟩ := letters l named
    have whole : ("-" ++ l.toString ++ t).toList = '-' :: l :: t.toList := by simp
    exact ⟨by simp [asLong?, other], asLetters?_iff.mpr ⟨whole, other⟩⟩
  cases h with
  | long => exact .inl (asLong?_spelled clear value)
  | letter named =>
    obtain ⟨long, letters⟩ := short named (attached value)
    exact .inr ⟨long, _, _, named, letters, afterLetter_attached value⟩
  | behind named filled solid =>
    obtain ⟨long, letters⟩ := short named _
    exact .inr ⟨long, _, _, named, letters, afterLetter_solid filled solid⟩

theorem Opt.word_of_long (h : asLong? word = some (o.long, value)) : o.Word value word := by
  rw [asLong?_gives h]
  exact .long value

theorem Opt.word_of_letters {l : Char} {r : List Char} (named : o.letter = some l)
    (h : asLetters? word = some (l :: r)) : o.Word (afterLetter r) word := by
  obtain ⟨whole, -⟩ := asLetters?_iff.mp h
  have parts (t : String) (ht : r = t.toList) : word = "-" ++ l.toString ++ t := by
    apply String.toList_inj.mp
    simp [whole, ht]
  by_cases more : ∃ t, r = '=' :: t
  · obtain ⟨t, rfl⟩ := more
    rw [parts (attached (some (String.ofList t))) (by simp [attached]),
      show afterLetter ('=' :: t) = some (String.ofList t) by simp [afterLetter]]
    exact .letter named _
  · cases r with
    | nil =>
      rw [parts (attached none) rfl]
      exact .letter named none
    | cons c t =>
      have other : c ≠ '=' := fun same => more ⟨t, by rw [same]⟩
      rw [parts (String.ofList (c :: t)) (by simp),
        show afterLetter (c :: t) = some (String.ofList (c :: t)) by simp [afterLetter, other]]
      exact .behind named (by simp) (by simp [other])

/-- A word of an option is neither plain nor just two dashes. -/
theorem Opt.Word.not_plain (h : o.Word value word) (known : o ∈ runOptions) :
    ¬ IsPlain word ∧ word ≠ "--" := by
  rw [isPlain_iff]
  rcases h.seen known with long | ⟨long, l, r, -, letters, -⟩
  · refine ⟨fun plain => ?_, ?_⟩
    · rw [long] at plain
      cases plain.1
    · rintro rfl
      obtain ⟨filled, -⟩ := of_mem_runOptions known
      exact filled (Prod.mk.inj (Option.some.inj long)).1.symm
  · refine ⟨fun plain => ?_, ?_⟩
    · rw [letters] at plain
      cases plain.2
    · rintro rfl
      cases long

/-! ### Commands that take them -/

/-- The command takes the options of `run` and no operand. With every other option the program
ends. -/
structure Command.Runs (c : Command) : Prop where
  operand : c.operand = none
  long {o : Opt} (h : o ∈ runOptions) : c.options.find? (·.long == o.long) = some o
  letter {o : Opt} {l : Char} (h : o ∈ runOptions) (named : o.letter = some l) :
    c.options.find? (·.letter == some l) = some o
  others {o : Opt} (h : o ∈ c.options) : o ∈ runOptions ∨ o.role = .help ∨ o.role = .version
  words {word : String} (h : word ∈ c.words) : IsPlain word

theorem Command.Runs.of_options {c : Command} {others : List Opt}
    (options : c.options = runOptions ++ others)
    (ends : ∀ o ∈ others, o.role = .help ∨ o.role = .version) (operand : c.operand = none)
    (words : ∀ word ∈ c.words, IsPlain word) : c.Runs where
  operand := operand
  long h := by
    simp only [runOptions, List.mem_cons, List.not_mem_nil, or_false] at h
    rw [options]
    rcases h with rfl | rfl | rfl <;> rfl
  letter h named := by
    simp only [runOptions, List.mem_cons, List.not_mem_nil, or_false] at h
    rw [options]
    rcases h with rfl | rfl | rfl <;> cases named
    rfl
  others h := by
    rw [options] at h
    exact (List.mem_append.mp h).imp id (ends _)
  words h := words _ h

theorem program_runs : program.Runs :=
  .of_options rfl (by decide) rfl fun word h => by
    have h : word ∈ ["run", "lookup", "config", "help"] := h
    simp only [List.mem_cons, List.not_mem_nil, or_false] at h
    rcases h with rfl | rfl | rfl | rfl <;> exact .inr (by decide)

theorem runCommand_runs : runCommand.Runs := .of_options rfl (by decide) rfl nofun

section

variable {c : Command} {s u : State} {rest : List String}

theorem letters_eq {l : Char} {r : List Char}
    (found : c.options.find? (·.letter == some l) = some o) (valued : o.takesValue = true) :
    letters c s (l :: r) = perform c s o (afterLetter r) := by
  simp only [letters, found, valued, if_true]
  rfl

/-- A word of an option does what the option is for. -/
theorem placeFree_word (runs : c.Runs) (known : o ∈ runOptions) (h : o.Word value word) :
    placeFree c s word rest = perform c s o value := by
  rcases h.seen known with long | ⟨long, l, r, named, letters, rfl⟩
  · simp only [placeFree, long, runs.long known]
  · obtain ⟨-, -, valued⟩ := of_mem_runOptions known
    simp only [placeFree, long, letters]
    exact letters_eq (runs.letter known named) (valued l named).2

theorem placeFree_plain (h : IsPlain word) :
    placeFree c s word rest = placeWord c false s word := by
  obtain ⟨long, letters⟩ := isPlain_iff.mp h
  simp only [placeFree, long, letters]

theorem Opt.takesValue_iff : o.takesValue = true ↔ ∃ name, o.role = .value name := by
  unfold takesValue
  cases o.role <;> simp

theorem Opt.ne_switch (h : o.takesValue = true) : o.role ≠ .switch := by
  obtain ⟨name, role⟩ := takesValue_iff.mp h
  rw [role]
  nofun

theorem of_mapError_eq_ok {ε ε' α : Type} {f : ε → ε'} {x : Except ε α} {a : α}
    (h : x.mapError f = .ok a) : x = .ok a := by
  cases x with
  | error e => cases h
  | ok b => exact congrArg _ (Except.ok.inj h)

theorem of_bind_eq_ok {ε α β : Type} {x : Except ε α} {f : α → Except ε β} {b : β}
    (h : x.bind f = .ok b) : ∃ a, x = .ok a ∧ f a = .ok b := by
  cases x with
  | error e => cases h
  | ok a => exact ⟨a, rfl, h⟩

theorem perform_name (valued : o.takesValue = true) :
    perform c s o none =
      (s.settle.map fun s => { s with waiting := some (o, none) }).mapError (.refused c) := by
  obtain ⟨name, role⟩ := Opt.takesValue_iff.mp valued
  simp only [perform, role, settle]
  cases s.settle <;> rfl

theorem perform_value (valued : o.takesValue = true) (v : String) :
    perform c s o (some v) = (s.settle.bind (·.add o v)).mapError (.refused c) := by
  obtain ⟨name, role⟩ := Opt.takesValue_iff.mp valued
  simp only [perform, role, settle]
  cases s.settle <;> rfl

theorem perform_switch (role : o.role = .switch) :
    perform c s o none = (s.settle.bind (·.add o "")).mapError (.refused c) := by
  simp only [perform, role, settle]
  cases s.settle <;> rfl

theorem State.add_gives {v : String} (h : s.add o v = .ok u) :
    s.has o = false ∧ (o.takesValue = true → v ≠ "") ∧
      u = { s with given := s.given ++ [(o, v)], waiting := none } := by
  unfold add at h
  split at h
  · cases h
  · split at h
    · cases h
    · rename_i fresh filled
      refine ⟨by simpa using fresh, fun valued empty => ?_, (Except.ok.inj h).symm⟩
      simp [valued, empty] at filled

theorem State.isWaiting_of_some (waits : s.waiting = some (o, none)) : s.isWaiting = true := by
  rw [isWaiting, waits]
  rfl

theorem State.waiting_ne (idle : s.isWaiting = false) (o : Opt) : s.waiting ≠ some (o, none) := by
  intro waits
  rw [isWaiting_of_some waits] at idle
  cases idle

theorem State.isWaiting_of_none (ready : s.waiting = none) : s.isWaiting = false := by
  rw [isWaiting, ready]
  rfl

/-- An option that waits is not taken without its value. -/
theorem State.settle_gives (h : s.settle = .ok u) : s.isWaiting = false ∧ u.waiting = none := by
  unfold settle at h
  unfold isWaiting
  split at h
  · obtain rfl := Except.ok.inj h
    simp_all
  · cases h
  · obtain ⟨-, -, rfl⟩ := add_gives h
    simp_all

theorem settle_add_gives {v : String} (h : s.settle.bind (·.add o v) = .ok u) :
    s.isWaiting = false ∧ (o.takesValue = true → v ≠ "") ∧ u.waiting = none := by
  obtain ⟨t, ready, added⟩ := of_bind_eq_ok h
  obtain ⟨-, filled, rfl⟩ := State.add_gives added
  exact ⟨(State.settle_gives ready).1, filled, rfl⟩

/-- What is done with an option that is taken. -/
theorem perform_gives (h : perform c s o value = .ok u) :
    s.isWaiting = false ∧
      (o.takesValue = true ∧ value = none ∧ u.waiting = some (o, none) ∨
        (∃ v, o.takesValue = true ∧ value = some v ∧ v ≠ "" ∧ u.waiting = none) ∨
        o.role = .switch ∧ value = none ∧ u.waiting = none) := by
  cases role : o.role with
  | value name =>
    have valued : o.takesValue = true := Opt.takesValue_iff.mpr ⟨name, role⟩
    cases value with
    | none =>
      have := of_mapError_eq_ok (perform_name valued ▸ h)
      cases ready : s.settle with
      | error fault =>
        rw [ready] at this
        cases this
      | ok t =>
        rw [ready] at this
        obtain rfl := Except.ok.inj this
        exact ⟨(State.settle_gives ready).1, .inl ⟨valued, rfl, rfl⟩⟩
    | some v =>
      obtain ⟨idle, filled, done⟩ :=
        settle_add_gives (of_mapError_eq_ok (perform_value valued v ▸ h))
      exact ⟨idle, .inr (.inl ⟨v, valued, rfl, filled valued, done⟩)⟩
  | switch =>
    cases value with
    | none =>
      obtain ⟨idle, -, done⟩ := settle_add_gives (of_mapError_eq_ok (perform_switch role ▸ h))
      exact ⟨idle, .inr (.inr ⟨rfl, rfl, done⟩)⟩
    | some v => simp [perform, role, refuse] at h
  | help | version =>
    cases value with
    | none =>
      simp only [perform, role] at h
      obtain ⟨_, -, stopped⟩ := of_bind_eq_ok h
      cases stopped
    | some v => simp [perform, role, refuse] at h

/-- Only options of `run` are taken. -/
theorem known_of_perform (runs : c.Runs) (listed : o ∈ c.options)
    (h : perform c s o value = .ok u) : o ∈ runOptions := by
  obtain ⟨-, taken⟩ := perform_gives h
  rcases runs.others listed with known | help | version
  · exact known
  · simp [Opt.takesValue, help] at taken
  · simp [Opt.takesValue, version] at taken

theorem letters_gives {l : Char} {r : List Char} (runs : c.Runs)
    (h : letters c s (l :: r) = .ok u) :
    ∃ o ∈ runOptions, o.letter = some l ∧ perform c s o (afterLetter r) = .ok u := by
  cases found : c.options.find? (·.letter == some l) with
  | none => simp [letters, found, refuse] at h
  | some o =>
    have listed := List.mem_of_find?_eq_some found
    have named : o.letter = some l := by simpa using List.find?_some found
    cases valued : o.takesValue with
    | true =>
      rw [letters_eq found valued] at h
      exact ⟨o, known_of_perform runs listed h, named, h⟩
    | false =>
      -- the options of `run` that have a letter take a value
      simp only [letters, found, valued] at h
      obtain ⟨t, taken, -⟩ := of_bind_eq_ok h
      obtain ⟨-, -, all⟩ := of_mem_runOptions (known_of_perform runs listed taken)
      rw [(all l named).2] at valued
      cases valued

/-- A word that is taken is plain or a word of an option. -/
theorem placeFree_gives (runs : c.Runs) (h : placeFree c s word rest = .ok u) :
    IsPlain word ∨ ∃ o ∈ runOptions, ∃ value, o.Word value word ∧ perform c s o value = .ok u := by
  by_cases plain : IsPlain word
  · exact .inl plain
  obtain ⟨l, r, whole⟩ := not_isPlain_iff.mp plain
  cases long : asLong? word with
  | some seen =>
    obtain ⟨name, value⟩ := seen
    simp only [placeFree, long] at h
    cases found : c.options.find? (·.long == name) with
    | none => simp [found, refuse] at h
    | some o =>
      simp only [found] at h
      obtain rfl : o.long = name := by simpa using List.find?_some found
      have known := known_of_perform runs (List.mem_of_find?_eq_some found) h
      exact .inr ⟨o, known, value, Opt.word_of_long long, h⟩
  | none =>
    have other : l ≠ '-' := by
      rintro rfl
      simp [asLong?, whole] at long
    have short : asLetters? word = some (l :: r) := asLetters?_iff.mpr ⟨whole, other⟩
    simp only [placeFree, long, short] at h
    obtain ⟨o, known, named, taken⟩ := letters_gives runs h
    exact .inr ⟨o, known, _, Opt.word_of_letters named short, taken⟩

end

end ColumnMap.CommandLine
