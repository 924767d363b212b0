import ColumnMap.Proofs.App.Highlight

/-!
A mapping is made with the keyboard alone: a column is chosen, then one of the values that its
lookup brings, then a note is typed and the draft is saved. Whatever the lists and the note are, the
list gets exactly that mapping.
-/

namespace ColumnMap

open Console

/-! ### Keys in the form -/

namespace Form

variable {f : Form} {draft : Draft} {columns : List String}

theorem key_down_column (focus : f.focus = .column) :
    f.key draft columns (.plain .down) =
      (.none, { f with columnCursor := cursorDown f.columnCursor columns.length }) := by
  simp [key, Key.plain, focus, columnKey]

theorem key_down_value (focus : f.focus = .value) :
    f.key draft columns (.plain .down) =
      (.none, { f with
        suggestionCursor := cursorDown f.suggestionCursor draft.suggestions.length }) := by
  simp [key, Key.plain, focus, valueKey]

theorem key_enter_column (focus : f.focus = .column) {column : String}
    (row : columns[f.columnCursor]? = some column) :
    f.key draft columns (.plain .enter) =
      (.selectColumn column, { f with focus := .value, suggestionCursor := 0 }) := by
  simp [key, Key.plain, focus, columnKey, row]

theorem key_enter_value (focus : f.focus = .value) (loaded : draft.isLoading = false)
    (inside : f.suggestionCursor < draft.suggestions.length) :
    f.key draft columns (.plain .enter) =
      (.pickSuggestion f.suggestionCursor, { f with focus := .auxiliary }) := by
  simp [key, Key.plain, focus, valueKey, loaded, Nat.not_le_of_lt inside]

/-- In the field for the note every character is text. -/
theorem key_char_auxiliary (focus : f.focus = .auxiliary) (c : Char) :
    f.key draft columns (.plain (.char c)) = (.setAuxiliary (draft.auxiliary.push c), f) := by
  have reached : f.key draft columns (.plain (.char c)) =
      f.textKey draft.auxiliary .setAuxiliary (.char c) := by
    rw [key, focus]
    rfl
  rw [reached, textKey, if_neg (by simp)]
  rfl

theorem key_enter_auxiliary (focus : f.focus = .auxiliary) :
    f.key draft columns (.plain .enter) = (.save, f) := by
  simp [key, Key.plain, focus, textKey]

end Form

theorem cursorDown_succ {cursor count : Nat} (h : cursor + 1 < count) :
    cursorDown cursor count = cursor + 1 := if_pos h

/-! ### The editor on the way to a mapping -/

namespace Editor

/-- The editor while the first lookup of a new draft runs. -/
def awaiting (e : Editor) (column : String) : Editor :=
  { e with
    lastToken := e.lastToken + 1
    inFlight := some ⟨e.lastToken + 1⟩
    draft := { column := some column, isLoading := true, token := some ⟨e.lastToken + 1⟩ } }

/-- The editor when that lookup has brought its values. -/
def offering (e : Editor) (column : String) (values : List Value) : Editor :=
  { e with
    lastToken := e.lastToken + 1
    inFlight := none
    draft := {
      column := some column
      suggestions := values.map .ofValue
      token := some ⟨e.lastToken + 1⟩ } }

/-- The editor with another note in its draft. -/
def noted (e : Editor) (note : String) : Editor :=
  { e with draft := { e.draft with auxiliary := note } }

/-- The editor when one of the values has been chosen and a note written. -/
def completed (e : Editor) (column : String) (values : List Value) (value : Value) (note : String) :
    Editor :=
  { e.offering column values with
    draft := { (e.offering column values).draft with value := some value, auxiliary := note } }

theorem noted_noted (e : Editor) (a b : String) : (e.noted a).noted b = e.noted b := rfl

variable {e : Editor} {column : String}

theorem selectColumn_eq_awaiting (opened : e.isOpen = true) (draft : e.draft = {})
    (resting : e.inFlight = none) (looks : e.dataSource.supportsLookup = true)
    (named : column ≠ "") :
    e.selectColumn column = ⟨true, e.awaiting column,
      [note .debug ("Looking up values for '" ++ column ++ "' (request "
        ++ toString (e.lastToken + 1) ++ ")"), .start ⟨e.lastToken + 1⟩ column]⟩ := by
  simp [selectColumn, awaiting, cancelInFlight, opened, draft, resting, looks, named]

theorem applyLookup_awaiting (opened : e.isOpen = true) (column : String) (values : List Value) :
    ∃ line, (e.awaiting column).applyLookup
        ⟨⟨e.lastToken + 1⟩, column, .loaded (values.map .ofValue)⟩ =
      ⟨true, e.offering column values, [.log line]⟩ := by
  simp [applyLookup, awaiting, offering, note, opened]

variable {values : List Value} {value : Value}

theorem selectSuggestion_offering (opened : e.isOpen = true) {i : Nat}
    (offered : values[i]? = some value) :
    (e.offering column values).selectSuggestion i =
      ⟨true, e.completed column values value "", []⟩ := by
  simp [selectSuggestion, offering, completed, opened, offered, Suggestion.ofValue]

theorem noted_completed (a b : String) :
    (e.completed column values value a).noted b = e.completed column values value b := rfl

theorem canCommit_completed (opened : e.isOpen = true) (named : column ≠ "") (note : String) :
    (e.completed column values value note).canCommit = true := by
  simp [canCommit, completed, offering, opened, named]

theorem saved_completed (note : String) :
    (e.completed column values value note).saved = e.mappings ++ [⟨column, value.stored, note⟩] :=
  saved_of_new rfl

end Editor

/-! ### The program on the way to a mapping -/

namespace Desk

/-- A key that is pressed so many times. -/
def presses (code : KeyCode) (times : Nat) : List Event :=
  List.replicate times (.key (.plain code))

/-- The characters of a text, one by one. -/
def typing (text : String) : List Event := text.toList.map fun c => .key (.plain (.char c))

/-- The lookup runs, is answered with the values and ends, and its message is delivered. -/
def answering (x : Token) (values : List Value) (notices : Bool) (place : Nat) : List Event :=
  [.lookup (.call x), .lookup (.answer x (.ok values)), .lookup (.finish x notices), .deliver place]

/-- What there is in the program while a draft is made: the editor and the form, no window above
them, and the lookups. -/
structure Stands (d : Desk) (e : Editor) (t : Traffic) (f : Form) : Prop where
  editor : d.app.editor = e
  traffic : d.traffic.unlogged = t.unlogged
  form : d.app.form = f
  uncovered : d.app.overlay = none

namespace Stands

variable {d : Desk} {e : Editor} {t : Traffic} {f : Form}

theorem key_eq (h : d.Stands e t f) (opened : e.isOpen = true) {code : KeyCode} {action : Action}
    {g : Form} (asks : f.key e.draft e.dataSource.columns (.plain code) = (action, g)) :
    d.step (.key (.plain code)) = d.after ({ d.app with form := g }.act action) := by
  obtain ⟨rfl, -, rfl, uncovered⟩ := h
  have reached := App.key_in_form (k := .plain code) uncovered rfl opened
  simp only [asks] at reached
  rw [step, reached]

/-- A key that only moves in the form. -/
theorem move (h : d.Stands e t f) (opened : e.isOpen = true) {code : KeyCode} {g : Form}
    (asks : f.key e.draft e.dataSource.columns (.plain code) = (.none, g)) :
    (d.step (.key (.plain code))).Stands e t g := by
  rw [h.key_eq opened asks]
  exact ⟨h.editor, h.traffic, rfl, h.uncovered⟩

/-- A key that performs an operation of the editor. -/
theorem perform (h : d.Stands e t f) (opened : e.isOpen = true) {code : KeyCode} {action : Action}
    {g : Form} (asks : f.key e.draft e.dataSource.columns (.plain code) = (action, g))
    (op : Operation) (acts : ∀ a : App, a.act action = a.perform op) :
    (d.step (.key (.plain code))).Stands (e.perform op).editor
      (t.absorbAll (e.perform op).effects) g := by
  rw [h.key_eq opened asks, acts, App.perform, h.editor]
  exact ⟨rfl, Traffic.unlogged_absorbAll h.traffic _, rfl, h.uncovered⟩

theorem lookup (h : d.Stands e t f) (st : Traffic.Step) :
    (d.step (.lookup st)).Stands e (t.step st) f :=
  ⟨h.editor, Traffic.unlogged_step h.traffic st, h.form, h.uncovered⟩

/-- A message that the draft waits for brings its values, and the cursor goes to the first. -/
theorem deliver (h : d.Stands e t f) (place : Nat) {m : Settled}
    (there : t.queue[place]? = some m) (taken : (e.applyLookup m).accepted = true) :
    (d.step (.deliver place)).Stands (e.applyLookup m).editor
      ({ t with queue := t.queue.eraseIdx place }.absorbAll (e.applyLookup m).effects)
      f.resetSuggestions := by
  obtain ⟨rfl, traffic, rfl, uncovered⟩ := h
  have queue : d.traffic.queue = t.queue := congrArg (·.queue) traffic
  have rest : ({ d.traffic with queue := t.queue.eraseIdx place } : Traffic).unlogged =
      ({ t with queue := t.queue.eraseIdx place } : Traffic).unlogged :=
    congrArg (fun u : Traffic => { u with queue := t.queue.eraseIdx place }) traffic
  simp only [step, queue, there, App.settle, taken, if_true]
  exact ⟨rfl, Traffic.unlogged_absorbAll rest _, rfl, uncovered⟩

/-- From the main screen a key opens the popover on an empty draft. -/
theorem of_idle {d : Desk} (closed : d.app.editor.isOpen = false)
    (uncovered : d.app.overlay = none) :
    (d.step (.key (.plain (.char 'a')))).Stands
      { d.app.editor with isOpen := true, draft := {} } d.traffic {} := by
  have opens : d.app.key (.plain (.char 'a')) = d.app.openNew := by
    simp [App.key, Key.plain, uncovered, closed, App.mainKey]
  rw [step, opens, App.openNew, Editor.openNew, closed]
  exact ⟨rfl, rfl, rfl, uncovered⟩

/-! ### Many keys -/

/-- A key that only moves in the form, pressed again and again. -/
theorem moves {code : KeyCode} {times : Nat} (g : Nat → Form) (h : d.Stands e t (g 0))
    (opened : e.isOpen = true)
    (asks : ∀ n < times,
      (g n).key e.draft e.dataSource.columns (.plain code) = (.none, g (n + 1))) :
    (d.run (presses code times)).Stands e t (g times) := by
  induction times generalizing d g with
  | zero => exact h
  | succ n ih =>
    have first := h.move opened (asks 0 (Nat.succ_pos n))
    exact ih (fun m => g (m + 1)) first fun m hm => asks (m + 1) (Nat.succ_lt_succ hm)

theorem downs_column (h : d.Stands e t f) (opened : e.isOpen = true) (focus : f.focus = .column)
    {times : Nat} (inside : f.columnCursor + times < e.dataSource.columns.length) :
    (d.run (presses .down times)).Stands e t
      { f with columnCursor := f.columnCursor + times } := by
  refine moves (fun n => { f with columnCursor := f.columnCursor + n }) h opened ?_
  intro n hn
  refine (Form.key_down_column (f := { f with columnCursor := f.columnCursor + n }) focus).trans ?_
  rw [cursorDown_succ (by simp only; omega)]
  rfl

theorem downs_value (h : d.Stands e t f) (opened : e.isOpen = true) (focus : f.focus = .value)
    {times : Nat} (inside : f.suggestionCursor + times < e.draft.suggestions.length) :
    (d.run (presses .down times)).Stands e t
      { f with suggestionCursor := f.suggestionCursor + times } := by
  refine moves (fun n => { f with suggestionCursor := f.suggestionCursor + n }) h opened ?_
  intro n hn
  refine (Form.key_down_value
    (f := { f with suggestionCursor := f.suggestionCursor + n }) focus).trans ?_
  rw [cursorDown_succ (by simp only; omega)]
  rfl

/-- Characters typed as a note go to the end of it. -/
theorem typed (h : d.Stands e t f) (opened : e.isOpen = true) (focus : f.focus = .auxiliary)
    (text : List Char) :
    (d.run (text.map fun c => .key (.plain (.char c)))).Stands
      (e.noted (e.draft.auxiliary ++ String.ofList text)) t f := by
  induction text generalizing d e with
  | nil => simpa [Editor.noted] using h
  | cons c text ih =>
    have set := h.perform opened (Form.key_char_auxiliary focus c)
      (.setAuxiliary (e.draft.auxiliary.push c)) fun _ => rfl
    have reply : e.perform (.setAuxiliary (e.draft.auxiliary.push c)) =
        ⟨true, e.noted (e.draft.auxiliary.push c), []⟩ := by
      simp [Editor.perform, Editor.setAuxiliary, Editor.noted, opened]
    have text_eq : e.draft.auxiliary.push c ++ String.ofList text =
        e.draft.auxiliary ++ String.ofList (c :: text) := by
      rw [← String.toList_inj]
      simp
    rw [reply] at set
    rw [← text_eq, ← e.noted_noted (e.draft.auxiliary.push c)]
    exact ih set opened

/-- The enter key in the field for the note saves. -/
theorem saved (h : d.Stands e t f) (opened : e.isOpen = true) (focus : f.focus = .auxiliary)
    (possible : e.canCommit = true) :
    let left := d.step (.key (.plain .enter))
    left.app.editor = e.commit.editor ∧
      left.app.selected = e.draft.editing.getD e.mappings.length ∧
      left.traffic.changes = t.changes ++ [e.saved] := by
  have pressed := h.key_eq opened (Form.key_enter_auxiliary focus)
  obtain ⟨rfl, traffic, rfl, -⟩ := h
  have changes : d.traffic.changes = t.changes := congrArg (·.changes) traffic
  rcases d.app.save_cases with spared | ⟨-, editor, told, selected⟩
  · -- A save that is possible does not spare the list.
    have told := spared.untold
    rw [App.save, d.app.editor.changesOf_commit possible] at told
    cases told
  · rw [pressed]
    refine ⟨editor, selected, ?_⟩
    rw [after, Traffic.changes_absorbAll, changes]
    exact congrArg (t.changes ++ ·) told

end Stands

end Desk

/-! ### A lookup that is answered -/

namespace Traffic

theorem task?_update (t : Traffic) (x : Token) {g : Task → Task} (h : ∀ k, (g k).token = k.token) :
    (t.update x g).task? x = (t.task? x).map g := by
  have kept : ((fun k : Task => k.token == x) ∘ fun k => if k.token == x then g k else k) =
      fun k => k.token == x := by
    funext k
    simp only [Function.comp]
    split
    · rw [h]
    · rfl
  simp only [task?, update, List.find?_map, kept]
  cases found : t.tasks.find? fun k => k.token == x with
  | none => rfl
  | some k =>
    have same : k.token = x := (task?_some found).2
    simp [same]

/-- A new lookup runs, is answered and ends: it leaves one message with the values. -/
theorem answered (t : Traffic) {x : Token} {column : String}
    (new : t.task? x = some { token := x, column }) (values : List Value) (notices : Bool) :
    let u := ((t.call x).answer x (.ok values)).finish x notices
    u.queue = t.queue ++ [⟨x, column, .loaded (values.map .ofValue)⟩] ∧ u.changes = t.changes := by
  intro u
  have called : (t.call x).task? x = some { token := x, column, isCalled := true } := by
    have h := t.task?_update x (g := fun k => { k with isCalled := true }) fun _ => rfl
    rw [new] at h
    simp only [call, new]
    exact h
  have brought : ((t.call x).answer x (.ok values)).task? x =
      some { token := x, column, isCalled := true, answer := some (.ok values) } := by
    have h := (t.call x).task?_update x
      (g := fun k => if k.isCalled && k.answer.isNone then { k with answer := some (.ok values) }
        else k) fun k => by split <;> rfl
    rw [called] at h
    exact h
  have ended : u.queue = ((t.call x).answer x (.ok values)).queue ++
      [⟨x, column, .loaded (values.map .ofValue)⟩] := by
    simp [u, finish, brought, Lookup.settle?, Lookup.suggestionsOf]
  refine ⟨by rw [ended, queue_answer, queue_call], ?_⟩
  exact (changes_step _ (.finish x notices)).trans
    ((changes_step _ (.answer x (.ok values))).trans (t.changes_step (.call x)))

end Traffic

/-! ### From the main screen to the committed list -/

namespace Desk

/-- In a program that runs, the table stays, nothing is in flight while the popover is closed, and
no lookup has the next token. -/
theorem resting_run (dataSource : DataSource) (source : String) (initial : List Mapping)
    (log : Log.Buffer) (events : List Event) :
    let d := (start dataSource source initial log).run events
    d.app.editor.isOpen = false →
      d.app.editor.dataSource = dataSource ∧ d.app.editor.inFlight = none ∧
        d.traffic.task? ⟨d.app.editor.lastToken + 1⟩ = none := by
  intro d closed
  obtain ⟨matching, shown⟩ := shows_run (shows_start dataSource source initial log) events
  have tracked := World.tracked_run (World.tracked_start dataSource source initial) matching
  rw [World.Tracked, shown.editor, shown.tasks] at tracked
  refine ⟨?_, tracked.inFlight_of_closed closed, ?_⟩
  · refine editor_run (P := fun e => e.dataSource = dataSource) ?_ ?_ rfl events
    · exact fun e op same => (e.dataSource_perform op).trans same
    · intro e m same
      rcases e.applyLookup_cases m with ⟨-, -, kept⟩ | ⟨-, unchanged⟩
      · exact kept.trans same
      · exact (congrArg Editor.dataSource unchanged).trans same
  · rw [Traffic.task?, List.find?_eq_none]
    intro k hk same
    exact tracked.nextToken_not_mem (mem_outstanding.mpr (.inl ⟨k, hk, of_decide_eq_true same⟩))

variable {d : Desk} {e : Editor} {t : Traffic} {f : Form} {column : String} {values : List Value}
  {value : Value}

/-- The enter key on a column starts its lookup. -/
theorem Stands.choose (h : d.Stands e t f) (opened : e.isOpen = true) (draft : e.draft = {})
    (resting : e.inFlight = none) (unused : t.task? ⟨e.lastToken + 1⟩ = none)
    (looks : e.dataSource.supportsLookup = true) (focus : f.focus = .column)
    (row : e.dataSource.columns[f.columnCursor]? = some column) (named : column ≠ "") :
    ∃ u : Traffic, u.task? ⟨e.lastToken + 1⟩ = some { token := ⟨e.lastToken + 1⟩, column } ∧
      u.queue = t.queue ∧ u.changes = t.changes ∧
      (d.step (.key (.plain .enter))).Stands (e.awaiting column) u
        { f with focus := .value, suggestionCursor := 0 } := by
  have entered := h.perform opened (Form.key_enter_column focus row) (.selectColumn column)
    fun _ => rfl
  rw [Editor.perform, Editor.selectColumn_eq_awaiting opened draft resting looks named] at entered
  refine ⟨_, ?_, Traffic.queue_absorbAll _ _, ?_, entered⟩
  · have before : t.tasks.find? (fun k => k.token == ⟨e.lastToken + 1⟩) = none := unused
    simp [Traffic.task?, Traffic.absorb, Editor.note, List.find?_append, before]
  · exact (t.changes_absorbAll _).trans (List.append_nil _)

/-- The lookup brings its values. -/
theorem Stands.answer (h : d.Stands (e.awaiting column) t f) (opened : e.isOpen = true)
    (new : t.task? ⟨e.lastToken + 1⟩ = some { token := ⟨e.lastToken + 1⟩, column })
    (values : List Value) (notices : Bool) :
    ∃ u : Traffic, u.changes = t.changes ∧
      (d.run (answering ⟨e.lastToken + 1⟩ values notices t.queue.length)).Stands
        (e.offering column values) u f.resetSuggestions := by
  obtain ⟨queue, changes⟩ := t.answered new values notices
  have ended := ((h.lookup (.call ⟨e.lastToken + 1⟩)).lookup
    (.answer ⟨e.lastToken + 1⟩ (.ok values))).lookup (.finish ⟨e.lastToken + 1⟩ notices)
  obtain ⟨line, taken⟩ := Editor.applyLookup_awaiting opened column values
  have delivered := ended.deliver t.queue.length
    (m := ⟨⟨e.lastToken + 1⟩, column, .loaded (values.map .ofValue)⟩)
    (by simp only [Traffic.step, queue]; simp) (by rw [taken])
  rw [taken] at delivered
  refine ⟨_, ?_, delivered⟩
  exact changes

/-- One of the values is chosen, a note is typed, and the draft is saved. -/
theorem Stands.complete {j i : Nat} (h : d.Stands (e.offering column values) t ⟨.value, j, 0⟩)
    (opened : e.isOpen = true) (named : column ≠ "") (offered : values[i]? = some value)
    (note : String) :
    let left := d.run (presses .down i ++ .key (.plain .enter) :: typing note ++
      [.key (.plain .enter)])
    let added := e.mappings ++ [⟨column, value.stored, note⟩]
    left.app.editor.isOpen = false ∧ left.app.editor.mappings = added ∧
      left.app.selected = e.mappings.length ∧ left.traffic.changes = t.changes ++ [added] := by
  intro left added
  have inside : i < (e.offering column values).draft.suggestions.length := by
    simpa [Editor.offering] using (List.getElem?_eq_some_iff.mp offered).1
  have moved := h.downs_value opened rfl (by simpa using inside)
  rw [Nat.zero_add] at moved
  have picked := moved.perform opened (Form.key_enter_value rfl rfl inside) (.selectSuggestion i)
    fun _ => rfl
  rw [Editor.perform, Editor.selectSuggestion_offering opened offered] at picked
  have written : (((d.run (presses .down i)).step (.key (.plain .enter))).run (typing note)).Stands
      ((e.completed column values value "").noted ("" ++ String.ofList note.toList)) t
      ⟨.auxiliary, j, i⟩ := picked.typed opened rfl note.toList
  rw [String.ofList_toList, String.empty_append, Editor.noted_completed] at written
  have whole : left = (((d.run (presses .down i)).step (.key (.plain .enter))).run
      (typing note)).step (.key (.plain .enter)) := by
    simp [left, run_append]
  have possible : (e.completed column values value note).canCommit = true :=
    Editor.canCommit_completed opened named note
  obtain ⟨editor, selected, changes⟩ := written.saved opened rfl possible
  rw [Editor.editor_commit _ possible, Editor.saved_completed] at editor
  rw [Editor.saved_completed] at changes
  rw [whole]
  exact ⟨congrArg Editor.isOpen editor, congrArg Editor.mappings editor, selected, changes⟩

/-- With the popover closed and no window open: a new mapping is asked for, a column is chosen, its
lookup is answered and delivered, one of the values is chosen, and a note is typed. Then the list
has got that mapping at its end and no other change, the highlight is on it, the parent form has
been told once, and the popover is closed. -/
theorem keys_add_mapping (dataSource : DataSource) (source : String) (initial : List Mapping)
    (log : Log.Buffer) (before : List Event) (looks : dataSource.supportsLookup = true)
    (j i : Nat) (column : String) (values : List Value) (value : Value)
    (row : dataSource.columns[j]? = some column) (named : column ≠ "")
    (offered : values[i]? = some value) (note : String) (notices : Bool) (d : Desk)
    (reached : (start dataSource source initial log).run before = d)
    (idle : d.app.editor.phase = .idle) (uncovered : d.app.overlay = none) :
    let left := d.run (.key (.plain (.char 'a')) :: presses .down j ++ .key (.plain .enter) ::
      answering ⟨d.app.editor.lastToken + 1⟩ values notices d.traffic.queue.length ++
      (presses .down i ++ .key (.plain .enter) :: typing note ++ [.key (.plain .enter)]))
    let added := d.app.editor.mappings ++ [⟨column, value.stored, note⟩]
    left.app.editor.isOpen = false ∧ left.app.editor.mappings = added ∧
      left.app.selected = d.app.editor.mappings.length ∧
      left.traffic.changes = d.traffic.changes ++ [added] := by
  intro left added
  have closed := (Editor.phase_eq_idle _).mp idle
  obtain ⟨data, resting, unused⟩ :=
    resting_run dataSource source initial log before (reached ▸ closed)
  rw [reached] at data resting unused
  have opened := Stands.of_idle closed uncovered
  have inside : j < d.app.editor.dataSource.columns.length := by
    rw [data]
    exact (List.getElem?_eq_some_iff.mp row).1
  have moved := opened.downs_column rfl rfl (by simpa using inside)
  rw [Nat.zero_add] at moved
  obtain ⟨t, new, queue, changes, chosen⟩ := moved.choose rfl rfl resting unused (data ▸ looks) rfl
    (by rw [data]; exact row) named
  obtain ⟨u, kept, answered⟩ := chosen.answer rfl new values notices
  have completed := answered.complete rfl named offered note
  have whole : left = ((((d.step (.key (.plain (.char 'a')))).run (presses .down j)).step
      (.key (.plain .enter))).run
        (answering ⟨d.app.editor.lastToken + 1⟩ values notices d.traffic.queue.length)).run
          (presses .down i ++ .key (.plain .enter) :: typing note ++ [.key (.plain .enter)]) := by
    simp [left, run_append]
  rw [queue, kept, changes] at completed
  rw [whole]
  exact completed

/-- A draft for the first column is left while its lookup runs. -/
def abandoned : List Event :=
  [.key (.plain (.char 'a')), .key (.plain .enter), .lookup (.call ⟨1⟩), .key (.plain .escape)]

/-- After that, the second column gets the second of its values, and a note of two letters that are
commands elsewhere. -/
theorem keys_add_mapping_abandoned :
    let d :=
      (start Lookup.Demo.dataSource "demo" [⟨"region", "north", ""⟩] (.empty 1)).run abandoned
    let left := d.run (.key (.plain (.char 'a')) :: presses .down 1 ++ .key (.plain .enter) ::
      answering ⟨2⟩ [.text "Pune", .number (.int 7)] true 0 ++
      (presses .down 1 ++ .key (.plain .enter) :: typing "qk" ++ [.key (.plain .enter)]))
    left.app.editor.mappings = [⟨"region", "north", ""⟩, ⟨"city", "7", "qk"⟩] ∧
      left.app.selected = 1 ∧
      left.traffic.changes = [[⟨"region", "north", ""⟩, ⟨"city", "7", "qk"⟩]] := by
  intro d
  have reached : (start Lookup.Demo.dataSource "demo" [⟨"region", "north", ""⟩] (.empty 1)).run
    abandoned = d := rfl
  have idle : d.app.editor.phase = .idle := by decide +kernel
  have uncovered : d.app.overlay = none := by decide +kernel
  have token : d.app.editor.lastToken + 1 = 2 := by decide +kernel
  have waiting : d.traffic.queue.length = 0 := by decide +kernel
  have kept : d.app.editor.mappings = [⟨"region", "north", ""⟩] := by decide +kernel
  have told : d.traffic.changes = [] := by decide +kernel
  have stored : (Value.number (.int 7)).stored = "7" := by decide +kernel
  clear_value d
  have h := keys_add_mapping Lookup.Demo.dataSource "demo" [⟨"region", "north", ""⟩] (.empty 1)
    abandoned rfl 1 1 "city" [.text "Pune", .number (.int 7)] (.number (.int 7)) rfl (by decide)
    rfl "qk" true d reached idle uncovered
  rw [token, waiting, kept, told, stored] at h
  exact h.2

end Desk

end ColumnMap
