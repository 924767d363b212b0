import ColumnMap.Lookup.Demo
import ColumnMap.Proofs.App.Desk
import ColumnMap.Proofs.Editor.Changes
import ColumnMap.Proofs.Editor.Loading
import ColumnMap.Proofs.Editor.Suggestions
import ColumnMap.Screen.Popover
import Mathlib.Tactic.SplitIfs

/-!
The cursors of the form stand on rows of its lists, however keys, operations and messages take
turns. So the value that the popover highlights is the one that a key picks.
-/

namespace ColumnMap

open Console Screen

/-! ### The form -/

theorem cursorUp_le (cursor : Nat) : cursorUp cursor ≤ cursor := Nat.sub_le cursor 1

theorem cursorDown_lt {cursor count : Nat} (h : cursor < count) :
    cursorDown cursor count < count := by
  unfold cursorDown
  split
  · assumption
  · exact h

namespace Form

/-- The cursors stand on rows of their lists. The one of the values may be left over from a longer
list if there are no values. -/
structure Fits (f : Form) (columns : List String) (suggestions : List Suggestion) : Prop where
  column : f.columnCursor < columns.length ∨ columns = [] ∧ f.columnCursor = 0
  suggestion : suggestions = [] ∨ f.suggestionCursor < suggestions.length

variable {f : Form} {columns : List String} {suggestions : List Suggestion}

theorem Fits.reset (h : f.Fits columns suggestions) (others : List Suggestion) :
    f.resetSuggestions.Fits columns others where
  column := h.column
  suggestion := by cases others <;> simp [resetSuggestions]

theorem Fits.focus (h : f.Fits columns suggestions) (field : Field) :
    { f with focus := field }.Fits columns suggestions := ⟨h.column, h.suggestion⟩

theorem Fits.columnKey (h : f.Fits columns suggestions) (code : KeyCode) :
    (f.columnKey columns code).2.Fits columns suggestions := by
  unfold Form.columnKey
  split
  case h_1 | h_2 =>
    refine ⟨?_, h.suggestion⟩
    rcases h.column with inside | ⟨empty, first⟩
    · exact .inl (Nat.lt_of_le_of_lt (cursorUp_le _) inside)
    · exact .inr ⟨empty, by simp [cursorUp, first]⟩
  case h_3 | h_4 =>
    refine ⟨?_, h.suggestion⟩
    rcases h.column with inside | ⟨empty, first⟩
    · exact .inl (cursorDown_lt inside)
    · exact .inr ⟨empty, by simp [cursorDown, empty, first]⟩
  case h_5 | h_6 =>
    split
    · exact (h.reset suggestions).focus .value
    · exact h
  all_goals exact h

theorem Fits.valueKey {draft : Draft} (h : f.Fits columns draft.suggestions) (code : KeyCode) :
    (f.valueKey draft code).2.Fits columns draft.suggestions := by
  unfold Form.valueKey
  split
  case h_1 | h_2 =>
    exact ⟨h.column, h.suggestion.imp_right (Nat.lt_of_le_of_lt (cursorUp_le _))⟩
  case h_3 | h_4 => exact ⟨h.column, h.suggestion.imp_right cursorDown_lt⟩
  case h_5 | h_6 =>
    split
    · exact h
    · exact h.focus .auxiliary
  all_goals exact h

theorem textKey_form (f : Form) (text : String) (set : String → Action) (code : KeyCode) :
    (f.textKey text set code).2 = f := by
  unfold textKey
  split
  · rfl
  · split <;> rfl

theorem Fits.key {draft : Draft} (h : f.Fits columns draft.suggestions) (k : Key) :
    (f.key draft columns k).2.Fits columns draft.suggestions := by
  unfold Form.key
  split
  · exact h
  · split
    · exact h
    · exact h.focus _
    · exact h.focus _
    · split
      · exact h.columnKey _
      · exact h.valueKey _
      · rwa [textKey_form]
      · rwa [textKey_form]

/-! ### What a key asks for -/

/-- The keys that save: control with the letter s, and enter in a text field. -/
def Saves (f : Form) (k : Key) : Prop :=
  k.ctrl = true ∧ k.code = .char 's' ∨
    k.ctrl = false ∧ k.code = .enter ∧ (f.focus = .custom ∨ f.focus = .auxiliary)

/-- The actions that a key can ask for, and what must hold for each. -/
inductive Asks (f : Form) (draft : Draft) (columns : List String) (k : Key) : Action → Prop
  | nothing : Asks f draft columns k .none
  | close (code : k.code = .escape) : Asks f draft columns k .close
  | save (saves : f.Saves k) : Asks f draft columns k .save
  | selectColumn (column : String) (focus : f.focus = .column)
      (row : columns[f.columnCursor]? = some column) :
      Asks f draft columns k (.selectColumn column)
  | clearColumn (focus : f.focus = .column) : Asks f draft columns k .clearColumn
  | pickSuggestion (focus : f.focus = .value) (loaded : draft.isLoading = false)
      (inside : f.suggestionCursor < draft.suggestions.length) :
      Asks f draft columns k (.pickSuggestion f.suggestionCursor)
  | setTyped (text : String) (focus : f.focus = .custom)
      (edited : editText k.code draft.typed = some text) : Asks f draft columns k (.setTyped text)
  | setAuxiliary (text : String) (focus : f.focus = .auxiliary)
      (edited : editText k.code draft.auxiliary = some text) :
      Asks f draft columns k (.setAuxiliary text)

theorem asks_columnKey {draft : Draft} {k : Key} (focus : f.focus = .column) :
    f.Asks draft columns k (f.columnKey columns k.code).1 := by
  unfold columnKey
  split
  case h_5 | h_6 =>
    split
    · next column row => exact .selectColumn column focus row
    · exact .nothing
  case h_7 | h_8 => exact .clearColumn focus
  all_goals exact .nothing

theorem asks_valueKey {draft : Draft} {k : Key} (focus : f.focus = .value) :
    f.Asks draft columns k (f.valueKey draft k.code).1 := by
  unfold valueKey
  split
  case h_5 | h_6 =>
    split
    · exact .nothing
    · next loaded =>
      simp only [Bool.or_eq_true, decide_eq_true_eq, not_or, Bool.not_eq_true, Nat.not_le] at loaded
      exact .pickSuggestion focus loaded.1 loaded.2
  all_goals exact .nothing

theorem asks_textKey {draft : Draft} {k : Key} {text : String} {set : String → Action}
    (saves : k.code = .enter → f.Saves k)
    (sets : ∀ changed, editText k.code text = some changed → f.Asks draft columns k (set changed)) :
    f.Asks draft columns k (f.textKey text set k.code).1 := by
  unfold textKey
  split
  · next enter => exact .save (saves enter)
  · split
    · next changed edited => exact sets changed edited
    · exact .nothing

theorem asks_key (f : Form) (draft : Draft) (columns : List String) (k : Key) :
    f.Asks draft columns k (f.key draft columns k).1 := by
  unfold key
  split
  · next ctrl =>
    split
    · next letter => exact .save (.inl ⟨ctrl, letter⟩)
    · exact .nothing
  · next ctrl =>
    rw [Bool.not_eq_true] at ctrl
    split
    · next escape => exact .close escape
    · exact .nothing
    · exact .nothing
    · split
      · next focus => exact asks_columnKey focus
      · next focus => exact asks_valueKey focus
      · next focus =>
        exact asks_textKey (fun enter => .inr ⟨ctrl, enter, .inl focus⟩)
          fun text edited => .setTyped text focus edited
      · next focus =>
        exact asks_textKey (fun enter => .inr ⟨ctrl, enter, .inr focus⟩)
          fun text edited => .setAuxiliary text focus edited

theorem saves_of_key {draft : Draft} {k : Key} (h : (f.key draft columns k).1 = .save) :
    f.Saves k := by
  have asks := f.asks_key draft columns k
  rw [h] at asks
  cases asks with
  | save saves => exact saves

end Form

/-! ### The editor -/

namespace Selection

end Selection

namespace Editor

theorem dataSource_selectColumn (e : Editor) (c : String) :
    (e.selectColumn c).editor.dataSource = e.dataSource := by
  simp only [selectColumn, refuse]
  split
  · rfl
  · split <;> rfl

theorem dataSource_setTyped (e : Editor) (text : String) :
    (e.setTyped text).editor.dataSource = e.dataSource := by
  unfold setTyped
  split <;> rfl

/-- The data source stays. -/
theorem dataSource_perform (e : Editor) (op : Operation) :
    (e.perform op).editor.dataSource = e.dataSource := by
  cases op with
  | openNew =>
    simp only [perform, openNew, refuse]
    split <;> rfl
  | edit index =>
    simp only [perform, edit, refuse]
    split
    · rfl
    · split
      · rfl
      · next m _ =>
        have hs := (e.openedOn index).dataSource_selectColumn m.column
        split
        · exact hs
        · exact (dataSource_setTyped _ _).trans hs
  | selectColumn c => exact e.dataSource_selectColumn c
  | setTyped text => exact e.dataSource_setTyped text
  | selectSuggestion index =>
    simp only [perform, selectSuggestion, refuse]
    split
    · rfl
    · split <;> rfl
  | setAuxiliary text =>
    simp only [perform, setAuxiliary, refuse]
    split <;> rfl
  | commit =>
    simp only [perform, commit, refuse]
    split <;> rfl
  | close =>
    simp only [perform, close, refuse]
    split <;> rfl
  | remove index =>
    simp only [perform, remove, refuse]
    split <;> rfl

/-- A message brings suggestions and is taken in, or it changes nothing. -/
theorem applyLookup_cases (e : Editor) (m : Settled) :
    (e.applyLookup m).accepted = true ∧ e.isOpen = true ∧
        (e.applyLookup m).editor.dataSource = e.dataSource ∨
      (e.applyLookup m).accepted = false ∧ (e.applyLookup m).editor = e := by
  unfold applyLookup
  split
  · exact .inr ⟨rfl, rfl⟩
  · next awaited =>
    simp only [Bool.or_eq_true, Bool.not_eq_true', not_or, Bool.not_eq_false] at awaited
    split
    · exact .inr ⟨rfl, rfl⟩
    · exact .inl ⟨rfl, awaited.1, rfl⟩

end Editor

/-! ### What is drawn -/

namespace Screen.Popover

variable {a : App}

theorem placeholder?_eq_none (column : a.editor.draft.column ≠ none)
    (loaded : a.editor.draft.isLoading = false) (looks : a.editor.dataSource.supportsLookup = true)
    (listed : a.editor.draft.suggestions ≠ []) : placeholder? a = none := by
  simp [placeholder?, column, loaded, looks, listed]

theorem loaded_of_placeholder? (h : placeholder? a = none) :
    a.editor.draft.isLoading = false := by
  rw [← Bool.not_eq_true]
  intro loading
  simp only [placeholder?, loading, if_true] at h
  split_ifs at h

end Screen.Popover

/-! ### The program -/

namespace App

variable {a b : App}

/-- With the popover open and no window above it a key goes to the form. -/
theorem key_in_form {k : Key} (overlay : a.overlay = none) (press : k.kind = .press)
    (opened : a.editor.isOpen = true) :
    let r := a.form.key a.editor.draft a.editor.dataSource.columns k
    a.key k = { a with form := r.2 }.act r.1 := by
  simp [key, overlay, press, opened]

end App

namespace Desk

/-- Values are on view only for a selected column of a data source with lookups. -/
theorem listed (dataSource : DataSource) (source : String) (initial : List Mapping)
    (log : Log.Buffer) (events : List Event) :
    let e := ((start dataSource source initial log).run events).app.editor
    e.draft.suggestions ≠ [] →
      e.isOpen = true ∧ e.draft.column ≠ none ∧ e.dataSource.supportsLookup = true := by
  intro e shown
  obtain ⟨matching, editor, -⟩ := shows_run (shows_start dataSource source initial log) events
  have first := World.tracked_start dataSource source initial
  have tracked := World.tracked_run first matching
  have recorded :=
    World.recorded_run first (World.recorded_start dataSource source initial) matching
  rw [show e = _ from editor.symm] at shown ⊢
  obtain ⟨opened, _, c, _, column, -⟩ := World.shown_recorded tracked recorded shown
  refine ⟨opened, by simp [column], ?_⟩
  by_contra unasked
  rw [Bool.not_eq_true] at unasked
  exact shown (recorded.unasked unasked)

end Desk

end ColumnMap
