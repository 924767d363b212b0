import ColumnMap.Proofs.App.Cursor

/-!
The value that saving would store is on display: in the field for free text, in the list of values,
or beside them as a value that the list does not have. There is one exception. While the values of
the selected column are loaded once more, their list is not drawn, but a value in it still counts
as shown.
-/

namespace ColumnMap

open Screen

/-! ### Typed text -/

namespace Draft

/-- A text that was typed is the value. -/
def Coherent (d : Draft) : Prop := d.typed ≠ "" → d.value = some (.text d.typed)

variable {d : Draft}

theorem Coherent.congr {d' : Draft} (h : d.Coherent) (typed : d'.typed = d.typed)
    (value : d'.value = d.value) : d'.Coherent := by
  intro written
  rw [typed] at written
  rw [typed, value]
  exact h written

theorem coherent_of_untyped (h : d.typed = "") : d.Coherent := fun written => absurd h written

end Draft

namespace Editor

theorem coherent_selectColumn {e : Editor} (h : e.draft.Coherent) (c : String) :
    (e.selectColumn c).editor.draft.Coherent := by
  simp only [selectColumn, refuse]
  split
  · exact h
  · split
    · exact h.congr rfl rfl
    · exact h.congr rfl rfl

theorem coherent_setTyped {e : Editor} (h : e.draft.Coherent) (text : String) :
    (e.setTyped text).editor.draft.Coherent := by
  simp only [setTyped, refuse]
  split
  · exact h
  · intro written
    have full : text.isEmpty = false := by simpa using written
    simp [full]

theorem coherent_edit {e : Editor} (h : e.draft.Coherent) (index : Nat) :
    (e.edit index).editor.draft.Coherent := by
  have opened : (e.openedOn index).draft.Coherent := Draft.coherent_of_untyped rfl
  simp only [edit, refuse]
  split
  · exact h
  · split
    · exact h
    · next m _ =>
      have selected := coherent_selectColumn opened m.column
      split
      · exact selected.congr rfl rfl
      · exact (coherent_setTyped selected m.value).congr rfl rfl

theorem coherent_perform {e : Editor} (h : e.draft.Coherent) (op : Operation) :
    (e.perform op).editor.draft.Coherent := by
  cases op with
  | openNew =>
    simp only [perform, openNew, refuse]
    split
    · exact h
    · exact Draft.coherent_of_untyped rfl
  | edit index => exact coherent_edit h index
  | selectColumn c => exact coherent_selectColumn h c
  | selectSuggestion index =>
    simp only [perform, selectSuggestion, refuse]
    split
    · exact h
    · split
      · exact h
      · exact Draft.coherent_of_untyped rfl
  | setTyped text => exact coherent_setTyped h text
  | setAuxiliary text =>
    simp only [perform, setAuxiliary, refuse]
    split
    · exact h
    · exact h.congr rfl rfl
  | commit =>
    simp only [perform, commit, refuse]
    split
    · exact h
    · exact Draft.coherent_of_untyped rfl
  | close =>
    simp only [perform, close, refuse]
    split
    · exact h
    · exact Draft.coherent_of_untyped rfl
  | remove index =>
    simp only [perform, remove, refuse]
    split
    · exact h
    · exact h.congr rfl rfl

theorem coherent_applyLookup {e : Editor} (h : e.draft.Coherent) (m : Settled) :
    (e.applyLookup m).editor.draft.Coherent :=
  h.congr (congrArg (·.draft.typed) (e.outline_applyLookup m))
    (congrArg (·.draft.value) (e.outline_applyLookup m))

end Editor

/-! ### The popover -/

namespace App

variable {a : App} {v : Value}

/-- A value equal to `v` is among the suggestions, whether they are drawn or not. -/
def Offers (a : App) (v : Value) : Prop := ∃ s ∈ a.editor.draft.suggestions, s.value.same v = true

/-- The popover has a place where it shows the value `v` of the draft. -/
inductive Displays (a : App) (v : Value) : Prop
  /-- It is the text of the field for free text. -/
  | typed (written : a.editor.draft.typed ≠ "") (text : v = .text a.editor.draft.typed)
  /-- The values are drawn as a list that has it. -/
  | listed (drawn : Popover.placeholder? a = none) (offered : a.Offers v)
  | unlisted (label : a.unlisted? = some v.label)

/-- The value is one of those that are loaded once more, and was picked. -/
def Hides (a : App) (v : Value) : Prop :=
  a.editor.draft.typed = "" ∧ a.editor.draft.isLoading = true ∧ a.Offers v

theorem unlisted?_eq (value : a.editor.draft.value = some v) (untyped : a.editor.draft.typed = "")
    (unoffered : ¬ a.Offers v) : a.unlisted? = some v.label := by
  have missing : a.editor.draft.suggestions.any (·.value.same v) = false := by
    rw [← Bool.not_eq_true, List.any_eq_true]
    exact unoffered
  simp [unlisted?, value, untyped, missing]

theorem unlisted?_offered (value : a.editor.draft.value = some v) (offered : a.Offers v) :
    a.unlisted? = none := by
  have found : a.editor.draft.suggestions.any (·.value.same v) = true :=
    List.any_eq_true.mpr offered
  simp [unlisted?, value, found]

/-- A value that is offered is drawn in the list, unless the list is being loaded. -/
theorem displays_iff (coherent : a.editor.draft.Coherent)
    (listed : a.editor.draft.suggestions ≠ [] →
      a.editor.draft.column ≠ none ∧ a.editor.dataSource.supportsLookup = true)
    (value : a.editor.draft.value = some v) : a.Displays v ↔ ¬ a.Hides v := by
  constructor
  · rintro shown ⟨untyped, loading, offered⟩
    cases shown with
    | typed written _ => exact written untyped
    | listed drawn _ => exact absurd loading (by simp [Popover.loaded_of_placeholder? drawn])
    | unlisted label => exact absurd label (by simp [unlisted?_offered value offered])
  · intro unhidden
    by_cases untyped : a.editor.draft.typed = ""
    · by_cases offered : a.Offers v
      · have loaded : a.editor.draft.isLoading = false := by
          rw [← Bool.not_eq_true]
          exact fun loading => unhidden ⟨untyped, loading, offered⟩
        have suggested : a.editor.draft.suggestions ≠ [] := by
          obtain ⟨s, mem, -⟩ := offered
          exact List.ne_nil_of_mem mem
        obtain ⟨column, looks⟩ := listed suggested
        exact .listed (Popover.placeholder?_eq_none column loaded looks suggested) offered
      · exact .unlisted (unlisted?_eq value untyped offered)
    · have typed := coherent untyped
      rw [value, Option.some.injEq] at typed
      exact .typed untyped typed

end App

/-! ### What is drawn -/

theorem Decimal.Double.same_comm (a b : Decimal.Double) : a.same b = b.same a := by
  rw [same, same, BEq.comm, Bool.and_comm]

theorem Value.same_comm (v w : Value) : v.same w = w.same v := by
  cases v <;> cases w <;> simp only [same]
  case bool.bool | text.text => exact BEq.comm
  case number.number a b =>
    cases a <;> cases b <;> simp only [Number.same]
    case int.int => exact BEq.comm
    case double.double => exact Decimal.Double.same_comm _ _

namespace Screen.Popover

/-- The value `v` is drawn in one of the three places. -/
inductive Draws (a : App) (v : Value) : Prop
  | typed (text : v = .text a.editor.draft.typed)
      (custom : ∀ c area, drawCustom c area a = drawText c area a .custom a.editor.draft.typed)
  /-- It is a marked row of the list. -/
  | listed (s : Suggestion) (mem : s ∈ a.editor.draft.suggestions) (same : s.value.same v = true)
      (marked : valueRow a s = [⟨"● ", accent⟩, ⟨s.label, foreground⟩])
      (values : ∀ c area, drawValues c area a =
        (fieldPanel c area a .value (valueTitle a)).rows area.inner selection (valueCursor a)
          (a.editor.draft.suggestions.map (valueRow a)))
  /-- Its label stands above the values and in the field for free text. -/
  | unlisted (title : valueTitle a = " Value · selected: " ++ v.label ++ " ")
      (custom : ∀ c area, drawCustom c area a =
        (fieldPanel c area a .custom (fieldTitle .custom)).paragraph area.inner .left
          [[⟨v.label, accent⟩, ⟨" (selected)", muted⟩, ⟨caret a .custom, {}⟩]])

variable {a : App} {v : Value}

/-- What has a place in the popover is drawn there. -/
theorem draws_of_displays (value : a.editor.draft.value = some v) (shown : a.Displays v) :
    Draws a v := by
  cases shown with
  | typed written text =>
    have unlisted : a.unlisted? = none := by simp [App.unlisted?, value, written]
    exact .typed text fun c area => by rw [drawCustom, unlisted]
  | listed drawn offered =>
    obtain ⟨s, mem, same⟩ := offered
    have chosen : v.same s.value = true := by rw [Value.same_comm, same]
    refine .listed s mem same ?_ fun c area => by rw [drawValues, drawn]
    simp [valueRow, value, chosen]
  | unlisted label =>
    refine .unlisted ?_ fun c area => by rw [drawCustom, label]
    simp [valueTitle, label, Field.label]

end Screen.Popover

namespace Desk

/-- In every state that can be reached the value of the draft has a place where the popover draws
it, exactly unless it was picked from values that are now loaded once more. -/
theorem displayed_iff (dataSource : DataSource) (source : String) (initial : List Mapping)
    (log : Log.Buffer) (events : List Event) (v : Value) :
    let a := ((start dataSource source initial log).run events).app
    a.editor.draft.value = some v →
      (a.Displays v ↔ ¬ a.Hides v) ∧ (a.Displays v → Popover.Draws a v) := by
  intro a value
  have coherent : a.editor.draft.Coherent :=
    editor_run (P := fun e => e.draft.Coherent) (fun _ op h => Editor.coherent_perform h op)
      (fun _ m h => Editor.coherent_applyLookup h m) (Draft.coherent_of_untyped rfl) events
  have listed := fun suggested => (listed dataSource source initial log events suggested).2
  exact ⟨App.displays_iff coherent listed value, Popover.draws_of_displays value⟩

/-- A column is selected, its values arrive, and the first of them is picked. -/
def firstPicked : List Event :=
  [.key (.plain (.char 'a')), .key (.plain .enter), .lookup (.call ⟨1⟩),
    .lookup (.answer ⟨1⟩ (.ok [.text "India", .text "France"])), .lookup (.finish ⟨1⟩ true),
    .deliver 0, .key (.plain .enter)]

/-- Then another column is selected. -/
def otherColumn : List Event :=
  firstPicked ++ [.key (.plain .tab), .key (.plain .down), .key (.plain .enter)]

/-- The value is not among the suggestions any more, and is drawn by itself. -/
theorem displayed_iff_otherColumn :
    let a := ((start Lookup.Demo.dataSource "demo" [] (.empty 1)).run otherColumn).app
    a.editor.draft.value = some (.text "India") ∧ a.editor.draft.column = some "city" ∧
      a.Displays (.text "India") ∧ Popover.Draws a (.text "India") := by
  intro a
  have value : a.editor.draft.value = some (.text "India") := by decide +kernel
  obtain ⟨iff, draws⟩ :=
    displayed_iff Lookup.Demo.dataSource "demo" [] (.empty 1) otherColumn (.text "India") value
  have unoffered : ¬ a.Hides (.text "India") := by
    rintro ⟨-, -, s, mem, -⟩
    rw [show a.editor.draft.suggestions = [] by decide +kernel] at mem
    cases mem
  have shown := iff.mpr unoffered
  exact ⟨value, by decide +kernel, shown, draws shown⟩

/-- The same column is selected once more. -/
def sameColumn : List Event := firstPicked ++ [.key (.plain .tab), .key (.plain .enter)]

/-- Until the values arrive again, the value has no place in the popover. -/
theorem not_displayed_sameColumn :
    let a := ((start Lookup.Demo.dataSource "demo" [] (.empty 1)).run sameColumn).app
    a.editor.isOpen = true ∧ a.editor.draft.value = some (.text "India") ∧
      ¬ a.Displays (.text "India") := by
  intro a
  refine ⟨by decide +kernel, by decide +kernel, ?_⟩
  rintro (⟨written, -⟩ | ⟨drawn, -⟩ | label)
  · exact written (by decide +kernel)
  · have loaded := Popover.loaded_of_placeholder? drawn
    exact absurd loaded (by decide +kernel)
  · exact absurd label (by decide +kernel)

end Desk

end ColumnMap
