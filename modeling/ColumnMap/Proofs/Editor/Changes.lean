import ColumnMap.Proofs.Editor.Selection

/-!
What the operations do to the committed list, and what the parent form is told. Only saving and
removing change the list, and each tells the form the whole list that it leaves.
-/

namespace ColumnMap

/-- The lists that effects tell the parent form, in order. -/
def changesOf (effects : List Effect) : List (List Mapping) :=
  effects.filterMap fun
    | .changed l => some l
    | _ => none

@[simp] theorem changesOf_nil : changesOf [] = [] := rfl
@[simp] theorem changesOf_note (level : Log.Level) (message : String) (es : List Effect) :
    changesOf (Editor.note level message :: es) = changesOf es := rfl
@[simp] theorem changesOf_changed (l : List Mapping) (es : List Effect) :
    changesOf (.changed l :: es) = l :: changesOf es := rfl
@[simp] theorem changesOf_start (x : Token) (c : String) (es : List Effect) :
    changesOf (.start x c :: es) = changesOf es := rfl
theorem changesOf_logs (lines : List Log.Line) : changesOf (lines.map Effect.log) = [] := by
  simp [changesOf]

@[simp] theorem changesOf_append (a b : List Effect) :
    changesOf (a ++ b) = changesOf a ++ changesOf b := List.filterMap_append
@[simp] theorem changesOf_cancelInFlight (e : Editor) : changesOf e.cancelInFlight = [] := by
  unfold Editor.cancelInFlight
  split <;> rfl

theorem Traffic.changes_absorbAll (t : Traffic) (es : List Effect) :
    (t.absorbAll es).changes = t.changes ++ changesOf es := by
  induction es generalizing t with
  | nil => simp
  | cons e es ih =>
    rw [absorbAll_cons, ih]
    cases e <;> simp [absorb, update, changesOf]

theorem Traffic.changes_step (t : Traffic) (st : Step) : (t.step st).changes = t.changes := by
  cases st with
  | call x =>
    simp only [step, call]
    split
    · rfl
    · split <;> rfl
  | answer x a => rfl
  | finish x notices =>
    simp only [step, finish]
    split
    · rfl
    · split
      · rfl
      · split <;> rfl

namespace Editor

/-! ### Messages -/

/-- The editor without what its lookups have brought. -/
def outline (e : Editor) : Editor :=
  { e with inFlight := none, draft := { e.draft with suggestions := [], isLoading := false } }

/-- A message reaches nothing of the outline, and the form hears nothing of it. -/
theorem outline_applyLookup (e : Editor) (m : Settled) :
    (e.applyLookup m).editor.outline = e.outline := by
  unfold applyLookup
  split
  · rfl
  · split <;> rfl

theorem mappings_applyLookup (e : Editor) (m : Settled) :
    (e.applyLookup m).editor.mappings = e.mappings := by
  have h := congrArg Editor.mappings (e.outline_applyLookup m)
  exact h

theorem changesOf_applyLookup (e : Editor) (m : Settled) :
    changesOf (e.applyLookup m).effects = [] := by
  unfold applyLookup
  split
  · rfl
  · split <;> rfl

/-! ### Operations -/

/-- An operation that is not accepted changes nothing. -/
theorem accepted_or_unchanged (e : Editor) (op : Operation) :
    (e.perform op).accepted = true ∨ (e.perform op).editor = e := by
  cases op with
  | openNew =>
    simp only [perform, openNew, refuse]
    split
    · exact .inr rfl
    · exact .inl rfl
  | edit index =>
    simp only [perform, edit, refuse]
    split
    · exact .inr rfl
    · split
      · exact .inr rfl
      · exact .inl rfl
  | selectColumn c =>
    simp only [perform, selectColumn, refuse]
    split
    · exact .inr rfl
    · split
      · exact .inl rfl
      · exact .inl rfl
  | selectSuggestion index =>
    simp only [perform, selectSuggestion, refuse]
    split
    · exact .inr rfl
    · split
      · exact .inr rfl
      · exact .inl rfl
  | setTyped text =>
    simp only [perform, setTyped, refuse]
    split
    · exact .inr rfl
    · exact .inl rfl
  | setAuxiliary text =>
    simp only [perform, setAuxiliary, refuse]
    split
    · exact .inr rfl
    · exact .inl rfl
  | commit =>
    simp only [perform, commit, refuse]
    split
    · exact .inr rfl
    · exact .inl rfl
  | close =>
    simp only [perform, close, refuse]
    split
    · exact .inr rfl
    · exact .inl rfl
  | remove index =>
    simp only [perform, remove, refuse]
    split
    · exact .inr rfl
    · exact .inl rfl

theorem unchanged_of_refused (e : Editor) {op : Operation} (h : (e.perform op).accepted = false) :
    (e.perform op).editor = e := by
  rcases e.accepted_or_unchanged op with ha | he
  · rw [h] at ha
    cases ha
  · exact he

/-- The list that saving the draft leaves. -/
def saved (e : Editor) : List Mapping :=
  match e.draft.editing.filter (· < e.mappings.length) with
  | some index => e.mappings.set index e.draft.toMapping
  | none => e.mappings ++ [e.draft.toMapping]

/-- A draft that edits no mapping is saved at the end. -/
theorem saved_of_new {e : Editor} (h : e.draft.editing = none) :
    e.saved = e.mappings ++ [e.draft.toMapping] := by
  rw [saved, h]
  rfl

/-- A draft that edits a mapping takes its place. -/
theorem saved_of_editing {e : Editor} {index : Nat} (h : e.draft.editing = some index)
    (hi : index < e.mappings.length) : e.saved = e.mappings.set index e.draft.toMapping := by
  have hf : (some index).filter (· < e.mappings.length) = some index := by
    simp [Option.filter, hi]
  rw [saved, h, hf]

theorem accepted_commit (e : Editor) : e.commit.accepted = e.canCommit := by
  cases h : e.canCommit <;> simp [commit, h, refuse]

theorem editor_commit (e : Editor) (h : e.canCommit = true) :
    e.commit.editor =
      { e with isOpen := false, draft := {}, inFlight := none, mappings := e.saved } := by
  cases hr : e.draft.editing.filter (· < e.mappings.length) with
  | none => simp [commit, saved, h, hr]
  | some index => simp [commit, saved, h, hr]

theorem changesOf_commit (e : Editor) (h : e.canCommit = true) :
    changesOf e.commit.effects = [e.saved] := by
  cases hr : e.draft.editing.filter (· < e.mappings.length) with
  | none => simp [commit, saved, h, hr]
  | some index => simp [commit, saved, h, hr]

theorem commit_refused (e : Editor) (h : e.canCommit = false) :
    e.commit =
      { e.refuse with effects := [note .debug "Ignoring commit without a selected column"] } := by
  simp [commit, h]

/-- The list that an operation leaves. -/
def mappingsAfter (e : Editor) (op : Operation) : List Mapping :=
  match op with
  | .commit => if e.canCommit then e.saved else e.mappings
  | .remove index => e.mappings.eraseIdx index
  | _ => e.mappings

theorem mappings_selectColumn (e : Editor) (c : String) :
    (e.selectColumn c).editor.mappings = e.mappings := by
  simp only [selectColumn, refuse]
  split
  · rfl
  · split <;> rfl

theorem mappings_setTyped (e : Editor) (text : String) :
    (e.setTyped text).editor.mappings = e.mappings := by
  unfold setTyped
  split <;> rfl

theorem mappings_edit (e : Editor) (index : Nat) : (e.edit index).editor.mappings = e.mappings := by
  unfold edit
  split
  · rfl
  · split
    · rfl
    · next m _ =>
      have hs := (e.openedOn index).mappings_selectColumn m.column
      split
      · exact hs
      · exact (mappings_setTyped _ _).trans hs

theorem mappings_perform (e : Editor) (op : Operation) :
    (e.perform op).editor.mappings = e.mappingsAfter op := by
  cases op with
  | commit =>
    cases h : e.canCommit with
    | true => simp [perform, mappingsAfter, editor_commit e h, h]
    | false => simp [perform, mappingsAfter, commit_refused e h, refuse, h]
  | remove index =>
    cases hm : e.mappings[index]? with
    | none =>
      have hlen := List.getElem?_eq_none_iff.mp hm
      simp [perform, remove, refuse, mappingsAfter, hm, List.eraseIdx_of_length_le hlen]
    | some m => simp [perform, remove, mappingsAfter, hm]
  | edit index => exact e.mappings_edit index
  | selectColumn c => exact e.mappings_selectColumn c
  | openNew =>
    simp only [perform, openNew, refuse, mappingsAfter]
    split <;> rfl
  | selectSuggestion index =>
    simp only [perform, selectSuggestion, refuse, mappingsAfter]
    split
    · rfl
    · split <;> rfl
  | setTyped text => exact e.mappings_setTyped text
  | setAuxiliary text =>
    simp only [perform, setAuxiliary, refuse, mappingsAfter]
    split <;> rfl
  | close =>
    simp only [perform, close, refuse, mappingsAfter]
    split <;> rfl

end Editor

namespace World

theorem changes_perform (w : World) (op : Operation) :
    (w.step (.perform op)).traffic.changes =
      w.traffic.changes ++ changesOf (w.editor.perform op).effects :=
  w.traffic.changes_absorbAll _

/-- No step of a lookup tells the form anything. -/
theorem changes_lookup (w : World) (st : Traffic.Step) :
    (w.step (.lookup st)).traffic.changes = w.traffic.changes :=
  w.traffic.changes_step st

theorem deliver_keeps (w : World) (place : Nat) :
    (w.step (.deliver place)).editor.outline = w.editor.outline ∧
      (w.step (.deliver place)).traffic.changes = w.traffic.changes := by
  simp only [step]
  split
  · exact ⟨rfl, rfl⟩
  · next m _ =>
    refine ⟨w.editor.outline_applyLookup m, ?_⟩
    simp only [after, Traffic.changes_absorbAll, Editor.changesOf_applyLookup, List.append_nil]

theorem mappings_deliver (w : World) (place : Nat) :
    (w.step (.deliver place)).editor.mappings = w.editor.mappings :=
  show (w.step (.deliver place)).editor.outline.mappings = w.editor.outline.mappings from
    congrArg Editor.mappings (w.deliver_keeps place).1

theorem editing_deliver (w : World) (place : Nat) :
    (w.step (.deliver place)).editor.draft.editing = w.editor.draft.editing :=
  show (w.step (.deliver place)).editor.outline.draft.editing = w.editor.outline.draft.editing from
    congrArg (·.draft.editing) (w.deliver_keeps place).1

end World

end ColumnMap
