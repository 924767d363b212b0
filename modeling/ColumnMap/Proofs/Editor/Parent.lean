import ColumnMap.Proofs.Editor.Changes

/-!
The parent form holds the committed list. It is told the whole list by every saving and every
removal that succeeds, once each, and by nothing else.
-/

namespace ColumnMap

/-- The operations that change the committed list when they are accepted. -/
def Operation.alters : Operation → Bool
  | .commit | .remove _ => true
  | _ => false

namespace Editor

theorem changesOf_selectColumn (e : Editor) (c : String) :
    changesOf (e.selectColumn c).effects = [] := by
  cases ho : e.isOpen with
  | false => simp [selectColumn, refuse, ho]
  | true =>
    by_cases hc : c.isEmpty = true
    · simp [selectColumn, ho, hc]
    · cases hl : e.dataSource.supportsLookup <;> simp [selectColumn, ho, hc, hl]

theorem changesOf_edit (e : Editor) (index : Nat) : changesOf (e.edit index).effects = [] := by
  cases ho : e.isOpen with
  | true => simp [edit, refuse, ho]
  | false =>
    cases hm : e.mappings[index]? with
    | none => simp [edit, refuse, ho, hm]
    | some m => simp [edit_effects e index m ho hm, changesOf_selectColumn]

/-- An accepted saving or removal tells the list that it leaves, and nothing else tells any. -/
theorem changesOf_perform (e : Editor) (op : Operation) :
    changesOf (e.perform op).effects =
      if op.alters && (e.perform op).accepted then [(e.perform op).editor.mappings] else [] := by
  cases op with
  | commit =>
    cases hc : e.canCommit with
    | true => simp [perform, Operation.alters, accepted_commit, changesOf_commit, editor_commit, hc]
    | false => simp [perform, Operation.alters, commit_refused e hc, refuse]
  | remove index =>
    cases hm : e.mappings[index]? <;> simp [perform, remove, refuse, Operation.alters, hm]
  | openNew => cases ho : e.isOpen <;> simp [perform, openNew, refuse, Operation.alters, ho]
  | edit index => exact e.changesOf_edit index
  | selectColumn c => exact e.changesOf_selectColumn c
  | selectSuggestion index =>
    simp only [perform, selectSuggestion, refuse]
    split
    · rfl
    · split <;> rfl
  | setTyped text => cases ho : e.isOpen <;> simp [perform, setTyped, refuse, Operation.alters, ho]
  | setAuxiliary text =>
    cases ho : e.isOpen <;> simp [perform, setAuxiliary, refuse, Operation.alters, ho]
  | close => cases ho : e.isOpen <;> simp [perform, close, refuse, Operation.alters, ho]

/-! ### The list last told -/

/-- The reply leaves the list that was told last, or the one before if none was told. -/
def Tells (e : Editor) (r : Reply) : Prop :=
  (changesOf r.effects).getLast?.getD e.mappings = r.editor.mappings

/-- The other operations leave the committed list alone, accepted or not. -/
theorem mappings_of_not_alters (e : Editor) {op : Operation} (h : op.alters = false) :
    (e.perform op).editor.mappings = e.mappings := by
  rw [mappings_perform]
  cases op with
  | commit => cases h
  | remove _ => cases h
  | _ => rfl

theorem tells_perform (e : Editor) (op : Operation) : e.Tells (e.perform op) := by
  rw [Tells, changesOf_perform]
  cases ha : (e.perform op).accepted with
  | false =>
    rw [e.unchanged_of_refused ha, Bool.and_false]
    rfl
  | true =>
    cases hop : op.alters with
    | true => rfl
    | false => exact (e.mappings_of_not_alters hop).symm

theorem tells_applyLookup (e : Editor) (m : Settled) : e.Tells (e.applyLookup m) := by
  rw [Tells, changesOf_applyLookup, mappings_applyLookup]
  rfl

end Editor

namespace World

theorem formAfter_eq (form : List Mapping) (es : List Effect) :
    formAfter form es = (changesOf es).getLast?.getD form := by
  induction es generalizing form with
  | nil => rfl
  | cons e es ih =>
    cases e with
    | changed l =>
      rw [formAfter, ih, changesOf_changed, List.getLast?_cons]
      rfl
    | log _ => exact ih form
    | start _ _ => exact ih form
    | cancel _ => exact ih form

theorem form_after {w : World} {r : Reply} (h : w.form = w.editor.mappings)
    (hr : w.editor.Tells r) : (w.after r).form = (w.after r).editor.mappings := by
  simp only [after, formAfter_eq, h]
  exact hr

theorem form_step {w : World} (h : w.form = w.editor.mappings) (ev : Event) :
    (w.step ev).form = (w.step ev).editor.mappings := by
  cases ev with
  | perform op => exact form_after h (w.editor.tells_perform op)
  | lookup st => exact h
  | deliver place =>
    simp only [step]
    split
    · exact h
    · next m _ => exact form_after h (w.editor.tells_applyLookup m)

theorem form_run {w : World} (h : w.form = w.editor.mappings) (events : List Event) :
    (w.run events).form = (w.run events).editor.mappings := by
  induction events generalizing w with
  | nil => exact h
  | cons ev events ih => exact ih (form_step h ev)

/-! ### What the form is told -/

/-- Whether an event is a saving or a removal that succeeds. -/
def alters (w : World) : Event → Bool
  | .perform op => op.alters && (w.editor.perform op).accepted
  | _ => false

/-- How many of the events are savings and removals that succeed. -/
def alterations (w : World) : List Event → Nat
  | [] => 0
  | ev :: events => (if w.alters ev then 1 else 0) + (w.step ev).alterations events

theorem changes_step (w : World) (ev : Event) :
    (w.step ev).traffic.changes =
      w.traffic.changes ++ if w.alters ev then [(w.step ev).editor.mappings] else [] := by
  cases ev with
  | perform op => rw [changes_perform, Editor.changesOf_perform]; rfl
  | lookup st => simp [changes_lookup, alters]
  | deliver place => simp [(w.deliver_keeps place).2, alters]

theorem length_changes_run (w : World) (events : List Event) :
    (w.run events).traffic.changes.length = w.traffic.changes.length + w.alterations events := by
  induction events generalizing w with
  | nil => rfl
  | cons ev events ih =>
    rw [run_cons, ih, changes_step, alterations, List.length_append]
    split
    · simp only [List.length_singleton]; omega
    · simp only [List.length_nil]; omega

end World

end ColumnMap
