import ColumnMap.Proofs.Editor.Selection

/-!
What is remembered of a run besides the world that it leads to: the lookups that were started for
the popover, and what the source answered. It is read off the operations, their effects and the
answers, never off the draft.
-/

namespace ColumnMap

open Selection

structure History where
  /-- Lookups started since the popover was last opened, the latest first. -/
  session : List Call := []
  /-- The lookup that the latest selection of a column started, if it started one. -/
  latest : Option Call := none
  /-- What the source answered to the call of a lookup. -/
  answer : Token → Option Lookup.Answer := fun _ => none

/-- The lookups that effects start, in order. -/
def startsOf (effects : List Effect) : List Call :=
  effects.filterMap fun
    | .start x c => some ⟨x, c⟩
    | _ => none

/-- The operations that open the popover. -/
def Operation.opens : Operation → Bool
  | .openNew | .edit _ => true
  | _ => false

namespace History

/-- After an operation with the reply `r`. Opening the popover on a mapping selects its column. -/
def perform (h : History) (op : Operation) (r : Reply) : History :=
  let started := (startsOf r.effects).reverse
  { h with
    session := if op.opens && r.accepted then started else started ++ h.session
    latest := match op with
      | .selectColumn _ => started.head?
      | .edit _ => if r.accepted then started.head? else h.latest
      | _ => h.latest }

/-- After an answer to the call of a lookup. -/
def answered (h : History) (x : Token) (a : Lookup.Answer) : History :=
  { h with answer := fun y => if y = x then some a else h.answer y }

def step (h : History) (w : World) : World.Event → History
  | .perform op => h.perform op (w.editor.perform op)
  | .lookup (.answer x a) => if (w.traffic.task? x).any Traffic.waits then h.answered x a else h
  | _ => h

end History

/-- The history of a run of a world. -/
def World.history (w : World) (h : History) : List World.Event → History
  | [] => h
  | ev :: events => (w.step ev).history (h.step w ev) events

/-! ### Moves -/

namespace History

/-- After a move of the selection `s`. -/
def after (h : History) (s : Selection) (m : Move) : History :=
  match m with
  | .opened => { h with session := [] }
  | .selected _ =>
    { h with session := (s.started m).toList ++ h.session, latest := s.started m }
  | .cleared => { h with latest := none }
  | .closed => h

def afterAll (h : History) (s : Selection) : List Move → History
  | [] => h
  | m :: moves => (h.after s m).afterAll (s.after m) moves

end History

@[simp] theorem startsOf_nil : startsOf [] = [] := rfl
@[simp] theorem startsOf_note (level : Log.Level) (message : String) (es : List Effect) :
    startsOf (Editor.note level message :: es) = startsOf es := rfl
@[simp] theorem startsOf_changed (l : List Mapping) (es : List Effect) :
    startsOf (.changed l :: es) = startsOf es := rfl
@[simp] theorem startsOf_start (x : Token) (c : String) (es : List Effect) :
    startsOf (.start x c :: es) = ⟨x, c⟩ :: startsOf es := rfl
@[simp] theorem startsOf_append (a b : List Effect) :
    startsOf (a ++ b) = startsOf a ++ startsOf b := List.filterMap_append
@[simp] theorem startsOf_cancelInFlight (e : Editor) : startsOf e.cancelInFlight = [] := by
  unfold Editor.cancelInFlight
  split <;> rfl

namespace Editor

theorem startsOf_selectColumn (e : Editor) (c : String) (h : e.isOpen = true) :
    startsOf (e.selectColumn c).effects = (e.selection.started (.ofColumn c)).toList := by
  by_cases hc : c.isEmpty = true
  · simp [selectColumn, h, hc, Move.ofColumn, started]
  · by_cases hl : e.dataSource.supportsLookup = true
    · simp [selectColumn, h, hc, hl, Move.ofColumn, started, selection, nextToken]
    · simp [selectColumn, h, hc, hl, Move.ofColumn, started, selection]

theorem startsOf_edit (e : Editor) (index : Nat) (m : Mapping) (h : e.isOpen = false)
    (hm : e.mappings[index]? = some m) :
    startsOf (e.edit index).effects =
      ((e.selection.after .opened).started (.ofColumn m.column)).toList := by
  rw [edit_effects e index m h hm, startsOf_append, startsOf_selectColumn _ _ rfl]
  simp

end Editor

namespace History

/-- Selecting a column adds the lookup that it starts, if any. -/
theorem after_ofColumn (h : History) (s : Selection) (c : String) :
    h.after s (.ofColumn c) =
      { h with
        session := (s.started (.ofColumn c)).toList.reverse ++ h.session
        latest := (s.started (.ofColumn c)).toList.reverse.head? } := by
  unfold Move.ofColumn
  split
  · rfl
  · cases hs : s.started (.selected c) <;> simp [after, hs]

/-- An operation does to the history what its moves do, but that selecting a column in a closed
popover counts as a selection that starts nothing. -/
theorem perform_moves (h : History) (e : Editor) (op : Operation) :
    h.perform op (e.perform op) = h.afterAll e.selection (e.moves op) ∨
      e.isOpen = false ∧ e.moves op = [] ∧
        h.perform op (e.perform op) = { h with latest := none } := by
  cases op with
  | openNew =>
    left
    cases ho : e.isOpen <;>
      simp [perform, Editor.perform, Editor.openNew, Editor.refuse, Editor.moves, Operation.opens,
        afterAll, after, ho]
  | edit index =>
    left
    cases ho : e.isOpen with
    | true =>
      simp [perform, Editor.perform, Editor.edit, Editor.refuse, Editor.moves, afterAll, ho]
    | false =>
      cases hm : e.mappings[index]? with
      | none =>
        simp [perform, Editor.perform, Editor.edit, Editor.refuse, Editor.moves, afterAll, ho, hm]
      | some m =>
        have ha : (e.edit index).accepted = true := by simp [Editor.edit, ho, hm]
        simp only [Editor.moves, ho, hm, Bool.false_eq_true, if_false, afterAll, after_ofColumn]
        simp [perform, Editor.perform, Operation.opens, ha, Editor.startsOf_edit e index m ho hm,
          after]
  | selectColumn c =>
    cases ho : e.isOpen with
    | true =>
      left
      simp only [Editor.moves, ho, if_true, afterAll, after_ofColumn]
      simp [perform, Editor.perform, Operation.opens, Editor.startsOf_selectColumn e c ho]
    | false =>
      right
      simp [perform, Editor.perform, Editor.selectColumn, Editor.refuse, Editor.moves,
        Operation.opens, ho]
  | selectSuggestion index =>
    left
    simp only [perform, Editor.perform, Editor.selectSuggestion, Editor.refuse]
    split
    · rfl
    · split <;> rfl
  | setTyped text =>
    left
    simp only [perform, Editor.perform, Editor.setTyped, Editor.refuse]
    split <;> rfl
  | setAuxiliary text =>
    left
    simp only [perform, Editor.perform, Editor.setAuxiliary, Editor.refuse]
    split <;> rfl
  | commit =>
    left
    cases hc : e.canCommit <;>
      simp [perform, Editor.perform, Editor.commit, Editor.refuse, Editor.moves, Operation.opens,
        afterAll, after, hc]
  | close =>
    left
    cases ho : e.isOpen <;>
      simp [perform, Editor.perform, Editor.close, Editor.refuse, Editor.moves, Operation.opens,
        afterAll, after, ho]
  | remove index =>
    left
    simp only [perform, Editor.perform, Editor.remove, Editor.refuse]
    split <;> rfl

end History

end ColumnMap
