import ColumnMap.Proofs.Editor.Traffic

/-!
The part of an editor that has to do with lookups. It goes through a machine of its own, with four
moves, and every operation of the editor amounts to at most two of them. What the user types, picks
or removes makes no move.
-/

namespace ColumnMap

/-- The column that is selected, and what is known of its values. -/
structure Selection where
  /-- Whether the data source has lookups. -/
  looks : Bool
  isOpen : Bool
  column : Option String
  suggestions : List Suggestion
  isLoading : Bool
  token : Option Token
  lastToken : Nat
  inFlight : Option Token
  deriving DecidableEq, Repr

namespace Selection

inductive Move where
  /-- The popover opens with nothing selected. -/
  | opened
  | selected (column : String)
  /-- The column is taken away. -/
  | cleared
  | closed
  deriving DecidableEq, Repr

/-- The empty column is none. -/
def Move.ofColumn (column : String) : Move :=
  if column.isEmpty then .cleared else .selected column

def nextToken (s : Selection) : Token := ⟨s.lastToken + 1⟩

/-- A lookup that is in flight gets cancelled. -/
def dismiss (s : Selection) (k : Task) : Task :=
  if s.inFlight = some k.token then { k with isCancelled := true } else k

def after (s : Selection) : Move → Selection
  | .opened =>
    { s with isOpen := true, column := none, suggestions := [], isLoading := false, token := none }
  | .selected c =>
    { s with
      column := some c
      suggestions := if s.column == some c && s.looks then s.suggestions else []
      isLoading := s.looks
      token := some s.nextToken
      lastToken := s.lastToken + 1
      inFlight := if s.looks then some s.nextToken else none }
  | .cleared =>
    { s with
      column := none, suggestions := [], isLoading := false, token := none, inFlight := none }
  | .closed =>
    { s with
      isOpen := false, column := none, suggestions := [], isLoading := false, token := none,
      inFlight := none }

/-- The lookup that a move starts. -/
def started (s : Selection) : Move → Option Call
  | .selected c => if s.looks then some ⟨s.nextToken, c⟩ else none
  | _ => none

def Move.dismisses : Move → Bool
  | .opened => false
  | _ => true

/-- The unfinished lookups after a move. -/
def tasksAfter (s : Selection) (tasks : List Task) (m : Move) : List Task :=
  (if m.dismisses then tasks.map s.dismiss else tasks)
    ++ (s.started m).toList.map fun c => { token := c.token, column := c.column }

/-- Only a closed popover opens, and the other moves need an open one. -/
def fits (s : Selection) : Move → Prop
  | .opened => s.isOpen = false
  | _ => s.isOpen = true

def afterAll (s : Selection) (moves : List Move) : Selection := moves.foldl after s

def tasksAfterAll (s : Selection) (tasks : List Task) : List Move → List Task
  | [] => tasks
  | m :: moves => (s.after m).tasksAfterAll (s.tasksAfter tasks m) moves

def fitsAll (s : Selection) : List Move → Prop
  | [] => True
  | m :: moves => s.fits m ∧ (s.after m).fitsAll moves

/-- A message counts only with the token of the latest selection. -/
def receive (s : Selection) (m : Settled) : Selection :=
  if s.isOpen && s.token == some m.token then
    match m.outcome with
    | .loaded l => { s with suggestions := l, isLoading := false, inFlight := none }
    | .cancelled => s
  else s

@[simp] theorem looks_after (s : Selection) (m : Move) : (s.after m).looks = s.looks := by
  cases m <;> rfl

@[simp] theorem looks_afterAll (s : Selection) (moves : List Move) :
    (s.afterAll moves).looks = s.looks := by
  induction moves generalizing s with
  | nil => rfl
  | cons m moves ih => exact (ih (s.after m)).trans (s.looks_after m)

@[simp] theorem looks_receive (s : Selection) (m : Settled) : (s.receive m).looks = s.looks := by
  unfold receive
  split
  · split <;> rfl
  · rfl

end Selection

open Selection

namespace Editor

def selection (e : Editor) : Selection where
  looks := e.dataSource.supportsLookup
  isOpen := e.isOpen
  column := e.draft.column
  suggestions := e.draft.suggestions
  isLoading := e.draft.isLoading
  token := e.draft.token
  lastToken := e.lastToken
  inFlight := e.inFlight

/-- The moves that an operation amounts to. -/
def moves (e : Editor) : Operation → List Move
  | .openNew => if e.isOpen then [] else [.opened]
  | .edit index =>
    if e.isOpen then []
    else match e.mappings[index]? with
      | none => []
      | some m => [.opened, .ofColumn m.column]
  | .selectColumn column => if e.isOpen then [.ofColumn column] else []
  | .commit => if e.canCommit then [.closed] else []
  | .close => if e.isOpen then [.closed] else []
  | _ => []

end Editor

namespace Traffic

/-- Cancelling what an editor has in flight. -/
theorem tasks_cancelInFlight (t : Traffic) (e : Editor) :
    (t.absorbAll e.cancelInFlight).tasks = t.tasks.map e.selection.dismiss := by
  cases h : e.inFlight with
  | none =>
    have hd : e.selection.dismiss = id := by
      funext k
      simp [dismiss, Editor.selection, h]
    simp [Editor.cancelInFlight, h, hd]
  | some x =>
    have hd : e.selection.dismiss =
        fun k => if k.token == x then { k with isCancelled := true } else k := by
      funext k
      by_cases hx : x = k.token <;> simp [dismiss, Editor.selection, h, hx, Ne.symm]
    simp [Editor.cancelInFlight, h, hd, absorb, update]

end Traffic

namespace Editor

theorem selection_selectColumn (e : Editor) (c : String) (h : e.isOpen = true) :
    (e.selectColumn c).editor.selection = e.selection.after (.ofColumn c) := by
  by_cases hc : c.isEmpty = true
  · simp [selectColumn, selection, Move.ofColumn, after, h, hc]
  · simp [selectColumn, selection, Move.ofColumn, after, nextToken, h, hc]

theorem tasks_selectColumn (e : Editor) (t : Traffic) (c : String) (h : e.isOpen = true) :
    (t.absorbAll (e.selectColumn c).effects).tasks =
      e.selection.tasksAfter t.tasks (.ofColumn c) := by
  by_cases hc : c.isEmpty = true
  · simp [selectColumn, h, hc, Move.ofColumn, tasksAfter, started, Move.dismisses,
      Traffic.tasks_cancelInFlight]
  · by_cases hl : e.dataSource.supportsLookup = true
    · simp [selectColumn, h, hc, hl, Move.ofColumn, tasksAfter, started, Move.dismisses,
        Traffic.absorbAll_append, Traffic.tasks_cancelInFlight, selection, nextToken]
    · simp [selectColumn, h, hc, hl, Move.ofColumn, tasksAfter, started, Move.dismisses,
        Traffic.tasks_cancelInFlight, selection]

/-- What the user types is not part of the selection. -/
@[simp] theorem selection_setTyped (e : Editor) (text : String) :
    (e.setTyped text).editor.selection = e.selection := by
  unfold setTyped
  split <;> rfl

/-- The editor that `edit` has opened, before it selects the column. -/
def openedOn (e : Editor) (index : Nat) : Editor :=
  { e with isOpen := true, draft := { editing := some index } }

@[simp] theorem selection_openedOn (e : Editor) (index : Nat) :
    (e.openedOn index).selection = e.selection.after .opened := rfl

theorem selection_edit (e : Editor) (index : Nat) (m : Mapping) (h : e.isOpen = false)
    (hm : e.mappings[index]? = some m) :
    (e.edit index).editor.selection =
      ((e.openedOn index).selectColumn m.column).editor.selection := by
  by_cases hv : m.value.isEmpty = true
  · simp [edit, h, hm, hv, selection, openedOn]
  · simp only [edit, h, hm, hv, Bool.false_eq_true, if_false]
    exact selection_setTyped _ _

theorem edit_effects (e : Editor) (index : Nat) (m : Mapping) (h : e.isOpen = false)
    (hm : e.mappings[index]? = some m) :
    (e.edit index).effects = ((e.openedOn index).selectColumn m.column).effects ++
      [note .debug ("Editing mapping #" ++ toString index ++ " (" ++ m.column ++ ")")] := by
  simp [edit, h, hm, openedOn]

/-- An operation does to the selection what its moves do. -/
theorem selection_perform (e : Editor) (op : Operation) :
    (e.perform op).editor.selection = e.selection.afterAll (e.moves op) := by
  cases op with
  | openNew =>
    cases h : e.isOpen <;> simp [perform, openNew, moves, refuse, afterAll, after, selection, h]
  | edit index =>
    cases h : e.isOpen with
    | true => simp [perform, edit, moves, refuse, afterAll, h]
    | false =>
      cases hm : e.mappings[index]? with
      | none => simp [perform, edit, moves, refuse, afterAll, h, hm]
      | some m =>
        have ho : (e.openedOn index).isOpen = true := rfl
        simp [perform, moves, afterAll, h, hm, selection_edit, selection_selectColumn, ho]
  | selectColumn c =>
    cases h : e.isOpen with
    | true => simp [perform, moves, afterAll, h, selection_selectColumn]
    | false => simp [perform, selectColumn, moves, refuse, afterAll, h]
  | selectSuggestion index =>
    simp only [perform, selectSuggestion, moves, afterAll, List.foldl_nil]
    split
    · rfl
    · split <;> rfl
  | setTyped text => exact selection_setTyped e text
  | setAuxiliary text =>
    simp only [perform, setAuxiliary, moves, afterAll, List.foldl_nil]
    split <;> rfl
  | commit =>
    cases h : e.canCommit <;> simp [perform, commit, moves, refuse, afterAll, after, selection, h]
  | close =>
    cases h : e.isOpen <;> simp [perform, close, moves, refuse, afterAll, after, selection, h]
  | remove index =>
    simp only [perform, remove, moves, afterAll, List.foldl_nil]
    split <;> rfl

/-- An operation does to the unfinished lookups what its moves do. -/
theorem tasks_perform (e : Editor) (op : Operation) (t : Traffic) :
    (t.absorbAll (e.perform op).effects).tasks =
      e.selection.tasksAfterAll t.tasks (e.moves op) := by
  cases op with
  | openNew =>
    cases h : e.isOpen <;>
      simp [perform, openNew, moves, refuse, tasksAfterAll, tasksAfter, started, Move.dismisses, h]
  | edit index =>
    cases h : e.isOpen with
    | true => simp [perform, edit, moves, refuse, tasksAfterAll, h]
    | false =>
      cases hm : e.mappings[index]? with
      | none => simp [perform, edit, moves, refuse, tasksAfterAll, h, hm]
      | some m =>
        have ho : (e.openedOn index).isOpen = true := rfl
        have hs : e.selection.tasksAfter t.tasks .opened = t.tasks := by
          simp [tasksAfter, started, Move.dismisses]
        simp only [perform, edit_effects e index m h hm, Traffic.absorbAll_append,
          Traffic.absorbAll_cons, Traffic.absorbAll_nil, Traffic.tasks_absorb_note,
          tasks_selectColumn _ _ _ ho, selection_openedOn]
        simp [moves, h, hm, tasksAfterAll, hs]
  | selectColumn c =>
    cases h : e.isOpen with
    | true => simp [perform, moves, tasksAfterAll, h, tasks_selectColumn]
    | false => simp [perform, selectColumn, moves, refuse, tasksAfterAll, h]
  | selectSuggestion index =>
    simp only [perform, selectSuggestion, moves, tasksAfterAll]
    split
    · rfl
    · split <;> rfl
  | setTyped text =>
    simp only [perform, setTyped, moves, tasksAfterAll]
    split <;> rfl
  | setAuxiliary text =>
    simp only [perform, setAuxiliary, moves, tasksAfterAll]
    split <;> rfl
  | commit =>
    cases h : e.canCommit <;>
      simp [perform, commit, moves, refuse, tasksAfterAll, tasksAfter, started, Move.dismisses, h,
        Traffic.absorbAll_append, Traffic.tasks_cancelInFlight]
  | close =>
    cases h : e.isOpen <;>
      simp [perform, close, moves, refuse, tasksAfterAll, tasksAfter, started, Move.dismisses, h,
        Traffic.absorbAll_append, Traffic.tasks_cancelInFlight]
  | remove index =>
    simp only [perform, remove, moves, tasksAfterAll]
    split <;> rfl

theorem isOpen_of_canCommit {e : Editor} (h : e.canCommit = true) : e.isOpen = true := by
  simp only [canCommit, Bool.and_eq_true] at h
  exact h.1

theorem fits_ofColumn (s : Selection) (c : String) (h : s.isOpen = true) :
    s.fits (.ofColumn c) := by
  unfold Move.ofColumn
  split <;> exact h

/-- The moves of an operation fit one after the other. -/
theorem fitsAll_moves (e : Editor) (op : Operation) : e.selection.fitsAll (e.moves op) := by
  cases op with
  | openNew =>
    cases h : e.isOpen <;> simp [moves, fitsAll, fits, selection, h]
  | edit index =>
    cases h : e.isOpen with
    | true => simp [moves, fitsAll, h]
    | false =>
      cases hm : e.mappings[index]? with
      | none => simp [moves, fitsAll, h, hm]
      | some m =>
        simp only [moves, h, hm, Bool.false_eq_true, if_false, fitsAll, and_true]
        exact ⟨h, fits_ofColumn _ _ rfl⟩
  | selectColumn c =>
    cases h : e.isOpen with
    | true =>
      simp only [moves, h, if_true, fitsAll, and_true]
      exact fits_ofColumn _ _ h
    | false => simp [moves, fitsAll, h]
  | commit =>
    cases h : e.canCommit with
    | true =>
      have ho := isOpen_of_canCommit h
      simp [moves, fitsAll, fits, selection, h, ho]
    | false => simp [moves, fitsAll, h]
  | close =>
    cases h : e.isOpen <;> simp [moves, fitsAll, fits, selection, h]
  | selectSuggestion _ => trivial
  | setTyped _ => trivial
  | setAuxiliary _ => trivial
  | remove _ => trivial

/-- A message does to the selection what its reception does. -/
theorem selection_applyLookup (e : Editor) (m : Settled) :
    (e.applyLookup m).editor.selection = e.selection.receive m := by
  cases hi : e.isOpen with
  | false => simp [applyLookup, receive, selection, refuse, hi]
  | true =>
    by_cases ht : e.draft.token = some m.token
    · cases ho : m.outcome <;> simp [applyLookup, receive, selection, refuse, hi, ht, ho]
    · simp [applyLookup, receive, selection, refuse, hi, ht]

/-- A message starts and cancels nothing. -/
theorem tasks_applyLookup (e : Editor) (m : Settled) (t : Traffic) :
    (t.absorbAll (e.applyLookup m).effects).tasks = t.tasks := by
  unfold applyLookup
  split
  · rfl
  · split <;> rfl

end Editor

namespace World

/-! ### A world's selection and traffic, event by event -/

theorem selection_perform (w : World) (op : Operation) :
    (w.step (.perform op)).editor.selection =
      w.editor.selection.afterAll (w.editor.moves op) :=
  w.editor.selection_perform op

theorem tasks_perform (w : World) (op : Operation) :
    (w.step (.perform op)).traffic.tasks =
      w.editor.selection.tasksAfterAll w.traffic.tasks (w.editor.moves op) :=
  w.editor.tasks_perform op w.traffic

theorem queue_perform (w : World) (op : Operation) :
    (w.step (.perform op)).traffic.queue = w.traffic.queue :=
  w.traffic.queue_absorbAll _

/-- A delivery takes one message out of the queue and shows it to the editor. -/
theorem deliver_cases (w : World) (place : Nat) :
    w.traffic.queue[place]? = none ∧ w.step (.deliver place) = w ∨
      ∃ m, w.traffic.queue[place]? = some m ∧
        (w.step (.deliver place)).editor = (w.editor.applyLookup m).editor ∧
        (w.step (.deliver place)).traffic.tasks = w.traffic.tasks ∧
        (w.step (.deliver place)).traffic.queue = w.traffic.queue.eraseIdx place := by
  cases hm : w.traffic.queue[place]? with
  | none => exact .inl ⟨rfl, by simp [step, hm]⟩
  | some m =>
    refine .inr ⟨m, rfl, ?_⟩
    simp only [step, hm, after, Editor.tasks_applyLookup, Traffic.queue_absorbAll, and_self]

/-- What operations and messages keep of an editor, its world keeps. -/
theorem editor_step {P : Editor → Prop} (performs : ∀ e op, P e → P (e.perform op).editor)
    (receives : ∀ e m, P e → P (e.applyLookup m).editor) {w : World} (h : P w.editor)
    (ev : Event) : P (w.step ev).editor := by
  cases ev with
  | perform op => exact performs _ op h
  | lookup st => exact h
  | deliver place =>
    rcases w.deliver_cases place with ⟨-, hw⟩ | ⟨m, -, he, -, -⟩
    · rw [hw]
      exact h
    · rw [he]
      exact receives _ m h

theorem editor_run {P : Editor → Prop} (performs : ∀ e op, P e → P (e.perform op).editor)
    (receives : ∀ e m, P e → P (e.applyLookup m).editor) {w : World} (h : P w.editor)
    (events : List Event) : P (w.run events).editor := by
  induction events generalizing w with
  | nil => exact h
  | cons ev events ih => exact ih (editor_step performs receives h ev)

/-- Whether there are lookups never changes. -/
theorem looks_run (w : World) (events : List Event) :
    (w.run events).editor.selection.looks = w.editor.selection.looks := by
  refine editor_run (P := fun e => e.selection.looks = w.editor.selection.looks) ?_ ?_ rfl events
  · intro e op h
    rw [e.selection_perform, looks_afterAll, h]
  · intro e m h
    rw [e.selection_applyLookup, looks_receive, h]

end World

end ColumnMap
