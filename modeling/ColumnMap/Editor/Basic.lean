import ColumnMap.Lookup.Basic
import ColumnMap.Mapping.Basic

/-!
The mapping editor: the committed list, and a draft while the popover is open. The editor runs no
lookups of its own; each operation gives back the effects that it has on the world around it.

Every selection of a column gets a new token and cancels the lookup before it. A lookup that
settles is accepted only with the token of the latest selection, so the suggestions on view belong
to that one whatever the order of the answers.
-/

namespace ColumnMap

/-- Number of a lookup; numbers grow and are never used again. They have 64 bits in the program, so
an editor is taken to see fewer than 2^64 selections. -/
structure Token where
  number : Nat
  deriving DecidableEq, Repr

/-- What a finished lookup reports back. -/
structure Settled where
  token : Token
  column : String
  outcome : Lookup.Outcome
  deriving DecidableEq, Repr

/-- A mapping in the making. -/
structure Draft where
  column : Option String := none
  value : Option Value := none
  /-- Free text for the value, when no suggestion fits. -/
  typed : String := ""
  auxiliary : String := ""
  suggestions : List Suggestion := []
  isLoading : Bool := false
  /-- Token of the latest selection. -/
  token : Option Token := none
  /-- Index of the committed mapping that the draft is to replace. -/
  editing : Option Nat := none
  deriving DecidableEq, Repr

/-- The mapping that saving the draft would commit. -/
def Draft.toMapping (d : Draft) : Mapping where
  column := d.column.getD ""
  value := (d.value.map Value.stored).getD ""
  auxiliaryInput := d.auxiliary

inductive Phase where
  /-- The popover is closed. -/
  | idle
  /-- The popover is open and no lookup runs. -/
  | editing
  /-- The popover is open and a lookup for the selected column runs. -/
  | loading
  deriving DecidableEq, Repr

/-- What an operation asks of the world around the editor. -/
inductive Effect where
  | log (line : Log.Line)
  /-- Start a lookup of the column. -/
  | start (token : Token) (column : String)
  /-- Cancel the lookup with that token. -/
  | cancel (token : Token)
  /-- Tell the parent form the whole committed list. -/
  | changed (mappings : List Mapping)
  deriving DecidableEq, Repr

structure Editor where
  dataSource : DataSource
  isOpen : Bool := false
  draft : Draft := {}
  lastToken : Nat := 0
  /-- The lookup that can still be cancelled. -/
  inFlight : Option Token := none
  mappings : List Mapping := []
  deriving DecidableEq, Repr

/-- What an operation gives: whether it was accepted, the editor after it, and its effects. -/
structure Reply where
  accepted : Bool
  editor : Editor
  effects : List Effect
  deriving DecidableEq, Repr

namespace Editor

def phase (e : Editor) : Phase :=
  if !e.isOpen then .idle else if e.draft.isLoading then .loading else .editing

/-- Whether saving would do anything now. -/
def canCommit (e : Editor) : Bool :=
  e.isOpen && match e.draft.column with
    | some c => !c.isEmpty
    | none => false

def note (level : Log.Level) (message : String) : Effect := .log (.of .editor level message)

def refuse (e : Editor) : Reply := ⟨false, e, []⟩

def cancelInFlight (e : Editor) : List Effect :=
  match e.inFlight with
  | some token => [.cancel token]
  | none => []

/-- Opens the popover with an empty draft. -/
def openNew (e : Editor) : Reply :=
  if e.isOpen then e.refuse
  else ⟨true, { e with isOpen := true, draft := {} }, [note .debug "Mapping popover opened"]⟩

/-- Selects a column and starts a lookup of its values; the empty column clears the selection. A
change of column also clears the suggestions and the note. -/
def selectColumn (e : Editor) (column : String) : Reply :=
  if !e.isOpen then e.refuse
  else if column.isEmpty then
    ⟨true,
      { e with
        inFlight := none
        draft := { e.draft with
          column := none, suggestions := [], auxiliary := "", isLoading := false, token := none } },
      e.cancelInFlight⟩
  else
    let kept := e.draft.column == some column
    let looks := e.dataSource.supportsLookup
    let token : Token := ⟨e.lastToken + 1⟩
    ⟨true,
      { e with
        lastToken := token.number
        inFlight := if looks then some token else none
        draft := { e.draft with
          column := some column
          suggestions := if kept && looks then e.draft.suggestions else []
          auxiliary := if kept then e.draft.auxiliary else ""
          isLoading := looks
          token := some token } },
      e.cancelInFlight ++
        if looks then
          [note .debug ("Looking up values for '" ++ column ++ "' (request "
            ++ toString token.number ++ ")"),
            .start token column]
        else []⟩

/-- Uses free text as the value; the empty text takes the value away. -/
def setTyped (e : Editor) (text : String) : Reply :=
  if !e.isOpen then e.refuse
  else
    ⟨true,
      { e with draft := { e.draft with
          typed := text, value := if text.isEmpty then none else some (.text text) } }, []⟩

/-- Changes the note. -/
def setAuxiliary (e : Editor) (text : String) : Reply :=
  if !e.isOpen then e.refuse
  else ⟨true, { e with draft := { e.draft with auxiliary := text } }, []⟩

/-- Opens the popover on a committed mapping, which saving will replace. -/
def edit (e : Editor) (index : Nat) : Reply :=
  if e.isOpen then e.refuse
  else
    match e.mappings[index]? with
    | none => e.refuse
    | some m =>
      let opened := { e with isOpen := true, draft := { editing := some index } }
      let selected := opened.selectColumn m.column
      let typed := if m.value.isEmpty then selected.editor else (selected.editor.setTyped m.value).editor
      ⟨true, { typed with draft := { typed.draft with auxiliary := m.auxiliaryInput } },
        selected.effects ++
          [note .debug ("Editing mapping #" ++ toString index ++ " (" ++ m.column ++ ")")]⟩

/-- Picks one of the suggestions, unless they are still being loaded. -/
def selectSuggestion (e : Editor) (index : Nat) : Reply :=
  if !e.isOpen || e.draft.isLoading then e.refuse
  else
    match e.draft.suggestions[index]? with
    | none => e.refuse
    | some s =>
      ⟨true, { e with draft := { e.draft with value := some s.value, typed := "" } }, []⟩

/-- Commits the draft and closes the popover. -/
def commit (e : Editor) : Reply :=
  if !e.canCommit then
    { e.refuse with effects := [note .debug "Ignoring commit without a selected column"] }
  else
    let mapping := e.draft.toMapping
    let replaced := e.draft.editing.filter (· < e.mappings.length)
    let mappings := match replaced with
      | some index => e.mappings.set index mapping
      | none => e.mappings ++ [mapping]
    let line := match replaced with
      | some index => "Updated mapping #" ++ toString index ++ ": " ++ mapping.summary
      | none => "Added mapping: " ++ mapping.summary
    ⟨true, { e with isOpen := false, draft := {}, inFlight := none, mappings := mappings },
      note .info line :: e.cancelInFlight ++ [.changed mappings]⟩

/-- Closes the popover and forgets the draft. -/
def close (e : Editor) : Reply :=
  if !e.isOpen then e.refuse
  else
    ⟨true, { e with isOpen := false, draft := {}, inFlight := none },
      e.cancelInFlight ++ [note .debug "Mapping popover closed"]⟩

/-- Where a mapping stands after the removal of another one; none for the removed one itself. -/
def afterRemoval (removed : Nat) (index : Nat) : Option Nat :=
  if index = removed then none else if removed < index then some (index - 1) else some index

/-- Removes a committed mapping. A draft that edits another one keeps pointing at it. -/
def remove (e : Editor) (index : Nat) : Reply :=
  match e.mappings[index]? with
  | none => e.refuse
  | some m =>
    let mappings := e.mappings.eraseIdx index
    ⟨true,
      { e with
        mappings := mappings
        draft := { e.draft with editing := e.draft.editing.bind (afterRemoval index) } },
      [note .info ("Removed mapping #" ++ toString index ++ ": " ++ m.summary), .changed mappings]⟩

/-- Takes in a finished lookup, unless a later selection has superseded it. -/
def applyLookup (e : Editor) (s : Settled) : Reply :=
  if !e.isOpen || e.draft.token != some s.token then
    { e.refuse with
      effects := [note .debug ("Dropping superseded lookup for '" ++ s.column ++ "' (request "
        ++ toString s.token.number ++ ")")] }
  else
    match s.outcome with
    | .cancelled => e.refuse
    | .loaded suggestions =>
      ⟨true,
        { e with
          inFlight := none
          draft := { e.draft with suggestions := suggestions, isLoading := false } },
        [note .debug ("Installed " ++ toString suggestions.length ++ " suggestion(s) for '"
          ++ s.column ++ "'")]⟩

/-- The effects of taking the editor away. -/
def drop (e : Editor) : List Effect := e.cancelInFlight

end Editor

/-- The operations that a user of the editor has. -/
inductive Operation where
  | openNew
  | edit (index : Nat)
  | selectColumn (column : String)
  | selectSuggestion (index : Nat)
  | setTyped (text : String)
  | setAuxiliary (text : String)
  | commit
  | close
  | remove (index : Nat)
  deriving DecidableEq, Repr

def Editor.perform (e : Editor) : Operation → Reply
  | .openNew => e.openNew
  | .edit index => e.edit index
  | .selectColumn column => e.selectColumn column
  | .selectSuggestion index => e.selectSuggestion index
  | .setTyped text => e.setTyped text
  | .setAuxiliary text => e.setAuxiliary text
  | .commit => e.commit
  | .close => e.close
  | .remove index => e.remove index

end ColumnMap
