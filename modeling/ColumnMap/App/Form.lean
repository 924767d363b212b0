import ColumnMap.Console.Key
import ColumnMap.Editor.Basic

/-!
The form in the popover: which field has the focus and where the cursors of its lists stand. The
draft belongs to the editor; a key gives an action on it.
-/

namespace ColumnMap

open Console

/-- The fields of the form, in the order of the tab key. -/
inductive Field where
  | column | value | custom | auxiliary
  deriving DecidableEq, Repr

namespace Field

def next : Field → Field
  | .column => .value
  | .value => .custom
  | .custom => .auxiliary
  | .auxiliary => .column

def previous : Field → Field
  | .column => .auxiliary
  | .value => .column
  | .custom => .value
  | .auxiliary => .custom

def label : Field → String
  | .column => "Column"
  | .value => "Value"
  | .custom => "Custom value"
  | .auxiliary => "Note"

@[simp] theorem previous_next (f : Field) : f.next.previous = f := by cases f <;> rfl
@[simp] theorem next_previous (f : Field) : f.previous.next = f := by cases f <;> rfl

end Field

/-- What a key in the form asks for. -/
inductive Action where
  | none
  | close
  | save
  | selectColumn (column : String)
  | clearColumn
  | pickSuggestion (index : Nat)
  | setTyped (text : String)
  | setAuxiliary (text : String)
  deriving DecidableEq, Repr

structure Form where
  focus : Field := .column
  columnCursor : Nat := 0
  suggestionCursor : Nat := 0
  deriving DecidableEq, Repr

/-- The row above; the first row has none. -/
def cursorUp (cursor : Nat) : Nat := cursor - 1

/-- The row below; the last of `count` rows has none. -/
def cursorDown (cursor count : Nat) : Nat := if cursor + 1 < count then cursor + 1 else cursor

/-- A text after a key, if the key edits text: characters go to the end, and backspace takes the
last one away. -/
def editText (code : KeyCode) (text : String) : Option String :=
  match code with
  | .char c => some (text.push c)
  | .backspace => if text.isEmpty then none else some (String.ofList text.toList.dropLast)
  | _ => none

namespace Form

/-- The form for a draft: on its column if it has one. -/
def ofDraft (draft : Draft) (columns : List String) : Form where
  focus := if draft.column.isSome then .value else .column
  columnCursor := (draft.column.bind fun c => columns.findIdx? (· == c)).getD 0
  suggestionCursor := 0

/-- New suggestions start at the top. -/
def resetSuggestions (f : Form) : Form := { f with suggestionCursor := 0 }

/-- A key in the list of columns. -/
def columnKey (f : Form) (columns : List String) : KeyCode → Action × Form
  | .up | .char 'k' => (.none, { f with columnCursor := cursorUp f.columnCursor })
  | .down | .char 'j' => (.none, { f with columnCursor := cursorDown f.columnCursor columns.length })
  | .enter | .char ' ' =>
    match columns[f.columnCursor]? with
    | some column => (.selectColumn column, { f with focus := .value, suggestionCursor := 0 })
    | none => (.none, f)
  | .backspace | .delete => (.clearColumn, f)
  | _ => (.none, f)

/-- A key in the list of values; nothing is picked while they are being loaded. -/
def valueKey (f : Form) (draft : Draft) : KeyCode → Action × Form
  | .up | .char 'k' => (.none, { f with suggestionCursor := cursorUp f.suggestionCursor })
  | .down | .char 'j' =>
    (.none, { f with suggestionCursor := cursorDown f.suggestionCursor draft.suggestions.length })
  | .enter | .char ' ' =>
    if draft.isLoading || draft.suggestions.length ≤ f.suggestionCursor then (.none, f)
    else (.pickSuggestion f.suggestionCursor, { f with focus := .auxiliary })
  | _ => (.none, f)

/-- A key in a text field; enter saves. -/
def textKey (f : Form) (text : String) (set : String → Action) (code : KeyCode) : Action × Form :=
  if code = .enter then (.save, f)
  else match editText code text with
    | some changed => (set changed, f)
    | none => (.none, f)

/-- What a key asks for, and the form after it. -/
def key (f : Form) (draft : Draft) (columns : List String) (k : Key) : Action × Form :=
  if k.ctrl then (if k.code = .char 's' then .save else .none, f)
  else
    match k.code with
    | .escape => (.close, f)
    | .tab => (.none, { f with focus := f.focus.next })
    | .backTab => (.none, { f with focus := f.focus.previous })
    | code =>
      match f.focus with
      | .column => f.columnKey columns code
      | .value => f.valueKey draft code
      | .custom => f.textKey draft.typed .setTyped code
      | .auxiliary => f.textKey draft.auxiliary .setAuxiliary code

end Form

end ColumnMap
