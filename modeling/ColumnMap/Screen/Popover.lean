import ColumnMap.Screen.Panels

/-!
The popover for a mapping in the making: the lists of columns and values, the fields for free text
and the note, and a footer. The lists stand below each other on a compact screen.
-/

namespace ColumnMap.Screen.Popover

/-- The area of the popover on a screen. -/
def area (screen : Area) : Area :=
  let isCompact := !(Breakpoint.ofWidth screen.width).atLeast .normal
  screen.centered (min (screen.width - 4) 90) (min (screen.height - 2) (if isCompact then 30 else 22))

def title (a : App) : String :=
  match a.editor.draft.editing with
  | some i => " Edit mapping #" ++ toString (i + 1) ++ " "
  | none => " Add mapping "

def fieldTitle (f : Field) : String := " " ++ f.label ++ " "

/-- A frame for a field, brighter while the field has the focus. -/
def fieldPanel (c : Canvas) (area : Area) (a : App) (f : Field) (title : String) : Canvas :=
  c.panel area (border (a.form.focus == f)) title

/-- Draws the list of columns; the selected one stands out. -/
def drawColumns (c : Canvas) (area : Area) (a : App) : Canvas :=
  let items := a.editor.dataSource.columns.map fun column =>
    [⟨column, if a.editor.draft.column == some column then { accent with bold := true }
      else foreground⟩]
  let cursor := if a.form.focus = .column then some a.form.columnCursor else none
  (fieldPanel c area a .column (fieldTitle .column)).rows area.inner selection cursor items

/-- What stands in the place of the values, if they cannot be listed. -/
def placeholder? (a : App) : Option String :=
  if a.editor.draft.column.isNone then some "Select a column first"
  else if a.editor.draft.isLoading then some (a.spinner.toString ++ " Loading values…")
  else if !a.editor.dataSource.supportsLookup then
    some "Value lookup unavailable; use a custom value"
  else if a.editor.draft.suggestions.isEmpty then some "No values found; use a custom value"
  else none

/-- The highlighted row of the values. -/
def valueCursor (a : App) : Option Nat :=
  if a.form.focus = .value then
    some (min a.form.suggestionCursor (a.editor.draft.suggestions.length - 1))
  else none

/-- A row of the values; the draft's value is marked. -/
def valueRow (a : App) (s : Suggestion) : Line :=
  let isChosen := match a.editor.draft.value with
    | some v => v.same s.value
    | none => false
  [⟨if isChosen then "● " else "  ", accent⟩, ⟨s.label, foreground⟩]

def valueTitle (a : App) : String :=
  match a.unlisted? with
  | some label => " " ++ Field.value.label ++ " · selected: " ++ label ++ " "
  | none => fieldTitle .value

def drawValues (c : Canvas) (area : Area) (a : App) : Canvas :=
  match placeholder? a with
  | some text =>
    (fieldPanel (c.restyle area muted) area a .value (valueTitle a)).paragraph area.inner .left
      (Canvas.plainLines text)
  | none =>
    (fieldPanel c area a .value (valueTitle a)).rows area.inner selection (valueCursor a)
      (a.editor.draft.suggestions.map (valueRow a))

/-- The mark for the end of the text of the field with the focus. -/
def caret (a : App) (f : Field) : String := if a.form.focus = f then "▏" else ""

def drawText (c : Canvas) (area : Area) (a : App) (f : Field) (text : String) : Canvas :=
  (fieldPanel (c.restyle area foreground) area a f (fieldTitle f)).paragraph area.inner .left
    (Canvas.plainLines (text ++ caret a f))

/-- Draws the field for free text, which also shows a value that nothing else shows. -/
def drawCustom (c : Canvas) (area : Area) (a : App) : Canvas :=
  match a.unlisted? with
  | some label =>
    (fieldPanel c area a .custom (fieldTitle .custom)).paragraph area.inner .left
      [[⟨label, accent⟩, ⟨" (selected)", muted⟩, ⟨caret a .custom, {}⟩]]
  | none => drawText c area a .custom a.editor.draft.typed

def footer (a : App) : String :=
  if a.editor.canCommit then " Enter select · Ctrl+S save · Esc cancel"
  else " Pick a column to enable save · Esc cancel"

def draw (c : Canvas) (a : App) : Option Canvas :=
  let area := area c.area
  (c.clear? area).map fun c =>
    let c := c.panel area highlight (title a)
    let isCompact := !(Breakpoint.ofWidth c.width).atLeast .normal
    match area.inner.stack (popoverRows area.inner.height) with
    | [lists, custom, note, foot] =>
      let halves := if isCompact then lists.stack (twoToThree lists.height)
        else lists.beside (twoToThree lists.width)
      let c := match halves with
        | [columns, values] => drawValues (drawColumns c columns a) values a
        | _ => c
      let c := drawText (drawCustom c custom a) note a .auxiliary a.editor.draft.auxiliary
      (c.restyle foot muted).paragraph foot .left (Canvas.plainLines (footer a))
    | _ => c

end ColumnMap.Screen.Popover
