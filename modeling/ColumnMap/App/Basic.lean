import ColumnMap.App.Form
import ColumnMap.Log.Buffer
import ColumnMap.Mapping.File

/-!
The interactive program: the editor with what is shown around it. Operations give the effects of
the editor operations that they perform.
-/

namespace ColumnMap

open Console

/-- Windows that take all keys while they are open. -/
inductive Overlay where
  /-- The list of keys. -/
  | help
  deriving DecidableEq, Repr

/-- Whether a key closes the window. -/
def Overlay.isClosedBy : Overlay → KeyCode → Bool
  | .help, .escape | .help, .char '?' | .help, .char 'q' => true
  | .help, _ => false

/-- A short notice that goes away by itself. -/
structure Toast where
  message : String
  /-- The time, in milliseconds, from which on it is gone. -/
  expires : Nat
  deriving DecidableEq, Repr

/-- How long a toast is shown, in milliseconds. -/
def Toast.duration : Nat := 2000

/-- The clipboard of the system. -/
structure Clipboard where
  /-- Why nothing can be put on it, the nearest reason first; nothing if it can be used. -/
  fault : Option (List String) := some []
  /-- The text that the program put on it last. -/
  text : Option String := none
  deriving DecidableEq, Repr

/-- Puts a text on the clipboard, if it can be used. -/
def Clipboard.copy (c : Clipboard) (text : String) : Except Trouble Clipboard :=
  match c.fault with
  | none => .ok { c with text := some text }
  | some causes => .error ⟨"Clipboard copy failed", causes⟩

structure App where
  editor : Editor
  form : Form := {}
  /-- The highlighted row of the committed list. -/
  selected : Nat := 0
  overlay : Option Overlay := none
  toast : Option Toast := none
  log : Log.Buffer
  clipboard : Clipboard := {}
  shouldQuit : Bool := false
  /-- Ticks so far. -/
  frame : Nat := 0
  /-- The time of the latest tick, in milliseconds. -/
  clock : Nat := 0

namespace App

def spinnerFrames : List Char := ['⠋', '⠙', '⠹', '⠸', '⠼', '⠴', '⠦', '⠧', '⠇', '⠏']

def spinner (a : App) : Char := spinnerFrames.getD (a.frame % spinnerFrames.length) ' '

/-- The spinner goes on, and a toast whose time is over goes away. -/
def tick (a : App) (now : Nat) : App :=
  { a with
    frame := a.frame + 1
    clock := now
    toast := a.toast.filter fun t => now < t.expires }

def showToast (a : App) (message : String) : App :=
  { a with toast := some ⟨message, a.clock + Toast.duration⟩ }

/-! ### The committed list -/

def selectPrevious (a : App) : App := { a with selected := cursorUp a.selected }

def selectNext (a : App) : App :=
  { a with selected := cursorDown a.selected a.editor.mappings.length }

/-- Takes over what an editor operation has done. -/
def adopt (a : App) (r : Reply) : App := { a with editor := r.editor }

/-- Puts the form on the draft. -/
def resetForm (a : App) : App :=
  { a with form := .ofDraft a.editor.draft a.editor.dataSource.columns }

/-- Takes over an operation that opens the popover. -/
def opened (a : App) (r : Reply) : App × List Effect :=
  (if r.accepted then (a.adopt r).resetForm else a.adopt r, r.effects)

/-- Opens the popover for a new mapping. -/
def openNew (a : App) : App × List Effect := a.opened a.editor.openNew

/-- Opens the popover on the highlighted mapping. -/
def editSelected (a : App) : App × List Effect := a.opened (a.editor.edit a.selected)

/-- Moves the highlight to the last row if it stands below it. -/
def clampSelection (a : App) : App :=
  if a.editor.mappings.length ≤ a.selected then { a with selected := a.editor.mappings.length - 1 }
  else a

/-- Removes the highlighted mapping. -/
def removeSelected (a : App) : App × List Effect :=
  let r := a.editor.remove a.selected
  (if r.accepted then (a.adopt r).clampSelection.showToast "✓ Mapping removed" else a.adopt r,
    r.effects)

/-- Copies the committed list, as the text of a mapping file. -/
def copyMappings (a : App) : App × List Effect :=
  match a.clipboard.copy (Mapping.toText a.editor.mappings) with
  | .ok clipboard =>
    ({ a with clipboard }.showToast "✓ Copied mappings to clipboard", [])
  | .error trouble => (a.showToast "✗ Failed to copy", [.log (.of .screen .warn trouble.line)])

/-! ### The popover -/

/-- The label of the draft's value, if neither the list of values nor the field for free text
shows it. -/
def unlisted? (a : App) : Option String :=
  match a.editor.draft.value with
  | none => none
  | some v =>
    if !a.editor.draft.typed.isEmpty || a.editor.draft.suggestions.any (·.value.same v) then none
    else some v.label

/-- Hands a finished lookup to the editor. -/
def settle (a : App) (s : Settled) : App × List Effect :=
  let r := a.editor.applyLookup s
  let b := a.adopt r
  (if r.accepted then { b with form := b.form.resetSuggestions } else b, r.effects)

/-- Saves the draft and highlights its mapping. -/
def save (a : App) : App × List Effect :=
  let r := a.editor.commit
  let b := a.adopt r
  (if r.accepted then
      { b with selected := a.editor.draft.editing.getD (b.editor.mappings.length - 1) }.showToast
        "✓ Mapping saved"
    else b.showToast "Pick a column first",
    r.effects)

/-- Performs an editor operation. -/
def perform (a : App) (operation : Operation) : App × List Effect :=
  let r := a.editor.perform operation
  (a.adopt r, r.effects)

def act (a : App) : Action → App × List Effect
  | .none => (a, [])
  | .close => a.perform .close
  | .save => a.save
  | .selectColumn column => a.perform (.selectColumn column)
  | .clearColumn => a.perform (.selectColumn "")
  | .pickSuggestion index => a.perform (.selectSuggestion index)
  | .setTyped text => a.perform (.setTyped text)
  | .setAuxiliary text => a.perform (.setAuxiliary text)

/-! ### Keys -/

/-- A key on the main screen. -/
def mainKey (a : App) : KeyCode → App × List Effect
  | .char 'q' | .char 'Q' => ({ a with shouldQuit := true }, [])
  | .char '?' => ({ a with overlay := some .help }, [])
  | .char 'a' | .char 'n' => a.openNew
  | .enter => a.editSelected
  | .char 'd' | .delete => a.removeSelected
  | .up | .char 'k' => (a.selectPrevious, [])
  | .down | .char 'j' => (a.selectNext, [])
  | .char 'y' => a.copyMappings
  | _ => (a, [])

/-- A key goes to the window on top, then to the popover, then to the main screen. Only presses
count. -/
def key (a : App) (k : Key) : App × List Effect :=
  if k.kind ≠ .press then (a, [])
  else
    match a.overlay with
    | some o => (if o.isClosedBy k.code then { a with overlay := none } else a, [])
    | none =>
      if a.editor.isOpen then
        let (action, form) := a.form.key a.editor.draft a.editor.dataSource.columns k
        { a with form := form }.act action
      else a.mainKey k.code

end App

end ColumnMap
