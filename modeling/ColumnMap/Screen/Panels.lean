import ColumnMap.App.Basic
import ColumnMap.Screen.Widget

/-!
The main screen: title, committed list, log and status bar.
-/

namespace ColumnMap.Screen

/-- Text that stands back. -/
def muted : Style := { fg := some .darkGray }
def foreground : Style := { fg := some .white }
def accent : Style := { fg := some .yellow }
/-- Frames of windows, and of what has the focus. -/
def highlight : Style := { fg := some .cyan }
def heading : Style := { fg := some .cyan, bold := true }
def selection : Style := { fg := some .white, bg := some .blue, bold := true }

def border (focused : Bool) : Style := if focused then highlight else { fg := some .gray }

/-- Blanks in front of a text that is shorter than `n`. -/
def padLeft (n : Nat) (text : String) : String :=
  String.ofList (List.replicate (n - text.length) ' ') ++ text

/-- Blanks behind a text that is shorter than `n`. -/
def padRight (n : Nat) (text : String) : String :=
  text ++ String.ofList (List.replicate (n - text.length) ' ')

namespace Title

def text (a : App) : String :=
  let source := a.editor.dataSource
  let indicator := match a.editor.phase with
    | .loading => "  " ++ a.spinner.toString ++ " loading values"
    | _ => if source.supportsLookup then "" else "  (no value lookup)"
  " mapctl ──── " ++ source.name ++ " #" ++ toString source.id ++ indicator

def draw (c : Canvas) (area : Area) (a : App) : Canvas :=
  (((c.restyle area heading).frame area highlight).titleRight area " ? ").paragraph area.inner .left
    (Canvas.plainLines (text a))

end Title

namespace Mappings

/-- A row of the committed list; the mapping that is being edited is marked. -/
def row (isEdited : Bool) (index : Nat) (m : Mapping) : Line :=
  [⟨if isEdited then "✎ " else "  ", accent⟩, ⟨padLeft 3 (toString (index + 1)) ++ ". ", muted⟩,
    ⟨m.summary, foreground⟩]

def draw (c : Canvas) (area : Area) (a : App) : Canvas :=
  let mappings := a.editor.mappings
  let style := border (!a.editor.isOpen)
  let title := " Mappings (" ++ toString mappings.length ++ ") "
  if mappings.isEmpty then
    ((c.restyle area muted).panel area style title).paragraph area.inner .left
      (Canvas.plainLines "  No mappings yet. Press 'a' to add one.")
  else
    (c.panel area style title).rows area.inner selection (some a.selected)
      (mappings.zipIdx.map fun (m, i) => row (a.editor.draft.editing == some i) i m)

end Mappings

namespace Logs

/-- A number below a hundred with two digits. -/
def twoDigits (n : Nat) : String := toString (n / 10) ++ toString (n % 10)

/-- The time of day of a second that is counted from the start of 1970. -/
def timeOfDay (second : Int) : String :=
  let s := (second % 86400).toNat
  twoDigits (s / 3600) ++ ":" ++ twoDigits (s / 60 % 60) ++ ":" ++ twoDigits (s % 60)

def levelStyle : Log.Level → Style
  | .error => { fg := some .red }
  | .warn => accent
  | .info => highlight
  | .debug | .trace => muted

def row (e : Log.Entry) : Line :=
  [⟨timeOfDay e.second ++ " ", muted⟩, ⟨padRight 5 e.line.level.text ++ " ", levelStyle e.line.level⟩,
    ⟨e.line.target ++ ": ", muted⟩, ⟨e.line.message, foreground⟩]

/-- The entries that a panel of the given height shows. -/
def shown (log : Log.Buffer) (height : Nat) : List Log.Entry := log.recent (height - 2)

def draw (c : Canvas) (area : Area) (a : App) : Canvas :=
  let title := " Logs (" ++ toString a.log.length ++ ") "
  if a.log.isEmpty then
    ((c.restyle area muted).panel area (border false) title).paragraph area.inner .left
      (Canvas.plainLines "  No log entries")
  else
    (c.panel area (border false) title).rows area.inner {} none ((shown a.log area.height).map row)

end Logs

namespace Status

/-- The keys that work now; fewer words where the screen is not wide. -/
def hints (isOpen isWide : Bool) : String :=
  match isOpen, isWide with
  | true, true => "Tab/S-Tab field │ ↑↓ move │ Enter select │ Ctrl+S save │ Esc cancel"
  | true, false => "Tab field │ Enter select │ ^S save │ Esc cancel"
  | false, true => "a add │ Enter edit │ d delete │ ↑↓ move │ y copy JSON │ ? help │ q quit"
  | false, false => "a add │ ⏎ edit │ d del │ y copy │ ? help │ q quit"

def draw (c : Canvas) (area : Area) (a : App) : Canvas :=
  let isWide := (Breakpoint.ofWidth area.width).atLeast .wide
  let text := " " ++ hints a.editor.isOpen isWide ++ " │ " ++ toString a.editor.mappings.length
    ++ " mapping(s)"
  let c := (c.restyle area muted).rule { area with height := min 1 area.height } "─" {}
  c.paragraph area.belowLine .left (Canvas.plainLines text)

end Status

end ColumnMap.Screen
