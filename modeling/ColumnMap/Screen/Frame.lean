import ColumnMap.Screen.Popover

/-!
One frame of the screen: the main screen, the popover, the list of keys, and the toast on top.
-/

namespace ColumnMap.Screen

namespace Help

def entry (keys what : String) : Line :=
  [⟨"    ", {}⟩, ⟨padRight 12 keys, accent⟩, ⟨what, foreground⟩]

def content : List Line :=
  [[],
    [⟨"  Mappings", heading⟩],
    entry "a, n" "Add a mapping",
    entry "Enter" "Edit the highlighted mapping",
    entry "d, Del" "Remove the highlighted mapping",
    entry "↑↓, j k" "Move selection",
    entry "y" "Copy mappings as JSON",
    entry "q" "Quit and print mappings",
    [],
    [⟨"  Popover", heading⟩],
    entry "Tab, S-Tab" "Next / previous field",
    entry "Enter" "Select column or value, save from text fields",
    entry "Backspace" "Clear column (on the column list)",
    entry "Ctrl+S" "Save",
    entry "Esc" "Cancel",
    []]

def area (screen : Area) : Area := screen.centered 60 (content.length + 2)

def draw (c : Canvas) : Option Canvas :=
  let area := area c.area
  (c.clear? area).map fun c =>
    (c.panel area highlight " Help (Esc to close) ").paragraph area.inner .left content

end Help

namespace Notice

/-- The area of a toast: near the bottom right corner, as wide as its message and never wider than
the screen allows. Widths are counted in 16 bits. -/
def area (screen : Area) (message : String) : Area :=
  let width := min ((Text.width message.toList % UInt16.size + 4) % UInt16.size) (screen.width - 4)
  ⟨screen.right - (width + 2), screen.bottom - 5, width, 3⟩

def draw (c : Canvas) (message : String) : Option Canvas :=
  let area := area c.area message
  (c.clear? area).map fun c =>
    ((c.restyle area foreground).frame area highlight).paragraph area.inner .center
      (Canvas.plainLines message)

end Notice

/-- The main screen without windows. -/
def drawMain (c : Canvas) (a : App) : Canvas :=
  match c.area.stack (screenRows c.height) with
  | [title, mappings, logs, status] =>
    Status.draw (Logs.draw (Mappings.draw (Title.draw c title a) mappings a) logs a) status a
  | _ => c

/-- One frame; none if a window does not fit on the screen. -/
def draw (a : App) (width height : Nat) : Option Canvas := do
  let c := drawMain (.blank width height) a
  let c ← if a.editor.isOpen then Popover.draw c a else some c
  let c ← match a.overlay with
    | some .help => Help.draw c
    | none => some c
  match a.toast with
  | some t => Notice.draw c t.message
  | none => some c

end ColumnMap.Screen
