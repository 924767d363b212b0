import ColumnMap.Screen.Canvas

/-!
What a screen is built from: styled lines, paragraphs, frames with titles, and lists of rows.
-/

namespace ColumnMap.Screen

/-- A piece of text of one style. -/
structure Span where
  text : String
  style : Style := {}
  deriving DecidableEq, Repr

abbrev Line := List Span

def Span.width (s : Span) : Nat := Text.width s.text.toList

/-- The clusters that are shown; line ends are not. -/
def Span.clusters (s : Span) : List (List Char) :=
  (Text.clusters s.text.toList).filter (· != ['\n'])

def Line.width (l : Line) : Nat := l.foldr (fun s n => s.width + n) 0

/-- The lines of a text. A line end at the end of the text begins no line. -/
def textLines (text : String) : List (List Char) :=
  let rec go (line : List Char) : List Char → List (List Char)
    | [] => if line.isEmpty then [] else [line.reverse]
    | '\n' :: rest =>
      (match line with | '\r' :: t => t.reverse | _ => line.reverse) :: go [] rest
    | c :: rest => go (c :: line) rest
  go [] text.toList

/-- A text on one line, whatever line ends it has. -/
def Line.plain (text : String) : Line := (textLines text).map fun l => ⟨String.ofList l, {}⟩

namespace Canvas

def span (c : Canvas) (a : Area) (s : Span) : Canvas :=
  if a.isEmpty then c else c.write a s.style a.x true s.clusters

/-- Writes a line into the first row of an area. -/
def line (c : Canvas) (a : Area) : Line → Canvas
  | [] => c
  | s :: rest =>
    if s.width = 0 then c.line a rest
    else if a.isEmpty then c
    else (c.span a s).line (a.indent s.width) rest

/-! ### Paragraphs -/

inductive Alignment where
  | left | center
  deriving DecidableEq, Repr

/-- The clusters of a line that fit into `width` cells, and the cells they take. A cluster that is
too wide for any line is left out. -/
def fitting (width : Nat) (used : Nat) :
    List (List Char × Style) → List (List Char × Style) × Nat
  | [] => ([], used)
  | (cluster, s) :: rest =>
    let w := Text.width cluster
    if width < w then fitting width used rest
    else if width < used + w then ([], used)
    else
      let (more, total) := fitting width (used + w) rest
      ((cluster, s) :: more, total)

/-- Writes clusters side by side; those that take no cell are left out. -/
def place (c : Canvas) (x y : Nat) : List (List Char × Style) → Canvas
  | [] => c
  | (cluster, s) :: rest =>
    let w := Text.width cluster
    if w = 0 then c.place x y rest
    else (c.put x y (String.ofList cluster) s).place (x + w) y rest

/-- Writes lines below each other, cut at the right and at the bottom. -/
def paragraph (c : Canvas) (a : Area) (alignment : Alignment) : List Line → Canvas
  | [] => c
  | l :: rest =>
    if a.isEmpty then c
    else
      let (shown, used) := fitting a.width 0 (l.flatMap fun s => s.clusters.map (·, s.style))
      let offset := match alignment with
        | .left => 0
        | .center => a.width / 2 - used / 2
      (c.place (a.x + offset) a.y shown).paragraph
        { a with y := a.y + 1, height := a.height - 1 } alignment rest

/-- The lines of a plain text; the empty text has one. -/
def plainLines (text : String) : List Line :=
  if text.isEmpty then [[]] else (textLines text).map fun l => [⟨String.ofList l, {}⟩]

/-! ### Frames -/

/-- A line of one symbol. -/
def rule (c : Canvas) (a : Area) (symbol : String) (s : Style) : Canvas :=
  c.modifyArea a fun k => { k.restyle s with symbol := symbol }

/-- A frame with round corners along the border of an area. -/
def frame (c : Canvas) (a : Area) (s : Style) : Canvas :=
  if a.isEmpty then c
  else
    let l := a.x
    let t := a.y
    let r := a.right - 1
    let b := a.bottom - 1
    let c := c.rule { a with width := 1 } "│" s
    let c := c.rule { a with height := 1 } "─" s
    let c := c.rule { a with x := r, width := 1 } "│" s
    let c := c.rule { a with y := b, height := 1 } "─" s
    (((c.put r b "╯" s).put r t "╮" s).put l b "╰" s).put l t "╭" s

/-- The part of the top of a frame where its title stands. -/
def titleArea (a : Area) : Area := ⟨a.x + 1, a.y, a.width - 2, 1⟩

/-- Writes a title at the left of the top of a frame. -/
def title (c : Canvas) (a : Area) (text : String) : Canvas :=
  let l := Line.plain text
  if a.isEmpty then c
  else c.line { titleArea a with width := min l.width (a.width - 2) } l

/-- Writes a title at the right of the top of a frame; what does not fit is cut at its left. -/
def titleRight (c : Canvas) (a : Area) (text : String) : Canvas :=
  if a.isEmpty then c
  else
    let clusters := Text.clusters text.toList
    let shown := clusters.drop (clusters.length - (a.width - 2))
    let area := titleArea a
    c.line (area.indent (area.width - shown.length)) [⟨String.ofList shown.flatten, {}⟩]

/-- A frame with a title at the left. -/
def panel (c : Canvas) (a : Area) (s : Style) (text : String) : Canvas := (c.frame a s).title a text

/-! ### Lists -/

/-- The rows of a list that are shown in `height` rows: from the top, or as far down as it takes to
show the highlighted one. -/
def firstShown (height : Nat) : Option Nat → Nat
  | none => 0
  | some i => i + 1 - height

/-- Writes the rows of a list, one of which can be highlighted. -/
def rows (c : Canvas) (a : Area) (highlight : Style) (selected : Option Nat) (items : List Line) :
    Canvas :=
  if a.isEmpty then c
  else
    let selected := selected.map (min · (items.length - 1))
    let first := firstShown a.height selected
    let shown := ((items.drop first).take a.height).zipIdx
    shown.foldl (fun c (l, k) =>
      let row : Area := { a with y := a.y + k, height := 1 }
      let c := c.line row l
      if selected = some (first + k) then c.restyle row highlight else c) c

end Canvas

end ColumnMap.Screen
