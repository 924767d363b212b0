import ColumnMap.Screen.Area
import ColumnMap.Text.Cluster
import ColumnMap.Text.Width

/-!
A screen full of cells. A cell holds one cluster of characters with its colours; a cluster that is
two cells wide stands in the first of them, and the second one is blank.
-/

namespace ColumnMap.Screen

inductive Color where
  | reset | white | gray | darkGray | cyan | blue | yellow | red
  deriving DecidableEq, Repr

/-- How text is to look; what is left open stays as it was. -/
structure Style where
  fg : Option Color := none
  bg : Option Color := none
  bold : Bool := false
  deriving DecidableEq, Repr

structure Cell where
  symbol : String := " "
  fg : Color := .reset
  bg : Color := .reset
  bold : Bool := false
  deriving DecidableEq, Repr, Inhabited

def Cell.restyle (c : Cell) (s : Style) : Cell :=
  { c with fg := s.fg.getD c.fg, bg := s.bg.getD c.bg, bold := c.bold || s.bold }

/-- The cells of a screen, row after row. -/
structure Canvas where
  width : Nat
  height : Nat
  cells : Array Cell

namespace Canvas

def blank (width height : Nat) : Canvas := ⟨width, height, Array.replicate (width * height) {}⟩

def area (c : Canvas) : Area := .whole c.width c.height

/-- Changes a cell, if it lies on the screen. -/
def modify (c : Canvas) (x y : Nat) (f : Cell → Cell) : Canvas :=
  if x < c.width && y < c.height then { c with cells := c.cells.modify (y * c.width + x) f } else c

def cell (c : Canvas) (x y : Nat) : Cell := c.cells.getD (y * c.width + x) {}

/-- Changes `n` cells of a row from `x` on. -/
def modifyRun (c : Canvas) (x y : Nat) (f : Cell → Cell) : Nat → Canvas
  | 0 => c
  | n + 1 => (c.modify x y f).modifyRun (x + 1) y f n

/-- Changes the cells of `n` rows from `y` on. -/
def modifyRows (c : Canvas) (x y width : Nat) (f : Cell → Cell) : Nat → Canvas
  | 0 => c
  | n + 1 => (c.modifyRun x y f width).modifyRows x (y + 1) width f n

/-- Changes the cells of an area. -/
def modifyArea (c : Canvas) (a : Area) (f : Cell → Cell) : Canvas :=
  c.modifyRows a.x a.y a.width f a.height

def restyle (c : Canvas) (a : Area) (s : Style) : Canvas := c.modifyArea a (·.restyle s)

/-- Blanks an area. There must be a cell for each of its places. -/
def clear? (c : Canvas) (a : Area) : Option Canvas :=
  if a.isEmpty || decide (a.Inside c.area) then some (c.modifyArea a fun _ => {}) else none

/-- Puts a symbol into a cell. -/
def put (c : Canvas) (x y : Nat) (symbol : String) (s : Style) : Canvas :=
  c.modify x y fun k => { k.restyle s with symbol := symbol }

/-- Adds a mark to the symbol of a cell. -/
def attach (c : Canvas) (x y : Nat) (mark : String) (s : Style) : Canvas :=
  c.modify x y fun k => { k.restyle s with symbol := k.symbol ++ mark }

/-- Writes clusters into the first row of an area, from cell `x` on, as far as they fit. A cluster
that takes no cell is added to the one before. -/
def write (c : Canvas) (a : Area) (s : Style) (x : Nat) (isFirst : Bool) :
    List (List Char) → Canvas
  | [] => c
  | cluster :: rest =>
    let width := Text.width cluster
    if a.right < x + width then c
    else
      let symbol := String.ofList cluster
      let written :=
        if isFirst then c.put x a.y symbol s
        else if x = a.x then c.attach x a.y symbol s
        else if width = 0 then c.attach (x - 1) a.y symbol s
        else c.put x a.y symbol s
      write (written.modifyRun (x + 1) a.y (fun _ => {}) (width - 1)) a s (x + width) false rest

/-- Cells that a symbol takes on a terminal, which shows no symbol in less than one. -/
def Cell.width (k : Cell) : Nat := max 1 (Text.width k.symbol.toList)

/-- The symbols of a row from cell `x` on, as a terminal shows them: a wide symbol hides the cells
behind it. -/
def shownFrom (c : Canvas) (y x : Nat) : List Cell :=
  if x < c.width then c.cell x y :: c.shownFrom y (x + Cell.width (c.cell x y)) else []
termination_by c.width - x
decreasing_by simp only [Cell.width]; omega

/-- The text of each row. -/
def lines (c : Canvas) : List String :=
  (List.range c.height).map fun y => String.join ((c.shownFrom y 0).map (·.symbol))

/-- What a terminal shows in each cell of a row; hidden cells are blank. -/
def shownCells (c : Canvas) (y : Nat) : List Cell :=
  ((c.shownFrom y 0).flatMap fun k => k :: List.replicate (Cell.width k - 1) {}).take c.width

end Canvas

end ColumnMap.Screen
