/-!
Rectangles of cells, and how the screen and the popover are divided into them.
-/

namespace ColumnMap.Screen

/-- A rectangle of cells; rows are counted from the top. -/
structure Area where
  x : Nat
  y : Nat
  width : Nat
  height : Nat
  deriving DecidableEq, Repr

namespace Area

def right (a : Area) : Nat := a.x + a.width
def bottom (a : Area) : Nat := a.y + a.height
def isEmpty (a : Area) : Bool := a.width == 0 || a.height == 0

/-- The whole of a screen. -/
def whole (width height : Nat) : Area := ⟨0, 0, width, height⟩

/-- Every cell of `a` is a cell of `b`. -/
def Inside (a b : Area) : Prop :=
  b.x ≤ a.x ∧ b.y ≤ a.y ∧ a.right ≤ b.right ∧ a.bottom ≤ b.bottom

instance (a b : Area) : Decidable (a.Inside b) := by unfold Inside; infer_instance

/-- The cells inside a frame along the border of the area. -/
def inner (a : Area) : Area :=
  ⟨min (a.x + 1) a.right, min (a.y + 1) a.bottom, a.width - 2, a.height - 2⟩

/-- The cells below a line along the top. -/
def belowLine (a : Area) : Area := ⟨a.x, min (a.y + 1) a.bottom, a.width, a.height - 1⟩

/-- The cells from column `n` of the area on. -/
def indent (a : Area) (n : Nat) : Area := { a with x := a.x + n, width := a.width - n }

/-- An area of the given size in the middle, cut to fit. -/
def centered (a : Area) (width height : Nat) : Area :=
  ⟨a.x + (a.width - width) / 2, a.y + (a.height - height) / 2, min width a.width,
    min height a.height⟩

/-- Areas below each other with the given heights. -/
def stack (a : Area) : List Nat → List Area
  | [] => []
  | h :: rest => { a with height := h } :: stack { a with y := a.y + h } rest

/-- Areas beside each other with the given widths. -/
def beside (a : Area) : List Nat → List Area
  | [] => []
  | w :: rest => { a with width := w } :: beside { a with x := a.x + w } rest

end Area

/-- The nearest whole number to `p / q`; a half goes up. -/
def nearest (p q : Nat) : Nat := (2 * p + q) / (2 * q)

/-- The differences of neighbours. -/
def steps : List Nat → List Nat
  | a :: b :: rest => (b - a) :: steps (b :: rest)
  | _ => []

/-- Divides `total` into `count` equal parts, whose ends go to the nearest cell. -/
def equalParts (total count : Nat) : List Nat :=
  steps ((List.range (count + 1)).map fun k => nearest (k * total) count)

/-- Divides `total` in the proportion of two to three. -/
def twoToThree (total : Nat) : List Nat :=
  let first := nearest (2 * total) 5
  [first, total - first]

/-- Heights of the title, the committed list, the log and the status bar. The list takes what the
others leave. Where there is too little for all, the list keeps six rows; the log gives way first,
down to the height of the status bar, then both in equal parts, then the title. -/
def screenRows (height : Nat) : List Nat :=
  if 19 ≤ height then [3, height - 13, 8, 2]
  else if 13 ≤ height then [3, 6, height - 11, 2]
  else if 9 ≤ height then [3, 6] ++ equalParts (height - 9) 2
  else if 6 ≤ height then [height - 6, 6, 0, 0]
  else [0, height, 0, 0]

/-- Heights of the two lists of the popover, the field for free text, the note and the footer. The
lists take what the others leave, and keep four rows where there is too little for all. -/
def popoverRows (height : Nat) : List Nat :=
  if 11 ≤ height then [height - 7, 3, 3, 1]
  else if 7 ≤ height then 4 :: equalParts (height - 5) 2 ++ [1]
  else if 4 ≤ height then 4 :: equalParts (height - 4) 3
  else [height, 0, 0, 0]

/-- Classes of screens by their width. -/
inductive Breakpoint where
  | compact | normal | wide
  deriving DecidableEq, Repr

namespace Breakpoint

def ofWidth (width : Nat) : Breakpoint :=
  if width < 70 then .compact else if width < 120 then .normal else .wide

def rank : Breakpoint → Nat
  | .compact => 0
  | .normal => 1
  | .wide => 2

/-- At least as wide as `b`. -/
def atLeast (a b : Breakpoint) : Bool := b.rank ≤ a.rank

end Breakpoint

end ColumnMap.Screen
