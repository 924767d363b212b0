import ColumnMap.Screen.Frame

/-!
Whatever is drawn on a screen, the screen keeps its size. Only a window that does not fit is not
drawn at all.
-/

namespace ColumnMap.Screen

namespace Canvas

variable (c : Canvas) (a : Area) (s : Style)

/-! ### Cells -/

@[simp] theorem area_modify (x y : Nat) (f : Cell → Cell) : (c.modify x y f).area = c.area := by
  unfold modify
  split <;> rfl

@[simp] theorem area_modifyRun (x y : Nat) (f : Cell → Cell) (n : Nat) :
    (c.modifyRun x y f n).area = c.area := by
  induction n generalizing c x with
  | zero => rfl
  | succ n ih => simp [modifyRun, ih]

@[simp] theorem area_modifyRows (x y width : Nat) (f : Cell → Cell) (n : Nat) :
    (c.modifyRows x y width f n).area = c.area := by
  induction n generalizing c y with
  | zero => rfl
  | succ n ih => simp [modifyRows, ih]

@[simp] theorem area_modifyArea (f : Cell → Cell) : (c.modifyArea a f).area = c.area := by
  simp [modifyArea]

@[simp] theorem area_restyle : (c.restyle a s).area = c.area := by simp [restyle]

@[simp] theorem area_put (x y : Nat) (symbol : String) : (c.put x y symbol s).area = c.area := by
  simp [put]

@[simp] theorem area_attach (x y : Nat) (mark : String) : (c.attach x y mark s).area = c.area := by
  simp [attach]

/-! ### Text -/

@[simp] theorem area_write (x : Nat) (isFirst : Bool) (clusters : List (List Char)) :
    (c.write a s x isFirst clusters).area = c.area := by
  induction clusters generalizing c x isFirst with
  | nil => rfl
  | cons cluster rest ih =>
    simp only [write]
    split
    · rfl
    · rw [ih, area_modifyRun]
      split
      · simp
      · split
        · simp
        · split <;> simp

@[simp] theorem area_span (text : Span) : (c.span a text).area = c.area := by
  unfold span
  split <;> simp

@[simp] theorem area_line (l : Line) : (c.line a l).area = c.area := by
  induction l generalizing c a with
  | nil => rfl
  | cons text rest ih =>
    simp only [line]
    split
    · exact ih c a
    · split <;> simp [ih]

@[simp] theorem area_place (x y : Nat) (clusters : List (List Char × Style)) :
    (c.place x y clusters).area = c.area := by
  induction clusters generalizing c x with
  | nil => rfl
  | cons cluster rest ih =>
    simp only [place]
    split <;> simp [ih]

@[simp] theorem area_paragraph (alignment : Alignment) (lines : List Line) :
    (c.paragraph a alignment lines).area = c.area := by
  induction lines generalizing c a with
  | nil => rfl
  | cons l rest ih =>
    simp only [paragraph]
    split <;> simp [ih]

/-! ### Frames and lists -/

@[simp] theorem area_rule (symbol : String) : (c.rule a symbol s).area = c.area := by simp [rule]

@[simp] theorem area_frame : (c.frame a s).area = c.area := by
  unfold frame
  split <;> simp

@[simp] theorem area_title (text : String) : (c.title a text).area = c.area := by
  simp only [title]
  split <;> simp

@[simp] theorem area_titleRight (text : String) : (c.titleRight a text).area = c.area := by
  simp only [titleRight]
  split <;> simp

@[simp] theorem area_panel (text : String) : (c.panel a s text).area = c.area := by simp [panel]

theorem area_foldl {β : Type} {f : Canvas → β → Canvas} (h : ∀ c b, (f c b).area = c.area)
    (items : List β) : (items.foldl f c).area = c.area := by
  induction items generalizing c with
  | nil => rfl
  | cons item rest ih => rw [List.foldl_cons, ih, h]

@[simp] theorem area_rows (highlight : Style) (selected : Option Nat) (items : List Line) :
    (c.rows a highlight selected items).area = c.area := by
  simp only [rows]
  split
  · rfl
  · apply area_foldl
    intro c item
    split <;> simp

end Canvas

/-! ### The main screen -/

variable (c : Canvas) (area : Area) (a : App)

@[simp] theorem Title.area_draw : (Title.draw c area a).area = c.area := by simp [Title.draw]

@[simp] theorem Mappings.area_draw : (Mappings.draw c area a).area = c.area := by
  simp only [Mappings.draw]
  split <;> simp

@[simp] theorem Logs.area_draw : (Logs.draw c area a).area = c.area := by
  simp only [Logs.draw]
  split <;> simp

@[simp] theorem Status.area_draw : (Status.draw c area a).area = c.area := by simp [Status.draw]

@[simp] theorem area_drawMain : (drawMain c a).area = c.area := by
  unfold drawMain
  split <;> simp

/-! ### The popover -/

namespace Popover

@[simp] theorem area_fieldPanel (f : Field) (title : String) :
    (fieldPanel c area a f title).area = c.area := by
  simp [fieldPanel]

@[simp] theorem area_drawColumns : (drawColumns c area a).area = c.area := by simp [drawColumns]

@[simp] theorem area_drawValues : (drawValues c area a).area = c.area := by
  unfold drawValues
  split <;> simp

@[simp] theorem area_drawText (f : Field) (text : String) :
    (drawText c area a f text).area = c.area := by
  simp [drawText]

@[simp] theorem area_drawCustom : (drawCustom c area a).area = c.area := by
  unfold drawCustom
  split <;> simp

end Popover

end ColumnMap.Screen
