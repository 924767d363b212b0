import ColumnMap.App.Desk
import ColumnMap.Lookup.Demo
import ColumnMap.Proofs.Screen.Canvas

/-!
Where the windows on top of the main screen lie. The popover and the list of keys are cut to the
screen. A toast has three rows whatever the screen has, so on a lower screen it cannot be drawn.
-/

namespace ColumnMap.Screen

/-! ### Areas in 16 bits -/

/-- A sum, if it takes no more than 16 bits. -/
def sum16? (m n : Nat) : Option Nat := if m + n < UInt16.size then some (m + n) else none

theorem sum16?_of_lt {m n : Nat} (h : m + n < UInt16.size) : sum16? m n = some (m + n) := if_pos h

namespace Area

variable (a : Area) (width height : Nat)

/-- An area of the given size in the middle, cut to fit, if all sums take no more than 16 bits. -/
def centered16? : Option Area := do
  let x ← sum16? a.x ((a.width - width) / 2)
  let y ← sum16? a.y ((a.height - height) / 2)
  some ⟨x, y, min width a.width, min height a.height⟩

theorem centered16?_whole (screenWidth screenHeight : UInt16) :
    (whole screenWidth.toNat screenHeight.toNat).centered16? width height =
      some ((whole screenWidth.toNat screenHeight.toNat).centered width height) := by
  have wide : screenWidth.toNat < UInt16.size := screenWidth.toNat_lt
  have high : screenHeight.toNat < UInt16.size := screenHeight.toNat_lt
  have x : 0 + (screenWidth.toNat - width) / 2 < UInt16.size := by omega
  have y : 0 + (screenHeight.toNat - height) / 2 < UInt16.size := by omega
  simp only [centered16?, centered, whole, sum16?_of_lt x, sum16?_of_lt y, Option.bind_eq_bind,
    Option.bind_some]

theorem centered_inside : (a.centered width height).Inside a := by
  simp only [Inside, centered, right, bottom]
  omega

end Area

/-- The area of the popover, if all sums take no more than 16 bits. -/
def Popover.area16? (screen : Area) : Option Area :=
  let isCompact := !(Breakpoint.ofWidth screen.width).atLeast .normal
  screen.centered16? (min (screen.width - 4) 90)
    (min (screen.height - 2) (if isCompact then 30 else 22))

/-- The area of the list of keys, if all sums take no more than 16 bits. -/
def Help.area16? (screen : Area) : Option Area := do
  let height ← sum16? content.length 2
  screen.centered16? 60 height

/-- The area of a toast, if all sums take no more than 16 bits. -/
def Notice.area16? (screen : Area) (message : String) : Option Area := do
  let wide ← sum16? (Text.width message.toList % UInt16.size) 4
  let width := min wide (screen.width - 4)
  let fromRight ← sum16? width 2
  let fromBottom ← sum16? 3 2
  some ⟨screen.right - fromRight, screen.bottom - fromBottom, width, 3⟩

namespace Notice

variable {width height : Nat} {message : String}

theorem area_of_fits (fits : Text.width message.toList + 4 < UInt16.size) :
    area (.whole width height) message =
      ⟨width - (min (Text.width message.toList + 4) (width - 4) + 2), height - 5,
        min (Text.width message.toList + 4) (width - 4), 3⟩ := by
  have own : Text.width message.toList < UInt16.size := by omega
  simp [area, Area.whole, Area.right, Area.bottom, Nat.mod_eq_of_lt own, Nat.mod_eq_of_lt fits]

theorem area16?_eq (fits : Text.width message.toList + 4 < UInt16.size)
    (right : width < UInt16.size) :
    area16? (.whole width height) message = some (area (.whole width height) message) := by
  have own : Text.width message.toList < UInt16.size := by omega
  have margin : min (Text.width message.toList + 4) (width - 4) + 2 < UInt16.size := by omega
  rw [area_of_fits fits]
  simp only [area16?, Nat.mod_eq_of_lt own, sum16?_of_lt fits, Area.whole, Area.right,
    Area.bottom, Nat.zero_add, Option.bind_eq_bind, Option.bind_some, sum16?_of_lt margin,
    sum16?_of_lt (show 3 + 2 < UInt16.size by decide)]

/-- The height of the screen alone decides whether a toast lies on it. -/
theorem inside_iff (fits : Text.width message.toList + 4 < UInt16.size) :
    (area (.whole width height) message).Inside (.whole width height) ↔ 3 ≤ height := by
  rw [area_of_fits fits]
  simp only [Area.Inside, Area.whole, Area.right, Area.bottom]
  omega

theorem isEmpty_iff (fits : Text.width message.toList + 4 < UInt16.size) :
    (area (.whole width height) message).isEmpty = true ↔ width ≤ 4 := by
  rw [area_of_fits fits]
  simp only [Area.isEmpty, Bool.or_eq_true, beq_iff_eq]
  omega

end Notice

/-! ### Drawing -/

theorem Canvas.clear?_of_inside {c : Canvas} {a : Area} (h : a.Inside c.area) :
    c.clear? a = some (c.modifyArea a fun _ => {}) := by
  simp [clear?, h]

theorem Canvas.isSome_clear? (c : Canvas) (a : Area) :
    (c.clear? a).isSome = true ↔ a.isEmpty = true ∨ a.Inside c.area := by
  unfold clear?
  split <;> simp_all

theorem Popover.exists_draw (c : Canvas) (a : App) :
    ∃ drawn, draw c a = some drawn ∧ drawn.area = c.area := by
  have inside : (area c.area).Inside c.area := c.area.centered_inside _ _
  simp only [draw, Canvas.clear?_of_inside inside, Option.map_some]
  refine ⟨_, rfl, ?_⟩
  split
  · simp only [Canvas.area_paragraph, Canvas.area_restyle, area_drawText, area_drawCustom]
    split <;> simp
  · simp

theorem Help.exists_draw (c : Canvas) : ∃ drawn, draw c = some drawn ∧ drawn.area = c.area := by
  have inside : (area c.area).Inside c.area := c.area.centered_inside _ _
  simp only [draw, Canvas.clear?_of_inside inside, Option.map_some]
  exact ⟨_, rfl, by simp⟩

theorem Notice.isSome_draw (c : Canvas) (message : String) :
    (draw c message).isSome = true ↔
      (area c.area message).isEmpty = true ∨ (area c.area message).Inside c.area := by
  simp [draw, Canvas.isSome_clear?]

/-- What lies under the toast is always drawn. -/
theorem exists_draw (a : App) (width height : Nat) :
    ∃ c : Canvas, c.area = .whole width height ∧
      draw a width height = a.toast.elim (some c) fun t => Notice.draw c t.message := by
  have main : (drawMain (.blank width height) a).area = .whole width height := area_drawMain _ a
  obtain ⟨popover, opened, inPopover⟩ := Popover.exists_draw (drawMain (.blank width height) a) a
  -- What is there without the toast depends on which of the other two windows are open.
  cases isOpen : a.editor.isOpen with
  | false =>
    cases overlay : a.overlay with
    | none =>
      refine ⟨_, main, ?_⟩
      cases toast : a.toast <;> simp [draw, isOpen, overlay, toast]
    | some o =>
      cases o
      obtain ⟨help, shown, inHelp⟩ := Help.exists_draw (drawMain (.blank width height) a)
      refine ⟨help, inHelp.trans main, ?_⟩
      cases toast : a.toast <;> simp [draw, isOpen, overlay, shown, toast]
  | true =>
    cases overlay : a.overlay with
    | none =>
      refine ⟨popover, inPopover.trans main, ?_⟩
      cases toast : a.toast <;> simp [draw, isOpen, overlay, opened, toast]
    | some o =>
      cases o
      obtain ⟨help, shown, inHelp⟩ := Help.exists_draw popover
      refine ⟨help, inHelp.trans (inPopover.trans main), ?_⟩
      cases toast : a.toast <;> simp [draw, isOpen, overlay, opened, shown, toast]

/-- A frame is drawn unless a toast has too few rows and some cell. -/
theorem isSome_draw (a : App) (width height : Nat)
    (h : ∀ t, a.toast = some t → Text.width t.message.toList + 4 < UInt16.size) :
    (draw a width height).isSome = true ↔ a.toast = none ∨ 3 ≤ height ∨ width ≤ 4 := by
  obtain ⟨c, covered, drawn⟩ := exists_draw a width height
  rw [drawn]
  cases toast : a.toast with
  | none => simp
  | some t =>
    have fits := h t toast
    rw [Option.elim_some, Notice.isSome_draw, covered, Notice.isEmpty_iff fits,
      Notice.inside_iff fits]
    simp only [reduceCtorEq, false_or]
    exact or_comm

/-- Where the windows lie on a screen, and when a frame is drawn. -/
structure Overlaid (a : App) (width height : Nat) : Prop where
  popover : Popover.area16? (.whole width height) = some (Popover.area (.whole width height)) ∧
    (Popover.area (.whole width height)).Inside (.whole width height)
  help : Help.area16? (.whole width height) = some (Help.area (.whole width height)) ∧
    (Help.area (.whole width height)).Inside (.whole width height)
  toast : ∀ message, Text.width message.toList < 65532 →
    Notice.area16? (.whole width height) message =
        some (Notice.area (.whole width height) message) ∧
      ((Notice.area (.whole width height) message).Inside (.whole width height) ↔ 3 ≤ height)
  /-- A toast of some cells on a lower screen is what no frame is drawn for. -/
  drawn : (∀ t, a.toast = some t → Text.width t.message.toList < 65532) →
    (draw a width height = none ↔ a.toast ≠ none ∧ height < 3 ∧ 4 < width)

/-- On screens of every size the popover and the list of keys fit, and a toast fits from three rows
on. -/
theorem overlaid_screen (a : App) (width height : UInt16) :
    Overlaid a width.toNat height.toNat where
  popover := ⟨Area.centered16?_whole _ _ width height, Area.centered_inside _ _ _⟩
  help := ⟨Area.centered16?_whole _ _ width height, Area.centered_inside _ _ _⟩
  toast := by
    intro message narrow
    have fits := Nat.add_lt_add_right narrow 4
    exact ⟨Notice.area16?_eq fits width.toNat_lt, Notice.inside_iff fits⟩
  drawn := by
    intro narrow
    have drawn := isSome_draw a width.toNat height.toNat fun t shown =>
      Nat.add_lt_add_right (narrow t shown) 4
    rw [← Option.not_isSome_iff_eq_none, drawn, not_or, not_or, Nat.not_le, Nat.not_le]

/-- The program right after its only mapping was removed. -/
def emptied : App :=
  ((Desk.start Lookup.Demo.dataSource "demo" [⟨"country", "India", "42"⟩] (.empty 1000)).step
    (.key (.plain (.char 'd')))).app

/-- Three rows are enough for the toast of the removal. -/
theorem overlaid_screen_emptied :
    Text.width "✓ Mapping removed".toList < 65532 ∧ draw emptied 80 3 ≠ none := by
  have narrow : ∀ t, emptied.toast = some t → Text.width t.message.toList < 65532 := by
    decide +kernel
  have held := overlaid_screen emptied 80 3
  refine ⟨by decide +kernel, fun missing => ?_⟩
  have low := ((held.drawn narrow).mp missing).2.1
  exact absurd low (by decide)

/-- On two rows it leaves the screen, and there is no frame. -/
theorem not_inside_emptied :
    ∃ t, emptied.toast = some t ∧ Text.width t.message.toList < 65532 ∧
      ¬ (Notice.area (.whole 80 2) t.message).Inside (.whole 80 2) ∧ draw emptied 80 2 = none := by
  refine ⟨⟨"✓ Mapping removed", 2000⟩, by decide +kernel, by decide +kernel, by decide +kernel, ?_⟩
  have narrow : ∀ t, emptied.toast = some t → Text.width t.message.toList + 4 < UInt16.size := by
    decide +kernel
  have toast : emptied.toast ≠ none := by decide +kernel
  have drawn := isSome_draw emptied 80 2 narrow
  simpa [toast] using drawn

end ColumnMap.Screen
