import ColumnMap.Proofs.App.Display
import ColumnMap.Proofs.App.Keyboard
import ColumnMap.Proofs.App.Layers

/-!
Typing in the text fields of the popover. A text field is a stack of characters: a character is
pushed, and backspace takes the last one away. Whatever the lookups do meanwhile, nothing else of
the draft changes but the value, which follows the field for free text.
-/

namespace ColumnMap

open Console Screen

/-! ### Strokes -/

/-- A key that edits text. -/
inductive Stroke where
  | char (c : Char)
  | backspace
  deriving DecidableEq, Repr

namespace Stroke

def code : Stroke → KeyCode
  | char c => .char c
  | backspace => .backspace

/-- The key is pressed and makes the stroke. -/
structure Strikes (s : Stroke) (k : Key) : Prop where
  press : k.kind = .press
  bare : k.ctrl = false
  code : k.code = s.code

/-- The end of the text is the top of the stack. -/
def edit : Stroke → List Char → List Char
  | char c, text => text ++ [c]
  | backspace, text => text.dropLast

/-- A text after some strokes. -/
def editAll (text : List Char) (strokes : List Stroke) : List Char :=
  strokes.foldl (fun text s => s.edit text) text

/-- Whether one of the strokes has an effect, as backspace has none on the empty text. -/
def alters (text : List Char) : List Stroke → Bool
  | [] => false
  | s :: strokes => s.edit text != text || alters (s.edit text) strokes

@[simp] theorem editAll_nil (text : List Char) : editAll text [] = text := rfl
@[simp] theorem editAll_cons (text : List Char) (s : Stroke) (strokes : List Stroke) :
    editAll text (s :: strokes) = editAll (s.edit text) strokes := rfl

theorem edit_eq_self_iff {s : Stroke} {text : List Char} :
    s.edit text = text ↔ s = backspace ∧ text = [] := by
  cases s with
  | char c => simp [edit]
  | backspace =>
    simp only [edit, true_and]
    constructor
    · intro same
      have shorter := congrArg List.length same
      rw [List.length_dropLast] at shorter
      exact List.length_eq_zero_iff.mp (by omega)
    · rintro rfl
      rfl

theorem editAll_of_unaltered {text : List Char} {strokes : List Stroke}
    (h : alters text strokes = false) : editAll text strokes = text := by
  induction strokes generalizing text with
  | nil => rfl
  | cons s strokes ih =>
    simp only [alters, Bool.or_eq_false_iff, bne_eq_false_iff_eq] at h
    rw [editAll_cons, ih h.2, h.1]

theorem editText_code (s : Stroke) (text : String) :
    editText s.code text =
      if s.edit text.toList = text.toList then none
      else some (String.ofList (s.edit text.toList)) := by
  have same : s.edit text.toList = text.toList ↔ s = backspace ∧ text.toList = [] :=
    edit_eq_self_iff
  cases s with
  | char c =>
    have longer : ¬ (char c).edit text.toList = text.toList := by simp [same]
    have pushed : some (text.push c) = some (String.ofList ((char c).edit text.toList)) := by
      simp only [edit, Option.some.injEq, ← String.toList_inj]
      simp
    exact pushed.trans (if_neg longer).symm
  | backspace =>
    have empty : text.isEmpty = true ↔ backspace.edit text.toList = text.toList := by simp [same]
    exact if_congr empty rfl rfl

end Stroke

/-! ### Text fields -/

inductive TextField where
  | custom | auxiliary
  deriving DecidableEq, Repr

namespace TextField

def field : TextField → Field
  | custom => .custom
  | auxiliary => .auxiliary

/-- What stands in the field. -/
def text : TextField → Draft → String
  | custom, d => d.typed
  | auxiliary, d => d.auxiliary

def chars (t : TextField) (d : Draft) : List Char := (t.text d).toList

/-- The draft with another text in the field. -/
def write : TextField → Draft → String → Draft
  | custom, d, text =>
    { d with typed := text, value := if text.isEmpty then none else some (.text text) }
  | auxiliary, d, text => { d with auxiliary := text }

def action : TextField → String → Action
  | custom => .setTyped
  | auxiliary => .setAuxiliary

@[simp] theorem text_write (t : TextField) (d : Draft) (s : String) :
    t.text (t.write d s) = s := by
  cases t <;> rfl

@[simp] theorem chars_write (t : TextField) (d : Draft) (s : String) :
    t.chars (t.write d s) = s.toList := by
  rw [chars, text_write]

@[simp] theorem write_write (t : TextField) (d : Draft) (a b : String) :
    t.write (t.write d a) b = t.write d b := by
  cases t <;> rfl

end TextField

/-- In a text field a key makes its stroke, and asks for nothing if that has no effect. -/
theorem Form.key_stroke {f : Form} {t : TextField} (focus : f.focus = t.field) (draft : Draft)
    (columns : List String) {s : Stroke} {k : Key} (struck : s.Strikes k) :
    f.key draft columns k =
      (if s.edit (t.chars draft) = t.chars draft then .none
        else t.action (String.ofList (s.edit (t.chars draft))), f) := by
  have reached : f.key draft columns k = f.textKey (t.text draft) t.action s.code := by
    cases t <;> cases s <;>
      simp [key, struck.bare, struck.code, focus, Stroke.code, TextField.field, TextField.text,
        TextField.action]
  have unsaved : s.code ≠ .enter := by cases s <;> simp [Stroke.code]
  rw [reached, textKey, if_neg unsaved, s.editText_code, TextField.chars]
  by_cases same : s.edit (t.text draft).toList = (t.text draft).toList
  · rw [if_pos same, if_pos same]
  · rw [if_neg same, if_neg same]

namespace Editor

/-- The editor with another text in a field of its draft. -/
def write (e : Editor) (t : TextField) (text : String) : Editor :=
  { e with draft := t.write e.draft text }

/-- The editor after some strokes in a field of its draft. It is untouched until a stroke has an
effect. -/
def typed (e : Editor) (t : TextField) (strokes : List Stroke) : Editor :=
  if Stroke.alters (t.chars e.draft) strokes then
    e.write t (String.ofList (Stroke.editAll (t.chars e.draft) strokes))
  else e

theorem chars_typed (e : Editor) (t : TextField) (strokes : List Stroke) :
    t.chars (e.typed t strokes).draft = Stroke.editAll (t.chars e.draft) strokes := by
  unfold typed
  split
  · simp [write]
  · next unaltered => rw [Stroke.editAll_of_unaltered (by simpa using unaltered)]

/-- The first stroke, and then the others. -/
theorem typed_cons (e : Editor) (t : TextField) (s : Stroke) (strokes : List Stroke) :
    e.typed t (s :: strokes) = (e.typed t [s]).typed t strokes := by
  have first : t.chars (e.typed t [s]).draft = s.edit (t.chars e.draft) := e.chars_typed t [s]
  by_cases same : s.edit (t.chars e.draft) = t.chars e.draft
  · -- Backspace on the empty text: neither the text nor the value is written.
    have rests : e.typed t [s] = e := by simp [typed, Stroke.alters, same]
    rw [rests]
    simp [typed, Stroke.alters, same]
  · have writes : e.typed t [s] = e.write t (String.ofList (s.edit (t.chars e.draft))) := by
      simp [typed, Stroke.alters, same]
    have altered : Stroke.alters (t.chars e.draft) (s :: strokes) = true := by
      simp [Stroke.alters, same]
    rw [typed, if_pos altered, Stroke.editAll_cons, typed, first, writes]
    split
    · simp [write]
    · next unaltered => rw [Stroke.editAll_of_unaltered (by simpa using unaltered)]

theorem outline_write (e : Editor) (t : TextField) (text : String) :
    (e.write t text).outline = e.outline.write t text := by
  cases t <;> rfl

theorem chars_outline (e : Editor) (t : TextField) :
    t.chars e.outline.draft = t.chars e.draft := by
  cases t <;> rfl

theorem outline_typed (e : Editor) (t : TextField) (strokes : List Stroke) :
    (e.typed t strokes).outline = e.outline.typed t strokes := by
  unfold typed
  rw [chars_outline]
  split
  · exact e.outline_write t _
  · rfl

theorem isOpen_typed (e : Editor) (t : TextField) (strokes : List Stroke) :
    (e.typed t strokes).isOpen = e.isOpen := by
  unfold typed
  split <;> rfl

end Editor

theorem App.act_action {a : App} (opened : a.editor.isOpen = true) (t : TextField)
    (text : String) :
    a.act (t.action text) = ({ a with editor := a.editor.write t text }, []) := by
  cases t <;>
    simp [act, TextField.action, perform, Editor.perform, Editor.setTyped, Editor.setAuxiliary,
      opened, adopt, Editor.write, TextField.write]

/-- A stroke over a text field of the popover. -/
theorem App.key_stroke {a : App} {t : TextField} (opened : a.editor.isOpen = true)
    (overlay : a.overlay = none) (focus : a.form.focus = t.field) {s : Stroke} {k : Key}
    (struck : s.Strikes k) :
    a.key k = ({ a with editor := a.editor.typed t [s] }, []) := by
  have reached := key_in_form overlay struck.press opened
  simp only [Form.key_stroke focus _ _ struck] at reached
  rw [reached, Editor.typed]
  by_cases same : s.edit (t.chars a.editor.draft) = t.chars a.editor.draft
  · rw [if_pos same]
    simp [Stroke.alters, same, act]
  · rw [if_neg same, act_action opened]
    simp [Stroke.alters, same]

namespace Desk

/-- Strokes while the lookups go on, messages are delivered, the time is told and the clipboard comes
and goes. -/
inductive Types : List Event → List Stroke → Prop
  | nil : Types [] []
  | stroke {events : List Event} {strokes : List Stroke} {s : Stroke} {k : Key}
      (struck : s.Strikes k) (rest : Types events strokes) : Types (.key k :: events) (s :: strokes)
  | lookup {events : List Event} {strokes : List Stroke} (st : Traffic.Step)
      (rest : Types events strokes) : Types (.lookup st :: events) strokes
  | deliver {events : List Event} {strokes : List Stroke} (place : Nat)
      (rest : Types events strokes) : Types (.deliver place :: events) strokes
  | tick {events : List Event} {strokes : List Stroke} (now : Nat)
      (rest : Types events strokes) : Types (.tick now :: events) strokes
  | clipboard {events : List Event} {strokes : List Stroke} (fault : Option (List String))
      (rest : Types events strokes) : Types (.clipboard fault :: events) strokes

/-- The keys go to a text field of the popover. The editor is `e` but for what lookups have
brought, and the parent form has been told `told`. -/
structure Faces (d : Desk) (t : TextField) (e : Editor) (told : List (List Mapping)) : Prop where
  opened : d.app.editor.isOpen = true
  outline : d.app.editor.outline = e.outline
  overlay : d.app.overlay = none
  focus : d.app.form.focus = t.field
  changes : d.traffic.changes = told

namespace Faces

variable {d : Desk} {t : TextField} {e : Editor} {told : List (List Mapping)}

theorem stroke (h : d.Faces t e told) {s : Stroke} {k : Key} (struck : s.Strikes k) :
    (d.step (.key k)).Faces t (e.typed t [s]) told := by
  rw [step, App.key_stroke h.opened h.overlay h.focus struck]
  refine ⟨?_, ?_, h.overlay, h.focus, h.changes⟩
  · exact (d.app.editor.isOpen_typed t [s]).trans h.opened
  · simp only [after, Editor.outline_typed, h.outline]

theorem deliver (h : d.Faces t e told) (place : Nat) :
    (d.step (.deliver place)).Faces t e told := by
  simp only [step]
  split
  · exact h
  · next m _ =>
    have outline : (d.app.settle m).1.editor.outline = d.app.editor.outline := by
      rw [App.editor_settle, Editor.outline_applyLookup]
    have focus : (d.app.settle m).1.form.focus = d.app.form.focus := by
      simp only [App.settle]
      split <;> rfl
    refine ⟨(congrArg (·.isOpen) outline).trans h.opened, outline.trans h.outline,
      (d.app.frames_settle m).overlay.trans h.overlay, focus.trans h.focus, ?_⟩
    simp only [after, App.settle, Traffic.changes_absorbAll, Editor.changesOf_applyLookup,
      List.append_nil, h.changes]

/-- By induction on the events: strokes go into the text, and whatever else happens reaches nothing
of the outline. -/
theorem run (h : d.Faces t e told) {events : List Event} {strokes : List Stroke}
    (typed : Types events strokes) : (d.run events).Faces t (e.typed t strokes) told := by
  induction typed generalizing d e with
  | nil => exact h
  | stroke struck _ ih =>
    rw [Editor.typed_cons]
    exact ih (h.stroke struck)
  | lookup st _ ih =>
    exact ih ⟨h.opened, h.outline, h.overlay, h.focus, (d.traffic.changes_step st).trans h.changes⟩
  | deliver place _ ih => exact ih (h.deliver place)
  | tick now _ ih => exact ih ⟨h.opened, h.outline, h.overlay, h.focus, h.changes⟩
  | clipboard fault _ ih => exact ih ⟨h.opened, h.outline, h.overlay, h.focus, h.changes⟩

end Faces

/-- A column is selected, and the field for free text gets the focus while the values are loaded. -/
def untyped : List Event :=
  [.key (.plain (.char 'a')), .key (.plain .enter), .lookup (.call ⟨1⟩), .key (.plain .tab)]

/-- Two letters are typed, the values arrive, and the second letter is taken away. -/
def letters : List Event :=
  [.key (.plain (.char 'q')), .lookup (.answer ⟨1⟩ (.ok [.text "India"])),
    .key (.plain (.char 'é')), .lookup (.finish ⟨1⟩ true), .deliver 0, .key (.plain .backspace)]

end Desk

end ColumnMap
