import Mathlib.Data.List.Induction
import ColumnMap.Proofs.App.Desk
import ColumnMap.Proofs.Mapping.File

/-!
What the program puts on the clipboard is a mapping file of the committed list. A clipboard that
cannot be used keeps what it has.
-/

namespace ColumnMap

open Console

/-! ### One step -/

namespace App

theorem clipboard_opened (a : App) (r : Reply) : (a.opened r).1.clipboard = a.clipboard := by
  unfold opened
  split <;> rfl

theorem clipboard_removeSelected (a : App) : a.removeSelected.1.clipboard = a.clipboard := by
  simp only [removeSelected]
  split
  · unfold clampSelection
    split <;> rfl
  · rfl

theorem clipboard_act (a : App) (action : Action) : (a.act action).1.clipboard = a.clipboard := by
  cases action with
  | save =>
    simp only [act, save]
    split <;> rfl
  | _ => rfl

theorem clipboard_settle (a : App) (m : Settled) : (a.settle m).1.clipboard = a.clipboard := by
  simp only [settle]
  split <;> rfl

/-- The text on the clipboard of `b` is that of the list that `a` has committed, if it is not the
one that `a` has there. -/
def Copies (a b : App) : Prop :=
  b.clipboard.text = a.clipboard.text ∨
    b.clipboard.text = some (Mapping.toText a.editor.mappings)

theorem copies_of_eq {a b : App} (h : b.clipboard = a.clipboard) : a.Copies b :=
  .inl (congrArg Clipboard.text h)

theorem copies_mainKey (a : App) (code : KeyCode) : a.Copies (a.mainKey code).1 := by
  cases a.operates_mainKey code with
  | openNew opened => exact opened ▸ copies_of_eq (a.clipboard_opened _)
  | edit opened => exact opened ▸ copies_of_eq (a.clipboard_opened _)
  | remove removed => exact removed ▸ copies_of_eq a.clipboard_removeSelected
  | copy clipboard _ _ put copied =>
    rw [copied]
    rcases put with rfl | rfl
    · exact .inr rfl
    · exact .inl rfl
  | nothing same | quit _ same | help same | previous same | next same =>
    rw [same]
    exact .inl rfl

theorem copies_key (a : App) (k : Key) : a.Copies (a.key k).1 := by
  cases a.reaches_key k with
  | ignored _ same =>
    rw [same]
    exact .inl rfl
  | help _ _ _ _ kept =>
    rw [kept]
    exact .inl rfl
  | form _ _ _ action form _ acted =>
    rw [acted]
    exact copies_of_eq (clipboard_act { a with form := form } action)
  | main _ _ _ typed =>
    rw [typed]
    exact a.copies_mainKey k.code

/-- On the main screen the letter y puts the committed list on the clipboard. If the clipboard
cannot be used it stays as it is, and all that happens beside the notice is a warning in the log. -/
theorem key_copies {a : App} {k : Key} (press : k.kind = .press) (letter : k.code = .char 'y')
    (overlay : a.overlay = none) (closed : a.editor.isOpen = false) :
    (a.clipboard.fault = none ∧ (a.key k).2 = [] ∧ ∃ text,
      (a.key k).1.clipboard.text = some text ∧ Mapping.ofText text = .ok a.editor.mappings) ∨
    (a.clipboard.fault ≠ none ∧ (a.key k).1.clipboard = a.clipboard ∧
      ∃ line, line.level = .warn ∧ (a.key k).2 = [.log line]) := by
  have typed : a.key k = a.copyMappings := by simp [key, press, letter, overlay, closed, mainKey]
  rw [typed, copyMappings]
  rcases a.clipboard.copy_cases (Mapping.toText a.editor.mappings) with
    ⟨usable, copied⟩ | ⟨causes, fault, failed⟩
  · rw [copied]
    exact .inl ⟨usable, rfl, _, rfl, Mapping.ofText_toText _⟩
  · rw [failed]
    exact .inr ⟨by simp [fault], rfl, _, rfl, rfl⟩

end App

/-! ### Runs -/

namespace Desk

theorem copies_step (d : Desk) (ev : Event) : d.app.Copies (d.step ev).app := by
  cases ev with
  | key k => exact d.app.copies_key k
  | openNew => exact App.copies_of_eq (d.app.clipboard_opened _)
  | editSelected => exact App.copies_of_eq (d.app.clipboard_opened _)
  | removeSelected => exact App.copies_of_eq d.app.clipboard_removeSelected
  | act action => exact App.copies_of_eq (d.app.clipboard_act action)
  | deliver place =>
    simp only [step]
    split
    · exact .inl rfl
    · next m _ => exact App.copies_of_eq (d.app.clipboard_settle m)
  | selectPrevious | selectNext | tick _ | clipboard _ | lookup _ => exact .inl rfl

/-- In every run, a text on the clipboard is a mapping file of the list that was committed at some
time of the run. -/
theorem copied_run (dataSource : DataSource) (source : String) (initial : List Mapping)
    (log : Log.Buffer) (events : List Event) {text : String}
    (copied : ((start dataSource source initial log).run events).app.clipboard.text = some text) :
    ∃ before, before <+: events ∧ Mapping.ofText text =
      .ok ((start dataSource source initial log).run before).app.editor.mappings := by
  induction events using List.reverseRecOn with
  | nil => cases copied
  | append_singleton events ev ih =>
    rw [run_append, run_cons, run_nil] at copied
    rcases copies_step _ ev with kept | put
    · obtain ⟨before, earlier, reads⟩ := ih (kept.symm.trans copied)
      exact ⟨before, earlier.trans (List.prefix_append _ _), reads⟩
    · refine ⟨events, List.prefix_append _ _, ?_⟩
      obtain rfl := Option.some.inj (put.symm.trans copied)
      exact Mapping.ofText_toText _

end Desk

end ColumnMap
