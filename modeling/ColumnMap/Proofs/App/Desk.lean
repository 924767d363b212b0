import ColumnMap.App.Desk
import ColumnMap.Editor.World
import ColumnMap.Proofs.Editor.Selection

/-!
The program does nothing with its editor but what a user of the editor could do. Every run of the
program with its lookups is therefore matched by a run of the editor's world, which agrees with it
on the editor and, but for the log, on the lookups.
-/

namespace ColumnMap

open Console

/-! ### The editor within the program -/

theorem Clipboard.copy_cases (c : Clipboard) (text : String) :
    (c.fault = none ∧ c.copy text = .ok { c with text := some text }) ∨
      ∃ causes, c.fault = some causes ∧ c.copy text = .error ⟨"Clipboard copy failed", causes⟩ := by
  cases fault : c.fault with
  | none => exact .inl ⟨rfl, by simp [Clipboard.copy, fault]⟩
  | some causes => exact .inr ⟨causes, rfl, by simp [Clipboard.copy, fault]⟩

namespace App

/-- What the program did with its editor: nothing that goes beyond the log, or one operation. -/
inductive Works (a : App) (r : App × List Effect) : Prop
  | rests (editor : r.1.editor = a.editor) (logs : ∀ e ∈ r.2, ∃ line, e = .log line)
  | performs (op : Operation) (editor : r.1.editor = (a.editor.perform op).editor)
      (effects : r.2 = (a.editor.perform op).effects)

theorem works_of_editor_eq {a b : App} (h : b.editor = a.editor) : a.Works (b, []) :=
  .rests h (by simp)

theorem editor_opened (a : App) (r : Reply) : (a.opened r).1.editor = r.editor := by
  unfold opened
  split <;> rfl

theorem editor_clampSelection (a : App) : a.clampSelection.editor = a.editor := by
  unfold clampSelection
  split <;> rfl

theorem editor_removeSelected (a : App) :
    a.removeSelected.1.editor = (a.editor.remove a.selected).editor := by
  simp only [removeSelected]
  split
  · exact editor_clampSelection _
  · rfl

theorem editor_save (a : App) : a.save.1.editor = a.editor.commit.editor := by
  simp only [save]
  split <;> rfl

theorem editor_settle (a : App) (m : Settled) :
    (a.settle m).1.editor = (a.editor.applyLookup m).editor := by
  simp only [settle]
  split <;> rfl

theorem works_openNew (a : App) : a.Works a.openNew :=
  .performs .openNew (a.editor_opened _) rfl

theorem works_editSelected (a : App) : a.Works a.editSelected :=
  .performs (.edit a.selected) (a.editor_opened _) rfl

theorem works_removeSelected (a : App) : a.Works a.removeSelected :=
  .performs (.remove a.selected) a.editor_removeSelected rfl

theorem works_perform (a : App) (op : Operation) : a.Works (a.perform op) := .performs op rfl rfl

theorem works_act (a : App) (action : Action) : a.Works (a.act action) := by
  cases action with
  | none => exact works_of_editor_eq rfl
  | save => exact .performs .commit a.editor_save rfl
  | _ => exact a.works_perform _

/-! ### Keys -/

/-- What a key on the main screen does. -/
inductive Operates (a : App) (code : KeyCode) (r : App × List Effect) : Prop
  | nothing (same : r = (a, []))
  | quit (letter : code = .char 'q' ∨ code = .char 'Q')
      (ended : r = ({ a with shouldQuit := true }, []))
  | help (covered : r = ({ a with overlay := some .help }, []))
  | openNew (opened : r = a.openNew)
  | edit (opened : r = a.editSelected)
  | remove (removed : r = a.removeSelected)
  | previous (moved : r = (a.selectPrevious, []))
  | next (moved : r = (a.selectNext, []))
  /-- The committed list is on the clipboard, or the clipboard is as it was and the log says why. -/
  | copy (clipboard : Clipboard) (toast : Option Toast) (lines : List Log.Line)
      (put : clipboard = { a.clipboard with text := some (Mapping.toText a.editor.mappings) } ∨
        clipboard = a.clipboard)
      (copied : r = ({ a with clipboard, toast }, lines.map Effect.log))

theorem operates_copyMappings (a : App) (code : KeyCode) : a.Operates code a.copyMappings := by
  unfold copyMappings
  rcases a.clipboard.copy_cases (Mapping.toText a.editor.mappings) with ⟨-, copied⟩ | ⟨_, -, failed⟩
  · rw [copied]
    exact .copy _ _ [] (.inl rfl) rfl
  · rw [failed]
    exact .copy a.clipboard _ [_] (.inr rfl) rfl

theorem operates_mainKey (a : App) (code : KeyCode) : a.Operates code (a.mainKey code) := by
  unfold mainKey
  split
  · exact .quit (.inl rfl) rfl
  · exact .quit (.inr rfl) rfl
  · exact .help rfl
  · exact .openNew rfl
  · exact .openNew rfl
  · exact .edit rfl
  · exact .remove rfl
  · exact .remove rfl
  · exact .previous rfl
  · exact .previous rfl
  · exact .next rfl
  · exact .next rfl
  · exact a.operates_copyMappings _
  · exact .nothing rfl

theorem works_mainKey (a : App) (code : KeyCode) : a.Works (a.mainKey code) := by
  cases a.operates_mainKey code with
  | openNew opened => exact opened ▸ a.works_openNew
  | edit opened => exact opened ▸ a.works_editSelected
  | remove removed => exact removed ▸ a.works_removeSelected
  | copy _ _ _ _ copied =>
    rw [copied]
    exact .rests rfl (by simp)
  | nothing h | quit _ h | help h | previous h | next h =>
    rw [h]
    exact works_of_editor_eq rfl

/-- What a key does, by the layer that takes it. -/
inductive Reaches (a : App) (k : Key) (r : App × List Effect) : Prop
  | ignored (unpressed : k.kind ≠ .press) (same : r = (a, []))
  /-- The list of keys stays open or is closed. -/
  | help (press : k.kind = .press) (covered : a.overlay ≠ none) (overlay : Option Overlay)
      (left : overlay = a.overlay ∨ overlay = none) (kept : r = ({ a with overlay := overlay }, []))
  | form (press : k.kind = .press) (overlay : a.overlay = none) (opened : a.editor.isOpen = true)
      (action : Action) (form : Form)
      (answer : a.form.key a.editor.draft a.editor.dataSource.columns k = (action, form))
      (acted : r = { a with form := form }.act action)
  | main (press : k.kind = .press) (overlay : a.overlay = none) (closed : a.editor.isOpen = false)
      (typed : r = a.mainKey k.code)

theorem reaches_key (a : App) (k : Key) : a.Reaches k (a.key k) := by
  by_cases press : k.kind = .press
  · cases overlay : a.overlay with
    | some o =>
      have covered : a.overlay ≠ none := by simp [overlay]
      have taken : a.key k =
          (if o.isClosedBy k.code then { a with overlay := none } else a, []) := by
        simp [key, press, overlay]
      split at taken
      · exact .help press covered none (.inr rfl) taken
      · exact .help press covered a.overlay (.inl rfl) taken
    | none =>
      cases opened : a.editor.isOpen with
      | true =>
        rcases answer : a.form.key a.editor.draft a.editor.dataSource.columns k with ⟨action, form⟩
        refine .form press overlay opened action form answer ?_
        simp [key, press, overlay, opened, answer]
      | false => exact .main press overlay opened (by simp [key, press, overlay, opened])
  · exact .ignored press (by simp [key, press])

theorem works_key (a : App) (k : Key) : a.Works (a.key k) := by
  cases a.reaches_key k with
  | ignored _ same =>
    rw [same]
    exact works_of_editor_eq rfl
  | help _ _ overlay _ kept =>
    rw [kept]
    exact works_of_editor_eq rfl
  | form _ _ _ action form _ acted =>
    rw [acted]
    -- The form has changed by then, and the editor has not.
    rcases works_act { a with form := form } action with ⟨editor, logs⟩ | ⟨op, editor, effects⟩
    · exact .rests editor logs
    · exact .performs op editor effects
  | main _ _ _ typed =>
    rw [typed]
    exact a.works_mainKey k.code

end App

/-! ### Runs -/

namespace Desk

/-- The world has the editor of the program, and its lookups. -/
structure Shows (d : Desk) (w : World) : Prop where
  editor : w.editor = d.app.editor
  traffic : w.traffic.unlogged = d.traffic.unlogged

theorem Shows.queue {d : Desk} {w : World} (h : d.Shows w) : w.traffic.queue = d.traffic.queue :=
  congrArg (·.queue) h.traffic

theorem Shows.tasks {d : Desk} {w : World} (h : d.Shows w) : w.traffic.tasks = d.traffic.tasks :=
  congrArg (·.tasks) h.traffic

theorem shows_start (dataSource : DataSource) (source : String) (initial : List Mapping)
    (log : Log.Buffer) :
    (start dataSource source initial log).Shows (World.start dataSource source initial) :=
  ⟨rfl, rfl⟩

variable {d : Desk} {w : World}

theorem shows_after (h : d.Shows w) {r : App × List Effect} (works : d.app.Works r) :
    ∃ events, (d.after r).Shows (w.run events) := by
  cases works with
  | rests editor logs =>
    refine ⟨[], h.editor.trans editor.symm, ?_⟩
    exact h.traffic.trans (d.traffic.unlogged_absorbAll_logs logs).symm
  | performs op editor effects =>
    refine ⟨[.perform op], ?_, ?_⟩
    · simp only [World.run_cons, World.run_nil, World.step, World.after, h.editor]
      exact editor.symm
    · simp only [World.run_cons, World.run_nil, World.step, World.after, h.editor, after, effects]
      exact Traffic.unlogged_absorbAll h.traffic _

/-- What happens is matched by one event of the world or none. -/
theorem shows_step (h : d.Shows w) (ev : Event) : ∃ events, (d.step ev).Shows (w.run events) := by
  cases ev with
  | key k => exact shows_after h (d.app.works_key k)
  | openNew => exact shows_after h d.app.works_openNew
  | editSelected => exact shows_after h d.app.works_editSelected
  | removeSelected => exact shows_after h d.app.works_removeSelected
  | act action => exact shows_after h (d.app.works_act action)
  | selectPrevious => exact ⟨[], h.editor, h.traffic⟩
  | selectNext => exact ⟨[], h.editor, h.traffic⟩
  | tick now => exact ⟨[], h.editor, h.traffic⟩
  | clipboard fault => exact ⟨[], h.editor, h.traffic⟩
  | lookup st => exact ⟨[.lookup st], h.editor, Traffic.unlogged_step h.traffic st⟩
  | deliver place =>
    cases message : d.traffic.queue[place]? with
    | none => exact ⟨[], by simpa [step, message] using h⟩
    | some m =>
      refine ⟨[.deliver place], ?_⟩
      have taken : ({ w.traffic with queue := d.traffic.queue.eraseIdx place } : Traffic).unlogged =
          ({ d.traffic with queue := d.traffic.queue.eraseIdx place } : Traffic).unlogged :=
        congrArg (fun t => { t with queue := d.traffic.queue.eraseIdx place }) h.traffic
      simp only [World.run_cons, World.run_nil, World.step, step, h.queue, message, World.after,
        after, h.editor]
      exact ⟨(App.editor_settle _ m).symm, Traffic.unlogged_absorbAll taken _⟩

theorem shows_run (h : d.Shows w) (events : List Event) :
    ∃ matching, (d.run events).Shows (w.run matching) := by
  induction events generalizing d w with
  | nil => exact ⟨[], h⟩
  | cons ev events ih =>
    obtain ⟨first, shown⟩ := shows_step h ev
    obtain ⟨rest, matched⟩ := ih shown
    exact ⟨first ++ rest, by rwa [World.run_append]⟩

/-- What operations and messages keep of an editor, a run of the program keeps. -/
theorem editor_run {P : Editor → Prop} (performs : ∀ e op, P e → P (e.perform op).editor)
    (receives : ∀ e m, P e → P (e.applyLookup m).editor) (h : P d.app.editor)
    (events : List Event) : P (d.run events).app.editor := by
  have shown : d.Shows ⟨d.app.editor, d.traffic, []⟩ := ⟨rfl, rfl⟩
  obtain ⟨matching, editor, -⟩ := shows_run shown events
  rw [← editor]
  exact World.editor_run performs receives h matching

end Desk

end ColumnMap
