import ColumnMap.Proofs.App.Highlight

/-!
A key reaches one layer of the program: the list of keys if it is open, else the popover if that is
open, else the main screen. So no key deletes a mapping behind the popover or quits over a draft.
-/

namespace ColumnMap

open Console

/-! ### One key -/

namespace App

variable {a : App} {k : Key}

/-- The list of keys and the popover are not open together. -/
def Apart (a : App) : Prop := a.overlay = none ∨ a.editor.isOpen = false

/-- Neither the list of keys nor the end of the program is touched. -/
structure Frames (a b : App) : Prop where
  overlay : b.overlay = a.overlay
  shouldQuit : b.shouldQuit = a.shouldQuit

theorem frames_opened (a : App) (r : Reply) : a.Frames (a.opened r).1 := by
  unfold opened
  split <;> exact ⟨rfl, rfl⟩

theorem frames_removeSelected (a : App) : a.Frames a.removeSelected.1 := by
  simp only [removeSelected]
  split
  · unfold clampSelection
    split <;> exact ⟨rfl, rfl⟩
  · exact ⟨rfl, rfl⟩

theorem frames_act (a : App) (action : Action) : a.Frames (a.act action).1 := by
  cases action with
  | save =>
    simp only [act, save]
    split <;> exact ⟨rfl, rfl⟩
  | _ => exact ⟨rfl, rfl⟩

theorem frames_settle (a : App) (m : Settled) : a.Frames (a.settle m).1 := by
  simp only [settle]
  split <;> exact ⟨rfl, rfl⟩

/-- Only two keys of the main screen open the list of keys or end the program, and they do nothing
else. -/
theorem mainKey_cases (a : App) (code : KeyCode) :
    a.Frames (a.mainKey code).1 ∨
      a.mainKey code = ({ a with overlay := some .help }, []) ∨
      (code = .char 'q' ∨ code = .char 'Q') ∧
        a.mainKey code = ({ a with shouldQuit := true }, []) := by
  cases a.operates_mainKey code with
  | quit letter ended => exact .inr (.inr ⟨letter, ended⟩)
  | help covered => exact .inr (.inl covered)
  | openNew opened => exact .inl (opened ▸ a.frames_opened _)
  | edit opened => exact .inl (opened ▸ a.frames_opened _)
  | remove removed => exact .inl (removed ▸ a.frames_removeSelected)
  | nothing same | previous same | next same | copy _ _ _ _ same =>
    rw [same]
    exact .inl ⟨rfl, rfl⟩

theorem apart_key (h : a.Apart) (k : Key) : (a.key k).1.Apart := by
  cases a.reaches_key k with
  | ignored _ same => rwa [same]
  | help _ _ overlay left kept =>
    rw [kept]
    rcases left with rfl | rfl
    · exact h
    · exact .inl rfl
  | form _ overlay _ action form _ acted =>
    left
    rw [acted, (frames_act _ action).overlay]
    exact overlay
  | main _ overlay closed typed =>
    rw [typed]
    rcases a.mainKey_cases k.code with frames | help | ⟨-, quit⟩
    · exact .inl (frames.overlay.trans overlay)
    · exact .inr (by rw [help]; exact closed)
    · exact .inl (by rw [quit]; exact overlay)

theorem apart_settle (h : a.Apart) (m : Settled) : (a.settle m).1.Apart := by
  rcases h with overlay | closed
  · exact .inl ((a.frames_settle m).overlay.trans overlay)
  · right
    rw [editor_settle]
    simp [Editor.applyLookup, Editor.refuse, closed]

theorem key_unpressed (unpressed : k.kind ≠ .press) : a.key k = (a, []) := by
  simp [key, unpressed]

theorem key_under_help (covered : a.overlay ≠ none) (k : Key) :
    a.key k = (a, []) ∨ a.key k = ({ a with overlay := none }, []) := by
  cases a.reaches_key k with
  | ignored _ same => exact .inl same
  | help _ _ overlay left kept => rcases left with rfl | rfl <;> simp [kept]
  | form _ overlay => exact absurd overlay covered
  | main _ overlay => exact absurd overlay covered

/-- A key over an open popover saves, or spares the committed list. -/
theorem key_saves (opened : a.editor.isOpen = true) (overlay : a.overlay = none) (k : Key) :
    a.Spares (a.key k) ∨ k.kind = .press ∧ a.form.Saves k ∧ a.Stores (a.key k) := by
  cases a.reaches_key k with
  | ignored _ same =>
    rw [same]
    exact .inl ⟨rfl, rfl, rfl⟩
  | help _ covered => exact absurd overlay covered
  | form press _ _ action form answer acted =>
    rw [acted]
    by_cases save : action = .save
    · subst save
      have saves : a.form.Saves k := Form.saves_of_key (congrArg Prod.fst answer)
      rcases save_cases { a with form := form } with spared | stored
      · exact .inl ⟨spared.mappings, spared.selected, spared.untold⟩
      · exact .inr ⟨press, saves, stored.possible, stored.editor, stored.told, stored.selected⟩
    · have spared := spares_act { a with form := form } save
      exact .inl ⟨spared.mappings, spared.selected, spared.untold⟩
  | main _ _ closed _ => simp [opened] at closed

theorem frames_key (opened : a.editor.isOpen = true) (overlay : a.overlay = none) (k : Key) :
    a.Frames (a.key k).1 := by
  cases a.reaches_key k with
  | ignored _ same =>
    rw [same]
    exact ⟨rfl, rfl⟩
  | help _ covered => exact absurd overlay covered
  | form _ _ _ action form _ acted =>
    rw [acted]
    have frames := frames_act { a with form := form } action
    exact ⟨frames.overlay, frames.shouldQuit⟩
  | main _ _ closed _ => simp [opened] at closed

/-- The program ends by the letter q on the main screen. -/
theorem quit_key (running : a.shouldQuit = false) (quits : (a.key k).1.shouldQuit = true) :
    k.kind = .press ∧ (k.code = .char 'q' ∨ k.code = .char 'Q') ∧ a.overlay = none ∧
      a.editor.isOpen = false ∧ a.key k = ({ a with shouldQuit := true }, []) := by
  have changed : (a.key k).1.shouldQuit ≠ a.shouldQuit := by simp [running, quits]
  cases a.reaches_key k with
  | ignored _ same => exact absurd (by rw [same]) changed
  | help _ _ overlay _ kept => exact absurd (by rw [kept]) changed
  | form _ _ _ action form _ acted =>
    rw [acted] at changed
    exact absurd (frames_act { a with form := form } action).shouldQuit changed
  | main press overlay closed typed =>
    rw [typed] at changed ⊢
    rcases a.mainKey_cases k.code with frames | help | ⟨letter, quit⟩
    · exact absurd frames.shouldQuit changed
    · exact absurd (by rw [help]) changed
    · exact ⟨press, letter, overlay, closed, quit⟩

end App

/-! ### Runs -/

namespace Desk

/-- What reaches the program from outside: keys, the time, and what happens to its lookups. -/
def Event.isInput : Event → Bool
  | .key _ | .tick _ | .clipboard _ | .lookup _ | .deliver _ => true
  | _ => false

theorem apart_step {d : Desk} (h : d.app.Apart) {ev : Event} (input : ev.isInput = true) :
    (d.step ev).app.Apart := by
  cases ev with
  | key k => exact App.apart_key h k
  | tick now => exact h
  | clipboard fault => exact h
  | lookup st => exact h
  | deliver place =>
    simp only [step]
    split
    · exact h
    · next m _ => exact App.apart_settle h m
  | _ => cases input

theorem apart_run {d : Desk} (h : d.app.Apart) {events : List Event}
    (inputs : ∀ ev ∈ events, ev.isInput = true) : (d.run events).app.Apart := by
  induction events generalizing d with
  | nil => exact h
  | cons ev events ih =>
    rw [List.forall_mem_cons] at inputs
    exact ih (apart_step h inputs.1) inputs.2

/-- Nothing is being edited, and no lookup runs that has not been cancelled. -/
structure Idle (d : Desk) : Prop where
  phase : d.app.editor.phase = .idle
  draft : d.app.editor.draft = {}
  cancelled : ∀ t ∈ d.traffic.tasks, t.isCancelled = true

theorem idle_run (dataSource : DataSource) (source : String) (initial : List Mapping)
    (log : Log.Buffer) (events : List Event)
    (closed : ((start dataSource source initial log).run events).app.editor.isOpen = false) :
    Idle ((start dataSource source initial log).run events) := by
  -- The matching run of the editor's world accounts for every lookup.
  obtain ⟨matching, shown⟩ := shows_run (shows_start dataSource source initial log) events
  have tracked := World.tracked_run (World.tracked_start dataSource source initial) matching
  have accounted := World.accounted_of_tracked (World.tidy_run (fun _ => rfl) matching) tracked
  have phase := (Editor.phase_eq_idle _).mpr closed
  have live := accounted.live_eq_nil (by rw [shown.editor, phase]; nofun)
  rw [Traffic.live, List.filter_eq_nil_iff, shown.tasks] at live
  refine ⟨phase, ?_, fun t unfinished => by simpa using live t unfinished⟩
  have idle := accounted.idle
  rw [shown.editor] at idle
  exact (idle phase).1

/-- Which keys reach which layer, and what they do there. -/
structure Layered (d : Desk) : Prop where
  apart : d.app.overlay = none ∨ d.app.editor.isOpen = false
  unpressed : ∀ k, k.kind ≠ .press → d.app.key k = (d.app, [])
  /-- The list of keys can only be closed. -/
  covered : d.app.overlay ≠ none → ∀ k,
    d.app.key k = (d.app, []) ∨ d.app.key k = ({ d.app with overlay := none }, [])
  framed : d.app.editor.isOpen = true → ∀ k, d.app.Frames (d.app.key k).1
  /-- Of the keys that the popover takes, only those that save reach the committed list. -/
  saves : d.app.editor.isOpen = true → ∀ k, d.app.Spares (d.app.key k) ∨
    k.kind = .press ∧ d.app.form.Saves k ∧ d.app.Stores (d.app.key k)
  /-- What a lookup brings reaches neither the layers nor the committed list. -/
  settles : ∀ m, d.app.Frames (d.app.settle m).1 ∧ d.app.Spares (d.app.settle m)
  /-- Only the letter q on the main screen ends the program. -/
  quits : ∀ ev, d.app.shouldQuit = false → (d.step ev).app.shouldQuit = true →
    (∃ k, ev = .key k ∧ k.kind = .press ∧ (k.code = .char 'q' ∨ k.code = .char 'Q')) ∧
      d.app.overlay = none ∧ d.app.editor.isOpen = false ∧ (d.step ev).Idle

/-- Nothing but a key ends the program. -/
theorem key_of_quits {d : Desk} {ev : Event} (running : d.app.shouldQuit = false)
    (quits : (d.step ev).app.shouldQuit = true) : ∃ k, ev = .key k := by
  have changed : (d.step ev).app.shouldQuit ≠ d.app.shouldQuit := by simp [running, quits]
  cases ev with
  | key k => exact ⟨k, rfl⟩
  | openNew => exact absurd (d.app.frames_opened _).shouldQuit changed
  | editSelected => exact absurd (d.app.frames_opened _).shouldQuit changed
  | removeSelected => exact absurd d.app.frames_removeSelected.shouldQuit changed
  | act action => exact absurd (d.app.frames_act action).shouldQuit changed
  | deliver place =>
    simp only [step] at changed
    split at changed
    · exact absurd rfl changed
    · next m _ => exact absurd (d.app.frames_settle m).shouldQuit changed
  | _ => exact absurd rfl changed

theorem layered_of_apart {d : Desk} (apart : d.app.Apart)
    (idle : d.app.editor.isOpen = false → d.Idle) : Layered d := by
  have overlay : d.app.editor.isOpen = true → d.app.overlay = none := by
    intro opened
    simpa [App.Apart, opened] using apart
  constructor
  case apart => exact apart
  case unpressed => exact fun k => App.key_unpressed
  case covered => exact fun covered k => App.key_under_help covered k
  case framed => exact fun opened k => App.frames_key opened (overlay opened) k
  case saves => exact fun opened k => App.key_saves opened (overlay opened) k
  case settles => exact fun m => ⟨d.app.frames_settle m, d.app.spares_settle m⟩
  case quits =>
    intro ev running quits
    obtain ⟨k, rfl⟩ := key_of_quits running quits
    obtain ⟨press, letter, uncovered, closed, quit⟩ := App.quit_key running quits
    refine ⟨⟨k, rfl, press, letter⟩, uncovered, closed, ?_⟩
    rw [step, quit]
    exact ⟨(idle closed).phase, (idle closed).draft, (idle closed).cancelled⟩

/-- In every state that keys and lookups can bring about, a key reaches one layer. -/
theorem layered_run (dataSource : DataSource) (source : String) (initial : List Mapping)
    (log : Log.Buffer) (events : List Event) (inputs : ∀ ev ∈ events, ev.isInput = true) :
    Layered ((start dataSource source initial log).run events) := by
  apply layered_of_apart
  · exact apart_run (.inl rfl) inputs
  · exact idle_run dataSource source initial log events

/-- A column is picked in the popover, and the popover is closed before its values have come. -/
def draftLeft : List Event :=
  [.key (.plain (.char 'a')), .key (.plain .enter), .key (.plain (.char 'q')),
    .key (.plain .escape)]

/-- The letter q in the popover does not end the program, and later it does while the lookup is
still there. -/
theorem layered_run_draftLeft :
    let d := (start Lookup.Demo.dataSource "demo" [] (.empty 1)).run draftLeft
    let quit := d.step (.key (.plain (.char 'q')))
    d.app.shouldQuit = false ∧ quit.app.shouldQuit = true ∧ quit.traffic.tasks.length = 1 ∧
      quit.Idle := by
  intro d quit
  have layered : Layered d := layered_run _ _ _ _ _ (by decide +kernel)
  have running : d.app.shouldQuit = false := by decide +kernel
  have ended : quit.app.shouldQuit = true := by decide +kernel
  obtain ⟨-, -, -, idle⟩ := layered.quits _ running ended
  exact ⟨running, ended, by decide +kernel, idle⟩

end Desk

end ColumnMap
