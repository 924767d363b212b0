import Mathlib.Data.List.Induction
import ColumnMap.Proofs.App.Cursor
import ColumnMap.Proofs.Editor.Identity
import ColumnMap.Proofs.Editor.Parent

/-!
The highlight of the committed list stands on a row of it, and after a save on the row of the
mapping that was saved.
-/

namespace ColumnMap

open Console

namespace App

/-- The highlight stands on a row of the list, or at the top of an empty one. -/
def Highlights (a : App) : Prop :=
  a.selected < a.editor.mappings.length ∨ a.editor.mappings = [] ∧ a.selected = 0

/-- What an operation left alone: the committed list, its highlight, and the parent form. -/
structure Spares (a : App) (r : App × List Effect) : Prop where
  mappings : r.1.editor.mappings = a.editor.mappings
  selected : r.1.selected = a.selected
  untold : changesOf r.2 = []

/-- What a save did to the committed list: the highlight is where the draft went. -/
structure Stores (a : App) (r : App × List Effect) : Prop where
  possible : a.editor.canCommit = true
  editor : r.1.editor = a.editor.commit.editor
  told : changesOf r.2 = [a.editor.saved]
  selected : r.1.selected = a.editor.draft.editing.getD a.editor.mappings.length

/-- What an operation can do to the committed list and its highlight. -/
inductive Lists (a : App) (r : App × List Effect) : Prop
  | spares (spared : a.Spares r)
  | moves (editor : r.1.editor = a.editor) (untold : changesOf r.2 = [])
      (selected : r.1.selected = cursorUp a.selected ∨
        r.1.selected = cursorDown a.selected a.editor.mappings.length)
  /-- The highlighted mapping goes, and the highlight moves only from the end of the list. -/
  | removes (inside : a.selected < a.editor.mappings.length)
      (mappings : r.1.editor.mappings = a.editor.mappings.eraseIdx a.selected)
      (isOpen : r.1.editor.isOpen = a.editor.isOpen)
      (selected : r.1.selected = min a.selected (a.editor.mappings.length - 2))
  | stores (stored : a.Stores r)

variable {a b : App} {r : App × List Effect}

theorem Lists.congr (h : b.Lists r) (editor : b.editor = a.editor)
    (selected : b.selected = a.selected) : a.Lists r := by
  cases h with
  | spares spared =>
    exact .spares ⟨editor ▸ spared.mappings, selected ▸ spared.selected, spared.untold⟩
  | moves same untold moved => exact .moves (editor ▸ same) untold (editor ▸ selected ▸ moved)
  | removes inside mappings isOpen moved =>
    rw [editor, selected] at inside mappings moved
    exact .removes inside mappings (editor ▸ isOpen) moved
  | stores stored =>
    obtain ⟨possible, saved, told, moved⟩ := stored
    rw [editor] at possible saved told moved
    exact .stores ⟨possible, saved, told, moved⟩

/-! ### The operations -/

/-- An operation of the editor that is neither a save nor a removal spares the list. -/
theorem spares_of_perform (op : Operation) (hop : op.alters = false)
    (editor : r.1.editor = (a.editor.perform op).editor) (selected : r.1.selected = a.selected)
    (effects : r.2 = (a.editor.perform op).effects) : a.Spares r where
  mappings := by rw [editor, a.editor.mappings_of_not_alters hop]
  selected := selected
  untold := by simp [effects, Editor.changesOf_perform, hop]

theorem spares_opened (a : App) (op : Operation) (hop : op.alters = false) :
    a.Spares (a.opened (a.editor.perform op)) := by
  refine spares_of_perform op hop (a.editor_opened _) ?_ rfl
  unfold opened
  split <;> rfl

theorem save_cases (a : App) : a.Spares a.save ∨ a.Stores a.save := by
  cases possible : a.editor.canCommit with
  | false =>
    left
    constructor <;> simp [save, Editor.commit_refused, Editor.refuse, adopt, showToast, possible]
  | true =>
    right
    refine ⟨possible, a.editor_save, a.editor.changesOf_commit possible, ?_⟩
    have accepted : a.editor.commit.accepted = true := a.editor.accepted_commit.trans possible
    simp only [save, accepted, if_true, showToast, adopt, a.editor.editor_commit possible]
    cases editing : a.editor.draft.editing with
    | none => simp [Editor.saved_of_new editing]
    | some index => rfl

theorem spares_act (a : App) {action : Action} (h : action ≠ .save) : a.Spares (a.act action) := by
  cases action with
  | none => exact ⟨rfl, rfl, rfl⟩
  | save => exact absurd rfl h
  | close => exact spares_of_perform .close rfl rfl rfl rfl
  | selectColumn column => exact spares_of_perform (.selectColumn column) rfl rfl rfl rfl
  | clearColumn => exact spares_of_perform (.selectColumn "") rfl rfl rfl rfl
  | pickSuggestion index => exact spares_of_perform (.selectSuggestion index) rfl rfl rfl rfl
  | setTyped text => exact spares_of_perform (.setTyped text) rfl rfl rfl rfl
  | setAuxiliary text => exact spares_of_perform (.setAuxiliary text) rfl rfl rfl rfl

theorem lists_act (a : App) (action : Action) : a.Lists (a.act action) := by
  by_cases h : action = .save
  · subst h
    exact a.save_cases.elim .spares .stores
  · exact .spares (a.spares_act h)

theorem lists_removeSelected (a : App) : a.Lists a.removeSelected := by
  cases row : a.editor.mappings[a.selected]? with
  | none =>
    apply Lists.spares
    constructor <;> simp [removeSelected, Editor.remove, Editor.refuse, adopt, row]
  | some m =>
    obtain ⟨inside, -⟩ := List.getElem?_eq_some_iff.mp row
    refine .removes inside ?_ ?_ ?_
    · rw [editor_removeSelected]
      exact a.editor.mappings_perform (.remove a.selected)
    · rw [editor_removeSelected]
      simp [Editor.remove, row]
    · simp only [removeSelected, Editor.remove, row, if_true, showToast, clampSelection, adopt,
        List.length_eraseIdx, inside]
      split <;> simp only <;> omega

theorem lists_mainKey (a : App) (code : KeyCode) : a.Lists (a.mainKey code) := by
  cases a.operates_mainKey code with
  | openNew opened => exact opened ▸ .spares (a.spares_opened .openNew rfl)
  | edit opened => exact opened ▸ .spares (a.spares_opened (.edit a.selected) rfl)
  | remove removed => exact removed ▸ a.lists_removeSelected
  | previous moved =>
    rw [moved]
    exact .moves rfl rfl (.inl rfl)
  | next moved =>
    rw [moved]
    exact .moves rfl rfl (.inr rfl)
  | nothing same | quit _ same | help same =>
    rw [same]
    exact .spares ⟨rfl, rfl, rfl⟩
  | copy _ _ lines _ copied =>
    rw [copied]
    exact .spares ⟨rfl, rfl, changesOf_logs lines⟩

theorem lists_key (a : App) (k : Key) : a.Lists (a.key k) := by
  cases a.reaches_key k with
  | ignored _ same =>
    rw [same]
    exact .spares ⟨rfl, rfl, rfl⟩
  | help _ _ overlay _ kept =>
    rw [kept]
    exact .spares ⟨rfl, rfl, rfl⟩
  | form _ _ _ action form _ acted =>
    rw [acted]
    exact (lists_act { a with form := form } action).congr rfl rfl
  | main _ _ _ typed =>
    rw [typed]
    exact a.lists_mainKey k.code

theorem spares_settle (a : App) (m : Settled) : a.Spares (a.settle m) where
  mappings := by rw [editor_settle, Editor.mappings_applyLookup]
  selected := by
    simp only [settle]
    split <;> rfl
  untold := a.editor.changesOf_applyLookup m

/-! ### What keeps the highlight in the list -/

end App

namespace Editor

/-- The place that the draft is to replace is one of the list. -/
def EditsInside (e : Editor) : Prop :=
  ∀ index, e.draft.editing = some index → index < e.mappings.length

/-- Where saving puts the draft. -/
theorem getElem?_saved {e : Editor} (inside : e.EditsInside) :
    e.saved[e.draft.editing.getD e.mappings.length]? = some e.draft.toMapping := by
  cases editing : e.draft.editing with
  | none => simp [saved_of_new editing]
  | some index =>
    have row := inside index editing
    simp [saved_of_editing editing row, row]

end Editor

namespace App

variable {a : App} {r : App × List Effect}

theorem Lists.highlights (h : a.Lists r) (inside : a.editor.EditsInside) (on : a.Highlights) :
    r.1.Highlights := by
  cases h with
  | spares spared => rwa [Highlights, spared.mappings, spared.selected]
  | moves editor _ selected =>
    rw [Highlights, editor]
    rcases on with row | ⟨empty, top⟩
    · left
      rcases selected with up | down
      · rw [up]
        exact Nat.lt_of_le_of_lt (cursorUp_le _) row
      · rw [down]
        exact cursorDown_lt row
    · right
      rcases selected with up | down
      · simp [up, empty, top, cursorUp]
      · simp [down, empty, top, cursorDown]
  | removes row mappings _ selected =>
    have length : r.1.editor.mappings.length = a.editor.mappings.length - 1 := by
      rw [mappings, List.length_eraseIdx, if_pos row]
    by_cases last : a.editor.mappings.length = 1
    · right
      exact ⟨List.eq_nil_of_length_eq_zero (by omega), by omega⟩
    · left
      omega
  | stores stored =>
    left
    rw [stored.selected, stored.editor, a.editor.editor_commit stored.possible]
    obtain ⟨row, -⟩ := List.getElem?_eq_some_iff.mp (Editor.getElem?_saved inside)
    exact row

end App

/-! ### Runs -/

namespace Desk

/-- A save that succeeds: the popover closes, and the parent form is told a list. -/
def Commits (d : Desk) (ev : Event) : Prop :=
  d.app.editor.isOpen = true ∧ (d.step ev).app.editor.isOpen = false ∧
    (d.step ev).traffic.changes ≠ d.traffic.changes

theorem lists_step (d : Desk) (ev : Event) :
    ∃ effects, d.app.Lists ((d.step ev).app, effects) ∧
      (d.step ev).traffic.changes = d.traffic.changes ++ changesOf effects := by
  have rests : ∀ b : App, b.editor = d.app.editor → b.selected = d.app.selected →
      d.app.Lists (b, []) := by
    intro b editor selected
    exact .spares ⟨by rw [editor], selected, rfl⟩
  cases ev with
  | key k => exact ⟨_, d.app.lists_key k, d.traffic.changes_absorbAll _⟩
  | openNew => exact ⟨_, .spares (d.app.spares_opened .openNew rfl), d.traffic.changes_absorbAll _⟩
  | editSelected =>
    exact ⟨_, .spares (d.app.spares_opened (.edit _) rfl), d.traffic.changes_absorbAll _⟩
  | removeSelected => exact ⟨_, d.app.lists_removeSelected, d.traffic.changes_absorbAll _⟩
  | act action => exact ⟨_, d.app.lists_act action, d.traffic.changes_absorbAll _⟩
  | selectPrevious => exact ⟨[], .moves rfl rfl (.inl rfl), by simp [step]⟩
  | selectNext => exact ⟨[], .moves rfl rfl (.inr rfl), by simp [step]⟩
  | tick now => exact ⟨[], rests _ rfl rfl, by simp [step]⟩
  | clipboard fault => exact ⟨[], rests _ rfl rfl, by simp [step]⟩
  | lookup st => exact ⟨[], rests _ rfl rfl, by simp [step, Traffic.changes_step]⟩
  | deliver place =>
    cases message : d.traffic.queue[place]? with
    | none =>
      refine ⟨[], ?_, by simp [step, message]⟩
      simpa [step, message] using rests d.app rfl rfl
    | some m =>
      refine ⟨(d.app.settle m).2, ?_, ?_⟩
      · simpa [step, message, after] using App.Lists.spares (d.app.spares_settle m)
      · simp [step, message, after, Traffic.changes_absorbAll]

/-- Of all that can happen only a save commits. -/
theorem stored_of_commits {d : Desk} {ev : Event} (h : d.Commits ev) :
    (d.step ev).app.editor.mappings = d.app.editor.saved ∧
      (d.step ev).app.selected = d.app.editor.draft.editing.getD d.app.editor.mappings.length := by
  obtain ⟨opened, closed, told⟩ := h
  obtain ⟨effects, lists, changes⟩ := d.lists_step ev
  rw [changes] at told
  cases lists with
  | spares spared => simp [spared.untold] at told
  | moves _ untold _ => simp [untold] at told
  | removes _ _ isOpen _ =>
    have stays : (d.step ev).app.editor.isOpen = true := isOpen.trans opened
    rw [closed] at stays
    cases stays
  | stores stored =>
    refine ⟨?_, stored.selected⟩
    have mappings := congrArg Editor.mappings stored.editor
    rwa [d.app.editor.editor_commit stored.possible] at mappings

theorem editsInside_run (dataSource : DataSource) (source : String) (initial : List Mapping)
    (log : Log.Buffer) (events : List Event) :
    ((start dataSource source initial log).run events).app.editor.EditsInside := by
  obtain ⟨matching, editor, -⟩ := shows_run (shows_start dataSource source initial log) events
  have held : (Register.ofList initial).Holds
      (World.start dataSource source initial).editor.mappings := Register.holds_ofList initial
  have mirrors : Mirrors (.ofList initial) (World.start dataSource source initial).editor :=
    Mirrors.of_holds held rfl
  have tidy := World.tidy_run (w := World.start dataSource source initial) (fun _ => rfl) matching
  have inPlace := World.inPlace_of_mirrors tidy (mirrors.run matching)
  rw [← editor]
  exact fun index edited => (inPlace.inside index edited).2

theorem highlights_run (dataSource : DataSource) (source : String) (initial : List Mapping)
    (log : Log.Buffer) (events : List Event) :
    ((start dataSource source initial log).run events).app.Highlights := by
  induction events using List.reverseRecOn with
  | nil => cases initial <;> simp [App.Highlights, start]
  | append_singleton events ev ih =>
    obtain ⟨effects, lists, -⟩ :=
      ((start dataSource source initial log).run events).lists_step ev
    have inside := editsInside_run dataSource source initial log events
    simpa [run] using lists.highlights inside ih

/-- Where the highlight of the committed list stands, and where the next event leaves it if that is
a save. -/
structure Highlighted (d : Desk) : Prop where
  onRow : d.app.selected < d.app.editor.mappings.length ∨
    d.app.editor.mappings = [] ∧ d.app.selected = 0
  onSaved : ∀ ev, d.Commits ev →
    (d.step ev).app.editor.mappings[(d.step ev).app.selected]? = some d.app.editor.draft.toMapping
  /-- The mapping that was edited is replaced where it stands. -/
  replaced : ∀ ev, d.Commits ev → ∀ index, d.app.editor.draft.editing = some index →
    (d.step ev).app.selected = index ∧
      (d.step ev).app.editor.mappings =
        d.app.editor.mappings.set index d.app.editor.draft.toMapping
  /-- A new mapping, or one that was removed while it was edited, comes to the end. -/
  appended : ∀ ev, d.Commits ev → d.app.editor.draft.editing = none →
    (d.step ev).app.selected = d.app.editor.mappings.length ∧
      (d.step ev).app.editor.mappings =
        d.app.editor.mappings ++ [d.app.editor.draft.toMapping]

/-- In every state that can be reached the highlight is on a row, and it follows a save. -/
theorem highlighted_run (dataSource : DataSource) (source : String) (initial : List Mapping)
    (log : Log.Buffer) (events : List Event) :
    Highlighted ((start dataSource source initial log).run events) where
  onRow := highlights_run dataSource source initial log events
  onSaved := by
    intro ev commits
    obtain ⟨mappings, selected⟩ := stored_of_commits commits
    rw [mappings, selected]
    exact Editor.getElem?_saved (editsInside_run dataSource source initial log events)
  replaced := by
    intro ev commits index editing
    have inside := editsInside_run dataSource source initial log events index editing
    obtain ⟨mappings, selected⟩ := stored_of_commits commits
    rw [mappings, selected, editing]
    exact ⟨rfl, Editor.saved_of_editing editing inside⟩
  appended := by
    intro ev commits editing
    obtain ⟨mappings, selected⟩ := stored_of_commits commits
    rw [mappings, selected, editing]
    exact ⟨rfl, Editor.saved_of_new editing⟩

/-- The second of two mappings is edited, and the first one is removed before it is saved. -/
def firstRemoved : List Event :=
  [.key (.plain .down), .key (.plain .enter), .act (.setTyped "Lyon"), .selectPrevious,
    .removeSelected]

/-- The edited mapping has moved up, and is highlighted there. -/
theorem highlighted_run_firstRemoved :
    let d := (start Lookup.Demo.dataSource "demo" [⟨"country", "India", ""⟩, ⟨"city", "Pune", ""⟩]
      (.empty 1)).run firstRemoved
    let save : Event := .key { code := .char 's', ctrl := true }
    d.Commits save ∧ (d.step save).app.selected = 0 ∧
      (d.step save).app.editor.mappings = [⟨"city", "Lyon", ""⟩] := by
  intro d save
  have highlighted : Highlighted d := highlighted_run _ _ _ _ _
  have commits : d.Commits save := ⟨by decide +kernel, by decide +kernel, by decide +kernel⟩
  obtain ⟨row, list⟩ := highlighted.replaced save commits 0 (by decide +kernel)
  refine ⟨commits, row, ?_⟩
  rw [list]
  decide +kernel

end Desk

end ColumnMap
