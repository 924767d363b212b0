import ColumnMap.Lookup.Demo
import ColumnMap.Proofs.Editor.Changes

/-!
Refused operations. Whether an operation is refused shows in the popover, the draft and the
committed list. A refused one leaves everything as it is but for a line in the log, and every other
one succeeds.
-/

namespace ColumnMap

open Selection

namespace Editor

/-- What an operation is refused for. -/
def Refuses (e : Editor) : Operation → Prop
  | .openNew => e.isOpen = true
  | .edit index => e.isOpen = true ∨ e.mappings.length ≤ index
  | .selectColumn _ | .setTyped _ | .setAuxiliary _ | .close => e.isOpen = false
  | .selectSuggestion index =>
    e.isOpen = false ∨ e.draft.isLoading = true ∨ e.draft.suggestions.length ≤ index
  | .commit => e.isOpen = false ∨ e.draft.column = none
  | .remove index => e.mappings.length ≤ index

/-- What a message is passed over for. -/
def Overlooks (e : Editor) (m : Settled) : Prop :=
  e.isOpen = false ∨ e.draft.token ≠ some m.token ∨ m.outcome = .cancelled

/-- Nothing is done, and nothing asked of the world but to log. -/
def Declines (e : Editor) (r : Reply) : Prop :=
  r.editor = e ∧ ∀ effect ∈ r.effects, ∃ line, effect = .log line

variable {e : Editor}

theorem declines_refuse : e.Declines e.refuse := ⟨rfl, by simp [refuse]⟩

/-! ### The column of a draft -/

/-- The column of a draft, if there is one, has a name. -/
def Named (e : Editor) : Prop := e.draft.column ≠ some ""

theorem ne_of_selected {op : Operation} {c : String} (h : .selected c ∈ e.moves op) : c ≠ "" := by
  have named : ∀ name, Move.selected c = .ofColumn name → c ≠ "" := by
    intro name selected
    unfold Move.ofColumn at selected
    split at selected
    · cases selected
    · next full =>
      cases selected
      simpa using full
  cases op with
  | selectColumn name =>
    simp only [moves] at h
    split at h
    · exact named name (List.mem_singleton.mp h)
    · cases h
  | edit index =>
    simp only [moves] at h
    split at h
    · cases h
    · split at h
      · cases h
      · next m _ => exact named m.column (by simpa using h)
  | openNew | commit | close =>
    simp only [moves] at h
    split at h <;> simp at h
  | _ => cases h

theorem column_afterAll {s : Selection} (h : s.column ≠ some "") {moves : List Move}
    (named : ∀ c, .selected c ∈ moves → c ≠ "") : (s.afterAll moves).column ≠ some "" := by
  induction moves generalizing s with
  | nil => exact h
  | cons m moves ih =>
    refine ih ?_ fun c hc => named c (List.mem_cons_of_mem m hc)
    cases m with
    | selected c =>
      have := named c List.mem_cons_self
      simpa [after] using this
    | opened | cleared | closed => simp [after]

theorem named_perform (h : e.Named) (op : Operation) : (e.perform op).editor.Named := by
  have column : (e.perform op).editor.draft.column =
      (e.selection.afterAll (e.moves op)).column :=
    congrArg Selection.column (e.selection_perform op)
  rw [Named, column]
  exact column_afterAll (s := e.selection) h fun _ => ne_of_selected

theorem named_applyLookup (h : e.Named) (m : Settled) : (e.applyLookup m).editor.Named := by
  have column : (e.applyLookup m).editor.draft.column = e.draft.column :=
    congrArg (·.draft.column) (e.outline_applyLookup m)
  rwa [Named, column]

theorem canCommit_of_named (h : e.Named) (opened : e.isOpen = true)
    (chosen : e.draft.column ≠ none) : e.canCommit = true := by
  cases column : e.draft.column with
  | none => exact absurd column chosen
  | some c =>
    have full : c ≠ "" := fun empty => h (by rw [column, empty])
    simp [canCommit, opened, column, full]

/-! ### Operations -/

theorem perform_of_refuses {op : Operation} (h : e.Refuses op) :
    (e.perform op).accepted = false ∧ e.Declines (e.perform op) := by
  have refused : e.perform op = e.refuse →
      (e.perform op).accepted = false ∧ e.Declines (e.perform op) := by
    intro same
    rw [same]
    exact ⟨rfl, declines_refuse⟩
  cases op with
  | openNew =>
    apply refused
    have opened : e.isOpen = true := h
    rw [perform, openNew, if_pos opened]
  | edit index =>
    apply refused
    rcases h with opened | beyond
    · rw [perform, edit, if_pos opened]
    · have none_ : e.mappings[index]? = none := List.getElem?_eq_none beyond
      simp [perform, edit, none_]
  | selectColumn c =>
    apply refused
    have closed : e.isOpen = false := h
    simp [perform, selectColumn, closed]
  | selectSuggestion index =>
    apply refused
    rcases h with closed | loading | beyond
    · simp [perform, selectSuggestion, closed]
    · simp [perform, selectSuggestion, loading]
    · have none_ : e.draft.suggestions[index]? = none := List.getElem?_eq_none beyond
      simp [perform, selectSuggestion, none_]
  | setTyped text =>
    apply refused
    have closed : e.isOpen = false := h
    simp [perform, setTyped, closed]
  | setAuxiliary text =>
    apply refused
    have closed : e.isOpen = false := h
    simp [perform, setAuxiliary, closed]
  | commit =>
    have impossible : e.canCommit = false := by
      rcases h with closed | empty
      · simp [canCommit, closed]
      · simp [canCommit, empty]
    rw [perform, commit_refused e impossible]
    exact ⟨rfl, rfl, by simp [note]⟩
  | close =>
    apply refused
    have closed : e.isOpen = false := h
    simp [perform, close, closed]
  | remove index =>
    apply refused
    have none_ : e.mappings[index]? = none := List.getElem?_eq_none h
    rw [perform, remove, none_]

theorem accepted_of_not_refuses (named : e.Named) {op : Operation} (h : ¬ e.Refuses op) :
    (e.perform op).accepted = true := by
  cases op with
  | openNew =>
    have closed : e.isOpen = false := by simpa [Refuses] using h
    simp [perform, openNew, closed]
  | edit index =>
    obtain ⟨closed, inside⟩ : e.isOpen = false ∧ index < e.mappings.length := by
      simpa [Refuses] using h
    simp [perform, edit, closed, inside]
  | selectColumn c =>
    have opened : e.isOpen = true := by simpa [Refuses] using h
    simp only [perform, selectColumn, opened]
    split
    · contradiction
    · split <;> rfl
  | selectSuggestion index =>
    obtain ⟨opened, loaded, inside⟩ : e.isOpen = true ∧ e.draft.isLoading = false ∧
        index < e.draft.suggestions.length := by simpa [Refuses] using h
    simp [perform, selectSuggestion, opened, loaded, inside]
  | setTyped text =>
    have opened : e.isOpen = true := by simpa [Refuses] using h
    simp [perform, setTyped, opened]
  | setAuxiliary text =>
    have opened : e.isOpen = true := by simpa [Refuses] using h
    simp [perform, setAuxiliary, opened]
  | commit =>
    obtain ⟨opened, chosen⟩ : e.isOpen = true ∧ e.draft.column ≠ none := by
      simpa [Refuses] using h
    rw [perform, accepted_commit, canCommit_of_named named opened chosen]
  | close =>
    have opened : e.isOpen = true := by simpa [Refuses] using h
    simp [perform, close, opened]
  | remove index =>
    have inside : index < e.mappings.length := by simpa [Refuses] using h
    simp [perform, remove, inside]

/-- An operation succeeds exactly if there is nothing to refuse it for. -/
theorem accepted_iff (named : e.Named) (op : Operation) :
    (e.perform op).accepted = true ↔ ¬ e.Refuses op := by
  constructor
  · intro accepted refused
    rw [(perform_of_refuses refused).1] at accepted
    cases accepted
  · exact accepted_of_not_refuses named

/-! ### Messages -/

theorem applyLookup_of_overlooks {m : Settled} (h : e.Overlooks m) :
    (e.applyLookup m).accepted = false ∧ e.Declines (e.applyLookup m) := by
  unfold applyLookup
  split
  · exact ⟨rfl, rfl, by simp [note]⟩
  · next current =>
    split
    · exact ⟨rfl, declines_refuse⟩
    · next loaded =>
      simp only [Overlooks, loaded, reduceCtorEq, or_false] at h
      simp only [Bool.or_eq_true, Bool.not_eq_true', bne_iff_ne] at current
      exact absurd h current

theorem applyLookup_accepted_iff (e : Editor) (m : Settled) :
    (e.applyLookup m).accepted = true ↔ ¬ e.Overlooks m := by
  constructor
  · intro accepted overlooked
    rw [(applyLookup_of_overlooks overlooked).1] at accepted
    cases accepted
  · intro h
    obtain ⟨opened, token, outcome⟩ : e.isOpen = true ∧ e.draft.token = some m.token ∧
        m.outcome ≠ .cancelled := by simpa [Overlooks] using h
    cases brought : m.outcome with
    | loaded suggestions => simp [applyLookup, opened, token, brought]
    | cancelled => exact absurd brought outcome

end Editor

namespace World

/-- Nothing but the log is different: the editor is the same, no lookup was started, cancelled,
called or ended, no message came or went, and the parent form was told nothing. -/
structure Untouched (w v : World) : Prop where
  editor : v.editor = w.editor
  traffic : v.traffic.unlogged = w.traffic.unlogged
  form : v.form = w.form

theorem formAfter_logs (form : List Mapping) {es : List Effect}
    (logs : ∀ effect ∈ es, ∃ line, effect = .log line) : formAfter form es = form := by
  induction es with
  | nil => rfl
  | cons effect es ih =>
    obtain ⟨⟨line, rfl⟩, others⟩ := List.forall_mem_cons.mp logs
    exact ih others

theorem untouched_of_declines {w : World} {r : Reply} (h : w.editor.Declines r) :
    w.Untouched (w.after r) where
  editor := h.1
  traffic := w.traffic.unlogged_absorbAll_logs h.2
  form := formAfter_logs w.form h.2

theorem named_run {w : World} (h : w.editor.Named) (events : List Event) :
    (w.run events).editor.Named :=
  editor_run (P := Editor.Named) (fun _ op named => Editor.named_perform named op)
    (fun _ m named => Editor.named_applyLookup named m) h events

/-- In every state that can be reached, an operation succeeds unless there is something to refuse it
for, and a message is taken in unless there is something to pass it over for. What is refused or
passed over, whatever its token, column and outcome, leaves the world untouched. -/
theorem refused_untouched (d : DataSource) (source : String) (initial : List Mapping)
    (events : List Event) :
    let w := (start d source initial).run events
    (∀ op, ((w.editor.perform op).accepted = true ↔ ¬ w.editor.Refuses op) ∧
      (w.editor.Refuses op → w.Untouched (w.step (.perform op)))) ∧
    ∀ m, ((w.editor.applyLookup m).accepted = true ↔ ¬ w.editor.Overlooks m) ∧
      (w.editor.Overlooks m → w.Untouched (w.after (w.editor.applyLookup m))) := by
  intro w
  have named : w.editor.Named := named_run (by simp [Editor.Named, start]) events
  refine ⟨fun op => ⟨Editor.accepted_iff named op, fun refused => ?_⟩,
    fun m => ⟨w.editor.applyLookup_accepted_iff m, fun overlooked => ?_⟩⟩
  · exact untouched_of_declines (Editor.perform_of_refuses refused).2
  · exact untouched_of_declines (Editor.applyLookup_of_overlooks overlooked).2

/-- While the values of a column are on their way nothing can be picked and no other message is
taken in, and the draft can be saved. -/
theorem refused_untouched_loading :
    let w := (start Lookup.Demo.dataSource "demo" [⟨"city", "Pune", ""⟩]).run
      [.perform .openNew, .perform (.selectColumn "year")]
    w.Untouched (w.step (.perform (.selectSuggestion 0))) ∧
      w.Untouched (w.after (w.editor.applyLookup ⟨⟨7⟩, "year", .loaded []⟩)) ∧
      (w.editor.perform .commit).accepted = true := by
  intro w
  obtain ⟨operations, messages⟩ := refused_untouched Lookup.Demo.dataSource "demo"
    [⟨"city", "Pune", ""⟩] [.perform .openNew, .perform (.selectColumn "year")]
  have loading : w.editor.draft.isLoading = true := by decide +kernel
  have other : w.editor.draft.token ≠ some ⟨7⟩ := by decide +kernel
  refine ⟨(operations _).2 (.inr (.inl loading)), (messages _).2 (.inr (.inl other)), ?_⟩
  refine (operations .commit).1.mpr ?_
  rintro (closed | empty)
  · exact absurd closed (by decide +kernel)
  · exact absurd empty (by decide +kernel)

end World

end ColumnMap
