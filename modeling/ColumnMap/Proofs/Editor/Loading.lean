import Mathlib.Data.List.Nodup
import ColumnMap.Lookup.Demo
import ColumnMap.Proofs.Editor.Tracking

/-!
Loading ends, and no lookup is left running. While an editor loads, exactly one lookup or message
is on its way to end that; otherwise no lookup runs that has not been cancelled.
-/

namespace ColumnMap

open Selection

namespace Editor

/-! ### A closed editor -/

/-- A closed editor has an empty draft. -/
def Tidy (e : Editor) : Prop := e.isOpen = false → e.draft = {}

theorem tidy_of_open {e : Editor} (h : e.isOpen = true) : e.Tidy := by
  intro hc
  simp [h] at hc

theorem isOpen_eq_selection (e : Editor) (op : Operation) :
    (e.perform op).editor.isOpen = (e.selection.afterAll (e.moves op)).isOpen :=
  congrArg Selection.isOpen (e.selection_perform op)

theorem isOpen_ofColumn (s : Selection) (c : String) :
    (s.after (.ofColumn c)).isOpen = s.isOpen := by
  unfold Move.ofColumn
  split <;> rfl

/-- Only saving and closing close the popover. -/
theorem isOpen_perform {e : Editor} {op : Operation} (h : e.isOpen = true) (hc : op ≠ .commit)
    (hd : op ≠ .close) : (e.perform op).editor.isOpen = true := by
  have ho : e.selection.isOpen = true := h
  rw [isOpen_eq_selection]
  cases op with
  | selectColumn c => simp [moves, h, ho, afterAll, isOpen_ofColumn]
  | commit => exact absurd rfl hc
  | close => exact absurd rfl hd
  | openNew => simp [moves, h, ho, afterAll]
  | edit _ => simp [moves, h, ho, afterAll]
  | selectSuggestion _ => exact h
  | setTyped _ => exact h
  | setAuxiliary _ => exact h
  | remove _ => exact h

theorem isOpen_edit {e : Editor} {index : Nat} {m : Mapping} (h : e.isOpen = false)
    (hm : e.mappings[index]? = some m) : (e.edit index).editor.isOpen = true := by
  have hs := e.isOpen_eq_selection (.edit index)
  simp only [moves, h, hm, Bool.false_eq_true, if_false, afterAll, List.foldl_cons, List.foldl_nil,
    isOpen_ofColumn] at hs
  exact hs

theorem tidy_perform {e : Editor} (h : e.Tidy) (op : Operation) : (e.perform op).editor.Tidy := by
  cases ho : e.isOpen with
  | true =>
    cases op with
    | commit =>
      simp only [perform, commit, refuse]
      split
      · exact h
      · exact fun _ => rfl
    | close =>
      simp only [perform, close, refuse, ho]
      exact fun _ => rfl
    | _ => exact tidy_of_open (isOpen_perform ho (by simp) (by simp))
  | false =>
    have hd := h ho
    cases op with
    | openNew =>
      apply tidy_of_open
      simp [perform, openNew, ho]
    | edit index =>
      cases hm : e.mappings[index]? with
      | none => simpa [perform, edit, refuse, ho, hm] using h
      | some m => exact tidy_of_open (isOpen_edit ho hm)
    | selectColumn c => simpa [perform, selectColumn, refuse, ho] using h
    | selectSuggestion index => simpa [perform, selectSuggestion, refuse, ho] using h
    | setTyped text => simpa [perform, setTyped, refuse, ho] using h
    | setAuxiliary text => simpa [perform, setAuxiliary, refuse, ho] using h
    | commit => simpa [perform, commit, canCommit, refuse, ho] using h
    | close => simpa [perform, close, refuse, ho] using h
    | remove index =>
      intro _
      simp only [perform, remove, refuse]
      split
      · exact hd
      · simp [hd]

theorem tidy_applyLookup {e : Editor} (h : e.Tidy) (m : Settled) :
    (e.applyLookup m).editor.Tidy := by
  cases ho : e.isOpen with
  | true =>
    apply tidy_of_open
    have hs := congrArg Selection.isOpen (e.selection_applyLookup m)
    change (e.applyLookup m).editor.isOpen = _ at hs
    rw [hs]
    unfold receive
    split
    · split <;> exact ho
    · exact ho
  | false => simpa [applyLookup, refuse, ho] using h

end Editor

namespace World

theorem tidy_run {w : World} (h : w.editor.Tidy) (events : List Event) :
    (w.run events).editor.Tidy :=
  editor_run (P := Editor.Tidy) (fun _ op hd => Editor.tidy_perform hd op)
    (fun _ m hd => Editor.tidy_applyLookup hd m) h events

end World

/-! ### Lookups that have been cancelled -/

namespace Traffic

/-- No step takes a cancellation back. -/
theorem cancelled_step {t : Traffic} (h : ∀ k ∈ t.tasks, k.isCancelled = true) (st : Step) :
    ∀ k ∈ (t.step st).tasks, k.isCancelled = true := by
  intro k hk
  cases st with
  | call x =>
    obtain ⟨f, hf, hc⟩ := t.tasks_call x
    rw [step, hf] at hk
    obtain ⟨k', hk', rfl⟩ := List.mem_map.mp hk
    rcases hc k' with he | he <;> simp [he, h k' hk']
  | answer x a =>
    rw [step, tasks_answer] at hk
    obtain ⟨k', hk', rfl⟩ := List.mem_map.mp hk
    split <;> exact h k' hk'
  | finish x notices =>
    rw [step] at hk
    rcases t.finish_cases x notices with he | ⟨_, _, _, _, _, htasks, _⟩
    · rw [he] at hk
      exact h k hk
    · rw [htasks] at hk
      exact h k (List.mem_filter.mp hk).1

theorem cancelled_run {t : Traffic} (h : ∀ k ∈ t.tasks, k.isCancelled = true)
    (steps : List Step) : ∀ k ∈ (t.run steps).tasks, k.isCancelled = true := by
  induction steps generalizing t with
  | nil => exact h
  | cons st steps ih => exact ih (cancelled_step h st)

/-- Unfinished lookups that have not been cancelled. -/
def live (t : Traffic) : List Task := t.tasks.filter fun k => !k.isCancelled

/-- Messages that bring suggestions. -/
def brought (t : Traffic) : List Settled := t.queue.filter fun m => m.outcome != .cancelled

/-- What is on its way under a token: lookups that run for it, and messages that bring its
suggestions. -/
def underway (t : Traffic) (x : Token) : Nat :=
  t.live.countP (·.token == x) + t.brought.countP (·.token == x)

end Traffic

namespace Tracks

variable {s : Selection} {t : Traffic}

/-- The tokens of all that is unfinished or waits, counted: one at most. -/
theorem count_outstanding (tasks : List Task) (queue : List Settled) (x : Token) :
    (outstanding tasks queue).count x =
      tasks.countP (·.token == x) + queue.countP (·.token == x) := by
  simp only [outstanding, List.count, List.countP_append, List.countP_map]
  rfl

theorem live_eq_nil (h : Tracks s t.tasks t.queue) (hf : s.inFlight = none) : t.live = [] := by
  rw [Traffic.live, List.filter_eq_nil_iff]
  intro k hk
  have hc := h.running k hk
  simp only [hf, reduceCtorEq, iff_false] at hc
  simpa using hc

theorem live_le_one (h : Tracks s t.tasks t.queue) : t.live.length ≤ 1 := by
  cases hf : s.inFlight with
  | none => simp [h.live_eq_nil hf]
  | some x =>
    have hle : t.live.length ≤ t.tasks.countP (·.token == x) := by
      rw [Traffic.live, ← List.countP_eq_length_filter]
      refine List.countP_mono_left fun k hk hc => ?_
      have hk := (h.running k hk).mp (by simpa using hc)
      rw [hf, Option.some.injEq] at hk
      simp [hk]
    have hc := List.nodup_iff_count_le_one.mp h.distinct x
    rw [count_outstanding] at hc
    omega

/-- Exactly one thing is on its way to the lookup in flight. -/
theorem underway_eq_one (h : Tracks s t.tasks t.queue) {x : Token} (hf : s.inFlight = some x) :
    t.underway x = 1 := by
  have hlive : t.live.countP (·.token == x) = t.tasks.countP (·.token == x) := by
    rw [Traffic.live, List.countP_filter]
    refine List.countP_congr fun k hk => ?_
    have hr := h.running k hk
    rw [hf, Option.some.injEq] at hr
    simp only [Bool.and_eq_true, beq_iff_eq, Bool.not_eq_true', hr]
    exact ⟨fun hx => hx.1, fun hx => ⟨hx, hx.symm⟩⟩
  have hbrought : t.brought.countP (·.token == x) = t.queue.countP (·.token == x) := by
    rw [Traffic.brought, List.countP_filter]
    refine List.countP_congr fun m hm => ?_
    have hl := h.loaded m hm
    rw [hf, Option.some.injEq] at hl
    simp only [Bool.and_eq_true, beq_iff_eq, bne_iff_ne]
    exact ⟨fun hx => hx.1, fun hx => ⟨hx, hl hx.symm⟩⟩
  have hx := ((h.awaited x).mp hf).2
  rw [Traffic.underway, hlive, hbrought, ← count_outstanding]
  exact List.count_eq_one_of_mem h.distinct hx

end Tracks

namespace Editor

theorem phase_eq_loading (e : Editor) :
    e.phase = .loading ↔ e.isOpen = true ∧ e.draft.isLoading = true := by
  cases ho : e.isOpen <;> cases hl : e.draft.isLoading <;> simp [phase, ho, hl]

theorem phase_eq_editing (e : Editor) :
    e.phase = .editing ↔ e.isOpen = true ∧ e.draft.isLoading = false := by
  cases ho : e.isOpen <;> cases hl : e.draft.isLoading <;> simp [phase, ho, hl]

theorem phase_eq_idle (e : Editor) : e.phase = .idle ↔ e.isOpen = false := by
  cases ho : e.isOpen <;> cases hl : e.draft.isLoading <;> simp [phase, ho, hl]

end Editor

namespace World

/-- How the lookups of a world and the state of its editor agree. -/
structure Accounted (w : World) : Prop where
  /-- The draft is loading exactly while a lookup can be cancelled. -/
  loading_iff : w.editor.draft.isLoading = true ↔ w.editor.inFlight.isSome = true
  idle : w.editor.phase = .idle → w.editor.draft = {} ∧ w.editor.inFlight = none
  live_le_one : w.traffic.live.length ≤ 1
  live_eq_nil : w.editor.phase ≠ .loading → w.traffic.live = []
  /-- Either one lookup runs for the draft or one message brings its suggestions. -/
  underway : w.editor.phase = .loading →
    ∃ x, w.editor.draft.token = some x ∧ w.traffic.underway x = 1
  /-- The message that the draft waits for ends the loading. -/
  settles : w.editor.phase = .loading → ∀ place m, w.traffic.queue[place]? = some m →
    w.editor.draft.token = some m.token → (w.step (.deliver place)).editor.phase = .editing
  /-- No message tells an open draft that its own lookup was cancelled. -/
  not_cancelled : w.editor.isOpen = true → ∀ m ∈ w.traffic.queue,
    w.editor.draft.token = some m.token → m.outcome ≠ .cancelled
  /-- Once the editor is gone all unfinished lookups are cancelled, and stay so. -/
  dropped : ∀ steps, ∀ k ∈ ((w.traffic.absorbAll w.editor.drop).run steps).tasks,
    k.isCancelled = true

theorem accounted_of_tracked {w : World} (hd : w.editor.Tidy) (h : w.Tracked) : Accounted w where
  loading_iff := by rw [isLoading_eq h]
  idle := by
    intro hi
    rw [Editor.phase_eq_idle] at hi
    exact ⟨hd hi, h.inFlight_of_closed hi⟩
  live_le_one := h.live_le_one
  live_eq_nil := by
    intro hp
    apply h.live_eq_nil
    rw [Ne, Editor.phase_eq_loading, not_and] at hp
    cases ho : w.editor.isOpen with
    | false => exact h.inFlight_of_closed ho
    | true =>
      have hn : w.editor.inFlight = none := by simpa [isLoading_eq h] using hp ho
      exact hn
  underway := by
    intro hp
    rw [Editor.phase_eq_loading] at hp
    have hl := isLoading_eq h
    rw [hp.2] at hl
    obtain ⟨x, hx⟩ := Option.isSome_iff_exists.mp hl.symm
    exact ⟨x, ((h.awaited x).mp hx).1, h.underway_eq_one hx⟩
  settles := by
    intro hp place m hm ht
    rw [Editor.phase_eq_loading] at hp
    have hq : m ∈ w.traffic.queue := List.mem_of_getElem? hm
    rcases w.deliver_cases place with ⟨hn, -⟩ | ⟨m', hm', he, -, -⟩
    · rw [hm] at hn
      cases hn
    · rw [hm, Option.some.injEq] at hm'
      subst hm'
      obtain ⟨l, -, hr⟩ := h.receive_awaited hq (h.inFlight_of_message hq ht)
      have hs := w.editor.selection_applyLookup m
      rw [← he, hr] at hs
      rw [Editor.phase_eq_editing]
      exact ⟨(congrArg Selection.isOpen hs).trans hp.1, congrArg Selection.isLoading hs⟩
  not_cancelled := by
    intro _ m hm ht
    exact h.loaded m hm (h.inFlight_of_message hm ht)
  dropped := by
    intro steps
    refine Traffic.cancelled_run ?_ steps
    intro k hk
    rw [Editor.drop, Traffic.tasks_cancelInFlight] at hk
    exact h.cancelled_dismiss hk

/-- However the user, the lookups, the source and the messages take turns, the lookups of an editor
stay accounted for. -/
theorem accounted_run (d : DataSource) (source : String) (initial : List Mapping)
    (events : List Event) : Accounted ((start d source initial).run events) := by
  have ht := tracked_run (tracked_start d source initial) events
  have hd : (start d source initial).editor.Tidy := fun _ => rfl
  exact accounted_of_tracked (tidy_run hd events) ht

/-- A second column is selected, and both lookups have left their messages; the first one did not
notice that it was cancelled. -/
def bothAnswered : List Event :=
  [.perform .openNew, .perform (.selectColumn "city"), .perform (.selectColumn "year"),
    .lookup (.call ⟨1⟩), .lookup (.answer ⟨1⟩ (.ok [.text "Pune"])), .lookup (.finish ⟨1⟩ false),
    .lookup (.call ⟨2⟩), .lookup (.answer ⟨2⟩ (.error (.network "gone"))),
    .lookup (.finish ⟨2⟩ true)]

/-- The message of the second lookup, which failed, ends the loading though the first one still
waits. -/
theorem accounted_run_bothAnswered :
    let w := (start Lookup.Demo.dataSource "demo" []).run bothAnswered
    w.editor.phase = .loading ∧
      (∃ x, w.editor.draft.token = some x ∧ w.traffic.underway x = 1) ∧
      (w.step (.deliver 1)).editor.phase = .editing := by
  have h := accounted_run Lookup.Demo.dataSource "demo" [] bothAnswered
  have hp :
      ((start Lookup.Demo.dataSource "demo" []).run bothAnswered).editor.phase = .loading := by
    decide +kernel
  refine ⟨hp, h.underway hp, ?_⟩
  exact h.settles hp 1 ⟨⟨2⟩, "year", .loaded []⟩ (by decide +kernel) (by decide +kernel)

end World

end ColumnMap
