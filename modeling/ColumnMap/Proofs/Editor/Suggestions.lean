import Mathlib.Data.List.Nodup
import ColumnMap.Lookup.Demo
import ColumnMap.Proofs.Editor.History
import ColumnMap.Proofs.Editor.Tracking

/-!
The last selection wins. Whatever is on view was answered to a lookup of the selected column, and
once nothing is being loaded it is the answer to the lookup of the latest selection.
-/

namespace ColumnMap

open Selection

/-- What the history says of a selection, its lookups and its messages. -/
structure Recorded (s : Selection) (tasks : List Task) (queue : List Settled) (h : History) :
    Prop where
  answered : ∀ k ∈ tasks, h.answer k.token = k.answer
  brought : ∀ m ∈ queue, ∀ l, m.outcome = .loaded l →
    ∃ a, h.answer m.token = some a ∧ l = Lookup.suggestionsOf a
  fresh : ∀ x, s.lastToken < x.number → h.answer x = none
  unselected : s.token = none → s.column = none
  selected : ∀ x, s.token = some x → ∃ c, s.column = some c ∧
    (s.looks = true → h.latest = some ⟨x, c⟩ ∧ ⟨x, c⟩ ∈ h.session)
  shown : s.suggestions ≠ [] → ∃ x c a, s.column = some c ∧ ⟨x, c⟩ ∈ h.session ∧
    h.answer x = some a ∧ s.suggestions = Lookup.suggestionsOf a
  settled : s.looks = true → s.inFlight = none → ∀ x, s.token = some x →
    ∃ a, h.answer x = some a ∧ s.suggestions = Lookup.suggestionsOf a
  unasked : s.looks = false → s.suggestions = []

namespace Recorded

variable {s : Selection} {tasks : List Task} {queue : List Settled} {h : History}

/-- With nothing selected and nothing shown only the lookups and messages count. -/
theorem unselect (r : Recorded s tasks queue h) {s' : Selection} {h' : History}
    (hn : s'.lastToken = s.lastToken) (ht : s'.token = none) (hc : s'.column = none)
    (hs : s'.suggestions = []) (ha : h'.answer = h.answer) : Recorded s' tasks queue h' where
  answered := by rw [ha]; exact r.answered
  brought := by rw [ha]; exact r.brought
  fresh := by rw [ha, hn]; exact r.fresh
  unselected := fun _ => hc
  selected := by simp [ht]
  shown := by simp [hs]
  settled := by simp [ht]
  unasked := fun _ => hs

theorem suggestions_unselected (r : Recorded s tasks queue h) (ht : s.token = none) :
    s.suggestions = [] := by
  by_contra hs
  obtain ⟨x, c, a, hc, -⟩ := r.shown hs
  rw [r.unselected ht] at hc
  cases hc

/-- Whether a lookup has been cancelled or called its source is not recorded. -/
theorem map_tasks (r : Recorded s tasks queue h) {f : Task → Task}
    (ht : ∀ k, (f k).token = k.token) (ha : ∀ k, (f k).answer = k.answer) :
    Recorded s (tasks.map f) queue h :=
  { r with
    answered := by
      intro k hk
      obtain ⟨k', hk', rfl⟩ := List.mem_map.mp hk
      rw [ht, ha]
      exact r.answered k' hk' }

theorem answer_dismiss (s : Selection) (k : Task) : (s.dismiss k).answer = k.answer := by
  unfold dismiss
  split <;> rfl

/-! ### Moves -/

theorem token_of_started {s : Selection} {m : Move} {c : Call} (h : s.started m = some c) :
    c.token = s.nextToken := by
  unfold started at h
  split at h
  · split at h
    · rw [Option.some.injEq] at h
      rw [← h]
    · cases h
  · cases h

theorem after_selected (r : Recorded s tasks queue h) (c : String) :
    Recorded (s.after (.selected c)) (s.tasksAfter tasks (.selected c)) queue
      (h.after s (.selected c)) := by
  have hd := r.map_tasks (Tracks.token_dismiss s) (answer_dismiss s)
  constructor
  · intro k hk
    rcases List.mem_append.mp hk with hk | hk
    · exact hd.answered k hk
    · obtain ⟨call, hcall, rfl⟩ := List.mem_map.mp hk
      have ht := token_of_started (Option.mem_toList.mp hcall)
      exact r.fresh call.token (by rw [ht]; exact Nat.lt_succ_self _)
  · exact r.brought
  · intro x hx
    simp only [after] at hx
    exact r.fresh x (by omega)
  · intro hx
    simp [after] at hx
  · intro x hx
    simp only [after, Option.some.injEq] at hx
    subst hx
    refine ⟨c, rfl, fun hl => ?_⟩
    have hl : s.looks = true := hl
    simp [History.after, started, hl]
  · intro hs
    -- Suggestions survive a selection only if it is of the same column.
    by_cases hk : (s.column == some c && s.looks) = true
    · have hsame : (s.after (.selected c)).suggestions = s.suggestions := by simp [after, hk]
      rw [hsame] at hs ⊢
      obtain ⟨x, c', a, hc, hx, ha, he⟩ := r.shown hs
      rw [Bool.and_eq_true, beq_iff_eq, hc, Option.some.injEq] at hk
      exact ⟨x, c', a, by rw [hk.1]; rfl, List.mem_append_right _ hx, ha, he⟩
    · simp [after, hk] at hs
  · intro hl hf
    have hl : s.looks = true := hl
    simp [after, hl] at hf
  · intro hl
    have hl : s.looks = false := hl
    simp [after, hl]

theorem after_move (r : Recorded s tasks queue h) (m : Move) :
    Recorded (s.after m) (s.tasksAfter tasks m) queue (h.after s m) := by
  have hd := r.map_tasks (Tracks.token_dismiss s) (answer_dismiss s)
  cases m with
  | opened =>
    have hr : Recorded (s.after .opened) tasks queue (h.after s .opened) :=
      r.unselect rfl rfl rfl rfl rfl
    simpa [tasksAfter, started, Move.dismisses] using hr
  | selected c => exact r.after_selected c
  | cleared =>
    have hr : Recorded (s.after .cleared) (tasks.map s.dismiss) queue (h.after s .cleared) :=
      hd.unselect rfl rfl rfl rfl rfl
    simpa [tasksAfter, started, Move.dismisses] using hr
  | closed =>
    have hr : Recorded (s.after .closed) (tasks.map s.dismiss) queue (h.after s .closed) :=
      hd.unselect rfl rfl rfl rfl rfl
    simpa [tasksAfter, started, Move.dismisses] using hr

theorem after_moves (r : Recorded s tasks queue h) (moves : List Move) :
    Recorded (s.afterAll moves) (s.tasksAfterAll tasks moves) queue (h.afterAll s moves) := by
  induction moves generalizing s tasks h with
  | nil => exact r
  | cons m moves ih => exact ih (r.after_move m)

/-! ### Steps of a lookup -/

theorem finish (r : Recorded s tasks queue h) {k : Task} {m : Settled} (hk : k ∈ tasks)
    (he : Traffic.Ends k m) :
    Recorded s (tasks.filter (·.token != k.token)) (queue ++ [m]) h :=
  { r with
    answered := fun k' hk' => r.answered k' (List.mem_filter.mp hk').1
    brought := by
      intro m' hm' l hl
      rcases List.mem_append.mp hm' with hm' | hm'
      · exact r.brought m' hm' l hl
      · rw [List.mem_singleton] at hm'
        subst hm'
        obtain ⟨ht, -, ⟨ho, -⟩ | ⟨a, ha, ho⟩⟩ := he
        · rw [ho] at hl
          cases hl
        · rw [ho, Lookup.Outcome.loaded.injEq] at hl
          exact ⟨a, by rw [ht, r.answered k hk, ha], hl.symm⟩ }

/-- An answer that no lookup waits for is lost. -/
theorem map_unawaited {x : Token} (hx : ∀ k ∈ tasks, k.token = x → Traffic.waits k = false)
    (a : Lookup.Answer) :
    (tasks.map fun k =>
      if k.token = x ∧ Traffic.waits k = true then { k with answer := some a } else k) = tasks := by
  refine (List.map_congr_left fun k hk => if_neg ?_).trans (List.map_id' tasks)
  rintro ⟨ht, hw⟩
  rw [hx k hk ht] at hw
  cases hw

/-- No answer is ever replaced. -/
theorem answer_answered {x : Token} (hx : h.answer x = none) (a : Lookup.Answer) {y : Token}
    {b : Lookup.Answer} (hy : h.answer y = some b) : (h.answered x a).answer y = some b := by
  have hne : y ≠ x := by
    intro he
    rw [he, hx] at hy
    cases hy
  simp [History.answered, hne, hy]

/-- A lookup that waits gets its answer. -/
theorem answer (r : Recorded s tasks queue h) (hn : (tasks.map (·.token)).Nodup) {k : Task}
    (hk : k ∈ tasks) (hw : Traffic.waits k = true) (a : Lookup.Answer)
    (hlast : k.token.number ≤ s.lastToken) :
    Recorded s (tasks.map fun k' =>
        if k'.token = k.token ∧ Traffic.waits k' = true then { k' with answer := some a } else k')
      queue (h.answered k.token a) := by
  have hnone : h.answer k.token = none := by
    rw [r.answered k hk]
    simp only [Traffic.waits, Bool.and_eq_true, Option.isNone_iff_eq_none] at hw
    exact hw.2
  have hkeep {y : Token} {b : Lookup.Answer} (hy : h.answer y = some b) :
      (h.answered k.token a).answer y = some b := answer_answered hnone a hy
  constructor
  · intro k' hk'
    obtain ⟨j, hj, rfl⟩ := List.mem_map.mp hk'
    by_cases ht : j.token = k.token
    · have he : j = k := List.inj_on_of_nodup_map hn hj hk ht
      subst he
      simp [hw, History.answered]
    · simp [ht, History.answered, r.answered j hj]
  · intro m hm l hl
    obtain ⟨b, hb, he⟩ := r.brought m hm l hl
    exact ⟨b, hkeep hb, he⟩
  · intro x hx
    have hne : x ≠ k.token := by
      intro he
      rw [he] at hx
      omega
    simpa [History.answered, hne] using r.fresh x hx
  · exact r.unselected
  · exact r.selected
  · intro hs
    obtain ⟨x, c, b, hc, hx, hb, he⟩ := r.shown hs
    exact ⟨x, c, b, hc, hx, hkeep hb, he⟩
  · intro hl hf x hx
    obtain ⟨b, hb, he⟩ := r.settled hl hf x hx
    exact ⟨b, hkeep hb, he⟩
  · exact r.unasked

/-! ### Messages -/

theorem deliver (r : Recorded s tasks queue h) (t : Tracks s tasks queue) {place : Nat}
    {m : Settled} (hm : queue[place]? = some m) :
    Recorded (s.receive m) tasks (queue.eraseIdx place) h := by
  have hq : m ∈ queue := List.mem_of_getElem? hm
  have hb : ∀ m' ∈ queue.eraseIdx place, ∀ l, m'.outcome = .loaded l →
      ∃ a, h.answer m'.token = some a ∧ l = Lookup.suggestionsOf a :=
    fun m' hm' => r.brought m' (List.mem_of_mem_eraseIdx hm')
  by_cases hf : s.inFlight = some m.token
  · obtain ⟨l, ho, hr⟩ := t.receive_awaited hq hf
    obtain ⟨a, ha, hl⟩ := r.brought m hq l ho
    have ht := ((t.awaited m.token).mp hf).1
    have hlooks := t.looks_of_message hq
    obtain ⟨c, hc, hsel⟩ := r.selected m.token ht
    rw [hr]
    refine { r with brought := hb, shown := ?_, settled := ?_, unasked := by simp [hlooks] }
    · intro _
      exact ⟨m.token, c, a, hc, (hsel hlooks).2, ha, hl⟩
    · intro _ _ x hx
      have hx : s.token = some x := hx
      rw [ht, Option.some.injEq] at hx
      exact ⟨a, by rw [← hx, ha], hl⟩
  · rw [t.receive_other hq hf]
    exact { r with brought := hb }

end Recorded

namespace World

/-- The history of a world's run says what it should of the world. -/
abbrev RecordedIn (w : World) (h : History) : Prop :=
  Recorded w.editor.selection w.traffic.tasks w.traffic.queue h

theorem recorded_start (d : DataSource) (source : String) (initial : List Mapping) :
    (start d source initial).RecordedIn {} := by
  constructor <;> simp [start, Editor.selection]

theorem recorded_perform {w : World} {h : History}
    (t : w.Tracked) (r : w.RecordedIn h) (op : Operation) :
    (w.step (.perform op)).RecordedIn (h.step w (.perform op)) := by
  have hr := r.after_moves (w.editor.moves op)
  rw [← tasks_perform, ← selection_perform, ← queue_perform w op] at hr
  rcases h.perform_moves w.editor op with he | ⟨ho, hm, he⟩
  · rw [History.step, he]
    exact hr
  · -- The history forgets the latest lookup, and a closed popover has none.
    have ht : (w.step (.perform op)).editor.selection.token = none := by
      rw [selection_perform, hm]
      exact t.closed ho
    rw [hm] at hr
    rw [History.step, he]
    exact { hr with selected := by simp [ht] }

theorem recorded_lookup {w : World} {h : History}
    (t : w.Tracked) (r : w.RecordedIn h) (st : Traffic.Step) :
    (w.step (.lookup st)).RecordedIn (h.step w (.lookup st)) := by
  rw [RecordedIn, step]
  cases st with
  | call x =>
    obtain ⟨f, hf, hk⟩ := w.traffic.tasks_call x
    simp only [Traffic.step, hf, Traffic.queue_call, History.step]
    refine r.map_tasks ?_ ?_
    · intro k
      rcases hk k with he | he <;> rw [he]
    · intro k
      rcases hk k with he | he <;> rw [he]
  | answer x a =>
    have hn : (w.traffic.tasks.map (·.token)).Nodup := (List.nodup_append.mp t.distinct).1
    simp only [Traffic.step, Traffic.tasks_answer, Traffic.queue_answer, History.step]
    cases hx : w.traffic.task? x with
    | none =>
      have hnone : ∀ k ∈ w.traffic.tasks, k.token = x → Traffic.waits k = false := by
        intro k hk ht
        have hne := List.find?_eq_none.mp hx k hk
        simp [ht] at hne
      simpa [Recorded.map_unawaited hnone] using r
    | some k =>
      obtain ⟨hk, rfl⟩ := Traffic.task?_some hx
      cases hw : Traffic.waits k with
      | true =>
        simp only [Option.any_some, hw, if_true]
        exact r.answer hn hk hw a (t.issued _ (mem_outstanding.mpr (.inl ⟨k, hk, rfl⟩)))
      | false =>
        have hnone : ∀ j ∈ w.traffic.tasks, j.token = k.token → Traffic.waits j = false := by
          intro j hj ht
          rw [List.inj_on_of_nodup_map hn hj hk ht, hw]
        simpa [Recorded.map_unawaited hnone, hw] using r
  | finish x notices =>
    rcases w.traffic.finish_cases x notices with he | ⟨k, hk, rfl, m, hm, htasks, hqueue⟩
    · simpa [Traffic.step, he, History.step] using r
    · simp only [Traffic.step, htasks, hqueue, History.step]
      exact r.finish hk hm

theorem recorded_step {w : World} {h : History}
    (t : w.Tracked) (r : w.RecordedIn h) (ev : Event) : (w.step ev).RecordedIn (h.step w ev) := by
  cases ev with
  | perform op => exact recorded_perform t r op
  | lookup st => exact recorded_lookup t r st
  | deliver place =>
    rcases w.deliver_cases place with ⟨-, hw⟩ | ⟨m, hm, he, ht, hq⟩
    · rw [hw]
      exact r
    · rw [RecordedIn, he, ht, hq, Editor.selection_applyLookup]
      exact r.deliver t hm

theorem recorded_run {w : World} {h : History}
    (t : w.Tracked) (r : w.RecordedIn h) (events : List Event) :
    (w.run events).RecordedIn (w.history h events) := by
  induction events generalizing w h with
  | nil => exact r
  | cons ev events ih => exact ih (tracked_step t ev) (recorded_step t r ev)

/-- What is on view was answered to a lookup of the selected column. -/
theorem shown_recorded {w : World} {h : History} (t : w.Tracked) (r : w.RecordedIn h)
    (hs : w.editor.draft.suggestions ≠ []) :
    w.editor.isOpen = true ∧ ∃ x c values, w.editor.draft.column = some c ∧ ⟨x, c⟩ ∈ h.session ∧
      h.answer x = some (.ok values) ∧
      w.editor.draft.suggestions = values.map Suggestion.ofValue := by
  obtain ⟨x, c, a, hc, hx, ha, he⟩ := r.shown hs
  have ho : w.editor.isOpen = true := by
    cases ho : w.editor.isOpen with
    | true => rfl
    | false =>
      have hn := r.unselected (t.closed ho)
      rw [hn] at hc
      cases hc
  refine ⟨ho, x, c, ?_⟩
  cases a with
  | ok values => exact ⟨values, hc, hx, ha, he⟩
  | error failure => exact absurd he hs

/-- With nothing being loaded, the latest lookup has been answered. -/
theorem settled_recorded {w : World} {h : History} (t : w.Tracked) (r : w.RecordedIn h) {c : String}
    (hc : w.editor.draft.column = some c) (hd : w.editor.dataSource.supportsLookup = true)
    (hl : w.editor.draft.isLoading = false) :
    ∃ x a, w.editor.draft.token = some x ∧ h.latest = some ⟨x, c⟩ ∧ h.answer x = some a ∧
      w.editor.draft.suggestions = Lookup.suggestionsOf a := by
  have hf : w.editor.inFlight = none := by
    have hi := isLoading_eq t
    simpa [hl] using hi
  cases hx : w.editor.draft.token with
  | none =>
    have hn : w.editor.draft.column = none := r.unselected hx
    rw [hn] at hc
    cases hc
  | some x =>
    obtain ⟨c', hc', hsel⟩ := r.selected x hx
    obtain ⟨a, ha, he⟩ := r.settled hd hf x hx
    have hcc : c = c' := Option.some.inj (hc.symm.trans hc')
    rw [hcc]
    exact ⟨x, a, rfl, (hsel hd).1, ha, he⟩

/-- Suggestions on view are the values that the source has answered for the selected column to a
lookup of this popover, in order and with their labels. Once nothing is being loaded they come from
the lookup of the latest selection, and a failed one leaves none. -/
theorem last_selection_wins (d : DataSource) (source : String) (initial : List Mapping)
    (events : List Event) :
    let w := (start d source initial).run events
    let h := (start d source initial).history {} events
    (w.editor.draft.suggestions ≠ [] → w.editor.isOpen = true ∧
      ∃ x c values, w.editor.draft.column = some c ∧ ⟨x, c⟩ ∈ h.session ∧
        h.answer x = some (.ok values) ∧
        w.editor.draft.suggestions = values.map Suggestion.ofValue) ∧
    ∀ c, w.editor.isOpen = true → w.editor.draft.column = some c → d.supportsLookup = true →
      w.editor.draft.isLoading = false →
      ∃ x a, w.editor.draft.token = some x ∧ h.latest = some ⟨x, c⟩ ∧ h.answer x = some a ∧
        w.editor.draft.suggestions = Lookup.suggestionsOf a := by
  intro w h
  have t : w.Tracked := tracked_run (tracked_start d source initial) events
  have r : w.RecordedIn h :=
    recorded_run (tracked_start d source initial) (recorded_start d source initial) events
  have hlooks : w.editor.dataSource.supportsLookup = d.supportsLookup := looks_run _ _
  constructor
  · exact shown_recorded t r
  · intro c _ hc hd hl
    exact settled_recorded t r hc (hlooks.trans hd) hl

/-- Two columns are selected, and the answer for the second one comes first. -/
def crossed : List Event :=
  [.perform .openNew, .perform (.selectColumn "country"), .perform (.selectColumn "city"),
    .lookup (.call ⟨1⟩), .lookup (.call ⟨2⟩),
    .lookup (.answer ⟨2⟩ (.ok [.text "Pune", .text "Lyon"])), .lookup (.finish ⟨2⟩ true),
    .deliver 0,
    .lookup (.answer ⟨1⟩ (.ok [.text "India"])), .lookup (.finish ⟨1⟩ false), .deliver 0]

/-- The late answer for the first column, which nobody noticed was cancelled, is not shown. -/
theorem last_selection_wins_crossed :
    let w := (start Lookup.Demo.dataSource "demo" []).run crossed
    let h := (start Lookup.Demo.dataSource "demo" []).history {} crossed
    w.editor.draft.suggestions = [.ofValue (.text "Pune"), .ofValue (.text "Lyon")] ∧
      ∃ x a, w.editor.draft.token = some x ∧ h.latest = some ⟨x, "city"⟩ ∧ h.answer x = some a ∧
        w.editor.draft.suggestions = Lookup.suggestionsOf a := by
  have hw := last_selection_wins Lookup.Demo.dataSource "demo" [] crossed
  constructor
  · decide +kernel
  · exact hw.2 "city" (by decide +kernel) (by decide +kernel) rfl (by decide +kernel)

end World

end ColumnMap
