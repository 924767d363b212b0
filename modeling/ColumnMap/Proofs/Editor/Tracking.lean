import Mathlib.Data.List.Perm.Basic
import ColumnMap.Proofs.Editor.Selection

/-!
An editor keeps track of its lookups. No two lookups share a token, the one in flight is the one
with the token of the draft, all others are cancelled, and a lookup stays in flight until its
message has been taken in.
-/

namespace ColumnMap

open Selection

/-- Tokens of the lookups that have not finished and of the messages that wait. -/
def outstanding (tasks : List Task) (queue : List Settled) : List Token :=
  tasks.map (·.token) ++ queue.map (·.token)

theorem mem_outstanding {tasks : List Task} {queue : List Settled} {x : Token} :
    x ∈ outstanding tasks queue ↔ (∃ k ∈ tasks, k.token = x) ∨ ∃ m ∈ queue, m.token = x := by
  simp [outstanding]

theorem outstanding_map {tasks : List Task} {queue : List Settled} {f : Task → Task}
    (hf : ∀ k, (f k).token = k.token) :
    outstanding (tasks.map f) queue = outstanding tasks queue := by
  have he : (fun k : Task => k.token) ∘ f = fun k => k.token := funext hf
  simp only [outstanding, List.map_map, he]

theorem outstanding_concat (tasks : List Task) (queue : List Settled) (k : Task) :
    (outstanding (tasks ++ [k]) queue).Perm (k.token :: outstanding tasks queue) := by
  simp only [outstanding, List.map_append, List.map_cons, List.map_nil, List.append_assoc,
    List.cons_append, List.nil_append]
  exact List.perm_middle

/-- What an editor knows of its lookups. -/
structure Tracks (s : Selection) (tasks : List Task) (queue : List Settled) : Prop where
  distinct : (outstanding tasks queue).Nodup
  issued : ∀ x ∈ outstanding tasks queue, x.number ≤ s.lastToken
  latest : ∀ x, s.token = some x → x.number ≤ s.lastToken
  awaited : ∀ x, s.inFlight = some x ↔ s.token = some x ∧ x ∈ outstanding tasks queue
  running : ∀ k ∈ tasks, k.isCancelled = false ↔ s.inFlight = some k.token
  loaded : ∀ m ∈ queue, s.inFlight = some m.token → m.outcome ≠ .cancelled
  loading : s.isLoading = s.inFlight.isSome
  closed : s.isOpen = false → s.token = none
  silent : s.looks = false → tasks = [] ∧ queue = []

namespace Tracks

variable {s : Selection} {tasks : List Task} {queue : List Settled}

/-- Every message that carries the token of the draft is being waited for. -/
theorem inFlight_of_message (h : Tracks s tasks queue) {m : Settled} (hm : m ∈ queue)
    (ht : s.token = some m.token) : s.inFlight = some m.token :=
  (h.awaited m.token).mpr ⟨ht, mem_outstanding.mpr (.inr ⟨m, hm, rfl⟩)⟩

/-- Without a token nothing is in flight. -/
theorem inFlight_of_token (h : Tracks s tasks queue) (ht : s.token = none) : s.inFlight = none := by
  cases hf : s.inFlight with
  | none => rfl
  | some x =>
    have hx := ((h.awaited x).mp hf).1
    rw [ht] at hx
    cases hx

/-- With the popover closed nothing is in flight. -/
theorem inFlight_of_closed (h : Tracks s tasks queue) (ho : s.isOpen = false) :
    s.inFlight = none :=
  h.inFlight_of_token (h.closed ho)

/-! ### Moves -/

@[simp] theorem token_dismiss (s : Selection) (k : Task) : (s.dismiss k).token = k.token := by
  unfold dismiss
  split <;> rfl

/-- After a dismissal all lookups are cancelled. -/
theorem cancelled_dismiss (h : Tracks s tasks queue) {k : Task} (hk : k ∈ tasks.map s.dismiss) :
    k.isCancelled = true := by
  obtain ⟨k', hk', rfl⟩ := List.mem_map.mp hk
  by_cases hf : s.inFlight = some k'.token
  · simp [dismiss, hf]
  · have hc : ¬ k'.isCancelled = false := fun hc => hf ((h.running k' hk').mp hc)
    simpa [dismiss, hf] using hc

/-- Letting go of the lookup in flight. -/
theorem release (h : Tracks s tasks queue) {s' : Selection} (hl : s'.looks = s.looks)
    (hn : s'.lastToken = s.lastToken) (ht : s'.token = none) (hf : s'.inFlight = none)
    (hi : s'.isLoading = false) : Tracks s' (tasks.map s.dismiss) queue where
  distinct := by
    rw [outstanding_map (token_dismiss s)]
    exact h.distinct
  issued := by
    rw [outstanding_map (token_dismiss s), hn]
    exact h.issued
  latest := by simp [ht]
  awaited := by simp [ht, hf]
  running := by
    intro k hk
    simp [cancelled_dismiss h hk, hf]
  loaded := by simp [hf]
  loading := by simp [hi, hf]
  closed := fun _ => ht
  silent := by
    intro hs
    rw [hl] at hs
    simp [h.silent hs]

/-- A new token is not outstanding. -/
theorem nextToken_not_mem (h : Tracks s tasks queue) : s.nextToken ∉ outstanding tasks queue := by
  intro hx
  have := h.issued _ hx
  simp only [nextToken] at this
  omega

/-- With no lookup in flight, starting one under a new token. -/
theorem start (h : Tracks s tasks queue) {s' : Selection} (c : String) (hs : s.token = none)
    (ho : s'.isOpen = true) (hl : s'.looks = true) (hn : s'.lastToken = s.lastToken + 1)
    (ht : s'.token = some s.nextToken) (hf : s'.inFlight = some s.nextToken)
    (hi : s'.isLoading = true) :
    Tracks s' (tasks ++ [{ token := s.nextToken, column := c }]) queue := by
  have hp := outstanding_concat tasks queue { token := s.nextToken, column := c }
  have hnew := h.nextToken_not_mem
  have hnone := h.inFlight_of_token hs
  constructor
  · exact hp.nodup_iff.mpr (List.nodup_cons.mpr ⟨hnew, h.distinct⟩)
  · intro x hx
    rw [hn]
    rcases List.mem_cons.mp (hp.mem_iff.mp hx) with rfl | hx
    · exact Nat.le_refl _
    · exact Nat.le_succ_of_le (h.issued x hx)
  · intro x hx
    rw [ht, Option.some.injEq] at hx
    rw [hn, ← hx]
    exact Nat.le_refl _
  · intro x
    rw [hf, ht, hp.mem_iff]
    constructor
    · rintro hx
      rw [Option.some.injEq] at hx
      exact ⟨by rw [hx], by rw [hx]; exact List.mem_cons_self⟩
    · exact fun hx => hx.1
  · intro k hk
    rw [hf, Option.some.injEq]
    rcases List.mem_append.mp hk with hk | hk
    · have hne : s.nextToken ≠ k.token := by
        intro he
        exact hnew (mem_outstanding.mpr (.inl ⟨k, hk, he.symm⟩))
      have hc := h.running k hk
      simp only [hnone, reduceCtorEq, iff_false] at hc
      simp [hc, hne]
    · rw [List.mem_singleton] at hk
      subst hk
      simp
  · intro m hm hx
    rw [hf, Option.some.injEq] at hx
    exact absurd (mem_outstanding.mpr (.inr ⟨m, hm, hx.symm⟩)) hnew
  · rw [hi, hf]
    rfl
  · simp [ho]
  · simp [hl]

/-- The selection with its lookup let go. -/
theorem after_cleared (h : Tracks s tasks queue) :
    Tracks (s.after .cleared) (tasks.map s.dismiss) queue :=
  h.release rfl rfl rfl rfl rfl

theorem after_selected (h : Tracks s tasks queue) (ho : s.isOpen = true) (c : String) :
    Tracks (s.after (.selected c)) (s.tasksAfter tasks (.selected c)) queue := by
  cases hl : s.looks with
  | false =>
    obtain ⟨htasks, hqueue⟩ := h.silent hl
    subst htasks hqueue
    constructor <;> simp [after, tasksAfter, started, outstanding, nextToken, hl, ho]
  | true =>
    have htasks : s.tasksAfter tasks (.selected c) =
        tasks.map s.dismiss ++ [{ token := s.nextToken, column := c }] := by
      simp [tasksAfter, started, Move.dismisses, hl]
    rw [htasks]
    exact h.after_cleared.start c rfl ho hl rfl rfl (by simp [after, hl]; rfl) hl

theorem after_opened (h : Tracks s tasks queue) (ho : s.isOpen = false) :
    Tracks (s.after .opened) tasks queue := by
  have hf := h.inFlight_of_closed ho
  have hr : Tracks (s.after .opened) (tasks.map s.dismiss) queue := h.release rfl rfl rfl hf rfl
  have hd : s.dismiss = id := by
    funext k
    simp [dismiss, hf]
  simpa [hd] using hr

theorem after_move (h : Tracks s tasks queue) (m : Move) (hm : s.fits m) :
    Tracks (s.after m) (s.tasksAfter tasks m) queue := by
  cases m with
  | opened => simpa [tasksAfter, started, Move.dismisses] using h.after_opened hm
  | selected c => exact h.after_selected hm c
  | cleared => simpa [tasksAfter, started, Move.dismisses] using h.after_cleared
  | closed =>
    have hr : Tracks (s.after .closed) (tasks.map s.dismiss) queue :=
      h.release rfl rfl rfl rfl rfl
    simpa [tasksAfter, started, Move.dismisses] using hr

theorem after_moves (h : Tracks s tasks queue) (moves : List Move) (hm : s.fitsAll moves) :
    Tracks (s.afterAll moves) (s.tasksAfterAll tasks moves) queue := by
  induction moves generalizing s tasks with
  | nil => exact h
  | cons m moves ih => exact ih (h.after_move m hm.1) hm.2

/-! ### Steps of a lookup -/

/-- Only token and cancellation of an unfinished lookup count. -/
theorem map_tasks (h : Tracks s tasks queue) {f : Task → Task} (ht : ∀ k, (f k).token = k.token)
    (hc : ∀ k, (f k).isCancelled = k.isCancelled) : Tracks s (tasks.map f) queue where
  distinct := by rw [outstanding_map ht]; exact h.distinct
  issued := by rw [outstanding_map ht]; exact h.issued
  latest := h.latest
  awaited := by rw [outstanding_map ht]; exact h.awaited
  running := by
    intro k hk
    obtain ⟨k', hk', rfl⟩ := List.mem_map.mp hk
    rw [ht, hc]
    exact h.running k' hk'
  loaded := h.loaded
  loading := h.loading
  closed := h.closed
  silent := by
    intro hl
    simp [h.silent hl]

/-- A lookup that ends hands its token over to its message. -/
theorem outstanding_finish (hd : (outstanding tasks queue).Nodup) {k : Task} {m : Settled}
    (hk : k ∈ tasks) (hm : m.token = k.token) :
    (outstanding (tasks.filter (·.token != k.token)) (queue ++ [m])).Perm
      (outstanding tasks queue) := by
  have hn : (tasks.map (·.token)).Nodup := (List.nodup_append.mp hd).1
  have hf : (tasks.filter (·.token != k.token)).map (·.token) =
      (tasks.map (·.token)).erase k.token := by
    rw [hn.erase_eq_filter, List.filter_map]
    rfl
  have hp := (List.perm_cons_erase (List.mem_map_of_mem (f := (·.token)) hk)).symm
  simp only [outstanding, hf, List.map_append, List.map_cons, List.map_nil, hm]
  rw [← List.append_assoc]
  exact (List.perm_append_singleton _ _).trans (hp.append_right _)

theorem finish (h : Tracks s tasks queue) {k : Task} {m : Settled} (hk : k ∈ tasks)
    (he : Traffic.Ends k m) :
    Tracks s (tasks.filter (·.token != k.token)) (queue ++ [m]) := by
  obtain ⟨hm, -, ho⟩ := he
  have hp := outstanding_finish h.distinct hk hm
  constructor
  · exact hp.nodup_iff.mpr h.distinct
  · exact fun x hx => h.issued x (hp.mem_iff.mp hx)
  · exact h.latest
  · intro x
    rw [hp.mem_iff]
    exact h.awaited x
  · exact fun k' hk' => h.running k' (List.mem_filter.mp hk').1
  · intro m' hm' hf
    rcases List.mem_append.mp hm' with hm' | hm'
    · exact h.loaded m' hm' hf
    · rw [List.mem_singleton] at hm'
      subst hm'
      rw [hm] at hf
      have hc := (h.running k hk).mpr hf
      rcases ho with ⟨-, hc'⟩ | ⟨a, -, ho⟩
      · simp [hc] at hc'
      · simp [ho]
  · exact h.loading
  · exact h.closed
  · intro hl
    rw [(h.silent hl).1] at hk
    cases hk

theorem step {t : Traffic} (h : Tracks s t.tasks t.queue) (st : Traffic.Step) :
    Tracks s (t.step st).tasks (t.step st).queue := by
  cases st with
  | call x =>
    obtain ⟨f, hf, hk⟩ := t.tasks_call x
    simp only [Traffic.step, hf, Traffic.queue_call]
    refine h.map_tasks ?_ ?_
    · intro k
      rcases hk k with he | he <;> rw [he]
    · intro k
      rcases hk k with he | he <;> rw [he]
  | answer x a =>
    simp only [Traffic.step, Traffic.tasks_answer, Traffic.queue_answer]
    refine h.map_tasks ?_ ?_
    · intro k
      split <;> rfl
    · intro k
      split <;> rfl
  | finish x notices =>
    rcases t.finish_cases x notices with he | ⟨k, hk, rfl, m, hm, htasks, hqueue⟩
    · simpa [Traffic.step, he] using h
    · simp only [Traffic.step, htasks, hqueue]
      exact h.finish hk hm

/-! ### Messages -/

theorem outstanding_take (tasks : List Task) {place : Nat} {m : Settled}
    (hm : queue[place]? = some m) :
    (outstanding tasks queue).Perm (m.token :: outstanding tasks (queue.eraseIdx place)) := by
  obtain ⟨hlt, hget⟩ := List.getElem?_eq_some_iff.mp hm
  have hp := (List.getElem_cons_eraseIdx_perm hlt).symm
  rw [hget] at hp
  have hq := (hp.map (·.token)).append_left (tasks.map (·.token))
  exact hq.trans List.perm_middle

/-- The message that is waited for brings suggestions and ends the waiting. -/
theorem receive_awaited (h : Tracks s tasks queue) {m : Settled} (hm : m ∈ queue)
    (hf : s.inFlight = some m.token) :
    ∃ l, m.outcome = .loaded l ∧
      s.receive m = { s with suggestions := l, isLoading := false, inFlight := none } := by
  have ht := ((h.awaited m.token).mp hf).1
  have ho : s.isOpen = true := by
    cases ho : s.isOpen with
    | true => rfl
    | false => simp [h.inFlight_of_closed ho] at hf
  cases hc : m.outcome with
  | loaded l => exact ⟨l, rfl, by simp [receive, ho, ht, hc]⟩
  | cancelled => exact absurd hc (h.loaded m hm hf)

/-- Any other message changes nothing. -/
theorem receive_other (h : Tracks s tasks queue) {m : Settled} (hm : m ∈ queue)
    (hf : s.inFlight ≠ some m.token) : s.receive m = s := by
  have ht : s.token ≠ some m.token := fun ht => hf (h.inFlight_of_message hm ht)
  simp [receive, ht]

/-- What is outstanding without one message of the queue: its token and no other is gone. -/
theorem distinct_take (h : Tracks s tasks queue) {place : Nat} {m : Settled}
    (hm : queue[place]? = some m) :
    m.token ∉ outstanding tasks (queue.eraseIdx place) ∧
      (outstanding tasks (queue.eraseIdx place)).Nodup :=
  List.nodup_cons.mp ((outstanding_take tasks hm).nodup_iff.mp h.distinct)

theorem issued_take (h : Tracks s tasks queue) {place : Nat} {m : Settled}
    (hm : queue[place]? = some m) :
    ∀ x ∈ outstanding tasks (queue.eraseIdx place), x.number ≤ s.lastToken :=
  fun x hx => h.issued x ((outstanding_take tasks hm).mem_iff.mpr (List.mem_cons_of_mem _ hx))

/-- Data sources without lookups get no messages. -/
theorem looks_of_message (h : Tracks s tasks queue) {m : Settled} (hm : m ∈ queue) :
    s.looks = true := by
  cases hl : s.looks with
  | true => rfl
  | false =>
    rw [(h.silent hl).2] at hm
    cases hm

/-- Taking in the message that is waited for. -/
theorem deliver_awaited (h : Tracks s tasks queue) {place : Nat} {m : Settled}
    (hm : queue[place]? = some m) (hf : s.inFlight = some m.token) :
    Tracks (s.receive m) tasks (queue.eraseIdx place) := by
  have hq : m ∈ queue := List.mem_of_getElem? hm
  have hlooks := h.looks_of_message hq
  have ht := ((h.awaited m.token).mp hf).1
  obtain ⟨hnot, hd⟩ := h.distinct_take hm
  obtain ⟨l, -, hr⟩ := h.receive_awaited hq hf
  rw [hr]
  constructor
  · exact hd
  · exact h.issued_take hm
  · exact h.latest
  · intro x
    simp only [reduceCtorEq, false_iff, not_and]
    intro hx
    rw [ht, Option.some.injEq] at hx
    exact hx ▸ hnot
  · -- The awaited lookup has left its message, so every one that still runs is cancelled.
    intro k hk
    have hne : ¬ s.inFlight = some k.token := by
      intro hk'
      rw [hf, Option.some.injEq] at hk'
      exact hnot (mem_outstanding.mpr (.inl ⟨k, hk, hk'.symm⟩))
    simpa [hne] using h.running k hk
  · simp
  · rfl
  · exact h.closed
  · simp [hlooks]

/-- Taking in any other message. -/
theorem deliver_other (h : Tracks s tasks queue) {place : Nat} {m : Settled}
    (hm : queue[place]? = some m) (hf : s.inFlight ≠ some m.token) :
    Tracks (s.receive m) tasks (queue.eraseIdx place) := by
  have hq : m ∈ queue := List.mem_of_getElem? hm
  have hlooks := h.looks_of_message hq
  have hp := outstanding_take tasks hm
  rw [h.receive_other hq hf]
  constructor
  · exact (h.distinct_take hm).2
  · exact h.issued_take hm
  · exact h.latest
  · intro x
    rw [h.awaited x, hp.mem_iff, List.mem_cons]
    constructor
    · rintro ⟨ht, rfl | hx⟩
      · exact absurd (h.inFlight_of_message hq ht) hf
      · exact ⟨ht, hx⟩
    · rintro ⟨ht, hx⟩
      exact ⟨ht, .inr hx⟩
  · exact h.running
  · exact fun m' hm' => h.loaded m' (List.mem_of_mem_eraseIdx hm')
  · exact h.loading
  · exact h.closed
  · simp [hlooks]

theorem deliver (h : Tracks s tasks queue) {place : Nat} {m : Settled}
    (hm : queue[place]? = some m) : Tracks (s.receive m) tasks (queue.eraseIdx place) := by
  by_cases hf : s.inFlight = some m.token
  · exact h.deliver_awaited hm hf
  · exact h.deliver_other hm hf

end Tracks

namespace World

/-- The editor of a world keeps track of the lookups there are. -/
abbrev Tracked (w : World) : Prop :=
  Tracks w.editor.selection w.traffic.tasks w.traffic.queue

theorem tracked_start (d : DataSource) (source : String) (initial : List Mapping) :
    (start d source initial).Tracked := by
  constructor <;> simp [start, Editor.selection, outstanding]

theorem tracked_step {w : World} (h : w.Tracked) (ev : Event) : (w.step ev).Tracked := by
  cases ev with
  | perform op =>
    rw [Tracked, selection_perform, tasks_perform, queue_perform]
    exact h.after_moves _ (w.editor.fitsAll_moves op)
  | lookup st => exact h.step st
  | deliver place =>
    rcases w.deliver_cases place with ⟨-, hw⟩ | ⟨m, hm, he, ht, hq⟩
    · rw [hw]
      exact h
    · rw [Tracked, he, ht, hq, Editor.selection_applyLookup]
      exact h.deliver hm

theorem tracked_run {w : World} (h : w.Tracked) (events : List Event) : (w.run events).Tracked := by
  induction events generalizing w with
  | nil => exact h
  | cons ev events ih => exact ih (tracked_step h ev)

theorem isLoading_eq {w : World} (h : w.Tracked) :
    w.editor.draft.isLoading = w.editor.inFlight.isSome :=
  h.loading

end World

end ColumnMap
