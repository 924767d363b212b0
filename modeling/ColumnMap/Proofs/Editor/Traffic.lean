import ColumnMap.Editor.World

/-!
What effects and steps do to the unfinished lookups and to the queue. Only starting and cancelling
reaches the lookups, and only a lookup that finishes reaches the queue.
-/

namespace ColumnMap.Traffic

/-! ### Effects -/

@[simp] theorem absorbAll_nil (t : Traffic) : t.absorbAll [] = t := rfl
@[simp] theorem absorbAll_cons (t : Traffic) (e : Effect) (es : List Effect) :
    t.absorbAll (e :: es) = (t.absorb e).absorbAll es := rfl
theorem absorbAll_append (t : Traffic) (a b : List Effect) :
    t.absorbAll (a ++ b) = (t.absorbAll a).absorbAll b := List.foldl_append

@[simp] theorem tasks_absorb_note (t : Traffic) (level : Log.Level) (message : String) :
    (t.absorb (Editor.note level message)).tasks = t.tasks := rfl
@[simp] theorem tasks_absorb_changed (t : Traffic) (l : List Mapping) :
    (t.absorb (.changed l)).tasks = t.tasks := rfl
@[simp] theorem tasks_absorb_start (t : Traffic) (x : Token) (c : String) :
    (t.absorb (.start x c)).tasks = t.tasks ++ [{ token := x, column := c }] := rfl

/-- The editor never reaches into the queue. -/
@[simp] theorem queue_absorbAll (t : Traffic) (es : List Effect) :
    (t.absorbAll es).queue = t.queue := by
  induction es generalizing t with
  | nil => rfl
  | cons e es ih =>
    rw [absorbAll_cons, ih]
    cases e <;> rfl

/-! ### Steps of a lookup -/

theorem task?_some {t : Traffic} {x : Token} {k : Task} (h : t.task? x = some k) :
    k ∈ t.tasks ∧ k.token = x :=
  ⟨List.mem_of_find?_eq_some h, by simpa using List.find?_some h⟩

@[simp] theorem queue_call (t : Traffic) (x : Token) : (t.call x).queue = t.queue := by
  unfold call
  split
  · rfl
  · split <;> rfl

/-- A first run changes nothing about a lookup but that its source has been called. -/
theorem tasks_call (t : Traffic) (x : Token) :
    ∃ f : Task → Task, (t.call x).tasks = t.tasks.map f ∧
      ∀ k, f k = k ∨ f k = { k with isCalled := true } := by
  unfold call
  split
  · exact ⟨id, by simp, fun k => .inl rfl⟩
  · split
    · exact ⟨id, by simp, fun k => .inl rfl⟩
    · refine ⟨_, rfl, ?_⟩
      intro k
      split
      · exact .inr rfl
      · exact .inl rfl

@[simp] theorem queue_answer (t : Traffic) (x : Token) (a : Lookup.Answer) :
    (t.answer x a).queue = t.queue := rfl

/-- A lookup waits for an answer when it has called its source and has none. -/
def waits (k : Task) : Bool := k.isCalled && k.answer.isNone

theorem tasks_answer (t : Traffic) (x : Token) (a : Lookup.Answer) :
    (t.answer x a).tasks =
      t.tasks.map fun k =>
        if k.token = x ∧ waits k = true then { k with answer := some a } else k := by
  simp only [answer, update, waits]
  congr 1
  funext k
  by_cases hx : k.token = x <;> simp [hx]

/-- How a lookup ends: it saw that it was cancelled, or it took the answer that was there. -/
def Ends (k : Task) (m : Settled) : Prop :=
  m.token = k.token ∧ m.column = k.column ∧
    (m.outcome = .cancelled ∧ k.isCancelled = true ∨
      ∃ a, k.answer = some a ∧ m.outcome = .loaded (Lookup.suggestionsOf a))

theorem settle?_some {source column : String} {cancelled : Bool} {answer : Option Lookup.Answer}
    {outcome : Lookup.Outcome} {line : Log.Line}
    (h : Lookup.settle? source column cancelled answer = some (outcome, line)) :
    outcome = .cancelled ∧ cancelled = true ∨
      ∃ a, answer = some a ∧ outcome = .loaded (Lookup.suggestionsOf a) := by
  cases cancelled with
  | true =>
    simp only [Lookup.settle?, if_true, Option.some.injEq, Prod.mk.injEq] at h
    exact .inl ⟨h.1.symm, rfl⟩
  | false =>
    simp only [Lookup.settle?, Bool.false_eq_true, if_false, Option.map_eq_some_iff,
      Prod.mk.injEq] at h
    obtain ⟨a, ha, ho, _⟩ := h
    exact .inr ⟨a, ha, ho.symm⟩

/-- A lookup that looks whether it can finish either goes on or leaves one message. -/
theorem finish_cases (t : Traffic) (x : Token) (notices : Bool) :
    t.finish x notices = t ∨
      ∃ k ∈ t.tasks, k.token = x ∧ ∃ m, Ends k m ∧
        (t.finish x notices).tasks = t.tasks.filter (·.token != x) ∧
        (t.finish x notices).queue = t.queue ++ [m] := by
  unfold finish
  split
  · exact .inl rfl
  · next k hk =>
    obtain ⟨hmem, hx⟩ := task?_some hk
    split
    · exact .inl rfl
    · split
      · exact .inl rfl
      · next outcome line hs =>
        refine .inr ⟨k, hmem, hx, ⟨x, k.column, outcome⟩, ⟨hx.symm, rfl, ?_⟩, rfl, rfl⟩
        rcases settle?_some hs with ⟨ho, hc⟩ | ha
        · rw [Bool.and_eq_true] at hc
          exact .inl ⟨ho, hc.1⟩
        · exact .inr ha

/-! ### The log -/

/-- The lookups without what they have logged. -/
def unlogged (t : Traffic) : Traffic := { t with log := [] }

theorem unlogged_absorb (t : Traffic) (e : Effect) :
    (t.absorb e).unlogged = (t.unlogged.absorb e).unlogged := by
  cases e <;> rfl

theorem unlogged_absorbAll {t u : Traffic} (h : t.unlogged = u.unlogged) (es : List Effect) :
    (t.absorbAll es).unlogged = (u.absorbAll es).unlogged := by
  induction es generalizing t u with
  | nil => exact h
  | cons e es ih =>
    apply ih
    rw [unlogged_absorb t, unlogged_absorb u, h]

/-- Of what is only logged nothing is left. -/
theorem unlogged_absorbAll_logs (t : Traffic) {es : List Effect}
    (logs : ∀ e ∈ es, ∃ line, e = .log line) : (t.absorbAll es).unlogged = t.unlogged := by
  induction es generalizing t with
  | nil => rfl
  | cons e es ih =>
    rw [List.forall_mem_cons] at logs
    obtain ⟨⟨line, rfl⟩, others⟩ := logs
    exact ih (t.absorb (.log line)) others

theorem unlogged_call (t : Traffic) (x : Token) :
    (t.call x).unlogged = (t.unlogged.call x).unlogged := by
  have same : t.unlogged.task? x = t.task? x := rfl
  simp only [call, same]
  split
  · rfl
  · split <;> rfl

theorem unlogged_finish (t : Traffic) (x : Token) (notices : Bool) :
    (t.finish x notices).unlogged = (t.unlogged.finish x notices).unlogged := by
  have same : t.unlogged.task? x = t.task? x := rfl
  have source : t.unlogged.source = t.source := rfl
  simp only [finish, same, source]
  split
  · rfl
  · split
    · rfl
    · split <;> rfl

theorem unlogged_step {t u : Traffic} (h : t.unlogged = u.unlogged) (st : Step) :
    (t.step st).unlogged = (u.step st).unlogged := by
  have own : ∀ t : Traffic, (t.step st).unlogged = (t.unlogged.step st).unlogged := by
    intro t
    cases st with
    | call x => exact t.unlogged_call x
    | answer x a => rfl
    | finish x notices => exact t.unlogged_finish x notices
  rw [own t, own u, h]

end ColumnMap.Traffic
