import ColumnMap.Proofs.Editor.Changes
import ColumnMap.Proofs.Editor.Tracking

/-!
Selections and tokens. Every column that is selected gets a token of its own, which is greater than
all those before it.
-/

namespace ColumnMap

open Selection

/-! ### Selections -/

namespace Editor

/-- The column that an operation selects: one that is not empty, and in an open popover. -/
def selects? (e : Editor) : Operation → Option String
  | .selectColumn c => if e.isOpen && !c.isEmpty then some c else none
  | .edit index =>
    if e.isOpen then none
    else (e.mappings[index]?.map (·.column)).filter (!·.isEmpty)
  | _ => none

theorem ofColumn_of_ne {c : String} (h : c.isEmpty = false) : Move.ofColumn c = .selected c := by
  simp [Move.ofColumn, h]

theorem moves_of_selects {e : Editor} {op : Operation} {c : String} (h : e.selects? op = some c) :
    e.moves op = [.selected c] ∨ e.moves op = [.opened, .selected c] := by
  cases op with
  | selectColumn c' =>
    left
    simp only [selects?] at h
    split at h
    · next hc =>
      rw [Bool.and_eq_true, Bool.not_eq_true'] at hc
      rw [Option.some.injEq] at h
      subst h
      simp [moves, hc.1, ofColumn_of_ne hc.2]
    · cases h
  | edit index =>
    right
    simp only [selects?] at h
    split at h
    · cases h
    · next ho =>
      obtain ⟨hcolumn, hc⟩ := Option.filter_eq_some_iff.mp h
      obtain ⟨m, hm, rfl⟩ := Option.map_eq_some_iff.mp hcolumn
      have hc : m.column.isEmpty = false := by simpa using hc
      simp [moves, ho, hm, ofColumn_of_ne hc]
  | _ => cases h

theorem moves_of_not_selects {e : Editor} {op : Operation} (h : e.selects? op = none) :
    ∀ c, .selected c ∉ e.moves op := by
  intro c hc
  cases op with
  | selectColumn c' =>
    simp only [moves] at hc
    split at hc
    · next ho =>
      by_cases he : c'.isEmpty = true
      · simp [Move.ofColumn, he] at hc
      · simp [selects?, ho, he] at h
    · cases hc
  | edit index =>
    simp only [moves] at hc
    split at hc
    · cases hc
    · next ho =>
      split at hc
      · cases hc
      · next m hm =>
        by_cases he : m.column.isEmpty = true
        · simp [Move.ofColumn, he] at hc
        · simp [selects?, ho, hm, he, Option.filter] at h
  | openNew =>
    simp only [moves] at hc
    split at hc <;> simp at hc
  | commit =>
    simp only [moves] at hc
    split at hc <;> simp at hc
  | close =>
    simp only [moves] at hc
    split at hc <;> simp at hc
  | _ => cases hc

end Editor

/-- Only selections hand out tokens; the other moves keep the one that there is, or take it away. -/
theorem Selection.token_afterAll (s : Selection) {moves : List Move}
    (h : ∀ c, .selected c ∉ moves) :
    (s.afterAll moves).lastToken = s.lastToken ∧
      ((s.afterAll moves).token = s.token ∨ (s.afterAll moves).token = none) := by
  induction moves generalizing s with
  | nil => exact ⟨rfl, .inl rfl⟩
  | cons m moves ih =>
    obtain ⟨hl, ht⟩ := ih (s.after m) fun c hc => h c (List.mem_cons_of_mem _ hc)
    cases m with
    | selected c => exact absurd List.mem_cons_self (h c)
    | opened => exact ⟨hl, .inr (ht.elim id id)⟩
    | cleared => exact ⟨hl, .inr (ht.elim id id)⟩
    | closed => exact ⟨hl, .inr (ht.elim id id)⟩

namespace World

/-- The column that an event selects. -/
def selects? (w : World) : Event → Option String
  | .perform op => w.editor.selects? op
  | _ => none

/-- The token that an event puts the draft under, if it is another one than before. -/
def issues? (w : World) (ev : Event) : Option Token :=
  if (w.step ev).editor.draft.token = w.editor.draft.token then none
  else (w.step ev).editor.draft.token

/-- The columns that are selected in a run, in order. -/
def selections (w : World) : List Event → List String
  | [] => []
  | ev :: events => (w.selects? ev).toList ++ (w.step ev).selections events

/-- The tokens that are handed out in a run, in order. -/
def tokens (w : World) : List Event → List Token
  | [] => []
  | ev :: events => (w.issues? ev).toList ++ (w.step ev).tokens events

/-! ### Tokens -/

theorem issues_of_selects {w : World} (h : w.Tracked) {op : Operation} {c : String}
    (hc : w.editor.selects? op = some c) :
    w.issues? (.perform op) = some w.editor.selection.nextToken ∧
      (w.step (.perform op)).editor.lastToken = w.editor.lastToken + 1 := by
  have hs := w.selection_perform op
  have ht : (w.step (.perform op)).editor.draft.token = some w.editor.selection.nextToken ∧
      (w.step (.perform op)).editor.lastToken = w.editor.lastToken + 1 := by
    rcases Editor.moves_of_selects hc with hm | hm <;> rw [hm] at hs
    · exact ⟨congrArg Selection.token hs, congrArg Selection.lastToken hs⟩
    · exact ⟨congrArg Selection.token hs, congrArg Selection.lastToken hs⟩
  have hne : w.editor.draft.token ≠ some w.editor.selection.nextToken := by
    intro he
    have hle := h.latest _ he
    simp only [Selection.nextToken] at hle
    omega
  refine ⟨?_, ht.2⟩
  rw [issues?, ht.1, if_neg hne.symm]

theorem issues_of_not_selects (w : World) {ev : Event} (h : w.selects? ev = none) :
    w.issues? ev = none ∧ (w.step ev).editor.lastToken = w.editor.lastToken := by
  have ht : (w.step ev).editor.lastToken = w.editor.lastToken ∧
      ((w.step ev).editor.draft.token = w.editor.draft.token ∨
        (w.step ev).editor.draft.token = none) := by
    cases ev with
    | perform op =>
      have hs := w.selection_perform op
      obtain ⟨hl, ht⟩ := w.editor.selection.token_afterAll (Editor.moves_of_not_selects h)
      rw [← hs] at hl ht
      exact ⟨hl, ht⟩
    | lookup st => exact ⟨rfl, .inl rfl⟩
    | deliver place =>
      have ho := (w.deliver_keeps place).1
      have hl : (w.step (.deliver place)).editor.outline.lastToken = w.editor.outline.lastToken :=
        congrArg Editor.lastToken ho
      have ht : (w.step (.deliver place)).editor.outline.draft.token =
          w.editor.outline.draft.token := congrArg (·.draft.token) ho
      exact ⟨hl, .inl ht⟩
  refine ⟨?_, ht.1⟩
  unfold issues?
  split
  · rfl
  · next hne => exact ht.2.resolve_left hne

/-- An event hands out a token exactly when it selects a column. -/
theorem issues_eq {w : World} (h : w.Tracked) (ev : Event) :
    w.issues? ev = (w.selects? ev).map fun _ => w.editor.selection.nextToken := by
  cases hc : w.selects? ev with
  | none => exact (w.issues_of_not_selects hc).1
  | some c =>
    cases ev with
    | perform op => exact (issues_of_selects h hc).1
    | lookup st => cases hc
    | deliver place => cases hc

theorem length_tokens {w : World} (h : w.Tracked) (events : List Event) :
    (w.tokens events).length = (w.selections events).length := by
  induction events generalizing w with
  | nil => rfl
  | cons ev events ih =>
    rw [tokens, selections, List.length_append, List.length_append, ih (tracked_step h ev),
      issues_eq h ev]
    cases w.selects? ev <;> rfl

theorem lastToken_step {w : World} (h : w.Tracked) (ev : Event) :
    (w.step ev).editor.lastToken =
      w.editor.lastToken + (w.selects? ev).toList.length := by
  cases hc : w.selects? ev with
  | none => exact (w.issues_of_not_selects hc).2
  | some c =>
    cases ev with
    | perform op => exact (issues_of_selects h hc).2
    | lookup st => cases hc
    | deliver place => cases hc

/-- Every token is greater than all those before it. -/
theorem tokens_increase {w : World} (h : w.Tracked) (events : List Event) :
    (∀ x ∈ w.tokens events, w.editor.lastToken < x.number) ∧
      (w.tokens events).Pairwise (·.number < ·.number) := by
  induction events generalizing w with
  | nil => exact ⟨by simp [tokens], List.Pairwise.nil⟩
  | cons ev events ih =>
    obtain ⟨hlt, hp⟩ := ih (tracked_step h ev)
    have hl := lastToken_step h ev
    rw [tokens, issues_eq h ev]
    cases hc : w.selects? ev with
    | none =>
      have hl : (w.step ev).editor.lastToken = w.editor.lastToken := by rw [hl, hc]; rfl
      rw [hl] at hlt
      exact ⟨hlt, hp⟩
    | some c =>
      have hl : (w.step ev).editor.lastToken = w.editor.lastToken + 1 := by rw [hl, hc]; rfl
      rw [hl] at hlt
      constructor
      · intro x hx
        rcases List.mem_cons.mp hx with rfl | hx
        · exact Nat.lt_succ_self _
        · exact Nat.lt_of_succ_lt (hlt x hx)
      · exact List.pairwise_cons.mpr ⟨hlt, hp⟩

end World

end ColumnMap
