import ColumnMap.Proofs.Editor.Changes
import ColumnMap.Proofs.Editor.Suggestions

/-!
What an editor ends up with does not depend on when its lookups run, when the source answers and
when the messages arrive, as long as the user picks none of the suggestions.
-/

namespace ColumnMap

open Selection

/-- What a reply says apart from lookups. -/
def Reply.gist (r : Reply) : Bool × Editor × List (List Mapping) :=
  (r.accepted, r.editor.outline, changesOf r.effects)

/-- Whether the operation picks a suggestion. -/
def Operation.picks : Operation → Bool
  | .selectSuggestion _ => true
  | _ => false

namespace Editor

/-! ### One operation -/

theorem gist_selectColumn (e : Editor) (c : String) :
    (e.selectColumn c).gist = (e.outline.selectColumn c).gist := by
  cases ho : e.isOpen with
  | false => simp [selectColumn, refuse, outline, ho, Reply.gist]
  | true =>
    by_cases hc : c.isEmpty = true
    · simp [selectColumn, outline, ho, Reply.gist, hc]
    · cases hl : e.dataSource.supportsLookup <;>
        simp [selectColumn, outline, ho, Reply.gist, hc, hl]

theorem gist_edit (e : Editor) (index : Nat) :
    (e.edit index).gist = (e.outline.edit index).gist := by
  cases ho : e.isOpen with
  | true => simp [edit, refuse, outline, ho, Reply.gist]
  | false =>
    cases hm : e.mappings[index]? with
    | none => simp [edit, refuse, outline, ho, hm, Reply.gist]
    | some m =>
      by_cases hc : m.column.isEmpty = true <;> by_cases hv : m.value.isEmpty = true <;>
        cases hl : e.dataSource.supportsLookup <;>
          simp [edit, selectColumn, setTyped, outline, ho, hm, Reply.gist, hc, hv, hl]

theorem gist_commit (e : Editor) : e.commit.gist = e.outline.commit.gist := by
  have hc : e.outline.canCommit = e.canCommit := rfl
  have hs : e.outline.saved = e.saved := rfl
  cases h : e.canCommit with
  | false =>
    rw [commit_refused e h, commit_refused _ (hc.trans h)]
    rfl
  | true =>
    have ho := hc.trans h
    simp only [Reply.gist, accepted_commit, editor_commit _ h, editor_commit _ ho,
      changesOf_commit _ h, changesOf_commit _ ho, hs]
    rw [hc]
    rfl

/-- An operation other than a pick goes by the outline of the editor. -/
theorem gist_perform (e : Editor) {op : Operation} (h : op.picks = false) :
    (e.perform op).gist = (e.outline.perform op).gist := by
  cases op with
  | openNew =>
    cases ho : e.isOpen <;> simp [perform, openNew, refuse, outline, ho, Reply.gist]
  | edit index => exact e.gist_edit index
  | selectColumn c => exact e.gist_selectColumn c
  | selectSuggestion index => cases h
  | setTyped text =>
    cases ho : e.isOpen <;> simp [perform, setTyped, refuse, outline, ho, Reply.gist]
  | setAuxiliary text =>
    cases ho : e.isOpen <;> simp [perform, setAuxiliary, refuse, outline, ho, Reply.gist]
  | commit => exact e.gist_commit
  | close =>
    cases ho : e.isOpen <;> simp [perform, close, refuse, outline, ho, Reply.gist]
  | remove index =>
    cases hm : e.mappings[index]? <;> simp [perform, remove, refuse, outline, hm, Reply.gist]

theorem gist_congr {e f : Editor} (h : e.outline = f.outline) {op : Operation}
    (hp : op.picks = false) : (e.perform op).gist = (f.perform op).gist := by
  rw [gist_perform e hp, gist_perform f hp, h]

/-- The suggestions that the draft gets once its lookup has been answered. -/
def expected (e : Editor) (answers : Token → Lookup.Answer) : List Suggestion :=
  match e.draft.token with
  | some x => if e.dataSource.supportsLookup then Lookup.suggestionsOf (answers x) else []
  | none => []

/-- The editor with the suggestions that it gets. -/
def filled (e : Editor) (answers : Token → Lookup.Answer) : Editor :=
  { e with draft := { e.draft with suggestions := e.expected answers } }

theorem eq_filled {e : Editor} {answers : Token → Lookup.Answer} (hf : e.inFlight = none)
    (hl : e.draft.isLoading = false) (hs : e.draft.suggestions = e.expected answers) :
    e = e.outline.filled answers := by
  have he : e.outline.expected answers = e.draft.suggestions := hs.symm
  unfold filled
  rw [he]
  simp only [outline, ← hf, ← hl]

/-! ### Many operations -/

/-- The outline that operations lead to without any message, whether each of them was accepted, and
what the form was told. -/
def replay (e : Editor) : List Operation → Editor × List Bool × List (List Mapping)
  | [] => (e.outline, [], [])
  | op :: ops =>
    let r := e.perform op
    let rest := r.editor.replay ops
    (rest.1, r.accepted :: rest.2.1, changesOf r.effects ++ rest.2.2)

theorem replay_congr {e f : Editor} (h : e.outline = f.outline) {ops : List Operation}
    (hp : ∀ op ∈ ops, op.picks = false) : e.replay ops = f.replay ops := by
  induction ops generalizing e f with
  | nil => simp only [replay, h]
  | cons op ops ih =>
    have hg := gist_congr h (hp op List.mem_cons_self)
    simp only [Reply.gist, Prod.mk.injEq] at hg
    obtain ⟨ha, ho, hc⟩ := hg
    have hr := ih ho fun o hm => hp o (List.mem_cons_of_mem _ hm)
    simp only [replay, hr, ha, hc]

end Editor

namespace World

/-- The operations among events, in order. -/
def operationsOf (events : List Event) : List Operation :=
  events.filterMap fun
    | .perform op => some op
    | _ => none

/-- Whether each operation among the events is accepted, in order. -/
def verdicts (w : World) : List Event → List Bool
  | [] => []
  | .perform op :: events =>
    (w.editor.perform op).accepted :: (w.step (.perform op)).verdicts events
  | ev :: events => (w.step ev).verdicts events

/-- The outline, the verdicts and what the form hears are those of the operations alone. -/
theorem replay_run (w : World) {events : List Event}
    (hp : ∀ op ∈ operationsOf events, op.picks = false) :
    let r := w.editor.replay (operationsOf events)
    (w.run events).editor.outline = r.1 ∧ w.verdicts events = r.2.1 ∧
      (w.run events).traffic.changes = w.traffic.changes ++ r.2.2 := by
  induction events generalizing w with
  | nil => exact ⟨rfl, rfl, (List.append_nil _).symm⟩
  | cons ev events ih =>
    cases ev with
    | perform op =>
      obtain ⟨ho, hv, hc⟩ :=
        ih (w.step (.perform op)) fun o hm => hp o (List.mem_cons_of_mem _ hm)
      refine ⟨ho, congrArg ((w.editor.perform op).accepted :: ·) hv, ?_⟩
      rw [run_cons, hc, changes_perform, List.append_assoc]
      rfl
    | lookup st =>
      have hi := ih (w.step (.lookup st)) hp
      rw [changes_lookup] at hi
      exact hi
    | deliver place =>
      obtain ⟨ho, hc⟩ := w.deliver_keeps place
      have hr : (w.step (.deliver place)).editor.replay (operationsOf events) =
          w.editor.replay (operationsOf events) := Editor.replay_congr ho hp
      have hi := ih (w.step (.deliver place)) hp
      rw [hc, hr] at hi
      exact hi

/-! ### A world at rest -/

/-- All lookups have finished, and all messages have been taken in. -/
def AtRest (w : World) : Prop := w.traffic.tasks = [] ∧ w.traffic.queue = []

/-- Every answer among the events is the one that `answers` has for the call. -/
def Follows (answers : Token → Lookup.Answer) (events : List Event) : Prop :=
  ∀ x a, .lookup (.answer x a) ∈ events → a = answers x

theorem answer_step {answers : Token → Lookup.Answer} {h : History}
    (hh : ∀ x a, h.answer x = some a → a = answers x) {w : World} {ev : Event}
    (he : ∀ x a, ev = .lookup (.answer x a) → a = answers x) (x : Token) (a : Lookup.Answer)
    (ha : (h.step w ev).answer x = some a) : a = answers x := by
  cases ev with
  | perform op => exact hh x a ha
  | deliver place => exact hh x a ha
  | lookup st =>
    cases st with
    | call y => exact hh x a ha
    | finish y notices => exact hh x a ha
    | answer y b =>
      simp only [History.step] at ha
      split at ha
      · by_cases hx : x = y
        · simp only [History.answered, hx, if_true, Option.some.injEq] at ha
          rw [← ha, hx]
          exact he y b rfl
        · simp only [History.answered, hx, if_false] at ha
          exact hh x a ha
      · exact hh x a ha

/-- What is remembered as an answer follows the answers among the events. -/
theorem answer_run {answers : Token → Lookup.Answer} {h : History}
    (hh : ∀ x a, h.answer x = some a → a = answers x) (w : World) {events : List Event}
    (he : Follows answers events) :
    ∀ x a, (w.history h events).answer x = some a → a = answers x := by
  induction events generalizing w h with
  | nil => exact hh
  | cons ev events ih =>
    have hs := answer_step (w := w) hh fun x a hx => he x a (hx ▸ List.mem_cons_self)
    exact ih hs (w.step ev) fun x a hx => he x a (List.mem_cons_of_mem _ hx)

/-- At rest an editor is its outline with the answer to its latest lookup filled in. -/
theorem editor_at_rest {answers : Token → Lookup.Answer} {w : World} {h : History}
    (t : w.Tracked) (r : w.RecordedIn h)
    (hh : ∀ x a, h.answer x = some a → a = answers x) (hw : w.AtRest) :
    w.editor = w.editor.outline.filled answers := by
  have hf : w.editor.inFlight = none := by
    cases hf : w.editor.inFlight with
    | none => rfl
    | some x =>
      have hx := ((t.awaited x).mp hf).2
      rw [hw.1, hw.2] at hx
      cases hx
  have hl : w.editor.draft.isLoading = false := by
    rw [isLoading_eq t, hf]
    rfl
  have hs : w.editor.draft.suggestions = w.editor.expected answers := by
    unfold Editor.expected
    cases hlooks : w.editor.dataSource.supportsLookup with
    | false =>
      have hu := r.unasked hlooks
      split <;> exact hu
    | true =>
      split
      · next x hx =>
        obtain ⟨a, ha, he⟩ := r.settled hlooks hf x hx
        rw [if_pos rfl, ← hh x a ha]
        exact he
      · next hx => exact r.suggestions_unselected hx
  exact Editor.eq_filled hf hl hs

/-- However lookups, answers and messages fall between the same operations, once the world is at
rest the editor is the same, and so is what the user and the parent form were told on the way. -/
theorem interleaving_irrelevant (d : DataSource) (source : String) (initial : List Mapping)
    (answers : Token → Lookup.Answer) (before a b : List Event)
    (hops : operationsOf a = operationsOf b)
    (hpick : ∀ op ∈ operationsOf a, op.picks = false)
    (hfa : Follows answers (before ++ a)) (hfb : Follows answers (before ++ b))
    (hra : ((start d source initial).run (before ++ a)).AtRest)
    (hrb : ((start d source initial).run (before ++ b)).AtRest) :
    let w := (start d source initial).run before
    (w.run a).editor = (w.run b).editor ∧ w.verdicts a = w.verdicts b ∧
      (w.run a).traffic.changes = (w.run b).traffic.changes := by
  intro w
  have rest : ∀ events, Follows answers (before ++ events) →
      ((start d source initial).run (before ++ events)).AtRest →
      (w.run events).editor = (w.run events).editor.outline.filled answers := by
    intro events hf hr
    have t := tracked_run (tracked_start d source initial) (before ++ events)
    have r := recorded_run (tracked_start d source initial) (recorded_start d source initial)
      (before ++ events)
    have hh := answer_run (h := {}) (by simp) (start d source initial) hf
    have he := editor_at_rest t r hh hr
    rw [run_append] at he
    exact he
  obtain ⟨hoa, hva, hca⟩ := w.replay_run hpick
  obtain ⟨hob, hvb, hcb⟩ := w.replay_run (hops ▸ hpick)
  refine ⟨?_, ?_, ?_⟩
  · rw [rest a hfa hra, rest b hfb hrb, hoa, hob, hops]
  · rw [hva, hvb, hops]
  · rw [hca, hcb, hops]

/-- The operations of `crossed`, but the first lookup brings its values before the second column is
selected. -/
def straight : List Event :=
  [.perform .openNew, .perform (.selectColumn "country"), .lookup (.call ⟨1⟩),
    .lookup (.answer ⟨1⟩ (.ok [.text "India"])), .lookup (.finish ⟨1⟩ true), .deliver 0,
    .perform (.selectColumn "city"), .lookup (.call ⟨2⟩),
    .lookup (.answer ⟨2⟩ (.ok [.text "Pune", .text "Lyon"])), .lookup (.finish ⟨2⟩ true),
    .deliver 0]

/-- The answers in `crossed` and in `straight`. -/
def cities (x : Token) : Lookup.Answer :=
  if x = ⟨2⟩ then .ok [.text "Pune", .text "Lyon"] else .ok [.text "India"]

theorem interleaving_irrelevant_crossed :
    let w := start Lookup.Demo.dataSource "demo" []
    (w.run straight).editor = (w.run crossed).editor ∧ w.verdicts straight = w.verdicts crossed ∧
      (w.run straight).traffic.changes = (w.run crossed).traffic.changes := by
  have hs : Follows cities ([] ++ straight) := by
    intro x a hx
    simp only [straight, List.nil_append, List.mem_cons, Event.lookup.injEq,
      Traffic.Step.answer.injEq, reduceCtorEq, false_or, List.not_mem_nil, or_false] at hx
    rcases hx with ⟨rfl, rfl⟩ | ⟨rfl, rfl⟩ <;> rfl
  have hc : Follows cities ([] ++ crossed) := by
    intro x a hx
    simp only [crossed, List.nil_append, List.mem_cons, Event.lookup.injEq,
      Traffic.Step.answer.injEq, reduceCtorEq, false_or, List.not_mem_nil, or_false] at hx
    rcases hx with ⟨rfl, rfl⟩ | ⟨rfl, rfl⟩ <;> rfl
  exact interleaving_irrelevant Lookup.Demo.dataSource "demo" [] cities [] straight crossed rfl
    (by decide) hs hc ⟨by decide +kernel, by decide +kernel⟩ ⟨by decide +kernel, by decide +kernel⟩

end World

end ColumnMap
