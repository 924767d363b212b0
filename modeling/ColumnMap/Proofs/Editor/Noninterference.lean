import ColumnMap.Proofs.Editor.Changes
import Mathlib.Data.List.InsertIdx

/-!
What the user types or picks never reaches the lookups. A run is compared with the same run without
these entries: both look alike once the values and notes of the mappings are blotted out, for
otherwise only the columns flow from the committed list back into the draft.
-/

namespace ColumnMap

/-- Whether the operation only enters a value or a note. -/
def Operation.enters : Operation → Bool
  | .selectSuggestion _ | .setTyped _ | .setAuxiliary _ => true
  | _ => false

namespace World

def Event.enters : Event → Bool
  | .perform op => op.enters
  | _ => false

/-- What the operation or the message of an event gives. -/
def reply? (w : World) : Event → Option Reply
  | .perform op => some (w.editor.perform op)
  | .lookup _ => none
  | .deliver place => w.traffic.queue[place]?.map w.editor.applyLookup

end World

/-! ### Blotting out -/

/-- The mapping without its value and its note. -/
def Mapping.bare (m : Mapping) : Mapping := ⟨m.column, "", ""⟩

/-- The line, or only its level and target if it may quote a mapping. -/
def Log.Line.bare (l : Line) : Line := if l.level = .info then { l with message := "" } else l

def Effect.bare : Effect → Effect
  | .log line => .log line.bare
  | .changed mappings => .changed (mappings.map Mapping.bare)
  | e => e

/-- The draft without its value and its note. -/
def Draft.bare (d : Draft) : Draft := { d with value := none, typed := "", auxiliary := "" }

namespace Editor

def bare (e : Editor) : Editor :=
  { e with draft := e.draft.bare, mappings := e.mappings.map Mapping.bare }

end Editor

def Reply.bare (r : Reply) : Reply := ⟨r.accepted, r.editor.bare, r.effects.map Effect.bare⟩

def Traffic.bare (t : Traffic) : Traffic :=
  { t with
    changes := t.changes.map (List.map Mapping.bare)
    log := t.log.map Log.Line.bare }

def World.bare (w : World) : World :=
  ⟨w.editor.bare, w.traffic.bare, w.form.map Mapping.bare⟩

@[simp] theorem Mapping.bare_comp_bare : Mapping.bare ∘ Mapping.bare = Mapping.bare := rfl

/-! ### One operation -/

namespace Editor

theorem bare_selectColumn (e : Editor) (c : String) :
    (e.selectColumn c).bare = (e.bare.selectColumn c).bare := by
  cases ho : e.isOpen with
  | false => simp [selectColumn, refuse, bare, Draft.bare, Reply.bare, ho]
  | true =>
    by_cases hc : c.isEmpty = true
    · simp [selectColumn, bare, Draft.bare, Reply.bare, cancelInFlight, ho, hc]
    · simp [selectColumn, bare, Draft.bare, Reply.bare, cancelInFlight, ho, hc]

/-- Typing reaches nothing but the value. -/
theorem bare_setTyped (e : Editor) (text : String) : (e.setTyped text).editor.bare = e.bare := by
  unfold setTyped
  split <;> rfl

/-- Opening the popover on a mapping takes only its column to the lookups. -/
theorem bare_edit_some (e : Editor) (index : Nat) {m : Mapping} (closed : e.isOpen = false)
    (hm : e.mappings[index]? = some m) :
    (e.edit index).bare =
      let r := ((e.openedOn index).selectColumn m.column).bare
      ⟨true, r.editor, r.effects ++
        [note .debug ("Editing mapping #" ++ toString index ++ " (" ++ m.column ++ ")")]⟩ := by
  have accepted : (e.edit index).accepted = true := by simp [edit, closed, hm]
  have editor : (e.edit index).editor.bare =
      ((e.openedOn index).selectColumn m.column).editor.bare := by
    by_cases hv : m.value.isEmpty = true
    · simp only [edit, closed, hm, hv, Bool.false_eq_true, if_false, if_true]
      rfl
    · simp only [edit, closed, hm, hv, Bool.false_eq_true, if_false]
      exact bare_setTyped _ m.value
  simp only [Reply.bare, accepted, editor, edit_effects e index m closed hm, List.map_append]
  rfl

theorem bare_edit (e : Editor) (index : Nat) :
    (e.edit index).bare = (e.bare.edit index).bare := by
  cases ho : e.isOpen with
  | true => simp [edit, refuse, bare, Draft.bare, Reply.bare, ho]
  | false =>
    have closed : e.bare.isOpen = false := ho
    cases hm : e.mappings[index]? with
    | none => simp [edit, refuse, bare, Draft.bare, Reply.bare, ho, hm]
    | some m =>
      have there : e.bare.mappings[index]? = some m.bare := by simp [bare, hm]
      have column : m.bare.column = m.column := rfl
      have opened : e.bare.openedOn index = (e.openedOn index).bare := rfl
      rw [bare_edit_some e index ho hm, bare_edit_some e.bare index closed there, column, opened,
        ← bare_selectColumn]

/-- The list that saving leaves, but for values and notes, goes by the column of the draft. -/
theorem bare_saved (e : Editor) :
    e.saved.map Mapping.bare = e.bare.saved.map Mapping.bare := by
  have length : e.bare.mappings.length = e.mappings.length := List.length_map _
  have editing : e.bare.draft.editing = e.draft.editing := rfl
  have mapping : e.bare.draft.toMapping.bare = e.draft.toMapping.bare := rfl
  have list : e.bare.mappings.map Mapping.bare = e.mappings.map Mapping.bare := by
    simp [bare]
  rw [saved, saved, length, editing]
  split
  · rw [List.map_set, List.map_set, mapping, list]
  · rw [List.map_append, List.map_append, list, List.map_singleton, List.map_singleton, mapping]

theorem effects_commit (e : Editor) (h : e.canCommit = true) :
    ∃ message, e.commit.effects =
      note .info message :: e.cancelInFlight ++ [.changed e.saved] := by
  cases hr : e.draft.editing.filter (· < e.mappings.length) with
  | none => exact ⟨_, by simp [commit, saved, h, hr]; rfl⟩
  | some index => exact ⟨_, by simp [commit, saved, h, hr]; rfl⟩

theorem bare_commit (e : Editor) : e.commit.bare = e.bare.commit.bare := by
  have same : e.bare.canCommit = e.canCommit := rfl
  cases h : e.canCommit with
  | false =>
    rw [commit_refused e h, commit_refused _ (same.trans h)]
    simp [refuse, bare, Draft.bare, Reply.bare]
  | true =>
    have saved := e.bare_saved
    obtain ⟨line, he⟩ := e.effects_commit h
    obtain ⟨_, hb⟩ := e.bare.effects_commit (same.trans h)
    have accepted : e.commit.accepted = e.bare.commit.accepted := by
      rw [accepted_commit, accepted_commit, same]
    have editor : e.commit.editor.bare = e.bare.commit.editor.bare := by
      rw [editor_commit e h, editor_commit _ (same.trans h)]
      exact congrArg (fun l => ({ e with
        isOpen := false, draft := Draft.bare {}, inFlight := none, mappings := l } : Editor)) saved
    have effects : e.commit.effects.map Effect.bare = e.bare.commit.effects.map Effect.bare := by
      rw [he, hb, List.map_append, List.map_append]
      exact congrArg (fun l => (note .info "" :: e.cancelInFlight.map Effect.bare) ++
        [Effect.changed l]) saved
    simp only [Reply.bare, accepted, editor, effects]

theorem bare_remove (e : Editor) (index : Nat) :
    (e.remove index).bare = (e.bare.remove index).bare := by
  cases hm : e.mappings[index]? with
  | none => simp [remove, refuse, bare, Draft.bare, Reply.bare, hm]
  | some m =>
    simp [remove, bare, Draft.bare, Reply.bare, Effect.bare, Log.Line.bare, note, Log.Line.of, hm,
      List.eraseIdx_map]

/-- An operation that enters nothing goes by what is left when values and notes are blotted out. -/
theorem bare_perform (e : Editor) {op : Operation} (h : op.enters = false) :
    (e.perform op).bare = (e.bare.perform op).bare := by
  cases op with
  | openNew =>
    cases ho : e.isOpen <;> simp [perform, openNew, refuse, bare, Draft.bare, Reply.bare, ho]
  | edit index => exact e.bare_edit index
  | selectColumn c => exact e.bare_selectColumn c
  | selectSuggestion index => cases h
  | setTyped text => cases h
  | setAuxiliary text => cases h
  | commit => exact e.bare_commit
  | close =>
    cases ho : e.isOpen <;>
      simp [perform, close, refuse, bare, Draft.bare, Reply.bare, cancelInFlight, ho]
  | remove index => exact e.bare_remove index

/-- An entry leaves all but values and notes as it is, and asks nothing of the world. -/
theorem perform_enters (e : Editor) {op : Operation} (h : op.enters = true) :
    (e.perform op).editor.bare = e.bare ∧ (e.perform op).effects = [] := by
  cases op with
  | selectSuggestion index =>
    simp only [perform, selectSuggestion, refuse]
    split
    · exact ⟨rfl, rfl⟩
    · split <;> exact ⟨rfl, rfl⟩
  | setTyped text =>
    refine ⟨e.bare_setTyped text, ?_⟩
    simp only [perform, setTyped, refuse]
    split <;> rfl
  | setAuxiliary text =>
    simp only [perform, setAuxiliary, refuse]
    split <;> exact ⟨rfl, rfl⟩
  | _ => cases h

theorem bare_applyLookup (e : Editor) (m : Settled) :
    (e.applyLookup m).bare = (e.bare.applyLookup m).bare := by
  have open_eq : e.bare.isOpen = e.isOpen := rfl
  have token : e.bare.draft.token = e.draft.token := rfl
  unfold applyLookup
  rw [open_eq, token]
  split
  · simp [refuse, bare, Draft.bare, Reply.bare]
  · split <;> simp [refuse, bare, Draft.bare, Reply.bare]

end Editor

/-! ### The lookups -/

/-- What a lookup logs quotes no mapping. -/
theorem Lookup.bare_settled {source column : String} {cancelled : Bool}
    {answer : Option Lookup.Answer} {outcome : Lookup.Outcome} {line : Log.Line}
    (h : Lookup.settle? source column cancelled answer = some (outcome, line)) :
    line.bare = line := by
  cases cancelled with
  | true =>
    simp only [Lookup.settle?, if_true, Option.some.injEq, Prod.mk.injEq] at h
    rw [← h.2]
    rfl
  | false =>
    simp only [Lookup.settle?, Bool.false_eq_true, if_false, Option.map_eq_some_iff,
      Prod.mk.injEq] at h
    obtain ⟨a, -, -, rfl⟩ := h
    cases a <;> rfl

namespace Traffic

theorem bare_absorb (t : Traffic) (e : Effect) : (t.absorb e).bare = t.bare.absorb e.bare := by
  cases e <;> simp [absorb, update, bare, Effect.bare]

theorem bare_absorbAll (t : Traffic) (es : List Effect) :
    (t.absorbAll es).bare = t.bare.absorbAll (es.map Effect.bare) := by
  induction es generalizing t with
  | nil => rfl
  | cons e es ih =>
    rw [List.map_cons, absorbAll_cons, absorbAll_cons, ih, bare_absorb]

theorem bare_step (t : Traffic) (st : Step) : (t.step st).bare = t.bare.step st := by
  cases st with
  | call x =>
    have same : t.bare.task? x = t.task? x := rfl
    simp only [step, call, same]
    split
    · rfl
    · split <;> rfl
  | answer x a => rfl
  | finish x notices =>
    have same : t.bare.task? x = t.task? x := rfl
    have source : t.bare.source = t.source := rfl
    simp only [step, finish, same, source]
    split
    · rfl
    · split
      · rfl
      · split
        · rfl
        · next settled => simp [bare, Lookup.bare_settled settled]

end Traffic

/-! ### Runs -/

namespace World

theorem bare_formAfter (form : List Mapping) (es : List Effect) :
    (formAfter form es).map Mapping.bare =
      formAfter (form.map Mapping.bare) (es.map Effect.bare) := by
  induction es generalizing form with
  | nil => rfl
  | cons e es ih => cases e <;> exact ih _

theorem bare_after (w : World) (r : Reply) : (w.after r).bare = w.bare.after r.bare := by
  simp only [bare, after, Reply.bare, Traffic.bare_absorbAll, bare_formAfter]

variable {w v : World}

/-- Worlds that look alike give replies that look alike. -/
theorem reply_congr (alike : w.bare = v.bare) {ev : Event} (h : ev.enters = false) :
    (w.reply? ev).map Reply.bare = (v.reply? ev).map Reply.bare := by
  have editors : w.editor.bare = v.editor.bare := congrArg World.editor alike
  cases ev with
  | perform op =>
    rw [reply?, reply?, Option.map_some, Option.map_some, Editor.bare_perform _ h, editors,
      ← Editor.bare_perform _ h]
  | lookup st => rfl
  | deliver place =>
    have queue : w.traffic.queue = v.traffic.queue := congrArg (·.traffic.queue) alike
    simp only [reply?, Option.map_map, queue]
    congr 1
    funext m
    rw [Function.comp, Function.comp, Editor.bare_applyLookup, editors, ← Editor.bare_applyLookup]

/-- Worlds that look alike still do so after an event that enters nothing. -/
theorem step_congr (alike : w.bare = v.bare) {ev : Event} (h : ev.enters = false) :
    (w.step ev).bare = (v.step ev).bare := by
  have replies := reply_congr alike h
  cases ev with
  | perform op =>
    simp only [reply?, Option.map_some, Option.some.injEq] at replies
    simp only [step, bare_after, alike, replies]
  | lookup st =>
    have editors : w.editor.bare = v.editor.bare := congrArg World.editor alike
    have traffic : w.traffic.bare = v.traffic.bare := congrArg World.traffic alike
    have forms : w.form.map Mapping.bare = v.form.map Mapping.bare := congrArg World.form alike
    simp only [step, bare, Traffic.bare_step, editors, traffic, forms]
  | deliver place =>
    have queue : w.traffic.queue = v.traffic.queue := congrArg (·.traffic.queue) alike
    simp only [reply?, queue] at replies
    simp only [step, queue]
    cases message : v.traffic.queue[place]? with
    | none => exact alike
    | some m =>
      simp only [message, Option.map_some, Option.some.injEq] at replies
      have taken : ({ w with
            traffic := { w.traffic with queue := v.traffic.queue.eraseIdx place } } : World).bare =
          ({ v with
            traffic := { v.traffic with queue := v.traffic.queue.eraseIdx place } } : World).bare :=
        congrArg (fun u : World => { u with
          traffic := { u.traffic with queue := v.traffic.queue.eraseIdx place } }) alike
      simp only [bare_after, taken, replies]

/-- An entry changes nothing that can be seen with values and notes blotted out. -/
theorem step_enters {ev : Event} (h : ev.enters = true) : (w.step ev).bare = w.bare := by
  cases ev with
  | perform op =>
    obtain ⟨editor, effects⟩ := w.editor.perform_enters h
    simp only [step, after, effects, bare, editor]
    rfl
  | lookup st => cases h
  | deliver place => cases h

/-- What can be seen of a run with values and notes blotted out: of each event that enters nothing
its reply and the world after it. -/
def watched (w : World) : List Event → List (Option Reply × World)
  | [] => []
  | ev :: events =>
    (if ev.enters then [] else [((w.reply? ev).map Reply.bare, (w.step ev).bare)]) ++
      (w.step ev).watched events

theorem watched_congr (alike : w.bare = v.bare) (events : List Event) :
    w.watched events = v.watched (events.filter fun ev => !ev.enters) ∧
      (w.run events).bare = (v.run (events.filter fun ev => !ev.enters)).bare := by
  induction events generalizing w v with
  | nil => exact ⟨rfl, alike⟩
  | cons ev events ih =>
    cases h : ev.enters with
    | true =>
      have unseen : (w.step ev).bare = v.bare := (step_enters h).trans alike
      simpa [watched, h] using ih unseen
    | false =>
      have after := step_congr alike h
      obtain ⟨same, left⟩ := ih after
      simp only [watched, run_cons, h, List.filter_cons, Bool.not_false, if_true,
        Bool.false_eq_true, if_false, reply_congr alike h, after, same, left, and_self]

/-- A run is compared with the run that is left when all typing and picking is taken out of it. The
other events have the same results and effects, and the same worlds come after them, but for values
and notes. -/
theorem entries_unseen (w : World) (events : List Event) :
    w.watched events = w.watched (events.filter fun ev => !ev.enters) ∧
      (w.run events).bare = (w.run (events.filter fun ev => !ev.enters)).bare :=
  watched_congr rfl events

end World

end ColumnMap
