import ColumnMap.Proofs.Editor.Identity

/-!
Saving stores what was entered last. While the popover is open, the draft stands for the mapping it
was opened on with the latest entry in each field; a change of column also empties the note.
-/

namespace ColumnMap

/-- What the user enters into a field of the draft. -/
inductive Entry where
  | column (name : String)
  /-- A value, as text, whether typed or picked. -/
  | value (text : String)
  | auxiliary (text : String)
  deriving DecidableEq, Repr

namespace Entry

def column? : Entry → Option String
  | .column name => some name
  | _ => none

def value? : Entry → Option String
  | .value text => some text
  | _ => none

/-! ### What entries make of a mapping; the latest entry stands first -/

def lastColumn (m : Mapping) (past : List Entry) : String :=
  (past.findSome? column?).getD m.column

def lastValue (m : Mapping) (past : List Entry) : String :=
  (past.findSome? value?).getD m.value

/-- The latest note, unless a column was entered after it that was empty or another one. -/
def lastAuxiliary (m : Mapping) : List Entry → String
  | [] => m.auxiliaryInput
  | .auxiliary text :: _ => text
  | .column name :: past =>
    if name = "" ∨ name ≠ lastColumn m past then "" else lastAuxiliary m past
  | .value _ :: past => lastAuxiliary m past

def filled (m : Mapping) (past : List Entry) : Mapping :=
  ⟨lastColumn m past, lastValue m past, lastAuxiliary m past⟩

end Entry

open Entry

namespace Editor

/-- The mapping that an operation opens the popover on. -/
def opensOn? (e : Editor) : Operation → Option Mapping
  | .openNew => some ⟨"", "", ""⟩
  | .edit index => e.mappings[index]?
  | _ => none

/-- What an accepted operation enters. A suggestion is entered as the text that is stored for it. -/
def entryOf? (e : Editor) : Operation → Option Entry
  | .selectColumn name => some (.column name)
  | .setTyped text => some (.value text)
  | .setAuxiliary text => some (.auxiliary text)
  | .selectSuggestion index => e.draft.suggestions[index]?.map fun s => .value s.value.stored
  | _ => none

/-! ### One entry -/

theorem toMapping_selectColumn (e : Editor) (name : String) (h : e.isOpen = true) :
    (e.selectColumn name).editor.draft.toMapping =
      { e.draft.toMapping with
        column := name
        auxiliaryInput := if name = "" ∨ name ≠ e.draft.toMapping.column then ""
          else e.draft.toMapping.auxiliaryInput } := by
  by_cases hn : name = ""
  · subst hn
    simp [selectColumn, h, Draft.toMapping]
  · -- With a name that is not empty, the column is kept exactly when it is that of the mapping.
    have hk : e.draft.column = some name ↔ name = e.draft.column.getD "" := by
      cases hc : e.draft.column with
      | none => simp [hn]
      | some c => simp [eq_comm]
    by_cases hs : e.draft.column = some name
    · simp [selectColumn, h, hn, hs, Draft.toMapping]
    · have hne : name ≠ e.draft.column.getD "" := fun he => hs (hk.mpr he)
      simp [selectColumn, h, hn, hs, hne, Draft.toMapping]

theorem toMapping_setTyped (e : Editor) (text : String) (h : e.isOpen = true) :
    (e.setTyped text).editor.draft.toMapping = { e.draft.toMapping with value := text } := by
  by_cases ht : text = ""
  · subst ht
    simp [setTyped, h, Draft.toMapping]
  · simp [setTyped, h, ht, Draft.toMapping, Value.stored]

/-- The draft of a popover that was just opened stands for the mapping that it was opened on. -/
theorem toMapping_edit (e : Editor) (index : Nat) (m : Mapping) (h : e.isOpen = false)
    (hm : e.mappings[index]? = some m) : (e.edit index).editor.draft.toMapping = m := by
  obtain ⟨c, v, a⟩ := m
  by_cases hc : c = "" <;> by_cases hv : v = "" <;>
    simp [edit, selectColumn, setTyped, h, hm, hc, hv, Draft.toMapping, Value.stored]

theorem toMapping_opened (e : Editor) {op : Operation} {m : Mapping}
    (ha : (e.perform op).accepted = true) (hm : e.opensOn? op = some m) :
    (e.perform op).editor.draft.toMapping = m := by
  cases ho : e.isOpen with
  | true => cases op <;> simp [perform, openNew, edit, opensOn?, refuse, ho] at ha hm
  | false =>
    cases op with
    | openNew =>
      simp only [opensOn?, Option.some.injEq] at hm
      simp [perform, openNew, ho, Draft.toMapping, ← hm]
    | edit index => exact e.toMapping_edit index m ho hm
    | _ => cases hm

/-- An accepted operation that leaves the popover open enters what it enters, and nothing else. -/
theorem toMapping_perform (e : Editor) {op : Operation} (h : e.isOpen = true)
    (ha : (e.perform op).accepted = true) (ho : (e.perform op).editor.isOpen = true)
    {m : Mapping} {past : List Entry} (hm : e.draft.toMapping = filled m past) :
    (e.perform op).editor.draft.toMapping = filled m ((e.entryOf? op).toList ++ past) := by
  cases op with
  | openNew => simp [perform, openNew, refuse, h] at ha
  | edit index => simp [perform, edit, refuse, h] at ha
  | selectColumn name =>
    rw [perform, toMapping_selectColumn e name h, hm]
    rfl
  | selectSuggestion index =>
    cases hs : e.draft.suggestions[index]? with
    | none => simp [perform, selectSuggestion, refuse, hs] at ha
    | some s =>
      have hl : e.draft.isLoading = false := by
        cases hl : e.draft.isLoading with
        | false => rfl
        | true => simp [perform, selectSuggestion, refuse, hl] at ha
      have hd : (e.perform (.selectSuggestion index)).editor.draft.toMapping =
          { e.draft.toMapping with value := s.value.stored } := by
        simp [perform, selectSuggestion, h, hl, hs, Draft.toMapping]
      rw [hd, hm, entryOf?, hs]
      rfl
  | setTyped text =>
    rw [perform, toMapping_setTyped e text h, hm]
    rfl
  | setAuxiliary text =>
    have hd : (e.perform (.setAuxiliary text)).editor.draft.toMapping =
        { e.draft.toMapping with auxiliaryInput := text } := by
      simp [perform, setAuxiliary, h, Draft.toMapping]
    rw [hd, hm]
    rfl
  | commit =>
    have hc : e.canCommit = true := e.accepted_commit.symm.trans ha
    simp [perform, editor_commit e hc] at ho
  | close => simp [perform, close, h] at ho
  | remove index =>
    have hd : (e.perform (.remove index)).editor.draft.toMapping = e.draft.toMapping := by
      simp only [perform, remove, refuse]
      split <;> rfl
    rw [hd, hm]
    rfl

/-- A draft can be saved when the mapping that it stands for names a column. -/
theorem canCommit_eq (e : Editor) (h : e.isOpen = true) :
    e.canCommit = !e.draft.toMapping.column.isEmpty := by
  cases hc : e.draft.column <;> simp [canCommit, Draft.toMapping, h, hc]

/-- The committed list with a mapping in the place that the draft is to replace, or at the end. -/
def storing (e : Editor) (m : Mapping) : List Mapping :=
  match e.draft.editing.filter (· < e.mappings.length) with
  | some index => e.mappings.set index m
  | none => e.mappings ++ [m]

theorem storing_edited {e : Editor} {index : Nat} {m : Mapping} (he : e.draft.editing = some index)
    (hm : e.mappings[index]? = some m) : e.storing m = e.mappings := by
  obtain ⟨hlt, hget⟩ := List.getElem?_eq_some_iff.mp hm
  have hf : (some index).filter (· < e.mappings.length) = some index := by
    simp [Option.filter, hlt]
  rw [storing, he, hf]
  simp [← hget]

end Editor

namespace World

/-- What an event enters into the draft. -/
def entryOf? (w : World) : Event → Option Entry
  | .perform op => if (w.editor.perform op).accepted then w.editor.entryOf? op else none
  | _ => none

/-- The entries of a run behind those before it, the latest first. -/
def entries (w : World) (past : List Entry) : List Event → List Entry
  | [] => past
  | ev :: events => (w.step ev).entries ((w.entryOf? ev).toList ++ past) events

/-- The popover is open before, between and after the events. -/
def staysOpen (w : World) : List Event → Bool
  | [] => w.editor.isOpen
  | ev :: events => w.editor.isOpen && (w.step ev).staysOpen events

theorem isOpen_of_staysOpen {w : World} {events : List Event} (h : w.staysOpen events = true) :
    w.editor.isOpen = true := by
  cases events with
  | nil => exact h
  | cons ev events => exact (Bool.and_eq_true_iff.mp h).1

theorem isOpen_run {w : World} {events : List Event} (h : w.staysOpen events = true) :
    (w.run events).editor.isOpen = true := by
  induction events generalizing w with
  | nil => exact h
  | cons ev events ih => exact ih (Bool.and_eq_true_iff.mp h).2

theorem toMapping_step {w : World} {ev : Event} (h : w.editor.isOpen = true)
    (ho : (w.step ev).editor.isOpen = true) {m : Mapping} {past : List Entry}
    (hm : w.editor.draft.toMapping = filled m past) :
    (w.step ev).editor.draft.toMapping = filled m ((w.entryOf? ev).toList ++ past) := by
  cases ev with
  | perform op =>
    cases ha : (w.editor.perform op).accepted with
    | true =>
      rw [entryOf?, if_pos ha]
      exact w.editor.toMapping_perform h ha ho hm
    | false =>
      have he : (w.step (.perform op)).editor = w.editor := w.editor.unchanged_of_refused ha
      rw [entryOf?, ha, he]
      exact hm
  | lookup st => exact hm
  | deliver place =>
    have hd := congrArg (·.draft.toMapping) (w.deliver_keeps place).1
    exact Eq.trans hd hm

/-- While the popover stays open, the draft stands for the mapping that the entries make. -/
theorem toMapping_run {w : World} {events : List Event} (h : w.staysOpen events = true)
    {m : Mapping} {past : List Entry} (hm : w.editor.draft.toMapping = filled m past) :
    (w.run events).editor.draft.toMapping = filled m (w.entries past events) := by
  induction events generalizing w past with
  | nil => exact hm
  | cons ev events ih =>
    obtain ⟨ho, hs⟩ := Bool.and_eq_true_iff.mp h
    exact ih hs (toMapping_step ho (isOpen_of_staysOpen hs) hm)

/-- Without operations only what lookups bring changes in the editor. -/
theorem outline_run (w : World) {events : List Event} (h : ∀ op, .perform op ∉ events) :
    (w.run events).editor.outline = w.editor.outline ∧ w.entries [] events = [] := by
  induction events generalizing w with
  | nil => exact ⟨rfl, rfl⟩
  | cons ev events ih =>
    obtain ⟨ho, he⟩ := ih (w.step ev) fun op hop => h op (List.mem_cons_of_mem _ hop)
    cases ev with
    | perform op => exact absurd List.mem_cons_self (h op)
    | lookup st => exact ⟨ho, he⟩
    | deliver place => exact ⟨ho.trans (w.deliver_keeps place).1, he⟩

/-- A popover is opened, and stays open for a while. Saving then succeeds if the latest column is
not empty, and stores the mapping that the popover was opened on with the latest entries. If nothing
was entered, saving leaves the list as it was. -/
theorem commit_stores_latest (w : World) (opening : Operation) (m : Mapping) (during : List Event)
    (hopen : (w.editor.perform opening).accepted = true)
    (hm : w.editor.opensOn? opening = some m)
    (hstay : (w.step (.perform opening)).staysOpen during = true) :
    let opened := w.step (.perform opening)
    let v := opened.run during
    let stored := filled m (opened.entries [] during)
    v.editor.commit.accepted = !stored.column.isEmpty ∧
    (v.editor.commit.accepted = true →
      (v.step (.perform .commit)).editor.mappings = v.editor.storing stored) ∧
    ∀ index, opening = .edit index → (∀ op, .perform op ∉ during) →
      (v.step (.perform .commit)).editor.mappings = w.editor.mappings := by
  intro opened v stored
  have hd : v.editor.draft.toMapping = stored :=
    toMapping_run hstay (w.editor.toMapping_opened hopen hm)
  have hs : v.editor.saved = v.editor.storing stored := by rw [← hd]; rfl
  have hlist : v.editor.commit.accepted = true →
      (v.step (.perform .commit)).editor.mappings = v.editor.storing stored := by
    intro ha
    have hc : v.editor.canCommit = true := v.editor.accepted_commit.symm.trans ha
    exact ((v.editor.mappings_perform .commit).trans (if_pos hc)).trans hs
  refine ⟨?_, hlist, ?_⟩
  · rw [Editor.accepted_commit, v.editor.canCommit_eq (isOpen_run hstay), hd]
  · intro index he hnone
    subst he
    obtain ⟨ho, hnil⟩ := opened.outline_run hnone
    have hkept : v.editor.mappings = w.editor.mappings :=
      (congrArg Editor.mappings ho).trans (w.editor.mappings_perform (.edit index))
    cases ha : v.editor.commit.accepted with
    | false =>
      have hv : (v.step (.perform .commit)).editor = v.editor :=
        @Editor.unchanged_of_refused v.editor .commit ha
      rw [hv, hkept]
    | true =>
      have hediting : v.editor.draft.editing = some index :=
        (congrArg (·.draft.editing) ho).trans (w.editor.editing_perform (.edit index) hopen)
      have hstored : stored = m := congrArg (filled m) hnil
      have hget : v.editor.mappings[index]? = some m := by rw [hkept]; exact hm
      rw [hlist ha, hstored, Editor.storing_edited hediting hget, hkept]

/-- The second of two mappings is edited: another column, one of its values, and a note; then the
column once more, and the first mapping is removed. -/
def revised : List Event :=
  [.perform (.selectColumn "city"), .lookup (.call ⟨2⟩),
    .lookup (.answer ⟨2⟩ (.ok [.text "Pune", .number (.int 7)])), .lookup (.finish ⟨2⟩ true),
    .deliver 0, .perform (.setTyped "Lyon"), .perform (.selectSuggestion 1),
    .perform (.setAuxiliary "x"), .perform (.selectColumn "city"), .perform (.remove 0)]

theorem commit_stores_latest_revised :
    let w := start Lookup.Demo.dataSource "demo" [⟨"year", "2021", "a"⟩, ⟨"region", "north", "b"⟩]
    let v := (w.step (.perform (.edit 1))).run revised
    (v.step (.perform .commit)).editor.mappings = [⟨"city", "7", "x"⟩] := by
  intro w v
  have h := commit_stores_latest w (.edit 1) ⟨"region", "north", "b"⟩ revised (by decide +kernel)
    (by decide +kernel) (by decide +kernel)
  rw [h.2.1 (by decide +kernel)]
  decide +kernel

end World

end ColumnMap
