import Mathlib.Data.List.Nodup
import ColumnMap.Lookup.Demo
import ColumnMap.Proofs.Editor.Changes
import ColumnMap.Proofs.Editor.Loading

/-!
An edit follows the mapping that it was opened on, not the place where the mapping stood. Beside
the committed list runs a register in which every mapping has an identity; saving replaces by
identity there, and by index in the editor.
-/

namespace ColumnMap

/-- A committed mapping with its identity. -/
structure Row where
  id : Nat
  mapping : Mapping
  deriving DecidableEq, Repr

structure Register where
  rows : List Row
  /-- Identity that the next new row gets. -/
  next : Nat
  /-- Identity of the row that the popover was opened on. -/
  target : Option Nat := none
  deriving DecidableEq, Repr

namespace Register

/-- A register of mappings numbered in order. -/
def ofList (l : List Mapping) : Register where
  rows := l.mapIdx fun i m => ⟨i, m⟩
  next := l.length

def mappings (r : Register) : List Mapping := r.rows.map (·.mapping)

/-- Gives the row with that identity another mapping, wherever it stands. -/
def replace (r : Register) (id : Nat) (m : Mapping) : Register :=
  { r with rows := r.rows.map fun row => if row.id = id then { row with mapping := m } else row }

/-- Adds a row with a new identity at the end. -/
def append (r : Register) (m : Mapping) : Register :=
  { r with rows := r.rows ++ [⟨r.next, m⟩], next := r.next + 1 }

/-- Saves into the row that the popover was opened on, or into a new one if there is none or if it
has been removed. -/
def save (r : Register) (m : Mapping) : Register :=
  match r.target with
  | some id => if r.rows.any (·.id == id) then r.replace id m else r.append m
  | none => r.append m

/-- What an accepted operation of the editor `e` does to the rows. -/
def perform (r : Register) (e : Editor) : Operation → Register
  | .openNew => { r with target := none }
  | .edit index => { r with target := r.rows[index]?.map (·.id) }
  | .commit => { r.save e.draft.toMapping with target := none }
  | .close => { r with target := none }
  | .remove index => { r with rows := r.rows.eraseIdx index }
  | _ => r

/-- Only accepted operations reach the rows; lookups and messages never do. -/
def step (r : Register) (w : World) : World.Event → Register
  | .perform op => if (w.editor.perform op).accepted then r.perform w.editor op else r
  | _ => r

/-- Whether the row at that place is the one that the popover was opened on. -/
def marks (r : Register) (place : Nat) : Prop :=
  ∃ row, r.rows[place]? = some row ∧ r.target = some row.id

end Register

/-- The register of a run of a world. -/
def World.register (w : World) (r : Register) : List World.Event → Register
  | [] => r
  | ev :: events => (w.step ev).register (r.step w ev) events

namespace Editor

/-! ### The mark of the draft -/

/-- The place that the draft is to replace, after an accepted operation. -/
def editingAfter (e : Editor) : Operation → Option Nat
  | .openNew | .commit | .close => none
  | .edit index => some index
  | .remove index => e.draft.editing.bind (afterRemoval index)
  | _ => e.draft.editing

theorem editing_selectColumn (e : Editor) (c : String) :
    (e.selectColumn c).editor.draft.editing = e.draft.editing := by
  simp only [selectColumn, refuse]
  split
  · rfl
  · split <;> rfl

theorem editing_setTyped (e : Editor) (text : String) :
    (e.setTyped text).editor.draft.editing = e.draft.editing := by
  unfold setTyped
  split <;> rfl

/-- Only a closed popover opens on a mapping, and only on one that there is. -/
theorem accepted_edit (e : Editor) (index : Nat) (h : (e.edit index).accepted = true) :
    ∃ m, e.mappings[index]? = some m ∧ (e.edit index).editor.draft.editing = some index := by
  cases ho : e.isOpen with
  | true => simp [edit, refuse, ho] at h
  | false =>
    cases hm : e.mappings[index]? with
    | none => simp [edit, refuse, ho, hm] at h
    | some m =>
      refine ⟨m, rfl, ?_⟩
      have hs := (e.openedOn index).editing_selectColumn m.column
      simp only [edit, ho, hm, Bool.false_eq_true, if_false]
      split
      · exact hs
      · exact (editing_setTyped _ _).trans hs

theorem accepted_remove (e : Editor) (index : Nat) :
    (e.remove index).accepted = decide (index < e.mappings.length) := by
  cases hm : e.mappings[index]? with
  | none =>
    have hlen := List.getElem?_eq_none_iff.mp hm
    simp [remove, refuse, Nat.not_lt.mpr hlen]
  | some m =>
    obtain ⟨hlt, -⟩ := List.getElem?_eq_some_iff.mp hm
    simp [remove, hlt]

theorem editing_perform (e : Editor) (op : Operation) (h : (e.perform op).accepted = true) :
    (e.perform op).editor.draft.editing = e.editingAfter op := by
  cases op with
  | openNew =>
    cases ho : e.isOpen with
    | true => simp [perform, openNew, refuse, ho] at h
    | false => simp [perform, openNew, editingAfter, ho]
  | edit index =>
    obtain ⟨m, -, he⟩ := e.accepted_edit index h
    exact he
  | selectColumn c => exact e.editing_selectColumn c
  | selectSuggestion index =>
    simp only [perform, selectSuggestion, refuse, editingAfter]
    split
    · rfl
    · split <;> rfl
  | setTyped text => exact e.editing_setTyped text
  | setAuxiliary text =>
    simp only [perform, setAuxiliary, refuse, editingAfter]
    split <;> rfl
  | commit =>
    have hc : e.canCommit = true := e.accepted_commit.symm.trans h
    simp [perform, editor_commit e hc, editingAfter]
  | close =>
    cases ho : e.isOpen with
    | true => simp [perform, close, editingAfter, ho]
    | false => simp [perform, close, refuse, ho] at h
  | remove index =>
    cases hm : e.mappings[index]? with
    | none => simp [perform, remove, refuse, hm] at h
    | some m => simp [perform, remove, editingAfter, hm]

/-- A removal moves every other mapping to the place that is left for it. -/
theorem getElem?_afterRemoval {α : Type} (l : List α) {removed index place : Nat}
    (h : afterRemoval removed index = some place) : (l.eraseIdx removed)[place]? = l[index]? := by
  unfold afterRemoval at h
  rw [List.getElem?_eraseIdx]
  split at h
  · cases h
  · split at h
    · next hne hlt =>
      have hp : index - 1 = place := Option.some.inj h
      have hn : ¬ place < removed := by omega
      have hi : place + 1 = index := by omega
      rw [if_neg hn, hi]
    · next hne hle =>
      have hp : index = place := Option.some.inj h
      have hlt : place < removed := by omega
      rw [if_pos hlt, hp]

/-- Every place that is left comes from one before the removal. -/
theorem exists_afterRemoval (removed place : Nat) :
    ∃ index, afterRemoval removed index = some place := by
  by_cases hp : place < removed
  · refine ⟨place, ?_⟩
    have hne : place ≠ removed := by omega
    have hle : ¬ removed < place := by omega
    simp [afterRemoval, hne, hle]
  · refine ⟨place + 1, ?_⟩
    have hne : place + 1 ≠ removed := by omega
    have hlt : removed < place + 1 := by omega
    simp [afterRemoval, hne, hlt]

end Editor

/-! ### Rows -/

namespace Register

/-- The rows carry that list, under identities of their own. -/
structure Holds (r : Register) (l : List Mapping) : Prop where
  mappings : r.mappings = l
  distinct : (r.rows.map (·.id)).Nodup
  fresh : ∀ row ∈ r.rows, row.id < r.next

theorem holds_ofList (l : List Mapping) : (ofList l).Holds l where
  mappings := by
    refine List.ext_getElem (by simp [mappings, ofList]) fun i hi hj => ?_
    simp [mappings, ofList]
  distinct := by
    refine List.nodup_iff_injective_getElem.mpr fun i j hij => ?_
    apply Fin.ext
    simpa [ofList] using hij
  fresh := by
    intro row hrow
    obtain ⟨i, hi, he⟩ := List.mem_iff_getElem.mp hrow
    have hlt : i < l.length := by simpa [ofList] using hi
    have hid : row.id = i := by rw [← he]; simp [ofList]
    exact hid ▸ hlt

namespace Holds

variable {r : Register} {l : List Mapping}

theorem length (h : r.Holds l) : l.length = r.rows.length := by
  rw [← h.mappings, Register.mappings, List.length_map]

/-- Rows with the same identity stand at the same place. -/
theorem place_unique (h : r.Holds l) {i j : Nat} {a b : Row} (ha : r.rows[i]? = some a)
    (hb : r.rows[j]? = some b) (hid : a.id = b.id) : i = j := by
  obtain ⟨hi, ha⟩ := List.getElem?_eq_some_iff.mp ha
  obtain ⟨hj, hb⟩ := List.getElem?_eq_some_iff.mp hb
  have hrow : r.rows[i] = r.rows[j] :=
    List.inj_on_of_nodup_map h.distinct (List.getElem_mem hi) (List.getElem_mem hj)
      (by rw [ha, hb, hid])
  exact (h.distinct.of_map _).getElem_inj_iff.mp hrow

theorem eraseIdx (h : r.Holds l) (place : Nat) :
    Holds { r with rows := r.rows.eraseIdx place } (l.eraseIdx place) where
  mappings := by rw [← h.mappings, Register.mappings, Register.mappings, List.eraseIdx_map]
  distinct := by
    rw [← List.eraseIdx_map]
    exact h.distinct.sublist (List.eraseIdx_sublist _ _)
  fresh := fun row hrow => h.fresh row (List.mem_of_mem_eraseIdx hrow)

theorem append (h : r.Holds l) (m : Mapping) : (r.append m).Holds (l ++ [m]) where
  mappings := by
    rw [← h.mappings]
    simp [Register.mappings, Register.append]
  distinct := by
    simp only [Register.append, List.map_append, List.map_cons, List.map_nil]
    rw [← List.concat_eq_append]
    refine h.distinct.concat fun hmem => ?_
    obtain ⟨row, hrow, hid⟩ := List.mem_map.mp hmem
    have hlt := h.fresh row hrow
    omega
  fresh := by
    intro row hrow
    rcases List.mem_append.mp hrow with hrow | hrow
    · exact Nat.lt_succ_of_lt (h.fresh row hrow)
    · rw [List.mem_singleton] at hrow
      rw [hrow]
      exact Nat.lt_succ_self _

/-- Replacing by identity is replacing at the place of the row. -/
theorem replace (h : r.Holds l) {place : Nat} {row : Row} (hrow : r.rows[place]? = some row)
    (m : Mapping) : (r.replace row.id m).Holds (l.set place m) where
  mappings := by
    refine List.ext_getElem (by simp [Register.mappings, Register.replace, h.length])
      fun i hi hj => ?_
    have hlt : i < r.rows.length := by simpa [Register.mappings, Register.replace] using hi
    have hget : r.rows[i]? = some r.rows[i] := List.getElem?_eq_getElem hlt
    simp only [← h.mappings, Register.mappings, Register.replace, List.getElem_map,
      List.getElem_set]
    by_cases hp : place = i
    · subst hp
      have hid : r.rows[place].id = row.id := by
        rw [hget, Option.some.injEq] at hrow
        rw [hrow]
      simp [hid]
    · have hid : r.rows[i].id ≠ row.id := fun hid => hp (h.place_unique hrow hget hid.symm)
      simp [hp, hid]
  distinct := by
    have hids : (r.replace row.id m).rows.map (·.id) = r.rows.map (·.id) := by
      rw [Register.replace, List.map_map]
      refine List.map_congr_left fun a _ => ?_
      simp only [Function.comp_apply]
      split <;> rfl
    rw [hids]
    exact h.distinct
  fresh := by
    intro a ha
    obtain ⟨b, hb, rfl⟩ := List.mem_map.mp ha
    have hlt := h.fresh b hb
    split <;> exact hlt

end Holds

/-- Saving into a row that is still there. -/
theorem save_marked {r : Register} {place : Nat} {row : Row} (hrow : r.rows[place]? = some row)
    (ht : r.target = some row.id) (m : Mapping) : r.save m = r.replace row.id m := by
  have hany : r.rows.any (·.id == row.id) = true :=
    List.any_eq_true.mpr ⟨row, List.mem_of_getElem? hrow, beq_self_eq_true _⟩
  simp only [save, ht, hany, if_true]

/-- Saving with no row to save into. -/
theorem save_unmarked {r : Register} (h : ∀ place, ¬ r.marks place) (m : Mapping) :
    r.save m = r.append m := by
  unfold save
  split
  · next id ht =>
    have hany : ¬ r.rows.any (·.id == id) = true := by
      intro ha
      obtain ⟨row, hrow, he⟩ := List.any_eq_true.mp ha
      obtain ⟨place, hp⟩ := List.mem_iff_getElem?.mp hrow
      exact h place ⟨row, hp, by rw [ht, beq_iff_eq.mp he]⟩
    rw [if_neg hany]
  · rfl

end Register

/-! ### The register and the committed list -/

/-- The register and the editor hold the same list and mark the same row. -/
structure Mirrors (r : Register) (e : Editor) : Prop where
  holds : r.Holds e.mappings
  marked : ∀ place, e.draft.editing = some place ↔ r.marks place

namespace Mirrors

variable {r : Register} {e : Editor}

/-- The list that saving leaves: the marked row replaced. -/
theorem saved_marked (h : Mirrors r e) {place : Nat} (hp : r.marks place) :
    e.saved = e.mappings.set place e.draft.toMapping := by
  have he := (h.marked place).mpr hp
  obtain ⟨row, hrow, -⟩ := hp
  obtain ⟨hlt, -⟩ := List.getElem?_eq_some_iff.mp hrow
  exact Editor.saved_of_editing he (h.holds.length.symm ▸ hlt)

/-- The list that saving leaves: with no row marked, one more at the end. -/
theorem saved_unmarked (h : Mirrors r e) (hp : ∀ place, ¬ r.marks place) :
    e.saved = e.mappings ++ [e.draft.toMapping] := by
  apply Editor.saved_of_new
  cases he : e.draft.editing with
  | none => rfl
  | some place => exact absurd ((h.marked place).mp he) (hp place)

/-- Nothing counts but the list and the mark. -/
theorem congr (h : Mirrors r e) {f : Editor} (hm : f.mappings = e.mappings)
    (hd : f.draft.editing = e.draft.editing) : Mirrors r f where
  holds := hm ▸ h.holds
  marked := by
    intro place
    rw [hd]
    exact h.marked place

/-- With no mark, any register of the list will do. -/
theorem of_holds {f : Editor} (h : r.Holds f.mappings) (hd : f.draft.editing = none) :
    Mirrors { r with target := none } f where
  holds := ⟨h.mappings, h.distinct, h.fresh⟩
  marked := by
    intro place
    rw [hd]
    constructor
    · intro hp
      cases hp
    · rintro ⟨row, -, ht⟩
      cases ht

/-- The popover opens on a row. -/
theorem edit (h : Mirrors r e) {f : Editor} {index : Nat} (hi : index < e.mappings.length)
    (hm : f.mappings = e.mappings) (hd : f.draft.editing = some index) :
    Mirrors { r with target := r.rows[index]?.map (·.id) } f where
  holds := ⟨hm ▸ h.holds.mappings, h.holds.distinct, h.holds.fresh⟩
  marked := by
    have hlt : index < r.rows.length := h.holds.length ▸ hi
    have hget : r.rows[index]? = some r.rows[index] := List.getElem?_eq_getElem hlt
    intro place
    rw [hd, Option.some.injEq]
    constructor
    · intro hp
      subst hp
      exact ⟨r.rows[index], hget, by simp only [hget, Option.map_some]⟩
    · rintro ⟨row, hrow, ht⟩
      simp only [hget, Option.map_some, Option.some.injEq] at ht
      exact h.holds.place_unique hget hrow ht

/-- A row is removed, and the mark stays with its own. -/
theorem remove (h : Mirrors r e) {f : Editor} (removed : Nat)
    (hm : f.mappings = e.mappings.eraseIdx removed)
    (hd : f.draft.editing = e.draft.editing.bind (Editor.afterRemoval removed)) :
    Mirrors { r with rows := r.rows.eraseIdx removed } f where
  holds := hm ▸ h.holds.eraseIdx removed
  marked := by
    intro place
    rw [hd, Option.bind_eq_some_iff]
    constructor
    · rintro ⟨index, hindex, hp⟩
      obtain ⟨row, hrow, ht⟩ := (h.marked index).mp hindex
      exact ⟨row, (Editor.getElem?_afterRemoval r.rows hp).trans hrow, ht⟩
    · rintro ⟨row, hrow, ht⟩
      obtain ⟨index, hp⟩ := Editor.exists_afterRemoval removed place
      have hrow' := (Editor.getElem?_afterRemoval r.rows hp).symm.trans hrow
      exact ⟨index, (h.marked index).mpr ⟨row, hrow', ht⟩, hp⟩

/-- The draft is saved, into the marked row or into a new one. -/
theorem save (h : Mirrors r e) {f : Editor} (hm : f.mappings = e.saved)
    (hd : f.draft.editing = none) :
    Mirrors { r.save e.draft.toMapping with target := none } f := by
  apply of_holds _ hd
  rw [hm]
  by_cases hp : ∃ place, r.marks place
  · obtain ⟨place, hp⟩ := hp
    rw [h.saved_marked hp]
    obtain ⟨row, hrow, ht⟩ := hp
    rw [Register.save_marked hrow ht]
    exact h.holds.replace hrow _
  · have hn : ∀ place, ¬ r.marks place := fun place hx => hp ⟨place, hx⟩
    rw [h.saved_unmarked hn, Register.save_unmarked hn]
    exact h.holds.append _

/-! ### Events -/

theorem perform (h : Mirrors r e) (op : Operation) (ha : (e.perform op).accepted = true) :
    Mirrors (r.perform e op) (e.perform op).editor := by
  have hm := e.mappings_perform op
  have hd := e.editing_perform op ha
  cases op with
  | openNew => exact of_holds (hm ▸ h.holds) hd
  | edit index =>
    obtain ⟨m, hget, -⟩ := e.accepted_edit index ha
    obtain ⟨hi, -⟩ := List.getElem?_eq_some_iff.mp hget
    exact h.edit hi hm hd
  | commit =>
    have hc : e.canCommit = true := e.accepted_commit.symm.trans ha
    rw [Editor.mappingsAfter, if_pos hc] at hm
    exact h.save hm hd
  | close => exact of_holds (hm ▸ h.holds) hd
  | remove index => exact h.remove index hm hd
  | selectColumn c => exact h.congr hm hd
  | selectSuggestion index => exact h.congr hm hd
  | setTyped text => exact h.congr hm hd
  | setAuxiliary text => exact h.congr hm hd

theorem step {w : World} (h : Mirrors r w.editor) (ev : World.Event) :
    Mirrors (r.step w ev) (w.step ev).editor := by
  cases ev with
  | perform op =>
    cases ha : (w.editor.perform op).accepted with
    | true =>
      rw [Register.step, ha]
      exact h.perform op ha
    | false =>
      have he : (w.step (.perform op)).editor = w.editor := w.editor.unchanged_of_refused ha
      rw [Register.step, ha, he]
      exact h
  | lookup st => exact h
  | deliver place => exact h.congr (w.mappings_deliver place) (w.editing_deliver place)

theorem run {w : World} (h : Mirrors r w.editor) (events : List World.Event) :
    Mirrors (w.register r events) (w.run events).editor := by
  induction events generalizing w r with
  | nil => exact h
  | cons ev events ih => exact ih (h.step ev)

end Mirrors

namespace World

/-- How a world and a register of its mappings agree, and what the next event does to the committed
list. -/
structure InPlace (w : World) (r : Register) : Prop where
  mappings : w.editor.mappings = r.mappings
  distinct : (r.rows.map (·.id)).Nodup
  /-- The place that is marked as being edited is that of the row the popover was opened on. -/
  marked : ∀ place, w.editor.draft.editing = some place ↔ r.marks place
  inside : ∀ place, w.editor.draft.editing = some place →
    w.editor.isOpen = true ∧ place < w.editor.mappings.length
  edited : ∀ index, (w.editor.edit index).accepted = true →
    index < w.editor.mappings.length ∧
      (w.step (.perform (.edit index))).editor.draft.editing = some index
  opened : w.editor.openNew.accepted = true →
    (w.step (.perform .openNew)).editor.draft.editing = none
  kept : ∀ ev, ev ≠ .perform .commit → (∀ place, ev ≠ .perform (.remove place)) →
    (w.step ev).editor.mappings = w.editor.mappings
  refused : ∀ op, (w.editor.perform op).accepted = false →
    (w.step (.perform op)).editor.mappings = w.editor.mappings
  removed : ∀ place, (w.editor.remove place).accepted = true →
    place < w.editor.mappings.length ∧
      (w.step (.perform (.remove place))).editor.mappings = w.editor.mappings.eraseIdx place
  /-- Saving replaces the row that the popover was opened on, if it is still there. -/
  replaced : w.editor.commit.accepted = true → ∀ place, r.marks place →
    (w.step (.perform .commit)).editor.mappings =
      w.editor.mappings.set place w.editor.draft.toMapping
  /-- Otherwise saving adds one mapping at the end. -/
  appended : w.editor.commit.accepted = true → (∀ place, ¬ r.marks place) →
    (w.step (.perform .commit)).editor.mappings =
      w.editor.mappings ++ [w.editor.draft.toMapping]

theorem mappings_commit {w : World} (h : w.editor.commit.accepted = true) :
    (w.step (.perform .commit)).editor.mappings = w.editor.saved := by
  have hc : w.editor.canCommit = true := w.editor.accepted_commit.symm.trans h
  exact (w.editor.mappings_perform .commit).trans (if_pos hc)

theorem inPlace_of_mirrors {w : World} {r : Register} (hd : w.editor.Tidy)
    (h : Mirrors r w.editor) : InPlace w r where
  mappings := h.holds.mappings.symm
  distinct := h.holds.distinct
  marked := h.marked
  inside := by
    intro place hp
    constructor
    · by_contra ho
      rw [hd (by simpa using ho)] at hp
      cases hp
    · obtain ⟨row, hrow, -⟩ := (h.marked place).mp hp
      obtain ⟨hlt, -⟩ := List.getElem?_eq_some_iff.mp hrow
      exact h.holds.length.symm ▸ hlt
  edited := by
    intro index ha
    obtain ⟨m, hget, he⟩ := w.editor.accepted_edit index ha
    obtain ⟨hlt, -⟩ := List.getElem?_eq_some_iff.mp hget
    exact ⟨hlt, he⟩
  opened := fun ha => w.editor.editing_perform .openNew ha
  kept := by
    intro ev hc hr
    cases ev with
    | perform op =>
      have hm := w.editor.mappings_perform op
      cases op with
      | commit => exact absurd rfl hc
      | remove place => exact absurd rfl (hr place)
      | _ => exact hm
    | lookup st => rfl
    | deliver place => exact w.mappings_deliver place
  refused := by
    intro op ho
    exact congrArg Editor.mappings (w.editor.unchanged_of_refused ho)
  removed := by
    intro place ho
    rw [Editor.accepted_remove, decide_eq_true_eq] at ho
    exact ⟨ho, w.editor.mappings_perform (.remove place)⟩
  replaced := fun ha place hp => (mappings_commit ha).trans (h.saved_marked hp)
  appended := fun ha hp => (mappings_commit ha).trans (h.saved_unmarked hp)

/-- In every run saving follows the mapping that the popover was opened on, and only saving and
removing reach the committed list. -/
theorem inPlace_run (d : DataSource) (source : String) (initial : List Mapping)
    (events : List Event) :
    InPlace ((start d source initial).run events)
      ((start d source initial).register (.ofList initial) events) := by
  have hd : (start d source initial).editor.Tidy := fun _ => rfl
  have hl : (Register.ofList initial).Holds (start d source initial).editor.mappings :=
    Register.holds_ofList initial
  have hm : Mirrors (.ofList initial) (start d source initial).editor := Mirrors.of_holds hl rfl
  exact inPlace_of_mirrors (tidy_run hd events) (hm.run events)

/-- The second of two mappings is edited, and the first one is removed before it is saved. -/
def shifted : List Event :=
  [.perform (.edit 1), .perform (.setTyped "Lyon"), .perform (.remove 0)]

/-- The edited mapping is replaced where it stands then. -/
theorem inPlace_run_shifted :
    let initial : List Mapping := [⟨"country", "India", ""⟩, ⟨"city", "Pune", ""⟩]
    let w := (start Lookup.Demo.dataSource "demo" initial).run shifted
    (w.step (.perform .commit)).editor.mappings = [⟨"city", "Lyon", ""⟩] := by
  intro initial w
  have h := inPlace_run Lookup.Demo.dataSource "demo" initial shifted
  have hm := h.replaced (by decide +kernel) 0
    ⟨⟨1, ⟨"city", "Pune", ""⟩⟩, by decide +kernel, by decide +kernel⟩
  rw [hm]
  decide +kernel

end World

end ColumnMap
