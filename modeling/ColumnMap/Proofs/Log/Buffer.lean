import Mathlib.Data.List.DropRight
import Mathlib.Data.List.Forall2
import ColumnMap.Screen.Panels

/-!
The log buffer against the whole history of the log: it keeps the end of it, as much as there is
room for, whichever of its holders adds the entries. The log panel shows the end of that, a row for
each entry.
-/

namespace ColumnMap.Log

theorem rtake_rtake {α : Type} (l : List α) (m n : Nat) :
    (l.rtake m).rtake n = l.rtake (min n m) := by
  simp only [List.rtake, List.drop_drop, List.length_drop]
  congr 1
  omega

theorem length_rtake {α : Type} (l : List α) (n : Nat) : (l.rtake n).length = min n l.length := by
  simp only [List.rtake, List.length_drop]
  omega

theorem rtake_of_le {α : Type} {l : List α} {n : Nat} (h : l.length ≤ n) : l.rtake n = l := by
  rw [List.rtake, Nat.sub_eq_zero_of_le h, List.drop_zero]

namespace Buffer

variable {b : Buffer} {history : List Entry}

/-- The buffer has the end of the history, as much of it as there is room for. -/
def Keeps (b : Buffer) (history : List Entry) : Prop := b.entries = history.rtake b.capacity

theorem length_of_keeps (h : b.Keeps history) : b.length = min b.capacity history.length := by
  rw [length, h, length_rtake]

/-- What is left of a buffer to make room for one entry. -/
theorem kept_of_keeps {capacity : Nat} (h : b.Keeps history) (room : b.capacity = capacity + 1) :
    (if b.capacity ≤ b.entries.length then b.entries.drop 1 else b.entries) =
      history.rtake capacity := by
  have held : b.entries.length = min b.capacity history.length := length_of_keeps h
  split
  · next full =>
    rw [h, List.rtake, List.drop_drop, List.rtake]
    congr 1
    omega
  · next spare =>
    have short : history.length ≤ capacity := by omega
    rw [h, rtake_of_le short, rtake_of_le (by omega)]

/-- Adding keeps the end of the longer history, whether or not an entry is dropped for it. -/
theorem keeps_add (h : b.Keeps history) (room : 0 < b.capacity) (e : Entry) :
    (b.add e).Keeps (history ++ [e]) := by
  obtain ⟨capacity, more⟩ : ∃ capacity, b.capacity = capacity + 1 :=
    Nat.exists_eq_add_one_of_ne_zero (by omega)
  have same : (b.add e).capacity = capacity + 1 := more
  rw [Keeps, same, List.rtake_concat_succ, add, kept_of_keeps h more]

theorem recent_of_keeps (h : b.Keeps history) (n : Nat) :
    b.recent n = history.rtake (min n b.capacity) := by
  rw [← rtake_rtake, ← h]
  rfl

theorem isEmpty_of_keeps (h : b.Keeps history) (room : 0 < b.capacity) :
    b.isEmpty = true ↔ history = [] := by
  have held := length_of_keeps h
  rw [isEmpty, List.isEmpty_iff_length_eq_zero, ← List.length_eq_zero_iff]
  rw [length] at held
  omega

/-- Behind what was dropped comes what is kept, and nothing was dropped before the buffer was
full. -/
theorem dropped_of_keeps (h : b.Keeps history) :
    ∃ dropped, history = dropped ++ b.entries ∧ (dropped = [] ∨ b.length = b.capacity) := by
  refine ⟨history.take (history.length - b.capacity), ?_, ?_⟩
  · rw [h, List.rtake, List.take_append_drop]
  · rw [length_of_keeps h]
    by_cases short : history.length ≤ b.capacity
    · left
      rw [Nat.sub_eq_zero_of_le short, List.take_zero]
    · right
      omega

end Buffer

/-! ### Holders -/

namespace Shared

/-- The entries that holders add in a run, in their order. -/
def added (s : Shared) : List Event → List Entry
  | [] => []
  | .add holder e :: events =>
    (if (s.buffer? holder).isSome then [e] else []) ++ (s.step (.add holder e)).added events
  | .clone holder :: events => (s.step (.clone holder)).added events

/-- Every holder has the same capacity, and finds the end of the history. -/
def Keeps (s : Shared) (capacity : Nat) (history : List Entry) : Prop :=
  (∀ c ∈ s.capacities, c = capacity) ∧ s.entries = history.rtake capacity

variable {s : Shared} {capacity : Nat} {history : List Entry}

theorem buffer_of_keeps (h : s.Keeps capacity history) {holder : Nat} {b : Buffer}
    (held : s.buffer? holder = some b) : b.capacity = capacity ∧ b.Keeps history := by
  obtain ⟨c, there, rfl⟩ := Option.map_eq_some_iff.mp held
  have same : c = capacity := h.1 c (List.mem_of_getElem? there)
  refine ⟨same, ?_⟩
  rw [Buffer.Keeps, same]
  exact h.2

theorem keeps_clone (h : s.Keeps capacity history) (holder : Nat) :
    (s.step (.clone holder)).Keeps capacity history := by
  cases held : s.buffer? holder with
  | none => simpa [step, held] using h
  | some b =>
    have same := (buffer_of_keeps h held).1
    simp only [step, held]
    refine ⟨?_, h.2⟩
    rw [List.forall_mem_append]
    exact ⟨h.1, by simpa using same⟩

theorem keeps_add (h : s.Keeps capacity history) (room : 0 < capacity) {holder : Nat} {b : Buffer}
    (held : s.buffer? holder = some b) (e : Entry) :
    (s.step (.add holder e)).Keeps capacity (history ++ [e]) := by
  obtain ⟨rfl, keeps⟩ := buffer_of_keeps h held
  simp only [step, held]
  exact ⟨h.1, b.keeps_add keeps room e⟩

theorem keeps_run (h : s.Keeps capacity history) (room : 0 < capacity) (events : List Event) :
    (s.run events).Keeps capacity (history ++ s.added events) := by
  induction events generalizing s history with
  | nil => simpa [added] using h
  | cons ev events ih =>
    cases ev with
    | clone holder => exact ih (keeps_clone h holder)
    | add holder e =>
      cases held : s.buffer? holder with
      | none =>
        have same : s.step (.add holder e) = s := by simp [step, held]
        rw [run_cons, added, held, same]
        exact ih h
      | some b =>
        have longer := ih (keeps_add h room held e)
        rw [added, held]
        simpa using longer

end Shared

end ColumnMap.Log

/-! ### The panel -/

namespace ColumnMap.Screen

/-- Rows that all fit are written below each other from the top. -/
theorem Canvas.rows_of_fit (c : Canvas) {area : Area} (highlight : Style) {items : List Line}
    (fit : items.length ≤ area.height) :
    c.rows area highlight none items =
      if area.isEmpty then c
      else items.zipIdx.foldl
        (fun c (l, k) => c.line { area with y := area.y + k, height := 1 } l) c := by
  have whole : (items.drop 0).take area.height = items := List.take_of_length_le fit
  simp only [rows, Option.map_none, firstShown, whole, reduceCtorEq, if_false]

namespace Logs

/-- A number of two digits. -/
def clockPart (n : Nat) : String := if n < 10 then "0" ++ toString n else toString n

/-- A level in a column of its own, in the colour for it. -/
def levelSpan : Log.Level → Span
  | .error => ⟨"ERROR ", { fg := some .red }⟩
  | .warn => ⟨"WARN  ", { fg := some .yellow }⟩
  | .info => ⟨"INFO  ", { fg := some .cyan }⟩
  | .debug => ⟨"DEBUG ", { fg := some .darkGray }⟩
  | .trace => ⟨"TRACE ", { fg := some .darkGray }⟩

/-- The line tells the entry: the time of the day when it was written, its level, the part of the
program that speaks, and the message. -/
def Tells (l : Line) (e : Log.Entry) : Prop :=
  ∃ (day : Int) (hour minute second : Nat), hour < 24 ∧ minute < 60 ∧ second < 60 ∧
    e.second = 86400 * day + 3600 * hour + 60 * minute + second ∧
    l = [⟨clockPart hour ++ ":" ++ clockPart minute ++ ":" ++ clockPart second ++ " ", muted⟩,
      levelSpan e.line.level, ⟨e.line.target ++ ": ", muted⟩, ⟨e.line.message, foreground⟩]

theorem twoDigits_eq {n : Nat} (h : n < 100) : twoDigits n = clockPart n := by
  have all : ∀ n < 100, twoDigits n = clockPart n := by decide +kernel
  exact all n h

theorem tells_row (e : Log.Entry) : Tells (row e) e := by
  have inDay : (e.second % 86400).toNat < 86400 := by omega
  refine ⟨e.second / 86400, (e.second % 86400).toNat / 3600, (e.second % 86400).toNat / 60 % 60,
    (e.second % 86400).toNat % 60, by omega, by omega, by omega, by omega, ?_⟩
  have level : (⟨padRight 5 e.line.level.text ++ " ", levelStyle e.line.level⟩ : Span) =
      levelSpan e.line.level := by cases e.line.level <;> decide
  rw [row, level, timeOfDay, twoDigits_eq (by omega), twoDigits_eq (by omega),
    twoDigits_eq (by omega)]

/-- A panel that shows `entries` as the end of a log of `count` entries: a line that tells each,
below each other from the top. -/
def Lists (area : Area) (a : App) (count : Nat) (entries : List Log.Entry) : Prop :=
  ∃ lines, List.Forall₂ Tells lines entries ∧ ∀ c, draw c area a =
    let c := c.panel area (border false) (" Logs (" ++ toString count ++ ") ")
    if area.inner.isEmpty then c
    else lines.zipIdx.foldl
      (fun c (l, k) => c.line { area.inner with y := area.inner.y + k, height := 1 } l) c

theorem lists_recent {a : App} (area : Area) (some_ : a.log.isEmpty = false) :
    Lists area a a.log.length (a.log.recent (area.height - 2)) := by
  refine ⟨(a.log.recent (area.height - 2)).map row, ?_, fun c => ?_⟩
  · rw [List.forall₂_map_left_iff, List.forall₂_same]
    exact fun e _ => tells_row e
  · have fit : ((shown a.log area.height).map row).length ≤ area.inner.height := by
      simp only [List.length_map, shown, Log.Buffer.recent, Area.inner, List.length_drop]
      omega
    simp only [draw, some_, Bool.false_eq_true, if_false, Canvas.rows_of_fit _ _ fit]
    rfl

end Logs

end ColumnMap.Screen

namespace ColumnMap.Log.Shared

open Screen

/-- However the holders of a buffer clone it and add to it, each of them reads the end of all that
was added: of `n` entries asked for, as many as there are and as there is room for. What was added
before that was dropped only when the buffer was full. The panel on a screen whose log is the buffer
has a row for each of the newest entries that there is a row for. -/
theorem recent_run {capacity : Nat} (room : 0 < capacity) (events : List Event) (holder : Nat)
    (b : Buffer) (held : ((start capacity).run events).buffer? holder = some b) :
    let history := (start capacity).added events
    (∀ n, b.recent n = history.rtake (min n (min capacity history.length))) ∧
      b.length = min capacity history.length ∧ (b.isEmpty = true ↔ history = []) ∧
      (∃ dropped, history = dropped ++ b.entries ∧ (dropped = [] ∨ b.length = capacity)) ∧
      ∀ (a : App) (area : Area), a.log = b → history ≠ [] →
        Logs.Lists area a (min capacity history.length)
          (history.rtake (min (area.height - 2) (min capacity history.length))) := by
  intro history
  have fresh : (start capacity).Keeps capacity [] := ⟨by simp [start], by simp [start]⟩
  have kept : ((start capacity).run events).Keeps capacity history := keeps_run fresh room events
  obtain ⟨rfl, keeps⟩ := buffer_of_keeps kept held
  have recent : ∀ n, b.recent n = history.rtake (min n (min b.capacity history.length)) := by
    intro n
    rw [Buffer.recent_of_keeps keeps, List.rtake, List.rtake]
    congr 1
    omega
  have empty := Buffer.isEmpty_of_keeps keeps room
  refine ⟨recent, Buffer.length_of_keeps keeps, empty, Buffer.dropped_of_keeps keeps, ?_⟩
  rintro a area rfl added
  rw [← recent, ← Buffer.length_of_keeps keeps]
  exact Logs.lists_recent area (by simpa using mt empty.mp added)

/-- Two holders of a buffer for two entries add three, and the clone no longer finds the oldest. -/
theorem recent_run_clone :
    let entry (second : Int) := (⟨second, .of .editor .info "opened"⟩ : Entry)
    let events := [.add 0 (entry 1), .clone 0, .add 1 (entry 2), .add 0 (entry 3)]
    let b := (⟨2, [entry 2, entry 3]⟩ : Buffer)
    ((start 2).run events).buffer? 1 = some b ∧ b.recent 5 = [entry 2, entry 3] ∧
      Logs.Lists ⟨0, 0, 40, 3⟩ { editor := { dataSource := ⟨1, "Orders", ["id"], true⟩ }, log := b }
        2 [entry 3] := by
  intro entry events b
  have held : ((start 2).run events).buffer? 1 = some b := rfl
  obtain ⟨recent, -, -, -, panel⟩ := recent_run (by decide) events 1 b held
  exact ⟨held, recent 5, panel _ _ rfl (List.cons_ne_nil _ _)⟩

end ColumnMap.Log.Shared
