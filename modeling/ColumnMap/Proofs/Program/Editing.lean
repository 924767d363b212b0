import ColumnMap.Proofs.App.Desk
import ColumnMap.Proofs.Editor.Parent
import ColumnMap.Proofs.Program.Files

/-!
The command `run` puts out the committed list. Whatever keys are typed, and whatever becomes of the
lookups between them, the list that the parent form was told last is the one that the editor holds;
its text is what is printed or written in the end.
-/

namespace ColumnMap

/-! ### What the form was told last -/

namespace World

/-- The form holds the last list that it was told, or `initial` if it was told none. -/
def Holds (w : World) (initial : List Mapping) : Prop :=
  w.form = w.traffic.changes.getLast?.getD initial

variable {w : World} {initial : List Mapping}

theorem holds_after (h : w.Holds initial) (r : Reply) : (w.after r).Holds initial := by
  simp only [Holds, after, formAfter_eq, Traffic.changes_absorbAll, List.getLast?_append]
  rw [h]
  cases (changesOf r.effects).getLast? <;> rfl

theorem holds_step (h : w.Holds initial) (ev : Event) : (w.step ev).Holds initial := by
  cases ev with
  | perform op => exact holds_after h _
  | lookup st =>
    rw [Holds, changes_lookup]
    exact h
  | deliver place =>
    simp only [step]
    split
    · exact h
    · -- The message has left the queue by then, which the form does not see.
      have taken : ({ w with
          traffic := { w.traffic with queue := w.traffic.queue.eraseIdx place } } : World).Holds
            initial := h
      exact holds_after taken _

theorem holds_run (h : w.Holds initial) (events : List Event) : (w.run events).Holds initial := by
  induction events generalizing w with
  | nil => exact h
  | cons ev events ih => exact ih (holds_step h ev)

end World

namespace Program

/-! ### Sittings -/

/-- Whatever state the machine is in, what the action gives is such. -/
def Gives {σ α : Type} (P : α → Prop) (action : StateM σ α) : Prop := ∀ u, P (action u).1

theorem gives_bind {σ α β : Type} {P : α → Prop} {Q : β → Prop} {action : StateM σ α}
    {next : α → StateM σ β} (h : Gives P action) (hn : ∀ a, P a → Gives Q (next a)) :
    Gives Q (action >>= next) :=
  fun u => hn _ (h u) _

namespace Sitting

/-- A sitting does nothing with its editor that a user of the editor could not do. -/
theorem exists_world (s : Sitting) : ∃ events : List World.Event,
    let w := (World.start s.table s.source s.initial).run events
    w.editor = s.desk.app.editor ∧ w.traffic.changes = s.desk.traffic.changes ∧
      w.form = s.form := by
  obtain ⟨events, reached⟩ := s.reached
  have fresh := Desk.shows_start s.table s.source s.initial (.empty Log.Buffer.standardCapacity)
  obtain ⟨matching, editor, traffic⟩ := Desk.shows_run fresh events
  rw [← reached] at editor traffic
  have changes := congrArg Traffic.changes traffic
  refine ⟨matching, editor, changes, ?_⟩
  have untold : (World.start s.table s.source s.initial).Holds s.initial := rfl
  have holds := World.holds_run untold matching
  rw [holds, form]
  exact congrArg (·.getLast?.getD s.initial) changes

/-- The parent form holds the committed list. -/
theorem form_eq (s : Sitting) : s.form = s.desk.app.editor.mappings := by
  obtain ⟨events, editor, -, form⟩ := s.exists_world
  rw [← form, ← editor]
  exact World.form_run rfl events

/-- The sitting began with the list. -/
def BeganWith (initial : List Mapping) (s : Sitting) : Prop := s.initial = initial

section

variable {σ : Type} (host : Host (StateM σ)) (logger : Logger) (origin : Origin)
  {initial : List Mapping} {s : Sitting}

theorem beganWith_goOn (h : s.BeganWith initial) (ev : Desk.Event) :
    Gives (BeganWith initial) (goOn host logger s ev) :=
  fun _ => h

theorem beganWith_happen (h : s.BeganWith initial) (o : Occurrence) :
    Gives (BeganWith initial) (happen host logger origin s o) := by
  cases o with
  | call token =>
    refine gives_bind ?_ fun t began => beganWith_goOn host logger began _
    unfold callSource
    split
    · exact fun _ => h
    · split
      · exact fun _ => h
      · exact fun _ => h
  | answer token =>
    simp only [happen]
    split
    · exact fun _ => h
    · exact beganWith_goOn host logger h _
  | tick _ | finish _ _ | receive | clipboard _ => exact beganWith_goOn host logger h _

theorem beganWith_wait (h : s.BeganWith initial) (typed : Nat) :
    Gives (BeganWith initial) (wait host logger origin s typed) := by
  unfold wait
  generalize host.meanwhile typed s.desk.traffic = os
  induction os generalizing s with
  | nil => exact fun _ => h
  | cons o os ih => exact gives_bind (beganWith_happen host logger origin h o) fun t => ih

/-- The list that a sitting began with stays, by induction on the keys. -/
theorem beganWith_typeKeys (h : s.BeganWith initial) (typed : Nat) (keys : List Console.Key) :
    Gives (fun r => r.1.BeganWith initial) (typeKeys host logger origin s typed keys) := by
  induction keys generalizing s typed with
  | nil => exact gives_bind (beganWith_wait host logger origin h typed) fun t began _ => began
  | cons k keys ih =>
    refine gives_bind (beganWith_wait host logger origin h typed) fun t began => ?_
    cases host.screenFault typed with
    | some reason => exact fun _ => began
    | none =>
      refine gives_bind (beganWith_goOn host logger began (.key k)) fun t began => ?_
      split
      · exact fun _ => began
      · exact ih began (typed + 1)

end

end Sitting

/-! ### The command -/

section

variable {σ : Type} {host : Host (StateM σ)} {logger : Logger} {config : Config}
  {options : CommandLine.RunOptions}

theorem beganWith_edit (table : DataSource) (origin : Origin) (initial : List Mapping) :
    Gives (fun r => r.1.BeganWith initial) (edit host logger table origin initial) := by
  have fresh : (Sitting.start table origin.name initial).BeganWith initial := rfl
  refine gives_bind (P := fun _ => True) (fun _ => trivial) fun keys _ => ?_
  cases keys with
  | error reason => exact fun _ => fresh
  | ok keys =>
    refine gives_bind (Sitting.beganWith_typeKeys host logger origin fresh 0 keys) fun r began => ?_
    rcases r with ⟨s, _ | trouble⟩
    · exact fun _ => began
    · exact fun _ => began

theorem beganWith_editMappings (initial : List Mapping) :
    Gives (fun r => ∀ s trouble, r = .ok (s, trouble) → s.BeganWith initial)
      (editMappings host logger config options initial) := by
  refine gives_bind (P := fun _ => True) (fun _ => trivial) fun chosen _ => ?_
  cases chosen with
  | error trouble => exact fun _ _ _ none => nomatch none
  | ok chosen =>
    refine gives_bind (P := fun _ => True) (fun _ => trivial) fun _ _ => ?_
    refine gives_bind (beganWith_edit chosen.1 chosen.2 initial) fun r began => ?_
    rintro _ s trouble same
    cases same
    exact began

/-- If editing takes place, then of the list that is read. -/
theorem readMappings_of_editFile {u v : σ} {s : Sitting} {trouble : Option Trouble}
    (edited : editFile host logger config options u = (.ok (s, trouble), v)) :
    (readMappings host logger options.mappings u).1 = .ok s.initial := by
  unfold editFile at edited
  split at edited
  · cases edited
  · simp only [bind, StateT.bind] at edited
    generalize readMappings host logger options.mappings u = r at edited ⊢
    rcases r with ⟨_ | initial, w⟩
    · cases edited
    · have began := beganWith_editMappings initial w s trouble (congrArg Prod.fst edited)
      rw [began]

/-- The end of the command on a machine: the text of the list is printed, or it is what the program
asks the machine to put into the file; a file that cannot be written is the trouble that is told. -/
def putOut (host : Host (StateM σ)) (logger : Logger) (mappings : List Mapping)
    (trouble : Option Trouble) (output : Option String) (s : σ) : Except Trouble Unit × σ :=
  let text := Mapping.toText mappings
  match output with
  | none => shutDown host logger trouble (host.print text s).2
  | some path =>
    match host.write path text s with
    | (some reason, t) => (.error (Mapping.writeTrouble path reason), t)
    | (none, t) => shutDown host logger trouble (say host logger (wroteLine path mappings) t).2

theorem runCommand_eq (u : σ) :
    runCommand host logger config options u =
      match editFile host logger config options u with
      | (.error trouble, v) => (.error trouble, v)
      | (.ok (s, trouble), v) =>
        putOut host logger s.desk.app.editor.mappings trouble options.output v := by
  simp only [runCommand, bind, StateT.bind]
  rcases editFile host logger config options u with ⟨trouble | ⟨s, trouble⟩, v⟩
  · rfl
  · simp only [s.form_eq, putOut]
    cases options.output with
    | none => rfl
    | some path =>
      simp only [writeMappings, bind, StateT.bind]
      rcases host.write path (Mapping.toText s.desk.app.editor.mappings) v with ⟨_ | reason, t⟩
      · rfl
      · rfl

/-- A file that could be written holds the text of the list when the command has ended. -/
theorem Host.Keeps.putOut {path : String} {held : σ → Option ByteArray} (h : host.Keeps path held)
    (mappings : List Mapping) (trouble : Option Trouble) {s : σ}
    (done : (host.write path (Mapping.toText mappings) s).1 = none) :
    held (putOut host logger mappings trouble (some path) s).2 =
      some (Mapping.toText mappings).toUTF8 := by
  have stored := h.written (Mapping.toText mappings) s done
  cases written : host.write path (Mapping.toText mappings) s with
  | mk outcome t =>
    rw [written] at done stored
    cases done
    have said := h.leaves_say logger (wroteLine path mappings) t
    have ended := h.leaves_say logger (mainLine .info "Shutdown complete")
    simp only [Program.putOut, written]
    exact (ended _).trans (said.trans stored)

end

/-- In every run the parent form holds the committed list. It is told the list that each successful
saving or removal leaves, once, and nothing else tells it any. A sitting at the terminal is such a
run, and when it has ended the command prints the committed list, or writes it into the file that is
asked for; if that file can be written, it is read as the committed list again. -/
theorem form_holds_committed (d : DataSource) (source : String) (initial : List Mapping)
    (events : List World.Event) :
    let start := World.start d source initial
    let w := start.run events
    w.form = w.editor.mappings ∧
    w.traffic.changes.length = start.alterations events ∧
    (∀ ev, (w.step ev).traffic.changes =
      w.traffic.changes ++ if w.alters ev then [(w.step ev).editor.mappings] else []) ∧
    (∀ s : Sitting, ∃ events : List World.Event,
      let w := (World.start s.table s.source s.initial).run events
      w.editor = s.desk.app.editor ∧ w.traffic.changes = s.desk.traffic.changes ∧
        w.form = s.form) ∧
    ∀ {σ : Type} (host : Host (StateM σ)) (logger : Logger) (config : Config)
      (options : CommandLine.RunOptions) (u : σ),
      runCommand host logger config options u =
        (match editFile host logger config options u with
        | (.error trouble, v) => (.error trouble, v)
        | (.ok (s, trouble), v) =>
          putOut host logger s.desk.app.editor.mappings trouble options.output v) ∧
      ∀ (s : Sitting) (trouble : Option Trouble) (v : σ),
        editFile host logger config options u = (.ok (s, trouble), v) →
        (readMappings host logger options.mappings u).1 = .ok s.initial ∧
        ∀ (path : String) (held : σ → Option ByteArray), host.Keeps path held →
          options.output = some path →
          (host.write path (Mapping.toText s.desk.app.editor.mappings) v).1 = none →
          ∀ (reading : Logger) (x : σ),
            held x = held (runCommand host logger config options u).2 →
            (readMappings host reading (some path) x).1 = .ok s.desk.app.editor.mappings := by
  intro start w
  refine ⟨World.form_run rfl events, ?_, w.changes_step, Sitting.exists_world, ?_⟩
  · have hl := start.length_changes_run events
    rwa [show start.traffic.changes.length = 0 from rfl, Nat.zero_add] at hl
  intro σ host logger config options u
  refine ⟨runCommand_eq u, fun s trouble v edited => ⟨readMappings_of_editFile edited, ?_⟩⟩
  intro path held keeps output done reading x same
  rw [runCommand_eq, edited, output] at same
  exact keeps.readMappings reading (same.trans (keeps.putOut _ trouble done))
    (Mapping.ofBytes_toText _)

/-- A column is selected, its values arrive while the user waits, the second of them is picked and
saved, and the program is left. -/
def answeredKeys : List Console.Key :=
  [.plain (.char 'a'), .plain .enter, .plain .down, .plain .enter, .plain .enter,
    .plain (.char 'q')]

/-- A machine on which those keys are typed, and the values arrive before the third. -/
def answering : Host (StateM Disk) :=
  { Disk.host with
    keys := pure (.ok answeredKeys)
    meanwhile := fun typed _ =>
      if typed = 2 then [.call ⟨1⟩, .answer ⟨1⟩, .finish ⟨1⟩ true, .receive] else [] }

/-- The value that was picked is in the file in the end, behind the mapping that was there. -/
theorem form_holds_committed_answered :
    let old : Mapping := ⟨"year", "2021", ""⟩
    let disk : Disk := fun _ => some (Mapping.toText [old]).toUTF8
    let options : CommandLine.RunOptions :=
      { mappings := some "m.json", output := some "m.json", demo := true }
    let logger : Logger := ⟨⟨[]⟩, none, false⟩
    let after := (runCommand answering logger {} options disk).2
    (readMappings answering logger (some "m.json") after).1 =
      .ok [old, ⟨"country", "France", ""⟩] := by
  intro old disk options logger after
  obtain ⟨-, -, -, -, command⟩ := form_holds_committed Lookup.Demo.dataSource "demo" [old] []
  obtain ⟨-, ended⟩ := command answering logger {} options disk
  have keeps : answering.Keeps "m.json" fun disk => disk "m.json" :=
    have h := Disk.host_keeps "m.json"
    ⟨h.written, h.read, h.recorded, h.told⟩
  have committed : (match (editFile answering logger {} options disk).1 with
      | .ok (s, _) => s.desk.app.editor.mappings
      | .error _ => []) = [old, ⟨"country", "France", ""⟩] := by decide +kernel
  cases edited : editFile answering logger {} options disk with
  | mk outcome v =>
    rw [edited] at committed
    cases outcome with
    | error trouble => cases committed
    | ok r =>
      obtain ⟨-, read⟩ := ended r.1 r.2 v edited
      have again := read "m.json" _ keeps rfl rfl logger after rfl
      rw [again]
      exact congrArg Except.ok committed

end Program

end ColumnMap
