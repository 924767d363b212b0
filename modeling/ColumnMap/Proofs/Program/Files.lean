import ColumnMap.Program.Editing
import ColumnMap.Proofs.Mapping.File

/-!
Mapping files on a machine: what the program wrote to a file it reads from there again, as long as
nothing else is written to the file in between.
-/

namespace ColumnMap.Program

section

variable {σ : Type} {host : Host (StateM σ)} {path : String} {held : σ → Option ByteArray}

/-- The action does not change what the file holds. -/
def Leaves {α : Type} (held : σ → Option ByteArray) (action : StateM σ α) : Prop :=
  ∀ s, held (action s).2 = held s

theorem leaves_pure {α : Type} (a : α) : Leaves held (pure a : StateM σ α) := fun _ => rfl

theorem leaves_bind {α β : Type} {action : StateM σ α} {next : α → StateM σ β}
    (h : Leaves held action) (hn : ∀ a, Leaves held (next a)) : Leaves held (action >>= next) :=
  fun s => (hn _ _).trans (h s)

/-- The file at `path` keeps what was last written to it, and the log goes elsewhere; `held` is what
it holds. -/
structure Host.Keeps (host : Host (StateM σ)) (path : String) (held : σ → Option ByteArray) :
    Prop where
  written : ∀ text s, (host.write path text s).1 = none →
    held (host.write path text s).2 = some text.toUTF8
  read : ∀ s bytes, held s = some bytes → (host.read path s).1 = .ok bytes
  recorded : ∀ file line, Leaves held (host.record file line)
  told : ∀ line, Leaves held (host.tell line)

theorem Host.Keeps.leaves_say (h : host.Keeps path held) (logger : Logger) (line : Log.Line) :
    Leaves held (say host logger line) := by
  have shown : Leaves held (if logger.isTold then host.tell line else pure ()) := by
    split
    · exact h.told line
    · exact leaves_pure ()
  unfold say
  split
  · cases logger.file with
    | none => exact shown
    | some file => exact leaves_bind (h.recorded file line) fun _ => shown
  · exact leaves_pure ()

/-- A write that the machine carries out is a success, and the file holds the text of the list. -/
theorem Host.Keeps.writeMappings (h : host.Keeps path held) (logger : Logger)
    (mappings : List Mapping) {s : σ}
    (done : (host.write path (Mapping.toText mappings) s).1 = none) :
    ∃ t, writeMappings host logger mappings (some path) s = (.ok (), t) ∧
      held t = some (Mapping.toText mappings).toUTF8 := by
  have stored := h.written (Mapping.toText mappings) s done
  have said := h.leaves_say logger (wroteLine path mappings)
  cases hw : host.write path (Mapping.toText mappings) s with
  | mk outcome t =>
    rw [hw] at done stored
    cases done
    refine ⟨_, ?_, (said t).trans stored⟩
    simp only [Program.writeMappings, bind, StateT.bind, hw]
    rfl

/-- What is read goes by the bytes of the file, whether or not the log gets a line of it. -/
theorem readMappings_of_read (logger : Logger) {s : σ} {bytes : ByteArray}
    (got : (host.read path s).1 = .ok bytes) :
    (readMappings host logger (some path) s).1 =
      (Mapping.ofBytes bytes).mapError (·.trouble path) := by
  cases hr : host.read path s with
  | mk outcome t =>
    rw [hr] at got
    cases got
    simp only [readMappings, bind, StateT.bind, hr]
    cases Mapping.ofBytes bytes with
    | error e => rfl
    | ok mappings =>
      simp only
      split <;> rfl

/-- A file that holds mappings is read as them. -/
theorem Host.Keeps.readMappings (h : host.Keeps path held) (logger : Logger) {s : σ}
    {bytes : ByteArray} (found : held s = some bytes) {mappings : List Mapping}
    (parsed : Mapping.ofBytes bytes = .ok mappings) :
    (readMappings host logger (some path) s).1 = .ok mappings := by
  rw [readMappings_of_read logger (h.read s bytes found), parsed]
  rfl

end

/-! ### A machine with a disk -/

/-- The bytes stored under each path. -/
abbrev Disk := String → Option ByteArray

/-- A machine that is only its disk: nothing is typed at it, and it asks nobody. -/
def Disk.host : Host (StateM Disk) where
  valueOf _ := pure none
  home? := pure none
  read path := fun disk => (match disk path with
    | none => .error .missing
    | some bytes => .ok bytes, disk)
  write path text := fun disk => (none, fun p => if p = path then some text.toUTF8 else disk p)
  isThere path := fun disk => ((disk path).isSome, disk)
  makeFolder _ := pure none
  readLine := pure (some "")
  print _ := pure ()
  printError _ := pure ()
  launch _ _ := pure (.notStarted "no other programs")
  request _ := pure none
  keys := pure (.ok [])
  openLog _ := pure ()
  record _ _ := pure ()
  tell _ := pure ()

theorem Disk.host_keeps (path : String) : Disk.host.Keeps path fun disk => disk path where
  written _ _ _ := if_pos rfl
  read disk bytes h := by simp only [Disk.host, h]
  recorded _ _ := leaves_pure ()
  told _ := leaves_pure ()

/-! ### Reading what was written -/

/-- Whatever mappings are written, and whatever the file held before, reading the file gives the
same list. -/
theorem readMappings_of_writeMappings (mappings : List Mapping) :
    Mapping.ofText (Mapping.toText mappings) = .ok mappings ∧
    ∀ {σ : Type} {host : Host (StateM σ)} {path : String} {held : σ → Option ByteArray},
      host.Keeps path held → ∀ (logger : Logger) (s : σ),
        (host.write path (Mapping.toText mappings) s).1 = none →
        ∃ t, writeMappings host logger mappings (some path) s = (.ok (), t) ∧
          ∀ (reading : Logger) (u : σ), held u = held t →
            (readMappings host reading (some path) u).1 = .ok mappings := by
  refine ⟨Mapping.ofText_toText mappings, ?_⟩
  intro σ host path held keeps logger s done
  obtain ⟨t, wrote, holds⟩ := keeps.writeMappings logger mappings done
  refine ⟨t, wrote, fun reading u same => ?_⟩
  exact keeps.readMappings reading (same.trans holds) (Mapping.ofBytes_toText mappings)

/-- Quotes, controls and letters of other scripts, over a file that held something else. -/
theorem readMappings_of_writeMappings_odd :
    let odd : List Mapping := [⟨"a\"b\\c", "\u0000\n\x7f", ""⟩, ⟨"", "日本 😀", "é"⟩]
    let used : Disk := fun _ => some "[\x7b\"column\": \"old\"\x7d]   ".toUTF8
    let logger : Logger := ⟨(Log.Filter.ofSound "debug").1, none, true⟩
    ∃ disk, writeMappings Disk.host logger odd (some "m.json") used = (.ok (), disk) ∧
      (readMappings Disk.host logger (some "m.json") disk).1 = .ok odd := by
  intro odd used logger
  obtain ⟨disk, wrote, same⟩ :=
    (readMappings_of_writeMappings odd).2 (Disk.host_keeps "m.json") logger used rfl
  exact ⟨disk, wrote, same logger disk rfl⟩

end ColumnMap.Program
