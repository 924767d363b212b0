import ColumnMap.Program.Basic
import ColumnMap.Proofs.CommandLine.Run
import ColumnMap.Proofs.Program.Files

/-!
The program on command lines that start the editor.
-/

namespace ColumnMap.Program

open CommandLine

/-- The word `run` may be left out: whatever words follow, they are understood without a command
exactly if they are after `run`, and as the same options, namely those that they spell, each of them
once. Then the editor is started with these options either way. Words that spell an option twice are
refused either way for the same option. -/
theorem run_implied (words : List String) :
    (∀ r, parse words = .ok ⟨none, r⟩ ↔
      ∃ top, parse ("run" :: words) = .ok ⟨some (.run r), top⟩) ∧
    (∀ r, parse words = .ok ⟨none, r⟩ ↔ Tells words r) ∧
    (∀ options, Spelled options words → ¬ (options.map Prod.fst).Nodup →
      ∃ o, 2 ≤ (options.map Prod.fst).count o ∧
        parse words = .error (.refused program (.repeated o)) ∧
        parse ("run" :: words) = .error (.refused CommandLine.runCommand (.repeated o))) ∧
    ∀ r, parse words = .ok ⟨none, r⟩ → ∀ {m : Type → Type} [Monad m] (host : Host m),
      let edit := withConfig host (!·.enableTui) fun logger config =>
        runCommand host logger config r
      run host words = edit ∧ run host ("run" :: words) = edit := by
  refine ⟨fun r => parse_iff.trans parse_run_iff.symm, fun r => parse_iff,
    fun options => parse_repeated, fun r bare m _ host => ?_⟩
  obtain ⟨top, called⟩ := parse_run_iff.mpr (parse_iff.mp bare)
  constructor
  · rw [run, bare]
    rfl
  · rw [run, called]
    rfl

/-- Values that look like a command and an option, and an option given by letter and by name. -/
theorem run_implied_lookalikes :
    let words := ["--mappings", "run", "-o=--demo", "--"]
    let r : RunOptions := { mappings := some "run", output := some "--demo" }
    let twice := ["-oa", "--output=b"]
    (parse words = .ok ⟨none, r⟩ ∧
      (∃ top, parse ("run" :: words) = .ok ⟨some (.run r), top⟩) ∧
      run Disk.host words = run Disk.host ("run" :: words)) ∧
    Spelled [(outputOption, "a"), (outputOption, "b")] twice ∧
      ∃ o, parse twice = .error (.refused program (.repeated o)) ∧
        parse ("run" :: twice) = .error (.refused CommandLine.runCommand (.repeated o)) := by
  intro words r twice
  have alone : parse words = .ok ⟨none, r⟩ := by decide +kernel
  have spelled : Spelled [(outputOption, "a"), (outputOption, "b")] twice := by
    have known : outputOption ∈ runOptions := by decide
    have letter : outputOption.Word (some "a") "-oa" :=
      .behind (l := 'o') rfl (by decide) (by decide)
    have long : outputOption.Word (some "b") "--output=b" := .long (some "b")
    exact .cons known (.joined rfl letter (by decide))
      (.cons known (.joined rfl long (by decide)) .nil)
  obtain ⟨same, -, -, starts⟩ := run_implied words
  obtain ⟨-, -, refused, -⟩ := run_implied twice
  obtain ⟨bare, called⟩ := starts r alone Disk.host
  obtain ⟨o, -, stops⟩ := refused _ spelled (by decide)
  exact ⟨⟨alone, (same r).mp alone, bare.trans called.symm⟩, spelled, o, stops⟩

end ColumnMap.Program
