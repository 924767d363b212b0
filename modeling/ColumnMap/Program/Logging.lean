import ColumnMap.Log.Filter
import ColumnMap.Program.Host

/-!
Where the lines of the log go: into a file, if one is kept, and beside the output unless the screen
shows them.
-/

namespace ColumnMap.Program

structure Logger where
  filter : Log.Filter
  file : Option LogFile := none
  /-- Whether lines are shown beside the output. -/
  isTold : Bool

variable {m : Type → Type} [Monad m] (host : Host m)

/-- The rules that hold when the environment has none, or none that can be read. -/
def standardRules (config : Config) : String := "mapctl=" ++ config.log.level ++ ",reqwest=warn"

def chooseFilter (config : Config) : m Log.Filter := do
  match (← host.valueOf "RUST_LOG").bind Log.Filter.ofText? with
  | some filter => return filter
  | none =>
    let (filter, complaints) := Log.Filter.ofSound (standardRules config)
    for c in complaints do
      host.printError (c ++ "\n")
    return filter

/-- Begins the log file that the configuration asks for. -/
def openLogFile (log : LogConfig) : m (Option LogFile) := do
  if !log.fileEnabled then return none
  match ← host.makeFolder log.fileDirectory with
  | some reason =>
    host.printError ("Warning: Could not create log directory " ++ Text.quote log.fileDirectory ++ ": "
      ++ reason ++ "\n")
    return none
  | none =>
    let file : LogFile := ⟨log.fileDirectory, log.filePrefix, log.fileRotation⟩
    host.openLog file
    return some file

def startLog (config : Config) (isTold : Bool) : m Logger := do
  let filter ← chooseFilter host config
  let file ← openLogFile host config.log
  return { filter, file, isTold }

/-- Writes a line, if the filter admits it. -/
def say (logger : Logger) (line : Log.Line) : m Unit := do
  if logger.filter.admits line then
    if let some file := logger.file then
      host.record file line
    if logger.isTold then
      host.tell line

def sayAll (logger : Logger) (lines : List Log.Line) : m Unit := lines.forM (say host logger)

end ColumnMap.Program
