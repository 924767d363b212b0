import ColumnMap.Mapping.File
import ColumnMap.Program.Sitting

/-!
The command `run`: the mappings are read, edited at the terminal, and written, whatever came of the
editing.
-/

namespace ColumnMap.Program

variable {m : Type → Type} [Monad m] (host : Host m)

/-! ### Files -/

/-- Reads the initial mappings; without a file there are none. -/
def readMappings (logger : Logger) : Option String → m (Except Trouble (List Mapping))
  | none => return .ok []
  | some path => do
    match ← host.read path with
    | .error unread => return .error (Mapping.FileError.unreadable unread.reason |>.trouble path)
    | .ok bytes =>
      match Mapping.ofBytes bytes with
      | .error fault => return .error (fault.trouble path)
      | .ok mappings =>
        if !Text.isBlankText ((String.fromUTF8? bytes).getD "") then
          say host logger (.of .mappingFile .debug
            ("Loaded " ++ toString mappings.length ++ " mapping(s) from " ++ path))
        return .ok mappings

def wroteLine (path : String) (mappings : List Mapping) : Log.Line :=
  .of .mappingFile .info ("Wrote " ++ toString mappings.length ++ " mapping(s) to " ++ path)

/-- Writes the mappings into a file, or prints them. -/
def writeMappings (logger : Logger) (mappings : List Mapping) :
    Option String → m (Except Trouble Unit)
  | none => do
    host.print (Mapping.toText mappings)
    return .ok ()
  | some path => do
    match ← host.write path (Mapping.toText mappings) with
    | some reason => return .error (Mapping.writeTrouble path reason)
    | none =>
      say host logger (wroteLine path mappings)
      return .ok ()

/-! ### The terminal -/

def noTerminal (reason : String) : Trouble := ⟨"Failed to enable raw mode", [reason]⟩

/-- Edits the mappings at the terminal; with the trouble that there was, if any. -/
def edit (logger : Logger) (table : DataSource) (origin : Origin) (initial : List Mapping) :
    m (Sitting × Option Trouble) := do
  let start := Sitting.start table origin.name initial
  let (s, trouble) ← match ← host.keys with
    | .error reason => pure (start, some (noTerminal reason))
    | .ok keys => start.typeKeys host logger origin 0 keys
  if let some t := trouble then
    say host logger (mainLine .error ("TUI error: " ++ t.detail))
  return (s, trouble)

/-! ### The command -/

def noTui : Trouble :=
  ⟨"Interactive editing needs the TUI (MAPCTL_NO_TUI is set); use \x60mapctl lookup\x60 "
    ++ "for headless lookups", []⟩

def editingLine (initial : List Mapping) (table : DataSource) (origin : Origin) : Log.Line :=
  mainLine .info ("Editing " ++ toString initial.length ++ " mapping(s) for '" ++ table.name
    ++ "' (source: " ++ origin.name ++ ")")

/-- Edits mappings of the table that there is. -/
def editMappings (logger : Logger) (config : Config) (options : CommandLine.RunOptions)
    (initial : List Mapping) : m (Except Trouble (Sitting × Option Trouble)) := do
  match ← chooseOrigin host logger config (options.demo || config.demoMode) with
  | .error trouble => return .error trouble
  | .ok (table, origin) =>
    say host logger (editingLine initial table origin)
    return .ok (← edit host logger table origin initial)

/-- The sitting in the end, and the trouble that there was, if editing took place at all. -/
def editFile (logger : Logger) (config : Config) (options : CommandLine.RunOptions) :
    m (Except Trouble (Sitting × Option Trouble)) := do
  if !config.enableTui then return .error noTui
  match ← readMappings host logger options.mappings with
  | .error trouble => return .error trouble
  | .ok initial => editMappings host logger config options initial

/-- Ends the command, whatever came of the editing. -/
def shutDown (logger : Logger) (trouble : Option Trouble) : m (Except Trouble Unit) := do
  say host logger (mainLine .info "Shutdown complete")
  return match trouble with
    | none => .ok ()
    | some t => .error t

def runCommand (logger : Logger) (config : Config) (options : CommandLine.RunOptions) :
    m (Except Trouble Unit) := do
  match ← editFile host logger config options with
  | .error trouble => return .error trouble
  | .ok (s, trouble) =>
    match ← writeMappings host logger s.form options.output with
    | .error unwritten => return .error unwritten
    | .ok () => shutDown host logger trouble

end ColumnMap.Program
