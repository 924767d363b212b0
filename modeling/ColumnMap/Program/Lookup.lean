import ColumnMap.CommandLine.Basic
import ColumnMap.Lookup.Demo
import ColumnMap.Program.Logging

/-!
The table and the source of its values, and the command that looks up one column and prints what it
finds.
-/

namespace ColumnMap.Program

/-- Where the values of a table come from. -/
inductive Origin where
  | demo
  | backend (backend : Lookup.Backend)
  deriving DecidableEq, Repr

def Origin.name : Origin → String
  | .demo => Lookup.Demo.name
  | .backend _ => Lookup.Backend.name

variable {m : Type → Type} [Monad m] (host : Host m)

def mainLine (level : Log.Level) (message : String) : Log.Line := .of .main level message

/-- The table to work on and the source of its values. -/
def chooseOrigin (logger : Logger) (config : Config) (demo : Bool) :
    m (Except Trouble (DataSource × Origin)) := do
  if demo then
    say host logger (mainLine .info "Running in DEMO MODE - canned values, no backend")
    return .ok (Lookup.Demo.dataSource, .demo)
  match Lookup.Backend.ofText config.backendUrl (config.timeLimit?.map (·.toNat)) with
  | .error trouble =>
    return .error (trouble.context ("Invalid backend URL " ++ Text.quote config.backendUrl))
  | .ok backend =>
    say host logger backend.readyLine
    return .ok (config.dataSource, .backend backend)

/-- Looks up a column; nothing if the user interrupts it. -/
def callOrigin (logger : Logger) (table : DataSource) (column : String) :
    Origin → m (Option Lookup.Answer)
  | .demo => return some (Lookup.Demo.answer column)
  | .backend b => do
    match b.valuesUrl table.id column with
    | .error failure => return some (.error failure)
    | .ok url =>
      say host logger (Lookup.Backend.requestLine url)
      return (← host.request url).map Lookup.Backend.answer

/-- Looks up a column, unless the table has no lookup. -/
def lookUp (logger : Logger) (table : DataSource) (origin : Origin) (column : String) :
    m Lookup.Outcome := do
  let answer ←
    if table.supportsLookup then callOrigin host logger table column origin else pure none
  let report :=
    Lookup.fetch origin.name table column answer.isNone (answer.getD (.ok []))
  sayAll host logger report.log
  return report.outcome

/-- What is printed for the values that were found. -/
def listing (json : Bool) (suggestions : List Suggestion) : String :=
  if json then (Value.listToJson (suggestions.map (·.value))).pretty ++ "\n"
  else String.join (suggestions.map fun s => s.label ++ "\n")

def unknownColumnLine (table : DataSource) (column : String) : Log.Line :=
  mainLine .warn ("'" ++ column ++ "' is not a configured column of '" ++ table.name
    ++ "'; looking it up anyway")

/-- The command `lookup`. A column that the table does not list is looked up all the same. -/
def lookupCommand (logger : Logger) (config : Config) (options : CommandLine.LookupOptions) :
    m (Except Trouble Unit) := do
  match ← chooseOrigin host logger config (options.demo || config.demoMode) with
  | .error trouble => return .error trouble
  | .ok (table, origin) =>
    if !table.columns.contains options.column then
      say host logger (unknownColumnLine table options.column)
    match ← lookUp host logger table origin options.column with
    | .cancelled => say host logger (mainLine .info "Lookup interrupted")
    | .loaded suggestions => host.print (listing options.json suggestions)
    return .ok ()

end ColumnMap.Program
