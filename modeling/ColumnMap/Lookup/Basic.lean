import ColumnMap.DataSource
import ColumnMap.Log.Line
import ColumnMap.Value

/-!
Looking up the distinct values of a column. A lookup that fails counts as one that found nothing;
only one that was cancelled is told apart.
-/

namespace ColumnMap.Lookup

inductive Failure where
  /-- No answer could be had from the backend. -/
  | network (reason : String)
  /-- The backend answered with a status other than success. -/
  | status (code : Nat) (body : String)
  /-- The answer was no list of values. -/
  | malformed (reason : String)
  /-- No address could be made for the lookup. -/
  | invalidUrl (reason : String)
  deriving DecidableEq, Repr

def Failure.message : Failure → String
  | .network reason => "Network error: " ++ reason
  | .status code body =>
    "Backend returned status " ++ toString code ++ (if body.isEmpty then "" else ": " ++ body)
  | .malformed reason => "Malformed payload: " ++ reason
  | .invalidUrl reason => "Invalid lookup URL: " ++ reason

/-- What a source answers. -/
abbrev Answer := Except Failure (List Value)

/-- What came of a lookup. -/
inductive Outcome where
  | loaded (suggestions : List Suggestion)
  | cancelled
  deriving DecidableEq, Repr

/-- The suggestions that an answer gives: its values with their labels, none for a failure. -/
def suggestionsOf : Answer → List Suggestion
  | .ok values => values.map .ofValue
  | .error _ => []

def log (level : Log.Level) (message : String) : Log.Line := .of .lookup level message

def cancelledLine (column : String) : Log.Line :=
  log .debug ("Lookup for '" ++ column ++ "' cancelled")

def answerLine (source column : String) : Answer → Log.Line
  | .ok values =>
    log .debug ("Lookup for '" ++ column ++ "' returned " ++ toString values.length
      ++ " value(s) via " ++ source)
  | .error failure =>
    log .warn ("Value lookup for '" ++ column ++ "' failed: " ++ failure.message)

def unsupportedLine (dataSource : DataSource) (column : String) : Log.Line :=
  log .debug ("Data source " ++ toString dataSource.id ++ " has no value lookup, skipping fetch for '"
    ++ column ++ "'")

/-- What comes of a lookup whose source has or has not yet answered, with the line that is logged.
A cancellation is looked at before an answer; with neither, the lookup goes on. -/
def settle? (source column : String) (isCancelled : Bool) (answer : Option Answer) :
    Option (Outcome × Log.Line) :=
  if isCancelled then some (.cancelled, cancelledLine column)
  else answer.map fun a => (.loaded (suggestionsOf a), answerLine source column a)

/-- A lookup on its own: what came of it, the calls the source received, and the log. -/
structure Report where
  outcome : Outcome
  calls : List String
  log : List Log.Line

/-- Looks up a column at a source whose answer is known. A table without lookup is never asked
about; otherwise the source is called before a cancellation is looked at. -/
def fetch (source : String) (dataSource : DataSource) (column : String) (isCancelled : Bool)
    (answer : Answer) : Report :=
  if !dataSource.supportsLookup then ⟨.loaded [], [], [unsupportedLine dataSource column]⟩
  else if isCancelled then ⟨.cancelled, [column], [cancelledLine column]⟩
  else ⟨.loaded (suggestionsOf answer), [column], [answerLine source column answer]⟩

end ColumnMap.Lookup
