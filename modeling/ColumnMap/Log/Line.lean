/-!
Lines of the log: a level, the part of the program that speaks, and a message.
-/

namespace ColumnMap.Log

inductive Level where
  | error | warn | info | debug | trace
  deriving DecidableEq, Repr

namespace Level

def text : Level → String
  | .error => "ERROR"
  | .warn => "WARN"
  | .info => "INFO"
  | .debug => "DEBUG"
  | .trace => "TRACE"

/-- Steps from the most urgent level. -/
def rank : Level → Nat
  | .error => 1
  | .warn => 2
  | .info => 3
  | .debug => 4
  | .trace => 5

end Level

/-- Parts of the program, as they are named in the log. -/
inductive Origin where
  | main | editor | lookup | backend | screen | mappingFile
  deriving DecidableEq, Repr

def Origin.text : Origin → String
  | .main => "mapctl"
  | .editor => "mapctl::editor"
  | .lookup => "mapctl::lookup"
  | .backend => "mapctl::lookup::http"
  | .screen => "mapctl::tui::app"
  | .mappingFile => "mapctl::mapping_file"

structure Line where
  level : Level
  target : String
  message : String
  deriving DecidableEq, Repr

namespace Line

def of (origin : Origin) (level : Level) (message : String) : Line := ⟨level, origin.text, message⟩

def text (l : Line) : String := l.level.text ++ " " ++ l.target ++ ": " ++ l.message

end Line

end ColumnMap.Log
