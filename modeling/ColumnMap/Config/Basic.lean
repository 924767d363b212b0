import ColumnMap.DataSource
import ColumnMap.Text.Blank
import ColumnMap.Text.Quoted

/-!
The configuration: where the backend is, what table the control is bound to, and how to log. Its
text is a commented TOML file.
-/

namespace ColumnMap

/-- When a new log file is begun. -/
inductive Rotation where
  | hourly | daily | never
  deriving DecidableEq, Repr

namespace Rotation

def text : Rotation → String
  | .hourly => "hourly"
  | .daily => "daily"
  | .never => "never"

/-- The rotation of that name in any case; daily for an unknown name. -/
def ofText (s : String) : Rotation :=
  match Text.asciiLower s with
  | "hourly" => .hourly
  | "never" => .never
  | _ => .daily

end Rotation

structure LogConfig where
  level : String := "info"
  fileEnabled : Bool := false
  fileDirectory : String := "./logs"
  fileRotation : Rotation := .daily
  filePrefix : String := "mapctl"
  deriving DecidableEq, Repr

structure Config where
  backendUrl : String := "http://localhost:8088"
  /-- Seconds that a lookup may take; 0 for any time. -/
  timeout : UInt64 := 30
  enableTui : Bool := true
  demoMode : Bool := false
  dataSource : DataSource :=
    { id := 1, name := "birth_names", columns := ["name", "gender", "state", "ds"] }
  log : LogConfig := {}
  deriving DecidableEq, Repr

namespace Config

/-- Seconds that a lookup may take, if there is a limit. -/
def timeLimit? (c : Config) : Option UInt64 := if c.timeout = 0 then none else some c.timeout

def boolText (b : Bool) : String := if b then "true" else "false"

def dataSourceText (d : DataSource) : String :=
  "\n[datasource]\n"
    ++ "id = " ++ toString d.id ++ "\n"
    ++ "name = " ++ Text.quote d.name ++ "\n"
    ++ "columns = [" ++ String.intercalate ", " (d.columns.map Text.quote) ++ "]\n"
    ++ "# Set to false if the backend cannot list distinct column values\n"
    ++ "supports_lookup = " ++ boolText d.supportsLookup ++ "\n"

def logText (l : LogConfig) : String :=
  "\n[logging]\n"
    ++ "# trace, debug, info, warn, error (RUST_LOG overrides)\n"
    ++ "level = " ++ Text.quote l.level ++ "\n"
    ++ "file_enabled = " ++ boolText l.fileEnabled ++ "\n"
    ++ "file_dir = " ++ Text.quote l.fileDirectory ++ "\n"
    ++ "# hourly, daily, never\n"
    ++ "file_rotation = " ++ Text.quote l.fileRotation.text ++ "\n"
    ++ "file_prefix = " ++ Text.quote l.filePrefix ++ "\n"

/-- The text of a configuration file. -/
def toText (c : Config) : String :=
  "# mapctl configuration\n"
    ++ "#\n"
    ++ "# Precedence: environment variables > this file > built-in defaults\n"
    ++ "# Env: MAPCTL_BACKEND_URL, MAPCTL_TIMEOUT_SECS, MAPCTL_DATASOURCE_ID,\n"
    ++ "#      MAPCTL_NO_TUI, MAPCTL_DEMO\n\n"
    ++ "# Analytics backend base URL\n"
    ++ "backend_url = " ++ Text.quote c.backendUrl ++ "\n"
    ++ "# Value lookup timeout in seconds (0 disables the timeout)\n"
    ++ "request_timeout_secs = " ++ toString c.timeout ++ "\n"
    ++ dataSourceText c.dataSource
    ++ logText c.log

end Config

end ColumnMap
