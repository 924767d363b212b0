import ColumnMap.CommandLine.Basic
import ColumnMap.Config.Environment
import ColumnMap.Config.File
import ColumnMap.Mapping.File
import ColumnMap.Program.Host

/-!
The configuration file: where it lies, how it is read when the program starts, and the command that
shows it, resets it and opens it in an editor. What returns a number ends the program with it.
-/

namespace ColumnMap.Program

variable {m : Type → Type} [Monad m] (host : Host m)

/-- The folder of the configuration file in the user's own folder. -/
def configFolder (home : String) : String := home ++ "/.config/mapctl"

def configPath (home : String) : String := configFolder home ++ "/config.toml"

def standardText : String := ({} : Config).toText

/-- Writes a file with the standard values if there is no file. That this fails is no matter. -/
def ensureConfig : m Unit := do
  if let some home ← host.home? then
    if !(← host.isThere (configPath home)) then
      if (← host.makeFolder (configFolder home)).isNone then
        let _ ← host.write (configPath home) standardText

def boxed (title : String) : String :=
  "\n╔══════════════════════════════════════════════════════════════╗\n"
    ++ "║  CONFIG ERROR - " ++ title ++ "║\n"
    ++ "╚══════════════════════════════════════════════════════════════╝\n\n"

def unreadableText (path reason : String) : String :=
  boxed "Cannot read configuration file              "
    ++ "  File: " ++ path ++ "\n\n"
    ++ "  Error: " ++ reason ++ "\n\n"

def unsoundText (path report : String) : String :=
  boxed "Failed to parse configuration file          "
    ++ "  File: " ++ path ++ "\n\n"
    ++ "  Error: " ++ report ++ "\n\n"
    ++ "  Tip: Check for:\n\n"
    ++ "    - Missing quotes around string values\n"
    ++ "    - Invalid boolean values (use true/false)\n"
    ++ "    - Malformed array syntax (columns = [\"a\", \"b\"])\n"
    ++ "    - Typos in section names\n\n"
    ++ "  To reset, run \x60mapctl config --reset\x60.\n\n"

/-- What the bytes of a configuration file say, or what is told about it instead. -/
def configOfBytes (path : String) (bytes : ByteArray) : Except String Config :=
  match String.fromUTF8? bytes with
  | none => .error (unreadableText path Mapping.notText)
  | some text => (Config.ofText text).mapError fun fault => unsoundText path (fault.report text)

/-- The values of the file, if there is one; otherwise the standard values. -/
def readConfig : m (Except String Config) := do
  match ← host.home? with
  | none => return .ok {}
  | some home =>
    let path := configPath home
    match ← host.read path with
    | .ok bytes => return configOfBytes path bytes
    | .error .missing => return .ok {}
    | .error (.refused reason) => return .error (unreadableText path reason)

def environment : m Environment := do
  let values ← Variable.all.mapM fun v => return (v.name, ← host.valueOf v.name)
  return .ofVariables fun name => (values.lookup name).join

/-- The configuration that holds; nothing, if the file is told to be unsound. -/
def loadConfig : m (Option Config) := do
  match ← readConfig host with
  | .ok config => return some ((← environment host).override config)
  | .error told =>
    host.printError told
    return none

/-! ### The command -/

def commandUsage : String :=
  "Usage: mapctl config [--show|--reset|--edit|--path]\n\nOptions:\n"
    ++ "  --show    Display effective configuration\n"
    ++ "  --reset   Reset config file to defaults\n"
    ++ "  --edit    Open config file in $EDITOR\n"
    ++ "  --path    Show config file path\n"

def fail (told : String) : m Nat := do
  host.printError (told ++ "\n")
  return 1

/-- Goes on with the place of the configuration file. -/
def withHome (next : String → m Nat) : m Nat := do
  match ← host.home? with
  | some home => next home
  | none => fail host "Error: Could not determine config path"

def showConfig : m Nat := do
  let some config ← loadConfig host | return 1
  host.print ("# Effective configuration (env > file > defaults)\n"
    ++ "# Runtime: tui = " ++ Config.boolText config.enableTui ++ ", demo = "
    ++ Config.boolText config.demoMode ++ "\n\n" ++ config.toText ++ "\n")
  if let some home ← host.home? then
    let path := configPath home
    host.print (if ← host.isThere path then "# Source: " ++ path ++ "\n"
      else "# Source: defaults (no config file)\n")
  return 0

/-- Whether an answer says yes. -/
def isYes (answer : String) : Bool :=
  let said := Text.trim answer.toList
  said == ['y'] || said == ['Y']

/-- Whether the file may be replaced, which the user is asked if there is one. -/
def mayReplace (path : String) : m Bool := do
  if !(← host.isThere path) then return true
  host.printError ("Config file exists at " ++ path ++ ". Overwrite? [y/N] ")
  return ((← host.readLine).map isYes).getD false

def resetConfig (home : String) : m Nat := do
  let path := configPath home
  if !(← mayReplace host path) then
    host.print "Aborted.\n"
    return 0
  if let some reason ← host.makeFolder (configFolder home) then
    return ← fail host ("Error creating directory: " ++ reason)
  if let some reason ← host.write path standardText then
    return ← fail host ("Error writing config: " ++ reason)
  host.print ("Config reset to defaults: " ++ path ++ "\n")
  return 0

/-- The program to edit files with. -/
def editorName : m String := do
  match ← host.valueOf "EDITOR" with
  | some name => return name
  | none => return (← host.valueOf "VISUAL").getD "nano"

def editConfig (home : String) : m Nat := do
  let path := configPath home
  if !(← host.isThere path) then
    ensureConfig host
    host.print ("Created new config file: " ++ path ++ "\n")
  let editor ← editorName host
  host.print ("Opening " ++ path ++ " with " ++ editor ++ "\n")
  match ← host.launch editor path with
  | .done => return 0
  | .failed status => fail host ("Editor exited with status: " ++ status)
  | .notStarted reason =>
    fail host ("Failed to launch editor '" ++ editor ++ "': " ++ reason
      ++ "\nSet $EDITOR environment variable to your preferred editor")

/-- The command `config`, of whose options one is heeded. -/
def configure (options : CommandLine.ConfigOptions) : m Nat := do
  if options.path then
    withHome host fun home => do
      host.print (configPath home ++ "\n")
      return 0
  else if options.showing then showConfig host
  else if options.reset then withHome host (resetConfig host)
  else if options.edit then withHome host (editConfig host)
  else
    host.print commandUsage
    return 0

end ColumnMap.Program
