import ColumnMap.Program.Configuration
import ColumnMap.Program.Editing

/-!
The program from its command line to the number that it ends with.
-/

namespace ColumnMap.Program

variable {m : Type → Type} [Monad m] (host : Host m)

/-- Ends a command. -/
def conclude : Except Trouble Unit → m Nat
  | .ok () => return 0
  | .error trouble => do
    host.printError trouble.report
    return 1

/-- Runs a command that needs the configuration and a log. The first time, a configuration file is
written for the user to find. -/
def withConfig (isTold : Config → Bool) (command : Logger → Config → m (Except Trouble Unit)) :
    m Nat := do
  ensureConfig host
  match ← loadConfig host with
  | none => return 1
  | some config =>
    let logger ← startLog host config (isTold config)
    conclude host (← command logger config)

def perform : CommandLine.Request → m Nat
  | .config options => configure host options
  | .lookup options =>
    withConfig host (fun _ => true) fun logger config => lookupCommand host logger config options
  | .run options =>
    withConfig host (!·.enableTui) fun logger config => runCommand host logger config options

/-- Runs the program with the words of its command line, without its own name. -/
def run (words : List String) : m Nat := do
  match CommandLine.parse words with
  | .ok invocation => perform host invocation.effective
  | .error stop =>
    if stop.isError then host.printError stop.text else host.print stop.text
    return stop.exitCode

end ColumnMap.Program
