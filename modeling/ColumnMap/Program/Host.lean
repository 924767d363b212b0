import ColumnMap.Console.Key
import ColumnMap.Config.Basic
import ColumnMap.Editor.Traffic
import ColumnMap.Lookup.Backend

/-!
What the program needs from the machine that it runs on. Everything that it does to the outside goes
through these operations, in any monad.
-/

namespace ColumnMap.Program

/-- Why a file could not be read. -/
inductive Unread where
  | missing
  | refused (reason : String)
  deriving DecidableEq, Repr

def Unread.reason : Unread → String
  | .missing => "No such file or directory (os error 2)"
  | .refused reason => reason

/-- How another program that was asked for ended. -/
inductive Launch where
  | done
  /-- It ended with a status other than success. -/
  | failed (status : String)
  | notStarted (reason : String)
  deriving DecidableEq, Repr

/-- A file of log lines, of which a new one is begun as the rotation says. -/
structure LogFile where
  folder : String
  name : String
  rotation : Rotation
  deriving DecidableEq, Repr

/-- What happens while the editor waits for a key. -/
inductive Occurrence where
  /-- The time is told. -/
  | tick (now : Nat)
  /-- A lookup runs for the first time and calls the source. -/
  | call (token : Token)
  /-- What the source answered reaches the lookup. -/
  | answer (token : Token)
  /-- A lookup looks whether it can finish, noticing or not that it was cancelled. -/
  | finish (token : Token) (notices : Bool)
  /-- The oldest message of a lookup reaches the program. -/
  | receive
  /-- The clipboard of the system can be used from now on, or not and why. -/
  | clipboard (fault : Option (List String))
  deriving DecidableEq, Repr

/-- Lookups run as soon as they can and what they report is received at once, but the source is
slow: no answer comes before the next key. -/
def Occurrence.promptly (t : Traffic) : List Occurrence :=
  t.tasks.flatMap (fun k => [.call k.token, .finish k.token true])
    ++ List.replicate (t.queue.length + t.tasks.length) .receive

structure Host (m : Type → Type) where
  /-- The value of an environment variable. -/
  valueOf : String → m (Option String)
  /-- The user's own folder. -/
  home? : m (Option String)
  read : String → m (Except Unread ByteArray)
  /-- Puts a text in place of all that a file holds; the reason, if that fails. -/
  write : String → String → m (Option String)
  isThere : String → m Bool
  /-- Makes a folder and those around it; the reason, if that fails. -/
  makeFolder : String → m (Option String)
  /-- The next line of the input, which may be empty; nothing if it is no text. -/
  readLine : m (Option String)
  print : String → m Unit
  printError : String → m Unit
  /-- Runs another program with one argument, and waits for it. -/
  launch : String → String → m Launch
  /-- Sends a request; nothing if the user interrupts it. -/
  request : Url → m (Option Lookup.Exchange)
  /-- The keys that are typed at the terminal, or why there is none. -/
  keys : m (Except String (List Console.Key))
  /-- What happens before the next key when so many were typed and the lookups stand like this. -/
  meanwhile : Nat → Traffic → List Occurrence := fun _ => Occurrence.promptly
  /-- Why the screen cannot be drawn any more when so many keys were typed, if so. -/
  screenFault : Nat → Option String := fun _ => none
  /-- Begins a log file, if it is not there. -/
  openLog : LogFile → m Unit
  /-- Adds a line to a log file. -/
  record : LogFile → Log.Line → m Unit
  /-- Shows a line of the log beside the output. -/
  tell : Log.Line → m Unit

end ColumnMap.Program
