import ColumnMap.Program.Basic

/-!
The program as a command. It opens no connections and drives no terminal, so lookups at a backend
fail and editing ends with the mappings as they were; log lines carry no time.
-/

namespace ColumnMap.Program

/-- The number and the words of a refusal by the system. -/
def refusalOf : IO.Error → Option (UInt32 × String)
  | .alreadyExists _ n words | .otherError n words | .resourceBusy n words
  | .resourceVanished n words | .unsupportedOperation n words | .hardwareFault n words
  | .unsatisfiedConstraints n words | .illegalOperation n words | .protocolError n words
  | .timeExpired n words | .interrupted _ n words | .noFileOrDirectory _ n words
  | .invalidArgument _ n words | .permissionDenied _ n words | .resourceExhausted _ n words
  | .inappropriateType _ n words | .noSuchThing _ n words => some (n, words)
  | .unexpectedEof | .userError _ => none

/-- Why the system refused. The number may come with its sign changed. -/
def reasonOf (e : IO.Error) : String :=
  match refusalOf e with
  | some (n, words) =>
    let number := if n.toNat < Nat.pow 2 31 then n.toNat else UInt32.size - n.toNat
    words.capitalize ++ " (os error " ++ toString number ++ ")"
  | none => toString e

def unreadOf (e : IO.Error) : Unread :=
  match e with
  | .noFileOrDirectory _ _ _ => .missing
  | _ => .refused (reasonOf e)

/-- The reason, if an action fails. -/
def attempt (action : IO Unit) : IO (Option String) := do
  try
    action
    return none
  catch e => return some (reasonOf e)

def logPath (file : LogFile) : String :=
  if file.folder.isEmpty then file.name else file.folder ++ "/" ++ file.name

def logText (line : Log.Line) : String :=
  (Json.object [("level", .string line.level.text),
    ("fields", .object [("message", .string line.message)]),
    ("target", .string line.target)]).compact ++ "\n"

/-- Adds a text at the end of a file, which is made if it is missing. -/
def append (path text : String) : IO Unit := do
  let handle ← IO.FS.Handle.mk path .append
  handle.putStr text

/-- The machine that the command runs on. -/
def machine : Host IO where
  valueOf name := IO.getEnv name
  home? := return (← IO.getEnv "HOME").filter (!·.isEmpty)
  read path := do
    try return .ok (← IO.FS.readBinFile path)
    catch e => return .error (unreadOf e)
  write path text := attempt (IO.FS.writeFile path text)
  isThere path := do
    try
      let _ ← IO.FS.realPath path
      return true
    catch _ => return false
  makeFolder path := attempt (unless path.isEmpty do IO.FS.createDirAll path)
  readLine := do
    try return some (← (← IO.getStdin).getLine)
    catch _ => return none
  print text := do
    let out ← IO.getStdout
    out.putStr text
    out.flush
  printError text := do (← IO.getStderr).putStr text
  launch _ _ := return .notStarted "Operation not supported (os error 95)"
  request url := return some (Lookup.Backend.unreachable url)
  keys := return .error "No such device or address (os error 6)"
  openLog file := do let _ ← attempt (append (logPath file) "")
  record file line := do let _ ← attempt (append (logPath file) (logText line))
  tell line := do (← IO.getStderr).putStr (line.text ++ "\n")

end ColumnMap.Program

/-- Runs the program with the words of its command line. -/
def main (words : List String) : IO UInt32 :=
  return UInt32.ofNat (← ColumnMap.Program.run ColumnMap.Program.machine words)
