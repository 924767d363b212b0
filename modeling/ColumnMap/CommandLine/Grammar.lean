/-!
What the command line of the program may hold: its commands and their options, and the help text
that lists them.
-/

namespace ColumnMap.CommandLine

/-- What an option is for. -/
inductive Role where
  | switch
  /-- Takes a value, which the help text calls by the given name. -/
  | value (name : String)
  | help
  | version
  deriving DecidableEq, Repr

structure Opt where
  long : String
  letter : Option Char := none
  role : Role := .switch
  about : String
  deriving DecidableEq, Repr

structure Operand where
  /-- The operand as the usage line shows it. -/
  text : String
  about : String
  deriving DecidableEq, Repr

structure Command where
  /-- All words that call the command. -/
  name : String
  about : String
  options : List Opt
  operand : Option Operand := none
  deriving DecidableEq, Repr

def Opt.takesValue (o : Opt) : Bool :=
  match o.role with
  | .value _ => true
  | _ => false

/-- The option as the usage line shows it. -/
def Opt.text (o : Opt) : String :=
  match o.role with
  | .value name => "--" ++ o.long ++ " <" ++ name ++ ">"
  | _ => "--" ++ o.long

def helpOption : Opt where
  long := "help"
  letter := some 'h'
  role := .help
  about := "Print help"

def versionOption : Opt where
  long := "version"
  letter := some 'V'
  role := .version
  about := "Print version"

def programName : String := "mapctl"
def version : String := "0.1.0"

def demoOption : Opt := { long := "demo", about := "Use the built-in demo data source" }

def mappingsOption : Opt :=
  { long := "mappings", role := .value "FILE", about := "JSON array of initial mappings" }

def outputOption : Opt where
  long := "output"
  letter := some 'o'
  role := .value "FILE"
  about := "Write the final mappings here instead of stdout"

def jsonOption : Opt :=
  { long := "json", about := "Print raw values as a JSON array instead of labels" }

def showOption : Opt := { long := "show", about := "Show effective configuration" }
def resetOption : Opt := { long := "reset", about := "Reset config file to defaults" }
def editOption : Opt := { long := "edit", about := "Open config file in $EDITOR" }
def pathOption : Opt := { long := "path", about := "Show config file path" }

def runOptions : List Opt := [mappingsOption, outputOption, demoOption]

/-- The program called without a command. -/
def program : Command where
  name := programName
  about := "Interactive column-to-value mapping editor"
  options := runOptions ++ [helpOption, versionOption]

def runCommand : Command where
  name := programName ++ " run"
  about := "Edit mappings in the TUI (default)"
  options := runOptions ++ [helpOption]

def lookupCommand : Command where
  name := programName ++ " lookup"
  about := "Fetch the distinct values of one column and print them"
  operand := some ⟨"<COLUMN>", "Column to look up"⟩
  options := [demoOption, jsonOption, helpOption]

def configCommand : Command where
  name := programName ++ " config"
  about := "Manage configuration"
  options := [showOption, resetOption, editOption, pathOption, helpOption]

def helpCommand : Command where
  name := programName ++ " help"
  about := "Print this message or the help of the given subcommand(s)"
  operand := some ⟨"[COMMAND]...", "Print help for the subcommand(s)"⟩
  options := []

/-- The commands by the word that calls them. -/
def commands : List (String × Command) :=
  [("run", runCommand), ("lookup", lookupCommand), ("config", configCommand), ("help", helpCommand)]

/-- The words that may stand for a command after those that called this one. -/
def Command.words (c : Command) : List String := if c = program then commands.map (·.1) else []

/-! ### Help -/

/-- Whether there are options other than those that every command has. -/
def Command.hasOptions (c : Command) : Bool :=
  c.options.any fun o => o.role != .help && o.role != .version

/-- How the command is called. -/
def Command.usage (c : Command) : String :=
  "Usage: " ++ c.name ++ (if c.hasOptions then " [OPTIONS]" else "")
    ++ (match c.operand with
      | some o => " " ++ o.text
      | none => "")
    ++ (if c.words.isEmpty then "" else "\n       " ++ c.name ++ " <COMMAND>")

/-- How the command is called with these options. -/
def Command.usageWith (c : Command) (given : List Opt) : String :=
  " ".intercalate (("Usage: " ++ c.name) :: given.map Opt.text ++ c.operand.toList.map Operand.text)

def Opt.row (o : Opt) : String × String :=
  ((match o.letter with
    | some c => String.ofList ['-', c, ',', ' ']
    | none => "    ") ++ o.text, o.about)

/-- A titled table of two columns; nothing if it has no rows. -/
def table (title : String) (rows : List (String × String)) : String :=
  if rows.isEmpty then ""
  else
    let width := (rows.map (·.1.length)).foldl max 0
    "\n" ++ title ++ ":\n" ++ String.join (rows.map fun (left, right) =>
      "  " ++ left ++ String.ofList (List.replicate (width - left.length) ' ') ++ "  " ++ right ++ "\n")

def Command.help (c : Command) : String :=
  c.about ++ "\n\n" ++ c.usage ++ "\n"
    ++ table "Commands" (c.words.filterMap fun w => (commands.lookup w).map fun s => (w, s.about))
    ++ table "Arguments" (c.operand.toList.map fun o => (o.text, o.about))
    ++ table "Options" (c.options.map Opt.row)

def versionText : String := programName ++ " " ++ version ++ "\n"

end ColumnMap.CommandLine
