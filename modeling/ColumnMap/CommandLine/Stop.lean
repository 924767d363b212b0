import ColumnMap.CommandLine.Grammar
import ColumnMap.Text.Similarity

/-!
Command lines after which the program does nothing but print: those that ask for help or for the
version, and those that are wrong.
-/

namespace ColumnMap.CommandLine

/-- What is wrong with a command line. -/
inductive Fault where
  | missingValue (option : Opt)
  | repeated (option : Opt)
  | unexpectedValue (option : Opt) (value : String) (given : List Opt)
  /-- An option of this name is not known; other options were given, and these words follow. -/
  | unknownOption (name : String) (given : List Opt) (rest : List String)
  | unknownLetter (letter : Char)
  /-- There is no such command, though perhaps some of similar names. -/
  | unknownCommand (word : String) (similar : List String)
  /-- A command after two dashes, which make it an operand. -/
  | needlessDashes (word : String)
  /-- A word that would be a command if no options had been given in front of it. -/
  | conflict (word : String) (given : List Opt)
  | strayWord (word : String)
  | missingOperand (operand : Operand) (given : List Opt)
  deriving DecidableEq, Repr

/-- Why a command line leads to no action. -/
inductive Stop where
  | help (command : Command)
  | version
  | refused (command : Command) (fault : Fault)
  deriving DecidableEq, Repr

namespace Fault

def message : Fault → String
  | .missingValue o => "a value is required for '" ++ o.text ++ "' but none was supplied"
  | .repeated o => "the argument '" ++ o.text ++ "' cannot be used multiple times"
  | .unexpectedValue o value _ =>
    "unexpected value '" ++ value ++ "' for '" ++ o.text ++ "' found; no more were expected"
  | .unknownOption name _ _ => "unexpected argument '--" ++ name ++ "' found"
  | .unknownLetter c => "unexpected argument '-" ++ c.toString ++ "' found"
  | .unknownCommand word _ => "unrecognized subcommand '" ++ word ++ "'"
  | .needlessDashes word | .strayWord word => "unexpected argument '" ++ word ++ "' found"
  | .conflict word given =>
    "the subcommand '" ++ word ++ "' cannot be used with" ++
      match given with
      | [] => " one or more of the other specified arguments"
      | [o] => " '" ++ o.text ++ "'"
      | _ => ":" ++ String.join (given.map fun o => "\n  " ++ o.text)
  | .missingOperand o _ => "the following required arguments were not provided:\n  " ++ o.text

/-- The option of a command whose name is nearest to an unknown one. -/
def nearest? (name : String) (c : Command) : Option Opt :=
  (Text.similar name (c.options.map (·.long))).getLast?.bind fun n =>
    c.options.find? (·.long == n)

/-- The command among the words that follow, the first of them, that has an option of such a name. -/
def nearestBelow? (name : String) (c : Command) (rest : List String) : Option (String × Opt) :=
  (rest.filter c.words.contains).findSome? fun w =>
    (commands.lookup w).bind fun s => (nearest? name s).map fun o => (w, o)

/-- A word that could be meant as the operand. -/
def asOperand (word : String) : String := "to pass '" ++ word ++ "' as a value, use '-- " ++ word ++ "'"

/-- What could have been meant. -/
def tip? (c : Command) : Fault → Option String
  | .unknownOption name _ rest =>
    match nearest? name c with
    | some o => some ("a similar argument exists: '--" ++ o.long ++ "'")
    | none =>
      match nearestBelow? name c rest with
      | some (w, o) => some ("'" ++ w ++ " --" ++ o.long ++ "' exists")
      | none => c.operand.map fun _ => asOperand ("--" ++ name)
  | .unknownLetter letter => c.operand.map fun _ => asOperand ("-" ++ letter.toString)
  | .unknownCommand _ [] => none
  | .unknownCommand _ similar =>
    let names := ", ".intercalate (similar.map fun s => "'" ++ s ++ "'")
    some ((if similar.length = 1 then "a similar subcommand exists: "
      else "some similar subcommands exist: ") ++ names)
  | .needlessDashes word =>
    some ("subcommand '" ++ word ++ "' exists; to use it, remove the '--' before it")
  | _ => none

def usageWithOptions (c : Command) (given : List Opt) : String :=
  if given.isEmpty then c.usage else c.usageWith given

/-- The usage that is shown, if one is. -/
def usage? (c : Command) : Fault → Option String
  | .missingValue _ => none
  | .unknownOption name given _ => some (usageWithOptions c (given ++ (nearest? name c).toList))
  | .unexpectedValue o _ given => some (c.usageWith (given ++ [o]))
  | .missingOperand _ given => some (c.usageWith given)
  | _ => some c.usage

end Fault

namespace Stop

/-- What is printed. -/
def text : Stop → String
  | .help c => c.help
  | .version => versionText
  | .refused c fault =>
    "error: " ++ fault.message
      ++ (match fault.tip? c with
        | some tip => "\n\n  tip: " ++ tip
        | none => "")
      ++ (match fault.usage? c with
        | some usage => "\n\n" ++ usage
        | none => "")
      ++ (if c.options.isEmpty then "\n" else "\n\nFor more information, try '--help'.\n")

/-- Whether the text is an error. -/
def isError : Stop → Bool
  | .refused _ _ => true
  | _ => false

def exitCode (s : Stop) : Nat := if s.isError then 2 else 0

end Stop

end ColumnMap.CommandLine
