import ColumnMap.CommandLine.Stop

/-!
The command line. Options may stand in any order, with their values after a blank or an equals sign;
what follows two dashes is no option. Without a command the options are those of `run`.
-/

namespace ColumnMap.CommandLine

/-- What `run` is told. -/
structure RunOptions where
  mappings : Option String := none
  output : Option String := none
  demo : Bool := false
  deriving DecidableEq, Repr

structure LookupOptions where
  column : String
  demo : Bool := false
  json : Bool := false
  deriving DecidableEq, Repr

structure ConfigOptions where
  showing : Bool := false
  reset : Bool := false
  edit : Bool := false
  path : Bool := false
  deriving DecidableEq, Repr

inductive Request where
  | run (options : RunOptions)
  | lookup (options : LookupOptions)
  | config (options : ConfigOptions)
  deriving DecidableEq, Repr

/-- A command line that was understood: the command, if there is one, and what was given in front
of it. -/
structure Invocation where
  request : Option Request
  options : RunOptions
  deriving DecidableEq, Repr

/-! ### Words in their order -/

/-- What has been read of a command's words. -/
structure State where
  given : List (Opt × String) := []
  /-- The last option with a value, if it is not among the given ones yet. -/
  waiting : Option (Opt × Option String) := none
  operand : Option String := none
  deriving DecidableEq, Repr

namespace State

/-- Whether the next word is the value of an option. -/
def isWaiting (s : State) : Bool := s.waiting.any (·.2.isNone)

/-- Whether anything has been given. -/
def isStarted (s : State) : Bool := !s.given.isEmpty || s.waiting.isSome || s.operand.isSome

def has (s : State) (o : Opt) : Bool := s.given.any (·.1 == o)

def valueOf? (s : State) (o : Opt) : Option String := (s.given.find? (·.1 == o)).map (·.2)

/-- Takes an option, which may be given once, and with no empty value. -/
def add (s : State) (o : Opt) (value : String) : Except Fault State :=
  if s.has o then .error (.repeated o)
  else if o.takesValue && value.isEmpty then .error (.missingValue o)
  else .ok { s with given := s.given ++ [(o, value)], waiting := none }

/-- Takes the option that waits. -/
def settle (s : State) : Except Fault State :=
  match s.waiting with
  | none => .ok s
  | some (o, none) => .error (.missingValue o)
  | some (o, some value) => s.add o value

/-- The options that a fault names, where one that cannot be taken is no matter. -/
def mentioned (s : State) : List Opt :=
  let given := s.given.map (·.1)
  match s.waiting with
  | some (o, some _) => if s.has o then given.filter (· != o) else given ++ [o]
  | _ => given

end State

/-- Two dashes, the name, and perhaps a value after an equals sign. -/
def asLong? (word : String) : Option (String × Option String) :=
  match word.toList with
  | '-' :: '-' :: r =>
    let mark := r.dropWhile (· != '=')
    some (String.ofList (r.takeWhile (· != '=')), mark.head?.map fun _ => String.ofList (mark.drop 1))
  | _ => none

/-- The letters after a single dash. -/
def asLetters? (word : String) : Option (List Char) :=
  match word.toList with
  | '-' :: c :: r => if c == '-' then none else some (c :: r)
  | _ => none

section

variable (c : Command)

def refuse {α : Type} (fault : Fault) : Except Stop α := .error (.refused c fault)

def settle (s : State) : Except Stop State := s.settle.mapError (.refused c)

/-- Does what an option is for. -/
def perform (s : State) (o : Opt) (attached : Option String) : Except Stop State :=
  match o.role, attached with
  | .value _, none => (settle c s).map fun s => { s with waiting := some (o, none) }
  | .value _, some value => (settle c s).bind fun s => (s.add o value).mapError (.refused c)
  | _, some value => refuse c (.unexpectedValue o value s.mentioned)
  | .switch, none => (settle c s).bind fun s => (s.add o "").mapError (.refused c)
  | .help, none => (settle c s).bind fun _ => .error (.help c)
  | .version, none => (settle c s).bind fun _ => .error .version

/-- Reads letters behind one dash. What follows the letter of an option with a value is the value,
in front of which an equals sign may stand. -/
def letters (s : State) : List Char → Except Stop State
  | [] => .ok s
  | l :: r =>
    match c.options.find? (·.letter == some l) with
    | none => refuse c (.unknownLetter l)
    | some o =>
      if o.takesValue then
        let value := if r.head? == some '=' then r.drop 1 else r
        perform c s o (if r.isEmpty then none else some (String.ofList value))
      else (perform c s o none).bind fun s => letters s r

/-- Why a word has no place where it stands. -/
def misplaced (isTrailing : Bool) (s : State) (word : String) : Fault :=
  if isTrailing && !s.isStarted && c.words.contains word then .needlessDashes word
  else if c.words.isEmpty then .strayWord word
  else if s.isStarted then .conflict word s.mentioned
  else .unknownCommand word (Text.similar word c.words)

/-- Takes a word that is no option. -/
def placeWord (isTrailing : Bool) (s : State) (word : String) : Except Stop State :=
  match s.waiting, isTrailing with
  | some (o, none), false => .ok { s with waiting := some (o, some word) }
  | _, _ =>
    if c.operand.isSome && s.operand.isNone then
      (settle c s).map fun s => { s with operand := some word }
    else refuse c (misplaced c isTrailing s word)

/-- Takes a word in front of which no two dashes stand. -/
def placeFree (s : State) (word : String) (rest : List String) : Except Stop State :=
  match asLong? word with
  | some (name, value) =>
    match c.options.find? (·.long == name) with
    | none => refuse c (.unknownOption name s.mentioned rest)
    | some o => perform c s o value
  | none =>
    match asLetters? word with
    | some l => letters c s l
    | none => placeWord c false s word

/-- Reads words until they end or one of them calls another command. -/
def scan (isTrailing : Bool) (s : State) :
    List String → Except Stop (State × Option (String × List String))
  | [] => .ok (s, none)
  | word :: rest =>
    if isTrailing then (placeWord c true s word).bind fun s => scan true s rest
    else if !s.isWaiting && !s.isStarted && c.words.contains word then .ok (s, some (word, rest))
    else if word = "--" then scan true s rest
    else (placeFree c s word rest).bind fun s => scan false s rest

/-- Ends the words of a command. -/
def finish (s : State) : Except Stop State :=
  (settle c s).bind fun s =>
    match c.operand, s.operand with
    | some o, none => refuse c (.missingOperand o (s.given.map (·.1)))
    | _, _ => .ok s

/-- Reads all words of a command that others cannot follow. -/
def scanAll (words : List String) : Except Stop State :=
  (scan c false {} words).bind fun (s, _) => finish c s

end

/-! ### Commands -/

def State.runOptions (s : State) : RunOptions where
  mappings := s.valueOf? mappingsOption
  output := s.valueOf? outputOption
  demo := s.has demoOption

def State.lookupOptions (s : State) : LookupOptions where
  column := s.operand.getD ""
  demo := s.has demoOption
  json := s.has jsonOption

def State.configOptions (s : State) : ConfigOptions where
  showing := s.has showOption
  reset := s.has resetOption
  edit := s.has editOption
  path := s.has pathOption

/-- The command whose help the words after `help` ask for. -/
def helpOn : List String → Stop
  | [] => .help program
  | word :: more =>
    match commands.lookup word, more with
    | none, _ => .refused program (.unknownCommand word [])
    | some c, [] => .help c
    | some c, next :: _ => .refused c (.unknownCommand next [])

/-- Reads the words after the one that calls a command. -/
def requestOf (word : String) (rest : List String) : Except Stop Request :=
  match word with
  | "run" => (scanAll runCommand rest).map fun s => .run s.runOptions
  | "lookup" => (scanAll lookupCommand rest).map fun s => .lookup s.lookupOptions
  | "config" => (scanAll configCommand rest).map fun s => .config s.configOptions
  | _ => .error (helpOn rest)

/-- Reads a command line, which does not hold the name of the program. Its words are texts; words
that are no UTF-8 are left out of consideration. -/
def parse (words : List String) : Except Stop Invocation :=
  (scan program false {} words).bind fun (s, call) =>
    match call with
    | some (word, rest) => (requestOf word rest).map fun r => ⟨some r, s.runOptions⟩
    | none => (finish program s).map fun s => ⟨none, s.runOptions⟩

/-- The request that a command line makes; `run` if it names no command. -/
def Invocation.effective (i : Invocation) : Request := i.request.getD (.run i.options)

end ColumnMap.CommandLine
