import ColumnMap.Config.Basic

/-!
Environment variables that override the configuration. A number that cannot be read is passed over.
-/

namespace ColumnMap

/-- The variables that the program heeds. -/
inductive Variable where
  | backendUrl | timeout | dataSourceId | noTui | demo
  deriving DecidableEq, Repr

namespace Variable

def name : Variable → String
  | .backendUrl => "MAPCTL_BACKEND_URL"
  | .timeout => "MAPCTL_TIMEOUT_SECS"
  | .dataSourceId => "MAPCTL_DATASOURCE_ID"
  | .noTui => "MAPCTL_NO_TUI"
  | .demo => "MAPCTL_DEMO"

def all : List Variable := [.backendUrl, .timeout, .dataSourceId, .noTui, .demo]

end Variable

/-- The variables that are set. -/
structure Environment where
  backendUrl : Option String := none
  timeout : Option String := none
  dataSourceId : Option String := none
  noTui : Option String := none
  demo : Option String := none
  deriving DecidableEq, Repr

namespace Environment

/-- The variables of a process, of which `get` gives the value. -/
def ofVariables (get : String → Option String) : Environment where
  backendUrl := get Variable.backendUrl.name
  timeout := get Variable.timeout.name
  dataSourceId := get Variable.dataSourceId.name
  noTui := get Variable.noTui.name
  demo := get Variable.demo.name

/-- Whether a switch is on. -/
def isTruthy (s : String) : Bool := s == "1" || Text.asciiLower s == "true"

/-- The value of decimal digits, of which there is one at least. -/
def digitsValue? (digits : List Char) : Option Nat :=
  if digits.isEmpty || !digits.all Char.isDigit then none
  else some (digits.foldl (fun n c => 10 * n + (c.toNat - 48)) 0)

/-- A number of 64 bits; there may be a plus sign in front of the digits. -/
def number? (s : String) : Option UInt64 :=
  let digits := match s.toList with
    | '+' :: r => r
    | l => l
  match digitsValue? digits with
  | some n => if n < UInt64.size then some (UInt64.ofNat n) else none
  | none => none

/-- The configuration with the variables in place of its own values. The two switches stand in no
file. -/
def override (e : Environment) (c : Config) : Config where
  backendUrl := e.backendUrl.getD c.backendUrl
  timeout := (e.timeout.bind number?).getD c.timeout
  enableTui := (e.noTui.map (!isTruthy ·)).getD true
  demoMode := (e.demo.map isTruthy).getD false
  dataSource := { c.dataSource with id := (e.dataSourceId.bind number?).getD c.dataSource.id }
  log := c.log

end Environment

end ColumnMap
