/-!
Keys as a terminal reports them.
-/

namespace ColumnMap.Console

inductive KeyCode where
  | char (c : Char)
  | enter | escape | tab | backTab
  | up | down | left | right | home | endKey | pageUp | pageDown
  | backspace | delete | insert
  | function (number : Nat)
  | null
  /-- Any other key: a lock, a media key, a modifier by itself. -/
  | other
  deriving DecidableEq, Repr

inductive KeyKind where
  | press | again | release
  deriving DecidableEq, Repr

structure Key where
  code : KeyCode
  ctrl : Bool := false
  alt : Bool := false
  shift : Bool := false
  kind : KeyKind := .press
  deriving DecidableEq, Repr

/-- A press of a key without modifiers. -/
def Key.plain (code : KeyCode) : Key := { code }

end ColumnMap.Console
