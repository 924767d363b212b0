import ColumnMap.Json.Printer

/-!
A mapping: a column, the value chosen for it, and a note. Neither unique columns nor a value that
is not empty are asked for.
-/

namespace ColumnMap

structure Mapping where
  column : String
  value : String := ""
  auxiliaryInput : String := ""
  deriving DecidableEq, Repr, Inhabited

namespace Mapping

/-- One line for lists and logs; `∅` stands for an empty value, and the note is in brackets. -/
def summary (m : Mapping) : String :=
  let value := if m.value.isEmpty then "∅" else m.value
  m.column ++ " = " ++ value
    ++ (if m.auxiliaryInput.isEmpty then "" else "  [" ++ m.auxiliaryInput ++ "]")

def toJson (m : Mapping) : Json :=
  .object [("column", .string m.column), ("value", .string m.value),
    ("auxiliaryInput", .string m.auxiliaryInput)]

end Mapping

end ColumnMap
