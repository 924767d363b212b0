/-!
Failures as they are told to the user: what could not be done, and why.
-/

namespace ColumnMap

structure Trouble where
  /-- What could not be done. -/
  message : String
  /-- Why, the nearest reason first. -/
  causes : List String := []
  deriving DecidableEq, Repr

namespace Trouble

/-- Everything on one line. -/
def line (t : Trouble) : String := String.intercalate ": " (t.message :: t.causes)

/-- Puts what could not be done in front of a reason. -/
def context (message : String) (t : Trouble) : Trouble := ⟨message, t.message :: t.causes⟩

/-- A reason on lines of its own; the reasons are numbered if there are several. -/
def causeText (several : Bool) (index : Nat) (cause : String) : String :=
  let (first, other) := if several then ("    " ++ toString index ++ ": ", "       ") else ("    ", "    ")
  "\n" ++ first ++ ("\n" ++ other).intercalate (cause.splitOn "\n")

/-- What could not be done, and below it why. -/
def detail (t : Trouble) : String :=
  t.message ++ (if t.causes.isEmpty then "" else "\n\nCaused by:")
    ++ String.join (t.causes.zipIdx.map fun (cause, i) => causeText (1 < t.causes.length) i cause)

/-- The report with which the program ends. -/
def report (t : Trouble) : String := "Error: " ++ t.detail ++ "\n"

end Trouble

end ColumnMap
