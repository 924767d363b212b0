import ColumnMap.Decimal.Nearest

/-!
TOML documents as trees, and what can be wrong with a text. Places in a text are given by the number
of characters that are left from there on.
-/

namespace ColumnMap.Toml

/-- A stretch of a text: how many characters are left where it begins and where it ends. -/
structure Span where
  start : Nat
  stop : Nat
  deriving DecidableEq, Repr

inductive Scalar where
  | string (s : String)
  | integer (n : Int)
  | float (d : Decimal.Double)
  | bool (b : Bool)
  | dateTime
  deriving DecidableEq, Repr

/-- How a table came to be. -/
inductive TableKind where
  /-- It has a header of its own. -/
  | headed
  /-- The header of a table inside it names it. -/
  | implied
  /-- A dotted key names it. -/
  | dotted
  /-- It is written between braces. -/
  | inline
  deriving DecidableEq, Repr

/-- Whether only keys of its contents have named the table so far. -/
def TableKind.isImplicit : TableKind → Bool
  | .implied | .dotted => true
  | .headed | .inline => false

/-- A value with its place in the text. The fields of a table are in the order in which they were
named first. -/
inductive Tree where
  | scalar (span : Span) (value : Scalar)
  | array (span : Span) (items : List Tree)
  | table (span : Span) (kind : TableKind) (fields : List (String × Tree))
  /-- A list of tables that have headers in double brackets. -/
  | tables (span : Span) (items : List Tree)
  deriving Repr

abbrev Fields := List (String × Tree)

def Tree.span : Tree → Span
  | .scalar span _ | .array span _ | .table span _ _ | .tables span _ => span

/-- What a text was being read as, what could have stood in a place, and why it is refused. -/
structure Fault where
  label : Option String := none
  expected : List String := []
  reason : Option String := none
  span : Span
  deriving DecidableEq, Repr

def Fault.message (f : Fault) : String :=
  let label := match f.label with
    | some l => ["invalid " ++ l]
    | none => []
  let expected := if f.expected.isEmpty then []
    else ["expected " ++ String.intercalate ", " f.expected]
  String.intercalate "\n" (label ++ expected ++ f.reason.toList)

/-- A message under the line that it is about, with the stretch marked. -/
def diagram (text : List Char) (span : Span) (message : String) : String :=
  let offset := text.length - span.start
  let before := text.take offset
  let row := (before.filter (· == '\n')).length
  let column := (before.reverse.takeWhile (· != '\n')).length
  let line := (before.reverse.takeWhile (· != '\n')).reverse
    ++ (text.drop offset).takeWhile (· != '\n')
  let width := max 1 (min (span.start - span.stop) (line.length - column))
  let number := toString (row + 1)
  let margin := String.ofList (List.replicate (number.length + 1) ' ')
  "TOML parse error at line " ++ number ++ ", column " ++ toString (column + 1) ++ "\n"
    ++ margin ++ "|\n" ++ number ++ " | " ++ String.ofList line ++ "\n"
    ++ margin ++ "|" ++ String.ofList (List.replicate (column + 1) ' ')
    ++ String.ofList (List.replicate width '^') ++ "\n" ++ message ++ "\n"

end ColumnMap.Toml
