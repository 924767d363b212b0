import ColumnMap.Json.Printer
import ColumnMap.Json.Record

/-!
Values of a column as the backend knows them, and the labels that stand for them in a list.
-/

namespace ColumnMap

/-- A distinct value of a column. -/
inductive Value where
  | null
  | bool (b : Bool)
  | number (n : Number)
  | text (s : String)
  deriving DecidableEq, Repr

namespace Value

/-- What a list shows for the value. -/
def label : Value → String
  | .null => "<NULL>"
  | .bool true => "TRUE"
  | .bool false => "FALSE"
  | .number n => n.text
  | .text s => if s.isEmpty then "<empty string>" else s

/-- What a mapping stores for the value; the missing value has no text of its own. -/
def stored : Value → String
  | .null => ""
  | .bool b => if b then "true" else "false"
  | .number n => n.text
  | .text s => s

/-- Equal as values; see `Number.same`. -/
def same : Value → Value → Bool
  | .null, .null => true
  | .bool a, .bool b => a == b
  | .number a, .number b => a.same b
  | .text a, .text b => a == b
  | _, _ => false

def toJson : Value → Json
  | .null => .null
  | .bool b => .bool b
  | .number n => .number n
  | .text s => .string s

/-- The value that a JSON value writes; lists and objects write none. -/
def ofJson? : Json → Option Value
  | .null => some .null
  | .bool b => some (.bool b)
  | .number n => some (.number n)
  | .string s => some (.text s)
  | .array _ => none
  | .object _ => none

/-- The name of the kind in messages. -/
def typeName : String := "SuggestionValue"

def ofJson (v : Json) : Except Json.Cause Value :=
  match ofJson? v with
  | some x => .ok x
  | none => .error (.noVariant typeName)

/-- Reads a value; lists and objects, which are refused, may nest `depth` deep. -/
def reader (depth : Nat) : Json.Reader Value := (Json.Reader.any depth).accept ofJson

/-- Reads a list of values that is the `level`-th list or object around its items. -/
def listReader (level : Nat) : Json.Reader (List Value) :=
  .list (Json.maxDepth - level) (reader (Json.maxDepth - level - 1))

/-- The values of a text that holds a list of them. -/
def listOfText (text : String) : Except Json.Fault (List Value) :=
  (listReader 0).decode text.toUTF8.toList

def listToJson (values : List Value) : Json := .array (values.map toJson)

end Value

/-- A value on offer, with its label. -/
structure Suggestion where
  value : Value
  label : String
  deriving DecidableEq, Repr

namespace Suggestion

def ofValue (v : Value) : Suggestion := ⟨v, v.label⟩

def toJson (s : Suggestion) : Json := .object [("value", s.value.toJson), ("label", .string s.label)]

end Suggestion

end ColumnMap
