import ColumnMap.Json.Basic
import ColumnMap.Text.Quoted

/-!
What can be wrong with a JSON text, and where. A place is given by the part of the input that was
not yet read, and is counted in lines and in bytes within the line.
-/

namespace ColumnMap.Json

/-- What stands in the text where something else was wanted. -/
inductive Found where
  | null
  | bool (b : Bool)
  | number (n : Number)
  | string (s : String)
  | array
  | object
  deriving DecidableEq, Repr

inductive Cause where
  | endInArray | endInObject | endInString | endInValue
  | noColon | noCommaInArray | noCommaInObject | noWord | noValue
  | badEscape | badNumber | numberOutOfRange | loneSurrogate | unfinishedPair
  | controlCharacter | keyNotString | trailingComma | trailingCharacters | tooDeep
  | wrongKind (found : Found) (wanted : String)
  | wrongLength (length : Nat) (wanted : String)
  | missingField (name : String)
  | repeatedField (name : String)
  | noVariant (type : String)
  | invalidUtf8
  deriving DecidableEq, Repr

def Found.text : Found → String
  | .null => "null"
  | .bool b => s!"boolean `{b}`"
  | .number (.int n) => "integer `" ++ (Number.int n).text ++ "`"
  | .number (.double d) => "floating point `" ++ (Number.double d).text ++ "`"
  | .string s => "string " ++ Text.quote s
  | .array => "sequence"
  | .object => "map"

def Cause.text : Cause → String
  | .endInArray => "EOF while parsing a list"
  | .endInObject => "EOF while parsing an object"
  | .endInString => "EOF while parsing a string"
  | .endInValue => "EOF while parsing a value"
  | .noColon => "expected `:`"
  | .noCommaInArray => "expected `,` or `]`"
  | .noCommaInObject => "expected `,` or `\x7d`"
  | .noWord => "expected ident"
  | .noValue => "expected value"
  | .badEscape => "invalid escape"
  | .badNumber => "invalid number"
  | .numberOutOfRange => "number out of range"
  | .loneSurrogate => "lone leading surrogate in hex escape"
  | .unfinishedPair => "unexpected end of hex escape"
  | .controlCharacter => "control character (\\u0000-\\u001F) found while parsing a string"
  | .keyNotString => "key must be a string"
  | .trailingComma => "trailing comma"
  | .trailingCharacters => "trailing characters"
  | .tooDeep => "recursion limit exceeded"
  | .wrongKind found wanted => "invalid type: " ++ found.text ++ ", expected " ++ wanted
  | .wrongLength n wanted => "invalid length " ++ toString n ++ ", expected " ++ wanted
  | .missingField name => "missing field `" ++ name ++ "`"
  | .repeatedField name => "duplicate field `" ++ name ++ "`"
  | .noVariant type => "data did not match any variant of untagged enum " ++ type
  | .invalidUtf8 => "invalid unicode code point"

/-- The bytes of a text in UTF-8. -/
abbrev Bytes := List UInt8

/-- A fault with its place: `rest` had not been read but for its first `ahead` bytes. A fault that
no single token shows is `pending` until the list or object around it has been left. -/
structure Fault where
  cause : Cause
  rest : Bytes
  ahead : Nat := 0
  pending : Bool := false
  deriving DecidableEq, Repr

/-- A place in a text: the line, counted from 1, and the bytes of it that come before. -/
structure Place where
  line : Nat
  column : Nat
  deriving DecidableEq, Repr

/-- The place after the given bytes. -/
def Place.after (read : Bytes) : Place :=
  read.foldl (fun p b => if b = 0x0A then ⟨p.line + 1, 0⟩ else ⟨p.line, p.column + 1⟩) ⟨1, 0⟩

def Fault.place (f : Fault) (input : Bytes) : Place :=
  .after (input.take (input.length - f.rest.length + f.ahead))

def Fault.message (f : Fault) (input : Bytes) : String :=
  let p := f.place input
  f.cause.text ++ " at line " ++ toString p.line ++ " column " ++ toString p.column

end ColumnMap.Json
