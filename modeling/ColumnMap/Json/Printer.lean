import ColumnMap.Json.Basic

/-!
JSON text of a value: compact, or with every item on a line of its own and two spaces for each
level. Quotes, backslashes and controls are written as escapes, every other character as itself.
-/

namespace ColumnMap.Json

def hexDigit (n : Nat) : Char :=
  if n < 10 then Char.ofNat (48 + n) else Char.ofNat (87 + n)

/-- A character as it stands inside a JSON string. -/
def escapeChar (c : Char) : List Char :=
  if c = '"' then ['\\', '"']
  else if c = '\\' then ['\\', '\\']
  else if c = '\x08' then ['\\', 'b']
  else if c = '\x0c' then ['\\', 'f']
  else if c = '\n' then ['\\', 'n']
  else if c = '\r' then ['\\', 'r']
  else if c = '\t' then ['\\', 't']
  else if c.toNat < 0x20 then ['\\', 'u', '0', '0', hexDigit (c.toNat / 16), hexDigit (c.toNat % 16)]
  else [c]

def stringChars (s : String) : List Char := '"' :: s.toList.flatMap escapeChar ++ ['"']

def boolChars (b : Bool) : List Char := if b then "true".toList else "false".toList

/-- Text of a value that has no parts; an array or object is left to its caller. -/
def scalarChars : Json → List Char
  | .null => "null".toList
  | .bool b => boolChars b
  | .number n => n.text.toList
  | .string s => stringChars s
  | .array _ => []
  | .object _ => []

mutual

def compactChars : Json → List Char
  | .array items => '[' :: compactItems items ++ [']']
  | .object fields => '\x7b' :: compactFields fields ++ ['\x7d']
  | v => scalarChars v

def compactItems : List Json → List Char
  | [] => []
  | [v] => compactChars v
  | v :: rest => compactChars v ++ ',' :: compactItems rest

def compactFields : List (String × Json) → List Char
  | [] => []
  | [(k, v)] => stringChars k ++ ':' :: compactChars v
  | (k, v) :: rest => stringChars k ++ ':' :: compactChars v ++ ',' :: compactFields rest

end

/-- A new line at a level of nesting. -/
def indent (level : Nat) : List Char := '\n' :: List.replicate (2 * level) ' '

mutual

def prettyChars (level : Nat) : Json → List Char
  | .array [] => ['[', ']']
  | .array items => '[' :: prettyItems (level + 1) items ++ indent level ++ [']']
  | .object [] => ['\x7b', '\x7d']
  | .object fields => '\x7b' :: prettyFields (level + 1) fields ++ indent level ++ ['\x7d']
  | v => scalarChars v

def prettyItems (level : Nat) : List Json → List Char
  | [] => []
  | [v] => indent level ++ prettyChars level v
  | v :: rest => indent level ++ prettyChars level v ++ ',' :: prettyItems level rest

def prettyFields (level : Nat) : List (String × Json) → List Char
  | [] => []
  | [(k, v)] => indent level ++ stringChars k ++ ':' :: ' ' :: prettyChars level v
  | (k, v) :: rest =>
    indent level ++ stringChars k ++ ':' :: ' ' :: prettyChars level v ++ ',' :: prettyFields level rest

end

def compact (v : Json) : String := String.ofList (compactChars v)
def pretty (v : Json) : String := String.ofList (prettyChars 0 v)

end ColumnMap.Json
