import ColumnMap.Toml.Basic

/-!
The small parts of a TOML text: blanks, comments, line ends, strings and keys.
-/

namespace ColumnMap.Toml

abbrev Input := List Char
abbrev Scan (α : Type) := Except Fault (α × Input)

/-- The place of the next character. -/
def Span.at (s : Input) : Span := ⟨s.length, s.length - 1⟩

def fail {α : Type} (s : Input) (label : Option String) (expected : List String := []) : Scan α :=
  .error { label, expected, span := .at s }

/-- Refuses what was read from `s` on. -/
def refuse {α : Type} (s : Input) (label : Option String) (reason : String) : Except Fault α :=
  .error { label, reason := some reason, span := .at s }

/-! ### Blanks -/

def isBlank (c : Char) : Bool := c = ' ' || c = '\t'

def skipBlanks (s : Input) : Input := s.dropWhile isBlank

/-- Characters of comments: all but the controls, of which the tab is allowed. -/
def isCommentChar (c : Char) : Bool := c = '\t' || (' ' ≤ c && c ≠ '\x7f')

/-- What follows a line end. -/
def newline? : Input → Option Input
  | '\n' :: r => some r
  | '\r' :: '\n' :: r => some r
  | _ => none

def skipComment : Input → Input
  | '#' :: r => r.dropWhile isCommentChar
  | s => s

/-- Reads up to the end of the line, where only a comment may stand. -/
def endLine (s : Input) : Scan Unit :=
  let r := skipComment (skipBlanks s)
  match newline? r with
  | some t => .ok ((), t)
  | none => if r.isEmpty then .ok ((), []) else fail r none ["newline", "`#`"]

/-- Skips blanks, comments and line ends inside an array. -/
def skipLines : Nat → Input → Except Fault Input
  | 0, s => .ok s
  | fuel + 1, s =>
    let r := skipBlanks s
    match r.head? with
    | some '#' =>
      match newline? (skipComment r) with
      | some t => skipLines fuel t
      | none => .error { span := .at (skipComment r) }
    | _ =>
      match newline? r with
      | some t => skipLines fuel t
      | none => .ok r

/-! ### Strings -/

def hexValue? (c : Char) : Option Nat :=
  if '0' ≤ c && c ≤ '9' then some (c.toNat - 48)
  else if 'a' ≤ c && c ≤ 'f' then some (c.toNat - 87)
  else if 'A' ≤ c && c ≤ 'F' then some (c.toNat - 55)
  else none

/-- The character with the number that the hexadecimal digits write. -/
def hexChar? (digits : List Char) : Option Char :=
  match digits.mapM hexValue? with
  | none => none
  | some values =>
    let n := values.foldl (fun n d => 16 * n + d) 0
    if n.isValidChar then some (Char.ofNat n) else none

/-- Characters that stand for themselves in a string between double quotes. -/
def isBasicChar (c : Char) : Bool := isCommentChar c && c ≠ '"' && c ≠ '\\'

/-- Characters that stand for themselves in a string between single quotes. -/
def isLiteralChar (c : Char) : Bool := isCommentChar c && c ≠ '\''

/-- Reads a character by its number, in `count` hexadecimal digits. -/
def codeEscape (count : Nat) (s : Input) : Scan Char :=
  match hexChar? (s.take count) with
  | some c =>
    if (s.take count).length = count then .ok (c, s.drop count)
    else fail s (some ("unicode " ++ toString count ++ "-digit hex code"))
  | none => fail s (some ("unicode " ++ toString count ++ "-digit hex code"))

/-- Reads what follows a backslash. -/
def escape : Input → Scan Char
  | 'b' :: r => .ok ('\x08', r)
  | 'f' :: r => .ok ('\x0c', r)
  | 'n' :: r => .ok ('\n', r)
  | 'r' :: r => .ok ('\r', r)
  | 't' :: r => .ok ('\t', r)
  | '\\' :: r => .ok ('\\', r)
  | '"' :: r => .ok ('"', r)
  | 'u' :: r => codeEscape 4 r
  | 'U' :: r => codeEscape 8 r
  | s => fail s.tail (some "escape sequence")
      ["`b`", "`f`", "`n`", "`r`", "`t`", "`u`", "`U`", "`\\`", "`\"`"]

/-- Reads the rest of a string between double quotes. -/
def basicRest : Nat → List Char → Input → Scan String
  | 0, _, s => fail s (some "basic string")
  | _ + 1, _, [] => fail [] (some "basic string")
  | _ + 1, read, '"' :: r => .ok (String.ofList read.reverse, r)
  | fuel + 1, read, '\\' :: r =>
    match escape r with
    | .error e => .error e
    | .ok (c, t) => basicRest fuel (c :: read) t
  | fuel + 1, read, c :: r =>
    if isBasicChar c then basicRest fuel (c :: read) r else fail (c :: r) (some "basic string")

/-- Reads the rest of a string between single quotes. -/
def literalRest (s : Input) : Scan String :=
  match s.dropWhile isLiteralChar with
  | '\'' :: r => .ok (String.ofList (s.takeWhile isLiteralChar), r)
  | r => fail r (some "literal string")

/-- Skips blanks and line ends after a backslash at the end of a line. -/
def skipFold : Nat → Input → Input
  | 0, s => s
  | fuel + 1, s =>
    let r := skipBlanks s
    match newline? r with
    | some t => skipFold fuel t
    | none => r

/-- Ends a string of several lines at `count` quotes: the last three close it, and up to two in front
of them belong to it. -/
def closeLong (quote : Char) (label : String) (read : List Char) (s : Input) : Scan String :=
  let count := min 5 (s.takeWhile (· == quote)).length
  if count < 3 then fail s (some label)
  else .ok (String.ofList (read.reverse ++ List.replicate (count - 3) quote), s.drop count)

/-- Reads the rest of a string of several lines between double quotes. -/
def longBasicRest : Nat → List Char → Input → Scan String
  | 0, _, s => fail s (some "multiline basic string")
  | _ + 1, _, [] => fail [] (some "multiline basic string")
  | fuel + 1, read, c :: r =>
    if c = '"' then
      let quotes := (c :: r).takeWhile (· == '"')
      if quotes.length < 3 then
        longBasicRest fuel (quotes ++ read) ((c :: r).drop quotes.length)
      else closeLong '"' "multiline basic string" read (c :: r)
    else if c = '\\' then
      match newline? (skipBlanks r) with
      | some t => longBasicRest fuel read (skipFold t.length t)
      | none =>
        match escape r with
        | .error e => .error e
        | .ok (d, t) => longBasicRest fuel (d :: read) t
    else if isBasicChar c then longBasicRest fuel (c :: read) r
    else
      match newline? (c :: r) with
      | some t => longBasicRest fuel ('\n' :: read) t
      | none => fail (c :: r) (some "multiline basic string")

/-- Reads the rest of a string of several lines between single quotes. -/
def longLiteralRest : Nat → List Char → Input → Scan String
  | 0, _, s => fail s (some "multiline literal string")
  | _ + 1, _, [] => fail [] (some "multiline literal string")
  | fuel + 1, read, c :: r =>
    if c = '\'' then
      let quotes := (c :: r).takeWhile (· == '\'')
      if quotes.length < 3 then
        longLiteralRest fuel (quotes ++ read) ((c :: r).drop quotes.length)
      else closeLong '\'' "multiline literal string" read (c :: r)
    else if isLiteralChar c then longLiteralRest fuel (c :: read) r
    else
      match newline? (c :: r) with
      | some t => longLiteralRest fuel ('\n' :: read) t
      | none => fail (c :: r) (some "multiline literal string")

/-- What follows a line end, or all of it. -/
def afterNewline (s : Input) : Input := (newline? s).getD s

/-- Reads a string of any of the four kinds, of which the first quote is next. -/
def string (s : Input) : Scan String :=
  match s with
  | '"' :: '"' :: '"' :: r => longBasicRest (r.length + 1) [] (afterNewline r)
  | '"' :: r => basicRest (r.length + 1) [] r
  | '\'' :: '\'' :: '\'' :: r => longLiteralRest (r.length + 1) [] (afterNewline r)
  | '\'' :: r => literalRest r
  | _ => fail s (some "string") ["`\"`", "`'`"]

/-! ### Keys -/

def isBareKeyChar (c : Char) : Bool :=
  ('a' ≤ c && c ≤ 'z') || ('A' ≤ c && c ≤ 'Z') || ('0' ≤ c && c ≤ '9') || c = '-' || c = '_'

/-- Reads one part of a key. -/
def simpleKey (s : Input) : Scan String :=
  match s with
  | '"' :: r => basicRest (r.length + 1) [] r
  | '\'' :: r => literalRest r
  | _ =>
    let name := s.takeWhile isBareKeyChar
    if name.isEmpty then fail s (some "key") else .ok (String.ofList name, s.dropWhile isBareKeyChar)

/-- Reads the parts of a key with dots between them. -/
def keyParts : Nat → Input → Scan (List String)
  | 0, s => fail s (some "key")
  | fuel + 1, s =>
    match simpleKey (skipBlanks s) with
    | .error e => .error e
    | .ok (name, r) =>
      match skipBlanks r with
      | '.' :: t =>
        match keyParts fuel t with
        | .error e => .error e
        | .ok (names, u) => .ok (name :: names, u)
      | t => .ok ([name], t)

/-- How deep values may nest, and how many parts a key may have: fewer than this. -/
def nestingLimit : Nat := 80

/-- Reads a key. -/
def key (s : Input) : Scan (List String) :=
  match keyParts (s.length + 1) s with
  | .error e => .error e
  | .ok (names, r) =>
    if names.length < nestingLimit then .ok (names, r)
    else refuse s (some "key") "recursion limit exceeded"

end ColumnMap.Toml
