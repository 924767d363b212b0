import ColumnMap.Config.Basic
import ColumnMap.Toml.Reader

/-!
Configuration files. Every key may be left out, keys of other names are passed over, and a table may
also be written as the array of its values.
-/

namespace ColumnMap.Config

open Toml (Tree)

/-- Why a value of a document cannot be used. -/
inductive Cause where
  | wrongType (found wanted : String)
  | wrongValue (found wanted : String)
  | wrongLength (length : Nat) (wanted : String)
  deriving DecidableEq, Repr

def Cause.text : Cause → String
  | .wrongType found wanted => "invalid type: " ++ found ++ ", expected " ++ wanted
  | .wrongValue found wanted => "invalid value: " ++ found ++ ", expected " ++ wanted
  | .wrongLength n wanted => "invalid length " ++ toString n ++ ", expected " ++ wanted

structure Misfit where
  cause : Cause
  span : Toml.Span
  deriving DecidableEq, Repr

/-- Floats stand in positional notation. -/
def floatStyle : Decimal.Style := ⟨fun _ => true⟩

/-- What a value is, in messages. -/
def found : Tree → String
  | .scalar _ (.string s) => "string " ++ Text.quote s
  | .scalar _ (.integer n) => "integer `" ++ toString n ++ "`"
  | .scalar _ (.float d) => "floating point `" ++ d.anyText floatStyle ++ "`"
  | .scalar _ (.bool b) => "boolean `" ++ boolText b ++ "`"
  | .scalar _ .dateTime => "map"
  | .array _ _ | .tables _ _ => "sequence"
  | .table _ _ _ => "map"

def wrongType {α : Type} (v : Tree) (wanted : String) : Except Misfit α :=
  .error ⟨.wrongType (found v) wanted, v.span⟩

def string : Tree → Except Misfit String
  | .scalar _ (.string s) => .ok s
  | v => wrongType v "a string"

def bool : Tree → Except Misfit Bool
  | .scalar _ (.bool b) => .ok b
  | v => wrongType v "a boolean"

def natural : Tree → Except Misfit UInt64
  | .scalar span (.integer n) =>
    if 0 ≤ n then .ok (UInt64.ofNat n.toNat)
    else .error ⟨.wrongValue (found (.scalar span (.integer n))) "u64", span⟩
  | v => wrongType v "u64"

def strings : Tree → Except Misfit (List String)
  | .array _ items | .tables _ items => items.mapM string
  | v => wrongType v "a sequence"

/-- A key of a table, with the reading of its value into a record. -/
structure Key (ρ : Type) where
  name : String
  read : Tree → ρ → Except Misfit ρ

def Key.of {ρ α : Type} (name : String) (read : Tree → Except Misfit α) (set : α → ρ → ρ) : Key ρ :=
  ⟨name, fun v r => (read v).map (set · r)⟩

section

variable {ρ : Type} (keys : List (Key ρ))

/-- Reads the fields of a table into a record, in the order of the text. -/
def fields : Toml.Fields → ρ → Except Misfit ρ
  | [], r => .ok r
  | (name, v) :: rest, r =>
    match keys.find? (·.name == name) with
    | none => fields rest r
    | some k =>
      match k.read v r with
      | .error e => .error e
      | .ok changed => fields rest changed

/-- Reads the items of an array as the values of the keys in their order. There may be more items
than keys. -/
def positions : List (Key ρ) → List Tree → ρ → Except Nat (Except Misfit ρ)
  | [], _, r => .ok (.ok r)
  | _, [], _ => .error 0
  | k :: more, v :: rest, r =>
    match k.read v r with
    | .error e => .ok (.error e)
    | .ok changed => (positions more rest changed).mapError (· + 1)

/-- Reads a table with the given name in messages. -/
def record (title : String) (r : ρ) (v : Tree) : Except Misfit ρ :=
  let listed (span : Toml.Span) (items : List Tree) : Except Misfit ρ :=
    match positions keys items r with
    | .ok result => result
    | .error n =>
      .error ⟨.wrongLength n ("struct " ++ title ++ " with " ++ toString keys.length ++ " elements"),
        span⟩
  match v with
  | .table _ _ l => fields keys l r
  | .scalar _ .dateTime => .ok r
  | .array span items | .tables span items => listed span items
  | v => wrongType v ("struct " ++ title)

end

def dataSourceKeys : List (Key DataSource) :=
  [.of "id" natural fun x d => { d with id := x },
    .of "name" string fun x d => { d with name := x },
    .of "columns" strings fun x d => { d with columns := x },
    .of "supports_lookup" bool fun x d => { d with supportsLookup := x }]

def logKeys : List (Key LogConfig) :=
  [.of "level" string fun x l => { l with level := x },
    .of "file_enabled" bool fun x l => { l with fileEnabled := x },
    .of "file_dir" string fun x l => { l with fileDirectory := x },
    .of "file_rotation" string fun x l => { l with fileRotation := .ofText x },
    .of "file_prefix" string fun x l => { l with filePrefix := x }]

def keys : List (Key Config) :=
  [.of "backend_url" string fun x c => { c with backendUrl := x },
    .of "request_timeout_secs" natural fun x c => { c with timeout := x },
    ⟨"datasource", fun v c =>
      (record dataSourceKeys "FileDataSource" c.dataSource v).map fun d =>
        { c with dataSource := d }⟩,
    ⟨"logging", fun v c =>
      (record logKeys "FileLogging" c.log v).map fun l => { c with log := l }⟩]

inductive FileError where
  /-- The text is no document. -/
  | notToml (fault : Toml.Fault)
  /-- A value of the document cannot be used. -/
  | misfit (misfit : Misfit)
  deriving DecidableEq, Repr

/-- What is wrong, under the line that it is about. -/
def FileError.report (text : String) : FileError → String
  | .notToml fault => Toml.diagram text.toList fault.span fault.message
  | .misfit m => Toml.diagram text.toList m.span m.cause.text

/-- The configuration of a file with the given text: its values, and the defaults for the rest. -/
def ofText (text : String) : Except FileError Config :=
  match Toml.parse text with
  | .error fault => .error (.notToml fault)
  | .ok v => (record keys "FileConfig" {} v).mapError .misfit

end ColumnMap.Config
