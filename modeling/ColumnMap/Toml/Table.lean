import ColumnMap.Toml.Basic

/-!
Putting values into nested tables by their keys. No key may be given twice, a table with a header or
between braces is complete, and a table that dotted keys have named has no header of its own.
-/

namespace ColumnMap.Toml

/-- Why a value cannot be put into a table. -/
inductive Clash where
  /-- The key has been given before in the table with the path. -/
  | repeated (key : String) (table : List String)
  /-- The table has been completed before. -/
  | complete (key : String)
  /-- The path leads through a value that is no table. -/
  | noTable (path : List String) (type : String)
  deriving DecidableEq, Repr

def Clash.text : Clash → String
  | .repeated key [] => "duplicate key `" ++ key ++ "` in document root"
  | .repeated key table =>
    "duplicate key `" ++ key ++ "` in table `" ++ String.intercalate "." table ++ "`"
  | .complete key => "duplicate key `" ++ key ++ "`"
  | .noTable path type =>
    "dotted key `" ++ String.intercalate "." path ++ "` attempted to extend non-table type (" ++ type
      ++ ")"

def Tree.typeName : Tree → String
  | .scalar _ (.string _) => "string"
  | .scalar _ (.integer _) => "integer"
  | .scalar _ (.float _) => "float"
  | .scalar _ (.bool _) => "boolean"
  | .scalar _ .dateTime => "datetime"
  | .array _ _ => "array"
  | .table _ .inline _ => "inline table"
  | .table _ _ _ => "table"
  | .tables _ _ => "array of tables"

namespace Fields

def has (fields : Fields) (key : String) : Bool := fields.any (·.1 == key)

/-- Changes the value of a key, which keeps its position. -/
def replace (fields : Fields) (key : String) (v : Tree) : Fields :=
  fields.map fun (k, w) => if k == key then (k, v) else (k, w)

def erase (fields : Fields) (key : String) : Fields := fields.filter (·.1 != key)

end Fields

section

variable {α : Type} (dotted : Bool) (act : TableKind → Fields → Except Clash (α × Fields))

/-- Follows a path down from a table and acts on the table at its end. Tables that are missing on the
way come into being; a list of tables stands for its last table. -/
def descend (span : Span) (done : List String) :
    List String → TableKind → Fields → Except Clash (α × Fields)
  | [], kind, fields => act kind fields
  | key :: path, _, fields =>
    let below := done ++ [key]
    match fields.lookup key with
    | none =>
      let kind := if dotted then .dotted else .implied
      match descend span below path kind [] with
      | .error e => .error e
      | .ok (a, inner) => .ok (a, fields ++ [(key, .table span kind inner)])
    | some (.table at_ kind inner) =>
      if kind = .inline then .error (.noTable below "inline table")
      else if dotted && !kind.isImplicit then .error (.complete key)
      else
        match descend span below path kind inner with
        | .error e => .error e
        | .ok (a, changed) => .ok (a, Fields.replace fields key (.table at_ kind changed))
    | some (.tables at_ items) =>
      match items.getLast? with
      | some (.table last kind inner) =>
        match descend span below path kind inner with
        | .error e => .error e
        | .ok (a, changed) =>
          .ok (a, Fields.replace fields key
            (.tables at_ (items.dropLast ++ [.table last kind changed])))
      | _ => .error (.noTable below "array of tables")
    | some v => .error (.noTable below v.typeName)

end

/-- Puts a value behind the other fields of a table with the path `table`, under a dotted key. -/
def insert (span : Span) (table : List String) (kind : TableKind) (fields : Fields)
    (path : List String) (v : Tree) : Except Clash Fields :=
  let name := path.getLast?.getD ""
  let add (at_ : TableKind) (inner : Fields) : Except Clash (Unit × Fields) :=
    if decide (at_ = .dotted) == path.dropLast.isEmpty then .error (.complete name)
    else if inner.has name then .error (.repeated name table)
    else .ok ((), inner ++ [(name, v)])
  (descend true add span [] path.dropLast kind fields).map (·.2)

/-- A document while it is read: the tables that are finished, and the one that is being read. -/
structure Draft where
  root : Fields := []
  /-- Path of the table that is being read; the empty path is the document's. -/
  path : List String := []
  /-- Whether the table is one more of a list. -/
  isItem : Bool := false
  span : Span := ⟨0, 0⟩
  fields : Fields := []

namespace Draft

/-- Puts the table that is being read into its place. -/
def finish (d : Draft) : Except Clash Fields :=
  if d.path.isEmpty then .ok d.fields
  else
    let name := d.path.getLast?.getD ""
    let table := Tree.table d.span .headed d.fields
    let place (_ : TableKind) (inner : Fields) : Except Clash (Unit × Fields) :=
      if !d.isItem then .ok ((), inner ++ [(name, table)])
      else
        match inner.lookup name with
        | none => .ok ((), inner ++ [(name, .tables d.span [table])])
        | some (.tables at_ items) => .ok ((), Fields.replace inner name (.tables at_ (items ++ [table])))
        | some _ => .error (.repeated name d.path.dropLast)
    (descend false place d.span [] d.path.dropLast .headed d.root).map (·.2)

/-- Begins the table of a header. What tables inside it have implied is taken over. -/
def startTable (d : Draft) (path : List String) (span : Span) : Except Clash Draft :=
  let name := path.getLast?.getD ""
  let takeOver (_ : TableKind) (inner : Fields) : Except Clash (Fields × Fields) :=
    match inner.lookup name with
    | none => .ok ([], inner)
    | some (.table _ .implied implied) => .ok (implied, inner.erase name)
    | some _ => .error (.repeated name path.dropLast)
  match d.finish with
  | .error e => .error e
  | .ok root =>
    (descend false takeOver span [] path.dropLast .headed root).map fun (implied, root) =>
      { root, path, span, fields := implied }

/-- Begins one more table of a list. -/
def startItem (d : Draft) (path : List String) (span : Span) : Except Clash Draft :=
  let name := path.getLast?.getD ""
  let check (_ : TableKind) (inner : Fields) : Except Clash (Unit × Fields) :=
    match inner.lookup name with
    | none => .ok ((), inner ++ [(name, .tables span [])])
    | some (.tables _ _) => .ok ((), inner)
    | some _ => .error (.repeated name path.dropLast)
  match d.finish with
  | .error e => .error e
  | .ok root =>
    (descend false check span [] path.dropLast .headed root).map fun (_, root) =>
      { root, path, span, isItem := true }

/-- Puts a value into the table that is being read. -/
def add (d : Draft) (path : List String) (v : Tree) : Except Clash Draft :=
  (insert d.span d.path .headed d.fields path v).map fun fields => { d with fields }

end Draft

end ColumnMap.Toml
