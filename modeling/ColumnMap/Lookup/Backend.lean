import ColumnMap.Lookup.Basic
import ColumnMap.Text.Lossy
import ColumnMap.Trouble
import ColumnMap.Url.Reader

/-!
The analytics backend as a source of values: the address at which a column is looked up, and what
is made of the response. How a request travels is not decided here.
-/

namespace ColumnMap.Lookup

structure Backend where
  /-- The address that all lookups are below. -/
  base : Url
  /-- Seconds after which a request is given up. -/
  timeout : Option Nat
  deriving DecidableEq, Repr

/-- How a request ends. -/
inductive Exchange where
  /-- There was no response. -/
  | failed (reason : String)
  | answered (status : Nat) (body : List UInt8)
  deriving DecidableEq, Repr

namespace Backend

def name : String := "backend"

/-- The backend at the address that a text writes. -/
def ofText (base : String) (timeout : Option Nat) : Except Trouble Backend :=
  match Url.ofText base with
  | .error fault => .error ⟨"Invalid backend URL '" ++ base ++ "'", [fault.message]⟩
  | .ok url =>
    match url.path with
    | .plain _ => .error ⟨"Backend URL '" ++ url.text ++ "' cannot be used as a base", []⟩
    | .segments _ => .ok ⟨url, timeout⟩

def log (message : String) : Log.Line := .of .backend .debug message

def readyLine (b : Backend) : Log.Line :=
  log ("Initialized backend value source: " ++ b.base.text
    ++ match b.timeout with
      | some n => " (timeout " ++ toString n ++ "s)"
      | none => " (no timeout)")

def requestLine (url : Url) : Log.Line := log ("GET " ++ url.text)

/-- The segments of a lookup's address below the base. -/
def valuesPath (id : UInt64) (column : String) : List String :=
  ["api", "v1", "datasource", "table", toString id.toNat, "column", column, "values", ""]

/-- The address at which the values of a column are listed. -/
def valuesUrl (b : Backend) (id : UInt64) (column : String) : Except Failure Url :=
  match b.base.below? (valuesPath id column) with
  | some url => .ok url
  | none => .error (.invalidUrl b.base.text)

/-- The shape of a response: a list of values under the name `result`. -/
def shape : Json.Shape where
  title := "ValuesResponse"
  fields := [⟨"result", true⟩]

def reader : Json.Reader (List Value) :=
  (Json.Reader.record Json.maxDepth shape (Value.listReader 1)).map fun given =>
    (given.lookup "result").getD []

def notValues : String := "error decoding response body"

/-- The text of a body that is shown and not read. -/
def bodyText : List UInt8 → String
  | 0xEF :: 0xBB :: 0xBF :: r => String.ofList (Text.lossy r)
  | s => String.ofList (Text.lossy s)

/-- What a request that has ended answers. -/
def answer : Exchange → Answer
  | .failed reason => .error (.network reason)
  | .answered status body =>
    if 200 ≤ status ∧ status < 300 then
      (reader.decode body).mapError fun _ => .malformed notValues
    else .error (.status status (bodyText body))

/-- The address without who asks. -/
def anonymous (url : Url) : Url :=
  { url with authority := url.authority.map fun a => { a with username := "", password := none } }

/-- How a request ends when no connection can be made. With other schemes none is tried. -/
def unreachable (url : Url) : Exchange :=
  .failed ((if url.scheme = "http" ∨ url.scheme = "https" then "error sending request"
    else "builder error") ++ " for url (" ++ (anonymous url).text ++ ")")

/-- Looks up a column through `exchange`, which sends the request. -/
def lookUp (b : Backend) (exchange : Url → Exchange) (id : UInt64) (column : String) : Answer :=
  match b.valuesUrl id column with
  | .ok url => answer (exchange url)
  | .error failure => .error failure

end Backend

end ColumnMap.Lookup
