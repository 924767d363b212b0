import ColumnMap.Mapping.Basic
import ColumnMap.Json.Record
import ColumnMap.Text.Blank
import ColumnMap.Trouble

/-!
Mapping files: a JSON list of mappings. A blank file holds the empty list; otherwise every item
must name its column, and one item that is no mapping spoils the whole file.
-/

namespace ColumnMap.Mapping

def shape : Json.Shape where
  title := "Mapping"
  fields := [⟨"column", true⟩, ⟨"value", false⟩, ⟨"auxiliaryInput", false⟩]

/-- A mapping from its fields; those that were not given are empty. -/
def ofFields (given : List (String × String)) : Mapping where
  column := (given.lookup "column").getD ""
  value := (given.lookup "value").getD ""
  auxiliaryInput := (given.lookup "auxiliaryInput").getD ""

def reader (depth : Nat) : Json.Reader Mapping := (Json.Reader.record depth shape .string).map ofFields

/-- Reads a whole file of which it is known that it is not blank. -/
def listReader : Json.Reader (List Mapping) := .list Json.maxDepth (reader (Json.maxDepth - 1))

/-- The mappings of a file with the given text. -/
def ofText (text : String) : Except Json.Fault (List Mapping) :=
  if Text.isBlankText text then .ok [] else listReader.decode text.toUTF8.toList

inductive FileError where
  /-- No text could be had from the file. -/
  | unreadable (reason : String)
  /-- The text is no list of mappings. -/
  | notMappings (reason : String)
  deriving DecidableEq, Repr

/-- The failure to use the file at `path`. -/
def FileError.trouble (path : String) : FileError → Trouble
  | .unreadable reason => ⟨"Failed to read mappings from " ++ path, [reason]⟩
  | .notMappings reason => ⟨"Invalid mappings file " ++ path, [reason]⟩

/-- The failure to write the file at `path`. -/
def writeTrouble (path reason : String) : Trouble := ⟨"Failed to write mappings to " ++ path, [reason]⟩

def notText : String := "stream did not contain valid UTF-8"

/-- The mappings of a file with the given bytes. -/
def ofBytes (bytes : ByteArray) : Except FileError (List Mapping) :=
  match String.fromUTF8? bytes with
  | none => .error (.unreadable notText)
  | some text => (ofText text).mapError fun fault => .notMappings (fault.message text.toUTF8.toList)

/-- The text of a mapping file: every field on a line of its own, and a line end at the end. -/
def toText (mappings : List Mapping) : String :=
  (Json.array (mappings.map toJson)).pretty ++ "\n"

end ColumnMap.Mapping
