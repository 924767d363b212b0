/-!
The table that a mapping control is bound to.
-/

namespace ColumnMap

structure DataSource where
  /-- Number of the table at the backend. -/
  id : UInt64
  /-- Name for people to read. -/
  name : String
  /-- Columns that can be mapped, in display order. -/
  columns : List String
  /-- Whether the backend can list the distinct values of a column. -/
  supportsLookup : Bool := true
  deriving DecidableEq, Repr

end ColumnMap
