import ColumnMap.Lookup.Basic

/-!
Values to try the program with, without a backend. How long a lookup takes differs from column to
column, so that answers can come in another order than they were asked for.
-/

namespace ColumnMap.Lookup.Demo

def name : String := "demo"

def dataSource : DataSource where
  id := 1
  name := "demo_sales"
  columns := ["country", "city", "year", "is_active", "region", "product_line"]

/-- Milliseconds that the shortest lookup takes. -/
def standardDelay : Nat := 250

/-- One to five times the shortest delay, by the sum of the bytes of the column's name. -/
def latency (delay : Nat) (column : String) : Nat :=
  delay * (column.toUTF8.toList.foldl (fun n b => n + b.toNat) 0 % UInt32.size % 5 + 1)

/-- The values of a column. One column always fails. -/
def answer (column : String) : Answer :=
  match column with
  | "country" =>
    .ok [.text "India", .text "France", .text "Brazil", .text "Japan", .null, .text ""]
  | "city" => .ok [.text "Pune", .text "Lyon", .text "Recife", .text "Osaka"]
  | "year" =>
    .ok [.number (.int 2021), .number (.int 2022), .number (.int 2023), .number (.int 2024)]
  | "is_active" => .ok [.bool true, .bool false]
  | "region" => .error (.status 500 "demo: region lookup is broken on purpose")
  | other => .ok [.text (other ++ "_a"), .text (other ++ "_b"), .text (other ++ "_c")]

end ColumnMap.Lookup.Demo
