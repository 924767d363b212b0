/-!
Sets of code points, written as closed ranges in increasing order.
-/

namespace ColumnMap.Text

/-- Closed ranges of code points, in increasing order and apart from each other. -/
abbrev Ranges := Array (Nat × Nat)

namespace Ranges

/-- Halves the part of the table from `lo` to `hi` until it holds `n` or nothing. -/
def search (t : Ranges) (n lo hi : Nat) : Bool :=
  if _ : lo < hi then
    match t[(lo + hi) / 2]? with
    | none => false
    | some (first, last) =>
      if n < first then search t n lo ((lo + hi) / 2)
      else if last < n then search t n ((lo + hi) / 2 + 1) hi
      else true
  else false
termination_by hi - lo

def contains (t : Ranges) (c : Char) : Bool := search t c.toNat 0 t.size

end Ranges

end ColumnMap.Text
