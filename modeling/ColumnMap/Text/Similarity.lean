/-!
How much two words resemble each other, as Jaro measures it: by the letters that they share not too
far apart, and by how many of those stand in another order.
-/

namespace ColumnMap.Text

/-- Looks for `c` among the letters numbered from `i`, of which those between the bounds count and
those already taken do not; marks it as taken. -/
def takeLetter (c : Char) (lo hi : Nat) (i : Nat) : List (Char × Bool) → Option (List (Char × Bool))
  | [] => none
  | (d, taken) :: r =>
    if lo ≤ i ∧ i < hi ∧ c = d ∧ !taken then some ((d, true) :: r)
    else (takeLetter c lo hi (i + 1) r).map ((d, taken) :: ·)

/-- The letters of `a` that are found in `b`, and `b` with what was found marked. -/
def shared (reach : Nat) (i : Nat) : List Char → List (Char × Bool) → List Char × List (Char × Bool)
  | [], b => ([], b)
  | c :: r, b =>
    match takeLetter c (i - reach) (i + reach + 1) 0 b with
    | some b =>
      let (more, b) := shared reach (i + 1) r b
      (c :: more, b)
    | none => shared reach (i + 1) r b

/-- One, in the units that likeness is counted in. -/
def wholeLikeness : Nat := Nat.pow 10 12

/-- The likeness of two words. -/
def likeness (a b : List Char) : Nat :=
  let reach := max a.length b.length / 2 - 1
  let (left, marked) := shared reach 0 a (b.map (·, false))
  let right := (marked.filter (·.2)).map (·.1)
  let m := left.length
  let swapped := ((left.zip right).filter fun (c, d) => c != d).length / 2
  let (n, k) := (a.length, b.length)
  wholeLikeness * (m * m * k + m * m * n + (m - swapped) * n * k) / (3 * n * k * m)

/-- The words that resemble `word` by more than seven tenths, the nearest one last. -/
def similar (word : String) (known : List String) : List String :=
  let scored := known.map fun k => (likeness word.toList k.toList, k)
  ((scored.filter (7 * wholeLikeness < 10 * ·.1)).mergeSort fun a b => a.1 ≤ b.1).map (·.2)

end ColumnMap.Text
