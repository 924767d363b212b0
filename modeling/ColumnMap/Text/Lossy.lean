/-!
Text from bytes that should be UTF-8 and may not be. What is no character, as far as it could have
been the start of one, becomes one replacement character.
-/

namespace ColumnMap.Text

/-- What the first byte of a longer character says: the bits it gives, how many bytes follow, and
between which bounds the first of them lies. -/
def lead? (b : Nat) : Option (Nat × Nat × Nat × Nat) :=
  if 0xC2 ≤ b ∧ b ≤ 0xDF then some (b - 0xC0, 1, 0x80, 0xBF)
  else if 0xE0 ≤ b ∧ b ≤ 0xEF then
    some (b - 0xE0, 2, if b = 0xE0 then 0xA0 else 0x80, if b = 0xED then 0x9F else 0xBF)
  else if 0xF0 ≤ b ∧ b ≤ 0xF4 then
    some (b - 0xF0, 3, if b = 0xF0 then 0x90 else 0x80, if b = 0xF4 then 0x8F else 0xBF)
  else none

/-- Reads `count` bytes that go on with the character of which `bits` are known; the character's
number, if they are there, and the rest. -/
def goOn (bits lo hi : Nat) : Nat → List UInt8 → Option Nat × List UInt8
  | 0, s => (some bits, s)
  | _ + 1, [] => (none, [])
  | n + 1, b :: r =>
    if lo ≤ b.toNat ∧ b.toNat ≤ hi then goOn (64 * bits + b.toNat % 64) 0x80 0xBF n r
    else (none, b :: r)

theorem goOn_length (bits lo hi n : Nat) (s : List UInt8) :
    (goOn bits lo hi n s).2.length ≤ s.length := by
  induction n generalizing bits lo hi s with
  | zero => simp [goOn]
  | succ n ih =>
    cases s with
    | nil => simp [goOn]
    | cons b r =>
      simp only [goOn]
      split
      · have := ih (64 * bits + b.toNat % 64) 0x80 0xBF r
        simp only [List.length_cons]; omega
      · simp

def lossy : List UInt8 → List Char
  | [] => []
  | b :: r =>
    if b.toNat < 0x80 then Char.ofNat b.toNat :: lossy r
    else match lead? b.toNat with
      | none => '\ufffd' :: lossy r
      | some (bits, n, lo, hi) =>
        let next := goOn bits lo hi n r
        (next.1.elim '\ufffd' Char.ofNat) :: lossy next.2
termination_by s => s.length
decreasing_by
  · simp
  · simp
  · have := goOn_length bits lo hi n r
    simp only [List.length_cons]; omega

end ColumnMap.Text
