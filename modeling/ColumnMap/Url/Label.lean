import ColumnMap.Text.Property.Case
import ColumnMap.Text.Property.Printing

/-!
The parts of a host's name in other scripts. Such a label is written in letters and digits: its
ASCII characters first, then for each of the others how far one has to go on, through the places of
the label and through the code points, to put it in.
-/

namespace ColumnMap.Url

def digitLetter (d : Nat) : Char := if d < 26 then Char.ofNat (97 + d) else Char.ofNat (22 + d)

def letterDigit? (c : Char) : Option Nat :=
  if 'a' ≤ c ∧ c ≤ 'z' then some (c.toNat - 97)
  else if '0' ≤ c ∧ c ≤ '9' then some (c.toNat - 22)
  else none

/-- The least digit after which a number goes on, at the place that weighs `k`. -/
def threshold (bias k : Nat) : Nat := min 26 (max 1 (k - bias))

theorem threshold_pos (bias k : Nat) : 1 ≤ threshold bias k := by unfold threshold; omega

/-- The digits of a step, the lowest first. -/
def stepDigits (bias k q : Nat) : List Char :=
  let t := threshold bias k
  if q < t then [digitLetter q]
  else digitLetter (t + (q - t) % (36 - t)) :: stepDigits bias (k + 36) ((q - t) / (36 - t))
termination_by q
decreasing_by
  have h := threshold_pos bias k
  have := Nat.div_le_self (q - threshold bias k) (36 - threshold bias k)
  omega

/-- Divides a step until it is small; counts how often. -/
def damp (delta k : Nat) : Nat × Nat :=
  if 455 < delta then damp (delta / 35) (k + 36) else (delta, k)
termination_by delta
decreasing_by exact Nat.div_lt_self (by omega) (by omega)

/-- The bias after a step in a label that has `count` characters now. -/
def nextBias (step count : Nat) (isFirst : Bool) : Nat :=
  let start := if isFirst then step / 700 else step / 2
  let (delta, k) := damp (start + start / count) 0
  k + 36 * delta / (delta + 38)

/-! ### Writing -/

structure Writing where
  digits : List Char := []
  /-- Steps since the last character that was put in. -/
  step : Nat := 0
  bias : Nat := 72
  /-- Characters that are in their places. -/
  count : Nat

/-- Passes one character of the label while the code point `n` is put in. -/
def Writing.pass (isFirst : Nat → Bool) (n : Nat) (w : Writing) (c : Char) : Writing :=
  if c.toNat < n then { w with step := w.step + 1 }
  else if c.toNat = n then
    { digits := w.digits ++ stepDigits w.bias 36 w.step
      step := 0
      bias := nextBias w.step (w.count + 1) (isFirst w.count)
      count := w.count + 1 }
  else w

/-- Puts in the code points of `more`, in increasing order, from `n` on. -/
def Writing.putIn (label : List Char) (start n : Nat) (w : Writing) : List Nat → Writing
  | [] => w
  | p :: more =>
    let reached := { w with step := w.step + (p - n) * (w.count + 1) }
    let passed := label.foldl (Writing.pass (· == start) p) reached
    { passed with step := passed.step + 1 }.putIn label start (p + 1) more

/-- The label in letters and digits, behind the mark of such labels. -/
def labelText (label : List Char) : List Char :=
  let plain := label.filter (·.toNat < 0x80)
  let points := ((label.filter (0x80 ≤ ·.toNat)).map (·.toNat)).mergeSort.eraseDups
  let written := Writing.putIn label plain.length 0x80 { count := plain.length } points
  "xn--".toList ++ plain ++ (if plain.isEmpty then [] else ['-']) ++ written.digits

/-! ### Reading -/

/-- Reads a step on from `i`, and what follows it. -/
def readStep (bias k weight i : Nat) : List Char → Option (Nat × List Char)
  | [] => none
  | c :: r => do
    let d ← letterDigit? c
    let t := threshold bias k
    if d < t then some (i + d * weight, r)
    else readStep bias (k + 36) (weight * (36 - t)) (i + d * weight) r

theorem readStep_length {bias k w i j : Nat} {s r : List Char}
    (h : readStep bias k w i s = some (j, r)) : r.length < s.length := by
  induction s generalizing k w i with
  | nil => simp [readStep] at h
  | cons c t ih =>
    simp only [readStep, bind, Option.bind_eq_some_iff] at h
    obtain ⟨d, _, h⟩ := h
    split at h
    · simp only [Option.some.injEq, Prod.mk.injEq] at h
      rw [← h.2]; simp
    · have := ih h
      simp only [List.length_cons]; omega

/-- Puts the characters of `s` into the label, from the place `i` and the code point `n` on. -/
def readIn (bias n i : Nat) (label s : List Char) : Option (List Char) :=
  match s with
  | [] => some label
  | c :: r =>
    match _h : readStep bias 36 1 i (c :: r) with
    | none => none
    | some (j, rest) =>
      let count := label.length + 1
      let point := n + j / count
      if point.isValidChar then
        readIn (nextBias (j - i) count (i == 0)) point (j % count + 1)
          (label.insertIdx (j % count) (Char.ofNat point)) rest
      else none
termination_by s.length
decreasing_by exact readStep_length _h

/-- The label that letters and digits write, without the mark. -/
def readLabel? (s : List Char) : Option (List Char) :=
  let digits := (s.reverse.takeWhile (· != '-')).reverse
  readIn 72 0x80 0 (s.take (s.length - digits.length - 1)) digits

/-! ### Labels -/

/-- A character as names have it: wide forms of ASCII for the plain ones, and every way to write the
point that separates labels for that point. -/
def nameChar (c : Char) : Char :=
  let n := c.toNat
  if n = 0x3002 ∨ n = 0xFF0E ∨ n = 0xFF61 then '.'
  else if 0xFF01 ≤ n ∧ n ≤ 0xFF5E then (Char.ofNat (n - 0xFEE0)).toLower
  else Text.lower c

/-- Whether a character counts for nothing in a name. -/
def isUnnamed (c : Char) : Bool :=
  c.toNat == 0xAD || c.toNat == 0x200B || c.toNat == 0x2060 || c.toNat == 0x2064
    || c.toNat == 0xFEFF || (0xFE00 ≤ c.toNat && c.toNat ≤ 0xFE0F)

/-- Whether a label in other scripts may stand in a name. -/
def isSound (label : List Char) : Bool :=
  label.any (0x80 ≤ ·.toNat) && label.all (fun c => !Text.hidden.contains c && nameChar c == c)
    && !(label.head?.any Text.extending.contains)

/-- A label as the name is kept; nothing if it may not stand in a name. -/
def label? (label : List Char) : Option (List Char) :=
  match label with
  | 'x' :: 'n' :: '-' :: '-' :: r =>
    if ((readLabel? r).filter isSound).isSome then some label else none
  | _ =>
    if label.all (·.toNat < 0x80) then some label
    else if isSound label then some (labelText label)
    else none

end ColumnMap.Url
