import ColumnMap.Text.Property.Printing
import ColumnMap.Text.Property.Width

/-!
How many cells of a terminal a text takes. Most characters take one or two and marks none; an
emoji sequence takes two as a whole.
-/

namespace ColumnMap.Text

/-- Marks in front of a number or verse that take no cell although they are no extending marks. -/
def isSilentSign (n : Nat) : Bool :=
  n == 0x605 || n == 0x70F || n == 0x890 || n == 0x891 || n == 0x8E2 || n == 0xA8FA

/-- Vowels and final consonants that complete a syllable block begun before them. -/
def completesSyllable (n : Nat) : Bool :=
  (0x1160 ≤ n && n ≤ 0x11FF) || (0xD7B0 ≤ n && n ≤ 0xD7C6) || (0xD7CB ≤ n && n ≤ 0xD7FB)

/-- Cells of a character that stands alone. Control characters count as one. -/
def charWidth (c : Char) : Nat :=
  let n := c.toNat
  if n < 0x300 then if n == 0xAD then 0 else 1
  else if 0x2500 ≤ n && n ≤ 0x257F then 1
  else if n == 0x115F || n == 0x17A4 then 2
  else if n == 0x17D8 then 3
  else if ignorable.contains c || extending.contains c then 0
  else if completesSyllable n || isSilentSign n then 0
  else if wide.contains c then 2
  else 1

def textSelector : Char := '\uFE0E'
def emojiSelector : Char := '\uFE0F'
def joiner : Char := '\u200D'

def isSkinTone (c : Char) : Bool := 0x1F3FB ≤ c.toNat && c.toNat ≤ 0x1F3FF

/-- What follows an emoji at the front of the text, if there is one. -/
def afterEmoji? : List Char → Option (List Char)
  | c :: d :: r =>
    if emojiModifiable.contains c && isSkinTone d then some r
    else if d == emojiSelector && (emojiOnRequest.contains c || emojiByDefault.contains c) then some r
    else if d == textSelector then none
    else if emojiByDefault.contains c then some (d :: r)
    else none
  | [c] => if emojiByDefault.contains c then some [] else none
  | [] => none

theorem afterEmoji?_length {s r : List Char} (h : afterEmoji? s = some r) : r.length < s.length := by
  unfold afterEmoji? at h
  split at h
  · split at h
    · cases h; simp only [List.length_cons]; omega
    · split at h
      · cases h; simp only [List.length_cons]; omega
      · split at h
        · cases h
        · split at h
          · cases h; simp only [List.length_cons]; omega
          · cases h
  · split at h
    · cases h; simp
    · cases h
  · cases h

/-- What follows the longest run of emoji linked by joiners, of which the first has been read. -/
def afterLinked (s : List Char) : List Char :=
  match s with
  | [] => []
  | c :: r =>
    if c == joiner then
      match _h : afterEmoji? r with
      | none => c :: r
      | some t => afterLinked t
    else c :: r
termination_by s.length
decreasing_by
  have := afterEmoji?_length _h
  simp only [List.length_cons]; omega

theorem afterLinked_length (s : List Char) : (afterLinked s).length ≤ s.length := by
  fun_induction afterLinked s with
  | case1 => simp
  | case2 => simp
  | case3 c r hc t h ih =>
    have := afterEmoji?_length h
    simp only [List.length_cons]; omega
  | case4 => simp

/-- Cells of a text. A line break written as two characters takes one cell. -/
def width (s : List Char) : Nat :=
  match s with
  | [] => 0
  | '\r' :: '\n' :: r => 1 + width r
  | c :: r =>
    if c.toNat < 0x80 && r.head? != some emojiSelector then 1 + width r
    else
      match h : afterEmoji? (c :: r) with
      | some t => 2 + width (afterLinked t)
      | none =>
        if r.head? == some textSelector && emojiByDefault.contains c
            && !(0x1F200 ≤ c.toNat && c.toNat ≤ 0x1F2FF) then 1 + width r
        else charWidth c + width r
termination_by s.length
decreasing_by
  all_goals simp only [List.length_cons]
  · omega
  · omega
  · have h1 := afterEmoji?_length h
    have h2 := afterLinked_length t
    simp only [List.length_cons] at h1; omega
  · omega
  · omega

end ColumnMap.Text
