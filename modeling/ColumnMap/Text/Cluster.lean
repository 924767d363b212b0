import ColumnMap.Text.Property.Breaking

/-!
Clusters: the parts of a text that a reader sees as one character each, such as a letter with its
accents, a syllable block, a flag or a joined emoji. The boundaries are those of the Unicode
standard's extended grapheme clusters, found in one pass from left to right.
-/

namespace ColumnMap.Text

/-- What a character means for the boundaries before and after it. -/
inductive Break where
  | carriageReturn | lineFeed | control | extend | joiner | regional | prepend | spacing
  | lead | vowel | tail | leadVowel | leadVowelTail | other
  deriving DecidableEq, Repr

def Break.of (c : Char) : Break :=
  let n := c.toNat
  if n == 0xD then .carriageReturn
  else if n == 0xA then .lineFeed
  else if 0x20 ≤ n && n < 0x7F then .other
  else if breakControl.contains c then .control
  else if n == 0x200D then .joiner
  else if breakExtend.contains c then .extend
  else if 0x1F1E6 ≤ n && n ≤ 0x1F1FF then .regional
  else if breakPrepend.contains c then .prepend
  else if breakSpacing.contains c then .spacing
  else if (0x1100 ≤ n && n ≤ 0x115F) || (0xA960 ≤ n && n ≤ 0xA97C) then .lead
  else if (0x1160 ≤ n && n ≤ 0x11A7) || (0xD7B0 ≤ n && n ≤ 0xD7C6) then .vowel
  else if (0x11A8 ≤ n && n ≤ 0x11FF) || (0xD7CB ≤ n && n ≤ 0xD7FB) then .tail
  else if 0xAC00 ≤ n && n ≤ 0xD7A3 then
    if (n - 0xAC00) % 28 == 0 then .leadVowel else .leadVowelTail
  else .other

/-- How far a linked sequence has got at some point of the text. -/
inductive Linking where
  | none | begun | linked
  deriving DecidableEq, Repr

/-- What the next boundary depends on: the class of the last character, whether the text ends in
a pictograph (`begun`) or in one with a joiner (`linked`), whether it ends in a consonant or in
one with a linker, and whether it ends in an odd number of regional indicators. -/
structure Before where
  last : Break
  pictograph : Linking
  consonant : Linking
  oddRegional : Bool

def Before.next (b : Option Before) (c : Char) : Before :=
  let kind := Break.of c
  let pictograph := (b.map (·.pictograph)).getD .none
  let consonant := (b.map (·.consonant)).getD .none
  let odd := (b.map (·.oddRegional)).getD false
  { last := kind
    pictograph :=
      if pictographTable c then .begun
      else if kind == .extend && pictograph == .begun then .begun
      else if kind == .joiner && pictograph == .begun then .linked
      else .none
    consonant :=
      if c.toNat < 0x900 then (if kind == .extend || kind == .joiner then consonant else .none)
      else if conjunctConsonant.contains c then .begun
      else if consonant == .none then .none
      else if conjunctLinker.contains c then .linked
      else if (kind == .extend || kind == .joiner) && c.toNat != 0x200C then consonant
      else .none
    oddRegional := kind == .regional && !odd }
where
  pictographTable (c : Char) : Bool := 0xA8 < c.toNat && Text.pictograph.contains c

/-- Whether `c` stays in the cluster that ends as `b` says. -/
def Before.joins (b : Before) (c : Char) : Bool :=
  match b.last, Break.of c with
  | .carriageReturn, .lineFeed => true
  | .carriageReturn, _ | .lineFeed, _ | .control, _ => false
  | _, .carriageReturn | _, .lineFeed | _, .control => false
  | .lead, .lead | .lead, .vowel | .lead, .leadVowel | .lead, .leadVowelTail => true
  | .leadVowel, .vowel | .leadVowel, .tail | .vowel, .vowel | .vowel, .tail => true
  | .leadVowelTail, .tail | .tail, .tail => true
  | _, .extend | _, .joiner | _, .spacing => true
  | .prepend, _ => true
  | .regional, .regional => b.oddRegional
  | _, _ =>
    (b.consonant == .linked && conjunctConsonant.contains c)
      || (b.pictograph == .linked && Text.pictograph.contains c)

/-- Splits off cluster after cluster; `cluster` is the one being read, last character first. -/
def clustersFrom (b : Option Before) (cluster : List Char) : List Char → List (List Char)
  | [] => if cluster.isEmpty then [] else [cluster.reverse]
  | c :: rest =>
    let joined := match b with
      | none => true
      | some b => b.joins c
    if joined then clustersFrom (some (Before.next b c)) (c :: cluster) rest
    else cluster.reverse :: clustersFrom (some (Before.next b c)) [c] rest

def clusters (s : List Char) : List (List Char) := clustersFrom none [] s

end ColumnMap.Text
