import ColumnMap.Config.Environment
import ColumnMap.Log.Line

/-!
Which lines of the log are written. A filter is a list of rules with commas between them; each
gives a level, or a part of the program and the level for it. The rule with the longest name that a
part starts with decides, the last one of several.
-/

namespace ColumnMap.Log

structure Rule where
  /-- What the names of the parts must start with; empty for all. -/
  target : String
  /-- Lines of this rank and of lower ones are written. -/
  rank : Nat
  deriving DecidableEq, Repr

namespace Rule

/-- The rank that a level's name or number gives, zero for none. Without a name it is that of
errors. -/
def rankOf? (s : String) : Option Nat :=
  match Environment.number? s with
  | some n => if n ≤ 5 then some n.toNat else none
  | none =>
    [("", 1), ("off", 0), ("error", 1), ("warn", 2), ("info", 3), ("debug", 4), ("trace", 5)].lookup
      (Text.asciiLower s)

def startsRule (c : Char) : Bool :=
  c.isAlphanum || 0x80 ≤ c.toNat || c == '-' || c == ':' || c == '_'

inductive Fault where
  | malformed
  | badLevel
  deriving DecidableEq, Repr

def Fault.message : Fault → String
  | .malformed => "invalid filter directive"
  | .badLevel =>
    "error parsing level filter: expected one of \"off\", \"error\", \"warn\", \"info\", "
      ++ "\"debug\", \"trace\", or a number 0-5"

/-- The rank behind an equals sign; everything is written if it is left out. -/
def ranked (s : List Char) : Except Fault Nat :=
  if s.isEmpty then .ok 5
  else
    match rankOf? (String.ofList s) with
    | some n => .ok n
    | none => .error .badLevel

/-- Reads one rule. Those for spans of time, in brackets, concern no lines; they give nothing. -/
def ofText (s : String) : Except Fault (Option Rule) :=
  let l := s.toList
  let name := l.takeWhile fun c => c != '=' && c != '['
  match l, l.drop name.length with
  | [], _ => .error .malformed
  | c :: _, rest =>
    if c != '[' && !startsRule c then .error .malformed
    else
      match rest with
      | '=' :: level => (ranked level).map fun n => some ⟨String.ofList name, n⟩
      | '[' :: r =>
        match r.dropWhile (· != ']') with
        | [_] => .ok none
        | _ :: '=' :: level => (ranked level).map fun _ => none
        | _ => .error .malformed
      | _ =>
        match rankOf? s with
        | some n => .ok (some ⟨"", n⟩)
        | none => .ok (some ⟨s, 5⟩)

end Rule

structure Filter where
  rules : List Rule
  deriving DecidableEq, Repr

namespace Filter

/-- Without any rule, errors are written. -/
def ofRules (rules : List (Option Rule)) : Filter :=
  ⟨if rules.isEmpty then [⟨"", 1⟩] else rules.filterMap id⟩

def parts (s : String) : List String := (s.splitOn ",").filter (!·.isEmpty)

/-- The filter that a text writes, all of whose rules must be sound. -/
def ofText? (s : String) : Option Filter :=
  match (parts s).mapM Rule.ofText with
  | .ok rules => some (ofRules rules)
  | .error _ => none

/-- The filter of the sound rules in a text, and what is said of the others. -/
def ofSound (s : String) : Filter × List String :=
  let read := (parts s).map fun p => (p, Rule.ofText p)
  (ofRules (read.filterMap fun (_, r) => r.toOption),
    read.filterMap fun (p, r) =>
      match r with
      | .ok _ => none
      | .error fault => some ("ignoring \x60" ++ p ++ "\x60: " ++ fault.message))

/-- The rule that decides about a part of the program. -/
def ruleFor? (f : Filter) (target : String) : Option Rule :=
  (f.rules.filter fun r => target.startsWith r.target).foldl
    (fun best r =>
      match best with
      | none => some r
      | some b => if b.target.utf8ByteSize ≤ r.target.utf8ByteSize then some r else some b)
    none

def admits (f : Filter) (line : Line) : Bool :=
  (f.ruleFor? line.target).any (line.level.rank ≤ ·.rank)

end Filter

end ColumnMap.Log
