import ColumnMap.Toml.Number
import ColumnMap.Toml.Table

/-!
Reading TOML texts: arrays and tables between braces, and the lines of a document.
-/

namespace ColumnMap.Toml

/-- Refuses what was read from `s` on because it clashes with what came before. -/
def orRefuse {α : Type} (s : Input) (r : Except Clash α) : Except Fault α :=
  r.mapError fun clash => { reason := some clash.text, span := .at s }

section

variable (item : Input → Scan Tree)

/-- Reads the items of an array up to its closing bracket. -/
def arrayItems : Nat → List Tree → Input → Scan (List Tree)
  | 0, _, s => fail s (some "array") ["`]`"]
  | fuel + 1, read, s =>
    match skipLines s.length s with
    | .error e => .error e
    | .ok [] => fail [] (some "array") ["`]`"]
    | .ok (']' :: r) => .ok (read.reverse, r)
    | .ok r =>
      if r.head? = some ',' then fail r (some "array") ["`]`"]
      else
        match item r with
        | .error e => .error e
        | .ok (v, t) =>
          match skipLines t.length t with
          | .error e => .error e
          | .ok (',' :: u) => arrayItems fuel (v :: read) u
          | .ok (']' :: u) => .ok ((v :: read).reverse, u)
          | .ok u => fail u (some "array") ["`]`"]

/-- Reads a key and its value. -/
def pair (s : Input) : Scan (List String × Tree) :=
  match key s with
  | .error e => .error e
  | .ok (path, '=' :: r) =>
    match item (skipBlanks r) with
    | .error e => .error e
    | .ok (v, t) => .ok ((path, v), t)
  | .ok (_, r) => fail r none ["`.`", "`=`"]

/-- Reads the pairs of a table between braces, of which there is one at least, up to the closing
brace. -/
def inlinePairs (start : Input) : Nat → Fields → Input → Scan Fields
  | 0, _, s => fail s (some "inline table") ["`\x7d`"]
  | fuel + 1, fields, s =>
    match pair item s with
    | .error e => .error e
    | .ok ((path, v), r) =>
      match orRefuse start (insert (.at s) [] .inline fields path v) with
      | .error e => .error e
      | .ok changed =>
        match skipBlanks r with
        | ',' :: t => inlinePairs start fuel changed t
        | '\x7d' :: t => .ok (changed, t)
        | t => fail t (some "inline table") ["`\x7d`"]

/-- Reads a value whose parts are read by `item`. -/
def valueWith (s : Input) : Scan Tree :=
  match s with
  | '[' :: r =>
    match arrayItems item (r.length + 1) [] r with
    | .error e => .error e
    | .ok (items, t) => .ok (.array ⟨s.length, t.length⟩ items, t)
  | '\x7b' :: r =>
    match skipBlanks r with
    | '\x7d' :: t => .ok (.table ⟨s.length, t.length⟩ .inline [], t)
    | t =>
      match inlinePairs item t (t.length + 1) [] t with
      | .error e => .error e
      | .ok (fields, u) => .ok (.table ⟨s.length, u.length⟩ .inline fields, u)
  | _ =>
    match scalar s with
    | .error e => .error e
    | .ok (v, r) => .ok (.scalar ⟨s.length, r.length⟩ v, r)

end

/-- Reads a value in which arrays and tables may nest `depth` deep. -/
def value : Nat → Input → Scan Tree
  | 0, s =>
    if s.head? = some '[' || s.head? = some '\x7b' then refuse s.tail none "recursion limit exceeded"
    else valueWith (fun r => fail r none) s
  | depth + 1, s => valueWith (value depth) s

/-- Reads the header of a table, and the rest of its line. -/
def header (s : Input) (d : Draft) : Scan Draft :=
  let isItem := s.take 2 = ['[', '[']
  match key (s.drop (if isItem then 2 else 1)) with
  | .error e => .error e
  | .ok (path, r) =>
    let closing := if isItem then [']', ']'] else [']']
    if r.take closing.length ≠ closing then
      fail r (some "table header") ["`.`", if isItem then "`]]`" else "`]`"]
    else
      let t := r.drop closing.length
      match endLine t with
      | .error e => .error { e with label := some "table header" }
      | .ok (_, u) =>
        let span : Span := ⟨s.length, t.length⟩
        match orRefuse s (if isItem then d.startItem path span else d.startTable path span) with
        | .error e => .error e
        | .ok d => .ok (d, u)

/-- Reads the line of a key and its value. -/
def assignment (s : Input) (d : Draft) : Scan Draft :=
  match pair (value (nestingLimit - 1)) s with
  | .error e => .error e
  | .ok ((path, v), r) =>
    match endLine r with
    | .error e => .error e
    | .ok (_, t) =>
      match orRefuse s (d.add path v) with
      | .error e => .error e
      | .ok d => .ok (d, t)

/-- Reads line after line. -/
def lines : Nat → Draft → Input → Except Fault Draft
  | 0, d, _ => .ok d
  | fuel + 1, d, s =>
    let r := skipBlanks s
    match r with
    | [] => .ok d
    | c :: _ =>
      let result :=
        if c = '[' then header r d
        else if c = '#' || c = '\n' || c = '\r' then
          match endLine r with
          | .error _ => .error { span := .at (skipComment r) }
          | .ok (_, t) => .ok (d, t)
        else assignment r d
      match result with
      | .error e => .error e
      | .ok (d, t) => lines fuel d t

/-- Without the mark that some editors put at the start of a file. -/
def withoutMark : Input → Input
  | '\ufeff' :: r => r
  | s => s

/-- The table that a text writes. -/
def parse (text : String) : Except Fault Tree :=
  let s := withoutMark text.toList
  match lines (s.length + 1) {} s with
  | .error e => .error e
  | .ok d =>
    match orRefuse [] d.finish with
    | .error e => .error e
    | .ok fields => .ok (.table ⟨s.length, 0⟩ .headed fields)

end ColumnMap.Toml
