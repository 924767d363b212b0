import ColumnMap.Json.Skip

/-!
Readers of JSON: functions that take a value of a known kind from the front of the input, with the
proof that they leave less of it. Readers of lists and of records are made from readers of their
parts; a value of any kind is read as `Json`. Lists and objects nest to a limited depth.
-/

namespace ColumnMap.Json

structure Reader (α : Type) where
  read : Bytes → Scan α
  shorter : ∀ {s r : Bytes} {a : α}, read s = .ok (a, r) → r.length < s.length

/-- How deep lists and objects may nest. -/
def maxDepth : Nat := 127

/-! ### Scalars -/

/-- Reads a value that is no list or object and begins with `b`. -/
def scalar (b : UInt8) (r : Bytes) : Scan Json :=
  if b = byte 'n' then onResult (fun _ => .null) (word [byte 'u', byte 'l', byte 'l'] r)
  else if b = byte 't' then
    onResult (fun _ => .bool true) (word [byte 'r', byte 'u', byte 'e'] r)
  else if b = byte 'f' then
    onResult (fun _ => .bool false) (word [byte 'a', byte 'l', byte 's', byte 'e'] r)
  else if b = byte '-' then onResult .number (scanNumber false r)
  else if isDigit b then onResult .number (scanNumber true (b :: r))
  else if b = byte '"' then onResult .string (scanString r)
  else failAt .noValue (b :: r)

theorem scalar_length {b : UInt8} {s r : Bytes} {v : Json} (h : scalar b s = .ok (v, r)) :
    r.length ≤ s.length := by
  unfold scalar at h
  split at h
  · exact word_length (of_onResult_eq_ok h).choose_spec
  · split at h
    · exact word_length (of_onResult_eq_ok h).choose_spec
    · split at h
      · exact word_length (of_onResult_eq_ok h).choose_spec
      · split at h
        · exact Nat.le_of_lt (scanNumber_length (of_onResult_eq_ok h).choose_spec)
        · split at h
          · have := scanNumber_length (of_onResult_eq_ok h).choose_spec
            simp only [List.length_cons] at this; omega
          · split at h
            · exact Nat.le_of_lt (scanString_length (of_onResult_eq_ok h).choose_spec)
            · simp [failAt] at h

/-- The fault of a value of the wrong kind, which is read as far as it has no parts. -/
def wrongKind (wanted : String) (b : UInt8) (r : Bytes) : Fault :=
  if b = byte '[' then ⟨.wrongKind .array wanted, b :: r, 0, false⟩
  else if b = byte '\x7b' then ⟨.wrongKind .object wanted, b :: r, 0, false⟩
  else match scalar b r with
    | .error e => e
    | .ok (.null, t) => ⟨.wrongKind .null wanted, t, 0, false⟩
    | .ok (.bool x, t) => ⟨.wrongKind (.bool x) wanted, t, 0, false⟩
    | .ok (.number n, t) => ⟨.wrongKind (.number n) wanted, t, 0, false⟩
    | .ok (.string x, t) => ⟨.wrongKind (.string x) wanted, t, 0, false⟩
    | .ok (.array _, t) => ⟨.wrongKind .array wanted, t, 0, false⟩
    | .ok (.object _, t) => ⟨.wrongKind .object wanted, t, 0, false⟩

/-- Reads a string, with the blanks before it. -/
def readString (s : Bytes) : Scan String :=
  match skipSpace s with
  | [] => fail .endInValue []
  | b :: r => if b = byte '"' then scanString r else .error (wrongKind "a string" b r)

theorem readString_length {s r : Bytes} {a : String} (h : readString s = .ok (a, r)) :
    r.length < s.length := by
  unfold readString at h
  have h0 := skipSpace_length s
  split at h
  · simp [fail] at h
  · rename_i b t ht
    rw [ht] at h0
    simp only [List.length_cons] at h0
    split at h
    · have := scanString_length h; omega
    · simp at h

def Reader.string : Reader String := ⟨readString, readString_length⟩

/-! ### Lists -/

/-- The input after the end of a list that was left in the middle. -/
def leaveList (s : Bytes) : Bytes :=
  match skipSpace s with
  | [] => []
  | b :: r => if b = byte ']' then r else if b = byte ',' then skipSpace r else b :: r

/-- The input after the end of an object that was left in the middle. -/
def leaveObject (s : Bytes) : Bytes :=
  match skipSpace s with
  | [] => []
  | b :: r => if b = byte '\x7d' then r else b :: r

/-- Gives a pending fault its place. -/
def Fault.settle (leave : Bytes → Bytes) (f : Fault) : Fault :=
  if f.pending then { f with rest := leave f.rest, ahead := 0, pending := false } else f

/-- Comes to the next item of a list: `none` at its closing bracket, else the input at the item. -/
def nextItem (first : Bool) (s : Bytes) : Except Fault (Option Bytes) :=
  match skipSpace s with
  | [] => .error ⟨.endInArray, [], 0, false⟩
  | b :: r =>
    if b = byte ']' then .ok none
    else if first then .ok (some (b :: r))
    else if b = byte ',' then
      match skipSpace r with
      | [] => .error ⟨.endInValue, [], 0, false⟩
      | c :: t =>
        if c = byte ']' then .error ⟨.trailingComma, c :: t, 1, false⟩ else .ok (some (c :: t))
    else .error ⟨.noCommaInArray, b :: r, 1, false⟩

theorem nextItem_length {first : Bool} {s t : Bytes} (h : nextItem first s = .ok (some t)) :
    t.length ≤ s.length := by
  unfold nextItem at h
  have h0 := skipSpace_length s
  split at h
  · simp at h
  · rename_i b r hr
    rw [hr] at h0
    simp only [List.length_cons] at h0
    split at h
    · simp at h
    · split at h
      · simp only [Except.ok.injEq, Option.some.injEq] at h
        rw [← h]; simpa using h0
      · split at h
        · have h1 := skipSpace_length r
          split at h
          · simp at h
          · rename_i c u hu
            rw [hu] at h1
            split at h
            · simp at h
            · simp only [Except.ok.injEq, Option.some.injEq] at h
              rw [← h]; omega
        · simp at h

/-- Reads the items of a list up to its closing bracket, behind those read before, which are in
`items` with the last one first. -/
def listItems {α : Type} (item : Reader α) (first : Bool) (items : List α) (s : Bytes) :
    Scan (List α) :=
  match _h : nextItem first s with
  | .error e => .error e
  | .ok none => .ok (items.reverse, (skipSpace s).drop 1)
  | .ok (some t) =>
    match _hi : item.read t with
    | .error e => .error (e.settle leaveList)
    | .ok (a, r) => listItems item false (a :: items) r
termination_by s.length
decreasing_by
  have := nextItem_length _h
  have := item.shorter _hi
  omega

theorem listItems_length {α : Type} {item : Reader α} {first : Bool} {items l : List α}
    {s r : Bytes} (h : listItems item first items s = .ok (l, r)) : r.length ≤ s.length := by
  fun_induction listItems item first items s with
  | case1 => simp at h
  | case2 =>
    rename_i s _
    simp only [Except.ok.injEq, Prod.mk.injEq] at h
    have := skipSpace_length s
    rw [← h.2, List.length_drop]; omega
  | case3 => simp at h
  | case4 =>
    rename_i hn _ _ hi ih
    have := nextItem_length hn
    have := item.shorter hi
    have := ih h
    omega

/-- Reads a list, in which lists and objects may nest `depth` deep, itself included. -/
def readList {α : Type} (depth : Nat) (item : Reader α) (s : Bytes) : Scan (List α) :=
  match skipSpace s with
  | [] => fail .endInValue []
  | b :: r =>
    if b = byte '[' then
      if depth = 0 then failAt .tooDeep (b :: r) else listItems item true [] r
    else .error (wrongKind "a sequence" b r)

theorem readList_length {α : Type} {depth : Nat} {item : Reader α} {s r : Bytes} {l : List α}
    (h : readList depth item s = .ok (l, r)) : r.length < s.length := by
  unfold readList at h
  have h0 := skipSpace_length s
  split at h
  · simp [fail] at h
  · rename_i b t ht
    rw [ht] at h0
    simp only [List.length_cons] at h0
    split at h
    · split at h
      · simp [failAt] at h
      · have := listItems_length h; omega
    · simp at h

def Reader.list {α : Type} (depth : Nat) (item : Reader α) : Reader (List α) :=
  ⟨readList depth item, readList_length⟩

/-! ### Objects -/

/-- Reads the colon between a key and its value. -/
def colon (s : Bytes) : Scan Unit :=
  match skipSpace s with
  | [] => fail .endInObject []
  | b :: r => if b = byte ':' then .ok ((), r) else failAt .noColon (b :: r)

theorem colon_length {s r : Bytes} {u : Unit} (h : colon s = .ok (u, r)) :
    r.length < s.length := by
  unfold colon at h
  have h0 := skipSpace_length s
  split at h
  · simp [fail] at h
  · rename_i b t ht
    rw [ht] at h0
    simp only [List.length_cons] at h0
    split at h
    · simp only [Except.ok.injEq, Prod.mk.injEq, true_and] at h; rw [← h]; omega
    · simp [failAt] at h

/-- Reads the next key of an object; `none` at its closing bracket, which stays unread. -/
def nextKey (first : Bool) (s : Bytes) : Scan (Option String) :=
  match skipSpace s with
  | [] => fail .endInObject []
  | b :: r =>
    if b = byte '\x7d' then .ok (none, b :: r)
    else if first then
      if b = byte '"' then onResult some (scanString r)
      else failAt .keyNotString (b :: r)
    else if b = byte ',' then
      match skipSpace r with
      | [] => fail .endInValue []
      | c :: t =>
        if c = byte '"' then onResult some (scanString t)
        else if c = byte '\x7d' then failAt .trailingComma (c :: t)
        else failAt .keyNotString (c :: t)
    else failAt .noCommaInObject (b :: r)

theorem nextKey_length {first : Bool} {s t : Bytes} {k : Option String}
    (h : nextKey first s = .ok (k, t)) : t.length ≤ s.length := by
  unfold nextKey at h
  have h0 := skipSpace_length s
  split at h
  · simp [fail] at h
  · rename_i b r hr
    rw [hr] at h0
    simp only [List.length_cons] at h0
    split at h
    · simp only [Except.ok.injEq, Prod.mk.injEq] at h; rw [← h.2]; simpa using h0
    · split at h
      · split at h
        · have := scanString_length (of_onResult_eq_ok h).choose_spec; omega
        · simp [failAt] at h
      · split at h
        · have h1 := skipSpace_length r
          split at h
          · simp [fail] at h
          · rename_i c u hu
            rw [hu] at h1
            simp only [List.length_cons] at h1
            split at h
            · have := scanString_length (of_onResult_eq_ok h).choose_spec; omega
            · split at h <;> simp [failAt] at h
        · simp [failAt] at h

/-- Reads the fields of an object up to its closing bracket, behind those read before, which are in
`fields` with the last one first. -/
def objectFields {α : Type} (value : Reader α) (first : Bool) (fields : List (String × α))
    (s : Bytes) : Scan (List (String × α)) :=
  match _h : nextKey first s with
  | .error e => .error e
  | .ok (none, r) => .ok (fields.reverse, r.drop 1)
  | .ok (some key, r) =>
    match _hc : colon r with
    | .error e => .error e
    | .ok (_, t) =>
      match _hv : value.read t with
      | .error e => .error (e.settle leaveObject)
      | .ok (a, u) => objectFields value false ((key, a) :: fields) u
termination_by s.length
decreasing_by
  have := nextKey_length _h
  have := colon_length _hc
  have := value.shorter _hv
  omega

theorem objectFields_length {α : Type} {value : Reader α} {first : Bool}
    {fields l : List (String × α)} {s r : Bytes}
    (h : objectFields value first fields s = .ok (l, r)) : r.length ≤ s.length := by
  fun_induction objectFields value first fields s with
  | case1 => simp at h
  | case2 =>
    rename_i hn
    simp only [Except.ok.injEq, Prod.mk.injEq] at h
    have := nextKey_length hn
    rw [← h.2, List.length_drop]; omega
  | case3 => simp at h
  | case4 => simp at h
  | case5 =>
    rename_i hn _ _ hc _ _ hv ih
    have := nextKey_length hn
    have := colon_length hc
    have := value.shorter hv
    have := ih h
    omega

/-! ### Values of any kind -/

/-- Reads a value of any kind, in which lists and objects may nest `depth` deep. -/
def Reader.any : Nat → Reader Json
  | 0 =>
    { read := fun s =>
        match skipSpace s with
        | [] => fail .endInValue []
        | b :: r =>
          if b = byte '[' || b = byte '\x7b' then failAt .tooDeep (b :: r) else scalar b r
      shorter := by
        intro s r a h
        have h0 := skipSpace_length s
        split at h
        · simp [fail] at h
        · rename_i b t ht
          rw [ht] at h0
          simp only [List.length_cons] at h0
          split at h
          · simp [failAt] at h
          · have := scalar_length h; omega }
  | depth + 1 =>
    { read := fun s =>
        match skipSpace s with
        | [] => fail .endInValue []
        | b :: r =>
          if b = byte '[' then
            onResult .array (listItems (Reader.any depth) true [] r)
          else if b = byte '\x7b' then
            onResult .object (objectFields (Reader.any depth) true [] r)
          else scalar b r
      shorter := by
        intro s r a h
        have h0 := skipSpace_length s
        split at h
        · simp [fail] at h
        · rename_i b t ht
          rw [ht] at h0
          simp only [List.length_cons] at h0
          split at h
          · have := listItems_length (of_onResult_eq_ok h).choose_spec; omega
          · split at h
            · have := objectFields_length (of_onResult_eq_ok h).choose_spec; omega
            · have := scalar_length h; omega }

/-! ### Whole texts -/

/-- Reads a text that holds one value and nothing else but blanks. -/
def Reader.decode {α : Type} (reader : Reader α) (input : Bytes) : Except Fault α :=
  match reader.read input with
  | .error e => .error e
  | .ok (a, r) =>
    match skipSpace r with
    | [] => .ok a
    | b :: t => .error ⟨.trailingCharacters, b :: t, 1, false⟩

/-- A text of any JSON value. -/
def parse (text : String) : Except Fault Json :=
  (Reader.any maxDepth).decode text.toUTF8.toList

end ColumnMap.Json
