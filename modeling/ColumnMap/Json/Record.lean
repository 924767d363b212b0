import ColumnMap.Json.Reader

/-!
Records: objects with known fields of one kind. Fields of other names are passed over, a known one
may stand once, and some must be given. A record may also be written as the list of its fields.
-/

namespace ColumnMap.Json

structure FieldName where
  name : String
  required : Bool

structure Shape where
  title : String
  fields : List FieldName

namespace Shape

def wanted (shape : Shape) : String := "struct " ++ shape.title

def wantedLength (shape : Shape) : String :=
  let n := shape.fields.length
  shape.wanted ++ " with " ++ toString n ++ (if n = 1 then " element" else " elements")

def has (shape : Shape) (name : String) : Bool := shape.fields.any (·.name == name)

/-- The first field that must be given and is not. -/
def missing? {α : Type} (shape : Shape) (given : List (String × α)) : Option String :=
  (shape.fields.find? fun f => f.required && !given.any (·.1 == f.name)).map (·.name)

end Shape

/-- Reads the closing bracket of a list whose items have been read. -/
def closeList (s : Bytes) : Scan Unit :=
  match skipSpace s with
  | [] => fail .endInArray []
  | b :: r =>
    if b = byte ']' then .ok ((), r)
    else if b = byte ',' then
      if (skipSpace r).head? == some (byte ']') then failAt .trailingComma (skipSpace r)
      else failAt .trailingCharacters (skipSpace r)
    else failAt .trailingCharacters (b :: r)

theorem closeList_length {s r : Bytes} {u : Unit} (h : closeList s = .ok (u, r)) :
    r.length ≤ s.length := by
  unfold closeList at h
  have h0 := skipSpace_length s
  split at h
  · simp [fail] at h
  · rename_i b t ht
    rw [ht] at h0
    simp only [List.length_cons] at h0
    split at h
    · simp only [Except.ok.injEq, Prod.mk.injEq, true_and] at h; rw [← h]; omega
    · split at h
      · split at h <;> simp [failAt] at h
      · simp [failAt] at h

section

variable {α : Type} (shape : Shape) (value : Reader α)

/-- Reads the fields of a record written as a list, from the field numbered `index` on. -/
def listedFields (index : Nat) (given : List (String × α)) :
    List FieldName → Bytes → Scan (List (String × α))
  | [], s => onResult (fun _ => given.reverse) (closeList s)
  | f :: more, s =>
    match nextItem (index == 0) s with
    | .error e => .error e
    | .ok none =>
      if f.required then
        .error (Fault.settle leaveList ⟨.wrongLength index shape.wantedLength, s, 0, true⟩)
      else listedFields index given more s
    | .ok (some t) =>
      match value.read t with
      | .error e => .error (e.settle leaveList)
      | .ok (a, r) => listedFields (index + 1) ((f.name, a) :: given) more r

theorem listedFields_length {index : Nat} {given l : List (String × α)} {fields : List FieldName}
    {s r : Bytes} (h : listedFields shape value index given fields s = .ok (l, r)) :
    r.length ≤ s.length := by
  induction fields generalizing index given s with
  | nil => exact closeList_length (of_onResult_eq_ok h).choose_spec
  | cons f more ih =>
    simp only [listedFields] at h
    split at h
    · simp at h
    · split at h
      · simp at h
      · exact ih h
    · rename_i t hn
      have := nextItem_length hn
      split at h
      · simp at h
      · rename_i hv
        have := value.shorter hv
        have := ih h
        omega

/-- Ends a record at the closing bracket of its object, unless a field is missing. -/
def closeFields (given : List (String × α)) (s : Bytes) : Scan (List (String × α)) :=
  match shape.missing? given with
  | some name => .error (Fault.settle leaveObject ⟨.missingField name, s, 0, true⟩)
  | none => .ok (given.reverse, s.drop 1)

/-- Reads the fields of a record written as an object. -/
def namedFields (first : Bool) (given : List (String × α)) (s : Bytes) :
    Scan (List (String × α)) :=
  match _h : nextKey first s with
  | .error e => .error e
  | .ok (none, r) => closeFields shape given r
  | .ok (some key, r) =>
    if shape.has key then
      if given.any (·.1 == key) then
        .error (Fault.settle leaveObject ⟨.repeatedField key, r, 0, true⟩)
      else match _hc : colon r with
        | .error e => .error e
        | .ok (_, t) =>
          match _hv : value.read t with
          | .error e => .error (e.settle leaveObject)
          | .ok (a, u) => namedFields false ((key, a) :: given) u
    else match _hc : colon r with
      | .error e => .error e
      | .ok (_, t) =>
        match _hv : skipValue t with
        | .error e => .error e
        | .ok (_, u) => namedFields false given u
termination_by s.length
decreasing_by
  · have := nextKey_length _h
    have := colon_length _hc
    have := value.shorter _hv
    omega
  · have := nextKey_length _h
    have := colon_length _hc
    have := skipValue_length _hv
    omega

theorem namedFields_length {first : Bool} {given l : List (String × α)} {s r : Bytes}
    (h : namedFields shape value first given s = .ok (l, r)) : r.length ≤ s.length := by
  fun_induction namedFields shape value first given s with
  | case1 => simp at h
  | case2 =>
    rename_i hn
    have := nextKey_length hn
    unfold closeFields at h
    split at h
    · simp at h
    · simp only [Except.ok.injEq, Prod.mk.injEq] at h
      rw [← h.2, List.length_drop]; omega
  | case6 =>
    rename_i hn _ _ _ _ hc _ _ hv ih
    have := nextKey_length hn
    have := colon_length hc
    have := value.shorter hv
    have := ih h
    omega
  | case9 =>
    rename_i hn _ _ _ hc _ _ hv ih
    have := nextKey_length hn
    have := colon_length hc
    have := skipValue_length hv
    have := ih h
    omega
  | _ => simp at h

/-- Reads a record; lists and objects may nest `depth` deep in it, itself included. -/
def readRecord (depth : Nat) (s : Bytes) : Scan (List (String × α)) :=
  match skipSpace s with
  | [] => fail .endInValue []
  | b :: r =>
    if b = byte '[' then
      if depth = 0 then failAt .tooDeep (b :: r) else listedFields shape value 0 [] shape.fields r
    else if b = byte '\x7b' then
      if depth = 0 then failAt .tooDeep (b :: r) else namedFields shape value true [] r
    else .error (wrongKind shape.wanted b r)

theorem readRecord_length {depth : Nat} {s r : Bytes} {l : List (String × α)}
    (h : readRecord shape value depth s = .ok (l, r)) : r.length < s.length := by
  unfold readRecord at h
  have h0 := skipSpace_length s
  split at h
  · simp [fail] at h
  · rename_i b t ht
    rw [ht] at h0
    simp only [List.length_cons] at h0
    split at h
    · split at h
      · simp [failAt] at h
      · have := listedFields_length shape value h; omega
    · split at h
      · split at h
        · simp [failAt] at h
        · have := namedFields_length shape value h; omega
      · simp at h

end

/-- Reader of a record, as the fields that were given. -/
def Reader.record {α : Type} (depth : Nat) (shape : Shape) (value : Reader α) :
    Reader (List (String × α)) :=
  ⟨readRecord shape value depth, readRecord_length shape value⟩

/-- Changes the result of a reader. -/
def Reader.map {α β : Type} (f : α → β) (reader : Reader α) : Reader β :=
  ⟨fun s => onResult f (reader.read s), fun h => reader.shorter (of_onResult_eq_ok h).choose_spec⟩

/-- Changes the result of a reader, or refuses it with a cause that gets its place only where the
list or object around it ends. -/
def Reader.accept {α β : Type} (f : α → Except Cause β) (reader : Reader α) : Reader β where
  read s :=
    match reader.read s with
    | .error e => .error e
    | .ok (a, r) =>
      match f a with
      | .error cause => .error ⟨cause, r, 0, true⟩
      | .ok b => .ok (b, r)
  shorter := by
    intro s r b h
    split at h
    · simp at h
    · rename_i hr
      split at h
      · simp at h
      · simp only [Except.ok.injEq, Prod.mk.injEq] at h
        have := reader.shorter hr
        rw [← h.2]; exact this

end ColumnMap.Json
