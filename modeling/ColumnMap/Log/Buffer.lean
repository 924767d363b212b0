import ColumnMap.Log.Line

/-!
The log as the screen keeps it: the newest entries, at most as many as the buffer holds. A buffer
that holds none still keeps the newest one. Who writes the log and who shows it have clones of one
buffer.
-/

namespace ColumnMap.Log

/-- A line with the second in which it was written, counted from the start of 1970. -/
structure Entry where
  second : Int
  line : Line
  deriving DecidableEq, Repr

/-- The entries that are kept, the oldest first. -/
structure Buffer where
  capacity : Nat
  entries : List Entry := []
  deriving Repr

namespace Buffer

/-- As many entries as the program keeps. -/
def standardCapacity : Nat := 1000

def empty (capacity : Nat) : Buffer := ⟨capacity, []⟩

/-- Adds an entry, and drops the oldest one if the buffer was full. -/
def add (b : Buffer) (e : Entry) : Buffer :=
  { b with
    entries := (if b.capacity ≤ b.entries.length then b.entries.drop 1 else b.entries) ++ [e] }

/-- The newest `n` entries, the oldest of them first. -/
def recent (b : Buffer) (n : Nat) : List Entry := b.entries.drop (b.entries.length - n)

def length (b : Buffer) : Nat := b.entries.length
def isEmpty (b : Buffer) : Bool := b.entries.isEmpty

end Buffer

/-! ### Clones -/

/-- A buffer in several hands. Its holders share the entries, and each has the capacity by itself.
Reading changes nothing, so holders only differ by what they do to the entries. -/
structure Shared where
  /-- The capacity that each holder has, the first one first. -/
  capacities : List Nat
  entries : List Entry := []
  deriving Repr

namespace Shared

inductive Event where
  /-- The holder makes a clone, which is a new holder. -/
  | clone (holder : Nat)
  | add (holder : Nat) (e : Entry)
  deriving DecidableEq, Repr

/-- The buffer as a holder finds it. -/
def buffer? (s : Shared) (holder : Nat) : Option Buffer :=
  s.capacities[holder]?.map fun capacity => ⟨capacity, s.entries⟩

def step (s : Shared) : Event → Shared
  | .clone holder =>
    match s.buffer? holder with
    | none => s
    | some b => { s with capacities := s.capacities ++ [b.capacity] }
  | .add holder e =>
    match s.buffer? holder with
    | none => s
    | some b => { s with entries := (b.add e).entries }

def run (s : Shared) (events : List Event) : Shared := events.foldl step s

@[simp] theorem run_nil (s : Shared) : s.run [] = s := rfl
@[simp] theorem run_cons (s : Shared) (ev : Event) (events : List Event) :
    s.run (ev :: events) = (s.step ev).run events := rfl

/-- A new buffer in the hands of one holder. -/
def start (capacity : Nat) : Shared := ⟨[capacity], []⟩

end Shared

end ColumnMap.Log
