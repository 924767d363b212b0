import ColumnMap.App.Basic
import ColumnMap.Editor.Schedule

/-!
The interactive program together with the lookups that it has started, which run first in, first
out.
-/

namespace ColumnMap

structure Session where
  app : App
  schedule : Schedule

namespace Session

/-- An editor of the given mappings; nothing has happened yet. -/
def start (dataSource : DataSource) (source : Source) (initial : List Mapping) (log : Log.Buffer) :
    Session where
  app := { editor := { dataSource, mappings := initial }, log }
  schedule := .start source

/-- Takes over an operation of the program. -/
def adopt (s : Session) (r : App × List Effect) : Session := ⟨r.1, s.schedule.absorbAll r.2⟩

/-- Takes over an operation of the editor. -/
def adoptReply (s : Session) (r : Reply) : Session :=
  ⟨s.app.adopt r, s.schedule.absorbAll r.effects⟩

def key (s : Session) (k : Console.Key) : Session := s.adopt (s.app.key k)

/-- Runs all lookups that can run. -/
def run (s : Session) : Session := { s with schedule := s.schedule.run }

/-- Takes the oldest message out of the queue. -/
def takeMessage (s : Session) : Option (Settled × Session) :=
  match s.schedule.traffic.queue with
  | [] => none
  | m :: rest =>
    some (m,
      { s with schedule := { s.schedule with traffic := { s.schedule.traffic with queue := rest } } })

/-- Takes the program away. -/
def drop (s : Session) : Session :=
  { s with schedule := s.schedule.absorbAll s.app.editor.drop }

/-! ### Runs -/

inductive Event where
  | key (k : Console.Key)
  /-- The lookups that can run do so. -/
  | run
  /-- The oldest message reaches the program. -/
  | receive
  /-- Time passes. -/
  | advance (milliseconds : Nat)
  /-- A call is answered from outside. -/
  | respond (number : Nat) (answer : Lookup.Answer)

def step (s : Session) : Event → Session
  | .key k => s.key k
  | .run => s.run
  | .receive =>
    match s.takeMessage with
    | none => s
    | some (message, t) => t.adopt (t.app.settle message)
  | .advance milliseconds => { s with schedule := s.schedule.advance milliseconds }
  | .respond number answer => { s with schedule := (s.schedule.respond number answer).2 }

def play (s : Session) (events : List Event) : Session := events.foldl step s

end Session

end ColumnMap
