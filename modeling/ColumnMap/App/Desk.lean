import ColumnMap.App.Basic
import ColumnMap.Editor.Traffic

/-!
The interactive program with the lookups that it has started. Which operations take place, and when
lookups run, sources answer and messages arrive, is left open.
-/

namespace ColumnMap

structure Desk where
  app : App
  traffic : Traffic

namespace Desk

inductive Event where
  /-- The terminal reports a key. -/
  | key (k : Console.Key)
  | openNew
  | editSelected
  | removeSelected
  | selectPrevious
  | selectNext
  /-- What a key in the form can ask for, asked for in any state. -/
  | act (action : Action)
  /-- The time is told. -/
  | tick (now : Nat)
  /-- The clipboard of the system can be used from now on, or not and why. -/
  | clipboard (fault : Option (List String))
  /-- Something happens to a lookup. -/
  | lookup (step : Traffic.Step)
  /-- The message at that place of the queue reaches the program. -/
  | deliver (place : Nat)

/-- The program and its lookups after an operation. -/
def after (d : Desk) (r : App × List Effect) : Desk := ⟨r.1, d.traffic.absorbAll r.2⟩

def step (d : Desk) : Event → Desk
  | .key k => d.after (d.app.key k)
  | .openNew => d.after d.app.openNew
  | .editSelected => d.after d.app.editSelected
  | .removeSelected => d.after d.app.removeSelected
  | .selectPrevious => { d with app := d.app.selectPrevious }
  | .selectNext => { d with app := d.app.selectNext }
  | .act action => d.after (d.app.act action)
  | .tick now => { d with app := d.app.tick now }
  | .clipboard fault => { d with app := { d.app with clipboard := { d.app.clipboard with fault } } }
  | .lookup s => { d with traffic := d.traffic.step s }
  | .deliver place =>
    match d.traffic.queue[place]? with
    | none => d
    | some message =>
      { d with traffic := { d.traffic with queue := d.traffic.queue.eraseIdx place } }.after
        (d.app.settle message)

def run (d : Desk) (events : List Event) : Desk := events.foldl step d

@[simp] theorem run_nil (d : Desk) : d.run [] = d := rfl
@[simp] theorem run_cons (d : Desk) (e : Event) (events : List Event) :
    d.run (e :: events) = (d.step e).run events := rfl

theorem run_append (d : Desk) (a b : List Event) : d.run (a ++ b) = (d.run a).run b :=
  List.foldl_append

/-- A new program with the given mappings; nothing has happened yet. -/
def start (dataSource : DataSource) (source : String) (initial : List Mapping) (log : Log.Buffer) :
    Desk where
  app := { editor := { dataSource, mappings := initial }, log }
  traffic := { source }

end Desk

end ColumnMap
