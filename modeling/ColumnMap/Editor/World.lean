import ColumnMap.Editor.Traffic

/-!
An editor with its lookups. What happens in this world, and in which order, is left open: the user
works, lookups run, sources answer and messages arrive as they like.
-/

namespace ColumnMap

structure World where
  editor : Editor
  traffic : Traffic
  /-- The list that the parent form holds. -/
  form : List Mapping

namespace World

inductive Event where
  /-- The user does something. -/
  | perform (operation : Operation)
  /-- Something happens to a lookup. -/
  | lookup (step : Traffic.Step)
  /-- The message at that place of the queue reaches the editor. -/
  | deliver (place : Nat)

/-- The last list among the effects that the parent form was told. -/
def formAfter (form : List Mapping) : List Effect → List Mapping
  | [] => form
  | .changed mappings :: rest => formAfter mappings rest
  | _ :: rest => formAfter form rest

/-- The world after an operation that gave the reply `r`. -/
def after (w : World) (r : Reply) : World :=
  ⟨r.editor, w.traffic.absorbAll r.effects, formAfter w.form r.effects⟩

def step (w : World) : Event → World
  | .perform operation => w.after (w.editor.perform operation)
  | .lookup s => { w with traffic := w.traffic.step s }
  | .deliver place =>
    match w.traffic.queue[place]? with
    | none => w
    | some message =>
      { w with traffic := { w.traffic with queue := w.traffic.queue.eraseIdx place } }.after
        (w.editor.applyLookup message)

def run (w : World) (events : List Event) : World := events.foldl step w

@[simp] theorem run_nil (w : World) : w.run [] = w := rfl
@[simp] theorem run_cons (w : World) (e : Event) (events : List Event) :
    w.run (e :: events) = (w.step e).run events := rfl

theorem run_append (w : World) (a b : List Event) : w.run (a ++ b) = (w.run a).run b :=
  List.foldl_append

/-- A new editor with the given mappings; nothing has happened yet. -/
def start (dataSource : DataSource) (source : String) (initial : List Mapping) : World :=
  ⟨{ dataSource, mappings := initial }, { source }, initial⟩

end World

end ColumnMap
