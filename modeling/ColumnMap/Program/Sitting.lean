import ColumnMap.App.Desk
import ColumnMap.Program.Lookup

/-!
The editor at the terminal. Keys are typed; between them lookups run, the source answers them, their
messages reach the editor and time passes, in any order. A sitting ends when a key quits, when the
screen cannot be drawn, or with the last key.
-/

namespace ColumnMap.Program

/-- A state of the editor at the terminal, to which a run from its start has led. -/
structure Sitting where
  table : DataSource
  /-- Name of the source of the values. -/
  source : String
  initial : List Mapping
  desk : Desk
  /-- What the source has answered, also what has not reached its lookup yet. -/
  answers : List (Token × Lookup.Answer) := []
  reached : ∃ events,
    desk = (Desk.start table source initial (.empty Log.Buffer.standardCapacity)).run events

namespace Sitting

def start (table : DataSource) (source : String) (initial : List Mapping) : Sitting where
  table
  source
  initial
  desk := Desk.start table source initial (.empty Log.Buffer.standardCapacity)
  reached := ⟨[], rfl⟩

def after (s : Sitting) (ev : Desk.Event) : Sitting where
  table := s.table
  source := s.source
  initial := s.initial
  desk := s.desk.step ev
  answers := s.answers
  reached := by
    obtain ⟨events, same⟩ := s.reached
    exact ⟨events ++ [ev], by rw [Desk.run_append, ← same]; rfl⟩

/-- The list that the parent form holds: the last one that it was told. -/
def form (s : Sitting) : List Mapping := s.desk.traffic.changes.getLast?.getD s.initial

def formLine (mappings : List Mapping) : Log.Line :=
  mainLine .debug ("Form value now holds " ++ toString mappings.length ++ " mapping(s)")

/-- What the log says of the way from one state to another; last, what the form was told. -/
def lines (s t : Traffic) : List Log.Line :=
  t.log.drop s.log.length ++ (t.changes.drop s.changes.length).map formLine

section

variable {m : Type → Type} [Monad m] (host : Host m) (logger : Logger) (origin : Origin)

/-- Something happens, and the log says so. -/
def goOn (s : Sitting) (ev : Desk.Event) : m Sitting := do
  let t := s.after ev
  sayAll host logger (lines s.desk.traffic t.desk.traffic)
  return t

/-- Calls the source for a lookup, unless it has been called. If the request is interrupted there
will be no answer. -/
def callSource (s : Sitting) (token : Token) : m Sitting := do
  match s.desk.traffic.task? token with
  | none => return s
  | some k =>
    if k.isCalled then return s
    else
      let answer ← callOrigin host logger s.table k.column origin
      return { s with answers := s.answers ++ answer.toList.map (token, ·) }

def happen (s : Sitting) : Occurrence → m Sitting
  | .tick now => goOn host logger s (.tick now)
  | .call token => do
    let s ← callSource host logger origin s token
    goOn host logger s (.lookup (.call token))
  | .answer token =>
    match s.answers.lookup token with
    | none => return s
    | some a => goOn host logger s (.lookup (.answer token a))
  | .finish token notices => goOn host logger s (.lookup (.finish token notices))
  | .receive => goOn host logger s (.deliver 0)
  | .clipboard fault => goOn host logger s (.clipboard fault)

/-- What happens before the next key, when so many were typed. -/
def wait (s : Sitting) (typed : Nat) : m Sitting :=
  (host.meanwhile typed s.desk.traffic).foldlM (happen host logger origin) s

def noScreen (reason : String) : Trouble := ⟨"Failed to draw terminal", [reason]⟩

/-- Keys are typed until one of them quits, after `typed` keys before; with the trouble that ended
the sitting, if any. -/
def typeKeys (s : Sitting) (typed : Nat) : List Console.Key → m (Sitting × Option Trouble)
  | [] => do
    let s ← wait host logger origin s typed
    return (s, (host.screenFault typed).map noScreen)
  | k :: rest => do
    let s ← wait host logger origin s typed
    match host.screenFault typed with
    | some reason => return (s, some (noScreen reason))
    | none =>
      let s ← goOn host logger s (.key k)
      if s.desk.app.shouldQuit then return (s, none) else typeKeys s (typed + 1) rest

end

end Sitting

end ColumnMap.Program
