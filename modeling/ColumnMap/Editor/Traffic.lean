import ColumnMap.Editor.Basic

/-!
The lookups that an editor has started, up to the messages that they leave for it. A lookup calls
its source once, when it first runs; it ends when it sees that it was cancelled or when the source
has answered, and then puts one message into the queue.
-/

namespace ColumnMap

/-- A lookup that has not finished. -/
structure Task where
  token : Token
  column : String
  /-- Whether the source has been called. -/
  isCalled : Bool := false
  isCancelled : Bool := false
  answer : Option Lookup.Answer := none

/-- A call that the source has received. -/
structure Call where
  token : Token
  column : String
  deriving DecidableEq, Repr

structure Traffic where
  /-- Name of the source, for the log. -/
  source : String
  /-- Unfinished lookups, in the order in which they were started. -/
  tasks : List Task := []
  /-- All calls so far, the first one first. -/
  calls : List Call := []
  /-- Messages that wait for the editor, the oldest first. -/
  queue : List Settled := []
  /-- What the parent form was told, in order. -/
  changes : List (List Mapping) := []
  log : List Log.Line := []

namespace Traffic

def task? (t : Traffic) (token : Token) : Option Task := t.tasks.find? (·.token == token)

/-- Changes the unfinished lookup with that token, if there is one. -/
def update (t : Traffic) (token : Token) (f : Task → Task) : Traffic :=
  { t with tasks := t.tasks.map fun k => if k.token == token then f k else k }

/-- Lets an effect of the editor happen. -/
def absorb (t : Traffic) : Effect → Traffic
  | .log line => { t with log := t.log ++ [line] }
  | .start token column => { t with tasks := t.tasks ++ [{ token, column }] }
  | .cancel token => t.update token fun k => { k with isCancelled := true }
  | .changed mappings => { t with changes := t.changes ++ [mappings] }

def absorbAll (t : Traffic) (effects : List Effect) : Traffic := effects.foldl absorb t

/-- A lookup runs for the first time and calls its source, cancelled or not. -/
def call (t : Traffic) (token : Token) : Traffic :=
  match t.task? token with
  | none => t
  | some k =>
    if k.isCalled then t
    else
      { t.update token fun k => { k with isCalled := true } with
        calls := t.calls ++ [⟨token, k.column⟩] }

/-- The source answers a call; only the first answer counts. -/
def answer (t : Traffic) (token : Token) (a : Lookup.Answer) : Traffic :=
  t.update token fun k => if k.isCalled && k.answer.isNone then { k with answer := some a } else k

/-- A lookup that has called its source looks whether it can finish. One that does not notice that
it was cancelled takes an answer that is there. -/
def finish (t : Traffic) (token : Token) (notices : Bool := true) : Traffic :=
  match t.task? token with
  | none => t
  | some k =>
    if !k.isCalled then t
    else
      match Lookup.settle? t.source k.column (k.isCancelled && notices) k.answer with
      | none => t
      | some (outcome, line) =>
        { t with
          tasks := t.tasks.filter (·.token != token)
          queue := t.queue ++ [⟨token, k.column, outcome⟩]
          log := t.log ++ [line] }

/-- What can happen to a lookup while nobody touches the editor. -/
inductive Step where
  /-- It runs for the first time. -/
  | call (token : Token)
  /-- The source answers its call. -/
  | answer (token : Token) (answer : Lookup.Answer)
  /-- It looks whether it can finish, noticing or not that it was cancelled. -/
  | finish (token : Token) (notices : Bool)

def step (t : Traffic) : Step → Traffic
  | .call token => t.call token
  | .answer token a => t.answer token a
  | .finish token notices => t.finish token notices

def run (t : Traffic) (steps : List Step) : Traffic := steps.foldl step t

end Traffic

end ColumnMap
