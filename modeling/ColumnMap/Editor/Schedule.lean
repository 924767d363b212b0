import ColumnMap.Editor.Traffic
import ColumnMap.Lookup.Demo

/-!
One order in which lookups run: first in, first out. A lookup can run when it has been started,
when it has been cancelled, and when its call has been answered. Time stands still while lookups
run.
-/

namespace ColumnMap

/-- Where values come from. -/
structure Source where
  name : String
  /-- What the source answers about a column, after so many milliseconds; nothing if somebody else
  has to answer. -/
  reply : String → Option (Nat × Lookup.Answer)

namespace Source

/-- A source whose calls wait for an answer from elsewhere. -/
def gated (name : String) : Source := ⟨name, fun _ => none⟩

/-- A source that answers at once, with an empty list for a column that it does not know. -/
def fixed (name : String) (answers : List (String × Lookup.Answer)) : Source :=
  ⟨name, fun column => some (0, (answers.lookup column).getD (.ok []))⟩

/-- The source of the demo mode. -/
def demo (delay : Nat) : Source :=
  ⟨Lookup.Demo.name, fun column =>
    some (Lookup.Demo.latency delay column, Lookup.Demo.answer column)⟩

end Source

/-- An answer on its way. -/
structure Timer where
  due : Nat
  token : Token
  answer : Lookup.Answer

structure Schedule where
  source : Source
  traffic : Traffic
  /-- Lookups that can run now, the next one first. -/
  ready : List Token := []
  /-- Milliseconds since the start. -/
  now : Nat := 0
  /-- Answers that are on their way, in the order of their calls. -/
  timers : List Timer := []
  /-- Numbers of the calls that were answered from outside. -/
  answered : List Nat := []

namespace Schedule

def start (source : Source) : Schedule := { source, traffic := { source := source.name } }

/-- Puts an unfinished lookup at the end of the queue, unless it stands in it. -/
def wake (s : Schedule) (token : Token) : Schedule :=
  if (s.traffic.task? token).isSome && !s.ready.contains token then
    { s with ready := s.ready ++ [token] }
  else s

/-- Lets an effect of the editor happen. -/
def absorb (s : Schedule) (effect : Effect) : Schedule :=
  let t := { s with traffic := s.traffic.absorb effect }
  match effect with
  | .start token _ => t.wake token
  | .cancel token => t.wake token
  | _ => t

def absorbAll (s : Schedule) (effects : List Effect) : Schedule := effects.foldl absorb s

/-- The answer reaches the lookup, which can go on. -/
def deliver (s : Schedule) (token : Token) (a : Lookup.Answer) : Schedule :=
  { s with traffic := s.traffic.answer token a }.wake token

/-- A lookup calls its source if it has not done so; an answer that takes time is put on its way. -/
def call (s : Schedule) (k : Task) : Schedule :=
  if k.isCalled then s
  else
    let t := { s with traffic := s.traffic.call k.token }
    match s.source.reply k.column with
    | none => t
    | some (0, a) => { t with traffic := t.traffic.answer k.token a }
    | some (wait, a) => { t with timers := t.timers ++ [⟨t.now + wait, k.token, a⟩] }

/-- A lookup runs until it has to wait or is finished. -/
def runOne (s : Schedule) (token : Token) : Schedule :=
  match s.traffic.task? token with
  | none => s
  | some k =>
    let t := s.call k
    { t with traffic := t.traffic.finish token }

/-- Runs all lookups that can run. -/
def run (s : Schedule) : Schedule := s.ready.foldl runOne { s with ready := [] }

/-- Inserts a timer behind all that are due before it or with it. -/
def insertByDue (t : Timer) : List Timer → List Timer
  | [] => [t]
  | u :: rest => if u.due ≤ t.due then u :: insertByDue t rest else t :: u :: rest

/-- Lets time pass; the answers that arrive do so in the order in which they are due. -/
def advance (s : Schedule) (milliseconds : Nat) : Schedule :=
  let now := s.now + milliseconds
  let due := (s.timers.filter (·.due ≤ now)).foldl (fun l t => insertByDue t l) []
  due.foldl (fun s t => s.deliver t.token t.answer)
    { s with now := now, timers := s.timers.filter fun t => !(t.due ≤ now) }

/-- Answers a call from outside. Tells whether the lookup still waited for it; nothing, if the call
cannot be answered or was answered before. -/
def respond (s : Schedule) (number : Nat) (a : Lookup.Answer) : Option Bool × Schedule :=
  match s.traffic.calls[number]? with
  | none => (none, s)
  | some c =>
    if (s.source.reply c.column).isSome || s.answered.contains number then (none, s)
    else
      let t := { s with answered := number :: s.answered }
      if (s.traffic.task? c.token).isSome then (some true, t.deliver c.token a)
      else (some false, t)

end Schedule

end ColumnMap
