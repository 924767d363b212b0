import ColumnMap.App.Desk
import ColumnMap.App.Session

/-!
A session is a run of the program with its lookups. First in, first out is one of the orders in
which lookups can run, and the passing of time one of the ways in which answers can arrive, so what
holds of every run of the desk holds of every session.
-/

namespace ColumnMap

/-! ### Schedules -/

namespace Schedule

/-- Steps of lookups lead from the one state to the other. -/
def LeadsTo (s t : Schedule) : Prop := ∃ steps, t.traffic = s.traffic.run steps

variable {s t u : Schedule}

theorem LeadsTo.refl (s : Schedule) : s.LeadsTo s := ⟨[], rfl⟩

theorem LeadsTo.step (st : Traffic.Step) (h : t.traffic = s.traffic.step st) : s.LeadsTo t :=
  ⟨[st], h⟩

theorem LeadsTo.trans (h : s.LeadsTo t) (h' : t.LeadsTo u) : s.LeadsTo u := by
  obtain ⟨first, same⟩ := h
  obtain ⟨rest, same'⟩ := h'
  refine ⟨first ++ rest, ?_⟩
  rw [same', same]
  exact List.foldl_append.symm

theorem leadsTo_foldl {α : Type} {f : Schedule → α → Schedule}
    (h : ∀ (s : Schedule) (a : α), s.LeadsTo (f s a))
    (s : Schedule) (l : List α) : s.LeadsTo (l.foldl f s) := by
  induction l generalizing s with
  | nil => exact .refl s
  | cons a l ih => exact (h s a).trans (ih (f s a))

@[simp] theorem traffic_wake (s : Schedule) (x : Token) : (s.wake x).traffic = s.traffic := by
  unfold wake
  split <;> rfl

@[simp] theorem traffic_absorb (s : Schedule) (e : Effect) :
    (s.absorb e).traffic = s.traffic.absorb e := by
  cases e <;> simp [absorb]

@[simp] theorem traffic_absorbAll (s : Schedule) (es : List Effect) :
    (s.absorbAll es).traffic = s.traffic.absorbAll es := by
  induction es generalizing s with
  | nil => rfl
  | cons e es ih =>
    rw [absorbAll, List.foldl_cons, Traffic.absorbAll, List.foldl_cons, ← traffic_absorb]
    exact ih (s.absorb e)

theorem leadsTo_deliver (s : Schedule) (x : Token) (a : Lookup.Answer) :
    s.LeadsTo (s.deliver x a) :=
  .step (.answer x a) (traffic_wake _ x)

/-- A call may have its answer at once. -/
theorem leadsTo_call (s : Schedule) (k : Task) : s.LeadsTo (s.call k) := by
  have called : s.LeadsTo { s with traffic := s.traffic.call k.token } := .step (.call k.token) rfl
  unfold call
  split
  · exact .refl s
  · simp only
    split
    · exact called
    · next a _ => exact called.trans (.step (.answer k.token a) rfl)
    · exact called

theorem leadsTo_runOne (s : Schedule) (x : Token) : s.LeadsTo (s.runOne x) := by
  unfold runOne
  split
  · exact .refl s
  · next k _ => exact (s.leadsTo_call k).trans (.step (.finish x true) rfl)

theorem leadsTo_run (s : Schedule) : s.LeadsTo s.run :=
  leadsTo_foldl leadsTo_runOne { s with ready := [] } s.ready

theorem leadsTo_advance (s : Schedule) (milliseconds : Nat) :
    s.LeadsTo (s.advance milliseconds) := by
  have arrives : ∀ (s : Schedule) (t : Timer), s.LeadsTo (s.deliver t.token t.answer) :=
    fun s t => s.leadsTo_deliver t.token t.answer
  exact leadsTo_foldl arrives _ _

theorem leadsTo_respond (s : Schedule) (number : Nat) (a : Lookup.Answer) :
    s.LeadsTo (s.respond number a).2 := by
  unfold respond
  split
  · exact .refl s
  · next c _ =>
    split
    · exact .refl s
    · simp only
      split
      · exact leadsTo_deliver { s with answered := number :: s.answered } c.token a
      · exact .refl s

end Schedule

/-! ### Sessions -/

namespace Session

/-- The program and its lookups, whatever their order. -/
def desk (s : Session) : Desk := ⟨s.app, s.schedule.traffic⟩

theorem desk_adopt (s : Session) (r : App × List Effect) : (s.adopt r).desk = s.desk.after r := by
  simp [desk, adopt, Desk.after]

theorem exists_run_of_leadsTo {s : Session} {schedule : Schedule}
    (h : s.schedule.LeadsTo schedule) :
    ∃ events, ({ s with schedule } : Session).desk = s.desk.run events := by
  obtain ⟨steps, same⟩ := h
  refine ⟨steps.map .lookup, ?_⟩
  have run : ∀ (steps : List Traffic.Step) (t : Traffic),
      Desk.run ⟨s.app, t⟩ (steps.map .lookup) = ⟨s.app, t.run steps⟩ := by
    intro steps
    induction steps with
    | nil => exact fun _ => rfl
    | cons st steps ih => exact fun t => ih (t.step st)
  rw [desk, desk, run, same]

theorem exists_run_step (s : Session) (ev : Event) :
    ∃ events, (s.step ev).desk = s.desk.run events := by
  cases ev with
  | key k => exact ⟨[.key k], s.desk_adopt _⟩
  | run => exact exists_run_of_leadsTo s.schedule.leadsTo_run
  | advance milliseconds => exact exists_run_of_leadsTo (s.schedule.leadsTo_advance milliseconds)
  | respond number a => exact exists_run_of_leadsTo (s.schedule.leadsTo_respond number a)
  | receive =>
    simp only [step, takeMessage]
    cases queue : s.schedule.traffic.queue with
    | nil => exact ⟨[], rfl⟩
    | cons message rest =>
      refine ⟨[.deliver 0], ?_⟩
      simp only
      rw [desk_adopt]
      simp only [Desk.run_cons, Desk.run_nil, Desk.step, desk, queue, List.getElem?_cons_zero,
        List.eraseIdx_cons_zero]

/-- Every session is matched by a run of the desk, to the same state of the program and of all
lookups. -/
theorem exists_run (dataSource : DataSource) (source : Source) (initial : List Mapping)
    (log : Log.Buffer) (events : List Event) :
    ∃ matching, ((start dataSource source initial log).play events).desk =
      (Desk.start dataSource source.name initial log).run matching := by
  suffices h : ∀ (s : Session), ∃ matching, (s.play events).desk = s.desk.run matching from
    h (start dataSource source initial log)
  induction events with
  | nil => exact fun _ => ⟨[], rfl⟩
  | cons ev events ih =>
    intro s
    obtain ⟨first, stepped⟩ := s.exists_run_step ev
    obtain ⟨rest, played⟩ := ih (s.step ev)
    refine ⟨first ++ rest, ?_⟩
    rw [Desk.run_append, ← stepped]
    exact played

end Session

end ColumnMap
