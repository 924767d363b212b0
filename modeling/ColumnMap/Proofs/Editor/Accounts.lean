import ColumnMap.Proofs.Editor.History
import Mathlib.Data.List.Nodup
import Mathlib.Data.List.Perm.Basic

/-!
Requests, calls and messages in account. Every request that is started is called once and brings one
message, and no step of a lookup loses or doubles any of them.
-/

namespace ColumnMap

/-- What an unfinished lookup is to ask the source. -/
def Task.request (k : Task) : Call := ⟨k.token, k.column⟩

/-- What the lookup was asked that left the message. -/
def Settled.request (m : Settled) : Call := ⟨m.token, m.column⟩

namespace Traffic

/-- Requests whose lookup has not finished. -/
def unfinished (t : Traffic) : List Call := t.tasks.map (·.request)

/-- Requests whose lookup has not run yet. -/
def uncalled (t : Traffic) : List Call := (t.tasks.filter (!·.isCalled)).map (·.request)

/-- The messages that a step leaves. -/
def sends (t : Traffic) (st : Step) : List Settled := (t.step st).queue.drop t.queue.length

/-- The messages that steps leave, in order. -/
def sent (t : Traffic) : List Step → List Settled
  | [] => []
  | st :: steps => t.sends st ++ (t.step st).sent steps

/-! ### Effects -/

theorem calls_absorbAll (t : Traffic) (es : List Effect) : (t.absorbAll es).calls = t.calls := by
  induction es generalizing t with
  | nil => rfl
  | cons e es ih =>
    rw [absorbAll_cons, ih]
    cases e <;> rfl

theorem map_request {f : Task → Task} (hr : ∀ k, (f k).request = k.request) (tasks : List Task) :
    (tasks.map f).map (·.request) = tasks.map (·.request) := by
  rw [List.map_map]
  exact List.map_congr_left fun k _ => hr k

theorem filter_uncalled {f : Task → Task} (hc : ∀ k, (f k).isCalled = k.isCalled)
    (tasks : List Task) :
    (tasks.map f).filter (!·.isCalled) = (tasks.filter (!·.isCalled)).map f := by
  rw [List.filter_map]
  congr 2
  funext k
  simp [hc]

/-- Lookups keep their requests, and whether they have run. -/
theorem requests_map {f : Task → Task} (hr : ∀ k, (f k).request = k.request)
    (hc : ∀ k, (f k).isCalled = k.isCalled) (tasks : List Task) :
    (tasks.map f).map (·.request) = tasks.map (·.request) ∧
      ((tasks.map f).filter (!·.isCalled)).map (·.request) =
        (tasks.filter (!·.isCalled)).map (·.request) := by
  rw [filter_uncalled hc, map_request hr, map_request hr]
  exact ⟨rfl, rfl⟩

theorem requests_absorb (t : Traffic) (e : Effect) :
    (t.absorb e).unfinished = t.unfinished ++ startsOf [e] ∧
      (t.absorb e).uncalled = t.uncalled ++ startsOf [e] := by
  cases e with
  | log line => simp [absorb, unfinished, uncalled, startsOf]
  | changed l => simp [absorb, unfinished, uncalled, startsOf]
  | start x c => simp [absorb, unfinished, uncalled, startsOf, Task.request]
  | cancel x =>
    have hm := requests_map
      (f := fun k => if k.token == x then { k with isCancelled := true } else k)
      (fun k => by split <;> rfl) (fun k => by split <;> rfl) t.tasks
    simpa [absorb, update, unfinished, uncalled, startsOf] using hm

/-- Effects add the requests that they start. -/
theorem requests_absorbAll (t : Traffic) (es : List Effect) :
    (t.absorbAll es).unfinished = t.unfinished ++ startsOf es ∧
      (t.absorbAll es).uncalled = t.uncalled ++ startsOf es := by
  induction es generalizing t with
  | nil => simp
  | cons e es ih =>
    obtain ⟨hu, hc⟩ := ih (t.absorb e)
    obtain ⟨hu', hc'⟩ := t.requests_absorb e
    have hs : startsOf (e :: es) = startsOf [e] ++ startsOf es := startsOf_append [e] es
    rw [absorbAll_cons, hu, hc, hu', hc', hs, List.append_assoc, List.append_assoc]
    exact ⟨rfl, rfl⟩

end Traffic

/-- How calls and messages stand to the requests there have been. -/
structure Accounts (t : Traffic) (requests : List Call) (sent : List Settled) : Prop where
  /-- A request has been called, or its lookup has not run yet. -/
  called : requests.Perm (t.calls ++ t.uncalled)
  /-- A request has its message, or its lookup has not finished. -/
  settled : requests.Perm (sent.map (·.request) ++ t.unfinished)

namespace Accounts

variable {t : Traffic} {requests : List Call} {sent : List Settled}

theorem absorbAll (h : Accounts t requests sent) (es : List Effect) :
    Accounts (t.absorbAll es) (requests ++ startsOf es) sent := by
  obtain ⟨hu, hc⟩ := t.requests_absorbAll es
  constructor
  · rw [t.calls_absorbAll, hc, ← List.append_assoc]
    exact h.called.append_right _
  · rw [hu, ← List.append_assoc]
    exact h.settled.append_right _

/-! ### Steps of a lookup -/

/-- With tokens of their own, one lookup can be taken out of them by its token. -/
theorem tasks_perm {tasks : List Task} (hn : (tasks.map (·.token)).Nodup) {k : Task}
    (hk : k ∈ tasks) : tasks.Perm (k :: tasks.filter (·.token != k.token)) := by
  obtain ⟨before, after, rfl⟩ := List.append_of_mem hk
  simp only [List.map_append, List.map_cons, List.nodup_append, List.nodup_cons,
    List.mem_cons] at hn
  obtain ⟨-, ⟨hafter, -⟩, hbefore⟩ := hn
  have hb : before.filter (·.token != k.token) = before := by
    refine List.filter_eq_self.mpr fun j hj => ?_
    simpa using hbefore j.token (List.mem_map_of_mem hj) k.token (.inl rfl)
  have ha : after.filter (·.token != k.token) = after := by
    refine List.filter_eq_self.mpr fun j hj => ?_
    have hne : j.token ≠ k.token := fun he => hafter (he ▸ List.mem_map_of_mem hj)
    simpa using hne
  simp only [List.filter_append, List.filter_cons, bne_self_eq_false, Bool.false_eq_true, if_false,
    hb, ha]
  exact List.perm_middle

theorem answer (h : Accounts t requests sent) (x : Token) (a : Lookup.Answer) :
    Accounts (t.answer x a) requests sent := by
  have hm := Traffic.requests_map
    (f := fun k => if k.token = x ∧ Traffic.waits k = true then { k with answer := some a } else k)
    (fun k => by split <;> rfl) (fun k => by split <;> rfl) t.tasks
  rw [← Traffic.tasks_answer] at hm
  constructor
  · rw [Traffic.uncalled, hm.2]
    exact h.called
  · rw [Traffic.unfinished, hm.1]
    exact h.settled

/-- A lookup as it is once it has run. -/
def ran (x : Token) (k : Task) : Task := if k.token == x then { k with isCalled := true } else k

/-- A lookup that runs for the first time, and no other, is not uncalled any more. -/
theorem uncalled_ran {tasks : List Task} (hn : (tasks.map (·.token)).Nodup) {k : Task}
    (hk : k ∈ tasks) (hc : k.isCalled = false) :
    (tasks.filter (!·.isCalled)).Perm
      (k :: (tasks.map (ran k.token)).filter (!·.isCalled)) := by
  have hp := tasks_perm hn hk
  have hrest : (tasks.filter (·.token != k.token)).map (ran k.token) =
      tasks.filter (·.token != k.token) := by
    refine (List.map_congr_left fun j hj => ?_).trans (List.map_id' _)
    have hne := (List.mem_filter.mp hj).2
    simp only [bne_iff_ne, ne_eq] at hne
    simp [ran, hne]
  have hbefore := hp.filter (!·.isCalled)
  have hafter := (hp.map (ran k.token)).filter (!·.isCalled)
  rw [List.map_cons, hrest] at hafter
  simp only [List.filter_cons, hc, ran, beq_self_eq_true, if_true, Bool.not_false, Bool.not_true,
    Bool.false_eq_true, if_false] at hbefore hafter
  exact hbefore.trans (hafter.symm.cons k)

/-- The first run of a lookup is its call; further ones call nothing. -/
theorem call (h : Accounts t requests sent) (hn : (t.tasks.map (·.token)).Nodup) (x : Token) :
    Accounts (t.call x) requests sent := by
  unfold Traffic.call
  split
  · exact h
  · next k hk =>
    obtain ⟨hmem, rfl⟩ := Traffic.task?_some hk
    split
    · exact h
    · next hc =>
      have hu := (uncalled_ran hn hmem (by simpa using hc)).map (·.request)
      constructor
      · refine h.called.trans ?_
        have ha := hu.append_left t.calls
        rw [List.map_cons, List.append_cons] at ha
        exact ha
      · have hm := Traffic.map_request (f := ran k.token) (fun j => by unfold ran; split <;> rfl)
          t.tasks
        have hs := h.settled
        rw [Traffic.unfinished, ← hm] at hs
        exact hs

theorem task?_of_mem (hn : (t.tasks.map (·.token)).Nodup) {k : Task} (hk : k ∈ t.tasks) :
    t.task? k.token = some k := by
  cases hj : t.task? k.token with
  | none =>
    have hne := List.find?_eq_none.mp hj k hk
    simp at hne
  | some j =>
    obtain ⟨hmem, ht⟩ := Traffic.task?_some hj
    rw [List.inj_on_of_nodup_map hn hmem hk ht]

/-- A lookup has run before it ends. -/
theorem finish_uncalled {k : Task} {x : Token} (hk : t.task? x = some k) (hc : k.isCalled = false)
    (notices : Bool) : t.finish x notices = t := by
  simp [Traffic.finish, hk, hc]

theorem calls_finish (t : Traffic) (x : Token) (notices : Bool) :
    (t.finish x notices).calls = t.calls := by
  unfold Traffic.finish
  split
  · rfl
  · split
    · rfl
    · split <;> rfl

/-- A lookup that ends leaves one message. -/
theorem finish (h : Accounts t requests sent) (hn : (t.tasks.map (·.token)).Nodup) (x : Token)
    (notices : Bool) :
    Accounts (t.finish x notices) requests (sent ++ t.sends (.finish x notices)) := by
  rcases t.finish_cases x notices with he | ⟨k, hk, rfl, m, hm, htasks, hqueue⟩
  · simpa [Traffic.sends, Traffic.step, he] using h
  · have hsends : t.sends (.finish k.token notices) = [m] := by
      simp [Traffic.sends, Traffic.step, hqueue]
    have hreq : m.request = k.request := by
      obtain ⟨ht, hcol, -⟩ := hm
      rw [Settled.request, Task.request, ht, hcol]
    have hp := tasks_perm hn hk
    have hcalled : k.isCalled = true := by
      by_contra hc
      have hsame := finish_uncalled (task?_of_mem hn hk) (by simpa using hc) notices
      rw [hsame] at hqueue
      simp at hqueue
    constructor
    · rw [calls_finish, Traffic.uncalled, htasks]
      have hu := (hp.filter (!·.isCalled)).map (·.request)
      rw [List.filter_cons_of_neg (by simp [hcalled])] at hu
      exact h.called.trans (hu.append_left _)
    · rw [hsends, Traffic.unfinished, htasks]
      refine h.settled.trans ?_
      have hu := (hp.map (·.request)).append_left (sent.map (·.request))
      rw [List.map_cons, ← hreq, List.append_cons] at hu
      rw [List.map_append]
      exact hu

/-- Unfinished lookups have tokens of their own if the requests do. -/
theorem nodup_tasks (h : Accounts t requests sent) (hn : (requests.map (·.token)).Nodup) :
    (t.tasks.map (·.token)).Nodup := by
  have hp := (h.settled.map (·.token)).nodup_iff.mp hn
  rw [List.map_append] at hp
  have hu := (List.nodup_append.mp hp).2.1
  rwa [Traffic.unfinished, List.map_map] at hu

theorem step (h : Accounts t requests sent) (hn : (t.tasks.map (·.token)).Nodup)
    (st : Traffic.Step) : Accounts (t.step st) requests (sent ++ t.sends st) := by
  cases st with
  | call x => simpa [Traffic.sends, Traffic.step] using h.call hn x
  | answer x a => simpa [Traffic.sends, Traffic.step] using h.answer x a
  | finish x notices => exact h.finish hn x notices

theorem run (h : Accounts t requests sent) (hn : (requests.map (·.token)).Nodup)
    (steps : List Traffic.Step) : Accounts (t.run steps) requests (sent ++ t.sent steps) := by
  induction steps generalizing t sent with
  | nil => simpa [Traffic.sent, Traffic.run] using h
  | cons st steps ih =>
    have hs := ih (h.step (h.nodup_tasks hn) st)
    rw [List.append_assoc] at hs
    exact hs

/-- Taking a message out of the queue is no matter of the account. -/
theorem dequeue (h : Accounts t requests sent) (queue : List Settled) :
    Accounts { t with queue := queue } requests sent := ⟨h.called, h.settled⟩

end Accounts

end ColumnMap
