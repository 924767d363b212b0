import ColumnMap.Proofs.Editor.Accounts
import ColumnMap.Proofs.Editor.Loading
import ColumnMap.Proofs.Editor.Suggestions
import ColumnMap.Proofs.Editor.Tokens

/-!
One selection, one token, one call, one message. The lookup of a selection calls the source once,
cancelled or not, and leaves one message when it ends.
-/

namespace ColumnMap

open Selection

namespace Editor

/-- An operation starts the lookup of the column that it selects, under the next token. -/
theorem startsOf_perform (e : Editor) (op : Operation) :
    startsOf (e.perform op).effects =
      if e.dataSource.supportsLookup then
        (e.selects? op).toList.map fun c => ⟨e.selection.nextToken, c⟩
      else [] := by
  cases op with
  | selectColumn c =>
    cases ho : e.isOpen with
    | false => simp [perform, selectColumn, refuse, selects?, ho]
    | true =>
      rw [perform, startsOf_selectColumn e c ho]
      by_cases hc : c.isEmpty = true <;> cases hl : e.dataSource.supportsLookup <;>
        simp [Move.ofColumn, started, selection, selects?, ho, hc, hl]
  | edit index =>
    cases ho : e.isOpen with
    | true => simp [perform, edit, refuse, selects?, ho]
    | false =>
      cases hm : e.mappings[index]? with
      | none => simp [perform, edit, refuse, selects?, ho, hm]
      | some m =>
        rw [perform, startsOf_edit e index m ho hm]
        by_cases hc : m.column.isEmpty = true <;> cases hl : e.dataSource.supportsLookup <;>
          simp [Move.ofColumn, started, after, selection, selects?, nextToken, ho, hm, hc, hl,
            Option.filter]
  | openNew => cases ho : e.isOpen <;> simp [perform, openNew, refuse, selects?, ho]
  | selectSuggestion index =>
    simp only [perform, selectSuggestion, refuse]
    split
    · simp [selects?]
    · split <;> simp [selects?]
  | setTyped text => cases ho : e.isOpen <;> simp [perform, setTyped, refuse, selects?, ho]
  | setAuxiliary text => cases ho : e.isOpen <;> simp [perform, setAuxiliary, refuse, selects?, ho]
  | commit => cases hc : e.canCommit <;> simp [perform, commit, refuse, selects?, hc]
  | close => cases ho : e.isOpen <;> simp [perform, close, refuse, selects?, ho]
  | remove index => cases hm : e.mappings[index]? <;> simp [perform, remove, refuse, selects?, hm]

end Editor

namespace World

/-- The messages that an event leaves. -/
def sends (w : World) : Event → List Settled
  | .lookup st => w.traffic.sends st
  | _ => []

/-- The messages that are left in a run, in order. -/
def sent (w : World) : List Event → List Settled
  | [] => []
  | ev :: events => w.sends ev ++ (w.step ev).sent events

/-- The requests that the selections of a run are: each column with its token. -/
def requests (w : World) (events : List Event) : List Call :=
  List.zipWith Call.mk (w.tokens events) (w.selections events)

/-! ### Requests -/

/-- The request that an event is. -/
def request? (w : World) (ev : Event) : Option Call :=
  (w.selects? ev).map fun c => ⟨w.editor.selection.nextToken, c⟩

theorem requests_cons {w : World} (h : w.Tracked) (ev : Event) (events : List Event) :
    w.requests (ev :: events) = (w.request? ev).toList ++ (w.step ev).requests events := by
  have hl : (w.issues? ev).toList.length = (w.selects? ev).toList.length := by
    rw [issues_eq h ev]
    cases w.selects? ev <;> rfl
  rw [requests, tokens, selections, List.zipWith_append hl, issues_eq h ev, request?]
  cases w.selects? ev <;> rfl

theorem requests_tokens {w : World} (h : w.Tracked) (events : List Event) :
    (w.requests events).map (·.token) = w.tokens events := by
  induction events generalizing w with
  | nil => rfl
  | cons ev events ih =>
    rw [requests_cons h, tokens, issues_eq h ev, List.map_append, ih (tracked_step h ev), request?]
    cases w.selects? ev <;> rfl

theorem nodup_requests {w : World} (h : w.Tracked) (events : List Event) :
    ((w.requests events).map (·.token)).Nodup := by
  rw [requests_tokens h]
  refine (tokens_increase h events).2.imp fun hlt he => ?_
  rw [he] at hlt
  exact Nat.lt_irrefl _ hlt

/-- The requests whose lookups are started: all of them if the data source has lookups. -/
def started (w : World) (events : List Event) : List Call :=
  if w.editor.dataSource.supportsLookup then w.requests events else []

theorem started_cons {w : World} (h : w.Tracked) (ev : Event) (events : List Event) :
    w.started (ev :: events) =
      (if w.editor.dataSource.supportsLookup then (w.request? ev).toList else []) ++
        (w.step ev).started events := by
  have hl : (w.step ev).editor.dataSource.supportsLookup = w.editor.dataSource.supportsLookup :=
    w.looks_run [ev]
  rw [started, started, hl, requests_cons h]
  split <;> rfl

theorem startsOf_applyLookup (e : Editor) (m : Settled) :
    startsOf (e.applyLookup m).effects = [] := by
  unfold Editor.applyLookup
  split
  · rfl
  · split <;> rfl

theorem accounts_step {w : World} {requests : List Call} {sent : List Settled} (t : w.Tracked)
    (h : Accounts w.traffic requests sent) (ev : Event) :
    Accounts (w.step ev).traffic
      (requests ++ if w.editor.dataSource.supportsLookup then (w.request? ev).toList else [])
      (sent ++ w.sends ev) := by
  cases ev with
  | perform op =>
    have ha := h.absorbAll (w.editor.perform op).effects
    have hr : (w.request? (.perform op)).toList =
        (w.editor.selects? op).toList.map fun c => ⟨w.editor.selection.nextToken, c⟩ := by
      rw [request?, selects?]
      cases w.editor.selects? op <;> rfl
    rw [Editor.startsOf_perform, ← hr] at ha
    have hs : w.sends (.perform op) = [] := rfl
    rw [hs, List.append_nil]
    exact ha
  | lookup st =>
    have hr : w.request? (.lookup st) = none := rfl
    rw [hr, Option.toList_none, ite_self, List.append_nil]
    exact h.step (List.nodup_append.mp t.distinct).1 st
  | deliver place =>
    have hr : w.request? (.deliver place) = none := rfl
    have hs : w.sends (.deliver place) = [] := rfl
    rw [hr, hs, Option.toList_none, ite_self, List.append_nil, List.append_nil, step]
    split
    · exact h
    · next m _ =>
      have ha := (h.dequeue (w.traffic.queue.eraseIdx place)).absorbAll
        (w.editor.applyLookup m).effects
      rwa [startsOf_applyLookup, List.append_nil] at ha

theorem accounts_run {w : World} {requests : List Call} {sent : List Settled} (t : w.Tracked)
    (h : Accounts w.traffic requests sent) (events : List Event) :
    Accounts (w.run events).traffic (requests ++ w.started events) (sent ++ w.sent events) := by
  induction events generalizing w requests sent with
  | nil =>
    have hnone : w.started [] = [] := ite_self []
    rw [hnone, List.append_nil, World.sent, List.append_nil]
    exact h
  | cons ev events ih =>
    have hs := ih (tracked_step t ev) (accounts_step t h ev)
    rw [List.append_assoc, List.append_assoc, ← started_cons t] at hs
    exact hs

/-! ### Whole runs -/

/-- The lookups that there are, with the editor in place or after it has been dropped. -/
def left (w : World) (dropped : Bool) : Traffic :=
  if dropped then w.traffic.absorbAll w.editor.drop else w.traffic

theorem accounts_left {w : World} {requests : List Call} {sent : List Settled}
    (h : Accounts w.traffic requests sent) (dropped : Bool) :
    Accounts (w.left dropped) requests sent := by
  cases dropped with
  | false => exact h
  | true =>
    have hd := h.absorbAll w.editor.drop
    rwa [Editor.drop, startsOf_cancelInFlight, List.append_nil] at hd

/-- With a data source that has no lookups nothing is ever being loaded or shown. -/
theorem still_of_silent {w : World} {h : History} (t : w.Tracked) (r : w.RecordedIn h)
    (hl : w.editor.dataSource.supportsLookup = false) :
    w.editor.phase ≠ .loading ∧ w.editor.draft.suggestions = [] := by
  refine ⟨fun hp => ?_, r.unasked hl⟩
  have hi := isLoading_eq t
  rw [((Editor.phase_eq_loading _).mp hp).2] at hi
  obtain ⟨x, hx⟩ := Option.isSome_iff_exists.mp hi.symm
  obtain ⟨htasks, hqueue⟩ := t.silent hl
  have hout := ((t.awaited x).mp hx).2
  rw [htasks, hqueue] at hout
  cases hout

/-- Each selection of a column has a token, greater than all before it. Where there are lookups, its
request is called once and brings one message, with the column of the selection; until then its
lookup has not run, or has not finished. Where there are none, nothing is called or brought. -/
theorem one_call_one_message (d : DataSource) (source : String) (initial : List Mapping)
    (events : List Event) (dropped : Bool) (steps : List Traffic.Step) :
    let start := World.start d source initial
    let w := start.run events
    let t := (w.left dropped).run steps
    let sent := start.sent events ++ (w.left dropped).sent steps
    let tokens := start.tokens events
    let columns := start.selections events
    let requests := List.zipWith Call.mk tokens columns
    tokens.length = columns.length ∧ tokens.Pairwise (·.number < ·.number) ∧
    (d.supportsLookup = true → Accounts t requests sent ∧
      (t.calls.map (·.token)).Nodup ∧ (sent.map (·.token)).Nodup ∧
      (t.tasks = [] → t.calls.Perm requests ∧ (sent.map (·.request)).Perm requests)) ∧
    (d.supportsLookup = false → t.calls = [] ∧ sent = [] ∧
      w.editor.phase ≠ .loading ∧ w.editor.draft.suggestions = []) := by
  intro start w t sent tokens columns requests
  have ht : start.Tracked := tracked_start d source initial
  have hn : (requests.map (·.token)).Nodup := nodup_requests ht events
  have hempty : Accounts start.traffic [] [] := ⟨.refl _, .refl _⟩
  have hrun : Accounts (w.left dropped) (start.started events) (start.sent events) :=
    accounts_left (accounts_run ht hempty events) dropped
  refine ⟨length_tokens ht events, (tokens_increase ht events).2, fun hl => ?_, fun hl => ?_⟩
  · have hs : start.started events = requests := if_pos hl
    rw [hs] at hrun
    have ha : Accounts t requests sent := hrun.run hn steps
    have hcalls := (ha.called.map (·.token)).nodup_iff.mp hn
    have hsent := (ha.settled.map (·.token)).nodup_iff.mp hn
    rw [List.map_append] at hcalls hsent
    have hsent := (List.nodup_append.mp hsent).1
    rw [List.map_map] at hsent
    refine ⟨ha, (List.nodup_append.mp hcalls).1, hsent, fun hnone => ?_⟩
    have hcalled := ha.called
    have hsettled := ha.settled
    rw [Traffic.uncalled, hnone, List.filter_nil, List.map_nil, List.append_nil] at hcalled
    rw [Traffic.unfinished, hnone, List.map_nil, List.append_nil] at hsettled
    exact ⟨hcalled.symm, hsettled.symm⟩
  · have hs : start.started events = [] := if_neg (Bool.eq_false_iff.mp hl)
    rw [hs] at hrun
    have ha : Accounts t [] sent := hrun.run List.nodup_nil steps
    have hcalls := List.append_eq_nil_iff.mp ha.called.nil_eq.symm
    have hsent := List.append_eq_nil_iff.mp ha.settled.nil_eq.symm
    have hlooks : w.editor.dataSource.supportsLookup = false := (looks_run start events).trans hl
    exact ⟨hcalls.1, List.map_eq_nil_iff.mp hsent.1,
      still_of_silent (tracked_run ht events)
        (recorded_run ht (recorded_start d source initial) events) hlooks⟩

/-- Two columns are selected before any lookup has run, and the editor is closed and opened again on
a mapping. -/
def hasty : List Event :=
  [.perform .openNew, .perform (.selectColumn "country"), .perform (.selectColumn "country"),
    .perform .close, .perform (.edit 0)]

/-- The lookups run after the editor has been dropped. -/
def orphaned : List Traffic.Step :=
  [.call ⟨3⟩, .call ⟨1⟩, .finish ⟨1⟩ true, .call ⟨2⟩, .call ⟨1⟩, .finish ⟨2⟩ true,
    .answer ⟨3⟩ (.ok [.text "Pune"]), .finish ⟨3⟩ false]

theorem one_call_one_message_hasty :
    let w := (start Lookup.Demo.dataSource "demo" [⟨"city", "", ""⟩]).run hasty
    let t := (w.left true).run orphaned
    t.calls = [⟨⟨3⟩, "city"⟩, ⟨⟨1⟩, "country"⟩, ⟨⟨2⟩, "country"⟩] ∧
      t.calls.Perm [⟨⟨1⟩, "country"⟩, ⟨⟨2⟩, "country"⟩, ⟨⟨3⟩, "city"⟩] := by
  intro w t
  have h :=
    one_call_one_message Lookup.Demo.dataSource "demo" [⟨"city", "", ""⟩] hasty true orphaned
  have hnone : t.tasks = [] := List.isEmpty_iff.mp (by decide +kernel)
  exact ⟨by decide +kernel, ((h.2.2.1 rfl).2.2.2 hnone).1⟩

end World

end ColumnMap
