import AuraLive.Rag.Reconnect
import AuraLive.Rag.Statements

set_option relaxedAutoImplicit false
set_option autoImplicit false

/-!
# Disconnecting

`disconnect` works on what the tables hold for the room at that moment. Sockets that are still
connecting and flushes that are suspended are in no table, a context that was replaced by a later
`open` is in none either, and one of the two tables of questions is not looked at. Here it is said
when `disconnect` nevertheless leaves the room alone for good, and when it settles everything that
was asked.

## Main definitions

* `Rag.AtRest` — no socket of the room is connecting and no flush of it has anything left.
* `Rag.Gone` — what stays true of a room after such a `disconnect`.
* `Rag.RagState.awaits`, `Rag.RagState.rejects` — the promises that are to be settled, and those
  `disconnect` settles.

## Main results

* `Rag.stays_disconnected` — a room at rest stays disconnected.
* `Rag.disconnect_settles_iff` — when `disconnect` settles everything.
-/

namespace Rag

open Foundations

/-! ## The facts about reachable states -/

/-- The facts about the statements hold in every reachable state. -/
lemma reachable_statementsOk {s : RagState} (h : client.Reachable s) : StatementsOk s :=
  EventSystem.reachable_invariant init_statementsOk (fun _ _ _ hs => step_statementsOk hs) h

/-- The facts about the reconnect timers hold in every reachable state. -/
lemma reachable_reconnectOk {s : RagState} (h : client.Reachable s) (r : RoomId) :
    ReconnectOk r s :=
  (EventSystem.reachable_invariant (I := fun s => (∀ r, rooms.Closed r s) ∧ ReconnectOk r s)
    ⟨init_closed, .inl rfl⟩
    (fun _ _ _ hs hstep => ⟨step_closed hs.1 hstep, step_reconnectOk hs.1 hs.2 hstep⟩) h).2

/-! ## A disconnected room -/

/-- Nothing of the room is under way that no table knows of: no socket is connecting, and no
suspended flush has a statement left to send. -/
structure AtRest (r : RoomId) (s : RagState) : Prop where
  sockets : ∀ w k, w.room = r → s.sockets.get w = some k → k.readyState ≠ .CONNECTING
  flushes : ∀ tm ∈ s.timers, tm.id.room = r → ∀ rest, tm.kind = .flushNext rest → rest = []

/-- The room has no connection and no reconnect timer, nothing is under way that could make one,
and its buffer is as it was or gone. -/
structure Gone (r : RoomId) (buffer : Option (List PendingStatement)) (s : RagState) : Prop
    extends AtRest r s where
  connection : s.connections.get r = none
  reconnectTimer : s.reconnectTimers.get r = none
  reconnects : s.reconnects r = []
  buffer : s.statementBuffers.get r = none ∨ s.statementBuffers.get r = buffer

/-- The room whose client calls `connect`, `sendStatement` or `injectMockStatements`. -/
def Act.revives : Act → Option RoomId
  | .connect r _ => some r
  | .sendStatement r _ _ _ _ _ => some r
  | .injectMockStatements r _ => some r
  | _ => none

/-- The socket and the code of a `close` event. -/
def Act.closes : Act → Option (Oid × ℕ)
  | .wsClose w code => some (w, code)
  | _ => none

/-- No client uses the room again, and its sockets close with code 1000. -/
def LeftAlone (r : RoomId) (e : Event) : Prop :=
  e.act.revives ≠ some r ∧ ∀ c ∈ e.act.closes, c.1.room = r → c.2 = 1000

instance (r : RoomId) (e : Event) : Decidable (LeftAlone r e) :=
  inferInstanceAs (Decidable (e.act.revives ≠ some r ∧
    ∀ c ∈ e.act.closes, c.1.room = r → c.2 = 1000))

/-- The kinds of operations that make something of a room appear. -/
def revivalTags : List Tag :=
  [.newSocket, .markOpen, .setConnection, .armReconnect, .setReconnectTimer, .armFlush, .setBuffer]

section Gone

variable {r : RoomId} {s s' : RagState} {buffer : Option (List PendingStatement)}

/-- An update that makes no socket connecting. -/
lemma notConnecting_update {w : Oid} {f : Socket → Socket}
    (hf : ∀ k, k.readyState ≠ .CONNECTING → (f k).readyState ≠ .CONNECTING)
    (h : ∀ w k, w.room = r → s.sockets.get w = some k → k.readyState ≠ .CONNECTING) (w' : Oid)
    (k : Socket) (hw : w'.room = r) (hk : (s.sockets.update w f).get w' = some k) :
    k.readyState ≠ .CONNECTING := by
  rw [JsMap.get_update] at hk
  split at hk
  · obtain ⟨k₀, hk₀, rfl⟩ := Option.map_eq_some_iff.mp hk
    exact hf k₀ (h w' k₀ hw hk₀)
  · exact h w' k hw hk

/-- A program that performs no operation of a reviving kind leaves the room at rest. -/
lemma AtRest.effects {T : List Tag} (h : AtRest r s) (heff : Effects T s s')
    (hT : Tag.avoid T revivalTags = true) : AtRest r s' := by
  refine Footprint.invariant (fun a s ha h => ?_) heff h
  have := Effects.avoids hT ha
  cases a with
  | setTimeout r' kind due =>
    refine ⟨h.sockets, fun tm htm hr rest hk => ?_⟩
    rcases List.mem_append.mp htm with htm | htm
    · exact h.flushes tm htm hr rest hk
    · rw [List.mem_singleton.mp htm] at hk
      cases hk
      cases this
  | clearTimeout t => exact ⟨h.sockets, fun tm htm => h.flushes tm (List.mem_of_mem_filter htm)⟩
  | markClosed w => exact ⟨notConnecting_update (fun _ _ => nofun) h.sockets, h.flushes⟩
  | closeSocket w =>
    exact ⟨notConnecting_update (fun k _ => k.close_readyState) h.sockets, h.flushes⟩
  | newSocket | markOpen | setConnection | setReconnectTimer | setBuffer => cases this
  | _ => exact ⟨h.sockets, h.flushes⟩

/-- A room that is gone stays so under a program that performs no operation of a reviving kind. -/
lemma Gone.effects {T : List Tag} (h : Gone r buffer s) (heff : Effects T s s')
    (hT : Tag.avoid T revivalTags = true) : Gone r buffer s' where
  toAtRest := h.toAtRest.effects heff hT
  connection := heff.connections_none (Effects.avoids_subset hT rfl) h.connection
  reconnectTimer := heff.reconnectTimers_none (Effects.avoids_subset hT rfl) h.reconnectTimer
  reconnects := List.sublist_nil.mp
    (h.reconnects ▸ heff.reconnects_sublist (Effects.avoids_subset hT rfl) r)
  buffer := heff.buffer_none_or (Effects.avoids_subset hT rfl) h.buffer

/-- Whether a room is gone is seen in what belongs to it. -/
lemma Gone.of_same (h : Gone r buffer s) (hs : rooms.Same r s s') : Gone r buffer s' where
  sockets w k hw hk := h.sockets w k hw ((sockets_get_of_same hs hw).trans hk)
  flushes tm htm hr := by
    have hmem : tm ∈ s'.timers.filter (·.id.room = r) := by simp [htm, hr]
    have hview : s.timers.filter (·.id.room = r) = s'.timers.filter (·.id.room = r) :=
      congrArg RoomView.timers hs
    exact h.flushes tm (List.mem_of_mem_filter (hview ▸ hmem)) hr
  connection := (congrArg RoomView.connection hs).symm.trans h.connection
  reconnectTimer := (congrArg RoomView.reconnectTimer hs).symm.trans h.reconnectTimer
  reconnects := (reconnects_of_same hs).symm.trans h.reconnects
  buffer := by
    have hb : s.statementBuffers.get r = s'.statementBuffers.get r := congrArg RoomView.buffer hs
    rw [← hb]
    exact h.buffer

/-- A room at rest is gone after `disconnect`. -/
lemma disconnect_gone (h : AtRest r s) (hok : ReconnectOk r s) :
    Gone r ((s.disconnect r).statementBuffers.get r) (s.disconnect r) where
  toAtRest := h.effects (disconnect_effects s r) rfl
  connection := disconnect_connection s r
  reconnectTimer := (disconnect_reconnects hok).2
  reconnects := (disconnect_reconnects hok).1
  buffer := .inr rfl

/-- Nothing is sent without a connection. -/
lemma transmitStatement_of_gone (h : s.connections.get r = none) (st : Statement) (n : ℕ)
    (send : CallResult) (now : ℕ) : s.transmitStatement r st n send now = s := by
  have : s.openSocket r = none := by simp [RagState.openSocket, h]
  simp only [RagState.transmitStatement, this]

/-- A room that is gone stays so as long as it is left alone.

**Proof sketch.** No socket of the room can open and none closes abnormally, so no connection and no
reconnect timer is made. A retry finds no connection, a flush has nothing to send, and no reconnect
timer can fire. -/
lemma step_gone {e : Event} (hok : StatementsOk s) (h : Gone r buffer s) (hl : LeftAlone r e)
    (hs : step s e = some s') : Gone r buffer s' := by
  by_cases hr : e.act.concerns r = true
  swap
  · exact h.of_same (step_outside (by simpa using hr) hok.closed hs)
  have heff := step_effects hs
  obtain ⟨now, act⟩ := e
  cases act with
  | connect r' ctor =>
    exact absurd (by simpa [Act.concerns, Act.room, Act.revives] using hr) hl.1
  | sendStatement r' text speaker startTime endTime send =>
    exact absurd (by simpa [Act.concerns, Act.room, Act.revives] using hr) hl.1
  | injectMockStatements r' utterances =>
    exact absurd (by simpa [Act.concerns, Act.room, Act.revives] using hr) hl.1
  | wsOpen w send =>
    obtain ⟨k, hk, hc, -⟩ := step_wsOpen hs
    exact absurd hc (h.sockets w k (by simpa [Act.concerns, Act.room] using hr) hk)
  | wsClose w code =>
    obtain ⟨k, -, -, -, rfl⟩ := step_wsClose hs
    obtain rfl : code = 1000 := hl.2 (w, code) rfl (by simpa [Act.concerns, Act.room] using hr)
    have hclose : Effects [.markClosed, .deleteConnection] s (s.onClose w 1000 now) :=
      (Effects.one s (.markClosed w) rfl).next (.deleteConnection w.room) rfl
    exact h.effects hclose rfl
  | timer t ext =>
    obtain rfl : t.room = r := by simpa [Act.concerns, Act.room] using hr
    obtain ⟨tm, htm, rfl⟩ := step_timer hs
    obtain ⟨hmem, hid⟩ := findTimer_mem htm
    simp only [footprint, htm, Option.map_some, Option.getD_some] at heff
    have hclear : Effects [.clearTimeout] s (s.clearTimeout t) := .one s (.clearTimeout t) rfl
    have hjob : tm.kind.isJob = true → tm ∈ s.jobs t.room := fun hj =>
      List.mem_filter.mpr ⟨hmem, by simp [hid, hj]⟩
    simp only [RagState.fire, hid] at heff ⊢
    cases hk : tm.kind with
    | reconnect =>
      have hin : tm ∈ s.reconnects t.room :=
        List.mem_filter.mpr ⟨hmem, by simp [hid, hk, TimerKind.isReconnect]⟩
      rw [h.reconnects] at hin
      cases hin
    | statementRetry st n =>
      have hn : n ≠ 0 := by
        have := (hok.counts t.room).jobs tm (hjob (by rw [hk]; rfl))
        rwa [hk] at this
      have hg : Gone t.room buffer (s.clearTimeout t) := h.effects hclear rfl
      dsimp only
      rw [RagState.sendStatement, if_neg hn, transmitStatement_of_gone hg.connection]
      exact hg
    | flushNext rest =>
      obtain rfl : rest = [] := h.flushes tm hmem (by rw [hid]) rest hk
      exact h.effects hclear rfl
    | connection w | request kind w text q | report call =>
      rw [hk] at heff
      exact h.effects heff rfl
  | _ => exact h.effects heff rfl

end Gone

/-- No entry for the room has appeared since the state `s₀`: it has no connection and no reconnect
timer, and its buffer is as it was or gone. -/
def NoEntry (r : RoomId) (s₀ s : RagState) : Prop :=
  s.connections.get r = none ∧ s.reconnectTimers.get r = none ∧
    (s.statementBuffers.get r = none ∨ s.statementBuffers.get r = s₀.statementBuffers.get r)

instance (r : RoomId) (s₀ s : RagState) : Decidable (NoEntry r s₀ s) :=
  inferInstanceAs (Decidable (s.connections.get r = none ∧ s.reconnectTimers.get r = none ∧
    (s.statementBuffers.get r = none ∨ s.statementBuffers.get r = s₀.statementBuffers.get r)))

/-- **A room at rest stays disconnected.** If a room is disconnected while none of its sockets is
connecting and none of its suspended flushes has anything left, then as long as no client uses it
again and its sockets close with code 1000, no entry for it appears in `connections`,
`reconnectTimers` or `statementBuffers`. -/
theorem stays_disconnected {r : RoomId} {s : RagState} {es : List Event}
    (hs : client.Reachable s) (hrest : AtRest r s) (h : ∀ e ∈ es, LeftAlone r e) :
    client.AllStates (NoEntry r (s.disconnect r)) (s.disconnect r) es := by
  have hok : StatementsOk (s.disconnect r) :=
    step_statementsOk (e := ⟨0, .disconnect r⟩) (reachable_statementsOk hs) rfl
  refine EventSystem.allStates_of_invariant
    (I := fun t => StatementsOk t ∧ Gone r ((s.disconnect r).statementBuffers.get r) t) ?_ ?_
    ⟨hok, disconnect_gone hrest (reachable_reconnectOk hs r)⟩ (EventSystem.allSteps_of_forall _ h)
  · rintro t e t' ⟨hok, hg⟩ hl ht
    exact ⟨step_statementsOk hok ht, step_gone hok hg hl ht⟩
  · rintro t ⟨-, hg⟩
    exact ⟨hg.connection, hg.reconnectTimer, hg.buffer⟩

/-- A room is disconnected while its only socket is open; the socket closes normally. -/
theorem stays_disconnected_open :
    ∃ s, client.exec client.init [⟨0, .connect "r" .ok⟩, ⟨10, .wsOpen ⟨"r", 1⟩ .ok⟩] = some s ∧
      client.AllStates (NoEntry "r" (s.disconnect "r")) (s.disconnect "r")
        [⟨30, .wsClose ⟨"r", 1⟩ 1000⟩] := by
  have hrun : ∃ s, client.exec client.init [⟨0, .connect "r" .ok⟩, ⟨10, .wsOpen ⟨"r", 1⟩ .ok⟩] =
      some s ∧ s.sockets.entries.all (fun e => e.2.readyState ≠ .CONNECTING) = true ∧
        s.timers.length = 0 := ⟨_, rfl, by decide, by decide⟩
  obtain ⟨s, hs, hsock, htm⟩ := hrun
  refine ⟨s, hs, stays_disconnected ⟨_, hs⟩ ⟨fun w k _ hk => ?_, fun tm htm' => ?_⟩ (by decide)⟩
  · simpa using List.all_eq_true.mp hsock (w, k) (s.sockets.mem_entries_of_get hk)
  · rw [List.length_eq_zero_iff.mp htm] at htm'
    cases htm'

/-- **A connecting socket revives a disconnected room.** The room is disconnected while its socket
is connecting. No context is registered, so the socket is not closed; when it opens, it is
registered. -/
theorem connecting_socket_revives_room : ∃ s,
    Timely [⟨0, .connect "r" .ok⟩, ⟨50, .disconnect "r"⟩, ⟨100, .wsOpen ⟨"r", 1⟩ .ok⟩] ∧
    client.exec client.init [⟨0, .connect "r" .ok⟩] = some s ∧
    ¬ client.AllStates (NoEntry "r" (s.disconnect "r")) (s.disconnect "r")
      [⟨100, .wsOpen ⟨"r", 1⟩ .ok⟩] :=
  ⟨_, by decide, rfl, by decide⟩

/-! ## What `disconnect` settles -/

/-- Whether a promise was returned by a question or a report call. -/
def PromiseKind.awaited : PromiseKind → Bool
  | .connect => false
  | .question _ _ => true
  | .report => true

namespace RagState

/-- The promise was returned by a question or a report call and has not been settled. -/
def awaits (s : RagState) (q : Oid) : Prop :=
  ∃ p, s.promises.get q = some p ∧ p.kind.awaited = true ∧ p.settled = none

/-- The report call is suspended in `await resultPromise`. -/
def awaitsResult (s : RagState) (call : Oid) : Prop :=
  ∃ c, s.reportCalls.get call = some c ∧ c.result = none ∧ c.stage = .awaitingResult

/-- A context is registered for the room, and the promise belongs to a plain question registered in
it or to the registered report request of the room, whose call awaits its result. -/
def rejects (s : RagState) (r : RoomId) (q : Oid) : Prop :=
  ∃ w, s.connections.get r = some w ∧
    ((∃ text p, (s.contextOf w).pendingRequests.get text = some p ∧ p.promise = q) ∨
      ∃ p, s.pendingReportRequests.get r = some p ∧ p.promise = q ∧ s.awaitsResult q)

end RagState

section Settles

variable {s s' : RagState} {r : RoomId} {q : Oid}

/-- Whether a promise is awaited is seen in the promises. -/
lemma awaits_congr (h : s'.promises = s.promises) : s'.awaits q ↔ s.awaits q := by
  simp only [RagState.awaits, h]

/-- Settling a promise is what ends the wait for it. -/
lemma settle_awaits (s : RagState) (q' : Oid) (v : Settlement) :
    (s.settle q' v).awaits q ↔ s.awaits q ∧ q ≠ q' := by
  simp only [RagState.awaits, RagState.settle_promises, JsMap.get_update]
  by_cases hq : q' = q
  · subst hq
    simp only [if_true, ne_eq, not_true_eq_false, and_false, iff_false, not_exists, not_and]
    intro p hp _ hn
    obtain ⟨p₀, -, rfl⟩ := Option.map_eq_some_iff.mp hp
    cases hs : p₀.settled <;> simp [hs] at hn
  · simp [hq, Ne.symm hq]

/-- The loop of `disconnect` over the plain questions. -/
lemma foldl_reject_awaits (l : List (String × PendingRequest)) (s : RagState) (v : Settlement) :
    (l.foldl (fun s e => (s.clearTimeout e.2.timer).settle e.2.promise v) s).awaits q ↔
      s.awaits q ∧ ∀ e ∈ l, q ≠ e.2.promise := by
  induction l generalizing s with
  | nil => simp
  | cons e l ih =>
    have hclear : (s.clearTimeout e.2.timer).awaits q ↔ s.awaits q := awaits_congr rfl
    rw [List.foldl_cons, ih, settle_awaits, hclear, List.forall_mem_cons, and_assoc]

/-- `disconnect` rejects the plain questions of the registered context. -/
lemma rejectPending_awaits (s : RagState) (w : Oid) :
    (s.rejectPending w).awaits q ↔ s.awaits q ∧
      ¬ ∃ text p, (s.contextOf w).pendingRequests.get text = some p ∧ p.promise = q := by
  have h : (s.rejectPending w).awaits q ↔
      s.awaits q ∧ ∀ e ∈ (s.contextOf w).pendingRequests.entries, q ≠ e.2.promise :=
    (awaits_congr rfl).trans (foldl_reject_awaits _ s _)
  rw [h]
  refine and_congr_right fun _ => ⟨?_, fun hn e he hq => hn ?_⟩
  · rintro hall ⟨text, p, hp, rfl⟩
    exact hall (text, p) (JsMap.mem_entries_of_get _ hp) rfl
  · exact ⟨e.1, e.2, JsMap.get_of_mem_entries _ he, hq.symm⟩

/-- Rejecting the result of a report call ends the wait for the call if it awaits the result. -/
lemma settleResult_awaits (s : RagState) (call : Oid) (message : String) :
    (s.settleResult call (.error message)).awaits q ↔
      s.awaits q ∧ ¬ (q = call ∧ s.awaitsResult call) := by
  unfold RagState.settleResult RagState.awaitsResult
  cases hc : s.reportCalls.get call with
  | none => simp
  | some c =>
    cases hres : c.result with
    | some result => simp [hres]
    | none =>
      by_cases hst : c.stage = .awaitingResult
      · have hf : (s.finishReport call (.error message)).awaits q ↔ s.awaits q ∧ q ≠ call := by
          simp only [RagState.finishReport, RagState.failReport, settle_awaits]
          rfl
        simp [hres, hst, hf]
      · have hset : ∀ c', (s.setReportCall call c').awaits q ↔ s.awaits q :=
          fun c' => awaits_congr rfl
        simp [hres, hst, hset]

/-- `disconnect` rejects the registered report request if its call awaits the result. -/
lemma rejectReport_awaits (s : RagState) (r : RoomId) :
    (s.rejectReport r).awaits q ↔ s.awaits q ∧
      ¬ ∃ p, s.pendingReportRequests.get r = some p ∧ p.promise = q ∧ s.awaitsResult q := by
  unfold RagState.rejectReport
  cases hp : s.pendingReportRequests.get r with
  | none => simp
  | some p =>
    have h₁ : ((s.clearTimeout p.timer).deleteReport r).awaits q ↔ s.awaits q := awaits_congr rfl
    have h₂ : ((s.clearTimeout p.timer).deleteReport r).awaitsResult p.promise ↔
        s.awaitsResult p.promise := Iff.rfl
    rw [settleResult_awaits, h₁, h₂]
    refine and_congr_right fun _ => not_congr ⟨?_, ?_⟩
    · rintro ⟨rfl, hr⟩
      exact ⟨p, rfl, rfl, hr⟩
    · rintro ⟨p', hp', rfl, hr⟩
      obtain rfl := Option.some.inj hp'
      exact ⟨rfl, hr⟩

/-- What a registered context has to reject. -/
lemma dropConnection_awaits (s : RagState) (r : RoomId) (w : Oid) :
    (s.dropConnection r w).awaits q ↔ s.awaits q ∧
      ¬ ((∃ text p, (s.contextOf w).pendingRequests.get text = some p ∧ p.promise = q) ∨
        ∃ p, s.pendingReportRequests.get r = some p ∧ p.promise = q ∧ s.awaitsResult q) := by
  have hreports := (rejectPending_effects s w).reports_eq rfl
  have hcalls := (rejectPending_effects s w).reportCalls_eq rfl
  have hdrop : (s.dropConnection r w).awaits q ↔ ((s.rejectPending w).rejectReport r).awaits q := by
    refine awaits_congr ?_
    unfold RagState.dropConnection
    dsimp only
    split <;> rfl
  rw [hdrop, rejectReport_awaits, rejectPending_awaits, hreports, not_or, ← and_assoc]
  simp only [RagState.awaitsResult, hcalls]

/-- **What `disconnect` settles.** A promise of a question or a report is still unsettled after
`disconnect` exactly when it was before and `disconnect` does not reject it. -/
lemma disconnect_awaits (s : RagState) (r : RoomId) :
    (s.disconnect r).awaits q ↔ s.awaits q ∧ ¬ s.rejects r q := by
  have heff := cancelReconnect_effects s r
  have h₁ : (s.cancelReconnect r).awaits q ↔ s.awaits q := awaits_congr (heff.promises_eq rfl)
  rw [disconnect_eq, RagState.rejects]
  cases hw : s.connections.get r with
  | none => simp [h₁]
  | some w =>
    dsimp only
    rw [dropConnection_awaits, h₁, heff.reports_eq rfl]
    simp only [RagState.awaitsResult, RagState.contextOf, heff.reportCalls_eq rfl,
      heff.contexts_eq rfl, Option.some.injEq, exists_eq_left']

/-- **When `disconnect` settles everything.** All promises returned by question and report calls of
the room are settled after `disconnect` if and only if every one that was not settled before belongs
to a plain question registered in the current context, or to the registered report request whose
call awaits its result. -/
theorem disconnect_settles_iff (s : RagState) (r : RoomId) :
    (∀ q, q.room = r → ¬ (s.disconnect r).awaits q) ↔
      ∀ q, q.room = r → s.awaits q → s.rejects r q := by
  simp only [disconnect_awaits, not_and, not_not]

end Settles

/-- **A question with sources survives `disconnect`.** It is registered in the table that
`disconnect` does not look at. -/
theorem question_with_sources_unsettled : ∃ s,
    Timely [⟨0, .connect "r" .ok⟩, ⟨10, .wsOpen ⟨"r", 1⟩ .ok⟩,
      ⟨20, .sendQuestionWithSources "r" "why" .ok⟩] ∧
    client.exec client.init [⟨0, .connect "r" .ok⟩, ⟨10, .wsOpen ⟨"r", 1⟩ .ok⟩,
      ⟨20, .sendQuestionWithSources "r" "why" .ok⟩] = some s ∧
    (s.disconnect "r").awaits ⟨"r", 3⟩ :=
  ⟨_, by decide, rfl, _, rfl, rfl, rfl⟩

end Rag
