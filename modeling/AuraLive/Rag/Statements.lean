import AuraLive.Foundations.Outbox
import AuraLive.Rag.Effects
import AuraLive.Rag.Isolation

set_option relaxedAutoImplicit false
set_option autoImplicit false

/-!
# The statements of a room as an outbox

Seen from its statements, a room is an outbox in the sense of `Foundations.Outbox`: the statement
buffer, the suspended flushes, the retry timers, the statement frames sent, and whether the room is
connected. Every step of the client is a step of that outbox.

## Main definitions

* `Rag.RagState.outbox` — the outbox of a room.
* `Rag.outboxLabel` — what an event does to it.
* `Rag.Calm` — a change of state that is at most a loss for the outbox of a room.
* `Rag.StatementsOk` — the facts about reachable states the refinement rests on.

## Main results

* `Rag.step_outbox` — **refinement**: a step of the client is a step of the outbox of each room.
* `Rag.step_statementsOk` — the invariant.
-/

namespace Rag

open Foundations

/-! ## The outbox of a room -/

/-- The statements a suspended flush still has to send. -/
def TimerKind.batch : TimerKind → Option (List PendingStatement)
  | .flushNext rest => some rest
  | _ => none

/-- The statement a timer will retry. -/
def TimerKind.retried : TimerKind → Option Statement
  | .statementRetry st _ => some st
  | _ => none

/-- Whether a timer resumes a flush or retries a statement. -/
def TimerKind.isJob : TimerKind → Bool
  | .flushNext _ => true
  | .statementRetry _ _ => true
  | _ => false

/-- The statement a frame carries. -/
def FrameOrigin.stmt : FrameOrigin → Option Statement
  | .statement st => some st
  | .question _ => none

namespace RagState

/-- The timers of a room that will send statements. -/
def jobs (s : RagState) (r : RoomId) : List Timer :=
  s.timers.filter fun tm => tm.id.room = r && tm.kind.isJob

/-- The statements of a list of buffer entries. -/
def stmts (l : List PendingStatement) : List Statement := l.map PendingStatement.toStatement

/-- The statements sent on the sockets of a room. -/
def sentStatements (s : RagState) (r : RoomId) : List Statement :=
  (s.frames.filter (·.sock.room = r)).filterMap (·.origin.stmt)

/-- The room seen from its statements. -/
def outbox (s : RagState) (r : RoomId) : Outbox Statement where
  buffer := stmts (s.bufferOf r)
  batches := (s.jobs r).filterMap fun tm => tm.kind.batch.map stmts
  retries := (s.jobs r).filterMap (·.kind.retried)
  sent := s.sentStatements r
  online := s.isConnected r

end RagState

/-- How an attempt of `sendStatement` ends. -/
def attemptOf (send : CallResult) (retryCount : ℕ) : Outbox.Attempt :=
  match send with
  | .ok => .delivered
  | .threw _ => if retryCount < maxStatementRetry then .deferred else .abandoned

/-- The statement a client's `sendStatement` call gives. -/
def givenStatement (s : RagState) (r : RoomId) (text speaker : String)
    (startTime endTime : Option ℕ) : Statement :=
  ⟨.call (s.freshId r), text, speaker, startTime, endTime⟩

/-- The entries `injectMockStatements` appends. -/
def mockStatements (s : RagState) (r : RoomId) (utterances : List (String × String)) (now : ℕ) :
    List PendingStatement :=
  utterances.zipIdx.map fun u => ⟨⟨.mock ⟨r, s.fresh r + u.2⟩, u.1.2, u.1.1, none, none⟩, now, 0⟩

/-- What an event does to the outbox of the room `r`. -/
def outboxLabel (r : RoomId) (s : RagState) (e : Event) : Outbox.Label Statement :=
  if e.act.concerns r then
    match e.act with
    | .sendStatement _ text speaker startTime endTime send =>
      .give (givenStatement s r text speaker startTime endTime) (attemptOf send 0)
    | .injectMockStatements _ utterances =>
      .stock (RagState.stmts (mockStatements s r utterances e.now))
    | .clearBuffer _ => .clear
    | .disconnect _ => if (s.connections.get r).isSome then .clear else .quiet
    | .onModuleDestroy => .clear
    | .wsOpen _ send =>
      .flush (RagState.stmts (RagState.validStatements (s.bufferOf r) e.now)) (attemptOf send 0)
    | .timer t ext =>
      match (s.findTimer t).map Timer.kind with
      | some (.flushNext rest) => .resume (RagState.stmts rest) (attemptOf ext 0)
      | some (.statementRetry st retryCount) => .retry st (attemptOf ext retryCount)
      | _ => .quiet
    | _ => .quiet
  else .quiet

/-- Only a client's `sendStatement` gives a statement to the outbox. -/
lemma outboxLabel_give {r : RoomId} {s : RagState} {e : Event} {x : Statement}
    {a : Outbox.Attempt} (h : outboxLabel r s e = .give x a) :
    ∃ text speaker startTime endTime send,
      e.act = .sendStatement r text speaker startTime endTime send ∧ a = attemptOf send 0 ∧
        x = givenStatement s r text speaker startTime endTime := by
  unfold outboxLabel at h
  split at h
  · rename_i hr
    split at h
    case h_1 r' text speaker startTime endTime send hact =>
      obtain ⟨rfl, rfl⟩ := Outbox.Label.give.inj h
      have hr' : r' = r := by simpa [Act.concerns, Act.room, hact] using hr
      exact ⟨text, speaker, startTime, endTime, send, hr' ▸ hact, rfl, rfl⟩
    all_goals (try split at h) <;> cases h
  · cases h

/-- Only a timer resumes a flush. -/
lemma outboxLabel_resume {r : RoomId} {s : RagState} {e : Event} {batch : List Statement}
    {a : Outbox.Attempt} (h : outboxLabel r s e = .resume batch a) :
    ∃ t ext rest, e.act = .timer t ext ∧ (s.findTimer t).map Timer.kind = some (.flushNext rest) ∧
      a = attemptOf ext 0 ∧ batch = RagState.stmts rest := by
  unfold outboxLabel at h
  split at h
  · split at h
    case h_7 t ext hact =>
      split at h
      case h_1 rest hk =>
        obtain ⟨rfl, rfl⟩ := Outbox.Label.resume.inj h
        exact ⟨t, ext, rest, hact, hk, rfl, rfl⟩
      all_goals cases h
    all_goals (try split at h) <;> cases h
  · cases h

/-- Only `injectMockStatements` stocks the outbox. -/
lemma outboxLabel_stock {r : RoomId} {s : RagState} {e : Event} {xs : List Statement}
    (h : outboxLabel r s e = .stock xs) :
    ∃ utterances, xs = RagState.stmts (mockStatements s r utterances e.now) := by
  unfold outboxLabel at h
  split at h
  · split at h
    case h_2 => exact ⟨_, (Outbox.Label.stock.inj h).symm⟩
    all_goals (try split at h) <;> cases h
  · cases h

/-- Only an `open` event of the room flushes the outbox. -/
lemma outboxLabel_flush {r : RoomId} {s : RagState} {e : Event} {kept : List Statement}
    {a : Outbox.Attempt} (h : outboxLabel r s e = .flush kept a) :
    ∃ w send, e.act = .wsOpen w send ∧ w.room = r ∧ a = attemptOf send 0 ∧
      kept = RagState.stmts (RagState.validStatements (s.bufferOf r) e.now) := by
  unfold outboxLabel at h
  split at h
  · rename_i hr
    split at h
    case h_6 w send hact =>
      obtain ⟨rfl, rfl⟩ := Outbox.Label.flush.inj h
      exact ⟨w, send, hact, by simpa [Act.concerns, Act.room, hact] using hr, rfl, rfl⟩
    all_goals (try split at h) <;> cases h
  · cases h

/-! ## Changes that send nothing -/

/-- A change of state that is at most a loss for the statements of the room `r`, leaving the buffer
aside: the frames stay, jobs may disappear, the connection may be lost. -/
structure Loss (r : RoomId) (s s' : RagState) : Prop where
  jobs : (s'.jobs r).Sublist (s.jobs r)
  sent : s'.sentStatements r = s.sentStatements r
  online : s'.isConnected r = true → s.isConnected r = true
  fresh : s.fresh r ≤ s'.fresh r

/-- A change that is at most a loss and leaves the buffer as it is. -/
structure Calm (r : RoomId) (s s' : RagState) : Prop extends Loss r s s' where
  buffer : s'.statementBuffers.get r = s.statementBuffers.get r

namespace Loss

variable {r : RoomId} {s s' s'' : RagState}

/-- Nothing has changed. -/
lemma refl (r : RoomId) (s : RagState) : Loss r s s := ⟨.refl _, rfl, id, le_rfl⟩

/-- One loss after another. -/
lemma trans (h : Loss r s s') (h' : Loss r s' s'') : Loss r s s'' where
  jobs := h'.jobs.trans h.jobs
  sent := h'.sent.trans h.sent
  online hon := h.online (h'.online hon)
  fresh := h.fresh.trans h'.fresh

end Loss

/-- A room is connected when an open socket is registered for it. -/
lemma isConnected_iff {s : RagState} {r : RoomId} :
    s.isConnected r = true ↔ ∃ w, s.connections.get r = some w ∧ s.readyState w = some .OPEN := by
  simp only [RagState.isConnected, Option.isSome_iff_exists, RagState.openSocket_eq_some]

/-- A room does not get connected if no socket is registered and none opens. -/
lemma isConnected_mono {s s' : RagState} {r : RoomId} (h : s'.isConnected r = true)
    (hconn : ∀ w, s'.connections.get r = some w → s.connections.get r = some w)
    (hsock : ∀ w, s'.readyState w = some .OPEN → s.readyState w = some .OPEN) :
    s.isConnected r = true := by
  obtain ⟨w, hw, ho⟩ := isConnected_iff.mp h
  exact isConnected_iff.mpr ⟨w, hconn w hw, hsock w ho⟩

/-! ### Footprints -/

section LossOperations

variable (r : RoomId) (s : RagState)

/-- Arming a timer that sends no statements. -/
lemma setTimeout_jobs_sublist (r' : RoomId) {kind : TimerKind} (hk : kind.isJob = false)
    (due : ℕ) : ((s.setTimeout r' kind due).jobs r).Sublist (s.jobs r) := by
  simp [RagState.jobs, hk]

/-- Sending a question. -/
lemma transmit_sentStatements (w : Oid) {origin : FrameOrigin} (ho : origin.stmt = none)
    (payload : JsVal) :
    (s.transmit w origin payload).sentStatements r = s.sentStatements r := by
  by_cases h : w.room = r <;> simp [RagState.sentStatements, h, ho]

/-- A new socket is not open. -/
lemma newSocket_isConnected (r' : RoomId) (q : Oid) (due : ℕ)
    (h : (s.newSocket r' q due).isConnected r = true) : s.isConnected r = true := by
  refine isConnected_mono h (fun _ h => h) fun w h => ?_
  simp only [RagState.readyState, RagState.newSocket_sockets, JsMap.get_set] at h
  split at h
  · simp at h
  · exact h

/-- Changing a socket without opening it. -/
lemma updateSocket_isConnected (w : Oid) {f : Socket → Socket}
    (hf : ∀ k, (f k).readyState = .OPEN → k.readyState = .OPEN)
    (h : RagState.isConnected { s with sockets := s.sockets.update w f } r = true) :
    s.isConnected r = true := by
  refine isConnected_mono h (fun _ h => h) fun w' h => ?_
  simp only [RagState.readyState, JsMap.get_update] at h ⊢
  split at h
  · rw [Option.map_map, Option.map_eq_some_iff] at h
    obtain ⟨k, hk, ho⟩ := h
    simp [hk, hf k ho]
  · exact h

/-- Forgetting a connection. -/
lemma deleteConnection_isConnected (r' : RoomId)
    (h : (s.deleteConnection r').isConnected r = true) : s.isConnected r = true := by
  refine isConnected_mono h (fun w h => ?_) fun _ h => h
  rw [RagState.deleteConnection_connections] at h
  exact (JsMap.get_of_get_delete h).2

/-- `ws.close()` does not open a socket. -/
lemma open_of_close {k : Socket} (h : k.close.readyState = .OPEN) : k.readyState = .OPEN := by
  unfold Socket.close at h
  cases hk : k.readyState <;> simp_all

/-- The kinds of operations that send or schedule a statement or open a connection. -/
def statementTags : List Tag := [.armRetry, .armFlush, .sendStatement, .markOpen, .setConnection]

/-- An operation of another kind is at most a loss. -/
lemma Effect.loss {a : Effect} (h : statementTags.contains a.tag = false) :
    Loss r s (a.apply s) := by
  have hfresh : s.fresh r ≤ (a.apply s).fresh r :=
    (Effects.one (T := [a.tag]) s a (by simp)).fresh_le r
  cases a with
  | setTimeout r' kind due =>
    have hk : kind.isJob = false := by cases kind <;> first | rfl | cases h
    exact ⟨setTimeout_jobs_sublist r s r' hk due, rfl, id, hfresh⟩
  | newSocket r' q due =>
    have hj : ((s.newSocket r' q due).jobs r).Sublist (s.jobs r) := by
      simp [RagState.jobs, TimerKind.isJob]
    exact ⟨hj, rfl, newSocket_isConnected r s r' q due, hfresh⟩
  | transmit w origin payload =>
    have ho : origin.stmt = none := by cases origin <;> first | rfl | cases h
    exact ⟨.refl _, transmit_sentStatements r s w ho payload, id, hfresh⟩
  | clearTimeout t => exact ⟨List.filter_sublist.filter _, rfl, id, hfresh⟩
  | markClosed w => exact ⟨.refl _, rfl, updateSocket_isConnected r s w fun _ => nofun, hfresh⟩
  | closeSocket w =>
    exact ⟨.refl _, rfl, updateSocket_isConnected r s w fun _ => open_of_close, hfresh⟩
  | deleteConnection r' => exact ⟨.refl _, rfl, deleteConnection_isConnected r s r', hfresh⟩
  | markOpen | setConnection => cases h
  | _ => exact ⟨.refl _, rfl, id, hfresh⟩

end LossOperations

namespace Effects

variable {r : RoomId} {T : List Tag} {s s' : RagState}

/-- A program that neither sends nor schedules a statement nor opens a connection is at most a
loss. -/
theorem loss (h : Effects T s s') (hT : Tag.avoid T statementTags = true) :
    Loss r s s' := by
  refine Footprint.rel (Loss.refl r) Loss.trans (fun a s ha => ?_) h
  exact Effect.loss r s (avoids hT ha)

/-- A program that leaves the buffers alone as well is calm. -/
theorem calm (h : Effects T s s') (hT : Tag.avoid T statementTags = true)
    (hB : Tag.avoid T [.setBuffer, .deleteBuffer, .clearTables] = true) :
    Calm r s s' :=
  { h.loss hT with buffer := by rw [h.buffers_eq hB] }

end Effects

/-! ## Sending statements -/

section Sending

variable {r : RoomId} {s t : RagState}

/-- The jobs of a room are part of what belongs to the room. -/
lemma jobs_of_same (h : rooms.Same r s t) : s.jobs r = t.jobs r := by
  have htm : s.timers.filter (·.id.room = r) = t.timers.filter (·.id.room = r) :=
    congrArg RoomView.timers h
  have key : ∀ u : RagState, u.jobs r = (u.timers.filter (·.id.room = r)).filter (·.kind.isJob) :=
    fun u => by simp only [RagState.jobs, List.filter_filter, Bool.and_comm]
  rw [key, key, htm]

/-- The outbox of a room is part of what belongs to the room. -/
lemma outbox_of_same (h : rooms.Same r s t) (hc : rooms.Closed r s) : s.outbox r = t.outbox r := by
  have hframes : s.frames.filter (·.sock.room = r) = t.frames.filter (·.sock.room = r) :=
    congrArg RoomView.frames h
  simp only [RagState.outbox, RagState.sentStatements, RagState.isConnected, hframes,
    jobs_of_same h, bufferOf_of_same h, openSocket_of_same h hc]

/-- Storing a statement in the buffer. -/
lemma addToStatementBuffer_outbox (st : Statement) (now : ℕ) :
    (s.addToStatementBuffer r st now).outbox r =
      Outbox.store statementBufferMaxSize st (s.outbox r) := by
  have hb : RagState.stmts ((s.addToStatementBuffer r st now).bufferOf r) =
      (Outbox.store statementBufferMaxSize st (s.outbox r)).buffer := by
    have hnew : (s.addToStatementBuffer r st now).bufferOf r =
        (if (s.bufferOf r).length ≥ statementBufferMaxSize then (s.bufferOf r).tail
          else s.bufferOf r) ++ [⟨st, now, 0⟩] := by
      simp [RagState.addToStatementBuffer, RagState.bufferOf]
    simp only [hnew, RagState.stmts, Outbox.store, RagState.outbox, List.map_append,
      List.map_singleton, List.length_map]
    split
    · rw [List.map_tail]
    · rfl
  simp only [RagState.outbox] at hb ⊢
  rw [hb]
  rfl

/-- A statement frame. -/
lemma transmit_outbox {w : Oid} (hw : w.room = r) (st : Statement) (payload : JsVal) :
    (s.transmit w (.statement st) payload).outbox r =
      { s.outbox r with sent := (s.outbox r).sent ++ [st] } := by
  have hs : (s.transmit w (.statement st) payload).sentStatements r =
      s.sentStatements r ++ [st] := by
    simp [RagState.sentStatements, hw, FrameOrigin.stmt]
  simp only [RagState.outbox, hs]
  rfl

/-- A timer of the room that will send statements. -/
lemma setTimeout_jobs {kind : TimerKind} (hk : kind.isJob = true) (due : ℕ) :
    (s.setTimeout r kind due).jobs r = s.jobs r ++ [⟨s.freshId r, kind, due⟩] := by
  simp [RagState.jobs, hk, RagState.freshId]

/-- A retry timer. -/
lemma setTimeout_retry_outbox (st : Statement) (n due : ℕ) :
    (s.setTimeout r (.statementRetry st n) due).outbox r =
      { s.outbox r with retries := (s.outbox r).retries ++ [st] } := by
  have hj : (s.setTimeout r (.statementRetry st n) due).jobs r =
      s.jobs r ++ [⟨s.freshId r, .statementRetry st n, due⟩] := setTimeout_jobs rfl due
  simp only [RagState.outbox, hj, List.filterMap_append]
  simp only [TimerKind.batch, TimerKind.retried, List.filterMap_cons, List.filterMap_nil,
    Option.map_none, List.append_nil]
  rfl

/-- A suspended flush. -/
lemma setTimeout_flush_outbox (rest : List PendingStatement) (due : ℕ) :
    (s.setTimeout r (.flushNext rest) due).outbox r =
      { s.outbox r with batches := (s.outbox r).batches ++ [RagState.stmts rest] } := by
  have hj : (s.setTimeout r (.flushNext rest) due).jobs r =
      s.jobs r ++ [⟨s.freshId r, .flushNext rest, due⟩] := setTimeout_jobs rfl due
  simp only [RagState.outbox, hj, List.filterMap_append]
  simp only [TimerKind.batch, TimerKind.retried, List.filterMap_cons, List.filterMap_nil,
    Option.map_some, List.append_nil]
  rfl

/-- Sending a statement on the open connection is an attempt of the outbox. -/
lemma transmitStatement_outbox (hc : rooms.Closed r s) (st : Statement) (n : ℕ)
    (send : CallResult) (now : ℕ) :
    (s.transmitStatement r st n send now).outbox r =
      Outbox.attempt (attemptOf send n) st (s.outbox r) := by
  unfold RagState.transmitStatement
  cases hw : s.openSocket r with
  | none =>
    have hoff : (s.outbox r).online = false := by
      simp [RagState.outbox, RagState.isConnected, hw]
    simp [Outbox.attempt, hoff]
  | some w =>
    have hon : (s.outbox r).online = true := by
      simp [RagState.outbox, RagState.isConnected, hw]
    cases send with
    | ok => simp [Outbox.attempt, hon, attemptOf, transmit_outbox (openSocket_room hc hw)]
    | threw message =>
      by_cases hn : n < maxStatementRetry
      · simp [Outbox.attempt, hon, attemptOf, hn, setTimeout_retry_outbox]
      · simp [Outbox.attempt, attemptOf, hn]

/-- A first `sendStatement` stores the statement and attempts to send it. -/
lemma sendStatement_outbox (hc : rooms.Closed r s) (st : Statement) (send : CallResult) (now : ℕ) :
    (s.sendStatement r st 0 send now).outbox r =
      Outbox.attempt (attemptOf send 0) st
        (Outbox.store statementBufferMaxSize st (s.outbox r)) := by
  have hc' : rooms.Closed r (s.addToStatementBuffer r st now) :=
    (addToStatementBuffer_local st now).closed hc
  rw [RagState.sendStatement, if_pos rfl, transmitStatement_outbox hc',
    addToStatementBuffer_outbox]

/-- One round of a flush handles the first item of a batch. -/
lemma flushLoop_outbox (hc : rooms.Closed r s) {l : List PendingStatement}
    (hl : ∀ p ∈ l, p.retryCount = 0) (send : CallResult) (now : ℕ) :
    (s.flushLoop r l send now).outbox r =
      Outbox.pump statementBufferMaxSize (attemptOf send 0) (RagState.stmts l) (s.outbox r) := by
  cases l with
  | nil => rfl
  | cons stmt rest =>
    have h0 : stmt.retryCount = 0 := hl stmt List.mem_cons_self
    simp only [RagState.flushLoop, h0, setTimeout_flush_outbox, sendStatement_outbox hc]
    rfl

/-- Flushing empties the buffer and handles the first of the statements that have not expired. -/
lemma flushStatementBuffer_outbox (hc : rooms.Closed r s)
    (hb : ∀ p ∈ s.bufferOf r, p.retryCount = 0) (send : CallResult) (now : ℕ) :
    (s.flushStatementBuffer r send now).outbox r =
      Outbox.pump statementBufferMaxSize (attemptOf send 0)
        (RagState.stmts (RagState.validStatements (s.bufferOf r) now))
        { s.outbox r with buffer := [] } := by
  have hempty : ∀ {u : RagState}, u.bufferOf r = [] →
      u.outbox r = { u.outbox r with buffer := [] } := by
    intro u hu
    simp [RagState.outbox, hu, RagState.stmts]
  cases hget : s.statementBuffers.get r with
  | none =>
    have h0 : s.bufferOf r = [] := by simp [RagState.bufferOf, hget]
    simp only [RagState.flushStatementBuffer, hget]
    rw [h0]
    exact hempty h0
  | some buffer =>
    have h1 : s.bufferOf r = buffer := by simp [RagState.bufferOf, hget]
    rw [h1] at hb
    cases buffer with
    | nil =>
      simp only [RagState.flushStatementBuffer, hget]
      rw [h1]
      exact hempty h1
    | cons b bs =>
      have hdel : (s.deleteBuffer r).outbox r = { s.outbox r with buffer := [] } := by
        simp only [RagState.outbox, RagState.bufferOf, RagState.deleteBuffer_statementBuffers,
          JsMap.get_delete_self]
        rfl
      have hv : ∀ p ∈ RagState.validStatements (b :: bs) now, p.retryCount = 0 :=
        fun p hp => hb p (List.mem_of_mem_filter hp)
      simp only [RagState.flushStatementBuffer, hget]
      rw [flushLoop_outbox (deleteBuffer_local.closed hc) hv, h1, hdel]

end Sending

/-! ## Queued statements -/

/-- The room and the number of the call a statement came from. -/
def StatementOrigin.id : StatementOrigin → Oid
  | .call id => id
  | .mock id => id

/-- A flush sends first attempts, a retry timer makes later ones. -/
def TimerKind.CountsOk : TimerKind → Prop
  | .flushNext rest => ∀ p ∈ rest, p.retryCount = 0
  | .statementRetry _ retryCount => retryCount ≠ 0
  | _ => True

/-- The retry counts of a room: the entries of the buffer and of the suspended flushes are first
attempts, since the source creates entries with `retryCount` 0 only. -/
structure RetryCounts (r : RoomId) (s : RagState) : Prop where
  buffer : ∀ p ∈ s.bufferOf r, p.retryCount = 0
  jobs : ∀ tm ∈ s.jobs r, tm.kind.CountsOk

/-- What a step of the client is for the statements of a room. -/
structure StatementStep (r : RoomId) (s : RagState) (l : Outbox.Label Statement) (s' : RagState) :
    Prop where
  outbox : Outbox.Step statementBufferMaxSize (s.outbox r) l (s'.outbox r)
  counts : RetryCounts r s'
  fresh : s.fresh r ≤ s'.fresh r
  given : ∀ x ∈ l.given, x.origin.id.room = r ∧ s.fresh r ≤ x.origin.id.idx ∧
    x.origin.id.idx < s'.fresh r

section Queued

variable {r : RoomId} {s s' : RagState}

/-- What is queued after a calm change was queued before. -/
lemma RetryCounts.calm (hf : RetryCounts r s) (h : Calm r s s') : RetryCounts r s' where
  buffer := by
    simp only [RagState.bufferOf, h.buffer]
    exact hf.buffer
  jobs tm htm := hf.jobs tm (h.jobs.subset htm)

/-- Storing first attempts. -/
lemma RetryCounts.setBuffer (hf : RetryCounts r s) {buffer : List PendingStatement}
    (hb : ∀ p ∈ buffer, p.retryCount = 0) : RetryCounts r (s.setBuffer r buffer) where
  buffer := by
    simp only [RagState.bufferOf, RagState.setBuffer_statementBuffers, JsMap.get_set_self,
      Option.getD_some]
    exact hb
  jobs := hf.jobs

/-- Arming a timer. -/
lemma RetryCounts.setTimeout (hf : RetryCounts r s) {kind : TimerKind} (hk : kind.CountsOk)
    (due : ℕ) : RetryCounts r (s.setTimeout r kind due) where
  buffer := hf.buffer
  jobs tm htm := by
    have hm : tm ∈ s.jobs r ∨ tm = ⟨s.freshId r, kind, due⟩ := by
      simp only [RagState.jobs, RagState.setTimeout_timers, List.filter_append, List.mem_append,
        List.mem_filter, List.mem_singleton] at htm ⊢
      exact htm.imp_right And.left
    rcases hm with hm | rfl
    · exact hf.jobs tm hm
    · exact hk

/-- Buffering stores a first attempt. -/
lemma addToStatementBuffer_counts (st : Statement) (now : ℕ) (hf : RetryCounts r s) :
    RetryCounts r (s.addToStatementBuffer r st now) := by
  refine hf.setBuffer fun p hp => ?_
  rcases List.mem_append.mp hp with hp | hp
  · refine hf.buffer p ?_
    split_ifs at hp
    · exact List.mem_of_mem_tail hp
    · exact hp
  · rw [List.mem_singleton.mp hp]

/-- A retry is armed with a positive count. -/
lemma transmitStatement_counts (st : Statement) (n : ℕ) (send : CallResult) (now : ℕ)
    (hf : RetryCounts r s) : RetryCounts r (s.transmitStatement r st n send now) := by
  unfold RagState.transmitStatement
  split
  · exact hf
  · split
    · exact ⟨hf.buffer, hf.jobs⟩
    · split
      · have hk : (TimerKind.statementRetry st (n + 1)).CountsOk := Nat.succ_ne_zero n
        exact hf.setTimeout hk _
      · exact hf

/-- Sending keeps the retry counts. -/
lemma sendStatement_counts (st : Statement) (n : ℕ) (send : CallResult) (now : ℕ)
    (hf : RetryCounts r s) : RetryCounts r (s.sendStatement r st n send now) := by
  unfold RagState.sendStatement
  split
  · exact transmitStatement_counts st n send now (addToStatementBuffer_counts st now hf)
  · exact transmitStatement_counts st n send now hf

/-- One round of a flush keeps the retry counts. -/
lemma flushLoop_counts {l : List PendingStatement} (hl : ∀ p ∈ l, p.retryCount = 0)
    (send : CallResult) (now : ℕ) (hf : RetryCounts r s) :
    RetryCounts r (s.flushLoop r l send now) := by
  cases l with
  | nil => exact hf
  | cons stmt rest =>
    refine (sendStatement_counts stmt.toStatement stmt.retryCount send now hf).setTimeout ?_ _
    exact fun p hp => hl p (List.mem_cons_of_mem stmt hp)

/-- Removing a buffer keeps the retry counts. -/
lemma deleteBuffer_counts (hf : RetryCounts r s) : RetryCounts r (s.deleteBuffer r) where
  buffer := by simp [RagState.bufferOf]
  jobs := hf.jobs

/-- A flush keeps the retry counts. -/
lemma flushStatementBuffer_counts (send : CallResult) (now : ℕ) (hf : RetryCounts r s) :
    RetryCounts r (s.flushStatementBuffer r send now) := by
  unfold RagState.flushStatementBuffer
  split
  · exact hf
  · exact hf
  · rename_i buffer _ hget
    have hb : s.bufferOf r = buffer := by simp [RagState.bufferOf, hget]
    exact flushLoop_counts (fun p hp => hf.buffer p (hb ▸ List.mem_of_mem_filter hp)) send now
      (deleteBuffer_counts hf)

end Queued

/-! ## The refinement -/

section Refinement

variable {r : RoomId} {s s' : RagState}

/-- A calm change is a quiet step of the outbox. -/
lemma Calm.statementStep (h : Calm r s s') (hf : RetryCounts r s) :
    StatementStep r s .quiet s' where
  outbox := .quiet ⟨by simp only [RagState.outbox, RagState.bufferOf, h.buffer],
    h.jobs.filterMap _, h.jobs.filterMap _, h.sent, h.online⟩
  counts := hf.calm h
  fresh := h.fresh
  given := by simp [Outbox.Label.given]

/-- An event of another room is a quiet step of the outbox. -/
lemma statementStep_of_same (hc : rooms.Closed r s) (hf : RetryCounts r s)
    (h : rooms.Same r s s') : StatementStep r s .quiet s' where
  outbox := .quiet (outbox_of_same h hc ▸ .refl _)
  counts := ⟨bufferOf_of_same h ▸ hf.buffer, jobs_of_same h ▸ hf.jobs⟩
  fresh := (congrArg RoomView.fresh h).le
  given := by simp [Outbox.Label.given]

/-- `sendStatement` gives a statement to the outbox. -/
lemma clientStatement_step (hc : rooms.Closed r s) (hf : RetryCounts r s)
    (text speaker : String) (startTime endTime : Option ℕ) (send : CallResult) (now : ℕ) :
    StatementStep r s
      (.give (givenStatement s r text speaker startTime endTime) (attemptOf send 0))
      (s.clientStatement r text speaker startTime endTime send now) where
  outbox := by
    have hc' : rooms.Closed r (s.bump r 1) := (bump_local 1).closed hc
    have ho : (s.bump r 1).outbox r = s.outbox r := rfl
    rw [RagState.clientStatement, sendStatement_outbox hc', ho]
    exact .give _ _
  counts := sendStatement_counts _ 0 send now ⟨hf.buffer, hf.jobs⟩
  fresh := (clientStatement_effects s r text speaker startTime endTime send now).fresh_le r
  given := by
    intro x hx
    obtain rfl := List.mem_singleton.mp hx
    have h := (sendStatement_effects (s.bump r 1) r (givenStatement s r text speaker startTime
      endTime) 0 send now).fresh_le r
    rw [RagState.bump_fresh, Function.update_self] at h
    exact ⟨rfl, le_rfl, h⟩

/-- An utterance is stored under a name of its own. -/
lemma mockStatements_origin {utterances : List (String × String)} {now : ℕ} {p : PendingStatement}
    (hp : p ∈ mockStatements s r utterances now) :
    p.retryCount = 0 ∧ ∃ i < utterances.length, p.origin = .mock ⟨r, s.fresh r + i⟩ := by
  obtain ⟨⟨u, i⟩, hu, rfl⟩ := List.mem_map.mp hp
  exact ⟨rfl, i, List.snd_lt_of_mem_zipIdx hu |>.trans_le (by simp), rfl⟩

/-- `injectMockStatements` gives statements to the outbox past its capacity. -/
lemma injectMockStatements_step (hf : RetryCounts r s) (utterances : List (String × String))
    (now : ℕ) :
    StatementStep r s (.stock (RagState.stmts (mockStatements s r utterances now)))
      (s.injectMockStatements r utterances now) where
  outbox := by
    have ho : (s.injectMockStatements r utterances now).outbox r =
        { s.outbox r with
          buffer := (s.outbox r).buffer ++
            RagState.stmts (mockStatements s r utterances now) } := by
      have hb : (s.injectMockStatements r utterances now).bufferOf r =
          s.bufferOf r ++ mockStatements s r utterances now := by
        simp [RagState.injectMockStatements, RagState.bufferOf, mockStatements]
      simp only [RagState.outbox, hb, RagState.stmts, List.map_append]
      rfl
    rw [ho]
    exact .stock _
  counts := by
    have hf' : RetryCounts r (s.bump r utterances.length) := ⟨hf.buffer, hf.jobs⟩
    refine hf'.setBuffer fun p hp => ?_
    rcases List.mem_append.mp hp with hp | hp
    · exact hf.buffer p hp
    · exact (mockStatements_origin hp).1
  fresh := (injectMockStatements_effects s r utterances now).fresh_le r
  given := by
    intro x hx
    obtain ⟨p, hp, rfl⟩ := List.mem_map.mp hx
    obtain ⟨-, i, hi, ho⟩ := mockStatements_origin hp
    have hfresh : (s.injectMockStatements r utterances now).fresh r =
        s.fresh r + utterances.length := by simp [RagState.injectMockStatements]
    rw [ho, hfresh]
    exact ⟨rfl, Nat.le_add_right _ _, Nat.add_lt_add_left hi _⟩

/-- A loss that leaves the buffer empty is a step of the outbox that clears it. -/
lemma Loss.statementStep (h : Loss r s s') (hf : RetryCounts r s) (hb : s'.bufferOf r = []) :
    StatementStep r s .clear s' where
  outbox := .clear ⟨by simp [RagState.outbox, hb, RagState.stmts], h.jobs.filterMap _,
    h.jobs.filterMap _, h.sent, h.online⟩
  counts := ⟨by simp [hb], fun tm htm => hf.jobs tm (h.jobs.subset htm)⟩
  fresh := h.fresh
  given := by simp [Outbox.Label.given]

/-- `clearBuffer` empties the buffer of the outbox. -/
lemma clearBuffer_step (hf : RetryCounts r s) : StatementStep r s .clear (s.clearBuffer r) := by
  have h : Effects [.deleteBuffer] s (s.clearBuffer r) := .one s (.deleteBuffer r) rfl
  exact (h.loss rfl).statementStep hf (by simp [RagState.clearBuffer, RagState.bufferOf])

/-- `disconnect` without a registered connection is calm. -/
lemma disconnect_calm (h : s.connections.get r = none) : Calm r s (s.disconnect r) := by
  simp only [disconnect_eq, h]
  exact (cancelReconnect_effects s r).calm rfl rfl

/-- `disconnect` of a registered connection leaves the buffer empty. -/
lemma disconnect_bufferOf {w : Oid} (h : s.connections.get r = some w) :
    (s.disconnect r).bufferOf r = [] := by
  simp only [disconnect_eq, h, RagState.dropConnection]
  split
  · assumption
  · simp [RagState.bufferOf]

/-- `disconnect` of a connected room empties the buffer of the outbox. -/
lemma disconnect_step (hf : RetryCounts r s) {w : Oid} (h : s.connections.get r = some w) :
    StatementStep r s .clear (s.disconnect r) :=
  ((disconnect_effects s r).loss rfl).statementStep hf (disconnect_bufferOf h)

/-- `onModuleDestroy` leaves the buffers empty. -/
lemma onModuleDestroy_bufferOf (s : RagState) (r : RoomId) : s.onModuleDestroy.bufferOf r = [] := by
  have h : Effects _ (clearAll s) s.onModuleDestroy :=
    .foldl (fun s r => disconnect_effects s r) _ _
  exact h.bufferOf_nil rfl (by simp [clearAll, RagState.bufferOf])

/-- `onModuleDestroy` empties the buffer of the outbox. -/
lemma onModuleDestroy_step (hf : RetryCounts r s) : StatementStep r s .clear s.onModuleDestroy :=
  ((onModuleDestroy_effects s).loss rfl).statementStep hf (onModuleDestroy_bufferOf s r)

/-- The `open` handler up to the flush: the room gets connected. -/
lemma registerOpen_outbox {w : Oid} {k : Socket} (hk : s.sockets.get w = some k) :
    (s.registerOpen w k).outbox w.room =
      { s.outbox w.room with
        batches := ((s.registerOpen w k).outbox w.room).batches
        retries := ((s.registerOpen w k).outbox w.room).retries
        online := true } := by
  have hon : (s.registerOpen w k).isConnected w.room = true := by
    refine isConnected_iff.mpr ⟨w, by simp [RagState.registerOpen], ?_⟩
    simp [RagState.registerOpen, RagState.readyState, hk]
  simp only [RagState.outbox, hon]
  rfl

/-- Registering a connection leaves the statement timers alone. -/
lemma registerOpen_jobs (s : RagState) (w : Oid) (k : Socket) (r : RoomId) :
    ((s.registerOpen w k).jobs r).Sublist (s.jobs r) := List.filter_sublist.filter _

/-- The `open` handler flushes the buffer. -/
lemma onOpen_step {w : Oid} {k : Socket} (hk : s.sockets.get w = some k)
    (hc : rooms.Closed w.room s) (hf : RetryCounts w.room s) (send : CallResult) (now : ℕ) :
    StatementStep w.room s
      (.flush (RagState.stmts (RagState.validStatements (s.bufferOf w.room) now))
        (attemptOf send 0))
      (s.onOpen w k send now) := by
  have ht : k.connectionTimer.room = w.room := by
    refine (RoomView.Closed.sockets hc w k ?_).2
    simp [RagState.roomView, JsMap.get_restrict, hk]
  have hc' : rooms.Closed w.room (s.registerOpen w k) := (registerOpen_local rfl ht).closed hc
  have hj := registerOpen_jobs s w k w.room
  have hf' : RetryCounts w.room (s.registerOpen w k) :=
    ⟨hf.buffer, fun tm htm => hf.jobs tm (hj.subset htm)⟩
  have ho : (s.onOpen w k send now).outbox w.room = _ :=
    flushStatementBuffer_outbox hc' hf'.buffer send now
  refine ⟨?_, ?_, (onOpen_effects s w k send now).fresh_le _, by simp [Outbox.Label.given]⟩
  · rw [ho, registerOpen_outbox hk]
    exact .flush _ _ _ _ (List.filter_sublist.map _) (hj.filterMap _) (hj.filterMap _)
  · have h := flushStatementBuffer_counts send now hf'
    exact ⟨h.buffer, h.jobs⟩

/-- A job that fires is taken out of the jobs of its room. -/
lemma fired_jobs {t : Oid} {tm : Timer} (h : s.findTimer t = some tm)
    (hk : tm.kind.isJob = true) :
    ∃ J₁ J₂, s.jobs t.room = J₁ ++ tm :: J₂ ∧
      ((s.clearTimeout t).jobs t.room).Sublist (J₁ ++ J₂) := by
  obtain ⟨hmem, hid⟩ := findTimer_mem h
  obtain ⟨A, B, hAB⟩ := List.append_of_mem hmem
  refine ⟨A.filter fun tm => tm.id.room = t.room && tm.kind.isJob,
    B.filter fun tm => tm.id.room = t.room && tm.kind.isJob, ?_, ?_⟩
  · simp [RagState.jobs, hAB, List.filter_append, hid, hk]
  · simp only [RagState.jobs, RagState.clearTimeout_timers, hAB, List.filter_append,
      List.filter_cons, hid, ne_eq, not_true_eq_false, decide_false, Bool.false_eq_true, if_false]
    exact (List.filter_sublist.filter _).append (List.filter_sublist.filter _)

/-- Disarming a timer keeps the retry counts. -/
lemma RetryCounts.clearTimeout (hf : RetryCounts r s) (t : Oid) :
    RetryCounts r (s.clearTimeout t) :=
  ⟨hf.buffer, fun tm htm => hf.jobs tm ((List.filter_sublist.filter _).subset htm)⟩

/-- A flush goes on. -/
lemma fireFlush_step {t : Oid} {tm : Timer} {rest : List PendingStatement}
    (h : s.findTimer t = some tm) (hk : tm.kind = .flushNext rest) (hc : rooms.Closed t.room s)
    (hf : RetryCounts t.room s) (ext : CallResult) (now : ℕ) :
    StatementStep t.room s (.resume (RagState.stmts rest) (attemptOf ext 0))
      ((s.clearTimeout t).flushLoop t.room rest ext now) := by
  obtain ⟨J₁, J₂, hJ, hsub⟩ := fired_jobs h (by rw [hk]; rfl)
  have hrest : ∀ p ∈ rest, p.retryCount = 0 := by
    have := hf.jobs tm (by simp [hJ])
    rwa [hk] at this
  have hc' : rooms.Closed t.room (s.clearTimeout t) := (clearTimeout_local rfl).closed hc
  have hbatches : (s.outbox t.room).batches =
      J₁.filterMap (fun tm => tm.kind.batch.map RagState.stmts) ++ RagState.stmts rest ::
        J₂.filterMap fun tm => tm.kind.batch.map RagState.stmts := by
    simp [RagState.outbox, hJ, List.filterMap_append, hk, TimerKind.batch]
  have hretries : (s.outbox t.room).retries =
      (J₁ ++ J₂).filterMap fun tm => tm.kind.retried := by
    simp [RagState.outbox, hJ, List.filterMap_append, hk, TimerKind.retried]
  refine ⟨?_, flushLoop_counts hrest ext now (hf.clearTimeout t), ?_, by simp [Outbox.Label.given]⟩
  · rw [flushLoop_outbox hc' hrest]
    refine .resume _ _ _ _ _ _ hbatches ?_ (hretries ▸ hsub.filterMap _)
    rw [← List.filterMap_append]
    exact hsub.filterMap _
  · exact (flushLoop_effects (s.clearTimeout t) t.room rest ext now).fresh_le _

/-- A statement is retried. -/
lemma fireRetry_step {t : Oid} {tm : Timer} {st : Statement} {n : ℕ}
    (h : s.findTimer t = some tm) (hk : tm.kind = .statementRetry st n)
    (hc : rooms.Closed t.room s) (hf : RetryCounts t.room s) (ext : CallResult) (now : ℕ) :
    StatementStep t.room s (.retry st (attemptOf ext n))
      ((s.clearTimeout t).sendStatement t.room st n ext now) := by
  obtain ⟨J₁, J₂, hJ, hsub⟩ := fired_jobs h (by rw [hk]; rfl)
  have hn : n ≠ 0 := by
    have := hf.jobs tm (by simp [hJ])
    rwa [hk] at this
  have hc' : rooms.Closed t.room (s.clearTimeout t) := (clearTimeout_local rfl).closed hc
  have hbatches : (s.outbox t.room).batches =
      (J₁ ++ J₂).filterMap fun tm => tm.kind.batch.map RagState.stmts := by
    simp [RagState.outbox, hJ, List.filterMap_append, hk, TimerKind.batch]
  have hretries : (s.outbox t.room).retries =
      J₁.filterMap (fun tm => tm.kind.retried) ++ st :: J₂.filterMap fun tm => tm.kind.retried := by
    simp [RagState.outbox, hJ, List.filterMap_append, hk, TimerKind.retried]
  refine ⟨?_, sendStatement_counts st n ext now (hf.clearTimeout t), ?_,
    by simp [Outbox.Label.given]⟩
  · rw [RagState.sendStatement, if_neg hn, transmitStatement_outbox hc']
    refine .retry _ _ _ _ _ _ hretries (hbatches ▸ hsub.filterMap _) ?_
    rw [← List.filterMap_append]
    exact hsub.filterMap _
  · exact (sendStatement_effects (s.clearTimeout t) t.room st n ext now).fresh_le _

/-- **Refinement.** A step of the client is a step of the outbox of each room.

**Proof sketch.** An event of another room is not seen. Of the events that concern the room, those
that neither send nor store statements have a footprint that is calm; the others are one lemma
each. -/
theorem step_outbox {e : Event} (hc : ∀ r, rooms.Closed r s) (hf : RetryCounts r s)
    (hs : step s e = some s') : StatementStep r s (outboxLabel r s e) s' := by
  by_cases hr : e.act.concerns r = true
  swap
  · rw [outboxLabel, if_neg hr]
    exact statementStep_of_same (hc r) hf (step_outside (by simpa using hr) hc hs)
  rw [outboxLabel, if_pos hr]
  have heff := step_effects hs
  obtain ⟨now, act⟩ := e
  cases act with
  | connect r' ctor => exact (heff.calm rfl rfl).statementStep hf
  | disconnect r' =>
    obtain rfl : r' = r := by simpa [Act.concerns, Act.room] using hr
    obtain rfl := Option.some.inj hs
    dsimp only
    cases hw : s.connections.get r' with
    | none => exact (disconnect_calm hw).statementStep hf
    | some w => exact disconnect_step hf hw
  | sendStatement r' text speaker startTime endTime send =>
    obtain rfl : r' = r := by simpa [Act.concerns, Act.room] using hr
    obtain rfl := Option.some.inj hs
    exact clientStatement_step (hc r') hf text speaker startTime endTime send now
  | sendQuestion r' text send => exact (heff.calm rfl rfl).statementStep hf
  | sendQuestionWithSources r' text send => exact (heff.calm rfl rfl).statementStep hf
  | requestReport r' => exact (heff.calm rfl rfl).statementStep hf
  | injectMockStatements r' utterances =>
    obtain rfl : r' = r := by simpa [Act.concerns, Act.room] using hr
    obtain rfl := Option.some.inj hs
    exact injectMockStatements_step hf utterances now
  | clearBuffer r' =>
    obtain rfl : r' = r := by simpa [Act.concerns, Act.room] using hr
    obtain rfl := Option.some.inj hs
    exact clearBuffer_step hf
  | onModuleDestroy =>
    obtain rfl := Option.some.inj hs
    exact onModuleDestroy_step hf
  | wsOpen w send =>
    obtain rfl : w.room = r := by simpa [Act.concerns, Act.room] using hr
    obtain ⟨k, hk, -, rfl⟩ := step_wsOpen hs
    exact onOpen_step hk (hc w.room) hf send now
  | wsMessage w data => exact (heff.calm rfl rfl).statementStep hf
  | wsClosing w => exact (heff.calm rfl rfl).statementStep hf
  | wsClose w code => exact (heff.calm rfl rfl).statementStep hf
  | timer t ext =>
    obtain rfl : t.room = r := by simpa [Act.concerns, Act.room] using hr
    obtain ⟨tm, htm, rfl⟩ := step_timer hs
    have hid : tm.id = t := (findTimer_mem htm).2
    simp only [footprint, htm, Option.map_some, Option.getD_some] at heff ⊢
    simp only [RagState.fire, hid] at heff ⊢
    cases hk : tm.kind with
    | connection w | reconnect | request kind w text q | report call =>
      rw [hk] at heff
      exact (heff.calm rfl rfl).statementStep hf
    | statementRetry st n => exact fireRetry_step htm hk (hc t.room) hf ext now
    | flushNext rest => exact fireFlush_step htm hk (hc t.room) hf ext now
  | httpResponse call response => exact (heff.calm rfl rfl).statementStep hf

/-! ## The invariant -/

/-- The facts about the statements of a reachable state: the retry counts, and the statements of
the outbox of a room come from calls of that room. -/
structure StatementsOk (s : RagState) : Prop where
  closed : ∀ r, rooms.Closed r s
  counts : ∀ r, RetryCounts r s
  named : ∀ r, ∀ x ∈ (s.outbox r).items, x.origin.id.room = r ∧ x.origin.id.idx < s.fresh r

/-- No statements in the initial state. -/
lemma init_statementsOk : StatementsOk client.init where
  closed := init_closed
  counts r := ⟨by simp [client, RagState.init, RagState.bufferOf],
    by simp [client, RagState.init, RagState.jobs]⟩
  named r := by
    simp [client, RagState.init, RagState.outbox, RagState.bufferOf, RagState.jobs,
      RagState.sentStatements, Outbox.items, RagState.stmts]

/-- A step keeps the facts about the statements. -/
lemma step_statementsOk {e : Event} (h : StatementsOk s) (hs : step s e = some s') :
    StatementsOk s' where
  closed := step_closed h.closed hs
  counts r := (step_outbox h.closed (h.counts r) hs).counts
  named r x hx := by
    have hstep := step_outbox h.closed (h.counts r) hs
    rcases hstep.outbox.mem_items hx with hx | hx
    · obtain ⟨hr, hlt⟩ := h.named r x hx
      exact ⟨hr, hlt.trans_le hstep.fresh⟩
    · obtain ⟨hr, -, hlt⟩ := hstep.given x hx
      exact ⟨hr, hlt⟩

end Refinement

end Rag
