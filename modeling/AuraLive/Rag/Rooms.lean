import AuraLive.Foundations.Compartments
import AuraLive.Rag.Events

set_option relaxedAutoImplicit false
set_option autoImplicit false

/-!
# What belongs to a room

The tables of the service are keyed by room id and its callbacks capture a room id, so a handler
should read and write only what belongs to one room. Here this is proved of every handler, by
composing the same fact about the runtime operations it calls.

## Main definitions

* `Rag.RoomView`, `Rag.RagState.roomView` — everything of a state that belongs to a room: its
  entries in the six tables, its sockets, contexts, timers, promises and report calls, the frames
  sent on its sockets and its name counter.
* `Rag.RoomView.Closed` — the references stored with a room are to objects of that room.
* `Rag.rooms` — the rooms as compartments of the state.

## Main results

* `Rag.connect_local`, `Rag.onOpen_local`, `Rag.onClose_local`, `Rag.disconnect_local`,
  `Rag.clientStatement_local`, `Rag.ask_local`, `Rag.handleMessage_local`,
  `Rag.requestReport_local`, `Rag.httpResponse_local`, `Rag.fire_local` — the handlers are local
  to their room.
-/

namespace Rag

open Foundations

/-! ## Views -/

/-- The part of a state that belongs to one room. -/
structure RoomView where
  connection : Option Oid
  contexts : JsMap Oid ConnectionContext
  sockets : JsMap Oid Socket
  buffer : Option (List PendingStatement)
  report : Option PendingRequest
  attempts : Option ℕ
  reconnectTimer : Option Oid
  timers : List Timer
  promises : JsMap Oid Promise
  reportCalls : JsMap Oid ReportCall
  frames : List SentFrame
  fresh : ℕ

/-- What belongs to the room `r`. -/
def RagState.roomView (s : RagState) (r : RoomId) : RoomView where
  connection := s.connections.get r
  contexts := s.contexts.restrict (·.room = r)
  sockets := s.sockets.restrict (·.room = r)
  buffer := s.statementBuffers.get r
  report := s.pendingReportRequests.get r
  attempts := s.reconnectAttemptCounts.get r
  reconnectTimer := s.reconnectTimers.get r
  timers := s.timers.filter (·.id.room = r)
  promises := s.promises.restrict (·.room = r)
  reportCalls := s.reportCalls.restrict (·.room = r)
  frames := s.frames.filter (·.sock.room = r)
  fresh := s.fresh r

/-- A pending entry refers to a promise and a timer of the room. -/
def PendingRequest.Within (p : PendingRequest) (r : RoomId) : Prop :=
  p.promise.room = r ∧ p.timer.room = r

/-- The entries of a context refer to objects of the room. -/
def ConnectionContext.Within (c : ConnectionContext) (r : RoomId) : Prop :=
  ∀ kind text p, (c.table kind).get text = some p → p.Within r

/-- What the callback of a timer captured belongs to the room. -/
def TimerKind.Within (k : TimerKind) (r : RoomId) : Prop :=
  match k with
  | .connection w => w.room = r
  | .request _ w _ promise => w.room = r ∧ promise.room = r
  | .report call => call.room = r
  | .reconnect => True
  | .statementRetry _ _ => True
  | .flushNext _ => True

/-- The references stored with a room are to objects of that room. -/
structure RoomView.Closed (v : RoomView) (r : RoomId) : Prop where
  connection : ∀ w, v.connection = some w → w.room = r
  contexts : ∀ w c, v.contexts.get w = some c → c.Within r
  sockets : ∀ w k, v.sockets.get w = some k → k.promise.room = r ∧ k.connectionTimer.room = r
  report : ∀ p, v.report = some p → p.Within r
  reconnectTimer : ∀ t, v.reconnectTimer = some t → t.room = r
  timers : ∀ tm ∈ v.timers, tm.kind.Within r

/-- The rooms as compartments of the state. -/
def rooms : Compartments RoomId RagState where
  Same r s t := s.roomView r = t.roomView r
  Closed r s := (s.roomView r).Closed r
  refl _ _ := rfl
  symm h := h.symm
  trans h h' := h.trans h'
  closed_of_same h hc := h ▸ hc

/-- A program is local to a room if its effect on the view of the room is a function of that view
that keeps references inside, and it leaves the other views alone. -/
lemma local_of_view {r : RoomId} {f : RagState → RagState} (g : RoomView → RoomView)
    (hin : ∀ s, (f s).roomView r = g (s.roomView r))
    (hout : ∀ s r', r' ≠ r → (f s).roomView r' = s.roomView r')
    (hclosed : ∀ v : RoomView, v.Closed r → (g v).Closed r) : rooms.LocalTo r f where
  closed h := by
    change ((f _).roomView r).Closed r
    rw [hin]
    exact hclosed _ h
  inside _ h := by
    change (f _).roomView r = (f _).roomView r
    rw [hin, hin, show _ = _ from h]
  outside hk _ := (hout _ _ hk).symm

/-! ## The runtime operations are local -/

section Primitives

variable {r : RoomId}

/-- Taking names of the room. -/
lemma bump_local (n : ℕ) : rooms.LocalTo r fun s => s.bump r n :=
  local_of_view (fun v => { v with fresh := v.fresh + n })
    (fun s => by simp [RagState.roomView])
    (fun s r' h => by simp [RagState.roomView, h])
    (fun v h => { h with })

/-- Arming a timer of the room whose callback captured objects of the room. -/
lemma setTimeout_local (kind : TimerKind) (hk : kind.Within r) (due : ℕ) :
    rooms.LocalTo r fun s => s.setTimeout r kind due :=
  local_of_view
    (fun v => { v with timers := v.timers ++ [⟨⟨r, v.fresh⟩, kind, due⟩], fresh := v.fresh + 1 })
    (fun s => by simp [RagState.roomView, RagState.freshId])
    (fun s r' h => by simp [RagState.roomView, RagState.freshId, h, Ne.symm h])
    (fun v h => { h with
      timers := by
        intro tm htm
        rcases List.mem_append.mp htm with htm | htm
        · exact h.timers tm htm
        · rw [List.mem_singleton.mp htm]
          exact hk })

/-- Clearing a timer of the room. -/
lemma clearTimeout_local {t : Oid} (ht : t.room = r) :
    rooms.LocalTo r fun s => s.clearTimeout t :=
  local_of_view (fun v => { v with timers := v.timers.filter fun tm => tm.id ≠ t })
    (fun s => by simp [RagState.roomView, List.filter_filter, Bool.and_comm])
    (fun s r' h => by
      have hf : (s.timers.filter fun tm => tm.id ≠ t).filter (fun tm => tm.id.room = r') =
          s.timers.filter (fun tm => tm.id.room = r') := by
        rw [List.filter_filter]
        refine List.filter_congr fun tm _ => ?_
        by_cases hr : tm.id.room = r'
        · have : tm.id ≠ t := fun he => h (by rw [← hr, he, ht])
          simp [hr, this]
        · simp [hr]
      simp only [RagState.roomView, RagState.clearTimeout, hf])
    (fun v h => { h with timers := fun tm htm => h.timers tm (List.mem_filter.mp htm).1 })

/-- Making a promise of the room. -/
lemma newPromise_local (kind : PromiseKind) : rooms.LocalTo r fun s => s.newPromise r kind :=
  local_of_view
    (fun v => { v with promises := v.promises.set ⟨r, v.fresh⟩ ⟨kind, none⟩, fresh := v.fresh + 1 })
    (fun s => by simp [RagState.roomView, RagState.freshId, JsMap.restrict_set_of_pos])
    (fun s r' h => by
      simp [RagState.roomView, RagState.freshId, JsMap.restrict_set_of_neg, h, Ne.symm h])
    (fun v h => { h with })

/-- Settling a promise of the room. -/
lemma settle_local {q : Oid} (hq : q.room = r) (x : Settlement) :
    rooms.LocalTo r fun s => s.settle q x :=
  local_of_view
    (fun v => { v with
      promises := v.promises.update q fun p => { p with settled := p.settled.or (some x) } })
    (fun s => by simp [RagState.roomView, JsMap.restrict_update_of_pos, hq])
    (fun s r' h => by simp [RagState.roomView, JsMap.restrict_update_of_neg, hq, Ne.symm h])
    (fun v h => { h with })

/-- Creating a socket of the room. -/
lemma newSocket_local {q : Oid} (hq : q.room = r) (due : ℕ) :
    rooms.LocalTo r fun s => s.newSocket r q due :=
  local_of_view
    (fun v => { v with
      sockets := v.sockets.set ⟨r, v.fresh⟩ ⟨.CONNECTING, false, q, ⟨r, v.fresh + 1⟩⟩
      timers := v.timers ++ [⟨⟨r, v.fresh + 1⟩, .connection ⟨r, v.fresh⟩, due⟩]
      fresh := v.fresh + 2 })
    (fun s => by simp [RagState.roomView, RagState.freshId, JsMap.restrict_set_of_pos])
    (fun s r' h => by
      simp [RagState.roomView, RagState.freshId, JsMap.restrict_set_of_neg, h, Ne.symm h])
    (fun v h => { h with
      sockets := JsMap.forall_get_set ⟨hq, rfl⟩ fun w k _ hk => h.sockets w k hk
      timers := by
        intro tm htm
        rcases List.mem_append.mp htm with htm | htm
        · exact h.timers tm htm
        · rw [List.mem_singleton.mp htm]
          rfl })

/-- Changing a socket without touching what its handlers captured is local. -/
lemma updateSocket_local {w : Oid} (hw : w.room = r) (f : Socket → Socket)
    (hf : ∀ k, (f k).promise = k.promise ∧ (f k).connectionTimer = k.connectionTimer) :
    rooms.LocalTo r fun s => { s with sockets := s.sockets.update w f } :=
  local_of_view (fun v => { v with sockets := v.sockets.update w f })
    (fun s => by simp [RagState.roomView, JsMap.restrict_update_of_pos, hw])
    (fun s r' h => by simp [RagState.roomView, JsMap.restrict_update_of_neg, hw, Ne.symm h])
    (fun v h => { h with
      sockets := by
        intro w' k hk
        rw [JsMap.get_update] at hk
        split at hk
        · obtain ⟨k₀, hk₀, rfl⟩ := Option.map_eq_some_iff.mp hk
          rw [(hf k₀).1, (hf k₀).2]
          exact h.sockets w' k₀ hk₀
        · exact h.sockets w' k hk })

/-- Opening a socket of the room. -/
lemma markOpen_local {w : Oid} (hw : w.room = r) : rooms.LocalTo r fun s => s.markOpen w :=
  updateSocket_local hw _ fun _ => ⟨rfl, rfl⟩

/-- Closing a socket of the room for good. -/
lemma markClosed_local {w : Oid} (hw : w.room = r) : rooms.LocalTo r fun s => s.markClosed w :=
  updateSocket_local hw _ fun _ => ⟨rfl, rfl⟩

/-- `ws.close()` on a socket of the room. -/
lemma closeSocket_local {w : Oid} (hw : w.room = r) : rooms.LocalTo r fun s => s.closeSocket w :=
  updateSocket_local hw Socket.close fun k => by
    unfold Socket.close
    split <;> exact ⟨rfl, rfl⟩

/-- Sending a frame on a socket of the room. -/
lemma transmit_local {w : Oid} (hw : w.room = r) (origin : FrameOrigin) (payload : JsVal) :
    rooms.LocalTo r fun s => s.transmit w origin payload :=
  local_of_view (fun v => { v with frames := v.frames ++ [⟨w, origin, payload⟩] })
    (fun s => by simp [RagState.roomView, hw])
    (fun s r' h => by simp [RagState.roomView, hw, Ne.symm h])
    (fun v h => { h with })

/-- Storing a context of the room. -/
lemma setContext_local {w : Oid} (hw : w.room = r) {c : ConnectionContext} (hc : c.Within r) :
    rooms.LocalTo r fun s => s.setContext w c :=
  local_of_view (fun v => { v with contexts := v.contexts.set w c })
    (fun s => by simp [RagState.roomView, JsMap.restrict_set_of_pos, hw])
    (fun s r' h => by simp [RagState.roomView, JsMap.restrict_set_of_neg, hw, Ne.symm h])
    (fun v h => { h with
      contexts := JsMap.forall_get_set hc fun w' c' _ hc' => h.contexts w' c' hc' })

/-- Registering a socket of the room. -/
lemma setConnection_local {w : Oid} (hw : w.room = r) :
    rooms.LocalTo r fun s => s.setConnection r w :=
  local_of_view (fun v => { v with connection := some w })
    (fun s => by simp [RagState.roomView])
    (fun s r' h => by simp [RagState.roomView, Ne.symm h])
    (fun v h => { h with connection := fun w' hw' => Option.some.inj hw' ▸ hw })

/-- Removing the connection of the room. -/
lemma deleteConnection_local : rooms.LocalTo r fun s => s.deleteConnection r :=
  local_of_view (fun v => { v with connection := none })
    (fun s => by simp [RagState.roomView])
    (fun s r' h => by simp [RagState.roomView, Ne.symm h])
    (fun v h => { h with connection := nofun })

/-- Storing the buffer of the room. -/
lemma setBuffer_local (buffer : List PendingStatement) :
    rooms.LocalTo r fun s => s.setBuffer r buffer :=
  local_of_view (fun v => { v with buffer := some buffer })
    (fun s => by simp [RagState.roomView])
    (fun s r' h => by simp [RagState.roomView, Ne.symm h])
    (fun v h => { h with })

/-- Removing the buffer of the room. -/
lemma deleteBuffer_local : rooms.LocalTo r fun s => s.deleteBuffer r :=
  local_of_view (fun v => { v with buffer := none })
    (fun s => by simp [RagState.roomView])
    (fun s r' h => by simp [RagState.roomView, Ne.symm h])
    (fun v h => { h with })

/-- Counting an attempt of the room. -/
lemma setAttempts_local (n : ℕ) : rooms.LocalTo r fun s => s.setAttempts r n :=
  local_of_view (fun v => { v with attempts := some n })
    (fun s => by simp [RagState.roomView])
    (fun s r' h => by simp [RagState.roomView, Ne.symm h])
    (fun v h => { h with })

/-- Forgetting the attempts of the room. -/
lemma deleteAttempts_local : rooms.LocalTo r fun s => s.deleteAttempts r :=
  local_of_view (fun v => { v with attempts := none })
    (fun s => by simp [RagState.roomView])
    (fun s r' h => by simp [RagState.roomView, Ne.symm h])
    (fun v h => { h with })

/-- Registering the reconnect timer of the room. -/
lemma setReconnectTimer_local {t : Oid} (ht : t.room = r) :
    rooms.LocalTo r fun s => s.setReconnectTimer r t :=
  local_of_view (fun v => { v with reconnectTimer := some t })
    (fun s => by simp [RagState.roomView])
    (fun s r' h => by simp [RagState.roomView, Ne.symm h])
    (fun v h => { h with reconnectTimer := fun t' ht' => Option.some.inj ht' ▸ ht })

/-- Removing the reconnect timer of the room. -/
lemma deleteReconnectTimer_local : rooms.LocalTo r fun s => s.deleteReconnectTimer r :=
  local_of_view (fun v => { v with reconnectTimer := none })
    (fun s => by simp [RagState.roomView])
    (fun s r' h => by simp [RagState.roomView, Ne.symm h])
    (fun v h => { h with reconnectTimer := nofun })

/-- Registering a report request of the room. -/
lemma setReport_local {p : PendingRequest} (hp : p.Within r) :
    rooms.LocalTo r fun s => s.setReport r p :=
  local_of_view (fun v => { v with report := some p })
    (fun s => by simp [RagState.roomView])
    (fun s r' h => by simp [RagState.roomView, Ne.symm h])
    (fun v h => { h with report := fun p' hp' => Option.some.inj hp' ▸ hp })

/-- Removing the report request of the room. -/
lemma deleteReport_local : rooms.LocalTo r fun s => s.deleteReport r :=
  local_of_view (fun v => { v with report := none })
    (fun s => by simp [RagState.roomView])
    (fun s r' h => by simp [RagState.roomView, Ne.symm h])
    (fun v h => { h with report := nofun })

/-- Recording the stage of a report call of the room. -/
lemma setReportCall_local (call : Oid) (hc : call.room = r) (c : ReportCall) :
    rooms.LocalTo r fun s => s.setReportCall call c :=
  local_of_view (fun v => { v with reportCalls := v.reportCalls.set call c })
    (fun s => by simp [RagState.roomView, JsMap.restrict_set_of_pos, hc])
    (fun s r' h => by simp [RagState.roomView, JsMap.restrict_set_of_neg, hc, Ne.symm h])
    (fun v h => { h with })

end Primitives

/-! ## What a room sees -/

section Reads

variable {r : RoomId} {s t : RagState}

/-- Objects of the room are found in its view. -/
lemma get_of_sameView {α : Type} {m m' : JsMap Oid α} {o : Oid}
    (h : m.restrict (·.room = r) = m'.restrict (·.room = r)) (ho : o.room = r) :
    m.get o = m'.get o := by
  have := congrArg (fun m => JsMap.get m o) h
  simpa [JsMap.get_restrict, ho] using this

/-- A socket of the room is part of what belongs to it. -/
lemma sockets_get_of_same (h : rooms.Same r s t) {w : Oid} (hw : w.room = r) :
    s.sockets.get w = t.sockets.get w := get_of_sameView (congrArg RoomView.sockets h) hw

/-- A context of the room is part of what belongs to it. -/
lemma contextOf_of_same (h : rooms.Same r s t) {w : Oid} (hw : w.room = r) :
    s.contextOf w = t.contextOf w := by
  unfold RagState.contextOf
  rw [get_of_sameView (congrArg RoomView.contexts h) hw]

/-- A report call of the room is part of what belongs to it. -/
lemma reportCalls_get_of_same (h : rooms.Same r s t) {call : Oid} (hc : call.room = r) :
    s.reportCalls.get call = t.reportCalls.get call :=
  get_of_sameView (congrArg RoomView.reportCalls h) hc

/-- The registered socket of a room is its own. -/
lemma openSocket_room (h : rooms.Closed r s) {w : Oid} (hw : s.openSocket r = some w) :
    w.room = r :=
  RoomView.Closed.connection h w (Option.mem_filter_iff.mp hw).1

/-- Which socket is open and registered is seen in what belongs to the room. -/
lemma openSocket_of_same (h : rooms.Same r s t) (hc : rooms.Closed r s) :
    s.openSocket r = t.openSocket r := by
  have hconn : s.connections.get r = t.connections.get r := congrArg RoomView.connection h
  unfold RagState.openSocket
  rw [← hconn]
  cases hw : s.connections.get r with
  | none => rfl
  | some w =>
    have := sockets_get_of_same h (RoomView.Closed.connection hc w hw)
    simp only [Option.filter, RagState.readyState, this]
    rfl

/-- A timer of the room is part of what belongs to it. -/
lemma findTimer_of_same (h : rooms.Same r s t) {i : Oid} (hi : i.room = r) :
    s.findTimer i = t.findTimer i := by
  have key : ∀ l : List Timer,
      l.find? (fun tm => tm.id = i) = (l.filter (·.id.room = r)).find? fun tm => tm.id = i := by
    intro l
    rw [List.find?_filter]
    congr 1
    funext tm
    by_cases htm : tm.id = i
    · simp [htm, hi]
    · simp [htm]
  have htm : s.timers.filter (·.id.room = r) = t.timers.filter (·.id.room = r) :=
    congrArg RoomView.timers h
  rw [RagState.findTimer, RagState.findTimer, key, htm, ← key]

/-- The buffer is part of what belongs to the room. -/
lemma bufferOf_of_same (h : rooms.Same r s t) : s.bufferOf r = t.bufferOf r := by
  have : s.statementBuffers.get r = t.statementBuffers.get r := congrArg RoomView.buffer h
  rw [RagState.bufferOf, RagState.bufferOf, this]

/-- The next name is part of what belongs to the room. -/
lemma freshId_of_same (h : rooms.Same r s t) : s.freshId r = t.freshId r := by
  have : s.fresh r = t.fresh r := congrArg RoomView.fresh h
  rw [RagState.freshId, RagState.freshId, this]

/-- The context of a socket of the room refers to objects of the room. -/
lemma contextOf_within (h : rooms.Closed r s) {w : Oid} (hw : w.room = r) :
    (s.contextOf w).Within r := by
  unfold RagState.contextOf
  cases hc : s.contexts.get w with
  | none =>
    intro kind text p hp
    cases kind <;> simp [ConnectionContext.new, ConnectionContext.table] at hp
  | some c =>
    refine RoomView.Closed.contexts h w c ?_
    simp [RagState.roomView, JsMap.get_restrict, hw, hc]

end Reads

/-! ## The handlers are local -/

section Handlers

open Compartments

variable {r : RoomId}

/-- `addToStatementBuffer` is local to its room. -/
lemma addToStatementBuffer_local (st : Statement) (now : ℕ) :
    rooms.LocalTo r fun s => s.addToStatementBuffer r st now :=
  .read (fun s => s.bufferOf r) (fun _ => True) (fun _ h => bufferOf_of_same h) (fun _ => trivial)
    (fun b _ => setBuffer_local
      ((if b.length ≥ statementBufferMaxSize then b.tail else b) ++ [⟨st, now, 0⟩]))
    (fun _ => rfl)

/-- `transmitStatement` is local to its room. -/
lemma transmitStatement_local (st : Statement) (n : ℕ) (send : CallResult) (now : ℕ) :
    rooms.LocalTo r fun s => s.transmitStatement r st n send now := by
  cases send with
  | ok =>
    exact .lookup (fun s => s.openSocket r) (·.room = r) (fun hc h => openSocket_of_same h hc)
      (fun hc h => openSocket_room hc h) (.id _ _)
      (fun w hw => transmit_local hw (.statement st) (RagState.statementMessage st now))
      (fun s h => by simp only [RagState.transmitStatement, h])
      (fun s w h => by simp only [RagState.transmitStatement, h])
  | threw message =>
    by_cases hn : n < maxStatementRetry
    · exact .lookup (fun s => s.openSocket r) (fun _ => True) (fun hc h => openSocket_of_same h hc)
        (fun _ _ => trivial) (.id _ _)
        (fun w _ => setTimeout_local (.statementRetry st (n + 1)) trivial
          (now + min (1000 * 2 ^ n) 5000))
        (fun s h => by simp only [RagState.transmitStatement, h])
        (fun s w h => by simp only [RagState.transmitStatement, h, if_pos hn])
    · exact .lookup (fun s => s.openSocket r) (fun _ => True) (fun hc h => openSocket_of_same h hc)
        (fun _ _ => trivial) (.id _ _) (fun _ _ => .id _ _)
        (fun s h => by simp only [RagState.transmitStatement, h])
        (fun s w h => by simp only [RagState.transmitStatement, h, if_neg hn])

/-- `sendStatement` is local to its room. -/
lemma sendStatement_local (st : Statement) (n : ℕ) (send : CallResult) (now : ℕ) :
    rooms.LocalTo r fun s => s.sendStatement r st n send now := by
  by_cases hn : n = 0
  · simp only [RagState.sendStatement, if_pos hn]
    exact (addToStatementBuffer_local st now).comp (transmitStatement_local st n send now)
  · simp only [RagState.sendStatement, if_neg hn]
    exact transmitStatement_local st n send now

/-- `clientStatement` is local to its room. -/
lemma clientStatement_local (text speaker : String) (startTime endTime : Option ℕ)
    (send : CallResult) (now : ℕ) :
    rooms.LocalTo r fun s => s.clientStatement r text speaker startTime endTime send now :=
  .read (fun s => s.freshId r) (fun _ => True) (fun _ h => freshId_of_same h) (fun _ => trivial)
    (fun id _ => (bump_local 1).comp
      (sendStatement_local ⟨.call id, text, speaker, startTime, endTime⟩ 0 send now))
    (fun _ => rfl)

/-- `flushLoop` is local to its room. -/
lemma flushLoop_local (stmts : List PendingStatement) (send : CallResult) (now : ℕ) :
    rooms.LocalTo r fun s => s.flushLoop r stmts send now := by
  cases stmts with
  | nil => exact .id _ _
  | cons stmt rest =>
    exact (sendStatement_local stmt.toStatement stmt.retryCount send now).comp
      (setTimeout_local (.flushNext rest) trivial (now + flushDelay))

/-- `flushStatementBuffer` is local to its room. -/
lemma flushStatementBuffer_local (send : CallResult) (now : ℕ) :
    rooms.LocalTo r fun s => s.flushStatementBuffer r send now := by
  refine .caseOn (fun s => s.statementBuffers.get r) (fun _ => True)
    (fun _ h => congrArg RoomView.buffer h) (fun _ => trivial) (fun o _ => ?_)
  cases o with
  | none => exact ⟨_, .id _ _, fun s hs => by simp only [RagState.flushStatementBuffer, hs]⟩
  | some buffer =>
    cases buffer with
    | nil => exact ⟨_, .id _ _, fun s hs => by simp only [RagState.flushStatementBuffer, hs]⟩
    | cons stmt rest =>
      exact ⟨_, deleteBuffer_local.comp (flushLoop_local
        (RagState.validStatements (stmt :: rest) now) send now), fun s hs => by
          simp only [RagState.flushStatementBuffer, hs]⟩

/-- `injectMockStatements` is local to its room. -/
lemma injectMockStatements_local (utterances : List (String × String)) (now : ℕ) :
    rooms.LocalTo r fun s => s.injectMockStatements r utterances now :=
  .read (fun s => (s.fresh r, s.bufferOf r)) (fun _ => True)
    (fun _ h => Prod.ext (congrArg RoomView.fresh h) (bufferOf_of_same h))
    (fun _ => trivial)
    (fun a _ => (bump_local utterances.length).comp (setBuffer_local (a.2 ++
      utterances.zipIdx.map fun u => ⟨⟨.mock ⟨r, a.1 + u.2⟩, u.1.2, u.1.1, none, none⟩, now, 0⟩)))
    (fun _ => rfl)

/-- `connect` is local to its room. -/
lemma connect_local (ctor : CallResult) (now : ℕ) :
    rooms.LocalTo r fun s => s.connect r ctor now := by
  refine .caseOn (fun s => (s.freshId r, s.openSocket r)) (fun a => a.1.room = r)
    (fun hc h => Prod.ext (freshId_of_same h) (openSocket_of_same h hc)) (fun _ => rfl)
    (fun a ha => ?_)
  have hnew := newPromise_local (r := r) .connect
  obtain ⟨q, o⟩ := a
  simp only [Prod.mk.injEq]
  cases o with
  | some w =>
    exact ⟨_, hnew.comp (settle_local ha .connected), fun s hs => by
      simp only [RagState.connect, hs]⟩
  | none =>
    cases ctor with
    | threw message =>
      exact ⟨_, hnew.comp (settle_local ha (.rejected message)), fun s hs => by
        simp only [RagState.connect, hs]⟩
    | ok =>
      exact ⟨_, hnew.comp (newSocket_local ha (now + connectionTimeout)), fun s hs => by
        simp only [RagState.connect, hs]⟩

/-- `registerOpen` is local to its room. -/
lemma registerOpen_local {w : Oid} (hw : w.room = r) {k : Socket}
    (ht : k.connectionTimer.room = r) :
    rooms.LocalTo r fun s => s.registerOpen w k := by
  subst hw
  exact (markOpen_local rfl).comp <| (clearTimeout_local ht).comp <|
    (setContext_local rfl (c := .new) (fun kind text p hp => by
      cases kind <;> simp [ConnectionContext.new, ConnectionContext.table] at hp)).comp <|
    (setConnection_local rfl).comp deleteAttempts_local

/-- `onOpen` is local to its room. -/
lemma onOpen_local {w : Oid} (hw : w.room = r) {k : Socket} (hp : k.promise.room = r)
    (ht : k.connectionTimer.room = r) (send : CallResult) (now : ℕ) :
    rooms.LocalTo r fun s => s.onOpen w k send now := by
  subst hw
  exact (registerOpen_local rfl ht).comp <|
    (flushStatementBuffer_local send now).comp (settle_local hp _)

/-- `scheduleReconnect` is local to its room. -/
lemma scheduleReconnect_local (now : ℕ) : rooms.LocalTo r fun s => s.scheduleReconnect r now := by
  refine .read (fun s => (s.reconnectTimers.has r, (s.reconnectAttemptCounts.get r).getD 0,
      s.freshId r)) (fun a => a.2.2.room = r) (fun _ h => ?_) (fun _ => rfl)
    (g := fun a s => if a.1 then s
      else if a.2.1 ≥ maxReconnectAttempts then (s.deleteConnection r).deleteAttempts r
      else ((s.setAttempts r (a.2.1 + 1)).setTimeout r .reconnect
        (now + reconnectDelay)).setReconnectTimer r a.2.2)
    (fun a ha => ?_) (fun _ => rfl)
  · have ht : _ = _ := congrArg RoomView.reconnectTimer h
    have ha : _ = _ := congrArg RoomView.attempts h
    simp only [RagState.roomView] at ht ha
    simp only [JsMap.has, ht, ha, freshId_of_same h]
  · split_ifs
    · exact .id _ _
    · exact deleteConnection_local.comp deleteAttempts_local
    · exact (setAttempts_local _).comp <|
        (setTimeout_local (.reconnect) trivial _).comp (setReconnectTimer_local ha)

/-- `onClose` is local to its room. -/
lemma onClose_local {w : Oid} (hw : w.room = r) (code now : ℕ) :
    rooms.LocalTo r fun s => s.onClose w code now := by
  subst hw
  by_cases hc : code ≠ 1000
  · simp only [RagState.onClose, if_pos hc]
    exact (markClosed_local rfl).comp (scheduleReconnect_local now)
  · simp only [RagState.onClose, if_neg hc]
    exact (markClosed_local rfl).comp deleteConnection_local

/-- Replacing one table of a context keeps its references inside if the new table does. -/
lemma setTable_within {c : ConnectionContext} (hc : c.Within r) (kind : QuestionKind)
    {m : JsMap String PendingRequest} (hm : ∀ text p, m.get text = some p → p.Within r) :
    (c.setTable kind m).Within r := by
  intro kind' text p hp
  cases kind <;> cases kind' <;>
    first
      | exact hm text p hp
      | exact hc .plain text p hp
      | exact hc .withSources text p hp

/-- Removing a request from a context of the room. -/
lemma dropRequest_local (kind : QuestionKind) {w : Oid} (hw : w.room = r) (text : String) :
    rooms.LocalTo r fun s => s.dropRequest kind w text :=
  .read (fun s => s.contextOf w) (·.Within r) (fun _ h => contextOf_of_same h hw)
    (fun hc => contextOf_within hc hw)
    (fun c hc => setContext_local hw (setTable_within hc kind (m := (c.table kind).delete text)
      (fun text' p hp => hc kind text' p (JsMap.get_of_get_delete hp).2)))
    (fun _ => rfl)

/-- Registering a request of the room on one of its contexts. -/
lemma registerRequest_local (kind : QuestionKind) {w : Oid} (hw : w.room = r) (text : String)
    {p : PendingRequest} (hp : p.Within r) :
    rooms.LocalTo r fun s => s.registerRequest kind w text p :=
  .read (fun s => s.contextOf w) (·.Within r) (fun _ h => contextOf_of_same h hw)
    (fun hc => contextOf_within hc hw)
    (fun c hc => setContext_local hw (setTable_within hc kind (m := (c.table kind).set text p)
      (JsMap.forall_get_set hp fun text' p' _ hp' => hc kind text' p' hp')))
    (fun _ => rfl)

/-- Asking on a socket of the room. -/
lemma askOn_local (kind : QuestionKind) {w q : Oid} (hw : w.room = r) (hq : q.room = r)
    (text : String) (send : CallResult) (now : ℕ) :
    rooms.LocalTo r fun s => s.askOn kind r w q text send now := by
  have hreg : ∀ t : Oid, t.room = r → rooms.LocalTo r fun s =>
      (s.setTimeout r (.request kind w text q) (now + requestTimeout)).registerRequest kind w text
        ⟨q, t⟩ := fun t ht =>
    (setTimeout_local (.request kind w text q) ⟨hw, hq⟩ _).comp
      (registerRequest_local kind hw text (p := ⟨q, t⟩) ⟨hq, ht⟩)
  cases send with
  | ok =>
    exact .read (fun s => s.freshId r) (·.room = r) (fun _ h => freshId_of_same h) (fun _ => rfl)
      (fun t ht => (hreg t ht).comp (transmit_local hw (.question q)
        (RagState.questionMessage text))) (fun _ => rfl)
  | threw message =>
    exact .read (fun s => s.freshId r) (·.room = r) (fun _ h => freshId_of_same h) (fun _ => rfl)
      (fun t ht => (hreg t ht).comp (settle_local hq (.rejected message))) (fun _ => rfl)

/-- A question call is local to its room. -/
lemma ask_local (kind : QuestionKind) (text : String) (send : CallResult) (now : ℕ) :
    rooms.LocalTo r fun s => s.ask kind r text send now := by
  refine .caseOn (fun s => (s.freshId r, s.openSocket r))
    (fun a => a.1.room = r ∧ ∀ w, a.2 = some w → w.room = r)
    (fun hc h => Prod.ext (freshId_of_same h) (openSocket_of_same h hc))
    (fun hc => ⟨rfl, fun w hw => openSocket_room hc hw⟩) (fun a ha => ?_)
  have hnew := newPromise_local (r := r) (.question kind text)
  obtain ⟨q, o⟩ := a
  simp only [Prod.mk.injEq]
  cases o with
  | none =>
    exact ⟨_, hnew.comp (settle_local ha.1 (.rejected ("RAG WebSocket not connected for: " ++ r))),
      fun s hs => by simp only [RagState.ask, hs]⟩
  | some w =>
    exact ⟨_, hnew.comp (askOn_local kind (ha.2 w rfl) ha.1 text send now), fun s hs => by
      simp only [RagState.ask, hs]⟩

/-- `onRequestTimeout` is local to its room. -/
lemma onRequestTimeout_local (kind : QuestionKind) {w q : Oid} (hw : w.room = r)
    (hq : q.room = r) (text : String) :
    rooms.LocalTo r fun s => s.onRequestTimeout kind w text q :=
  (dropRequest_local kind hw text).comp (settle_local hq _)

/-- The failure of a report call of the room. -/
lemma failReport_local {call : Oid} (hc : call.room = r) (message : String) :
    rooms.LocalTo r fun s => s.failReport call message := by
  subst hc
  exact deleteReport_local.comp (settle_local rfl _)

/-- The return of a report call of the room. -/
lemma finishReport_local {call : Oid} (hc : call.room = r) (result : Except String ReportResult) :
    rooms.LocalTo r fun s => s.finishReport call result := by
  cases result with
  | ok v => exact (setReportCall_local _ hc _).comp (settle_local hc _)
  | error message => exact (setReportCall_local _ hc _).comp (failReport_local hc message)

/-- Settling the result of a report call of the room. -/
lemma settleResult_local {call : Oid} (hc : call.room = r) (result : Except String ReportResult) :
    rooms.LocalTo r fun s => s.settleResult call result := by
  refine .lookup (fun s => s.reportCalls.get call) (fun _ => True)
    (fun _ h => reportCalls_get_of_same h hc) (fun _ _ => trivial) (.id _ _)
    (g := fun c s => if c.result.isSome then s
      else if c.stage = .awaitingResult then s.finishReport call result
      else s.setReportCall call { c with result := some result })
    (fun c _ => ?_) (fun s h => by simp only [RagState.settleResult, h])
    (fun s c h => by simp only [RagState.settleResult, h])
  split_ifs
  · exact .id _ _
  · exact finishReport_local hc result
  · exact setReportCall_local _ hc _

/-- `requestReport` is local to its room. -/
lemma requestReport_local (now : ℕ) : rooms.LocalTo r fun s => s.requestReport r now := by
  refine .read (fun s => (s.fresh r, s.isConnected r, s.pendingReportRequests.has r))
    (fun _ => True) (fun {s t} hc h => ?_) (fun _ => trivial)
    (g := fun a s =>
      if a.2.1 = false then
        (s.newPromise r .report).settle ⟨r, a.1⟩ (.report false "WebSocket 연결이 없습니다." none)
      else if a.2.2 then
        (s.newPromise r .report).settle ⟨r, a.1⟩
          (.report false "이미 보고서 생성 요청이 진행 중입니다." none)
      else
        (((s.newPromise r .report).setTimeout r (.report ⟨r, a.1⟩)
          (now + reportTimeout)).setReport r
          ⟨⟨r, a.1⟩, ⟨r, a.1 + 1⟩⟩).setReportCall ⟨r, a.1⟩ ⟨.posting, none⟩)
    (fun a _ => ?_) (fun s => by simp [RagState.requestReport, RagState.freshId])
  · have hf : s.fresh r = t.fresh r := congrArg RoomView.fresh h
    have hp : s.pendingReportRequests.get r = t.pendingReportRequests.get r :=
      congrArg RoomView.report h
    simp only [hf, RagState.isConnected, openSocket_of_same h hc, JsMap.has, hp]
  · split_ifs
    · exact (newPromise_local _).comp (settle_local (q := ⟨r, a.1⟩) rfl _)
    · exact (newPromise_local _).comp (settle_local (q := ⟨r, a.1⟩) rfl _)
    · exact (newPromise_local _).comp <|
        (setTimeout_local (.report ⟨r, a.1⟩) rfl _).comp <|
        (setReport_local (p := ⟨⟨r, a.1⟩, ⟨r, a.1 + 1⟩⟩) ⟨rfl, rfl⟩).comp
          (setReportCall_local ⟨r, a.1⟩ rfl _)

/-- `httpResponse` is local to its room. -/
lemma httpResponse_local {call : Oid} (hc : call.room = r) (c : ReportCall)
    (response : CallResult) : rooms.LocalTo r fun s => s.httpResponse call c response := by
  obtain ⟨stage, result⟩ := c
  cases response with
  | threw message => exact (setReportCall_local _ hc _).comp (failReport_local hc message)
  | ok =>
    cases result with
    | none => exact setReportCall_local _ hc _
    | some result => exact finishReport_local hc result

/-- `onReportTimeout` is local to its room. -/
lemma onReportTimeout_local {call : Oid} (hc : call.room = r) :
    rooms.LocalTo r fun s => s.onReportTimeout call := by
  subst hc
  exact deleteReport_local.comp (settleResult_local rfl _)

/-- Giving up the report request of the room with any result is local. -/
lemma takeReport_local (f : RagState → RagState) (result : Except String ReportResult)
    (hnone : ∀ s, s.pendingReportRequests.get r = none → f s = s)
    (hsome : ∀ s p, s.pendingReportRequests.get r = some p → f s =
      ((s.clearTimeout p.timer).deleteReport r).settleResult p.promise result) :
    rooms.LocalTo r f :=
  .lookup (fun s => s.pendingReportRequests.get r) (·.Within r)
    (fun _ h => congrArg RoomView.report h) (fun hc h => RoomView.Closed.report hc _ h) (.id _ _)
    (fun _ hp => (clearTimeout_local hp.2).comp <|
      deleteReport_local.comp (settleResult_local hp.1 result))
    hnone hsome

/-- `handleMeetingReport` is local to its room. -/
lemma handleMeetingReport_local (message : JsVal) :
    rooms.LocalTo r fun s => s.handleMeetingReport r message :=
  takeReport_local _ _ (fun s h => by simp only [RagState.handleMeetingReport, h])
    (fun s p h => by simp only [RagState.handleMeetingReport, h]; rfl)

/-- Rejecting the report request of the room. -/
lemma rejectReport_local : rooms.LocalTo r fun s => s.rejectReport r :=
  takeReport_local _ _ (fun s h => by simp only [RagState.rejectReport, h])
    (fun s p h => by simp only [RagState.rejectReport, h]; rfl)

/-- `handleAnswer` is local to its room.

**Proof sketch.** The context of the room decides which entry the answer belongs to, and the entry
names a timer and a promise of the room. For each outcome of reading the message, what is done is
local to the room. -/
lemma handleAnswer_local {w : Oid} (hw : w.room = r) (message : JsVal) :
    rooms.LocalTo r fun s => s.handleAnswer w message := by
  refine .caseOn (fun s => s.contextOf w) (·.Within r) (fun _ h => contextOf_of_same h hw)
    (fun hc => contextOf_within hc hw) (fun c hc => ?_)
  cases hsrc : (RagState.questionText message).bind fun text =>
      (c.pendingRequestsWithSources.get text).map fun p => (text, p) with
  | some a =>
    obtain ⟨text, -, h⟩ := Option.bind_eq_some_iff.mp hsrc
    obtain ⟨p, hp', rfl⟩ := Option.map_eq_some_iff.mp h
    have hp : p.Within r := hc .withSources _ _ hp'
    have hdrop := (clearTimeout_local hp.2).comp (dropRequest_local .withSources hw text)
    cases hans : RagState.answerText message with
    | none => exact ⟨_, .id _ _, fun s hs => by simp only [RagState.handleAnswer, hs, hsrc, hans]⟩
    | some answer =>
      cases hmap : RagState.answerSources message with
      | none =>
        exact ⟨_, hdrop, fun s hs => by simp only [RagState.handleAnswer, hs, hsrc, hans, hmap]⟩
      | some sources =>
        exact ⟨_, hdrop.comp (settle_local hp.1 (.answerWithSources answer sources)), fun s hs => by
          simp only [RagState.handleAnswer, hs, hsrc, hans, hmap]⟩
  | none =>
    cases hplain : (RagState.requestKey message).bind c.pendingRequests.get with
    | none =>
      exact ⟨_, .id _ _, fun s hs => by simp only [RagState.handleAnswer, hs, hsrc, hplain]⟩
    | some p =>
      obtain ⟨key, -, h⟩ := Option.bind_eq_some_iff.mp hplain
      have hp : p.Within r := hc .plain _ _ h
      have hclear := clearTimeout_local hp.2
      cases hans : RagState.answerText message with
      | none =>
        exact ⟨_, .id _ _, fun s hs => by
          simp only [RagState.handleAnswer, hs, hsrc, hplain, hans]⟩
      | some answer =>
        have hsettle := settle_local hp.1 (.answer answer)
        cases htext : RagState.questionText message with
        | none =>
          refine ⟨_, hclear.comp hsettle, fun s hs => ?_⟩
          simp only [RagState.handleAnswer, hs, hsrc, hplain, hans]
          rw [htext]
        | some text =>
          refine ⟨_, (hclear.comp (dropRequest_local .plain hw text)).comp hsettle, fun s hs => ?_⟩
          simp only [RagState.handleAnswer, hs, hsrc, hplain, hans]
          rw [htext]

/-- `handleMessage` is local to its room. -/
lemma handleMessage_local (data : Option JsVal) :
    rooms.LocalTo r fun s => s.handleMessage r data := by
  cases data with
  | none => exact .id _ _
  | some message =>
    by_cases hnull : message.isNull
    · simp only [RagState.handleMessage, if_pos hnull]
      exact .id _ _
    refine .lookup (fun s => s.connections.get r) (·.room = r)
      (fun _ h => congrArg RoomView.connection h) (fun hc h => RoomView.Closed.connection hc _ h)
      (.id _ _)
      (g := fun w s =>
        if JsVal.isStr (message.field "type") "answer" then s.handleAnswer w message
        else if JsVal.isStr (message.field "type") "meeting_report" then
          s.handleMeetingReport r message
        else s)
      (fun w hw => ?_)
      (fun s h => by simp only [RagState.handleMessage, if_neg hnull, h])
      (fun s w h => by simp only [RagState.handleMessage, if_neg hnull, h])
    split_ifs
    · exact handleAnswer_local hw message
    · exact handleMeetingReport_local message
    · exact .id _ _

/-- Rejecting the plain questions of a context of the room. -/
lemma rejectPending_local {w : Oid} (hw : w.room = r) :
    rooms.LocalTo r fun s => s.rejectPending w := by
  have hloop : rooms.LocalTo r fun s => (s.contextOf w).pendingRequests.entries.foldl
      (fun s e => (s.clearTimeout e.2.timer).settle e.2.promise
        (.rejected "RAG client disconnected")) s :=
    .read (fun s => s.contextOf w) (·.Within r) (fun _ h => contextOf_of_same h hw)
      (fun hc => contextOf_within hc hw)
      (fun c hc => .foldl (l := c.pendingRequests.entries)
        (f := fun e (s : RagState) => (s.clearTimeout e.2.timer).settle e.2.promise
          (.rejected "RAG client disconnected"))
        (fun e he =>
          have hp : e.2.Within r := hc .plain e.1 e.2 (JsMap.get_of_mem_entries _ he)
          (clearTimeout_local hp.2).comp (settle_local hp.1 _)))
      (fun _ => rfl)
  refine hloop.comp (g := fun s => s.setContext w ((s.contextOf w).setTable .plain ∅)) ?_
  exact .read (fun s => s.contextOf w) (·.Within r) (fun _ h => contextOf_of_same h hw)
    (fun hc => contextOf_within hc hw)
    (fun c hc => setContext_local hw (setTable_within hc .plain (m := ∅) (by simp)))
    (fun _ => rfl)

/-- Cancelling the reconnect timer is local to the room. -/
lemma cancelReconnect_local : rooms.LocalTo r fun s => s.cancelReconnect r :=
  .lookup (fun s => s.reconnectTimers.get r) (·.room = r)
    (fun _ h => congrArg RoomView.reconnectTimer h)
    (fun hc h => RoomView.Closed.reconnectTimer hc _ h)
    deleteAttempts_local
    (fun t ht => (clearTimeout_local ht).comp <|
      deleteReconnectTimer_local.comp deleteAttempts_local)
    (fun s h => by simp only [RagState.cancelReconnect, h])
    (fun s t h => by simp only [RagState.cancelReconnect, h])

/-- Dropping the registered context is local to the room. -/
lemma dropConnection_local {w : Oid} (hw : w.room = r) :
    rooms.LocalTo r fun s => s.dropConnection r w := by
  have hclosed := (((rejectPending_local hw).comp rejectReport_local).comp
    (closeSocket_local hw)).comp deleteConnection_local
  refine .caseOn (fun s => ((((s.rejectPending w).rejectReport r).closeSocket w).deleteConnection
    r).bufferOf r) (fun _ => True) (fun hc h => bufferOf_of_same (hclosed.inside hc h))
    (fun _ => trivial) (fun buffer _ => ?_)
  cases buffer with
  | nil => exact ⟨_, hclosed, fun s hs => by simp only [RagState.dropConnection, hs]⟩
  | cons stmt rest =>
    exact ⟨_, hclosed.comp deleteBuffer_local, fun s hs => by
      simp only [RagState.dropConnection, hs]⟩

/-- `disconnect` is local to its room. -/
lemma disconnect_local : rooms.LocalTo r fun s => s.disconnect r :=
  .lookup (fun s => (s.cancelReconnect r).connections.get r) (·.room = r)
    (fun hc h => congrArg RoomView.connection (cancelReconnect_local.inside hc h))
    (fun hc h => RoomView.Closed.connection (cancelReconnect_local.closed hc) _ h)
    cancelReconnect_local (fun _ hw => cancelReconnect_local.comp (dropConnection_local hw))
    (fun s h => by simp only [RagState.disconnect, h])
    (fun s w h => by simp only [RagState.disconnect, h])

/-- `onConnectionTimeout` is local to its room. -/
lemma onConnectionTimeout_local {w : Oid} (hw : w.room = r) :
    rooms.LocalTo r fun s => s.onConnectionTimeout w := by
  refine .lookup (fun s => s.sockets.get w) (fun k => k.promise.room = r)
    (fun _ h => sockets_get_of_same h hw) (fun {s k} hc h => ?_) (.id _ _)
    (g := fun k s => if k.readyState = .OPEN then s
      else (s.closeSocket w).settle k.promise (.rejected "RAG connection timeout"))
    (fun k hk => ?_) (fun s h => by simp only [RagState.onConnectionTimeout, h])
    (fun s k h => by simp only [RagState.onConnectionTimeout, h])
  · refine (RoomView.Closed.sockets hc w k ?_).1
    simp [RagState.roomView, JsMap.get_restrict, hw, h]
  · split_ifs
    · exact .id _ _
    · exact (closeSocket_local hw).comp (settle_local hk _)

/-- The callback of a timer is local to the room of the timer. -/
lemma fire_local {tm : Timer} (hr : tm.id.room = r) (hk : tm.kind.Within r) (ext : CallResult)
    (now : ℕ) : rooms.LocalTo r fun s => s.fire tm ext now := by
  obtain ⟨id, kind, due⟩ := tm
  subst hr
  cases kind with
  | connection w => exact onConnectionTimeout_local hk
  | reconnect => exact deleteReconnectTimer_local.comp (connect_local ext now)
  | statementRetry st n => exact sendStatement_local st n ext now
  | flushNext rest => exact flushLoop_local rest ext now
  | request kind w text q => exact onRequestTimeout_local kind hk.1 hk.2 text
  | report call => exact onReportTimeout_local hk

end Handlers

end Rag
