import AuraLive.Foundations.JsMap
import AuraLive.Foundations.JsValue
import Mathlib.Logic.Function.Basic
import Mathlib.Tactic.Simps.Basic

set_option relaxedAutoImplicit false
set_option autoImplicit false

/-!
# The state of the RAG client

The state of `RagClientService` (`src/rag/rag-client.service.ts`) together with the parts of the
runtime it holds on to: the sockets it created, the timers it armed, the promises it handed out
and the frames it sent.

## Main definitions

* `Rag.RagState` — the six tables of the service keyed by room id, and the heap behind them.
* `Rag.RagState.setTimeout`, `clearTimeout`, `settle`, `transmit`, `closeSocket` — the runtime
  operations the service calls.
* `Rag.RagState.openSocket`, `isConnected` — the registered socket of a room, if it is open.

## Design

* **Object identity.** A socket, a timer, a promise or a statement is named by an `Oid`: the room
  whose call created it and a number, drawn from a counter of that room. Names are never reused,
  so comparing names is comparing object identities. A `ConnectionContext` is created once per
  socket, in its `open` handler, and is named by the socket.
* **Closures.** What a callback captures is stored with the object that will call it: a timer
  carries the variables of its callback (`TimerKind`), a pending entry carries the promise its
  `resolve` and `reject` settle. The room id a callback captures is the room of its name.
* **Suspended code.** `flushStatementBuffer` suspended in its 100 ms sleep is the timer that
  resumes it, carrying the statements still to be sent. `requestReport` suspended in `await` is a
  `ReportCall`.
* **Ghost data.** `Statement.origin` and `SentFrame.origin` record which call a statement or a
  frame belongs to. No handler reads them.
-/

namespace Rag

open Foundations

/-- Room ids. -/
abbrev RoomId := String

/-- The name of a heap object: the room whose call created it, and a number. -/
structure Oid where
  room : RoomId
  idx : ℕ
  deriving DecidableEq, Repr

/-- How a call of foreign code ended: `new WebSocket`, `ws.send` or the HTTP request. -/
inductive CallResult where
  | ok
  | threw (message : String)
  deriving DecidableEq, Repr

/-! ## Constants -/

/-- `REQUEST_TIMEOUT`, 30 s. -/
def requestTimeout : ℕ := 30000

/-- `RECONNECT_DELAY`, 10 s. -/
def reconnectDelay : ℕ := 10000

/-- `MAX_RECONNECT_ATTEMPTS`. -/
def maxReconnectAttempts : ℕ := 3

/-- `MAX_STATEMENT_RETRY`. -/
def maxStatementRetry : ℕ := 3

/-- `STATEMENT_BUFFER_MAX_SIZE`. -/
def statementBufferMaxSize : ℕ := 100

/-- `STATEMENT_BUFFER_MAX_AGE`, one minute. -/
def statementBufferMaxAge : ℕ := 60000

/-- `REPORT_TIMEOUT`, 60 s. -/
def reportTimeout : ℕ := 60000

/-- The delay of the timer armed by `connect`, 10 s. -/
def connectionTimeout : ℕ := 10000

/-- The pause of `flushStatementBuffer` between two statements, 100 ms. -/
def flushDelay : ℕ := 100

/-! ## Statements and frames -/

/-- Where a statement came from: a client's `sendStatement` call or an utterance given to
`injectMockStatements`. -/
inductive StatementOrigin where
  | call (id : Oid)
  | mock (id : Oid)
  deriving DecidableEq, Repr

/-- The arguments of `sendStatement` that travel with a statement. `null` and `undefined` times
are both `none`. -/
structure Statement where
  origin : StatementOrigin
  text : String
  speaker : String
  startTime : Option ℕ
  endTime : Option ℕ
  deriving DecidableEq, Repr

/-- An entry of a statement buffer. -/
structure PendingStatement extends Statement where
  timestamp : ℕ
  retryCount : ℕ
  deriving DecidableEq, Repr

/-- The call a frame was sent for. -/
inductive FrameOrigin where
  | statement (st : Statement)
  | question (promise : Oid)
  deriving DecidableEq, Repr

/-- A frame handed to `ws.send` without an exception. -/
structure SentFrame where
  sock : Oid
  origin : FrameOrigin
  /-- The object given to `JSON.stringify`. -/
  payload : JsVal

/-! ## Promises -/

/-- The two question calls, which differ in the table they register in and in what they resolve
with. -/
inductive QuestionKind where
  | plain
  | withSources
  deriving DecidableEq, Repr

/-- A source of an answer: `{ text, speaker }` with the defaults filled in. -/
structure Source where
  text : JsVal
  speaker : JsVal

/-- What a `meeting_report` message resolves a report request with. -/
structure ReportResult where
  success : Bool
  status : Option JsVal
  meetingTitle : Option JsVal
  summaryType : Option JsVal
  reportContent : Option JsVal

/-- What a promise was settled with. -/
inductive Settlement where
  /-- `connect` resolved. -/
  | connected
  /-- `sendQuestion` resolved. -/
  | answer (text : String)
  /-- `sendQuestionWithSources` resolved. -/
  | answerWithSources (text : String) (sources : List Source)
  /-- `requestReport` returned. -/
  | report (success : Bool) (message : String) (report : Option ReportResult)
  /-- The promise was rejected. -/
  | rejected (reason : String)

/-- The call that returned a promise. -/
inductive PromiseKind where
  | connect
  | question (kind : QuestionKind) (text : String)
  | report
  deriving DecidableEq, Repr

/-- A promise handed out by the service; it settles at most once. -/
structure Promise where
  kind : PromiseKind
  settled : Option Settlement

/-- Where a `requestReport` call is suspended: in the HTTP request, in `await resultPromise`, or
nowhere because it has returned. -/
inductive ReportStage where
  | posting
  | awaitingResult
  | finished
  deriving DecidableEq, Repr

/-- A `requestReport` call that got past its guards, with the state of its `resultPromise`. -/
structure ReportCall where
  stage : ReportStage
  result : Option (Except String ReportResult)

/-! ## Sockets, contexts and timers -/

/-- `WebSocket.readyState`. -/
inductive ReadyState where
  | CONNECTING
  | OPEN
  | CLOSING
  | CLOSED
  deriving DecidableEq, Repr

/-- A socket created by `connect`, with what its handlers captured: the promise of that `connect`
call and the connection timer. -/
structure Socket where
  readyState : ReadyState
  /-- Whether the socket has emitted `open`. -/
  opened : Bool
  promise : Oid
  connectionTimer : Oid
  deriving DecidableEq, Repr

/-- What `ws.close()` makes of a socket: one that is connecting or open starts to close, another
one is left alone. -/
def Socket.close (k : Socket) : Socket :=
  match k.readyState with
  | .CONNECTING => { k with readyState := .CLOSING }
  | .OPEN => { k with readyState := .CLOSING }
  | .CLOSING => k
  | .CLOSED => k

/-- `ws.close()` does not make a socket connecting. -/
lemma Socket.close_readyState (k : Socket) : k.close.readyState ≠ .CONNECTING := by
  unfold Socket.close
  cases hk : k.readyState <;> simp [hk]

/-- A registered request: the promise its `resolve` and `reject` settle, and its timer. -/
structure PendingRequest where
  promise : Oid
  timer : Oid
  deriving DecidableEq, Repr

/-- The two tables of a `ConnectionContext`, keyed by question text. -/
structure ConnectionContext where
  pendingRequests : JsMap String PendingRequest
  pendingRequestsWithSources : JsMap String PendingRequest

/-- The callback of an armed timer with the variables it captured. -/
inductive TimerKind where
  /-- The connection timer of a socket. -/
  | connection (w : Oid)
  /-- The reconnect timer of the room. -/
  | reconnect
  /-- A retry of `sendStatement` with the given `retryCount`. -/
  | statementRetry (st : Statement) (retryCount : ℕ)
  /-- `flushStatementBuffer` between two statements, with those still to be sent. -/
  | flushNext (rest : List PendingStatement)
  /-- The timer of a question registered on the context of `w` under `text`. -/
  | request (kind : QuestionKind) (w : Oid) (text : String) (promise : Oid)
  /-- The timer of a `requestReport` call. -/
  | report (call : Oid)

/-- An armed timer and the moment it is due. -/
structure Timer where
  id : Oid
  kind : TimerKind
  due : ℕ

/-! ## The state -/

/-- The state of `RagClientService` and of the runtime objects it refers to. -/
structure RagState where
  /-- `connections`: the socket whose context is registered for the room. -/
  connections : JsMap RoomId Oid
  /-- The contexts, by socket. -/
  contexts : JsMap Oid ConnectionContext
  /-- The sockets ever created. -/
  sockets : JsMap Oid Socket
  /-- `statementBuffers`. -/
  statementBuffers : JsMap RoomId (List PendingStatement)
  /-- `pendingReportRequests`. -/
  pendingReportRequests : JsMap RoomId PendingRequest
  /-- `reconnectAttemptCounts`. -/
  reconnectAttemptCounts : JsMap RoomId ℕ
  /-- `reconnectTimers`. -/
  reconnectTimers : JsMap RoomId Oid
  /-- The armed timers, oldest first. -/
  timers : List Timer
  /-- The promises handed out. -/
  promises : JsMap Oid Promise
  /-- The `requestReport` calls. -/
  reportCalls : JsMap Oid ReportCall
  /-- The frames sent, oldest first. -/
  frames : List SentFrame
  /-- The next unused number of each room. -/
  fresh : RoomId → ℕ

/-- The state right after construction. -/
def RagState.init : RagState where
  connections := ∅
  contexts := ∅
  sockets := ∅
  statementBuffers := ∅
  pendingReportRequests := ∅
  reconnectAttemptCounts := ∅
  reconnectTimers := ∅
  timers := []
  promises := ∅
  reportCalls := ∅
  frames := []
  fresh := fun _ => 0

namespace ConnectionContext

/-- The context created by the `open` handler. -/
def new : ConnectionContext := ⟨∅, ∅⟩

/-- The table a question call registers in. -/
def table (c : ConnectionContext) : QuestionKind → JsMap String PendingRequest
  | .plain => c.pendingRequests
  | .withSources => c.pendingRequestsWithSources

/-- Replace the table of one kind of question. -/
def setTable (c : ConnectionContext) (kind : QuestionKind) (m : JsMap String PendingRequest) :
    ConnectionContext :=
  match kind with
  | .plain => { c with pendingRequests := m }
  | .withSources => { c with pendingRequestsWithSources := m }

end ConnectionContext

namespace RagState

/-! ## Reading the state -/

/-- The name the next object of the room will get. -/
def freshId (s : RagState) (r : RoomId) : Oid := ⟨r, s.fresh r⟩

/-- The context of a socket. -/
def contextOf (s : RagState) (w : Oid) : ConnectionContext :=
  (s.contexts.get w).getD ConnectionContext.new

/-- `ws.readyState`. -/
def readyState (s : RagState) (w : Oid) : Option ReadyState :=
  (s.sockets.get w).map Socket.readyState

/-- The socket registered for the room, if it is open. The service always tests `isConnected`
before it reads `connections.get(roomId)!`; this is the value it then finds. -/
def openSocket (s : RagState) (r : RoomId) : Option Oid :=
  (s.connections.get r).filter fun w => s.readyState w = some .OPEN

/-- The open socket of the room is the registered one. -/
lemma openSocket_eq_some {s : RagState} {r : RoomId} {w : Oid} :
    s.openSocket r = some w ↔ s.connections.get r = some w ∧ s.readyState w = some .OPEN := by
  simp only [openSocket, Option.filter_eq_some_iff, decide_eq_true_eq]

/-- `isConnected`. -/
def isConnected (s : RagState) (r : RoomId) : Bool := (s.openSocket r).isSome

/-- `statementBuffers.get(roomId)`, an absent buffer read as an empty one. -/
def bufferOf (s : RagState) (r : RoomId) : List PendingStatement :=
  (s.statementBuffers.get r).getD []

/-! ## The runtime -/

/-- Take `n` names of the room. -/
@[simps] def bump (s : RagState) (r : RoomId) (n : ℕ) : RagState :=
  { s with fresh := Function.update s.fresh r (s.fresh r + n) }

/-- `setTimeout`: arm a timer of the room under the next free name. -/
@[simps] def setTimeout (s : RagState) (r : RoomId) (kind : TimerKind) (due : ℕ) : RagState :=
  { s with
    timers := s.timers ++ [⟨s.freshId r, kind, due⟩]
    fresh := Function.update s.fresh r (s.fresh r + 1) }

/-- `clearTimeout`. -/
@[simps] def clearTimeout (s : RagState) (t : Oid) : RagState :=
  { s with timers := s.timers.filter fun tm => tm.id ≠ t }

/-- Create a promise of the room under the next free name. -/
@[simps] def newPromise (s : RagState) (r : RoomId) (kind : PromiseKind) : RagState :=
  { s with
    promises := s.promises.set (s.freshId r) ⟨kind, none⟩
    fresh := Function.update s.fresh r (s.fresh r + 1) }

/-- Settle a promise; a promise that is settled already stays as it is. -/
@[simps] def settle (s : RagState) (q : Oid) (v : Settlement) : RagState :=
  { s with promises := s.promises.update q fun p => { p with settled := p.settled.or (some v) } }

/-- `new WebSocket(url)` followed by arming the connection timer: the socket gets the next free
name and its timer the one after it. -/
@[simps] def newSocket (s : RagState) (r : RoomId) (promise : Oid) (due : ℕ) : RagState :=
  { s with
    sockets := s.sockets.set (s.freshId r) ⟨.CONNECTING, false, promise, ⟨r, s.fresh r + 1⟩⟩
    timers := s.timers ++ [⟨⟨r, s.fresh r + 1⟩, .connection (s.freshId r), due⟩]
    fresh := Function.update s.fresh r (s.fresh r + 2) }

/-- The socket opens: `ws.readyState` becomes `OPEN`. -/
@[simps] def markOpen (s : RagState) (w : Oid) : RagState :=
  { s with sockets := s.sockets.update w fun k => { k with readyState := .OPEN, opened := true } }

/-- The socket is closed: `ws.readyState` becomes `CLOSED`. -/
@[simps] def markClosed (s : RagState) (w : Oid) : RagState :=
  { s with sockets := s.sockets.update w fun k => { k with readyState := .CLOSED } }

/-- `ws.close()`. -/
@[simps] def closeSocket (s : RagState) (w : Oid) : RagState :=
  { s with sockets := s.sockets.update w Socket.close }

/-- A `ws.send` that does not throw. -/
@[simps] def transmit (s : RagState) (w : Oid) (origin : FrameOrigin) (payload : JsVal) :
    RagState :=
  { s with frames := s.frames ++ [⟨w, origin, payload⟩] }

/-! ## The tables -/

/-- Store the context of a socket. -/
@[simps] def setContext (s : RagState) (w : Oid) (c : ConnectionContext) : RagState :=
  { s with contexts := s.contexts.set w c }

/-- `connections.set`. -/
@[simps] def setConnection (s : RagState) (r : RoomId) (w : Oid) : RagState :=
  { s with connections := s.connections.set r w }

/-- `connections.delete`. -/
@[simps] def deleteConnection (s : RagState) (r : RoomId) : RagState :=
  { s with connections := s.connections.delete r }

/-- `statementBuffers.set`. -/
@[simps] def setBuffer (s : RagState) (r : RoomId) (buffer : List PendingStatement) : RagState :=
  { s with statementBuffers := s.statementBuffers.set r buffer }

/-- `statementBuffers.delete`. -/
@[simps] def deleteBuffer (s : RagState) (r : RoomId) : RagState :=
  { s with statementBuffers := s.statementBuffers.delete r }

/-- `reconnectAttemptCounts.set`. -/
@[simps] def setAttempts (s : RagState) (r : RoomId) (n : ℕ) : RagState :=
  { s with reconnectAttemptCounts := s.reconnectAttemptCounts.set r n }

/-- `reconnectAttemptCounts.delete`. -/
@[simps] def deleteAttempts (s : RagState) (r : RoomId) : RagState :=
  { s with reconnectAttemptCounts := s.reconnectAttemptCounts.delete r }

/-- `reconnectTimers.set`. -/
@[simps] def setReconnectTimer (s : RagState) (r : RoomId) (t : Oid) : RagState :=
  { s with reconnectTimers := s.reconnectTimers.set r t }

/-- `reconnectTimers.delete`. -/
@[simps] def deleteReconnectTimer (s : RagState) (r : RoomId) : RagState :=
  { s with reconnectTimers := s.reconnectTimers.delete r }

/-- `pendingReportRequests.set`. -/
@[simps] def setReport (s : RagState) (r : RoomId) (p : PendingRequest) : RagState :=
  { s with pendingReportRequests := s.pendingReportRequests.set r p }

/-- `pendingReportRequests.delete`. -/
@[simps] def deleteReport (s : RagState) (r : RoomId) : RagState :=
  { s with pendingReportRequests := s.pendingReportRequests.delete r }

/-- Record where a `requestReport` call stands. -/
@[simps] def setReportCall (s : RagState) (call : Oid) (c : ReportCall) : RagState :=
  { s with reportCalls := s.reportCalls.set call c }

end RagState

end Rag
