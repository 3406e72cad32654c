import AuraLive.Rag.State

set_option relaxedAutoImplicit false
set_option autoImplicit false

/-!
# The handlers of the RAG client

The methods and callbacks of `RagClientService` (`src/rag/rag-client.service.ts`) as functions on
`Rag.RagState`. Each function is the code that runs without interruption: from a call, a socket
event or a timer to the next suspension. All clock readings of one such stretch of code are the
argument `now`.

## Main definitions

* `Rag.RagState.connect`, `onOpen`, `onClose`, `scheduleReconnect`, `disconnect` — connections.
* `Rag.RagState.sendStatement`, `addToStatementBuffer`, `flushStatementBuffer` — statements.
* `Rag.RagState.sendQuestion`, `sendQuestionWithSources`, `handleMessage` — questions.
* `Rag.RagState.requestReport`, `httpResponse` — meeting reports.
* `Rag.RagState.injectMockStatements`, `getFormattedTranscript`, `clearBuffer` — the transcript.
* `Rag.RagState.fire` — the callbacks of the timers.

## Design

* `await` on a promise that is settled already, and the continuation of an `async` function whose
  awaited promise has just been settled, run before the next event; they are part of the stretch
  of code that settles the promise.
* `ws.send`, `new WebSocket` and the HTTP request are foreign; how the call ends is an argument.
* Log lines are left out. `JSON.parse` and the property accesses of `handleMessage` that can throw
  are kept: the `catch` around them only logs.
-/

namespace Rag

open Foundations

namespace RagState

/-! ## Statements -/

/-- The object `sendStatement` hands to `JSON.stringify`. -/
def statementMessage (st : Statement) (now : ℕ) : JsVal :=
  .obj [("type", .str "statement"), ("text", .str st.text), ("speaker", .str st.speaker),
    ("confidence", .num 1), ("startTime", .num (st.startTime.getD now : ℕ)),
    ("endTime", match st.endTime with
      | none => .null
      | some t => .num (t : ℕ))]

/-- `addToStatementBuffer`: drop the oldest entry of a full buffer, then append. -/
def addToStatementBuffer (s : RagState) (r : RoomId) (st : Statement) (now : ℕ) : RagState :=
  let buffer := s.bufferOf r
  let kept := if buffer.length ≥ statementBufferMaxSize then buffer.tail else buffer
  s.setBuffer r (kept ++ [⟨st, now, 0⟩])

/-- The part of `sendStatement` after the buffer: send on the open connection, and arm a retry if
`ws.send` throws. The delay is `min(1000 * 2 ** retryCount, 5000)`. -/
def transmitStatement (s : RagState) (r : RoomId) (st : Statement) (retryCount : ℕ)
    (send : CallResult) (now : ℕ) : RagState :=
  match s.openSocket r with
  | none => s
  | some w =>
    match send with
    | .ok => s.transmit w (.statement st) (statementMessage st now)
    | .threw _ =>
      if retryCount < maxStatementRetry then
        s.setTimeout r (.statementRetry st (retryCount + 1))
          (now + min (1000 * 2 ^ retryCount) 5000)
      else s

/-- `sendStatement`. Only a first attempt is stored in the buffer. -/
def sendStatement (s : RagState) (r : RoomId) (st : Statement) (retryCount : ℕ)
    (send : CallResult) (now : ℕ) : RagState :=
  (if retryCount = 0 then s.addToStatementBuffer r st now else s).transmitStatement r st
    retryCount send now

/-- A client's call of `sendStatement`, which always has `retryCount` 0. -/
def clientStatement (s : RagState) (r : RoomId) (text speaker : String)
    (startTime endTime : Option ℕ) (send : CallResult) (now : ℕ) : RagState :=
  (s.bump r 1).sendStatement r ⟨.call (s.freshId r), text, speaker, startTime, endTime⟩ 0 send now

/-- The loop of `flushStatementBuffer`, one statement: send it, then sleep with the rest. -/
def flushLoop (s : RagState) (r : RoomId) (stmts : List PendingStatement) (send : CallResult)
    (now : ℕ) : RagState :=
  match stmts with
  | [] => s
  | stmt :: rest =>
    (s.sendStatement r stmt.toStatement stmt.retryCount send now).setTimeout r (.flushNext rest)
      (now + flushDelay)

/-- The buffered statements that are not older than a minute. -/
def validStatements (buffer : List PendingStatement) (now : ℕ) : List PendingStatement :=
  buffer.filter fun stmt => now - stmt.timestamp ≤ statementBufferMaxAge

/-- `flushStatementBuffer`: empty the buffer and start to send what has not expired. -/
def flushStatementBuffer (s : RagState) (r : RoomId) (send : CallResult) (now : ℕ) : RagState :=
  match s.statementBuffers.get r with
  | none => s
  | some [] => s
  | some buffer =>
    (s.deleteBuffer r).flushLoop r (validStatements buffer now) send now

/-- `injectMockStatements`: append without a size limit. The utterances are pairs of speaker and
text. -/
def injectMockStatements (s : RagState) (r : RoomId) (utterances : List (String × String))
    (now : ℕ) : RagState :=
  let mocks := utterances.zipIdx.map fun u =>
    (⟨⟨.mock ⟨r, s.fresh r + u.2⟩, u.1.2, u.1.1, none, none⟩, now, 0⟩ : PendingStatement)
  (s.bump r utterances.length).setBuffer r (s.bufferOf r ++ mocks)

/-- `clearBuffer`. -/
def clearBuffer (s : RagState) (r : RoomId) : RagState := s.deleteBuffer r

/-- `getFormattedTranscript`. -/
def getFormattedTranscript (s : RagState) (r : RoomId) : String :=
  "\n".intercalate ((s.bufferOf r).map fun stmt => stmt.speaker ++ ": " ++ stmt.text)

/-! ## Connections -/

/-- `connect`: nothing to do on an open connection, else a new socket with a connection timer. -/
def connect (s : RagState) (r : RoomId) (ctor : CallResult) (now : ℕ) : RagState :=
  let promise := s.freshId r
  let s₁ := s.newPromise r .connect
  match s.openSocket r with
  | some _ => s₁.settle promise .connected
  | none =>
    match ctor with
    | .threw message => s₁.settle promise (.rejected message)
    | .ok => s₁.newSocket r promise (now + connectionTimeout)

/-- The first part of the `open` handler: register a new context and forget the failed attempts. -/
def registerOpen (s : RagState) (w : Oid) (k : Socket) : RagState :=
  let s₁ := ((s.markOpen w).clearTimeout k.connectionTimer).setContext w ConnectionContext.new
  (s₁.setConnection w.room w).deleteAttempts w.room

/-- The `open` handler: register the connection, flush the buffer and resolve the promise of
`connect`. -/
def onOpen (s : RagState) (w : Oid) (k : Socket) (send : CallResult) (now : ℕ) : RagState :=
  ((s.registerOpen w k).flushStatementBuffer w.room send now).settle k.promise .connected

/-- `scheduleReconnect`. -/
def scheduleReconnect (s : RagState) (r : RoomId) (now : ℕ) : RagState :=
  if s.reconnectTimers.has r then s
  else
    let currentAttempts := (s.reconnectAttemptCounts.get r).getD 0
    if currentAttempts ≥ maxReconnectAttempts then
      (s.deleteConnection r).deleteAttempts r
    else
      let timer := s.freshId r
      ((s.setAttempts r (currentAttempts + 1)).setTimeout r .reconnect
        (now + reconnectDelay)).setReconnectTimer r timer

/-- The `close` handler: reconnect unless the close code is 1000. -/
def onClose (s : RagState) (w : Oid) (code : ℕ) (now : ℕ) : RagState :=
  let s₁ := s.markClosed w
  if code ≠ 1000 then s₁.scheduleReconnect w.room now
  else s₁.deleteConnection w.room

/-! ## Questions -/

/-- The object a question call hands to `JSON.stringify`. -/
def questionMessage (text : String) : JsVal :=
  .obj [("type", .str "question"), ("text", .str text), ("confidence", .num 1)]

/-- Register a request under its text in a table of the context of `w`. -/
def registerRequest (s : RagState) (kind : QuestionKind) (w : Oid) (text : String)
    (p : PendingRequest) : RagState :=
  s.setContext w ((s.contextOf w).setTable kind (((s.contextOf w).table kind).set text p))

/-- The promise executor of a question call on the open socket `w`: arm the timer, register the
request and send the question. An exception of `ws.send` inside the executor rejects the promise;
entry and timer stay. -/
def askOn (s : RagState) (kind : QuestionKind) (r : RoomId) (w promise : Oid) (text : String)
    (send : CallResult) (now : ℕ) : RagState :=
  let timer := s.freshId r
  let s₁ := (s.setTimeout r (.request kind w text promise) (now + requestTimeout)).registerRequest
    kind w text ⟨promise, timer⟩
  match send with
  | .ok => s₁.transmit w (.question promise) (questionMessage text)
  | .threw message => s₁.settle promise (.rejected message)

/-- The common text of `sendQuestion` and `sendQuestionWithSources`. -/
def ask (s : RagState) (kind : QuestionKind) (r : RoomId) (text : String) (send : CallResult)
    (now : ℕ) : RagState :=
  let promise := s.freshId r
  let s₁ := s.newPromise r (.question kind text)
  match s.openSocket r with
  | none => s₁.settle promise (.rejected ("RAG WebSocket not connected for: " ++ r))
  | some w => s₁.askOn kind r w promise text send now

/-- `sendQuestion`. -/
def sendQuestion (s : RagState) (r : RoomId) (text : String) (send : CallResult) (now : ℕ) :
    RagState := s.ask .plain r text send now

/-- `sendQuestionWithSources`. -/
def sendQuestionWithSources (s : RagState) (r : RoomId) (text : String) (send : CallResult)
    (now : ℕ) : RagState := s.ask .withSources r text send now

/-- Remove the request registered under a text from a table of the context of `w`. -/
def dropRequest (s : RagState) (kind : QuestionKind) (w : Oid) (text : String) : RagState :=
  s.setContext w ((s.contextOf w).setTable kind (((s.contextOf w).table kind).delete text))

/-- The callback of a question's timer: remove whatever request is registered under the text and
reject the promise of the question that armed the timer. -/
def onRequestTimeout (s : RagState) (kind : QuestionKind) (w : Oid) (text : String)
    (promise : Oid) : RagState :=
  (s.dropRequest kind w text).settle promise (.rejected "RAG request timeout")

/-! ## Reports -/

/-- The `catch` of `requestReport`: remove the entry of the room and return a failure. -/
def failReport (s : RagState) (call : Oid) (message : String) : RagState :=
  (s.deleteReport call.room).settle call (.report false message none)

/-- `requestReport` from the moment its `resultPromise` is settled to its return. -/
def finishReport (s : RagState) (call : Oid) (result : Except String ReportResult) : RagState :=
  let s₁ := s.setReportCall call ⟨.finished, some result⟩
  match result with
  | .ok v =>
    s₁.settle call (.report v.success
      (if v.success then "보고서 생성 완료" else "보고서 생성 실패") (some v))
  | .error message => s₁.failReport call message

/-- Settle the `resultPromise` of a `requestReport` call; if the call is waiting for it, the call
returns. -/
def settleResult (s : RagState) (call : Oid) (result : Except String ReportResult) : RagState :=
  match s.reportCalls.get call with
  | none => s
  | some c =>
    if c.result.isSome then s
    else if c.stage = .awaitingResult then s.finishReport call result
    else s.setReportCall call { c with result := some result }

/-- `requestReport` up to its first suspension. -/
def requestReport (s : RagState) (r : RoomId) (now : ℕ) : RagState :=
  let call := s.freshId r
  let s₁ := s.newPromise r .report
  if s.isConnected r = false then
    s₁.settle call (.report false "WebSocket 연결이 없습니다." none)
  else if s.pendingReportRequests.has r then
    s₁.settle call (.report false "이미 보고서 생성 요청이 진행 중입니다." none)
  else
    let timer := s₁.freshId r
    let s₂ := s₁.setTimeout r (.report call) (now + reportTimeout)
    (s₂.setReport r ⟨call, timer⟩).setReportCall call ⟨.posting, none⟩

/-- `requestReport` from the end of its HTTP request to its next suspension. -/
def httpResponse (s : RagState) (call : Oid) (c : ReportCall) (response : CallResult) : RagState :=
  match response with
  | .ok =>
    match c.result with
    | none => s.setReportCall call { c with stage := .awaitingResult }
    | some result => s.finishReport call result
  | .threw message => (s.setReportCall call { c with stage := .finished }).failReport call message

/-- The callback of a report timer. -/
def onReportTimeout (s : RagState) (call : Oid) : RagState :=
  (s.deleteReport call.room).settleResult call (.error "보고서 생성 타임아웃")

/-! ## Messages -/

/-- The key under which `handleMessage` looks for a plain question: `message.text || 'unknown'`,
of use as a key only if it is a string. -/
def requestKey (message : JsVal) : Option String :=
  (JsVal.orElse (message.field "text") (.str "unknown")).asStr

/-- `message.text` as a table key. -/
def questionText (message : JsVal) : Option String := (message.field "text").bind JsVal.asStr

/-- `message.answer || ''`, on which `substring` is called: a value that is not a string makes the
handler throw. -/
def answerText (message : JsVal) : Option String :=
  (JsVal.orElse (message.field "answer") (.str "")).asStr

/-- `message.sources || []` mapped to sources, undefined when `map` or a property access on an
element throws. -/
def answerSources (message : JsVal) : Option (List Source) :=
  match (JsVal.orElse (message.field "sources") (.arr [])).asArr with
  | none => none
  | some l =>
    if l.any JsVal.isNull then none
    else some (l.map fun v =>
      ⟨JsVal.orElse (v.field "text") (.str ""), JsVal.orElse (v.field "speaker") .null⟩)

/-- The `answer` branch of `handleMessage` on the context of `w`. A request with sources has
precedence; its entry and timer are removed before the sources are mapped. -/
def handleAnswer (s : RagState) (w : Oid) (message : JsVal) : RagState :=
  let c := s.contextOf w
  match (questionText message).bind fun text =>
      (c.pendingRequestsWithSources.get text).map fun p => (text, p) with
  | some (text, p) =>
    match answerText message with
    | none => s
    | some answer =>
      let s₁ := (s.clearTimeout p.timer).dropRequest .withSources w text
      match answerSources message with
      | none => s₁
      | some sources => s₁.settle p.promise (.answerWithSources answer sources)
  | none =>
    match (requestKey message).bind c.pendingRequests.get with
    | none => s
    | some p =>
      match answerText message with
      | none => s
      | some answer =>
        let s₁ := s.clearTimeout p.timer
        let s₂ := match questionText message with
          | none => s₁
          | some text => s₁.dropRequest .plain w text
        s₂.settle p.promise (.answer answer)

/-- The `meeting_report` branch of `handleMessage`. -/
def handleMeetingReport (s : RagState) (r : RoomId) (message : JsVal) : RagState :=
  match s.pendingReportRequests.get r with
  | none => s
  | some p =>
    ((s.clearTimeout p.timer).deleteReport r).settleResult p.promise
      (.ok
        { success := JsVal.isStr (message.field "status") "success"
          status := message.field "status"
          meetingTitle := message.field "meeting_title"
          summaryType := message.field "summary_type"
          reportContent := message.field "report_content" })

/-- `handleMessage`. `data` is the parsed message, `none` when `JSON.parse` throws. -/
def handleMessage (s : RagState) (r : RoomId) (data : Option JsVal) : RagState :=
  match data with
  | none => s
  | some message =>
    if message.isNull then s
    else
      match s.connections.get r with
      | none => s
      | some w =>
        if JsVal.isStr (message.field "type") "answer" then s.handleAnswer w message
        else if JsVal.isStr (message.field "type") "meeting_report" then
          s.handleMeetingReport r message
        else s

/-! ## Disconnecting -/

/-- The loop of `disconnect` over `context.pendingRequests`, and the `clear` after it. -/
def rejectPending (s : RagState) (w : Oid) : RagState :=
  let s₁ := (s.contextOf w).pendingRequests.entries.foldl
    (fun s e => (s.clearTimeout e.2.timer).settle e.2.promise
      (.rejected "RAG client disconnected")) s
  s₁.setContext w ((s₁.contextOf w).setTable .plain ∅)

/-- The part of `disconnect` about the report request of the room. -/
def rejectReport (s : RagState) (r : RoomId) : RagState :=
  match s.pendingReportRequests.get r with
  | none => s
  | some p =>
    ((s.clearTimeout p.timer).deleteReport r).settleResult p.promise
      (.error "회의가 종료되었습니다.")

/-- The part of `disconnect` about the reconnect timer and the attempt count. -/
def cancelReconnect (s : RagState) (r : RoomId) : RagState :=
  let s₁ := match s.reconnectTimers.get r with
    | none => s
    | some t => (s.clearTimeout t).deleteReconnectTimer r
  s₁.deleteAttempts r

/-- The part of `disconnect` after the registered context was found: settle what is pending on it,
close its socket and forget it, and drop the buffer. -/
def dropConnection (s : RagState) (r : RoomId) (w : Oid) : RagState :=
  let s₁ := (((s.rejectPending w).rejectReport r).closeSocket w).deleteConnection r
  match s₁.bufferOf r with
  | [] => s₁
  | _ :: _ => s₁.deleteBuffer r

/-- `disconnect`. Without a registered context only the reconnect timer and the attempt count are
dealt with. -/
def disconnect (s : RagState) (r : RoomId) : RagState :=
  let s₁ := s.cancelReconnect r
  match s₁.connections.get r with
  | none => s₁
  | some w => s₁.dropConnection r w

/-- The tables `onModuleDestroy` clears as a whole. -/
@[simps] def clearTables (s : RagState) : RagState :=
  { s with
    reconnectTimers := ∅
    reconnectAttemptCounts := ∅
    statementBuffers := ∅ }

/-- `onModuleDestroy`. -/
def onModuleDestroy (s : RagState) : RagState :=
  let s₁ := (s.reconnectTimers.entries.foldl (fun s e => s.clearTimeout e.2) s).clearTables
  s₁.connections.keys.foldl (fun s r => s.disconnect r) s₁

/-! ## Timers -/

/-- The callback of the connection timer: close a socket that is not open and reject the promise
of its `connect` call. -/
def onConnectionTimeout (s : RagState) (w : Oid) : RagState :=
  match s.sockets.get w with
  | none => s
  | some k =>
    if k.readyState = .OPEN then s
    else (s.closeSocket w).settle k.promise (.rejected "RAG connection timeout")

/-- The callback of a timer that has fired. `ext` is how the foreign call the callback makes
ends: `ws.send` or `new WebSocket`. -/
def fire (s : RagState) (tm : Timer) (ext : CallResult) (now : ℕ) : RagState :=
  match tm.kind with
  | .connection w => s.onConnectionTimeout w
  | .reconnect => (s.deleteReconnectTimer tm.id.room).connect tm.id.room ext now
  | .statementRetry st retryCount => s.sendStatement tm.id.room st retryCount ext now
  | .flushNext rest => s.flushLoop tm.id.room rest ext now
  | .request kind w text promise => s.onRequestTimeout kind w text promise
  | .report call => s.onReportTimeout call

end RagState

end Rag
