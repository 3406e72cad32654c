import AuraLive.Foundations.Footprint
import AuraLive.Rag.Events

set_option relaxedAutoImplicit false
set_option autoImplicit false

/-!
# What the handlers can do

The runtime operations and table updates as data, and for every handler the kinds of operations it
performs. What a handler leaves alone is read off its footprint.

## Main definitions

* `Rag.Effect`, `Rag.Effect.apply` — one operation on the state.
* `Rag.Tag`, `Rag.Effect.tag` — the kind of an operation.
* `Rag.Effects` — some sequence of operations of the given kinds.

## Main results

* `Rag.connect_effects`, `Rag.onOpen_effects`, `Rag.onClose_effects`, `Rag.disconnect_effects`,
  `Rag.clientStatement_effects`, `Rag.ask_effects`, `Rag.handleMessage_effects`,
  `Rag.requestReport_effects`, `Rag.httpResponse_effects` and so on — the footprints.
-/

namespace Rag

open Foundations

/-! ## Operations -/

/-- An operation on the state. -/
inductive Effect where
  | bump (r : RoomId) (n : ℕ)
  | setTimeout (r : RoomId) (kind : TimerKind) (due : ℕ)
  | clearTimeout (t : Oid)
  | newPromise (r : RoomId) (kind : PromiseKind)
  | settle (q : Oid) (v : Settlement)
  | newSocket (r : RoomId) (promise : Oid) (due : ℕ)
  | markOpen (w : Oid)
  | markClosed (w : Oid)
  | closeSocket (w : Oid)
  | transmit (w : Oid) (origin : FrameOrigin) (payload : JsVal)
  | setContext (w : Oid) (c : ConnectionContext)
  | setConnection (r : RoomId) (w : Oid)
  | deleteConnection (r : RoomId)
  | setBuffer (r : RoomId) (buffer : List PendingStatement)
  | deleteBuffer (r : RoomId)
  | setAttempts (r : RoomId) (n : ℕ)
  | deleteAttempts (r : RoomId)
  | setReconnectTimer (r : RoomId) (t : Oid)
  | deleteReconnectTimer (r : RoomId)
  | setReport (r : RoomId) (p : PendingRequest)
  | deleteReport (r : RoomId)
  | setReportCall (call : Oid) (c : ReportCall)
  | clearTables

/-- The state after an operation. -/
def Effect.apply (a : Effect) (s : RagState) : RagState :=
  match a with
  | bump r n => s.bump r n
  | setTimeout r kind due => s.setTimeout r kind due
  | clearTimeout t => s.clearTimeout t
  | newPromise r kind => s.newPromise r kind
  | settle q v => s.settle q v
  | newSocket r promise due => s.newSocket r promise due
  | markOpen w => s.markOpen w
  | markClosed w => s.markClosed w
  | closeSocket w => s.closeSocket w
  | transmit w origin payload => s.transmit w origin payload
  | setContext w c => s.setContext w c
  | setConnection r w => s.setConnection r w
  | deleteConnection r => s.deleteConnection r
  | setBuffer r buffer => s.setBuffer r buffer
  | deleteBuffer r => s.deleteBuffer r
  | setAttempts r n => s.setAttempts r n
  | deleteAttempts r => s.deleteAttempts r
  | setReconnectTimer r t => s.setReconnectTimer r t
  | deleteReconnectTimer r => s.deleteReconnectTimer r
  | setReport r p => s.setReport r p
  | deleteReport r => s.deleteReport r
  | setReportCall call c => s.setReportCall call c
  | clearTables => s.clearTables

/-- The kind of an operation. Arming a timer is divided by the callback of the timer, sending a
frame by what the frame carries. -/
inductive Tag where
  | bump
  | armConnection
  | armReconnect
  | armRetry
  | armFlush
  | armRequest
  | armReport
  | clearTimeout
  | newPromise
  | settle
  | newSocket
  | markOpen
  | markClosed
  | closeSocket
  | sendStatement
  | sendQuestion
  | setContext
  | setConnection
  | deleteConnection
  | setBuffer
  | deleteBuffer
  | setAttempts
  | deleteAttempts
  | setReconnectTimer
  | deleteReconnectTimer
  | setReport
  | deleteReport
  | setReportCall
  | clearTables
  deriving DecidableEq

/-- No kind of the first list is in the second one. -/
def Tag.avoid (T U : List Tag) : Bool := T.all fun t => !U.contains t

/-- The kind of arming a timer. -/
def TimerKind.tag : TimerKind → Tag
  | .connection _ => .armConnection
  | .reconnect => .armReconnect
  | .statementRetry _ _ => .armRetry
  | .flushNext _ => .armFlush
  | .request _ _ _ _ => .armRequest
  | .report _ => .armReport

/-- The kind of sending a frame. -/
def FrameOrigin.tag : FrameOrigin → Tag
  | .statement _ => .sendStatement
  | .question _ => .sendQuestion

/-- The kind of an operation. -/
def Effect.tag : Effect → Tag
  | bump _ _ => .bump
  | setTimeout _ kind _ => kind.tag
  | clearTimeout _ => .clearTimeout
  | newPromise _ _ => .newPromise
  | settle _ _ => .settle
  | newSocket _ _ _ => .newSocket
  | markOpen _ => .markOpen
  | markClosed _ => .markClosed
  | closeSocket _ => .closeSocket
  | transmit _ origin _ => origin.tag
  | setContext _ _ => .setContext
  | setConnection _ _ => .setConnection
  | deleteConnection _ => .deleteConnection
  | setBuffer _ _ => .setBuffer
  | deleteBuffer _ => .deleteBuffer
  | setAttempts _ _ => .setAttempts
  | deleteAttempts _ => .deleteAttempts
  | setReconnectTimer _ _ => .setReconnectTimer
  | deleteReconnectTimer _ => .deleteReconnectTimer
  | setReport _ _ => .setReport
  | deleteReport _ => .deleteReport
  | setReportCall _ _ => .setReportCall
  | clearTables => .clearTables

/-- Some sequence of operations of the kinds in `T` leads from the first state to the second. -/
def Effects (T : List Tag) : RagState → RagState → Prop :=
  Footprint Effect.apply fun a => T.contains a.tag

namespace Effects

variable {T T' : List Tag} {s s' s'' : RagState}

/-- Doing nothing. -/
lemma refl (T : List Tag) (s : RagState) : Effects T s s := Footprint.refl s

/-- One more operation. -/
lemma next (h : Effects T s s') (a : Effect) (ha : T.contains a.tag = true) :
    Effects T s (a.apply s') := Footprint.next h a ha

/-- One operation. -/
lemma one (s : RagState) (a : Effect) (ha : T.contains a.tag = true) : Effects T s (a.apply s) :=
  (refl T s).next a ha

/-- One program after another. -/
lemma trans (h : Effects T s s') (h' : Effects T s' s'') : Effects T s s'' := Footprint.trans h h'

/-- A footprint may be enlarged. -/
lemma mono (h : Effects T s s') (hT : T.all T'.contains = true) : Effects T' s s' :=
  Footprint.mono h fun a ha => List.all_eq_true.mp hT a.tag (List.elem_iff.mp ha)

/-- Iterating a program over a list. -/
lemma foldl {β : Type} {f : RagState → β → RagState} (hf : ∀ s b, Effects T s (f s b)) (l : List β)
    (s : RagState) : Effects T s (l.foldl f s) := Footprint.foldl hf l s

/-- Names are only added. -/
lemma fresh_le (h : Effects T s s') (r : RoomId) : s.fresh r ≤ s'.fresh r := by
  have key : ∀ (s : RagState) (r' : RoomId) (n : ℕ),
      s.fresh r ≤ Function.update s.fresh r' (s.fresh r' + n) r := by
    intro s r' n
    by_cases hr : r = r'
    · subst hr
      simp
    · simp [hr]
  refine Footprint.rel (R := fun s s' => s.fresh r ≤ s'.fresh r) (fun _ => le_rfl) le_trans ?_ h
  intro a s _
  cases a with
  | bump r' n => exact key s r' n
  | setTimeout r' kind due => exact key s r' 1
  | newPromise r' kind => exact key s r' 1
  | newSocket r' promise due => exact key s r' 2
  | _ => exact le_rfl

/-- An operation of a program whose kinds avoid those in `U` is not of a kind in `U`. -/
lemma avoids {U : List Tag} (hT : Tag.avoid T U = true) {a : Effect}
    (ha : T.contains a.tag = true) : U.contains a.tag = false := by
  simpa using List.all_eq_true.mp hT a.tag (List.elem_iff.mp ha)

/-- To avoid some kinds of operations is to avoid fewer. -/
lemma avoids_subset {U V : List Tag} (hT : Tag.avoid T U = true)
    (hVU : V.all U.contains = true) : Tag.avoid T V = true := by
  simp only [Tag.avoid, List.all_eq_true, Bool.not_eq_true', List.contains_eq_mem,
    decide_eq_false_iff_not, decide_eq_true_eq] at hT hVU ⊢
  exact fun t ht hV => hT t ht (hVU t hV)

/-- The registered connections stay unless an operation writes them. -/
lemma connections_eq (h : Effects T s s')
    (hT : Tag.avoid T [.setConnection, .deleteConnection] = true) :
    s'.connections = s.connections := by
  refine Footprint.field RagState.connections (fun a s ha => ?_) h
  have := avoids hT ha
  cases a <;> first | rfl | cases this

/-- The entries for reconnect timers stay unless an operation writes them. -/
lemma reconnectTimers_eq (h : Effects T s s')
    (hT : Tag.avoid T [.setReconnectTimer, .deleteReconnectTimer, .clearTables] = true) :
    s'.reconnectTimers = s.reconnectTimers := by
  refine Footprint.field RagState.reconnectTimers (fun a s ha => ?_) h
  have := avoids hT ha
  cases a <;> first | rfl | cases this

/-- The attempt counts stay unless an operation writes them. -/
lemma attempts_eq (h : Effects T s s')
    (hT : Tag.avoid T [.setAttempts, .deleteAttempts, .clearTables] = true) :
    s'.reconnectAttemptCounts = s.reconnectAttemptCounts := by
  refine Footprint.field RagState.reconnectAttemptCounts (fun a s ha => ?_) h
  have := avoids hT ha
  cases a <;> first | rfl | cases this

/-- The buffers stay unless an operation writes them. -/
lemma buffers_eq (h : Effects T s s')
    (hT : Tag.avoid T [.setBuffer, .deleteBuffer, .clearTables] = true) :
    s'.statementBuffers = s.statementBuffers := by
  refine Footprint.field RagState.statementBuffers (fun a s ha => ?_) h
  have := avoids hT ha
  cases a <;> first | rfl | cases this

/-- The report requests stay unless an operation writes them. -/
lemma reports_eq (h : Effects T s s')
    (hT : Tag.avoid T [.setReport, .deleteReport] = true) :
    s'.pendingReportRequests = s.pendingReportRequests := by
  refine Footprint.field RagState.pendingReportRequests (fun a s ha => ?_) h
  have := avoids hT ha
  cases a <;> first | rfl | cases this

/-- The report calls stay unless an operation writes them. -/
lemma reportCalls_eq (h : Effects T s s')
    (hT : Tag.avoid T [.setReportCall] = true) :
    s'.reportCalls = s.reportCalls := by
  refine Footprint.field RagState.reportCalls (fun a s ha => ?_) h
  have := avoids hT ha
  cases a <;> first | rfl | cases this

/-- The promises stay unless one is made or settled. -/
lemma promises_eq (h : Effects T s s')
    (hT : Tag.avoid T [.newPromise, .settle] = true) :
    s'.promises = s.promises := by
  refine Footprint.field RagState.promises (fun a s ha => ?_) h
  have := avoids hT ha
  cases a <;> first | rfl | cases this

/-- The contexts stay unless one is written. -/
lemma contexts_eq (h : Effects T s s')
    (hT : Tag.avoid T [.setContext] = true) : s'.contexts = s.contexts := by
  refine Footprint.field RagState.contexts (fun a s ha => ?_) h
  have := avoids hT ha
  cases a <;> first | rfl | cases this

/-- No timer of a kind is armed unless an operation does. Connection timers come with a socket. -/
lemma timers_of_tag (h : Effects T s s') {x : Tag} (hx : x ≠ .armConnection)
    (hT : Tag.avoid T [x] = true) :
    ∀ tm ∈ s'.timers, tm.kind.tag = x → tm ∈ s.timers := by
  refine Footprint.rel (R := fun s s' => ∀ tm ∈ s'.timers, tm.kind.tag = x → tm ∈ s.timers)
    (fun _ _ htm _ => htm) ?_ ?_ h
  · intro s t u h₁ h₂ tm htm hk
    exact h₁ tm (h₂ tm htm hk) hk
  · intro a s ha tm htm hk
    have hne : a.tag ≠ x := by simpa using avoids hT ha
    cases a with
    | setTimeout r' kind due =>
      rcases List.mem_append.mp htm with htm | htm
      · exact htm
      · rw [List.mem_singleton.mp htm] at hk
        exact absurd hk hne
    | newSocket r' promise due =>
      rcases List.mem_append.mp htm with htm | htm
      · exact htm
      · rw [List.mem_singleton.mp htm] at hk
        exact absurd hk.symm hx
    | clearTimeout t => exact List.mem_of_mem_filter htm
    | _ => exact htm

/-- Frames are only appended, and none carries a question unless an operation sends one. -/
lemma frames_append (h : Effects T s s') :
    ∃ l, s'.frames = s.frames ++ l ∧
      (Tag.avoid T [.sendQuestion] = true →
        ∀ f ∈ l, f.origin.tag = .sendStatement) := by
  refine Footprint.rel (R := fun (s s' : RagState) => ∃ l, s'.frames = s.frames ++ l ∧
    (Tag.avoid T [.sendQuestion] = true →
      ∀ f ∈ l, f.origin.tag = .sendStatement)) (fun s => ⟨[], by simp⟩) ?_ ?_ h
  · rintro s t u ⟨l, hl, hlq⟩ ⟨m, hm, hmq⟩
    refine ⟨l ++ m, by rw [hm, hl, List.append_assoc], fun hT f hf => ?_⟩
    exact (List.mem_append.mp hf).elim (hlq hT f) (hmq hT f)
  · intro a s ha
    cases a with
    | transmit w origin payload =>
      refine ⟨[⟨w, origin, payload⟩], rfl, fun hT f hf => ?_⟩
      have := avoids hT ha
      rw [List.mem_singleton.mp hf]
      cases origin with
      | statement st => rfl
      | question q => cases this
    | _ => exact ⟨[], (List.append_nil _).symm, by simp⟩

/-- No connection appears unless one is registered. -/
lemma connections_none (h : Effects T s s')
    (hT : Tag.avoid T [.setConnection] = true) {r : RoomId}
    (hn : s.connections.get r = none) : s'.connections.get r = none := by
  refine Footprint.invariant (I := fun s => s.connections.get r = none) (fun a s ha hn => ?_) h hn
  have := avoids hT ha
  cases a with
  | setConnection r' w => cases this
  | deleteConnection r' =>
    simp only [Effect.apply, RagState.deleteConnection_connections, JsMap.get_delete, hn, ite_self]
  | _ => exact hn

/-- No report request appears unless one is registered. -/
lemma reports_none (h : Effects T s s')
    (hT : Tag.avoid T [.setReport] = true) {r : RoomId}
    (hn : s.pendingReportRequests.get r = none) : s'.pendingReportRequests.get r = none := by
  refine Footprint.invariant (I := fun s => s.pendingReportRequests.get r = none)
    (fun a s ha hn => ?_) h hn
  have := avoids hT ha
  cases a with
  | setReport r' p => cases this
  | deleteReport r' =>
    simp only [Effect.apply, RagState.deleteReport_pendingReportRequests, JsMap.get_delete, hn,
      ite_self]
  | _ => exact hn

/-- No entry for a reconnect timer appears unless one is made. -/
lemma reconnectTimers_none (h : Effects T s s')
    (hT : Tag.avoid T [.setReconnectTimer] = true) {r : RoomId}
    (hn : s.reconnectTimers.get r = none) : s'.reconnectTimers.get r = none := by
  refine Footprint.invariant (I := fun s => s.reconnectTimers.get r = none) (fun a s ha hn => ?_)
    h hn
  have := avoids hT ha
  cases a with
  | setReconnectTimer r' t => cases this
  | deleteReconnectTimer r' =>
    simp only [Effect.apply, RagState.deleteReconnectTimer_reconnectTimers, JsMap.get_delete, hn,
      ite_self]
  | clearTables => rfl
  | _ => exact hn

/-- A buffer stays or goes unless a buffer is stored. -/
lemma buffer_none_or (h : Effects T s s')
    (hT : Tag.avoid T [.setBuffer] = true) {r : RoomId}
    {b : Option (List PendingStatement)}
    (hb : s.statementBuffers.get r = none ∨ s.statementBuffers.get r = b) :
    s'.statementBuffers.get r = none ∨ s'.statementBuffers.get r = b := by
  refine Footprint.invariant
    (I := fun s => s.statementBuffers.get r = none ∨ s.statementBuffers.get r = b)
    (fun a s ha hb => ?_) h hb
  have := avoids hT ha
  cases a with
  | setBuffer r' buffer => cases this
  | deleteBuffer r' =>
    simp only [Effect.apply, RagState.deleteBuffer_statementBuffers, JsMap.get_delete]
    split
    · exact .inl rfl
    · exact hb
  | clearTables => exact .inl rfl
  | _ => exact hb

/-- An empty buffer stays empty unless a buffer is stored. -/
lemma bufferOf_nil (h : Effects T s s')
    (hT : Tag.avoid T [.setBuffer] = true) {r : RoomId}
    (hb : s.bufferOf r = []) : s'.bufferOf r = [] := by
  have h' : s'.statementBuffers.get r = none ∨
      s'.statementBuffers.get r = s.statementBuffers.get r := h.buffer_none_or hT (.inr rfl)
  unfold RagState.bufferOf at hb ⊢
  rcases h' with h' | h'
  · rw [h']
    rfl
  · rw [h', hb]

end Effects

/-! ## The handlers -/

section Handlers

variable (s : RagState) (r : RoomId)

/-- The footprint of `transmitStatement`. -/
lemma transmitStatement_effects (st : Statement) (n : ℕ) (send : CallResult) (now : ℕ) :
    Effects [.sendStatement, .armRetry] s (s.transmitStatement r st n send now) := by
  unfold RagState.transmitStatement
  cases s.openSocket r with
  | none => exact .refl _ s
  | some w =>
    cases send with
    | ok => exact .one s (.transmit _ _ _) rfl
    | threw message =>
      dsimp only
      split
      · exact .one s (.setTimeout _ _ _) rfl
      · exact .refl _ s

/-- The footprint of `sendStatement`. -/
lemma sendStatement_effects (st : Statement) (n : ℕ) (send : CallResult) (now : ℕ) :
    Effects [.setBuffer, .sendStatement, .armRetry] s (s.sendStatement r st n send now) := by
  unfold RagState.sendStatement
  split
  · exact (Effects.one s (.setBuffer r _) rfl).trans
      ((transmitStatement_effects _ r st n send now).mono rfl)
  · exact (transmitStatement_effects s r st n send now).mono rfl

/-- The footprint of `clientStatement`. -/
lemma clientStatement_effects (text speaker : String) (startTime endTime : Option ℕ)
    (send : CallResult) (now : ℕ) :
    Effects [.bump, .setBuffer, .sendStatement, .armRetry] s
      (s.clientStatement r text speaker startTime endTime send now) :=
  (Effects.one s (.bump r 1) rfl).trans ((sendStatement_effects _ r _ 0 send now).mono rfl)

/-- The footprint of `flushLoop`. -/
lemma flushLoop_effects (l : List PendingStatement) (send : CallResult) (now : ℕ) :
    Effects [.setBuffer, .sendStatement, .armRetry, .armFlush] s (s.flushLoop r l send now) := by
  cases l with
  | nil => exact .refl _ s
  | cons stmt rest =>
    exact ((sendStatement_effects s r stmt.toStatement stmt.retryCount send now).mono rfl).next
      (.setTimeout _ _ _) rfl

/-- The footprint of `flushStatementBuffer`. -/
lemma flushStatementBuffer_effects (send : CallResult) (now : ℕ) :
    Effects [.deleteBuffer, .setBuffer, .sendStatement, .armRetry, .armFlush] s
      (s.flushStatementBuffer r send now) := by
  unfold RagState.flushStatementBuffer
  split
  · exact .refl _ s
  · exact .refl _ s
  · exact (Effects.one s (.deleteBuffer r) rfl).trans ((flushLoop_effects _ r _ send now).mono rfl)

/-- The footprint of `injectMockStatements`. -/
lemma injectMockStatements_effects (utterances : List (String × String)) (now : ℕ) :
    Effects [.bump, .setBuffer] s (s.injectMockStatements r utterances now) :=
  (Effects.one s (.bump r _) rfl).next (.setBuffer r _) rfl

/-- The footprint of `connect`. -/
lemma connect_effects (ctor : CallResult) (now : ℕ) :
    Effects [.newPromise, .settle, .newSocket] s (s.connect r ctor now) := by
  unfold RagState.connect
  cases s.openSocket r with
  | some w => exact (Effects.one s (.newPromise _ _) rfl).next (.settle _ _) rfl
  | none =>
    cases ctor with
    | ok => exact (Effects.one s (.newPromise _ _) rfl).next (.newSocket _ _ _) rfl
    | threw message => exact (Effects.one s (.newPromise _ _) rfl).next (.settle _ _) rfl

/-- The footprint of `scheduleReconnect`. -/
lemma scheduleReconnect_effects (now : ℕ) :
    Effects [.deleteConnection, .deleteAttempts, .setAttempts, .armReconnect, .setReconnectTimer] s
      (s.scheduleReconnect r now) := by
  unfold RagState.scheduleReconnect
  split
  · exact .refl _ s
  · dsimp only
    split
    · exact (Effects.one s (.deleteConnection _) rfl).next (.deleteAttempts _) rfl
    · exact ((Effects.one s (.setAttempts _ _) rfl).next (.setTimeout _ _ _) rfl).next
        (.setReconnectTimer _ _) rfl

/-- The footprint of `ask`. -/
lemma ask_effects (kind : QuestionKind) (text : String) (send : CallResult) (now : ℕ) :
    Effects [.newPromise, .settle, .armRequest, .setContext, .sendQuestion] s
      (s.ask kind r text send now) := by
  unfold RagState.ask
  cases s.openSocket r with
  | none => exact (Effects.one s (.newPromise _ _) rfl).next (.settle _ _) rfl
  | some w =>
    cases send with
    | ok =>
      exact (((Effects.one s (.newPromise _ _) rfl).next (.setTimeout _ _ _) rfl).next
        (.setContext _ _) rfl).next (.transmit _ _ _) rfl
    | threw message =>
      exact (((Effects.one s (.newPromise _ _) rfl).next (.setTimeout _ _ _) rfl).next
        (.setContext _ _) rfl).next (.settle _ _) rfl

/-- The footprint of `onRequestTimeout`. -/
lemma onRequestTimeout_effects (kind : QuestionKind) (w : Oid) (text : String) (promise : Oid) :
    Effects [.setContext, .settle] s (s.onRequestTimeout kind w text promise) :=
  (Effects.one s (.setContext w _) rfl).next (.settle _ _) rfl

/-- The footprint of `finishReport`. -/
lemma finishReport_effects (call : Oid) (result : Except String ReportResult) :
    Effects [.setReportCall, .settle, .deleteReport] s (s.finishReport call result) := by
  unfold RagState.finishReport
  have h := Effects.one (T := [.setReportCall, .settle, .deleteReport]) s
    (.setReportCall call ⟨.finished, some result⟩) rfl
  cases result with
  | ok v => exact h.next (.settle _ _) rfl
  | error message => exact (h.next (.deleteReport _) rfl).next (.settle _ _) rfl

/-- The footprint of `settleResult`. -/
lemma settleResult_effects (call : Oid) (result : Except String ReportResult) :
    Effects [.setReportCall, .settle, .deleteReport] s (s.settleResult call result) := by
  unfold RagState.settleResult
  split
  · exact .refl _ s
  · split
    · exact .refl _ s
    · split
      · exact finishReport_effects s call result
      · exact .one s (.setReportCall _ _) rfl

/-- The footprint of `requestReport`. -/
lemma requestReport_effects (now : ℕ) :
    Effects [.newPromise, .settle, .armReport, .setReport, .setReportCall] s
      (s.requestReport r now) := by
  unfold RagState.requestReport
  dsimp only
  split
  · exact (Effects.one s (.newPromise _ _) rfl).next (.settle _ _) rfl
  · split
    · exact (Effects.one s (.newPromise _ _) rfl).next (.settle _ _) rfl
    · exact (((Effects.one s (.newPromise r .report) rfl).next
        (.setTimeout r (.report (s.freshId r)) _) rfl).next (.setReport _ _) rfl).next
        (.setReportCall _ _) rfl

/-- The footprint of `httpResponse`. -/
lemma httpResponse_effects (call : Oid) (c : ReportCall) (response : CallResult) :
    Effects [.setReportCall, .settle, .deleteReport] s (s.httpResponse call c response) := by
  unfold RagState.httpResponse
  cases response with
  | ok =>
    cases c.result with
    | none => exact .one s (.setReportCall _ _) rfl
    | some result => exact finishReport_effects s call result
  | threw message =>
    exact ((Effects.one s (.setReportCall _ _) rfl).next (.deleteReport _) rfl).next
      (.settle _ _) rfl

/-- The footprint of `onReportTimeout`. -/
lemma onReportTimeout_effects (call : Oid) :
    Effects [.setReportCall, .settle, .deleteReport] s (s.onReportTimeout call) :=
  (Effects.one s (.deleteReport _) rfl).trans (settleResult_effects _ call _)

/-- The footprint of `handleAnswer`. -/
lemma handleAnswer_effects (w : Oid) (message : JsVal) :
    Effects [.clearTimeout, .setContext, .settle] s (s.handleAnswer w message) := by
  unfold RagState.handleAnswer
  dsimp only
  split
  · split
    · exact .refl _ s
    · split
      · exact (Effects.one s (.clearTimeout _) rfl).next (.setContext _ _) rfl
      · exact ((Effects.one s (.clearTimeout _) rfl).next (.setContext _ _) rfl).next
          (.settle _ _) rfl
  · split
    · exact .refl _ s
    · split
      · exact .refl _ s
      · cases RagState.questionText message with
        | none => exact (Effects.one s (.clearTimeout _) rfl).next (.settle _ _) rfl
        | some text =>
          exact ((Effects.one s (.clearTimeout _) rfl).next (.setContext _ _) rfl).next
            (.settle _ _) rfl

/-- The footprint of `handleMeetingReport`. -/
lemma handleMeetingReport_effects (message : JsVal) :
    Effects [.clearTimeout, .deleteReport, .setReportCall, .settle] s
      (s.handleMeetingReport r message) := by
  unfold RagState.handleMeetingReport
  split
  · exact .refl _ s
  · exact ((Effects.one s (.clearTimeout _) rfl).next (.deleteReport _) rfl).trans
      ((settleResult_effects _ _ _).mono rfl)

/-- The footprint of `handleMessage`. -/
lemma handleMessage_effects (data : Option JsVal) :
    Effects [.clearTimeout, .setContext, .settle, .deleteReport, .setReportCall] s
      (s.handleMessage r data) := by
  unfold RagState.handleMessage
  cases data with
  | none => exact .refl _ s
  | some message =>
    dsimp only
    split
    · exact .refl _ s
    · cases s.connections.get r with
      | none => exact .refl _ s
      | some w =>
        dsimp only
        split
        · exact (handleAnswer_effects s w message).mono rfl
        · split
          · exact (handleMeetingReport_effects s r message).mono rfl
          · exact .refl _ s

/-- The footprint of `rejectPending`. -/
lemma rejectPending_effects (w : Oid) :
    Effects [.clearTimeout, .settle, .setContext] s (s.rejectPending w) := by
  have h : Effects [.clearTimeout, .settle, .setContext] s
      ((s.contextOf w).pendingRequests.entries.foldl
        (fun s e => (s.clearTimeout e.2.timer).settle e.2.promise
          (.rejected "RAG client disconnected")) s) :=
    .foldl (fun s e => (Effects.one s (.clearTimeout _) rfl).next (.settle _ _) rfl) _ s
  exact h.next (.setContext w _) rfl

/-- The footprint of `rejectReport`. -/
lemma rejectReport_effects :
    Effects [.clearTimeout, .deleteReport, .setReportCall, .settle] s (s.rejectReport r) := by
  unfold RagState.rejectReport
  split
  · exact .refl _ s
  · exact ((Effects.one s (.clearTimeout _) rfl).next (.deleteReport _) rfl).trans
      ((settleResult_effects _ _ _).mono rfl)

/-- The footprint of `cancelReconnect`. -/
lemma cancelReconnect_effects :
    Effects [.clearTimeout, .deleteReconnectTimer, .deleteAttempts] s (s.cancelReconnect r) := by
  unfold RagState.cancelReconnect
  cases s.reconnectTimers.get r with
  | none => exact .one s (.deleteAttempts _) rfl
  | some t =>
    exact ((Effects.one s (.clearTimeout _) rfl).next (.deleteReconnectTimer _) rfl).next
      (.deleteAttempts _) rfl

/-- The footprint of `onConnectionTimeout`. -/
lemma onConnectionTimeout_effects (w : Oid) :
    Effects [.closeSocket, .settle] s (s.onConnectionTimeout w) := by
  unfold RagState.onConnectionTimeout
  split
  · exact .refl _ s
  · split
    · exact .refl _ s
    · exact (Effects.one s (.closeSocket _) rfl).next (.settle _ _) rfl

/-- The footprint of `registerOpen`. -/
lemma registerOpen_effects (w : Oid) (k : Socket) :
    Effects [.markOpen, .clearTimeout, .setContext, .setConnection, .deleteAttempts] s
      (s.registerOpen w k) :=
  ((((Effects.one s (.markOpen _) rfl).next (.clearTimeout _) rfl).next (.setContext _ _) rfl).next
    (.setConnection _ _) rfl).next (.deleteAttempts _) rfl

/-- The footprint of `onOpen`. -/
lemma onOpen_effects (w : Oid) (k : Socket) (send : CallResult) (now : ℕ) :
    Effects [.markOpen, .clearTimeout, .setContext, .setConnection, .deleteAttempts, .deleteBuffer,
      .setBuffer, .sendStatement, .armRetry, .armFlush, .settle] s (s.onOpen w k send now) :=
  (((registerOpen_effects s w k).mono rfl).trans
    ((flushStatementBuffer_effects _ w.room send now).mono rfl)).next (.settle _ _) rfl

/-- After `open` the socket is registered. -/
lemma onOpen_connection (w : Oid) (k : Socket) (send : CallResult) (now : ℕ) :
    (s.onOpen w k send now).connections.get w.room = some w := by
  have hflush := (flushStatementBuffer_effects (s.registerOpen w k) w.room send now).connections_eq
    rfl
  rw [RagState.onOpen, RagState.settle_connections, hflush]
  exact JsMap.get_set_self _ _ _

/-- The footprint of `onClose`. -/
lemma onClose_effects (w : Oid) (code now : ℕ) :
    Effects [.markClosed, .deleteConnection, .deleteAttempts, .setAttempts, .armReconnect,
      .setReconnectTimer] s (s.onClose w code now) := by
  unfold RagState.onClose
  dsimp only
  split
  · exact (Effects.one s (.markClosed _) rfl).trans
      ((scheduleReconnect_effects _ w.room now).mono rfl)
  · exact (Effects.one s (.markClosed _) rfl).next (.deleteConnection _) rfl

/-- The footprint of `dropConnection` without its last part. -/
lemma closeConnection_effects (w : Oid) :
    Effects [.clearTimeout, .settle, .setContext, .deleteReport, .setReportCall, .closeSocket,
      .deleteConnection] s
      ((((s.rejectPending w).rejectReport r).closeSocket w).deleteConnection r) :=
  ((((rejectPending_effects s w).mono rfl).trans ((rejectReport_effects _ r).mono rfl)).next
    (.closeSocket _) rfl).next (.deleteConnection _) rfl

/-- The footprint of `dropConnection`. -/
lemma dropConnection_effects (w : Oid) :
    Effects [.clearTimeout, .settle, .setContext, .deleteReport, .setReportCall, .closeSocket,
      .deleteConnection, .deleteBuffer] s (s.dropConnection r w) := by
  unfold RagState.dropConnection
  dsimp only
  split
  · exact (closeConnection_effects s r w).mono rfl
  · exact ((closeConnection_effects s r w).mono rfl).next (.deleteBuffer _) rfl

/-- `disconnect` looks for the connection after it dealt with the reconnect timer. -/
lemma disconnect_eq :
    s.disconnect r = match s.connections.get r with
      | none => s.cancelReconnect r
      | some w => (s.cancelReconnect r).dropConnection r w := by
  have hconn : (s.cancelReconnect r).connections = s.connections :=
    (cancelReconnect_effects s r).connections_eq rfl
  cases hw : s.connections.get r <;> simp only [RagState.disconnect, hconn, hw]

/-- After `disconnect` nothing is registered for the room. -/
lemma disconnect_connection : (s.disconnect r).connections.get r = none := by
  rw [disconnect_eq]
  cases hw : s.connections.get r with
  | none =>
    dsimp only
    rw [(cancelReconnect_effects s r).connections_eq rfl, hw]
  | some w =>
    dsimp only
    unfold RagState.dropConnection
    dsimp only
    split <;> simp

/-- The footprint of `disconnect`. -/
lemma disconnect_effects :
    Effects [.clearTimeout, .deleteReconnectTimer, .deleteAttempts, .settle, .setContext,
      .deleteReport, .setReportCall, .closeSocket, .deleteConnection, .deleteBuffer] s
      (s.disconnect r) := by
  unfold RagState.disconnect
  dsimp only
  split
  · exact (cancelReconnect_effects s r).mono rfl
  · exact ((cancelReconnect_effects s r).mono rfl).trans ((dropConnection_effects _ r _).mono rfl)

/-- The footprint of `onModuleDestroy`. -/
lemma onModuleDestroy_effects :
    Effects [.clearTimeout, .clearTables, .deleteReconnectTimer, .deleteAttempts, .settle,
      .setContext, .deleteReport, .setReportCall, .closeSocket, .deleteConnection, .deleteBuffer] s
      s.onModuleDestroy :=
  ((Effects.foldl (fun s _ => .one s (.clearTimeout _) rfl) _ s).next .clearTables rfl).trans
    (.foldl (fun s r => (disconnect_effects s r).mono rfl) _ _)

/-- The kinds of operations of the callback of a timer. -/
def TimerKind.footprint : TimerKind → List Tag
  | .connection _ => [.closeSocket, .settle]
  | .reconnect => [.deleteReconnectTimer, .newPromise, .settle, .newSocket]
  | .statementRetry _ _ => [.setBuffer, .sendStatement, .armRetry]
  | .flushNext _ => [.setBuffer, .sendStatement, .armRetry, .armFlush]
  | .request _ _ _ _ => [.setContext, .settle]
  | .report _ => [.setReportCall, .settle, .deleteReport]

/-- The footprint of the callback of a timer. -/
lemma fire_effects (tm : Timer) (ext : CallResult) (now : ℕ) :
    Effects tm.kind.footprint s (s.fire tm ext now) := by
  obtain ⟨id, kind, due⟩ := tm
  cases kind with
  | connection w => exact onConnectionTimeout_effects s w
  | reconnect =>
    exact (Effects.one s (.deleteReconnectTimer _) rfl).trans
      ((connect_effects _ _ ext now).mono rfl)
  | statementRetry st n => exact sendStatement_effects s _ st n ext now
  | flushNext rest => exact flushLoop_effects s _ rest ext now
  | request kind w text q => exact onRequestTimeout_effects s kind w text q
  | report call => exact onReportTimeout_effects s call

end Handlers

/-! ## Steps -/

/-- The kinds of operations of an event. For a timer they depend on its callback. -/
def footprint (s : RagState) (e : Event) : List Tag :=
  match e.act with
  | .connect _ _ => [.newPromise, .settle, .newSocket]
  | .disconnect _ => [.clearTimeout, .deleteReconnectTimer, .deleteAttempts, .settle, .setContext,
      .deleteReport, .setReportCall, .closeSocket, .deleteConnection, .deleteBuffer]
  | .sendStatement _ _ _ _ _ _ => [.bump, .setBuffer, .sendStatement, .armRetry]
  | .sendQuestion _ _ _ => [.newPromise, .settle, .armRequest, .setContext, .sendQuestion]
  | .sendQuestionWithSources _ _ _ =>
    [.newPromise, .settle, .armRequest, .setContext, .sendQuestion]
  | .requestReport _ => [.newPromise, .settle, .armReport, .setReport, .setReportCall]
  | .injectMockStatements _ _ => [.bump, .setBuffer]
  | .clearBuffer _ => [.deleteBuffer]
  | .onModuleDestroy => [.clearTimeout, .clearTables, .deleteReconnectTimer, .deleteAttempts,
      .settle, .setContext, .deleteReport, .setReportCall, .closeSocket, .deleteConnection,
      .deleteBuffer]
  | .wsOpen _ _ => [.markOpen, .clearTimeout, .setContext, .setConnection, .deleteAttempts,
      .deleteBuffer, .setBuffer, .sendStatement, .armRetry, .armFlush, .settle]
  | .wsMessage _ _ => [.clearTimeout, .setContext, .settle, .deleteReport, .setReportCall]
  | .wsClosing _ => [.closeSocket]
  | .wsClose _ _ => [.markClosed, .deleteConnection, .deleteAttempts, .setAttempts, .armReconnect,
      .setReconnectTimer]
  | .timer t _ => .clearTimeout :: ((s.findTimer t).map fun tm => tm.kind.footprint).getD []
  | .httpResponse _ _ => [.setReportCall, .settle, .deleteReport]

/-- **A step performs operations of its footprint.**

**Proof sketch.** One case for each kind of event; each function performs operations of its
footprint. A timer first clears its own entry. -/
theorem step_effects {s s' : RagState} {e : Event} (hs : step s e = some s') :
    Effects (footprint s e) s s' := by
  obtain ⟨now, act⟩ := e
  cases act with
  | connect r ctor =>
    obtain rfl := Option.some.inj hs
    exact connect_effects s r ctor now
  | disconnect r =>
    obtain rfl := Option.some.inj hs
    exact disconnect_effects s r
  | sendStatement r text speaker startTime endTime send =>
    obtain rfl := Option.some.inj hs
    exact clientStatement_effects s r text speaker startTime endTime send now
  | sendQuestion r text send =>
    obtain rfl := Option.some.inj hs
    exact ask_effects s r .plain text send now
  | sendQuestionWithSources r text send =>
    obtain rfl := Option.some.inj hs
    exact ask_effects s r .withSources text send now
  | requestReport r =>
    obtain rfl := Option.some.inj hs
    exact requestReport_effects s r now
  | injectMockStatements r utterances =>
    obtain rfl := Option.some.inj hs
    exact injectMockStatements_effects s r utterances now
  | clearBuffer r =>
    obtain rfl := Option.some.inj hs
    exact .one s (.deleteBuffer r) rfl
  | onModuleDestroy =>
    obtain rfl := Option.some.inj hs
    exact onModuleDestroy_effects s
  | wsOpen w send =>
    obtain ⟨k, -, -, rfl⟩ := step_wsOpen hs
    exact onOpen_effects s w k send now
  | wsMessage w data =>
    obtain ⟨k, -, -, -, rfl⟩ := step_wsMessage hs
    exact handleMessage_effects s w.room data
  | wsClosing w =>
    obtain ⟨k, -, -, rfl⟩ := step_wsClosing hs
    exact .one s (.closeSocket w) rfl
  | wsClose w code =>
    obtain ⟨k, -, -, -, rfl⟩ := step_wsClose hs
    exact onClose_effects s w code now
  | timer t ext =>
    obtain ⟨tm, htm, rfl⟩ := step_timer hs
    have h : Effects (.clearTimeout :: tm.kind.footprint) s ((s.clearTimeout t).fire tm ext now) :=
      (Effects.one s (.clearTimeout t) (by simp [Effect.tag])).trans
        ((fire_effects _ tm ext now).mono (by simp +contextual))
    simpa only [footprint, htm, Option.map_some, Option.getD_some] using h
  | httpResponse call response =>
    obtain ⟨c, -, -, rfl⟩ := step_httpResponse hs
    exact httpResponse_effects s call c response

end Rag
