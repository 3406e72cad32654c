import AuraLive.Foundations.EventSystem
import AuraLive.Rag.Client

set_option relaxedAutoImplicit false
set_option autoImplicit false

/-!
# The RAG client as an event-driven system

Everything that can happen to `RagClientService`: a client calls one of its methods, a socket
emits an event, an armed timer fires, an HTTP request ends, the module is destroyed. An event
carries the clock reading of the code it starts and the outcome of the foreign call that code
makes, so the step is a function.

## Main definitions

* `Rag.Act`, `Rag.Event` — what can happen, and at which clock reading.
* `Rag.step`, `Rag.client` — the step function and the system.
* `Rag.Act.room` — the room an event belongs to; `onModuleDestroy` belongs to all.
* `Rag.Timely` — a run that respects the delays of `setTimeout` and a non-decreasing clock.

## Design

The behaviour assumed of the `ws` package is in the guards of `step`: a socket opens only from
`CONNECTING`, emits messages only between `open` and `close`, closes once, and closes with a code
other than 1000 if it never opened. `wsClosing` is the transition to `CLOSING` when the peer starts
the closing handshake, which no handler sees but `readyState` shows. An `error` event only logs.

Timers are not tied to the clock: an armed timer may fire at any event. Statements proved for all
runs therefore hold whatever the delays are; `Rag.Timely` singles out the runs a real event loop
can produce.
-/

namespace Rag

open Foundations

/-- What can happen. The last argument of an action is the outcome of the foreign call made by the
code it starts. -/
inductive Act where
  /-- A client calls `connect`. -/
  | connect (r : RoomId) (ctor : CallResult)
  /-- A client calls `disconnect`. -/
  | disconnect (r : RoomId)
  /-- A client calls `sendStatement`. -/
  | sendStatement (r : RoomId) (text speaker : String) (startTime endTime : Option ℕ)
      (send : CallResult)
  /-- A client calls `sendQuestion`. -/
  | sendQuestion (r : RoomId) (text : String) (send : CallResult)
  /-- A client calls `sendQuestionWithSources`. -/
  | sendQuestionWithSources (r : RoomId) (text : String) (send : CallResult)
  /-- A client calls `requestReport`. -/
  | requestReport (r : RoomId)
  /-- A client calls `injectMockStatements` with pairs of speaker and text. -/
  | injectMockStatements (r : RoomId) (utterances : List (String × String))
  /-- A client calls `clearBuffer`. -/
  | clearBuffer (r : RoomId)
  /-- The framework calls `onModuleDestroy`. -/
  | onModuleDestroy
  /-- A socket emits `open`. -/
  | wsOpen (w : Oid) (send : CallResult)
  /-- A socket emits `message` with parsed data, or data that is not JSON. -/
  | wsMessage (w : Oid) (data : Option JsVal)
  /-- The peer of an open socket starts to close it. -/
  | wsClosing (w : Oid)
  /-- A socket emits `close`. -/
  | wsClose (w : Oid) (code : ℕ)
  /-- A timer fires. -/
  | timer (t : Oid) (ext : CallResult)
  /-- The HTTP request of a `requestReport` call ends. -/
  | httpResponse (call : Oid) (response : CallResult)

/-- An action at a clock reading. -/
structure Event where
  now : ℕ
  act : Act

/-- The room whose code an action runs, `none` for `onModuleDestroy`. -/
def Act.room : Act → Option RoomId
  | connect r _ => some r
  | disconnect r => some r
  | sendStatement r _ _ _ _ _ => some r
  | sendQuestion r _ _ => some r
  | sendQuestionWithSources r _ _ => some r
  | requestReport r => some r
  | injectMockStatements r _ => some r
  | clearBuffer r => some r
  | onModuleDestroy => none
  | wsOpen w _ => some w.room
  | wsMessage w _ => some w.room
  | wsClosing w => some w.room
  | wsClose w _ => some w.room
  | timer t _ => some t.room
  | httpResponse call _ => some call.room

/-- The socket an action opens. -/
def Act.opens : Act → Option Oid
  | wsOpen w _ => some w
  | _ => none

/-- The room a client disconnects. -/
def Act.disconnects : Act → Option RoomId
  | disconnect r => some r
  | _ => none

/-- The armed timer with a given name. -/
def RagState.findTimer (s : RagState) (t : Oid) : Option Timer := s.timers.find? fun tm => tm.id = t

/-- The state after an event, if the event can happen. -/
def step (s : RagState) (e : Event) : Option RagState :=
  match e.act with
  | .connect r ctor => some (s.connect r ctor e.now)
  | .disconnect r => some (s.disconnect r)
  | .sendStatement r text speaker startTime endTime send =>
    some (s.clientStatement r text speaker startTime endTime send e.now)
  | .sendQuestion r text send => some (s.sendQuestion r text send e.now)
  | .sendQuestionWithSources r text send => some (s.sendQuestionWithSources r text send e.now)
  | .requestReport r => some (s.requestReport r e.now)
  | .injectMockStatements r utterances => some (s.injectMockStatements r utterances e.now)
  | .clearBuffer r => some (s.clearBuffer r)
  | .onModuleDestroy => some s.onModuleDestroy
  | .wsOpen w send =>
    match s.sockets.get w with
    | none => none
    | some k => if k.readyState = .CONNECTING then some (s.onOpen w k send e.now) else none
  | .wsMessage w data =>
    match s.sockets.get w with
    | none => none
    | some k =>
      if k.opened = true ∧ k.readyState ≠ .CLOSED then some (s.handleMessage w.room data) else none
  | .wsClosing w =>
    match s.sockets.get w with
    | none => none
    | some k => if k.readyState = .OPEN then some (s.closeSocket w) else none
  | .wsClose w code =>
    match s.sockets.get w with
    | none => none
    | some k =>
      if k.readyState ≠ .CLOSED ∧ (code = 1000 → k.opened = true) then
        some (s.onClose w code e.now)
      else none
  | .timer t ext =>
    match s.findTimer t with
    | none => none
    | some tm => some ((s.clearTimeout t).fire tm ext e.now)
  | .httpResponse call response =>
    match s.reportCalls.get call with
    | none => none
    | some c => if c.stage = .posting then some (s.httpResponse call c response) else none

/-! ## What a step does -/

section Inversion

variable {s s' : RagState} {now : ℕ}

/-- A socket that opens was connecting, and its `open` handler runs. -/
lemma step_wsOpen {w : Oid} {send : CallResult} (h : step s ⟨now, .wsOpen w send⟩ = some s') :
    ∃ k, s.sockets.get w = some k ∧ k.readyState = .CONNECTING ∧ s' = s.onOpen w k send now := by
  simp only [step] at h
  split at h
  · cases h
  · rename_i k hk
    split at h
    · rename_i hc
      exact ⟨k, hk, hc, (Option.some.inj h).symm⟩
    · cases h

/-- A socket emits messages after it opened and before it closed. -/
lemma step_wsMessage {w : Oid} {data : Option JsVal}
    (h : step s ⟨now, .wsMessage w data⟩ = some s') :
    ∃ k, s.sockets.get w = some k ∧ k.opened = true ∧ k.readyState ≠ .CLOSED ∧
      s' = s.handleMessage w.room data := by
  simp only [step] at h
  split at h
  · cases h
  · rename_i k hk
    split at h
    · rename_i hc
      exact ⟨k, hk, hc.1, hc.2, (Option.some.inj h).symm⟩
    · cases h

/-- Only an open socket is closed by its peer. -/
lemma step_wsClosing {w : Oid} (h : step s ⟨now, .wsClosing w⟩ = some s') :
    ∃ k, s.sockets.get w = some k ∧ k.readyState = .OPEN ∧ s' = s.closeSocket w := by
  simp only [step] at h
  split at h
  · cases h
  · rename_i k hk
    split at h
    · rename_i hc
      exact ⟨k, hk, hc, (Option.some.inj h).symm⟩
    · cases h

/-- A socket closes once, and with code 1000 only if it has opened. -/
lemma step_wsClose {w : Oid} {code : ℕ} (h : step s ⟨now, .wsClose w code⟩ = some s') :
    ∃ k, s.sockets.get w = some k ∧ k.readyState ≠ .CLOSED ∧ (code = 1000 → k.opened = true) ∧
      s' = s.onClose w code now := by
  simp only [step] at h
  split at h
  · cases h
  · rename_i k hk
    split at h
    · rename_i hc
      exact ⟨k, hk, hc.1, hc.2, (Option.some.inj h).symm⟩
    · cases h

/-- A timer that fires was armed; it is disarmed and its callback runs. -/
lemma step_timer {t : Oid} {ext : CallResult} (h : step s ⟨now, .timer t ext⟩ = some s') :
    ∃ tm, s.findTimer t = some tm ∧ s' = (s.clearTimeout t).fire tm ext now := by
  simp only [step] at h
  split at h
  · cases h
  · rename_i tm htm
    exact ⟨tm, htm, (Option.some.inj h).symm⟩

/-- The HTTP request of a report call ends once. -/
lemma step_httpResponse {call : Oid} {response : CallResult}
    (h : step s ⟨now, .httpResponse call response⟩ = some s') :
    ∃ c, s.reportCalls.get call = some c ∧ c.stage = .posting ∧
      s' = s.httpResponse call c response := by
  simp only [step] at h
  split at h
  · cases h
  · rename_i c hc
    split at h
    · rename_i hp
      exact ⟨c, hc, hp, (Option.some.inj h).symm⟩
    · cases h

/-- A timer that is found is armed under the name asked for. -/
lemma findTimer_mem {t : Oid} {tm : Timer} (h : s.findTimer t = some tm) :
    tm ∈ s.timers ∧ tm.id = t :=
  ⟨List.mem_of_find?_eq_some h, by simpa using List.find?_some h⟩

end Inversion

/-- The RAG client as a system. -/
def client : EventSystem RagState Event := ⟨RagState.init, step⟩

/-- The timer an event fires, if it fires one. -/
def firedTimer (s : RagState) (e : Event) : Option Timer :=
  match e.act with
  | .timer t _ => s.findTimer t
  | _ => none

/-- An event that respects the delay of the timer it fires. -/
def OnTime (s : RagState) (e : Event) : Prop := ∀ tm ∈ firedTimer s e, tm.due ≤ e.now

instance (s : RagState) (e : Event) : Decidable (OnTime s e) :=
  inferInstanceAs (Decidable (∀ tm ∈ firedTimer s e, tm.due ≤ e.now))

/-- A run that a real event loop can produce: the clock does not go back, and timers do not fire
early. -/
def Timely (es : List Event) : Prop :=
  (es.map Event.now).Pairwise (· ≤ ·) ∧ client.AllSteps OnTime client.init es

instance (es : List Event) : Decidable (Timely es) :=
  inferInstanceAs
    (Decidable ((es.map Event.now).Pairwise (· ≤ ·) ∧ client.AllSteps OnTime client.init es))

end Rag
