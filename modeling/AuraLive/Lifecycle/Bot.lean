import AuraLive.Foundations.EventSystem

set_option relaxedAutoImplicit false
set_option autoImplicit false

/-!
# Bot sessions of a room

The life of the bot of one room in `livekit/voice-bot.service.ts` and `livekit/livekit.service.ts`:
`startBotForRoom`, `stopBotForRoom`, `startBot`, `stopBot`, `stopBotWithCleanup`, `cleanupRoom` and
the handlers of `ParticipantConnected`, `ParticipantDisconnected` and `Disconnected`. Everything
in these functions is addressed by the room id, so the state here is the part of one room.

## Main definitions

* `Lifecycle.Session` — a `Room` object made by `startBot`, with the fields of its context that
  are used here.
* `Lifecycle.Server` — the state of the server for the room, and the room at LiveKit.
* `Lifecycle.Act`, `Lifecycle.Event` — what can happen, and when.
* `Lifecycle.lifecycle` — the event system.

## Design

Calls of the functions may overlap in any way. A call that is suspended at an `await` is an entry
of `calls`, resumed by an event that says whether the awaited promise was fulfilled; the two awaits
of `startBot` are the `phase` of the session it made. `removeBots` catches the errors of its
requests and is one suspension; that the bots it removes lose their connection is an event of its
own, `disconnected`. A `Room` emits `Disconnected` at most once, possibly while `room.disconnect()`
is pending or after it has returned. LiveKit shows a join or a leave at once to every `Room` that is
connected; what a closed `Room` still lists is left open. Requests to the RAG server about
participants, logging and the checkers started by `startBot` are not part of this state.
-/

namespace Lifecycle

open Foundations

/-- `identity.startsWith(text)`. -/
def startsWith (identity text : String) : Bool := text.toList.isPrefixOf identity.toList

/-- Whether a participant counts as a human: `!identity.startsWith('ai-bot')`. -/
def isHuman (identity : String) : Bool := !startsWith identity "ai-bot"

/-- The human participants of a list of identities. -/
def humans (identities : List String) : List String := identities.filter isHuman

/-- The connection of a `Room`. -/
inductive Link where
  | connecting
  | connected
  | closed
  deriving DecidableEq, Repr

/-- How far the `startBot` call of a session has come: suspended at `room.connect`, suspended at
`publishTrack`, or over. -/
inductive Phase where
  | connecting
  | publishing
  | finished
  deriving DecidableEq, Repr

/-- A `Room` made by `startBot`, and the fields of its context that are used here. -/
structure Session where
  link : Link
  phase : Phase
  /-- The identities in `room.remoteParticipants`. -/
  remoteParticipants : List String
  /-- `context.shutdownTimeout`. -/
  shutdownTimeout : Option ℕ
  /-- The `Disconnected` event has been emitted. -/
  notified : Bool
  deriving DecidableEq

/-- What a caller of `stopBot` does next. -/
inductive After where
  /-- `stopBotForRoom` returns. -/
  | returns
  /-- `startBotForRoom` goes on to remove bots. -/
  | restarts
  /-- `stopBotWithCleanup` goes on to delete the room. -/
  | cleansUp
  deriving DecidableEq, Repr

/-- A call suspended at an `await`. -/
inductive Call where
  /-- `stopBot` for the context of a session, at `ragClient.disconnect`. -/
  | ragDisconnect (session : ℕ) (after : After)
  /-- The same at `context.room.disconnect`. -/
  | roomDisconnect (session : ℕ) (after : After)
  /-- `startBotForRoom` at `removeBots`. -/
  | removeBots
  /-- `startBotForRoom` at `generateTokenForUser`. -/
  | generateToken
  /-- `stopBotWithCleanup` at `livekitService.deleteRoom`. -/
  | deleteRoom
  /-- `cleanupRoomInDatabase` at `import('axios')`. -/
  | importAxios
  deriving DecidableEq, Repr

/-- A pending `setTimeout` of the auto-shutdown, armed for the context of a session. -/
structure Timeout where
  id : ℕ
  session : ℕ
  due : ℕ
  deriving DecidableEq, Repr

/-- A call of another service. -/
inductive Effect where
  | ragConnect
  | ragDisconnect
  | clearBuffer
  | deleteRoom
  | roomCleanup
  deriving DecidableEq, Repr

/-- The state of the server for one room, and the room at LiveKit. -/
structure Server where
  now : ℕ
  /-- The sessions of the room, in the order of their `startBot` calls. -/
  sessions : ℕ → Session
  count : ℕ
  /-- The session whose context `activeRooms` holds for the room. -/
  active : Option ℕ
  calls : List Call
  timers : List Timeout
  /-- The next handle of `setTimeout`. -/
  nextTimer : ℕ
  /-- The identities of the participants in the room. -/
  members : List String
  /-- When a human last left the room. -/
  lastLeft : Option ℕ
  /-- The calls of other services in the last step. -/
  effects : List Effect

/-- The grace period of the auto-shutdown. -/
def SHUTDOWN_DELAY_MS : ℕ := 30000

namespace Server

variable (s : Server)

/-- A call of another service. -/
def emit (effect : Effect) : Server := { s with effects := s.effects ++ [effect] }

/-- A call is suspended. -/
def suspend (call : Call) : Server := { s with calls := s.calls ++ [call] }

/-- A session is changed. -/
def modify (n : ℕ) (f : Session → Session) : Server :=
  { s with sessions := Function.update s.sessions n (f (s.sessions n)) }

/-- `context.shutdownTimeout` of a session is set. -/
def setShutdown (n : ℕ) (timer : Option ℕ) : Server :=
  s.modify n ({ · with shutdownTimeout := timer })

/-- `setTimeout` for the shutdown of a session's context. -/
def setTimeout (n : ℕ) : Server :=
  { s with
    timers := s.timers ++ [⟨s.nextTimer, n, s.now + SHUTDOWN_DELAY_MS⟩]
    nextTimer := s.nextTimer + 1 }

/-- `clearTimeout`. -/
def clearTimeout (id : ℕ) : Server := { s with timers := s.timers.filter (·.id ≠ id) }

/-- Whether the `Room` of a session is connected. -/
def Connected (n : ℕ) : Prop := n < s.count ∧ (s.sessions n).link = .connected

instance (n : ℕ) : Decidable (s.Connected n) := by
  delta Connected
  infer_instance

/-! ## Starting and stopping -/

/-- `startBot`, up to `room.connect`. -/
def startBot : Server :=
  if s.active.isSome then s
  else
    { s with
      sessions := Function.update s.sessions s.count ⟨.connecting, .connecting, [], none, false⟩
      count := s.count + 1 }

/-- What the caller of `stopBot` does when it has returned. -/
def proceed : After → Server
  | .returns => s
  | .restarts => s.suspend .removeBots
  | .cleansUp => (s.emit .deleteRoom).suspend .deleteRoom

/-- `stopBot`, up to `ragClient.disconnect`. -/
def stopBot (after : After) : Server :=
  match s.active with
  | none => s.proceed after
  | some c => (s.emit .ragDisconnect).suspend (.ragDisconnect c after)

/-- `startBotForRoom`, up to its first `await`. -/
def startBotForRoom : Server :=
  if s.active.isSome then s.stopBot .restarts else s.suspend .removeBots

/-- `stopBotForRoom`, up to its first `await`. -/
def stopBotForRoom : Server := s.stopBot .returns

/-- `stopBotWithCleanup`, up to its first `await`. -/
def stopBotWithCleanup : Server := s.stopBot .cleansUp

/-- `stopBot` after `room.disconnect()` of the session's `Room`. -/
def finishStop (n : ℕ) (after : After) : Server :=
  (({ s.modify n ({ · with link := .closed }) with active := none }).emit
    .clearBuffer).proceed after

/-- A suspended call goes on, the awaited promise being fulfilled or rejected. -/
def resume (ok : Bool) : Call → Server
  -- a failed `ragClient.disconnect` is logged and `stopBot` goes on
  | .ragDisconnect n after => s.suspend (.roomDisconnect n after)
  -- a failed `room.disconnect` rejects the `stopBot` call and the call that awaits it
  | .roomDisconnect n after => if ok then s.finishStop n after else s
  | .removeBots => s.suspend .generateToken
  | .generateToken => if ok then s.startBot else s
  -- a failed `deleteRoom` is logged and the cleanup goes on
  | .deleteRoom => s.suspend .importAxios
  | .importAxios => if ok then s.emit .roomCleanup else s

/-- `startBot` after `room.connect`. -/
def afterConnect (n : ℕ) (ok : Bool) : Server :=
  if ok then
    (s.modify n ({ · with
      link := .connected, phase := .publishing, remoteParticipants := s.members })).emit .ragConnect
  else s.modify n ({ · with link := .closed, phase := .finished })

/-- `startBot` after `publishTrack`: the context is registered, over whatever was registered
before. A failure leaves the `Room` connected. -/
def afterPublish (n : ℕ) (ok : Bool) : Server :=
  let s := s.modify n ({ · with phase := .finished })
  if ok then { s with active := some n } else s

/-! ## Handlers -/

/-- `cleanupRoom`. -/
def cleanupRoom : Server :=
  let s := match s.active with
    | none => s
    | some c =>
      match (s.sessions c).shutdownTimeout with
      | none => s
      | some id => s.clearTimeout id
  ({ s with active := none }).emit .clearBuffer

/-- The `Disconnected` event of a session's `Room`. -/
def disconnected (n : ℕ) : Server :=
  (s.modify n ({ · with link := .closed, notified := true })).cleanupRoom

/-- The pending shutdown of the registered context is cancelled. -/
def cancelShutdown : Server :=
  match s.active with
  | none => s
  | some c =>
    match (s.sessions c).shutdownTimeout with
    | none => s
    | some id => (s.clearTimeout id).setShutdown c none

/-- A shutdown is scheduled for the registered context, unless one is. -/
def scheduleShutdown : Server :=
  match s.active with
  | none => s
  | some c =>
    match (s.sessions c).shutdownTimeout with
    | some _ => s
    | none => (s.setTimeout c).setShutdown c (some s.nextTimer)

/-- What every connected `Room` lists changes. -/
def observe (f : List String → List String) : Server :=
  { s with sessions := fun n =>
      if (s.sessions n).link = .connected then
        { s.sessions n with remoteParticipants := f (s.sessions n).remoteParticipants }
      else s.sessions n }

/-- A participant has joined, and every connected `Room` lists it. -/
def admitted (identity : String) : Server :=
  { s with members := s.members ++ [identity] }.observe (· ++ [identity])

/-- A participant has left, and no connected `Room` lists it any more. -/
def departed (identity : String) : Server :=
  { s with
    members := s.members.erase identity
    lastLeft := if isHuman identity then some s.now else s.lastLeft }.observe (·.erase identity)

/-- A participant joins; every connected `Room` runs its `ParticipantConnected` handler. -/
def participantConnected (identity : String) : Server :=
  let s := s.admitted identity
  if isHuman identity ∧ ∃ n < s.count, s.Connected n then s.cancelShutdown else s

/-- A participant leaves; every connected `Room` runs its `ParticipantDisconnected` handler. -/
def participantDisconnected (identity : String) : Server :=
  let s := s.departed identity
  if ∃ n < s.count, s.Connected n ∧ humans (s.sessions n).remoteParticipants = [] then
    s.scheduleShutdown
  else s

/-- The callback of the shutdown timeout, which reads the `Room` of the context it was armed for. -/
def shutdown (timer : Timeout) : Server :=
  match s.active with
  | none => s
  | some c =>
    if humans (s.sessions timer.session).remoteParticipants = [] then s.stopBotWithCleanup
    else s.setShutdown c none

end Server

/-! ## The event system -/

/-- What can happen. -/
inductive Act where
  | startBotForRoom
  | stopBotForRoom
  | startBot
  /-- A suspended call is resumed. -/
  | resume (call : Call) (ok : Bool)
  /-- `room.connect` of a session returns or fails. -/
  | connected (session : ℕ) (ok : Bool)
  /-- `publishTrack` of a session returns or fails. -/
  | published (session : ℕ) (ok : Bool)
  /-- The `Room` of a session emits `Disconnected`. -/
  | disconnected (session : ℕ)
  | join (identity : String)
  | leave (identity : String)
  /-- A shutdown timeout fires. -/
  | timeout (timer : Timeout)
  /-- A closed `Room` drops its participants. -/
  | forget (session : ℕ)
  deriving DecidableEq, Repr

/-- Something happens at a time. -/
structure Event where
  now : ℕ
  act : Act
  deriving DecidableEq, Repr

namespace Server

/-- The state after an act, if it can happen. -/
def handle (s : Server) : Act → Option Server
  | .startBotForRoom => some s.startBotForRoom
  | .stopBotForRoom => some s.stopBotForRoom
  | .startBot => some s.startBot
  | .resume call ok =>
    if call ∈ s.calls then some (({ s with calls := s.calls.erase call }).resume ok call) else none
  | .connected n ok =>
    if n < s.count ∧ (s.sessions n).phase = .connecting then some (s.afterConnect n ok) else none
  | .published n ok =>
    if n < s.count ∧ (s.sessions n).phase = .publishing then some (s.afterPublish n ok) else none
  | .disconnected n =>
    if n < s.count ∧ (s.sessions n).link ≠ .connecting ∧ (s.sessions n).notified = false then
      some (s.disconnected n)
    else none
  | .join identity => if identity ∈ s.members then none else some (s.participantConnected identity)
  | .leave identity =>
    if identity ∈ s.members then some (s.participantDisconnected identity) else none
  | .timeout timer =>
    if timer ∈ s.timers ∧ timer.due ≤ s.now then
      some (({ s with timers := s.timers.erase timer }).shutdown timer)
    else none
  | .forget n =>
    if n < s.count ∧ (s.sessions n).link = .closed then
      some (s.modify n ({ · with remoteParticipants := [] }))
    else none

/-- The state at the start of a turn of the event loop. -/
def turn (s : Server) (now : ℕ) : Server := { s with now := now, effects := [] }

end Server

/-- The life of the bot of a room. Time does not go back. -/
def lifecycle : EventSystem Server Event where
  init := ⟨0, fun _ => ⟨.closed, .finished, [], none, true⟩, 0, none, [], [], 0, [], none, []⟩
  step s e := if s.now ≤ e.now then (s.turn e.now).handle e.act else none

end Lifecycle
