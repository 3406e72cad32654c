import AuraLive.Foundations.EventSystem
import AuraLive.Perplexity.Engine
import Mathlib.Data.List.Infix

set_option relaxedAutoImplicit false
set_option autoImplicit false

/-!
# The Perplexity service

The functions of `perplexity.service.ts`: one service with a session for each room and one engine
that all rooms share. Every handler of a message takes the message in and, as its last action,
may try to propagate.

## Main definitions

* `Perplexity.PerplexityService` — the sessions, the engine and a record of what happened.
* `Perplexity.PerplexityService.receive` — what a call does up to `tryPropagate`.
* `Perplexity.PerplexityService.tryPropagate` — the throttled evaluation of the constraints.
* `Perplexity.perplexity` — the service as an event system with a non-decreasing, positive clock.

## Design

The handlers run to completion: `handleMessage` only awaits the text of an intervention, after
everything else is done, and `generateInterventionResponse` changes nothing; its text is not
modelled. The fields `started`, `propagations` and `inferences` of the service record what has
happened and are read by no handler, except that `started` numbers the session objects.
-/

namespace Perplexity

open Foundations

variable [Rounding]

/-- A room. -/
abbrev RoomId := String

/-! ## Messages -/

/-- The payload of `STATE_UPDATE`. -/
structure StateUpdatePayload where
  participantId : String
  state : Option CognitiveState
  confidence : ℚ
  deriving DecidableEq

/-- An entry of the payload of `ENTROPY_REPORT`; the confidence may be missing. -/
structure StateReport where
  participantId : String
  state : Option CognitiveState
  confidence : Option ℚ
  deriving DecidableEq

/-- A message of the frontend. -/
inductive PerplexityMessage where
  | perplexityStart
  | perplexityEnd
  | stateUpdate (payload : StateUpdatePayload)
  | observation
  | propagation
  | action
  | entropyReport (participantStates : List StateReport)
  | transcript (participantId text : String)
  deriving DecidableEq

/-- A call of the service. -/
inductive Call where
  | startSession
  | endSession
  | addParticipant (participantId participantName : String)
  | removeParticipant (participantId : String)
  | handleMessage (message : PerplexityMessage)
  deriving DecidableEq

/-- A call for a room at a time. -/
structure Event where
  roomId : RoomId
  now : ℕ
  call : Call
  deriving DecidableEq

/-! ## The service -/

/-- A call of `propagate`. -/
structure Propagation where
  /-- The room of the session. -/
  roomId : RoomId
  /-- The session as the conditions see it. -/
  session : PerplexitySession
  /-- When the call is made. -/
  now : ℕ
  /-- What it returns. -/
  result : PropagationResult

/-- A state inferred by `addTranscript`. -/
structure Inference where
  /-- The room. -/
  roomId : RoomId
  /-- The session object of the room. -/
  serial : ℕ
  /-- Who spoke. -/
  participantId : String
  /-- When the text was handled. -/
  now : ℕ
  deriving DecidableEq

/-- The service. -/
structure PerplexityService where
  sessions : JsMap RoomId PerplexitySession
  wfcEngine : WFCEngine
  /-- The last clock reading. -/
  clock : ℕ
  /-- How many sessions have been started for a room. -/
  started : RoomId → ℕ
  /-- The calls of `propagate`, the last one first. -/
  propagations : List Propagation
  /-- The states inferred from texts, the last one first. -/
  inferences : List Inference

namespace PerplexityService

variable (s : PerplexityService) (roomId : RoomId) (now : ℕ)

/-- Write to a session object that is held under `roomId`. -/
def put (session : PerplexitySession) : PerplexityService :=
  { s with sessions := s.sessions.set roomId session }

/-- `startSession`. -/
def startSession : PerplexityService :=
  { s with
    started := Function.update s.started roomId (s.started roomId + 1)
    sessions := s.sessions.set roomId
      { serial := s.started roomId
        roomId := roomId
        isActive := true
        startTime := now
        participants := ∅
        topics := ∅
        currentTopic := none
        sessionEntropy := 1
        entropyLevel := .high
        actionHistory := []
        lastPropagation := 0
        recentTranscripts := [] } }

/-- `endSession`. -/
def endSession : PerplexityService := { s with sessions := s.sessions.delete roomId }

/-- `addParticipant`. -/
def addParticipant (participantId participantName : String) : PerplexityService :=
  match s.sessions.get roomId with
  | none => s
  | some session =>
    if session.participants.has participantId then s
    else s.put roomId
      { session with
        participants := session.participants.set participantId
          (createParticipantCell participantId participantName now) }

/-- `removeParticipant`. -/
def removeParticipant (participantId : String) : PerplexityService :=
  match s.sessions.get roomId with
  | none => s
  | some session =>
    s.put roomId { session with participants := session.participants.delete participantId }

end PerplexityService

/-! ## Observations -/

/-- A session in which an observation has been applied to a cell. -/
def PerplexitySession.observe (session : PerplexitySession) (participantId : String)
    (cell : ParticipantCell) (state : CognitiveState) (confidence : ℚ) (now : ℕ) :
    PerplexitySession :=
  { session with
    participants := session.participants.set participantId
      (collapseState cell state confidence now) }

/-- `TEXT_STATE_PROTECTION_MS`. -/
def TEXT_STATE_PROTECTION_MS : ℕ := 5000

/-- Whether a cell is protected by a recent text. -/
def ParticipantCell.textProtected (cell : ParticipantCell) (now : ℕ) : Bool :=
  0 < cell.textInferredAt && now - cell.textInferredAt < TEXT_STATE_PROTECTION_MS

/-- The loop body of `handleEntropyReport`. -/
def PerplexitySession.applyReport (session : PerplexitySession) (now : ℕ) (update : StateReport) :
    PerplexitySession :=
  match session.participants.get update.participantId, update.state with
  | some cell, some state =>
    if cell.textProtected now then session
    else session.observe update.participantId cell state (update.confidence.getD (7 / 10)) now
  | _, _ => session

/-- Whether a text contains one of several phrases. -/
def mentions (text : String) (phrases : List String) : Bool :=
  phrases.any fun phrase => phrase.toList <:+: text.toList

/-- The state a text speaks of. The patterns have no letters with case, so that `toLowerCase` makes
no difference to them. -/
def inferStateFromTranscript (text : String) : Option CognitiveState :=
  if mentions text ["모르겠", "헷갈", "이해가 안", "뭐지", "어려", "복잡", "무슨 말", "쉽지 않",
      "안 되", "힘들"] then
    some .confused
  else if mentions text ["그렇지", "맞아", "알겠", "알았", "이해했", "이해됐", "아하", "오케이",
      "넵", "그렇구나", "그런 거", "그거구나"] then
    some .understood
  else if mentions text ["음", "흠", "잠깐", "그러니까", "생각해보면", "근데", "그게"] then
    some .thinking
  else if mentions text ["?", "제 생각에는", "왜냐하면", "예를 들어", "설명하자면"] then
    some .contributing
  else
    none

/-- `MAX_TRANSCRIPTS`. -/
def MAX_TRANSCRIPTS : ℕ := 50

/-- A session with one more transcript, of which the last ones are kept. -/
def PerplexitySession.record (session : PerplexitySession) (t : Transcript) : PerplexitySession :=
  let recent := session.recentTranscripts ++ [t]
  { session with
    recentTranscripts := if MAX_TRANSCRIPTS < recent.length then recent.tail else recent }

/-- A session in which a state inferred from a text has been applied to the speaker's cell. -/
def PerplexitySession.applyText (session : PerplexitySession) (participantId : String)
    (state : CognitiveState) (now : ℕ) : PerplexitySession :=
  match session.participants.get participantId with
  | none => session
  | some cell =>
    { session with
      participants := session.participants.set participantId
        { collapseState cell state (9 / 10) now with textInferredAt := now } }

/-! ## Handlers -/

/-- The service after a call has been taken in, with the session that the handler then passes to
`tryPropagate`, if it does. -/
abbrev Received := PerplexityService × Option PerplexitySession

namespace PerplexityService

variable (s : PerplexityService) (roomId : RoomId) (now : ℕ)

/-- `handleStateUpdate` up to `tryPropagate`. -/
def handleStateUpdate (payload : StateUpdatePayload) : Received :=
  match s.sessions.get roomId with
  | none => (s, none)
  | some session =>
    if !session.isActive then (s, none)
    else
      match session.participants.get payload.participantId with
      | none => (s, none)
      | some cell =>
        match payload.state with
        | none => (s, some session)
        | some state =>
          let session := session.observe payload.participantId cell state payload.confidence now
          (s.put roomId session, some session)

/-- `handleEntropyReport` up to `tryPropagate`. -/
def handleEntropyReport (participantStates : List StateReport) : Received :=
  match s.sessions.get roomId with
  | none => (s, none)
  | some session =>
    if !session.isActive then (s, none)
    else
      let session := participantStates.foldl (fun session u => session.applyReport now u) session
      let session := updateSessionEntropy session
      (s.put roomId session, some session)

/-- `addTranscript`, with the state it returns. -/
def addTranscript (participantId text : String) : PerplexityService × Option CognitiveState :=
  match s.sessions.get roomId with
  | none => (s, none)
  | some session =>
    if !session.isActive then (s, none)
    else
      let session := session.record ⟨participantId, text, now⟩
      match inferStateFromTranscript text with
      | none => (s.put roomId session, none)
      | some state =>
        ({ s.put roomId (session.applyText participantId state now) with
            inferences := ⟨roomId, session.serial, participantId, now⟩ :: s.inferences },
          some state)

/-- The branch of `handleMessage` for `TRANSCRIPT` up to `tryPropagate`. -/
def handleTranscript (participantId text : String) : Received :=
  match s.addTranscript roomId now participantId text with
  | (s, none) => (s, none)
  | (s, some _) =>
    match s.sessions.get roomId with
    | none => (s, none)
    | some session =>
      let session := updateSessionEntropy session
      (s.put roomId session, some session)

/-- `handleMessage` up to `tryPropagate`. -/
def handleMessage : PerplexityMessage → Received
  | .perplexityStart => (s.startSession roomId now, none)
  | .perplexityEnd => (s.endSession roomId, none)
  | .stateUpdate payload => s.handleStateUpdate roomId now payload
  | .entropyReport participantStates => s.handleEntropyReport roomId now participantStates
  | .transcript participantId text => s.handleTranscript roomId now participantId text
  | .observation | .propagation | .action => (s, none)

/-- A call up to `tryPropagate`. -/
def receive (e : Event) : Received :=
  match e.call with
  | .startSession => (s.startSession e.roomId e.now, none)
  | .endSession => (s.endSession e.roomId, none)
  | .addParticipant participantId participantName =>
    (s.addParticipant e.roomId e.now participantId participantName, none)
  | .removeParticipant participantId => (s.removeParticipant e.roomId participantId, none)
  | .handleMessage message => s.handleMessage e.roomId e.now message

/-- `MIN_PROPAGATION_INTERVAL_MS`. -/
def MIN_PROPAGATION_INTERVAL_MS : ℕ := 500

/-- Whether `tryPropagate` evaluates the constraints of a session. -/
def due (session : PerplexitySession) (now : ℕ) : Bool :=
  MIN_PROPAGATION_INTERVAL_MS ≤ now - session.lastPropagation

/-- `tryPropagate` beyond its interval check. -/
def evaluate (session : PerplexitySession) : PerplexityService :=
  let session := { session with lastPropagation := now }
  let (engine, result) := propagate s.wfcEngine session now
  { s with
    wfcEngine := engine
    propagations := ⟨roomId, session, now, result⟩ :: s.propagations
    sessions := s.sessions.set roomId
      { session with actionHistory := session.actionHistory ++ result.actions.map (·, now) } }

/-- `tryPropagate`. -/
def tryPropagate (session : PerplexitySession) : PerplexityService :=
  if due session now then s.evaluate roomId now session else s

/-- A whole call. -/
def handle (e : Event) : PerplexityService :=
  match s.receive e with
  | (s, none) => s
  | (s, some session) => s.tryPropagate e.roomId e.now session

end PerplexityService

/-- The service as an event system. The clock does not go backwards and, counting from 1970, is
positive. -/
def perplexity : EventSystem PerplexityService Event where
  init :=
    { sessions := ∅
      wfcEngine := ⟨fun _ => none⟩
      clock := 1
      started := fun _ => 0
      propagations := []
      inferences := [] }
  step s e := if e.now < s.clock then none else some { s.handle e with clock := e.now }

end Perplexity
