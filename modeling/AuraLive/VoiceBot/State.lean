import AuraLive.Foundations.Discipline
import AuraLive.Foundations.JsValue
import Mathlib.Data.Rat.Cast.Defs

set_option relaxedAutoImplicit false
set_option autoImplicit false

/-!
# The context of a room of the voice bot

The fields of `RoomContext` that the response flows of a room read and write, the actions they
perform on it, the calls they await and the flows themselves. The code of the flows is in
`VoiceBot.Flows`.

## Main definitions

* `VoiceBot.RoomState` — the context of one room, with its processing lock.
* `VoiceBot.Act` — the assignments of the code, with `Act.apply`.
* `VoiceBot.Op` — the awaited calls, with the type of their replies.
* `VoiceBot.Flow` — the handlers and callbacks that run on a room.
* `VoiceBot.Env` — the classifiers and text filters of the other services.

## Design

* **One session.** The context is that of one bot session: it is in `activeRooms` during the whole
  run, so the lookups of the code succeed.
* **Modes.** The fields that only DataChannel handlers and host toggles change are kept together in
  `Modes`. One flow, `setModes`, stands for all these handlers and may store anything.
* **Closures.** The variables `llmResolved` and `thinkingSpoken` and the promise `thinkingTask`
  belong to one call of `processAndRespond`. They are kept by the number of that task.
* **History.** `claims`, `captureRequests` and `analyses` record which task set which request id,
  which captures were requested and which were handed to the vision service.
* **Fire and forget.** Calls that are neither awaited nor read back (statistics, the RAG embedding,
  the `listening` and `idle` broadcasts with a `catch`) are left out.
* **Clock.** `now` and `random` are the values of `Date.now()` and `Math.random()` in the running
  step; they come with the event and may be anything. A step that answers an utterance with a
  capture request reads the clock twice: the id of the capture is `later`.
-/

namespace VoiceBot

open Foundations

/-! ## Strings -/

/-- `s.length`, in UTF-16 code units. -/
@[irreducible] def jsLength (s : String) : ℕ :=
  s.toList.foldl (fun n c => n + if 0x10000 ≤ c.val.toNat then 2 else 1) 0

/-- White space and line terminators of the language. -/
def isJsSpace (c : Char) : Bool :=
  c.val.toNat ∈ [9, 10, 11, 12, 13, 32, 0xA0, 0x1680, 0x2028, 0x2029, 0x202F, 0x205F, 0x3000,
    0xFEFF] || (0x2000 ≤ c.val.toNat && c.val.toNat ≤ 0x200A)

/-- `s.trim()`. -/
@[irreducible] def jsTrim (s : String) : String :=
  String.ofList ((s.toList.dropWhile isJsSpace).reverse.dropWhile isJsSpace).reverse

/-- The characters that fit into the first `n` code units. -/
def takeUnits : ℕ → List Char → List Char
  | _, [] => []
  | n, c :: cs =>
    let w := if 0x10000 ≤ c.val.toNat then 2 else 1
    if w ≤ n then c :: takeUnits (n - w) cs else []

/-- `s.substring(0, n)`; half of a surrogate pair at the end is dropped. -/
@[irreducible] def jsTake (n : ℕ) (s : String) : String := String.ofList (takeUnits n s.toList)

/-- `s.includes(w)`. -/
@[irreducible] def jsIncludes (s w : String) : Bool :=
  s.toList.tails.any fun t => w.toList.isPrefixOf t

/-- A string that is present and not empty. -/
def truthyText (s : Option String) : Option String := s.filter fun t => t ≠ ""

/-! ## The context -/

/-- `BotState`. -/
inductive BotState where
  | sleep
  | armed
  | speaking
  deriving DecidableEq, Repr

/-- `pendingVisionRequest`. -/
structure VisionRequest where
  requestId : ℕ
  userQuestion : String
  userId : String
  deriving DecidableEq, Repr

/-- A turn of the conversation; the bot's own turns have no speaker. -/
structure ConversationTurn where
  content : String
  timestamp : ℕ
  speaker : Option String
  deriving DecidableEq, Repr

/-- `pendingDiagramExplanation`. -/
structure Diagrams where
  types : List String
  mermaidCodes : List (String × String)
  deriving DecidableEq, Repr

/-- The fields that DataChannel handlers and host toggles set. -/
structure Modes where
  standbyMode : Bool
  ideaModeActive : Bool
  flowchartModeActive : Bool
  flowchartInitiator : Option String
  flowchartContext : Option JsVal
  designModeActive : Bool
  pendingDiagramExplanation : Option Diagrams
  perplexityModeActive : Bool
  isContinuedMeeting : Bool
  hostOnlyMode : Bool
  /-- A set of identities as the messages name them, `none` for `undefined`. -/
  hostIdentities : List (Option JsVal)
  wakeWordEnabled : Bool
  speakingEnabled : Bool
  roomTopic : Option String

/-- The modes of a new context. -/
def Modes.initial : Modes where
  standbyMode := false
  ideaModeActive := false
  flowchartModeActive := false
  flowchartInitiator := none
  flowchartContext := none
  designModeActive := false
  pendingDiagramExplanation := none
  perplexityModeActive := false
  isContinuedMeeting := false
  hostOnlyMode := true
  hostIdentities := []
  wakeWordEnabled := false
  speakingEnabled := false
  roomTopic := none

/-- The "thinking" announcement that a call of `processAndRespond` makes when the answer takes
longer than 700 ms. -/
structure Thinking where
  parent : ℕ
  requestId : ℕ
  phrase : String
  deriving DecidableEq, Repr

/-- The places of the code that set `currentRequestId`. -/
inductive Site where
  /-- `processAndRespond`, the intervention on a transcript. -/
  | transcript
  /-- `processAndRespond`, the answer to an utterance. -/
  | utterance
  | timer
  | perplexity
  | vision
  | diagrams
  deriving DecidableEq, Repr

/-- A task has set `currentRequestId`. -/
structure Claim where
  task : ℕ
  requestId : ℕ
  site : Site
  deriving DecidableEq, Repr

/-- The `catch` blocks of the flows, which log the error. -/
inductive Catch where
  | stt
  | respond
  | calendar
  | timerCommand
  | opinion
  | agent
  | greeting
  | timerNotify
  | perplexity
  | vision
  | visionSpeech
  | diagrams
  deriving DecidableEq, Repr

/-- The time stamps of the context. -/
inductive Stamp where
  | lastInteraction
  | lastResponse
  | lastSpeech
  | speakingStart
  deriving DecidableEq, Repr

/-- The context of a room, its processing lock, and the closures of its flows. -/
structure RoomState where
  isPublishing : Bool
  publishingStartTime : ℕ
  shouldInterrupt : Bool
  currentRequestId : ℕ
  botState : BotState
  lastInteractionTime : ℕ
  lastResponseTime : ℕ
  lastSpeechTime : ℕ
  speakingStartTime : ℕ
  activeUserId : Option String
  hasActiveScreenShare : Bool
  isVisionMode : Bool
  pendingVisionRequest : Option VisionRequest
  aiMuted : Bool
  greetingDone : Bool
  conversationHistory : List ConversationTurn
  participants : List String
  modes : Modes
  processingLock : Bool
  /-- The tasks whose LLM call has settled. -/
  llmResolved : List ℕ
  /-- The tasks whose "thinking" announcement has been started. -/
  thinkingSpoken : List ℕ
  /-- The pending 700 ms timers. -/
  thinkingTimers : List Thinking
  /-- The settled `thinkingTask` promises. -/
  thinkingEnded : List (ℕ × Except String Unit)
  /-- Which task has set which request id, and where. -/
  claims : List Claim
  /-- The ids of the capture requests sent. -/
  captureRequests : List ℕ
  /-- The ids whose capture was passed to `analyzeScreenShare`. -/
  analyses : List ℕ
  now : ℕ
  later : ℕ
  random : ℕ

/-- The context that `startBot` registers. -/
def RoomState.initial : RoomState where
  isPublishing := false
  publishingStartTime := 0
  shouldInterrupt := false
  currentRequestId := 0
  botState := .sleep
  lastInteractionTime := 0
  lastResponseTime := 0
  lastSpeechTime := 0
  speakingStartTime := 0
  activeUserId := none
  hasActiveScreenShare := false
  isVisionMode := false
  pendingVisionRequest := none
  aiMuted := false
  greetingDone := false
  conversationHistory := []
  participants := []
  modes := Modes.initial
  processingLock := false
  llmResolved := []
  thinkingSpoken := []
  thinkingTimers := []
  thinkingEnded := []
  claims := []
  captureRequests := []
  analyses := []
  now := 0
  later := 0
  random := 0

/-! ## Actions -/

/-- What is played: the answer to a request, or the greeting. -/
inductive Voice where
  | answer (requestId : ℕ)
  | greeting
  deriving DecidableEq, Repr

/-- The samples of an audio frame. -/
abbrev Frame := List ℤ

/-- The assignments of the code, one constructor for each field or group of fields that is written
together, and what the results speak about besides: audio frames, capture requests, analyses and the
errors that a `catch` block logs. -/
inductive Act where
  | setModes (modes : Modes)
  | setParticipants (participants : List String)
  | setScreenShare (on : Bool)
  | setVisionMode (on : Bool)
  | setPendingVisionRequest (request : Option VisionRequest)
  | setAiMuted (muted : Bool)
  | setGreetingDone
  | setShouldInterrupt (on : Bool)
  | setBotState (state : BotState)
  /-- `isPublishing` with `publishingStartTime`. -/
  | setPublishing (on : Bool)
  | setCurrentRequestId (claim : Claim)
  | setActiveUserId (user : Option String)
  | touch (stamp : Stamp)
  | setConversationHistory (turns : List ConversationTurn)
  | setProcessingLock (on : Bool)
  | captureFrame (voice : Voice) (frame : Frame)
  | requestCapture (requestId : ℕ)
  | analyze (requestId : ℕ)
  | resolveLlm (task : ℕ)
  | speakThinking (task : ℕ)
  | armThinking (thinking : Thinking)
  | fireThinking (thinking : Thinking)
  | endThinking (task : ℕ) (result : Except String Unit)
  | logError (site : Catch)

/-- Store the time in a time stamp. -/
def RoomState.touch (s : RoomState) : Stamp → RoomState
  | .lastInteraction => { s with lastInteractionTime := s.now }
  | .lastResponse => { s with lastResponseTime := s.now }
  | .lastSpeech => { s with lastSpeechTime := s.now }
  | .speakingStart => { s with speakingStartTime := s.now }

/-- The effect of an action. -/
def Act.apply : Act → RoomState → RoomState
  | setModes modes, s => { s with modes := modes }
  | setParticipants participants, s => { s with participants := participants }
  | setScreenShare on, s => { s with hasActiveScreenShare := on }
  | setVisionMode on, s => { s with isVisionMode := on }
  | setPendingVisionRequest request, s => { s with pendingVisionRequest := request }
  | setAiMuted muted, s => { s with aiMuted := muted }
  | setGreetingDone, s => { s with greetingDone := true }
  | setShouldInterrupt on, s => { s with shouldInterrupt := on }
  | setBotState state, s => { s with botState := state }
  | setPublishing on, s =>
    { s with isPublishing := on, publishingStartTime := if on then s.now else 0 }
  | setCurrentRequestId claim, s =>
    { s with currentRequestId := claim.requestId, claims := s.claims ++ [claim] }
  | setActiveUserId user, s => { s with activeUserId := user }
  | touch stamp, s => s.touch stamp
  | setConversationHistory turns, s => { s with conversationHistory := turns }
  | setProcessingLock on, s => { s with processingLock := on }
  | captureFrame _ _, s => s
  | requestCapture requestId, s => { s with captureRequests := s.captureRequests ++ [requestId] }
  | analyze requestId, s => { s with analyses := s.analyses ++ [requestId] }
  | resolveLlm task, s => { s with llmResolved := task :: s.llmResolved }
  | speakThinking task, s => { s with thinkingSpoken := task :: s.thinkingSpoken }
  | armThinking thinking, s => { s with thinkingTimers := thinking :: s.thinkingTimers }
  | fireThinking thinking, s =>
    { s with thinkingTimers := s.thinkingTimers.filter fun t => t ≠ thinking }
  | endThinking task result, s => { s with thinkingEnded := (task, result) :: s.thinkingEnded }
  | logError _, s => s

/-! ## Calls -/

/-- The text of an utterance, as corrected and as recognised. -/
structure SttResult where
  corrected : String
  raw : String

/-- The result of `PerplexityService.handleMessage`. -/
structure PerplexityResult where
  action : Option JsVal
  response : Option String

/-- The result of `processVoiceIntent`. -/
structure VoiceIntent where
  shouldRespond : Bool
  correctedText : String
  searchKeyword : Option String
  category : Option String

/-- The result of `buildSearchPlan`. -/
structure SearchPlan where
  query : String
  category : Option String

/-- The result of `LlmService.sendMessage`. -/
structure LlmResult where
  text : String
  searchResults : List JsVal
  ragSources : List (String × Option String)

/-- The decision of the agent router. -/
structure AgentDecision where
  tool : String
  params : JsVal

/-- The result of a tool of the agent. -/
structure ToolResult where
  result : String
  searchResults : List JsVal

/-- The result of the opinion service. -/
structure OpinionResult where
  shouldSpeak : Bool
  response : Option String
  evidence : Option JsVal

/-- A free slot, with its date and time as the code renders them. -/
structure FreeSlot where
  date : String
  time : String
  dateFormatted : String
  timeFormatted : String

/-- The result of `addEventToUsers`. -/
structure CalendarResult where
  success : Bool
  successCount : ℕ

/-- The commands of the meeting timer. -/
inductive TimerAction where
  | start
  | pause
  | resume
  | extend
  | stop
  | status
  deriving DecidableEq, Repr

/-- The name of a timer command. -/
def TimerAction.name : TimerAction → String
  | start => "start"
  | pause => "pause"
  | resume => "resume"
  | extend => "extend"
  | stop => "stop"
  | status => "status"

/-- The data of the meeting timer. -/
structure TimerData where
  targetMinutes : ℕ
  warningMinutes : ℕ
  remainingSeconds : ℕ
  timerState : String

/-- The result of `analyzeScreenShare`. -/
structure VisionResult where
  analysisType : String
  text : String

/-- The awaited calls. -/
inductive Op where
  | transcribe (userId : String)
  | handleMessage (type : String) (payload : JsVal) (senderId : String)
  /-- `publishData`, to everybody or to the given identities. -/
  | publishData (payload : JsVal) (destination : Option (List (Option JsVal)))
  | synthesizePcm (voice : Voice) (text : String)
  /-- The `speaking` broadcast between the check of the request id and `publishAudio`. -/
  | announce (requestId : ℕ) (text : String)
  /-- The timer of the next frame in `publishAudio`. -/
  | frameTimer (voice : Voice)
  | sleep (ms : ℕ)
  /-- The promise `thinkingTask` of a call of `processAndRespond`. -/
  | thinkingTask (task : ℕ)
  | answerWithContext (question context topic : String)
  | processVoiceIntent (text : String)
  | buildSearchPlan (text : String)
  | sendMessage (text : String) (searchDomain : Option String)
  | getRouteInfo (result : JsVal)
  | sendMessagePure (prompt : String) (maxTokens : ℕ)
  | agentDecide (text : String) (history : List ConversationTurn)
  | executeTool (decision : AgentDecision) (text : String)
  | generateResponse (text : String) (decision : AgentDecision) (result : ToolResult)
  | analyzeAndRespond (context userId : String)
  | findCommonFreeSlots (userIds : List String)
  | addEventToUsers (userIds : List String) (title date time description : String)
  /-- The import of the timer tool and the call of one of its functions. -/
  | timerTool (action : TimerAction) (minutes warningMinutes : ℕ)
  | analyzeScreenShare (image question : String)

/-- What a call returns. -/
def Op.Reply : Op → Type
  | transcribe _ => SttResult
  | handleMessage _ _ _ => Option PerplexityResult
  | publishData _ _ => Unit
  | synthesizePcm _ _ => List UInt8
  | announce _ _ => Unit
  | frameTimer _ => Unit
  | sleep _ => Unit
  | thinkingTask _ => Unit
  | answerWithContext _ _ _ => String
  | processVoiceIntent _ => VoiceIntent
  | buildSearchPlan _ => SearchPlan
  | sendMessage _ _ => LlmResult
  | getRouteInfo _ => Option JsVal
  | sendMessagePure _ _ => String
  | agentDecide _ _ => AgentDecision
  | executeTool _ _ => ToolResult
  | generateResponse _ _ _ => String
  | analyzeAndRespond _ _ => OpinionResult
  | findCommonFreeSlots _ => List FreeSlot
  | addEventToUsers _ _ _ _ _ => CalendarResult
  | timerTool _ _ _ => Option TimerData
  | analyzeScreenShare _ _ => VisionResult

/-! ## Flows -/

/-- An utterance that the voice detection has cut out. -/
structure Utterance where
  userId : String
  startTime : Option ℕ
  deriving DecidableEq, Repr

/-- The two notifications of the meeting timer. -/
inductive TimerEvent where
  | warning
  | ended
  deriving DecidableEq, Repr

/-- A capture response, from the DataChannel or over HTTP. The request id is `none` if the message
has none that is a number of milliseconds. -/
structure CaptureResponse where
  requestId : Option ℕ
  imageBase64 : Option String
  deriving DecidableEq, Repr

/-- The handlers and callbacks that run on the context of a room. -/
inductive Flow where
  | processAndRespond (utterance : Utterance)
  /-- The rest of a `thinkingTask` after its 700 ms. -/
  | thinking (thinking : Thinking)
  | timerNotify (event : TimerEvent) (data : TimerData)
  | handlePerplexityMessage (type : String) (payload : JsVal) (senderId : String)
  | handleVisionCaptureResponse (message : CaptureResponse)
  | explainGeneratedDiagrams (diagrams : Diagrams)
  | clientReady (isContinuedMeeting : Bool)
  | aiMute (muted : Bool)
  | bargeIn (userId : String)
  | publishingTimeout
  | armedTimeout
  | enterStandbyMode
  | screenShare (on : Bool)
  | setModes (modes : Modes)
  | setParticipants (participants : List String)

/-- The task whose request a flow speaks for: `thinkingTask` speaks for its parent. -/
def Flow.root (flow : Flow) (id : ℕ) : ℕ :=
  match flow with
  | .thinking t => t.parent
  | _ => id

/-! ## Other services -/

/-- The fields of `IntentAnalysis` that the response flows read. -/
structure IntentAnalysis where
  isCallIntent : Bool
  isQuestionIntent : Bool
  isBotRelated : Bool
  isVisionIntent : Bool
  isIdeaBoardIntent : Bool
  isFlowchartIntent : Bool
  isCalendarIntent : Bool
  isTimerIntent : Bool
  timerAction : Option TimerAction
  timerMinutes : ℕ
  normalizedText : String
  hasCommandWord : Bool
  hasRequestPattern : Bool
  searchDomain : Option String
  category : Option String
  extractedKeyword : Option String
  needsLlmCorrection : Bool

/-- The pattern matchers the flows use: the intent classifier and the regular expressions of the
text filters. -/
structure Env where
  classify : String → IntentAnalysis
  isDiagramRelatedQuestion : String → Bool
  buildFlowchartContextPrompt : JsVal → String
  /-- The content of an idea, `none` if `detectAndBroadcastIdea` skips the transcript. -/
  ideaContent : String → Option String
  /-- The ambiguous patterns of `shouldUseAgentMode`. -/
  isAmbiguous : String → Bool
  cleanForHistory : String → String
  /-- `opinionService.isEnabled()`. -/
  opinionEnabled : Bool
  /-- The image without its data URL prefix. -/
  base64Data : String → String
  localIdentity : String

/-- The stamp of an event: the readings of the clock and the random number its step sees. -/
structure Tick where
  now : ℕ
  later : ℕ
  random : ℕ

end VoiceBot
