import AuraLive.VoiceBot.State

set_option relaxedAutoImplicit false
set_option autoImplicit false

/-!
# The response flows of the voice bot

The code of the handlers and callbacks that run on the context of a room, in the order of the
source: speaking, the timer callback, perplexity messages, `processAndRespond` with its branches,
screen captures, and the small handlers that only set fields.

## Main definitions

* `VoiceBot.speakAndPublish`, `publishAudio` — speech synthesis and the frames.
* `VoiceBot.processAndRespond` — the answer to an utterance.
* `VoiceBot.handleVisionCaptureResponse` — the analysis of a screen capture.
* `VoiceBot.runtime`, `room` — the event-driven system of the flows of one room.

## Design

* **Exceptions.** Every awaited call can throw, apart from timers. What a caller of a flow does with
  its exception (it logs it) has no effect on the context.
* **Returns.** An early `return` of the source ends the branch it stands in, so the rest of the
  function is the `else` branch or a definition of its own.
-/

namespace VoiceBot

open Foundations
open Foundations.Async (get perform)

/-- Programs on the context of a room. -/
abbrev Prog := Async RoomState Act Op Op.Reply

/-- `await op`. -/
def await (op : Op) : Prog op.Reply := Async.await op

/-- `context.botState = state`. -/
def setBotState (state : BotState) : Prog Unit := perform (.setBotState state)

/-- `context.isPublishing = on`, with `publishingStartTime`. -/
def setPublishing (on : Bool) : Prog Unit := perform (.setPublishing on)

/-- `publishData` to all participants. -/
def publishData (payload : JsVal) : Prog Unit := await (.publishData payload none)

/-- A JSON number. -/
def jsNat (n : ℕ) : JsVal := .num n

/-- A string or `undefined` as a JSON value. -/
def jsText : Option String → JsVal
  | none => .null
  | some text => .str text

/-! ## Speaking -/

/-- The message of `broadcastAiState`. -/
def aiState (state : String) (response : Option String) : JsVal :=
  .obj [("type", .str "AI_STATE"), ("state", .str state), ("response", jsText response)]

/-- The little-endian sample of two bytes. -/
def readInt16LE (lo hi : UInt8) : ℤ :=
  let n := lo.toNat + 256 * hi.toNat
  if n < 32768 then n else (n : ℤ) - 65536

/-- The samples of a chunk; a single byte at the end is not read. -/
def samples : List UInt8 → List ℤ
  | lo :: hi :: rest => readInt16LE lo hi :: samples rest
  | _ => []

/-- The frames of a PCM buffer: 480 samples of two bytes each, the last one filled with zeros. -/
def toFrames (pcm : List UInt8) : List Frame :=
  (List.range ((pcm.length + 959) / 960)).map fun k =>
    let read := samples ((pcm.drop (960 * k)).take 960)
    read ++ List.replicate (480 - read.length) 0

/-- `publishAudio`: before every frame the interrupt flag is read, and cleared when it was set. -/
def publishAudio (voice : Voice) : List Frame → Prog Unit
  | [] => do
    let s ← get
    if s.shouldInterrupt then perform (.setShouldInterrupt false)
  | [frame] => do
    let s ← get
    if s.shouldInterrupt then perform (.setShouldInterrupt false)
    else perform (.captureFrame voice frame)
  | frame :: next :: rest => do
    let s ← get
    if s.shouldInterrupt then perform (.setShouldInterrupt false)
    else do
      perform (.captureFrame voice frame)
      await (.frameTimer voice)
      publishAudio voice (next :: rest)

/-- `sendTextCardToHost`. -/
def sendTextCardToHost (message : String) : Prog Unit := do
  let s ← get
  if s.modes.hostIdentities.isEmpty then pure ()
  else
    await (.publishData (.obj [("type", .str "AI_TEXT_RESPONSE"), ("text", .str message),
      ("timestamp", jsNat s.now)]) (some s.modes.hostIdentities))

/-- The part of `speakAndPublish` after the two checks for a silent bot. -/
def synthesizeAndPublish (requestId : ℕ) (message : String) : Prog Unit := do
  let pcmAudio ← await (.synthesizePcm (.answer requestId) message)
  perform (.touch .speakingStart)
  let s ← get
  if s.currentRequestId ≠ requestId ∧ s.currentRequestId ≠ 0 then pure ()
  else do
    perform (.setShouldInterrupt false)
    await (.announce requestId message)
    publishAudio (.answer requestId) (toFrames pcmAudio)
    publishData (aiState "idle" none)

/-- `speakAndPublish`. The third branch of the source asks for a condition that the second has
already excluded. -/
def speakAndPublish (requestId : ℕ) (message : String) (skipTextCard : Bool) : Prog Unit := do
  let s ← get
  if s.aiMuted then pure ()
  else if !s.modes.speakingEnabled then do
    publishData (aiState "speaking" (some message))
    sendTextCardToHost message
  else if s.modes.hostOnlyMode && !s.modes.hostIdentities.isEmpty &&
      !s.modes.speakingEnabled then do
    publishData (aiState "speaking" (some message))
    if skipTextCard then pure () else sendTextCardToHost message
  else synthesizeAndPublish requestId message

/-- Speak and go to a state: the end of most branches of `processAndRespond`. -/
def speakThen (requestId : ℕ) (message : String) (state : BotState) : Prog Unit := do
  setBotState .speaking
  speakAndPublish requestId message false
  setBotState state
  perform (.touch .lastResponse)

/-! ## The greeting -/

/-- `greetOnJoin`. -/
def greetOnJoin : Prog Unit := do
  let s ← get
  if s.aiMuted then pure ()
  else
    let greeting :=
      if s.modes.isContinuedMeeting then
        "안녕하세요! 아우라예요. 이전 회의 액션 아이템을 확인해주세요."
      else "안녕하세요. 아우라에요. 회의 시작할게요."
    Async.tryCatch
      (do
        setBotState .speaking
        let pcmBuffer : List UInt8 ← await (.synthesizePcm .greeting greeting)
        if pcmBuffer ≠ [] then publishAudio .greeting (toFrames pcmBuffer)
        setBotState .sleep
        perform (.touch .lastResponse))
      fun _ => do
        perform (.logError .greeting)
        setBotState .sleep

/-- The handler of `CLIENT_READY`. -/
def clientReady (isContinuedMeeting : Bool) : Prog Unit := do
  let s ← get
  if s.greetingDone then pure ()
  else do
    if isContinuedMeeting then perform (.setModes { s.modes with isContinuedMeeting := true })
    perform .setGreetingDone
    greetOnJoin

/-! ## Timer notifications -/

/-- The timer data that is sent to the clients. -/
def timerFields (data : TimerData) : JsVal :=
  .obj [("targetMinutes", jsNat data.targetMinutes), ("warningMinutes", jsNat data.warningMinutes),
    ("remainingSeconds", jsNat data.remainingSeconds), ("timerState", .str data.timerState)]

/-- The name of a timer event. -/
def TimerEvent.name : TimerEvent → String
  | warning => "warning"
  | ended => "ended"

/-- The callback that `setupTimerNotifyCallback` installs. -/
def timerNotify (me : ℕ) (event : TimerEvent) (data : TimerData) : Prog Unit :=
  Async.tryCatch
    (do
      publishData (.obj [("type", .str "TIMER_ALERT"), ("event", .str event.name),
        ("data", timerFields data)])
      let s ← get
      if s.aiMuted then pure ()
      else do
        let message :=
          match event with
          | .warning => "회의 종료 " ++ toString data.warningMinutes ++ "분 전입니다."
          | .ended => "회의 시간이 종료되었습니다."
        let requestId := s.currentRequestId + 1
        perform (.setCurrentRequestId ⟨me, requestId, .timer⟩)
        setBotState .speaking
        speakAndPublish requestId message false
        setBotState .armed)
    fun _ => perform (.logError .timerNotify)

/-! ## Perplexity messages -/

/-- The spoken part of a perplexity intervention. -/
def speakIntervention (me : ℕ) (response : String) : Prog Unit := do
  let s ← get
  let requestId := s.currentRequestId + 1
  perform (.setCurrentRequestId ⟨me, requestId, .perplexity⟩)
  setPublishing true
  setBotState .speaking
  Async.andFinally (speakAndPublish requestId response false)
    (do
      setPublishing false
      setBotState .sleep)

/-- `handlePerplexityMessage`. Whether the bot is busy is read once, before the first call. -/
def handlePerplexityMessage (me : ℕ) (type : String) (payload : JsVal) (senderId : String) :
    Prog Unit := do
  let s ← get
  if !s.modes.perplexityModeActive then pure ()
  else
    let isSpeakingOrPublishing := s.botState = .speaking || s.isPublishing
    if isSpeakingOrPublishing && type ≠ "TRANSCRIPT" then pure ()
    else
      Async.tryCatch
        (do
          let result ← await (.handleMessage type payload senderId)
          if isSpeakingOrPublishing then pure ()
          else
            match result.bind PerplexityResult.action with
            | none => pure ()
            | some action => do
              publishData (.obj [("type", .str "ACTION"), ("payload", action),
                ("senderId", .str "ai-bot")])
              match truthyText (result.bind PerplexityResult.response) with
              | none => pure ()
              | some response => speakIntervention me response)
        fun _ => do
          perform (.logError .perplexity)
          setPublishing false

/-! ## Answers in a board mode -/

/-- `detectAndBroadcastIdea`. -/
def detectAndBroadcastIdea (env : Env) (transcript userId : String) : Prog Unit :=
  match env.ideaContent transcript with
  | none => pure ()
  | some content =>
    publishData (.obj [("type", .str "NEW_IDEA"),
      ("idea", .obj [("content", .str (jsTake 15 content)),
        ("author", .str (if userId = "" then "익명" else userId))])])

/-- The answer to a question about an open board. -/
def answerOnBoard (requestId : ℕ) (transcript context topic : String) : Prog Unit := do
  setBotState .speaking
  let response ← await (.answerWithContext transcript context topic)
  speakAndPublish requestId response false
  setBotState .armed
  perform (.touch .lastResponse)

/-- The description of the design board. -/
def diagramContext (pending : Option Diagrams) : String :=
  let header := "=== 현재 설계 보드 상태 ===\n"
  match pending with
  | none => header
  | some diagrams =>
    header ++ "생성된 다이어그램: " ++ ", ".intercalate diagrams.types ++ "\n\n" ++
      String.join (diagrams.types.map fun type =>
        match diagrams.mermaidCodes.find? fun c => c.1 = type with
        | some (_, code) =>
          if code = "" then "" else "[" ++ type ++ "]\n" ++ jsTake 500 code ++ "\n\n"
        | none => "")

/-- The design mode: questions about diagrams are answered, others are turned down. -/
def answerInDesignMode (env : Env) (requestId : ℕ) (transcript : String) : Prog Unit := do
  let s ← get
  if env.isDiagramRelatedQuestion transcript then
    answerOnBoard requestId transcript (diagramContext s.modes.pendingDiagramExplanation)
      "설계 다이어그램"
  else
    speakThen requestId
      "지금은 설계 보드가 열려 있어요. 다이어그램에 관한 질문을 해주시면 도와드릴게요." .armed

/-! ## Screen captures: the request -/

/-- `sendVisionCaptureRequest`. -/
def sendVisionCaptureRequest (requestId : ℕ) (userQuestion userId : String) : Prog Unit := do
  perform (.requestCapture requestId)
  perform (.setPendingVisionRequest (some ⟨requestId, userQuestion, userId⟩))
  perform (.setVisionMode true)
  publishData (.obj [("type", .str "vision_capture_request"), ("requestId", jsNat requestId)])

/-- `processVisionIntent`. -/
def processVisionIntent (userQuestion userId : String) : Prog Bool := do
  let s ← get
  if !s.hasActiveScreenShare then pure false
  else
    match s.isVisionMode, s.pendingVisionRequest with
    | true, some pending =>
      if s.now - pending.requestId < 10000 then pure false
      else do
        perform (.setVisionMode false)
        perform (.setPendingVisionRequest none)
        sendVisionCaptureRequest s.later userQuestion userId
        pure true
    | _, _ => do
      sendVisionCaptureRequest s.later userQuestion userId
      pure true

/-! ## Boards, calendar and timer -/

/-- The idea board is opened. -/
def openIdeaBoard (requestId : ℕ) : Prog Unit := do
  publishData (.obj [("type", .str "OPEN_IDEA_BOARD")])
  speakThen requestId "아이디어 보드를 열었습니다. 아이디어를 말씀해주세요!" .armed

/-- The flowchart board is opened. -/
def openFlowchartBoard (requestId : ℕ) (userId : String) : Prog Unit := do
  let s ← get
  perform (.setModes
    { s.modes with flowchartInitiator := some userId, flowchartModeActive := true })
  publishData (.obj [("type", .str "OPEN_FLOWCHART_BOARD"), ("initiator", .str userId)])
  speakThen requestId "설계 보드를 열었습니다." .armed

/-- A participant who is not a bot. -/
def isHuman (identity : String) : Bool :=
  identity ≠ "" && !("ai-bot".toList.isPrefixOf identity.toList)

/-- The last steps of the calendar branch: an appointment in the first free slot. -/
def createAppointment (requestId : ℕ) (userIds : List String) (slot : FreeSlot) : Prog Unit := do
  let s ← get
  let meetingTopic := (truthyText s.modes.roomTopic).getD "팀 미팅"
  let result ← await (.addEventToUsers userIds meetingTopic slot.date slot.time
    ("AURA 회의실에서 자동 생성된 일정입니다.\n회의 주제: " ++ meetingTopic))
  let responseText :=
    if result.success then
      slot.dateFormatted ++ " " ++ slot.timeFormatted ++ "에 \"" ++ meetingTopic ++
        "\" 일정을 생성했습니다. " ++ toString result.successCount ++ "명의 캘린더에 추가되었습니다."
    else "일정 생성에 실패했습니다. Google 캘린더 연동을 확인해주세요."
  speakAndPublish requestId responseText false
  setBotState .armed
  perform (.touch .lastResponse)
  publishData (.obj [("type", .str "CALENDAR_EVENT_CREATED"),
    ("event", .obj [("title", .str meetingTopic), ("date", .str slot.date),
      ("time", .str slot.time), ("durationMinutes", jsNat 60)]),
    ("participantCount", jsNat userIds.length)])

/-- `split('_')[0]`: the id of a user is taken from the front of the identity. -/
def userIdOf (identity : String) : String := String.ofList (identity.toList.takeWhile (· ≠ '_'))

/-- The calendar branch. -/
def recommendSchedule (env : Env) (requestId : ℕ) : Prog Unit :=
  Async.tryCatch
    (do
      let s ← get
      let userIds := ((s.participants ++ [env.localIdentity]).filter isHuman).map userIdOf
      let count := toString userIds.length
      setBotState .speaking
      speakAndPublish requestId (count ++ "명의 참여자 일정을 분석하고 일정을 생성하겠습니다.") false
      let freeSlots ← await (.findCommonFreeSlots userIds)
      match freeSlots with
      | [] => do
        speakAndPublish requestId
          (count ++ "명의 일정을 확인했지만, 공통으로 비어 있는 시간을 찾지 못했습니다.") false
        setBotState .armed
        perform (.touch .lastResponse)
      | slot :: _ => createAppointment requestId userIds slot)
    fun _ => do
      perform (.logError .calendar)
      speakAndPublish requestId
        "죄송합니다. 일정 생성 중 오류가 발생했습니다. Google 캘린더 연동이 필요할 수 있습니다." false
      setBotState .armed

/-- The minutes and warning minutes a timer command is called with. -/
def timerArguments (action : TimerAction) (minutes : ℕ) : ℕ × ℕ :=
  match action with
  | .start =>
    let target := if minutes = 0 then 30 else minutes
    (target, max 1 (target * 15 / 100))
  | .extend => (if minutes = 0 then 10 else minutes, 0)
  | _ => (0, 0)

/-- What is said about a timer command. -/
def timerMessage (action : TimerAction) (minutes warning : ℕ) (result : Option TimerData) :
    String :=
  match action, result with
  | .start, _ => toString minutes ++ "분 타이머를 시작합니다. " ++ toString warning ++
      "분 전에 알림을 드릴게요."
  | .pause, some _ => "타이머를 일시정지했습니다."
  | .pause, none => "실행 중인 타이머가 없습니다."
  | .resume, some _ => "타이머를 재개합니다."
  | .resume, none => "일시정지된 타이머가 없습니다."
  | .extend, some _ => toString minutes ++ "분 연장했습니다."
  | .stop, some _ => "타이머를 중지했습니다."
  | .status, some data => "현재 " ++ toString (data.remainingSeconds / 60) ++ "분 " ++
      toString (data.remainingSeconds % 60) ++ "초 남았습니다."
  | .status, none => "설정된 타이머가 없습니다."
  | _, none => "타이머가 없습니다."

/-- The timer branch. -/
def commandTimer (requestId : ℕ) (intent : IntentAnalysis) : Prog Unit :=
  let action := intent.timerAction.getD .status
  let arguments := timerArguments action intent.timerMinutes
  Async.tryCatch
    (do
      let result ← await (.timerTool action arguments.1 arguments.2)
      publishData (.obj [("type", .str "TIMER_UPDATE"), ("action", .str action.name),
        ("data", (Option.map timerFields result).getD .null)])
      speakThen requestId (timerMessage action arguments.1 arguments.2 result) .armed)
    fun _ => do
      perform (.logError .timerCommand)
      speakAndPublish requestId "타이머 처리 중 오류가 발생했습니다." false
      setBotState .armed

/-! ## Opinions -/

/-- `buildConversationContext`. -/
def buildConversationContext (history : List ConversationTurn) (currentText : String) : String :=
  String.join ((history.drop (history.length - 5)).map fun turn =>
    (if turn.speaker.isSome then "참여자" else "아우라") ++ ": " ++ turn.content ++ "\n") ++
  "참여자: " ++ currentText

/-- `checkAndOfferOpinion`; its result only decides what is logged. -/
def checkAndOfferOpinion (env : Env) (requestId : ℕ) (currentText userId : String) : Prog Unit := do
  let s ← get
  let conversationContext := buildConversationContext s.conversationHistory currentText
  if !env.opinionEnabled then pure ()
  else if jsLength conversationContext < 20 then pure ()
  else
    Async.tryCatch
      (do
        let result ← await (.analyzeAndRespond conversationContext userId)
        match result.shouldSpeak, truthyText result.response with
        | true, some response => do
          speakThen requestId response .sleep
          match result.evidence with
          | none => pure ()
          | some evidence => publishData evidence
        | _, _ => pure ())
      fun _ => perform (.logError .opinion)

/-! ## The agent -/

/-- `shouldUseAgentMode`. -/
def shouldUseAgentMode (env : Env) (text : String) (intent : IntentAnalysis) : Bool :=
  if env.isAmbiguous text then true
  else if ["날씨", "맛집", "카페", "술집", "뉴스", "주식", "스포츠"].any fun c =>
      intent.category = some c then false
  else if intent.hasCommandWord then false
  else if 3 ≤ jsLength (intent.extractedKeyword.getD "") then false
  else (truthyText intent.category).isNone && (truthyText intent.extractedKeyword).isNone

/-- `updateConversationHistory`. -/
def updateConversationHistory (env : Env) (now : ℕ) (history : List ConversationTurn)
    (userMessage botResponse userId : String) : List ConversationTurn :=
  let recent := history.filter fun turn => now - turn.timestamp < 300000
  let said := env.cleanForHistory userMessage
  let answered := env.cleanForHistory botResponse
  let turns := recent ++
    (if 3 ≤ jsLength said then [⟨said, now, some userId⟩] else []) ++
    (if 3 ≤ jsLength answered then [⟨answered, now, none⟩] else [])
  if 60 < turns.length then turns.drop (turns.length - 60) else turns

/-- The answer of the agent, once it is known. -/
def speakAgentAnswer (env : Env) (requestId : ℕ) (processedText userId : String)
    (decision : AgentDecision) (toolResult : ToolResult) (response : String) : Prog Unit := do
  let s ← get
  if s.currentRequestId ≠ requestId then pure ()
  else do
    perform (.setConversationHistory
      (updateConversationHistory env s.now s.conversationHistory processedText response userId))
    if toolResult.searchResults ≠ [] then
      publishData (.obj [("type", .str "search_answer"), ("text", .str response),
        ("category", .str (if decision.tool = "search_local" then "장소" else "검색")),
        ("results", .arr toolResult.searchResults)])
    perform (.setShouldInterrupt false)
    setBotState .speaking
    speakAndPublish requestId response false
    setBotState .sleep
    perform (.setActiveUserId none)
    perform (.touch .lastResponse)

/-- `processWithAgent`. -/
def processWithAgent (env : Env) (requestId : ℕ) (processedText userId : String) : Prog Unit :=
  Async.tryCatch
    (do
      let s ← get
      let decision ← await (.agentDecide processedText s.conversationHistory)
      let toolResult ← await (.executeTool decision processedText)
      let response ← await (.generateResponse processedText decision toolResult)
      speakAgentAnswer env requestId processedText userId decision toolResult response)
    fun _ => do
      perform (.logError .agent)
      setBotState .speaking
      speakAndPublish requestId "죄송해요, 잠시 문제가 생겼어요." false
      setBotState .sleep
      perform (.setActiveUserId none)

/-! ## The search answer -/

/-- An element of a list of phrases. -/
def pick (phrases : List String) (random : ℕ) : String := phrases.getD (random % phrases.length) ""

/-- `getThinkingPhrase`. -/
def getThinkingPhrase (category : Option String) (random : ℕ) : String :=
  let category := category.getD ""
  if category = "날씨" then pick ["어 잠깐만요~", "날씨 볼게요~"] random
  else if ["카페", "맛집", "술집", "분식", "치킨", "피자", "빵집", "디저트", "쇼핑"].any fun c =>
      category = c then pick ["어디 좋을까... 잠깐만요", "음 찾아볼게요~", "어 잠깐요~"] random
  else if ["뉴스", "주식", "스포츠"].any fun c => category = c then
    pick ["어 잠깐 볼게요~", "음..."] random
  else if category = "백과" then pick ["음 그거...", "어 잠깐만요~"] random
  else pick ["음...", "어 잠깐요~", "잠깐만요~"] random

/-- `thinkingTask`, from the end of its 700 ms on. How it ends is what its promise is settled
with. -/
def thinkingTask (t : Thinking) : Prog Unit :=
  Async.onExit
    (do
      perform (.fireThinking t)
      let s ← get
      if t.parent ∈ s.llmResolved ∨ s.currentRequestId ≠ t.requestId then pure ()
      else do
        setBotState .speaking
        perform (.speakThinking t.parent)
        speakAndPublish t.requestId t.phrase false
        setBotState .armed)
    fun result => perform (.endThinking t.parent result)

/-- The message with the search results, sent to the hosts only in the host mode. -/
def sendSearchResults (finalResponse : String) (category : Option String) (results : List JsVal) :
    Prog Unit :=
  match results with
  | [] => pure ()
  | primary :: _ => do
    let route ← await (.getRouteInfo primary)
    let s ← get
    let message : JsVal := .obj
      [("type", .str (if s.modes.hostOnlyMode then "AI_TEXT_RESPONSE" else "search_answer")),
        ("text", .str finalResponse), ("category", jsText category), ("results", .arr results),
        ("route", Option.getD route .null), ("timestamp", jsNat s.now)]
    if s.modes.hostOnlyMode && !s.modes.hostIdentities.isEmpty then
      await (.publishData message (some s.modes.hostIdentities))
    else publishData message

/-- The sources of an answer, for the document panel. -/
def sendDocuments (processedText : String) (sources : List (String × Option String)) : Prog Unit :=
  if sources = [] then pure ()
  else
    publishData (.obj [("type", .str "AI_DOCUMENT_SHOW"),
      ("keyword", .str (jsTake 30 processedText)),
      ("documents", .arr (sources.map fun source => .obj
        [("content", .str source.1),
          ("sourceFile", .str (match source.2 with
            | some speaker => if speaker = "" then "회의 기록" else speaker ++ "의 발언"
            | none => "회의 기록"))]))])

/-- The answer of the search, once it is known. -/
def speakSearchAnswer (me requestId : ℕ) (processedText : String) (category : Option String)
    (llmResult : LlmResult) : Prog Unit := do
  let s ← get
  if s.currentRequestId ≠ requestId then pure ()
  else do
    let finalResponse :=
      if me ∈ s.thinkingSpoken then pick ["", "아 ", "어 "] s.random ++ jsTrim llmResult.text
      else llmResult.text
    sendSearchResults finalResponse category llmResult.searchResults
    sendDocuments processedText llmResult.ragSources
    perform (.setShouldInterrupt false)
    setBotState .speaking
    let s ← get
    speakAndPublish requestId finalResponse
      (llmResult.searchResults ≠ [] && s.modes.hostOnlyMode)
    setBotState .sleep
    perform (.setActiveUserId none)
    perform (.touch .lastResponse)

/-- The LLM call with its "thinking" announcement, which the host mode does without. -/
def searchAndAnswer (me requestId : ℕ) (processedText : String)
    (searchDomain category : Option String) :
    Prog Unit := do
  let s ← get
  let announced := !s.modes.hostOnlyMode
  if announced then
    perform (.armThinking ⟨me, requestId, getThinkingPhrase category s.random⟩)
  let llmResult ← Async.onExit (await (.sendMessage processedText searchDomain)) fun r => do
    perform (.resolveLlm me)
    Async.ofExcept r
  if announced then await (.thinkingTask me)
  speakSearchAnswer me requestId processedText category llmResult

/-! ## The conversation -/

/-- Whether the utterance asks or orders something. -/
def hasQuestion (intent : IntentAnalysis) (searchKeyword : Option String) : Bool :=
  intent.isQuestionIntent || intent.hasCommandWord || intent.hasRequestPattern ||
    2 ≤ jsLength (searchKeyword.getD "")

/-- The armed bot: a command of the active user is carried out. -/
def processCommand (env : Env) (me requestId : ℕ) (userId : String) (intent : IntentAnalysis)
    (voice : VoiceIntent) : Prog Unit := do
  let s ← get
  if s.botState ≠ .armed then pure ()
  else if (truthyText s.activeUserId).any (fun active => active ≠ userId) then pure ()
  else if !voice.shouldRespond && !intent.isBotRelated then pure ()
  else if !hasQuestion intent voice.searchKeyword then pure ()
  else do
    perform (.touch .lastInteraction)
    if shouldUseAgentMode env voice.correctedText intent then
      processWithAgent env requestId voice.correctedText userId
    else if jsLength (voice.searchKeyword.getD "") < 2 then do
      let plan ← await (.buildSearchPlan voice.correctedText)
      searchAndAnswer me requestId voice.correctedText intent.searchDomain
        ((truthyText plan.category).or voice.category)
    else searchAndAnswer me requestId voice.correctedText intent.searchDomain voice.category

/-- The sleeping bot: without the wake word it may offer an opinion, with it it is armed. -/
def processWakeWord (env : Env) (me requestId : ℕ) (userId : String) (intent : IntentAnalysis)
    (voice : VoiceIntent) : Prog Unit := do
  let s ← get
  if s.botState ≠ .sleep then processCommand env me requestId userId intent voice
  else if !voice.shouldRespond then
    if s.modes.perplexityModeActive then pure ()
    else checkAndOfferOpinion env requestId voice.correctedText userId
  else do
    setBotState .armed
    perform (.setActiveUserId (some userId))
    perform (.touch .lastInteraction)
    if hasQuestion intent voice.searchKeyword then
      processCommand env me requestId userId intent voice
    else speakThen requestId "네, 무엇을 도와드릴까요?" .armed

/-- The wake word decision, corrected by the LLM where the classifier is not sure. -/
def decideToRespond (env : Env) (me requestId : ℕ) (userId transcript : String)
    (intent : IntentAnalysis) : Prog Unit := do
  let s ← get
  let shouldRespond := intent.isCallIntent && s.modes.wakeWordEnabled
  if !shouldRespond && intent.needsLlmCorrection then do
    let voice ← await (.processVoiceIntent transcript)
    processWakeWord env me requestId userId intent voice
  else
    processWakeWord env me requestId userId intent
      ⟨shouldRespond, intent.normalizedText, intent.extractedKeyword, intent.category⟩

/-- The commands that open a board, make an appointment or concern the timer. -/
def processIntent (env : Env) (me requestId : ℕ) (userId transcript : String)
    (intent : IntentAnalysis) : Prog Unit :=
  if intent.isCallIntent && intent.isIdeaBoardIntent then openIdeaBoard requestId
  else if intent.isCallIntent && intent.isFlowchartIntent then openFlowchartBoard requestId userId
  else if intent.isCallIntent && intent.isCalendarIntent then recommendSchedule env requestId
  else if intent.isCallIntent && intent.isTimerIntent then commandTimer requestId intent
  else decideToRespond env me requestId userId transcript intent

/-- `STOP_WORDS`. -/
def stopWords : List String := ["멈춰", "그만", "스톱", "중지"]

/-- The body of the `try` block of `processAndRespond`. -/
def answer (env : Env) (me requestId : ℕ) (userId transcript : String) : Prog Unit := do
  let s ← get
  let intent := env.classify transcript
  let hasStopWord := stopWords.any fun w => jsIncludes intent.normalizedText w
  if s.modes.ideaModeActive then detectAndBroadcastIdea env transcript userId
  else if s.modes.flowchartModeActive && s.modes.flowchartContext.isSome && intent.isCallIntent then
    answerOnBoard requestId transcript
      (env.buildFlowchartContextPrompt (s.modes.flowchartContext.getD .null)) "플로우차트"
  else if s.modes.designModeActive && intent.isCallIntent then
    answerInDesignMode env requestId transcript
  else if jsLength (jsTrim transcript) ≤ 2 && !intent.isCallIntent && !hasStopWord then pure ()
  else if s.botState ≠ .sleep && hasStopWord then do
    setBotState .speaking
    speakAndPublish requestId "알겠습니다. 다시 불러주세요." false
    setBotState .sleep
    perform (.setActiveUserId none)
    perform (.touch .lastResponse)
  else if intent.isCallIntent && intent.isVisionIntent && s.hasActiveScreenShare then do
    let visionHandled ← processVisionIntent intent.normalizedText userId
    if visionHandled then perform (.touch .lastSpeech)
    else processIntent env me requestId userId transcript intent
  else processIntent env me requestId userId transcript intent

/-- The part of `processAndRespond` that `isPublishing` protects. -/
def respond (env : Env) (me : ℕ) (userId transcript : String) : Prog Unit := do
  let s ← get
  if s.isPublishing then pure ()
  else if s.isVisionMode then pure ()
  else if 0 < s.lastResponseTime ∧ s.now - s.lastResponseTime < 3000 then pure ()
  else do
    let requestId := s.now
    perform (.setCurrentRequestId ⟨me, requestId, .utterance⟩)
    Async.andFinally
      (Async.tryCatch
        (do
          setPublishing true
          answer env me requestId userId transcript)
        fun _ => do
          perform (.logError .respond)
          setBotState .sleep
          perform (.setActiveUserId none))
      (do
        let s ← get
        if s.currentRequestId = requestId then setPublishing false)

/-- The spoken intervention on a transcript in the perplexity mode. -/
def interveneOnTranscript (me : ℕ) (response : String) : Prog Unit := do
  let s ← get
  let requestId := s.now
  perform (.setCurrentRequestId ⟨me, requestId, .transcript⟩)
  setPublishing true
  setBotState .speaking
  Async.andFinally (speakAndPublish requestId response false)
    (do
      setBotState .armed
      setPublishing false
      perform (.touch .lastResponse))

/-- `processAndRespond` after the transcription. -/
def processTranscript (env : Env) (me : ℕ) (userId : String) (stt : SttResult) : Prog Unit := do
  let s ← get
  if jsTrim stt.corrected = "" then pure ()
  else if s.modes.perplexityModeActive then do
    let result ← await (.handleMessage "TRANSCRIPT"
      (.obj [("participantId", .str userId), ("text", .str (jsTrim stt.corrected))]) userId)
    let s ← get
    match truthyText (result.bind PerplexityResult.response) with
    | some response =>
      if !s.isPublishing && s.botState ≠ .speaking then interveneOnTranscript me response
      else respond env me userId stt.corrected
    | none => respond env me userId stt.corrected
  else respond env me userId stt.corrected

/-- `processAndRespond`. -/
def processAndRespond (env : Env) (me : ℕ) (utterance : Utterance) : Prog Unit := do
  let s ← get
  if s.modes.standbyMode then pure ()
  else
    Async.onExit (await (.transcribe utterance.userId)) fun r =>
      match r with
      | .error _ => perform (.logError .stt)
      | .ok stt => processTranscript env me utterance.userId stt

/-! ## Screen captures: the response -/

/-- `resetVisionState`. -/
def resetVisionState : Prog Unit := do
  setBotState .sleep
  perform (.setVisionMode false)
  perform (.setPendingVisionRequest none)

/-- The wait for the processing lock, in at most `n` steps of 100 ms. -/
def waitForLock : ℕ → Prog Unit
  | 0 => pure ()
  | n + 1 => do
    let s ← get
    if s.processingLock then do
      await (.sleep 100)
      waitForLock n
    else pure ()

/-- `validateAndCompressImage`: at most 5 MB. -/
def validImage (env : Env) (image : String) : Bool :=
  jsLength (env.base64Data image) * 3 ≤ 5 * 1024 * 1024 * 4

/-- The analysis of a capture, inside the `try` block. -/
def analyzeCapture (env : Env) (pending : VisionRequest) (image : String) : Prog Unit :=
  if !validImage env image then
    speakAndPublish pending.requestId "화면을 캡처하는데 문제가 있어요. 다시 한번 말씀해주세요." false
  else do
    setBotState .speaking
    perform (.touch .speakingStart)
    let s ← get
    if !s.modes.hostOnlyMode then
      speakAndPublish pending.requestId
        (pick ["잠깐 볼게요~", "한번 볼게요", "잠깐만요~"] s.random) false
    perform (.analyze pending.requestId)
    let result ← await (.analyzeScreenShare (env.base64Data image) pending.userQuestion)
    publishData (.obj [("type", .str "vision_result"), ("requestId", jsNat pending.requestId),
      ("analysisType", .str result.analysisType), ("text", .str result.text)])
    speakAndPublish pending.requestId result.text false

/-- `handleVisionCaptureResponse` from the lock on. The size of the image is logged before the
`try` block, which throws if there is no image. -/
def processCapture (env : Env) (me : ℕ) (message : CaptureResponse) (pending : VisionRequest) :
    Prog Unit := do
  perform (.setProcessingLock true)
  setPublishing true
  perform (.setCurrentRequestId ⟨me, pending.requestId, .vision⟩)
  match message.imageBase64 with
  | none => Async.throw "Cannot read properties of undefined (reading 'length')"
  | some image =>
    Async.andFinally
      (Async.tryCatch (analyzeCapture env pending image) fun _ => do
        perform (.logError .vision)
        Async.tryCatch
          (speakAndPublish pending.requestId
            "화면 분석 중에 문제가 생겼어요. 다시 한번 해볼게요." false)
          fun _ => perform (.logError .visionSpeech))
      (do
        resetVisionState
        perform (.touch .lastResponse)
        perform (.touch .lastSpeech)
        setPublishing false
        perform (.setProcessingLock false))

/-- `handleVisionCaptureResponse`. -/
def handleVisionCaptureResponse (env : Env) (me : ℕ) (message : CaptureResponse) : Prog Unit := do
  let s ← get
  match s.pendingVisionRequest with
  | none => pure ()
  | some pending =>
    if message.requestId ≠ some pending.requestId then pure ()
    else if s.processingLock then do
      waitForLock 20
      let s ← get
      if s.processingLock then resetVisionState
      else processCapture env me message pending
    else processCapture env me message pending

/-! ## Explanations of diagrams -/

/-- `typeLabels`. -/
def typeLabel (type : String) : String :=
  if type = "flowchart" then "플로우차트"
  else if type = "erd" then "ERD"
  else if type = "sequence" then "시퀀스 다이어그램"
  else if type = "architecture" then "아키텍처 다이어그램"
  else type

/-- The explanation of the first diagram, empty if it has no code. -/
def explainFirst (diagrams : Diagrams) : Prog String :=
  let firstType := diagrams.types.headD ""
  match diagrams.mermaidCodes.find? fun c => c.1 = firstType with
  | none => pure ""
  | some (_, code) =>
    if code = "" then pure ""
    else
      await (.sendMessagePure ("다음 " ++ typeLabel firstType ++
        " 다이어그램을 2문장으로 아주 간결하게 설명해주세요. 기술적인 내용 위주로 말해주세요.\n\n" ++
        "다이어그램 코드:\n" ++ jsTake 500 code ++ "\n\n설명:") 150)

/-- `explainGeneratedDiagrams`, with the assignment of the handler that calls it. -/
def explainGeneratedDiagrams (me : ℕ) (diagrams : Diagrams) : Prog Unit := do
  let s ← get
  if !s.modes.designModeActive || diagrams.types = [] then pure ()
  else do
    perform (.setModes { s.modes with pendingDiagramExplanation := some diagrams })
    if s.isPublishing then pure ()
    else do
      let requestId := s.now
      perform (.setCurrentRequestId ⟨me, requestId, .diagrams⟩)
      Async.andFinally
        (Async.tryCatch
          (do
            setPublishing true
            setBotState .speaking
            let explanation ← explainFirst diagrams
            speakAndPublish requestId
              ("회의 내용을 분석해서 " ++ ", ".intercalate (diagrams.types.map typeLabel) ++
                "를 생성했어요." ++
                (if jsTrim explanation = "" then "" else " " ++ jsTrim explanation) ++
                " 다이어그램에 대해 더 궁금한 게 있으시면 질문해주세요.") false
            setBotState .armed
            perform (.touch .lastResponse))
          fun _ => perform (.logError .diagrams))
        (setPublishing false)

/-! ## Handlers without calls -/

/-- The handler of `AI_MUTE`. -/
def aiMute (muted : Bool) : Prog Unit := do
  perform (.setAiMuted muted)
  if muted then perform (.setShouldInterrupt true)

/-- The barge-in detection of `handleAudioTrack`, for a frame that is loud enough. -/
def bargeIn (userId : String) : Prog Unit := do
  let s ← get
  if s.isPublishing && s.botState = .speaking && 500 ≤ s.now - s.speakingStartTime &&
      !s.shouldInterrupt && (s.activeUserId = none || s.activeUserId = some userId) then
    perform (.setShouldInterrupt true)

/-- The 60 s watchdog of `handleAudioTrack`. -/
def publishingTimeout : Prog Unit := do
  let s ← get
  if s.isPublishing && 0 < s.publishingStartTime && 60000 < s.now - s.publishingStartTime then
    setPublishing false

/-- `startArmedTimeoutChecker`, one check. -/
def armedTimeout : Prog Unit := do
  let s ← get
  if s.botState = .armed && 30000 < s.now - s.lastInteractionTime then do
    setBotState .sleep
    perform (.setActiveUserId none)

/-- `enterStandbyMode`. -/
def enterStandbyMode : Prog Unit := do
  let s ← get
  if s.modes.standbyMode then pure ()
  else do
    perform (.setModes { s.modes with standbyMode := true })
    setBotState .sleep

/-- The start and the end of a screen share. -/
def screenShare (on : Bool) : Prog Unit := do
  perform (.setScreenShare on)
  if !on then perform (.setVisionMode false)

/-! ## The system -/

/-- The code of a flow. -/
def code (env : Env) (me : ℕ) : Flow → Prog Unit
  | .processAndRespond utterance => processAndRespond env me utterance
  | .thinking t => thinkingTask t
  | .timerNotify event data => timerNotify me event data
  | .handlePerplexityMessage type payload senderId =>
    handlePerplexityMessage me type payload senderId
  | .handleVisionCaptureResponse message => handleVisionCaptureResponse env me message
  | .explainGeneratedDiagrams diagrams => explainGeneratedDiagrams me diagrams
  | .clientReady isContinuedMeeting => clientReady isContinuedMeeting
  | .aiMute muted => aiMute muted
  | .bargeIn userId => bargeIn userId
  | .publishingTimeout => publishingTimeout
  | .armedTimeout => armedTimeout
  | .enterStandbyMode => enterStandbyMode
  | .screenShare on => screenShare on
  | .setModes modes => perform (.setModes modes)
  | .setParticipants participants => perform (.setParticipants participants)

/-- A flow can be called at any time; a `thinkingTask` goes on when its timer is pending. -/
def callable (s : RoomState) : Flow → Bool
  | .thinking t => t ∈ s.thinkingTimers
  | _ => true

/-- Timers do not fail, and `thinkingTask` is settled as it ended; other calls end in any way. -/
def ready (s : RoomState) : (op : Op) → Except String op.Reply → Bool
  | .frameTimer _, .error _ => false
  | .sleep _, .error _ => false
  | .thinkingTask task, reply =>
    s.thinkingEnded.any fun ended => ended.1 = task &&
      match ended.2, reply with
      | .ok _, .ok _ => true
      | .error a, .error b => a = b
      | _, _ => false
  | _, _ => true

/-- How the flows of a room run. -/
def runtime (env : Env) : Runtime Tick RoomState Act Op Op.Reply Flow where
  apply := Act.apply
  code := code env
  callable := callable
  tick t s := { s with now := t.now, later := t.later, random := t.random }
  ready := ready

/-- The pools of a room. -/
abbrev RoomPool := Pool RoomState Act Op Op.Reply Flow

/-- The events of a room. -/
abbrev RoomEvent := TaskEvent Tick Op Op.Reply Flow

/-- The system of the flows of a room. -/
def room (env : Env) : EventSystem RoomPool RoomEvent := (runtime env).system RoomState.initial

/-! ## A simple room

The runs that show what can happen need a classifier and the replies of the other services. -/

/-- The bot is called, and nothing else is said. -/
def IntentAnalysis.call : IntentAnalysis where
  isCallIntent := true
  isQuestionIntent := false
  isBotRelated := true
  isVisionIntent := false
  isIdeaBoardIntent := false
  isFlowchartIntent := false
  isCalendarIntent := false
  isTimerIntent := false
  timerAction := none
  timerMinutes := 0
  normalizedText := "아우라야"
  hasCommandWord := false
  hasRequestPattern := false
  searchDomain := none
  category := none
  extractedKeyword := none
  needsLlmCorrection := false

/-- The bot is called and asked about the screen. -/
def IntentAnalysis.look : IntentAnalysis := { IntentAnalysis.call with isVisionIntent := true }

/-- Services that find the given intent in every utterance. -/
def Env.simple (intent : IntentAnalysis) : Env where
  classify _ := intent
  isDiagramRelatedQuestion _ := false
  buildFlowchartContextPrompt _ := ""
  ideaContent _ := none
  isAmbiguous _ := false
  cleanForHistory text := text
  opinionEnabled := false
  base64Data image := image
  localIdentity := "ai-bot"

/-- Speech recognition, synthesis, messages and timers work; a spoken text has two frames. -/
def speechReplies : (op : Op) → Except String op.Reply
  | .transcribe _ => .ok ⟨"아우라야", "아우라야"⟩
  | .publishData _ _ => .ok ()
  | .synthesizePcm _ _ => .ok (List.replicate 1000 0)
  | .announce _ _ => .ok ()
  | .frameTimer _ => .ok ()
  | .sleep _ => .ok ()
  | .thinkingTask _ => .ok ()
  | _ => .error "unavailable"

/-- The speech synthesis fails, the rest works. -/
def brokenSpeechReplies : (op : Op) → Except String op.Reply
  | .synthesizePcm _ _ => .error "TTS"
  | op => speechReplies op

/-- The host has switched the wake word and the voice on. -/
def Modes.talkative : Modes :=
  { Modes.initial with wakeWordEnabled := true, speakingEnabled := true }

end VoiceBot
