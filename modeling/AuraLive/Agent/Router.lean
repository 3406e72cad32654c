import AuraLive.Agent.Proactive
import AuraLive.Foundations.Requests
import AuraLive.Foundations.Unicode
import AuraLive.Search.Service

set_option relaxedAutoImplicit false
set_option autoImplicit false

/-!
# The agent router

`agent/agent-router.service.ts` answers an utterance in three steps: it decides on a tool, by
patterns or by asking a language model; it executes the tool, which may search, ask the record of
the meeting or ask back; and it has the language model say the result. Many utterances are answered
at a time.

## Main definitions

* `Router.queryMeetingPatterns`, `matchPatternForTool` — the utterances that refer back.
* `Router.executeTool`, `promptFor` — what a tool does first, and the prompt for its result.
* `Router.Call`, `turn`, `router` — an utterance, and what happens at each reply.
* `Router.Decides`, `Searches`, `Obtained` — how a decision, a query and a result come about.
* `Router.Justified` — what the steps of an utterance and its answer rest on.

## Main results

* `Router.matchPatternForTool_append` — what refers back does so in any sentence.
* `Router.answers_justified` — every answer is that of one tool, and rests on what it has found.

## Design

* **Surroundings.** The conversation goes on while an utterance is answered, and the connection of
  the room comes and goes; each reply says how they are when it comes.
* **Parameters.** The model may give any JSON value for them. Where the interpretations are one
  character of two code units, the character stands for the first of its halves.
* **Prompts.** A prompt consists of what is put into it; its instructions are left out.
-/

namespace Router

open Foundations Regex VoiceBot Search

/-! ## Patterns -/

/-- `\s`. -/
def isSpaceUnit (n : ℕ) : Bool :=
  (9 ≤ n ∧ n ≤ 13) || n = 0x20 || n = 0xA0 || n = 0x1680 || (0x2000 ≤ n ∧ n ≤ 0x200A) ||
    n = 0x2028 || n = 0x2029 || n = 0x202F || n = 0x205F || n = 0x3000 || n = 0xFEFF

/-- `\s*`. -/
def someSpaces : Regex ℕ := .star (.char isSpaceUnit)

/-- `.{0,n}`: at most so many code units on one line. -/
def upTo (n : ℕ) : Regex ℕ :=
  .concat (List.replicate n (.opt (.char fun u => u ≠ 10 ∧ u ≠ 13 ∧ u ≠ 0x2028 ∧ u ≠ 0x2029)))

/-- One of some words. -/
def oneOfTexts (ws : List String) : Regex ℕ := oneOfWords (ws.map utf16)

/-- `queryMeetingPatterns`. -/
def queryMeetingPatterns : List (Regex ℕ) :=
  [.concat [.oneOf [oneOfTexts ["방금", "아까", "전에", "이전에", "저번에"],
        .concat [oneOfTexts ["좀"], someSpaces, oneOfTexts ["전에"]]], upTo 10,
      oneOfTexts ["물어", "질문", "말한", "말씀", "대답", "답변", "얘기", "이야기", "설명"]],
    .concat [oneOfTexts ["방금", "아까", "전에", "이전에", "저번에"], upTo 10,
      oneOfTexts ["했던", "한"], someSpaces, oneOfTexts ["거", "것", "게"]],
    .concat [oneOfTexts ["뭐라"], .opt (oneOfTexts ["고"]), someSpaces,
      oneOfTexts ["했", "한", "하셨"]],
    .concat [oneOfTexts ["뭐"], oneOfTexts ["였", "더라", "였더라", "야", "예요", "에요"]],
    .concat [oneOfTexts ["방금", "아까", "전에", "이전에"], upTo 5,
      oneOfTexts ["그거", "그게", "그것"]],
    .concat [.oneOf [oneOfTexts ["다시"], .concat [oneOfTexts ["한번"], someSpaces, oneOfTexts ["더"]],
        .concat [oneOfTexts ["다시"], someSpaces, oneOfTexts ["한번"]]], upTo 5,
      oneOfTexts ["말해", "알려", "설명해"]],
    .concat [oneOfTexts ["아까", "방금", "전에"], upTo 5, oneOfTexts ["그"], someSpaces,
      oneOfTexts ["얘기", "이야기", "내용", "질문", "대화"]]]

/-- One of the patterns is in the text. -/
def refersBack (text : String) : Bool :=
  queryMeetingPatterns.any fun pattern => (pattern.exec (utf16 text)).isSome

/-! ## Decisions -/

/-- `AgentDecision`, with whatever the model has given. -/
structure AgentDecision where
  tool : String
  params : Option JsVal

/-- `matchPatternForTool`. -/
def matchPatternForTool (text : String) : Option AgentDecision :=
  if refersBack text then some ⟨"query_meeting", some (.obj [("question", .str text)])⟩ else none

/-- The decision when the model makes none. -/
def defaultDecision : AgentDecision :=
  ⟨"direct_response", some (.obj [("response_type", .str "chat")])⟩

/-- The decision in the reply of the model: its first use of a tool, if there is one; `none` if
there is no reply. -/
def decisionOf (reply : Option (Option AgentDecision)) : AgentDecision :=
  (reply.bind id).getD defaultDecision

/-! ## Tools -/

/-- `MeetingSource`. -/
structure MeetingSource where
  text : String
  speaker : Option String

/-- What `executeTool` returns. -/
structure ToolResult where
  result : String
  searchResults : Option (List SearchResult) := none
  meetingSources : Option (List MeetingSource) := none

/-- What a tool does first. -/
inductive Execution where
  | done (result : ToolResult)
  | search (searchType : SearchType) (query : String)
  | meeting (question : Option JsVal)

/-- What the language does. -/
structure Env where
  rt : Proactive.Runtime
  /-- The message when a property is read of `undefined` or `null`. -/
  readError : Option JsVal → String → String
  /-- The message when an object cannot be converted to a string. -/
  conversionError : String
  /-- The message when an expression that is called is no function. -/
  callError : String → String
  /-- Whether a string is at least `2`, as a number. -/
  atLeastTwo : String → Bool

section Tools

variable (env : Env)

/-- `decision.params.name`, or the message of what is thrown. -/
def param (params : Option JsVal) (name : String) : Except String (Option JsVal) :=
  match params with
  | none => .error (env.readError none name)
  | some .null => .error (env.readError (some .null) name)
  | some v => .ok (v.field name)

/-- The text of a value or `undefined`. -/
def textOf (v : Option JsVal) : Option String :=
  match v with
  | none => some "undefined"
  | some v => Proactive.textOf env.rt v

/-- What is said when a tool throws. -/
def toolError (message : String) : Execution :=
  .done ⟨"도구 실행 중 오류가 발생했습니다: " ++ message, none, none⟩

/-- `executeWebSearch`, up to the search. -/
def executeWebSearch (query : Option JsVal) : Execution :=
  match textOf env query with
  | none => .done ⟨"검색 중 오류가 발생했습니다.", none, none⟩
  | some query => .search (.naver .web) query

/-- `executeLocalSearch`, up to the search. -/
def executeLocalSearch (query location : Option JsVal) : Execution :=
  let searchQuery :=
    if JsVal.truthy location then
      (textOf env location).bind fun location => (textOf env query).map (location ++ " " ++ ·)
    else textOf env query
  match searchQuery with
  | none => .done ⟨"장소 검색 중 오류가 발생했습니다.", none, none⟩
  | some searchQuery => .search (.naver .localSearch) searchQuery

/-- `clarificationPhrases`. -/
def clarificationPhrases : List String :=
  ["음, 조금 더 구체적으로 말씀해주시겠어요?", "어떤 걸 말씀하시는 건지 잘 모르겠어요.",
    "혹시 무엇에 대해 물어보시는 건가요?", "조금 더 자세히 설명해주시면 좋겠어요."]

/-- The question for two interpretations. -/
def eitherOr (a b : String) : String :=
  "혹시 " ++ (a ++ "에 대해 물어보시는 건가요, 아니면 " ++ b ++ "인가요?")

/-- `v >= 2` for any value or `undefined`, `none` if it throws. -/
def isAtLeastTwo : Option JsVal → Option Bool
  | none => some false
  | some .null => some false
  | some (.bool _) => some false
  | some (.num q) => some (decide (2 ≤ q))
  | some (.str s) => some (env.atLeastTwo s)
  | some (.arr l) => (Proactive.textOf env.rt (.arr l)).map env.atLeastTwo
  | some (.obj fields) => (Proactive.textOf env.rt (.obj fields)).map env.atLeastTwo

/-- `v === 2`. -/
def isTwo : Option JsVal → Bool
  | some (.num q) => q = 2
  | _ => false

/-- The question for two interpretations of any shape. -/
def eitherOrOf (a b : Option JsVal) : Except String String :=
  match textOf env a, textOf env b with
  | some a, some b => .ok (eitherOr a b)
  | _, _ => .error env.conversionError

/-- `generateClarificationResponse`, with the number of the phrase that chance picks: the response,
or the message of what is thrown. -/
def generateClarificationResponse (interpretations : Option JsVal) (pick : Fin 4) :
    Except String String :=
  let phrase := clarificationPhrases.getD pick ""
  match interpretations with
  | some (.arr [a, b]) => eitherOrOf env (some a) (some b)
  | some (.arr (a :: b :: c :: rest)) =>
    let all := a :: b :: c :: rest
    match Proactive.textsOf env.rt all.dropLast, textOf env all.getLast? with
    | some firsts, some last =>
      .ok ("혹시 " ++ (", ".intercalate firsts ++ " 중에 어떤 건가요? 아니면 " ++ last ++ "인가요?"))
    | _, _ => .error env.conversionError
  | some (.str text) =>
    if jsLength text = 2 then
      -- the two code units of the text
      .ok (eitherOr (String.ofList (text.toList.take 1)) (String.ofList (text.toList.drop 1)))
    else if 2 < jsLength text then .error (env.callError "interpretations.slice(...).join")
    else .ok phrase
  | some (.obj fields) =>
    -- an object may have a length of its own, and what stands under `0` and `1`
    let interpretations := JsVal.obj fields
    match isAtLeastTwo env (interpretations.field "length") with
    | none => .error env.conversionError
    | some false => .ok phrase
    | some true =>
      if isTwo (interpretations.field "length") then
        eitherOrOf env (interpretations.field "0") (interpretations.field "1")
      else .error (env.callError "interpretations.slice")
  | _ => .ok phrase

/-- `executeTool`, up to its first `await`. -/
def executeTool (pick : Fin 4) (decision : AgentDecision) : Execution :=
  match decision.tool with
  | "search_web" =>
    match param env decision.params "query" with
    | .error message => toolError message
    | .ok query => executeWebSearch env query
  | "search_local" =>
    match param env decision.params "query", param env decision.params "location" with
    | .ok query, .ok location => executeLocalSearch env query location
    | .error message, _ => toolError message
    | _, .error message => toolError message
  | "query_meeting" =>
    match param env decision.params "question" with
    | .error message => toolError message
    | .ok question => .meeting question
  | "ask_clarification" =>
    match param env decision.params "possible_interpretations" with
    | .error message => toolError message
    | .ok interpretations =>
      match generateClarificationResponse env interpretations pick with
      | .error message => toolError message
      | .ok response => .done ⟨response, none, none⟩
  | _ => .done ⟨"", none, none⟩

end Tools

/-- The numbered lines of a summary. -/
def numbered (lines : List String) : String :=
  "\n".intercalate (lines.zipIdx.map fun (line, i) => toString (i + 1) ++ ". " ++ line)

/-- The line of a page that has been found. -/
def pageLine (r : SearchResult) : String := r.title ++ ": " ++ jsTake 100 r.content

/-- The line of a place that has been found. -/
def placeLine (r : SearchResult) : String :=
  r.title ++ match truthyText r.address with
    | some address => " (" ++ address ++ ")"
    | none => ""

/-- The end of `executeWebSearch`; `none` if the search throws. -/
def webResult (results : Option (List SearchResult)) : ToolResult :=
  match results with
  | none => ⟨"검색 중 오류가 발생했습니다.", none, none⟩
  | some [] => ⟨"검색 결과가 없습니다.", none, none⟩
  | some results => ⟨numbered ((results.take 3).map pageLine), some results, none⟩

/-- The end of `executeLocalSearch`. -/
def localResult (results : Option (List SearchResult)) : ToolResult :=
  match results with
  | none => ⟨"장소 검색 중 오류가 발생했습니다.", none, none⟩
  | some [] => ⟨"주변 장소를 찾을 수 없습니다.", none, none⟩
  | some results => ⟨numbered ((results.take 3).map placeLine), some results, none⟩

/-- The end of a search. -/
def searchResult (searchType : SearchType) (results : Option (List SearchResult)) : ToolResult :=
  if searchType = .naver .localSearch then localResult results else webResult results

/-- The end of `executeMeetingQuery`; `none` if there is an error. -/
def meetingResult (response : Option (String × List MeetingSource)) : ToolResult :=
  match response with
  | none => ⟨"회의 내용 조회 중 오류가 발생했습니다.", none, none⟩
  | some (answer, sources) => ⟨answer, none, some sources⟩

/-- What is said without a connection. -/
def noConnection : ToolResult := ⟨"회의 기록에 접근할 수 없습니다.", none, none⟩

/-! ## Prompts -/

/-- `ConversationTurn`. -/
structure ConversationTurn where
  isUser : Bool
  content : String
  speaker : Option String

/-- `buildHistoryContext`. -/
def buildHistoryContext (history : List ConversationTurn) : String :=
  if history = [] then "[대화 기록 없음]"
  else
    "[대화 기록 (" ++ toString history.length ++ "턴)]\n" ++
      "\n".intercalate (history.map fun turn =>
        (if turn.isUser then (truthyText turn.speaker).getD "사용자" else "아우라") ++ ": " ++
          turn.content)

/-- `sourcesText`. -/
def sourcesText (sources : List MeetingSource) : String :=
  numbered (((sources.filter (·.text ≠ "")).take 3).map fun s =>
    (truthyText s.speaker).getD "참여자" ++ ": \"" ++ s.text ++ "\"")

/-- What is put into a prompt. -/
inductive Prompt where
  /-- Which tool? -/
  | choose (history : String) (title screen : Option String) (userMessage : String)
  | direct (history : String) (screen : Option String) (userMessage : String)
  | factCheck (history : String) (screen : Option String) (userMessage ragAnswer sources : String)
  | result (history : String) (screen : Option String) (userMessage result : String)

/-- An utterance in a room, with the text on the screen. -/
structure Utterance where
  roomId : String
  userMessage : String
  screenContext : Option String

/-- The prompt of `decide`. -/
def choosePrompt (u : Utterance) (history : List ConversationTurn) : Prompt :=
  .choose (buildHistoryContext history) (truthyText (some u.roomId)) (truthyText u.screenContext)
    u.userMessage

/-- The prompt of `generateResponse`. -/
def promptFor (u : Utterance) (decision : AgentDecision) (result : ToolResult)
    (history : List ConversationTurn) : Prompt :=
  let history := buildHistoryContext history
  let screen := truthyText u.screenContext
  if decision.tool = "direct_response" ∨ result.result = "" then
    .direct history screen u.userMessage
  else if decision.tool = "query_meeting" ∧ (result.meetingSources.getD []) ≠ [] then
    .factCheck history screen u.userMessage result.result
      (sourcesText (result.meetingSources.getD []))
  else .result history screen u.userMessage result.result

/-- `callLlmPure`, from the reply on: the text of the first block of text, if there is one; `none`
if there is no reply. -/
def callLlmPure (reply : Option (Option String)) : String :=
  match reply with
  | none => "죄송합니다, 응답을 생성하지 못했어요."
  | some text => (truthyText text).getD "응답을 생성할 수 없습니다."

/-! ## Utterances -/

/-- How things are when a reply comes: the conversation, whether the client of the room is
connected, and a number that chance picks. -/
structure Ambient where
  history : List ConversationTurn
  isConnected : Bool
  pick : Fin 4

/-- What an utterance waits for. -/
inductive Call where
  | begin (u : Utterance)
  | deciding (u : Utterance) (prompt : Prompt)
  | searching (u : Utterance) (decision : AgentDecision) (searchType : SearchType) (query : String)
  | connecting (u : Utterance) (decision : AgentDecision) (question : Option JsVal)
  | asking (u : Utterance) (decision : AgentDecision) (question : Option JsVal)
  | responding (u : Utterance) (decision : AgentDecision) (result : ToolResult) (prompt : Prompt)

/-- A reply; `none` if there is an error instead. -/
inductive Reply where
  /-- The utterance begins to be answered. -/
  | begin
  | decision (reply : Option (Option AgentDecision))
  | found (results : Option (List SearchResult))
  /-- `connect` has returned, or has failed. -/
  | connected
  | sources (response : Option (String × List MeetingSource))
  | text (reply : Option (Option String))

/-- What an utterance is answered. -/
structure Answer where
  utterance : Utterance
  decision : AgentDecision
  toolResult : ToolResult
  response : String

/-- The start of `generateResponse`. -/
def generateResponse (u : Utterance) (decision : AgentDecision) (result : ToolResult)
    (ambient : Ambient) : Call ⊕ Answer :=
  if decision.tool = "ask_clarification" then .inr ⟨u, decision, result, result.result⟩
  else .inl (.responding u decision result (promptFor u decision result ambient.history))

section Turns

variable (env : Env)

/-- `processWithAgent`, from the decision on: its tool is executed. -/
def processWithAgent (u : Utterance) (decision : AgentDecision) (ambient : Ambient) :
    Call ⊕ Answer :=
  match executeTool env ambient.pick decision with
  | .done result => generateResponse u decision result ambient
  | .search searchType query => .inl (.searching u decision searchType query)
  | .meeting question =>
    -- if the room is connected, it still is at the second test
    if ambient.isConnected then .inl (.asking u decision question)
    else .inl (.connecting u decision question)

/-- What happens at a reply. -/
def turn : Call → Reply × Ambient → Option (Call ⊕ Answer)
  | .begin u, (.begin, ambient) =>
    match matchPatternForTool u.userMessage with
    | some decision => some (processWithAgent env u decision ambient)
    | none => some (.inl (.deciding u (choosePrompt u ambient.history)))
  | .deciding u _, (.decision reply, ambient) =>
    some (processWithAgent env u (decisionOf reply) ambient)
  | .searching u decision searchType _, (.found results, ambient) =>
    some (generateResponse u decision (searchResult searchType results) ambient)
  | .connecting u decision question, (.connected, ambient) =>
    if ambient.isConnected then some (.inl (.asking u decision question))
    else some (generateResponse u decision noConnection ambient)
  | .asking u decision _, (.sources response, ambient) =>
    some (generateResponse u decision (meetingResult response) ambient)
  | .responding u decision result _, (.text reply, _) =>
    some (.inr ⟨u, decision, result, callLlmPure reply⟩)
  | _, _ => none

/-- The router. -/
def router : Handler Utterance Call (Reply × Ambient) Answer := ⟨Call.begin, turn env⟩

end Turns

/-- A reply, with what it came to and what it led to. -/
abbrev Step := Exchange Call (Reply × Ambient) Answer

/-! ## What is to hold -/

/-- A step makes a decision: the patterns do if one of them is in the text, and otherwise the reply
of the model does. -/
inductive Decides (x : Step) (u : Utterance) : AgentDecision → Prop where
  | pattern (call : x.call = .begin u) (back : refersBack u.userMessage = true) :
      Decides x u ⟨"query_meeting", some (.obj [("question", .str u.userMessage)])⟩
  | model {prompt : Prompt} {reply : Option (Option AgentDecision)}
      (call : x.call = .deciding u prompt) (replied : x.reply.1 = .decision reply)
      (back : refersBack u.userMessage = false) : Decides x u (decisionOf reply)

/-- A decision has been made. -/
def Decided (log : List Step) (n : ℕ) (u : Utterance) (decision : AgentDecision) : Prop :=
  ∃ x ∈ log, x.n = n ∧ Decides x u decision

/-- What a decision says is to be searched for, and where. -/
inductive Searches (env : Env) (decision : AgentDecision) : SearchType → String → Prop where
  | web {query : Option JsVal} {text : String} (tool : decision.tool = "search_web")
      (given : param env decision.params "query" = .ok query)
      (said : textOf env query = some text) : Searches env decision (.naver .web) text
  | anywhere {query location : Option JsVal} {text : String} (tool : decision.tool = "search_local")
      (given : param env decision.params "query" = .ok query)
      (given' : param env decision.params "location" = .ok location)
      (nowhere : JsVal.truthy location = false) (said : textOf env query = some text) :
      Searches env decision (.naver .localSearch) text
  | somewhere {query location : Option JsVal} {text place : String}
      (tool : decision.tool = "search_local")
      (given : param env decision.params "query" = .ok query)
      (given' : param env decision.params "location" = .ok location)
      (there : JsVal.truthy location = true) (said : textOf env query = some text)
      (said' : textOf env location = some place) :
      Searches env decision (.naver .localSearch) (place ++ " " ++ text)

/-- What a decision says is to be asked of the record of the meeting. -/
structure Asks (env : Env) (decision : AgentDecision) (question : Option JsVal) : Prop where
  tool : decision.tool = "query_meeting"
  param : param env decision.params "question" = .ok question

/-- The tools of the router that do something. -/
def toolNames : List String := ["search_web", "search_local", "query_meeting", "ask_clarification"]

/-- The results of a tool that has asked nobody: nothing, a question back, or an apology. -/
inductive Unasked (decision : AgentDecision) : String → Prop where
  | nothing (tool : decision.tool ∉ toolNames) : Unasked decision ""
  | clarification {result : String} (tool : decision.tool = "ask_clarification")
      (said : result ≠ "") : Unasked decision result
  | failed (tool : decision.tool ∈ toolNames) (message : String) :
      Unasked decision ("도구 실행 중 오류가 발생했습니다: " ++ message)
  | noQuery (tool : decision.tool = "search_web") : Unasked decision "검색 중 오류가 발생했습니다."
  | noPlace (tool : decision.tool = "search_local") :
      Unasked decision "장소 검색 중 오류가 발생했습니다."

/-- The result of a tool, as it has come about. -/
inductive Obtained (env : Env) (log : List Step) (n : ℕ) (u : Utterance)
    (decision : AgentDecision) : ToolResult → Prop where
  | unasked {result : String} (h : Unasked decision result) :
      Obtained env log n u decision ⟨result, none, none⟩
  | search {searchType : SearchType} {query : String} {results : Option (List SearchResult)}
      {ambient : Ambient} (searches : Searches env decision searchType query)
      (replied : Handler.Replied log n (.searching u decision searchType query)
        (.found results, ambient)) :
      Obtained env log n u decision (searchResult searchType results)
  | meeting {question : Option JsVal} {response : Option (String × List MeetingSource)}
      {ambient : Ambient} (asks : Asks env decision question)
      (replied : Handler.Replied log n (.asking u decision question) (.sources response, ambient)) :
      Obtained env log n u decision (meetingResult response)
  | offline {question : Option JsVal} {ambient : Ambient} (asks : Asks env decision question)
      (replied : Handler.Replied log n (.connecting u decision question) (.connected, ambient))
      (off : ambient.isConnected = false) : Obtained env log n u decision noConnection

/-- What an answer rests on. -/
structure Answered (env : Env) (log : List Step) (x : Step) (answer : Answer) : Prop where
  decided : Decided log x.n answer.utterance answer.decision
  obtained : Obtained env log x.n answer.utterance answer.decision answer.toolResult
  said : answer.response ≠ ""
  /-- The question back is the result itself; otherwise the model has been asked to say it. -/
  response :
    answer.decision.tool = "ask_clarification" ∧ answer.response = answer.toolResult.result ∨
    answer.decision.tool ≠ "ask_clarification" ∧ ∃ history reply,
      x.call = .responding answer.utterance answer.decision answer.toolResult
        (promptFor answer.utterance answer.decision answer.toolResult history) ∧
      x.reply.1 = .text reply ∧ answer.response = callLlmPure reply

/-- What a step rests on. -/
structure Justified (env : Env) (earlier : List Step) (x : Step) : Prop where
  /-- A search is what a decision just made says, and this one has not come from the patterns. -/
  searched : ∀ u decision searchType query,
    x.next = .inl (.searching u decision searchType query) →
      Decides x u decision ∧ Searches env decision searchType query ∧
        refersBack u.userMessage = false
  /-- The record is asked what a decision says, while `isConnected` is true. -/
  asked : ∀ u decision question, x.next = .inl (.asking u decision question) →
    Decided (x :: earlier) x.n u decision ∧ Asks env decision question ∧
      x.reply.2.isConnected = true
  /-- A connection is made while `isConnected` is false. -/
  connected : ∀ u decision question, x.next = .inl (.connecting u decision question) →
    x.reply.2.isConnected = false
  answered : ∀ answer, x.next = .inr answer → Answered env (x :: earlier) x answer

/-- What an utterance may wait for. -/
def Waits (env : Env) (log : List Step) (n : ℕ) : Call → Prop
  | .begin _ => True
  | .deciding u _ => refersBack u.userMessage = false
  | .searching u decision searchType query =>
    Decided log n u decision ∧ Searches env decision searchType query
  | .connecting u decision question | .asking u decision question =>
    Decided log n u decision ∧ Asks env decision question
  | .responding u decision result prompt => Decided log n u decision ∧
      Obtained env log n u decision result ∧ decision.tool ≠ "ask_clarification" ∧
      ∃ history, prompt = promptFor u decision result history

/-! ## What refers back -/

/-- No pattern looks around. -/
lemma isLocal_of_mem {pattern : Regex ℕ} (h : pattern ∈ queryMeetingPatterns) :
    pattern.isLocal = true := by
  have hall : queryMeetingPatterns.all Regex.isLocal = true := by decide +kernel
  exact List.all_eq_true.mp hall pattern h

/-- **What refers back** does so whatever is said before and after it. -/
theorem matchPatternForTool_append {text : String} (h : refersBack text = true)
    (front back : String) :
    matchPatternForTool (front ++ text ++ back) =
      some ⟨"query_meeting", some (.obj [("question", .str (front ++ text ++ back))])⟩ := by
  refine if_pos ?_
  obtain ⟨pattern, hpattern, hexec⟩ := List.any_eq_true.mp h
  have hoccurs : pattern.Occurs (utf16 (front ++ text ++ back)) := by
    have hbetween := (Regex.exec_isSome_iff.mp hexec).between (isLocal_of_mem hpattern)
      (utf16 front) (utf16 back)
    simpa only [utf16, String.toList_append, List.flatMap_append, List.append_assoc]
      using hbetween
  exact List.any_eq_true.mpr ⟨pattern, hpattern, Regex.exec_isSome_iff.mpr hoccurs⟩

/-- What is left to the model does not refer back. -/
lemma matchPatternForTool_eq_none {text : String} (h : matchPatternForTool text = none) :
    refersBack text = false := by
  simpa [matchPatternForTool] using h

/-! ## What a tool does first -/

section Proofs

variable {env : Env} {n : ℕ} {log : List Step} {u : Utterance} {decision : AgentDecision}
  {result : ToolResult} {x : Step}

/-- A text that begins with something is not empty. -/
lemma append_ne_empty {s t : String} (h : s ≠ "") : s ++ t ≠ "" := by
  intro heq
  have hlist := congrArg String.toList heq
  rw [String.toList_append] at hlist
  exact h (String.toList_inj.mp (List.append_eq_nil_iff.mp hlist).1)

/-- A question for two interpretations is never empty. -/
lemma eitherOrOf_ne_empty {a b : Option JsVal} {response : String}
    (h : eitherOrOf env a b = .ok response) : response ≠ "" := by
  unfold eitherOrOf at h
  split at h
  · obtain rfl := Except.ok.inj h
    exact append_ne_empty (by decide)
  · cases h

/-- A question back is never empty. -/
lemma clarification_ne_empty {interpretations : Option JsVal} {pick : Fin 4} {response : String}
    (h : generateClarificationResponse env interpretations pick = .ok response) :
    response ≠ "" := by
  have hphrase : ∀ i : Fin 4, clarificationPhrases.getD i "" ≠ "" := by decide
  unfold generateClarificationResponse at h
  split at h
  · exact eitherOrOf_ne_empty h
  · dsimp only at h
    split at h
    · obtain rfl := Except.ok.inj h
      exact append_ne_empty (by decide)
    · cases h
  · split at h
    · obtain rfl := Except.ok.inj h
      exact append_ne_empty (by decide)
    · split at h
      · cases h
      · obtain rfl := Except.ok.inj h
        exact hphrase pick
  · dsimp only at h
    split at h
    · cases h
    · obtain rfl := Except.ok.inj h
      exact hphrase pick
    · split at h
      · exact eitherOrOf_ne_empty h
      · cases h
  · obtain rfl := Except.ok.inj h
    exact hphrase pick

/-- What a tool does first, case by case. -/
inductive Executed (env : Env) (decision : AgentDecision) : Execution → Prop where
  | done {result : String} (h : Unasked decision result) :
      Executed env decision (.done ⟨result, none, none⟩)
  | search {searchType : SearchType} {query : String} (h : Searches env decision searchType query) :
      Executed env decision (.search searchType query)
  | meeting {question : Option JsVal} (h : Asks env decision question) :
      Executed env decision (.meeting question)

/-- An error is said. -/
lemma executed_toolError (htool : decision.tool ∈ toolNames) (message : String) :
    Executed env decision (toolError message) :=
  .done (.failed htool message)

/-- What is asked back is something. -/
lemma Unasked.ne_empty {result : String} (h : Unasked decision result)
    (htool : decision.tool = "ask_clarification") : result ≠ "" := by
  cases h with
  | nothing tool => exact absurd (htool ▸ by decide) tool
  | clarification _ said => exact said
  | failed _ message => exact append_ne_empty (by decide)
  | noQuery => decide
  | noPlace => decide

/-- A place is searched for, unless there is no text for it. -/
lemma executed_executeLocalSearch {query location : Option JsVal}
    (htool : decision.tool = "search_local")
    (hquery : param env decision.params "query" = .ok query)
    (hlocation : param env decision.params "location" = .ok location) :
    Executed env decision (executeLocalSearch env query location) := by
  unfold executeLocalSearch
  dsimp only
  split
  · exact .done (.noPlace htool)
  · rename_i searchQuery hsearch
    by_cases hthere : JsVal.truthy location = true
    · rw [if_pos hthere, Option.bind_eq_some_iff] at hsearch
      obtain ⟨place, hplace, hsearch⟩ := hsearch
      obtain ⟨text, htext, rfl⟩ := Option.map_eq_some_iff.mp hsearch
      exact .search (.somewhere htool hquery hlocation hthere htext hplace)
    · rw [if_neg hthere] at hsearch
      exact .search (.anywhere htool hquery hlocation (by simpa using hthere) hsearch)

/-- **A tool** searches, asks the record of the meeting, or has its result at once. -/
lemma executed (env : Env) (pick : Fin 4) (decision : AgentDecision) :
    Executed env decision (executeTool env pick decision) := by
  unfold executeTool
  split
  · rename_i htool
    have hname : decision.tool ∈ toolNames := by simp [toolNames, htool]
    split
    · exact executed_toolError hname _
    · rw [executeWebSearch]
      split
      · exact .done (.noQuery htool)
      · exact .search (.web htool ‹_› ‹_›)
  · rename_i htool
    have hname : decision.tool ∈ toolNames := by simp [toolNames, htool]
    split
    · exact executed_executeLocalSearch htool ‹_› ‹_›
    · exact executed_toolError hname _
    · exact executed_toolError hname _
  · rename_i htool
    have hname : decision.tool ∈ toolNames := by simp [toolNames, htool]
    split
    · exact executed_toolError hname _
    · exact .meeting ⟨htool, ‹_›⟩
  · rename_i htool
    have hname : decision.tool ∈ toolNames := by simp [toolNames, htool]
    split
    · exact executed_toolError hname _
    · split
      · exact executed_toolError hname _
      · exact .done (.clarification htool (clarification_ne_empty ‹_›))
  · rename_i hweb hlocal hmeeting hclarify
    exact .done (.nothing (by simpa [toolNames] using ⟨hweb, hlocal, hmeeting, hclarify⟩))

/-- A search does not end in a question back. -/
lemma Searches.tool_ne {searchType : SearchType} {query : String}
    (h : Searches env decision searchType query) : decision.tool ≠ "ask_clarification" := by
  cases h with
  | web tool => simp [tool]
  | anywhere tool => simp [tool]
  | somewhere tool => simp [tool]

/-- A question for the record does not end in a question back. -/
lemma Asks.tool_ne {question : Option JsVal} (h : Asks env decision question) :
    decision.tool ≠ "ask_clarification" := by
  simp [h.tool]

/-- Where something is searched for, the patterns have not decided. -/
lemma Searches.not_back {searchType : SearchType} {query : String}
    (h : Searches env decision searchType query) (hdecides : Decides x u decision) :
    refersBack u.userMessage = false := by
  cases hdecides with
  | pattern =>
    cases h with
    | web tool => simp at tool
    | anywhere tool => simp at tool
    | somewhere tool => simp at tool
  | model _ _ back => exact back

/-! ## What steps keep -/

/-- A decision that has been made remains so. -/
lemma Decided.cons (h : Decided log n u decision) (x : Step) : Decided (x :: log) n u decision := by
  obtain ⟨y, hy, hyx⟩ := h
  exact ⟨y, List.mem_cons_of_mem x hy, hyx⟩

/-- A result that has been obtained remains so. -/
lemma Obtained.cons (h : Obtained env log n u decision result) (x : Step) :
    Obtained env (x :: log) n u decision result := by
  cases h with
  | unasked h => exact .unasked h
  | search searches replied => exact .search searches (replied.cons x)
  | meeting asks replied => exact .meeting asks (replied.cons x)
  | offline asks replied off => exact .offline asks (replied.cons x) off

/-- An utterance may go on to wait when something else happens. -/
lemma Waits.cons {k : Call} (h : Waits env log n k) (x : Step) : Waits env (x :: log) n k := by
  cases k with
  | begin => trivial
  | deciding => exact h
  | searching => exact ⟨h.1.cons x, h.2⟩
  | connecting => exact ⟨h.1.cons x, h.2⟩
  | asking => exact ⟨h.1.cons x, h.2⟩
  | responding => exact ⟨h.1.cons x, h.2.1.cons x, h.2.2⟩

/-- A response of the model, or what is said instead, is not empty. -/
lemma callLlmPure_ne_empty (reply : Option (Option String)) : callLlmPure reply ≠ "" := by
  cases reply with
  | none => decide
  | some text =>
    rw [callLlmPure]
    cases htext : truthyText text with
    | none => decide
    | some response => simpa using (Option.filter_eq_some_iff.mp htext).2

/-- Only a search is asked for where something is searched for, and so on. -/
lemma justified_of_inl {k k' : Call} {r : Reply × Ambient}
    (hsearch : ∀ u decision searchType query, k' ≠ .searching u decision searchType query)
    (hask : ∀ u decision question, k' ≠ .asking u decision question)
    (hconnect : ∀ u decision question, k' = .connecting u decision question →
      r.2.isConnected = false) : Justified env log ⟨n, k, r, .inl k'⟩ where
  searched _ _ _ _ hnext := absurd (Sum.inl.inj hnext) (hsearch _ _ _ _)
  asked _ _ _ hnext := absurd (Sum.inl.inj hnext) (hask _ _ _)
  connected _ _ _ hnext := hconnect _ _ _ (Sum.inl.inj hnext)
  answered _ hnext := by cases hnext

/-- A question of a decision is asked over a connection. -/
lemma justified_asking {k : Call} {r : Reply × Ambient} {question : Option JsVal}
    (hdecided : Decided (⟨n, k, r, .inl (.asking u decision question)⟩ :: log) n u decision)
    (hasks : Asks env decision question) (hon : r.2.isConnected = true) :
    Justified env log ⟨n, k, r, .inl (.asking u decision question)⟩ where
  searched _ _ _ _ hnext := by cases hnext
  asked u' decision' question' hnext := by
    obtain ⟨rfl, rfl, rfl⟩ := Call.asking.inj (Sum.inl.inj hnext)
    exact ⟨hdecided, hasks, hon⟩
  connected _ _ _ hnext := by cases hnext
  answered _ hnext := by cases hnext

/-- A result that has been obtained is said, if it is a question back. -/
lemma justified_generateResponse {k : Call} {r : Reply × Ambient} {ambient : Ambient}
    {next : Call ⊕ Answer} (hnext : next = generateResponse u decision result ambient)
    (hdecided : Decided (⟨n, k, r, next⟩ :: log) n u decision)
    (hobtained : Obtained env (⟨n, k, r, next⟩ :: log) n u decision result)
    (hsaid : decision.tool = "ask_clarification" → result.result ≠ "") :
    Justified env log ⟨n, k, r, next⟩ := by
  unfold generateResponse at hnext
  split at hnext
  · rename_i htool
    subst hnext
    refine ⟨fun _ _ _ _ hnext => (by cases hnext), fun _ _ _ hnext => (by cases hnext),
      fun _ _ _ hnext => (by cases hnext), fun answer hnext => ?_⟩
    obtain rfl := Sum.inr.inj hnext
    exact ⟨hdecided, hobtained, hsaid htool, .inl ⟨htool, rfl⟩⟩
  · subst hnext
    exact justified_of_inl (by simp) (by simp) (by simp)

/-- A result that is no question back is put into words by the model, which may be waited for. -/
lemma waits_generateResponse {k' : Call} {ambient : Ambient}
    (h : generateResponse u decision result ambient = .inl k') (hdecided : Decided log n u decision)
    (hobtained : Obtained env log n u decision result) : Waits env log n k' := by
  unfold generateResponse at h
  split at h
  · cases h
  · rename_i htool
    obtain rfl := Sum.inl.inj h
    exact ⟨hdecided, hobtained, htool, ambient.history, rfl⟩

/-- **A decision** that is made is followed by what it says. -/
lemma justified_processWithAgent {k : Call} {r : Reply × Ambient} {next : Call ⊕ Answer}
    (hnext : next = processWithAgent env u decision r.2)
    (hdecides : Decides ⟨n, k, r, next⟩ u decision) : Justified env log ⟨n, k, r, next⟩ := by
  have hdecided : Decided (⟨n, k, r, next⟩ :: log) n u decision :=
    ⟨_, List.mem_cons_self, rfl, hdecides⟩
  have hexecuted := executed env r.2.pick decision
  unfold processWithAgent at hnext
  split at hnext
  · rename_i result hdone
    rw [hdone] at hexecuted
    cases hexecuted with
    | done h => exact justified_generateResponse hnext hdecided (.unasked h) h.ne_empty
  · rename_i searchType query hsearch
    rw [hsearch] at hexecuted
    cases hexecuted with
    | search hsearches =>
      subst hnext
      refine ⟨fun u' decision' searchType' query' hnext => ?_, fun _ _ _ hnext => (by cases hnext),
        fun _ _ _ hnext => (by cases hnext), fun _ hnext => (by cases hnext)⟩
      obtain ⟨rfl, rfl, rfl, rfl⟩ := Call.searching.inj (Sum.inl.inj hnext)
      exact ⟨hdecides, hsearches, hsearches.not_back hdecides⟩
  · rename_i question hmeeting
    rw [hmeeting] at hexecuted
    cases hexecuted with
    | meeting hasks =>
      split at hnext
      · subst hnext
        exact justified_asking hdecided hasks ‹_›
      · subst hnext
        exact justified_of_inl (by simp) (by simp) fun _ _ _ _ => by simpa using ‹¬ _ = true›

/-- What a decision says may be waited for. -/
lemma waits_processWithAgent {k' : Call} {ambient : Ambient}
    (h : processWithAgent env u decision ambient = .inl k')
    (hdecided : Decided log n u decision) : Waits env log n k' := by
  have hexecuted := executed env ambient.pick decision
  unfold processWithAgent at h
  split at h
  · rename_i result hdone
    rw [hdone] at hexecuted
    cases hexecuted with
    | done hunasked => exact waits_generateResponse h hdecided (.unasked hunasked)
  · rename_i searchType query hsearch
    rw [hsearch] at hexecuted
    cases hexecuted with
    | search hsearches =>
      obtain rfl := Sum.inl.inj h
      exact ⟨hdecided, hsearches⟩
  · rename_i question hmeeting
    rw [hmeeting] at hexecuted
    cases hexecuted with
    | meeting hasks =>
      split at h <;> obtain rfl := Sum.inl.inj h <;> exact ⟨hdecided, hasks⟩

/-- The pattern that decides is in the text. -/
lemma decides_of_matchPatternForTool {r : Reply × Ambient} {next : Call ⊕ Answer}
    (h : matchPatternForTool u.userMessage = some decision) :
    Decides ⟨n, .begin u, r, next⟩ u decision := by
  obtain ⟨hback, heq⟩ := Option.ite_none_right_eq_some.mp h
  obtain rfl := Option.some.inj heq
  exact .pattern rfl hback

/-- **Steps** rest on what utterances may wait for. -/
lemma justified_of_turn {k : Call} {r : Reply × Ambient} {next : Call ⊕ Answer}
    (hk : Waits env log n k) (h : turn env k r = some next) :
    Justified env log ⟨n, k, r, next⟩ := by
  unfold turn at h
  split at h
  · -- the patterns
    split at h <;> obtain rfl := Option.some.inj h
    · exact justified_processWithAgent rfl (decides_of_matchPatternForTool ‹_›)
    · exact justified_of_inl (by simp) (by simp) (by simp)
  · obtain rfl := Option.some.inj h
    exact justified_processWithAgent rfl (.model rfl rfl hk)
  · -- a search has ended
    obtain rfl := Option.some.inj h
    obtain ⟨hdecided, hsearches⟩ := hk
    exact justified_generateResponse rfl (hdecided.cons _) (.search hsearches .head)
      fun htool => absurd htool hsearches.tool_ne
  · -- `connect` has returned
    obtain ⟨hdecided, hasks⟩ := hk
    split at h <;> obtain rfl := Option.some.inj h
    · exact justified_asking (hdecided.cons _) hasks ‹_›
    · exact justified_generateResponse rfl (hdecided.cons _)
        (.offline hasks .head (by simpa using ‹¬ _ = true›)) fun htool => absurd htool hasks.tool_ne
  · -- the record has replied
    obtain rfl := Option.some.inj h
    obtain ⟨hdecided, hasks⟩ := hk
    exact justified_generateResponse rfl (hdecided.cons _) (.meeting hasks .head)
      fun htool => absurd htool hasks.tool_ne
  · -- the model has said the result
    rename_i u decision result prompt reply ambient
    obtain rfl := Option.some.inj h
    obtain ⟨hdecided, hobtained, htool, history, rfl⟩ := hk
    refine ⟨fun _ _ _ _ hnext => (by cases hnext), fun _ _ _ hnext => (by cases hnext),
      fun _ _ _ hnext => (by cases hnext), fun answer hnext => ?_⟩
    obtain rfl := Sum.inr.inj hnext
    exact ⟨hdecided.cons _, hobtained.cons _, callLlmPure_ne_empty _,
      .inr ⟨htool, history, reply, rfl, rfl, rfl⟩⟩
  · cases h

/-- **Utterances** may wait for what they wait for next. -/
lemma waits_of_turn {k k' : Call} {r : Reply × Ambient} (hk : Waits env log n k)
    (h : turn env k r = some (.inl k')) : Waits env (⟨n, k, r, .inl k'⟩ :: log) n k' := by
  unfold turn at h
  split at h
  · -- the patterns
    split at h
    · rename_i hmatch
      exact waits_processWithAgent (Option.some.inj h)
        ⟨_, List.mem_cons_self, rfl, decides_of_matchPatternForTool hmatch⟩
    · rename_i hmatch
      obtain rfl := Sum.inl.inj (Option.some.inj h)
      exact matchPatternForTool_eq_none hmatch
  · exact waits_processWithAgent (Option.some.inj h)
      ⟨_, List.mem_cons_self, rfl, .model rfl rfl hk⟩
  · -- a search has ended
    obtain ⟨hdecided, hsearches⟩ := hk
    exact waits_generateResponse (Option.some.inj h) (hdecided.cons _) (.search hsearches .head)
  · -- `connect` has returned
    obtain ⟨hdecided, hasks⟩ := hk
    split at h
    · obtain rfl := Sum.inl.inj (Option.some.inj h)
      exact ⟨hdecided.cons _, hasks⟩
    · exact waits_generateResponse (Option.some.inj h) (hdecided.cons _)
        (.offline hasks .head (by simpa using ‹¬ _ = true›))
  · -- the record has replied
    obtain ⟨hdecided, hasks⟩ := hk
    exact waits_generateResponse (Option.some.inj h) (hdecided.cons _) (.meeting hasks .head)
  · cases Option.some.inj h
  · cases h

end Proofs

/-- The router is sound. -/
lemma sound (env : Env) : Handler.Sound (Waits env) (Justified env) (router env) where
  mono := Waits.cons
  start _ _ _ := trivial
  rests := justified_of_turn
  waits := waits_of_turn

/-- How things are in a room in which nobody has said anything. -/
def atFirst (isConnected : Bool) : Ambient := ⟨[], isConnected, 0⟩

/-- Somebody asks what has been said, which is answered over a new connection, while somebody else
is greeted. -/
def askingBack : List (Handler.Event Utterance (Reply × Ambient)) :=
  [.arrive ⟨"r", "뭐야", none⟩, .arrive ⟨"r", "안녕", none⟩,
    .reply 0 (.begin, atFirst false), .reply 1 (.begin, atFirst false),
    .reply 0 (.connected, atFirst true), .reply 1 (.decision (some none), atFirst true),
    .reply 0 (.sources (some ("네", [⟨"네", some "Kim"⟩])), atFirst true),
    .reply 1 (.text (some (some "안녕하세요")), atFirst true),
    .reply 0 (.text (some (some "네")), atFirst true)]

/-- A language. -/
def someEnv : Env :=
  ⟨⟨fun _ => none, fun _ => "", fun _ _ => false, fun _ => ""⟩, fun _ _ => "", "", fun _ => "",
    fun _ => false⟩

/-- Both utterances of that run are answered, each from its own tool. -/
example : ((router someEnv).system.exec (router someEnv).system.init askingBack).map (fun s =>
    s.log.filterMap fun x => x.next.elim (fun _ => none) fun answer =>
      some (x.n, answer.decision.tool, answer.response)) =
    some [(0, "query_meeting", "네"), (1, "direct_response", "안녕하세요")] := by
  decide +kernel

end Router
