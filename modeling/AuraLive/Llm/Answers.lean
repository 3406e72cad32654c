import AuraLive.Foundations.Retry
import AuraLive.Search.Plan

set_option relaxedAutoImplicit false
set_option autoImplicit false

/-!
# Answers from searches

`processWithTools` of `llm/llm.service.ts` answers a question: it searches for what
`buildSearchPlan` gives, asks the model with what has been found, and tries again when the model is
throttled. `sendMessagePureWithRetry` asks the model without a search, and tries again as well.

## Main definitions

* `Answers.processWithTools`, `sendMessagePureWithRetry` — what is done, and the outcome.
* `Answers.answerOf` — the answer that is made of the text of the model and of what has been found.
* `Answers.searchFor` — the search for a question, if there is one.

## Main results

* `Answers.processWithTools_run` — it is one search and then one request again and again.
* `Answers.answers_retried` — so a question is searched for once at most, the same request is sent
  four times at most, and the answer is that of the last attempt.
* `Answers.pure_retried` — the same for the calls without a search, which are sent three times at
  most.

## Design

The outcomes of the attempts are given beforehand: the text of the model, if its reply has one, or
an error, also of the parser of the reply. The system prompt is a parameter, since nothing reads it.
The patterns `.*?` go to the nearest place that fits; they are written as what has no such place.
-/

namespace Answers

open Foundations Regex Spacing VoiceBot Intent Search

/-! ## The model and the search -/

/-- An error of the model. -/
structure ModelError where
  name : String
  message : Option String
  deriving DecidableEq

/-- `isThrottled`. -/
def isThrottled (error : ModelError) : Bool :=
  error.name = "ThrottlingException" || error.message.any fun m => jsIncludes m "Too many requests"

/-- `MAX_RETRIES`. -/
def MAX_RETRIES : ℕ := 3

/-- `PURE_MAX_RETRIES`. -/
def PURE_MAX_RETRIES : ℕ := 2

/-- What is sent to the model. -/
structure Payload where
  maxTokens : ℕ
  system : Option String
  /-- The texts of the messages, all with the role of the user. -/
  messages : List String
  deriving DecidableEq

/-- What is done for an answer. -/
inductive Act where
  | search (query : String) (searchType : SearchType)
  | send (payload : Payload)
  | sleep (ms : ℕ)
  deriving DecidableEq

/-- What the outside world gives: the text of the model at each attempt, what is found, and the
prompt. -/
structure World where
  reply : ℕ → Except ModelError (Option String)
  found : String → SearchType → List SearchResult
  buildSystemPrompt : String → List SearchResult → String
  toLowerCase : Text → Text

/-! ## The text of an answer -/

/-- `text.replace(/\s+/g, ' ').trim()`. -/
def tidied (text : String) : String := String.ofList (normalize isJsSpace ' ' text.toList)

/-- A result with an address. -/
def hasAddress (r : SearchResult) : Bool :=
  (truthyText r.address).isSome || (truthyText r.roadAddress).isSome

/-- `buildPlaceRecommendation`. -/
def buildPlaceRecommendation (result : SearchResult) : String :=
  let title := orText (some result.title) "그 장소"
  let response := title ++ " 추천드립니다."
  let response :=
    match truthyText result.newsHighlight with
    | some newsHighlight => response ++ " " ++ newsHighlight ++ "까지래요."
    | none => response
  tidied (response ++ " 경로 보내드릴게요.")

/-- `placePatterns`. -/
def placePatterns : List (Regex Char) :=
  let onLine : Regex Char := .char fun c => !"\n\r\u2028\u2029".toList.contains c
  let untilShared : Regex Char :=
    .star (.seq (.look fun _ after => !"공유".toList.isPrefixOf after) onLine)
  let dot : Regex Char := .opt (.char (· = '.'))
  [.concat [.opt (words ["을"]), spaces, words ["추천해요"], dot],
    .concat [words ["해당"], spaces, words ["지점까지"], spaces, words ["경로를"], spaces,
      words ["채팅창으로"], spaces, words ["공유드릴게요"], dot],
    .concat [words ["경로를"], spaces, words ["공유드릴게요"], dot],
    .concat [words ["위치까지"], spaces, words ["경로를"], untilShared, words ["공유"], dot]]

/-- `validateAndBuildNewsResponse`. -/
def validateAndBuildNewsResponse (llmResponse : String) (results : List SearchResult) : String :=
  let cleaned := tidied (String.ofList
    (placePatterns.foldl (fun text pattern => without pattern text) llmResponse.toList))
  if jsLength cleaned < 10 then
    match results with
    | firstResult :: _ =>
      firstResult.title ++ "에 대한 소식이에요. " ++ jsTake 80 firstResult.content
    | [] => "관련 정보를 찾았어요. 검색 결과를 확인해주세요."
  else cleaned

/-- `finalMessage`. -/
def finalMessage (text : Option String) (searchResults : List SearchResult) : String :=
  let message := orText text "죄송합니다, 응답을 생성할 수 없습니다."
  match searchResults, searchResults.find? hasAddress with
  | [], _ => message
  | _ :: _, some placeResult => buildPlaceRecommendation placeResult
  | _ :: _, none => validateAndBuildNewsResponse message searchResults

/-- An answer. -/
structure Answer where
  text : String
  searchResults : Option (List SearchResult)
  deriving DecidableEq

/-- The answer that is made of a reply. -/
def answerOf (searchResults : Option (List SearchResult)) (text : Option String) : Answer :=
  ⟨finalMessage text (searchResults.getD []), searchResults⟩

/-! ## Asking -/

section Asking

variable (w : World)

/-- The search of `processWithTools`: what is done and what is found. -/
def searchFor (userMessage : String) : List Act × Option (List SearchResult) :=
  let trimmedQuery := jsTrim userMessage
  if 5 < jsLength trimmedQuery then
    let plan := buildSearchPlan w.toLowerCase trimmedQuery.toList
    if plan.searchType = .none then ([], some [])
    else ([.search plan.query plan.searchType], some (w.found plan.query plan.searchType))
  else ([], none)

/-- The request of `processWithTools`. -/
def payloadFor (userMessage : String) (searchResults : List SearchResult) : Payload where
  maxTokens := 400
  system := some (w.buildSystemPrompt userMessage searchResults)
  messages :=
    match searchResults with
    | [] => [userMessage]
    | results =>
      [userMessage, "[검색 결과]\n" ++
        "\n".intercalate (results.map fun r => "- " ++ r.title ++ ": " ++ r.content)]

/-- `processWithTools`, for one message of the user. -/
def processWithTools (userMessage : String) (retryCount : ℕ)
    (searchResults : Option (List SearchResult)) (forceSearch : Bool) :
    List Act × Except ModelError Answer :=
  let (searched, searchResults) :=
    if forceSearch && searchResults.isNone then searchFor w userMessage else ([], searchResults)
  let payload := payloadFor w userMessage (searchResults.getD [])
  match w.reply retryCount with
  | .ok text => (searched ++ [.send payload], .ok (answerOf searchResults text))
  | .error error =>
    if isThrottled error = true ∧ retryCount < MAX_RETRIES then
      let backoffTime := 2 ^ (retryCount + 1) * 2000
      let (acts, outcome) := processWithTools userMessage (retryCount + 1) searchResults false
      (searched ++ .send payload :: .sleep backoffTime :: acts, outcome)
    else (searched ++ [.send payload], .error error)
termination_by MAX_RETRIES - retryCount
decreasing_by omega

/-- `sendMessagePureWithRetry`. -/
def sendMessagePureWithRetry (prompt : String) (maxTokens retryCount : ℕ) :
    List Act × Except ModelError String :=
  let payload : Payload := ⟨maxTokens, none, [prompt]⟩
  match w.reply retryCount with
  | .ok text => ([.send payload], .ok (jsTrim (orText text "")))
  | .error error =>
    if isThrottled error = true ∧ retryCount < PURE_MAX_RETRIES then
      let backoffTime := 2 ^ (retryCount + 1) * 1000
      let (acts, outcome) := sendMessagePureWithRetry prompt maxTokens (retryCount + 1)
      (.send payload :: .sleep backoffTime :: acts, outcome)
    else ([.send payload], .error error)
termination_by PURE_MAX_RETRIES - retryCount
decreasing_by omega

/-! ## Trying again -/

/-- The policy of `processWithTools`. -/
def toolsPolicy : Policy ModelError := ⟨MAX_RETRIES, isThrottled, fun n => 2 ^ (n + 1) * 2000⟩

/-- The policy of `sendMessagePureWithRetry`. -/
def purePolicy : Policy ModelError := ⟨PURE_MAX_RETRIES, isThrottled, fun n => 2 ^ (n + 1) * 1000⟩

/-- Without a search it is one request again and again. -/
lemma processWithTools_again (userMessage : String) (retryCount : ℕ)
    (searchResults : Option (List SearchResult)) :
    processWithTools w userMessage retryCount searchResults false =
      toolsPolicy.run (.send (payloadFor w userMessage (searchResults.getD []))) .sleep
        (fun n => (w.reply n).map (answerOf searchResults)) retryCount := by
  induction hleft : MAX_RETRIES - retryCount generalizing retryCount with
  | zero =>
    have hover : ¬ retryCount < MAX_RETRIES := by omega
    rw [processWithTools, Policy.run]
    cases hreply : w.reply retryCount with
    | ok text => simp [Except.map]
    | error error => simp [Except.map, toolsPolicy, hover]
  | succ left ih =>
    rw [processWithTools, Policy.run, ← ih (retryCount + 1) (by omega)]
    cases hreply : w.reply retryCount with
    | ok text => simp [Except.map]
    | error error =>
      have hunder : retryCount < MAX_RETRIES := by omega
      by_cases hthrottled : isThrottled error = true
      · simp [Except.map, toolsPolicy, hunder, hthrottled]
      · simp [Except.map, toolsPolicy, hthrottled]

/-- **It is one search**, and then one request again and again. -/
lemma processWithTools_run (userMessage : String) :
    processWithTools w userMessage 0 none true =
      let (searched, searchResults) := searchFor w userMessage
      let (acts, outcome) :=
        toolsPolicy.run (.send (payloadFor w userMessage (searchResults.getD []))) .sleep
          (fun n => (w.reply n).map (answerOf searchResults)) 0
      (searched ++ acts, outcome) := by
  rw [processWithTools]
  simp only [Option.isNone_none, Bool.and_self, if_true]
  generalize searchFor w userMessage = search
  obtain ⟨searched, searchResults⟩ := search
  dsimp only
  rw [← processWithTools_again]
  conv_rhs => rw [processWithTools]
  cases hreply : w.reply 0 with
  | ok text => simp
  | error error =>
    by_cases hagain : isThrottled error = true ∧ 0 < MAX_RETRIES
    · simp [hagain]
    · simp [hagain]

/-- The calls without a search. -/
lemma sendMessagePureWithRetry_run (prompt : String) (maxTokens retryCount : ℕ) :
    sendMessagePureWithRetry w prompt maxTokens retryCount =
      purePolicy.run (.send ⟨maxTokens, none, [prompt]⟩) .sleep
        (fun n => (w.reply n).map fun text => jsTrim (orText text "")) retryCount := by
  induction hleft : PURE_MAX_RETRIES - retryCount generalizing retryCount with
  | zero =>
    have hover : ¬ retryCount < PURE_MAX_RETRIES := by omega
    rw [sendMessagePureWithRetry, Policy.run]
    cases hreply : w.reply retryCount with
    | ok text => simp [Except.map]
    | error error => simp [Except.map, purePolicy, hover]
  | succ left ih =>
    rw [sendMessagePureWithRetry, Policy.run, ← ih (retryCount + 1) (by omega)]
    cases hreply : w.reply retryCount with
    | ok text => simp [Except.map]
    | error error =>
      have hunder : retryCount < PURE_MAX_RETRIES := by omega
      by_cases hthrottled : isThrottled error = true
      · simp [Except.map, purePolicy, hunder, hthrottled]
      · simp [Except.map, purePolicy, hthrottled]

/-- A request is sent until the model is not throttled, but only so often, with pauses that double;
the outcome is that of the last attempt. -/
def SentAgain {α : Type} (retries unit : ℕ) (payload : Payload) (reply : ℕ → Except ModelError α)
    (acts : List Act) (outcome : Except ModelError α) : Prop :=
  ∃ last ≤ retries, (∀ i < last, ∃ e, reply i = .error e ∧ isThrottled e = true) ∧
    (∀ e, reply last = .error e → isThrottled e = true → last = retries) ∧
    acts = ((List.range last).flatMap fun i => [.send payload, .sleep (2 ^ (i + 1) * unit)]) ++
      [.send payload] ∧
    outcome = reply last

/-- What a policy with doubling pauses does. -/
lemma sentAgain_run {α : Type} (retries unit : ℕ) (payload : Payload)
    (reply : ℕ → Except ModelError α) :
    SentAgain retries unit payload reply
      ((⟨retries, isThrottled, fun n => 2 ^ (n + 1) * unit⟩ : Policy ModelError).run
        (.send payload) .sleep reply 0).1
      ((⟨retries, isThrottled, fun n => 2 ^ (n + 1) * unit⟩ : Policy ModelError).run
        (.send payload) Act.sleep reply 0).2 := by
  obtain ⟨last, hlast, hrun⟩ := Policy.run_spec
    ⟨retries, isThrottled, fun n => 2 ^ (n + 1) * unit⟩ (Act.send payload) Act.sleep reply 0
  have hle : last ≤ retries := by simpa using hlast.le_max
  refine ⟨last, hle, fun i hi => (hlast.failed i (Nat.zero_le i) hi).2, fun e he hthrottled =>
    Nat.le_antisymm hle (hlast.decided e he hthrottled), ?_, ?_⟩
  · rw [hrun, Policy.actsUpTo, Nat.sub_zero, List.range_eq_range']
  · rw [hrun]

/-- What is searched for is planned. -/
lemma searchFor_cases (userMessage : String) :
    (searchFor w userMessage).1 = [] ∧ (searchFor w userMessage).2.getD [] = [] ∨
      ∃ plan, Planned plan ∧ searchFor w userMessage =
        ([.search plan.query plan.searchType], some (w.found plan.query plan.searchType)) := by
  simp only [searchFor]
  split
  · split
    · exact .inl ⟨rfl, rfl⟩
    · rename_i hsearches
      refine .inr ⟨_, (plan_cases w.toLowerCase _).resolve_left fun hnone => ?_, rfl⟩
      rw [hnone] at hsearches
      exact hsearches rfl
  · exact .inl ⟨rfl, rfl⟩

/-- **A question is answered** after one search at most, also when it is asked again and again: the
same request, with what has been found, is sent four times at most, and only if the model is
throttled, after pauses of four, eight and sixteen seconds; the answer is made of the last reply. -/
theorem answers_retried (userMessage : String) :
    ∃ searched found acts,
      (searched = [] ∧ found.getD [] = [] ∨
        ∃ plan, Planned plan ∧ searched = [.search plan.query plan.searchType] ∧
          found = some (w.found plan.query plan.searchType)) ∧
      (processWithTools w userMessage 0 none true).1 = searched ++ acts ∧
      SentAgain 3 2000 (payloadFor w userMessage (found.getD []))
        (fun n => (w.reply n).map (answerOf found)) acts
        (processWithTools w userMessage 0 none true).2 := by
  rw [processWithTools_run]
  refine ⟨(searchFor w userMessage).1, (searchFor w userMessage).2, _, ?_, rfl,
    sentAgain_run MAX_RETRIES 2000 _ _⟩
  rcases searchFor_cases w userMessage with hnone | ⟨plan, hplan, hsearch⟩
  · exact .inl hnone
  · exact .inr ⟨plan, hplan, by rw [hsearch], by rw [hsearch]⟩

/-- **Calls without a search** are sent three times at most, after pauses of two and four seconds;
the text is that of the last reply, without white space at its ends. -/
theorem pure_retried (prompt : String) (maxTokens : ℕ) :
    SentAgain 2 1000 ⟨maxTokens, none, [prompt]⟩
      (fun n => (w.reply n).map fun text => jsTrim (orText text ""))
      (sendMessagePureWithRetry w prompt maxTokens 0).1
      (sendMessagePureWithRetry w prompt maxTokens 0).2 := by
  rw [sendMessagePureWithRetry_run]
  exact sentAgain_run PURE_MAX_RETRIES 1000 _ _

end Asking

end Answers
