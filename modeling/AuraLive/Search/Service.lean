import AuraLive.Foundations.EventSystem
import AuraLive.Foundations.Ledger
import AuraLive.Foundations.Replacing
import AuraLive.Foundations.Rewriting
import AuraLive.Foundations.Url
import AuraLive.VoiceBot.State

set_option relaxedAutoImplicit false
set_option autoImplicit false

/-!
# The search service

`search` of `llm/search.service.ts` asks Naver for places, news, pages or articles, or for news and
places at once. What has been found is kept for five minutes under a key of the type and the query.
A call waits for the replies to its requests, or for a timer of four seconds; several calls can wait
at the same time, also for the same query.

## Main definitions

* `Search.SearchType`, `Search.SearchResult` — what is searched for, and what is found.
* `Search.searchWithNaver` — the results of a reply of Naver.
* `Search.mergeHybridResults` — the first place, with what the news say, and the first news.
* `Search.SearchService.search`, `naver`, `timeout` — a call up to its `await`, a reply, and the
  timer.
* `Search.searches` — the service as an event system, with what has been replied and answered.

## Design

The requests of a call are answered one by one, each with the items of the reply or with an error;
replies to calls that do not wait any more are ignored. Without the keys of Naver every request is
answered with no items. The items of a reply have strings in their fields, as those of Naver have.
Nobody changes the results that are kept, so the cache holds values.
-/

namespace Search

open Foundations Regex VoiceBot

/-! ## What is searched for -/

/-- The services of Naver. -/
inductive NaverType where
  | localSearch
  | news
  | web
  | encyc
  deriving DecidableEq

/-- `SearchType`. -/
inductive SearchType where
  | naver (type : NaverType)
  | hybrid
  | none
  deriving DecidableEq

/-- The name of a service. -/
def NaverType.name : NaverType → String
  | .localSearch => "local"
  | .news => "news"
  | .web => "web"
  | .encyc => "encyc"

/-- The name of a type. -/
def SearchType.name : SearchType → String
  | .naver type => type.name
  | .hybrid => "hybrid"
  | .none => "none"

/-- How the items of a reply are sorted. -/
inductive Sorting where
  | date
  | comment
  deriving DecidableEq

/-- A request to Naver. -/
structure NaverRequest where
  query : String
  type : NaverType
  display : ℕ
  sort : Sorting

/-- The sorting that is asked of a service. -/
def NaverType.sort : NaverType → Sorting
  | .localSearch => .comment
  | _ => .date

/-- The requests of `executeSearch`. -/
def SearchType.requests (query : String) : SearchType → List NaverRequest
  | .naver type => [⟨query, type, 3, type.sort⟩]
  | .hybrid => [⟨query, .news, 2, .date⟩, ⟨query, .localSearch, 2, .comment⟩]
  | .none => []

/-- An item of a reply. -/
structure NaverItem where
  title : Option String := none
  link : Option String := none
  originallink : Option String := none
  description : Option String := none
  roadAddress : Option String := none
  address : Option String := none
  mapx : Option String := none
  mapy : Option String := none
  id : Option String := none
  deriving DecidableEq

/-- `SearchResult`. -/
structure SearchResult where
  title : String
  url : String
  content : String
  address : Option String := none
  roadAddress : Option String := none
  mapx : Option String := none
  mapy : Option String := none
  placeId : Option String := none
  mapUrl : Option String := none
  newsHighlight : Option String := none
  deriving DecidableEq

/-! ## What is found -/

/-- `stripHtml`. -/
def stripHtml (text : String) : String :=
  let tag : Regex Char := .seq (.char (· = '<')) (.seq (.plus (.char (· ≠ '>'))) (.char (· = '>')))
  String.ofList (Rewriting.replaceAll "&amp;".toList ['&']
    (Rewriting.replaceAll "&quot;".toList ['"'] (tag.replaceAll (fun _ => []) text.toList)))

/-- The characters that `encodeURIComponent` leaves. -/
def isUnreserved (c : Char) : Bool := c.isAlphanum || "-_.!~*'()".toList.contains c

/-- `encodeURIComponent`. -/
def encodeURIComponent (text : String) : String :=
  String.ofList (text.toList.flatMap fun c =>
    if isUnreserved c then [c] else (String.utf8EncodeChar c).flatMap Url.escapeByte)

/-- `a || b`, for strings. -/
def orText (a : Option String) (b : String) : String := (truthyText a).getD b

/-- The result that is made of an item. -/
def NaverItem.result (type : NaverType) (item : NaverItem) : SearchResult :=
  let title := stripHtml (orText item.title "")
  let description := stripHtml (orText item.description "")
  { title := title
    url := orText item.link (orText item.originallink "")
    content :=
      if type = .localSearch then orText item.roadAddress (orText item.address description)
      else description
    address := truthyText item.address
    roadAddress := truthyText item.roadAddress
    mapx := truthyText item.mapx
    mapy := truthyText item.mapy
    placeId := truthyText item.id
    mapUrl :=
      if type = .localSearch ∧ title ≠ "" then
        some ("https://map.naver.com/v5/search/" ++ encodeURIComponent title)
      else none }

/-- `searchWithNaver`, once Naver has replied. -/
def searchWithNaver (type : NaverType) (items : List NaverItem) : List SearchResult :=
  items.map (·.result type)

/-- `\d{1,2}월\s*\d{1,2}일`. -/
def monthAndDay : List (Regex Char) :=
  [between (.char Char.isDigit) 1 2, .char (· = '월'), .star (.char isJsSpace),
    between (.char Char.isDigit) 1 2, .char (· = '일')]

/-- The patterns of `extractNewsHighlight`. -/
def highlightPatterns : List (Regex Char) :=
  [.group 1 (.concat (monthAndDay ++ [.word "까지".toList])),
    .group 1 (.concat (monthAndDay ++ [.word "부터".toList, .star (.char isJsSpace)] ++
      monthAndDay ++ [.word "까지".toList])),
    .group 1 (.concat [.plus (.char Char.isDigit), .word "일까지".toList]),
    .group 1 (.concat monthAndDay),
    .group 1 (.oneOf [.concat [.word "이번".toList, .star (.char isJsSpace), .char (· = '주')],
      .concat [.word "이번".toList, .star (.char isJsSpace), .char (· = '달')],
      .word "올해".toList])]

/-- `extractNewsHighlight`. -/
def extractNewsHighlight (newsResult : SearchResult) : Option String :=
  let found := highlightPatterns.findSome? fun pattern => pattern.exec newsResult.content.toList
  match found with
  | some m => (m.get 1).map String.ofList
  | none => truthyText (some (jsTrim (jsTake 50 newsResult.content)))

/-- `mergeHybridResults`. -/
def mergeHybridResults (newsResults localResults : List SearchResult) : List SearchResult :=
  let merged := (localResults.take 1).map fun primary =>
    { primary with newsHighlight := truthyText (newsResults.head?.bind extractNewsHighlight) }
  let merged := (newsResults.take 1).foldl (fun merged news =>
    if merged.any fun m => m.title = news.title then merged else merged ++ [news]) merged
  merged.take 3

/-! ## The service -/

/-- What is kept of a search. -/
structure CacheEntry where
  expiresAt : ℕ
  results : List SearchResult

/-- A call that waits for `executeSearch`, with the results of the replies so far. -/
structure Execution where
  query : String
  searchType : SearchType
  started : ℕ
  replies : JsMap NaverType (List SearchResult)

/-- The state of the service. -/
structure SearchService where
  searchCache : JsMap String CacheEntry
  calls : Ledger Execution

/-- `SEARCH_TIMEOUT_MS`. -/
def SEARCH_TIMEOUT_MS : ℕ := 4000

/-- `SEARCH_CACHE_TTL_MS`. -/
def SEARCH_CACHE_TTL_MS : ℕ := 5 * 60 * 1000

/-- `cacheKey`. -/
def cacheKey (searchType : SearchType) (query : String) : String :=
  searchType.name ++ "|" ++ query

/-- The results of `executeSearch`, when all requests have been answered. -/
def Execution.results (execution : Execution) : Option (List SearchResult) :=
  match execution.searchType with
  | .naver type => (execution.replies.get type).map fun results => results.take 3
  | .hybrid =>
    (execution.replies.get .news).bind fun newsResults =>
      (execution.replies.get .localSearch).map fun localResults =>
        mergeHybridResults newsResults localResults
  | .none => none

/-- The call with the results of another reply. -/
def Execution.reply (execution : Execution) (type : NaverType) (items : List NaverItem) :
    Execution :=
  { execution with replies := execution.replies.set type (searchWithNaver type items) }

/-- The call waits for a reply of the service. -/
def Execution.awaits (execution : Execution) (type : NaverType) : Bool :=
  ((execution.searchType.requests execution.query).any fun request => request.type = type) &&
    !execution.replies.has type

/-- What becomes of a call at an event. -/
inductive Outcome where
  /-- It waits, or there is none. -/
  | pending
  /-- It returns without a search, or after one that has failed. -/
  | returned (results : List SearchResult)
  /-- It returns after a search. -/
  | executed (results : List SearchResult)

namespace SearchService

variable (s : SearchService)

/-- `getCachedSearch`. -/
def getCachedSearch (key : String) (now : ℕ) : SearchService × Option (List SearchResult) :=
  match s.searchCache.get key with
  | some cached =>
    if cached.expiresAt < now then ({ s with searchCache := s.searchCache.delete key }, none)
    else (s, some cached.results)
  | none => ({ s with searchCache := s.searchCache.delete key }, none)

/-- `setCachedSearch`. -/
def setCachedSearch (key : String) (results : List SearchResult) (now : ℕ) : SearchService :=
  { s with searchCache := s.searchCache.set key ⟨now + SEARCH_CACHE_TTL_MS, results⟩ }

/-- `search`, up to its `await`. -/
def search (query : String) (searchType : SearchType) (now : ℕ) : SearchService × Outcome :=
  if searchType = .none then (s, .returned [])
  else
    match s.getCachedSearch (cacheKey searchType query) now with
    | (s, some cached) => (s, .returned cached)
    | (s, none) =>
      ({ s with calls := s.calls.enter ⟨query, searchType, now, ∅⟩ }, .pending)

/-- The search of a call has failed. -/
def fail (call : ℕ) : SearchService × Outcome :=
  ({ s with calls := s.calls.remove call }, .returned [])

/-- Naver replies to a request of a call. -/
def naver (call : ℕ) (type : NaverType) (reply : Except String (List NaverItem)) (now : ℕ) :
    Option (SearchService × Outcome) :=
  match s.calls.get call with
  | none => some (s, .pending)
  | some execution =>
    if execution.awaits type then
      match reply with
      | .error _ => some (s.fail call)
      | .ok items =>
        let execution := execution.reply type items
        match execution.results with
        | none => some ({ s with calls := s.calls.amend call execution }, .pending)
        | some results =>
          let s := { s with calls := s.calls.remove call }
          let key := cacheKey execution.searchType execution.query
          some (s.setCachedSearch key results now, .executed results)
    else none

/-- The timer of a call fires. -/
def timeout (call : ℕ) (now : ℕ) : Option (SearchService × Outcome) :=
  match s.calls.get call with
  | none => some (s, .pending)
  | some execution =>
    if execution.started + SEARCH_TIMEOUT_MS ≤ now then some (s.fail call) else none

end SearchService

/-- What happens to the service: a call, a reply of Naver, a timer. -/
inductive Event where
  | search (query : String) (searchType : SearchType) (now : ℕ)
  | naver (call : ℕ) (type : NaverType) (reply : Except String (List NaverItem)) (now : ℕ)
  | timeout (call : ℕ) (now : ℕ)

/-- What Naver can reply: without keys it is not asked. -/
def repliesAre (hasKeys : Bool) : Except String (List NaverItem) → Bool
  | .ok [] => true
  | _ => hasKeys

/-- The state after an event, and what becomes of the call. -/
def SearchService.handle (hasKeys : Bool) (s : SearchService) :
    Event → Option (SearchService × Outcome)
  | .search query searchType now => some (s.search query searchType now)
  | .naver call type reply now =>
    if repliesAre hasKeys reply then s.naver call type reply now else none
  | .timeout call now => s.timeout call now

/-! ## What has been replied and answered -/

/-- A reply of Naver to a call that waited for it. -/
structure Replied where
  query : String
  type : NaverType
  items : List NaverItem
  time : ℕ

/-- A call that has returned, with its number if it has waited. -/
structure Answer where
  call : Option ℕ
  query : String
  searchType : SearchType
  results : List SearchResult
  time : ℕ

/-- What has happened so far, the last thing first, and the last reading of the clock. -/
structure Log where
  /-- The replies. -/
  replied : List Replied
  /-- The searches that have found something, or nothing. -/
  executed : List Answer
  /-- All calls that have returned. -/
  answered : List Answer
  clock : ℕ

/-- The reading of the clock at an event. -/
def Event.time : Event → ℕ
  | .search _ _ now | .naver _ _ _ now | .timeout _ now => now

/-- The reply that an event brings to a call that waits. -/
def SearchService.replied (s : SearchService) : Event → Option Replied
  | .naver call type (.ok items) now =>
    (s.calls.get call).map fun execution => ⟨execution.query, type, items, now⟩
  | _ => none

/-- The answer of the call that an event is about. -/
def SearchService.answer (s : SearchService) (results : List SearchResult) : Event → Option Answer
  | .search query searchType now => some ⟨none, query, searchType, results, now⟩
  | .naver call _ _ now | .timeout call now =>
    (s.calls.get call).map fun execution =>
      ⟨some call, execution.query, execution.searchType, results, now⟩

/-- The log after an event. -/
def Log.after (log : Log) (s : SearchService) (e : Event) (outcome : Outcome) : Log :=
  let replied := (s.replied e).toList ++ log.replied
  match outcome with
  | .pending => { log with replied := replied, clock := e.time }
  | .returned results =>
    ⟨replied, log.executed, (s.answer results e).toList ++ log.answered, e.time⟩
  | .executed results =>
    ⟨replied, (s.answer results e).toList ++ log.executed,
      (s.answer results e).toList ++ log.answered, e.time⟩

/-- The service with its log and a clock that does not go back. -/
def searches (hasKeys : Bool) : EventSystem (SearchService × Log) Event where
  init := (⟨∅, .empty⟩, ⟨[], [], [], 0⟩)
  step x e :=
    if x.2.clock ≤ e.time then
      (x.1.handle hasKeys e).map fun r => (r.1, x.2.after x.1 e r.2)
    else none

end Search
