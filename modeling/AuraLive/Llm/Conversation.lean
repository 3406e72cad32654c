import AuraLive.Foundations.EventSystem
import AuraLive.Foundations.Ledger

set_option relaxedAutoImplicit false
set_option autoImplicit false

/-!
# One conversation with the model at a time

`sendMessage` of `llm/llm.service.ts` guards its conversation with the model by a flag. A call polls
the flag, may then wait for a cooldown, and sets it; a question that needs a search in real time
sets it at once; every conversation clears it when it ends.

## Main definitions

* `Conversation.Pattern` — the patterns that sort the questions.
* `Conversation.LlmService`, `Conversation.Phase` — the flag, the time of the last request, and
  where each call waits.
* `Conversation.conversations` — the service as an event system.
* `Conversation.SingleConversation` — at most one conversation, and the flag says whether there is
  one.
* `Conversation.FindsNone` — a call that does not look at the flag finds no conversation.

## Main results

* `Conversation.moves_of_step` — a step begins a conversation, ends one, or does neither.
* `Conversation.single_conversation_iff` — the guard works in a run exactly when the calls that do
  not look at the flag find no conversation.
* `Conversation.conversations_overlap` — two calls that leave their cooldown one after the other.

## Design

Requests for the calendar are answered elsewhere and take no part. A call is suspended at every
`await`; the phase says at which one, and the event that resumes it carries what the awaited call
gave. A sleep ends at its time or later. What a conversation says is passed on unread.
-/

namespace Conversation

open Foundations

/-! ## Which questions -/

/-- What may stand between the two parts of a pattern. -/
inductive Gap where
  /-- Any number of spaces. -/
  | spaces
  /-- At most so many code units, on one line. -/
  | upTo (units : ℕ)
  deriving DecidableEq

/-- A regular expression `(a|b|…)gap(c|d|…)`. -/
structure Pattern where
  first : List String
  gap : Gap := .upTo 0
  second : List String := [""]

/-- The white space of a regular expression. -/
def isSpace (c : Char) : Bool :=
  let n := c.val.toNat
  (9 ≤ n ∧ n ≤ 13) || n = 0x20 || n = 0xA0 || n = 0x1680 || (0x2000 ≤ n ∧ n ≤ 0x200A) ||
    n = 0x2028 || n = 0x2029 || n = 0x202F || n = 0x205F || n = 0x3000 || n = 0xFEFF

/-- The line terminators, which a dot does not match. -/
def isLineTerminator (c : Char) : Bool :=
  let n := c.val.toNat
  n = 10 || n = 13 || n = 0x2028 || n = 0x2029

/-- The code units of a character. -/
def codeUnits (c : Char) : ℕ := if 0x10000 ≤ c.val.toNat then 2 else 1

/-- The gap that is left after one character of it. -/
def Gap.skip : Gap → Char → Option Gap
  | .spaces, c => if isSpace c then some .spaces else none
  | .upTo units, c =>
    if isLineTerminator c = false ∧ codeUnits c ≤ units then some (.upTo (units - codeUnits c))
    else none

/-- One of the words stands in the text after a gap. -/
def findAfter (words : List String) : Gap → List Char → Bool
  | _, [] => words.any fun w => w.toList.isPrefixOf []
  | gap, c :: text =>
    (words.any fun w => w.toList.isPrefixOf (c :: text)) ||
      match gap.skip c with
      | none => false
      | some gap => findAfter words gap text

/-- `pattern.test(text)`. -/
def Pattern.test (p : Pattern) (text : String) : Bool :=
  text.toList.tails.any fun rest =>
    p.first.any fun w =>
      w.toList.isPrefixOf rest && findAfter p.second p.gap (rest.drop w.toList.length)

/-- `realTimeSearchPatterns`. -/
def realTimeSearchPatterns : List Pattern :=
  [{ first := ["카페", "커피", "커피숍", "스타벅스", "투썸", "이디야", "카공"] },
    { first := ["맛집", "식당", "레스토랑", "밥집", "음식점", "저녁", "점심", "브런치"] },
    { first := ["술집", "바", "포차", "호프", "이자카야", "와인바", "회식"] },
    { first := ["분식", "떡볶이", "김밥", "순대"] },
    { first := ["치킨", "BBQ", "BHC", "교촌"] },
    { first := ["피자", "도미노", "피자헛"] },
    { first := ["빵집", "베이커리", "제과점", "파리바게뜨"] },
    { first := ["디저트", "마카롱", "아이스크림", "젤라또", "와플"] },
    { first := ["쇼핑", "백화점", "마트", "아울렛"] },
    { first := ["팝업", "팝업스토어"] },
    { first := ["전시", "전시회", "갤러리", "미술관", "박물관"] },
    { first := ["날씨", "기온", "온도", "비", "눈", "미세먼지", "우산", "더워", "추워"] },
    { first := ["뉴스", "소식", "기사", "속보", "이슈"] },
    { first := ["주식", "주가", "코스피", "코스닥", "나스닥", "증시"] },
    { first := ["스포츠", "축구", "야구", "농구", "배구", "경기", "스코어"] },
    { first := ["영화", "개봉", "상영", "박스오피스", "CGV", "롯데시네마"] }]

/-- `pastReferencePatterns`. -/
def pastReferencePatterns : List Pattern :=
  [{ first := ["지난"] }, { first := ["이전"] }, { first := ["방금"] }, { first := ["아까"] },
    { first := ["전에"] }, { first := ["저번"] },
    { first := ["좀"], gap := .spaces, second := ["전"] },
    { first := ["뭐라고"], gap := .spaces, second := ["했", "한", "하셨"] },
    { first := ["뭐"], second := ["였", "더라", "였더라"] },
    { first := ["다시"], gap := .spaces, second := ["말해", "알려", "설명"] },
    { first := ["한번"], gap := .spaces, second := ["더"] },
    { first := ["회의", "미팅"], gap := .upTo 10, second := ["내용", "정리", "요약"] },
    { first := ["누가"], gap := .upTo 10, second := ["말", "발언", "얘기"] },
    { first := ["결정", "논의", "안건"], gap := .upTo 5, second := ["된", "한", "했"] }]

/-- `isRealTimeSearch`. -/
def isRealTimeSearch (userMessage : String) : Bool :=
  realTimeSearchPatterns.any (·.test userMessage)

/-- `isPastReference`. -/
def isPastReference (userMessage : String) : Bool :=
  pastReferencePatterns.any (·.test userMessage)

/-! ## The calls -/

/-- The domains of a search. -/
inductive SearchDomain where
  | weather
  | naver
  deriving DecidableEq, Repr

/-- The arguments of `sendMessage`. -/
structure Request where
  userMessage : String
  searchDomain : Option SearchDomain := none
  roomId : Option String := none
  deriving DecidableEq

/-- The `await` that a call waits at. -/
inductive Phase where
  /-- `getRoomIdByTopic`. -/
  | resolving
  /-- `ragClient.connect`. -/
  | connecting (resolvedRoomId : String)
  /-- `ragClient.sendQuestionWithSources`. -/
  | asking (resolvedRoomId : String)
  /-- The sleep of the loop over `isProcessing`. -/
  | polling (wake : ℕ)
  /-- The sleep of the cooldown. -/
  | cooling (wake : ℕ)
  /-- `processWithTools`. -/
  | processing
  deriving DecidableEq

/-- A call of `sendMessage` that waits. -/
structure Call where
  request : Request
  phase : Phase
  deriving DecidableEq

/-- The state of the service. -/
structure LlmService where
  isProcessing : Bool
  lastRequestTime : ℕ
  calls : Ledger Call

/-- `MIN_REQUEST_INTERVAL`. -/
def MIN_REQUEST_INTERVAL : ℕ := 1500

namespace LlmService

variable (s : LlmService)

/-- The flag is set and the conversation begins. -/
def startProcessing (now : ℕ) : LlmService × Phase :=
  ({ s with isProcessing := true, lastRequestTime := now }, .processing)

/-- The loop over `isProcessing` and the cooldown, up to the next `await`. -/
def waitForTurn (now : ℕ) : LlmService × Phase :=
  if s.isProcessing then (s, .polling (now + 100))
  else if now < s.lastRequestTime + MIN_REQUEST_INTERVAL then
    (s, .cooling (s.lastRequestTime + MIN_REQUEST_INTERVAL))
  else s.startProcessing now

/-- `sendMessage`, up to its first `await`. -/
def sendMessage (request : Request) (now : ℕ) : LlmService :=
  let (s, phase) :=
    if isRealTimeSearch request.userMessage then s.startProcessing now
    else if request.roomId.getD "" ≠ "" ∧ isPastReference request.userMessage then (s, .resolving)
    else s.waitForTurn now
  { s with calls := s.calls.enter ⟨request, phase⟩ }

/-- A call goes on to its next `await`. -/
def goOn (call : ℕ) (request : Request) (next : LlmService × Phase) : LlmService :=
  { next.1 with calls := next.1.calls.amend call ⟨request, next.2⟩ }

/-- A call returns. -/
def returns (call : ℕ) : LlmService := { s with calls := s.calls.remove call }

end LlmService

/-- What happens to the service: a call, or what a call waits for has come. -/
inductive Event where
  | sendMessage (request : Request) (now : ℕ)
  /-- The room is resolved; the RAG client is connected to it or not. -/
  | resolved (call : ℕ) (resolvedRoomId : String) (isConnected : Bool)
  /-- The attempt to connect is over. -/
  | connectEnded (call : ℕ) (isConnected : Bool) (now : ℕ)
  /-- The RAG server has answered, or not. -/
  | answered (call : ℕ) (reply : Except String Unit) (now : ℕ)
  /-- A sleep is over. -/
  | slept (call : ℕ) (now : ℕ)
  /-- The conversation is over, with a result or an exception. -/
  | processed (call : ℕ)

/-- The service as an event system. -/
def conversations : EventSystem LlmService Event where
  init := ⟨false, 0, .empty⟩
  step s e :=
    match e with
    | .sendMessage request now => some (s.sendMessage request now)
    | .resolved call resolvedRoomId isConnected =>
      match s.calls.get call with
      | some ⟨request, .resolving⟩ =>
        some (.goOn call request
          (s, if isConnected then .asking resolvedRoomId else .connecting resolvedRoomId))
      | _ => none
    | .connectEnded call isConnected now =>
      match s.calls.get call with
      | some ⟨request, .connecting resolvedRoomId⟩ =>
        some (.goOn call request
          (if isConnected then (s, .asking resolvedRoomId) else s.waitForTurn now))
      | _ => none
    | .answered call reply now =>
      match s.calls.get call with
      | some ⟨request, .asking _⟩ =>
        match reply with
        | .ok _ => some (s.returns call)
        | .error _ => some (.goOn call request (s.waitForTurn now))
      | _ => none
    | .slept call now =>
      match s.calls.get call with
      | some ⟨request, .polling wake⟩ =>
        if wake ≤ now then some (.goOn call request (s.waitForTurn now)) else none
      | some ⟨request, .cooling wake⟩ =>
        if wake ≤ now then some (.goOn call request (s.startProcessing now)) else none
      | _ => none
    | .processed call =>
      match s.calls.get call with
      | some ⟨_, .processing⟩ => some { s.returns call with isProcessing := false }
      | _ => none

/-! ## What is to hold -/

/-- The conversation of a call is in progress. -/
def LlmService.Processing (s : LlmService) (i : ℕ) : Prop :=
  ∃ request, s.calls.get i = some ⟨request, .processing⟩

/-- A call sleeps through its cooldown. -/
def LlmService.cooling (s : LlmService) (i : ℕ) : Bool :=
  match s.calls.get i with
  | some ⟨_, .cooling _⟩ => true
  | _ => false

/-- At most one conversation is in progress, and the flag is set exactly while one is. -/
structure SingleConversation (s : LlmService) : Prop where
  single : ∀ i j, s.Processing i → s.Processing j → i = j
  flag : s.isProcessing = true ↔ ∃ i, s.Processing i

/-- A question for a search in real time, and a call whose cooldown is over, find no conversation
in progress. -/
def FindsNone (s : LlmService) : Event → Prop
  | .sendMessage request _ =>
    isRealTimeSearch request.userMessage = true → ∀ i, ¬ s.Processing i
  | .slept call _ => s.cooling call = true → ∀ i, ¬ s.Processing i
  | _ => True

/-! ## Steps -/

/-- What a step does to the conversations. -/
inductive Moves (s : LlmService) (e : Event) (s' : LlmService) : Prop where
  /-- None begins and none ends. -/
  | quiet (hflag : s'.isProcessing = s.isProcessing)
      (hsame : ∀ j, s'.Processing j ↔ s.Processing j) (hfinds : FindsNone s e)
  /-- One begins: the flag was not set, or the call has not looked at it. -/
  | begins (i : ℕ) (hflag : s'.isProcessing = true) (hnew : ¬ s.Processing i)
      (hmore : ∀ j, s'.Processing j ↔ j = i ∨ s.Processing j)
      (hcause : s.isProcessing = false ∧ FindsNone s e ∨
        (FindsNone s e ↔ ∀ j, ¬ s.Processing j))
  /-- One ends. -/
  | ends (i : ℕ) (hflag : s'.isProcessing = false) (hold : s.Processing i)
      (hless : ∀ j, s'.Processing j ↔ j ≠ i ∧ s.Processing j) (hfinds : FindsNone s e)

section Steps

variable {s s' : LlmService} {e : Event}

/-- The conversations after a call has been entered. -/
lemma processing_enter {t : LlmService} (ht : t.calls = s.calls) (request : Request) (phase : Phase)
    (j : ℕ) :
    ({ t with calls := t.calls.enter ⟨request, phase⟩ } : LlmService).Processing j ↔
      (j = s.calls.next ∧ phase = .processing) ∨ s.Processing j := by
  simp only [LlmService.Processing, ht, Ledger.get_enter]
  by_cases hj : s.calls.next = j
  · subst hj
    simp
  · simp [hj, Ne.symm hj]

/-- The conversations after a call that had none has gone on. -/
lemma processing_goOn {t : LlmService} (ht : t.calls = s.calls) {i : ℕ} {call : Call}
    (hi : s.calls.get i = some call) (hphase : call.phase ≠ .processing) (request : Request)
    (phase : Phase) (j : ℕ) :
    (LlmService.goOn i request (t, phase)).Processing j ↔
      (j = i ∧ phase = .processing) ∨ s.Processing j := by
  simp only [LlmService.Processing, LlmService.goOn, ht, Ledger.get_amend]
  by_cases hj : i = j
  · subst hj
    have hnot : ∀ request', call ≠ ⟨request', .processing⟩ := by
      rintro request' rfl
      exact hphase rfl
    simp [hi, hnot]
  · simp [hj, Ne.symm hj]

/-- A call that waits elsewhere has no conversation. -/
lemma not_processing_of_get {i : ℕ} {call : Call} (hi : s.calls.get i = some call)
    (hphase : call.phase ≠ .processing) : ¬ s.Processing i := by
  rintro ⟨request, hget⟩
  rw [hi, Option.some.injEq] at hget
  exact hphase (by rw [hget])

/-- The conversations after a call has returned. -/
lemma processing_returns (i j : ℕ) : (s.returns i).Processing j ↔ j ≠ i ∧ s.Processing j := by
  simp only [LlmService.Processing, LlmService.returns, Ledger.get_remove]
  by_cases hj : i = j
  · simp [hj]
  · simp [hj, Ne.symm hj]

/-- A call waits for its turn: it goes on to a sleep, or begins if the flag is not set. -/
lemma waitForTurn_cases (s : LlmService) (now : ℕ) :
    (∃ phase, s.waitForTurn now = (s, phase) ∧ phase ≠ .processing) ∨
      s.isProcessing = false ∧ s.waitForTurn now = s.startProcessing now := by
  unfold LlmService.waitForTurn
  split
  · exact .inl ⟨_, rfl, by simp⟩
  · rename_i hflag
    rw [Bool.not_eq_true] at hflag
    split
    · exact .inl ⟨_, rfl, by simp⟩
    · exact .inr ⟨hflag, rfl⟩

/-- A call that goes on to another wait. -/
lemma moves_goOn_wait {i : ℕ} {call : Call} (hi : s.calls.get i = some call)
    (hphase : call.phase ≠ .processing) (request : Request) {phase : Phase}
    (hnext : phase ≠ .processing) (hfinds : FindsNone s e) :
    Moves s e (.goOn i request (s, phase)) := by
  refine .quiet rfl (fun j => ?_) hfinds
  rw [processing_goOn rfl hi hphase]
  simp [hnext]

/-- A call that goes on to its conversation. -/
lemma moves_goOn_start {i : ℕ} {call : Call} (hi : s.calls.get i = some call)
    (hphase : call.phase ≠ .processing) (request : Request) (now : ℕ)
    (hcause : s.isProcessing = false ∧ FindsNone s e ∨ (FindsNone s e ↔ ∀ j, ¬ s.Processing j)) :
    Moves s e (.goOn i request (s.startProcessing now)) := by
  refine .begins i rfl (not_processing_of_get hi hphase) (fun j => ?_) hcause
  have hiff := processing_goOn (s := s) (t := (s.startProcessing now).1) rfl hi hphase request
    .processing j
  exact hiff.trans (by simp)

/-- A call that goes on to wait for its turn. -/
lemma moves_goOn_turn {i : ℕ} {call : Call} (hi : s.calls.get i = some call)
    (hphase : call.phase ≠ .processing) (request : Request) (now : ℕ) (hfinds : FindsNone s e) :
    Moves s e (.goOn i request (s.waitForTurn now)) := by
  rcases waitForTurn_cases s now with ⟨phase, heq, hnext⟩ | ⟨hflag, heq⟩
  · rw [heq]
    exact moves_goOn_wait hi hphase request hnext hfinds
  · rw [heq]
    exact moves_goOn_start hi hphase request now (.inl ⟨hflag, hfinds⟩)

/-- A call that has just been made. -/
lemma moves_sendMessage (s : LlmService) (request : Request) (now : ℕ) :
    Moves s (.sendMessage request now) (s.sendMessage request now) := by
  have hnew : ¬ s.Processing s.calls.next := by
    rintro ⟨request', hget⟩
    simp at hget
  unfold LlmService.sendMessage
  by_cases hsearch : isRealTimeSearch request.userMessage = true
  · -- the flag is not looked at
    simp only [hsearch, if_true]
    refine .begins s.calls.next rfl hnew (fun j => ?_) (.inr ?_)
    · rw [processing_enter (s := s) (t := (s.startProcessing now).1) rfl]
      simp [LlmService.startProcessing]
    · simp [FindsNone, hsearch]
  · have hfinds : FindsNone s (.sendMessage request now) := fun h => absurd h hsearch
    simp only [hsearch, Bool.false_eq_true, if_false]
    split
    · refine .quiet rfl (fun j => ?_) hfinds
      rw [processing_enter (s := s) rfl]
      simp
    · rcases waitForTurn_cases s now with ⟨phase, heq, hnext⟩ | ⟨hflag, heq⟩
      · rw [heq]
        refine .quiet rfl (fun j => ?_) hfinds
        rw [processing_enter (s := s) rfl]
        simp [hnext]
      · rw [heq]
        refine .begins s.calls.next rfl hnew (fun j => ?_) (.inl ⟨hflag, hfinds⟩)
        rw [processing_enter (s := s) (t := (s.startProcessing now).1) rfl]
        simp [LlmService.startProcessing]

/-- **Steps of the service.**

**Proof sketch.** One case for each kind of event, for the phase in which the request of the call
has to be. Where the call goes on, it waits, takes its turn or starts, and each of these is one of
the moves (`moves_goOn_wait`, `moves_goOn_turn`, `moves_goOn_start`). Only a call that has slept for
the cooldown starts without looking at the flag again. -/
lemma moves_of_step (h : conversations.step s e = some s') : Moves s e s' := by
  cases e with
  | sendMessage request now => exact Option.some.inj h ▸ moves_sendMessage s request now
  | resolved call resolvedRoomId isConnected =>
    simp only [conversations] at h
    split at h
    · rename_i request hcall
      refine Option.some.inj h ▸ moves_goOn_wait hcall (by simp) request ?_ trivial
      split <;> simp
    · cases h
  | connectEnded call isConnected now =>
    simp only [conversations] at h
    split at h
    · rename_i request resolvedRoomId hcall
      obtain rfl := Option.some.inj h
      split
      · exact moves_goOn_wait hcall (by simp) request (by simp) trivial
      · exact moves_goOn_turn hcall (by simp) request now trivial
    · cases h
  | answered call reply now =>
    simp only [conversations] at h
    split at h
    · rename_i request resolvedRoomId hcall
      split at h
      · obtain rfl := Option.some.inj h
        refine .quiet rfl (fun j => ?_) trivial
        rw [processing_returns, and_iff_right_iff_imp]
        rintro hj rfl
        exact not_processing_of_get hcall (by simp) hj
      · exact Option.some.inj h ▸ moves_goOn_turn hcall (by simp) request now trivial
    · cases h
  | slept call now =>
    simp only [conversations] at h
    split at h
    · rename_i request wake hcall
      split at h
      · have hfinds : FindsNone s (.slept call now) := by
          intro hcooling
          simp [LlmService.cooling, hcall] at hcooling
        exact Option.some.inj h ▸ moves_goOn_turn hcall (by simp) request now hfinds
      · cases h
    · rename_i request wake hcall
      split at h
      · refine Option.some.inj h ▸ moves_goOn_start hcall (by simp) request now (.inr ?_)
        exact ⟨fun hfinds => hfinds (by simp [LlmService.cooling, hcall]), fun hnone _ => hnone⟩
      · cases h
    · cases h
  | processed call =>
    simp only [conversations] at h
    split at h
    · rename_i request hcall
      obtain rfl := Option.some.inj h
      exact .ends call rfl ⟨request, hcall⟩ (fun j => processing_returns call j) trivial
    · cases h

/-- **Step lemma.** A step keeps the guard working exactly if a call that does not look at the flag
finds no conversation. -/
lemma single_step_iff (s : LlmService) (e : Event) (s' : LlmService) (hs : SingleConversation s)
    (h : conversations.step s e = some s') : SingleConversation s' ↔ FindsNone s e := by
  cases moves_of_step h with
  | quiet hflag hsame hfinds =>
    refine ⟨fun _ => hfinds, fun _ => ⟨fun i j hi hj => ?_, ?_⟩⟩
    · exact hs.single i j ((hsame i).mp hi) ((hsame j).mp hj)
    · rw [hflag, hs.flag]
      exact exists_congr fun i => (hsame i).symm
  | begins i hflag hnew hmore hcause =>
    have hfinds : FindsNone s e ↔ ∀ j, ¬ s.Processing j := by
      rcases hcause with ⟨hfree, hfinds⟩ | hiff
      · refine ⟨fun _ j hj => ?_, fun _ => hfinds⟩
        rw [hs.flag.mpr ⟨j, hj⟩] at hfree
        cases hfree
      · exact hiff
    rw [hfinds]
    constructor
    · intro hs' j hj
      have hsame := hs'.single i j ((hmore i).mpr (.inl rfl)) ((hmore j).mpr (.inr hj))
      exact hnew (hsame ▸ hj)
    · intro hnone
      have honly : ∀ j, s'.Processing j ↔ j = i := fun j =>
        (hmore j).trans (or_iff_left (hnone j))
      refine ⟨fun j k hj hk => ?_, ?_⟩
      · rw [(honly j).mp hj, (honly k).mp hk]
      · exact ⟨fun _ => ⟨i, (honly i).mpr rfl⟩, fun _ => hflag⟩
  | ends i hflag hold hless hfinds =>
    refine ⟨fun _ => hfinds, fun _ => ⟨fun j k hj hk => ?_, ?_⟩⟩
    · exact hs.single j k ((hless j).mp hj).2 ((hless k).mp hk).2
    · rw [hflag]
      refine ⟨fun hcontra => absurd hcontra Bool.false_ne_true, ?_⟩
      rintro ⟨j, hj⟩
      obtain ⟨hne, hj⟩ := (hless j).mp hj
      exact absurd (hs.single j i hj hold) hne

end Steps

/-! ## Runs -/

/-- **One conversation at a time.** For every interleaving of calls, at most one conversation is in
progress at any time and the flag is set exactly while one is, exactly when no question for a search
in real time is asked, and no cooldown ends, while a conversation is in progress. -/
theorem single_conversation_iff {es : List Event} {s : LlmService}
    (hr : conversations.exec conversations.init es = some s) :
    conversations.AllStates SingleConversation conversations.init es ↔
      conversations.AllSteps FindsNone conversations.init es := by
  refine EventSystem.allStates_iff_of_step_iff (B := fun _ => True) (fun _ _ _ _ _ => trivial)
    (fun s e s' _ hs h => single_step_iff s e s' hs h) trivial ?_ hr
  have hnone : ∀ i, ¬ conversations.init.Processing i := by
    rintro i ⟨request, hget⟩
    simp [conversations] at hget
  refine ⟨fun i j hi => absurd hi (hnone i), fun h => absurd h Bool.false_ne_true, ?_⟩
  rintro ⟨i, hi⟩
  exact absurd hi (hnone i)

/-- Whether a conversation is in progress can be seen from the calls. -/
lemma forall_not_processing_iff (s : LlmService) :
    (∀ c ∈ s.calls.entries.entries, c.2.phase ≠ .processing) ↔ ∀ i, ¬ s.Processing i := by
  constructor
  · rintro hall i ⟨request, hget⟩
    exact hall _ (s.calls.entries.mem_entries_of_get hget) rfl
  · intro hnone c hc hphase
    refine hnone c.1 ⟨c.2.request, ?_⟩
    rw [← hphase]
    exact s.calls.entries.get_of_mem_entries hc

instance decidableNoneProcessing (s : LlmService) : Decidable (∀ i, ¬ s.Processing i) :=
  decidable_of_iff _ (forall_not_processing_iff s)

instance decidableFindsNone (s : LlmService) (e : Event) : Decidable (FindsNone s e) := by
  cases e with
  | sendMessage request _ =>
    exact inferInstanceAs
      (Decidable (isRealTimeSearch request.userMessage = true → ∀ i, ¬ s.Processing i))
  | slept call _ =>
    exact inferInstanceAs (Decidable (s.cooling call = true → ∀ i, ¬ s.Processing i))
  | resolved _ _ _ => exact inferInstanceAs (Decidable True)
  | connectEnded _ _ _ => exact inferInstanceAs (Decidable True)
  | answered _ _ _ => exact inferInstanceAs (Decidable True)
  | processed _ => exact inferInstanceAs (Decidable True)

/-- A second call polls the flag, waits for the cooldown and has its turn. -/
def takesTurns : List Event :=
  [.sendMessage ⟨"이름?", none, none⟩ 5000,
    .sendMessage ⟨"지난번?", none, some "a"⟩ 5100, .resolved 1 "a" false,
    .connectEnded 1 false 5200, .processed 0, .slept 1 5300, .slept 1 6500]

/-- The guard works in that run. -/
theorem single_conversation_iff_turns :
    ∃ s, conversations.exec conversations.init takesTurns = some s ∧
      s.calls.get 1 = some ⟨⟨"지난번?", none, some "a"⟩, .processing⟩ ∧
      conversations.AllStates SingleConversation conversations.init takesTurns := by
  obtain ⟨s, hs, hcall⟩ := Option.map_eq_some_iff.mp (show
    (conversations.exec conversations.init takesTurns).map (·.calls.get 1) =
      some (some ⟨⟨"지난번?", none, some "a"⟩, .processing⟩) by decide +kernel)
  exact ⟨s, hs, hcall, (single_conversation_iff hs).mpr (by decide +kernel)⟩

/-- Two calls wait for the same cooldown. -/
def cooldownsEnd : List Event :=
  [.sendMessage ⟨"이름?", none, none⟩ 5000, .processed 0,
    .sendMessage ⟨"기한?", none, none⟩ 5500,
    .sendMessage ⟨"담당?", none, none⟩ 5600, .slept 1 6500, .slept 2 6500]

/-- **Two conversations.** Calls that leave their cooldown one after the other do not look at the
flag again. -/
theorem conversations_overlap :
    ¬ conversations.AllStates SingleConversation conversations.init cooldownsEnd := by
  intro h
  obtain ⟨s, hs, hfacts⟩ := (Option.any_eq_true _ _).mp (show
    (conversations.exec conversations.init cooldownsEnd).any (fun s =>
      s.calls.get 1 = some ⟨⟨"기한?", none, none⟩, .processing⟩ ∧
        s.calls.get 2 = some ⟨⟨"담당?", none, none⟩, .processing⟩) = true by
          decide +kernel)
  obtain ⟨hfirst, hsecond⟩ := of_decide_eq_true hfacts
  exact absurd ((h.last hs).single 1 2 ⟨_, hfirst⟩ ⟨_, hsecond⟩) (by decide)

end Conversation
