import AuraLive.Foundations.EventSystem
import AuraLive.Foundations.JsValue
import AuraLive.Foundations.Ledger

set_option relaxedAutoImplicit false
set_option autoImplicit false

/-!
# Study sessions

The sessions of `study/study-mode.service.ts`: their participants, the quizzes that the model makes
up for them, and the answers.

## Main definitions

* `Study.StudyContext`, `Study.StudyModeService` — a session; the sessions of the rooms and the
  requests for a quiz that wait for the model.
* `Study.StudyModeService.generateQuizFromConversation`, `generateSurpriseQuiz`, `quizReplied` — the
  two generators up to their `await`, and the code after it.
* `Study.StudyModeService.processAnswer` — an answer is scored.
* `Study.studyMode` — the service as an event system.

## Main results

* `Study.moves_of_step` — what a step does to the sessions.

## Design

A session is an object: a generator holds on to it across its `await`, also when the room has a new
one or none by then. Sessions therefore have numbers, and a room has the number of its session. Of a
quiz the reply gives the fields as they are parsed, each of which may be missing. Follow-up
questions add to the score of a participant only and are left out, with their fields.
-/

namespace Study

open Foundations

/-- A room. -/
abbrev RoomId := String

/-- `StudyQuiz`. -/
structure StudyQuiz where
  id : String
  question : Option JsVal
  options : Option JsVal
  correctIndex : Option JsVal
  explanation : Option JsVal
  points : ℕ
  topic : JsVal

/-- `StudyParticipant`. -/
structure StudyParticipant where
  participantId : String
  participantName : String
  score : ℕ
  correctAnswers : ℕ
  totalAnswers : ℕ
  streak : ℕ
  lastAnswerCorrect : Bool
  deriving DecidableEq

/-- `StudyContext`. -/
structure StudyContext where
  isActive : Bool
  startTime : ℕ
  duration : ℕ
  topic : String
  participants : JsMap String StudyParticipant
  currentQuiz : Option StudyQuiz
  quizHistory : List StudyQuiz
  lastQuizTime : ℕ
  quizCount : ℕ

/-- The object in the reply of the model. -/
structure QuizData where
  question : Option JsVal := none
  options : Option JsVal := none
  correctIndex : Option JsVal := none
  explanation : Option JsVal := none
  topic : Option JsVal := none

/-- Which of the two generators. -/
inductive Generator where
  | conversation
  | surprise (keyword : String)
  deriving DecidableEq

/-- A generator that waits for the model. -/
structure Generation where
  context : ℕ
  generator : Generator
  prompt : String
  deriving DecidableEq

/-- The state of the service. -/
structure StudyModeService where
  /-- The sessions that have been started. -/
  sessions : Ledger StudyContext
  /-- The session of a room. -/
  studyContexts : JsMap RoomId ℕ
  calls : Ledger Generation

/-- `MIN_QUIZ_INTERVAL_MS`. -/
def MIN_QUIZ_INTERVAL_MS : ℕ := 60000

/-- `MAX_QUIZZES_PER_SESSION`. -/
def MAX_QUIZZES_PER_SESSION : ℕ := 10

/-! ## The functions -/

/-- A new session. -/
def newContext (topic : String) (durationSeconds now : ℕ) : StudyContext :=
  { isActive := true
    startTime := now
    duration := durationSeconds
    topic := topic
    participants := ∅
    currentQuiz := none
    quizHistory := []
    lastQuizTime := 0
    quizCount := 0 }

/-- A participant who has just been added. -/
def newParticipant (participantId name : String) : StudyParticipant :=
  { participantId := participantId
    participantName := name
    score := 0
    correctAnswers := 0
    totalAnswers := 0
    streak := 0
    lastAnswerCorrect := false }

/-- The prompt of `generateQuizFromConversation`. -/
def conversationPrompt (topic : String) (recentTranscripts : List String) : String :=
  "당신은 스터디 퀴즈 출제자입니다. 다음 대화 내용을 바탕으로 4지선다 퀴즈를 1개 만들어주세요.\n\n" ++
  "주제: " ++ topic ++ "\n\n최근 대화:\n" ++
  "\n".intercalate (recentTranscripts.drop (recentTranscripts.length - 10)) ++
  "\n\n다음 JSON 형식으로만 응답하세요:\n\x7b\n  \"question\": \"문제 내용\",\n" ++
  "  \"options\": [\"선택지1\", \"선택지2\", \"선택지3\", \"선택지4\"],\n  \"correctIndex\": 0,\n" ++
  "  \"explanation\": \"정답 해설 (1-2문장)\",\n  \"topic\": \"관련 키워드\"\n\x7d\n\n규칙:\n" ++
  "- 방금 대화에서 언급된 내용 기반\n- 정답이 명확해야 함\n- 오답도 그럴듯해야 함\n- 난이도는 중간"

/-- The prompt of `generateSurpriseQuiz`. -/
def surprisePrompt (topic keyword : String) : String :=
  "당신은 스터디 퀴즈 출제자입니다. \"" ++ keyword ++
  "\" 개념에 대한 4지선다 퀴즈를 만들어주세요.\n\n주제: " ++ topic ++ "\n키워드: " ++ keyword ++
  "\n\n다음 JSON 형식으로만 응답하세요:\n\x7b\n  \"question\": \"문제 내용 (" ++ keyword ++
  " 관련)\",\n  \"options\": [\"선택지1\", \"선택지2\", \"선택지3\", \"선택지4\"],\n" ++
  "  \"correctIndex\": 0,\n  \"explanation\": \"정답 해설 (1-2문장)\",\n  \"topic\": \"" ++ keyword ++
  "\"\n\x7d\n\n규칙:\n- " ++ keyword ++ "의 핵심 개념을 묻는 문제\n- 정답이 명확해야 함\n" ++
  "- 오답도 그럴듯해야 함"

namespace StudyContext

variable (context : StudyContext)

/-- The limits that `generateQuizFromConversation` tests. -/
def limitsAllow (now : ℕ) : Bool :=
  context.lastQuizTime + MIN_QUIZ_INTERVAL_MS ≤ now && context.quizCount < MAX_QUIZZES_PER_SESSION

/-- The quiz of a reply. -/
def quizOf (generator : Generator) (quizData : QuizData) (now : ℕ) : StudyQuiz :=
  { id := "quiz-" ++ toString now
    question := quizData.question
    options := quizData.options
    correctIndex := quizData.correctIndex
    explanation := quizData.explanation
    points := 100
    topic :=
      match generator with
      | .conversation => JsVal.orElse quizData.topic (.str context.topic)
      | .surprise keyword => .str keyword }

/-- A quiz is issued. -/
def issue (quiz : StudyQuiz) (now : ℕ) : StudyContext :=
  { context with
    currentQuiz := some quiz
    lastQuizTime := now
    quizCount := context.quizCount + 1
    quizHistory := context.quizHistory ++ [quiz] }

/-- A participant is added, unless there is one. -/
def addParticipant (participantId name : String) : StudyContext :=
  if context.participants.has participantId then context
  else
    { context with
      participants :=
        context.participants.set participantId (newParticipant participantId name) }

end StudyContext

/-- `answerIndex === quiz.correctIndex`. -/
def isAnswer (quiz : StudyQuiz) (answerIndex : ℚ) : Bool :=
  match quiz.correctIndex with
  | some (.num correctIndex) => correctIndex = answerIndex
  | _ => false

/-- The bonus for a streak. -/
def streakBonus (streak : ℕ) : ℕ := if 3 ≤ streak then 50 * (streak - 2) else 0

/-- A participant after an answer. -/
def StudyParticipant.answered (participant : StudyParticipant) (quiz : StudyQuiz)
    (isCorrect : Bool) : StudyParticipant :=
  if isCorrect then
    { participant with
      totalAnswers := participant.totalAnswers + 1
      correctAnswers := participant.correctAnswers + 1
      score := participant.score + quiz.points + streakBonus (participant.streak + 1)
      streak := participant.streak + 1
      lastAnswerCorrect := true }
  else
    { participant with
      totalAnswers := participant.totalAnswers + 1
      streak := 0
      lastAnswerCorrect := false }

/-- The result of `processAnswer`. -/
structure AnswerResult where
  isCorrect : Bool
  points : ℕ
  explanation : Option JsVal

namespace StudyModeService

variable (s : StudyModeService)

/-- The session of a room, with its number. -/
def sessionOf (roomId : RoomId) : Option (ℕ × StudyContext) :=
  (s.studyContexts.get roomId).bind fun i => (s.sessions.get i).map fun context => (i, context)

/-- `startStudyMode`. -/
def startStudyMode (roomId : RoomId) (topic : String) (durationSeconds now : ℕ) :
    StudyModeService :=
  { s with
    sessions := s.sessions.enter (newContext topic durationSeconds now)
    studyContexts := s.studyContexts.set roomId s.sessions.next }

/-- A session is changed. -/
def modify (i : ℕ) (f : StudyContext → StudyContext) : StudyModeService :=
  { s with sessions := s.sessions.modify i f }

/-- `endStudyMode`. -/
def endStudyMode (roomId : RoomId) : StudyModeService :=
  match s.sessionOf roomId with
  | none => s
  | some (i, _) => s.modify i fun context => { context with isActive := false }

/-- `addParticipant`. -/
def addParticipant (roomId : RoomId) (participantId name : String) : StudyModeService :=
  match s.sessionOf roomId with
  | none => s
  | some (i, _) => s.modify i (·.addParticipant participantId name)

/-- `generateQuizFromConversation`, up to its `await`. -/
def generateQuizFromConversation (roomId : RoomId) (recentTranscripts : List String) (now : ℕ) :
    StudyModeService :=
  match s.sessionOf roomId with
  | none => s
  | some (i, context) =>
    if !context.isActive then s
    else if !context.limitsAllow now then s
    else
      { s with
        calls := s.calls.enter
          ⟨i, .conversation, conversationPrompt context.topic recentTranscripts⟩ }

/-- `generateSurpriseQuiz`, up to its `await`. -/
def generateSurpriseQuiz (roomId : RoomId) (keyword : String) : StudyModeService :=
  match s.sessionOf roomId with
  | none => s
  | some (i, context) =>
    if !context.isActive then s
    else
      { s with calls := s.calls.enter ⟨i, .surprise keyword, surprisePrompt context.topic keyword⟩ }

/-- The generators, from their `await` on; there is no quiz if the model fails or its reply has no
JSON object. -/
def quizReplied (call : ℕ) (generation : Generation) (quizData : Option QuizData) (now : ℕ) :
    StudyModeService :=
  let s := { s with calls := s.calls.remove call }
  match quizData with
  | none => s
  | some quizData =>
    s.modify generation.context fun context =>
      context.issue (context.quizOf generation.generator quizData now) now

/-- The session, the quiz and the participant of an answer that is scored. -/
def scoring (roomId : RoomId) (participantId : String) :
    Option (ℕ × StudyContext × StudyQuiz × StudyParticipant) :=
  (s.sessionOf roomId).bind fun (i, context) =>
    context.currentQuiz.bind fun quiz =>
      (context.participants.get participantId).map fun participant =>
        (i, context, quiz, participant)

/-- `processAnswer`. -/
def processAnswer (roomId : RoomId) (participantId : String) (answerIndex : ℚ) :
    StudyModeService × Option AnswerResult :=
  match s.scoring roomId participantId with
  | none => (s, none)
  | some (i, _, quiz, participant) =>
    let isCorrect := isAnswer quiz answerIndex
    let participant := participant.answered quiz isCorrect
    (s.modify i fun context =>
        { context with participants := context.participants.set participantId participant },
      some
        { isCorrect := isCorrect
          points := if isCorrect then quiz.points + streakBonus participant.streak else 0
          explanation := quiz.explanation })

/-- `cleanup`. -/
def cleanup (roomId : RoomId) : StudyModeService :=
  { s with studyContexts := s.studyContexts.delete roomId }

end StudyModeService

/-- What happens to the service: a call, or the model has replied to a generator. -/
inductive Event where
  | startStudyMode (roomId : RoomId) (topic : String) (durationSeconds now : ℕ)
  | endStudyMode (roomId : RoomId)
  | addParticipant (roomId : RoomId) (participantId name : String)
  | generateQuizFromConversation (roomId : RoomId) (recentTranscripts : List String) (now : ℕ)
  | generateSurpriseQuiz (roomId : RoomId) (keyword : String)
  | quizReplied (call : ℕ) (quizData : Option QuizData) (now : ℕ)
  | processAnswer (roomId : RoomId) (participantId : String) (answerIndex : ℚ)
  | cleanup (roomId : RoomId)

/-- The service as an event system. -/
def studyMode : EventSystem StudyModeService Event where
  init := ⟨.empty, ∅, .empty⟩
  step s e :=
    match e with
    | .startStudyMode roomId topic durationSeconds now =>
      some (s.startStudyMode roomId topic durationSeconds now)
    | .endStudyMode roomId => some (s.endStudyMode roomId)
    | .addParticipant roomId participantId name => some (s.addParticipant roomId participantId name)
    | .generateQuizFromConversation roomId recentTranscripts now =>
      some (s.generateQuizFromConversation roomId recentTranscripts now)
    | .generateSurpriseQuiz roomId keyword => some (s.generateSurpriseQuiz roomId keyword)
    | .quizReplied call quizData now =>
      (s.calls.get call).map fun generation => s.quizReplied call generation quizData now
    | .processAnswer roomId participantId answerIndex =>
      some (s.processAnswer roomId participantId answerIndex).1
    | .cleanup roomId => some (s.cleanup roomId)

/-! ## Steps -/

/-- One session is replaced, the others are left alone. -/
structure Replaces (s s' : StudyModeService) (i : ℕ) (context : StudyContext) : Prop where
  get : ∀ j, s'.sessions.get j = if i = j then some context else s.sessions.get j
  next : s'.sessions.next = s.sessions.next

/-- All sessions are left alone. -/
structure Leaves (s s' : StudyModeService) : Prop where
  get : ∀ j, s'.sessions.get j = s.sessions.get j
  next : s'.sessions.next = s.sessions.next

/-- The session to which a participant is added. -/
def StudyModeService.adding (s : StudyModeService) (roomId : RoomId) (participantId : String) :
    Option (ℕ × StudyContext) :=
  (s.sessionOf roomId).filter fun x => !x.2.participants.has participantId

/-- The generator that an event calls. -/
def Event.generator : Event → Option Generator
  | .generateQuizFromConversation _ _ _ => some .conversation
  | .generateSurpriseQuiz _ keyword => some (.surprise keyword)
  | _ => none

/-- The session for which a generator asks the model. -/
def StudyModeService.asking (s : StudyModeService) : Event → Option (ℕ × StudyContext)
  | .generateQuizFromConversation roomId _ now =>
    (s.sessionOf roomId).filter fun x => x.2.isActive && x.2.limitsAllow now
  | .generateSurpriseQuiz roomId _ => (s.sessionOf roomId).filter fun x => x.2.isActive
  | _ => none

/-- The event adds no participant, scores no answer, asks for no quiz and gives none. -/
def Event.Idle (s : StudyModeService) : Event → Prop
  | .addParticipant roomId participantId _ => s.adding roomId participantId = none
  | .processAnswer roomId participantId _ => s.scoring roomId participantId = none
  | .generateQuizFromConversation roomId recentTranscripts now =>
    s.asking (.generateQuizFromConversation roomId recentTranscripts now) = none
  | .generateSurpriseQuiz roomId keyword => s.asking (.generateSurpriseQuiz roomId keyword) = none
  | .quizReplied _ _ _ => False
  | _ => True

/-- A generator may ask the model for a quiz. -/
structure MayAsk (s : StudyModeService) (e : Event) (generation : Generation)
    (context : StudyContext) : Prop where
  session : s.sessions.get generation.context = some context
  asking : s.asking e = some (generation.context, context)
  generator : e.generator = some generation.generator

/-- What a step does to the sessions and to the generators that wait. -/
inductive Moves (s : StudyModeService) : Event → StudyModeService → Prop where
  /-- Nothing of this changes. -/
  | rests (e : Event) (s' : StudyModeService) (hidle : e.Idle s) (hleaves : Leaves s s')
      (hcalls : s'.calls = s.calls) : Moves s e s'
  /-- A session starts. -/
  | starts (roomId : RoomId) (topic : String) (durationSeconds now : ℕ) :
      Moves s (.startStudyMode roomId topic durationSeconds now)
        (s.startStudyMode roomId topic durationSeconds now)
  /-- A session ends. -/
  | closes (roomId : RoomId) (i : ℕ) (context : StudyContext) (s' : StudyModeService)
      (hold : s.sessions.get i = some context)
      (hreplaces : Replaces s s' i { context with isActive := false })
      (hcalls : s'.calls = s.calls) : Moves s (.endStudyMode roomId) s'
  /-- A participant is added. -/
  | adds (roomId : RoomId) (participantId name : String) (i : ℕ) (context : StudyContext)
      (s' : StudyModeService) (hadding : s.adding roomId participantId = some (i, context))
      (hold : s.sessions.get i = some context)
      (hnew : context.participants.get participantId = none)
      (hreplaces : Replaces s s' i
        { context with
          participants :=
            context.participants.set participantId (newParticipant participantId name) })
      (hcalls : s'.calls = s.calls) : Moves s (.addParticipant roomId participantId name) s'
  /-- A generator asks the model. -/
  | asks (e : Event) (generation : Generation) (context : StudyContext) (s' : StudyModeService)
      (hmay : MayAsk s e generation context) (hleaves : Leaves s s')
      (hcalls : s'.calls = s.calls.enter generation) : Moves s e s'
  /-- The model gives no quiz. -/
  | fails (call : ℕ) (generation : Generation) (now : ℕ) (s' : StudyModeService)
      (hcall : s.calls.get call = some generation) (hleaves : Leaves s s')
      (hcalls : s'.calls = s.calls.remove call) : Moves s (.quizReplied call none now) s'
  /-- A quiz is issued, if the session is there. -/
  | issues (call : ℕ) (generation : Generation) (quizData : QuizData) (now : ℕ)
      (s' : StudyModeService) (hcall : s.calls.get call = some generation)
      (hsession : ∀ context, s.sessions.get generation.context = some context →
        Replaces s s' generation.context
          (context.issue (context.quizOf generation.generator quizData now) now))
      (hnone : s.sessions.get generation.context = none → Leaves s s')
      (hcalls : s'.calls = s.calls.remove call) :
      Moves s (.quizReplied call (some quizData) now) s'
  /-- An answer is scored. -/
  | scores (roomId : RoomId) (participantId : String) (answerIndex : ℚ) (i : ℕ)
      (context : StudyContext) (quiz : StudyQuiz) (participant : StudyParticipant)
      (s' : StudyModeService)
      (hscoring : s.scoring roomId participantId = some (i, context, quiz, participant))
      (hold : s.sessions.get i = some context) (hquiz : context.currentQuiz = some quiz)
      (hparticipant : context.participants.get participantId = some participant)
      (hreplaces : Replaces s s' i
        { context with
          participants := context.participants.set participantId
            (participant.answered quiz (isAnswer quiz answerIndex)) })
      (hcalls : s'.calls = s.calls) : Moves s (.processAnswer roomId participantId answerIndex) s'

section Steps

variable {s s' : StudyModeService} {e : Event}

/-- The session of a room is one of the sessions. -/
lemma sessionOf_eq_some {roomId : RoomId} {i : ℕ} {context : StudyContext} :
    s.sessionOf roomId = some (i, context) ↔
      s.studyContexts.get roomId = some i ∧ s.sessions.get i = some context := by
  unfold StudyModeService.sessionOf
  rw [Option.bind_eq_some_iff]
  constructor
  · rintro ⟨k, hk, hmap⟩
    obtain ⟨x, hx, heq⟩ := Option.map_eq_some_iff.mp hmap
    obtain ⟨rfl, rfl⟩ := Prod.mk.inj heq
    exact ⟨hk, hx⟩
  · rintro ⟨hi, hcontext⟩
    exact ⟨i, hi, by rw [hcontext]; rfl⟩

/-- Changing a session replaces it. -/
lemma replaces_modify {i : ℕ} {context : StudyContext} (h : s.sessions.get i = some context)
    (f : StudyContext → StudyContext) : Replaces s (s.modify i f) i (f context) := by
  refine ⟨fun j => ?_, rfl⟩
  show (s.sessions.modify i f).get j = _
  rw [Ledger.get_modify]
  by_cases hj : i = j
  · subst hj
    simp [h]
  · simp [hj]

/-- What `scoring` finds. -/
lemma scoring_eq_some {roomId : RoomId} {participantId : String} {i : ℕ} {context : StudyContext}
    {quiz : StudyQuiz} {participant : StudyParticipant}
    (h : s.scoring roomId participantId = some (i, context, quiz, participant)) :
    s.sessionOf roomId = some (i, context) ∧ context.currentQuiz = some quiz ∧
      context.participants.get participantId = some participant := by
  unfold StudyModeService.scoring at h
  obtain ⟨⟨k, context'⟩, hsession, hrest⟩ := Option.bind_eq_some_iff.mp h
  obtain ⟨quiz', hquiz, hmap⟩ := Option.bind_eq_some_iff.mp hrest
  obtain ⟨participant', hparticipant, heq⟩ := Option.map_eq_some_iff.mp hmap
  simp only [Prod.mk.injEq] at heq
  obtain ⟨rfl, rfl, rfl, rfl⟩ := heq
  exact ⟨hsession, hquiz, hparticipant⟩

/-- The session for which a generator asks is one of the sessions. -/
lemma get_of_asking {i : ℕ} {context : StudyContext} (h : s.asking e = some (i, context)) :
    s.sessions.get i = some context := by
  unfold StudyModeService.asking at h
  split at h
  · exact (sessionOf_eq_some.mp (Option.filter_eq_some_iff.mp h).1).2
  · exact (sessionOf_eq_some.mp (Option.filter_eq_some_iff.mp h).1).2
  · cases h

/-- A generator that asks. -/
lemma moves_asks (generation : Generation) (context : StudyContext)
    (hasking : s.asking e = some (generation.context, context))
    (hgenerator : e.generator = some generation.generator) :
    Moves s e { s with calls := s.calls.enter generation } :=
  .asks e generation context _ ⟨get_of_asking hasking, hasking, hgenerator⟩ ⟨fun _ => rfl, rfl⟩ rfl

/-- An idle event asks for no quiz. -/
lemma Event.Idle.asking (h : e.Idle s) : s.asking e = none := by
  cases e with
  | generateQuizFromConversation roomId recentTranscripts now => exact h
  | generateSurpriseQuiz roomId keyword => exact h
  | _ => rfl

/-- A step that changes nothing leaves the sessions alone. -/
lemma leaves_self : Leaves s s := ⟨fun _ => rfl, rfl⟩

/-- `endStudyMode` closes the session of the room, if there is one. -/
lemma moves_endStudyMode (roomId : RoomId) :
    Moves s (.endStudyMode roomId) (s.endStudyMode roomId) := by
  unfold StudyModeService.endStudyMode
  split
  · exact .rests _ _ trivial leaves_self rfl
  · rename_i i context hsession
    have hold := (sessionOf_eq_some.mp hsession).2
    exact .closes roomId i context _ hold (replaces_modify hold _) rfl

/-- `addParticipant` adds a participant who is not there yet. -/
lemma moves_addParticipant (roomId : RoomId) (participantId name : String) :
    Moves s (.addParticipant roomId participantId name)
      (s.addParticipant roomId participantId name) := by
  unfold StudyModeService.addParticipant
  cases hsession : s.sessionOf roomId with
  | none =>
    exact .rests _ _ (by simp [Event.Idle, StudyModeService.adding, hsession]) leaves_self rfl
  | some x =>
    obtain ⟨i, context⟩ := x
    have hold := (sessionOf_eq_some.mp hsession).2
    have hreplaces := replaces_modify hold (·.addParticipant participantId name)
    cases hhas : context.participants.has participantId with
    | true =>
      refine .rests _ _ (by simp [Event.Idle, StudyModeService.adding, hsession, hhas]) ?_ rfl
      refine ⟨fun j => ?_, rfl⟩
      rw [hreplaces.get j, StudyContext.addParticipant, if_pos hhas]
      by_cases hj : i = j
      · rw [if_pos hj, ← hj, hold]
      · rw [if_neg hj]
    | false =>
      rw [StudyContext.addParticipant, if_neg (by rw [hhas]; exact Bool.false_ne_true)]
        at hreplaces
      refine .adds roomId participantId name i context _ ?_ hold ?_ hreplaces rfl
      · simp [StudyModeService.adding, hsession, hhas]
      · simpa [JsMap.has] using hhas

/-- `generateQuizFromConversation` asks the model if the session is active and its limits allow. -/
lemma moves_generateQuizFromConversation (roomId : RoomId) (recentTranscripts : List String)
    (now : ℕ) :
    Moves s (.generateQuizFromConversation roomId recentTranscripts now)
      (s.generateQuizFromConversation roomId recentTranscripts now) := by
  unfold StudyModeService.generateQuizFromConversation
  cases hsession : s.sessionOf roomId with
  | none =>
    refine .rests _ _ ?_ leaves_self rfl
    simp [Event.Idle, StudyModeService.asking, hsession]
  | some x =>
    obtain ⟨i, context⟩ := x
    dsimp only
    split
    · rename_i hactive
      have hinactive : context.isActive = false := by simpa using hactive
      refine .rests _ _ ?_ leaves_self rfl
      simp [Event.Idle, StudyModeService.asking, hsession, hinactive]
    · rename_i hactive
      split
      · rename_i hlimits
        have hrefused : context.limitsAllow now = false := by simpa using hlimits
        refine .rests _ _ ?_ leaves_self rfl
        simp [Event.Idle, StudyModeService.asking, hsession, hrefused]
      · rename_i hlimits
        refine moves_asks _ context ?_ rfl
        simp only [Bool.not_eq_true', Bool.not_eq_false] at hactive hlimits
        simp [StudyModeService.asking, hsession, hactive, hlimits]

/-- `generateSurpriseQuiz` asks the model if the session is active. -/
lemma moves_generateSurpriseQuiz (roomId : RoomId) (keyword : String) :
    Moves s (.generateSurpriseQuiz roomId keyword) (s.generateSurpriseQuiz roomId keyword) := by
  unfold StudyModeService.generateSurpriseQuiz
  cases hsession : s.sessionOf roomId with
  | none =>
    refine .rests _ _ ?_ leaves_self rfl
    simp [Event.Idle, StudyModeService.asking, hsession]
  | some x =>
    obtain ⟨i, context⟩ := x
    dsimp only
    split
    · rename_i hactive
      have hinactive : context.isActive = false := by simpa using hactive
      refine .rests _ _ ?_ leaves_self rfl
      simp [Event.Idle, StudyModeService.asking, hsession, hinactive]
    · rename_i hactive
      refine moves_asks _ context ?_ rfl
      simp only [Bool.not_eq_true', Bool.not_eq_false] at hactive
      simp [StudyModeService.asking, hsession, hactive]

/-- The reply of the model issues a quiz, or none. -/
lemma moves_quizReplied {call : ℕ} {generation : Generation}
    (hcall : s.calls.get call = some generation) (quizData : Option QuizData) (now : ℕ) :
    Moves s (.quizReplied call quizData now) (s.quizReplied call generation quizData now) := by
  unfold StudyModeService.quizReplied
  cases quizData with
  | none => exact .fails call generation now _ hcall ⟨fun _ => rfl, rfl⟩ rfl
  | some quizData =>
    refine .issues call generation quizData now _ hcall (fun context hold => ?_) (fun hnone => ?_)
      rfl
    · have hreplaces := replaces_modify (s := { s with calls := s.calls.remove call }) hold
        fun context => context.issue (context.quizOf generation.generator quizData now) now
      exact ⟨hreplaces.get, hreplaces.next⟩
    · refine ⟨fun j => ?_, rfl⟩
      show (s.sessions.modify generation.context _).get j = _
      rw [Ledger.get_modify]
      split
      · rename_i hj
        rw [← hj, hnone]
        rfl
      · rfl

/-- `processAnswer` scores an answer if there is a quiz and the participant is there. -/
lemma moves_processAnswer (roomId : RoomId) (participantId : String) (answerIndex : ℚ) :
    Moves s (.processAnswer roomId participantId answerIndex)
      (s.processAnswer roomId participantId answerIndex).1 := by
  unfold StudyModeService.processAnswer
  cases hscoring : s.scoring roomId participantId with
  | none => exact .rests _ _ hscoring leaves_self rfl
  | some x =>
    obtain ⟨i, context, quiz, participant⟩ := x
    obtain ⟨hsession, hquiz, hparticipant⟩ := scoring_eq_some hscoring
    have hold := (sessionOf_eq_some.mp hsession).2
    exact .scores roomId participantId answerIndex i context quiz participant _ hscoring hold
      hquiz hparticipant (replaces_modify hold _) rfl

/-- **Steps of the service.** -/
lemma moves_of_step (h : studyMode.step s e = some s') : Moves s e s' := by
  cases e with
  | startStudyMode roomId topic durationSeconds now =>
    exact Option.some.inj h ▸ .starts roomId topic durationSeconds now
  | endStudyMode roomId => exact Option.some.inj h ▸ moves_endStudyMode roomId
  | addParticipant roomId participantId name =>
    exact Option.some.inj h ▸ moves_addParticipant roomId participantId name
  | generateQuizFromConversation roomId recentTranscripts now =>
    exact Option.some.inj h ▸ moves_generateQuizFromConversation roomId recentTranscripts now
  | generateSurpriseQuiz roomId keyword =>
    exact Option.some.inj h ▸ moves_generateSurpriseQuiz roomId keyword
  | quizReplied call quizData now =>
    obtain ⟨generation, hcall, rfl⟩ := Option.map_eq_some_iff.mp h
    exact moves_quizReplied hcall quizData now
  | processAnswer roomId participantId answerIndex =>
    exact Option.some.inj h ▸ moves_processAnswer roomId participantId answerIndex
  | cleanup roomId => exact Option.some.inj h ▸ .rests _ _ trivial ⟨fun _ => rfl, rfl⟩ rfl

end Steps

end Study
