import AuraLive.Study.Session

set_option relaxedAutoImplicit false
set_option autoImplicit false

/-!
# Replies to a request for a quiz

What the two generators of `study/study-mode.service.ts` make of a reply of the model. The session
is changed before the last statement that can throw, and what the `catch` block then reports as a
failure has already been counted. The index of the answer is taken from the reply as it is.

## Main definitions

* `Study.Reply`, `Study.Reply.quizData` — a reply, and the object that is read in it.
* `Study.StudyContext.generateQuizFromConversation`, `generateSurpriseQuiz` — a whole call: the
  session after it and what it returns.
* `Study.Atomic` — a call that returns no quiz changes nothing, and a quiz has its answer among its
  options.
* `Study.WellFormed` — the question of the object is a text, and the index one of its options.

## Main results

* `Study.sessions_generate` — a whole call does to the session what its two events do.
* `Study.generateQuiz_atomic_iff` — a call is atomic if and only if it does not ask the model or
  reads nothing but well-formed objects.
* `Study.malformed_quizzes` — a failed call that counts, and an answer that is no option.
-/

namespace Study

open Foundations

variable {context : StudyContext} {generator : Generator}

/-! ## The reply -/

/-- How `sendMessagePure` ends. -/
inductive Reply where
  | error (message : String)
  | text (response : String)

/-- `response.match(/\{[\s\S]*\}/)`: from the first opening to the last closing brace. -/
def jsonMatch (response : String) : Option String :=
  let block := ((response.toList.dropWhile (· ≠ '\x7b')).reverse.dropWhile (· ≠ '\x7d')).reverse
  if block = [] then none else some (String.ofList block)

/-- The value that is parsed from a reply and whose properties can be read. -/
def Reply.quizData (parse : String → Option JsVal) : Reply → Option JsVal
  | .error _ => none
  | .text response => ((jsonMatch response).bind parse).filter fun v => !v.isNull

/-- The properties of a value that the generators read. -/
def QuizData.ofJson (v : JsVal) : QuizData :=
  { question := v.field "question"
    options := v.field "options"
    correctIndex := v.field "correctIndex"
    explanation := v.field "explanation"
    topic := v.field "topic" }

/-- `quiz.question.substring` can be called. -/
def StudyQuiz.hasText (quiz : StudyQuiz) : Bool := (quiz.question.bind JsVal.asStr).isSome

/-! ## A whole call -/

section Call

variable (parse : String → Option JsVal) (context : StudyContext)

/-- The tests of a generator before it asks the model. -/
def StudyContext.asks (generator : Generator) (now : ℕ) : Bool :=
  match generator with
  | .conversation => context.isActive && context.limitsAllow now
  | .surprise _ => context.isActive

/-- The `try` block after the reply, with its `catch` block. -/
def StudyContext.replied (generator : Generator) (reply : Reply) (now : ℕ) :
    StudyContext × Option StudyQuiz :=
  match reply.quizData parse with
  | none => (context, none)
  | some v =>
    let quiz := context.quizOf generator (.ofJson v) now
    -- the log statement reads the question when the session has been changed
    (context.issue quiz now, if quiz.hasText then some quiz else none)

/-- A call of a generator that begins at `started` and has its reply at `now`. -/
def StudyContext.generateQuiz (generator : Generator) (started : ℕ) (reply : Reply) (now : ℕ) :
    StudyContext × Option StudyQuiz :=
  if context.asks generator started then context.replied parse generator reply now
  else (context, none)

/-- `generateQuizFromConversation`. -/
def StudyContext.generateQuizFromConversation (started : ℕ) (reply : Reply) (now : ℕ) :
    StudyContext × Option StudyQuiz :=
  context.generateQuiz parse .conversation started reply now

/-- `generateSurpriseQuiz`. -/
def StudyContext.generateSurpriseQuiz (keyword : String) (started : ℕ) (reply : Reply) (now : ℕ) :
    StudyContext × Option StudyQuiz :=
  context.generateQuiz parse (.surprise keyword) started reply now

end Call

/-! ## The call and the events of the service -/

variable {parse : String → Option JsVal} {reply : Reply} {started now : ℕ}

/-- A generator that asks the model issues what it reads in the reply. -/
lemma generateQuiz_of_asks (h : context.asks generator started = true) :
    (context.generateQuiz parse generator started reply now).1 =
      (reply.quizData parse).elim context fun v =>
        context.issue (context.quizOf generator (.ofJson v) now) now := by
  unfold StudyContext.generateQuiz StudyContext.replied
  rw [if_pos h]
  cases reply.quizData parse with
  | none => rfl
  | some v => rfl

/-- When the call of a generator begins; `generateSurpriseQuiz` does not read the clock. -/
def Event.startedAt : Event → ℕ
  | .generateQuizFromConversation _ _ now => now
  | _ => 0

/-- A generator asks for the session whose tests it has passed. -/
lemma asks_of_asking {s : StudyModeService} {e : Event} {i : ℕ}
    (hasking : s.asking e = some (i, context)) (hgenerator : e.generator = some generator) :
    context.asks generator e.startedAt = true := by
  cases e with
  | generateQuizFromConversation roomId recentTranscripts now =>
    obtain rfl := Option.some.inj hgenerator
    exact (Option.filter_eq_some_iff.mp hasking).2
  | generateSurpriseQuiz roomId keyword =>
    obtain rfl := Option.some.inj hgenerator
    exact (Option.filter_eq_some_iff.mp hasking).2
  | _ => cases hasking

/-- The step in which a generator asks the model. -/
lemma step_of_asking {s s' : StudyModeService} {e : Event} {i : ℕ}
    (hasking : s.asking e = some (i, context)) (hgenerator : e.generator = some generator)
    (hstep : studyMode.step s e = some s') :
    Leaves s s' ∧ ∃ prompt, s'.calls = s.calls.enter ⟨i, generator, prompt⟩ := by
  cases moves_of_step hstep with
  | rests e s' hidle hleaves hcalls => cases hasking.symm.trans hidle.asking
  | asks e generation context' s' hmay hleaves hcalls =>
    obtain ⟨session, generator', prompt⟩ := generation
    cases hasking.symm.trans hmay.asking
    cases hgenerator.symm.trans hmay.generator
    exact ⟨hleaves, prompt, hcalls⟩
  | _ => cases hgenerator

/-- **A call and its events.** If a generator asks the model and the reply comes with nothing in
between, the session is afterwards what the whole call makes of it. -/
theorem sessions_generate {s s₁ s₂ : StudyModeService} {e : Event} {i : ℕ}
    (hasking : s.asking e = some (i, context)) (hgenerator : e.generator = some generator)
    (hask : studyMode.step s e = some s₁)
    (hreply : studyMode.step s₁ (.quizReplied s.calls.next
      ((reply.quizData parse).map QuizData.ofJson) now) = some s₂) :
    s₂.sessions.get i = some (context.generateQuiz parse generator e.startedAt reply now).1 := by
  obtain ⟨hleaves, prompt, hcalls⟩ := step_of_asking hasking hgenerator hask
  have hsession : s₁.sessions.get i = some context :=
    (hleaves.get i).trans (get_of_asking hasking)
  have hwaits : s₁.calls.get s.calls.next = some ⟨i, generator, prompt⟩ := by
    rw [hcalls, Ledger.get_enter, if_pos rfl]
  rw [generateQuiz_of_asks (asks_of_asking hasking hgenerator)]
  cases hv : reply.quizData parse with
  | none =>
    rw [hv] at hreply
    cases moves_of_step hreply with
    | rests e s' hidle => exact hidle.elim
    | asks e generation context' s' hmay => cases hmay.asking
    | fails call generation now s' hcall hleaves' hcalls' =>
      exact (hleaves'.get i).trans hsession
  | some v =>
    rw [hv] at hreply
    cases moves_of_step hreply with
    | rests e s' hidle => exact hidle.elim
    | asks e generation context' s' hmay => cases hmay.asking
    | issues call generation quizData now s' hcall hissued hnone hcalls' =>
      cases hwaits.symm.trans hcall
      rw [(hissued context hsession).get i, if_pos rfl]
      rfl

/-! ## Well-formed replies -/

/-- The answer of a quiz is one of its options. -/
def StudyQuiz.HasAnswer (quiz : StudyQuiz) : Prop :=
  ∃ options correctIndex, quiz.options = some (.arr options) ∧
    quiz.correctIndex = some (.num correctIndex) ∧ ∃ n < options.length, correctIndex = n

/-- What a call is to keep to: without a quiz it leaves the quizzes of the session alone, and a quiz
has its answer. -/
structure Atomic (context : StudyContext) (result : StudyContext × Option StudyQuiz) : Prop where
  currentQuiz : result.2 = none → result.1.currentQuiz = context.currentQuiz
  lastQuizTime : result.2 = none → result.1.lastQuizTime = context.lastQuizTime
  quizCount : result.2 = none → result.1.quizCount = context.quizCount
  quizHistory : result.2 = none → result.1.quizHistory = context.quizHistory
  hasAnswer : ∀ quiz, result.2 = some quiz → quiz.HasAnswer

/-- The question of a value is a text, and its index is one of its options. -/
structure WellFormed (v : JsVal) : Prop where
  question : ∃ text, v.field "question" = some (.str text)
  answer : ∃ options correctIndex, v.field "options" = some (.arr options) ∧
    v.field "correctIndex" = some (.num correctIndex) ∧ ∃ n < options.length, correctIndex = n

/-- A call that leaves the session as it is. -/
lemma atomic_unchanged (context : StudyContext) : Atomic context (context, none) :=
  ⟨fun _ => rfl, fun _ => rfl, fun _ => rfl, fun _ => rfl, fun _ h => nomatch h⟩

/-- A call that has counted a quiz has to return it. -/
lemma not_atomic_issue (context : StudyContext) (quiz : StudyQuiz) (now : ℕ) :
    ¬ Atomic context (context.issue quiz now, none) := fun h =>
  absurd (h.quizCount rfl) (Nat.succ_ne_self context.quizCount)

/-- The log statement reads a text. -/
lemma hasText_quizOf {v : JsVal} :
    (context.quizOf generator (.ofJson v) now).hasText = true ↔
      ∃ text, v.field "question" = some (.str text) := by
  unfold StudyQuiz.hasText
  rw [Option.isSome_iff_exists]
  constructor
  · rintro ⟨text, h⟩
    obtain ⟨w, hw, htext⟩ := Option.bind_eq_some_iff.mp h
    cases w with
    | str text' => exact ⟨text', hw⟩
    | _ => cases htext
  · rintro ⟨text, h⟩
    exact ⟨text, Option.bind_eq_some_iff.mpr ⟨_, h, rfl⟩⟩

/-- After a value has been read, the call is atomic exactly if the value is well formed. -/
lemma replied_atomic_iff :
    Atomic context (context.replied parse generator reply now) ↔
      ∀ v, reply.quizData parse = some v → WellFormed v := by
  unfold StudyContext.replied
  cases reply.quizData parse with
  | none => exact iff_of_true (atomic_unchanged context) fun v h => nomatch h
  | some v =>
    simp only [Option.some.injEq, forall_eq']
    constructor
    · intro h
      cases htext : (context.quizOf generator (.ofJson v) now).hasText with
      | false =>
        rw [htext] at h
        exact absurd h (not_atomic_issue context _ now)
      | true =>
        rw [htext] at h
        exact ⟨hasText_quizOf.mp htext, h.hasAnswer _ rfl⟩
    · intro h
      rw [if_pos (hasText_quizOf.mpr h.question)]
      refine ⟨nofun, nofun, nofun, nofun, fun quiz hquiz => ?_⟩
      obtain rfl := Option.some.inj hquiz
      exact h.answer

/-- A call is atomic exactly if it does not ask the model or reads nothing but well-formed objects.
-/
lemma generate_atomic_iff :
    Atomic context (context.generateQuiz parse generator started reply now) ↔
      (context.asks generator started = true →
        ∀ v, reply.quizData parse = some v → WellFormed v) := by
  unfold StudyContext.generateQuiz
  split
  · rename_i hasks
    rw [replied_atomic_iff]
    exact ⟨fun h _ => h, fun h => h hasks⟩
  · rename_i hasks
    exact iff_of_true (atomic_unchanged context) fun h => absurd h hasks

/-- **Quiz generation is all or nothing**, for both generators, if and only if the generator does
not ask the model or what it reads in the reply is well formed. -/
theorem generateQuiz_atomic_iff (parse : String → Option JsVal) (context : StudyContext)
    (keyword : String) (started : ℕ) (reply : Reply) (now : ℕ) :
    (Atomic context (context.generateQuizFromConversation parse started reply now) ↔
      (context.asks .conversation started = true →
        ∀ v, reply.quizData parse = some v → WellFormed v)) ∧
    (Atomic context (context.generateSurpriseQuiz parse keyword started reply now) ↔
      (context.asks (.surprise keyword) started = true →
        ∀ v, reply.quizData parse = some v → WellFormed v)) :=
  ⟨generate_atomic_iff, generate_atomic_iff⟩

/-- A reply without a question. -/
def noQuestion : String := "\x7b\x7d"

/-- A reply with two options, of which the third one is the answer. -/
def thirdOfTwo : String :=
  "\x7b\"question\": \"?\", \"options\": [\"a\", \"b\"], \"correctIndex\": 2\x7d"

/-- What the two replies are parsed to. -/
def parseReplies (text : String) : Option JsVal :=
  if text = noQuestion then some (.obj [])
  else if text = thirdOfTwo then
    some (.obj [("question", .str "?"), ("options", .arr [.str "a", .str "b"]),
      ("correctIndex", .num 2)])
  else none

/-- **A failed call that counts, and an answer that is no option.** -/
theorem malformed_quizzes :
    (let context := newContext "graphs" 300 0
      let result :=
        context.generateQuizFromConversation parseReplies 60000 (.text noQuestion) 61000
      result.2.isNone ∧ result.1.quizCount = 1 ∧ result.1.lastQuizTime = 61000 ∧
        ¬ Atomic context result) ∧
    (let context := newContext "graphs" 300 0
      let result := context.generateSurpriseQuiz parseReplies "tree" 60000 (.text thirdOfTwo) 61000
      result.2.isSome ∧ ¬ Atomic context result) := by
  constructor
  · have hreturned : ((newContext "graphs" 300 0).generateQuizFromConversation parseReplies 60000
        (.text noQuestion) 61000).2.isNone := by decide +kernel
    have hcount : ((newContext "graphs" 300 0).generateQuizFromConversation parseReplies 60000
        (.text noQuestion) 61000).1.quizCount = 1 := by decide +kernel
    refine ⟨hreturned, hcount, by decide +kernel, fun h => ?_⟩
    exact absurd (hcount.symm.trans (h.quizCount (Option.isNone_iff_eq_none.mp hreturned)))
      (by decide)
  · have hreturned : ((newContext "graphs" 300 0).generateSurpriseQuiz parseReplies "tree" 60000
        (.text thirdOfTwo) 61000).2.isSome := by decide +kernel
    refine ⟨hreturned, fun h => ?_⟩
    have hv : (Reply.text thirdOfTwo).quizData parseReplies = some (.obj [("question", .str "?"),
        ("options", .arr [.str "a", .str "b"]), ("correctIndex", .num 2)]) := by
      rw [Reply.quizData, show jsonMatch thirdOfTwo = some thirdOfTwo by decide +kernel]
      rfl
    obtain ⟨options, correctIndex, hoptions, hindex, n, hn, hnum⟩ :=
      (generate_atomic_iff.mp h (by decide) _ hv).answer
    cases hoptions
    cases hindex
    have htwo : n = 2 := by exact_mod_cast hnum.symm
    subst htwo
    exact absurd hn (by decide)

end Study
