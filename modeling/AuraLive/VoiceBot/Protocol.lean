import AuraLive.VoiceBot.Flows

set_option relaxedAutoImplicit false
set_option autoImplicit false

/-!
# The protocol of the response flows

What a response flow may do with the shared fields of the context, and when. The flows follow a
common protocol around `speakAndPublish`: a flow takes a request id, reserves `isPublishing`, sets
the state SPEAKING, synthesizes, checks its id, announces itself, plays its frames and gives
everything back. The phase of a task records where in this protocol it is.

## Main definitions

* `VoiceBot.Phase` — the phase of a task.
* `VoiceBot.Move`, `Wait`, `Exit` — what a task may do in a phase.
* `VoiceBot.protocol` — the discipline of the flows of a room.

## Design

* **Debts.** `floor`, `speaking`, `covers` and `lock` are what the task still has to give back. A
  task whose `floor` is `whenCurrent` gives `isPublishing` back only if its request id is still the
  current one.
* **The three silent `catch` blocks.** The timer callback, an offered opinion and the explanation of
  diagrams swallow an exception of `speakAndPublish` without leaving SPEAKING: `logError` drops the
  debt there.
* **`thinkingTask`.** The parent answers for the state SPEAKING of its `thinkingTask` (`covers`)
  until that has ended well.
-/

namespace VoiceBot

open Foundations

/-- What a task owes on `isPublishing`. -/
inductive Floor where
  | none
  | whenCurrent
  | always
  deriving DecidableEq, Repr

/-- Where a task is in `speakAndPublish`. -/
inductive Mic where
  | off
  | synthesizing
  /-- Past the check of the request id, up to the last frame. -/
  | onAir
  deriving DecidableEq, Repr

/-- The phase of a task. -/
structure Phase where
  /-- The task whose request it speaks for. -/
  root : ℕ
  /-- The `thinkingTask` it is. -/
  thinking : Option Thinking
  /-- Its timer has been taken out. -/
  fired : Bool
  /-- Its promise has been settled. -/
  ended : Bool
  utterance : Bool
  greeting : Bool
  request : Option ℕ
  floor : Floor
  /-- It has taken a request id and reserves `isPublishing` next. -/
  taking : Bool
  speaking : Bool
  /-- It has started a `thinkingTask`. -/
  armed : Bool
  /-- Its `thinkingTask` may be running. -/
  child : Bool
  /-- Its LLM call has settled. -/
  resolved : Bool
  covers : Bool
  mic : Mic
  /-- It has muted the bot and sets the interrupt flag next. -/
  muting : Bool
  /-- The id of the capture response it handles. -/
  capture : Option ℕ
  /-- The capture response has no image. -/
  imageless : Bool
  polling : Bool
  lock : Bool
  analysed : Bool
  /-- The id of the capture it is requesting. -/
  requesting : Option ℕ
  /-- It has left the vision mode in this turn. -/
  cleared : Bool
  deriving DecidableEq, Repr

/-- The "thinking" announcement a flow makes. -/
def Flow.announcement : Flow → Option Thinking
  | .thinking t => some t
  | _ => none

/-- The flow answers an utterance. -/
def Flow.isUtterance : Flow → Bool
  | .processAndRespond _ => true
  | _ => false

/-- The flow greets. -/
def Flow.isGreeting : Flow → Bool
  | .clientReady _ => true
  | _ => false

/-- The capture response a flow handles. -/
def Flow.captureResponse : Flow → Option CaptureResponse
  | .handleVisionCaptureResponse message => some message
  | _ => none

/-- The phase of a flow that has just been called. -/
def start (n : ℕ) (flow : Flow) : Phase where
  root := flow.root n
  thinking := flow.announcement
  fired := false
  ended := false
  utterance := flow.isUtterance
  greeting := flow.isGreeting
  request := none
  floor := .none
  taking := false
  speaking := false
  armed := false
  child := false
  resolved := false
  covers := false
  mic := .off
  muting := false
  capture := flow.captureResponse.bind CaptureResponse.requestId
  imageless := flow.captureResponse.any fun message => message.imageBase64.isNone
  polling := false
  lock := false
  analysed := false
  requesting := none
  cleared := false

instance : Inhabited Phase := ⟨start 0 .armedTimeout⟩

/-- The capture response of the task answers the pending request. -/
def Phase.Matches (φ : Phase) (s : RoomState) : Prop :=
  ∃ pending, s.pendingVisionRequest = some pending ∧ φ.capture = some pending.requestId

/-- The conditions on taking a request id, by the place in the code. -/
def ClaimOk (φ : Phase) (s : RoomState) (claim : Claim) : Prop :=
  match claim.site with
  | .transcript => s.isPublishing = false
  | .utterance => s.isPublishing = false
  | .diagrams => s.isPublishing = false
  | .vision => φ.floor = .always ∧ φ.lock = true ∧ φ.capture = some claim.requestId
  | .timer => True
  | .perplexity => True

/-- The actions of a task in a phase, and the phase they lead to. -/
def Move : Act → Phase → RoomState → Phase → Prop
  | .setModes _, φ, _, φ' => φ' = φ
  | .setParticipants _, φ, _, φ' => φ' = φ
  | .setScreenShare _, φ, _, φ' => φ' = φ
  | .setGreetingDone, φ, _, φ' => φ' = φ
  | .setActiveUserId _, φ, _, φ' => φ' = φ
  | .setConversationHistory _, φ, _, φ' => φ' = φ
  | .setVisionMode true, φ, _, φ' => φ' = φ
  | .setVisionMode false, φ, _, φ' => φ.utterance = false ∧ φ' = { φ with cleared := true }
  | .setPendingVisionRequest none, φ, _, φ' => φ' = φ
  | .setPendingVisionRequest (some request), φ, _, φ' =>
    φ.requesting = some request.requestId ∧ φ' = φ
  | .setAiMuted muted, φ, _, φ' => φ.mic = .off ∧ φ' = { φ with muting := muted }
  | .setShouldInterrupt true, φ, _, φ' => φ' = { φ with muting := false }
  | .setShouldInterrupt false, φ, s, φ' =>
    match φ.mic with
    | .off => φ' = φ
    | .synthesizing =>
      (s.currentRequestId = 0 ∨ φ.request = some s.currentRequestId) ∧ φ' = { φ with mic := .onAir }
    | .onAir => φ' = { φ with mic := .off }
  | .setBotState .speaking, φ, _, φ' =>
    (φ.thinking.isSome → φ.request = none ∧ φ.ended = false) ∧ φ' = { φ with speaking := true }
  | .setBotState _, φ, _, φ' =>
    (φ.child = true → φ.resolved = true) ∧ φ' = { φ with speaking := false, covers := false }
  | .setPublishing true, φ, s, φ' =>
    φ' = { φ with floor := .always, taking := false } ∨
    (φ.request = some s.currentRequestId ∧ ⟨φ.root, s.currentRequestId, .utterance⟩ ∈ s.claims ∧
      φ' = { φ with floor := .whenCurrent, taking := false })
  | .setPublishing false, φ, _, φ' => φ' = { φ with floor := .none }
  | .setCurrentRequestId claim, φ, s, φ' =>
    claim.task = φ.root ∧ φ.thinking = none ∧ φ.greeting = false ∧ φ.request = none ∧
      φ.mic = .off ∧ φ.child = false ∧ ClaimOk φ s claim ∧
      φ' = { φ with request := some claim.requestId, taking := claim.site = .perplexity }
  | .touch _, φ, _, φ' => φ' = φ ∨ φ' = { φ with mic := .off }
  | .setProcessingLock true, φ, s, φ' =>
    s.processingLock = false ∧ φ.lock = false ∧ φ.analysed = false ∧
      (φ.polling = true ∨ φ.Matches s) ∧ φ' = { φ with lock := true }
  | .setProcessingLock false, φ, s, φ' =>
    φ.lock = true ∧ s.pendingVisionRequest = none ∧ φ' = { φ with lock := false }
  | .captureFrame voice _, φ, s, φ' =>
    φ.mic = .onAir ∧ s.shouldInterrupt = false ∧
      (∀ requestId, voice = .answer requestId → φ.request = some requestId) ∧
      (φ' = φ ∨ φ' = { φ with mic := .off })
  | .requestCapture requestId, φ, s, φ' =>
    s.isVisionMode = false ∧ φ.cleared = false ∧ φ.capture = none ∧
      φ' = { φ with requesting := some requestId }
  | .analyze requestId, φ, _, φ' =>
    φ.lock = true ∧ φ.imageless = false ∧ φ.capture = some requestId ∧ φ.analysed = false ∧
      φ' = { φ with analysed := true }
  | .resolveLlm task, φ, _, φ' =>
      task = φ.root ∧ φ.thinking = none ∧ φ' = { φ with resolved := true }
  | .speakThinking task, φ, s, φ' =>
    ∃ t, φ.thinking = some t ∧ task = t.parent ∧ φ.fired = true ∧ φ.ended = false ∧
      φ.request = none ∧ φ.mic = .off ∧ φ.speaking = true ∧ task ∉ s.llmResolved ∧
        t.requestId = s.currentRequestId ∧
      φ' = { φ with request := some t.requestId }
  | .armThinking t, φ, _, φ' =>
    φ.thinking = none ∧ t.parent = φ.root ∧ φ.request = some t.requestId ∧ φ.mic = .off ∧
      φ.armed = false ∧ φ' = { φ with armed := true, child := true, covers := true }
  | .fireThinking t, φ, _, φ' =>
    φ.thinking = some t ∧ φ.fired = false ∧ φ.ended = false ∧ φ' = { φ with fired := true }
  | .endThinking task result, φ, s, φ' =>
    φ.thinking.isSome ∧ task = φ.root ∧ φ.fired = true ∧ φ.ended = false ∧
      (φ.request = none → φ.speaking = false) ∧
      (result = .ok () → φ.request = none ∨ s.botState ≠ .speaking) ∧
      φ' = { φ with ended := true, mic := .off }
  | .logError site, φ, _, φ' =>
    if site = .opinion ∨ site = .timerNotify ∨ site = .diagrams then
      (φ.speaking = true → φ.request.isSome) ∧ φ' = { φ with speaking := false }
    else φ' = φ

/-- The phases an action may lead to. -/
def Act.outcomes (φ : Phase) : Act → List Phase
  | .setVisionMode false => [{ φ with cleared := true }]
  | .setAiMuted muted => [{ φ with muting := muted }]
  | .setShouldInterrupt true => [{ φ with muting := false }]
  | .setShouldInterrupt false => [φ, { φ with mic := .onAir }, { φ with mic := .off }]
  | .setBotState .speaking => [{ φ with speaking := true }]
  | .setBotState _ => [{ φ with speaking := false, covers := false }]
  | .setPublishing true =>
    [{ φ with floor := .always, taking := false },
      { φ with floor := .whenCurrent, taking := false }]
  | .setPublishing false => [{ φ with floor := .none }]
  | .setCurrentRequestId claim =>
    [{ φ with request := some claim.requestId, taking := claim.site = .perplexity }]
  | .touch _ => [φ, { φ with mic := .off }]
  | .setProcessingLock on => [{ φ with lock := on }]
  | .captureFrame _ _ => [φ, { φ with mic := .off }]
  | .requestCapture requestId => [{ φ with requesting := some requestId }]
  | .analyze _ => [{ φ with analysed := true }]
  | .resolveLlm _ => [{ φ with resolved := true }]
  | .speakThinking _ => [{ φ with request := φ.thinking.map Thinking.requestId }]
  | .armThinking _ => [{ φ with armed := true, child := true, covers := true }]
  | .fireThinking _ => [{ φ with fired := true }]
  | .endThinking _ _ => [{ φ with ended := true, mic := .off }]
  | .logError _ => [φ, { φ with speaking := false }]
  | _ => [φ]

/-- Whatever the conditions on an action are, it leads to one of its outcomes. -/
lemma Move.outcome {a : Act} {φ φ' : Phase} {s : RoomState} (hmove : Move a φ s φ') :
    φ' ∈ a.outcomes φ := by
  cases a with
  | setVisionMode on => cases on <;> simp_all [Move, Act.outcomes]
  | setPendingVisionRequest request => cases request <;> simp_all [Move, Act.outcomes]
  | setShouldInterrupt on => cases on <;> cases hmic : φ.mic <;> simp_all [Move, Act.outcomes]
  | setBotState state => cases state <;> simp_all [Move, Act.outcomes]
  | setPublishing on =>
    cases on with
    | true => rcases hmove with rfl | ⟨-, -, rfl⟩ <;> simp [Act.outcomes]
    | false => simp_all [Move, Act.outcomes]
  | setProcessingLock on => cases on <;> simp_all [Move, Act.outcomes]
  | speakThinking task =>
    obtain ⟨t, ht, -, -, -, -, -, -, -, -, rfl⟩ := hmove
    simp [Act.outcomes, ht]
  | logError site =>
    simp only [Move] at hmove
    split at hmove <;> simp_all [Act.outcomes]
  | _ => simp_all [Move, Act.outcomes]

/-- The actions that concern who is on air: they write the microphone or the request of the task, or
the fields of the context that decide who may go on. -/
def Act.concernsSpeech : Act → Bool
  | .setAiMuted _ | .setShouldInterrupt _ | .setCurrentRequestId _ | .touch _ | .captureFrame _ _
  | .speakThinking _ | .endThinking _ _ => true
  | _ => false

/-- The other actions do not change who is on air. -/
lemma Move.speech_eq {a : Act} {φ φ' : Phase} {s : RoomState} (hmove : Move a φ s φ')
    (ha : a.concernsSpeech = false) :
    (φ'.root = φ.root ∧ φ'.greeting = φ.greeting ∧ φ'.request = φ.request ∧ φ'.mic = φ.mic ∧
      φ'.muting = φ.muting) ∧
      (a.apply s).currentRequestId = s.currentRequestId ∧ (a.apply s).aiMuted = s.aiMuted ∧
      (a.apply s).shouldInterrupt = s.shouldInterrupt := by
  have hout := hmove.outcome
  refine ⟨?_, ?_⟩
  · cases a with
    | setVisionMode on => cases on <;> simp_all [Act.outcomes]
    | setBotState state => cases state <;> simp_all [Act.outcomes]
    | setPublishing on =>
      cases on with
      | true => rcases List.mem_pair.mp hout with rfl | rfl <;> simp
      | false => simp_all [Act.outcomes]
    | logError site => rcases List.mem_pair.mp hout with rfl | rfl <;> simp
    | setAiMuted muted | setShouldInterrupt on | setCurrentRequestId claim | touch stamp
    | captureFrame voice frame | speakThinking task | endThinking task result =>
      simp [Act.concernsSpeech] at ha
    | _ => simp_all [Act.outcomes]
  · cases a with
    | setAiMuted muted | setShouldInterrupt on | setCurrentRequestId claim | touch stamp =>
      simp [Act.concernsSpeech] at ha
    | _ => exact ⟨rfl, rfl, rfl⟩

/-- Where a task that waits for a call is in `speakAndPublish`. -/
def micOf : Op → Mic
  | .synthesizePcm _ _ => .synthesizing
  | .announce _ _ => .onAir
  | .frameTimer _ => .onAir
  | _ => .off

/-- The request or the greeting a task plays. -/
def Phase.Plays (φ : Phase) : Voice → Prop
  | .answer requestId => φ.request = some requestId
  | .greeting => φ.greeting = true

/-- The conditions on an awaited call. -/
def WaitOk (φ : Phase) (s : RoomState) : Op → Prop
  | .synthesizePcm voice _ => φ.Plays voice ∧ φ.child = false ∧ s.aiMuted = false
  | .announce requestId _ => φ.request = some requestId ∧ φ.mic = .onAir
  | .frameTimer voice => φ.Plays voice ∧ φ.mic = .onAir
  | .sleep _ => s.processingLock = true ∧ φ.lock = false ∧ (φ.polling = true ∨ φ.Matches s)
  | .thinkingTask task => task = φ.root ∧ φ.thinking = none ∧ φ.child = true
  | _ => True

/-- The phase of a task that waits. -/
def park (op : Op) (φ : Phase) : Phase :=
  { φ with
    mic := micOf op
    polling := match op with
      | .sleep _ => true
      | _ => φ.polling
    requesting := none
    cleared := false }

/-- A task can be suspended: nothing is half done. -/
structure Phase.Settled (φ : Phase) : Prop where
  taking : φ.taking = false
  muting : φ.muting = false
  thinking : φ.thinking.isSome → φ.fired = true ∧ φ.ended = false ∧ φ.request.isSome
  /-- A capture response has the lock, or waits for it. -/
  locked : φ.capture.isSome → φ.lock = true ∨ φ.polling = true

/-- The calls a task may await in a phase. -/
def Wait (op : Op) (φ : Phase) (s : RoomState) (φ' : Phase) : Prop :=
  φ'.Settled ∧ WaitOk φ s op ∧ φ' = park op φ

/-- The phase after a call has ended. -/
def resume (op : Op) (reply : Except String op.Reply) (φ : Phase) : Phase :=
  match op, reply with
  | .synthesizePcm .greeting _, .ok _ => { φ with mic := .onAir }
  | .synthesizePcm _ _, .error _ => { φ with mic := .off }
  | .announce _ _, .error _ => { φ with mic := .off }
  | .frameTimer _, .error _ => { φ with mic := .off }
  | .thinkingTask _, .ok _ => { φ with child := false, covers := false }
  | .thinkingTask _, .error _ => { φ with child := false }
  | _, _ => φ

/-- A task may end when it has given everything back. A capture response without an image never does
once it has the lock. -/
structure Exit (φ : Phase) (s : RoomState) : Prop where
  taking : φ.taking = false
  muting : φ.muting = false
  thinking : φ.thinking.isSome → φ.fired = true ∧ φ.ended = true
  speaking : φ.thinking = none → φ.speaking = false
  child : φ.child = true → φ.resolved = true
  covers : φ.covers = false
  floor : φ.lock = false → φ.floor ≠ .always
  whenCurrent : φ.floor = .whenCurrent → φ.request ≠ some s.currentRequestId
  lock : φ.imageless = false → φ.lock = false

/-- The discipline of the flows of a room. -/
@[reducible] def protocol (env : Env) : Discipline (runtime env) where
  Phase := Phase
  start := start
  Move := Move
  Wait := Wait
  resume := resume
  Exit := Exit

end VoiceBot
