import AuraLive.VoiceBot.Protocol

set_option relaxedAutoImplicit false
set_option autoImplicit false

/-!
# The flows follow the protocol

Every flow of a room obeys the protocol, whatever the environment answers. One lemma for each
function of the service says from which phase it may be called and in which phases it can end; a
caller cites the lemma and does not look into the function.

## Main definitions

* `VoiceBot.Phase.Calm`, `Responds`, `Answers`, `Deciding` — the phases in which the
  functions are called.
* `VoiceBot.Phase.Handles` — what a caller must be able to do with every way a function can end.

## Main results

* `VoiceBot.obeys_speakAndPublish` — the rule for `speakAndPublish`, on which the others rest.
* `VoiceBot.protocol_sound` — every flow obeys the protocol from the phase it starts in.
-/

namespace VoiceBot

open Foundations
open Foundations.Async (get perform)

variable {env : Env} {α : Type} {φ ψ : Phase} {s : RoomState}

section Rules

variable {Q : Except String α → Phase → RoomState → Prop}

/-- A call may be awaited where the protocol allows it. -/
lemma obeys_await {op : Op} {Q : Except String op.Reply → Phase → RoomState → Prop}
    (hwait : Wait op φ s ψ) (hQ : ∀ reply s', Q reply (resume op reply ψ) s') :
    (protocol env).Obeys (await op) φ s Q :=
  Discipline.obeys_await.mpr ⟨ψ, hwait, hQ⟩

/-- An awaited call and what follows it. -/
lemma obeys_await_bind {op : Op} {g : op.Reply → Prog α} (hwait : Wait op φ s ψ)
    (hnext : ∀ reply s',
      (protocol env).Obeys (Async.onValue g reply) (resume op reply ψ) s' Q) :
    (protocol env).Obeys (await op >>= g) φ s Q :=
  Discipline.obeys_bind.mpr (obeys_await hwait hnext)

/-- An action may be performed where the protocol allows it. -/
lemma obeys_perform {a : Act} {Q : Except String Unit → Phase → RoomState → Prop}
    (hmove : Move a φ s ψ) (hQ : Q (.ok ()) ψ (a.apply s)) :
    (protocol env).Obeys (perform a) φ s Q :=
  ⟨ψ, hmove, hQ⟩

/-- An action and what follows it. -/
lemma obeys_perform_bind {a : Act} {g : Unit → Prog α} (hmove : Move a φ s ψ)
    (hnext : (protocol env).Obeys (g ()) ψ (a.apply s) Q) :
    (protocol env).Obeys (perform a >>= g) φ s Q :=
  ⟨ψ, hmove, hnext⟩

/-- The state is read. -/
lemma obeys_get_bind {g : RoomState → Prog α} (hnext : (protocol env).Obeys (g s) φ s Q) :
    (protocol env).Obeys (get >>= g) φ s Q :=
  hnext

/-- A branch. -/
lemma obeys_ite {c : Prop} {_ : Decidable c} {p q : Prog α} (hp : c → (protocol env).Obeys p φ s Q)
    (hq : ¬ c → (protocol env).Obeys q φ s Q) :
    (protocol env).Obeys (if c then p else q) φ s Q := by
  by_cases hc : c
  · rw [if_pos hc]
    exact hp hc
  · rw [if_neg hc]
    exact hq hc

end Rules

/-- A call that the protocol says nothing about. -/
def Op.Ordinary : Op → Prop
  | .synthesizePcm _ _ => False
  | .announce _ _ => False
  | .frameTimer _ => False
  | .sleep _ => False
  | .thinkingTask _ => False
  | _ => True

/-- A task between two calls, with the microphone off. -/
structure Phase.Calm (φ : Phase) : Prop extends φ.Settled where
  mic : φ.mic = .off
  requesting : φ.requesting = none
  cleared : φ.cleared = false

/-- An ordinary call changes nothing. -/
lemma obeys_ordinary {op : Op} (hφ : φ.Calm)
    {Q : Except String op.Reply → Phase → RoomState → Prop} (hQ : ∀ reply s', Q reply φ s')
    (hop : op.Ordinary := by exact trivial) :
    (protocol env).Obeys (await op) φ s Q := by
  have hpark : park op φ = φ := by
    obtain ⟨-, hmic, hreq, hcl⟩ := hφ
    cases φ
    cases op <;> simp_all [park, micOf, Op.Ordinary]
  refine obeys_await ⟨hφ.toSettled, ?_, hpark.symm⟩ fun reply s' => ?_
  · cases op <;> simp_all [WaitOk, Op.Ordinary]
  · have hres : resume op reply φ = φ := by
      cases op <;> simp_all [resume, Op.Ordinary]
    rw [hres]
    exact hQ reply s'

/-- An ordinary call and what follows it. -/
lemma obeys_ordinary_bind {op : Op} {g : op.Reply → Prog α} (hφ : φ.Calm)
    {Q : Except String α → Phase → RoomState → Prop}
    (hok : ∀ a s', (protocol env).Obeys (g a) φ s' Q)
    (herror : ∀ message s', Q (.error message) φ s') (hop : op.Ordinary := by exact trivial) :
    (protocol env).Obeys (await op >>= g) φ s Q := by
  refine Discipline.obeys_bind.mpr (obeys_ordinary hφ (fun reply s' => ?_) hop)
  cases reply with
  | error message => exact herror message s'
  | ok a => exact hok a s'

/-- The phase with another state of the microphone. -/
def Phase.withMic (φ : Phase) (m : Mic) : Phase := { φ with mic := m }

/-- A frame may be sent on air, as long as no interrupt is asked for. -/
lemma move_captureFrame {voice : Voice} (frame : Frame) (hplays : φ.Plays voice)
    (hint : s.shouldInterrupt = false) :
    Move (.captureFrame voice frame) (φ.withMic .onAir) s (φ.withMic .onAir) := by
  refine ⟨rfl, hint, ?_, .inl rfl⟩
  rintro requestId rfl
  exact hplays

/-- Playing frames: the task is on air up to the last one, or up to an interrupt. -/
lemma obeys_publishAudio (voice : Voice) (hset : φ.Settled) (hplays : φ.Plays voice)
    (hreq : φ.requesting = none) (hcl : φ.cleared = false)
    {Q : Except String Unit → Phase → RoomState → Prop} (hok : ∀ m s', Q (.ok ()) (φ.withMic m) s')
    (herror : ∀ message s', Q (.error message) (φ.withMic .off) s') :
    ∀ (frames : List Frame) (s : RoomState),
      (protocol env).Obeys (publishAudio voice frames) (φ.withMic .onAir) s Q := by
  intro frames
  induction frames with
  | nil =>
    intro s
    cases hint : s.shouldInterrupt
    · simp [publishAudio, hint, hok]
    · simpa [publishAudio, hint, Move, Phase.withMic] using hok .off _
  | cons frame rest ih =>
    intro s
    cases hint : s.shouldInterrupt with
    | true =>
      cases rest <;> simpa [publishAudio, hint, Move, Phase.withMic] using hok .off _
    | false =>
      have hmove := move_captureFrame frame hplays hint
      cases rest with
      | nil =>
        refine obeys_get_bind ?_
        rw [hint, if_neg Bool.false_ne_true]
        exact obeys_perform hmove (hok _ _)
      | cons next rest =>
        refine obeys_get_bind ?_
        rw [hint, if_neg Bool.false_ne_true]
        refine obeys_perform_bind hmove (obeys_await_bind (ψ := φ.withMic .onAir)
          ⟨⟨hset.1, hset.2, hset.3, hset.4⟩, ⟨?_, rfl⟩, ?_⟩ fun reply s' => ?_)
        · cases voice <;> exact hplays
        · simp [park, micOf, Phase.withMic, hreq, hcl]
        · cases reply with
          | error message => exact herror _ _
          | ok u => exact ih s'

/-- The phase in which a task may speak for a request. -/
structure Phase.Speaks (φ : Phase) (requestId : ℕ) : Prop extends φ.Calm where
  request : φ.request = some requestId
  child : φ.child = false

/-- A calm task waits for the speech of its request, or on air. -/
lemma Phase.Calm.park_eq (hφ : φ.Calm) (op : Op) (hop : ∀ ms, op ≠ .sleep ms) :
    park op φ = φ.withMic (micOf op) := by
  obtain ⟨-, -, hreq, hcl⟩ := hφ
  cases φ
  cases op <;> simp_all [park, Phase.withMic]

/-- The microphone of a calm task is off. -/
lemma Phase.Calm.withMic_off (hφ : φ.Calm) : φ.withMic .off = φ := by
  obtain ⟨-, hmic, -, -⟩ := hφ
  cases φ
  simp_all [Phase.withMic]

/-- Speech synthesis, the check of the request id, and the frames leave the phase as it was. -/
lemma obeys_synthesizeAndPublish {requestId : ℕ} {message : String} (hφ : φ.Speaks requestId)
    (hmuted : s.aiMuted = false) {Q : Except String Unit → Phase → RoomState → Prop}
    (hQ : ∀ res s', Q res φ s') :
    (protocol env).Obeys (synthesizeAndPublish requestId message) φ s Q := by
  have hset : ∀ m, (φ.withMic m).Settled := fun m => ⟨hφ.taking, hφ.muting, hφ.thinking, hφ.locked⟩
  have hoff : φ.withMic .off = φ := hφ.withMic_off
  have hsynth : park (.synthesizePcm (.answer requestId) message) φ = φ.withMic .synthesizing :=
    hφ.park_eq _ (by simp)
  have hair : park (.announce requestId message) (φ.withMic .onAir) = φ.withMic .onAir := by
    simp [park, Phase.withMic, micOf, hφ.requesting, hφ.cleared]
  refine obeys_await_bind ⟨hset .synthesizing, ⟨hφ.request, hφ.child, hmuted⟩, hsynth.symm⟩
    fun reply s₁ => ?_
  cases reply with
  | error message => exact hoff ▸ hQ _ _
  | ok pcmAudio =>
    by_cases hcheck : s₁.currentRequestId ≠ requestId ∧ s₁.currentRequestId ≠ 0
    · -- the id is no longer the current one: the task does not go on air
      refine obeys_perform_bind (ψ := φ) (.inr hoff.symm) (obeys_get_bind ?_)
      rw [if_pos (by simpa [Act.apply, RoomState.touch] using hcheck)]
      exact hQ _ _
    · refine obeys_perform_bind (ψ := φ.withMic .synthesizing) (.inl rfl) (obeys_get_bind ?_)
      rw [if_neg (by simpa [Act.apply, RoomState.touch] using hcheck)]
      have hid : s₁.currentRequestId = 0 ∨ φ.request = some s₁.currentRequestId := by
        rw [hφ.request, Option.some.injEq]
        tauto
      refine obeys_perform_bind (ψ := φ.withMic .onAir)
        ⟨by simpa [Act.apply, RoomState.touch, Phase.withMic] using hid, rfl⟩
        (obeys_await_bind ⟨hset _, ⟨hφ.request, rfl⟩, hair.symm⟩ fun reply s₂ => ?_)
      cases reply with
      | error message => exact hoff ▸ hQ _ _
      | ok u =>
        refine Discipline.obeys_bind.mpr (obeys_publishAudio (.answer requestId)
          hφ.toSettled hφ.request hφ.requesting hφ.cleared (fun m s₃ => ?_)
          (fun message s₃ => hoff ▸ hQ _ _) _ _)
        have hidle : park (.publishData (aiState "idle" none) none) (φ.withMic m) = φ := by
          rw [← hoff]
          simp [park, Phase.withMic, micOf, hφ.requesting, hφ.cleared]
        exact obeys_await ⟨hset _, trivial, hidle.symm⟩ fun reply s₄ => hQ _ _

/-- **Spec of `speakAndPublish`.** A task may speak for its request in any state; its phase is the
same afterwards. -/
lemma obeys_speakAndPublish {requestId : ℕ} {message : String} {skip : Bool}
    (hφ : φ.Speaks requestId) {Q : Except String Unit → Phase → RoomState → Prop}
    (hQ : ∀ res s', Q res φ s') :
    (protocol env).Obeys (speakAndPublish requestId message skip) φ s Q := by
  have hcard : ∀ s, (protocol env).Obeys (sendTextCardToHost message) φ s Q := fun s =>
    obeys_get_bind (obeys_ite (fun _ => hQ _ _) fun _ => obeys_ordinary hφ.toCalm hQ)
  refine obeys_get_bind (obeys_ite (fun _ => hQ _ _) fun hmuted => ?_)
  refine obeys_ite (fun _ => ?_) fun _ => obeys_ite (fun _ => ?_) fun _ => ?_
  · exact obeys_ordinary_bind hφ.toCalm (fun _ s' => hcard s') fun _ _ => hQ _ _
  · refine obeys_ordinary_bind hφ.toCalm (fun _ s' => ?_) fun _ _ => hQ _ _
    exact obeys_ite (fun _ => hQ _ _) fun _ => hcard s'
  · exact obeys_synthesizeAndPublish hφ (by simpa using hmuted) hQ

/-- `speakAndPublish` and what follows it. -/
lemma obeys_speak_bind {requestId : ℕ} {message : String} {skip : Bool} {g : Unit → Prog α}
    (hφ : φ.Speaks requestId) {Q : Except String α → Phase → RoomState → Prop}
    (hok : ∀ s', (protocol env).Obeys (g ()) φ s' Q)
    (herror : ∀ message s', Q (.error message) φ s') :
    (protocol env).Obeys (speakAndPublish requestId message skip >>= g) φ s Q := by
  refine Discipline.obeys_bind.mpr (obeys_speakAndPublish hφ fun res s' => ?_)
  cases res with
  | error message => exact herror message s'
  | ok u => exact hok s'

/-! ## The branches of `processAndRespond` -/

/-- A task without a running `thinkingTask` has nothing to wait for. -/
lemma Phase.joined (h : φ.child = false) : φ.child = true → φ.resolved = true :=
  fun hchild => Bool.noConfusion (h.symm.trans hchild)

/-- The phase while the bot is SPEAKING for the task. -/
def Phase.talk (φ : Phase) : Phase := { φ with speaking := true }

/-- The phase after the task has left SPEAKING. -/
def Phase.rest (φ : Phase) : Phase := { φ with speaking := false, covers := false }

lemma Phase.Speaks.talk {requestId : ℕ} (h : φ.Speaks requestId) : φ.talk.Speaks requestId :=
  ⟨⟨⟨h.taking, h.muting, h.thinking, h.locked⟩, h.mic, h.requesting, h.cleared⟩, h.request, h.child⟩

lemma Phase.Speaks.rest {requestId : ℕ} (h : φ.Speaks requestId) : φ.rest.Speaks requestId :=
  ⟨⟨⟨h.taking, h.muting, h.thinking, h.locked⟩, h.mic, h.requesting, h.cleared⟩, h.request, h.child⟩

section Branches

variable {requestId : ℕ} {Q : Except String Unit → Phase → RoomState → Prop}

/-- Entering SPEAKING. -/
lemma move_talk (hplain : φ.thinking = none) : Move (.setBotState .speaking) φ s φ.talk :=
  ⟨fun hsome => absurd hsome (by simp [hplain]), rfl⟩

/-- Leaving SPEAKING. -/
lemma move_rest {state : BotState} (hstate : state ≠ .speaking)
    (hjoin : φ.child = true → φ.resolved = true) : Move (.setBotState state) φ s φ.rest := by
  cases state with
  | speaking => exact absurd rfl hstate
  | sleep => exact ⟨hjoin, rfl⟩
  | armed => exact ⟨hjoin, rfl⟩

/-- The end of a branch: the bot leaves SPEAKING and the time is stored. -/
lemma obeys_finish {state : BotState} {stamp : Stamp} (hchild : φ.child = false)
    (hQ : ∀ s, Q (.ok ()) φ.rest s) (hstate : state ≠ .speaking := by simp) :
    (protocol env).Obeys
      (do
        setBotState state
        perform (.touch stamp)) φ s Q :=
  obeys_perform_bind (move_rest hstate (Phase.joined hchild)) (obeys_perform (.inl rfl) (hQ _))

/-- The end of a branch that also forgets the active user. -/
lemma obeys_finish_user (hchild : φ.child = false) (hQ : ∀ s, Q (.ok ()) φ.rest s) :
    (protocol env).Obeys
      (do
        setBotState .sleep
        perform (.setActiveUserId none)
        perform (.touch .lastResponse)) φ s Q :=
  obeys_perform_bind (move_rest (by simp) (Phase.joined hchild))
    (obeys_perform_bind (ψ := φ.rest) rfl (obeys_perform (.inl rfl) (hQ _)))

/-- A condition that holds when the task ends at rest, and when it throws at rest or SPEAKING. -/
structure Phase.Handles (φ : Phase) (Q : Except String Unit → Phase → RoomState → Prop) : Prop where
  ok : ∀ s, Q (.ok ()) φ.rest s
  talk : ∀ message s, Q (.error message) φ.talk s
  rest : ∀ message s, Q (.error message) φ.rest s

/-- The phase of a flow, not a `thinkingTask`, that may speak for its request. -/
structure Phase.Responds (φ : Phase) (requestId : ℕ) : Prop extends φ.Speaks requestId where
  plain : φ.thinking = none

lemma obeys_speakThen {message : String} {state : BotState} (hs : φ.Responds requestId)
    (hQ : φ.Handles Q) (hstate : state ≠ .speaking := by simp) :
    (protocol env).Obeys (speakThen requestId message state) φ s Q :=
  obeys_perform_bind (move_talk hs.plain)
    (obeys_speak_bind hs.talk (fun _ => obeys_finish (φ := φ.talk) hs.child hQ.ok hstate) hQ.talk)

lemma obeys_answerOnBoard (hs : φ.Responds requestId) (hQ : φ.Handles Q)
    {transcript context topic : String} :
    (protocol env).Obeys (answerOnBoard requestId transcript context topic) φ s Q := by
  refine obeys_perform_bind (move_talk hs.plain)
    (obeys_ordinary_bind hs.talk.toCalm (fun _ _ => ?_) hQ.talk)
  exact obeys_speak_bind hs.talk (fun _ => obeys_finish (φ := φ.talk) hs.child hQ.ok) hQ.talk

lemma obeys_answerInDesignMode (hs : φ.Responds requestId) (hQ : φ.Handles Q)
    {transcript : String} :
    (protocol env).Obeys (answerInDesignMode env requestId transcript) φ s Q :=
  obeys_get_bind (obeys_ite (fun _ => obeys_answerOnBoard hs hQ)
    fun _ => obeys_speakThen hs hQ)

/-! The branches below start at rest. -/

variable (hrest : φ.rest = φ)

include hrest

lemma obeys_detectAndBroadcastIdea (hφ : φ.Calm) (hQ : φ.Handles Q) {transcript userId : String} :
    (protocol env).Obeys (detectAndBroadcastIdea env transcript userId) φ s Q := by
  unfold detectAndBroadcastIdea
  cases env.ideaContent transcript with
  | none => exact hrest ▸ hQ.ok s
  | some content =>
    refine obeys_ordinary hφ fun reply s' => ?_
    cases reply with
    | error message => exact hrest ▸ hQ.rest message s'
    | ok u => exact hrest ▸ hQ.ok s'

lemma obeys_openIdeaBoard (hs : φ.Responds requestId) (hQ : φ.Handles Q) :
    (protocol env).Obeys (openIdeaBoard requestId) φ s Q :=
  obeys_ordinary_bind hs.toCalm (fun _ _ => obeys_speakThen hs hQ)
    fun message s' => hrest ▸ hQ.rest message s'

lemma obeys_openFlowchartBoard (hs : φ.Responds requestId) (hQ : φ.Handles Q) {userId : String} :
    (protocol env).Obeys (openFlowchartBoard requestId userId) φ s Q :=
  obeys_get_bind (obeys_perform_bind (ψ := φ) rfl (obeys_ordinary_bind hs.toCalm
    (fun _ _ => obeys_speakThen hs hQ) fun message s' => hrest ▸ hQ.rest message s'))

omit hrest

lemma obeys_createAppointment (hs : φ.Responds requestId) (hQ : φ.Handles Q)
    {userIds : List String} {slot : FreeSlot} :
    (protocol env).Obeys (createAppointment requestId userIds slot) φ.talk s Q := by
  refine obeys_get_bind (obeys_ordinary_bind hs.talk.toCalm (fun result _ => ?_) hQ.talk)
  refine obeys_speak_bind hs.talk (fun _ => ?_) hQ.talk
  refine obeys_perform_bind (ψ := φ.rest) ⟨Phase.joined hs.child, rfl⟩
    (obeys_perform_bind (ψ := φ.rest) (.inl rfl) ?_)
  refine obeys_ordinary hs.rest.toCalm fun reply s' => ?_
  cases reply with
  | error message => exact hQ.rest message s'
  | ok u => exact hQ.ok s'

/-- The phase in the `try` block of `processAndRespond`, whose `catch` and `finally` are still to
come. -/
structure Phase.Answers (φ : Phase) (requestId : ℕ) : Prop where
  request : φ.request = some requestId
  plain : φ.thinking = none
  floor : φ.floor = .whenCurrent
  taking : φ.taking = false
  muting : φ.muting = false
  imageless : φ.imageless = false
  lock : φ.lock = false
  /-- Its `thinkingTask` is left alone only once the LLM call has settled. -/
  resolves : φ.child = true → φ.resolved = true

/-- How the `try` block ends: without an exception the bot is no longer SPEAKING for the task. -/
def Answered (requestId : ℕ) (res : Except String Unit) (φ : Phase) (_ : RoomState) : Prop :=
  φ.Answers requestId ∧ (res = .ok () → φ.speaking = false ∧ φ.covers = false)

/-- A task in the `try` block may end at rest, or with an exception. -/
lemma Phase.Answers.handles (h : φ.Answers requestId) : φ.Handles (Answered requestId) where
  ok _ := ⟨⟨h.request, h.plain, h.floor, h.taking, h.muting, h.imageless, h.lock, h.resolves⟩,
    fun _ => ⟨rfl, rfl⟩⟩
  talk _ _ := ⟨⟨h.request, h.plain, h.floor, h.taking, h.muting, h.imageless, h.lock, h.resolves⟩,
    by simp⟩
  rest _ _ := ⟨⟨h.request, h.plain, h.floor, h.taking, h.muting, h.imageless, h.lock, h.resolves⟩,
    by simp⟩

/-- A `catch` block that apologises: an error while the task SPEAKS or is at rest is answered with a
message. -/
lemma obeys_apologize (hs : φ.Speaks requestId) (hok : ∀ s, Q (.ok ()) φ.rest s)
    (herror : ∀ message s, Q (.error message) φ s) {site : Catch} {message : String}
    (hsite : site = .calendar ∨ site = .timerCommand) :
    (protocol env).Obeys
      (do
        perform (.logError site)
        speakAndPublish requestId message false
        setBotState .armed) φ s Q := by
  refine obeys_perform_bind (ψ := φ) ?_ (obeys_speak_bind hs
    (fun s' => obeys_perform (ψ := φ.rest) ⟨Phase.joined hs.child, rfl⟩ (hok _)) herror)
  rcases hsite with rfl | rfl <;> rfl

/-- A `try` block: its body ends well at rest, and the `catch` block is entered at rest or
SPEAKING. -/
lemma obeys_tryCatch {p : Prog Unit} {handler : String → Prog Unit}
    (hbody : ∀ Q', φ.Handles Q' → (protocol env).Obeys p φ s Q') (hok : ∀ s, Q (.ok ()) φ.rest s)
    (htalk : ∀ message s, (protocol env).Obeys (handler message) φ.talk s Q)
    (hcatch : ∀ message s, (protocol env).Obeys (handler message) φ.rest s Q) :
    (protocol env).Obeys (Async.tryCatch p handler) φ s Q :=
  Discipline.obeys_tryCatch.mpr (hbody _ ⟨hok, htalk, hcatch⟩)

lemma obeys_recommendSchedule (hs : φ.Responds requestId) (hQ : φ.Handles Q) :
    (protocol env).Obeys (recommendSchedule env requestId) φ s Q := by
  refine obeys_tryCatch (fun Q' hQ' => ?_) hQ.ok
    (fun _ _ => obeys_apologize hs.talk hQ.ok hQ.talk (.inl rfl))
    fun _ _ => obeys_apologize hs.rest hQ.ok hQ.rest (.inl rfl)
  refine obeys_get_bind (obeys_perform_bind (move_talk hs.plain) (obeys_speak_bind hs.talk
    (fun _ => obeys_ordinary_bind hs.talk.toCalm (fun freeSlots _ => ?_) hQ'.talk) hQ'.talk))
  cases freeSlots with
  | nil =>
    exact obeys_speak_bind hs.talk (fun _ => obeys_finish (φ := φ.talk) hs.child hQ'.ok) hQ'.talk
  | cons slot slots => exact obeys_createAppointment hs hQ'

lemma obeys_commandTimer (hrest : φ.rest = φ) (hs : φ.Responds requestId) (hQ : φ.Handles Q)
    {intent : IntentAnalysis} :
    (protocol env).Obeys (commandTimer requestId intent) φ s Q := by
  refine obeys_tryCatch (fun Q' hQ' => ?_) hQ.ok
    (fun _ _ => obeys_apologize hs.talk hQ.ok hQ.talk (.inr rfl))
    fun _ _ => obeys_apologize hs.rest hQ.ok hQ.rest (.inr rfl)
  have herror : ∀ message s, Q' (.error message) φ s := fun message s => hrest ▸ hQ'.rest message s
  exact obeys_ordinary_bind hs.toCalm (fun _ _ => obeys_ordinary_bind hs.toCalm
    (fun _ _ => obeys_speakThen hs hQ') herror) herror

/-- Leaving the opinion's `catch` block drops the debt of SPEAKING. -/
lemma obeys_checkAndOfferOpinion (hrest : φ.rest = φ) (hs : φ.Responds requestId)
    (hQ : φ.Handles Q) {currentText userId : String} :
    (protocol env).Obeys (checkAndOfferOpinion env requestId currentText userId) φ s Q := by
  have hdone : ∀ s, Q (.ok ()) φ s := fun s => hrest ▸ hQ.ok s
  have hlog : ∀ ψ : Phase, ψ.request = some requestId → { ψ with speaking := false } = φ → ∀ s,
      (protocol env).Obeys (perform (.logError .opinion)) ψ s Q := fun ψ hreq hψ s =>
    obeys_perform (ψ := φ) ⟨fun _ => by simp [hreq], hψ.symm⟩ (hdone _)
  have hsilent : { φ with speaking := false } = φ := by
    rw [← hrest]
    rfl
  refine obeys_get_bind (obeys_ite (fun _ => hdone s) fun _ => obeys_ite (fun _ => hdone s)
    fun _ => ?_)
  refine obeys_tryCatch (fun Q' hQ' => ?_) hQ.ok (fun _ s => hlog φ.talk hs.request hsilent s)
    fun _ s => hlog φ.rest hs.request (by rw [hrest]; exact hsilent) s
  have hdone' : ∀ s, Q' (.ok ()) φ s := fun s => hrest ▸ hQ'.ok s
  refine obeys_ordinary_bind hs.toCalm (fun result _ => ?_)
    fun message s => hrest ▸ hQ'.rest message s
  split
  · refine Discipline.obeys_bind.mpr ?_
    refine obeys_speakThen hs ⟨fun s' => ?_, hQ'.talk, hQ'.rest⟩
    cases result.evidence with
    | none => exact hQ'.ok s'
    | some evidence =>
      refine obeys_ordinary hs.rest.toCalm fun reply s'' => ?_
      cases reply with
      | error message => exact hQ'.rest message s''
      | ok u => exact hQ'.ok s''
  · exact hdone' _

lemma obeys_speakAgentAnswer (hrest : φ.rest = φ) (hs : φ.Responds requestId) (hQ : φ.Handles Q)
    {processedText userId response : String} {decision : AgentDecision} {toolResult : ToolResult} :
    (protocol env).Obeys
      (speakAgentAnswer env requestId processedText userId decision toolResult response) φ s Q := by
  have hspeak : ∀ s, (protocol env).Obeys
      (do
        perform (.setShouldInterrupt false)
        setBotState .speaking
        speakAndPublish requestId response false
        setBotState .sleep
        perform (.setActiveUserId none)
        perform (.touch .lastResponse)) φ s Q := fun s => by
    refine obeys_perform_bind (ψ := φ) (by simp [Move, hs.mic]) ?_
    refine obeys_perform_bind (move_talk hs.plain) (obeys_speak_bind hs.talk (fun _ => ?_) hQ.talk)
    exact obeys_finish_user (φ := φ.talk) hs.child hQ.ok
  refine obeys_get_bind (obeys_ite (fun _ => hrest ▸ hQ.ok s) fun _ => ?_)
  refine obeys_perform_bind (ψ := φ) rfl (obeys_ite (fun _ => ?_) fun _ => hspeak _)
  exact obeys_ordinary_bind hs.toCalm (fun _ s' => hspeak s')
    fun message s' => hrest ▸ hQ.rest message s'

lemma obeys_processWithAgent (hrest : φ.rest = φ) (hs : φ.Responds requestId) (hQ : φ.Handles Q)
    {processedText userId : String} :
    (protocol env).Obeys (processWithAgent env requestId processedText userId) φ s Q := by
  have hcatch : ∀ ψ : Phase, ψ.talk = φ.talk → ∀ s, (protocol env).Obeys
      (do
        perform (.logError .agent)
        setBotState .speaking
        speakAndPublish requestId "죄송해요, 잠시 문제가 생겼어요." false
        setBotState .sleep
        perform (.setActiveUserId none)) ψ s Q := fun ψ hψ s => by
    refine obeys_perform_bind (ψ := ψ) rfl (obeys_perform_bind (ψ := φ.talk) ⟨?_, hψ.symm⟩ ?_)
    · have hthinking : ψ.talk.thinking = φ.talk.thinking := by rw [hψ]
      exact fun hsome => absurd hsome
        (by simp [show ψ.thinking = φ.thinking from hthinking, hs.plain])
    refine obeys_speak_bind hs.talk (fun _ => ?_) hQ.talk
    exact obeys_perform_bind (ψ := φ.rest) ⟨Phase.joined hs.child, rfl⟩
      (obeys_perform (ψ := φ.rest) rfl (hQ.ok _))
  refine obeys_tryCatch (fun Q' hQ' => ?_) hQ.ok (fun _ s => hcatch φ.talk rfl s)
    fun _ s => hcatch _ (by rw [hrest]) s
  have herror : ∀ message s, Q' (.error message) φ s := fun message s => hrest ▸ hQ'.rest message s
  refine obeys_get_bind (obeys_ordinary_bind hs.toCalm (fun _ _ => ?_) herror)
  refine obeys_ordinary_bind hs.toCalm (fun _ _ => ?_) herror
  refine obeys_ordinary_bind hs.toCalm (fun _ _ => ?_) herror
  exact obeys_speakAgentAnswer hrest hs hQ'

/-! ## The search answer and its "thinking" announcement -/

lemma obeys_sendSearchResults (hφ : φ.Calm) (hQ : ∀ res s, Q res φ s) {finalResponse : String}
    {category : Option String} {results : List JsVal} :
    (protocol env).Obeys (sendSearchResults finalResponse category results) φ s Q := by
  cases results with
  | nil => exact hQ _ _
  | cons primary rest =>
    refine obeys_ordinary_bind hφ (fun _ s' => obeys_get_bind ?_) fun message s' => hQ _ _
    exact obeys_ite (fun _ => obeys_ordinary hφ hQ) fun _ => obeys_ordinary hφ hQ

lemma obeys_sendDocuments (hφ : φ.Calm) (hQ : ∀ res s, Q res φ s) {processedText : String}
    {sources : List (String × Option String)} :
    (protocol env).Obeys (sendDocuments processedText sources) φ s Q :=
  obeys_ite (fun _ => hQ _ _) fun _ => obeys_ordinary hφ hQ

lemma obeys_speakSearchAnswer (hrest : φ.rest = φ) (hs : φ.Responds requestId) (hQ : φ.Handles Q)
    {me : ℕ} {processedText : String} {category : Option String} {llmResult : LlmResult} :
    (protocol env).Obeys
      (speakSearchAnswer me requestId processedText category llmResult) φ s Q := by
  have herror : ∀ message s, Q (.error message) φ s := fun message s => hrest ▸ hQ.rest message s
  refine obeys_get_bind (obeys_ite (fun _ => hrest ▸ hQ.ok s) fun _ => ?_)
  refine Discipline.obeys_bind.mpr (obeys_sendSearchResults hs.toCalm fun res s₁ => ?_)
  cases res with
  | error message => exact herror _ _
  | ok u =>
    refine Discipline.obeys_bind.mpr (obeys_sendDocuments hs.toCalm fun res s₂ => ?_)
    cases res with
    | error message => exact herror _ _
    | ok u =>
      refine obeys_perform_bind (ψ := φ) (by simp [Move, hs.mic]) ?_
      refine obeys_perform_bind (move_talk hs.plain) (obeys_get_bind ?_)
      exact obeys_speak_bind hs.talk (fun _ => obeys_finish_user (φ := φ.talk) hs.child hQ.ok)
        hQ.talk

/-- The phase after the "thinking" announcement has been started. -/
def Phase.arm (φ : Phase) : Phase := { φ with armed := true, child := true, covers := true }

/-- The phase after the LLM call has settled. -/
def Phase.settle (φ : Phase) : Phase := { φ with resolved := true }

/-- The phase after the "thinking" announcement has ended well. -/
def Phase.join (φ : Phase) : Phase :=
  { φ with armed := true, child := false, resolved := true, covers := false }

/-- The phase in which `processAndRespond` of the task `me` decides what to answer. -/
structure Phase.Deciding (φ : Phase) (me requestId : ℕ) : Prop
    extends φ.Speaks requestId, φ.Answers requestId where
  root : φ.root = me
  atRest : φ.rest = φ
  armed : φ.armed = false
  capture : φ.capture = none

lemma Phase.Deciding.responds {me : ℕ} (h : φ.Deciding me requestId) : φ.Responds requestId :=
  ⟨h.toSpeaks, h.plain⟩

/-- The LLM call settles `llmResolved`, however it ends. -/
lemma obeys_llm {me : ℕ} {op : Op} {g : op.Reply → Prog Unit} (hφ : φ.Calm) (hroot : φ.root = me)
    (hthinking : φ.thinking = none)
    (hok : ∀ a s', (protocol env).Obeys (g a) φ.settle s' Q)
    (herror : ∀ message s', Q (.error message) φ.settle s')
    (hop : op.Ordinary := by exact trivial) :
    (protocol env).Obeys
      (Async.onExit (await op) (fun r => do
        perform (.resolveLlm me)
        Async.ofExcept r) >>= g) φ s Q := by
  refine Discipline.obeys_bind.mpr (Discipline.obeys_onExit.mpr
    (obeys_ordinary hφ (fun reply s' => ?_) hop))
  refine obeys_perform_bind (ψ := φ.settle) ⟨hroot.symm, hthinking, rfl⟩ ?_
  cases reply with
  | error message => exact herror _ _
  | ok a => exact hok _ _

/-- A question that needs a search is answered, with or without an announcement.

**Proof sketch.** With an announcement, the task is armed with it before the call of the model, and
joins it before the answer is spoken; without one, the answer is spoken as soon as it is there. In
both cases the phase in which it is spoken has the request and no debts. -/
lemma obeys_searchAndAnswer {me : ℕ} (h : φ.Deciding me requestId) {processedText : String}
    {searchDomain category : Option String} :
    (protocol env).Obeys (searchAndAnswer me requestId processedText searchDomain category) φ s
      (Answered requestId) := by
  refine obeys_get_bind (obeys_ite (fun hann => ?_) fun hann => ?_)
  · -- the announcement runs beside the LLM call
    have hcalm : φ.arm.Calm :=
      ⟨⟨h.taking, h.muting, h.thinking, h.locked⟩, h.mic, h.requesting, h.cleared⟩
    have hsettled : φ.arm.settle.Answers requestId :=
      ⟨h.request, h.plain, h.floor, h.taking, h.muting, h.imageless, h.lock, fun _ => rfl⟩
    have hjoin : φ.join.Answers requestId :=
      ⟨h.request, h.plain, h.floor, h.taking, h.muting, h.imageless, h.lock, fun _ => rfl⟩
    have hspeaks : φ.join.Responds requestId :=
      ⟨⟨⟨⟨h.taking, h.muting, h.thinking, h.locked⟩, h.mic, h.requesting, h.cleared⟩,
        h.request, rfl⟩, h.plain⟩
    have hrest : φ.join.rest = φ.join := by
      rw [← h.atRest]
      rfl
    have hpark : park (.thinkingTask me) φ.arm.settle = φ.arm.settle := by
      simp [park, Phase.settle, micOf, hcalm.mic, hcalm.requesting, hcalm.cleared]
    refine obeys_perform_bind (ψ := φ.arm)
      ⟨h.plain, h.root.symm, h.request, h.mic, h.armed, rfl⟩ ?_
    refine obeys_llm hcalm h.root h.plain (fun llmResult s₁ => ?_) fun _ _ => ⟨hsettled, by simp⟩
    refine obeys_ite (fun _ => ?_) fun hno => absurd hann hno
    refine obeys_await_bind (ψ := φ.arm.settle) ⟨⟨h.taking, h.muting, h.thinking, h.locked⟩,
      ⟨h.root.symm, h.plain, rfl⟩, hpark.symm⟩ fun reply s₂ => ?_
    cases reply with
    | error message =>
      exact ⟨⟨h.request, h.plain, h.floor, h.taking, h.muting, h.imageless, h.lock, fun _ => rfl⟩,
        by simp⟩
    | ok u => exact obeys_speakSearchAnswer hrest hspeaks hjoin.handles
  · have hsettled : φ.settle.Answers requestId :=
      ⟨h.request, h.plain, h.floor, h.taking, h.muting, h.imageless, h.lock, fun _ => rfl⟩
    have hspeaks : φ.settle.Responds requestId :=
      ⟨⟨⟨⟨h.taking, h.muting, h.thinking, h.locked⟩, h.mic, h.requesting, h.cleared⟩,
        h.request, h.child⟩,
        h.plain⟩
    have hrest : φ.settle.rest = φ.settle := congrArg Phase.settle h.atRest
    refine obeys_llm h.toCalm h.root h.plain (fun llmResult s₁ => ?_)
      fun _ _ => ⟨hsettled, by simp⟩
    refine obeys_ite (fun hyes => absurd hyes hann) fun _ => ?_
    exact obeys_speakSearchAnswer hrest hspeaks hsettled.handles

/-! ## The conversation -/

variable {me : ℕ} {userId transcript : String} {intent : IntentAnalysis} {voice : VoiceIntent}

/-- A branch that does nothing. -/
lemma Phase.Deciding.done (h : φ.Deciding me requestId) (s : RoomState) :
    Answered requestId (.ok ()) φ s :=
  h.atRest ▸ h.toAnswers.handles.ok s

/-- A call that fails before anything was done. -/
lemma Phase.Deciding.fails (h : φ.Deciding me requestId) (message : String) (s : RoomState) :
    Answered requestId (.error message) φ s :=
  ⟨h.toAnswers, by simp⟩

lemma obeys_processCommand (h : φ.Deciding me requestId) :
    (protocol env).Obeys (processCommand env me requestId userId intent voice) φ s
      (Answered requestId) := by
  refine obeys_get_bind (obeys_ite (fun _ => h.done _) fun _ => ?_)
  refine obeys_ite (fun _ => h.done _) fun _ => obeys_ite (fun _ => h.done _) fun _ => ?_
  refine obeys_ite (fun _ => h.done _) fun _ => obeys_perform_bind (ψ := φ) (.inl rfl) ?_
  refine obeys_ite (fun _ => obeys_processWithAgent h.atRest h.responds h.toAnswers.handles)
    fun _ => obeys_ite (fun _ => ?_) fun _ => obeys_searchAndAnswer h
  exact obeys_ordinary_bind h.toCalm (fun _ _ => obeys_searchAndAnswer h) h.fails

lemma obeys_processWakeWord (h : φ.Deciding me requestId) :
    (protocol env).Obeys (processWakeWord env me requestId userId intent voice) φ s
      (Answered requestId) := by
  refine obeys_get_bind (obeys_ite (fun _ => obeys_processCommand h) fun _ => ?_)
  refine obeys_ite (fun _ => obeys_ite (fun _ => h.done _) fun _ => ?_) fun _ => ?_
  · exact obeys_checkAndOfferOpinion h.atRest h.responds h.toAnswers.handles
  · refine obeys_perform_bind (ψ := φ) ⟨Phase.joined h.child, h.atRest.symm⟩ ?_
    refine obeys_perform_bind (ψ := φ) rfl (obeys_perform_bind (ψ := φ) (.inl rfl) ?_)
    exact obeys_ite (fun _ => obeys_processCommand h)
      fun _ => obeys_speakThen h.responds h.toAnswers.handles

lemma obeys_decideToRespond (h : φ.Deciding me requestId) :
    (protocol env).Obeys (decideToRespond env me requestId userId transcript intent) φ s
      (Answered requestId) :=
  obeys_get_bind (obeys_ite
    (fun _ => obeys_ordinary_bind h.toCalm (fun _ _ => obeys_processWakeWord h) h.fails)
    fun _ => obeys_processWakeWord h)

lemma obeys_processIntent (h : φ.Deciding me requestId) :
    (protocol env).Obeys (processIntent env me requestId userId transcript intent) φ s
      (Answered requestId) := by
  have hQ := h.toAnswers.handles
  refine obeys_ite (fun _ => obeys_openIdeaBoard h.atRest h.responds hQ) fun _ => ?_
  refine obeys_ite (fun _ => obeys_openFlowchartBoard h.atRest h.responds hQ) fun _ => ?_
  refine obeys_ite (fun _ => obeys_recommendSchedule h.responds hQ) fun _ => ?_
  exact obeys_ite (fun _ => obeys_commandTimer h.atRest h.responds hQ)
    fun _ => obeys_decideToRespond h

/-- Outside the vision mode a capture is requested without a reset. -/
lemma obeys_processVisionIntent {Q : Except String Bool → Phase → RoomState → Prop}
    (h : φ.Deciding me requestId) (hvision : s.isVisionMode = false) (hQ : ∀ res s, Q res φ s)
    {userQuestion : String} :
    (protocol env).Obeys (processVisionIntent userQuestion userId) φ s Q := by
  have hpark : ∀ payload,
      park (.publishData payload none) { φ with requesting := some s.later } = φ :=
    fun payload => (h.park_eq (.publishData payload none) (by simp)).trans h.withMic_off
  refine obeys_get_bind (obeys_ite (fun _ => hQ _ _) fun _ => ?_)
  rw [hvision]
  refine Discipline.obeys_bind.mpr ?_
  refine obeys_perform_bind (ψ := { φ with requesting := some s.later })
    ⟨hvision, h.cleared, h.capture, rfl⟩ ?_
  refine obeys_perform_bind ⟨rfl, rfl⟩ (obeys_perform_bind rfl ?_)
  refine obeys_await ⟨⟨h.taking, h.muting, h.thinking, h.locked⟩, trivial, (hpark _).symm⟩
    fun reply s' => ?_
  cases reply with
  | error message => exact hQ _ _
  | ok u => exact hQ _ _

lemma obeys_answer (h : φ.Deciding me requestId) (hvision : s.isVisionMode = false) :
    (protocol env).Obeys (answer env me requestId userId transcript) φ s (Answered requestId) := by
  have hQ := h.toAnswers.handles
  refine obeys_get_bind ?_
  refine obeys_ite (fun _ => obeys_detectAndBroadcastIdea h.atRest h.toCalm hQ) fun _ => ?_
  refine obeys_ite (fun _ => obeys_answerOnBoard h.responds hQ) fun _ => ?_
  refine obeys_ite (fun _ => obeys_answerInDesignMode h.responds hQ) fun _ => ?_
  refine obeys_ite (fun _ => h.done _) fun _ => obeys_ite (fun _ => ?_) fun _ => ?_
  · exact obeys_perform_bind (move_talk h.plain)
      (obeys_speak_bind h.toSpeaks.talk (fun _ => obeys_finish_user (φ := φ.talk) h.child hQ.ok)
        hQ.talk)
  · refine obeys_ite (fun _ => ?_) fun _ => obeys_processIntent h
    refine Discipline.obeys_bind.mpr (obeys_processVisionIntent h hvision fun res s' => ?_)
    cases res with
    | error message => exact h.fails _ _
    | ok handled =>
      exact obeys_ite (fun _ => obeys_perform (ψ := φ) (.inl rfl) (h.done _))
        fun _ => obeys_processIntent h

end Branches

/-! ## `processAndRespond` -/

/-- The phase of a called flow that has not done anything yet. -/
structure Phase.Fresh (φ : Phase) (me : ℕ) (greets : Bool) : Prop extends φ.Calm where
  root : φ.root = me
  greeting : φ.greeting = greets
  plain : φ.thinking = none
  request : φ.request = none
  child : φ.child = false
  armed : φ.armed = false
  atRest : φ.rest = φ
  floor : φ.floor = .none
  capture : φ.capture = none
  imageless : φ.imageless = false
  lock : φ.lock = false

/-- The phase of a flow that has given everything back. -/
structure Phase.Free (φ : Phase) : Prop where
  taking : φ.taking = false
  muting : φ.muting = false
  thinking : φ.thinking.isSome → φ.fired = true ∧ φ.ended = true
  speaking : φ.thinking = none → φ.speaking = false
  covers : φ.covers = false
  floor : φ.floor = .none
  lock : φ.lock = false
  child : φ.child = false

lemma Phase.Free.exit (h : φ.Free) (s : RoomState) : Exit φ s :=
  ⟨h.taking, h.muting, h.thinking, h.speaking,
    Phase.joined h.child, h.covers, fun _ => by simp [h.floor],
    fun hw => absurd (h.floor.symm.trans hw) (by simp), fun _ => h.lock⟩

lemma Phase.Fresh.covers {me : ℕ} {g : Bool} (h : φ.Fresh me g) : φ.covers = false := by
  rw [← h.atRest]
  rfl

lemma Phase.Fresh.speaking {me : ℕ} {g : Bool} (h : φ.Fresh me g) : φ.speaking = false := by
  rw [← h.atRest]
  rfl

/-- A called flow is no `thinkingTask`. -/
lemma Phase.Fresh.notThinking {me : ℕ} {g : Bool} (h : φ.Fresh me g) {p : Prop}
    (hsome : φ.thinking.isSome) : p :=
  absurd hsome (by simp [h.plain])

lemma Phase.Fresh.exit {me : ℕ} {g : Bool} (h : φ.Fresh me g) (s : RoomState) : Exit φ s :=
  Phase.Free.exit ⟨h.taking, h.muting, h.notThinking, fun _ => h.speaking, h.covers, h.floor,
    h.lock, h.child⟩ s

/-- The phase after a request id has been taken. -/
def Phase.claim (φ : Phase) (requestId : ℕ) : Phase :=
  { φ with request := some requestId, taking := false }

/-- The phase after `isPublishing` has been reserved. -/
def Phase.reserve (φ : Phase) (floor : Floor) : Phase := { φ with floor := floor, taking := false }

/-- The phase in the `try` block of `processAndRespond`. -/
lemma Phase.Fresh.deciding {me : ℕ} {g : Bool} (h : φ.Fresh me g) (requestId : ℕ) :
    ((φ.claim requestId).reserve .whenCurrent).Deciding me requestId where
  taking := rfl
  muting := h.muting
  thinking := h.notThinking
  locked := h.locked
  mic := h.mic
  requesting := h.requesting
  cleared := h.cleared
  request := rfl
  child := h.child
  plain := h.plain
  floor := rfl
  imageless := h.imageless
  lock := h.lock
  resolves := Phase.joined h.child
  root := h.root
  atRest := by rw [← h.atRest]; rfl
  armed := h.armed
  capture := h.capture

section Flows

variable {me : ℕ} {userId transcript : String}

/-- The `finally` block of `processAndRespond`: `isPublishing` is given back only by the flow of the
current request. -/
lemma obeys_finally {requestId : ℕ} (h : φ.Answers requestId) (hspeaking : φ.speaking = false)
    (hcovers : φ.covers = false) {Q : Except String Unit → Phase → RoomState → Prop}
    (hQ : ∀ φ s, Exit φ s → Q (.ok ()) φ s) :
    (protocol env).Obeys
      (do
        let s ← get
        if s.currentRequestId = requestId then setPublishing false) φ s Q := by
  have hexit : ∀ ψ : Phase, ψ = { φ with floor := ψ.floor } → ∀ s,
      (ψ.floor = .none ∨ ψ.floor = .whenCurrent ∧ s.currentRequestId ≠ requestId) → Exit ψ s := by
    rintro ψ hψ s hfloor
    rw [hψ]
    exact {
      taking := h.taking
      muting := h.muting
      thinking := fun hsome => absurd hsome (by simp [h.plain])
      speaking := fun _ => hspeaking
      child := h.resolves
      covers := hcovers
      floor := fun _ => by rcases hfloor with hf | ⟨hf, -⟩ <;> simp [hf]
      whenCurrent := fun hw => by
        rcases hfloor with hf | ⟨-, hne⟩
        · simp [hf] at hw
        · simpa [h.request] using hne.symm
      lock := fun _ => h.lock }
  refine obeys_get_bind (obeys_ite (fun _ => ?_) fun hne => ?_)
  · exact obeys_perform rfl (hQ _ _ (hexit _ rfl _ (.inl rfl)))
  · exact hQ _ _ (hexit φ rfl s (.inr ⟨h.floor, hne⟩))

lemma obeys_respond (h : φ.Fresh me false) :
    (protocol env).Obeys (respond env me userId transcript) φ s (protocol env).Ends := by
  refine obeys_get_bind (obeys_ite (fun _ => h.exit s) fun hpub => ?_)
  refine obeys_ite (fun _ => h.exit s) fun hvision => obeys_ite (fun _ => h.exit s) fun _ => ?_
  simp only [Bool.not_eq_true] at hpub hvision
  refine obeys_perform_bind (ψ := φ.claim s.now)
    ⟨h.root.symm, h.plain, h.greeting, h.request, h.mic, h.child, hpub, rfl⟩ ?_
  refine Discipline.obeys_andFinally.mpr (Discipline.obeys_tryCatch.mpr ?_)
  refine obeys_perform_bind (ψ := (φ.claim s.now).reserve .whenCurrent)
    (.inr ⟨rfl, by simp [Act.apply, Phase.claim, h.root], rfl⟩) ?_
  refine Discipline.Obeys.mono (Q := Answered s.now) (obeys_answer (h.deciding s.now) ?_) ?_
  · exact hvision
  rintro res φ' s' ⟨hans, hok⟩
  have hend : ∀ φ s, Exit φ s → (protocol env).Obeys (Async.ofExcept res) φ s (protocol env).Ends :=
    fun φ s hexit => Discipline.obeys_ofExcept.mpr hexit
  cases res with
  | ok u =>
    exact obeys_finally hans (hok rfl).1 (hok rfl).2 hend
  | error message =>
    refine obeys_perform_bind (ψ := φ') rfl
      (obeys_perform_bind (ψ := φ'.rest) ⟨hans.resolves, rfl⟩ ?_)
    refine obeys_perform (ψ := φ'.rest) rfl ?_
    refine obeys_finally (φ := φ'.rest) ⟨hans.request, hans.plain, hans.floor, hans.taking,
      hans.muting, hans.imageless, hans.lock, hans.resolves⟩ rfl rfl ?_
    exact fun φ s hexit => hexit

/-- The phase of a flow that has taken a request id and owes nothing but SPEAKING and
`isPublishing`. -/
structure Phase.Claimed (φ : Phase) (requestId : ℕ) : Prop extends φ.Responds requestId where
  covers : φ.covers = false
  lock : φ.lock = false

lemma Phase.Fresh.claimed (h : φ.Fresh me false) (requestId : ℕ) :
    (φ.claim requestId).Claimed requestId :=
  ⟨⟨⟨⟨⟨rfl, h.muting, h.notThinking, h.locked⟩, h.mic, h.requesting, h.cleared⟩, rfl, h.child⟩,
    h.plain⟩, h.covers, h.lock⟩

lemma Phase.Claimed.reserve {requestId : ℕ} (h : φ.Claimed requestId) (floor : Floor) :
    (φ.reserve floor).Claimed requestId :=
  ⟨⟨⟨⟨⟨rfl, h.muting, h.thinking, h.locked⟩, h.mic, h.requesting, h.cleared⟩, h.request, h.child⟩,
    h.plain⟩, h.covers, h.lock⟩

/-- A flow that has taken an id, holds no `isPublishing` and has left SPEAKING may end. -/
lemma Phase.Claimed.exit_rest {requestId : ℕ} (h : φ.Claimed requestId) (hfloor : φ.floor = .none)
    (s : RoomState) : Exit φ.rest s :=
  Phase.Free.exit (φ := φ.rest) ⟨h.taking, h.muting,
    fun hsome => absurd hsome (by simp [Phase.rest, h.plain]), fun _ => rfl, rfl, hfloor, h.lock,
    h.child⟩ s

/-- A flow that has taken an id and has given `isPublishing` back. -/
lemma Phase.Fresh.exit_rest (h : φ.Fresh me false) (requestId : ℕ) (s : RoomState) :
    Exit ((φ.claim requestId).reserve .none).rest s :=
  ((h.claimed requestId).reserve .none).exit_rest rfl s

/-- A flow that has taken an id may speak. -/
lemma Phase.Fresh.speaks (h : φ.Fresh me false) (requestId : ℕ) (floor : Floor) :
    ((φ.claim requestId).reserve floor).Speaks requestId :=
  ((h.claimed requestId).reserve floor).toSpeaks

lemma obeys_interveneOnTranscript (h : φ.Fresh me false) (hpub : s.isPublishing = false)
    {response : String} :
    (protocol env).Obeys (interveneOnTranscript me response) φ s (protocol env).Ends := by
  have hs := h.speaks s.now .always
  refine obeys_get_bind (obeys_perform_bind (ψ := φ.claim s.now)
    ⟨h.root.symm, h.plain, h.greeting, h.request, h.mic, h.child, hpub, rfl⟩ ?_)
  refine obeys_perform_bind (ψ := (φ.claim s.now).reserve .always) (.inl rfl) ?_
  refine obeys_perform_bind (ψ := ((φ.claim s.now).reserve .always).talk) (move_talk h.plain) ?_
  refine Discipline.obeys_andFinally.mpr (obeys_speakAndPublish hs.talk fun res s' => ?_)
  refine obeys_perform_bind (ψ := ((φ.claim s.now).reserve .always).rest)
    ⟨Phase.joined h.child, rfl⟩ ?_
  refine obeys_perform_bind (ψ := ((φ.claim s.now).reserve .none).rest) rfl ?_
  refine obeys_perform (.inl rfl) (Discipline.obeys_ofExcept.mpr ?_)
  exact h.exit_rest _ _

lemma obeys_processTranscript (h : φ.Fresh me false) {stt : SttResult} :
    (protocol env).Obeys (processTranscript env me userId stt) φ s (protocol env).Ends := by
  refine obeys_get_bind (obeys_ite (fun _ => h.exit s) fun _ => obeys_ite (fun _ => ?_)
    fun _ => obeys_respond h)
  refine obeys_ordinary_bind h.toCalm (fun result s' => obeys_get_bind ?_) fun _ s' => h.exit s'
  split
  · refine obeys_ite (fun hfree => ?_) fun _ => obeys_respond h
    simp only [Bool.and_eq_true, Bool.not_eq_true'] at hfree
    exact obeys_interveneOnTranscript h hfree.1
  · exact obeys_respond h

lemma obeys_processAndRespond (h : φ.Fresh me false) {utterance : Utterance} :
    (protocol env).Obeys (processAndRespond env me utterance) φ s (protocol env).Ends := by
  refine obeys_get_bind (obeys_ite (fun _ => h.exit s) fun _ => ?_)
  refine Discipline.obeys_onExit.mpr (obeys_ordinary h.toCalm fun reply s' => ?_)
  cases reply with
  | error message => exact obeys_perform (ψ := φ) rfl (h.exit _)
  | ok stt => exact obeys_processTranscript h

/-! ## The other flows -/

/-- The phase after a `catch` block that drops the debt of SPEAKING. -/
def Phase.hush (φ : Phase) : Phase := { φ with speaking := false }

/-- A flow may end after a `catch` block that only drops the debt of SPEAKING. -/
lemma Phase.Claimed.exit_hush {requestId : ℕ} (h : φ.Claimed requestId) (hfloor : φ.floor = .none)
    (s : RoomState) : Exit φ.hush s :=
  Phase.Free.exit (φ := φ.hush) ⟨h.taking, h.muting,
    fun hsome => absurd hsome (by simp [Phase.hush, h.plain]), fun _ => rfl, h.covers, hfloor,
    h.lock, h.child⟩ s

lemma Phase.Fresh.exit_hush (h : φ.Fresh me false) (requestId : ℕ) (s : RoomState) :
    Exit ((φ.claim requestId).reserve .none).hush s :=
  ((h.claimed requestId).reserve .none).exit_hush rfl s

/-- A called flow has not set SPEAKING yet. -/
lemma Phase.Fresh.silent (h : φ.Fresh me false) : φ.speaking = true → φ.request.isSome :=
  fun hspeaking => Bool.noConfusion (h.speaking.symm.trans hspeaking)

lemma Phase.Fresh.hush (h : φ.Fresh me false) : φ.hush = φ := by
  rw [← h.atRest]
  rfl

lemma obeys_timerNotify (h : φ.Fresh me false) {event : TimerEvent} {data : TimerData} :
    (protocol env).Obeys (timerNotify me event data) φ s (protocol env).Ends := by
  refine Discipline.obeys_tryCatch.mpr (obeys_ordinary_bind h.toCalm (fun _ s' => ?_)
    fun message s' => ?_)
  · refine obeys_get_bind (obeys_ite (fun _ => h.exit s') fun _ => ?_)
    have hclaimed := h.claimed (s'.currentRequestId + 1)
    refine obeys_perform_bind (ψ := φ.claim (s'.currentRequestId + 1))
      ⟨h.root.symm, h.plain, h.greeting, h.request, h.mic, h.child, trivial, rfl⟩ ?_
    refine obeys_perform_bind (ψ := (φ.claim (s'.currentRequestId + 1)).talk) (move_talk h.plain) ?_
    refine obeys_speak_bind hclaimed.toSpeaks.talk (fun s₂ => ?_) fun message s₂ => ?_
    · exact obeys_perform (ψ := (φ.claim (s'.currentRequestId + 1)).rest)
        ⟨Phase.joined h.child, rfl⟩ (hclaimed.exit_rest h.floor _)
    · exact obeys_perform (ψ := (φ.claim (s'.currentRequestId + 1)).hush)
        ⟨fun _ => rfl, rfl⟩ (hclaimed.exit_hush h.floor _)
  · exact obeys_perform (ψ := φ.hush) ⟨h.silent, rfl⟩ (h.hush.symm ▸ h.exit _)

lemma obeys_speakIntervention (h : φ.Fresh me false) {response : String}
    {Q : Except String Unit → Phase → RoomState → Prop}
    (hQ : ∀ res r s, Q res ((φ.claim r).reserve .none).rest s) :
    (protocol env).Obeys (speakIntervention me response) φ s Q := by
  have hs := h.speaks (s.currentRequestId + 1) .always
  refine obeys_get_bind (obeys_perform_bind
    ⟨h.root.symm, h.plain, h.greeting, h.request, h.mic, h.child, trivial, rfl⟩ ?_)
  refine obeys_perform_bind (ψ := (φ.claim (s.currentRequestId + 1)).reserve .always) (.inl rfl) ?_
  refine obeys_perform_bind (move_talk h.plain) ?_
  refine Discipline.obeys_andFinally.mpr (obeys_speakAndPublish hs.talk fun res s' => ?_)
  refine obeys_perform_bind (ψ := ((φ.claim (s.currentRequestId + 1)).reserve .none).talk) rfl ?_
  refine obeys_perform (ψ := ((φ.claim (s.currentRequestId + 1)).reserve .none).rest)
    ⟨Phase.joined h.child, rfl⟩ ?_
  exact Discipline.obeys_ofExcept.mpr (hQ _ _ _)

lemma obeys_handlePerplexityMessage (h : φ.Fresh me false) {type : String} {payload : JsVal}
    {senderId : String} :
    (protocol env).Obeys (handlePerplexityMessage me type payload senderId) φ s
      (protocol env).Ends := by
  have hcatch : ∀ message s, (protocol env).Obeys (Async.onError (fun _ => do
      perform (.logError .perplexity)
      setPublishing false) (.error message)) φ s (protocol env).Ends := fun message s =>
    obeys_perform_bind (ψ := φ) rfl (obeys_perform rfl
      (Phase.Free.exit (φ := { φ with floor := .none })
      ⟨h.taking, h.muting, h.notThinking, fun _ => h.speaking, h.covers, rfl, h.lock, h.child⟩ _))
  refine obeys_get_bind (obeys_ite (fun _ => h.exit s) fun _ => ?_)
  refine obeys_ite (fun _ => h.exit s) fun _ => ?_
  refine Discipline.obeys_tryCatch.mpr (obeys_ordinary_bind h.toCalm (fun result s₁ => ?_) hcatch)
  refine obeys_ite (fun _ => h.exit s₁) fun _ => ?_
  split
  · exact h.exit s₁
  · refine obeys_ordinary_bind h.toCalm (fun _ s₂ => ?_) hcatch
    split
    · exact h.exit s₂
    · refine obeys_speakIntervention h fun res r s₃ => ?_
      cases res with
      | ok u => exact h.exit_rest r s₃
      | error message =>
        exact obeys_perform_bind (ψ := ((φ.claim r).reserve .none).rest) rfl
          (obeys_perform (ψ := ((φ.claim r).reserve .none).rest) rfl (h.exit_rest r _))

lemma obeys_explainFirst (hφ : φ.Calm) {diagrams : Diagrams}
    {Q : Except String String → Phase → RoomState → Prop} (hQ : ∀ res s, Q res φ s) :
    (protocol env).Obeys (explainFirst diagrams) φ s Q := by
  unfold explainFirst
  dsimp only
  split
  · exact hQ _ _
  · exact obeys_ite (fun _ => hQ _ _) fun _ => obeys_ordinary hφ hQ

lemma obeys_explainGeneratedDiagrams (h : φ.Fresh me false) {diagrams : Diagrams} :
    (protocol env).Obeys (explainGeneratedDiagrams me diagrams) φ s (protocol env).Ends := by
  refine obeys_get_bind (obeys_ite (fun _ => h.exit s) fun _ => ?_)
  refine obeys_perform_bind (ψ := φ) rfl (obeys_ite (fun _ => h.exit _) fun hpub => ?_)
  simp only [Bool.not_eq_true] at hpub
  have hs := h.speaks s.now .always
  refine obeys_perform_bind (ψ := φ.claim s.now)
    ⟨h.root.symm, h.plain, h.greeting, h.request, h.mic, h.child, hpub, rfl⟩ ?_
  have hdone : ∀ (res : Except String Unit) ψ,
      ψ = ((φ.claim s.now).reserve .always).rest ∨ ψ = ((φ.claim s.now).reserve .always).hush →
      ∀ s₁, (protocol env).Obeys (setPublishing false) ψ s₁ fun r' φ s =>
        (protocol env).Obeys (Async.onValue (fun _ => Async.ofExcept res) r') φ s
          (protocol env).Ends := by
    rintro res ψ (rfl | rfl) s₁
    · exact obeys_perform (ψ := ((φ.claim s.now).reserve .none).rest) rfl
        (Discipline.obeys_ofExcept.mpr (h.exit_rest _ _))
    · exact obeys_perform (ψ := ((φ.claim s.now).reserve .none).hush) rfl
        (Discipline.obeys_ofExcept.mpr (h.exit_hush _ _))
  refine Discipline.obeys_andFinally.mpr (Discipline.obeys_tryCatch.mpr ?_)
  refine obeys_perform_bind (ψ := (φ.claim s.now).reserve .always) (.inl rfl) ?_
  refine obeys_perform_bind (ψ := ((φ.claim s.now).reserve .always).talk) (move_talk h.plain) ?_
  have hcatch : ∀ s₁, (protocol env).Obeys (perform (.logError .diagrams))
      ((φ.claim s.now).reserve .always).talk s₁ fun r φ s =>
        (protocol env).Obeys (setPublishing false) φ s fun r' φ s =>
          (protocol env).Obeys (Async.onValue (fun _ => Async.ofExcept r) r') φ s
            (protocol env).Ends := fun s₁ =>
    obeys_perform (ψ := ((φ.claim s.now).reserve .always).hush) ⟨fun _ => rfl, rfl⟩
      (hdone _ _ (.inr rfl) _)
  refine Discipline.obeys_bind.mpr (obeys_explainFirst hs.talk.toCalm fun res s₁ => ?_)
  cases res with
  | error message => exact hcatch s₁
  | ok explanation =>
    refine obeys_speak_bind hs.talk (fun s₂ => ?_) fun message s₂ => hcatch s₂
    exact obeys_finish (φ := ((φ.claim s.now).reserve .always).talk) h.child fun s₃ =>
      hdone (.ok ()) _ (.inl rfl) s₃

lemma obeys_greetOnJoin (h : φ.Fresh me true) :
    (protocol env).Obeys greetOnJoin φ s (protocol env).Ends := by
  have hset : ∀ m, (φ.talk.withMic m).Settled := fun m => ⟨h.taking, h.muting, h.thinking, h.locked⟩
  have hfree : ∀ m, (φ.talk.withMic m).rest.Free := fun m =>
    ⟨h.taking, h.muting, h.notThinking, fun _ => rfl, rfl, h.floor, h.lock, h.child⟩
  have htalk : φ.talk.Calm := ⟨hset φ.mic, h.mic, h.requesting, h.cleared⟩
  refine obeys_get_bind (obeys_ite (fun _ => h.exit s) fun hmuted => ?_)
  refine Discipline.obeys_tryCatch.mpr (obeys_perform_bind (move_talk h.plain) ?_)
  have hcatch : ∀ m s, (protocol env).Obeys
      (do
        perform (.logError .greeting)
        setBotState .sleep) (φ.talk.withMic m) s (protocol env).Ends := fun m s =>
    obeys_perform_bind (ψ := φ.talk.withMic m) rfl
      (obeys_perform ⟨Phase.joined h.child, rfl⟩ ((hfree m).exit _))
  have hend : ∀ m s, (protocol env).Obeys
      (do
        setBotState .sleep
        perform (.touch .lastResponse)) (φ.talk.withMic m) s fun r φ s =>
      (protocol env).Obeys (Async.onError (fun _ => do
        perform (.logError .greeting)
        setBotState .sleep) r) φ s (protocol env).Ends := fun m s =>
    obeys_finish h.child fun s => (hfree m).exit s
  refine obeys_await_bind ⟨hset .synthesizing,
    ⟨h.greeting, h.child, by simpa [Act.apply] using hmuted⟩,
    (htalk.park_eq (.synthesizePcm .greeting _) (by simp)).symm⟩ fun reply s₁ => ?_
  cases reply with
  | error message => exact hcatch .off s₁
  | ok pcmBuffer =>
    refine obeys_ite (fun _ => ?_) fun _ => hend .onAir s₁
    refine Discipline.obeys_bind.mpr (obeys_publishAudio (φ := φ.talk) .greeting
      htalk.toSettled h.greeting h.requesting h.cleared (fun m s₂ => hend m s₂)
      (fun message s₂ => hcatch .off s₂) _ _)

lemma obeys_clientReady (h : φ.Fresh me true) {continued : Bool} :
    (protocol env).Obeys (clientReady continued) φ s (protocol env).Ends := by
  refine obeys_get_bind (obeys_ite (fun _ => h.exit s) fun _ => obeys_ite (fun _ => ?_) fun _ => ?_)
  · exact obeys_perform_bind (ψ := φ) rfl (obeys_perform_bind (ψ := φ) rfl
      (obeys_greetOnJoin h))
  · exact obeys_perform_bind (ψ := φ) rfl (obeys_greetOnJoin h)

/-! ## Screen captures -/

/-- The phase of a flow that handles a capture response and has not taken the lock. -/
structure Phase.Waiting (φ : Phase) (me : ℕ) (message : CaptureResponse) : Prop where
  taking : φ.taking = false
  muting : φ.muting = false
  mic : φ.mic = .off
  requesting : φ.requesting = none
  cleared : φ.cleared = false
  root : φ.root = me
  plain : φ.thinking = none
  greeting : φ.greeting = false
  request : φ.request = none
  child : φ.child = false
  atRest : φ.rest = φ
  floor : φ.floor = .none
  lock : φ.lock = false
  analysed : φ.analysed = false
  utterance : φ.utterance = false
  capture : φ.capture = message.requestId
  imageless : φ.imageless = message.imageBase64.isNone

/-- The phase of a flow that has the lock. -/
structure Phase.Capturing (φ : Phase) (requestId : ℕ) : Prop extends φ.Speaks requestId where
  plain : φ.thinking = none
  lock : φ.lock = true
  utterance : φ.utterance = false

lemma Phase.Capturing.talk {requestId : ℕ} (h : φ.Capturing requestId) :
    φ.talk.Capturing requestId :=
  ⟨h.toSpeaks.talk, h.plain, h.lock, h.utterance⟩

variable {message : CaptureResponse} {pending : VisionRequest}

lemma Phase.Waiting.covers (h : φ.Waiting me message) : φ.covers = false := by
  rw [← h.atRest]
  rfl

lemma Phase.Waiting.speaking (h : φ.Waiting me message) : φ.speaking = false := by
  rw [← h.atRest]
  rfl

lemma Phase.Waiting.notThinking (h : φ.Waiting me message) {p : Prop} (hsome : φ.thinking.isSome) :
    p :=
  absurd hsome (by simp [h.plain])

lemma Phase.Waiting.free (h : φ.Waiting me message) : φ.Free :=
  ⟨h.taking, h.muting, h.notThinking, fun _ => h.speaking, h.covers, h.floor, h.lock, h.child⟩

/-- The `finally` block of `handleVisionCaptureResponse` gives everything back. -/
lemma obeys_releaseCapture {requestId : ℕ} (h : φ.Capturing requestId)
    {Q : Except String Unit → Phase → RoomState → Prop} (hQ : ∀ φ s, Exit φ s → Q (.ok ()) φ s) :
    (protocol env).Obeys
      (do
        resetVisionState
        perform (.touch .lastResponse)
        perform (.touch .lastSpeech)
        setPublishing false
        perform (.setProcessingLock false)) φ s Q := by
  have hfree : Phase.Free { φ.rest with cleared := true, floor := .none, lock := false } :=
    ⟨h.taking, h.muting, fun hsome => absurd hsome (by simp [Phase.rest, h.plain]),
      fun _ => rfl, rfl,
      rfl, rfl, h.child⟩
  refine Discipline.obeys_bind.mpr (obeys_perform_bind (ψ := φ.rest) ⟨Phase.joined h.child, rfl⟩ ?_)
  refine obeys_perform_bind (ψ := { φ.rest with cleared := true }) ⟨h.utterance, rfl⟩ ?_
  refine obeys_perform (ψ := { φ.rest with cleared := true }) rfl ?_
  refine obeys_perform_bind (.inl rfl) (obeys_perform_bind (.inl rfl) ?_)
  refine obeys_perform_bind (ψ := { φ.rest with cleared := true, floor := .none }) rfl ?_
  exact obeys_perform ⟨h.lock, rfl, rfl⟩ (hQ _ _ (hfree.exit _))

/-- The analysis of a capture: the phase stays one in which the flow has the lock. -/
lemma obeys_analyzeCapture {image : String} (h : φ.Capturing pending.requestId)
    (himage : φ.imageless = false) (hcapture : φ.capture = some pending.requestId)
    (hanalysed : φ.analysed = false) {Q : Except String Unit → Phase → RoomState → Prop}
    (hQ : ∀ res φ s, φ.Capturing pending.requestId → Q res φ s) :
    (protocol env).Obeys (analyzeCapture env pending image) φ s Q := by
  have hdone : Phase.Capturing { φ.talk with analysed := true } pending.requestId :=
    ⟨⟨⟨⟨h.taking, h.muting, h.thinking, h.locked⟩, h.mic, h.requesting, h.cleared⟩,
      h.request, h.child⟩,
      h.plain, h.lock, h.utterance⟩
  refine obeys_ite (fun _ => obeys_speakAndPublish h.toSpeaks fun res s' => hQ _ _ _ h) fun _ => ?_
  have hanalyze : ∀ s₁, (protocol env).Obeys
      (do
        perform (.analyze pending.requestId)
        let result ← await (.analyzeScreenShare (env.base64Data image) pending.userQuestion)
        publishData (.obj [("type", .str "vision_result"), ("requestId", jsNat pending.requestId),
          ("analysisType", .str result.analysisType), ("text", .str result.text)])
        speakAndPublish pending.requestId result.text false) φ.talk s₁ Q := fun s₁ => by
    refine obeys_perform_bind (ψ := { φ.talk with analysed := true })
      ⟨h.lock, himage, hcapture, hanalysed, rfl⟩ ?_
    refine obeys_ordinary_bind hdone.toCalm (fun result _ => ?_) fun _ _ => hQ _ _ _ hdone
    refine obeys_ordinary_bind hdone.toCalm (fun _ _ => ?_) fun _ _ => hQ _ _ _ hdone
    exact obeys_speakAndPublish hdone.toSpeaks fun _ _ => hQ _ _ _ hdone
  refine obeys_perform_bind (move_talk h.plain) (obeys_perform_bind (.inl rfl) (obeys_get_bind ?_))
  refine obeys_ite (fun _ => ?_) fun _ => hanalyze _
  exact obeys_speak_bind h.toSpeaks.talk (fun s₁ => hanalyze s₁) fun _ _ => hQ _ _ _ h.talk

/-- The phase of a flow that has taken the lock, `isPublishing` and a request id. -/
def Phase.lockFor (φ : Phase) (requestId : ℕ) : Phase :=
  { φ with lock := true, floor := .always, request := some requestId, taking := false }

/-- From the lock on; the lock is free, and the response answers the pending request or did so
before the wait.

**Proof sketch.** The lock, `isPublishing` and the request id are taken one after the other. Without
an image the exception escapes with the lock taken, which the phase records. With one, the analysis
and the apology for an exception both end in the `finally` block, which gives everything back. -/
lemma obeys_processCapture (h : φ.Waiting me message)
    (hid : message.requestId = some pending.requestId) (hfree : s.processingLock = false)
    (hmatch : φ.polling = true ∨ φ.Matches s) :
    (protocol env).Obeys (processCapture env me message pending) φ s (protocol env).Ends := by
  have hcapture : φ.capture = some pending.requestId := h.capture.trans hid
  refine obeys_perform_bind (ψ := { φ with lock := true })
    ⟨hfree, h.lock, h.analysed, hmatch, rfl⟩ ?_
  refine obeys_perform_bind (ψ := { φ with lock := true, floor := .always, taking := false })
    (.inl rfl) ?_
  refine obeys_perform_bind (ψ := φ.lockFor pending.requestId)
    ⟨h.root.symm, h.plain, h.greeting, h.request, h.mic, h.child, ⟨rfl, rfl, hcapture⟩, rfl⟩ ?_
  have hcapturing : (φ.lockFor pending.requestId).Capturing pending.requestId :=
    ⟨⟨⟨⟨rfl, h.muting, h.notThinking, fun _ => .inl rfl⟩, h.mic, h.requesting, h.cleared⟩, rfl,
      h.child⟩, h.plain, rfl, h.utterance⟩
  cases himage : message.imageBase64 with
  | none =>
    -- the exception leaves the lock and `isPublishing` behind
    have hbroken : φ.imageless = true := by rw [h.imageless, himage]; rfl
    have halways : (φ.lockFor pending.requestId).floor ≠ .whenCurrent := by simp [Phase.lockFor]
    exact ⟨rfl, h.muting, h.notThinking, fun _ => h.speaking,
      Phase.joined h.child, h.covers,
      fun hno => Bool.noConfusion hno, fun hw => absurd hw halways,
      fun hno => Bool.noConfusion (hbroken.symm.trans hno)⟩
  | some image =>
    refine Discipline.obeys_andFinally.mpr (Discipline.obeys_tryCatch.mpr ?_)
    have hfinally : ∀ (res : Except String Unit) φ' s', φ'.Capturing pending.requestId →
        (protocol env).Obeys
          (do
            resetVisionState
            perform (.touch .lastResponse)
            perform (.touch .lastSpeech)
            setPublishing false
            perform (.setProcessingLock false)) φ' s' fun r' φ s =>
          (protocol env).Obeys (Async.onValue (fun _ => Async.ofExcept res) r') φ s
            (protocol env).Ends := fun res φ' s' hφ' =>
      obeys_releaseCapture hφ' fun φ s hexit => Discipline.obeys_ofExcept.mpr hexit
    have hwhole : φ.imageless = false := by rw [h.imageless, himage]; rfl
    refine obeys_analyzeCapture hcapturing hwhole hcapture h.analysed fun res φ' s' hφ' => ?_
    cases res with
    | ok u => exact hfinally _ _ _ hφ'
    | error e =>
      refine obeys_perform_bind (ψ := φ') rfl (Discipline.obeys_tryCatch.mpr
        (obeys_speakAndPublish hφ'.toSpeaks fun res s'' => ?_))
      cases res with
      | ok u => exact hfinally _ _ _ hφ'
      | error e => exact obeys_perform (ψ := φ') rfl (hfinally _ _ _ hφ')

/-- The phase of a flow that has waited for the lock. -/
def Phase.poll (φ : Phase) : Phase := { φ with polling := true }

lemma Phase.Waiting.poll (h : φ.Waiting me message) : φ.poll.Waiting me message :=
  { h with
    atRest := congrArg Phase.poll h.atRest }

/-- One sleep of the wait for the lock. -/
lemma obeys_sleep (h : φ.Waiting me message) (hlock : s.processingLock = true)
    (hmatch : φ.polling = true ∨ φ.Matches s) {ms : ℕ} {g : Unit → Prog Unit}
    {Q : Except String Unit → Phase → RoomState → Prop}
    (hok : ∀ s', (protocol env).Obeys (g ()) φ.poll s' Q)
    (herror : ∀ message s', Q (.error message) φ.poll s') :
    (protocol env).Obeys (await (.sleep ms) >>= g) φ s Q := by
  have hpark : park (.sleep ms) φ = φ.poll := by
    simp [park, Phase.poll, micOf, h.requesting, h.cleared, h.mic]
  refine obeys_await_bind (ψ := φ.poll) ⟨⟨h.taking, h.muting, h.notThinking, fun _ => .inr rfl⟩,
    ⟨hlock, h.lock, hmatch⟩, hpark.symm⟩ fun reply s' => ?_
  cases reply with
  | error message => exact herror message s'
  | ok u => exact hok s'

/-- The wait for the lock, once the flow has slept. -/
lemma obeys_waitForLock (h : φ.Waiting me message)
    {Q : Except String Unit → Phase → RoomState → Prop}
    (hQ : ∀ res s, Q res φ.poll s) :
    ∀ (n : ℕ) (s : RoomState), (protocol env).Obeys (waitForLock n) φ.poll s Q := by
  intro n
  induction n with
  | zero => exact fun s => hQ _ s
  | succ n ih =>
    intro s
    refine obeys_get_bind (obeys_ite (fun hlock => ?_) fun _ => hQ _ s)
    exact obeys_sleep h.poll hlock (.inl rfl) (fun s' => ih s') fun e s' => hQ _ s'

lemma obeys_handleVisionCaptureResponse (h : φ.Waiting me message) :
    (protocol env).Obeys (handleVisionCaptureResponse env me message) φ s (protocol env).Ends := by
  refine obeys_get_bind ?_
  cases hpending : s.pendingVisionRequest with
  | none => exact h.free.exit s
  | some pending =>
    refine obeys_ite (fun _ => h.free.exit s) fun hid => ?_
    simp only [ne_eq, not_not] at hid
    have hmatch : φ.Matches s := ⟨pending, hpending, h.capture.trans hid⟩
    refine obeys_ite (fun hlock => ?_) fun hlock => ?_
    · have hpoll : ∀ s₁, (protocol env).Obeys
          (do
            let s ← get
            if s.processingLock then resetVisionState
            else processCapture env me message pending) φ.poll s₁ (protocol env).Ends := by
        intro s₁
        refine obeys_get_bind (obeys_ite (fun _ => ?_) fun hfree => ?_)
        · have hreset : Phase.Free { φ.poll.rest with cleared := true } :=
            ⟨h.taking, h.muting, h.notThinking, fun _ => rfl, rfl, h.floor, h.lock, h.child⟩
          refine obeys_perform_bind (ψ := φ.poll.rest) ⟨Phase.joined h.child, rfl⟩ ?_
          refine obeys_perform_bind (ψ := { φ.poll.rest with cleared := true })
            ⟨h.utterance, rfl⟩ ?_
          exact obeys_perform (ψ := { φ.poll.rest with cleared := true }) rfl (hreset.exit _)
        · exact obeys_processCapture h.poll hid (by simpa using hfree) (.inl rfl)
      refine Discipline.obeys_bind.mpr (obeys_get_bind (obeys_ite (fun _ => ?_)
        fun hno => absurd hlock hno))
      refine obeys_sleep h hlock (.inr hmatch) (fun s₁ => ?_) fun e s₁ => h.poll.free.exit s₁
      refine obeys_waitForLock h (fun res s₂ => ?_) _ _
      cases res with
      | error e => exact h.poll.free.exit s₂
      | ok u => exact hpoll s₂
    · exact obeys_processCapture h hid (by simpa using hlock) (.inr hmatch)

/-! ## "Thinking" -/

/-- The phase after a `thinkingTask` has begun to speak. -/
def Phase.think (φ : Phase) (t : Thinking) : Phase :=
  { φ with fired := true, request := some t.requestId }

/-- The phase in which a `thinkingTask` may settle its promise. -/
structure Phase.Closing (φ : Phase) (t : Thinking) : Prop where
  thinking : φ.thinking = some t
  root : φ.root = t.parent
  fired : φ.fired = true
  ended : φ.ended = false
  taking : φ.taking = false
  muting : φ.muting = false
  covers : φ.covers = false
  floor : φ.floor = .none
  lock : φ.lock = false
  child : φ.child = false
  quiet : φ.request = none → φ.speaking = false

/-- How a `thinkingTask` ends: its promise is settled. -/
lemma obeys_endThinking {t : Thinking} (h : φ.Closing t) {res : Except String Unit}
    (hok : res = .ok () → φ.request = none ∨ s.botState ≠ .speaking) :
    (protocol env).Obeys (perform (.endThinking t.parent res)) φ s (protocol env).Ends := by
  have hfree : Phase.Free { φ with ended := true, mic := .off } :=
    ⟨h.taking, h.muting, fun _ => ⟨h.fired, rfl⟩,
      fun hno => absurd (h.thinking.symm.trans hno) (by simp),
      h.covers, h.floor, h.lock, h.child⟩
  exact obeys_perform ⟨by simp [h.thinking], h.root.symm, h.fired, h.ended, h.quiet, hok, rfl⟩
    (hfree.exit _)

lemma obeys_thinkingTask {n : ℕ} {t : Thinking} :
    (protocol env).Obeys (thinkingTask t) (start n (.thinking t)) s (protocol env).Ends := by
  refine Discipline.obeys_onExit.mpr ?_
  refine obeys_perform_bind (ψ := { start n (.thinking t) with fired := true })
    ⟨rfl, rfl, rfl, rfl⟩ ?_
  refine obeys_get_bind (obeys_ite (fun _ => ?_) fun hspeak => ?_)
  · exact obeys_endThinking ⟨rfl, rfl, rfl, rfl, rfl, rfl, rfl, rfl, rfl, rfl, fun _ => rfl⟩
      fun _ => .inl rfl
  · simp only [not_or, ne_eq, not_not] at hspeak
    have hs : ((start n (.thinking t)).think t).Speaks t.requestId :=
      ⟨⟨⟨rfl, rfl, fun _ => ⟨rfl, rfl, rfl⟩, fun hsome => Bool.noConfusion hsome⟩, rfl, rfl, rfl⟩,
        rfl, rfl⟩
    refine obeys_perform_bind (ψ := { (start n (.thinking t)).talk with fired := true })
      ⟨fun _ => ⟨rfl, rfl⟩, rfl⟩ ?_
    refine obeys_perform_bind (ψ := ((start n (.thinking t)).think t).talk)
      ⟨t, rfl, rfl, rfl, rfl, rfl, rfl, rfl, hspeak.1, hspeak.2.symm, rfl⟩ ?_
    refine obeys_speak_bind hs.talk (fun s₁ => ?_) fun e s₁ => ?_
    · refine obeys_perform (ψ := ((start n (.thinking t)).think t).rest) ⟨Phase.joined rfl, rfl⟩ ?_
      exact obeys_endThinking ⟨rfl, rfl, rfl, rfl, rfl, rfl, rfl, rfl, rfl, rfl, fun _ => rfl⟩
        fun _ => .inr (by simp [Act.apply])
    · exact obeys_endThinking ⟨rfl, rfl, rfl, rfl, rfl, rfl, rfl, rfl, rfl, rfl,
        fun hno => absurd hno (by simp [Phase.think, Phase.talk])⟩ (by simp)

/-! ## Handlers without calls -/

lemma obeys_aiMute (h : φ.Fresh me false) {muted : Bool} :
    (protocol env).Obeys (aiMute muted) φ s (protocol env).Ends := by
  have hfree : Phase.Free { φ with muting := false } :=
    ⟨h.taking, rfl, h.notThinking, fun _ => h.speaking, h.covers, h.floor, h.lock, h.child⟩
  refine obeys_perform_bind ⟨h.mic, rfl⟩ (obeys_ite (fun _ => ?_) fun hno => ?_)
  · exact obeys_perform rfl (hfree.exit _)
  · simp only [Bool.not_eq_true] at hno
    subst hno
    exact hfree.exit _

lemma obeys_bargeIn (h : φ.Fresh me false) {userId : String} :
    (protocol env).Obeys (bargeIn userId) φ s (protocol env).Ends := by
  have hfree : Phase.Free { φ with muting := false } :=
    ⟨h.taking, rfl, h.notThinking, fun _ => h.speaking, h.covers, h.floor, h.lock, h.child⟩
  exact obeys_get_bind (obeys_ite (fun _ => obeys_perform rfl (hfree.exit _)) fun _ => h.exit s)

lemma obeys_publishingTimeout (h : φ.Fresh me false) :
    (protocol env).Obeys publishingTimeout φ s (protocol env).Ends := by
  have hfree : Phase.Free { φ with floor := .none } :=
    ⟨h.taking, h.muting, h.notThinking, fun _ => h.speaking, h.covers, rfl, h.lock, h.child⟩
  exact obeys_get_bind (obeys_ite (fun _ => obeys_perform rfl (hfree.exit _)) fun _ => h.exit s)

lemma obeys_armedTimeout (h : φ.Fresh me false) :
    (protocol env).Obeys armedTimeout φ s (protocol env).Ends :=
  obeys_get_bind (obeys_ite
    (fun _ => obeys_perform_bind (ψ := φ) ⟨Phase.joined h.child, h.atRest.symm⟩
      (obeys_perform (ψ := φ) rfl (h.exit _)))
    fun _ => h.exit s)

lemma obeys_enterStandbyMode (h : φ.Fresh me false) :
    (protocol env).Obeys enterStandbyMode φ s (protocol env).Ends :=
  obeys_get_bind (obeys_ite (fun _ => h.exit s) fun _ =>
    obeys_perform_bind (ψ := φ) rfl (obeys_perform (ψ := φ) ⟨Phase.joined h.child, h.atRest.symm⟩
      (h.exit _)))

lemma obeys_screenShare (h : φ.Fresh me false) (hutterance : φ.utterance = false) {on : Bool} :
    (protocol env).Obeys (screenShare on) φ s (protocol env).Ends := by
  have hfree : Phase.Free { φ with cleared := true } :=
    ⟨h.taking, h.muting, h.notThinking, fun _ => h.speaking, h.covers, h.floor, h.lock, h.child⟩
  refine obeys_perform_bind (ψ := φ) rfl (obeys_ite (fun _ => ?_) fun _ => h.exit _)
  exact obeys_perform ⟨hutterance, rfl⟩ (hfree.exit _)

end Flows

/-- A called flow starts fresh, unless it is a `thinkingTask` or handles a capture response. -/
lemma start_fresh {n : ℕ} {flow : Flow} (hroot : flow.root n = n)
    (hthinking : (start n flow).thinking = none) (hcapture : (start n flow).capture = none)
    (himage : (start n flow).imageless = false) :
    (start n flow).Fresh n (start n flow).greeting :=
  ⟨⟨⟨rfl, rfl, fun hsome => absurd hsome (by simp [hthinking]),
    fun hsome => absurd hsome (by simp [hcapture])⟩, rfl, rfl, rfl⟩,
      hroot, rfl, hthinking, rfl, rfl, rfl,
    rfl, rfl, hcapture, himage, rfl⟩

/-- **Every flow follows the protocol.** -/
theorem protocol_sound (env : Env) : (protocol env).Sound := by
  intro n flow s _
  cases flow with
  | processAndRespond utterance => exact obeys_processAndRespond (start_fresh rfl rfl rfl rfl)
  | thinking t => exact obeys_thinkingTask
  | timerNotify event data => exact obeys_timerNotify (start_fresh rfl rfl rfl rfl)
  | handlePerplexityMessage type payload senderId =>
    exact obeys_handlePerplexityMessage (start_fresh rfl rfl rfl rfl)
  | handleVisionCaptureResponse message =>
    exact obeys_handleVisionCaptureResponse
      ⟨rfl, rfl, rfl, rfl, rfl, rfl, rfl, rfl, rfl, rfl, rfl, rfl, rfl, rfl, rfl, rfl, rfl⟩
  | explainGeneratedDiagrams diagrams =>
    exact obeys_explainGeneratedDiagrams (start_fresh rfl rfl rfl rfl)
  | clientReady continued => exact obeys_clientReady (start_fresh rfl rfl rfl rfl)
  | aiMute muted => exact obeys_aiMute (start_fresh rfl rfl rfl rfl)
  | bargeIn userId => exact obeys_bargeIn (start_fresh rfl rfl rfl rfl)
  | publishingTimeout => exact obeys_publishingTimeout (start_fresh rfl rfl rfl rfl)
  | armedTimeout => exact obeys_armedTimeout (start_fresh rfl rfl rfl rfl)
  | enterStandbyMode => exact obeys_enterStandbyMode (start_fresh rfl rfl rfl rfl)
  | screenShare on => exact obeys_screenShare (start_fresh rfl rfl rfl rfl) rfl
  | setModes modes =>
    exact obeys_perform (ψ := start n (.setModes modes)) rfl
      ((start_fresh rfl rfl rfl rfl : (start n (.setModes modes)).Fresh n false).exit _)
  | setParticipants participants =>
    exact obeys_perform (ψ := start n (.setParticipants participants)) rfl
      ((start_fresh rfl rfl rfl rfl :
        (start n (.setParticipants participants)).Fresh n false).exit _)

end VoiceBot
