import AuraLive.VoiceBot.OneVoice

set_option relaxedAutoImplicit false
set_option autoImplicit false

/-!
# The mute switch

The handler of `AI_MUTE` sets `aiMuted`, which keeps `speakAndPublish` from starting, and
`shouldInterrupt`, which stops a flow that is playing. The flag stops one flow only, the first one
that reads it, and a flow that was waiting for its speech when the bot was muted clears it and
plays.

## Main definitions

* `VoiceBot.SilentWhenMuted` — no frame of an answer is sent while the bot is muted.
* `VoiceBot.mutesCleanly` — while the bot is muted, no speech comes back that is still
  current, and nobody clears the interrupt flag under a flow that is on air.

## Main results

* `VoiceBot.silent_of_mutesCleanly` — then the bot is silent while it is muted.
* `VoiceBot.muted_and_speaking` — a mute during the speech synthesis is lost.
-/

namespace VoiceBot

open Foundations

/-- A frame of an answer, sent by `publishAudio` as called from `speakAndPublish`. -/
def Act.isAnswerFrame : Act → Bool
  | .captureFrame (.answer _) _ => true
  | _ => false

/-- No frame of an answer is sent while the bot is muted. -/
def SilentWhenMuted (env : Env) (pool : RoomPool) (e : RoomEvent) : Prop :=
  ∀ x ∈ (runtime env).trace pool e, x.1.aiMuted = true → x.2.isAnswerFrame = false

instance decidableSilentWhenMuted (env : Env) (pool : RoomPool) (e : RoomEvent) :
    Decidable (SilentWhenMuted env pool e) :=
  inferInstanceAs (Decidable (∀ x ∈ (runtime env).trace pool e,
    x.1.aiMuted = true → x.2.isAnswerFrame = false))

/-- The action clears the interrupt flag. -/
def Act.clearsInterrupt : Act → Bool
  | .setShouldInterrupt false => true
  | _ => false

/-- The task is on air with an answer. -/
def Op.answersOnAir : Op → Bool
  | .announce _ _ => true
  | .frameTimer (.answer _) => true
  | _ => false

/-- The request whose speech has come back. -/
def synthesized : (op : Op) → Except String op.Reply → Option ℕ
  | .synthesizePcm (.answer requestId) _, .ok _ => some requestId
  | _, _ => none

/-- While the bot is muted, speech that comes back belongs to a request that has been superseded,
and the interrupt flag is not cleared while another flow is on air. -/
def mutesCleanly (env : Env) : Guards (runtime env) where
  call _ _ _ := True
  resume _ s seat reply := s.aiMuted = true → ∀ requestId ∈ synthesized seat.op reply,
    s.currentRequestId ≠ requestId ∧ s.currentRequestId ≠ 0
  act seats _ _ s a := s.aiMuted = true → a.clearsInterrupt = true →
    ∀ seat ∈ seats, seat.op.answersOnAir = false

/-! ## The invariant -/

/-- The part of a task that concerns the mute switch. -/
structure Listener where
  running : Bool
  muting : Bool
  request : Option ℕ
  mic : Mic

/-- A task without the fields that do not concern the mute switch. -/
def listener (x : RoomMember) : Listener :=
  ⟨x.op.isNone, x.phase.muting, x.phase.request, x.phase.mic⟩

/-- While the bot is muted, a flow that is on air will be interrupted, and one whose speech has just
come back has been superseded. -/
structure Hushed (muted interrupt : Bool) (current : ℕ) (K : Set Listener) : Prop where
  heard : muted = true → (∀ x ∈ K, x.muting = false) → ∀ x ∈ K, x.mic = .onAir → x.request ≠ none →
    interrupt = true
  checked : muted = true → ∀ x ∈ K, x.running = true → x.mic = .synthesizing → x.request ≠ none →
    current ≠ 0 ∧ x.request ≠ some current

/-- The invariant of a room. -/
def IsHushed : ℕ → RoomState → Set RoomMember → Prop := fun _ s L =>
  Hushed s.aiMuted s.shouldInterrupt s.currentRequestId (listener '' L)

namespace Hushed

variable {muted interrupt : Bool} {current : ℕ} {K : Set Listener} {x : Listener}

/-- A task that is not in `speakAndPublish` joins. -/
lemma call (h : Hushed muted interrupt current K) :
    Hushed muted interrupt current (insert ⟨true, false, none, .off⟩ K) where
  heard := by grind [h.heard]
  checked := by grind [h.checked]

/-- A task has ended. -/
lemma exit (h : Hushed muted interrupt current (insert x K)) (hx : x.muting = false) :
    Hushed muted interrupt current K where
  heard hm hall y hy := h.heard hm (Set.forall_mem_insert.mpr ⟨hx, hall⟩) y (.inr hy)
  checked hm y hy := h.checked hm y (.inr hy)

/-- Another state of the microphone: on air only a task that has been there, and the check of the
request id is not passed over. -/
lemma withMic (h : Hushed muted interrupt current (insert x K)) {running : Bool} {m : Mic}
    (hon : m = .onAir → x.request ≠ none → x.mic = .onAir)
    (hsynth : muted = true → running = true → m = .synthesizing → x.request ≠ none →
      current ≠ 0 ∧ x.request ≠ some current) :
    Hushed muted interrupt current (insert { x with running := running, mic := m } K) where
  heard hm hall := by
    rw [Set.forall_mem_insert] at hall ⊢
    obtain ⟨hown, hothers⟩ :=
      Set.forall_mem_insert.mp (h.heard hm (Set.forall_mem_insert.mpr hall))
    exact ⟨fun hair hreq => hown (hon hair hreq) hreq, hothers⟩
  checked hm := by
    rw [Set.forall_mem_insert]
    exact ⟨hsynth hm, (Set.forall_mem_insert.mp (h.checked hm)).2⟩

/-- A task that is not in `speakAndPublish` may take any request. -/
lemma withRequest (h : Hushed muted interrupt current (insert x K)) (hmic : x.mic = .off)
    (hrest : ∀ y ∈ K, y.running = false) (r : Option ℕ) (current' : ℕ) :
    Hushed muted interrupt current' (insert { x with request := r } K) where
  heard hm hall := by
    rw [Set.forall_mem_insert] at hall ⊢
    obtain ⟨-, hothers⟩ :=
      Set.forall_mem_insert.mp (h.heard hm (Set.forall_mem_insert.mpr hall))
    exact ⟨fun hair => absurd (hmic.symm.trans hair) (by simp), hothers⟩
  checked hm := by
    rw [Set.forall_mem_insert]
    exact ⟨fun _ hs => absurd (hmic.symm.trans hs) (by simp),
      fun y hy hrun => Bool.noConfusion ((hrest y hy).symm.trans hrun)⟩

/-- The switch is turned. -/
lemma mute (_ : Hushed muted interrupt current (insert x K)) (hmic : x.mic = .off)
    (hrest : ∀ y ∈ K, y.running = false) (muted' : Bool) :
    Hushed muted' interrupt current (insert { x with muting := muted' } K) where
  heard hm hall := Bool.noConfusion (hm.symm.trans (hall _ (Set.mem_insert _ _)))
  checked hm := by
    rw [Set.forall_mem_insert]
    exact ⟨fun _ hs => absurd (hmic.symm.trans hs) (by simp),
      fun y hy hrun => Bool.noConfusion ((hrest y hy).symm.trans hrun)⟩

/-- A flow is to be interrupted. -/
lemma interrupts (h : Hushed muted interrupt current (insert x K)) :
    Hushed muted true current (insert { x with muting := false } K) where
  heard _ _ _ _ _ _ := rfl
  checked hm := by
    rw [Set.forall_mem_insert]
    exact Set.forall_mem_insert.mp (h.checked hm)

/-- The flag is cleared while nobody else is on air, by a task that does not go on air with an
answer while the bot is muted. -/
lemma clears (h : Hushed muted interrupt current (insert x K)) {m : Mic}
    (hair : muted = true → ∀ y ∈ K, y.mic = .onAir → y.request = none)
    (hm : muted = true → m = .off ∨ x.request = none) :
    Hushed muted false current (insert { x with mic := m } K) where
  heard hmuted _ := by
    rw [Set.forall_mem_insert]
    refine ⟨fun hon hreq => ?_, fun y hy hon hreq => absurd (hair hmuted y hy hon) hreq⟩
    rcases hm hmuted with rfl | hnone
    · exact absurd hon (by simp)
    · exact absurd hnone hreq
  checked hmuted := by
    rw [Set.forall_mem_insert]
    refine ⟨fun _ hs hreq => ?_, (Set.forall_mem_insert.mp (h.checked hmuted)).2⟩
    rcases hm hmuted with rfl | hnone
    · exact absurd hs (by simp)
    · exact absurd hnone hreq

end Hushed

section Certificate

variable {n i : ℕ} {flow : Flow} {φ φ' : Phase} {s : RoomState} {O : Set RoomMember}
  {seats : List (Seat Op Flow)} {env : Env}

/-- A task that is on air with a request waits there for an answer. -/
lemma Known.answersOnAir {L : Set RoomMember} (hK : Known n s L) {x : RoomMember} (hx : x ∈ L)
    {op : Op} (hop : x.op = some op) (hair : x.phase.mic = .onAir) (hreq : x.phase.request ≠ none) :
    op.answersOnAir = true := by
  have hmic := (hK.1 x hx).mic op hop
  cases op with
  | announce requestId text => rfl
  | frameTimer voice =>
    cases voice with
    | answer requestId => rfl
    | greeting => exact absurd ((hK.1 x hx).silent ((hK.1 x hx).greets _ hop rfl)) hreq
  | _ => exact absurd (hair.symm.trans hmic) (by simp [micOf])

/-- An action keeps muted rooms silent, if it clears `shouldInterrupt` cleanly.

**Proof sketch.** Actions that do not concern speech leave the listeners and the room as they are.
Of the others, a mute is set by a task that is not on the air, while nobody runs; setting
`shouldInterrupt` stops whoever speaks. Clearing it is the case in which the guard is needed: in a
muted room nobody is on the air with an answer, and the task that goes on the air has passed the
check of the id, so it has no request. The remaining actions take a request or leave the air. -/
lemma IsHushed.act {a : Act} (hc : Crew n i O seats) (hmove : Move a φ s φ')
    (hclean : (mutesCleanly env).act seats i flow s a)
    (hK : Known n s (insert ⟨i, flow, none, φ⟩ O))
    (h : IsHushed n s (insert ⟨i, flow, none, φ⟩ O)) :
    IsHushed n (a.apply s) (insert ⟨i, flow, none, φ'⟩ O) := by
  have hown : Proper ⟨i, flow, none, φ⟩ := hK.1 _ (Set.mem_insert _ _)
  have hrest : ∀ y ∈ listener '' O, y.running = false := by
    rintro _ ⟨x, hx, rfl⟩
    obtain ⟨op, hop, -⟩ := hc.seated x hx
    simp [listener, hop]
  rw [IsHushed, Set.image_insert_eq] at h ⊢
  cases ha : a.concernsSpeech with
  | false =>
    obtain ⟨⟨-, -, hrequest, hmic, hmuting⟩, hcurrent, hmuted, hint⟩ := hmove.speech_eq ha
    have hsame : listener ⟨i, flow, none, φ'⟩ = listener ⟨i, flow, none, φ⟩ := by
      simp only [listener, hmuting, hrequest, hmic]
    rw [hsame, hcurrent, hmuted, hint]
    exact h
  | true =>
    cases a with
    | setAiMuted muted =>
      obtain ⟨hmic, rfl⟩ := hmove
      exact h.mute hmic hrest muted
    | setShouldInterrupt on =>
      cases on with
      | true =>
        obtain rfl := hmove
        exact h.interrupts
      | false =>
        have hair : s.aiMuted = true → ∀ y ∈ listener '' O, y.mic = .onAir →
            y.request = none := by
          rintro hmuted _ ⟨x, hx, rfl⟩ hon
          by_contra hreq
          obtain ⟨op, hop, hseat⟩ := hc.seated x hx
          have hanswers := hK.answersOnAir (.inr hx) hop hon hreq
          exact Bool.noConfusion (hanswers.symm.trans (hclean hmuted rfl _ hseat))
        cases hmic : φ.mic with
        | off =>
          simp only [Move, hmic] at hmove
          obtain rfl := hmove
          have hsame : ({ listener ⟨i, flow, none, φ'⟩ with mic := .off } : Listener) =
              listener ⟨i, flow, none, φ'⟩ := by simp [listener, hmic]
          rw [← hsame]
          exact h.clears hair fun _ => .inl rfl
        | onAir =>
          simp only [Move, hmic] at hmove
          obtain rfl := hmove
          exact h.clears hair fun _ => .inl rfl
        | synthesizing =>
          simp only [Move, hmic] at hmove
          obtain ⟨hid, rfl⟩ := hmove
          -- the check of the id has been passed, so the task has no request if the bot is muted
          refine h.clears hair fun hmuted => .inr ?_
          by_contra hreq
          exact absurd hid (not_or.mpr (h.checked hmuted _ (Set.mem_insert _ _) rfl hmic hreq))
    | setCurrentRequestId claim =>
      obtain ⟨-, -, -, -, hmic, -, -, rfl⟩ := hmove
      exact h.withRequest hmic hrest _ _
    | touch stamp =>
      have hoff : Hushed _ _ _ (insert (listener ⟨i, flow, none, { φ with mic := .off }⟩) _) :=
        h.withMic (by simp) (by simp)
      cases stamp <;> rcases hmove with rfl | rfl <;> first | exact h | exact hoff
    | captureFrame voice frame =>
      obtain ⟨-, -, -, rfl | rfl⟩ := hmove
      · exact h
      · exact h.withMic (by simp) (by simp)
    | speakThinking task =>
      obtain ⟨t, -, -, -, -, -, hmic, -, -, -, rfl⟩ := hmove
      exact h.withRequest hmic hrest _ _
    | endThinking task result =>
      obtain ⟨-, -, -, -, -, -, rfl⟩ := hmove
      exact h.withMic (by simp) (by simp)
    | _ => simp [Act.concernsSpeech] at ha

/-- Speech that has come back is speech of the request. -/
lemma speech_of_synthesized {op : Op} {reply : Except String op.Reply} {requestId : ℕ}
    (h : synthesized op reply = some requestId) : op.speech = some requestId := by
  cases op with
  | synthesizePcm voice text =>
    cases voice <;> cases reply <;> simp_all [synthesized, Op.speech]
  | _ => simp [synthesized] at h

/-- A task goes on from the speech synthesis only when its speech has come back. -/
lemma synthesized_of_resume {op : Op} {reply : Except String op.Reply}
    (hop : micOf op = .synthesizing) (hr : VoiceBot.resume op reply φ = φ)
    (hmic : φ.mic = .synthesizing) (hgreeting : ¬ op.isGreeting = true) :
    ∃ requestId, synthesized op reply = some requestId := by
  cases op with
  | synthesizePcm voice text =>
    cases voice with
    | greeting => simp [Op.isGreeting] at hgreeting
    | answer requestId =>
      cases reply with
      | ok pcm => exact ⟨requestId, rfl⟩
      | error message =>
        have hoff :
            (VoiceBot.resume (.synthesizePcm (.answer requestId) text) (.error message) φ).mic =
          .off := rfl
        rw [hr, hmic] at hoff
        cases hoff
  | _ => simp [micOf] at hop

lemma IsHushed.resume {op : Op} {reply : Except String op.Reply}
    (hclean : (mutesCleanly env).resume seats s ⟨i, flow, op⟩ reply)
    (hK : Known n s (insert ⟨i, flow, some op, φ⟩ O))
    (h : IsHushed n s (insert ⟨i, flow, some op, φ⟩ O)) :
    IsHushed n s (insert ⟨i, flow, none, resume op reply φ⟩ O) := by
  have hown : Proper ⟨i, flow, some op, φ⟩ := hK.1 _ (Set.mem_insert _ _)
  rw [IsHushed, Set.image_insert_eq] at h ⊢
  rcases resume_cases op reply φ with hr | ⟨hr, text, hop⟩ | hr | ⟨task, hop, hr | hr⟩
  · rw [hr]
    refine h.withMic (fun hair _ => hair) fun hmuted _ hmic hreq => ?_
    obtain ⟨requestId, hs⟩ := synthesized_of_resume ((hown.mic op rfl).symm.trans hmic) hr hmic
      fun hg => hreq (hown.silent (hown.greets op rfl hg))
    obtain ⟨hid, h0⟩ := hclean hmuted requestId hs
    have hown' : φ.request = some requestId := hown.speech op _ rfl (speech_of_synthesized hs)
    exact ⟨h0, fun hsame => hid (Option.some.inj (hsame.symm.trans hown'))⟩
  · -- the greeting goes on air without a request
    have hnone : φ.request = none := hown.silent (hown.greets op rfl (by rw [hop]; rfl))
    rw [hr]
    exact h.withMic (fun _ hreq => absurd hnone hreq) (by simp)
  · rw [hr]
    exact h.withMic (by simp) (by simp)
  · have hmic : φ.mic = .off := (hown.mic op rfl).trans (by rw [hop]; rfl)
    rw [hr]
    exact h.withMic (fun hair _ => hair) fun _ _ hs => absurd (hmic.symm.trans hs) (by simp)
  · have hmic : φ.mic = .off := (hown.mic op rfl).trans (by rw [hop]; rfl)
    rw [hr]
    exact h.withMic (fun hair _ => hair) fun _ _ hs => absurd (hmic.symm.trans hs) (by simp)

/-- The silence of a muted bot is kept. -/
theorem hushed_certificate (env : Env) :
    (protocol env).Certificate (mutesCleanly env) Known IsHushed where
  tick _ _ h := h
  call _ _ _ _ h := by
    rw [IsHushed, Set.image_insert_eq]
    exact h.call
  resume _ _ hclean hK h := h.resume hclean hK
  act hc hmove hclean hK h := h.act hc hmove hclean hK
  wait _ hwait _ h := by
    obtain ⟨-, hok, rfl⟩ := hwait
    rw [IsHushed, Set.image_insert_eq] at h ⊢
    exact h.withMic (fun hair _ => hok.onAir hair) (by simp)
  exit _ hexit _ h := by
    rw [IsHushed, Set.image_insert_eq] at h
    exact h.exit hexit.muting

end Certificate

/-! ## Silence -/

/-- What is known in a run in which the bot is muted cleanly. -/
abbrev MutedCleanly (env : Env) : RoomPool → Prop :=
  (protocol env).Holds ((protocol env).both Known IsHushed)

lemma mutedCleanly_certificate (env : Env) :
    (protocol env).Certificate (mutesCleanly env) Discipline.anything
      ((protocol env).both Known IsHushed) :=
  (known_certificate env).both (hushed_certificate env) (fun _ _ _ _ => trivial)
    (fun _ _ _ _ _ => trivial) fun _ _ _ _ _ _ => trivial

lemma mutedCleanly_init (env : Env) : MutedCleanly env (room env).init := by
  refine Discipline.init_holds ⟨known_init, ?_⟩
  rw [IsHushed, Set.image_empty]
  constructor <;> simp

/-- No frame of an answer is sent in a muted state. -/
lemma MutedCleanly.silent {env : Env} {pool : RoomPool} {e : RoomEvent} (h : MutedCleanly env pool)
    (hclean : (mutesCleanly env).Holds pool e) : SilentWhenMuted env pool e := by
  rintro ⟨s, a⟩ hx hmuted
  obtain ⟨t, φ, φ', O, -, hc, ⟨hK, hhushed⟩, hmove, -⟩ :=
    (mutedCleanly_certificate env).trace (protocol_sound env) h hclean hx
  cases hframe : a.isAnswerFrame with
  | false => rfl
  | true =>
    cases a with
    | captureFrame voice frame =>
      cases voice with
      | greeting => simp [Act.isAnswerFrame] at hframe
      | answer requestId =>
        obtain ⟨hmic, hint, hreq, -⟩ := hmove
        have hcalm : ∀ y ∈ listener '' insert ⟨t.id, t.flow, none, φ⟩ O, y.muting = false := by
          rintro _ ⟨x, rfl | hx, rfl⟩
          · have hown := hK.1 _ (Set.mem_insert _ _)
            cases hmuting : φ.muting with
            | false => exact hmuting
            | true => exact absurd ((hown.muting hmuting).symm.trans hmic) (by simp)
          · obtain ⟨op, hop, -⟩ := hc.seated x hx
            exact ((hK.1 x (.inr hx)).settled op hop).muting
        have hflag := hhushed.heard hmuted hcalm _ ⟨_, Set.mem_insert _ _, rfl⟩ hmic
          (by simp [listener, hreq requestId rfl])
        exact Bool.noConfusion (hint.symm.trans hflag)
    | _ => simp [Act.isAnswerFrame] at hframe

/-- **Mute is honoured** in every run in which, while the bot is muted, speech that comes back
belongs to a superseded request and nobody clears the interrupt flag while another flow is on air:
no frame of an answer is sent between the two messages. -/
theorem silent_of_mutesCleanly (env : Env) (es : List RoomEvent)
    (h : (room env).AllSteps (mutesCleanly env).Holds (room env).init es) :
    (room env).AllSteps (SilentWhenMuted env) (room env).init es :=
  EventSystem.allSteps_of_invariant
    (fun _ _ _ hK hG hs => (mutedCleanly_certificate env).step (protocol_sound env) hK hG hs)
    (fun _ _ hK hG => MutedCleanly.silent hK hG) (mutedCleanly_init env) h

instance (env : Env) (seats : List (Seat Op Flow)) (s : RoomState) (flow : Flow) :
    Decidable ((mutesCleanly env).call seats s flow) :=
  inferInstanceAs (Decidable True)

instance (env : Env) (seats : List (Seat Op Flow)) (s : RoomState) (seat : Seat Op Flow)
    (reply : Except String seat.op.Reply) :
    Decidable ((mutesCleanly env).resume seats s seat reply) :=
  inferInstanceAs (Decidable (s.aiMuted = true → ∀ requestId ∈ synthesized seat.op reply,
    s.currentRequestId ≠ requestId ∧ s.currentRequestId ≠ 0))

instance (env : Env) (seats : List (Seat Op Flow)) (i : ℕ) (flow : Flow) (s : RoomState) (a : Act) :
    Decidable ((mutesCleanly env).act seats i flow s a) :=
  inferInstanceAs (Decidable (s.aiMuted = true → a.clearsInterrupt = true →
    ∀ seat ∈ seats, seat.op.answersOnAir = false))

/-- The bot is muted while an answer is played. -/
def muteDuringAnswer : List RoomEvent :=
  [.call ⟨1000, 1000, 0⟩ (.setModes Modes.talkative),
    .call ⟨2000, 2000, 0⟩ (.processAndRespond ⟨"kim", none⟩),
    .resume ⟨3000, 3000, 0⟩ 1 speechReplies, .resume ⟨3100, 3100, 0⟩ 1 speechReplies,
    .resume ⟨3200, 3200, 0⟩ 1 speechReplies, .call ⟨3205, 3205, 0⟩ (.aiMute true),
    .resume ⟨3210, 3210, 0⟩ 1 speechReplies]

/-- The theorem for a mute that stops an answer while it is played. -/
theorem silent_muteDuringAnswer :
    (room (.simple .call)).AllSteps (mutesCleanly (.simple .call)).Holds (room (.simple .call)).init
        muteDuringAnswer ∧
      (room (.simple .call)).AllSteps (SilentWhenMuted (.simple .call)) (room (.simple .call)).init
        muteDuringAnswer :=
  ⟨by decide +kernel,
    silent_of_mutesCleanly (.simple .call) muteDuringAnswer (by decide +kernel)⟩

/-- The bot is muted while the speech of an answer is synthesized. -/
def muteDuringSynthesis : List RoomEvent :=
  [.call ⟨1000, 1000, 0⟩ (.setModes Modes.talkative),
    .call ⟨2000, 2000, 0⟩ (.processAndRespond ⟨"kim", none⟩),
    .resume ⟨3000, 3000, 0⟩ 1 speechReplies, .call ⟨3050, 3050, 0⟩ (.aiMute true),
    .resume ⟨3100, 3100, 0⟩ 1 speechReplies, .resume ⟨3200, 3200, 0⟩ 1 speechReplies]

/-- The answer is played all the same: `aiMuted` was read before the synthesis, and the interrupt
flag is cleared after it. -/
theorem muted_and_speaking : ¬ (room (.simple .call)).AllSteps (SilentWhenMuted (.simple .call))
    (room (.simple .call)).init muteDuringSynthesis := by
  decide +kernel

end VoiceBot
