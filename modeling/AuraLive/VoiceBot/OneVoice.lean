import AuraLive.VoiceBot.Family

set_option relaxedAutoImplicit false
set_option autoImplicit false

/-!
# One voice at a time

Whether two flows of a room can be inside `publishAudio` together. Nothing in `speakAndPublish`
keeps a flow out while another one is playing: a flow that takes a request id while another one is
past its check of the id gets on air beside it. As long as no flow takes an id then, and ids in use
are not taken twice, there is one voice.

## Main definitions

* `VoiceBot.EntersAlone`, `PlaysAlone` — one voice, as a property of steps and of states.
* `VoiceBot.takesTurns` — request ids are taken only while nobody is on air, and are new.
* `VoiceBot.OneVoice` — the invariant: who is on air has the current request id.

## Main results

* `VoiceBot.one_voice_of_takesTurns` — one voice in every run in which flows take turns.
* `VoiceBot.two_voices` — a timer callback and an answer play together.
-/

namespace VoiceBot

open Foundations

/-- The task is inside `publishAudio`, between two frames. -/
def Op.isPlaying : Op → Bool
  | .frameTimer _ => true
  | _ => false

/-- The task is past the check of its request id. -/
def Op.isOnAir : Op → Bool
  | .announce _ _ => true
  | .frameTimer _ => true
  | _ => false

/-- A task goes from this call into `publishAudio`. -/
def enters : (op : Op) → Except String op.Reply → Bool
  | .announce _ _, .ok _ => true
  | .synthesizePcm .greeting _, .ok _ => true
  | _, _ => false

/-- A task inside `publishAudio` is past the check of its request id. -/
lemma Op.isOnAir_of_isPlaying {op : Op} (h : op.isPlaying = true) : op.isOnAir = true := by
  cases op <;> simp_all [Op.isPlaying, Op.isOnAir]

/-- `publishAudio` is entered after the broadcast, or with the greeting. -/
lemma enters_cases {op : Op} {reply : Except String op.Reply} (h : enters op reply = true) :
    (∃ requestId text, op = .announce requestId text) ∨
      ∃ text, op = .synthesizePcm .greeting text := by
  cases op with
  | announce requestId text => exact .inl ⟨requestId, text, rfl⟩
  | synthesizePcm voice text =>
    cases voice with
    | answer requestId => simp [enters] at h
    | greeting => exact .inr ⟨text, rfl⟩
  | _ => simp [enters] at h

/-- A flow enters `publishAudio` only when no other flow is inside. -/
def EntersAlone (pool : RoomPool) : RoomEvent → Prop
  | .call _ _ => True
  | .resume _ id replies => ∀ t ∈ pool.tasks, t.id = id → enters t.op (replies t.op) = true →
      ∀ u ∈ pool.tasks, u.id ≠ id → u.op.isPlaying = false

/-- At most one flow is inside `publishAudio`. -/
def PlaysAlone (pool : RoomPool) : Prop :=
  ∀ t ∈ pool.tasks, ∀ u ∈ pool.tasks, t.op.isPlaying = true → u.op.isPlaying = true → t.id = u.id

instance decidableEntersAlone (pool : RoomPool) : ∀ e, Decidable (EntersAlone pool e)
  | .call _ _ => inferInstanceAs (Decidable True)
  | .resume _ id replies => inferInstanceAs (Decidable (∀ t ∈ pool.tasks, t.id = id →
      enters t.op (replies t.op) = true → ∀ u ∈ pool.tasks, u.id ≠ id → u.op.isPlaying = false))

/-- A request id that no request in progress has, and that is not the 0 of an idle room. -/
def NewId (seats : List (Seat Op Flow)) (s : RoomState) (requestId : ℕ) : Prop :=
  requestId ≠ 0 ∧ ∀ seat ∈ seats, ∀ claim ∈ s.claims, claim.task = seat.flow.root seat.id →
    claim.requestId ≠ requestId

instance decidableNewId (seats : List (Seat Op Flow)) (s : RoomState) (requestId : ℕ) :
    Decidable (NewId seats s requestId) :=
  inferInstanceAs (Decidable (_ ∧ _))

/-- The request id an action takes. -/
def Act.taken : Act → Option Claim
  | .setCurrentRequestId claim => some claim
  | _ => none

/-- Only one action takes a request id. -/
lemma Act.eq_of_taken {a : Act} {claim : Claim} (h : a.taken = some claim) :
    a = .setCurrentRequestId claim := by
  cases a <;> simp_all [Act.taken]

/-- A request id is taken only while no other flow is on air, and it is a new one. Nobody greets. -/
def takesTurns (env : Env) : Guards (runtime env) where
  call _ _ flow := flow.isGreeting = false
  resume _ _ _ _ := True
  act seats _ _ s a := ∀ claim ∈ a.taken,
    (∀ seat ∈ seats, seat.op.isOnAir = false) ∧ NewId seats s claim.requestId

/-! ## The invariant -/

/-- The part of a task that concerns who is on air. -/
structure Speaker where
  root : ℕ
  greeting : Bool
  request : Option ℕ
  mic : Mic

/-- A phase without the fields that do not concern who is on air. -/
def Phase.speaker (φ : Phase) : Speaker := ⟨φ.root, φ.greeting, φ.request, φ.mic⟩

/-- A task without the fields that do not concern who is on air. -/
def speaker (x : RoomMember) : Speaker := x.phase.speaker

/-- What an action can do to a task as a speaker, and to the current request id. -/
inductive SpeakerMove (φ : Phase) (s : RoomState) : Act → Speaker → ℕ → Prop
  /-- Neither changes. -/
  | keep (a : Act) : SpeakerMove φ s a φ.speaker s.currentRequestId
  /-- The task is not in `speakAndPublish` any more. -/
  | off (a : Act) : SpeakerMove φ s a { φ.speaker with mic := .off } s.currentRequestId
  /-- The task goes on air after the check of its request id. -/
  | on (hmic : φ.mic = .synthesizing)
    (hid : s.currentRequestId = 0 ∨ φ.request = some s.currentRequestId) :
    SpeakerMove φ s (.setShouldInterrupt false) { φ.speaker with mic := .onAir } s.currentRequestId
  /-- The task takes a request id. -/
  | claim (c : Claim) (htask : c.task = φ.root) (hplain : φ.thinking = none)
    (hrequest : φ.request = none) (hmic : φ.mic = .off) :
    SpeakerMove φ s (.setCurrentRequestId c) { φ.speaker with request := some c.requestId }
      c.requestId
  /-- The task announces for its parent. -/
  | announce (t : Thinking) (ht : φ.thinking = some t) (hended : φ.ended = false)
    (hopen : t.parent ∉ s.llmResolved) (hid : t.requestId = s.currentRequestId) :
    SpeakerMove φ s (.speakThinking t.parent) { φ.speaker with request := some t.requestId }
      s.currentRequestId

/-- No action changes whom a task speaks for. -/
lemma SpeakerMove.root {φ : Phase} {s : RoomState} {a : Act} {x : Speaker} {current : ℕ}
    (h : SpeakerMove φ s a x current) : x.root = φ.root := by
  cases h <;> rfl

/-- **Inversion.** Every action of the protocol is one of these.

**Proof sketch.** Actions that do not concern speech keep the speaker and the request id. Of the
others, one case each: clearing `shouldInterrupt` goes on the air if the speech has been
synthesized, and ends it if it was on the air; an id is claimed; an announcement begins for a task
that has not ended; and the rest leave the air or keep the speaker. -/
lemma Move.speaker {a : Act} {φ φ' : Phase} {s : RoomState} (hmove : Move a φ s φ') :
    SpeakerMove φ s a φ'.speaker (a.apply s).currentRequestId := by
  cases ha : a.concernsSpeech with
  | false =>
    obtain ⟨⟨hroot, hgreeting, hrequest, hmic, -⟩, hcurrent, -, -⟩ := hmove.speech_eq ha
    have hsame : φ'.speaker = φ.speaker := by
      simp only [Phase.speaker, hroot, hgreeting, hrequest, hmic]
    rw [hsame, hcurrent]
    exact .keep _
  | true =>
    cases a with
    | setAiMuted muted =>
      obtain ⟨-, rfl⟩ := hmove
      exact .keep _
    | setShouldInterrupt on =>
      cases on with
      | true =>
        obtain rfl := hmove
        exact .keep _
      | false =>
        cases hmic : φ.mic with
        | off =>
          simp only [Move, hmic] at hmove
          obtain rfl := hmove
          exact .keep _
        | onAir =>
          simp only [Move, hmic] at hmove
          obtain rfl := hmove
          exact .off _
        | synthesizing =>
          simp only [Move, hmic] at hmove
          obtain ⟨hid, rfl⟩ := hmove
          exact .on hmic hid
    | setCurrentRequestId claim =>
      obtain ⟨htask, hplain, -, hreq, hmic, -, -, rfl⟩ := hmove
      exact .claim claim htask hplain hreq hmic
    | touch stamp =>
      cases stamp <;> rcases hmove with rfl | rfl <;> first | exact .keep _ | exact .off _
    | captureFrame voice frame =>
      obtain ⟨-, -, -, rfl | rfl⟩ := hmove
      · exact .keep _
      · exact .off _
    | speakThinking task =>
      obtain ⟨t, ht, rfl, -, hended, -, -, -, hopen, hid, rfl⟩ := hmove
      exact .announce t ht hended hopen hid
    | endThinking task result =>
      obtain ⟨-, -, -, -, -, -, rfl⟩ := hmove
      exact .off _
    | _ => simp [Act.concernsSpeech] at ha

/-- Who is on air has the current request id, and no two tasks share one without a reason. -/
structure OneVoice (current : ℕ) (K : Set Speaker) : Prop where
  quiet : ∀ x ∈ K, x.greeting = false
  onAir : ∀ x ∈ K, x.mic = .onAir → x.request = some current
  same : ∀ x ∈ K, ∀ y ∈ K, ∀ r, x.request = some r → y.request = some r → x.root = y.root
  idle : current = 0 → ∀ x ∈ K, x.request = none

/-- The invariant of a room. -/
def HasOneVoice : ℕ → RoomState → Set RoomMember → Prop := fun _ s L =>
  OneVoice s.currentRequestId (speaker '' L)

namespace OneVoice

variable {current : ℕ} {K : Set Speaker} {x : Speaker}

/-- A flow that does not greet is called. -/
lemma call (h : OneVoice current K) (root : ℕ) :
    OneVoice current (insert ⟨root, false, none, .off⟩ K) where
  quiet := by grind [h.quiet]
  onAir := by grind [h.onAir]
  same := by grind [h.same]
  idle := by grind [h.idle]

/-- A task has ended. -/
lemma exit (h : OneVoice current (insert x K)) : OneVoice current K where
  quiet y hy := h.quiet y (.inr hy)
  onAir y hy := h.onAir y (.inr hy)
  same y hy z hz := h.same y (.inr hy) z (.inr hz)
  idle h0 y hy := h.idle h0 y (.inr hy)

/-- The microphone of a task that is not on air afterwards, or has the current request id. -/
lemma withMic (h : OneVoice current (insert x K)) {m : Mic}
    (hm : m = .onAir → x.request = some current) :
    OneVoice current (insert { x with mic := m } K) where
  quiet := by grind [h.quiet]
  onAir := by grind [h.onAir]
  same := by grind [h.same]
  idle := by grind [h.idle]

/-- A new request id is taken while nobody is on air. -/
lemma claim (h : OneVoice current (insert x K)) {r : ℕ} (hr : r ≠ 0) (hmic : x.mic = .off)
    (hair : ∀ y ∈ K, y.mic ≠ .onAir) (hnew : ∀ y ∈ K, y.request ≠ some r) :
    OneVoice r (insert { x with request := some r } K) where
  quiet := by grind [h.quiet]
  onAir := by grind
  same := by grind [h.same]
  idle h0 := absurd h0 hr

/-- An announcement speaks for the current request, which its parent has. -/
lemma announce (h : OneVoice current (insert x K))
    (hparent : ∃ y ∈ K, y.root = x.root ∧ y.request = some current) :
    OneVoice current (insert { x with request := some current } K) where
  quiet := by grind [h.quiet]
  onAir := by grind [h.onAir]
  same := by
    obtain ⟨p, hp, hroot, hreq⟩ := hparent
    have hall : ∀ y ∈ K, y.request = some current → y.root = x.root := fun y hy hy' =>
      (h.same y (.inr hy) p (.inr hp) current hy' hreq).trans hroot
    rintro y (rfl | hy) z (rfl | hz) r hyr hzr
    · rfl
    · exact (hall z hz (hzr.trans hyr.symm)).symm
    · exact hall y hy (hyr.trans hzr.symm)
    · exact h.same y (.inr hy) z (.inr hz) r hyr hzr
  idle h0 := by
    obtain ⟨p, hp, -, hreq⟩ := hparent
    exact absurd ((h.idle h0 p (.inr hp)).symm.trans hreq) (by simp)

end OneVoice

section Certificate

variable {n i : ℕ} {flow : Flow} {φ φ' : Phase} {s : RoomState} {O : Set RoomMember}
  {seats : List (Seat Op Flow)} {env : Env}

/-- A task that waits on air does so with the microphone on. -/
lemma Known.onAir_iff {L : Set RoomMember} (hK : Known n s L) {x : RoomMember} (hx : x ∈ L)
    {op : Op}
    (hop : x.op = some op) : x.phase.mic = .onAir ↔ op.isOnAir = true := by
  rw [(hK.1 x hx).mic op hop]
  cases op <;> simp [micOf, Op.isOnAir]

/-- A task that waits on air has been there. -/
lemma WaitOk.onAir {op : Op} (hok : WaitOk φ s op) (hair : micOf op = .onAir) : φ.mic = .onAir := by
  cases op with
  | announce requestId text => exact hok.2
  | frameTimer voice => exact hok.2
  | _ => simp [micOf] at hair

/-- The request ids of the others are not new. -/
lemma NewId.ne {requestId : ℕ} (hnew : NewId seats s requestId) (hc : Crew n i O seats)
    (hK : Known n s (insert ⟨i, flow, none, φ⟩ O)) {x : RoomMember} (hx : x ∈ O) :
    x.phase.request ≠ some requestId := by
  intro hr
  obtain ⟨site, hsite⟩ := hK.claimed (.inr hx) hr
  obtain ⟨op, -, hseat⟩ := hc.seated x hx
  exact hnew.2 _ hseat _ hsite (hK.1 x (.inr hx)).root rfl

lemma HasOneVoice.act {a : Act} (hc : Crew n i O seats) (hmove : Move a φ s φ')
    (hturn : (takesTurns env).act seats i flow s a) (hK : Known n s (insert ⟨i, flow, none, φ⟩ O))
    (h : HasOneVoice n s (insert ⟨i, flow, none, φ⟩ O)) :
    HasOneVoice n (a.apply s) (insert ⟨i, flow, none, φ'⟩ O) := by
  have hown : Proper ⟨i, flow, none, φ⟩ := hK.1 _ (Set.mem_insert _ _)
  have hspeaker := hmove.speaker
  rw [HasOneVoice, Set.image_insert_eq] at h ⊢
  change OneVoice _ (insert φ.speaker _) at h
  change OneVoice (a.apply s).currentRequestId (insert φ'.speaker _)
  generalize φ'.speaker = x, (a.apply s).currentRequestId = current at hspeaker ⊢
  cases hspeaker with
  | keep => exact h
  | off => exact h.withMic (by simp)
  | on hmic hid =>
    refine h.withMic fun _ => ?_
    have hsome : φ.request.isSome := by
      rcases hown.voiced (show φ.mic ≠ .off by simp [hmic]) with hg | hr
      · exact Bool.noConfusion (hg.symm.trans (h.quiet _ (Set.mem_insert _ _)))
      · exact hr
    rcases hid with h0 | hid
    · have hnone : φ.request = none := h.idle h0 _ (Set.mem_insert _ _)
      simp [hnone] at hsome
    · exact hid
  | claim c htask hplain hrequest hmic =>
    obtain ⟨hair, hnew⟩ := hturn c rfl
    refine h.claim hnew.1 hmic ?_ ?_
    · rintro _ ⟨x, hx, rfl⟩ hon
      obtain ⟨op, hop, hseat⟩ := hc.seated x hx
      have hoff := hair _ hseat
      simp [(hK.onAir_iff (.inr hx) hop).mp hon] at hoff
    · rintro _ ⟨x, hx, rfl⟩
      exact hnew.ne hc hK hx
  | announce t ht hended hopen hid =>
    obtain ⟨y, hy, hroot, hreq⟩ := hK.parent_request ht hended hopen
    rw [hid] at hreq ⊢
    exact h.announce ⟨speaker y, ⟨y, hy, rfl⟩, hroot, hreq⟩

lemma HasOneVoice.resume {op : Op} {reply : Except String op.Reply}
    (hK : Known n s (insert ⟨i, flow, some op, φ⟩ O))
    (h : HasOneVoice n s (insert ⟨i, flow, some op, φ⟩ O)) :
    HasOneVoice n s (insert ⟨i, flow, none, resume op reply φ⟩ O) := by
  have hown : Proper ⟨i, flow, some op, φ⟩ := hK.1 _ (Set.mem_insert _ _)
  rw [HasOneVoice, Set.image_insert_eq] at h ⊢
  rcases resume_cases op reply φ with hr | ⟨hr, text, hop⟩ | hr | ⟨task, -, hr | hr⟩
  · rw [hr]
    exact h
  · -- only the greeting goes on air without a check of the id, and nobody greets
    have hquiet : φ.greeting = false := h.quiet _ (Set.mem_insert _ _)
    exact Bool.noConfusion ((hown.greets op rfl (by rw [hop]; rfl)).symm.trans hquiet)
  · rw [hr]
    exact h.withMic (by simp)
  · rw [hr]
    exact h
  · rw [hr]
    exact h

/-- One voice is kept by flows that take turns. -/
theorem oneVoice_certificate (env : Env) :
    (protocol env).Certificate (takesTurns env) Known HasOneVoice where
  tick _ _ h := h
  call {n s O seats flow} _ _ hquiet _ h := by
    rw [HasOneVoice, Set.image_insert_eq]
    have hstart : speaker ⟨n, flow, none, start n flow⟩ = ⟨flow.root n, false, none, .off⟩ := by
      simp only [speaker, Phase.speaker, start, Speaker.mk.injEq, true_and, and_true]
      exact hquiet
    rw [hstart]
    exact h.call _
  resume _ _ _ hK h := h.resume hK
  act hc hmove hturn hK h := h.act hc hmove hturn hK
  wait {n s i flow φ φ' op O seats} _ hwait hK h := by
    obtain ⟨-, hok, rfl⟩ := hwait
    rw [HasOneVoice, Set.image_insert_eq] at h ⊢
    exact h.withMic fun hair => h.onAir _ (Set.mem_insert _ _) (hok.onAir hair)
  exit _ _ _ h := by
    rw [HasOneVoice, Set.image_insert_eq] at h
    exact h.exit

end Certificate

/-! ## One voice -/

section Runs

variable {env : Env}

/-- What is known in a run in which flows take turns. -/
abbrev TakingTurns (env : Env) : RoomPool → Prop :=
  (protocol env).Holds ((protocol env).both Known HasOneVoice)

lemma takingTurns_certificate (env : Env) :
    (protocol env).Certificate (takesTurns env) Discipline.anything
      ((protocol env).both Known HasOneVoice) :=
  (known_certificate env).both (oneVoice_certificate env) (fun _ _ _ _ => trivial)
    (fun _ _ _ _ _ => trivial) fun _ _ _ _ _ _ => trivial

lemma takingTurns_init (env : Env) : TakingTurns env (room env).init := by
  refine Discipline.init_holds ⟨known_init, ?_⟩
  rw [HasOneVoice, Set.image_empty]
  constructor <;> simp

/-- Two tasks are not on air together. -/
lemma TakingTurns.alone {pool : RoomPool} (h : TakingTurns env pool)
    {t u : Task RoomState Act Op Op.Reply Flow} (ht : t ∈ pool.tasks) (hu : u ∈ pool.tasks)
    (hairt : t.op.isOnAir = true) (hairu : u.op.isOnAir = true) : t.id = u.id := by
  obtain ⟨phases, -, hK, hone⟩ := h
  have hmt : (protocol env).member phases t ∈ (protocol env).crew phases pool.tasks := ⟨t, ht, rfl⟩
  have hmu : (protocol env).member phases u ∈ (protocol env).crew phases pool.tasks := ⟨u, hu, rfl⟩
  have hmict := (hK.onAir_iff hmt rfl).mpr hairt
  have hmicu := (hK.onAir_iff hmu rfl).mpr hairu
  have hroot := hone.same _ ⟨_, hmt, rfl⟩ _ ⟨_, hmu, rfl⟩ _ (hone.onAir _ ⟨_, hmt, rfl⟩ hmict)
    (hone.onAir _ ⟨_, hmu, rfl⟩ hmicu)
  exact hK.speaks_alone hmt hmu hroot (by simp [hmict]) (by simp [hmicu])

/-- Nobody greets. -/
lemma TakingTurns.quiet {pool : RoomPool} (h : TakingTurns env pool)
    {t : Task RoomState Act Op Op.Reply Flow} (ht : t ∈ pool.tasks) (text : String) :
    t.op ≠ .synthesizePcm .greeting text := by
  obtain ⟨phases, -, hK, hone⟩ := h
  have hmt : (protocol env).member phases t ∈ (protocol env).crew phases pool.tasks := ⟨t, ht, rfl⟩
  intro hop
  have hgreets := (hK.1 _ hmt).greets t.op rfl (by rw [hop]; rfl)
  exact Bool.noConfusion (hgreets.symm.trans (hone.quiet _ ⟨_, hmt, rfl⟩))

lemma TakingTurns.playsAlone {pool : RoomPool} (h : TakingTurns env pool) : PlaysAlone pool := by
  intro t ht u hu hpt hpu
  exact h.alone ht hu (Op.isOnAir_of_isPlaying hpt) (Op.isOnAir_of_isPlaying hpu)

lemma TakingTurns.entersAlone {pool : RoomPool} (h : TakingTurns env pool) (e : RoomEvent) :
    EntersAlone pool e := by
  cases e with
  | call stamp flow => trivial
  | resume stamp id replies =>
    intro t ht hid henters u hu hne
    have hair : t.op.isOnAir = true := by
      rcases enters_cases henters with ⟨r, text, hop⟩ | ⟨text, hop⟩
      · rw [hop]
        rfl
      · exact absurd hop (h.quiet ht text)
    cases hplaying : u.op.isPlaying with
    | false => rfl
    | true => exact absurd ((h.alone hu ht (Op.isOnAir_of_isPlaying hplaying) hair).trans hid) hne

/-- **One voice at a time.** In every run in which no flow takes a request id while another one is
past the check of its own, no id in use is taken again and nobody greets, a flow enters
`publishAudio` only when no other flow is inside, and at most one flow is inside in every state. -/
theorem one_voice_of_takesTurns (env : Env) (es : List RoomEvent)
    (h : (room env).AllSteps (takesTurns env).Holds (room env).init es) :
    (room env).AllSteps EntersAlone (room env).init es ∧
      (room env).AllStates PlaysAlone (room env).init es := by
  have hstep : ∀ pool e pool', TakingTurns env pool → (takesTurns env).Holds pool e →
      (room env).step pool e = some pool' → TakingTurns env pool' := fun pool e pool' hK hG hs =>
    (takingTurns_certificate env).step (protocol_sound env) hK hG hs
  constructor
  · exact EventSystem.allSteps_of_invariant hstep (fun pool e hK _ => hK.entersAlone e)
      (takingTurns_init env) h
  · exact EventSystem.allStates_of_invariant hstep (fun pool hK => hK.playsAlone)
      (takingTurns_init env) h

end Runs

instance (env : Env) (seats : List (Seat Op Flow)) (s : RoomState) (flow : Flow) :
    Decidable ((takesTurns env).call seats s flow) :=
  inferInstanceAs (Decidable (flow.isGreeting = false))

instance (env : Env) (seats : List (Seat Op Flow)) (s : RoomState) (seat : Seat Op Flow)
    (reply : Except String seat.op.Reply) :
    Decidable ((takesTurns env).resume seats s seat reply) :=
  inferInstanceAs (Decidable True)

instance (env : Env) (seats : List (Seat Op Flow)) (i : ℕ) (flow : Flow) (s : RoomState) (a : Act) :
    Decidable ((takesTurns env).act seats i flow s a) :=
  inferInstanceAs (Decidable (∀ claim ∈ a.taken,
    (∀ seat ∈ seats, seat.op.isOnAir = false) ∧ NewId seats s claim.requestId))

/-- An utterance is answered, and then the meeting timer ends. -/
def oneAfterTheOther : List RoomEvent :=
  [.call ⟨1000, 1000, 0⟩ (.setModes Modes.talkative),
    .call ⟨2000, 2000, 0⟩ (.processAndRespond ⟨"kim", none⟩),
    .resume ⟨3000, 3000, 0⟩ 1 speechReplies, .resume ⟨3100, 3100, 0⟩ 1 speechReplies,
    .resume ⟨3200, 3200, 0⟩ 1 speechReplies, .resume ⟨3210, 3210, 0⟩ 1 speechReplies,
    .resume ⟨3220, 3220, 0⟩ 1 speechReplies,
    .call ⟨3300, 3300, 0⟩ (.timerNotify .ended ⟨30, 5, 0, "ended"⟩),
    .resume ⟨3310, 3310, 0⟩ 2 speechReplies, .resume ⟨3320, 3320, 0⟩ 2 speechReplies,
    .resume ⟨3330, 3330, 0⟩ 2 speechReplies]

/-- The flows of that run take turns, so that there is one voice. -/
theorem one_voice_oneAfterTheOther :
    (room (.simple .call)).AllSteps (takesTurns (.simple .call)).Holds (room (.simple .call)).init
        oneAfterTheOther ∧
      (room (.simple .call)).AllSteps EntersAlone (room (.simple .call)).init oneAfterTheOther ∧
      (room (.simple .call)).AllStates PlaysAlone (room (.simple .call)).init oneAfterTheOther :=
  ⟨by decide +kernel,
    one_voice_of_takesTurns (.simple .call) oneAfterTheOther (by decide +kernel)⟩

/-- The meeting timer ends while an answer is played. -/
def timerDuringAnswer : List RoomEvent :=
  [.call ⟨1000, 1000, 0⟩ (.setModes Modes.talkative),
    .call ⟨2000, 2000, 0⟩ (.processAndRespond ⟨"kim", none⟩),
    .resume ⟨3000, 3000, 0⟩ 1 speechReplies, .resume ⟨3100, 3100, 0⟩ 1 speechReplies,
    .resume ⟨3200, 3200, 0⟩ 1 speechReplies,
    .call ⟨3201, 3201, 0⟩ (.timerNotify .ended ⟨30, 5, 0, "ended"⟩),
    .resume ⟨3202, 3202, 0⟩ 2 speechReplies, .resume ⟨3203, 3203, 0⟩ 2 speechReplies,
    .resume ⟨3204, 3204, 0⟩ 2 speechReplies]

/-- The two play together: the flow of the timer takes a request id, and its check compares with
that id. -/
theorem two_voices : ¬ (room (.simple .call)).AllSteps EntersAlone (room (.simple .call)).init
    timerDuringAnswer := by
  decide +kernel

end VoiceBot
