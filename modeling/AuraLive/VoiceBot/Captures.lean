import AuraLive.VoiceBot.Family

set_option relaxedAutoImplicit false
set_option autoImplicit false

/-!
# Screen captures

Whether a capture is analysed once. `handleVisionCaptureResponse` compares a response with the
pending request before it waits for `processingLock`, and not afterwards. A second response to the
same request that arrives while the first one is being processed waits, and then either analyses the
capture again or gives up and resets the vision state of the first one.

## Main definitions

* `VoiceBot.AnalysedOnce`, `RejectsCleanly` — the property, of states and of steps.
* `VoiceBot.answersOnce` — no response to the pending request arrives while the lock is held,
  and captures are requested under new ids.
* `VoiceBot.OneAnalysis` — the invariant.

## Main results

* `VoiceBot.analysed_once_of_answersOnce` — then each capture is analysed once.
* `VoiceBot.analysed_twice` — a response that arrives twice.
-/

namespace VoiceBot

open Foundations

/-- No capture has been analysed twice. -/
def AnalysedOnce (pool : RoomPool) : Prop := pool.shared.analyses.Nodup

instance decidableAnalysedOnce (pool : RoomPool) : Decidable (AnalysedOnce pool) :=
  inferInstanceAs (Decidable (List.Nodup _))

/-- The vision state of two contexts is the same. -/
def SameVision (s s' : RoomState) : Prop :=
  s'.isVisionMode = s.isVisionMode ∧ s'.pendingVisionRequest = s.pendingVisionRequest ∧
    s'.botState = s.botState

instance (s s' : RoomState) : Decidable (SameVision s s') := inferInstanceAs (Decidable (_ ∧ _ ∧ _))

/-- The response answers the pending request. -/
def CaptureResponse.Answers (message : CaptureResponse) (s : RoomState) : Prop :=
  message.requestId.isSome ∧
    message.requestId = s.pendingVisionRequest.map VisionRequest.requestId

instance (message : CaptureResponse) (s : RoomState) : Decidable (message.Answers s) :=
  inferInstanceAs (Decidable (_ ∧ _))

/-- The task waits for the lock. -/
def Op.isSleeping : Op → Bool
  | .sleep _ => true
  | _ => false

/-- A response that is rejected, or does not get the lock, is about to be handled. -/
def Refused (pool : RoomPool) : RoomEvent → Prop
  | .call _ (.handleVisionCaptureResponse message) =>
    ¬ message.Answers pool.shared ∨ pool.shared.processingLock = true
  | .call _ _ => False
  | .resume _ id _ =>
    pool.shared.processingLock = true ∧ ∃ t ∈ pool.tasks, t.id = id ∧ t.op.isSleeping = true

instance decidableRefused (pool : RoomPool) : ∀ e, Decidable (Refused pool e)
  | .call _ (.handleVisionCaptureResponse message) =>
    inferInstanceAs (Decidable (¬ message.Answers pool.shared ∨ pool.shared.processingLock = true))
  | .call _ (.processAndRespond _) | .call _ (.thinking _) | .call _ (.timerNotify _ _)
  | .call _ (.handlePerplexityMessage _ _ _) | .call _ (.explainGeneratedDiagrams _)
  | .call _ (.clientReady _) | .call _ (.aiMute _) | .call _ (.bargeIn _)
  | .call _ .publishingTimeout
  | .call _ .armedTimeout | .call _ .enterStandbyMode | .call _ (.screenShare _)
  | .call _ (.setModes _) | .call _ (.setParticipants _) => inferInstanceAs (Decidable False)
  | .resume _ id _ => inferInstanceAs (Decidable (pool.shared.processingLock = true ∧
      ∃ t ∈ pool.tasks, t.id = id ∧ t.op.isSleeping = true))

/-- A response that is refused changes nothing. -/
def RejectsCleanly (env : Env) (pool : RoomPool) (e : RoomEvent) : Prop :=
  Refused pool e → ∀ pool' ∈ (room env).step pool e, SameVision pool.shared pool'.shared

instance decidableRejectsCleanly (env : Env) (pool : RoomPool) (e : RoomEvent) :
    Decidable (RejectsCleanly env pool e) :=
  inferInstanceAs (Decidable (Refused pool e → ∀ pool' ∈ (room env).step pool e,
    SameVision pool.shared pool'.shared))

/-- The id under which an action requests a capture. -/
def Act.requested : Act → Option ℕ
  | .requestCapture requestId => some requestId
  | _ => none

/-- A response to the pending request arrives only while the lock is free, and a capture is
requested under an id that has not been used before. -/
def answersOnce (env : Env) : Guards (runtime env) where
  call _ s flow := ∀ message ∈ flow.captureResponse, message.Answers s → s.processingLock = false
  resume _ _ _ _ := True
  act _ _ _ s a := ∀ requestId ∈ a.requested, requestId ∉ s.captureRequests

/-! ## The invariant -/

/-- The part of a task that concerns screen captures. -/
structure Analyst where
  id : ℕ
  capture : Option ℕ
  polling : Bool
  lock : Bool
  analysed : Bool
  requesting : Option ℕ

/-- A phase without the fields that do not concern screen captures. -/
def Phase.analyst (φ : Phase) (i : ℕ) : Analyst :=
  ⟨i, φ.capture, φ.polling, φ.lock, φ.analysed, φ.requesting⟩

/-- A task without the fields that do not concern screen captures. -/
def analyst (x : RoomMember) : Analyst := x.phase.analyst x.id

/-- The part of the context that concerns screen captures. -/
structure Screen where
  lock : Bool
  pending : Option ℕ
  requests : List ℕ
  analyses : List ℕ

/-- The screen captures of a context. -/
def RoomState.screen (s : RoomState) : Screen :=
  ⟨s.processingLock, s.pendingVisionRequest.map VisionRequest.requestId, s.captureRequests,
    s.analyses⟩

/-- Each capture is analysed by the one who has the lock, and not pending any more afterwards. -/
structure OneAnalysis (c : Screen) (K : Set Analyst) : Prop where
  nodup : c.analyses.Nodup
  known : ∀ r ∈ c.analyses, r ∈ c.requests
  asked : ∀ r, c.pending = some r → r ∈ c.requests
  open_ : c.lock = false → ∀ r, c.pending = some r → r ∉ c.analyses
  /-- Nobody waits for the lock. -/
  patient : ∀ x ∈ K, x.polling = false
  locked : ∀ x ∈ K, x.lock = true → c.lock = true
  holder : ∀ x ∈ K, ∀ y ∈ K, x.lock = true → y.lock = true → x.id = y.id
  next : ∀ x ∈ K, x.lock = true → x.analysed = false → ∀ r, x.capture = some r →
    r ∈ c.requests ∧ r ∉ c.analyses
  requesting : ∀ x ∈ K, ∀ r, x.requesting = some r → x.capture = none ∧ r ∈ c.requests ∧
    r ∉ c.analyses
  refused : c.lock = true → ∀ x ∈ K, x.lock = false → ∀ r, x.capture = some r → c.pending ≠ some r

/-- The invariant of a room. -/
structure HasOneAnalysis (n : ℕ) (s : RoomState) (L : Set RoomMember) : Prop where
  one : OneAnalysis s.screen (analyst '' L)
  awake : ∀ x ∈ L, ∀ op, x.op = some op → op.isSleeping = false

namespace OneAnalysis

variable {c : Screen} {K : Set Analyst} {x : Analyst}

/-- A flow is called: a response to the pending request only while the lock is free. -/
lemma call (h : OneAnalysis c K) (i : ℕ) {capture : Option ℕ}
    (hfree : capture.isSome → capture = c.pending → c.lock = false) :
    OneAnalysis c (insert ⟨i, capture, false, false, false, none⟩ K) where
  nodup := h.nodup
  known := h.known
  asked := h.asked
  open_ := h.open_
  patient := Set.forall_mem_insert.mpr ⟨rfl, h.patient⟩
  locked := Set.forall_mem_insert.mpr ⟨fun hl => Bool.noConfusion hl, h.locked⟩
  holder := by grind [h.holder]
  next := Set.forall_mem_insert.mpr ⟨fun hl => Bool.noConfusion hl, h.next⟩
  requesting := Set.forall_mem_insert.mpr ⟨fun r hr => absurd hr (by simp), h.requesting⟩
  refused hlock := by
    refine Set.forall_mem_insert.mpr ⟨fun _ r hr hp => ?_, h.refused hlock⟩
    have hcap : capture = some r := hr
    exact Bool.noConfusion (hlock.symm.trans (hfree (by simp [hcap]) (hcap.trans hp.symm)))

/-- A task has ended. -/
lemma exit (h : OneAnalysis c (insert x K)) : OneAnalysis c K where
  nodup := h.nodup
  known := h.known
  asked := h.asked
  open_ := h.open_
  patient y hy := h.patient y (.inr hy)
  locked y hy := h.locked y (.inr hy)
  holder y hy z hz := h.holder y (.inr hy) z (.inr hz)
  next y hy := h.next y (.inr hy)
  requesting y hy := h.requesting y (.inr hy)
  refused hlock y hy := h.refused hlock y (.inr hy)

/-- A task is suspended. -/
lemma wait (h : OneAnalysis c (insert x K)) :
    OneAnalysis c (insert { x with requesting := none } K) := by
  have hx : x ∈ insert x K := Set.mem_insert x K
  constructor
  -- numbers of tasks are only compared, so the algebra of `grind` stays out
  all_goals grind -ring -linarith -order [OneAnalysis]

/-! In the steps below the others are suspended: whoever handles a capture response has the lock
(`hheld`), and nobody is requesting a capture (`hquiet`). -/

/-- A response to the pending request takes the lock. -/
lemma take (h : OneAnalysis c (insert x K)) (hheld : ∀ y ∈ K, y.capture ≠ none → y.lock = true)
    (hfree : c.lock = false) (hmatch : x.capture.isSome ∧ c.pending = x.capture) :
    OneAnalysis { c with lock := true } (insert { x with lock := true } K) := by
  have hnone : ∀ y ∈ K, y.lock = false := fun y hy =>
    Bool.eq_false_iff.mpr fun hl => Bool.noConfusion (hfree.symm.trans (h.locked y (.inr hy) hl))
  have hx : x ∈ insert x K := Set.mem_insert x K
  constructor
  case next =>
    refine Set.forall_mem_insert.mpr ⟨fun _ _ r hr => ?_, fun y hy => h.next y (.inr hy)⟩
    have hpending : c.pending = some r := hmatch.2.trans hr
    exact ⟨h.asked r hpending, h.open_ hfree r hpending⟩
  all_goals grind -ring -linarith -order [OneAnalysis]

/-- The lock is given back, when no request is pending any more. -/
lemma give (h : OneAnalysis c (insert x K)) (hne : ∀ y ∈ K, y.id ≠ x.id) (hlock : x.lock = true)
    (hpending : c.pending = none) :
    OneAnalysis { c with lock := false } (insert { x with lock := false } K) := by
  have hx : x ∈ insert x K := Set.mem_insert x K
  constructor
  all_goals grind -ring -linarith -order [OneAnalysis]

/-- The one who has the lock analyses its capture. -/
lemma analyze (h : OneAnalysis c (insert x K)) (hne : ∀ y ∈ K, y.id ≠ x.id)
    (hquiet : ∀ y ∈ K, y.requesting = none) (hlock : x.lock = true) (hana : x.analysed = false)
    {r : ℕ}
    (hr : x.capture = some r) :
    OneAnalysis { c with analyses := c.analyses ++ [r] }
      (insert { x with analysed := true } K) := by
  obtain ⟨hreq, hnew⟩ := h.next x (.inl rfl) hlock hana r hr
  have hheld' := h.locked x (.inl rfl) hlock
  have hx : x ∈ insert x K := Set.mem_insert x K
  constructor
  case nodup =>
    exact List.nodup_append.mpr ⟨h.nodup, List.nodup_singleton _, by grind⟩
  all_goals grind -ring -linarith -order [OneAnalysis]

/-- A capture is requested under a new id. -/
lemma request (h : OneAnalysis c (insert x K)) (hcap : x.capture = none) {r : ℕ}
    (hr : r ∉ c.requests) :
    OneAnalysis { c with requests := c.requests ++ [r] }
      (insert { x with requesting := some r } K) := by
  have hnew : r ∉ c.analyses := fun hmem => hr (h.known r hmem)
  have hx : x ∈ insert x K := Set.mem_insert x K
  constructor
  all_goals grind -ring -linarith -order [OneAnalysis]

/-- The requested capture is the pending one. -/
lemma pend (h : OneAnalysis c (insert x K)) (hheld : ∀ y ∈ K, y.capture ≠ none → y.lock = true)
    {r : ℕ} (hr : x.requesting = some r) :
    OneAnalysis { c with pending := some r } (insert x K) := by
  obtain ⟨hcap, hreq, hnew⟩ := h.requesting x (.inl rfl) r hr
  have hx : x ∈ insert x K := Set.mem_insert x K
  constructor
  all_goals grind -ring -linarith -order [OneAnalysis]

/-- No request is pending any more. -/
lemma forget (h : OneAnalysis c K) : OneAnalysis { c with pending := none } K where
  nodup := h.nodup
  known := h.known
  asked _ hr := absurd hr (by simp)
  open_ _ _ hr := absurd hr (by simp)
  patient := h.patient
  locked := h.locked
  holder := h.holder
  next := h.next
  requesting := h.requesting
  refused _ _ _ _ _ _ := by simp

end OneAnalysis

/-- The actions that concern screen captures. -/
def Act.concernsCaptures : Act → Bool
  | .setProcessingLock _ => true
  | .setPendingVisionRequest _ => true
  | .requestCapture _ => true
  | .analyze _ => true
  | _ => false

section Certificate

variable {n i : ℕ} {flow : Flow} {φ φ' : Phase} {s : RoomState} {O : Set RoomMember}
  {seats : List (Seat Op Flow)} {env : Env} {a : Act}

/-- The other actions do not concern the captures. -/
lemma Move.analyst_eq (hmove : Move a φ s φ') (ha : a.concernsCaptures = false) (i : ℕ) :
    φ'.analyst i = φ.analyst i ∧ (a.apply s).screen = s.screen := by
  have hout := hmove.outcome
  refine ⟨?_, ?_⟩
  · cases a with
    | setVisionMode on => cases on <;> simp_all [Act.outcomes, Phase.analyst]
    | setShouldInterrupt on => cases on <;> grind [Act.outcomes, Phase.analyst]
    | setBotState state => cases state <;> simp_all [Act.outcomes, Phase.analyst]
    | setPublishing on => cases on <;> grind [Act.outcomes, Phase.analyst]
    | touch stamp | captureFrame voice frame | logError site =>
      rcases List.mem_pair.mp hout with rfl | rfl <;> rfl
    | setProcessingLock on | setPendingVisionRequest request | requestCapture requestId
    | analyze requestId => simp [Act.concernsCaptures] at ha
    | _ => simp_all [Act.outcomes, Phase.analyst]
  · cases a with
    | touch stamp => cases stamp <;> rfl
    | setProcessingLock on | setPendingVisionRequest request | requestCapture requestId
    | analyze requestId => simp [Act.concernsCaptures] at ha
    | _ => rfl

/-- The end of an awaited call does not concern the captures. -/
lemma resume_analyst (op : Op) (reply : Except String op.Reply) (φ : Phase) (i : ℕ) :
    (resume op reply φ).analyst i = φ.analyst i := by
  rcases resume_cases op reply φ with hr | ⟨hr, -⟩ | hr | ⟨task, -, hr | hr⟩ <;> rw [hr] <;> rfl

/-- A call that is not a wait for the lock does not concern the captures, but ends a request. -/
lemma park_analyst {op : Op} (hop : op.isSleeping = false) (φ : Phase) (i : ℕ) :
    (park op φ).analyst i = { φ.analyst i with requesting := none } := by
  cases op <;> simp_all [park, Phase.analyst, Op.isSleeping]

/-- A suspended task that handles a capture response has the lock, as nobody waits for it. -/
lemma HasOneAnalysis.held (hc : Crew n i O seats) (hK : Known n s (insert ⟨i, flow, none, φ⟩ O))
    (h : OneAnalysis s.screen (insert (φ.analyst i) (analyst '' O))) :
    ∀ y ∈ analyst '' O, y.capture ≠ none → y.lock = true := by
  rintro _ ⟨y, hy, rfl⟩ hcap
  obtain ⟨op, hop, -⟩ := hc.seated y hy
  rcases ((hK.1 y (.inr hy)).settled op hop).locked (Option.isSome_iff_ne_none.mpr hcap) with
    hl | hp
  · exact hl
  · exact Bool.noConfusion ((h.patient _ (.inr ⟨y, hy, rfl⟩)).symm.trans hp)

/-- A suspended task is not requesting a capture. -/
lemma Known.quiet (hc : Crew n i O seats) (hK : Known n s (insert ⟨i, flow, none, φ⟩ O)) :
    ∀ y ∈ analyst '' O, y.requesting = none := by
  rintro _ ⟨y, hy, rfl⟩
  obtain ⟨op, hop, -⟩ := hc.seated y hy
  exact (hK.1 y (.inr hy)).requesting op hop

/-- The response of the task answers the pending request. -/
lemma Phase.Matches.analyst (h : φ.Matches s) (i : ℕ) :
    (φ.analyst i).capture.isSome ∧ s.screen.pending = (φ.analyst i).capture := by
  obtain ⟨pending, hp, hcap⟩ := h
  simp [Phase.analyst, RoomState.screen, hp, hcap]

/-- An action keeps the analyses to one.

**Proof sketch.** Actions that do not concern captures leave the analysts and the screen as they
are. Of the others, the lock is taken while it is free and given back by its holder, a request is
made pending by the task that holds none, and an analysis begins under the lock for the request
whose response has just been taken, which nobody else analyses. -/
lemma HasOneAnalysis.act (hc : Crew n i O seats) (hmove : Move a φ s φ')
    (honce : (answersOnce env).act seats i flow s a) (hK : Known n s (insert ⟨i, flow, none, φ⟩ O))
    (h : HasOneAnalysis n s (insert ⟨i, flow, none, φ⟩ O)) :
    HasOneAnalysis n (a.apply s) (insert ⟨i, flow, none, φ'⟩ O) := by
  obtain ⟨h, hawake⟩ := h
  refine ⟨?_, fun x hx op hop => ?_⟩
  · rw [Set.image_insert_eq] at h ⊢
    change OneAnalysis _ (insert (φ.analyst i) _) at h
    change OneAnalysis _ (insert (φ'.analyst i) _)
    have hne : ∀ y ∈ analyst '' O, y.id ≠ i := by
      rintro _ ⟨y, hy, rfl⟩
      exact hc.ne y hy
    have hheld := HasOneAnalysis.held hc hK h
    have hquiet := hK.quiet hc
    cases ha : a.concernsCaptures with
    | false =>
      obtain ⟨hana, hscreen⟩ := hmove.analyst_eq ha i
      rwa [hana, hscreen]
    | true =>
      cases a with
      | setProcessingLock on =>
        cases on with
        | true =>
          obtain ⟨hfree, -, -, hmatch, rfl⟩ := hmove
          refine h.take hheld hfree ?_
          rcases hmatch with hpoll | hmatch
          · exact Bool.noConfusion ((h.patient _ (Set.mem_insert _ _)).symm.trans hpoll)
          · exact hmatch.analyst i
        | false =>
          obtain ⟨hlock, hpending, rfl⟩ := hmove
          exact h.give hne hlock (by simp [RoomState.screen, hpending])
      | setPendingVisionRequest request =>
        cases request with
        | none => obtain rfl := hmove; exact h.forget
        | some request =>
          obtain ⟨hreq, rfl⟩ := hmove
          exact h.pend hheld hreq
      | requestCapture requestId =>
        obtain ⟨-, -, hcap, rfl⟩ := hmove
        exact h.request hcap (honce requestId rfl)
      | analyze requestId =>
        obtain ⟨hlock, -, hcap, hana, rfl⟩ := hmove
        exact h.analyze hne hquiet hlock hana hcap
      | _ => simp [Act.concernsCaptures] at ha
  · rcases hx with rfl | hx
    · exact absurd hop (by simp)
    · exact hawake x (.inr hx) op hop

/-- A response that answers the pending request while the lock is held would wait for it. -/
lemma HasOneAnalysis.wait {op : Op} (hwait : Wait op φ s φ')
    (h : HasOneAnalysis n s (insert ⟨i, flow, none, φ⟩ O)) :
    HasOneAnalysis n s (insert ⟨i, flow, some op, φ'⟩ O) := by
  obtain ⟨h, hawake⟩ := h
  obtain ⟨-, hok, rfl⟩ := hwait
  rw [Set.image_insert_eq] at h
  change OneAnalysis _ (insert (φ.analyst i) _) at h
  have hop : op.isSleeping = false := by
    cases op with
    | sleep ms =>
      obtain ⟨hlock, hfree, hpoll | ⟨pending, hpending, hcap⟩⟩ := hok
      · exact Bool.noConfusion ((h.patient _ (Set.mem_insert _ _)).symm.trans hpoll)
      · refine absurd ?_ (h.refused hlock _ (Set.mem_insert _ _) hfree _ hcap)
        simp [RoomState.screen, hpending]
    | _ => rfl
  refine ⟨?_, fun x hx o ho => ?_⟩
  · rw [Set.image_insert_eq]
    change OneAnalysis _ (insert ((park op φ).analyst i) _)
    rw [park_analyst hop]
    exact h.wait
  · rcases hx with rfl | hx
    · obtain rfl := Option.some.inj ho
      exact hop
    · exact hawake x (.inr hx) o ho

/-- Each capture is analysed once, if its response arrives once. -/
theorem oneAnalysis_certificate (env : Env) :
    (protocol env).Certificate (answersOnce env) Known HasOneAnalysis where
  tick _ _ h := ⟨h.one, h.awake⟩
  call {n s O seats flow} _ _ honce _ h := by
    refine ⟨?_, fun x hx op hop => ?_⟩
    · rw [Set.image_insert_eq]
      refine h.one.call n fun hsome heq => ?_
      change (flow.captureResponse.bind CaptureResponse.requestId).isSome at hsome
      change flow.captureResponse.bind CaptureResponse.requestId = s.screen.pending at heq
      cases hresponse : flow.captureResponse with
      | none => simp [hresponse] at hsome
      | some message =>
        rw [hresponse] at hsome heq
        exact honce message hresponse ⟨hsome, heq⟩
    · rcases hx with rfl | hx
      · exact absurd hop (by simp)
      · exact h.awake x hx op hop
  resume {n s i flow op φ reply O seats} _ _ _ _ h := by
    obtain ⟨h, hawake⟩ := h
    refine ⟨?_, fun x hx o ho => ?_⟩
    · rw [Set.image_insert_eq] at h ⊢
      change OneAnalysis _ (insert ((VoiceBot.resume op reply φ).analyst i) _)
      rw [resume_analyst]
      exact h
    · rcases hx with rfl | hx
      · exact absurd ho (by simp)
      · exact hawake x (.inr hx) o ho
  act hc hmove honce hK h := h.act hc hmove honce hK
  wait _ hwait _ h := h.wait hwait
  exit _ _ _ h := by
    obtain ⟨h, hawake⟩ := h
    rw [Set.image_insert_eq] at h
    exact ⟨h.exit, fun x hx => hawake x (.inr hx)⟩

end Certificate

/-! ## Each capture is analysed once -/

section Runs

variable {env : Env}

/-- What is known in a run in which responses arrive once. -/
abbrev AnsweringOnce (env : Env) : RoomPool → Prop :=
  (protocol env).Holds ((protocol env).both Known HasOneAnalysis)

lemma answeringOnce_certificate (env : Env) :
    (protocol env).Certificate (answersOnce env) Discipline.anything
      ((protocol env).both Known HasOneAnalysis) :=
  (known_certificate env).both (oneAnalysis_certificate env) (fun _ _ _ _ => trivial)
    (fun _ _ _ _ _ => trivial) fun _ _ _ _ _ _ => trivial

lemma answeringOnce_init (env : Env) : AnsweringOnce env (room env).init := by
  refine Discipline.init_holds ⟨known_init, ?_, by simp⟩
  rw [Set.image_empty]
  constructor <;> simp [RoomState.screen, RoomState.initial]

/-- A response that does not answer the pending request is over at once. -/
lemma advance_rejected {me : ℕ} {message : CaptureResponse} {s : RoomState}
    (h : ¬ message.Answers s) :
    ((handleVisionCaptureResponse env me message).advance Act.apply s).state = s := by
  simp only [handleVisionCaptureResponse, bind, Async.get, Async.onExit, Async.onValue,
    Async.advance]
  cases hpending : s.pendingVisionRequest with
  | none => rfl
  | some pending =>
    have hid : message.requestId ≠ some pending.requestId := fun heq =>
      h ⟨by simp [heq], by simp [heq, hpending]⟩
    simp only [if_pos hid]
    rfl

lemma AnsweringOnce.rejectsCleanly {pool : RoomPool} {e : RoomEvent} (h : AnsweringOnce env pool)
    (hG : (answersOnce env).Holds pool e) : RejectsCleanly env pool e := by
  intro hrefused pool' hstep
  cases e with
  | call stamp flow =>
    cases flow with
    | handleVisionCaptureResponse message =>
      -- it was not an answer to the pending request, as the lock would have been free
      have hnot : ¬ message.Answers pool.shared := by
        intro hanswers
        have hfree : pool.shared.processingLock = false := hG.1 message rfl hanswers
        rcases hrefused with hnot | hlock
        · exact hnot hanswers
        · exact Bool.noConfusion (hfree.symm.trans hlock)
      have hfinish : some ((runtime env).finish ⟨(runtime env).tick stamp pool.shared, pool.next,
          .handleVisionCaptureResponse message, handleVisionCaptureResponse env pool.next message,
          pool.tasks, pool.next + 1⟩) = some pool' := hstep
      have hshared : pool'.shared = (runtime env).tick stamp pool.shared := by
        rw [← Option.some.inj hfinish]
        exact advance_rejected hnot
      rw [hshared]
      exact ⟨rfl, rfl, rfl⟩
    | _ => exact hrefused.elim
  | resume stamp id replies =>
    -- nobody waits for the lock
    obtain ⟨-, t, ht, -, hsleeping⟩ := hrefused
    obtain ⟨phases, -, -, -, hawake⟩ := h
    have hmem : (protocol env).member phases t ∈ (protocol env).crew phases pool.tasks :=
      ⟨t, ht, rfl⟩
    exact Bool.noConfusion ((hawake _ hmem t.op rfl).symm.trans hsleeping)

/-- **Each capture is analysed once.** In every run in which no response to the pending request
arrives while `processingLock` is held, and no capture is requested under an id that was used
before, no capture is analysed twice, and a response that is rejected or does not get the lock
leaves `isVisionMode`, `pendingVisionRequest` and `botState` as they are. -/
theorem analysed_once_of_answersOnce (env : Env) (es : List RoomEvent)
    (h : (room env).AllSteps (answersOnce env).Holds (room env).init es) :
    (room env).AllStates AnalysedOnce (room env).init es ∧
      (room env).AllSteps (RejectsCleanly env) (room env).init es := by
  have hstep : ∀ pool e pool', AnsweringOnce env pool → (answersOnce env).Holds pool e →
      (room env).step pool e = some pool' → AnsweringOnce env pool' := fun pool e pool' hK hG hs =>
    (answeringOnce_certificate env).step (protocol_sound env) hK hG hs
  constructor
  · refine EventSystem.allStates_of_invariant hstep (fun pool hK => ?_) (answeringOnce_init env) h
    obtain ⟨phases, -, -, hone⟩ := hK
    exact hone.one.nodup
  · exact EventSystem.allSteps_of_invariant hstep (fun pool e hK hG => hK.rejectsCleanly hG)
      (answeringOnce_init env) h

end Runs

instance (env : Env) (seats : List (Seat Op Flow)) (s : RoomState) (flow : Flow) :
    Decidable ((answersOnce env).call seats s flow) :=
  inferInstanceAs (Decidable (∀ message ∈ flow.captureResponse,
    message.Answers s → s.processingLock = false))

instance (env : Env) (seats : List (Seat Op Flow)) (s : RoomState) (seat : Seat Op Flow)
    (reply : Except String seat.op.Reply) :
    Decidable ((answersOnce env).resume seats s seat reply) :=
  inferInstanceAs (Decidable True)

instance (env : Env) (seats : List (Seat Op Flow)) (i : ℕ) (flow : Flow) (s : RoomState) (a : Act) :
    Decidable ((answersOnce env).act seats i flow s a) :=
  inferInstanceAs (Decidable (∀ requestId ∈ a.requested, requestId ∉ s.captureRequests))

/-- A capture is requested and its response arrives. -/
def lookAndAnswer : List RoomEvent :=
  [.call ⟨1000, 1000, 0⟩ (.setModes { Modes.talkative with hostOnlyMode := true }),
    .call ⟨1000, 1000, 0⟩ (.screenShare true),
    .call ⟨2000, 2000, 0⟩ (.processAndRespond ⟨"kim", none⟩),
    .resume ⟨3000, 3000, 0⟩ 2 speechReplies,
    .resume ⟨3010, 3010, 0⟩ 2 speechReplies,
    .call ⟨3500, 3500, 0⟩ (.handleVisionCaptureResponse ⟨some 3000, some "image"⟩)]

/-- The analysis of the screen has ended. -/
def visionReplies : (op : Op) → Except String op.Reply
  | .analyzeScreenShare _ _ => .ok ⟨"general", "화면"⟩
  | op => speechReplies op

/-- The response of another request arrives during the analysis. -/
def strayResponse : List RoomEvent :=
  lookAndAnswer ++
    [.call ⟨3600, 3600, 0⟩ (.handleVisionCaptureResponse ⟨some 2000, some "image"⟩),
      .resume ⟨5000, 5000, 0⟩ 3 visionReplies]

/-- The theorem for a run in which the response of another request arrives during the analysis. -/
theorem analysed_once_strayResponse :
    (room (.simple .look)).AllSteps (answersOnce (.simple .look)).Holds (room (.simple .look)).init
        strayResponse ∧
      (room (.simple .look)).AllStates AnalysedOnce (room (.simple .look)).init strayResponse ∧
      (room (.simple .look)).AllSteps (RejectsCleanly (.simple .look)) (room (.simple .look)).init
        strayResponse :=
  ⟨by decide +kernel,
    analysed_once_of_answersOnce (.simple .look) strayResponse (by decide +kernel)⟩

/-- The response arrives again during the analysis. -/
def duplicateResponse : List RoomEvent :=
  lookAndAnswer ++
    [.call ⟨3600, 3600, 0⟩ (.handleVisionCaptureResponse ⟨some 3000, some "image"⟩)]

/-- The analysis and the speech end while the second response waits. -/
def secondAnalysis : List RoomEvent :=
  duplicateResponse ++
    [.resume ⟨3610, 3610, 0⟩ 3 visionReplies, .resume ⟨3620, 3620, 0⟩ 3 visionReplies,
      .resume ⟨3630, 3630, 0⟩ 3 visionReplies, .resume ⟨3640, 3640, 0⟩ 3 visionReplies,
      .resume ⟨3660, 3660, 0⟩ 3 visionReplies, .resume ⟨3670, 3670, 0⟩ 3 visionReplies,
      .resume ⟨3700, 3700, 0⟩ 4 visionReplies]

/-- The second response waits for 2 s in vain. -/
def vainWait : List RoomEvent :=
  duplicateResponse ++
    (List.range 20).map fun n => .resume ⟨3700 + 100 * n, 3700 + 100 * n, 0⟩ 4 visionReplies

/-- In the first run the capture is analysed again, because the pending request is not compared
again after the wait. In the second one the response that gives up resets the vision state while the
first one has the lock. -/
theorem analysed_twice :
    ¬ (room (.simple .look)).AllStates AnalysedOnce (room (.simple .look)).init secondAnalysis ∧
      ¬ (room (.simple .look)).AllSteps (RejectsCleanly (.simple .look)) (room (.simple .look)).init
        vainWait := by
  decide +kernel

end VoiceBot
