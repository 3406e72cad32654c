import AuraLive.VoiceBot.Family

set_option relaxedAutoImplicit false
set_option autoImplicit false

/-!
# Quiescence

Whether `isPublishing` and the state SPEAKING are given back once all flows of a room have ended. A
flow that has set one of them gives it back on its way out, with three exceptions: an utterance
whose request id a timer callback has replaced leaves `isPublishing`, a capture response without an
image leaves it too, and three `catch` blocks leave SPEAKING.

## Main definitions

* `VoiceBot.Quiescent` — nothing is left when no flow is in progress.
* `VoiceBot.cleansUp` — none of the exceptions is reached.
* `VoiceBot.Reserved`, `Voiced` — the invariants: somebody in progress will give
  `isPublishing` back, and somebody will leave SPEAKING.

## Main results

* `VoiceBot.quiescent_of_cleansUp` — quiescence of every run without the exceptions.
* `VoiceBot.not_quiescent` — a run for each of the exceptions.
-/

namespace VoiceBot

open Foundations

/-- When no flow is in progress, `isPublishing` is false and the bot is not SPEAKING. -/
def Quiescent (pool : RoomPool) : Prop :=
  pool.tasks = [] → pool.shared.isPublishing = false ∧ pool.shared.botState ≠ .speaking

instance decidableQuiescent (pool : RoomPool) : Decidable (Quiescent pool) :=
  decidable_of_iff (pool.tasks.isEmpty = true →
    pool.shared.isPublishing = false ∧ pool.shared.botState ≠ .speaking)
    (by rw [List.isEmpty_iff, Quiescent])

/-- A `catch` block that does not leave SPEAKING. -/
def Catch.isSilent (site : Catch) : Prop := site = .opinion ∨ site = .timerNotify ∨ site = .diagrams

instance (site : Catch) : Decidable site.isSilent :=
  inferInstanceAs (Decidable (_ ∨ _ ∨ _))

/-- The `catch` block an action enters. -/
def Act.caught : Act → Option Catch
  | .logError site => some site
  | _ => none

/-- The action takes `processingLock`. -/
def Act.locks : Act → Bool
  | .setProcessingLock true => true
  | _ => false

/-- A timer callback takes a request id. -/
def Act.interjects : Act → Bool
  | .setCurrentRequestId claim => claim.site = .timer
  | _ => false

/-- A timer callback does not replace the request id of an utterance in progress while
`isPublishing` is set, none of the three `catch` blocks is entered SPEAKING by a flow that has a
request id, and a capture response that gets the lock has an image. -/
def cleansUp (env : Env) : Guards (runtime env) where
  call _ _ _ := True
  resume _ _ _ _ := True
  act seats i flow s a :=
    (a.interjects = true → s.isPublishing = true →
      ∀ seat ∈ seats, ⟨seat.flow.root seat.id, s.currentRequestId, .utterance⟩ ∉ s.claims) ∧
    (∀ site ∈ a.caught, site.isSilent → (∃ claim ∈ s.claims, claim.task = flow.root i) →
      s.botState ≠ .speaking) ∧
    (a.locks = true → flow.captureResponse.all fun message => message.imageBase64.isSome)

/-! ## Who gives `isPublishing` back -/

/-- The part of a task that concerns `isPublishing`. -/
structure Tenant where
  root : ℕ
  request : Option ℕ
  floor : Floor
  taking : Bool
  imageless : Bool
  lock : Bool

/-- A phase without the fields that do not concern `isPublishing`. -/
def Phase.tenant (φ : Phase) : Tenant :=
  ⟨φ.root, φ.request, φ.floor, φ.taking, φ.imageless, φ.lock⟩

/-- A task without the fields that do not concern `isPublishing`. -/
def tenant (x : RoomMember) : Tenant := x.phase.tenant

/-- The task will set or clear `isPublishing`, as things stand. -/
def Tenant.Holds (x : Tenant) (current : ℕ) : Prop :=
  x.taking = true ∨ x.floor = .always ∨ (x.floor = .whenCurrent ∧ x.request = some current)

/-- Somebody in progress will give `isPublishing` back. -/
structure Reserved (publishing : Bool) (current : ℕ) (claims : List Claim) (K : Set Tenant) :
    Prop where
  held : publishing = true → ∃ x ∈ K, x.Holds current
  utterance : ∀ x ∈ K, x.floor = .whenCurrent →
    ∃ r, x.request = some r ∧ ⟨x.root, r, .utterance⟩ ∈ claims
  taking : ∀ x ∈ K, x.taking = true → x.request ≠ none
  imaged : ∀ x ∈ K, x.imageless = true → x.lock = false

/-- The invariant of a room. -/
def IsReserved : ℕ → RoomState → Set RoomMember → Prop := fun _ s L =>
  Reserved s.isPublishing s.currentRequestId s.claims (tenant '' L)

namespace Reserved

variable {publishing : Bool} {current : ℕ} {claims : List Claim} {K : Set Tenant} {x : Tenant}

/-- A flow is called. -/
lemma call (h : Reserved publishing current claims K) (root : ℕ) (imageless : Bool) :
    Reserved publishing current claims (insert ⟨root, none, .none, false, imageless, false⟩ K) where
  held hp := by
    obtain ⟨y, hy, hh⟩ := h.held hp
    exact ⟨y, .inr hy, hh⟩
  utterance := Set.forall_mem_insert.mpr ⟨fun hf => Floor.noConfusion hf, h.utterance⟩
  taking := Set.forall_mem_insert.mpr ⟨fun ht => Bool.noConfusion ht, h.taking⟩
  imaged := Set.forall_mem_insert.mpr ⟨fun _ => rfl, h.imaged⟩

/-- A task that does not hold `isPublishing` has ended. -/
lemma exit (h : Reserved publishing current claims (insert x K)) (hx : ¬ x.Holds current) :
    Reserved publishing current claims K where
  held hp := by
    obtain ⟨y, rfl | hy, hh⟩ := h.held hp
    · exact absurd hh hx
    · exact ⟨y, hy, hh⟩
  utterance y hy := h.utterance y (.inr hy)
  taking y hy := h.taking y (.inr hy)
  imaged y hy := h.imaged y (.inr hy)

/-- `isPublishing` is set. -/
lemma reserve (h : Reserved publishing current claims (insert x K)) {floor : Floor}
    (hfloor : floor = .always ∨ (floor = .whenCurrent ∧ x.request = some current ∧
      ⟨x.root, current, .utterance⟩ ∈ claims)) :
    Reserved true current claims (insert { x with floor := floor, taking := false } K) where
  held _ := ⟨_, .inl rfl, .inr (hfloor.imp id fun hw => ⟨hw.1, hw.2.1⟩)⟩
  utterance := by
    refine Set.forall_mem_insert.mpr ⟨fun hw => ?_, fun y hy => h.utterance y (.inr hy)⟩
    rcases hfloor with hf | ⟨-, hreq, hclaim⟩
    · exact Floor.noConfusion (hf.symm.trans hw)
    · exact ⟨current, hreq, hclaim⟩
  taking := Set.forall_mem_insert.mpr ⟨fun ht => Bool.noConfusion ht,
    fun y hy => h.taking y (.inr hy)⟩
  imaged := Set.forall_mem_insert.mpr ⟨h.imaged x (.inl rfl), fun y hy => h.imaged y (.inr hy)⟩

/-- `isPublishing` is cleared. -/
lemma release (h : Reserved publishing current claims (insert x K)) :
    Reserved false current claims (insert { x with floor := .none } K) where
  held hp := Bool.noConfusion hp
  utterance := Set.forall_mem_insert.mpr ⟨fun hf => Floor.noConfusion hf,
    fun y hy => h.utterance y (.inr hy)⟩
  taking := Set.forall_mem_insert.mpr ⟨h.taking x (.inl rfl), fun y hy => h.taking y (.inr hy)⟩
  imaged := Set.forall_mem_insert.mpr ⟨h.imaged x (.inl rfl), fun y hy => h.imaged y (.inr hy)⟩

/-- The lock is taken by a response with an image, or given back. -/
lemma withLock (h : Reserved publishing current claims (insert x K)) {on : Bool}
    (himage : on = true → x.imageless = false) :
    Reserved publishing current claims (insert { x with lock := on } K) where
  held hp := by
    obtain ⟨y, rfl | hy, hh⟩ := h.held hp
    · exact ⟨_, .inl rfl, hh⟩
    · exact ⟨y, .inr hy, hh⟩
  utterance := Set.forall_mem_insert.mpr ⟨h.utterance x (.inl rfl),
    fun y hy => h.utterance y (.inr hy)⟩
  taking := Set.forall_mem_insert.mpr ⟨h.taking x (.inl rfl), fun y hy => h.taking y (.inr hy)⟩
  imaged := by
    refine Set.forall_mem_insert.mpr ⟨fun hi => ?_, fun y hy => h.imaged y (.inr hy)⟩
    cases on with
    | false => rfl
    | true => exact Bool.noConfusion ((himage rfl).symm.trans hi)

/-- A request id is taken: nobody held `isPublishing`, or somebody still does. -/
lemma claim (h : Reserved publishing current claims (insert x K)) (hreq : x.request = none)
    {c : Claim} {taking : Bool} (hheld : publishing = true → taking = true ∨ x.floor = .always ∨
      ∃ y ∈ K, y.Holds c.requestId) :
    Reserved publishing c.requestId (claims ++ [c])
      (insert { x with request := some c.requestId, taking := taking } K) where
  held hp := by
    rcases hheld hp with ht | hf | ⟨y, hy, hh⟩
    · exact ⟨_, .inl rfl, .inl ht⟩
    · exact ⟨_, .inl rfl, .inr (.inl hf)⟩
    · exact ⟨y, .inr hy, hh⟩
  utterance := by
    refine Set.forall_mem_insert.mpr ⟨fun hw => ?_, fun y hy hw => ?_⟩
    · obtain ⟨r, hr, -⟩ := h.utterance x (.inl rfl) hw
      exact absurd (hreq.symm.trans hr) (by simp)
    · obtain ⟨r, hr, hclaim⟩ := h.utterance y (.inr hy) hw
      exact ⟨r, hr, List.mem_append_left _ hclaim⟩
  taking := Set.forall_mem_insert.mpr ⟨fun _ => by simp, fun y hy => h.taking y (.inr hy)⟩
  imaged := Set.forall_mem_insert.mpr ⟨h.imaged x (.inl rfl), fun y hy => h.imaged y (.inr hy)⟩

/-- An announcement takes over the request of its parent. -/
lemma announce (h : Reserved publishing current claims (insert x K)) (hreq : x.request = none)
    (r : Option ℕ) (hr : r ≠ none) :
    Reserved publishing current claims (insert { x with request := r } K) where
  held hp := by
    obtain ⟨y, rfl | hy, hh⟩ := h.held hp
    · refine ⟨_, .inl rfl, hh.imp id fun hf => hf.imp id fun hw => ?_⟩
      exact absurd (hreq.symm.trans hw.2) (by simp)
    · exact ⟨y, .inr hy, hh⟩
  utterance := by
    refine Set.forall_mem_insert.mpr ⟨fun hw => ?_, fun y hy => h.utterance y (.inr hy)⟩
    obtain ⟨r, hr, -⟩ := h.utterance x (.inl rfl) hw
    exact absurd (hreq.symm.trans hr) (by simp)
  taking := Set.forall_mem_insert.mpr ⟨fun _ => hr, fun y hy => h.taking y (.inr hy)⟩
  imaged := Set.forall_mem_insert.mpr ⟨h.imaged x (.inl rfl), fun y hy => h.imaged y (.inr hy)⟩

end Reserved

/-- The actions that concern `isPublishing`. -/
def Act.concernsFloor : Act → Bool
  | .setPublishing _ => true
  | .setCurrentRequestId _ => true
  | .setProcessingLock _ => true
  | .speakThinking _ => true
  | _ => false

section Floor

variable {n i : ℕ} {flow : Flow} {φ φ' : Phase} {s : RoomState} {O : Set RoomMember}
  {seats : List (Seat Op Flow)} {env : Env} {a : Act}

/-- The other actions change neither a tenant nor what it holds. -/
lemma Move.tenant_eq (hmove : Move a φ s φ') (ha : a.concernsFloor = false) :
    φ'.tenant = φ.tenant ∧ (a.apply s).isPublishing = s.isPublishing ∧
      (a.apply s).currentRequestId = s.currentRequestId ∧ (a.apply s).claims = s.claims := by
  have hout := hmove.outcome
  refine ⟨?_, ?_⟩
  · cases a with
    | setVisionMode on => cases on <;> simp_all [Act.outcomes, Phase.tenant]
    | setShouldInterrupt on => cases on <;> grind [Act.outcomes, Phase.tenant]
    | setBotState state => cases state <;> simp_all [Act.outcomes, Phase.tenant]
    | touch stamp | captureFrame voice frame | logError site =>
      rcases List.mem_pair.mp hout with rfl | rfl <;> rfl
    | setPublishing on | setCurrentRequestId claim | setProcessingLock on | speakThinking task =>
      simp [Act.concernsFloor] at ha
    | _ => simp_all [Act.outcomes, Phase.tenant]
  · cases a with
    | touch stamp => cases stamp <;> exact ⟨rfl, rfl, rfl⟩
    | setPublishing on | setCurrentRequestId claim => simp [Act.concernsFloor] at ha
    | _ => exact ⟨rfl, rfl, rfl⟩

/-- The end of an awaited call does not change a tenant. -/
lemma resume_tenant (op : Op) (reply : Except String op.Reply) (φ : Phase) :
    (resume op reply φ).tenant = φ.tenant := by
  rcases resume_cases op reply φ with hr | ⟨hr, -⟩ | hr | ⟨task, -, hr | hr⟩ <;> rw [hr] <;> rfl

/-- An utterance in progress keeps its request id when a timer callback takes one. -/
lemma IsReserved.kept (hc : Crew n i O seats)
    (hK : Known n s (insert ⟨i, flow, none, φ⟩ O))
    (hkeep : ∀ seat ∈ seats, ⟨seat.flow.root seat.id, s.currentRequestId, .utterance⟩ ∉ s.claims)
    {x : Tenant} (hx : x ∈ tenant '' O) (hw : x.floor = .whenCurrent)
    (hr : x.request = some s.currentRequestId)
    (h : Reserved s.isPublishing s.currentRequestId s.claims (insert φ.tenant (tenant '' O))) :
    False := by
  obtain ⟨r, hreq, hclaim⟩ := h.utterance x (.inr hx) hw
  obtain rfl : r = s.currentRequestId := Option.some.inj (hreq.symm.trans hr)
  obtain ⟨y, hy, rfl⟩ := hx
  obtain ⟨op, -, hseat⟩ := hc.seated y hy
  refine hkeep _ hseat ?_
  rw [← (hK.1 y (.inr hy)).root]
  exact hclaim

/-- An action keeps `isPublishing` reserved, if it cleans up.

**Proof sketch.** Actions that do not concern the flag leave the tenants, the flag and the claims as
they are. Setting it makes the task one that will clear it, and clearing it needs nobody. A new
request id takes the duty from those that only clear the flag under the old one; so the flag is
free, or somebody else holds it, or the guard excludes it. -/
lemma IsReserved.act (hc : Crew n i O seats) (hmove : Move a φ s φ')
    (hclean : (cleansUp env).act seats i flow s a) (hK : Known n s (insert ⟨i, flow, none, φ⟩ O))
    (h : IsReserved n s (insert ⟨i, flow, none, φ⟩ O)) :
    IsReserved n (a.apply s) (insert ⟨i, flow, none, φ'⟩ O) := by
  have hown : Proper ⟨i, flow, none, φ⟩ := hK.1 _ (Set.mem_insert _ _)
  rw [IsReserved, Set.image_insert_eq] at h ⊢
  change Reserved _ _ _ (insert φ.tenant _) at h
  change Reserved _ _ _ (insert φ'.tenant _)
  cases ha : a.concernsFloor with
  | false =>
    obtain ⟨htenant, hpub, hcurrent, hclaims⟩ := hmove.tenant_eq ha
    rwa [htenant, hpub, hcurrent, hclaims]
  | true =>
    cases a with
    | setPublishing on =>
      cases on with
      | true =>
        rcases hmove with rfl | ⟨hreq, hclaim, rfl⟩
        · exact h.reserve (.inl rfl)
        · exact h.reserve (.inr ⟨rfl, hreq, hclaim⟩)
      | false => obtain rfl := hmove; exact h.release
    | setProcessingLock on =>
      have himage : on = true → φ.imageless = false := by
        rintro rfl
        have hall := hclean.2.2 rfl
        rw [hown.imageless]
        cases hresponse : flow.captureResponse with
        | none => rfl
        | some message => simpa [hresponse] using hall
      obtain rfl : φ' = { φ with lock := on } := by simpa [Act.outcomes] using hmove.outcome
      exact h.withLock himage
    | setCurrentRequestId claim =>
      obtain ⟨-, -, -, hreq, -, -, hok, rfl⟩ := hmove
      refine h.claim hreq fun hp => ?_
      have hpub : s.isPublishing = false → False := fun hno => Bool.noConfusion (hno.symm.trans hp)
      obtain ⟨task, requestId, site⟩ := claim
      cases site with
      | transcript | utterance | diagrams => exact (hpub hok).elim
      | vision => exact .inr (.inl hok.1)
      | perplexity => exact .inl rfl
      | timer =>
        obtain ⟨x, rfl | hx, ht | hf | ⟨hw, hr⟩⟩ := h.held hp
        · exact absurd hreq (h.taking _ (Set.mem_insert _ _) ht)
        · exact .inr (.inl hf)
        · exact absurd (hreq.symm.trans hr) (by simp)
        · exact .inr (.inr ⟨x, hx, .inl ht⟩)
        · exact .inr (.inr ⟨x, hx, .inr (.inl hf)⟩)
        · exact (IsReserved.kept hc hK (hclean.1 rfl hp) hx hw hr h).elim
    | speakThinking task =>
      obtain ⟨t, ht, -, -, -, hreq, -, -, -, -, rfl⟩ := hmove
      exact h.announce hreq (some t.requestId) (by simp)
    | _ => simp [Act.concernsFloor] at ha

/-- Somebody will give `isPublishing` back, unless an exception is reached. -/
theorem reserved_certificate (env : Env) :
    (protocol env).Certificate (cleansUp env) Known IsReserved where
  tick _ _ h := h
  call _ _ _ _ h := by
    rw [IsReserved, Set.image_insert_eq]
    exact h.call _ _
  resume {n s i flow op φ reply O seats} _ _ _ _ h := by
    rw [IsReserved, Set.image_insert_eq] at h ⊢
    change Reserved _ _ _ (insert (VoiceBot.resume op reply φ).tenant _)
    rw [resume_tenant]
    exact h
  act hc hmove hclean hK h := h.act hc hmove hclean hK
  wait _ hwait _ h := by
    obtain ⟨-, -, rfl⟩ := hwait
    rw [IsReserved, Set.image_insert_eq] at h ⊢
    exact h
  exit {n s i flow φ O seats} _ hexit _ h := by
    rw [IsReserved, Set.image_insert_eq] at h
    refine h.exit ?_
    have hlock : φ.lock = false := by
      cases himage : φ.imageless with
      | false => exact hexit.lock himage
      | true => exact h.imaged _ (Set.mem_insert _ _) himage
    rintro (ht | hf | ⟨hw, hr⟩)
    · exact Bool.noConfusion (hexit.taking.symm.trans ht)
    · exact hexit.floor hlock hf
    · exact hexit.whenCurrent hw hr

end Floor

/-! ## Who leaves SPEAKING -/

/-- The part of a task that concerns the state SPEAKING. -/
structure Performer where
  id : ℕ
  thinking : Option Thinking
  ended : Bool
  request : Option ℕ
  speaking : Bool
  covers : Bool

/-- A phase without the fields that do not concern the state SPEAKING. -/
def Phase.performer (φ : Phase) (i : ℕ) : Performer :=
  ⟨i, φ.thinking, φ.ended, φ.request, φ.speaking, φ.covers⟩

/-- A task without the fields that do not concern the state SPEAKING. -/
def performer (x : RoomMember) : Performer := x.phase.performer x.id

/-- The task will leave SPEAKING: it has set it itself, or its announcement has and has not ended
well. An announcement answers for itself up to the call of `speakAndPublish` only. -/
def Performer.Owes (x : Performer) (spoken : List ℕ) (ended : List (ℕ × Except String Unit)) :
    Prop :=
  (x.thinking = none ∧ x.speaking = true) ∨
  (x.thinking = none ∧ x.covers = true ∧ x.id ∈ spoken ∧ (x.id, .ok ()) ∉ ended) ∨
  (x.thinking.isSome ∧ x.ended = false ∧ x.request = none ∧ x.speaking = true)

/-- Somebody in progress will leave SPEAKING. -/
def Voiced (s : RoomState) (K : Set Performer) : Prop :=
  s.botState = .speaking → ∃ x ∈ K, x.Owes s.thinkingSpoken s.thinkingEnded

/-- The invariant of a room. -/
def IsVoiced : ℕ → RoomState → Set RoomMember → Prop := fun _ s L => Voiced s (performer '' L)

/-- The actions that concern the state SPEAKING. -/
def Act.concernsVoice : Act → Bool
  | .setBotState _ => true
  | .setCurrentRequestId _ => true
  | .speakThinking _ => true
  | .armThinking _ => true
  | .endThinking _ _ => true
  | .logError _ => true
  | _ => false

section Voice

variable {n i : ℕ} {flow : Flow} {φ φ' : Phase} {s : RoomState} {O : Set RoomMember}
  {seats : List (Seat Op Flow)} {env : Env} {a : Act}

/-- The other actions change neither a performer nor what it owes. -/
lemma Move.performer_eq (hmove : Move a φ s φ') (ha : a.concernsVoice = false) (i : ℕ) :
    φ'.performer i = φ.performer i ∧
      (a.apply s).botState = s.botState ∧ (a.apply s).thinkingSpoken = s.thinkingSpoken ∧
      (a.apply s).thinkingEnded = s.thinkingEnded := by
  have hout := hmove.outcome
  refine ⟨?_, ?_⟩
  · cases a with
    | setVisionMode on => cases on <;> simp_all [Act.outcomes, Phase.performer]
    | setShouldInterrupt on => cases on <;> grind [Act.outcomes, Phase.performer]
    | setPublishing on => cases on <;> grind [Act.outcomes, Phase.performer]
    | touch stamp | captureFrame voice frame =>
      rcases List.mem_pair.mp hout with rfl | rfl <;> rfl
    | setBotState state | setCurrentRequestId claim | speakThinking task | armThinking t
    | endThinking task result | logError site => simp [Act.concernsVoice] at ha
    | _ => simp_all [Act.outcomes, Phase.performer]
  · cases a with
    | touch stamp => cases stamp <;> exact ⟨rfl, rfl, rfl⟩
    | setBotState state | speakThinking task | endThinking task result =>
      simp [Act.concernsVoice] at ha
    | _ => exact ⟨rfl, rfl, rfl⟩

/-- Only the end of its announcement changes a performer. -/
lemma resume_performer {op : Op} (reply : Except String op.Reply) (φ : Phase) (i : ℕ)
    (hop : ∀ task, op ≠ .thinkingTask task) : (resume op reply φ).performer i = φ.performer i := by
  rcases resume_cases op reply φ with hr | ⟨hr, -⟩ | hr | ⟨task, htask, -⟩
  · rw [hr]
  · rw [hr]
    rfl
  · rw [hr]
    rfl
  · exact absurd htask (hop task)

/-- The announcement and its parent: when `speakAndPublish` is called for the announcement, the
parent is waiting for its LLM call and answers for SPEAKING. -/
lemma Known.parent_owes (hK : Known n s (insert ⟨i, flow, none, φ⟩ O)) {t : Thinking}
    (ht : φ.thinking = some t) (hended : φ.ended = false) (hopen : t.parent ∉ s.llmResolved) :
    ∃ y ∈ O, (performer y).Owes (t.parent :: s.thinkingSpoken) s.thinkingEnded := by
  have hown : (⟨i, flow, none, φ⟩ : RoomMember) ∈ insert ⟨i, flow, none, φ⟩ O := Set.mem_insert _ _
  have hpending : Pending s.lineage (kin '' insert ⟨i, flow, none, φ⟩ O) t :=
    .inr ⟨_, ⟨_, hown, rfl⟩, ht, hended⟩
  rcases hK.2.alive t hpending with hres | ⟨k, ⟨y, hy, rfl⟩, hid, -⟩
  · exact absurd hres hopen
  · obtain ⟨hplain, hchild⟩ := hK.2.parent t hpending (kin y) ⟨y, hy, rfl⟩ hid
    have hparent : y.id = t.parent := hid
    have hwaiting : y.phase.resolved = false := by
      cases hres : y.phase.resolved with
      | false => rfl
      | true =>
        refine absurd ?_ hopen
        rw [← hparent]
        exact hK.2.resolved (kin y) ⟨y, hy, rfl⟩ hplain hres
    have hfresh : (y.id, Except.ok ()) ∉ s.thinkingEnded := fun he =>
      hK.2.ended _ he t hpending hparent.symm
    rcases hy with rfl | hy
    · exact absurd (hplain.symm.trans ht) (by simp)
    · refine ⟨y, hy, .inr (.inl ⟨hplain, (hK.1 y (.inr hy)).covers hchild hwaiting, ?_, hfresh⟩)⟩
      exact List.mem_cons.mpr (.inl hparent)

/-- An announcement that did not speak is not one whose parent answers for SPEAKING. -/
lemma Known.not_spoken (hK : Known n s (insert ⟨i, flow, none, φ⟩ O)) {t : Thinking}
    (ht : φ.thinking = some t) (hended : φ.ended = false) (hreq : φ.request = none) :
    t.parent ∉ s.thinkingSpoken := by
  have hown : (⟨i, flow, none, φ⟩ : RoomMember) ∈ insert ⟨i, flow, none, φ⟩ O := Set.mem_insert _ _
  have hcarries : (kin ⟨i, flow, none, φ⟩).Carries t := ⟨ht, hended⟩
  have hpending : Pending s.lineage (kin '' insert ⟨i, flow, none, φ⟩ O) t :=
    .inr ⟨_, ⟨_, hown, rfl⟩, hcarries⟩
  intro hspoken
  rcases hK.2.spoken t.parent hspoken with ⟨e, he, hid⟩ | ⟨k, hk, u, hu, hid, hspeaks⟩
  · exact hK.2.ended e he t hpending hid.symm
  · obtain rfl : u = t := hK.2.one u t (.inr ⟨k, hk, hu⟩) hpending hid
    obtain rfl := hK.2.carrier _ ⟨_, hown, rfl⟩ k hk u hcarries hu
    exact hspeaks hreq

/-- One of the others, or the running task, leaves SPEAKING. -/
lemma Voiced.cases (h : Voiced s (insert (performer ⟨i, flow, none, φ⟩) (performer '' O)))
    (hs : s.botState = .speaking) :
    (performer ⟨i, flow, none, φ⟩).Owes s.thinkingSpoken s.thinkingEnded ∨
      ∃ y ∈ O, (performer y).Owes s.thinkingSpoken s.thinkingEnded := by
  obtain ⟨x, rfl | ⟨y, hy, rfl⟩, hx⟩ := h hs
  · exact .inl hx
  · exact .inr ⟨y, hy, hx⟩

/-- What is owed stays owed when more is announced. -/
lemma Performer.Owes.spoken {x : Performer} {spoken : List ℕ}
    {ended : List (ℕ × Except String Unit)}
    (h : x.Owes spoken ended) (task : ℕ) : x.Owes (task :: spoken) ended :=
  h.imp_right fun h => h.imp_left fun hc =>
    ⟨hc.1, hc.2.1, List.mem_cons_of_mem _ hc.2.2.1, hc.2.2.2⟩

/-- What is owed stays owed when another announcement ends, or ends with an exception. -/
lemma Performer.Owes.ended {x : Performer} {spoken : List ℕ} {ended : List (ℕ × Except String Unit)}
    (h : x.Owes spoken ended) {task : ℕ} {result : Except String Unit}
    (hother : result = .ok () → task ∉ spoken) : x.Owes spoken ((task, result) :: ended) := by
  refine h.imp_right fun h => h.imp_left fun hc => ⟨hc.1, hc.2.1, hc.2.2.1, fun hmem => ?_⟩
  rcases List.mem_cons.mp hmem with heq | hmem
  · obtain ⟨hid, hok⟩ := Prod.mk.inj heq
    exact hother hok.symm (hid ▸ hc.2.2.1)
  · exact hc.2.2.2 hmem

/-- An action keeps somebody who will leave SPEAKING, if it cleans up.

**Proof sketch.** Actions that do not concern SPEAKING leave the performers and the state as they
are. Whoever enters SPEAKING owes to leave it. A request id does not end a debt. An announcement
begins while its parent still owes, takes the debt over when it is armed, and has given it back when
it ends. An exception that is only logged drops the debt of its task; the guard says that the room
is not SPEAKING there. -/
lemma IsVoiced.act (hmove : Move a φ s φ') (hclean : (cleansUp env).act seats i flow s a)
    (hK : Known n s (insert ⟨i, flow, none, φ⟩ O))
    (h : IsVoiced n s (insert ⟨i, flow, none, φ⟩ O)) :
    IsVoiced n (a.apply s) (insert ⟨i, flow, none, φ'⟩ O) := by
  have hmem : (⟨i, flow, none, φ⟩ : RoomMember) ∈ insert ⟨i, flow, none, φ⟩ O := Set.mem_insert _ _
  have hown : Proper ⟨i, flow, none, φ⟩ := hK.1 _ hmem
  rw [IsVoiced, Set.image_insert_eq] at h ⊢
  cases ha : a.concernsVoice with
  | false =>
    obtain ⟨hperformer, hbot, hspoken, hended⟩ := hmove.performer_eq ha i
    change Voiced _ (insert (φ'.performer i) _)
    rwa [Voiced, hperformer, hbot, hspoken, hended]
  | true =>
    cases a with
    | setBotState state =>
      cases state with
      | sleep | armed => exact fun hs => BotState.noConfusion hs
      | speaking =>
        obtain ⟨hthinking, rfl⟩ := hmove
        refine fun _ => ⟨_, .inl rfl, ?_⟩
        by_cases hsome : φ.thinking.isSome
        · obtain ⟨hreq, hended⟩ := hthinking hsome
          exact .inr (.inr ⟨hsome, hended, hreq, rfl⟩)
        · exact .inl ⟨Option.not_isSome_iff_eq_none.mp hsome, rfl⟩
    | setCurrentRequestId claim =>
      obtain ⟨-, hplain, -, -, -, -, -, rfl⟩ := hmove
      intro hs
      rcases h.cases hs with hx | ⟨y, hy, hy'⟩
      · refine ⟨_, .inl rfl, hx.imp_right fun hx => hx.imp_right fun hx => ?_⟩
        exact absurd hx.1 (by simp [performer, Phase.performer, hplain])
      · exact ⟨performer y, .inr ⟨y, hy, rfl⟩, hy'⟩
    | speakThinking task =>
      obtain ⟨t, ht, rfl, -, hended, -, -, -, hopen, -, rfl⟩ := hmove
      intro _
      obtain ⟨y, hy, howes⟩ := hK.parent_owes ht hended hopen
      exact ⟨performer y, .inr ⟨y, hy, rfl⟩, howes⟩
    | armThinking t =>
      obtain ⟨-, -, -, -, -, rfl⟩ := hmove
      intro hs
      rcases h.cases hs with hx | ⟨y, hy, hy'⟩
      · exact ⟨_, .inl rfl, hx.imp_right fun hx => hx.imp_left fun hc => ⟨hc.1, rfl, hc.2.2⟩⟩
      · exact ⟨performer y, .inr ⟨y, hy, rfl⟩, hy'⟩
    | endThinking task result =>
      obtain ⟨hsome, htask, -, hended, hquiet, hok, rfl⟩ := hmove
      obtain ⟨t, ht⟩ := Option.isSome_iff_exists.mp hsome
      obtain rfl : task = t.parent := htask.trans (hown.root_parent ht)
      intro hs
      have hother : result = .ok () → t.parent ∉ s.thinkingSpoken := fun hres => by
        rcases hok hres with hreq | hbot
        · exact hK.not_spoken ht hended hreq
        · exact absurd hs hbot
      rcases h.cases hs with hx | ⟨y, hy, hy'⟩
      · -- the announcement itself no longer answers for SPEAKING
        rcases hx with ⟨hplain, -⟩ | ⟨hplain, -⟩ | ⟨-, -, hreq, hspeaking⟩
        · exact absurd (hplain.symm.trans ht) (by simp)
        · exact absurd (hplain.symm.trans ht) (by simp)
        · exact Bool.noConfusion ((hquiet hreq).symm.trans hspeaking)
      · exact ⟨performer y, .inr ⟨y, hy, rfl⟩, hy'.ended hother⟩
    | logError site =>
      intro hs
      have hbot : s.botState = .speaking := hs
      rcases h.cases hbot with hx | ⟨y, hy, hy'⟩
      · refine ⟨performer ⟨i, flow, none, φ'⟩, .inl rfl, ?_⟩
        simp only [Move] at hmove
        split at hmove
        · rename_i hsilent
          obtain ⟨hreq, rfl⟩ := hmove
          rcases hx with ⟨-, hspeaking⟩ | hx | ⟨-, -, hnone, hspeaking⟩
          · obtain ⟨r, hr⟩ := Option.isSome_iff_exists.mp (hreq hspeaking)
            obtain ⟨at', hclaim⟩ := hK.claimed hmem hr
            exact absurd hbot (hclean.2.1 site rfl hsilent ⟨_, hclaim, hown.root⟩)
          · exact .inr (.inl hx)
          · obtain ⟨r, hr⟩ := Option.isSome_iff_exists.mp (hreq hspeaking)
            exact absurd (hnone.symm.trans hr) (by simp)
        · obtain rfl := hmove
          exact hx
      · exact ⟨performer y, .inr ⟨y, hy, rfl⟩, hy'⟩
    | _ => simp [Act.concernsVoice] at ha

/-- The parent goes on without an exception when its announcement has ended well. -/
lemma ended_of_ready {task : ℕ} {u : Unit}
    (hready : ready s (.thinkingTask task) (.ok u) = true) : (task, .ok ()) ∈ s.thinkingEnded := by
  simp only [ready, List.any_eq_true, Bool.and_eq_true, decide_eq_true_eq] at hready
  obtain ⟨⟨id, result⟩, he, rfl, hres⟩ := hready
  cases result with
  | ok v => exact he
  | error message => simp at hres

lemma IsVoiced.resume {op : Op} {reply : Except String op.Reply} (hready : ready s op reply = true)
    (hK : Known n s (insert ⟨i, flow, some op, φ⟩ O))
    (h : IsVoiced n s (insert ⟨i, flow, some op, φ⟩ O)) :
    IsVoiced n s (insert ⟨i, flow, none, resume op reply φ⟩ O) := by
  have hown : Proper ⟨i, flow, some op, φ⟩ := hK.1 _ (Set.mem_insert _ _)
  rw [IsVoiced, Set.image_insert_eq] at h ⊢
  by_cases hop : ∃ task, op = .thinkingTask task
  · obtain ⟨task, rfl⟩ := hop
    cases reply with
    | error message => exact h
    | ok u =>
      -- the announcement has ended well, so its parent no longer answers for it
      obtain ⟨htask, hplain⟩ := hown.waits task rfl
      obtain rfl : task = i := htask.trans (hown.root_eq hplain)
      intro hs
      obtain ⟨x, rfl | hx, howes⟩ := h hs
      · refine ⟨_, .inl rfl, howes.imp_right fun howes => howes.imp_left fun hc => ?_⟩
        exact absurd (ended_of_ready hready) hc.2.2.2
      · exact ⟨x, .inr hx, howes⟩
  · change Voiced _ (insert ((VoiceBot.resume op reply φ).performer i) _)
    rw [resume_performer reply φ i fun task heq => hop ⟨task, heq⟩]
    exact h

/-- Somebody will leave SPEAKING, unless an exception is reached. -/
theorem voiced_certificate (env : Env) :
    (protocol env).Certificate (cleansUp env) Known IsVoiced where
  tick _ _ h := h
  call _ _ _ _ h := by
    rw [IsVoiced, Set.image_insert_eq]
    intro hs
    obtain ⟨x, hx, howes⟩ := h hs
    exact ⟨x, .inr hx, howes⟩
  resume _ hready _ hK h := h.resume hready hK
  act _ hmove hclean hK h := h.act hmove hclean hK
  wait _ hwait _ h := by
    obtain ⟨-, -, rfl⟩ := hwait
    rw [IsVoiced, Set.image_insert_eq] at h ⊢
    exact h
  exit {n s i flow φ O seats} _ hexit _ h := by
    rw [IsVoiced, Set.image_insert_eq] at h
    intro hs
    rcases h.cases hs with howes | ⟨y, hy, howes⟩
    · rcases howes with ⟨hplain, hspeaking⟩ | ⟨-, hcovers, -⟩ | ⟨hsome, hended, -⟩
      · exact Bool.noConfusion ((hexit.speaking hplain).symm.trans hspeaking)
      · exact Bool.noConfusion (hexit.covers.symm.trans hcovers)
      · exact Bool.noConfusion (hended.symm.trans (hexit.thinking hsome).2)
    · exact ⟨performer y, ⟨y, hy, rfl⟩, howes⟩

end Voice

/-! ## Quiescence -/

section Runs

variable {env : Env}

/-- What is known in a run without the exceptions. -/
abbrev CleaningUp (env : Env) : RoomPool → Prop :=
  (protocol env).Holds ((protocol env).both Known ((protocol env).both IsReserved IsVoiced))

lemma cleaningUp_certificate (env : Env) :
    (protocol env).Certificate (cleansUp env) Discipline.anything
      ((protocol env).both Known ((protocol env).both IsReserved IsVoiced)) :=
  (known_certificate env).both ((reserved_certificate env).and (voiced_certificate env))
    (fun _ _ _ _ => trivial) (fun _ _ _ _ _ => trivial) fun _ _ _ _ _ _ => trivial

lemma cleaningUp_init (env : Env) : CleaningUp env (room env).init := by
  refine Discipline.init_holds ⟨known_init, ?_, fun hs => BotState.noConfusion hs⟩
  rw [IsReserved, Set.image_empty]
  constructor <;> simp [RoomState.initial]

lemma CleaningUp.quiescent {pool : RoomPool} (h : CleaningUp env pool) : Quiescent pool := by
  obtain ⟨phases, -, -, hreserved, hvoiced⟩ := h
  intro htasks
  have hempty : (protocol env).crew phases pool.tasks = ∅ := by
    rw [htasks]
    ext x
    simp [Discipline.crew]
  rw [hempty] at hreserved hvoiced
  rw [IsReserved, Set.image_empty] at hreserved
  rw [IsVoiced, Set.image_empty] at hvoiced
  refine ⟨Bool.eq_false_iff.mpr fun hpub => ?_, fun hs => ?_⟩
  · obtain ⟨x, hx, -⟩ := hreserved.held hpub
    exact hx
  · obtain ⟨x, hx, -⟩ := hvoiced hs
    exact hx

/-- **Quiescence.** In every run in which no timer callback replaces the request id of an utterance
that holds `isPublishing`, none of the three `catch` blocks is entered SPEAKING by a flow with a
request id, and no capture response without an image gets the lock, `isPublishing` is false and the
bot is not SPEAKING whenever no flow is in progress. -/
theorem quiescent_of_cleansUp (env : Env) (es : List RoomEvent)
    (h : (room env).AllSteps (cleansUp env).Holds (room env).init es) :
    (room env).AllStates Quiescent (room env).init es := by
  have hstep : ∀ pool e pool', CleaningUp env pool → (cleansUp env).Holds pool e →
      (room env).step pool e = some pool' → CleaningUp env pool' := fun pool e pool' hK hG hs =>
    (cleaningUp_certificate env).step (protocol_sound env) hK hG hs
  have hquiet : ∀ pool, CleaningUp env pool → Quiescent pool := fun pool hK =>
    CleaningUp.quiescent hK
  exact EventSystem.allStates_of_invariant hstep hquiet (cleaningUp_init env) h

end Runs

instance (env : Env) (seats : List (Seat Op Flow)) (s : RoomState) (flow : Flow) :
    Decidable ((cleansUp env).call seats s flow) :=
  inferInstanceAs (Decidable True)

instance (env : Env) (seats : List (Seat Op Flow)) (s : RoomState) (seat : Seat Op Flow)
    (reply : Except String seat.op.Reply) : Decidable ((cleansUp env).resume seats s seat reply) :=
  inferInstanceAs (Decidable True)

instance (env : Env) (seats : List (Seat Op Flow)) (i : ℕ) (flow : Flow) (s : RoomState) (a : Act) :
    Decidable ((cleansUp env).act seats i flow s a) :=
  inferInstanceAs (Decidable (_ ∧ _ ∧ _))

/-- The speech of an answer fails, and then the meeting timer ends. -/
def answerFailsThenTimer : List RoomEvent :=
  [.call ⟨1000, 1000, 0⟩ (.setModes Modes.talkative),
    .call ⟨2000, 2000, 0⟩ (.processAndRespond ⟨"kim", none⟩),
    .resume ⟨3000, 3000, 0⟩ 1 speechReplies, .resume ⟨3100, 3100, 0⟩ 1 brokenSpeechReplies,
    .call ⟨3300, 3300, 0⟩ (.timerNotify .ended ⟨30, 5, 0, "ended"⟩),
    .resume ⟨3310, 3310, 0⟩ 2 speechReplies, .resume ⟨3320, 3320, 0⟩ 2 speechReplies,
    .resume ⟨3330, 3330, 0⟩ 2 speechReplies, .resume ⟨3340, 3340, 0⟩ 2 speechReplies,
    .resume ⟨3350, 3350, 0⟩ 2 speechReplies]

/-- The theorem for a run in which the speech of an answer fails before a notice of the timer. -/
theorem quiescent_answerFailsThenTimer :
    (room (.simple .call)).AllSteps (cleansUp (.simple .call)).Holds (room (.simple .call)).init
        answerFailsThenTimer ∧
      (room (.simple .call)).AllStates Quiescent (room (.simple .call)).init answerFailsThenTimer :=
  ⟨by decide +kernel,
    quiescent_of_cleansUp (.simple .call) answerFailsThenTimer (by decide +kernel)⟩

/-- The meeting timer ends while an answer is synthesized. -/
def timerDuringSynthesis : List RoomEvent :=
  [.call ⟨1000, 1000, 0⟩ (.setModes Modes.talkative),
    .call ⟨2000, 2000, 0⟩ (.processAndRespond ⟨"kim", none⟩),
    .resume ⟨3000, 3000, 0⟩ 1 speechReplies,
    .call ⟨3010, 3010, 0⟩ (.timerNotify .ended ⟨30, 5, 0, "ended"⟩),
    .resume ⟨3020, 3020, 0⟩ 2 speechReplies, .resume ⟨3100, 3100, 0⟩ 1 speechReplies,
    .resume ⟨3110, 3110, 0⟩ 2 speechReplies, .resume ⟨3120, 3120, 0⟩ 2 speechReplies,
    .resume ⟨3130, 3130, 0⟩ 2 speechReplies, .resume ⟨3140, 3140, 0⟩ 2 speechReplies]

/-- The speech of a timer callback fails. -/
def timerSpeechFails : List RoomEvent :=
  [.call ⟨1000, 1000, 0⟩ (.setModes Modes.talkative),
    .call ⟨2000, 2000, 0⟩ (.timerNotify .ended ⟨30, 5, 0, "ended"⟩),
    .resume ⟨2010, 2010, 0⟩ 1 speechReplies, .resume ⟨2020, 2020, 0⟩ 1 brokenSpeechReplies]

/-- A capture is answered without an image. -/
def captureWithoutImage : List RoomEvent :=
  [.call ⟨1000, 1000, 0⟩ (.screenShare true),
    .call ⟨2000, 2000, 0⟩ (.processAndRespond ⟨"kim", none⟩),
    .resume ⟨3000, 3000, 0⟩ 1 speechReplies,
    .resume ⟨3010, 3010, 0⟩ 1 speechReplies,
    .call ⟨3500, 3500, 0⟩ (.handleVisionCaptureResponse ⟨some 3000, none⟩)]

/-- The first run ends with `isPublishing` set, because the id of the answer is no longer the
current one; the second one SPEAKING, because the `catch` block does not leave it; the third one
with `isPublishing` set, because the exception is thrown outside the `try` block. -/
theorem not_quiescent :
    ¬ (room (.simple .look)).AllStates Quiescent (room (.simple .look)).init
        timerDuringSynthesis ∧
      ¬ (room (.simple .look)).AllStates Quiescent (room (.simple .look)).init timerSpeechFails ∧
      ¬ (room (.simple .look)).AllStates Quiescent (room (.simple .look)).init
        captureWithoutImage := by
  decide +kernel

end VoiceBot
