import AuraLive.VoiceBot.Conformance

set_option relaxedAutoImplicit false
set_option autoImplicit false

/-!
# Tasks, announcements and request ids

What holds of the tasks of a room in every run, whatever happens: how the phase of a task is related
to its flow and to the call it waits for, and how a call of `processAndRespond`, its "thinking"
announcement and the request ids that have been taken hang together.

## Main definitions

* `VoiceBot.Proper` — a phase fits the flow and the call of its task.
* `VoiceBot.Kin`, `Family` — the part of the phases and of the context that concerns request
  ids and announcements, and its invariant.

## Main results

* `VoiceBot.proper_certificate`, `family_certificate` — both hold in every run.
* `VoiceBot.Known.speaks_alone` — of a call of `processAndRespond` and its announcement only
  one is in `speakAndPublish`.
-/

namespace VoiceBot

open Foundations

/-- The tasks of a room with their phases. -/
abbrev RoomMember := Member Op Flow Phase

/-- No conditions on the steps. -/
def freely (env : Env) : Guards (runtime env) where
  call _ _ _ := True
  resume _ _ _ _ := True
  act _ _ _ _ _ := True

/-! ## Single tasks -/

/-- The request of a call that `speakAndPublish` awaits. -/
def Op.speech : Op → Option ℕ
  | .synthesizePcm (.answer requestId) _ => some requestId
  | .announce requestId _ => some requestId
  | .frameTimer (.answer requestId) => some requestId
  | _ => none

/-- The call belongs to the greeting. -/
def Op.isGreeting : Op → Bool
  | .synthesizePcm .greeting _ => true
  | .frameTimer .greeting => true
  | _ => false

/-- The phase of a task fits its flow and the call it waits for. -/
structure Proper (x : RoomMember) : Prop where
  root : x.phase.root = x.flow.root x.id
  thinking : x.phase.thinking = x.flow.announcement
  utterance : x.phase.utterance = x.flow.isUtterance
  greeting : x.phase.greeting = x.flow.isGreeting
  capture : x.phase.capture = x.flow.captureResponse.bind CaptureResponse.requestId
  imageless : x.phase.imageless =
    x.flow.captureResponse.any fun message => message.imageBase64.isNone
  settled : ∀ op, x.op = some op → x.phase.Settled
  mic : ∀ op, x.op = some op → x.phase.mic = micOf op
  requesting : ∀ op, x.op = some op → x.phase.requesting = none
  speech : ∀ op r, x.op = some op → op.speech = some r → x.phase.request = some r
  greets : ∀ op, x.op = some op → op.isGreeting = true → x.phase.greeting = true
  waits : ∀ task, x.op = some (.thinkingTask task) → task = x.phase.root ∧ x.phase.thinking = none
  silent : x.phase.greeting = true → x.phase.request = none
  voiced : x.phase.mic ≠ .off → x.phase.greeting = true ∨ x.phase.request.isSome
  announces : ∀ t r, x.phase.thinking = some t → x.phase.request = some r → r = t.requestId
  child : x.phase.child = true → x.phase.thinking = none ∧ x.phase.armed = true ∧ x.phase.mic = .off
  covers : x.phase.child = true → x.phase.resolved = false → x.phase.covers = true
  ended : x.phase.ended = true → x.phase.thinking.isSome ∧ x.phase.mic = .off
  muting : x.phase.muting = true → x.phase.mic = .off
  analysed : x.phase.analysed = true → x.phase.imageless = false

/-- A called flow is proper. -/
lemma Proper.start (n : ℕ) (flow : Flow) : Proper ⟨n, flow, none, start n flow⟩ where
  root := rfl
  thinking := rfl
  utterance := rfl
  greeting := rfl
  capture := rfl
  imageless := rfl
  settled _ hop := by simp at hop
  mic _ hop := by simp at hop
  requesting _ hop := by simp at hop
  speech _ _ hop := by simp at hop
  greets _ hop := by simp at hop
  waits _ hop := by simp at hop
  silent _ := rfl
  voiced hmic := absurd rfl hmic
  announces _ _ _ hreq := by simp [VoiceBot.start] at hreq
  child hchild := by simp [VoiceBot.start] at hchild
  covers hchild := by simp [VoiceBot.start] at hchild
  ended hended := by simp [VoiceBot.start] at hended
  muting _ := rfl
  analysed hana := by simp [VoiceBot.start] at hana

section Single

variable {i : ℕ} {flow : Flow} {φ φ' : Phase} {s : RoomState}

/-- Switching the microphone off. -/
lemma Proper.micOff (h : Proper ⟨i, flow, none, φ⟩) :
    Proper ⟨i, flow, none, { φ with mic := .off }⟩ :=
  { h with
    settled := fun _ hop => by simp at hop
    mic := fun _ hop => by simp at hop
    voiced := fun hmic => absurd rfl hmic
    child := fun hchild => ⟨(h.child hchild).1, (h.child hchild).2.1, rfl⟩
    ended := fun hended => ⟨(h.ended hended).1, rfl⟩
    muting := fun _ => rfl }

/-- An action keeps a phase proper.

**Proof sketch.** By the action; most leave the fields alone that `Proper` speaks about. -/
lemma Proper.act {a : Act} (h : Proper ⟨i, flow, none, φ⟩) (hmove : Move a φ s φ') :
    Proper ⟨i, flow, none, φ'⟩ := by
  have idle : ∀ {p : Op → Prop} op, (none : Option Op) = some op → p op :=
    fun op hop => by simp at hop
  cases a with
  | setModes modes | setParticipants participants | setScreenShare on | setGreetingDone
  | setActiveUserId user | setConversationHistory turns =>
    obtain rfl := hmove
    exact h
  | setVisionMode on =>
    cases on with
    | true => obtain rfl := hmove; exact h
    | false => obtain ⟨-, rfl⟩ := hmove; exact { h with settled := idle }
  | setPendingVisionRequest request =>
    cases request with
    | none => obtain rfl := hmove; exact h
    | some request => obtain ⟨-, rfl⟩ := hmove; exact h
  | setAiMuted muted =>
    obtain ⟨hmic, rfl⟩ := hmove
    exact { h with settled := idle, muting := fun _ => hmic }
  | setShouldInterrupt on =>
    cases on with
    | true =>
      obtain rfl := hmove
      exact { h with settled := idle, muting := fun hm => Bool.noConfusion hm }
    | false =>
      cases hmic : φ.mic with
      | off => obtain rfl : φ' = φ := by simpa [Move, hmic] using hmove
               exact h
      | onAir =>
        obtain rfl : φ' = { φ with mic := .off } := by simpa [Move, hmic] using hmove
        exact h.micOff
      | synthesizing =>
        obtain ⟨-, rfl⟩ : _ ∧ φ' = { φ with mic := .onAir } := by simpa [Move, hmic] using hmove
        have hchild : φ.child = true → False := fun hc => by simpa [hmic] using (h.child hc).2.2
        have hended : φ.ended = true → False := fun he => by simpa [hmic] using (h.ended he).2
        have hmuting : φ.muting = true → False := fun hm => by simpa [hmic] using h.muting hm
        exact { h with
          settled := idle
          mic := idle
          voiced := fun _ => h.voiced (by simp [hmic])
          child := fun hc => (hchild hc).elim
          ended := fun he => (hended he).elim
          muting := fun hm => (hmuting hm).elim }
  | setBotState state =>
    cases state with
    | speaking => obtain ⟨-, rfl⟩ := hmove; exact { h with settled := idle }
    | sleep | armed =>
      obtain ⟨hjoin, rfl⟩ := hmove
      exact { h with
        settled := idle
        covers := fun hc hr => Bool.noConfusion ((hjoin hc).symm.trans hr) }
  | setPublishing on =>
    cases on with
    | true =>
      rcases hmove with rfl | ⟨-, -, rfl⟩
      · exact { h with settled := idle }
      · exact { h with settled := idle }
    | false => obtain rfl := hmove; exact { h with settled := idle }
  | setCurrentRequestId claim =>
    obtain ⟨-, hplain, hgreeting, -, -, hchild, -, rfl⟩ := hmove
    exact { h with
      settled := idle
      speech := fun _ _ hop => by simp at hop
      silent := fun hg => Bool.noConfusion (hgreeting.symm.trans hg)
      voiced := fun _ => .inr rfl
      announces := fun t _ ht => absurd (hplain.symm.trans ht) (by simp) }
  | touch stamp =>
    rcases hmove with rfl | rfl
    · exact h
    · exact h.micOff
  | setProcessingLock on =>
    cases on with
    | true => obtain ⟨-, -, -, -, rfl⟩ := hmove; exact { h with settled := idle }
    | false => obtain ⟨-, -, rfl⟩ := hmove; exact { h with settled := idle }
  | captureFrame voice frame =>
    obtain ⟨-, -, -, rfl | rfl⟩ := hmove
    · exact h
    · exact h.micOff
  | requestCapture requestId =>
    obtain ⟨-, -, -, rfl⟩ := hmove
    exact { h with settled := idle, requesting := idle }
  | analyze requestId =>
    obtain ⟨-, himage, -, -, rfl⟩ := hmove
    exact { h with settled := idle, analysed := fun _ => himage }
  | resolveLlm task =>
    obtain ⟨-, -, rfl⟩ := hmove
    exact { h with settled := idle, covers := fun _ hr => Bool.noConfusion hr }
  | speakThinking task =>
    obtain ⟨t, ht, -, -, -, -, hmic, -, -, -, rfl⟩ := hmove
    have hflow : flow.announcement = some t := h.thinking.symm.trans ht
    have hgreeting : φ.greeting = false := by
      rw [h.greeting]
      cases flow <;> simp_all [Flow.announcement, Flow.isGreeting]
    exact { h with
      settled := idle
      speech := fun _ _ hop => by simp at hop
      silent := fun hg => Bool.noConfusion (hgreeting.symm.trans hg)
      voiced := fun _ => .inr rfl
      announces := fun t' r ht' hr => by
        obtain rfl : t = t' := Option.some.inj (ht.symm.trans ht')
        exact (Option.some.inj hr).symm }
  | armThinking t =>
    obtain ⟨hplain, -, -, hmic, -, rfl⟩ := hmove
    exact { h with
      settled := idle
      child := fun _ => ⟨hplain, rfl, hmic⟩
      covers := fun _ _ => rfl }
  | fireThinking t => obtain ⟨-, -, -, rfl⟩ := hmove; exact { h with settled := idle }
  | endThinking task result =>
    obtain ⟨hsome, -, -, -, -, -, rfl⟩ := hmove
    exact { h.micOff with settled := idle, ended := fun _ => ⟨hsome, rfl⟩ }
  | logError site =>
    simp only [Move] at hmove
    split at hmove
    · obtain ⟨-, rfl⟩ := hmove
      exact { h with settled := idle }
    · obtain rfl := hmove
      exact h

/-- A task that waits is proper.

**Proof sketch.** What a task may wait for in its phase says which voice it has: the request of an
answer, the greeting, or the task that it announces for. Each field follows from this for the
operations that it speaks of, and is void for the others. -/
lemma Proper.wait {op : Op} (h : Proper ⟨i, flow, none, φ⟩) (hwait : Wait op φ s φ') :
    Proper ⟨i, flow, some op, φ'⟩ := by
  obtain ⟨hset, hok, rfl⟩ := hwait
  have hchild : φ.child = true → micOf op = .off := by
    intro hc
    have hmic := (h.child hc).2.2
    cases op with
    | synthesizePcm voice text => exact Bool.noConfusion (hok.2.1.symm.trans hc)
    | announce requestId text => exact absurd (hmic.symm.trans hok.2) (by simp)
    | frameTimer voice => exact absurd (hmic.symm.trans hok.2) (by simp)
    | _ => rfl
  exact { h with
    settled := fun _ _ => hset
    mic := fun o ho => by
      obtain rfl := Option.some.inj ho
      rfl
    requesting := fun _ _ => rfl
    speech := fun o r ho hr => by
      obtain rfl := Option.some.inj ho
      cases op with
      | synthesizePcm voice text => cases voice <;> simp_all [Op.speech, WaitOk, Phase.Plays, park]
      | announce requestId text => simp_all [Op.speech, WaitOk, park]
      | frameTimer voice => cases voice <;> simp_all [Op.speech, WaitOk, Phase.Plays, park]
      | _ => simp [Op.speech] at hr
    greets := fun o ho hg => by
      obtain rfl := Option.some.inj ho
      cases op with
      | synthesizePcm voice text =>
        cases voice <;> simp_all [Op.isGreeting, WaitOk, Phase.Plays, park]
      | frameTimer voice => cases voice <;> simp_all [Op.isGreeting, WaitOk, Phase.Plays, park]
      | _ => simp [Op.isGreeting] at hg
    waits := fun task ho => by
      obtain rfl := Option.some.inj ho
      exact ⟨hok.1, hok.2.1⟩
    voiced := fun hmic => by
      have hplays : ∀ voice, φ.Plays voice → φ.greeting = true ∨ φ.request.isSome := by
        intro voice hv
        cases voice with
        | answer requestId => exact .inr (by simp [show φ.request = some requestId from hv])
        | greeting => exact .inl hv
      cases op with
      | synthesizePcm voice text => exact hplays voice hok.1
      | announce requestId text => exact hplays (.answer requestId) hok.1
      | frameTimer voice => exact hplays voice hok.1
      | _ => exact absurd rfl hmic
    child := fun hc => ⟨(h.child hc).1, (h.child hc).2.1, hchild hc⟩
    ended := fun he =>
      Bool.noConfusion (he.symm.trans (hset.thinking (h.ended he).1).2.1)
    muting := fun hm => Bool.noConfusion (hset.muting.symm.trans hm) }

/-- What the end of an awaited call can do to a phase. -/
lemma resume_cases (op : Op) (reply : Except String op.Reply) (φ : Phase) :
    resume op reply φ = φ ∨
    (resume op reply φ = { φ with mic := .onAir } ∧ ∃ text, op = .synthesizePcm .greeting text) ∨
    resume op reply φ = { φ with mic := .off } ∨
    ∃ task, op = .thinkingTask task ∧
      (resume op reply φ = { φ with child := false } ∨
        resume op reply φ = { φ with child := false, covers := false }) := by
  cases op with
  | synthesizePcm voice text => cases voice <;> cases reply <;> simp [resume]
  | announce requestId text => cases reply <;> simp [resume]
  | frameTimer voice => cases reply <;> simp [resume]
  | thinkingTask task => cases reply <;> simp [resume]
  | _ => exact .inl rfl

/-- A task that goes on is proper.

**Proof sketch.** A task that goes on waits for nothing, so the fields about waiting are void. Its
phase is the same, goes on the air after the first frame, leaves the air, or drops the child it has
joined. -/
lemma Proper.resume {op : Op} (reply : Except String op.Reply)
    (h : Proper ⟨i, flow, some op, φ⟩) : Proper ⟨i, flow, none, resume op reply φ⟩ := by
  have idle : ∀ {p : Op → Prop} op, (none : Option Op) = some op → p op :=
    fun op hop => by simp at hop
  have hnone : Proper ⟨i, flow, none, φ⟩ :=
    { h with
      settled := idle
      mic := idle
      requesting := idle
      speech := fun _ _ hop => by simp at hop
      greets := fun _ hop => by simp at hop
      waits := fun _ hop => by simp at hop }
  rcases resume_cases op reply φ with hr | ⟨hr, text, hop⟩ | hr | ⟨task, -, hr | hr⟩
  · rw [hr]
    exact hnone
  · have hmic : φ.mic = micOf op := h.mic op rfl
    have hchild : φ.child = true → False := fun hc => by
      simpa [hop, micOf] using hmic.symm.trans (h.child hc).2.2
    have hended : φ.ended = true → False := fun he => by
      simpa [hop, micOf] using hmic.symm.trans (h.ended he).2
    rw [hr]
    exact { hnone with
      settled := idle
      mic := idle
      voiced := fun _ => h.voiced (by simp [hmic, hop, micOf])
      child := fun hc => (hchild hc).elim
      ended := fun he => (hended he).elim
      muting := fun hm => Bool.noConfusion ((h.settled op rfl).muting.symm.trans hm) }
  · rw [hr]
    exact hnone.micOff
  · rw [hr]
    exact { hnone with
      settled := idle
      child := fun hc => Bool.noConfusion hc
      covers := fun hc => Bool.noConfusion hc }
  · rw [hr]
    exact { hnone with
      settled := idle
      child := fun hc => Bool.noConfusion hc
      covers := fun hc => Bool.noConfusion hc }

end Single

/-- The invariant that every phase is proper. -/
def AllProper : ℕ → RoomState → Set RoomMember → Prop := fun _ _ L => ∀ x ∈ L, Proper x

/-- A task that is no announcement speaks for itself. -/
lemma Proper.root_eq {x : RoomMember} (h : Proper x) (hplain : x.phase.thinking = none) :
    x.phase.root = x.id := by
  have hflow : x.flow.announcement = none := h.thinking.symm.trans hplain
  rw [h.root]
  cases hx : x.flow <;> first | rfl | simp [hx, Flow.announcement] at hflow

/-- An announcement speaks for its parent. -/
lemma Proper.root_parent {x : RoomMember} {t : Thinking} (h : Proper x)
    (ht : x.phase.thinking = some t) : x.phase.root = t.parent := by
  have hflow : x.flow.announcement = some t := h.thinking.symm.trans ht
  rw [h.root]
  cases hx : x.flow <;> simp_all [Flow.announcement, Flow.root]

/-- Phases stay proper. -/
theorem proper_certificate (env : Env) :
    (protocol env).Certificate (freely env) Discipline.anything AllProper :=
  Discipline.Certificate.of_forall Proper.start (fun _ _ _ _ reply h => h.resume reply)
    (fun _ _ _ _ _ _ hmove h => h.act hmove) fun _ _ _ _ _ _ hwait h => h.wait hwait

/-! ## Announcements and request ids -/

/-- The part of a task that concerns request ids and announcements. -/
structure Kin where
  id : ℕ
  thinking : Option Thinking
  fired : Bool
  ended : Bool
  request : Option ℕ
  armed : Bool
  child : Bool
  resolved : Bool

/-- The task a kin speaks for. -/
def Kin.root (k : Kin) : ℕ :=
  match k.thinking with
  | none => k.id
  | some t => t.parent

/-- The task makes the announcement. -/
def Kin.Carries (k : Kin) (t : Thinking) : Prop := k.thinking = some t ∧ k.ended = false

/-- The part of the context that concerns request ids and announcements. -/
structure Lineage where
  claims : List Claim
  timers : List Thinking
  ended : List (ℕ × Except String Unit)
  resolved : List ℕ
  spoken : List ℕ

/-- The request ids and announcements of a context. -/
def RoomState.lineage (s : RoomState) : Lineage :=
  ⟨s.claims, s.thinkingTimers, s.thinkingEnded, s.llmResolved, s.thinkingSpoken⟩

/-- The announcement is still to come, or is being made. -/
def Pending (l : Lineage) (K : Set Kin) (t : Thinking) : Prop :=
  t ∈ l.timers ∨ ∃ k ∈ K, k.Carries t

/-- How request ids, calls of `processAndRespond` and their announcements hang together. -/
structure Family (n : ℕ) (l : Lineage) (K : Set Kin) : Prop where
  unique : ∀ k ∈ K, ∀ k' ∈ K, k.id = k'.id → k = k'
  claims_lt : ∀ c ∈ l.claims, c.task < n
  claims_fun : ∀ c ∈ l.claims, ∀ c' ∈ l.claims, c.task = c'.task → c.requestId = c'.requestId
  /-- A request id has been taken by the task that is spoken for. -/
  request : ∀ k ∈ K, ∀ r, k.request = some r → ∃ site, ⟨k.root, r, site⟩ ∈ l.claims
  unclaimed : ∀ k ∈ K, k.thinking = none → k.request = none → ∀ c ∈ l.claims, c.task ≠ k.id
  parent_lt : ∀ t, Pending l K t → t.parent < n
  claimed : ∀ t, Pending l K t → ∃ site, ⟨t.parent, t.requestId, site⟩ ∈ l.claims
  /-- The parent of a pending announcement does not speak itself. -/
  parent : ∀ t, Pending l K t → ∀ k ∈ K, k.id = t.parent → k.thinking = none ∧ k.child = true
  /-- The parent is in progress until its LLM call has settled. -/
  alive : ∀ t, Pending l K t →
    t.parent ∈ l.resolved ∨ ∃ k ∈ K, k.id = t.parent ∧ k.request = some t.requestId
  one : ∀ t t', Pending l K t → Pending l K t' → t.parent = t'.parent → t = t'
  carrier : ∀ k ∈ K, ∀ k' ∈ K, ∀ t, k.Carries t → k'.Carries t → k = k'
  fired : ∀ k ∈ K, ∀ t, k.Carries t → (k.fired = true ↔ t ∉ l.timers)
  ended_lt : ∀ e ∈ l.ended, e.1 < n
  spoken_lt : ∀ i ∈ l.spoken, i < n
  ended : ∀ e ∈ l.ended, ∀ t, Pending l K t → t.parent ≠ e.1
  unarmed : ∀ k ∈ K, k.thinking = none → k.armed = false →
    (∀ t, Pending l K t → t.parent ≠ k.id) ∧ (∀ e ∈ l.ended, e.1 ≠ k.id) ∧ k.id ∉ l.spoken
  resolved : ∀ k ∈ K, k.thinking = none → k.resolved = true → k.id ∈ l.resolved
  spoken : ∀ i ∈ l.spoken, (∃ e ∈ l.ended, e.1 = i) ∨
    ∃ k ∈ K, ∃ t, k.Carries t ∧ t.parent = i ∧ k.request ≠ none

namespace Family

variable {n : ℕ} {l : Lineage} {K : Set Kin} {k : Kin}

/-- Another version of one of the tasks. -/
lemma exists_insert {P : Kin → Prop} {k k' : Kin} (h : ∃ x ∈ insert k K, P x) (hk : P k → P k') :
    ∃ x ∈ insert k' K, P x := by
  obtain ⟨x, rfl | hx, hP⟩ := h
  · exact ⟨k', .inl rfl, hk hP⟩
  · exact ⟨x, .inr hx, hP⟩

/-- A flow that is not an announcement is called: it is not known anywhere. -/
lemma call_plain (h : Family n l K) (hlt : ∀ x ∈ K, x.id < n) :
    Family (n + 1) l (insert ⟨n, none, false, false, none, false, false, false⟩ K) := by
  have hpending : ∀ t, Pending l (insert ⟨n, none, false, false, none, false, false, false⟩ K) t →
      Pending l K t := by
    rintro t (ht | ⟨x, rfl | hx, ht⟩)
    · exact .inl ht
    · exact absurd ht.1 (by simp)
    · exact .inr ⟨x, hx, ht⟩
  constructor
  -- numbers of tasks are only compared, so the algebra of `grind` stays out
  all_goals grind -ring -linarith -order [Family, Pending, Kin.Carries, Kin.root]

/-- An announcement whose timer has ended is called: it was pending, and nobody makes it yet. -/
lemma call_thinking (h : Family n l K) (hlt : ∀ x ∈ K, x.id < n) {t : Thinking} (ht : t ∈ l.timers)
    (hfired : ∀ x ∈ K, ∀ u, x.Carries u → x.fired = true) :
    Family (n + 1) l (insert ⟨n, some t, false, false, none, false, false, false⟩ K) := by
  have hfree : ∀ x ∈ K, ¬ x.Carries t := fun x hx hc =>
    (h.fired x hx t hc).mp (hfired x hx t hc) ht
  have hpending : ∀ u, Pending l (insert ⟨n, some t, false, false, none, false, false, false⟩ K) u →
      Pending l K u := by
    rintro u (hu | ⟨x, rfl | hx, hu⟩)
    · exact .inl hu
    · exact .inl (Option.some.inj hu.1 ▸ ht)
    · exact .inr ⟨x, hx, hu⟩
  constructor
  all_goals grind -ring -linarith -order [Family, Pending, Kin.Carries, Kin.root]

section Steps

variable (h : Family n l (insert k K)) (hne : ∀ x ∈ K, x.id ≠ k.id)

include h

/-- A task that has ended and left no announcement to itself is forgotten. -/
lemma exit (hended : k.thinking.isSome → k.ended = true)
    (hchild : k.child = true → k.resolved = true) : Family n l K := by
  have hpending : ∀ t, Pending l K t → Pending l (insert k K) t := by
    rintro t (ht | ⟨x, hx, ht⟩)
    · exact .inl ht
    · exact .inr ⟨x, .inr hx, ht⟩
  constructor
  all_goals grind -ring -linarith -order [Family, Pending, Kin.Carries, Kin.root]

include hne

/-- A request id is taken. -/
lemma claim (hlt : k.id < n) (hplain : k.thinking = none) (hreq : k.request = none)
    (hchild : k.child = false) (r : ℕ) (site : Site) :
    Family n { l with claims := l.claims ++ [⟨k.id, r, site⟩] }
      (insert { k with request := some r } K) := by
  have hfresh : ∀ c ∈ l.claims, c.task ≠ k.id := h.unclaimed k (.inl rfl) hplain hreq
  constructor
  all_goals grind -ring -linarith -order [Family, Pending, Kin.Carries, Kin.root]

/-- The LLM call of a task settles. -/
lemma resolve (hplain : k.thinking = none) :
    Family n { l with resolved := k.id :: l.resolved } (insert { k with resolved := true } K) := by
  constructor
  all_goals grind -ring -linarith -order [Family, Pending, Kin.Carries, Kin.root]

/-- A task starts an announcement: it had none before. -/
lemma arm (hlt : k.id < n) {t : Thinking} (hplain : k.thinking = none) (hparent : t.parent = k.id)
    (hreq : k.request = some t.requestId) (harmed : k.armed = false) :
    Family n { l with timers := t :: l.timers }
      (insert { k with armed := true, child := true } K) := by
  obtain ⟨hnone, hend, -⟩ := h.unarmed k (.inl rfl) hplain harmed
  constructor
  case alive =>
    rintro u (hu | ⟨x, hx, hu⟩)
    · rcases List.mem_cons.mp hu with rfl | hu
      · exact .inr ⟨_, .inl rfl, hparent.symm, hreq⟩
      · rcases h.alive u (.inl hu) with ha | ha
        · exact .inl ha
        · exact .inr (exists_insert ha fun hk => hk)
    · rcases h.alive u (.inr (exists_insert ⟨x, hx, hu⟩ fun hk => hk)) with ha | ha
      · exact .inl ha
      · exact .inr (exists_insert ha fun hk => hk)
  all_goals grind -ring -linarith -order [Family, Pending, Kin.Carries, Kin.root]

/-- The timer of an announcement is taken out by the task that makes it. -/
lemma fire {t : Thinking} (ht : k.Carries t) :
    Family n { l with timers := l.timers.filter fun u => u ≠ t }
      (insert { k with fired := true } K) := by
  constructor
  case spoken =>
    intro i hi
    rcases h.spoken i hi with hs | hs
    · exact .inl hs
    · exact .inr (exists_insert hs fun hk => hk)
  all_goals grind -ring -linarith -order [Family, Pending, Kin.Carries, Kin.root]

/-- An announcement is spoken. -/
lemma speak {t : Thinking} (ht : k.Carries t) :
    Family n { l with spoken := t.parent :: l.spoken }
      (insert { k with request := some t.requestId } K) := by
  constructor
  case spoken =>
    intro i hi
    rcases List.mem_cons.mp hi with rfl | hi
    · exact .inr ⟨_, .inl rfl, t, ht, rfl, by simp⟩
    · refine (h.spoken i hi).imp id fun hs => exists_insert hs ?_
      exact fun hs => hs.imp fun u hu => ⟨hu.1, hu.2.1, by simp⟩
  all_goals grind -ring -linarith -order [Family, Pending, Kin.Carries, Kin.root]

/-- An announcement has ended. -/
lemma finish {t : Thinking} (ht : k.Carries t) (hfired : k.fired = true)
    (res : Except String Unit) :
    Family n { l with ended := (t.parent, res) :: l.ended }
      (insert { k with ended := true } K) := by
  have hout : t ∉ l.timers := (h.fired k (.inl rfl) t ht).mp hfired
  constructor
  case spoken =>
    intro i hi
    rcases h.spoken i hi with ⟨e, he, hei⟩ | ⟨x, rfl | hx, u, hu, hui, hreq⟩
    · exact .inl ⟨e, List.mem_cons_of_mem _ he, hei⟩
    · obtain rfl : t = u := Option.some.inj (ht.1.symm.trans hu.1)
      exact .inl ⟨_, List.mem_cons_self, hui⟩
    · exact .inr ⟨x, .inr hx, u, hu, hui, hreq⟩
  all_goals grind -ring -linarith -order [Family, Pending, Kin.Carries, Kin.root]

/-- The parent goes on after its announcement. -/
lemma join (hended : ∃ e ∈ l.ended, e.1 = k.id) :
    Family n l (insert { k with child := false } K) := by
  have hdone : ∀ t, Pending l (insert k K) t → t.parent ≠ k.id := by
    obtain ⟨e, he, hid⟩ := hended
    exact fun t ht => hid ▸ h.ended e he t ht
  constructor
  case spoken =>
    intro i hi
    rcases h.spoken i hi with hs | hs
    · exact .inl hs
    · exact .inr (exists_insert hs fun hk => hk)
  all_goals grind -ring -linarith -order [Family, Pending, Kin.Carries, Kin.root]

end Steps

end Family

/-- A task without the fields that do not concern request ids and announcements. -/
def kin (x : RoomMember) : Kin :=
  ⟨x.id, x.phase.thinking, x.phase.fired, x.phase.ended, x.phase.request, x.phase.armed,
    x.phase.child, x.phase.resolved⟩

/-- The family of the tasks of a room. -/
def HasFamily : ℕ → RoomState → Set RoomMember → Prop := fun n s L =>
  Family n s.lineage (kin '' L)

section Certificate

variable {n i : ℕ} {flow : Flow} {φ φ' : Phase} {s : RoomState} {O : Set RoomMember}
  {seats : List (Seat Op Flow)}

/-- The others are numbered apart from the running task. -/
lemma Crew.kin_ne (hc : Crew n i O seats) : ∀ k ∈ kin '' O, k.id ≠ i := by
  rintro k ⟨x, hx, rfl⟩
  exact hc.ne x hx

/-- The actions that concern request ids and announcements. -/
def Act.concernsKin : Act → Bool
  | .setCurrentRequestId _ | .resolveLlm _ | .speakThinking _ | .armThinking _ | .fireThinking _
  | .endThinking _ _ => true
  | _ => false

/-- The other actions change neither the kin of the task nor the lineage. -/
lemma Move.kin_eq {a : Act} (hmove : Move a φ s φ') (ha : a.concernsKin = false) :
    kin ⟨i, flow, none, φ'⟩ = kin ⟨i, flow, none, φ⟩ ∧ (a.apply s).lineage = s.lineage := by
  have hout := hmove.outcome
  refine ⟨?_, ?_⟩
  · cases a with
    | setVisionMode on => cases on <;> simp_all [Act.outcomes, kin]
    | setShouldInterrupt on =>
      cases on with
      | true => simp_all [Act.outcomes, kin]
      | false =>
        simp only [Act.outcomes, List.mem_cons, List.not_mem_nil, or_false] at hout
        rcases hout with rfl | rfl | rfl <;> rfl
    | setBotState state => cases state <;> simp_all [Act.outcomes, kin]
    | setPublishing on =>
      cases on with
      | true => rcases List.mem_pair.mp hout with rfl | rfl <;> rfl
      | false => simp_all [Act.outcomes, kin]
    | touch stamp | captureFrame voice frame | logError site =>
      rcases List.mem_pair.mp hout with rfl | rfl <;> rfl
    | setCurrentRequestId claim | resolveLlm task | speakThinking task | armThinking t
    | fireThinking t | endThinking task result => simp [Act.concernsKin] at ha
    | _ => simp_all [Act.outcomes, kin]
  · cases a with
    | touch stamp => cases stamp <;> rfl
    | setCurrentRequestId claim | resolveLlm task | speakThinking task | armThinking t
    | fireThinking t | endThinking task result => simp [Act.concernsKin] at ha
    | _ => rfl

/-- An action keeps the family.

**Proof sketch.** Each of the six actions that concern request ids and announcements is one of the
steps of `Family`. The others change neither the kin of the task nor the lineage. -/
lemma HasFamily.act {a : Act} (hc : Crew n i O seats) (hmove : Move a φ s φ')
    (hproper : AllProper n s (insert ⟨i, flow, none, φ⟩ O))
    (h : HasFamily n s (insert ⟨i, flow, none, φ⟩ O)) :
    HasFamily n (a.apply s) (insert ⟨i, flow, none, φ'⟩ O) := by
  have hown : Proper ⟨i, flow, none, φ⟩ := hproper _ (Set.mem_insert _ _)
  have hroot : φ.thinking = none → φ.root = i := hown.root_eq
  have hne := Crew.kin_ne hc
  rw [HasFamily, Set.image_insert_eq] at h ⊢
  cases ha : a.concernsKin with
  | false =>
    obtain ⟨hkin, hlineage⟩ := hmove.kin_eq ha
    rw [hkin, hlineage]
    exact h
  | true =>
    cases a with
    | setCurrentRequestId claim =>
      obtain ⟨htask, hplain, -, hreq, -, hchild, -, rfl⟩ := hmove
      obtain ⟨task, requestId, site⟩ := claim
      obtain rfl : task = i := htask.trans (hroot hplain)
      exact h.claim hne hc.bound hplain hreq hchild requestId site
    | resolveLlm task =>
      obtain ⟨htask, hplain, rfl⟩ := hmove
      obtain rfl : task = i := htask.trans (hroot hplain)
      exact h.resolve hne hplain
    | speakThinking task =>
      obtain ⟨t, ht, rfl, -, hended, -, -, -, -, -, rfl⟩ := hmove
      exact h.speak hne ⟨ht, hended⟩
    | armThinking t =>
      obtain ⟨hplain, hparent, hreq, -, harmed, rfl⟩ := hmove
      exact h.arm hne hc.bound hplain (hparent.trans (hroot hplain)) hreq harmed
    | fireThinking t =>
      obtain ⟨ht, -, hended, rfl⟩ := hmove
      exact h.fire hne ⟨ht, hended⟩
    | endThinking task result =>
      obtain ⟨hsome, htask, hfired, hended, -, -, rfl⟩ := hmove
      obtain ⟨t, ht⟩ := Option.isSome_iff_exists.mp hsome
      obtain rfl : task = t.parent := htask.trans (hown.root_parent ht)
      exact h.finish hne ⟨ht, hended⟩ hfired result
    | _ => simp [Act.concernsKin] at ha

/-- A called flow joins the family. -/
lemma HasFamily.call (hc : Crew (n + 1) n O seats) (hcall : callable s flow = true)
    (hproper : AllProper n s O) (h : HasFamily n s O) :
    HasFamily (n + 1) s (insert ⟨n, flow, none, start n flow⟩ O) := by
  have hlt : ∀ k ∈ kin '' O, k.id < n := by
    rintro k ⟨x, hx, rfl⟩
    exact Nat.lt_of_le_of_ne (Nat.le_of_lt_succ (hc.lt x hx)) (hc.ne x hx)
  rw [HasFamily, Set.image_insert_eq]
  cases flow with
  | thinking t =>
    refine h.call_thinking hlt (by simpa [callable, RoomState.lineage] using hcall) ?_
    rintro k ⟨x, hx, rfl⟩ u hu
    obtain ⟨op, hop, -⟩ := hc.seated x hx
    have hsome : x.phase.thinking = some u := hu.1
    exact (((hproper x hx).settled op hop).thinking (by simp [hsome])).1
  | _ => exact h.call_plain hlt

/-- A task that goes on keeps the family: `processAndRespond` goes on when its announcement has
ended. -/
lemma HasFamily.resume {op : Op} {reply : Except String op.Reply} (hc : Crew n i O seats)
    (hready : ready s op reply = true)
    (hproper : AllProper n s (insert ⟨i, flow, some op, φ⟩ O))
    (h : HasFamily n s (insert ⟨i, flow, some op, φ⟩ O)) :
    HasFamily n s (insert ⟨i, flow, none, resume op reply φ⟩ O) := by
  have hown : Proper ⟨i, flow, some op, φ⟩ := hproper _ (Set.mem_insert _ _)
  have hne := Crew.kin_ne hc
  rw [HasFamily, Set.image_insert_eq] at h ⊢
  rcases resume_cases op reply φ with hr | ⟨hr, -⟩ | hr | ⟨task, rfl, hr⟩
  · rw [hr]
    exact h
  · rw [hr]
    exact h
  · rw [hr]
    exact h
  · obtain ⟨htask, hplain⟩ := hown.waits task rfl
    have hid : task = i := htask.trans (hown.root_eq hplain)
    have hended : ∃ e ∈ s.lineage.ended, e.1 = i := by
      simp only [ready, List.any_eq_true, Bool.and_eq_true, decide_eq_true_eq] at hready
      obtain ⟨e, he, heq, -⟩ := hready
      exact ⟨e, he, heq.trans hid⟩
    rcases hr with hr | hr
    · rw [hr]
      exact h.join hne hended
    · rw [hr]
      exact h.join hne hended

/-- The family holds in every run. -/
theorem family_certificate (env : Env) :
    (protocol env).Certificate (freely env) AllProper HasFamily where
  tick _ _ h := h
  call hc hcall _ hproper h := h.call hc hcall hproper
  resume hc hready _ hproper h := h.resume hc hready hproper
  act hc hmove _ hproper h := h.act hc hmove hproper
  wait _ hwait _ h := by
    obtain ⟨-, -, rfl⟩ := hwait
    rw [HasFamily, Set.image_insert_eq] at h ⊢
    exact h
  exit hc hexit _ h := by
    rw [HasFamily, Set.image_insert_eq] at h
    exact h.exit (fun hsome => (hexit.thinking hsome).2) hexit.child

end Certificate

/-! ## Everything known of the tasks -/

/-- What is known of the tasks of a room in every run. -/
def Known : ℕ → RoomState → Set RoomMember → Prop := fun n s L =>
  AllProper n s L ∧ HasFamily n s L

/-- Both invariants of the tasks hold in every run, for any flows. -/
theorem known_certificate (env : Env) :
    (protocol env).Certificate (freely env) Discipline.anything Known :=
  (proper_certificate env).both (family_certificate env) (fun _ _ _ h => h) (fun _ _ _ _ h => h)
    fun _ _ _ _ _ h => h

/-- At first there are no tasks. -/
lemma known_init : Known 0 RoomState.initial ∅ := by
  refine ⟨by simp [AllProper], ?_⟩
  rw [HasFamily, Set.image_empty]
  constructor
  all_goals simp [Pending, RoomState.lineage, RoomState.initial]

/-- Every step is free. -/
lemma freely_holds {env : Env} (pool : RoomPool) (e : RoomEvent) : (freely env).Holds pool e :=
  ⟨by cases e <;> simp [Guards.Begins, freely], fun _ _ _ _ => trivial⟩

/-- The tasks of a room are known in every reachable state. -/
theorem known_reachable {env : Env} {pool : RoomPool} (hr : (room env).Reachable pool) :
    (protocol env).Holds Known pool := by
  have hinit : (protocol env).Holds Known (room env).init := Discipline.init_holds known_init
  exact EventSystem.reachable_invariant hinit (fun pool e pool' hK hs =>
    (known_certificate env).step (protocol_sound env) hK (freely_holds pool e) hs) hr

namespace Known

variable {n : ℕ} {s : RoomState} {L : Set RoomMember} {x y : RoomMember}

/-- A task in `speakAndPublish` that is an announcement is still pending. -/
lemma pending (h : Known n s L) (hx : x ∈ L) {t : Thinking} (ht : x.phase.thinking = some t)
    (hmic : x.phase.mic ≠ .off) : (kin x).Carries t := by
  refine ⟨ht, ?_⟩
  cases hended : x.phase.ended with
  | false => exact hended
  | true => exact absurd ((h.1 x hx).ended hended).2 hmic

/-- A call of `processAndRespond` does not speak while its announcement does. -/
lemma parent_silent (h : Known n s L) (hx : x ∈ L) (hy : y ∈ L) (hplain : x.phase.thinking = none)
    {t : Thinking} (ht : (kin y).Carries t) (hroot : x.phase.root = y.phase.root) :
    x.phase.mic = .off := by
  have hid : x.id = t.parent := by
    rw [← (h.1 x hx).root_eq hplain, hroot, (h.1 y hy).root_parent ht.1]
  have hchild := (h.2.parent t (.inr ⟨kin y, ⟨y, hy, rfl⟩, ht⟩) (kin x) ⟨x, hx, rfl⟩ hid).2
  exact ((h.1 x hx).child hchild).2.2

/-- Of the tasks that speak for the same request only one is in `speakAndPublish`. -/
theorem speaks_alone (h : Known n s L) (hx : x ∈ L) (hy : y ∈ L)
    (hroot : x.phase.root = y.phase.root) (hmx : x.phase.mic ≠ .off) (hmy : y.phase.mic ≠ .off) :
    x.id = y.id := by
  cases htx : x.phase.thinking with
  | none =>
    cases hty : y.phase.thinking with
    | none => rw [← (h.1 x hx).root_eq htx, hroot, (h.1 y hy).root_eq hty]
    | some t => exact absurd (h.parent_silent hx hy htx (h.pending hy hty hmy) hroot) hmx
  | some t =>
    have hcx := h.pending hx htx hmx
    cases hty : y.phase.thinking with
    | none => exact absurd (h.parent_silent hy hx hty hcx hroot.symm) hmy
    | some u =>
      have hcy := h.pending hy hty hmy
      have hparent : t.parent = u.parent := by
        rw [← (h.1 x hx).root_parent htx, hroot, (h.1 y hy).root_parent hty]
      obtain rfl : t = u := h.2.one t u (.inr ⟨kin x, ⟨x, hx, rfl⟩, hcx⟩)
        (.inr ⟨kin y, ⟨y, hy, rfl⟩, hcy⟩) hparent
      exact congrArg Kin.id (h.2.carrier _ ⟨x, hx, rfl⟩ _ ⟨y, hy, rfl⟩ t hcx hcy)

/-- A request id has been taken by the task that is spoken for. -/
lemma claimed (h : Known n s L) (hx : x ∈ L) {r : ℕ} (hr : x.phase.request = some r) :
    ∃ site, ⟨x.phase.root, r, site⟩ ∈ s.claims := by
  obtain ⟨site, hsite⟩ := h.2.request (kin x) ⟨x, hx, rfl⟩ r hr
  refine ⟨site, ?_⟩
  cases ht : x.phase.thinking with
  | none =>
    rw [(h.1 x hx).root_eq ht]
    simpa [Kin.root, kin, ht, RoomState.lineage] using hsite
  | some t =>
    rw [(h.1 x hx).root_parent ht]
    simpa [Kin.root, kin, ht, RoomState.lineage] using hsite

/-- The parent of an announcement that may be spoken is in progress and has the request. -/
lemma parent_request {i : ℕ} {flow : Flow} {φ : Phase} {O : Set RoomMember}
    (hK : Known n s (insert ⟨i, flow, none, φ⟩ O)) {t : Thinking}
    (ht : φ.thinking = some t) (hended : φ.ended = false) (hopen : t.parent ∉ s.llmResolved) :
    ∃ y ∈ O, y.phase.root = φ.root ∧ y.phase.request = some t.requestId := by
  have hown : (⟨i, flow, none, φ⟩ : RoomMember) ∈ insert ⟨i, flow, none, φ⟩ O := Set.mem_insert _ _
  have hpending : Pending s.lineage (kin '' insert ⟨i, flow, none, φ⟩ O) t :=
    .inr ⟨_, ⟨_, hown, rfl⟩, ht, hended⟩
  rcases hK.2.alive t hpending with hres | ⟨k, ⟨y, hy, rfl⟩, hid, hy'⟩
  · exact absurd hres hopen
  · have hplain := (hK.2.parent t hpending (kin y) ⟨y, hy, rfl⟩ hid).1
    have hroot : y.phase.root = φ.root := by
      rw [(hK.1 y hy).root_eq hplain, (hK.1 _ hown).root_parent ht]
      exact hid
    rcases hy with rfl | hy
    · exact absurd (hplain.symm.trans ht) (by simp)
    · exact ⟨y, hy, hroot, hy'⟩

end Known

end VoiceBot
