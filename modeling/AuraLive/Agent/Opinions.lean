import AuraLive.Foundations.EventSystem
import AuraLive.Foundations.JsMap
import AuraLive.VoiceBot.State
import Mathlib.Data.List.Induction
import Mathlib.Data.Rat.Defs
import Mathlib.Data.Set.Basic

set_option relaxedAutoImplicit false
set_option autoImplicit false

/-!
# Opinions and their cooldown

`OpinionService` shares a verified evidence in a room if it fits the conversation, and not again for
five minutes. What was shared is recorded under the key `roomId:evidenceId`. `clearRoomHistory`
removes the keys that start with `roomId:`, so the rooms are told apart by the first colon in one
place and by the whole key in the other.

## Main definitions

* `Opinion.OpinionService`, `Event`, `system` — the service and the calls that are made.
* `Opinion.CooldownKept`, `NeverSuppressed`, `ClearsOneRoom` — the three parts of the property, for
  a run.
* `Opinion.Apart` — no room id is another one followed by a colon.

## Main results

* `Opinion.key_inj`, `startsWith_key` — keys and their prefixes tell rooms apart whose ids are
  apart.
* `Opinion.isolated_iff_apart` — all runs over some rooms have the property if and only if the ids
  of the rooms are apart.
* `Opinion.cleared_by_another_room` — the history of room `a:b` is removed with that of room `a`.

## Design

* **Repository.** What `findRelevantEvidence` finds comes with the call: any list of matches.
* **Clock.** A call reads the clock when it checks the cooldown and again when it records the
  opinion. No reading is before one that was made earlier.
-/

namespace Opinion

open Foundations VoiceBot

/-- `OPINION_COOLDOWN_MS`. -/
def OPINION_COOLDOWN_MS : ℕ := 5 * 60 * 1000

/-! ## Evidence -/

/-- `EvidenceSourceType`. An evidence that is added at run time may have another type. -/
inductive EvidenceSourceType where
  | official_announcement
  | large_survey
  | academic_paper
  | standard_organization
  | statistics_agency
  | other
  deriving DecidableEq

/-- The fields of a `VerifiedEvidence` that an opinion uses. -/
structure VerifiedEvidence where
  id : String
  topic : String
  fact : String
  sourceName : String
  sourceType : EvidenceSourceType
  participantCount : Option ℕ
  category : String
  deriving DecidableEq

/-- An `EvidenceMatchResult`. The confidence is a rounded number. -/
structure EvidenceMatchResult where
  evidence : VerifiedEvidence
  confidence : ℕ

/-- The fields of an `OpinionConfig` that the service reads. -/
structure OpinionConfig where
  minConfidenceThreshold : ℚ
  enabled : Bool

/-- `DEFAULT_OPINION_CONFIG`. -/
def DEFAULT_OPINION_CONFIG : OpinionConfig := ⟨95, true⟩

/-- An `OpinionResult`. -/
structure OpinionResult where
  shouldSpeak : Bool
  response : Option String
  evidence : Option VerifiedEvidence
  confidence : ℕ
  silenceReason : Option String

/-- The result of a call that stays silent. -/
def OpinionResult.silent (confidence : ℕ) (reason : String) : OpinionResult :=
  ⟨false, none, none, confidence, some reason⟩

/-! ## The text of an opinion -/

/-- How the language writes numbers: in a template literal, and with the grouping of the locale. -/
structure Numbers where
  text : ℚ → String
  toLocaleString : ℕ → String

/-- `formatParticipantCount`. -/
def formatParticipantCount (numbers : Numbers) (count : ℕ) : String :=
  if 100000 ≤ count then toString (count / 10000) ++ "만 명"
  else if 10000 ≤ count then numbers.toLocaleString (count / 1000) ++ "천 명"
  else numbers.toLocaleString count ++ "명"

/-- The words that name the source. -/
def sourcePhrase (numbers : Numbers) (evidence : VerifiedEvidence) : String :=
  match evidence.sourceType with
  | .large_survey =>
    if evidence.participantCount.getD 0 ≠ 0 then
      formatParticipantCount numbers (evidence.participantCount.getD 0) ++
        " 이상이 참여한 " ++ evidence.sourceName ++ "에 따르면 "
    else evidence.sourceName ++ " 통계를 보면 "
  | .official_announcement => evidence.sourceName ++ "에서 발표한 내용을 보면 "
  | .standard_organization => evidence.sourceName ++ " 권장사항을 참고하시면 "
  | .academic_paper => evidence.sourceName ++ " 연구 결과를 보면 "
  | .statistics_agency => evidence.sourceName ++ " 통계에 따르면, "
  | .other => evidence.sourceName ++ "에 따르면 "

/-- The phrases of `getClosingPhrase`. -/
def closingPhrases : List (String × String × String) :=
  [("security", "보안 관점에서 고려해보시는 건 어떨까요?", "이 방식도 검토해보시면 좋을 것 같습니다."),
    ("architecture", "아키텍처 설계 시 참고하시면 좋을 것 같아요.",
      "이런 접근 방식도 고려해보시는 건 어떨까요?"),
    ("development", "개발하실 때 참고하시면 도움이 될 것 같습니다.",
      "비슷한 사례에서 많이 사용하는 방식이에요."),
    ("database", "DB 선택하실 때 참고해보시면 좋겠습니다.",
      "최근 트렌드를 보면 이런 선택이 많더라고요."),
    ("infrastructure", "인프라 구성 시 고려해보시면 좋을 것 같아요.",
      "운영 환경에서 검증된 방식이라 참고하시면 좋겠습니다."),
    ("testing", "테스트 전략 수립 시 참고해보세요.", "품질 관리 측면에서 도움이 될 것 같습니다."),
    ("default", "참고하시면 도움이 될 것 같습니다.", "이런 방식도 고려해보시는 건 어떨까요?")]

/-- `getClosingPhrase`, with the random choice of one of two phrases. -/
def getClosingPhrase (category : String) (second : Bool) : String :=
  let phrases := match closingPhrases.find? (·.1 = category) with
    | some (_, phrases) => phrases
    | none => ("참고하시면 도움이 될 것 같습니다.", "이런 방식도 고려해보시는 건 어떨까요?")
  if second then phrases.2 else phrases.1

/-- The random choices in an opinion. -/
structure Choices where
  opener : Fin 3
  closer : Bool

/-- `generateOpinionResponse`. -/
def generateOpinionResponse (numbers : Numbers) (choices : Choices)
    (evidence : VerifiedEvidence) : String :=
  let opener := match choices.opener with
    | 0 => "현재 논의 중인 " ++ evidence.topic ++ "에 대해서 말씀드리자면,"
    | 1 => "지금 말씀하신 내용과 관련해서,"
    | 2 => "참고로 말씀드리면,"
  opener ++ " " ++ sourcePhrase numbers evidence ++ evidence.fact ++ "." ++ " " ++
    getClosingPhrase evidence.category choices.closer

/-! ## The service -/

/-- An entry of `recentOpinions`. -/
structure Record where
  evidenceId : String
  timestamp : ℕ

/-- The service, with the configuration of its repository and the last reading of the clock. -/
structure OpinionService where
  recentOpinions : JsMap String Record
  config : OpinionConfig
  now : ℕ

/-- A call of `analyzeAndRespond`, with what the repository finds and what is chosen at random. -/
structure Request where
  roomId : String
  conversationText : String
  /-- What `findRelevantEvidence` returns for the text. -/
  relevant : List EvidenceMatchResult
  choices : Choices

/-- What can happen. -/
inductive Event where
  /-- The clock is read at `now` for the cooldown, and at `later` for the record. -/
  | analyzeAndRespond (request : Request) (now later : ℕ)
  | clearRoomHistory (roomId : String)
  | setEnabled (enabled : Bool)
  | setConfidenceThreshold (threshold : ℚ)

/-- The key of an opinion. -/
def key (roomId evidenceId : String) : String := roomId ++ ":" ++ evidenceId

/-- `s.startsWith(p)`. -/
def startsWith (s p : String) : Bool := p.toList.isPrefixOf s.toList

namespace OpinionService

/-- `isOnCooldown`. -/
def isOnCooldown (s : OpinionService) (roomId evidenceId : String) (now : ℕ) : Bool :=
  match s.recentOpinions.get (key roomId evidenceId) with
  | none => false
  | some recent => now - recent.timestamp < OPINION_COOLDOWN_MS

/-- `cleanupOldRecords`. -/
def cleanupOldRecords (s : OpinionService) (now : ℕ) : OpinionService :=
  { s with recentOpinions := s.recentOpinions.restrict fun k =>
      !(s.recentOpinions.get k).any fun record =>
        OPINION_COOLDOWN_MS * 2 < now - record.timestamp }

/-- `registerOpinion`. -/
def registerOpinion (s : OpinionService) (roomId evidenceId : String) (now : ℕ) : OpinionService :=
  { s with recentOpinions := s.recentOpinions.set (key roomId evidenceId) ⟨evidenceId, now⟩ }
    |>.cleanupOldRecords now

/-- The match that `analyzeAndRespond` shares, or the result with which it stays silent. -/
def chosen (numbers : Numbers) (s : OpinionService) (request : Request) (now : ℕ) :
    Except OpinionResult EvidenceMatchResult :=
  if !s.config.enabled then .error (.silent 0 "Opinion feature is disabled")
  else if jsLength (jsTrim request.conversationText) < 10 then
    .error (.silent 0 "Conversation text too short")
  else
    match request.relevant with
    | [] => .error (.silent 0 "No relevant evidence found")
    | bestMatch :: _ =>
      if (bestMatch.confidence : ℚ) < s.config.minConfidenceThreshold then
        .error (.silent bestMatch.confidence ("Confidence " ++ toString bestMatch.confidence ++
          "% below threshold " ++ numbers.text s.config.minConfidenceThreshold ++ "%"))
      else if s.isOnCooldown request.roomId bestMatch.evidence.id now then
        .error (.silent bestMatch.confidence "Same evidence recently shared in this room")
      else .ok bestMatch

/-- `analyzeAndRespond`: the service after the call, and the result. -/
def analyzeAndRespond (numbers : Numbers) (s : OpinionService) (request : Request)
    (now later : ℕ) : OpinionService × OpinionResult :=
  match s.chosen numbers request now with
  | .error result => (s, result)
  | .ok bestMatch =>
    (s.registerOpinion request.roomId bestMatch.evidence.id later,
      ⟨true, some (generateOpinionResponse numbers request.choices bestMatch.evidence),
        some bestMatch.evidence, bestMatch.confidence, none⟩)

/-- `clearRoomHistory`. -/
def clearRoomHistory (s : OpinionService) (roomId : String) : OpinionService :=
  { s with recentOpinions :=
      s.recentOpinions.restrict fun k => !startsWith k (roomId ++ ":") }

/-- `setConfidenceThreshold`, which throws for a number that is no percentage. -/
def setConfidenceThreshold (s : OpinionService) (threshold : ℚ) : OpinionService :=
  if threshold < 0 ∨ 100 < threshold then s
  else { s with config := { s.config with minConfidenceThreshold := threshold } }

end OpinionService

section System

variable (numbers : Numbers)

/-- The service over time. -/
def system : EventSystem OpinionService Event where
  init := ⟨∅, DEFAULT_OPINION_CONFIG, 0⟩
  step s
    | .analyzeAndRespond request now later =>
      if s.now ≤ now ∧ now ≤ later then
        some { (s.analyzeAndRespond numbers request now later).1 with now := later }
      else none
    | .clearRoomHistory roomId => some (s.clearRoomHistory roomId)
    | .setEnabled enabled => some { s with config := { s.config with enabled := enabled } }
    | .setConfidenceThreshold threshold => some (s.setConfidenceThreshold threshold)

/-! ## The property -/

/-- In the state, the event is a call for the room that shares the evidence; the clock is read at
`now` and at `later`. -/
def Speaks (s : OpinionService) (e : Event) (roomId evidenceId : String) (now later : ℕ) : Prop :=
  ∃ request, e = .analyzeAndRespond request now later ∧ request.roomId = roomId ∧
    (s.analyzeAndRespond numbers request now later).2.shouldSpeak = true ∧
    (s.analyzeAndRespond numbers request now later).2.evidence.map (·.id) = some evidenceId

/-- In the state, the event is a call for the room that stays silent because the evidence, the best
match, was shared recently. -/
def Suppressed (s : OpinionService) (e : Event) (roomId evidenceId : String) : Prop :=
  ∃ request now later, e = .analyzeAndRespond request now later ∧ request.roomId = roomId ∧
    request.relevant.head?.map (·.evidence.id) = some evidenceId ∧
    (s.analyzeAndRespond numbers request now later).2.silenceReason =
      some "Same evidence recently shared in this room"

/-- An evidence is shared twice in a room only if five minutes passed, or the history of the room
was cleared in between. -/
def CooldownKept (es : List Event) : Prop :=
  ∀ es₁ e₁ es₂ e₂ es₃ s₁ s₂ roomId evidenceId now₁ later₁ now₂ later₂,
    es = es₁ ++ e₁ :: (es₂ ++ e₂ :: es₃) →
    (system numbers).exec (system numbers).init es₁ = some s₁ →
    Speaks numbers s₁ e₁ roomId evidenceId now₁ later₁ →
    (system numbers).exec (system numbers).init (es₁ ++ e₁ :: es₂) = some s₂ →
    Speaks numbers s₂ e₂ roomId evidenceId now₂ later₂ →
    later₁ + OPINION_COOLDOWN_MS ≤ now₂ ∨ .clearRoomHistory roomId ∈ es₂

/-- The room has shared the evidence in the run. -/
def Shared (es : List Event) (roomId evidenceId : String) : Prop :=
  ∃ es₁ e es₂ s now later, es = es₁ ++ e :: es₂ ∧
    (system numbers).exec (system numbers).init es₁ = some s ∧
    Speaks numbers s e roomId evidenceId now later

/-- An evidence is suppressed only in a room that has shared it. -/
def NeverSuppressed (es : List Event) : Prop :=
  ∀ es₁ e es₂ s roomId evidenceId, es = es₁ ++ e :: es₂ →
    (system numbers).exec (system numbers).init es₁ = some s →
    Suppressed numbers s e roomId evidenceId → Shared numbers es₁ roomId evidenceId

/-- `clearRoomHistory` keeps the cooldowns of the other rooms. -/
def ClearsOneRoom (rooms : Set String) (es : List Event) : Prop :=
  ∀ es₁ roomId es₂ s, es = es₁ ++ .clearRoomHistory roomId :: es₂ →
    (system numbers).exec (system numbers).init es₁ = some s →
    ∀ other ∈ rooms, other ≠ roomId → ∀ evidenceId now,
      (s.clearRoomHistory roomId).isOnCooldown other evidenceId now =
        s.isOnCooldown other evidenceId now

end System

/-- The events of a run are about some rooms. -/
def Event.about (rooms : Set String) : Event → Prop
  | .analyzeAndRespond request _ _ => request.roomId ∈ rooms
  | .clearRoomHistory roomId => roomId ∈ rooms
  | _ => True

/-- No id of a room is the id of another one followed by a colon and whatever. -/
def Apart (rooms : Set String) : Prop :=
  ∀ r ∈ rooms, ∀ r' ∈ rooms, startsWith r' (r ++ ":") = false

/-! ## Keys -/

/-- A key that starts with the id of a room is one of that room, if the ids are apart.

**Proof sketch.** Where the first separator after one of the ids is, the other id ends, or goes on
with a separator. -/
lemma startsWith_key {rooms : Set String} (h : Apart rooms) {r r' v : String} (hr : r ∈ rooms)
    (hr' : r' ∈ rooms) (hstart : startsWith (key r' v) (r ++ ":") = true) : r = r' := by
  have hsep : ∀ {x x' y : List Char}, x ++ [':'] <+: x' ++ ':' :: y →
      x = x' ∨ x ++ [':'] <+: x' ∨ x' ++ [':'] <+: x := by
    rintro x x' y ⟨t, ht⟩
    rw [List.append_assoc, List.singleton_append] at ht
    rcases List.append_eq_append_iff.mp ht with ⟨z, rfl, hz⟩ | ⟨z, rfl, hz⟩
    · cases z with
      | nil => exact .inl (List.append_nil _).symm
      | cons b z =>
        obtain ⟨rfl, -⟩ := List.cons.inj hz
        exact .inr (.inl ⟨z, by simp⟩)
    · cases z with
      | nil => exact .inl (List.append_nil _)
      | cons b z =>
        obtain ⟨rfl, -⟩ := List.cons.inj hz
        exact .inr (.inr ⟨z, by simp⟩)
  have hno : ∀ {a b : String}, a ∈ rooms → b ∈ rooms → ¬ a.toList ++ [':'] <+: b.toList := by
    intro a b ha hb hstarts
    have hfalse := h a ha b hb
    rw [startsWith, String.toList_append, Bool.eq_false_iff, ne_eq,
      List.isPrefixOf_iff_prefix] at hfalse
    exact hfalse hstarts
  rw [startsWith, List.isPrefixOf_iff_prefix, key, String.toList_append, String.toList_append,
    String.toList_append, List.append_assoc] at hstart
  rcases hsep hstart with heq | hstarts | hstarts
  · exact String.toList_inj.mp heq
  · exact absurd hstarts (hno hr hr')
  · exact absurd hstarts (hno hr' hr)

/-- The keys of a room start with its id. -/
lemma startsWith_key_self (r v : String) : startsWith (key r v) (r ++ ":") = true := by
  rw [startsWith, List.isPrefixOf_iff_prefix, key, String.toList_append (s := r ++ ":")]
  exact List.prefix_append _ _

/-- Different opinions have different keys, if the ids of the rooms are apart. -/
lemma key_inj {rooms : Set String} (h : Apart rooms) {r r' v v' : String} (hr : r ∈ rooms)
    (hr' : r' ∈ rooms) (hkey : key r v = key r' v') : r = r' ∧ v = v' := by
  obtain rfl := startsWith_key h hr hr' (hkey ▸ startsWith_key_self r v)
  refine ⟨rfl, ?_⟩
  have hlist := congrArg String.toList hkey
  simp only [key, String.toList_append] at hlist
  exact String.toList_inj.mp (List.append_cancel_left hlist)

/-! ## The calls -/

section Calls

variable {numbers : Numbers} {s s' : OpinionService} {request : Request} {e : Event}
  {r v k : String} {now later : ℕ}

/-- What is chosen is the best match and not on cooldown. -/
lemma chosen_ok {m : EvidenceMatchResult} (h : s.chosen numbers request now = .ok m) :
    s.isOnCooldown request.roomId m.evidence.id now = false := by
  unfold OpinionService.chosen at h
  split at h
  · cases h
  split at h
  · cases h
  split at h
  · cases h
  split at h
  · cases h
  split at h
  · cases h
  · rename_i hcooldown
    cases h
    exact Bool.eq_false_iff.mpr hcooldown

/-- A call with nothing chosen does not speak. If it names the cooldown as the reason, the best
match is on cooldown. -/
lemma chosen_error {result : OpinionResult} (h : s.chosen numbers request now = .error result) :
    result.shouldSpeak = false ∧
      (result.silenceReason = some "Same evidence recently shared in this room" →
        ∃ m, request.relevant.head? = some m ∧
          s.isOnCooldown request.roomId m.evidence.id now = true) := by
  unfold OpinionService.chosen at h
  split at h
  · cases h
    exact ⟨rfl, fun hreason => absurd (Option.some.inj hreason) (by decide)⟩
  split at h
  · cases h
    exact ⟨rfl, fun hreason => absurd (Option.some.inj hreason) (by decide)⟩
  split at h
  · cases h
    exact ⟨rfl, fun hreason => absurd (Option.some.inj hreason) (by decide)⟩
  rename_i m rest hrelevant
  split at h
  · cases h
    refine ⟨rfl, fun hreason => ?_⟩
    -- the two reasons start with different letters
    have hhead := congrArg (fun t => t.toList.head?) (Option.some.inj hreason)
    simp [String.toList_append] at hhead
  split at h
  · rename_i hcooldown
    cases h
    exact ⟨rfl, fun _ => ⟨m, by rw [hrelevant]; rfl, hcooldown⟩⟩
  · cases h

/-- A call speaks if a match is chosen, about that match. -/
lemma speaks_iff : Speaks numbers s e r v now later ↔ ∃ request m,
    e = .analyzeAndRespond request now later ∧ request.roomId = r ∧
      s.chosen numbers request now = .ok m ∧ m.evidence.id = v := by
  constructor
  · rintro ⟨request, rfl, rfl, hspeak, hevidence⟩
    unfold OpinionService.analyzeAndRespond at hspeak hevidence
    cases hchosen : s.chosen numbers request now with
    | error result =>
      rw [hchosen] at hspeak
      exact absurd hspeak (by rw [(chosen_error hchosen).1]; decide)
    | ok m =>
      rw [hchosen] at hevidence
      exact ⟨request, m, rfl, rfl, hchosen, Option.some.inj hevidence⟩
  · rintro ⟨request, m, rfl, rfl, hchosen, rfl⟩
    unfold Speaks OpinionService.analyzeAndRespond
    exact ⟨request, rfl, rfl, by rw [hchosen], by rw [hchosen]; rfl⟩

/-- A call that is suppressed finds a record of its room and evidence. -/
lemma record_of_suppressed (h : Suppressed numbers s e r v) :
    ∃ record, s.recentOpinions.get (key r v) = some record := by
  obtain ⟨request, now, later, rfl, rfl, hhead, hreason⟩ := h
  unfold OpinionService.analyzeAndRespond at hreason
  cases hchosen : s.chosen numbers request now with
  | ok m =>
    rw [hchosen] at hreason
    cases hreason
  | error result =>
    rw [hchosen] at hreason
    obtain ⟨m, hm, hcooldown⟩ := (chosen_error hchosen).2 hreason
    obtain rfl : m.evidence.id = v := by
      rw [hm] at hhead
      exact Option.some.inj hhead
    unfold OpinionService.isOnCooldown at hcooldown
    split at hcooldown
    · cases hcooldown
    · rename_i record hrecord
      exact ⟨record, hrecord⟩

/-- The records after an opinion was recorded: old ones are removed. -/
lemma get_registerOpinion : (s.registerOpinion r v later).recentOpinions.get k =
    if key r v = k then some ⟨v, later⟩
    else (s.recentOpinions.get k).filter fun record =>
      !decide (OPINION_COOLDOWN_MS * 2 < later - record.timestamp) := by
  unfold OpinionService.registerOpinion OpinionService.cleanupOldRecords
  dsimp only
  rw [JsMap.get_restrict, JsMap.get_set]
  by_cases hk : key r v = k
  · simp [hk]
  · simp only [hk, if_false]
    cases s.recentOpinions.get k with
    | none => rfl
    | some record => rfl

/-- The records after the history of a room was cleared. -/
lemma get_clearRoomHistory : (s.clearRoomHistory r).recentOpinions.get k =
    if startsWith k (r ++ ":") then none else s.recentOpinions.get k := by
  unfold OpinionService.clearRoomHistory
  rw [JsMap.get_restrict]
  cases startsWith k (r ++ ":") <;> rfl

/-- The settings do not concern the records or the clock. -/
lemma setConfidenceThreshold_eq (threshold : ℚ) :
    (s.setConfidenceThreshold threshold).recentOpinions = s.recentOpinions ∧
      (s.setConfidenceThreshold threshold).now = s.now := by
  unfold OpinionService.setConfidenceThreshold
  split <;> exact ⟨rfl, rfl⟩

/-- What a step does: a call that speaks records its opinion, `clearRoomHistory` removes records,
and other steps keep the records. The clock goes on. -/
lemma step_cases (h : (system numbers).step s e = some s') :
    (∃ r v now later, Speaks numbers s e r v now later ∧ s.now ≤ now ∧ now ≤ later ∧
      s'.now = later ∧
      s'.recentOpinions = (s.registerOpinion r v later).recentOpinions) ∨
    (∃ r, e = .clearRoomHistory r ∧ s' = s.clearRoomHistory r) ∨
    s.now ≤ s'.now ∧ s'.recentOpinions = s.recentOpinions := by
  cases e with
  | analyzeAndRespond request now later =>
    simp only [system] at h
    split at h
    case isFalse => cases h
    rename_i htime
    obtain rfl := Option.some.inj h
    unfold OpinionService.analyzeAndRespond
    cases hchosen : s.chosen numbers request now with
    | error result => exact .inr (.inr ⟨htime.1.trans htime.2, rfl⟩)
    | ok m =>
      refine .inl ⟨request.roomId, m.evidence.id, now, later, ?_, htime.1, htime.2, rfl, rfl⟩
      exact speaks_iff.mpr ⟨request, m, rfl, rfl, hchosen, rfl⟩
  | clearRoomHistory r => exact .inr (.inl ⟨r, rfl, (Option.some.inj h).symm⟩)
  | setEnabled enabled =>
    obtain rfl := Option.some.inj h
    exact .inr (.inr ⟨le_rfl, rfl⟩)
  | setConfidenceThreshold threshold =>
    obtain rfl := Option.some.inj h
    obtain ⟨hrecords, hnow⟩ := setConfidenceThreshold_eq (s := s) threshold
    exact .inr (.inr ⟨hnow.ge, hrecords⟩)

end Calls

/-! ## The three parts of the property -/

section Isolation

variable {numbers : Numbers} {rooms : Set String}

/-- An opinion of the time `t` is on record, or five minutes have passed since. -/
def OnRecord (r v : String) (t : ℕ) (s : OpinionService) : Prop :=
  t ≤ s.now ∧ ((∃ record, s.recentOpinions.get (key r v) = some record ∧ t ≤ record.timestamp) ∨
    t + OPINION_COOLDOWN_MS ≤ s.now)

/-- An opinion stays on record while the history of the room is not cleared, if the ids of the rooms
are apart.

**Proof sketch.** A later opinion replaces the record by a newer one, or removes it after ten
minutes. The history of another room does not contain it. -/
lemma OnRecord.step (hapart : Apart rooms) {r v : String} {t : ℕ} (hr : r ∈ rooms)
    {s s' : OpinionService} {e : Event} (hs : OnRecord r v t s)
    (he : e.about rooms ∧ e ≠ .clearRoomHistory r) (h : (system numbers).step s e = some s') :
    OnRecord r v t s' := by
  obtain ⟨hle, hrecord⟩ := hs
  rcases step_cases h with ⟨r', v', now, later, -, hnow, hlater, hnow', hrecords⟩ |
    ⟨r', rfl, rfl⟩ | ⟨hnow, hrecords⟩
  · have hmono : s.now ≤ s'.now := by omega
    refine ⟨hle.trans hmono, ?_⟩
    rw [hrecords, get_registerOpinion]
    rcases hrecord with ⟨record, hget, ht⟩ | hpassed
    · by_cases hkey : key r' v' = key r v
      · rw [if_pos hkey]
        exact .inl ⟨_, rfl, show t ≤ later by omega⟩
      · rw [if_neg hkey, hget]
        by_cases hold : OPINION_COOLDOWN_MS * 2 < later - record.timestamp
        · exact .inr (by omega)
        · exact .inl ⟨record, by simp [Option.filter, hold], ht⟩
    · exact .inr (hpassed.trans hmono)
  · refine ⟨hle, ?_⟩
    rw [get_clearRoomHistory]
    have hkey : startsWith (key r v) (r' ++ ":") = false := by
      refine Bool.eq_false_iff.mpr fun hstart => he.2 ?_
      rw [startsWith_key hapart he.1 hr hstart]
    rw [hkey]
    exact hrecord
  · refine ⟨hle.trans hnow, ?_⟩
    rw [hrecords]
    exact hrecord.imp_right fun hpassed => hpassed.trans hnow

/-- An opinion is on record once it was shared. -/
lemma OnRecord.of_speaks {r v : String} {now later : ℕ} {s s' : OpinionService} {e : Event}
    (hspeaks : Speaks numbers s e r v now later) (h : (system numbers).step s e = some s') :
    OnRecord r v later s' := by
  obtain ⟨request, m, rfl, rfl, hchosen, rfl⟩ := speaks_iff.mp hspeaks
  simp only [system] at h
  split at h
  case isFalse => cases h
  obtain rfl := Option.some.inj h
  refine ⟨le_rfl, .inl ⟨⟨m.evidence.id, later⟩, ?_, le_rfl⟩⟩
  rw [OpinionService.analyzeAndRespond, hchosen]
  exact get_registerOpinion.trans (if_pos rfl)

/-- A call that shares an opinion on record comes five minutes later. -/
lemma OnRecord.le_of_speaks {r v : String} {t now later : ℕ} {s s' : OpinionService} {e : Event}
    (hs : OnRecord r v t s) (hspeaks : Speaks numbers s e r v now later)
    (h : (system numbers).step s e = some s') : t + OPINION_COOLDOWN_MS ≤ now := by
  obtain ⟨request, m, rfl, rfl, hchosen, rfl⟩ := speaks_iff.mp hspeaks
  simp only [system] at h
  split at h
  case isFalse => cases h
  rename_i htime
  have hcooldown := chosen_ok hchosen
  unfold OpinionService.isOnCooldown at hcooldown
  rcases hs.2 with ⟨record, hget, ht⟩ | hpassed
  · rw [hget] at hcooldown
    have hpos : 0 < OPINION_COOLDOWN_MS := by decide
    have helapsed := of_decide_eq_false hcooldown
    omega
  · exact hpassed.trans htime.1

/-- The cooldown is kept in every run over rooms whose ids are apart. -/
lemma cooldownKept (hapart : Apart rooms) {es : List Event} {s : OpinionService}
    (habout : ∀ e ∈ es, e.about rooms)
    (h : (system numbers).exec (system numbers).init es = some s) : CooldownKept numbers es := by
  rintro es₁ e₁ es₂ e₂ es₃ s₁ s₂ r v now₁ later₁ now₂ later₂ rfl h₁ hspeaks₁ h₂ hspeaks₂
  by_cases hclear : .clearRoomHistory r ∈ es₂
  · exact .inr hclear
  left
  have hr : r ∈ rooms := by
    obtain ⟨request, m, rfl, rfl, -, -⟩ := speaks_iff.mp hspeaks₁
    exact habout (.analyzeAndRespond request now₁ later₁) (by simp)
  -- the state after the first call, and the step of the second one
  obtain ⟨u, hu, hrest⟩ := EventSystem.exec_append_iff.mp h₂
  obtain rfl := Option.some.inj (h₁.symm.trans hu)
  obtain ⟨u, hstep₁, hrun⟩ := EventSystem.exec_cons.mp hrest
  rw [show es₁ ++ e₁ :: (es₂ ++ e₂ :: es₃) = (es₁ ++ e₁ :: es₂) ++ e₂ :: es₃ by simp] at h
  obtain ⟨u', hu', hlast⟩ := EventSystem.exec_append_iff.mp h
  obtain rfl := Option.some.inj (h₂.symm.trans hu')
  obtain ⟨w, hstep₂, -⟩ := EventSystem.exec_cons.mp hlast
  refine OnRecord.le_of_speaks ?_ hspeaks₂ hstep₂
  refine EventSystem.exec_invariant (fun _ _ _ hs he hstep => hs.step hapart hr he hstep)
    (OnRecord.of_speaks hspeaks₁ hstep₁)
    (EventSystem.allSteps_of_forall (C := fun e => e.about rooms ∧ e ≠ .clearRoomHistory r) u ?_)
    hrun
  intro e he
  exact ⟨habout e (by simp [he]), fun heq => hclear (heq ▸ he)⟩

/-- What is on record was shared, if the ids of the rooms are apart. -/
lemma shared_of_record (hapart : Apart rooms) {r v : String} (hr : r ∈ rooms) :
    ∀ {es : List Event} {s : OpinionService} {record : Record}, (∀ e ∈ es, e.about rooms) →
      (system numbers).exec (system numbers).init es = some s →
      s.recentOpinions.get (key r v) = some record → Shared numbers es r v := by
  intro es
  induction es using List.reverseRecOn with
  | nil =>
    intro s record _ h hget
    obtain rfl := Option.some.inj h
    cases hget
  | append_singleton es e ih =>
    intro s' record habout h hget
    obtain ⟨s, hs, hlast⟩ := EventSystem.exec_append_iff.mp h
    obtain ⟨s'', hstep, hnil⟩ := EventSystem.exec_cons.mp hlast
    obtain rfl := Option.some.inj hnil
    have hbefore : ∀ {record : Record}, s.recentOpinions.get (key r v) = some record →
        Shared numbers (es ++ [e]) r v := by
      intro record hrecord
      obtain ⟨es₁, e₁, es₂, u, now, later, rfl, hu, hspeaks⟩ :=
        ih (fun x hx => habout x (by simp [hx])) hs hrecord
      exact ⟨es₁, e₁, es₂ ++ [e], u, now, later, by simp, hu, hspeaks⟩
    rcases step_cases hstep with ⟨r', v', now, later, hspeaks, -, -, -, hrecords⟩ |
      ⟨r', rfl, rfl⟩ | ⟨-, hrecords⟩
    · rw [hrecords, get_registerOpinion] at hget
      split at hget
      · rename_i hkey
        have hr' : r' ∈ rooms := by
          obtain ⟨request, m, rfl, rfl, -, -⟩ := speaks_iff.mp hspeaks
          exact habout (.analyzeAndRespond request now later) (by simp)
        obtain ⟨rfl, rfl⟩ := key_inj hapart hr' hr hkey
        exact ⟨es, e, [], s, now, later, rfl, hs, hspeaks⟩
      · exact hbefore (Option.filter_eq_some_iff.mp hget).1
    · rw [get_clearRoomHistory] at hget
      split at hget
      · cases hget
      · exact hbefore hget
    · exact hbefore (hrecords ▸ hget)

/-- The history of other rooms is kept, if the ids of the rooms are apart. -/
lemma isOnCooldown_clearRoomHistory (hapart : Apart rooms) {r r' : String} (hr : r ∈ rooms)
    (hr' : r' ∈ rooms) (hne : r' ≠ r) (s : OpinionService) (v : String) (now : ℕ) :
    (s.clearRoomHistory r).isOnCooldown r' v now = s.isOnCooldown r' v now := by
  have hkey : startsWith (key r' v) (r ++ ":") = false :=
    Bool.eq_false_iff.mpr fun hstart => hne (startsWith_key hapart hr hr' hstart).symm
  unfold OpinionService.isOnCooldown
  rw [get_clearRoomHistory, hkey]
  rfl

/-- A call that shares an evidence in a room. -/
def sharing (roomId evidenceId : String) : Request :=
  ⟨roomId, "어떤 데이터베이스를 쓸까요?",
    [⟨⟨evidenceId, "", "", "", .large_survey, none, "database"⟩, 100⟩], ⟨0, false⟩⟩

/-- The call speaks in a new service. -/
lemma speaks_sharing (numbers : Numbers) (r v : String) :
    Speaks numbers (system numbers).init (.analyzeAndRespond (sharing r v) 0 0) r v 0 0 := by
  have hlen : ¬ jsLength (jsTrim "어떤 데이터베이스를 쓸까요?") < 10 := by decide +kernel
  have hconfidence : ¬ ((100 : ℕ) : ℚ) < 95 := by decide +kernel
  refine speaks_iff.mpr ⟨sharing r v, ⟨⟨v, "", "", "", .large_survey, none, "database"⟩, 100⟩, rfl,
    rfl, ?_, rfl⟩
  unfold OpinionService.chosen
  rw [show (system numbers).init.config = ⟨95, true⟩ from rfl, sharing]
  dsimp only
  rw [if_neg (by decide), if_neg hlen, if_neg hconfidence]
  rfl

/-- Room `r'` shares an evidence, and then the history of room `r` is cleared. -/
def clearedRun (r r' : String) : List Event :=
  [.analyzeAndRespond (sharing r' "redis") 0 0, .clearRoomHistory r]

/-- The cooldown of room `r'` ends in that run if its id starts with `r` and a colon. -/
lemma not_clearsOneRoom (numbers : Numbers) {r r' : String} (hr' : r' ∈ rooms)
    (h : startsWith r' (r ++ ":") = true) : ¬ ClearsOneRoom numbers rooms (clearedRun r r') := by
  intro hclears
  have hstarts : r.toList ++ [':'] <+: r'.toList := by
    rw [startsWith, List.isPrefixOf_iff_prefix, String.toList_append] at h
    exact h
  have hne : r' ≠ r := by
    rintro rfl
    have hlen := hstarts.length_le
    rw [List.length_append, List.length_singleton] at hlen
    omega
  obtain ⟨u, hstep⟩ : ∃ u, (system numbers).step (system numbers).init
      (.analyzeAndRespond (sharing r' "redis") 0 0) = some u := ⟨_, rfl⟩
  have hrun : (system numbers).exec (system numbers).init
      [.analyzeAndRespond (sharing r' "redis") 0 0] = some u :=
    EventSystem.exec_cons.mpr ⟨u, hstep, rfl⟩
  have hsame := hclears [.analyzeAndRespond (sharing r' "redis") 0 0] r [] u rfl hrun r' hr' hne
    "redis" 0
  -- the record is there, but not after the other room was cleared
  obtain ⟨-, ⟨record, hget, -⟩ | hpassed⟩ :=
    OnRecord.of_speaks (speaks_sharing numbers r' "redis") hstep
  · have hkey : startsWith (key r' "redis") (r ++ ":") = true := by
      rw [startsWith, List.isPrefixOf_iff_prefix, key, String.toList_append, String.toList_append,
        String.toList_append]
      exact (hstarts.trans (List.prefix_append _ _)).trans (List.prefix_append _ _)
    unfold OpinionService.isOnCooldown at hsame
    rw [get_clearRoomHistory, hkey, hget] at hsame
    exact absurd hsame.symm (by simp [OPINION_COOLDOWN_MS])
  · have hnow : u.now = 0 := by rw [← Option.some.inj hstep]
    rw [hnow] at hpassed
    exact absurd hpassed (by decide)

/-- **Rooms whose ids are apart.** Every run over some rooms keeps the cooldown, suppresses an
evidence only where it was shared, and clears one room at a time, if and only if no id of the rooms
is another one followed by a colon. -/
theorem isolated_iff_apart (numbers : Numbers) (rooms : Set String) :
    (∀ es s, (∀ e ∈ es, e.about rooms) →
      (system numbers).exec (system numbers).init es = some s →
      CooldownKept numbers es ∧ NeverSuppressed numbers es ∧ ClearsOneRoom numbers rooms es) ↔
    Apart rooms := by
  constructor
  · intro h r hr r' hr'
    by_contra hstart
    rw [Bool.not_eq_false] at hstart
    refine not_clearsOneRoom numbers hr' hstart (h (clearedRun r r') _ ?_ rfl).2.2
    intro e he
    simp only [clearedRun, List.mem_cons, List.not_mem_nil, or_false] at he
    rcases he with rfl | rfl
    · exact hr'
    · exact hr
  · intro hapart es s habout hrun
    refine ⟨cooldownKept hapart habout hrun, ?_, ?_⟩
    · rintro es₁ e es₂ u r v rfl hu hsuppressed
      obtain ⟨record, hrecord⟩ := record_of_suppressed hsuppressed
      have hr : r ∈ rooms := by
        obtain ⟨request, now, later, rfl, rfl, -⟩ := hsuppressed
        exact habout (.analyzeAndRespond request now later) (by simp)
      exact shared_of_record hapart hr (fun x hx => habout x (by simp [hx])) hu hrecord
    · rintro es₁ r es₂ u rfl hu r' hr' hne v now
      have hr : r ∈ rooms := habout (.clearRoomHistory r) (by simp)
      exact isOnCooldown_clearRoomHistory hapart hr hr' hne u v now

end Isolation

/-- Ids as a database gives them out. -/
def meetingRooms : Set String := {"a", "b"}

/-- The two ids are apart. -/
lemma apart_meetingRooms : Apart meetingRooms := by
  rintro r (rfl | rfl) r' (rfl | rfl) <;> decide +kernel

/-- How numbers are written does not matter here. -/
def plainNumbers : Numbers := ⟨fun _ => "", toString⟩

/-- Two rooms share an evidence, and the first one again after its history was cleared. -/
def sharedTwice : List Event :=
  [.analyzeAndRespond (sharing "a" "redis") 0 0, .analyzeAndRespond (sharing "b" "redis") 10 10,
    .clearRoomHistory "a", .analyzeAndRespond (sharing "a" "redis") 20 20]

/-- The property holds of that run. -/
theorem isolated_sharedTwice :
    Speaks plainNumbers (system plainNumbers).init (.analyzeAndRespond (sharing "a" "redis") 0 0)
      "a" "redis" 0 0 ∧
    CooldownKept plainNumbers sharedTwice ∧ NeverSuppressed plainNumbers sharedTwice ∧
      ClearsOneRoom plainNumbers meetingRooms sharedTwice := by
  refine ⟨speaks_sharing plainNumbers "a" "redis",
    (isolated_iff_apart plainNumbers meetingRooms).mpr apart_meetingRooms sharedTwice _ ?_ rfl⟩
  intro e he
  simp only [sharedTwice, List.mem_cons, List.not_mem_nil, or_false] at he
  rcases he with rfl | rfl | rfl | rfl <;> simp [Event.about, sharing, meetingRooms]

/-- **Another room's history.** Room `a:b` shares an evidence, and the history of room `a` is
cleared: a run about these two rooms, in which the cooldown of the first one ends. -/
theorem cleared_by_another_room :
    (∀ e ∈ clearedRun "a" "a:b", e.about {"a", "a:b"}) ∧
    ((system plainNumbers).exec (system plainNumbers).init (clearedRun "a" "a:b")).isSome = true ∧
    ¬ ClearsOneRoom plainNumbers {"a", "a:b"} (clearedRun "a" "a:b") := by
  refine ⟨fun e he => ?_, rfl, ?_⟩
  · simp only [clearedRun, List.mem_cons, List.not_mem_nil, or_false] at he
    rcases he with rfl | rfl <;> simp [Event.about, sharing]
  · have hstart : startsWith "a:b" ("a" ++ ":") = true := by decide +kernel
    exact not_clearsOneRoom plainNumbers (by simp) hstart

end Opinion
