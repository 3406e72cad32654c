import AuraLive.Foundations.Arbiter
import AuraLive.Foundations.Double
import AuraLive.Foundations.JsMap
import Mathlib.Algebra.Order.Ring.Rat

set_option relaxedAutoImplicit false
set_option autoImplicit false

/-!
# The flow control engine of the Perplexity mode

The functions of `wfc-engine.service.ts` on the data of `perplexity.types.ts`. Each participant
has a cell with the cognitive states still possible for it; observations narrow, replace or grow
that set (`collapseState`), and six constraints look at all cells of a session and propose at most
one intervention at a time (`propagate`).

## Main definitions

* `Perplexity.ParticipantCell`, `PerplexitySession` — a cell, and a session with its cells.
* `Perplexity.collapseState` — what an observation does to a cell.
* `Perplexity.DEFAULT_CONSTRAINTS` — the constraint table.
* `Perplexity.propagate` — the evaluation of the constraints.

## Main results

* `Perplexity.propagate_result` — the constraint fired, if any, is the choice of
  `Foundations.arbitrate` among those that hold and are not cooling down.

## Design

A clock reading is a natural number of milliseconds, one for each message that is handled; as all
bounds are positive, truncated subtraction decides the comparisons of elapsed times like the
subtraction of doubles does. Confidences are rational. The entropy of a cell is kept as the fraction
that it is; where entropies are added, divided and compared, all numbers are rounded, in an
arithmetic that is a parameter. (The share of confused participants is compared as a fraction:
rounding does not move it across `0.4`.) `collapseState` copies the cell and may push onto the array
shared with the old cell, but its callers replace the old cell by the result, so cells are values
here. The constraints are the same objects for all rooms: the
`lastTriggered` fields are the state of the engine, and the other fields never change. The fields
of a cell that no function reads (`speakingRatio`, `questionCount`) are left out.
-/

namespace Perplexity

open Foundations

/-! ## Data -/

/-- The cognitive state of a participant. -/
inductive CognitiveState where
  | confused
  | absorbing
  | thinking
  | contributing
  | understood
  | disengaged
  deriving DecidableEq, Repr

/-- How far a topic has come. -/
inductive TopicState where
  | introduced
  | discussing
  | clarifying
  | mastered
  | skipped
  deriving DecidableEq, Repr

/-- The coarse entropy of a session. -/
inductive EntropyLevel where
  | low
  | medium
  | high
  deriving DecidableEq, Repr

/-- The cell of a participant. -/
structure ParticipantCell where
  participantId : String
  participantName : String
  possibleStates : List CognitiveState
  observedState : Option CognitiveState
  entropy : ℚ
  confidence : ℚ
  lastUpdate : ℕ
  confusionCount : ℤ
  textInferredAt : ℕ
  deriving DecidableEq

/-- A topic of the session; no code creates one. -/
structure TopicCell where
  topicName : String
  state : TopicState
  deriving DecidableEq

/-- An intervention. -/
inductive PerplexityAction where
  | aiIntervention (reason : String) (targetParticipants : List String)
  | followUpQuestion (question context : String) (targetParticipants : Option (List String))
  | topicTransition (fromTopic toTopic reason : String)
  | peerTeaching (teacher : String) (learners : List String) (topic : String)
  | summaryRequest (topics : List String) (reason : String)
  | engagementBoost (targetParticipants : List String) (suggestion : String)
  deriving DecidableEq

/-- An utterance kept for the prompts. -/
structure Transcript where
  participantId : String
  text : String
  timestamp : ℕ
  deriving DecidableEq

/-- A session of a room. -/
structure PerplexitySession where
  /-- Which object this is: the sessions of a room are numbered in the order they are started. -/
  serial : ℕ
  roomId : String
  isActive : Bool
  startTime : ℕ
  participants : JsMap String ParticipantCell
  topics : JsMap String TopicCell
  currentTopic : Option String
  sessionEntropy : ℚ
  entropyLevel : EntropyLevel
  actionHistory : List (PerplexityAction × ℕ)
  lastPropagation : ℕ
  recentTranscripts : List Transcript

/-- `Array.from(session.participants.values())`. -/
def PerplexitySession.cells (session : PerplexitySession) : List ParticipantCell :=
  session.participants.entries.map Prod.snd

/-! ## Entropy -/

/-- The arithmetic in which entropies are added, divided and compared: how a number is rounded. -/
class Rounding where
  rounded : ℚ → ℚ

/-- The arithmetic of the program. -/
instance doubles : Rounding := ⟨Double.toDouble⟩

variable [Rounding]

/-- `totalEntropy`, the sum of some entropies in their order. -/
def totalEntropy (entropies : List ℚ) : ℚ :=
  entropies.foldl (fun total entropy => Rounding.rounded (total + Rounding.rounded entropy)) 0

/-- The average entropy of the cells, `0` without cells. -/
def calculateSessionEntropy (session : PerplexitySession) : ℚ :=
  if session.cells.length = 0 then 0
  else Rounding.rounded (totalEntropy (session.cells.map (·.entropy)) / session.cells.length)

/-- The coarse level of an entropy. -/
def getEntropyLevel (entropy : ℚ) : EntropyLevel :=
  if entropy < Rounding.rounded (33 / 100) then .low
  else if entropy < Rounding.rounded (66 / 100) then .medium
  else .high

/-- Bring the cached entropy of a session up to date. -/
def updateSessionEntropy (session : PerplexitySession) : PerplexitySession :=
  { session with
    sessionEntropy := calculateSessionEntropy session
    entropyLevel := getEntropyLevel (calculateSessionEntropy session) }

/-! ## Collapse -/

/-- The states listed as compatible with a state. -/
def compatibilityMap : CognitiveState → List CognitiveState
  | .confused => [.thinking, .absorbing]
  | .absorbing => [.thinking, .confused, .understood]
  | .thinking => [.confused, .absorbing, .contributing, .understood]
  | .contributing => [.thinking, .understood]
  | .understood => [.absorbing, .contributing]
  | .disengaged => [.confused, .absorbing]

/-- Whether the second state is listed for the first. -/
def isCompatibleState (state1 state2 : CognitiveState) : Bool :=
  (compatibilityMap state1).contains state2

/-- Whether a possible state survives an observation of medium confidence. -/
def survives (observedState s : CognitiveState) : Bool :=
  s = observedState || isCompatibleState s observedState

/-- The first part of `collapseState`: the possible states, the observed state and the entropy,
by the three ranges of confidence. -/
def narrow (cell : ParticipantCell) (observedState : CognitiveState) (confidence : ℚ) :
    ParticipantCell :=
  if 7 / 10 ≤ confidence then
    { cell with
      observedState := some observedState
      possibleStates := [observedState]
      entropy := 0 }
  else if 5 / 10 ≤ confidence then
    match cell.possibleStates.filter (survives observedState) with
    | [s] => { cell with possibleStates := [s], observedState := some s, entropy := 0 }
    | possible => { cell with possibleStates := possible, entropy := possible.length / 6 }
  else
    let possible :=
      if cell.possibleStates.contains observedState then cell.possibleStates
      else cell.possibleStates ++ [observedState]
    { cell with possibleStates := possible, entropy := possible.length / 6 }

/-- The confusion counter after an observation. -/
def countConfusion (observedState : CognitiveState) (count : ℤ) : ℤ :=
  match observedState with
  | .confused => count + 1
  | .understood | .contributing => max 0 (count - 1)
  | _ => count

/-- A cell after an observation. -/
def collapseState (cell : ParticipantCell) (observedState : CognitiveState) (confidence : ℚ)
    (now : ℕ) : ParticipantCell :=
  { narrow cell observedState confidence with
    confusionCount := countConfusion observedState cell.confusionCount
    confidence := confidence
    lastUpdate := now }

/-- The cell of a new participant. -/
def createParticipantCell (participantId participantName : String) (now : ℕ) :
    ParticipantCell where
  participantId := participantId
  participantName := participantName
  possibleStates := [.absorbing, .thinking, .confused, .contributing, .understood, .disengaged]
  observedState := none
  entropy := 1
  confidence := 0
  lastUpdate := now
  confusionCount := 0
  textInferredAt := 0

/-! ## Constraints -/

/-- The constraints by their `id`. -/
inductive ConstraintId where
  | confusion_intervention
  | single_confusion_assist
  | peer_teaching_opportunity
  | high_entropy_summary
  | disengagement_boost
  | all_understood_advance
  deriving DecidableEq, Repr

/-- A constraint. The field `lastTriggered` is kept in `WFCEngine`. -/
structure WFCConstraint where
  id : ConstraintId
  name : String
  description : String
  /-- The condition on a session, which may read the clock. -/
  condition : PerplexitySession → ℕ → Bool
  action : PerplexityAction
  priority : ℕ
  cooldownMs : ℕ

/-- The cells observed in a state. -/
def PerplexitySession.observed (session : PerplexitySession) (state : CognitiveState) :
    List ParticipantCell :=
  session.cells.filter fun p => p.observedState = some state

/-- Whether a participant could teach. -/
def ParticipantCell.canTeach (p : ParticipantCell) : Bool :=
  p.observedState = some .understood || p.observedState = some .contributing

/-- The constraint table. -/
def DEFAULT_CONSTRAINTS : List WFCConstraint :=
  [ { id := .confusion_intervention
      name := "혼란 감지 개입"
      description := "참여자의 40% 이상이 혼란 상태일 때 AI 개입"
      condition := fun session _ =>
        if session.cells.length = 0 then false
        else 4 / 10 ≤ ((session.observed .confused).length : ℚ) / session.cells.length
      action := .aiIntervention "많은 분들이 어려워하시는 것 같습니다. 제가 설명해드릴까요?" []
      priority := 100
      cooldownMs := 60000 },
    { id := .single_confusion_assist
      name := "개인 혼란 지원"
      description := "한 참여자가 연속 3회 혼란 상태일 때 개인 지원"
      condition := fun session _ => session.cells.any fun p => 3 ≤ p.confusionCount
      action := .aiIntervention "혹시 이해가 안 되는 부분이 있으신가요?" []
      priority := 80
      cooldownMs := 45000 },
    { id := .peer_teaching_opportunity
      name := "Peer Teaching 기회"
      description := "한 명이 이해하고 다른 이들이 혼란일 때 Peer Teaching 제안"
      condition := fun session _ =>
        if session.cells.length < 2 then false
        else 1 ≤ (session.cells.filter (·.canTeach)).length &&
          1 ≤ (session.observed .confused).length
      action := .peerTeaching "" [] ""
      priority := 70
      cooldownMs := 120000 },
    { id := .high_entropy_summary
      name := "고엔트로피 요약"
      description := "세션 엔트로피가 높을 때 요약 요청"
      condition := fun session _ =>
        session.entropyLevel = .high && Rounding.rounded (7 / 10) < session.sessionEntropy
      action := .summaryRequest [] "다양한 의견이 오가고 있네요. 지금까지 내용을 정리해볼까요?"
      priority := 60
      cooldownMs := 180000 },
    { id := .disengagement_boost
      name := "이탈 참여자 독려"
      description := "참여자가 이탈 상태일 때 참여 유도"
      condition := fun session now =>
        (session.observed .disengaged).any fun p => 30000 < now - p.lastUpdate
      action := .engagementBoost [] "님은 어떻게 생각하세요?"
      priority := 50
      cooldownMs := 90000 },
    { id := .all_understood_advance
      name := "전원 이해 시 진행"
      description := "모든 참여자가 이해했을 때 다음 토픽으로 전환"
      condition := fun session _ =>
        if session.cells.length = 0 then false
        else (session.observed .understood).length = session.cells.length
      action := .followUpQuestion "모두 이해하신 것 같네요! 더 깊이 들어가볼까요?"
        "topic_mastered" none
      priority := 40
      cooldownMs := 60000 } ]

/-! ## Propagation -/

/-- The mutable part of the constraint table: the `lastTriggered` fields. -/
structure WFCEngine where
  lastTriggered : ConstraintId → Option ℕ

/-- Whether a stamp keeps a constraint from firing: `lastTriggered && now - lastTriggered <
cooldownMs`, false for a stamp that is missing or `0`. -/
def coolingDown (cooldownMs : ℕ) (lastTriggered : Option ℕ) (now : ℕ) : Bool :=
  match lastTriggered with
  | none => false
  | some t => t ≠ 0 && now - t < cooldownMs

/-- The stamp of a constraint that fires. -/
def WFCEngine.stamp (engine : WFCEngine) (id : ConstraintId) (now : ℕ) : WFCEngine where
  lastTriggered id' := if id' = id then some now else engine.lastTriggered id'

/-- The text `v || d`. -/
def orText (v : Option String) (d : String) : String :=
  match v with
  | none => d
  | some x => if x = "" then d else x

/-- The action of a constraint with its dynamic parameters filled in. -/
def buildAction (constraint : WFCConstraint) (session : PerplexitySession) : PerplexityAction :=
  match constraint.action with
  | .aiIntervention reason _ =>
    .aiIntervention reason ((session.observed .confused).map (·.participantId))
  | .peerTeaching _ _ _ =>
    .peerTeaching (orText ((session.cells.find? (·.canTeach)).map (·.participantName)) "")
      ((session.observed .confused).map (·.participantName))
      (orText session.currentTopic "현재 주제")
  | .engagementBoost _ suggestion =>
    .engagementBoost ((session.observed .disengaged).map (·.participantId))
      ((((session.observed .disengaged).head?.map (·.participantName)).getD "undefined") ++
        suggestion)
  | .summaryRequest _ reason =>
    let topics := ((session.topics.entries.map Prod.snd).filter fun t =>
      t.state = .discussing || t.state = .clarifying).map (·.topicName)
    .summaryRequest (if 0 < topics.length then topics else ["현재 논의 내용"]) reason
  | baseAction => baseAction

/-- The participants an action concerns. -/
def getAffectedParticipants (action : PerplexityAction) (session : PerplexitySession) :
    List String :=
  match action with
  | .aiIntervention _ targetParticipants => targetParticipants
  | .engagementBoost targetParticipants _ => targetParticipants
  | .peerTeaching teacher learners _ => teacher :: learners
  | .followUpQuestion _ _ targetParticipants => targetParticipants.getD session.participants.keys
  | _ => session.participants.keys

/-- What an evaluation of the constraints returns. -/
structure PropagationResult where
  triggeredConstraints : List ConstraintId
  actions : List PerplexityAction
  entropyChange : ℚ
  affectedParticipants : List String
  deriving DecidableEq

/-- Whether the loop of `propagate` stops at a constraint. -/
def WFCEngine.admits (engine : WFCEngine) (session : PerplexitySession) (now : ℕ)
    (constraint : WFCConstraint) : Bool :=
  !coolingDown constraint.cooldownMs (engine.lastTriggered constraint.id) now &&
    constraint.condition session now

/-- The result of an evaluation in which a constraint fires, or none does. -/
def PropagationResult.of (session : PerplexitySession) (fired : Option WFCConstraint) :
    PropagationResult where
  triggeredConstraints := (fired.map (·.id)).toList
  actions := (fired.map fun c => buildAction c session).toList
  entropyChange := Rounding.rounded (calculateSessionEntropy session - session.sessionEntropy)
  affectedParticipants :=
    (fired.map fun c => getAffectedParticipants (buildAction c session) session).getD []

/-- The constraint at which the loop of `propagate` stops, by falling priority. -/
def fired (engine : WFCEngine) (session : PerplexitySession) (now : ℕ) : Option WFCConstraint :=
  arbitrate (·.priority) DEFAULT_CONSTRAINTS (engine.admits session now)

/-- The evaluation of the constraints: by falling priority, the first one that is not cooling down
and whose condition holds fires and is stamped. -/
def propagate (engine : WFCEngine) (session : PerplexitySession) (now : ℕ) :
    WFCEngine × PropagationResult :=
  match fired engine session now with
  | none => (engine, .of session none)
  | some constraint => (engine.stamp constraint.id now, .of session (some constraint))

/-! ### What an evaluation does -/

/-- The result of an evaluation is determined by the constraint that fires. -/
theorem propagate_result (engine : WFCEngine) (session : PerplexitySession) (now : ℕ) :
    (propagate engine session now).2 = .of session (fired engine session now) := by
  unfold propagate
  split <;> simp_all

/-- The stamps after an evaluation. -/
theorem propagate_engine (engine : WFCEngine) (session : PerplexitySession) (now : ℕ)
    (id : ConstraintId) :
    (propagate engine session now).1.lastTriggered id =
      if (fired engine session now).map (·.id) = some id then some now
      else engine.lastTriggered id := by
  unfold propagate
  split
  · rename_i h
    simp [h]
  · rename_i c h
    by_cases hid : id = c.id
    · simp [h, WFCEngine.stamp, hid]
    · have hne : ¬ c.id = id := fun he => hid he.symm
      simp [h, WFCEngine.stamp, hid, hne]

/-- The constraints have distinct priorities. -/
lemma priority_injective : ∀ a ∈ DEFAULT_CONSTRAINTS, ∀ b ∈ DEFAULT_CONSTRAINTS,
    a.priority = b.priority → a = b := by
  intro a ha b hb h
  simp only [DEFAULT_CONSTRAINTS, List.mem_cons, List.not_mem_nil, or_false] at ha hb
  rcases ha with rfl | rfl | rfl | rfl | rfl | rfl <;>
    rcases hb with rfl | rfl | rfl | rfl | rfl | rfl <;> first | rfl | simp at h

/-- The constraints have distinct ids. -/
lemma id_injective : ∀ a ∈ DEFAULT_CONSTRAINTS, ∀ b ∈ DEFAULT_CONSTRAINTS,
    a.id = b.id → a = b := by
  intro a ha b hb h
  simp only [DEFAULT_CONSTRAINTS, List.mem_cons, List.not_mem_nil, or_false] at ha hb
  rcases ha with rfl | rfl | rfl | rfl | rfl | rfl <;>
    rcases hb with rfl | rfl | rfl | rfl | rfl | rfl <;> first | rfl | simp at h

/-- Every constraint has a cooldown. -/
lemma cooldownMs_pos : ∀ c ∈ DEFAULT_CONSTRAINTS, 0 < c.cooldownMs := by
  intro c hc
  simp only [DEFAULT_CONSTRAINTS, List.mem_cons, List.not_mem_nil, or_false] at hc
  rcases hc with rfl | rfl | rfl | rfl | rfl | rfl <;> simp

end Perplexity
