import AuraLive.Perplexity.Engine
import Mathlib.Tactic.NormNum

set_option relaxedAutoImplicit false
set_option autoImplicit false

/-!
# Who an intervention is for

The constraints of the engine test the cells of a session, and `buildAction` chooses the
participants of an action by tests of its own. An action should be addressed to someone who made the
condition of its constraint true.

## Main definitions

* `Perplexity.Triggers` — a participant makes the condition of a constraint true.
* `Perplexity.PerplexityAction.addressees`, `reference` — who an action is addressed to, and what it
  calls a participant.
* `Perplexity.Addresses` — the result of an evaluation is addressed to those who triggered it.
* `Perplexity.AddresseesFit` — the tests of the condition and of the action agree on a session.

## Main results

* `Perplexity.addresses_iff` — whenever a constraint fires, the result is addressed to those who
  triggered it exactly if the tests agree.
* `Perplexity.assist_for_nobody` — the assistance for a participant who is not confused any more has
  no addressees.

## Design

A participant of a session has the key of the map and the id in the cell; the service puts a cell
under its own id. Two cells of an arbitrary session may share an id or a name, and then
whoever is called by it is addressed.
-/

namespace Perplexity

open Foundations

/-! ## Addressees -/

/-- The addressees of an action, if it is of a type that has them. -/
def PerplexityAction.addressees : PerplexityAction → Option (List String)
  | .aiIntervention _ targetParticipants => some targetParticipants
  | .followUpQuestion _ _ targetParticipants => targetParticipants
  | .peerTeaching teacher learners _ => some (teacher :: learners)
  | .engagementBoost targetParticipants _ => some targetParticipants
  | .topicTransition _ _ _ => none
  | .summaryRequest _ _ => none

/-- What an action calls a participant: peers are addressed by name. -/
def PerplexityAction.reference : PerplexityAction → ParticipantCell → String
  | .peerTeaching _ _ _, p => p.participantName
  | _, p => p.participantId

/-- The addressees of an action are not empty: there is a teacher and someone to learn. -/
def PerplexityAction.Filled : PerplexityAction → Prop
  | .peerTeaching teacher learners _ => teacher ≠ "" ∧ learners ≠ []
  | action => action.addressees ≠ some []

/-- The suggestion of an action. -/
def PerplexityAction.suggestion : PerplexityAction → Option String
  | .engagementBoost _ suggestion => some suggestion
  | _ => none

/-- A participant makes the condition of a constraint true. -/
def Triggers (now : ℕ) : ConstraintId → ParticipantCell → Prop
  | .confusion_intervention, p => p.observedState = some .confused
  | .single_confusion_assist, p => 3 ≤ p.confusionCount
  | .peer_teaching_opportunity, p => p.canTeach = true ∨ p.observedState = some .confused
  | .high_entropy_summary, _ => True
  | .disengagement_boost, p => p.observedState = some .disengaged ∧ 30000 < now - p.lastUpdate
  | .all_understood_advance, p => p.observedState = some .understood

/-- The id of a participant of a session. -/
def PerplexitySession.IsParticipant (session : PerplexitySession) (v : String) : Prop :=
  v ∈ session.participants.keys ∨ v ∈ session.cells.map (·.participantId)

/-- A result is addressed to someone who triggered its constraint, names such a participant if it
names one, and concerns participants of the session. -/
structure Addresses (session : PerplexitySession) (now : ℕ) (id : ConstraintId)
    (result : PropagationResult) : Prop where
  filled : ∀ action ∈ result.actions, action.Filled
  trigger : ∀ action ∈ result.actions, ∀ addressees ∈ action.addressees,
    ∃ p ∈ session.cells, Triggers now id p ∧ action.reference p ∈ addressees
  named : ∀ action ∈ result.actions, ∀ suggestion ∈ action.suggestion,
    ∃ p ∈ session.cells, Triggers now id p ∧
      suggestion = p.participantName ++ "님은 어떻게 생각하세요?"
  affected : ∀ v ∈ result.affectedParticipants, session.IsParticipant v

/-- The tests of a condition and of its action agree on a session. -/
def AddresseesFit (session : PerplexitySession) (now : ℕ) : ConstraintId → Prop
  | .single_confusion_assist =>
    ∃ p ∈ session.cells, 3 ≤ p.confusionCount ∧
      p.participantId ∈ (session.observed .confused).map (·.participantId)
  | .peer_teaching_opportunity =>
    (∀ t ∈ session.cells.find? (·.canTeach),
      t.participantName ≠ "" ∧ session.IsParticipant t.participantName) ∧
      ∀ p ∈ session.observed .confused, session.IsParticipant p.participantName
  | .disengagement_boost =>
    ∃ p ∈ session.observed .disengaged, 30000 < now - p.lastUpdate ∧
      ((session.observed .disengaged).head?.map (·.participantName)) = some p.participantName
  | _ => True

section Evaluation

variable [Rounding] {session : PerplexitySession} {now : ℕ}

omit [Rounding] in
/-- The cells observed in a state. -/
lemma mem_observed {state : CognitiveState} {p : ParticipantCell} :
    p ∈ session.observed state ↔ p ∈ session.cells ∧ p.observedState = some state := by
  simp [PerplexitySession.observed]

omit [Rounding] in
/-- The ids of the cells observed in a state are ids of participants. -/
lemma isParticipant_of_observed {state : CognitiveState} {v : String}
    (h : v ∈ (session.observed state).map (·.participantId)) : session.IsParticipant v := by
  obtain ⟨p, hp, rfl⟩ := List.mem_map.mp h
  exact .inr (List.mem_map_of_mem (mem_observed.mp hp).1)

/-- A result with one action. -/
lemma addresses_of_iff {id : ConstraintId} {c : WFCConstraint} :
    Addresses session now id (.of session (some c)) ↔
      (buildAction c session).Filled ∧
      (∀ addressees ∈ (buildAction c session).addressees, ∃ p ∈ session.cells,
        Triggers now id p ∧ (buildAction c session).reference p ∈ addressees) ∧
      (∀ suggestion ∈ (buildAction c session).suggestion, ∃ p ∈ session.cells,
        Triggers now id p ∧ suggestion = p.participantName ++ "님은 어떻게 생각하세요?") ∧
      ∀ v ∈ getAffectedParticipants (buildAction c session) session, session.IsParticipant v := by
  constructor
  · rintro ⟨hfilled, htrigger, hnamed, haffected⟩
    have hmem : buildAction c session ∈ (PropagationResult.of session (some c)).actions :=
      List.mem_singleton_self _
    exact ⟨hfilled _ hmem, htrigger _ hmem, hnamed _ hmem, haffected⟩
  · rintro ⟨hfilled, htrigger, hnamed, haffected⟩
    refine ⟨fun action hmem => ?_, fun action hmem => ?_, fun action hmem => ?_, haffected⟩
    all_goals obtain rfl := List.mem_singleton.mp hmem
    · exact hfilled
    · exact htrigger
    · exact hnamed

/-- **Interventions.** An intervention is for the participants observed as confused, so one of these
has to trigger it. -/
lemma addresses_aiIntervention_iff {id : ConstraintId} {c : WFCConstraint} {reason : String}
    (hc : buildAction c session =
      .aiIntervention reason ((session.observed .confused).map (·.participantId))) :
    Addresses session now id (.of session (some c)) ↔
      ∃ p ∈ session.cells, Triggers now id p ∧
        p.participantId ∈ (session.observed .confused).map (·.participantId) := by
  rw [addresses_of_iff, hc]
  constructor
  · rintro ⟨-, htrigger, -, -⟩
    exact htrigger _ rfl
  · intro h
    refine ⟨?_, fun addressees haddressees => Option.some.inj haddressees ▸ h, ?_, ?_⟩
    · obtain ⟨p, -, -, hmem⟩ := h
      intro hnone
      rw [Option.some.inj hnone] at hmem
      cases hmem
    · rintro suggestion ⟨⟩
    · exact fun v hv => isParticipant_of_observed hv

omit [Rounding] in
/-- If 40 percent of the participants are confused, someone is. -/
lemma exists_confused
    (h : 4 / 10 ≤ ((session.observed .confused).length : ℚ) / session.cells.length) :
    ∃ p, p ∈ session.observed .confused := by
  refine List.exists_mem_of_ne_nil _ fun hnil => ?_
  rw [hnil] at h
  norm_num at h

/-- **Peers.** The teacher and the learners are addressed by name.

**Proof sketch.** As somebody can teach, the teacher of the action is the first one who can, and as
there are learners, the names that are addressed are not empty. The affected are found by name, so
everybody is addressed by the right id if and only if each name belongs to one participant. -/
lemma addresses_peerTeaching_iff {c : WFCConstraint} {topic : String}
    (hc : buildAction c session =
      .peerTeaching (orText ((session.cells.find? (·.canTeach)).map (·.participantName)) "")
        ((session.observed .confused).map (·.participantName)) topic)
    (hteach : 1 ≤ (session.cells.filter (·.canTeach)).length)
    (hlearn : 1 ≤ (session.observed .confused).length) :
    Addresses session now .peer_teaching_opportunity (.of session (some c)) ↔
      AddresseesFit session now .peer_teaching_opportunity := by
  obtain ⟨p, hp⟩ := List.exists_mem_of_length_pos hteach
  obtain ⟨hp, hcan⟩ := List.mem_filter.mp hp
  obtain ⟨t, ht⟩ := Option.isSome_iff_exists.mp (List.find?_isSome.mpr ⟨p, hp, hcan⟩)
  have htmem := List.mem_of_find?_eq_some ht
  have htcan : t.canTeach = true := List.find?_some ht
  have hteacher : orText ((session.cells.find? (·.canTeach)).map (·.participantName)) "" =
      t.participantName := by
    rw [ht]
    show (if t.participantName = "" then "" else t.participantName) = _
    split
    · rename_i hempty
      exact hempty.symm
    · rfl
  rw [addresses_of_iff, hc, hteacher]
  unfold AddresseesFit
  rw [ht]
  constructor
  · rintro ⟨⟨hname, -⟩, -, -, haffected⟩
    refine ⟨?_, fun l hl => ?_⟩
    · rintro t' ht'
      obtain rfl := Option.some.inj ht'
      exact ⟨hname, haffected _ List.mem_cons_self⟩
    · exact haffected _ (List.mem_cons_of_mem _ (List.mem_map_of_mem hl))
  · rintro ⟨hname, hlearners⟩
    obtain ⟨hname, hid⟩ := hname t rfl
    refine ⟨⟨hname, ?_⟩, ?_, ?_, ?_⟩
    · intro hnil
      rw [List.map_eq_nil_iff.mp hnil] at hlearn
      cases hlearn
    · intro addressees haddressees
      obtain rfl := Option.some.inj haddressees
      exact ⟨t, htmem, .inl htcan, List.mem_cons_self⟩
    · rintro suggestion ⟨⟩
    · intro v hv
      rcases List.mem_cons.mp hv with rfl | hv
      · exact hid
      · obtain ⟨l, hl, rfl⟩ := List.mem_map.mp hv
        exact hlearners l hl

/-- **Boosts.** A boost is for all participants observed as disengaged, and names the first. -/
lemma addresses_engagementBoost_iff {c : WFCConstraint}
    (hc : buildAction c session =
      .engagementBoost ((session.observed .disengaged).map (·.participantId))
        ((((session.observed .disengaged).head?.map (·.participantName)).getD "undefined") ++
          "님은 어떻게 생각하세요?"))
    (hlong : ∃ p ∈ session.observed .disengaged, 30000 < now - p.lastUpdate) :
    Addresses session now .disengagement_boost (.of session (some c)) ↔
      AddresseesFit session now .disengagement_boost := by
  obtain ⟨p, hp, hold⟩ := hlong
  obtain ⟨hpmem, hpstate⟩ := mem_observed.mp hp
  obtain ⟨d, ds, hds⟩ := List.exists_cons_of_ne_nil (List.ne_nil_of_mem hp)
  rw [addresses_of_iff, hc]
  unfold AddresseesFit
  rw [hds]
  constructor
  · rintro ⟨-, -, hnamed, -⟩
    obtain ⟨q, hq, ⟨hstate, hlong⟩, hname⟩ := hnamed _ rfl
    refine ⟨q, hds ▸ mem_observed.mpr ⟨hq, hstate⟩, hlong, congrArg some ?_⟩
    exact String.append_left_inj _ |>.mp hname
  · rintro ⟨q, hq, hlong, hname⟩
    obtain ⟨hqmem, hqstate⟩ := mem_observed.mp (hds ▸ hq)
    have hname' : d.participantName = q.participantName := Option.some.inj hname
    refine ⟨(by rintro ⟨⟩), ?_, ?_, ?_⟩
    · intro addressees haddressees
      obtain rfl := Option.some.inj haddressees
      exact ⟨q, hqmem, ⟨hqstate, hlong⟩, List.mem_map_of_mem hq⟩
    · intro suggestion hsuggestion
      obtain rfl := Option.some.inj hsuggestion
      exact ⟨q, hqmem, ⟨hqstate, hlong⟩, congrArg (· ++ "님은 어떻게 생각하세요?") hname'⟩
    · intro v hv
      have hobserved : v ∈ (session.observed .disengaged).map (·.participantId) := hds ▸ hv
      exact isParticipant_of_observed hobserved

/-- **Everyone.** An action without addressees concerns all participants. -/
lemma addresses_everyone {id : ConstraintId} {c : WFCConstraint}
    (hnone : (buildAction c session).addressees = none)
    (hfilled : (buildAction c session).Filled)
    (hsuggestion : (buildAction c session).suggestion = none)
    (hall : getAffectedParticipants (buildAction c session) session =
      session.participants.keys) : Addresses session now id (.of session (some c)) := by
  refine addresses_of_iff.mpr ⟨hfilled, ?_, ?_, ?_⟩
  · rw [hnone]
    rintro addressees ⟨⟩
  · rw [hsuggestion]
    rintro suggestion ⟨⟩
  · rw [hall]
    exact fun v hv => .inl hv

end Evaluation

/-- **Addressees.** For every session and every constraint that fires on it, the result is addressed
to someone who made the condition true, names such a participant if it names one, and concerns
participants of the session only, if and only if the tests of the condition and of the action agree
on the session. -/
theorem addresses_iff [Rounding] {engine : WFCEngine} {session : PerplexitySession} {now : ℕ}
    {c : WFCConstraint} (h : fired engine session now = some c) :
    Addresses session now c.id (propagate engine session now).2 ↔
      AddresseesFit session now c.id := by
  rw [propagate_result, h]
  have hmem := mem_of_arbitrate h
  have hadmits : engine.admits session now c = true := ok_of_arbitrate h
  have hcondition : c.condition session now = true := (Bool.and_eq_true_iff.mp hadmits).2
  simp only [DEFAULT_CONSTRAINTS, List.mem_cons, List.not_mem_nil, or_false] at hmem
  rcases hmem with rfl | rfl | rfl | rfl | rfl | rfl
  · -- confusion_intervention
    refine iff_of_true ((addresses_aiIntervention_iff rfl).mpr ?_) trivial
    dsimp only at hcondition
    split at hcondition
    · cases hcondition
    · obtain ⟨p, hp⟩ := exists_confused (of_decide_eq_true hcondition)
      obtain ⟨hcell, hstate⟩ := mem_observed.mp hp
      exact ⟨p, hcell, hstate, List.mem_map_of_mem hp⟩
  · -- single_confusion_assist
    exact addresses_aiIntervention_iff rfl
  · -- peer_teaching_opportunity
    dsimp only at hcondition
    split at hcondition
    · cases hcondition
    · obtain ⟨hteach, hlearn⟩ := Bool.and_eq_true_iff.mp hcondition
      exact addresses_peerTeaching_iff rfl (of_decide_eq_true hteach) (of_decide_eq_true hlearn)
  · -- high_entropy_summary
    exact iff_of_true (addresses_everyone rfl (fun hnone => by cases hnone) rfl rfl) trivial
  · -- disengagement_boost
    obtain ⟨p, hp, hlong⟩ := List.any_eq_true.mp hcondition
    exact addresses_engagementBoost_iff rfl ⟨p, hp, of_decide_eq_true hlong⟩
  · -- all_understood_advance
    exact iff_of_true (addresses_everyone rfl (fun hnone => by cases hnone) rfl rfl) trivial

/-- A cell after some observations, each of high confidence. -/
def observedCell (participantId participantName : String) (states : List CognitiveState) :
    ParticipantCell :=
  states.foldl (fun cell state => collapseState cell state (9 / 10) 1000)
    (createParticipantCell participantId participantName 1000)

/-- A session with some cells. -/
def sessionWith (cells : List ParticipantCell) : PerplexitySession :=
  updateSessionEntropy
    { serial := 0
      roomId := "a"
      isActive := true
      startTime := 1000
      participants := cells.foldl (fun participants p => participants.set p.participantId p) ∅
      topics := ∅
      currentTopic := none
      sessionEntropy := 0
      entropyLevel := .low
      actionHistory := []
      lastPropagation := 1000
      recentTranscripts := [] }

/-- No constraint has fired. -/
def fresh : WFCEngine := ⟨fun _ => none⟩

/-- One of three participants has been confused three times, and still is. -/
def stillConfused : PerplexitySession :=
  sessionWith [observedCell "u1" "Min" [.absorbing], observedCell "u2" "Jun" [.absorbing],
    observedCell "u3" "Ara" [.confused, .confused, .confused]]

/-- The assistance is for that participant. -/
theorem addresses_iff_still_confused :
    (propagate fresh stillConfused 2000).2.affectedParticipants = ["u3"] ∧
      Addresses stillConfused 2000 .single_confusion_assist
        (propagate fresh stillConfused 2000).2 := by
  obtain ⟨c, hc, hid⟩ := Option.map_eq_some_iff.mp (show
    (fired fresh stillConfused 2000).map (·.id) = some .single_confusion_assist by
      decide +kernel)
  refine ⟨by decide +kernel, hid ▸ (addresses_iff hc).mpr (hid ▸ ?_)⟩
  show ∃ p ∈ stillConfused.cells, 3 ≤ p.confusionCount ∧
    p.participantId ∈ (stillConfused.observed .confused).map (·.participantId)
  decide +kernel

/-- A participant has been confused three times, and is not any more. -/
def recovered : PerplexitySession :=
  sessionWith [observedCell "u1" "Min" [.absorbing],
    observedCell "u3" "Ara" [.confused, .confused, .confused, .absorbing]]

/-- **Assistance for nobody.** The count of the participant makes the condition true, and no one is
observed as confused. -/
theorem assist_for_nobody :
    (propagate fresh recovered 2000).2.triggeredConstraints = [.single_confusion_assist] ∧
      (propagate fresh recovered 2000).2.actions =
        [.aiIntervention "혹시 이해가 안 되는 부분이 있으신가요?" []] ∧
      ¬ Addresses recovered 2000 .single_confusion_assist
        (propagate fresh recovered 2000).2 := by
  have hactions : (propagate fresh recovered 2000).2.actions =
      [.aiIntervention "혹시 이해가 안 되는 부분이 있으신가요?" []] := by decide +kernel
  refine ⟨by decide +kernel, hactions, fun h => ?_⟩
  have hfilled : (some [] : Option (List String)) ≠ some [] :=
    h.filled (.aiIntervention "혹시 이해가 안 되는 부분이 있으신가요?" [])
      (hactions ▸ List.mem_singleton_self _)
  exact hfilled rfl

end Perplexity
