import AuraLive.Foundations.EventSystem
import AuraLive.Perplexity.Engine
import Mathlib.Algebra.Order.Field.Basic
import Mathlib.Data.List.Perm.Subperm
import Mathlib.Tactic.NormNum

set_option relaxedAutoImplicit false
set_option autoImplicit false

/-!
# The cells of the participants

A cell starts with all six states possible and is changed by observations only. It is well formed
as long as some state is possible, the observed one among them, and the entropy is the one of the
possible states. An observation can break this in three ways: at medium confidence it can rule
out every possible state, or rule out the observed state without settling on another, and at low
confidence it can repeat the only possible state, whose entropy then becomes `1 / 6`.

## Main definitions

* `Perplexity.cellSystem` — a cell under a sequence of `collapseState` calls.
* `Perplexity.WellFormed` — the invariant of a cell.
* `Perplexity.Consistent` — an observation that fits the cell it is made of.

## Main results

* `Perplexity.collapseState_wellFormed_iff` — an observation keeps a cell well formed exactly when
  it is consistent with it.
* `Perplexity.cell_wellFormed_iff` — a cell is well formed after every observation of a run exactly
  when every observation of the run is consistent.
-/

namespace Perplexity

open Foundations

/-- A call of `collapseState`. -/
structure Observation where
  state : CognitiveState
  confidence : ℚ
  now : ℕ
  deriving DecidableEq

/-- A cell under observations. -/
def cellSystem (participantId participantName : String) (now : ℕ) :
    EventSystem ParticipantCell Observation where
  init := createParticipantCell participantId participantName now
  step cell o := some (collapseState cell o.state o.confidence o.now)

/-- The entropy of a list of possible states: `0` for one state, else a sixth for each. -/
def entropyOf (possible : List CognitiveState) : ℚ :=
  if possible.length = 1 then 0 else possible.length / 6

/-- The invariant of a cell. -/
structure WellFormed (cell : ParticipantCell) : Prop where
  /-- Some state is possible. -/
  nonempty : cell.possibleStates ≠ []
  /-- No state is listed twice. -/
  nodup : cell.possibleStates.Nodup
  /-- The observed state is possible. -/
  observed : ∀ s, cell.observedState = some s → s ∈ cell.possibleStates
  /-- The entropy is that of the possible states. -/
  entropy : cell.entropy = entropyOf cell.possibleStates
  /-- The entropy is a fraction. -/
  fraction : 0 ≤ cell.entropy ∧ cell.entropy ≤ 1
  /-- The confusion counter is not negative. -/
  count : 0 ≤ cell.confusionCount

/-- An observation that fits a cell. At medium confidence some possible state survives it, and
either the observed state does or exactly one possible state does; at low confidence it does not
repeat the only possible state. -/
def Consistent (cell : ParticipantCell) (o : Observation) : Prop :=
  (5 / 10 ≤ o.confidence → o.confidence < 7 / 10 →
    cell.possibleStates.any (survives o.state) = true ∧
      ((∀ s, cell.observedState = some s → survives o.state s = true) ∨
        (cell.possibleStates.filter (survives o.state)).length = 1)) ∧
  (o.confidence < 5 / 10 → cell.possibleStates ≠ [o.state])

/-! ## One observation -/

/-- At most six states are possible. -/
lemma length_le_six {possible : List CognitiveState} (h : possible.Nodup) :
    possible.length ≤ 6 := by
  have hsub : possible ⊆ [.confused, .absorbing, .thinking, .contributing, .understood,
      .disengaged] := by
    intro s _
    cases s <;> simp
  exact (List.subperm_of_subset h hsub).length_le

/-- The entropy of a list of distinct states is a fraction. -/
lemma entropyOf_mem {possible : List CognitiveState} (h : possible.Nodup) :
    0 ≤ entropyOf possible ∧ entropyOf possible ≤ 1 := by
  have hlen : (possible.length : ℚ) ≤ 6 := by exact_mod_cast length_le_six h
  have hpos : (0 : ℚ) ≤ possible.length := Nat.cast_nonneg _
  unfold entropyOf
  split
  · exact ⟨le_refl 0, zero_le_one⟩
  · constructor
    · exact div_nonneg hpos (by norm_num)
    · rw [div_le_one (by norm_num)]
      exact hlen

/-- The confusion counter stays non-negative. -/
lemma countConfusion_nonneg (state : CognitiveState) {count : ℤ} (h : 0 ≤ count) :
    0 ≤ countConfusion state count := by
  cases state <;> simp [countConfusion] <;> omega

/-- A cell is well formed when its possible states, observed state, entropy and counter are. -/
lemma wellFormed_of {cell : ParticipantCell} (hne : cell.possibleStates ≠ [])
    (hnd : cell.possibleStates.Nodup)
    (hobs : ∀ s, cell.observedState = some s → s ∈ cell.possibleStates)
    (hent : cell.entropy = entropyOf cell.possibleStates) (hcount : 0 ≤ cell.confusionCount) :
    WellFormed cell :=
  ⟨hne, hnd, hobs, hent, hent ▸ entropyOf_mem hnd, hcount⟩

variable {cell : ParticipantCell} {o : Observation}

/-- An observation of high confidence leaves one possible state, the observed one. -/
lemma narrow_high {state : CognitiveState} {confidence : ℚ} (h : 7 / 10 ≤ confidence) :
    narrow cell state confidence =
      { cell with observedState := some state, possibleStates := [state], entropy := 0 } := by
  rw [narrow, if_pos h]

/-- An observation of medium confidence keeps the compatible states. -/
lemma narrow_medium_possibleStates (cell : ParticipantCell) (state : CognitiveState)
    {confidence : ℚ}
    (h : 5 / 10 ≤ confidence) (h' : confidence < 7 / 10) :
    (narrow cell state confidence).possibleStates =
      cell.possibleStates.filter (survives state) := by
  rw [narrow, if_neg (not_le.mpr h'), if_pos h]
  split <;> simp_all

/-- The entropy after an observation of medium confidence fits the remaining states. -/
lemma narrow_medium_entropy (cell : ParticipantCell) (state : CognitiveState) {confidence : ℚ}
    (h : 5 / 10 ≤ confidence) (h' : confidence < 7 / 10) :
    (narrow cell state confidence).entropy =
      entropyOf (cell.possibleStates.filter (survives state)) := by
  rw [narrow, if_neg (not_le.mpr h'), if_pos h]
  split
  · rename_i s hs
    simp [hs, entropyOf]
  · rename_i hs
    have hlen : (cell.possibleStates.filter (survives state)).length ≠ 1 := by
      intro hone
      obtain ⟨s, hs'⟩ := List.length_eq_one_iff.mp hone
      exact hs s hs'
    simp [entropyOf, hlen]

/-- The observed state after an observation of medium confidence: the remaining state if there is
exactly one, else the one before. -/
lemma narrow_medium_observedState (cell : ParticipantCell) (state : CognitiveState) {confidence : ℚ}
    (h : 5 / 10 ≤ confidence) (h' : confidence < 7 / 10) :
    (narrow cell state confidence).observedState =
      if (cell.possibleStates.filter (survives state)).length = 1 then
        (cell.possibleStates.filter (survives state)).head?
      else cell.observedState := by
  rw [narrow, if_neg (not_le.mpr h'), if_pos h]
  split
  · rename_i s hs
    simp [hs]
  · rename_i hs
    have hlen : (cell.possibleStates.filter (survives state)).length ≠ 1 := by
      intro hone
      obtain ⟨s, hs'⟩ := List.length_eq_one_iff.mp hone
      exact hs s hs'
    rw [if_neg hlen]

/-- The possible states after an observation of low confidence. -/
def hinted (possible : List CognitiveState) (state : CognitiveState) : List CognitiveState :=
  if possible.contains state then possible else possible ++ [state]

/-- An observation of low confidence adds the state to the possible ones. -/
lemma narrow_low {state : CognitiveState} {confidence : ℚ} (h : confidence < 5 / 10) :
    narrow cell state confidence =
      { cell with
        possibleStates := hinted cell.possibleStates state
        entropy := (hinted cell.possibleStates state).length / 6 } := by
  have h' : ¬ 7 / 10 ≤ confidence := by
    intro h7
    exact absurd (lt_of_le_of_lt h7 h) (by norm_num)
  rw [narrow, if_neg h', if_neg (not_le.mpr h)]
  rfl

/-- A hint lists no state twice. -/
lemma hinted_nodup {possible : List CognitiveState} (h : possible.Nodup)
    (state : CognitiveState) : (hinted possible state).Nodup := by
  unfold hinted
  split
  · exact h
  · rename_i hmem
    exact List.Nodup.append h (by simp) (by simpa using hmem)

/-- A hint rules nothing out. -/
lemma mem_hinted {possible : List CognitiveState} {s : CognitiveState} (h : s ∈ possible)
    (state : CognitiveState) : s ∈ hinted possible state := by
  unfold hinted
  split
  · exact h
  · exact List.mem_append_left _ h

/-- A hint leaves exactly one possible state only where it repeats it. -/
lemma hinted_length_eq_one {possible : List CognitiveState} (h : possible ≠ [])
    {state : CognitiveState} : (hinted possible state).length = 1 ↔ possible = [state] := by
  obtain ⟨s, rest, rfl⟩ := List.exists_cons_of_ne_nil h
  unfold hinted
  split
  · rename_i hmem
    constructor
    · intro hlen
      have hrest : rest = [] := by simpa using hlen
      subst hrest
      simp at hmem
      rw [hmem]
    · intro heq
      simp [heq]
  · rename_i hmem
    constructor
    · intro hlen
      simp at hlen
    · intro heq
      simp [heq] at hmem

/-- A consistent observation keeps a cell well formed.

**Proof sketch.** By the range of the confidence. The possible states are a singleton, a non-empty
part of the old ones, or the old ones with a hint; the entropy is computed from them except that a
hint does not treat a singleton apart, which `Consistent` excludes. -/
lemma collapseState_wellFormed (hw : WellFormed cell) (hc : Consistent cell o) :
    WellFormed (collapseState cell o.state o.confidence o.now) := by
  have hcount := countConfusion_nonneg o.state hw.count
  by_cases h7 : 7 / 10 ≤ o.confidence
  · refine wellFormed_of ?_ ?_ ?_ ?_ hcount <;> simp [collapseState, narrow_high h7, entropyOf]
  rw [not_le] at h7
  by_cases h5 : 5 / 10 ≤ o.confidence
  · obtain ⟨hany, hobs⟩ := hc.1 h5 h7
    have hposs := narrow_medium_possibleStates cell o.state h5 h7
    have hobserved := narrow_medium_observedState cell o.state h5 h7
    obtain ⟨s, hs, hsurv⟩ := List.any_eq_true.mp hany
    have hmem : s ∈ cell.possibleStates.filter (survives o.state) :=
      List.mem_filter.mpr ⟨hs, hsurv⟩
    refine wellFormed_of ?_ ?_ ?_ ?_ hcount
    · simp only [collapseState, hposs]
      exact List.ne_nil_of_mem hmem
    · simp only [collapseState, hposs]
      exact hw.nodup.filter _
    · intro s' hs'
      simp only [collapseState, hposs, hobserved] at hs' ⊢
      split at hs'
      · exact List.mem_of_mem_head? hs'
      · rename_i hlen
        refine List.mem_filter.mpr ⟨hw.observed s' hs', ?_⟩
        exact (hobs.resolve_right hlen) s' hs'
    · simp only [collapseState, hposs]
      exact narrow_medium_entropy cell o.state h5 h7
  · rw [not_le] at h5
    have hlen : (hinted cell.possibleStates o.state).length ≠ 1 := fun h =>
      hc.2 h5 ((hinted_length_eq_one hw.nonempty).mp h)
    refine wellFormed_of ?_ ?_ ?_ ?_ hcount <;> simp only [collapseState, narrow_low h5]
    · obtain ⟨s, rest, hs⟩ := List.exists_cons_of_ne_nil hw.nonempty
      exact List.ne_nil_of_mem (mem_hinted (s := s) (by simp [hs]) o.state)
    · exact hinted_nodup hw.nodup o.state
    · exact fun s hs => mem_hinted (hw.observed s hs) o.state
    · simp [entropyOf, hlen]

/-- An observation that does not fit a well-formed cell leaves an ill-formed one. -/
lemma collapseState_not_wellFormed (hw : WellFormed cell) (hc : ¬ Consistent cell o) :
    ¬ WellFormed (collapseState cell o.state o.confidence o.now) := by
  intro hw'
  apply hc
  constructor
  · intro h5 h7
    have hposs := narrow_medium_possibleStates cell o.state h5 h7
    have hobserved := narrow_medium_observedState cell o.state h5 h7
    have hne := hw'.nonempty
    simp only [collapseState, hposs] at hne
    refine ⟨?_, ?_⟩
    · obtain ⟨s, rest, hs⟩ := List.exists_cons_of_ne_nil hne
      have hmem : s ∈ cell.possibleStates.filter (survives o.state) := by simp [hs]
      obtain ⟨hs₁, hs₂⟩ := List.mem_filter.mp hmem
      exact List.any_eq_true.mpr ⟨s, hs₁, hs₂⟩
    · by_cases hlen : (cell.possibleStates.filter (survives o.state)).length = 1
      · exact .inr hlen
      · refine .inl fun s hs => ?_
        have hmem := hw'.observed s
        simp only [collapseState, hposs, hobserved, if_neg hlen] at hmem
        exact (List.mem_filter.mp (hmem hs)).2
  · intro h5 hsingle
    have hlen : (hinted cell.possibleStates o.state).length = 1 :=
      (hinted_length_eq_one hw.nonempty).mpr hsingle
    have hent := hw'.entropy
    simp only [collapseState, narrow_low h5, entropyOf, hlen, if_true] at hent
    norm_num at hent

/-- **One observation.** It keeps a well-formed cell well formed exactly when it is consistent
with the cell. -/
theorem collapseState_wellFormed_iff (hw : WellFormed cell) :
    WellFormed (collapseState cell o.state o.confidence o.now) ↔ Consistent cell o :=
  ⟨fun h => by_contra fun hc => collapseState_not_wellFormed hw hc h,
    collapseState_wellFormed hw⟩

/-! ## Runs -/

/-- A new cell is well formed. -/
lemma createParticipantCell_wellFormed (participantId participantName : String) (now : ℕ) :
    WellFormed (createParticipantCell participantId participantName now) := by
  refine wellFormed_of ?_ ?_ ?_ ?_ ?_ <;> simp [createParticipantCell, entropyOf]

/-- **Cells stay well formed exactly under consistent observations.** In a run of `collapseState`
calls on a new cell, the cell is well formed after every call exactly when every observation is
consistent with the cell it finds. -/
theorem cell_wellFormed_iff (participantId participantName : String) (now : ℕ)
    (os : List Observation) :
    (cellSystem participantId participantName now).AllStates WellFormed
        (createParticipantCell participantId participantName now) os ↔
      (cellSystem participantId participantName now).AllSteps Consistent
        (createParticipantCell participantId participantName now) os := by
  have hpossible : ∀ (os : List Observation) (cell : ParticipantCell),
      ∃ cell', (cellSystem participantId participantName now).exec cell os = some cell' := by
    intro os
    induction os with
    | nil => exact fun cell => ⟨cell, rfl⟩
    | cons o os ih => exact fun cell => ih _
  obtain ⟨cell', hrun⟩ := hpossible os (createParticipantCell participantId participantName now)
  refine EventSystem.allStates_iff_of_step_iff (B := fun _ => True) (fun _ _ _ _ _ => trivial) ?_
    trivial (createParticipantCell_wellFormed participantId participantName now) hrun
  intro cell o cell' _ hw hstep
  cases hstep
  exact collapseState_wellFormed_iff hw

/-- A participant is first seen disengaged and then, with medium confidence, thinking: no state is
possible any more. -/
theorem cell_runs_empty :
    ¬ (cellSystem "kim" "Kim" 1).AllStates WellFormed (createParticipantCell "kim" "Kim" 1)
      [⟨.disengaged, 9 / 10, 2⟩, ⟨.thinking, 6 / 10, 3⟩] := by
  intro h
  have hlast := (h.last (t := _) rfl).nonempty
  exact hlast (by decide +kernel)

end Perplexity
