import AuraLive.Perplexity.Steps

set_option relaxedAutoImplicit false
set_option autoImplicit false

/-!
# Protection of text evidence

A state inferred from what a participant said is to hold against the frontend's guesses for five
seconds. `handleEntropyReport` skips cells whose `textInferredAt` is that recent;
`handleStateUpdate` has no such test, and a cell that is created again has no stamp.

## Main definitions

* `Perplexity.evidence` — what is protected of a cell.
* `Perplexity.TextProtected` — a frontend message leaves the evidence on participants whose text was
  recently understood as it is.
* `Perplexity.Repeats` — an observation that tells nothing new.
* `Perplexity.Honours` — the condition on a call.
* `Perplexity.Covered` — the invariant: cells carry the stamp of every recent inference.

## Main results

* `Perplexity.evidence_collapseState_iff` — an observation leaves the evidence as it is exactly when
  it tells nothing new.
* `Perplexity.text_protected` — in a run whose calls meet the condition, text evidence is protected.
-/

namespace Perplexity

open Foundations

section Arithmetic

variable [Rounding] {s s' : PerplexityService} {e : Event}

/-- What is protected of a cell. -/
def evidence (cell : ParticipantCell) : Option CognitiveState × List CognitiveState × ℤ :=
  (cell.observedState, cell.possibleStates, cell.confusionCount)

/-- The cell of a participant of a room. -/
def PerplexityService.cell (s : PerplexityService) (r : RoomId) (p : String) :
    Option ParticipantCell :=
  (s.sessions.get r).bind fun session => session.participants.get p

/-- The messages by which the frontend reports states. -/
def Call.isFrontend : Call → Bool
  | .handleMessage (.stateUpdate _) => true
  | .handleMessage (.entropyReport _) => true
  | _ => false

/-- A state of the participant `p` was inferred in the present session of the room less than five
seconds ago. -/
def RecentText (s : PerplexityService) (e : Event) (p : String) : Prop :=
  ∃ i ∈ s.inferences, i.roomId = e.roomId ∧ i.participantId = p ∧
    (s.sessions.get e.roomId).map (·.serial) = some i.serial ∧ e.now < i.now + 5000

instance (s : PerplexityService) (e : Event) (p : String) : Decidable (RecentText s e p) :=
  inferInstanceAs (Decidable (∃ i ∈ s.inferences, _))

/-- A frontend message does not change the evidence on a participant with a recent text. -/
def TextProtected (s : PerplexityService) (e : Event) : Prop :=
  ∀ s', perplexity.step s e = some s' → e.call.isFrontend = true → ∀ p, RecentText s e p →
    (s'.cell e.roomId p).map evidence = (s.cell e.roomId p).map evidence

/-- An observation that tells nothing new: it does not move the confusion counter and, with high
confidence, names the one possible and observed state, with medium confidence rules out no possible
state, with low confidence names a possible state. -/
def Repeats (cell : ParticipantCell) (state : CognitiveState) (confidence : ℚ) : Prop :=
  countConfusion state cell.confusionCount = cell.confusionCount ∧
    if 7 / 10 ≤ confidence then
      cell.observedState = some state ∧ cell.possibleStates = [state]
    else if 5 / 10 ≤ confidence then
      (∀ s ∈ cell.possibleStates, survives state s = true) ∧
        (cell.possibleStates.length = 1 → cell.observedState = cell.possibleStates.head?)
    else state ∈ cell.possibleStates

instance (cell : ParticipantCell) (state : CognitiveState) (confidence : ℚ) :
    Decidable (Repeats cell state confidence) := by
  delta Repeats
  infer_instance

/-- The payload of a `STATE_UPDATE`. -/
def Call.stateUpdate? : Call → Option StateUpdatePayload
  | .handleMessage (.stateUpdate payload) => some payload
  | _ => none

/-- The participant that is added. -/
def Call.added? : Call → Option String
  | .addParticipant p _ => some p
  | _ => none

/-- A call that honours text evidence: within five seconds of a text of a participant, a
`STATE_UPDATE` for the participant tells nothing new, and no new cell is created for it. -/
def Honours (s : PerplexityService) (e : Event) : Prop :=
  (∀ payload ∈ e.call.stateUpdate?, RecentText s e payload.participantId →
    ∀ state ∈ payload.state, ∀ cell ∈ s.cell e.roomId payload.participantId,
      Repeats cell state payload.confidence) ∧
  ∀ p ∈ e.call.added?, s.cell e.roomId p = none → ¬ RecentText s e p

instance (s : PerplexityService) (e : Event) : Decidable (Honours s e) :=
  inferInstanceAs (Decidable (_ ∧ _))

/-! ## Observations that tell nothing new -/

omit [Rounding] in
/-- **Observations that tell nothing new.** An observation leaves the evidence of a cell as it is
exactly when it tells nothing new. -/
theorem evidence_collapseState_iff {cell : ParticipantCell} {state : CognitiveState}
    {confidence : ℚ} {now : ℕ} :
    evidence (collapseState cell state confidence now) = evidence cell ↔
      Repeats cell state confidence := by
  simp only [evidence, collapseState, Repeats, Prod.mk.injEq]
  rw [← and_assoc, and_comm]
  refine and_congr_right fun _ => ?_
  unfold narrow
  split
  · simp [eq_comm]
  · split
    · split
      · rename_i s hs
        constructor
        · rintro ⟨hobs, hposs⟩
          have hmem : s ∈ cell.possibleStates.filter (survives state) := by simp [hs]
          refine ⟨fun s' hs' => ?_, fun _ => ?_⟩
          · rw [← hposs, List.mem_singleton] at hs'
            exact hs' ▸ (List.mem_filter.mp hmem).2
          · rw [← hposs, ← hobs]
            rfl
        · rintro ⟨hall, hone⟩
          have hposs : cell.possibleStates = [s] := (List.filter_eq_self.mpr hall).symm.trans hs
          have hobs := hone (by simp [hposs])
          rw [hobs, hposs]
          exact ⟨rfl, rfl⟩
      · rename_i hs
        simp only [true_and]
        rw [List.filter_eq_self]
        refine ⟨fun hall => ⟨hall, fun hlen => ?_⟩, fun h => h.1⟩
        obtain ⟨s', hs'⟩ := List.length_eq_one_iff.mp hlen
        have hself : cell.possibleStates.filter (survives state) = [s'] := by
          rw [List.filter_eq_self.mpr hall, hs']
        exact absurd hself (hs s')
    · simp

/-! ## Cells under calls -/

/-- The cells of a session keep their text stamps. -/
def KeepsStamps (session session' : PerplexitySession) : Prop :=
  ∀ p cell', session'.participants.get p = some cell' →
    ∃ cell, session.participants.get p = some cell ∧
      cell'.textInferredAt = cell.textInferredAt

omit [Rounding] in
/-- Stamps are kept over two changes. -/
lemma KeepsStamps.trans {a b c : PerplexitySession} (h : KeepsStamps a b) (h' : KeepsStamps b c) :
    KeepsStamps a c := by
  intro p cell'' hc
  obtain ⟨cell', hb, heq'⟩ := h' p cell'' hc
  obtain ⟨cell, ha, heq⟩ := h p cell' hb
  exact ⟨cell, ha, heq'.trans heq⟩

omit [Rounding] in
/-- An unchanged session. -/
lemma KeepsStamps.refl (session : PerplexitySession) : KeepsStamps session session :=
  fun _ cell' h => ⟨cell', h, rfl⟩

omit [Rounding] in
/-- An observation keeps the text stamp of a cell. -/
lemma collapseState_textInferredAt (cell : ParticipantCell) (state : CognitiveState)
    (confidence : ℚ) (now : ℕ) :
    (collapseState cell state confidence now).textInferredAt = cell.textInferredAt := by
  simp only [collapseState, narrow]
  repeat' split
  all_goals rfl

omit [Rounding] in
/-- Observations keep the text stamps. -/
lemma KeepsStamps.observe {session : PerplexitySession} {participantId : String}
    {cell : ParticipantCell} (hcell : session.participants.get participantId = some cell)
    (state : CognitiveState) (confidence : ℚ) (now : ℕ) :
    KeepsStamps session (session.observe participantId cell state confidence now) := by
  intro p cell' h
  simp only [PerplexitySession.observe, JsMap.get_set] at h
  split at h
  · rename_i hp
    cases h
    exact ⟨cell, hp ▸ hcell, collapseState_textInferredAt cell state confidence now⟩
  · exact ⟨cell', h, rfl⟩

omit [Rounding] in
/-- An entry of a report keeps the text stamps. -/
lemma KeepsStamps.applyReport (session : PerplexitySession) (now : ℕ) (update : StateReport) :
    KeepsStamps session (session.applyReport now update) := by
  unfold PerplexitySession.applyReport
  split
  · rename_i cell state hcell hstate
    split
    · exact .refl session
    · exact .observe hcell state _ now
  · exact .refl session

omit [Rounding] in
/-- A report keeps the text stamps. -/
lemma KeepsStamps.applyReports (now : ℕ) (updates : List StateReport)
    (session : PerplexitySession) : KeepsStamps session (session.applyReports now updates) := by
  unfold PerplexitySession.applyReports
  induction updates generalizing session with
  | nil => exact .refl session
  | cons u updates ih => exact (KeepsStamps.applyReport session now u).trans (ih _)

omit [Rounding] in
/-- A report leaves protected cells alone. -/
lemma applyReports_of_protected {now : ℕ} {p : String} {cell : ParticipantCell}
    (hprot : cell.textProtected now = true) (updates : List StateReport)
    {session : PerplexitySession} (hcell : session.participants.get p = some cell) :
    (session.applyReports now updates).participants.get p = some cell := by
  unfold PerplexitySession.applyReports
  induction updates generalizing session with
  | nil => exact hcell
  | cons u updates ih =>
    refine ih ?_
    show (session.applyReport now u).participants.get p = some cell
    unfold PerplexitySession.applyReport
    split
    · rename_i cell' state hcell' hstate
      by_cases hp : u.participantId = p
      · have heq : cell' = cell := Option.some.inj (hcell'.symm.trans (hp ▸ hcell))
        rw [heq, if_pos hprot]
        exact hcell
      · split
        · exact hcell
        · simp only [PerplexitySession.observe, JsMap.get_set_of_ne _ hp]
          exact hcell
    · exact hcell

omit [Rounding] in
/-- A text stamps the cell of the speaker and keeps the other stamps. -/
lemma applyText_stamp {session : PerplexitySession} {participantId p : String}
    {state : CognitiveState} {now : ℕ} {cell' : ParticipantCell}
    (h : (session.applyText participantId state now).participants.get p = some cell') :
    if participantId = p then cell'.textInferredAt = now
    else session.participants.get p = some cell' := by
  unfold PerplexitySession.applyText at h
  cases hcell : session.participants.get participantId with
  | none =>
    simp only [hcell] at h
    split
    · rename_i hp
      simp [← hp, hcell] at h
    · exact h
  | some cell =>
    simp only [hcell, JsMap.get_set] at h
    split at h
    · rename_i hp
      rw [if_pos hp]
      cases h
      rfl
    · rename_i hp
      rw [if_neg hp]
      exact h

/-- Inferences are recorded for texts only, and stamp the cell of the speaker. -/
lemma Takes.inference {handed : Option PerplexitySession} (h : Takes s e s' handed) {i : Inference}
    (hi : i ∈ s'.inferences) :
    i ∈ s.inferences ∨
      (∃ session, s.sessions.get e.roomId = some session ∧
        i = ⟨e.roomId, session.serial, i.participantId, e.now⟩) ∧
      ∀ cell', s'.cell e.roomId i.participantId = some cell' → cell'.textInferredAt = e.now := by
  cases h with
  | infer hcall hsession =>
    rcases List.mem_cons.mp hi with rfl | hi
    · refine .inr ⟨⟨_, hsession, rfl⟩, fun cell' hcell' => ?_⟩
      simp only [PerplexityService.cell, PerplexityService.put, JsMap.get_set_self,
        Option.bind_some] at hcell'
      simpa using applyText_stamp hcell'
    · exact .inl hi
  | _ => exact .inl hi

/-- Where the text stamp of a cell comes from: it was there before, or is set by this call, or the
cell is new.

**Proof sketch.** One case for each way to take a call in. Only a text sets the stamp of the
speaker, to the present; observations and reports keep it, and a participant who joins gets a new
cell. -/
lemma Takes.stamp {handed : Option PerplexitySession} (h : Takes s e s' handed) {p : String}
    {cell' : ParticipantCell} (hc' : s'.cell e.roomId p = some cell') :
    (∃ cell, s.cell e.roomId p = some cell ∧ cell'.textInferredAt = cell.textInferredAt) ∨
      cell'.textInferredAt = e.now ∨
      ∃ name, e.call = .addParticipant p name ∧ s.cell e.roomId p = none := by
  have hkeep : ∀ session session', s.sessions.get e.roomId = some session →
      KeepsStamps session session' → session'.participants.get p = some cell' →
      ∃ cell, s.cell e.roomId p = some cell ∧ cell'.textInferredAt = cell.textInferredAt := by
    intro session session' hsession hk hp
    obtain ⟨cell, hcell, heq⟩ := hk p cell' hp
    exact ⟨cell, by simp [PerplexityService.cell, hsession, hcell], heq⟩
  cases h with
  | nothing => exact .inl ⟨cell', hc', rfl⟩
  | start => simp [PerplexityService.cell, PerplexityService.startSession] at hc'
  | stop => simp [PerplexityService.cell, PerplexityService.endSession] at hc'
  | join hcall hsession hnew =>
    rename_i session q name
    simp only [PerplexityService.cell, PerplexityService.put, JsMap.get_set_self,
      Option.bind_some, JsMap.get_set] at hc'
    split at hc'
    · rename_i hqp
      subst hqp
      exact .inr (.inr ⟨name, hcall, by simp [PerplexityService.cell, hsession, hnew]⟩)
    · exact .inl ⟨cell', by simp [PerplexityService.cell, hsession, hc'], rfl⟩
  | leave _ hsession =>
    simp only [PerplexityService.cell, PerplexityService.put, JsMap.get_set_self,
      Option.bind_some, JsMap.get_delete] at hc'
    split at hc'
    · cases hc'
    · exact .inl ⟨cell', by simp [PerplexityService.cell, hsession, hc'], rfl⟩
  | empty => exact .inl ⟨cell', hc', rfl⟩
  | update hcall hsession hactive hcell hstate =>
    simp only [PerplexityService.cell, PerplexityService.put, JsMap.get_set_self,
      Option.bind_some] at hc'
    exact .inl (hkeep _ _ hsession (.observe hcell _ _ _) hc')
  | report hcall hsession hactive =>
    simp only [PerplexityService.cell, PerplexityService.put, JsMap.get_set_self,
      Option.bind_some] at hc'
    exact .inl (hkeep _ _ hsession (.applyReports _ _ _) hc')
  | hear _ hsession =>
    simp only [PerplexityService.cell, PerplexityService.put, JsMap.get_set_self,
      Option.bind_some] at hc'
    exact .inl (hkeep _ _ hsession (.refl _) hc')
  | infer hcall hsession =>
    rename_i session q text state
    simp only [PerplexityService.cell, PerplexityService.put, JsMap.get_set_self,
      Option.bind_some] at hc'
    have hstamp := applyText_stamp hc'
    split at hstamp
    · exact .inr (.inl hstamp)
    · exact .inl (hkeep session session hsession (.refl session) hstamp)

/-- Evaluating constraints does not touch the cells. -/
lemma handle_cell (s : PerplexityService) (e : Event) (p : String) :
    (s.handle e).cell e.roomId p = (s.receive e).1.cell e.roomId p := by
  have htakes := takes_receive s e
  unfold PerplexityService.handle
  split
  · rename_i s₁ heq
    rw [heq]
  · rename_i s₁ session heq
    rw [heq] at htakes ⊢
    unfold PerplexityService.tryPropagate
    split
    · simp [PerplexityService.cell, PerplexityService.evaluate, htakes.handed_get]
    · rfl

/-! ## The invariant -/

/-- The cells carry the stamp of every inference that is less than five seconds old. -/
structure Covered (s : PerplexityService) : Prop where
  /-- The clock is positive. -/
  clock : 0 < s.clock
  /-- Recorded times lie between 0 and the last clock reading. -/
  times : ∀ i ∈ s.inferences, 0 < i.now ∧ i.now ≤ s.clock
  /-- Sessions are numbered from the count of their room. -/
  serial : ∀ r session, s.sessions.get r = some session → session.serial < s.started r
  /-- So are the sessions of recorded inferences. -/
  recorded : ∀ i ∈ s.inferences, i.serial < s.started i.roomId
  /-- A cell of a participant with an inference has its stamp, or the inference is old. -/
  covered : ∀ i ∈ s.inferences,
    (s.sessions.get i.roomId).map (·.serial) = some i.serial →
      ∀ cell, s.cell i.roomId i.participantId = some cell →
        i.now ≤ cell.textInferredAt ∨ i.now + 5000 ≤ s.clock

/-- Nothing is recorded at first. -/
lemma covered_init : Covered perplexity.init := by
  constructor <;> simp [perplexity]

/-- A call that honours text evidence keeps the invariant.

**Proof sketch.** A text stamps the speaker's cell with its own time, which is not before any
recorded one. Other calls keep the stamps of existing cells, and a new cell is not created while
an inference for its participant is recent. -/
lemma Covered.step (hs : Covered s) (hh : Honours s e) (h : perplexity.step s e = some s') :
    Covered s' := by
  have hsteps := (step_cases h).1
  have hclock := hs.clock
  have hle := hsteps.clock
  have hclock' := hsteps.clock'
  have htakes := takes_receive s e
  constructor
  · omega
  · intro i hi
    rw [hsteps.inferences] at hi
    rcases htakes.inference hi with hold | ⟨⟨session, -, heq⟩, -⟩
    · have := hs.times i hold
      omega
    · have hnow : i.now = e.now := by rw [heq]
      omega
  · intro r session' hr
    rcases step_session h hr with ⟨session, hold, hserial, -⟩ | ⟨hserial, hstarted⟩
    · have := hs.serial r session hold
      have := step_started h r
      omega
    · omega
  · intro i hi
    rw [hsteps.inferences] at hi
    have hmono := step_started h i.roomId
    rcases htakes.inference hi with hold | ⟨⟨session, hsession, heq⟩, -⟩
    · have := hs.recorded i hold
      omega
    · have hroom : i.roomId = e.roomId := by rw [heq]
      have hserial : i.serial = session.serial := by rw [heq]
      have := hs.serial e.roomId session hsession
      rw [hroom] at hmono ⊢
      omega
  · intro i hi hserial cell' hcell'
    rw [hsteps.inferences] at hi
    by_cases hroom : i.roomId = e.roomId
    · have hcell : (s.receive e).1.cell e.roomId i.participantId = some cell' := by
        rw [← handle_cell, ← hroom, ← hcell', (step_eq h).2]
        rfl
      rcases htakes.inference hi with hold | ⟨⟨session, -, heq⟩, hstamp⟩
      · have hserial' : (s.sessions.get i.roomId).map (·.serial) = some i.serial := by
          obtain ⟨session', hs', hser⟩ := Option.map_eq_some_iff.mp hserial
          rcases step_session h hs' with ⟨session, hold', heq, -⟩ | ⟨heq, -⟩
          · rw [hold', Option.map_some, ← heq, hser]
          · have := hs.recorded i hold
            omega
        rcases htakes.stamp hcell with ⟨cell, hc, hsame⟩ | hnow | ⟨name, hcall, hnone⟩
        · rcases hs.covered i hold hserial' cell (hroom ▸ hc) with hcov | hcov
          · exact .inl (hsame ▸ hcov)
          · exact .inr (by omega)
        · have := hs.times i hold
          exact .inl (by omega)
        · refine .inr ?_
          by_contra hlate
          exact hh.2 i.participantId (by simp [hcall, Call.added?]) hnone
            ⟨i, hold, hroom, rfl, hroom ▸ hserial', by omega⟩
      · have hnow : i.now = e.now := by rw [heq]
        exact .inl (by rw [hstamp cell' hcell]; omega)
    · rcases htakes.inference hi with hold | ⟨⟨session, -, heq⟩, -⟩
      · have hsame := hsteps.others i.roomId hroom
        rw [hsame] at hserial
        simp only [PerplexityService.cell, hsame] at hcell'
        rcases hs.covered i hold hserial cell' hcell' with hcov | hcov
        · exact .inl hcov
        · exact .inr (by omega)
      · exact absurd (by rw [heq]) hroom

/-! ## Frontend messages -/

/-- A frontend message that honours text evidence leaves it as it is.

**Proof sketch.** Of the ways to take a frontend message in, only an update and a report change
cells. An update of the participant repeats what the text has shown, by the condition. A report
leaves out whom the text protects: the stamp of the cell is at most five seconds old, as the text
was (`Covered`). -/
lemma Covered.textProtected (hs : Covered s) (hh : Honours s e) : TextProtected s e := by
  intro s' hstep hfront p hrecent
  obtain ⟨hclock, rfl⟩ := step_eq hstep
  show ((s.handle e).cell e.roomId p).map evidence = _
  rw [handle_cell]
  have htakes := takes_receive s e
  generalize (s.receive e).1 = s', (s.receive e).2 = handed at htakes
  cases htakes with
  | nothing => rfl
  | start hcall => rcases hcall with hcall | hcall <;> simp [hcall, Call.isFrontend] at hfront
  | stop hcall => rcases hcall with hcall | hcall <;> simp [hcall, Call.isFrontend] at hfront
  | join hcall _ _ => simp [hcall, Call.isFrontend] at hfront
  | leave hcall _ => simp [hcall, Call.isFrontend] at hfront
  | empty => rfl
  | update hcall hsession hactive hcell hstate =>
    rename_i session cell payload state
    by_cases hp : payload.participantId = p
    · subst hp
      have hold : s.cell e.roomId payload.participantId = some cell := by
        simp [PerplexityService.cell, hsession, hcell]
      have hrepeats := hh.1 payload (by simp [hcall, Call.stateUpdate?]) hrecent state hstate
        cell hold
      rw [hold]
      simp only [PerplexityService.cell, PerplexityService.put, JsMap.get_set_self,
        Option.bind_some, PerplexitySession.observe, Option.map_some, Option.some.injEq]
      exact evidence_collapseState_iff.mpr hrepeats
    · simp [PerplexityService.cell, PerplexityService.put, PerplexitySession.observe, hsession, hp]
  | report hcall hsession hactive =>
    rename_i session updates
    obtain ⟨i, hi, hroom, hpart, hserial, hlate⟩ := hrecent
    simp only [PerplexityService.cell, PerplexityService.put, JsMap.get_set_self, hsession,
      Option.bind_some, updateSessionEntropy]
    cases hcell : session.participants.get p with
    | none =>
      cases hcell' : (session.applyReports e.now updates).participants.get p with
      | none => rfl
      | some cell' =>
        obtain ⟨cell, hold, -⟩ := KeepsStamps.applyReports e.now updates session p cell' hcell'
        simp [hcell] at hold
    | some cell =>
      have hold : s.cell i.roomId i.participantId = some cell := by
        simp [PerplexityService.cell, hroom, hpart, hsession, hcell]
      have htime := hs.times i hi
      have hprot : cell.textProtected e.now = true := by
        rcases hs.covered i hi (hroom ▸ hserial) cell hold with hcov | hcov
        · have hpos : 0 < cell.textInferredAt := by omega
          have helapsed : e.now - cell.textInferredAt < 5000 := by omega
          simp [ParticipantCell.textProtected, TEXT_STATE_PROTECTION_MS, hpos, helapsed]
        · omega
      rw [applyReports_of_protected hprot updates hcell]
  | hear hcall _ => simp [hcall, Call.isFrontend] at hfront
  | infer hcall _ => simp [hcall, Call.isFrontend] at hfront

/-- **Text evidence is protected in runs that honour it.** If every call of a run honours text
evidence, then no frontend message of the run changes the observed state, the possible states or
the confusion counter of a participant within five seconds of a state being inferred from its
text. -/
theorem text_protected {es : List Event} (h : perplexity.AllSteps Honours perplexity.init es) :
    perplexity.AllSteps TextProtected perplexity.init es :=
  EventSystem.allSteps_of_invariant (fun _ _ _ hs hh hstep => hs.step hh hstep)
    (fun _ _ hs hh => hs.textProtected hh) covered_init h

end Arithmetic

/-- A report and an update that repeats the text come two and three seconds after it. -/
theorem text_protected_repeated : perplexity.AllSteps TextProtected perplexity.init
    [⟨"a", 1000, .startSession⟩, ⟨"a", 1000, .addParticipant "kim" "Kim"⟩,
      ⟨"a", 2000, .handleMessage (.transcript "kim" "아하")⟩,
      ⟨"a", 4000, .handleMessage (.entropyReport [⟨"kim", some .confused, none⟩])⟩,
      ⟨"a", 5000, .handleMessage (.stateUpdate ⟨"kim", some .understood, 8 / 10⟩)⟩] :=
  text_protected (by decide +kernel)

/-- An update one second after a text. -/
def hastyUpdate : Event :=
  ⟨"a", 3000, .handleMessage (.stateUpdate ⟨"kim", some .confused, 7 / 10⟩)⟩

/-- The update overwrites what the text has shown. -/
theorem update_overwrites_text : ¬ perplexity.AllSteps TextProtected perplexity.init
    ([⟨"a", 1000, .startSession⟩, ⟨"a", 1000, .addParticipant "kim" "Kim"⟩,
      ⟨"a", 2000, .handleMessage (.transcript "kim" "아하")⟩] ++ [hastyUpdate]) := by
  intro h
  obtain ⟨s, hs, hfacts⟩ := Option.map_eq_some_iff.mp (show (perplexity.exec perplexity.init
      [⟨"a", 1000, .startSession⟩, ⟨"a", 1000, .addParticipant "kim" "Kim"⟩,
        ⟨"a", 2000, .handleMessage (.transcript "kim" "아하")⟩]).map
      (fun s => decide (RecentText s hastyUpdate "kim") && (perplexity.step s hastyUpdate).any
        fun s' => (s'.cell "a" "kim").map evidence ≠ (s.cell "a" "kim").map evidence) =
    some true by decide +kernel)
  rw [Bool.and_eq_true, decide_eq_true_eq, Option.any_eq_true] at hfacts
  obtain ⟨hrecent, s', hs', hdiffer⟩ := hfacts
  have hsame : (s'.cell "a" "kim").map evidence = (s.cell "a" "kim").map evidence :=
    h.last hs s' hs' rfl "kim" hrecent
  simp [hsame] at hdiffer

end Perplexity
