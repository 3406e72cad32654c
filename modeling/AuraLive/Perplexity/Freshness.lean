import AuraLive.Perplexity.Steps
import Mathlib.Algebra.Order.Field.Basic
import Mathlib.Tactic.NormNum

set_option relaxedAutoImplicit false
set_option autoImplicit false

/-!
# The cached entropy of a session

`sessionEntropy` and `entropyLevel` cache the average entropy of the cells. `ENTROPY_REPORT` and
`TRANSCRIPT` refresh the cache before they propagate; `STATE_UPDATE` does not, although it changes
a cell, so the constraints may be evaluated against the entropy of an earlier moment.

## Main definitions

* `Perplexity.Fresh` — the cache of a session is right.
* `Perplexity.LeavesEntropy` — observations that leave the entropy of a cell as it is.
* `Perplexity.tracked` — the service, with the rooms whose cache has been refreshed since the
  entropies of their cells changed.
* `Perplexity.Timely` — a `STATE_UPDATE` that is about to propagate finds such a cache, and leaves
  the entropies as they are.

## Main results

* `Perplexity.entropy_collapseState_eq_iff` — which observations leave an entropy as it is.
* `Perplexity.CacheKept.step` — what is tracked is right.
* `Perplexity.entropy_fresh_of_timely` — if every call of a run is timely, all evaluations see a
  fresh cache.

## Design

What is tracked depends on the messages, the cells and who has one, not on averages. So the results
hold in every arithmetic.
-/

namespace Perplexity

open Foundations

section Freshness

variable [Rounding] {s s' : PerplexityService} {e : Event}

/-- The cached entropy and level are those of the cells. -/
structure Fresh (session : PerplexitySession) : Prop where
  entropy : session.sessionEntropy = calculateSessionEntropy session
  level : session.entropyLevel = getEntropyLevel (calculateSessionEntropy session)

instance decidableFresh (session : PerplexitySession) : Decidable (Fresh session) :=
  decidable_of_iff (session.sessionEntropy = calculateSessionEntropy session ∧
      session.entropyLevel = getEntropyLevel (calculateSessionEntropy session))
    ⟨fun h => ⟨h.1, h.2⟩, fun h => ⟨h.entropy, h.level⟩⟩

/-- The cells have the same entropies, and the cache is the same. -/
lemma Fresh.congr {session session' : PerplexitySession} (h : Fresh session)
    (hcells : session'.cells.map (·.entropy) = session.cells.map (·.entropy))
    (hentropy : session'.sessionEntropy = session.sessionEntropy)
    (hlevel : session'.entropyLevel = session.entropyLevel) : Fresh session' := by
  have hlength : session'.cells.length = session.cells.length := by
    simpa using congrArg List.length hcells
  have haverage : calculateSessionEntropy session' = calculateSessionEntropy session := by
    unfold calculateSessionEntropy
    rw [hcells, hlength]
  exact ⟨by rw [hentropy, haverage, h.entropy], by rw [hlevel, haverage, h.level]⟩

/-! ## Observations that leave an entropy as it is -/

/-- An observation leaves the entropy of a cell as it is. With high confidence, the cell has been
settled. With medium confidence, it has been settled, or several states are possible and all of them
go with the observed one. With low confidence, it has not been settled, and the observed state is
possible. -/
def LeavesEntropy (cell : ParticipantCell) (state : CognitiveState) (confidence : ℚ) : Prop :=
  if 7 / 10 ≤ confidence then cell.entropy = 0
  else if 5 / 10 ≤ confidence then
    cell.entropy = 0 ∨
      2 ≤ cell.possibleStates.length ∧ cell.possibleStates.all (survives state) = true
  else cell.entropy ≠ 0 ∧ state ∈ cell.possibleStates

instance decidableLeavesEntropy (cell : ParticipantCell) (state : CognitiveState)
    (confidence : ℚ) : Decidable (LeavesEntropy cell state confidence) :=
  inferInstanceAs (Decidable (if 7 / 10 ≤ confidence then cell.entropy = 0
    else if 5 / 10 ≤ confidence then
      cell.entropy = 0 ∨
        2 ≤ cell.possibleStates.length ∧ cell.possibleStates.all (survives state) = true
    else cell.entropy ≠ 0 ∧ state ∈ cell.possibleStates))

/-- The entropy of a cell is a sixth for each possible state, or the cell has been settled. -/
def Counted (cell : ParticipantCell) : Prop :=
  cell.entropy = cell.possibleStates.length / 6 ∨
    cell.entropy = 0 ∧ cell.possibleStates.length ≤ 1

omit [Rounding] in
/-- Entropies are the same where the numbers of states are. -/
lemma sixths_eq_iff {m n : ℕ} : (m / 6 : ℚ) = n / 6 ↔ m = n := by
  rw [div_left_inj' (by norm_num), Nat.cast_inj]

omit [Rounding] in
/-- No entropy where no state is possible. -/
lemma sixths_eq_zero_iff {n : ℕ} : (n / 6 : ℚ) = 0 ↔ n = 0 := by
  rw [div_eq_zero_iff, Nat.cast_eq_zero]
  exact or_iff_left (by norm_num)

omit [Rounding] in
/-- Every observation leaves a cell whose entropy is counted. -/
lemma counted_collapseState (cell : ParticipantCell) (state : CognitiveState) (confidence : ℚ)
    (now : ℕ) : Counted (collapseState cell state confidence now) := by
  unfold collapseState narrow Counted
  split
  · exact .inr ⟨rfl, le_rfl⟩
  · split
    · split
      · exact .inr ⟨rfl, le_rfl⟩
      · exact .inl rfl
    · exact .inl rfl

omit [Rounding] in
/-- The entropy of a new cell is counted. -/
lemma counted_createParticipantCell (participantId participantName : String) (now : ℕ) :
    Counted (createParticipantCell participantId participantName now) := by
  refine .inl ?_
  show (1 : ℚ) = (6 : ℕ) / 6
  norm_num

omit [Rounding] in
/-- **Which observations leave an entropy as it is.**

**Proof sketch.** By the range of the confidence. The entropy counts the possible states, except
that a settled cell has none; a settled cell has at most one possible state. -/
lemma entropy_collapseState_eq_iff {cell : ParticipantCell} (hc : Counted cell)
    (state : CognitiveState) (confidence : ℚ) (now : ℕ) :
    (collapseState cell state confidence now).entropy = cell.entropy ↔
      LeavesEntropy cell state confidence := by
  have hfilter := List.length_filter_le (survives state) cell.possibleStates
  have hall : cell.possibleStates.all (survives state) = true ↔
      (cell.possibleStates.filter (survives state)).length = cell.possibleStates.length := by
    rw [List.all_eq_true, List.length_filter_eq_length_iff]
  unfold collapseState narrow LeavesEntropy
  split
  · exact eq_comm
  · split
    · rw [hall]
      split
      · -- one state is left
        rename_i s hs
        rw [hs, List.length_singleton] at hfilter ⊢
        constructor
        · exact fun h => .inl h.symm
        · rintro (h | ⟨htwo, hone⟩)
          · exact h.symm
          · omega
      · rename_i hs
        have hone : (cell.possibleStates.filter (survives state)).length ≠ 1 := fun h => by
          obtain ⟨s, hs'⟩ := List.length_eq_one_iff.mp h
          exact hs s hs'
        dsimp only
        rcases hc with hc | ⟨hc, hle⟩
        · rw [hc, sixths_eq_iff, sixths_eq_zero_iff]
          omega
        · rw [hc, sixths_eq_zero_iff]
          have hnone : (cell.possibleStates.filter (survives state)).length = 0 := by omega
          simp [hnone]
    · dsimp only
      by_cases hmem : state ∈ cell.possibleStates
      · rw [if_pos (by simpa using hmem)]
        rcases hc with hc | ⟨hc, hle⟩
        · have hpos := List.length_pos_of_mem hmem
          rw [hc, ne_eq, sixths_eq_zero_iff]
          exact iff_of_true rfl ⟨by omega, hmem⟩
        · have hpos := List.length_pos_of_mem hmem
          rw [hc, sixths_eq_zero_iff]
          exact iff_of_false (by omega) fun h => h.1 rfl
      · rw [if_neg (by simpa using hmem), List.length_append, List.length_singleton]
        refine iff_of_false (fun h => ?_) fun h => hmem h.2
        rcases hc with hc | ⟨hc, hle⟩
        · rw [hc, sixths_eq_iff] at h
          omega
        · rw [hc, sixths_eq_zero_iff] at h
          omega

/-! ## What is tracked -/

/-- A call refreshes the cache of its room: a report, or a text of which a state is inferred. -/
def Event.refreshes (e : Event) : Bool :=
  match e.call with
  | .handleMessage (.entropyReport _) => true
  | .handleMessage (.transcript _ text) => (inferStateFromTranscript text).isSome
  | _ => false

/-- A call that does not refresh the cache leaves the entropies of its room as they are: no session
is started or ended, nobody joins or leaves, and an observation leaves the entropy of its cell as it
is. -/
def keepsEntropies (s : PerplexityService) (e : Event) : Bool :=
  match e.call with
  | .startSession => false
  | .endSession => false
  | .handleMessage .perplexityStart => false
  | .handleMessage .perplexityEnd => false
  | .addParticipant p _ =>
    (s.sessions.get e.roomId).all fun session => session.participants.has p
  | .removeParticipant p =>
    (s.sessions.get e.roomId).all fun session => !session.participants.has p
  | .handleMessage (.stateUpdate payload) =>
    (s.sessions.get e.roomId).all fun session =>
      (session.participants.get payload.participantId).all fun cell =>
        payload.state.all fun state => LeavesEntropy cell state payload.confidence
  | .handleMessage _ => true

/-- The rooms whose cache has been refreshed, and since then the entropies have stayed as they
were. -/
def track (s : PerplexityService) (e : Event) (current : RoomId → Bool) : RoomId → Bool :=
  Function.update current e.roomId
    (e.refreshes || (current e.roomId && keepsEntropies s e))

/-- The service, with the rooms whose cache has been refreshed since their entropies changed. -/
def tracked : EventSystem (PerplexityService × (RoomId → Bool)) Event :=
  perplexity.withHistory track fun _ => false

/-- A `STATE_UPDATE` for a known participant that comes half a second or more after the last
evaluation finds a cache that has been refreshed since the entropies of the room changed, and leaves
the entropy of the participant's cell as it is. -/
def Timely (p : PerplexityService × (RoomId → Bool)) (e : Event) : Prop :=
  match e.call with
  | .handleMessage (.stateUpdate payload) =>
    ∀ session ∈ p.1.sessions.get e.roomId,
      session.participants.has payload.participantId = true →
        PerplexityService.due session e.now = true →
          p.2 e.roomId = true ∧ keepsEntropies p.1 e = true
  | _ => True

instance decidableTimely (p : PerplexityService × (RoomId → Bool)) (e : Event) :
    Decidable (Timely p e) := by
  unfold Timely
  split <;> infer_instance

/-! ## Taking a call in -/

/-- All cells of a session are counted. -/
def AllCounted (participants : JsMap String ParticipantCell) : Prop :=
  ∀ p cell, participants.get p = some cell → Counted cell

omit [Rounding] in
/-- A counted cell is set. -/
lemma AllCounted.set {participants : JsMap String ParticipantCell} (h : AllCounted participants)
    (p : String) {cell : ParticipantCell} (hcell : Counted cell) :
    AllCounted (participants.set p cell) :=
  JsMap.forall_get_set hcell fun q cell' _ hq => h q cell' hq

omit [Rounding] in
/-- A cell is deleted. -/
lemma AllCounted.delete {participants : JsMap String ParticipantCell} (h : AllCounted participants)
    (p : String) : AllCounted (participants.delete p) := fun q cell hq =>
  h q cell (JsMap.get_of_get_delete hq).2

omit [Rounding] in
/-- The cells after a report. -/
lemma AllCounted.applyReports {session : PerplexitySession} (h : AllCounted session.participants)
    (now : ℕ) (updates : List StateReport) :
    AllCounted (session.applyReports now updates).participants := by
  unfold PerplexitySession.applyReports
  induction updates generalizing session with
  | nil => exact h
  | cons u updates ih =>
    refine ih ?_
    show AllCounted (session.applyReport now u).participants
    unfold PerplexitySession.applyReport
    repeat' split
    · exact h
    · exact h.set _ (counted_collapseState _ _ _ _)
    · exact h

omit [Rounding] in
/-- The cells after a text of which a state is inferred. -/
lemma AllCounted.applyText {session : PerplexitySession} (h : AllCounted session.participants)
    (t : Transcript) (p : String) (state : CognitiveState) (now : ℕ) :
    AllCounted ((session.record t).applyText p state now).participants := by
  unfold PerplexitySession.applyText
  split
  · exact h
  · exact h.set _ (counted_collapseState _ _ (9 / 10) now)

/-- The cells of a room stay counted while a call is taken in. -/
lemma Takes.counted {handed : Option PerplexitySession} (h : Takes s e s' handed)
    (hs : ∀ session, s.sessions.get e.roomId = some session → AllCounted session.participants) :
    ∀ session, s'.sessions.get e.roomId = some session → AllCounted session.participants := by
  have hput : ∀ session : PerplexitySession, AllCounted session.participants →
      ∀ session', (s.put e.roomId session).sessions.get e.roomId = some session' →
        AllCounted session'.participants := by
    intro session hsession session' h'
    rw [PerplexityService.put, JsMap.get_set_self] at h'
    exact Option.some.inj h' ▸ hsession
  cases h with
  | nothing => exact hs
  | start =>
    intro session h'
    rw [PerplexityService.startSession, JsMap.get_set_self] at h'
    obtain rfl := Option.some.inj h'
    intro p cell hp
    cases hp
  | stop => exact fun session h' => by simp [PerplexityService.endSession] at h'
  | join _ hsession _ =>
    exact hput _ ((hs _ hsession).set _ (counted_createParticipantCell _ _ _))
  | leave _ hsession => exact hput _ ((hs _ hsession).delete _)
  | empty => exact hs
  | update _ hsession _ _ _ =>
    exact hput _ ((hs _ hsession).set _ (counted_collapseState _ _ _ _))
  | report _ hsession _ => exact hput _ ((hs _ hsession).applyReports _ _)
  | @hear session _ _ _ hsession => exact hput _ (hs session hsession)
  | infer _ hsession => exact hput _ ((hs _ hsession).applyText _ _ _ _)

omit [Rounding] in
/-- The entropies after an observation that leaves the one of its cell as it is. -/
lemma entropies_observe {session : PerplexitySession} {participantId : String}
    {cell : ParticipantCell} (hcell : session.participants.get participantId = some cell)
    (hc : Counted cell) {state : CognitiveState} {confidence : ℚ} (now : ℕ)
    (hleaves : LeavesEntropy cell state confidence) :
    (session.observe participantId cell state confidence now).cells.map (·.entropy) =
      session.cells.map (·.entropy) := by
  have hsame := (entropy_collapseState_eq_iff hc state confidence now).mpr hleaves
  simp only [PerplexitySession.cells, PerplexitySession.observe, JsMap.set, List.map_map,
    Function.comp_def]
  exact Assoc.map_set_of_eq hcell hsame

/-- A cache that has just been brought up to date. -/
lemma fresh_updateSessionEntropy (session : PerplexitySession) :
    Fresh (updateSessionEntropy session) := ⟨rfl, rfl⟩

/-- A call that refreshes the cache leaves a fresh one. -/
lemma fresh_of_refreshes (hrefresh : e.refreshes = true) {session : PerplexitySession}
    (hsession : (s.receive e).1.sessions.get e.roomId = some session)
    (hactive : session.isActive = true) : Fresh session := by
  unfold Event.refreshes at hrefresh
  split at hrefresh
  · rename_i updates hcall
    simp only [PerplexityService.receive, hcall, PerplexityService.handleMessage,
      PerplexityService.handleEntropyReport] at hsession
    split at hsession
    · simp_all
    · split at hsession
      · simp_all
      · rw [PerplexityService.put, JsMap.get_set_self] at hsession
        exact Option.some.inj hsession ▸ fresh_updateSessionEntropy _
  · rename_i p text hcall
    obtain ⟨state, hstate⟩ := Option.isSome_iff_exists.mp hrefresh
    simp only [PerplexityService.receive, hcall, PerplexityService.handleMessage,
      PerplexityService.handleTranscript, PerplexityService.addTranscript, hstate] at hsession
    cases hold : s.sessions.get e.roomId with
    | none => simp [hold] at hsession
    | some old =>
      by_cases hon : old.isActive = true
      · simp only [hold, hon, Bool.not_true, Bool.false_eq_true, if_false, PerplexityService.put,
          JsMap.get_set_self, Option.some.injEq] at hsession
        exact hsession ▸ fresh_updateSessionEntropy _
      · simp_all
  · cases hrefresh

/-- A call that keeps the entropies of a room keeps its cache fresh. -/
lemma Takes.fresh {handed : Option PerplexitySession} (h : Takes s e s' handed)
    (hkeeps : keepsEntropies s e = true)
    (hcounted : ∀ session, s.sessions.get e.roomId = some session →
      AllCounted session.participants)
    (hfresh : ∀ session, s.sessions.get e.roomId = some session → session.isActive = true →
      Fresh session) :
    ∀ session, s'.sessions.get e.roomId = some session → session.isActive = true →
      Fresh session := by
  have hput : ∀ session, (session.isActive = true → Fresh session) →
      ∀ session', (s.put e.roomId session).sessions.get e.roomId = some session' →
        session'.isActive = true → Fresh session' := by
    intro session hsession session' h'
    rw [PerplexityService.put, JsMap.get_set_self] at h'
    exact Option.some.inj h' ▸ hsession
  cases h with
  | nothing => exact hfresh
  | start hcall => rcases hcall with hcall | hcall <;> simp [keepsEntropies, hcall] at hkeeps
  | stop hcall => rcases hcall with hcall | hcall <;> simp [keepsEntropies, hcall] at hkeeps
  | join hcall hsession hnew =>
    simp [keepsEntropies, hcall, hsession, JsMap.has, hnew] at hkeeps
  | @leave session p hcall hsession =>
    have hnot : session.participants.get p = none := by
      simpa [keepsEntropies, hcall, hsession, JsMap.has] using hkeeps
    rw [JsMap.delete_eq_self _ hnot]
    exact hput _ (hfresh _ hsession)
  | empty => exact hfresh
  | @update session cell payload state hcall hsession hactive hcell hstate =>
    have hleaves : LeavesEntropy cell state payload.confidence := by
      simpa [keepsEntropies, hcall, hsession, hcell, hstate] using hkeeps
    have hentropies := entropies_observe hcell (hcounted _ hsession _ _ hcell) e.now hleaves
    exact hput _ fun _ => (hfresh _ hsession hactive).congr hentropies rfl rfl
  | report => exact hput _ fun _ => fresh_updateSessionEntropy _
  | hear _ hsession =>
    exact hput _ fun hactive => (hfresh _ hsession hactive).congr rfl rfl rfl
  | infer => exact hput _ fun _ => fresh_updateSessionEntropy _

/-- The session that a timely call hands to `tryPropagate` has a cache that has just been brought up
to date, or its room is tracked. -/
lemma Takes.fresh_or_tracked {current : RoomId → Bool} (ht : Timely (s, current) e)
    {session : PerplexitySession} (h : Takes s e s' (some session))
    (hdue : PerplexityService.due session e.now = true) :
    Fresh session ∨ session.isActive = true ∧ track s e current e.roomId = true := by
  have hupdate : ∀ {payload : StateUpdatePayload} {session : PerplexitySession},
      e.call = .handleMessage (.stateUpdate payload) →
      s.sessions.get e.roomId = some session →
      (session.participants.get payload.participantId).isSome = true →
      PerplexityService.due session e.now = true → track s e current e.roomId = true := by
    intro payload session hcall hsession hcell hdue
    unfold Timely at ht
    rw [hcall] at ht
    obtain ⟨hcurrent, hkeeps⟩ := ht session hsession hcell hdue
    rw [track, Function.update_self, Bool.or_eq_true, Bool.and_eq_true]
    exact .inr ⟨hcurrent, hkeeps⟩
  cases h with
  | empty hcall hsession hactive hcell _ =>
    exact .inr ⟨hactive, hupdate hcall hsession (by rw [hcell]; rfl) hdue⟩
  | update hcall hsession hactive hcell _ =>
    exact .inr ⟨hactive, hupdate hcall hsession (by rw [hcell]; rfl) hdue⟩
  | report => exact .inl (fresh_updateSessionEntropy _)
  | infer => exact .inl (fresh_updateSessionEntropy _)

/-! ## Runs -/

/-- What is tracked is right: the cells are counted, the cache of a tracked room is fresh, and so
has been every cache that was evaluated. -/
structure CacheKept (p : PerplexityService × (RoomId → Bool)) : Prop where
  counted : ∀ r session, p.1.sessions.get r = some session → AllCounted session.participants
  fresh : ∀ r session, p.1.sessions.get r = some session → session.isActive = true →
    p.2 r = true → Fresh session
  evaluated : ∀ q ∈ p.1.propagations, Fresh q.session

/-- The cells and the cache of a session are not changed by an evaluation. -/
lemma sessions_of_step (h : perplexity.step s e = some s') {r : RoomId}
    {session : PerplexitySession} (hr : s'.sessions.get r = some session) :
    ∃ session', (s.receive e).1.sessions.get r = some session' ∧
      session.participants = session'.participants ∧ session.isActive = session'.isActive ∧
      session.sessionEntropy = session'.sessionEntropy ∧
      session.entropyLevel = session'.entropyLevel := by
  obtain ⟨hsteps, hcases⟩ := step_cases h
  by_cases hroom : r = e.roomId
  · subst hroom
    rcases hcases with hq | ⟨evaluated, hev⟩
    · exact ⟨session, hq.session ▸ hr, rfl, rfl, rfl, rfl⟩
    · obtain ⟨handed, hhanded, -, rfl⟩ := evaluated_eq_some hev.evaluated
      have htakes := takes_receive s e
      rw [hhanded] at htakes
      obtain rfl := Option.some.inj (hev.session.symm.trans hr)
      exact ⟨handed, htakes.handed_get, rfl, rfl, rfl, rfl⟩
  · rw [hsteps.others r hroom, ← (takes_receive s e).touchesOnly.sessions r hroom] at hr
    exact ⟨session, hr, rfl, rfl, rfl, rfl⟩

/-- After a call has been taken in, the cells are counted and the cache of a tracked room is
fresh. -/
lemma CacheKept.receive {current : RoomId → Bool} (hc : CacheKept (s, current)) (e : Event) :
    (∀ r session, (s.receive e).1.sessions.get r = some session →
      AllCounted session.participants) ∧
    ∀ r session, (s.receive e).1.sessions.get r = some session → session.isActive = true →
      track s e current r = true → Fresh session := by
  have htakes := takes_receive s e
  constructor
  · intro r session hr
    by_cases hroom : r = e.roomId
    · subst hroom
      exact htakes.counted (hc.counted _) session hr
    · rw [htakes.touchesOnly.sessions r hroom] at hr
      exact hc.counted r session hr
  · intro r session hr hactive htracked
    by_cases hroom : r = e.roomId
    · subst hroom
      rw [track, Function.update_self, Bool.or_eq_true, Bool.and_eq_true] at htracked
      rcases htracked with hrefresh | ⟨hcurrent, hkeeps⟩
      · exact fresh_of_refreshes hrefresh hr hactive
      · refine htakes.fresh hkeeps (hc.counted _) ?_ session hr hactive
        exact fun session' h' hactive' => hc.fresh _ session' h' hactive' hcurrent
    · rw [track, Function.update_of_ne hroom] at htracked
      rw [htakes.touchesOnly.sessions r hroom] at hr
      exact hc.fresh r session hr hactive htracked

/-- The cache that a timely call evaluates is fresh. -/
lemma CacheKept.fresh_evaluated {current : RoomId → Bool} (hc : CacheKept (s, current))
    (ht : Timely (s, current) e) {session : PerplexitySession}
    (hev : s.evaluated e = some session) : Fresh session := by
  obtain ⟨handed, hhanded, hdue, rfl⟩ := evaluated_eq_some hev
  have htakes := takes_receive s e
  rw [hhanded] at htakes
  suffices hfresh : Fresh handed from hfresh.congr rfl rfl rfl
  rcases htakes.fresh_or_tracked ht hdue with hfresh | ⟨hactive, htracked⟩
  · exact hfresh
  · exact (hc.receive e).2 e.roomId handed htakes.handed_get hactive htracked

/-- **What is tracked stays right** over timely calls. -/
theorem CacheKept.step {p p' : PerplexityService × (RoomId → Bool)} (hc : CacheKept p)
    (ht : Timely p e) (h : tracked.step p e = some p') : CacheKept p' := by
  obtain ⟨s, current⟩ := p
  obtain ⟨hstep, hcurrent⟩ := EventSystem.withHistory_step.mp h
  obtain ⟨hcounted, hfresh⟩ := hc.receive e
  refine ⟨fun r session hr => ?_, fun r session hr hactive htracked => ?_, fun q hq => ?_⟩
  · obtain ⟨old, hold, hcells, -⟩ := sessions_of_step hstep hr
    rw [hcells]
    exact hcounted r old hold
  · obtain ⟨old, hold, hcells, hon, hentropy, hlevel⟩ := sessions_of_step hstep hr
    rw [hcurrent] at htracked
    refine (hfresh r old hold (hon ▸ hactive) htracked).congr ?_ hentropy hlevel
    rw [PerplexitySession.cells, hcells, PerplexitySession.cells]
  · rcases (step_cases hstep).2 with hquiet | ⟨session, hev⟩
    · rw [hquiet.propagations] at hq
      exact hc.evaluated q hq
    · rw [hev.propagations, List.mem_cons] at hq
      rcases hq with rfl | hq
      · exact hc.fresh_evaluated ht hev.evaluated
      · exact hc.evaluated q hq

/-- **Constraints see fresh entropy in timely runs.** In every run of the service in which each
`STATE_UPDATE` that is about to propagate finds a cache refreshed since the entropies of the room
changed, and leaves them as they are, whenever the constraints of a session are evaluated its cached
entropy and level are those of its cells. -/
theorem entropy_fresh_of_timely {es : List Event}
    (h : tracked.AllSteps Timely tracked.init es) :
    perplexity.AllStates (fun s => ∀ p ∈ s.propagations, Fresh p.session) perplexity.init es := by
  have hinit : CacheKept tracked.init := by
    refine ⟨fun r session hr => ?_, fun r session hr => ?_, fun q hq => ?_⟩
    · cases hr
    · cases hr
    · cases hq
  have hall : tracked.AllStates (fun p => ∀ q ∈ p.1.propagations, Fresh q.session)
      tracked.init es :=
    EventSystem.allStates_of_invariant (fun p e p' hc ht hp => hc.step ht hp)
      (fun p hc => hc.evaluated) hinit h
  exact EventSystem.withHistory_allStates.mp hall

end Freshness

/-- A report, and an update of the settled cell that comes a second later. -/
theorem entropy_fresh_of_timely_report :
    perplexity.AllStates (fun s => ∀ p ∈ s.propagations, Fresh p.session) perplexity.init
      [⟨"a", 1000, .startSession⟩, ⟨"a", 1000, .addParticipant "kim" "Kim"⟩,
        ⟨"a", 2000, .handleMessage (.entropyReport [⟨"kim", some .understood, none⟩])⟩,
        ⟨"a", 3000, .handleMessage (.stateUpdate ⟨"kim", some .thinking, 9 / 10⟩)⟩] :=
  entropy_fresh_of_timely (by decide +kernel)

/-- An update that settles the only cell is evaluated with the entropy of the new session, and a
summary is asked for because of it. -/
theorem stale_entropy_asks_summary :
    ¬ perplexity.AllStates (fun s => ∀ p ∈ s.propagations, Fresh p.session) perplexity.init
      [⟨"a", 1000, .startSession⟩, ⟨"a", 1000, .addParticipant "kim" "Kim"⟩,
        ⟨"a", 2000, .handleMessage (.stateUpdate ⟨"kim", some .understood, 9 / 10⟩)⟩] := by
  decide +kernel

end Perplexity
