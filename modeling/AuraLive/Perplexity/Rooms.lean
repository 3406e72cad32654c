import AuraLive.Perplexity.RateLimits

set_option relaxedAutoImplicit false
set_option autoImplicit false

/-!
# Rooms and the shared constraint table

The sessions of the rooms are separate, but the cooldowns of the constraints are kept in the one
engine that all rooms share, so a firing for one room silences the constraint in every other room.
A run is compared with the run in which the messages of one room are handled alone: the room gets
the same results exactly when no firing of another room ever withholds a constraint from it.

## Main definitions

* `Perplexity.results` — what the evaluations for a room have returned.
* `Perplexity.Undisturbed` — the constraint whose turn it is in a room is not kept back by the
  other rooms.

## Main results

* `Perplexity.receive_congr` — a call depends on the other rooms only through the engine.
* `Perplexity.results_alone_iff` — a room gets the results it would get alone exactly in undisturbed
  runs.
* `Perplexity.rooms_independent_iff` — the two-run form.
-/

namespace Perplexity

open Foundations

section Arithmetic

variable [Rounding] {B : RoomId} {s s' t t' : PerplexityService} {e : Event}

/-- What the evaluations for a room have returned, with their times, the last one first. -/
def results (B : RoomId) (s : PerplexityService) : List (ℕ × PropagationResult) :=
  (s.propagations.filter (·.roomId = B)).map fun p => (p.now, p.result)

/-- The constraint whose turn it is in a room: it is the highest-ranked one that the session
satisfies and that the room itself has not fired within its cooldown. -/
structure Due (B : RoomId) (s : PerplexityService) (session : PerplexitySession) (now : ℕ)
    (c : WFCConstraint) : Prop where
  eligible : Eligible (s.propagations.filter (·.roomId = B)) session now c
  highest : ∀ c', Eligible (s.propagations.filter (·.roomId = B)) session now c' → c' ≠ c →
    c'.priority < c.priority

/-- When a call evaluates the constraints of a room, no other room has fired the constraint whose
turn it is within its cooldown. -/
def Undisturbed (B : RoomId) (s : PerplexityService) (e : Event) : Prop :=
  e.roomId = B → ∀ session, s.evaluated e = some session → ∀ c, Due B s session e.now c →
    ∀ q ∈ s.propagations, q.roomId ≠ B → q.fires c → q.now + c.cooldownMs ≤ e.now

/-! ## Calls depend on their own room -/

/-- **Calls are local to their room up to `tryPropagate`.** What a call leaves in the entry of its
room, and the session it hands on, depend only on that entry.

**Proof sketch.** One case for each kind of call and message. Each looks up the session of its room,
decides by it alone, and puts a session into the entry of its room. -/
theorem receive_congr (hget : s.sessions.get e.roomId = t.sessions.get e.roomId)
    (hstarted : s.started e.roomId = t.started e.roomId) :
    (s.receive e).2 = (t.receive e).2 ∧
      (s.receive e).1.sessions.get e.roomId = (t.receive e).1.sessions.get e.roomId ∧
      (s.receive e).1.started e.roomId = (t.receive e).1.started e.roomId := by
  rcases e with ⟨roomId, now, call⟩
  dsimp only at hget hstarted
  cases call with
  | startSession => simp [PerplexityService.receive, PerplexityService.startSession, hstarted]
  | endSession => simp [PerplexityService.receive, PerplexityService.endSession, hstarted]
  | addParticipant participantId participantName =>
    simp only [PerplexityService.receive, PerplexityService.addParticipant, hget]
    cases ht : t.sessions.get roomId with
    | none => simp [hget, ht, hstarted]
    | some session =>
      dsimp only
      split <;> simp [hget, ht, hstarted, PerplexityService.put]
  | removeParticipant participantId =>
    simp only [PerplexityService.receive, PerplexityService.removeParticipant, hget]
    cases ht : t.sessions.get roomId with
    | none => simp [hget, ht, hstarted]
    | some session => simp [hstarted, PerplexityService.put]
  | handleMessage message =>
    cases message with
    | perplexityStart =>
      simp [PerplexityService.receive, PerplexityService.handleMessage,
        PerplexityService.startSession, hstarted]
    | perplexityEnd =>
      simp [PerplexityService.receive, PerplexityService.handleMessage,
        PerplexityService.endSession, hstarted]
    | stateUpdate payload =>
      simp only [PerplexityService.receive, PerplexityService.handleMessage,
        PerplexityService.handleStateUpdate, hget]
      cases ht : t.sessions.get roomId with
      | none => simp [hget, ht, hstarted]
      | some session =>
        dsimp only
        repeat' split
        all_goals simp_all [PerplexityService.put]
    | entropyReport participantStates =>
      simp only [PerplexityService.receive, PerplexityService.handleMessage,
        PerplexityService.handleEntropyReport, hget]
      cases ht : t.sessions.get roomId with
      | none => simp [hget, ht, hstarted]
      | some session =>
        dsimp only
        split <;> simp [hget, ht, hstarted, PerplexityService.put]
    | transcript participantId text =>
      simp only [PerplexityService.receive, PerplexityService.handleMessage,
        PerplexityService.handleTranscript, PerplexityService.addTranscript, hget]
      cases ht : t.sessions.get roomId with
      | none => simp [hget, ht, hstarted]
      | some session =>
        dsimp only
        by_cases hactive : session.isActive = true
        · cases hinf : inferStateFromTranscript text <;>
            simp [hactive, hstarted, PerplexityService.put]
        · simp [hactive, hget, ht, hstarted]
    | observation => exact ⟨rfl, hget, hstarted⟩
    | propagation => exact ⟨rfl, hget, hstarted⟩
    | action => exact ⟨rfl, hget, hstarted⟩

/-! ## The room alone -/

/-- A state of a whole run and a state of the run of one room alone look the same in the room. -/
structure Alike (B : RoomId) (s t : PerplexityService) : Prop where
  stamped : Stamped s
  stamped' : Stamped t
  clock : t.clock ≤ s.clock
  alone : ∀ q ∈ t.propagations, q.roomId = B
  session : s.sessions.get B = t.sessions.get B
  started : s.started B = t.started B
  propagations : s.propagations.filter (·.roomId = B) = t.propagations

/-- A step keeps the stamps right. -/
lemma Stamped.step (hs : Stamped s) (h : perplexity.step s e = some s') : Stamped s' := by
  rcases (step_cases h).2 with hq | ⟨session, hev⟩
  · exact hs.quiet h hq
  · exact hs.evaluates h hev

/-- The records of a room are not touched by calls for other rooms. -/
lemma filter_propagations_of_ne (h : perplexity.step s e = some s') (hne : e.roomId ≠ B) :
    s'.propagations.filter (·.roomId = B) = s.propagations.filter (·.roomId = B) := by
  rcases (step_cases h).2 with hq | ⟨session, hev⟩
  · rw [hq.propagations]
  · rw [hev.propagations, List.filter_cons_of_neg (by simpa using hne)]

/-- Calls for other rooms are not seen. -/
lemma Alike.other (ha : Alike B s t) (h : perplexity.step s e = some s') (hne : e.roomId ≠ B) :
    Alike B s' t := by
  have hsteps := (step_cases h).1
  refine ⟨ha.stamped.step h, ha.stamped', ?_, ha.alone, ?_, ?_, ?_⟩
  · have := ha.clock
    have := hsteps.clock
    have := hsteps.clock'
    omega
  · rw [hsteps.others B (Ne.symm hne)]
    exact ha.session
  · rw [hsteps.started, (takes_receive s e).touchesOnly.started B (Ne.symm hne)]
    exact ha.started
  · rw [filter_propagations_of_ne h hne]
    exact ha.propagations

/-- The session that a call for the room evaluates is the same in both runs. -/
lemma Alike.evaluated (ha : Alike B s t) (hB : e.roomId = B) : s.evaluated e = t.evaluated e := by
  subst hB
  have hcongr := receive_congr ha.session ha.started
  simp only [PerplexityService.evaluated, hcongr.1]

/-- The engine of the run alone admits what the room has not fired itself. -/
lemma Alike.admits_iff (ha : Alike B s t) (session : PerplexitySession) (now : ℕ)
    {c : WFCConstraint} (hc : c ∈ DEFAULT_CONSTRAINTS) :
    t.wfcEngine.admits session now c = true ↔
      Eligible (s.propagations.filter (·.roomId = B)) session now c := by
  rw [admits_iff_eligible ha.stamped' session now hc, ha.propagations]

/-- Alone, the constraint whose turn it is fires. -/
lemma Alike.fired_iff (ha : Alike B s t) (session : PerplexitySession) (now : ℕ)
    (c : WFCConstraint) : fired t.wfcEngine session now = some c ↔ Due B s session now c := by
  have harb : fired t.wfcEngine session now = some c ↔ _ := arbitrate_eq_some_iff priority_injective
  refine harb.trans ⟨?_, ?_⟩
  · rintro ⟨hmem, hok, hmax⟩
    refine ⟨(ha.admits_iff session now hmem).mp hok, fun c' hc' hne => ?_⟩
    exact hmax c' hc'.mem ((ha.admits_iff session now hc'.mem).mpr hc') hne
  · rintro ⟨helig, hmax⟩
    refine ⟨helig.mem, (ha.admits_iff session now helig.mem).mpr helig, fun c' hmem hok hne => ?_⟩
    exact hmax c' ((ha.admits_iff session now hmem).mp hok) hne

/-- **One evaluation.** The shared engine fires the same constraint for the room as the engine of
the run alone exactly when the other rooms do not keep back the constraint whose turn it is.

**Proof sketch.** The firings of the room are among all firings, so the shared engine admits less;
the two choices agree exactly when it still admits the choice of the other. -/
lemma Alike.fired_eq_iff (ha : Alike B s t) (session : PerplexitySession) (now : ℕ) :
    fired s.wfcEngine session now = fired t.wfcEngine session now ↔
      ∀ c, Due B s session now c → ∀ q ∈ s.propagations, q.roomId ≠ B → q.fires c →
        q.now + c.cooldownMs ≤ now := by
  have himp : ∀ c ∈ DEFAULT_CONSTRAINTS, s.wfcEngine.admits session now c = true →
      t.wfcEngine.admits session now c = true := by
    intro c hc hadm
    have helig := (admits_iff_eligible ha.stamped session now hc).mp hadm
    refine (ha.admits_iff session now hc).mpr ⟨hc, helig.holds, fun q hq => ?_⟩
    exact helig.elapsed q (List.mem_of_mem_filter hq)
  have hiff := arbitrate_eq_iff_of_imp priority_injective himp
  refine hiff.trans (forall_congr' fun c => ?_)
  constructor
  · intro h hdue q hq _ hf
    have hadm := h ((ha.fired_iff session now c).mpr hdue)
    exact ((admits_iff_eligible ha.stamped session now hdue.eligible.mem).mp hadm).elapsed q hq hf
  · intro h hfired
    have hdue := (ha.fired_iff session now c).mp hfired
    refine (admits_iff_eligible ha.stamped session now hdue.eligible.mem).mpr
      ⟨hdue.eligible.mem, hdue.eligible.holds, fun q hq hf => ?_⟩
    by_cases hroom : q.roomId = B
    · exact hdue.eligible.elapsed q (List.mem_filter.mpr ⟨hq, by simpa using hroom⟩) hf
    · exact h hdue q hq hroom hf

/-- An undisturbed call for the room is seen the same way in both runs.

**Proof sketch.** Both runs take the call in alike, so both evaluate the constraints of the same
session or neither does. As the call is undisturbed, the same constraint fires in both; the entries
that the runs add to their logs are equal, and so are the sessions they leave. -/
lemma Alike.undisturbed (ha : Alike B s t) (hB : e.roomId = B) (hu : Undisturbed B s e)
    (h : perplexity.step s e = some s') (h' : perplexity.step t e = some t') :
    Alike B s' t' := by
  obtain ⟨hsteps, hcases⟩ := step_cases h
  obtain ⟨hsteps', hcases'⟩ := step_cases h'
  have hevaluated := ha.evaluated hB
  subst hB
  have hcongr := receive_congr ha.session ha.started
  have hclock : t'.clock ≤ s'.clock := by
    rw [hsteps.clock', hsteps'.clock']
  have hstarted : s'.started e.roomId = t'.started e.roomId := by
    rw [hsteps.started, hsteps'.started, hcongr.2.2]
  rcases hcases with hq | ⟨session, hev⟩
  · rcases hcases' with hq' | ⟨session', hev'⟩
    · refine ⟨ha.stamped.step h, ha.stamped'.step h', hclock, ?_, ?_, hstarted, ?_⟩
      · rw [hq'.propagations]
        exact ha.alone
      · rw [hq.session, hq'.session, hcongr.2.1]
      · rw [hq.propagations, hq'.propagations]
        exact ha.propagations
    · rw [hq.evaluated, hev'.evaluated] at hevaluated
      cases hevaluated
  · rcases hcases' with hq' | ⟨session', hev'⟩
    · rw [hev.evaluated, hq'.evaluated] at hevaluated
      cases hevaluated
    · rw [hev.evaluated, hev'.evaluated, Option.some.injEq] at hevaluated
      subst hevaluated
      have hfired := (ha.fired_eq_iff session e.now).mpr (hu rfl session hev.evaluated)
      have hresult : (propagate s.wfcEngine session e.now).2 =
          (propagate t.wfcEngine session e.now).2 := by
        rw [propagate_result, propagate_result, hfired]
      refine ⟨ha.stamped.step h, ha.stamped'.step h', hclock, ?_, ?_, hstarted, ?_⟩
      · intro q hq
        rw [hev'.propagations] at hq
        rcases List.mem_cons.mp hq with rfl | hq
        · rfl
        · exact ha.alone q hq
      · rw [hev.session, hev'.session, PerplexityService.concluded, PerplexityService.concluded,
          hresult]
      · rw [hev.propagations, hev'.propagations, List.filter_cons_of_pos (by simp), hresult,
          ha.propagations]

/-- A disturbed call for the room gives the room another result than it gets alone.

**Proof sketch.** Both runs evaluate the constraints of the same session, and each adds one result.
Alone, the constraint whose turn it is fires. If the results were equal, it would fire in the shared
engine as well, where it has been stamped by another room within its cooldown. -/
lemma Alike.disturbed (ha : Alike B s t) (hB : e.roomId = B) (hu : ¬ Undisturbed B s e)
    (h : perplexity.step s e = some s') (h' : perplexity.step t e = some t') :
    ∃ x y, results B s' = x :: results B s ∧ results B t' = y :: results B s ∧ x ≠ y := by
  have hevaluated := ha.evaluated hB
  subst hB
  have hrest : results e.roomId t = results e.roomId s := by
    have halone : t.propagations.filter (·.roomId = e.roomId) = t.propagations :=
      List.filter_eq_self.mpr fun q hq => by simpa using ha.alone q hq
    rw [results, results, ha.propagations, halone]
  simp only [Undisturbed, forall_const, not_forall] at hu
  obtain ⟨session, hsession, c, hdue, q, hq, hroom, hf, hlate⟩ := hu
  rcases (step_cases h).2 with hquiet | ⟨session₁, hev⟩
  · rw [hquiet.evaluated] at hsession
    cases hsession
  rcases (step_cases h').2 with hquiet | ⟨session₂, hev'⟩
  · rw [hevaluated, hquiet.evaluated] at hsession
    cases hsession
  have h₁ : session₁ = session := Option.some.inj (hev.evaluated.symm.trans hsession)
  have h₂ : session₂ = session :=
    Option.some.inj (hev'.evaluated.symm.trans (hevaluated.symm.trans hsession))
  subst h₁ h₂
  refine ⟨(e.now, (propagate s.wfcEngine session₂ e.now).2),
    (e.now, (propagate t.wfcEngine session₂ e.now).2), ?_, ?_, ?_⟩
  · rw [results, hev.propagations, List.filter_cons_of_pos (by simp)]
    rfl
  · rw [results, hev'.propagations, List.filter_cons_of_pos (by simp), List.map_cons, ← hrest]
    rfl
  · intro heq
    -- equal results name the same constraint, so the shared engine admits the one whose turn it is
    have htriggered := congrArg (fun x => x.2.triggeredConstraints) heq
    simp only [propagate_result, PropagationResult.of] at htriggered
    have hfired := (ha.fired_iff session₂ e.now c).mpr hdue
    rw [hfired] at htriggered
    have hsame : fired s.wfcEngine session₂ e.now = some c := by
      cases hs : fired s.wfcEngine session₂ e.now with
      | none => simp [hs] at htriggered
      | some c' =>
        have hid : c'.id = c.id := by simpa [hs] using htriggered
        rw [id_injective c' (mem_of_arbitrate hs) c hdue.eligible.mem hid]
    exact hlate ((ha.fired_eq_iff session₂ e.now).mp (hsame.trans hfired.symm) c hdue q hq hroom hf)

/-! ## Runs -/

/-- Results are never taken back. -/
lemma results_suffix {es : List Event} : ∀ {s s' : PerplexityService},
    perplexity.exec s es = some s' → results B s <:+ results B s' := by
  induction es with
  | nil =>
    intro s s' h
    simp only [EventSystem.exec, Option.some.injEq] at h
    exact h ▸ List.suffix_refl _
  | cons e es ih =>
    intro s s' h
    obtain ⟨s₁, hs₁, hr⟩ := EventSystem.exec_cons.mp h
    refine List.IsSuffix.trans ?_ (ih hr)
    rcases (step_cases hs₁).2 with hq | ⟨session, hev⟩
    · rw [results, results, hq.propagations]
    · by_cases hB : e.roomId = B
      · rw [results, results, hev.propagations, List.filter_cons_of_pos (by simpa using hB)]
        exact List.suffix_cons _ _
      · rw [results, results, filter_propagations_of_ne hs₁ hB]

/-- A step is possible whenever the clock allows it. -/
lemma step_possible (h : s.clock ≤ e.now) : ∃ s', perplexity.step s e = some s' :=
  ⟨{ s.handle e with clock := e.now }, by simp only [perplexity, if_neg (not_lt.mpr h)]⟩

/-- The part of a possible run that concerns a room is possible. -/
lemma exec_filter_possible {es : List Event} : ∀ {s s' t : PerplexityService},
    perplexity.exec s es = some s' → t.clock ≤ s.clock →
      ∃ t', perplexity.exec t (es.filter (·.roomId = B)) = some t' := by
  induction es with
  | nil => exact fun {_ _ t} _ _ => ⟨t, rfl⟩
  | cons e es ih =>
    intro s s' t h hclock
    obtain ⟨s₁, hs₁, hr⟩ := EventSystem.exec_cons.mp h
    have hsteps := (step_cases hs₁).1
    have hle := hsteps.clock
    have heq := hsteps.clock'
    by_cases hB : e.roomId = B
    · obtain ⟨t₁, ht₁⟩ := step_possible (s := t) (e := e) (by omega)
      have heq' := (step_cases ht₁).1.clock'
      obtain ⟨t', ht'⟩ := ih (t := t₁) hr (by omega)
      exact ⟨t', by
        rw [List.filter_cons_of_pos (by simpa using hB)]
        exact EventSystem.exec_cons.mpr ⟨t₁, ht₁, ht'⟩⟩
    · rw [List.filter_cons_of_neg (by simpa using hB)]
      exact ih hr (by omega)

/-- **A room in company and alone.** From states that look the same in the room, the room gets the
same results from the whole run as from its own messages alone exactly when the whole run is
undisturbed.

**Proof sketch.** Induction on the run. Calls for other rooms are not seen and undisturbed calls
for the room are seen the same way. A disturbed call adds different results to equal ones, and
results are never taken back. -/
theorem results_alone_iff {es : List Event} : ∀ {s s' t t' : PerplexityService}, Alike B s t →
    perplexity.exec s es = some s' →
    perplexity.exec t (es.filter (·.roomId = B)) = some t' →
      (results B s' = results B t' ↔ perplexity.AllSteps (Undisturbed B) s es) := by
  induction es with
  | nil =>
    intro s s' t t' ha h h'
    simp only [EventSystem.exec, Option.some.injEq, List.filter_nil] at h h'
    subst h h'
    have halone : t.propagations.filter (·.roomId = B) = t.propagations :=
      List.filter_eq_self.mpr fun q hq => by simpa using ha.alone q hq
    simp [results, ha.propagations, halone, EventSystem.AllSteps]
  | cons e es ih =>
    intro s s' t t' ha h h'
    obtain ⟨s₁, hs₁, hr⟩ := EventSystem.exec_cons.mp h
    rw [EventSystem.allSteps_cons hs₁]
    by_cases hB : e.roomId = B
    · rw [List.filter_cons_of_pos (by simpa using hB)] at h'
      obtain ⟨t₁, ht₁, hr'⟩ := EventSystem.exec_cons.mp h'
      by_cases hu : Undisturbed B s e
      · rw [ih (ha.undisturbed hB hu hs₁ ht₁) hr hr']
        exact ⟨fun hall => ⟨hu, hall⟩, fun hall => hall.2⟩
      · refine ⟨fun heq => ?_, fun hall => absurd hall.1 hu⟩
        obtain ⟨x, y, hx, hy, hne⟩ := ha.disturbed hB hu hs₁ ht₁
        have hsuffix := results_suffix (B := B) hr
        have hsuffix' := results_suffix (B := B) hr'
        rw [hx] at hsuffix
        rw [hy, ← heq] at hsuffix'
        have hsub := List.suffix_of_suffix_length_le hsuffix hsuffix' (by simp)
        have hcons := hsub.eq_of_length (by simp)
        exact absurd (List.cons.inj hcons).1 hne
    · rw [List.filter_cons_of_neg (by simpa using hB)] at h'
      rw [ih (ha.other hs₁ hB) hr h']
      exact ⟨fun hall => ⟨fun hB' => absurd hB' hB, hall⟩, fun hall => hall.2⟩

/-- Initially nothing is seen. -/
lemma alike_init (B : RoomId) : Alike B perplexity.init perplexity.init :=
  ⟨stamped_init, stamped_init, le_refl _, by simp [perplexity], rfl, rfl, by simp [perplexity]⟩

/-- **Rooms are independent exactly in undisturbed runs.** Take two runs of the service with the
same timed messages for room `B` and arbitrary other messages, one of them undisturbed. The
evaluations for `B` return the same results in both exactly when the other run is undisturbed as
well. -/
theorem rooms_independent_iff (B : RoomId) {es₁ es₂ : List Event} {s₁ s₂ : PerplexityService}
    (h₁ : perplexity.exec perplexity.init es₁ = some s₁)
    (h₂ : perplexity.exec perplexity.init es₂ = some s₂)
    (hsame : es₁.filter (·.roomId = B) = es₂.filter (·.roomId = B))
    (hu : perplexity.AllSteps (Undisturbed B) perplexity.init es₂) :
    results B s₁ = results B s₂ ↔ perplexity.AllSteps (Undisturbed B) perplexity.init es₁ := by
  obtain ⟨t, ht⟩ := exec_filter_possible (B := B) (t := perplexity.init) h₁ (le_refl _)
  have halone₁ := results_alone_iff (alike_init B) h₁ ht
  have halone₂ := results_alone_iff (alike_init B) h₂ (hsame ▸ ht)
  rw [halone₂.mpr hu]
  exact halone₁

end Arithmetic

/-- Somebody joins a new session of a room and says that it is hard. -/
def confusedAt (roomId : RoomId) (now : ℕ) : List Event :=
  [⟨roomId, now, .startSession⟩, ⟨roomId, now, .addParticipant "kim" "Kim"⟩,
    ⟨roomId, now, .handleMessage (.transcript "kim" "너무 어려워요")⟩]

/-- A minute after the firing for another room, both rooms get their intervention. -/
theorem rooms_independent_iff_minute : ∃ s₁ s₂,
    perplexity.exec perplexity.init (confusedAt "a" 1000 ++ confusedAt "b" 61000) = some s₁ ∧
    perplexity.exec perplexity.init (confusedAt "b" 61000) = some s₂ ∧
    perplexity.AllSteps (Undisturbed "b") perplexity.init (confusedAt "b" 61000) ∧
    (results "b" s₁ = results "b" s₂ ↔ perplexity.AllSteps (Undisturbed "b") perplexity.init
      (confusedAt "a" 1000 ++ confusedAt "b" 61000)) := by
  obtain ⟨s₁, h₁⟩ := Option.isSome_iff_exists.mp (show (perplexity.exec perplexity.init
    (confusedAt "a" 1000 ++ confusedAt "b" 61000)).isSome = true by decide +kernel)
  obtain ⟨s₂, h₂⟩ := Option.isSome_iff_exists.mp (show (perplexity.exec perplexity.init
    (confusedAt "b" 61000)).isSome = true by decide +kernel)
  have hfilter : (confusedAt "b" 61000).filter (·.roomId = "b") = confusedAt "b" 61000 := by
    decide +kernel
  have hu : perplexity.AllSteps (Undisturbed "b") perplexity.init (confusedAt "b" 61000) :=
    (results_alone_iff (alike_init "b") h₂ (hfilter.symm ▸ h₂)).mp rfl
  exact ⟨s₁, s₂, h₁, h₂, hu, rooms_independent_iff "b" h₁ h₂ (by decide +kernel) hu⟩

/-- A firing for room `a` silences the constraint in room `b`: a second later `b` gets nothing,
although the same messages alone give it an intervention. -/
theorem firing_silences_other_room : ∃ s₁ s₂,
    perplexity.exec perplexity.init (confusedAt "a" 1000 ++ confusedAt "b" 2000) = some s₁ ∧
    perplexity.exec perplexity.init (confusedAt "b" 2000) = some s₂ ∧
    (confusedAt "a" 1000 ++ confusedAt "b" 2000).filter (·.roomId = "b") =
      (confusedAt "b" 2000).filter (·.roomId = "b") ∧
    results "b" s₁ ≠ results "b" s₂ := by
  have hdiffer : (perplexity.exec perplexity.init
        (confusedAt "a" 1000 ++ confusedAt "b" 2000)).map (results "b") ≠
      (perplexity.exec perplexity.init (confusedAt "b" 2000)).map (results "b") := by
    decide +kernel
  obtain ⟨s₁, h₁⟩ := Option.isSome_iff_exists.mp (show (perplexity.exec perplexity.init
    (confusedAt "a" 1000 ++ confusedAt "b" 2000)).isSome = true by decide +kernel)
  obtain ⟨s₂, h₂⟩ := Option.isSome_iff_exists.mp (show (perplexity.exec perplexity.init
    (confusedAt "b" 2000)).isSome = true by decide +kernel)
  rw [h₁, h₂] at hdiffer
  exact ⟨s₁, s₂, h₁, h₂, by decide +kernel, fun heq => hdiffer (congrArg some heq)⟩

end Perplexity
