import AuraLive.Perplexity.Steps

set_option relaxedAutoImplicit false
set_option autoImplicit false

/-!
# Intervention rate limits

The stamps `lastPropagation` of the sessions and `lastTriggered` of the constraints bound how often
the service intervenes. The limits are stated on the recorded calls of `propagate`, without the
stamps: two calls for one session object are half a second apart, a call yields at most one action,
two firings of a constraint are its cooldown apart, and the highest-ranked eligible constraint
fires.

## Main definitions

* `Perplexity.Eligible` — a constraint that holds and has not fired within its cooldown.
* `Perplexity.RateLimited` — the limits.
* `Perplexity.Stamped` — the invariant that ties the stamps to the recorded calls.

## Main results

* `Perplexity.stamped_reachable` — the stamps are right in every reachable state.
* `Perplexity.admits_iff_eligible` — the loop of `propagate` stops at a constraint exactly when it
  is eligible.
* `Perplexity.interventions_rateLimited` — the limits hold in every reachable state.
-/

namespace Perplexity

open Foundations

section Arithmetic

variable [Rounding]

/-! ## The limits -/

/-- A call of `propagate` fires a constraint. -/
def Propagation.fires (p : Propagation) (c : WFCConstraint) : Prop :=
  c.id ∈ p.result.triggeredConstraints

/-- A constraint of the table whose condition holds of a session, and which no earlier call has
fired within its cooldown. -/
structure Eligible (earlier : List Propagation) (session : PerplexitySession) (now : ℕ)
    (c : WFCConstraint) : Prop where
  mem : c ∈ DEFAULT_CONSTRAINTS
  holds : c.condition session now = true
  elapsed : ∀ q ∈ earlier, q.fires c → q.now + c.cooldownMs ≤ now

/-- The limits, on the recorded calls of `propagate` (the last one first). -/
structure RateLimited (ps : List Propagation) : Prop where
  /-- Two calls for one session object are at least 500 ms apart. -/
  spaced : ps.Pairwise fun p q => q.roomId = p.roomId → q.session.serial = p.session.serial →
    q.now + 500 ≤ p.now
  /-- A call yields at most one action. -/
  single : ∀ p ∈ ps, p.result.actions.length ≤ 1
  /-- Two firings of a constraint are at least its cooldown apart. -/
  cooled : ∀ c ∈ DEFAULT_CONSTRAINTS, ps.Pairwise fun p q => p.fires c → q.fires c →
    q.now + c.cooldownMs ≤ p.now
  /-- The constraint that fires is the eligible one of highest priority. -/
  highest : ∀ p earlier, p :: earlier <:+ ps → ∀ c ∈ DEFAULT_CONSTRAINTS, p.fires c →
    Eligible earlier p.session p.now c ∧
      ∀ c', Eligible earlier p.session p.now c' → c' ≠ c → c'.priority < c.priority
  /-- An eligible constraint is passed over only in favour of an eligible one of higher priority,
  which fires. -/
  passedOver : ∀ p earlier, p :: earlier <:+ ps → ∀ c, Eligible earlier p.session p.now c →
    ¬ p.fires c →
      ∃ c', Eligible earlier p.session p.now c' ∧ p.fires c' ∧ c.priority < c'.priority

/-! ## The stamps -/

/-- The stamps agree with the recorded calls. -/
structure Stamped (s : PerplexityService) : Prop where
  /-- The clock is positive. -/
  clock : 0 < s.clock
  /-- Recorded times lie between 0 and the last clock reading. -/
  times : ∀ q ∈ s.propagations, 0 < q.now ∧ q.now ≤ s.clock
  /-- A stamp is the time of a firing. -/
  stamp : ∀ id t, s.wfcEngine.lastTriggered id = some t →
    ∃ q ∈ s.propagations, id ∈ q.result.triggeredConstraints ∧ q.now = t
  /-- No firing is later than the stamp. -/
  stamped : ∀ q ∈ s.propagations, ∀ id ∈ q.result.triggeredConstraints,
    ∃ t, s.wfcEngine.lastTriggered id = some t ∧ q.now ≤ t
  /-- Sessions are numbered from the count of their room. -/
  serial : ∀ r session, s.sessions.get r = some session → session.serial < s.started r
  /-- So are the sessions of recorded calls. -/
  recorded : ∀ q ∈ s.propagations, q.session.serial < s.started q.roomId
  /-- No call for a session is later than its stamp. -/
  last : ∀ q ∈ s.propagations, ∀ session, s.sessions.get q.roomId = some session →
    session.serial = q.session.serial → q.now ≤ session.lastPropagation

/-- The initial state is stamped. -/
lemma stamped_init : Stamped perplexity.init := by
  constructor <;> simp [perplexity]

/-- A step without an evaluation keeps the stamps right. -/
lemma Stamped.quiet {s s' : PerplexityService} {e : Event} (hs : Stamped s)
    (h : perplexity.step s e = some s') (hq : Quiet s e s') : Stamped s' := by
  have hsteps := (step_cases h).1
  have hclock := hs.clock
  have hle := hsteps.clock
  have hclock' := hsteps.clock'
  constructor
  · omega
  · intro q hmem
    rw [hq.propagations] at hmem
    have := hs.times q hmem
    omega
  · intro id t ht
    rw [hq.wfcEngine] at ht
    rw [hq.propagations]
    exact hs.stamp id t ht
  · intro q hmem id hid
    rw [hq.propagations] at hmem
    rw [hq.wfcEngine]
    exact hs.stamped q hmem id hid
  · intro r session' hr
    rcases step_session h hr with ⟨session, hold, hserial, -⟩ | ⟨hserial, hstarted⟩
    · have := hs.serial r session hold
      have := step_started h r
      omega
    · omega
  · intro q hmem
    rw [hq.propagations] at hmem
    have := hs.recorded q hmem
    have := step_started h q.roomId
    omega
  · intro q hmem session' hr hserial'
    rw [hq.propagations] at hmem
    have hrec := hs.recorded q hmem
    rcases step_session h hr with ⟨session, hold, hserial, hlast⟩ | ⟨hserial, -⟩
    · have := hs.last q hmem session hold (by omega)
      have := hs.times q hmem
      omega
    · omega

/-- A step that evaluates the constraints of a session keeps the stamps right: the session and the
constraint that fires are stamped with the time of the call.

**Proof sketch.** The session and the constraint that fires get the time of the call, and the log
gets an entry of this time. Each part of the relation is shown for this entry and for the older
ones. Older entries are not later than the clock, so new stamps are at least theirs; entries of
other rooms concern other sessions, and those of earlier sessions of the room have smaller serial
numbers. -/
lemma Stamped.evaluates {s s' : PerplexityService} {e : Event} {session : PerplexitySession}
    (hs : Stamped s) (h : perplexity.step s e = some s') (hev : Evaluates s e s' session) :
    Stamped s' := by
  have hsteps := (step_cases h).1
  have hclock := hs.clock
  have hle := hsteps.clock
  have hclock' := hsteps.clock'
  obtain ⟨old, handed, hold, hk, -, hsession, hstarted⟩ := evaluated_origin hev.evaluated
  have hserial : session.serial = old.serial := by rw [hsession]; exact hk.serial
  have hstarted' : s'.started e.roomId = s.started e.roomId := by rw [hsteps.started, hstarted]
  have hroom : s'.sessions.get e.roomId = some (s.concluded e session) := hev.session
  have hresult : (propagate s.wfcEngine session e.now).2.triggeredConstraints =
      ((fired s.wfcEngine session e.now).map (·.id)).toList := by
    rw [propagate_result]
    rfl
  have hengine : ∀ id, s'.wfcEngine.lastTriggered id =
      if (fired s.wfcEngine session e.now).map (·.id) = some id then some e.now
      else s.wfcEngine.lastTriggered id := by
    intro id
    rw [hev.wfcEngine]
    exact propagate_engine s.wfcEngine session e.now id
  constructor
  · omega
  · intro q hmem
    rw [hev.propagations] at hmem
    rcases List.mem_cons.mp hmem with rfl | hmem
    · dsimp only
      omega
    · have := hs.times q hmem
      omega
  · intro id t ht
    rw [hengine id] at ht
    rw [hev.propagations]
    split at ht
    · rename_i hid
      refine ⟨_, List.mem_cons_self, ?_, Option.some.inj ht⟩
      simp [hresult, hid]
    · obtain ⟨q, hq, hrest⟩ := hs.stamp id t ht
      exact ⟨q, List.mem_cons_of_mem _ hq, hrest⟩
  · intro q hmem id hid
    rw [hev.propagations] at hmem
    rw [hengine id]
    rcases List.mem_cons.mp hmem with rfl | hmem
    · rw [hresult, Option.mem_toList] at hid
      exact ⟨e.now, if_pos hid, le_refl _⟩
    · obtain ⟨t, ht, hqt⟩ := hs.stamped q hmem id hid
      have := hs.times q hmem
      split
      · exact ⟨e.now, rfl, by omega⟩
      · exact ⟨t, ht, hqt⟩
  · intro r session' hr
    rcases step_session h hr with ⟨session₀, hold₀, hserial₀, -⟩ | ⟨hserial₀, hstarted₀⟩
    · have := hs.serial r session₀ hold₀
      have := step_started h r
      omega
    · omega
  · intro q hmem
    rw [hev.propagations] at hmem
    rcases List.mem_cons.mp hmem with rfl | hmem
    · have := hs.serial e.roomId old hold
      dsimp only
      omega
    · have := hs.recorded q hmem
      have := step_started h q.roomId
      omega
  · intro q hmem session' hr hserial'
    rw [hev.propagations] at hmem
    by_cases hqr : q.roomId = e.roomId
    · rw [hqr, hroom, Option.some.injEq] at hr
      subst hr
      show q.now ≤ session.lastPropagation
      have hlast : session.lastPropagation = e.now := by rw [hsession]
      rcases List.mem_cons.mp hmem with rfl | hmem
      · exact Nat.le_of_eq hlast.symm
      · have := hs.times q hmem
        omega
    · rcases List.mem_cons.mp hmem with rfl | hmem
      · exact absurd rfl hqr
      · rw [hsteps.others q.roomId hqr] at hr
        exact hs.last q hmem session' hr hserial'

/-- **The stamps.** They agree with the recorded calls in every reachable state. -/
theorem stamped_reachable {s : PerplexityService} (hs : perplexity.Reachable s) : Stamped s := by
  refine EventSystem.reachable_invariant stamped_init ?_ hs
  intro s e s' hs h
  rcases (step_cases h).2 with hq | ⟨session, hev⟩
  · exact hs.quiet h hq
  · exact hs.evaluates h hev

/-! ## Eligible constraints -/

/-- **Stamps and cooldowns.** The loop of `propagate` stops at a constraint exactly when the
constraint is eligible.

**Proof sketch.** The stamp is the latest firing. As the clock is positive, the truth test on the
stamp only tells whether there is one. -/
theorem admits_iff_eligible {s : PerplexityService} (hs : Stamped s) (session : PerplexitySession)
    (now : ℕ) {c : WFCConstraint} (hc : c ∈ DEFAULT_CONSTRAINTS) :
    s.wfcEngine.admits session now c = true ↔ Eligible s.propagations session now c := by
  have hpos := cooldownMs_pos c hc
  have key : coolingDown c.cooldownMs (s.wfcEngine.lastTriggered c.id) now = false ↔
      ∀ q ∈ s.propagations, q.fires c → q.now + c.cooldownMs ≤ now := by
    constructor
    · intro hcool q hq hfires
      obtain ⟨t, ht, hqt⟩ := hs.stamped q hq c.id hfires
      have htime := hs.times q hq
      have hne : t ≠ 0 := by omega
      simp [coolingDown, ht, hne] at hcool
      omega
    · intro helapsed
      cases ht : s.wfcEngine.lastTriggered c.id with
      | none => rfl
      | some t =>
        obtain ⟨q, hq, hfires, hqt⟩ := hs.stamp c.id t ht
        have := helapsed q hq hfires
        simp [coolingDown]
        omega
  simp only [WFCEngine.admits, Bool.and_eq_true, Bool.not_eq_true', key]
  constructor
  · rintro ⟨helapsed, hholds⟩
    exact ⟨hc, hholds, helapsed⟩
  · rintro ⟨-, hholds, helapsed⟩
    exact ⟨helapsed, hholds⟩

/-! ## The limits hold -/

/-- What a recorded call fires. -/
lemma fires_iff {session : PerplexitySession} {engine : WFCEngine} {roomId : RoomId} {now : ℕ}
    {c : WFCConstraint} (hc : c ∈ DEFAULT_CONSTRAINTS) :
    (Propagation.mk roomId session now (propagate engine session now).2).fires c ↔
      fired engine session now = some c := by
  simp only [Propagation.fires, propagate_result, PropagationResult.of, Option.mem_toList,
    Option.map_eq_some_iff]
  constructor
  · rintro ⟨c', hc', hid⟩
    rw [hc', id_injective c' (mem_of_arbitrate hc') c hc hid]
  · intro h
    exact ⟨c, h, rfl⟩

/-- A call yields at most one action. -/
lemma actions_length_le (engine : WFCEngine) (session : PerplexitySession) (now : ℕ) :
    (propagate engine session now).2.actions.length ≤ 1 := by
  rw [propagate_result]
  cases fired engine session now <;> simp [PropagationResult.of]

/-- A step that evaluates the constraints keeps the limits.

**Proof sketch.** The new call is compared with the recorded ones. The session was due, so the
last call for it, and with it every earlier one, is half a second away; the constraint that fires
is eligible, so its firings are a cooldown away; and it is the choice of the arbitration among the
eligible ones. -/
lemma RateLimited.evaluates {s s' : PerplexityService} {e : Event} {session : PerplexitySession}
    (hr : RateLimited s.propagations) (hs : Stamped s) (hev : Evaluates s e s' session) :
    RateLimited s'.propagations := by
  obtain ⟨old, handed, hold, hk, hdue, hsession, -⟩ := evaluated_origin hev.evaluated
  set p : Propagation := ⟨e.roomId, session, e.now, (propagate s.wfcEngine session e.now).2⟩
    with hp
  have hps : s'.propagations = p :: s.propagations := hev.propagations
  have hfires : ∀ c ∈ DEFAULT_CONSTRAINTS, p.fires c →
      Eligible s.propagations session e.now c := by
    intro c hc hf
    exact (admits_iff_eligible hs session e.now hc).mp (ok_of_arbitrate ((fires_iff hc).mp hf))
  have hchoice : ∀ c ∈ DEFAULT_CONSTRAINTS, p.fires c →
      ∀ c', Eligible s.propagations session e.now c' → c' ≠ c → c'.priority < c.priority := by
    intro c hc hf c' hc' hne
    have harb := (arbitrate_eq_some_iff priority_injective).mp ((fires_iff hc).mp hf)
    exact harb.2.2 c' hc'.mem ((admits_iff_eligible hs session e.now hc'.mem).mpr hc') hne
  rw [hps]
  constructor
  · refine List.pairwise_cons.mpr ⟨fun q hq hroom hserial => ?_, hr.spaced⟩
    have hold' : s.sessions.get q.roomId = some old := hroom ▸ hold
    have hserial' : old.serial = q.session.serial := by
      rw [hserial]
      show old.serial = session.serial
      rw [hsession]
      exact hk.serial.symm
    have hlast := hs.last q hq old hold' hserial'
    have hkeep := hk.lastPropagation
    have helapsed : 500 ≤ e.now - handed.lastPropagation := of_decide_eq_true hdue
    show q.now + 500 ≤ e.now
    omega
  · intro q hq
    rcases List.mem_cons.mp hq with rfl | hq
    · exact actions_length_le s.wfcEngine session e.now
    · exact hr.single q hq
  · intro c hc
    refine List.pairwise_cons.mpr ⟨fun q hq hf hfq => ?_, hr.cooled c hc⟩
    exact (hfires c hc hf).elapsed q hq hfq
  · intro p' earlier hsuffix c hc hf
    rcases List.suffix_cons_iff.mp hsuffix with heq | hsuffix
    · obtain ⟨rfl, rfl⟩ := List.cons.inj heq
      exact ⟨hfires c hc hf, hchoice c hc hf⟩
    · exact hr.highest p' earlier hsuffix c hc hf
  · intro p' earlier hsuffix c hc hnot
    rcases List.suffix_cons_iff.mp hsuffix with heq | hsuffix
    · obtain ⟨rfl, rfl⟩ := List.cons.inj heq
      have hadm := (admits_iff_eligible hs session e.now hc.mem).mpr hc
      cases hfired : fired s.wfcEngine session e.now with
      | none =>
        have := arbitrate_eq_none_iff.mp hfired c hc.mem
        rw [hadm] at this
        exact absurd this (by decide)
      | some c' =>
        have hmem' := mem_of_arbitrate hfired
        have hf' : p.fires c' := (fires_iff hmem').mpr hfired
        have hne : c ≠ c' := fun heq => hnot (heq ▸ hf')
        exact ⟨c', hfires c' hmem' hf', hf', hchoice c' hmem' hf' c hc hne⟩
    · exact hr.passedOver p' earlier hsuffix c hc hnot

/-- **Intervention rate limits.** In every state that the service reaches with a non-decreasing,
positive clock, over any number of sessions, the limits hold of all calls of `propagate`. -/
theorem interventions_rateLimited {s : PerplexityService} (h : perplexity.Reachable s) :
    RateLimited s.propagations := by
  have hboth : Stamped s ∧ RateLimited s.propagations := by
    refine EventSystem.reachable_invariant (I := fun s => Stamped s ∧ RateLimited s.propagations)
      ⟨stamped_init, by constructor <;> simp [perplexity]⟩ ?_ h
    rintro s e s' ⟨hs, hr⟩ hstep
    rcases (step_cases hstep).2 with hq | ⟨session, hev⟩
    · exact ⟨hs.quiet hstep hq, hq.propagations ▸ hr⟩
    · exact ⟨hs.evaluates hstep hev, hr.evaluates hs hev⟩
  exact hboth.2

end Arithmetic

/-- In two rooms somebody finds it hard: the constraint fires for the first room and again, for
the other one, after its cooldown. -/
theorem interventions_rateLimited_twice : ∃ s, perplexity.exec perplexity.init
      [⟨"a", 1000, .startSession⟩, ⟨"a", 1000, .addParticipant "kim" "Kim"⟩,
        ⟨"b", 1000, .startSession⟩, ⟨"b", 1000, .addParticipant "lee" "Lee"⟩,
        ⟨"a", 2000, .handleMessage (.transcript "kim" "너무 어려워요")⟩,
        ⟨"b", 3000, .handleMessage (.transcript "lee" "너무 어려워요")⟩,
        ⟨"b", 62000, .handleMessage (.transcript "lee" "너무 어려워요")⟩] = some s ∧
    s.propagations.map (fun p => (p.now, p.result.triggeredConstraints)) =
      [(62000, [.confusion_intervention]), (3000, []), (2000, [.confusion_intervention])] ∧
    RateLimited s.propagations := by
  obtain ⟨s, hs, hps⟩ := Option.map_eq_some_iff.mp (show (perplexity.exec perplexity.init
      [⟨"a", 1000, .startSession⟩, ⟨"a", 1000, .addParticipant "kim" "Kim"⟩,
        ⟨"b", 1000, .startSession⟩, ⟨"b", 1000, .addParticipant "lee" "Lee"⟩,
        ⟨"a", 2000, .handleMessage (.transcript "kim" "너무 어려워요")⟩,
        ⟨"b", 3000, .handleMessage (.transcript "lee" "너무 어려워요")⟩,
        ⟨"b", 62000, .handleMessage (.transcript "lee" "너무 어려워요")⟩]).map
      (fun s => s.propagations.map fun p => (p.now, p.result.triggeredConstraints)) =
    some [(62000, [.confusion_intervention]), (3000, []), (2000, [.confusion_intervention])] by
    decide +kernel)
  exact ⟨s, hs, hps, interventions_rateLimited ⟨_, hs⟩⟩

end Perplexity
