import Mathlib.Data.List.Basic
import Mathlib.Tactic.Common

set_option relaxedAutoImplicit false
set_option autoImplicit false

/-!
# Event-driven systems

A system that reacts to one event at a time: every event carries what the outside world
decided (the clock, the outcome of a foreign call), so a step is a partial function, undefined
when the event cannot happen in the state. A run is a list of events.

## Main definitions

* `Foundations.EventSystem` — an initial state and a step function.
* `Foundations.EventSystem.exec` — the state after a run, if the run is possible.
* `Foundations.EventSystem.AllSteps`, `AllStates` — a condition on every step taken, and on
  every state passed, in a run.
* `Foundations.EventSystem.Separated` — between two kinds of steps there is an event of a third.
* `Foundations.EventSystem.withHistory` — the same system with a history variable.
* `Foundations.EventSystem.Unwinding` — the two local conditions of noninterference.

## Main results

* `Foundations.EventSystem.exec_invariant` — what every step of a conditioned run preserves
  holds at its end; `reachable_invariant` is the unconditioned form.
* `Foundations.EventSystem.allSteps_of_invariant`, `allStates_of_invariant` — the same for a
  property of every step or of every state.
* `Foundations.EventSystem.allStates_iff_allSteps` — a condition that is exactly what one step
  needs to keep a property is exactly what a run needs to keep it throughout;
  `allStates_iff_of_step_iff` is the form for a step lemma that is itself an equivalence.
* `Foundations.EventSystem.Separated.of_kept` — the rule for steps that an event has to separate.
* `Foundations.EventSystem.Unwinding.exec_rel` — runs that agree on the visible events end in
  related states.
-/

namespace Foundations

variable {σ ε γ : Type*}

/-- An initial state and a partial step function: `step s e = none` when the event `e` cannot
happen in `s`. -/
structure EventSystem (σ ε : Type*) where
  /-- The initial state. -/
  init : σ
  /-- The state after an event, if the event can happen. -/
  step : σ → ε → Option σ

namespace EventSystem

/-- The state after a run, if every event of it could happen. -/
def exec (M : EventSystem σ ε) : σ → List ε → Option σ
  | s, [] => some s
  | s, e :: es =>
    match M.step s e with
    | none => none
    | some s' => M.exec s' es

/-- Every step taken in the run meets `C`, a condition on the state before the step and the
event. -/
def AllSteps (M : EventSystem σ ε) (C : σ → ε → Prop) : σ → List ε → Prop
  | _, [] => True
  | s, e :: es =>
    C s e ∧ match M.step s e with
      | none => True
      | some s' => M.AllSteps C s' es

/-- Every state passed in the run satisfies `P`. -/
def AllStates (M : EventSystem σ ε) (P : σ → Prop) : σ → List ε → Prop
  | s, [] => P s
  | s, e :: es =>
    P s ∧ match M.step s e with
      | none => True
      | some s' => M.AllStates P s' es

/-- A state is reachable when some run from the initial state ends in it. -/
def Reachable (M : EventSystem σ ε) (s : σ) : Prop := ∃ es, M.exec M.init es = some s

instance decidableAllSteps (M : EventSystem σ ε) (C : σ → ε → Prop) [∀ s e, Decidable (C s e)] :
    ∀ s es, Decidable (M.AllSteps C s es)
  | _, [] => inferInstanceAs (Decidable True)
  | s, e :: es =>
    @instDecidableAnd (C s e)
      (match M.step s e with
        | none => True
        | some s' => M.AllSteps C s' es) _
      (match M.step s e with
        | none => inferInstanceAs (Decidable True)
        | some s' => decidableAllSteps M C s' es)

instance decidableAllStates (M : EventSystem σ ε) (P : σ → Prop) [∀ s, Decidable (P s)] :
    ∀ s es, Decidable (M.AllStates P s es)
  | s, [] => inferInstanceAs (Decidable (P s))
  | s, e :: es =>
    @instDecidableAnd (P s)
      (match M.step s e with
        | none => True
        | some s' => M.AllStates P s' es) _
      (match M.step s e with
        | none => inferInstanceAs (Decidable True)
        | some s' => decidableAllStates M P s' es)

variable {M : EventSystem σ ε}

/-! ## Invariants of runs -/

/-- A run with a first event splits into its first step and the rest. -/
lemma exec_cons {s t : σ} {e : ε} {es : List ε} :
    M.exec s (e :: es) = some t ↔ ∃ s', M.step s e = some s' ∧ M.exec s' es = some t := by
  simp only [exec]
  cases M.step s e <;> simp

/-- Running two lists one after the other. -/
lemma exec_append {s t u : σ} {es es' : List ε} (h : M.exec s es = some t)
    (h' : M.exec t es' = some u) : M.exec s (es ++ es') = some u := by
  induction es generalizing s with
  | nil =>
    simp only [exec, Option.some.injEq] at h
    subst h
    exact h'
  | cons e es ih =>
    obtain ⟨s', hs, hr⟩ := exec_cons.mp h
    exact exec_cons.mpr ⟨s', hs, ih hr⟩

/-- A run from a reachable state ends in a reachable state. -/
lemma Reachable.exec {s t : σ} {es : List ε} (h : M.Reachable s) (hr : M.exec s es = some t) :
    M.Reachable t := by
  obtain ⟨es₀, h₀⟩ := h
  exact ⟨es₀ ++ es, exec_append h₀ hr⟩

/-- One step from a reachable state. -/
lemma Reachable.step {s t : σ} {e : ε} (h : M.Reachable s) (hs : M.step s e = some t) :
    M.Reachable t :=
  h.exec (exec_cons.mpr ⟨t, hs, rfl⟩ : M.exec s [e] = some t)

/-- The condition of a run with a first event, once that step is known. -/
lemma allSteps_cons {C : σ → ε → Prop} {s s' : σ} {e : ε} {es : List ε}
    (hs : M.step s e = some s') :
    M.AllSteps C s (e :: es) ↔ C s e ∧ M.AllSteps C s' es := by
  simp only [AllSteps, hs]

/-- The states of a run with a first event, once that step is known. -/
lemma allStates_cons {P : σ → Prop} {s s' : σ} {e : ε} {es : List ε}
    (hs : M.step s e = some s') :
    M.AllStates P s (e :: es) ↔ P s ∧ M.AllStates P s' es := by
  simp only [AllStates, hs]

/-- **Invariant rule for conditioned runs.** What every step meeting `C` preserves holds at the
end of every run whose steps all meet `C`. -/
theorem exec_invariant {I : σ → Prop} {C : σ → ε → Prop}
    (hstep : ∀ s e s', I s → C s e → M.step s e = some s' → I s') :
    ∀ {es : List ε} {s t : σ}, I s → M.AllSteps C s es → M.exec s es = some t → I t
  | [], s, t, hI, _, hr => by
    simp only [exec, Option.some.injEq] at hr
    exact hr ▸ hI
  | e :: es, s, t, hI, hC, hr => by
    obtain ⟨s', hs, hr'⟩ := exec_cons.mp hr
    obtain ⟨hCe, hCs⟩ := (allSteps_cons hs).mp hC
    exact exec_invariant hstep (hstep s e s' hI hCe hs) hCs hr'

/-- The trivial condition holds along every run. -/
lemma allSteps_true : ∀ (s : σ) (es : List ε), M.AllSteps (fun _ _ => True) s es
  | _, [] => trivial
  | s, e :: es => by
    refine ⟨trivial, ?_⟩
    cases M.step s e with
    | none => trivial
    | some s' => exact allSteps_true s' es

/-- A condition on the events alone. -/
lemma allSteps_of_forall {C : ε → Prop} : ∀ {es : List ε} (s : σ), (∀ e ∈ es, C e) →
    M.AllSteps (fun _ e => C e) s es
  | [], _, _ => trivial
  | e :: es, s, h => by
    refine ⟨h e List.mem_cons_self, ?_⟩
    cases M.step s e with
    | none => trivial
    | some s' => exact allSteps_of_forall s' fun e' he' => h e' (List.mem_cons_of_mem e he')

/-- Two conditions that hold along a run hold together. -/
lemma AllSteps.and {C D : σ → ε → Prop} : ∀ {es : List ε} {s : σ}, M.AllSteps C s es →
    M.AllSteps D s es → M.AllSteps (fun s e => C s e ∧ D s e) s es
  | [], _, _, _ => trivial
  | e :: es, s, hC, hD => by
    refine ⟨⟨hC.1, hD.1⟩, ?_⟩
    cases hs : M.step s e with
    | none => trivial
    | some s' => exact ((allSteps_cons hs).mp hC).2.and ((allSteps_cons hs).mp hD).2

/-- Two conditions that agree on possible steps agree on possible runs. `I` is an invariant. -/
lemma allSteps_congr_of_invariant {I : σ → Prop} {C D : σ → ε → Prop}
    (hI : ∀ s e s', I s → M.step s e = some s' → I s')
    (h : ∀ s e s', I s → M.step s e = some s' → (C s e ↔ D s e)) :
    ∀ {es : List ε} {s t : σ}, I s → M.exec s es = some t →
      (M.AllSteps C s es ↔ M.AllSteps D s es)
  | [], _, _, _, _ => Iff.rfl
  | e :: es, s, _, hs, hr => by
    obtain ⟨s', hstep, hr'⟩ := exec_cons.mp hr
    rw [allSteps_cons hstep, allSteps_cons hstep, h s e s' hs hstep,
      allSteps_congr_of_invariant hI h (hI s e s' hs hstep) hr']

/-- Two conditions that agree on possible steps agree on possible runs. -/
lemma allSteps_congr {C D : σ → ε → Prop}
    (h : ∀ s e s', M.step s e = some s' → (C s e ↔ D s e)) {es : List ε} {s t : σ}
    (hr : M.exec s es = some t) : M.AllSteps C s es ↔ M.AllSteps D s es :=
  allSteps_congr_of_invariant (I := fun _ => True) (fun _ _ _ _ _ => trivial)
    (fun s e s' _ => h s e s') trivial hr

/-- A run that does not meet a condition has a first step that does not. -/
lemma exists_first_violation {C : σ → ε → Prop} : ∀ {es : List ε} {s t : σ},
    M.exec s es = some t → ¬ M.AllSteps C s es →
    ∃ es₁ e es₂ u u', es = es₁ ++ e :: es₂ ∧ M.exec s es₁ = some u ∧ M.AllSteps C s es₁ ∧
      M.step u e = some u' ∧ ¬ C u e
  | [], _, _, _, h => absurd trivial h
  | e :: es, s, t, hr, h => by
    obtain ⟨s', hs, hr'⟩ := exec_cons.mp hr
    rw [allSteps_cons hs] at h
    by_cases hC : C s e
    · obtain ⟨es₁, e₁, es₂, u, u', rfl, hu, hall, hstep, hnot⟩ :=
        exists_first_violation hr' fun hrest => h ⟨hC, hrest⟩
      exact ⟨e :: es₁, e₁, es₂, u, u', rfl, exec_cons.mpr ⟨s', hs, hu⟩,
        (allSteps_cons hs).mpr ⟨hC, hall⟩, hstep, hnot⟩
    · exact ⟨[], e, es, s, s', rfl, rfl, trivial, hs, hC⟩

/-- A condition on all steps of a run holds of its last step. -/
lemma AllSteps.last {C : σ → ε → Prop} {e : ε} : ∀ {es : List ε} {s t : σ},
    M.AllSteps C s (es ++ [e]) → M.exec s es = some t → C t e
  | [], _, _, h, hr => Option.some.inj hr ▸ h.1
  | _ :: _, _, _, h, hr => by
    obtain ⟨s', hs, hr'⟩ := exec_cons.mp hr
    exact ((allSteps_cons hs).mp h).2.last hr'

/-- What holds in every state of a possible run holds at its end. -/
lemma AllStates.last {P : σ → Prop} : ∀ {es : List ε} {s t : σ}, M.AllStates P s es →
    M.exec s es = some t → P t
  | [], _, _, h, hr => Option.some.inj hr ▸ h
  | _ :: _, _, _, h, hr => by
    obtain ⟨s', hs, hr'⟩ := exec_cons.mp hr
    exact ((allStates_cons hs).mp h).2.last hr'

/-- **Invariant rule.** What holds initially and is preserved by every step holds in every
reachable state. -/
theorem reachable_invariant {I : σ → Prop} (h0 : I M.init)
    (hstep : ∀ s e s', I s → M.step s e = some s' → I s') {s : σ} (hs : M.Reachable s) : I s := by
  obtain ⟨es, hes⟩ := hs
  exact exec_invariant (C := fun _ _ => True) (fun s e s' hI _ => hstep s e s' hI) h0
    (allSteps_true _ _) hes

/-- A property of steps that follows from an invariant holds at every step of the run. -/
theorem allSteps_of_invariant {I : σ → Prop} {C Q : σ → ε → Prop}
    (hstep : ∀ s e s', I s → C s e → M.step s e = some s' → I s')
    (hQ : ∀ s e, I s → C s e → Q s e) :
    ∀ {es : List ε} {s : σ}, I s → M.AllSteps C s es → M.AllSteps Q s es
  | [], _, _, _ => trivial
  | e :: es, s, hI, hC => by
    refine ⟨hQ s e hI hC.1, ?_⟩
    cases hs : M.step s e with
    | none => trivial
    | some s' =>
      exact allSteps_of_invariant hstep hQ (hstep s e s' hI hC.1 hs) ((allSteps_cons hs).mp hC).2

/-- A property of states that follows from an invariant holds in every state of the run. -/
theorem allStates_of_invariant {I P : σ → Prop} {C : σ → ε → Prop}
    (hstep : ∀ s e s', I s → C s e → M.step s e = some s' → I s') (hP : ∀ s, I s → P s) :
    ∀ {es : List ε} {s : σ}, I s → M.AllSteps C s es → M.AllStates P s es
  | [], s, hI, _ => hP s hI
  | e :: es, s, hI, hC => by
    refine ⟨hP s hI, ?_⟩
    cases hs : M.step s e with
    | none => trivial
    | some s' =>
      exact allStates_of_invariant hstep hP (hstep s e s' hI hC.1 hs)
        ((allSteps_cons hs).mp hC).2

/-- **Exact conditions.** If under the invariant a step keeps `P` when it meets `C` and loses it
when it does not, then `P` holds throughout a possible run exactly when all its steps meet `C`.

**Proof sketch.** Induction on the run. If the first step meets `C`, both sides reduce to the
rest of the run; if not, the state after it violates `P`. -/
theorem allStates_iff_allSteps {I P : σ → Prop} {C : σ → ε → Prop}
    (hP : ∀ s, I s → P s)
    (hstep : ∀ s e s', I s → C s e → M.step s e = some s' → I s')
    (hneg : ∀ s e s', I s → ¬ C s e → M.step s e = some s' → ¬ P s') :
    ∀ {es : List ε} {s t : σ}, I s → M.exec s es = some t →
      (M.AllStates P s es ↔ M.AllSteps C s es)
  | [], s, _, hI, _ => ⟨fun _ => trivial, fun _ => hP s hI⟩
  | e :: es, s, t, hI, hr => by
    obtain ⟨s', hs, hr'⟩ := exec_cons.mp hr
    rw [allStates_cons hs, allSteps_cons hs]
    by_cases hC : C s e
    · have ih := allStates_iff_allSteps hP hstep hneg (hstep s e s' hI hC hs) hr'
      exact ⟨fun h => ⟨hC, ih.mp h.2⟩, fun h => ⟨hP s hI, ih.mpr h.2⟩⟩
    · refine ⟨fun h => absurd ?_ (hneg s e s' hI hC hs), fun h => absurd h.1 hC⟩
      cases es with
      | nil => exact h.2
      | cons e' es => exact h.2.1

/-- If a step that meets `D` and not `C` loses `P`, then the steps of a possible run that meets `D`
and keeps `P` meet `C`. `I` is an invariant. -/
theorem allSteps_of_allStates {I P : σ → Prop} {C D : σ → ε → Prop}
    (hI : ∀ s e s', I s → M.step s e = some s' → I s')
    (hneg : ∀ s e s', I s → D s e → ¬ C s e → M.step s e = some s' → ¬ P s') :
    ∀ {es : List ε} {s t : σ}, I s → M.exec s es = some t → M.AllSteps D s es →
      M.AllStates P s es → M.AllSteps C s es
  | [], _, _, _, _, _, _ => trivial
  | e :: es, s, t, hs, hr, hD, hP => by
    obtain ⟨s', hstep, hr'⟩ := exec_cons.mp hr
    rw [allSteps_cons hstep] at hD
    rw [allStates_cons hstep] at hP
    refine (allSteps_cons hstep).mpr ⟨?_, ?_⟩
    · by_contra hC
      refine hneg s e s' hs hD.1 hC hstep ?_
      cases es with
      | nil => exact hP.2
      | cons e' es => exact hP.2.1
    · exact allSteps_of_allStates hI hneg (hI s e s' hs hstep) hr' hD.2 hP.2

/-- **Exact conditions, step by step.** If `C` is what a step needs to keep `P`, where `B` is kept
by every step, then `P` holds throughout a possible run exactly when all its steps meet `C`. -/
theorem allStates_iff_of_step_iff {B P : σ → Prop} {C : σ → ε → Prop}
    (hB : ∀ s e s', B s → M.step s e = some s' → B s')
    (hiff : ∀ s e s', B s → P s → M.step s e = some s' → (P s' ↔ C s e)) {es : List ε} {s t : σ}
    (hBs : B s) (hPs : P s) (hr : M.exec s es = some t) :
    M.AllStates P s es ↔ M.AllSteps C s es := by
  refine allStates_iff_allSteps (I := fun s => B s ∧ P s) (fun _ hI => hI.2) ?_ ?_ ⟨hBs, hPs⟩ hr
  · intro s e s' hI hC h
    exact ⟨hB s e s' hI.1 h, (hiff s e s' hI.1 hI.2 h).mpr hC⟩
  · intro s e s' hI hC h hP
    exact hC ((hiff s e s' hI.1 hI.2 h).mp hP)

/-! ## What lies between two steps -/

/-- Between a step that meets `A` and a later step that meets `B` the run has an event of `S`. -/
def Separated (M : EventSystem σ ε) (A B : σ → ε → Prop) (S : ε → Prop) (s : σ) (es : List ε) :
    Prop :=
  ∀ es₁ e₁ es₂ e₂ es₃ s₁ s₂, es = es₁ ++ e₁ :: (es₂ ++ e₂ :: es₃) →
    M.exec s es₁ = some s₁ → A s₁ e₁ → M.exec s (es₁ ++ e₁ :: es₂) = some s₂ → B s₂ e₂ →
    ∃ e ∈ es₂, S e

/-- A run splits where its list of events does. -/
lemma exec_append_iff {s t : σ} {es es' : List ε} :
    M.exec s (es ++ es') = some t ↔ ∃ u, M.exec s es = some u ∧ M.exec u es' = some t := by
  constructor
  · intro h
    induction es generalizing s with
    | nil => exact ⟨s, rfl, h⟩
    | cons e es ih =>
      obtain ⟨s', hs, hr⟩ := exec_cons.mp h
      obtain ⟨u, hu, hrest⟩ := ih hr
      exact ⟨u, exec_cons.mpr ⟨s', hs, hu⟩, hrest⟩
  · rintro ⟨u, hu, hrest⟩
    exact exec_append hu hrest

/-- **Separation rule.** A step that meets `A` leads to `J`; `J` is left only by an event of `S` or
a step that meets `B'`, and excludes a step that meets `B`. Then events of `S` separate `A` from `B`
in every run in which they separate `A` from `B'`. `I` is an invariant.

**Proof sketch.** If no event after the first step is in `S`, none of the steps meets `B'`, so `J`
holds up to the second step, by induction on the events in between. -/
theorem Separated.of_kept {A B B' : σ → ε → Prop} {S : ε → Prop} {I J : σ → Prop}
    (hI : ∀ s e s', I s → M.step s e = some s' → I s')
    (hA : ∀ s e s', I s → A s e → M.step s e = some s' → J s')
    (hJ : ∀ s e s', I s → J s → ¬ S e → ¬ B' s e → M.step s e = some s' → J s')
    (hB : ∀ s e, I s → J s → ¬ B s e) {s : σ} {es : List ε} (hs : I s)
    (h : M.Separated A B' S s es) : M.Separated A B S s es := by
  have hrun : ∀ {es : List ε} {s t : σ}, I s → M.exec s es = some t → I t := fun hI₀ hr =>
    exec_invariant (C := fun _ _ => True) (fun s e s' hs _ => hI s e s' hs) hI₀ (allSteps_true _ _)
      hr
  have hkept : ∀ {es : List ε} {s t : σ}, I s → J s → M.exec s es = some t →
      (∀ e ∈ es, ¬ S e) →
      (∀ xs e ys u, es = xs ++ e :: ys → M.exec s xs = some u → ¬ B' u e) → J t := by
    intro es
    induction es with
    | nil =>
      intro s t _ hJs hr _ _
      exact Option.some.inj hr ▸ hJs
    | cons e es ih =>
      intro s t hIs hJs hr hS hB'
      obtain ⟨s', hstep, hr'⟩ := exec_cons.mp hr
      have hJ' := hJ s e s' hIs hJs (hS e List.mem_cons_self) (hB' [] e es s rfl rfl) hstep
      refine ih (hI s e s' hIs hstep) hJ' hr' (fun x hx => hS x (List.mem_cons_of_mem e hx)) ?_
      intro xs x ys u hes hu
      exact hB' (e :: xs) x ys u (by rw [hes]; rfl) (exec_cons.mpr ⟨s', hstep, hu⟩)
  intro es₁ e₁ es₂ e₂ es₃ s₁ s₂ hes h₁ hA₁ h₂ hB₂
  by_contra hnone
  have hS : ∀ e ∈ es₂, ¬ S e := fun e he hSe => hnone ⟨e, he, hSe⟩
  obtain ⟨u, hu, hrest⟩ := exec_append_iff.mp h₂
  obtain rfl := Option.some.inj (h₁.symm.trans hu)
  obtain ⟨s', hstep, hr⟩ := exec_cons.mp hrest
  have hI₁ := hrun hs h₁
  refine hB s₂ e₂ (hrun hs h₂) (hkept (hI _ _ _ hI₁ hstep) (hA _ _ _ hI₁ hA₁ hstep) hr hS ?_) hB₂
  intro xs e ys v hxs hv hB'
  -- the events before this one are among those in between
  obtain ⟨x, hx, hSx⟩ := h es₁ e₁ xs e (ys ++ e₂ :: es₃) s₁ v (by rw [hes, hxs]; simp) h₁ hA₁
    (exec_append h₁ (exec_cons.mpr ⟨s', hstep, hv⟩)) hB'
  exact hS x (by rw [hxs]; exact List.mem_append_left _ hx) hSx

/-! ## History variables -/

/-- A new state with a history beside it. -/
lemma map_pair_eq_some {o : Option σ} {g : γ} {p : σ × γ} :
    (o.map fun s => (s, g)) = some p ↔ o = some p.1 ∧ p.2 = g := by
  rcases p with ⟨s', g'⟩
  simp only [Option.map_eq_some_iff, Prod.mk.injEq]
  constructor
  · rintro ⟨a, ha, rfl, rfl⟩
    exact ⟨ha, rfl⟩
  · rintro ⟨ha, rfl⟩
    exact ⟨s', ha, rfl, rfl⟩

/-- A new state with a history beside it, under a guard. -/
lemma guarded_pair_eq_some {c : Prop} [Decidable c] {o : Option σ} {g : γ} {p : σ × γ} :
    (if c then o.map fun s => (s, g) else none) = some p ↔ c ∧ o = some p.1 ∧ p.2 = g := by
  split
  · rename_i hc
    rw [map_pair_eq_some]
    exact (and_iff_right hc).symm
  · rename_i hc
    exact iff_of_false (by simp) fun h => hc h.1

/-- The system with a history variable: `upd` computes it from the state before the step. -/
def withHistory (M : EventSystem σ ε) (upd : σ → ε → γ → γ) (g₀ : γ) : EventSystem (σ × γ) ε where
  init := (M.init, g₀)
  step p e := (M.step p.1 e).map fun s' => (s', upd p.1 e p.2)

/-- A step with history is a step, with the history brought up to date. -/
lemma withHistory_step {upd : σ → ε → γ → γ} {g₀ : γ} {p p' : σ × γ} {e : ε} :
    (M.withHistory upd g₀).step p e = some p' ↔
      M.step p.1 e = some p'.1 ∧ p'.2 = upd p.1 e p.2 :=
  map_pair_eq_some

/-- A possible run is possible with history. -/
lemma withHistory_exec {upd : σ → ε → γ → γ} {g₀ : γ} :
    ∀ {es : List ε} {s t : σ} (g : γ), M.exec s es = some t →
      ∃ g', (M.withHistory upd g₀).exec (s, g) es = some (t, g')
  | [], _, _, g, h => ⟨g, congrArg (Option.map (·, g)) h⟩
  | e :: es, s, t, g, h => by
    obtain ⟨s', hs, hr⟩ := exec_cons.mp h
    obtain ⟨g', hg⟩ : ∃ g', (M.withHistory upd g₀).exec (s', upd s e g) es = some (t, g') :=
      withHistory_exec (upd s e g) hr
    exact ⟨g', exec_cons.mpr ⟨(s', upd s e g), withHistory_step.mpr ⟨hs, rfl⟩, hg⟩⟩

/-- A condition on steps that does not read the history. -/
lemma withHistory_allSteps {upd : σ → ε → γ → γ} {g₀ : γ} {C : σ → ε → Prop} :
    ∀ {es : List ε} {s : σ} {g : γ},
      (M.withHistory upd g₀).AllSteps (fun p e => C p.1 e) (s, g) es ↔ M.AllSteps C s es
  | [], _, _ => Iff.rfl
  | e :: es, s, g => by
    cases hs : M.step s e with
    | none => simp [AllSteps, withHistory, hs]
    | some s' =>
      have hs' : (M.withHistory upd g₀).step (s, g) e = some (s', upd s e g) :=
        withHistory_step.mpr ⟨hs, rfl⟩
      rw [allSteps_cons hs', allSteps_cons hs, withHistory_allSteps]

/-- A property of states that does not read the history. -/
lemma withHistory_allStates {upd : σ → ε → γ → γ} {g₀ : γ} {P : σ → Prop} :
    ∀ {es : List ε} {s : σ} {g : γ},
      (M.withHistory upd g₀).AllStates (fun p => P p.1) (s, g) es ↔ M.AllStates P s es
  | [], _, _ => Iff.rfl
  | e :: es, s, g => by
    cases hs : M.step s e with
    | none => simp [AllStates, withHistory, hs]
    | some s' =>
      have hs' : (M.withHistory upd g₀).step (s, g) e = some (s', upd s e g) :=
        withHistory_step.mpr ⟨hs, rfl⟩
      rw [allStates_cons hs', allStates_cons hs, withHistory_allStates]

/-! ## Noninterference -/

/-- The local conditions of noninterference for an observation given by the relation `R` of
states that look the same: an invisible event does not change what is seen, and a visible event
maps states that look the same to states that look the same. `I` is an invariant. -/
structure Unwinding (M : EventSystem σ ε) (I : σ → Prop) (R : σ → σ → Prop) (vis : ε → Bool) :
    Prop where
  /-- Looking the same is symmetric. -/
  symm : ∀ {s t}, R s t → R t s
  /-- Looking the same is transitive. -/
  trans : ∀ {s t u}, R s t → R t u → R s u
  /-- The invariant is preserved. -/
  inv : ∀ {s e s'}, I s → M.step s e = some s' → I s'
  /-- Invisible events are not seen. -/
  silent : ∀ {s e s'}, I s → vis e = false → M.step s e = some s' → R s s'
  /-- Visible events are seen the same way. -/
  visible : ∀ {s t e s' t'}, I s → I t → vis e = true → R s t → M.step s e = some s' →
    M.step t e = some t' → R s' t'

/-- **Noninterference.** Two runs that agree on the visible events, with arbitrary invisible
events in between, lead from states that look the same to states that look the same.

**Proof sketch.** Induction on the two runs together. Invisible events at the head of either run
are absorbed by transitivity; once both runs start with a visible event it is the same one. -/
theorem Unwinding.exec_rel {I : σ → Prop} {R : σ → σ → Prop} {vis : ε → Bool}
    (U : M.Unwinding I R vis) :
    ∀ {es₁ es₂ : List ε} {s t s' t' : σ}, I s → I t → R s t →
      es₁.filter vis = es₂.filter vis → M.exec s es₁ = some s' → M.exec t es₂ = some t' →
      R s' t' := by
  intro es₁
  induction es₁ with
  | nil =>
    intro es₂
    induction es₂ with
    | nil =>
      intro s t s' t' _ _ hR _ h₁ h₂
      simp only [exec, Option.some.injEq] at h₁ h₂
      exact h₁ ▸ h₂ ▸ hR
    | cons e es₂ ih =>
      intro s t s' t' hs ht hR hf h₁ h₂
      obtain ⟨t₁, ht₁, hr⟩ := exec_cons.mp h₂
      cases hv : vis e with
      | true => simp [hv] at hf
      | false =>
        rw [List.filter_cons_of_neg (by simp [hv])] at hf
        exact ih hs (U.inv ht ht₁) (U.trans hR (U.silent ht hv ht₁)) hf h₁ hr
  | cons e es₁ ih =>
    intro es₂ s t s' t' hs ht hR hf h₁ h₂
    obtain ⟨s₁, hs₁, hr₁⟩ := exec_cons.mp h₁
    cases hv : vis e with
    | false =>
      rw [List.filter_cons_of_neg (by simp [hv])] at hf
      exact ih (U.inv hs hs₁) ht (U.trans (U.symm (U.silent hs hv hs₁)) hR) hf hr₁ h₂
    | true =>
      rw [List.filter_cons_of_pos hv] at hf
      -- the second run is stripped of its leading invisible events
      induction es₂ generalizing t with
      | nil => simp at hf
      | cons e' es₂ ih₂ =>
        obtain ⟨t₁, ht₁, hr₂⟩ := exec_cons.mp h₂
        cases hv' : vis e' with
        | false =>
          rw [List.filter_cons_of_neg (by simp [hv'])] at hf
          exact ih₂ (U.inv ht ht₁) (U.trans hR (U.silent ht hv' ht₁)) hf hr₂
        | true =>
          rw [List.filter_cons_of_pos hv', List.cons.injEq] at hf
          obtain ⟨rfl, hf⟩ := hf
          exact ih (U.inv hs hs₁) (U.inv ht ht₁) (U.visible hs ht hv hR hs₁ ht₁) hf hr₁ hr₂

end EventSystem

end Foundations
