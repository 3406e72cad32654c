import AuraLive.Foundations.EventSystem

set_option relaxedAutoImplicit false
set_option autoImplicit false

/-!
# Extensions of event systems

A system carried along with another one: it reads the state of the base system, reacts to its
steps and has events of its own, and the base system does not see it. What has been proved about
the base system then holds of the extension.

## Main definitions

* `Foundations.EventSystem.extendWith` — the base system with a further component of its state.
* `Foundations.EventSystem.extend` — the same with a component that refuses no step.

## Main results

* `Foundations.EventSystem.extend_step_inl`, `extend_step_inr` — what the two kinds of steps do.
* `Foundations.EventSystem.extendWith_base` — an invariant of the base system is one of the
  extension.
-/

namespace Foundations.EventSystem

variable {σ ε τ ε' : Type*}

/-- The system `M` with a further component of the state. The component follows a step of `M` by
`follow`, which is given the states before and after it and may refuse it, and moves by itself by
`own`. -/
def extendWith (M : EventSystem σ ε) (follow : σ → ε → σ → τ → Option τ)
    (own : σ → τ → ε' → Option τ) (t₀ : τ) : EventSystem (σ × τ) (ε ⊕ ε') where
  init := (M.init, t₀)
  step p
    | .inl e => (M.step p.1 e).bind fun s' => (follow p.1 e s' p.2).map fun t' => (s', t')
    | .inr e => (own p.1 p.2 e).map fun t' => (p.1, t')

/-- The system `M` with a further component that refuses no step. -/
def extend (M : EventSystem σ ε) (react : σ → ε → σ → τ → τ) (own : σ → τ → ε' → Option τ)
    (t₀ : τ) : EventSystem (σ × τ) (ε ⊕ ε') :=
  M.extendWith (fun s e s' t => some (react s e s' t)) own t₀

variable {M : EventSystem σ ε} {follow : σ → ε → σ → τ → Option τ} {react : σ → ε → σ → τ → τ}
  {own : σ → τ → ε' → Option τ} {t₀ : τ}

@[simp] lemma extendWith_init : (M.extendWith follow own t₀).init = (M.init, t₀) := rfl

@[simp] lemma extend_init : (M.extend react own t₀).init = (M.init, t₀) := rfl

/-- A step of the base system. -/
lemma extendWith_step_inl {p p' : σ × τ} {e : ε} :
    (M.extendWith follow own t₀).step p (.inl e) = some p' ↔
      M.step p.1 e = some p'.1 ∧ follow p.1 e p'.1 p.2 = some p'.2 := by
  rcases p' with ⟨s', t'⟩
  simp only [extendWith, Option.bind_eq_some_iff, Option.map_eq_some_iff, Prod.mk.injEq]
  constructor
  · rintro ⟨a, ha, b, hb, rfl, rfl⟩
    exact ⟨ha, hb⟩
  · rintro ⟨ha, hb⟩
    exact ⟨s', ha, t', hb, rfl, rfl⟩

/-- A step of the component. -/
lemma extendWith_step_inr {p p' : σ × τ} {e : ε'} :
    (M.extendWith follow own t₀).step p (.inr e) = some p' ↔
      p'.1 = p.1 ∧ own p.1 p.2 e = some p'.2 := by
  rcases p' with ⟨s', t'⟩
  simp only [extendWith, Option.map_eq_some_iff, Prod.mk.injEq]
  constructor
  · rintro ⟨a, ha, rfl, rfl⟩
    exact ⟨rfl, ha⟩
  · rintro ⟨rfl, ha⟩
    exact ⟨t', ha, rfl, rfl⟩

/-- A step of the base system that is not refused. -/
lemma extend_step_inl {p p' : σ × τ} {e : ε} :
    (M.extend react own t₀).step p (.inl e) = some p' ↔
      M.step p.1 e = some p'.1 ∧ p'.2 = react p.1 e p'.1 p.2 := by
  rw [extend, extendWith_step_inl, Option.some.injEq, eq_comm (a := p'.2)]

/-- A step of the component. -/
lemma extend_step_inr {p p' : σ × τ} {e : ε'} :
    (M.extend react own t₀).step p (.inr e) = some p' ↔
      p'.1 = p.1 ∧ own p.1 p.2 e = some p'.2 :=
  extendWith_step_inr

/-- **Invariants of the base system** are kept by every step of the extension. -/
lemma extendWith_base {I : σ → Prop} (hI : ∀ s e s', I s → M.step s e = some s' → I s')
    {p p' : σ × τ} {e : ε ⊕ ε'} (hp : I p.1) (h : (M.extendWith follow own t₀).step p e = some p') :
    I p'.1 := by
  cases e with
  | inl e => exact hI p.1 e p'.1 hp (extendWith_step_inl.mp h).1
  | inr e => exact (extendWith_step_inr.mp h).1 ▸ hp

/-- Invariants of the base system are kept beside a component that refuses no step. -/
lemma extend_base {I : σ → Prop} (hI : ∀ s e s', I s → M.step s e = some s' → I s')
    {p p' : σ × τ} {e : ε ⊕ ε'} (hp : I p.1) (h : (M.extend react own t₀).step p e = some p') :
    I p'.1 :=
  extendWith_base hI hp h

end Foundations.EventSystem
