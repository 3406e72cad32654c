import Mathlib.Logic.Relation
import Mathlib.Tactic.Common

set_option relaxedAutoImplicit false
set_option autoImplicit false

/-!
# Footprints

A program that is a sequence of primitive operations, some of them under conditions, has a
footprint: a set of operations that contains all those it may perform. What each operation of the
footprint keeps, the program keeps. So one lemma per program, its footprint, and one lemma per
property and operation replace one lemma per program and property.

## Main definitions

* `Foundations.Footprint` — some sequence of allowed operations leads from one state to another.

## Main results

* `Foundations.Footprint.rel` — a reflexive and transitive relation that contains every allowed
  operation contains the program; `field` is the case of a part of the state that stays the same,
  `invariant` the case of a property.
-/

namespace Foundations

variable {α β σ : Type*}

/-- Some sequence of operations allowed by `A` leads from the first state to the second. -/
def Footprint (app : α → σ → σ) (A : α → Bool) : σ → σ → Prop :=
  Relation.ReflTransGen fun s s' => ∃ a, A a = true ∧ s' = app a s

namespace Footprint

variable {app : α → σ → σ} {A B : α → Bool} {s s' s'' : σ}

/-- Doing nothing has every footprint. -/
lemma refl (s : σ) : Footprint app A s s := Relation.ReflTransGen.refl

/-- One more operation. -/
lemma next (h : Footprint app A s s') (a : α) (ha : A a = true) :
    Footprint app A s (app a s') :=
  Relation.ReflTransGen.tail h ⟨a, ha, rfl⟩

/-- One program after another. -/
lemma trans (h : Footprint app A s s') (h' : Footprint app A s' s'') : Footprint app A s s'' :=
  Relation.ReflTransGen.trans h h'

/-- A footprint may be enlarged. -/
lemma mono (h : Footprint app A s s') (hAB : ∀ a, A a = true → B a = true) :
    Footprint app B s s' :=
  Relation.ReflTransGen.mono (fun _ _ ⟨a, ha, he⟩ => ⟨a, hAB a ha, he⟩) s s' h

/-- Iterating a program over a list. -/
lemma foldl {f : σ → β → σ} (hf : ∀ s b, Footprint app A s (f s b)) (l : List β) (s : σ) :
    Footprint app A s (l.foldl f s) := by
  induction l generalizing s with
  | nil => exact refl s
  | cons b l ih => exact (hf s b).trans (ih (f s b))

/-- **Rule of footprints.** A reflexive and transitive relation that contains every allowed
operation contains the program. -/
theorem rel {R : σ → σ → Prop} (hrefl : ∀ s, R s s) (htrans : ∀ {s t u}, R s t → R t u → R s u)
    (hop : ∀ a s, A a = true → R s (app a s)) (h : Footprint app A s s') : R s s' := by
  induction h with
  | refl => exact hrefl s
  | tail _ hstep ih =>
    obtain ⟨a, ha, rfl⟩ := hstep
    exact htrans ih (hop a _ ha)

/-- A part of the state that no allowed operation changes stays the same. -/
theorem field (f : σ → β) (hop : ∀ a s, A a = true → f (app a s) = f s)
    (h : Footprint app A s s') : f s' = f s :=
  h.rel (R := fun s s' => f s' = f s) (fun _ => rfl) (fun h₁ h₂ => h₂.trans h₁) hop

/-- A property that every allowed operation keeps is kept. -/
theorem invariant {I : σ → Prop} (hop : ∀ a s, A a = true → I s → I (app a s))
    (h : Footprint app A s s') (hs : I s) : I s' :=
  h.rel (R := fun s s' => I s → I s') (fun _ => id) (fun h₁ h₂ hi => h₂ (h₁ hi)) hop hs

end Footprint

end Foundations
