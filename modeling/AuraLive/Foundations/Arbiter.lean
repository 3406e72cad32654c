import Mathlib.Data.List.Sort
import Mathlib.Tactic.Common

set_option relaxedAutoImplicit false
set_option autoImplicit false

/-!
# Arbitration between ranked rules

A table of rules with priorities, of which at most one may fire at a time: the rules are tried
from the highest priority down, and the first admissible one fires.

## Main definitions

* `Foundations.ranked` — the rules of a table, highest priority first (the sort is stable).
* `Foundations.arbitrate` — the first admissible rule of the ranked table.

## Main results

* `Foundations.arbitrate_eq_none_iff`, `Foundations.arbitrate_eq_some_iff` — nothing fires exactly
  when nothing is admissible; with distinct priorities a rule fires exactly when it is admissible
  and outranks every other admissible rule.
* `Foundations.arbitrate_eq_iff_of_imp` — a stricter notion of admissibility makes the same choice
  exactly when it admits the rule chosen by the more liberal one.
-/

namespace Foundations

variable {ρ : Type*} {priority : ρ → ℕ} {l : List ρ} {ok ok' : ρ → Bool} {r : ρ}

/-- The rules of a table by falling priority; rules of equal priority keep their order. -/
def ranked (priority : ρ → ℕ) (l : List ρ) : List ρ :=
  l.insertionSort fun a b => priority b ≤ priority a

/-- The first admissible rule of the ranked table. -/
def arbitrate (priority : ρ → ℕ) (l : List ρ) (ok : ρ → Bool) : Option ρ :=
  (ranked priority l).find? ok

/-- Ranking keeps the rules. -/
@[simp] lemma mem_ranked : r ∈ ranked priority l ↔ r ∈ l :=
  List.mem_insertionSort _

/-- The ranked table falls in priority. -/
lemma pairwise_ranked (priority : ρ → ℕ) (l : List ρ) :
    (ranked priority l).Pairwise fun a b => priority b ≤ priority a := by
  have htotal : Std.Total fun a b : ρ => priority b ≤ priority a :=
    ⟨fun a b => Nat.le_total (priority b) (priority a)⟩
  have htrans : IsTrans ρ fun a b : ρ => priority b ≤ priority a :=
    ⟨fun _ _ _ hab hbc => Nat.le_trans hbc hab⟩
  exact List.pairwise_insertionSort _ l

/-- Nothing fires exactly when nothing is admissible. -/
theorem arbitrate_eq_none_iff : arbitrate priority l ok = none ↔ ∀ r ∈ l, ok r = false := by
  simp [arbitrate, List.find?_eq_none]

/-- The rule that fires is in the table. -/
lemma mem_of_arbitrate (h : arbitrate priority l ok = some r) : r ∈ l :=
  mem_ranked.mp (List.mem_of_find?_eq_some h)

/-- The rule that fires is admissible. -/
lemma ok_of_arbitrate (h : arbitrate priority l ok = some r) : ok r = true :=
  List.find?_some h

/-- No admissible rule ranks above the one that fires. -/
lemma priority_le_of_arbitrate (h : arbitrate priority l ok = some r) {r' : ρ} (hr' : r' ∈ l)
    (hok : ok r' = true) : priority r' ≤ priority r := by
  obtain ⟨-, before, after, heq, hbefore⟩ := List.find?_eq_some_iff_append.mp h
  have hsorted := pairwise_ranked priority l
  rw [heq, List.pairwise_append, List.pairwise_cons] at hsorted
  have hmem : r' ∈ before ++ r :: after := heq ▸ mem_ranked.mpr hr'
  rcases List.mem_append.mp hmem with hb | hb
  · exact absurd hok (by simpa using hbefore r' hb)
  · rcases List.mem_cons.mp hb with rfl | ha
    · exact Nat.le_refl _
    · exact hsorted.2.1.1 r' ha

/-- **The highest-ranked admissible rule fires.** With distinct priorities, a rule fires exactly
when it is admissible and outranks every other admissible rule of the table.

**Proof sketch.** The rules before the first admissible one in the ranked table are not
admissible, and those after it rank no higher. Conversely some rule fires, since one is
admissible, and two rules that outrank each other cannot be distinct. -/
theorem arbitrate_eq_some_iff (hinj : ∀ a ∈ l, ∀ b ∈ l, priority a = priority b → a = b) :
    arbitrate priority l ok = some r ↔
      r ∈ l ∧ ok r = true ∧ ∀ r' ∈ l, ok r' = true → r' ≠ r → priority r' < priority r := by
  constructor
  · intro h
    refine ⟨mem_of_arbitrate h, ok_of_arbitrate h, fun r' hr' hok hne => ?_⟩
    have hle := priority_le_of_arbitrate h hr' hok
    have hneq : priority r' ≠ priority r := fun he => hne (hinj r' hr' r (mem_of_arbitrate h) he)
    omega
  · rintro ⟨hr, hok, hmax⟩
    cases ha : arbitrate priority l ok with
    | none => simp [arbitrate_eq_none_iff.mp ha r hr] at hok
    | some a =>
      by_cases hne : a = r
      · rw [hne]
      · have hlt := hmax a (mem_of_arbitrate ha) (ok_of_arbitrate ha) hne
        have hle := priority_le_of_arbitrate ha hr hok
        omega

/-- **Changing the notion of admissibility.** A stricter notion makes the same choice exactly when
it admits the rule that the more liberal one chooses. -/
theorem arbitrate_eq_iff_of_imp (hinj : ∀ a ∈ l, ∀ b ∈ l, priority a = priority b → a = b)
    (himp : ∀ a ∈ l, ok a = true → ok' a = true) :
    arbitrate priority l ok = arbitrate priority l ok' ↔
      ∀ r, arbitrate priority l ok' = some r → ok r = true := by
  constructor
  · intro heq r hr
    exact ok_of_arbitrate (heq.trans hr)
  · intro h
    cases ha : arbitrate priority l ok' with
    | none =>
      rw [arbitrate_eq_none_iff] at ha ⊢
      intro r hr
      by_contra hok
      have := himp r hr (by simpa using hok)
      simp [ha r hr] at this
    | some a =>
      obtain ⟨hmem, -, hmax⟩ := (arbitrate_eq_some_iff hinj).mp ha
      refine (arbitrate_eq_some_iff hinj).mpr ⟨hmem, h a ha, fun r' hr' hok => ?_⟩
      exact hmax r' hr' (himp r' hr' hok)

end Foundations
