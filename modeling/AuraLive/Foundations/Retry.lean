import Mathlib.Data.List.Basic
import Mathlib.Data.List.Range
import Mathlib.Tactic.Common

set_option relaxedAutoImplicit false
set_option autoImplicit false

/-!
# Trying again

Something is tried until it succeeds, fails in a way that is not worth another attempt, or has been
tried often enough; before each new attempt there is a pause.

## Main definitions

* `Foundations.Policy` — how often and when something is tried again, and the pauses.
* `Foundations.Policy.run` — the attempts, with what is done and the outcome.
* `Foundations.Policy.Last` — the attempt that is the last one.

## Main results

* `Foundations.Policy.run_spec` — there is a last attempt; everything up to it is done once and in
  order, and its outcome is the outcome of all.

## Design

The outcomes of all attempts are given beforehand, also of those that are not made. What is done at
an attempt and at a pause are things of any kind.
-/

namespace Foundations

/-- How often something is tried again, after which errors, and the pause after each attempt. -/
structure Policy (ε : Type*) where
  retries : ℕ
  again : ε → Bool
  backoff : ℕ → ℕ

namespace Policy

variable {α β ε : Type*} (p : Policy ε) (attempt : β) (pause : ℕ → β) (outcome : ℕ → Except ε α)

/-- What is done from an attempt on, and the outcome. -/
def run (n : ℕ) : List β × Except ε α :=
  match outcome n with
  | .ok a => ([attempt], .ok a)
  | .error e =>
    if n < p.retries ∧ p.again e = true then
      (attempt :: pause (p.backoff n) :: (run (n + 1)).1, (run (n + 1)).2)
    else ([attempt], .error e)
termination_by p.retries - n
decreasing_by all_goals omega

/-- From an attempt on, another one is the last: those in between fail and are worth another
attempt, and that one succeeds, is not worth another one or is one too many. -/
structure Last (n m : ℕ) : Prop where
  le : n ≤ m
  failed : ∀ i, n ≤ i → i < m → i < p.retries ∧ ∃ e, outcome i = .error e ∧ p.again e = true
  decided : ∀ e, outcome m = .error e → p.again e = true → p.retries ≤ m

variable {p outcome}

/-- The last attempt is not beyond the limit. -/
lemma Last.le_max {n m : ℕ} (h : p.Last outcome n m) : m ≤ max n p.retries := by
  by_contra hlt
  have hlast := h.failed (m - 1) (by omega) (by omega)
  omega

/-- What is done up to an attempt. -/
def actsUpTo (p : Policy ε) (attempt : β) (pause : ℕ → β) (n m : ℕ) : List β :=
  ((List.range' n (m - n)).flatMap fun i => [attempt, pause (p.backoff i)]) ++ [attempt]

/-- One more attempt at the beginning. -/
lemma actsUpTo_of_lt {n m : ℕ} (h : n < m) :
    actsUpTo p attempt pause n m =
      attempt :: pause (p.backoff n) :: actsUpTo p attempt pause (n + 1) m := by
  have hlength : m - n = m - (n + 1) + 1 := by omega
  rw [actsUpTo, hlength, List.range'_succ, List.flatMap_cons]
  rfl

variable (p outcome) in
/-- **The last attempt**, and what is done up to it. -/
theorem run_spec (n : ℕ) : ∃ m, p.Last outcome n m ∧
    p.run attempt pause outcome n = (actsUpTo p attempt pause n m, outcome m) := by
  have hstop (hdecided : ∀ e, outcome n = .error e → p.again e = true → p.retries ≤ n) :
      p.Last outcome n n := ⟨le_rfl, fun i hi hlt => by omega, hdecided⟩
  have hacts : actsUpTo p attempt pause n n = [attempt] := by simp [actsUpTo]
  fun_induction run p attempt pause outcome n with
  | case1 n a hok =>
    refine ⟨n, hstop fun e he => ?_, by rw [hacts, hok]⟩
    rw [hok] at he
    cases he
  | case2 n e herror hagain ih =>
    obtain ⟨m, hlast, hrun⟩ := ih
      (fun hdecided => ⟨le_rfl, fun i hi hlt => by omega, hdecided⟩) (by simp [actsUpTo])
    refine ⟨m, ⟨(Nat.le_succ n).trans hlast.le, fun i hi hlt => ?_, hlast.decided⟩, ?_⟩
    · rcases hi.eq_or_lt with rfl | hlater
      · exact ⟨hagain.1, e, herror, hagain.2⟩
      · exact hlast.failed i hlater hlt
    · rw [hrun, actsUpTo_of_lt attempt pause hlast.le]
  | case3 n e herror hnot =>
    refine ⟨n, hstop fun e' he hagain => ?_, by rw [hacts, herror]⟩
    rw [herror] at he
    cases he
    by_contra hlt
    exact hnot ⟨by omega, hagain⟩

end Policy

end Foundations
