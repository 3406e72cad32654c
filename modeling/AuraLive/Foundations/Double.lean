import Mathlib.Algebra.Order.Floor.Semifield
import Mathlib.Algebra.Order.Round
import Mathlib.Data.Int.Log
import Mathlib.Data.Rat.Floor
import Mathlib.Tactic.Linarith

set_option relaxedAutoImplicit false
set_option autoImplicit false

/-!
# Rounding to double precision

The result of an operation on doubles is the exact result, rounded to the nearest double. Doubles
are taken as the rational numbers that they are.

## Main definitions

* `Foundations.Double.roundEven` — the nearest integer, the even one if there are two.
* `Foundations.Double.toDouble` — the nearest double: 53 binary digits from the leading one on, and
  none after the place of `2 ^ (-1074)`.

## Main results

* `Foundations.Double.roundEven_mono`, `toDouble_mono` — rounding keeps the order.

## Design

The exponent is not bounded from above, so nothing becomes infinite.
-/

namespace Foundations

namespace Double

variable {x y : ℚ}

/-- The nearest integer, and the even one of two that are as near. -/
def roundEven (x : ℚ) : ℤ :=
  if Int.fract x = 1 / 2 ∧ Even ⌊x⌋ then ⌊x⌋ else round x

/-- The nearest integer is not below the integer part. -/
lemma floor_le_roundEven (x : ℚ) : ⌊x⌋ ≤ roundEven x := by
  unfold roundEven
  split
  · rfl
  · rw [round_eq]
    exact Int.floor_le_floor (by linarith)

/-- The nearest integer does not exceed an integer above. -/
lemma roundEven_le_of_le {n : ℤ} (h : x ≤ n) : roundEven x ≤ n := by
  unfold roundEven
  split
  · exact Int.floor_le_iff.mpr (by linarith)
  · rw [round_eq]
    exact Int.floor_le_iff.mpr (by linarith)

/-- An integer below is not exceeded by it. -/
lemma le_roundEven_of_le {n : ℤ} (h : n ≤ x) : n ≤ roundEven x :=
  (Int.le_floor.mpr h).trans (floor_le_roundEven x)

/-- Rounding to integers keeps the order. -/
lemma roundEven_mono (h : x ≤ y) : roundEven x ≤ roundEven y := by
  by_cases hx : Int.fract x = 1 / 2 ∧ Even ⌊x⌋
  · rw [roundEven, if_pos hx]
    exact (Int.floor_le_floor h).trans (floor_le_roundEven y)
  · rw [roundEven, if_neg hx, round_eq]
    by_cases hy : Int.fract y = 1 / 2 ∧ Even ⌊y⌋
    · rw [roundEven, if_pos hy]
      -- the two are not the same, so that `x` is below the tie
      have hlt : x < y := h.lt_of_ne fun heq => hx (heq ▸ hy)
      have hfract := Int.floor_add_fract y
      rw [hy.1] at hfract
      exact Int.floor_le_iff.mpr (by linarith)
    · rw [roundEven, if_neg hy, round_eq]
      exact Int.floor_le_floor (by linarith)

/-- The exponent of the last place of the doubles near a magnitude. -/
def lastPlace (x : ℚ) : ℤ := max (Int.log 2 x - 52) (-1074)

/-- The nearest double. -/
def toDouble (x : ℚ) : ℚ := roundEven (x / 2 ^ lastPlace |x|) * 2 ^ lastPlace |x|

/-- The place of the last digit has a positive value. -/
lemma lastPlace_pos (x : ℚ) : (0 : ℚ) < 2 ^ lastPlace x := zpow_pos (by norm_num) _

/-- The nearest double of a magnitude. -/
lemma toDouble_of_nonneg (h : 0 ≤ x) :
    toDouble x = roundEven (x / 2 ^ lastPlace x) * 2 ^ lastPlace x := by
  rw [toDouble, abs_of_nonneg h]

/-- Zero is a double. -/
lemma toDouble_zero : toDouble 0 = 0 := by
  have hround : roundEven 0 = 0 :=
    le_antisymm (roundEven_le_of_le (by norm_num)) (le_roundEven_of_le (by norm_num))
  rw [toDouble, zero_div, hround, Int.cast_zero, zero_mul]

/-- Rounding keeps the sign. -/
lemma toDouble_nonneg (h : 0 ≤ x) : 0 ≤ toDouble x := by
  rw [toDouble_of_nonneg h]
  refine mul_nonneg ?_ (lastPlace_pos x).le
  have hround : 0 ≤ roundEven (x / 2 ^ lastPlace x) :=
    le_roundEven_of_le (by exact_mod_cast div_nonneg h (lastPlace_pos x).le)
  exact_mod_cast hround

/-- A magnitude is rounded to at most the power of two that ends the range of its last place. -/
lemma toDouble_le_pow (h : 0 ≤ x) : toDouble x ≤ 2 ^ (53 + lastPlace x) := by
  have hlt : x < 2 ^ (Int.log 2 x + 1) := by
    exact_mod_cast Int.lt_zpow_succ_log_self (b := 2) (by norm_num) x
  have hrange : x ≤ 2 ^ (53 + lastPlace x) :=
    hlt.le.trans (zpow_le_zpow_right₀ (by norm_num) (by unfold lastPlace; omega))
  rw [zpow_add₀ (by norm_num)] at hrange ⊢
  rw [toDouble_of_nonneg h]
  refine mul_le_mul_of_nonneg_right ?_ (lastPlace_pos x).le
  have hround : roundEven (x / 2 ^ lastPlace x) ≤ 2 ^ 53 :=
    roundEven_le_of_le (by exact_mod_cast (div_le_iff₀ (lastPlace_pos x)).mpr hrange)
  exact_mod_cast hround

/-- Above the smallest numbers, a magnitude is rounded to at least the power of two that begins the
range of its last place. -/
lemma pow_le_toDouble (h : 0 < x) (hplace : -1074 < lastPlace x) :
    2 ^ (52 + lastPlace x) ≤ toDouble x := by
  have hlog : lastPlace x = Int.log 2 x - 52 := by unfold lastPlace at hplace ⊢; omega
  have hrange : (2 : ℚ) ^ (52 + lastPlace x) ≤ x := by
    rw [hlog, show 52 + (Int.log 2 x - 52) = Int.log 2 x by omega]
    exact_mod_cast Int.zpow_log_le_self (b := 2) (by norm_num) h
  rw [zpow_add₀ (by norm_num)] at hrange ⊢
  rw [toDouble_of_nonneg h.le]
  refine mul_le_mul_of_nonneg_right ?_ (lastPlace_pos x).le
  have hround : 2 ^ 52 ≤ roundEven (x / 2 ^ lastPlace x) :=
    le_roundEven_of_le (by exact_mod_cast (le_div_iff₀ (lastPlace_pos x)).mpr hrange)
  exact_mod_cast hround

/-- **Rounding keeps the order** of magnitudes. -/
lemma toDouble_mono (hx : 0 ≤ x) (h : x ≤ y) : toDouble x ≤ toDouble y := by
  obtain rfl | hpos := hx.eq_or_lt
  · rw [toDouble_zero]
    exact toDouble_nonneg h
  · have hlog : lastPlace x ≤ lastPlace y := by
      have hmono := Int.log_mono_right (b := 2) hpos h
      unfold lastPlace
      omega
    obtain heq | hlt := hlog.eq_or_lt
    · -- both have their last digit in the same place
      rw [toDouble_of_nonneg hx, toDouble_of_nonneg (hx.trans h), heq]
      refine mul_le_mul_of_nonneg_right ?_ (lastPlace_pos y).le
      exact_mod_cast roundEven_mono (div_le_div_of_nonneg_right h (lastPlace_pos y).le)
    · calc toDouble x ≤ 2 ^ (53 + lastPlace x) := toDouble_le_pow hx
        _ ≤ 2 ^ (52 + lastPlace y) := zpow_le_zpow_right₀ (by norm_num) (by omega)
        _ ≤ toDouble y :=
          pow_le_toDouble (hpos.trans_le h) (by unfold lastPlace at hlt ⊢; omega)

end Double

end Foundations
