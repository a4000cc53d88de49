import Mathlib.Algebra.BigOperators.Group.List.Basic
import Mathlib.Tactic.Linarith
import Mathlib.Tactic.Ring

/-!
# Sums of rounded ratios

A ratio is rounded up to a whole number. What the rounding adds to a sum of
ratios is the sum of the single round-ups, counted in parts of the denominator.
-/
namespace Foundation

/-- `(numerator + denominator - 1) // denominator` -/
def ceilRatio (numerator denominator : ℤ) : ℤ := (numerator + denominator - 1) / denominator

/-- What is missing from `t` to the next multiple of `d`. -/
def roundUp (d t : ℤ) : ℤ := -t % d

section

variable {d : ℤ}

theorem roundUp_nonneg (h : 0 < d) (t : ℤ) : 0 ≤ roundUp d t := Int.emod_nonneg _ (ne_of_gt h)

theorem roundUp_lt (h : 0 < d) (t : ℤ) : roundUp d t < d := Int.emod_lt_of_pos _ h

@[simp] theorem roundUp_eq_zero_iff {t : ℤ} : roundUp d t = 0 ↔ d ∣ t := by
  rw [roundUp, ← Int.dvd_iff_emod_eq_zero, Int.dvd_neg]

/-- A rounded ratio is the ratio and its round-up. -/
theorem mul_ceilRatio (h : 0 < d) (t : ℤ) : d * ceilRatio t d = t + roundUp d t := by
  have hdvd : d ∣ t + roundUp d t := by
    rw [roundUp, Int.dvd_iff_emod_eq_zero, Int.add_emod_emod, add_neg_cancel, Int.zero_emod]
  obtain ⟨quotient, hquotient⟩ := hdvd
  have hceil : ceilRatio t d = quotient := by
    have hrest : 0 ≤ d - 1 - roundUp d t ∧ d - 1 - roundUp d t < d := by
      have := roundUp_nonneg h t
      have := roundUp_lt h t
      omega
    have hsplit : t + d - 1 = d - 1 - roundUp d t + d * quotient := by
      rw [← hquotient]
      ring
    rw [ceilRatio, hsplit, Int.add_mul_ediv_left _ _ (ne_of_gt h),
      Int.ediv_eq_zero_of_lt hrest.1 hrest.2, zero_add]
  rw [hceil, hquotient]

/-- Many rounded ratios exceed the ratios by their round-ups. -/
theorem mul_sum_ceilRatio (h : 0 < d) (ts : List ℤ) :
    d * (ts.map (ceilRatio · d)).sum = ts.sum + (ts.map (roundUp d)).sum := by
  induction ts with
  | nil => simp
  | cons t ts ih =>
      simp only [List.map_cons, List.sum_cons]
      rw [mul_add, mul_ceilRatio h, ih]
      ring

theorem ceilRatio_zero (h : 0 < d) : ceilRatio 0 d = 0 := by
  have hzero := mul_ceilRatio h 0
  rw [roundUp_eq_zero_iff.mpr (dvd_zero d), add_zero] at hzero
  exact (mul_eq_zero.mp hzero).resolve_left (ne_of_gt h)

end
end Foundation
