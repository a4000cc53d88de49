import AmazonSimilarSearch.Foundation.JsonRoundTrip
import Mathlib.Tactic.IntervalCases
import Mathlib.Tactic.Positivity

/-!
# Floats that equal small integers

A positive integer below `2 ^ 53` equals exactly one double. The doubles of the
digits are written with one digit and `.0`, and read back from there.
-/
namespace Foundation
namespace PyFloat

/-- The fields of a finite double: a full mantissa, or the smallest exponent. -/
def IsDouble : PyFloat → Prop
  | .finite _ mantissa exponent =>
      mantissa < 2 ^ 53 ∧ -1074 ≤ exponent ∧ exponent ≤ 971 ∧
        (2 ^ 52 ≤ mantissa ∨ exponent = -1074)
  | _ => True

/-- `float(n)` for a positive integer below `2 ^ 53`. -/
def ofSmall (n : ℕ) : PyFloat :=
  .finite false (n * 2 ^ (52 - Nat.log2 n)) (Nat.log2 n - 52)

/-- The exact comparison in integers. -/
theorem eqInt_finite_iff {negative : Bool} {m : ℕ} {e i : ℤ} :
    eqInt (.finite negative m e) i = true ↔
      (if negative then -((m : ℤ) * 2 ^ e.toNat) else m * 2 ^ e.toNat) = i * 2 ^ (-e).toNat := by
  rw [eqInt, ratio, scaled, beq_iff_eq]
  by_cases he : 0 ≤ -e
  · have hzero : e.toNat = 0 := by omega
    simp only [if_pos he, hzero, pow_zero, mul_one, one_mul, Nat.cast_pow, Nat.cast_ofNat]
  · have hzero : (-e).toNat = 0 := by omega
    simp only [if_neg he, neg_neg, hzero, pow_zero, mul_one, Nat.cast_mul, Nat.cast_pow,
      Nat.cast_ofNat, Nat.cast_one]

/-- A full mantissa whose value is `n` is `n` shifted to the top. -/
theorem shift_eq {m n k : ℕ} (hlow : 2 ^ 52 ≤ m) (hhigh : m < 2 ^ 53) (hpos : 0 < n)
    (heq : m = n * 2 ^ k) : Nat.log2 n + k = 52 := by
  have hself : 2 ^ Nat.log2 n ≤ n := Nat.log2_self_le hpos.ne'
  have hnext : n < 2 ^ (Nat.log2 n + 1) := Nat.lt_log2_self
  have habove : 2 ^ (Nat.log2 n + k) < 2 ^ 53 := by
    calc 2 ^ (Nat.log2 n + k)
        = 2 ^ Nat.log2 n * 2 ^ k := pow_add 2 _ k
      _ ≤ n * 2 ^ k := Nat.mul_le_mul_right _ hself
      _ < 2 ^ 53 := heq ▸ hhigh
  have hbelow : 2 ^ 52 < 2 ^ (Nat.log2 n + 1 + k) := by
    calc 2 ^ 52
        ≤ n * 2 ^ k := heq ▸ hlow
      _ < 2 ^ (Nat.log2 n + 1) * 2 ^ k := Nat.mul_lt_mul_of_pos_right hnext (by positivity)
      _ = 2 ^ (Nat.log2 n + 1 + k) := (pow_add 2 _ k).symm
  have hle := (Nat.pow_lt_pow_iff_right (by decide)).mp habove
  have hge := (Nat.pow_lt_pow_iff_right (by decide)).mp hbelow
  omega

theorem eq_ofSmall {f : PyFloat} {n : ℕ} (hf : f.IsDouble) (hpos : 0 < n) (hsmall : n < 2 ^ 52)
    (heq : f.eqInt n = true) : f = ofSmall n := by
  cases f with
  | infinite negative => cases heq
  | nan => cases heq
  | finite negative m e =>
      obtain ⟨hm, -, -, hfull⟩ := hf
      rw [eqInt_finite_iff] at heq
      have hright : 0 < (n : ℤ) * 2 ^ (-e).toNat := by positivity
      cases negative with
      | true =>
          have hproduct : 0 ≤ (m : ℤ) * 2 ^ e.toNat := by positivity
          rw [if_pos rfl] at heq
          omega
      | false =>
          simp only [Bool.false_eq_true, if_false] at heq
          have hnat : m * 2 ^ e.toNat = n * 2 ^ (-e).toNat := by exact_mod_cast heq
          have hmantissa : 2 ^ 52 ≤ m := by
            by_contra hshort
            have hexponent : e = -1074 := hfull.resolve_left hshort
            have hzero : e.toNat = 0 := by omega
            have hpower : 2 ^ 53 ≤ 2 ^ (-e).toNat := Nat.pow_le_pow_right (by decide) (by omega)
            have htop : 2 ^ (-e).toNat ≤ n * 2 ^ (-e).toNat := Nat.le_mul_of_pos_left _ hpos
            rw [hzero, pow_zero, mul_one] at hnat
            omega
          have hexponent : e ≤ 0 := by
            by_contra hpositive
            have hzero : (-e).toNat = 0 := by omega
            rw [hzero, pow_zero, mul_one] at hnat
            have hleft : m ≤ m * 2 ^ e.toNat := Nat.le_mul_of_pos_right m (by positivity)
            omega
          have hzero : e.toNat = 0 := by omega
          rw [hzero, pow_zero, mul_one] at hnat
          have hshift := shift_eq hmantissa hm hpos hnat
          have hexact : (-e).toNat = 52 - Nat.log2 n := by omega
          have hvalue : e = (Nat.log2 n : ℤ) - 52 := by omega
          rw [ofSmall, hnat, hexact, ← hvalue]

end PyFloat

namespace Json

/-- A float that is written as one digit and `.0` is read back. -/
theorem floatReads_of_digit {f : PyFloat} {d : Char} (hrepr : f.repr? = some [d, '.', '0'])
    (hdigit : d.isDigit = true) (hzero : d ≠ '0')
    (hvalue : PyFloat.ofDecimal false (Nat.ofDigitChars 10 [d, '0'] 0) (-1) = f) :
    FloatReads f := by
  refine ⟨d, ['.', '0'], hrepr, hdigit, ?_⟩
  intro h fuel rest hrest
  have hwhole : wholePart (d :: '.' :: '0' :: rest) = ([d], '.' :: '0' :: rest) := by
    simp [wholePart, hzero, hdigit]
  have hfraction : fractionPart ('.' :: '0' :: rest) = (['0'], rest) := by
    have hdigits := takeWhile_digits (show ∀ c ∈ ['0'], c.isDigit = true by simp) hrest
    simp only [List.cons_append, List.nil_append] at hdigits
    simp only [fractionPart, hdigits, List.cons_ne_nil, if_false]
  rw [List.cons_append, parseValue_of_isDigit h fuel hdigit]
  simp only [parseNumber, List.cons_append, List.nil_append, hwhole, hfraction,
    exponentPart_of_endsNumber hrest, List.cons_ne_nil, if_false, false_and, Option.getD_none]
  rw [← hvalue]
  rfl

theorem floatReads_ofSmall {n : ℕ} (hpos : 1 ≤ n) (hdigit : n ≤ 9) :
    FloatReads (PyFloat.ofSmall n) := by
  interval_cases n
  · exact floatReads_of_digit (d := '1') (by decide +kernel) rfl (by decide) (by decide +kernel)
  · exact floatReads_of_digit (d := '2') (by decide +kernel) rfl (by decide) (by decide +kernel)
  · exact floatReads_of_digit (d := '3') (by decide +kernel) rfl (by decide) (by decide +kernel)
  · exact floatReads_of_digit (d := '4') (by decide +kernel) rfl (by decide) (by decide +kernel)
  · exact floatReads_of_digit (d := '5') (by decide +kernel) rfl (by decide) (by decide +kernel)
  · exact floatReads_of_digit (d := '6') (by decide +kernel) rfl (by decide) (by decide +kernel)
  · exact floatReads_of_digit (d := '7') (by decide +kernel) rfl (by decide) (by decide +kernel)
  · exact floatReads_of_digit (d := '8') (by decide +kernel) rfl (by decide) (by decide +kernel)
  · exact floatReads_of_digit (d := '9') (by decide +kernel) rfl (by decide) (by decide +kernel)

end Json
end Foundation
