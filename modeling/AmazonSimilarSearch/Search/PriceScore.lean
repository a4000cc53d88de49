import AmazonSimilarSearch.Foundation.Rounding
import AmazonSimilarSearch.Search.Runs

/-!
# The score of a price

`calculate_price_score` compares the price of a product with what the user said about prices.
The scores are quotients: how they are rounded, and the logarithm, are fields of `Arithmetic`.
-/
namespace AmazonSimilarSearch.Search
open Foundation

/-! ## Numbers -/

/-- `math.log10`, at arguments from one on. -/
structure Log10 where
  value : ℚ → ℚ
  value_mono : ∀ x y, 1 ≤ x → x ≤ y → value x ≤ value y
  value_one : value 1 = 0

/-- How numbers that are not negative are computed: what a result is rounded to, and which
quotient of two integers raises. -/
structure Arithmetic where
  round : ℚ → ℚ
  overflows : ℚ → Bool
  log10 : Log10
  round_zero : round 0 = 0
  round_half : round (1 / 2) = 1 / 2
  round_one : round 1 = 1
  round_mono : ∀ x y, 0 ≤ x → x ≤ y → round x ≤ round y

inductive ArithmeticError where
  | zeroDivision
  | overflow
  deriving DecidableEq, Repr

/-- The nearest double, where the exponent has no upper limit. -/
def roundDouble (x : ℚ) : ℚ := Rounding.roundTo 53 (-1074) x

theorem roundDouble_two_zpow {k : ℤ} (hk : -1074 ≤ k) : roundDouble (2 ^ k) = 2 ^ k :=
  Rounding.roundTo_two_zpow (by decide) hk

/-- Doubles: a quotient of integers raises where it rounds beyond the largest of them. No sum and no
product of the scores is as large. -/
def doubles (log10 : Log10) : Arithmetic where
  round := roundDouble
  overflows := fun x => decide (2 ^ 1024 ≤ roundDouble x)
  log10 := log10
  round_zero := Rounding.roundTo_zero
  round_half := by
    have hkept : roundDouble (2 ^ (-1 : ℤ)) = 2 ^ (-1 : ℤ) := roundDouble_two_zpow (by decide)
    rwa [zpow_neg_one, ← one_div] at hkept
  round_one := by
    have hkept : roundDouble (2 ^ (0 : ℤ)) = 2 ^ (0 : ℤ) := roundDouble_two_zpow (by decide)
    rwa [zpow_zero] at hkept
  round_mono := by
    intro x y hx hxy
    rcases hx.lt_or_eq with hpos | rfl
    · exact Rounding.roundTo_mono (by decide) hpos hxy
    · exact Rounding.roundTo_zero.trans_le (Rounding.roundTo_nonneg hxy)

/-- Numbers that are not rounded. -/
def exactNumbers (log10 : Log10) : Arithmetic where
  round := id
  overflows := fun _ => false
  log10 := log10
  round_zero := rfl
  round_half := rfl
  round_one := rfl
  round_mono := fun _ _ _ h => h

namespace Arithmetic

variable (arithmetic : Arithmetic)

/-- `x / y` of two integers -/
def divide (x y : ℤ) : Except ArithmeticError ℚ :=
  if y = 0 then .error .zeroDivision
  else if arithmetic.overflows (x / y) then .error .overflow
  else .ok (arithmetic.round (x / y))

def add (x y : ℚ) : ℚ := arithmetic.round (x + y)

def mul (x y : ℚ) : ℚ := arithmetic.round (x * y)

end Arithmetic

/-! ## The score -/

/-- `positive_price(value)` -/
def positivePrice (value : Option ℤ) : Option ℤ := value.filter fun price => 0 < price

/-- The smallest and the largest price that the user wants, in this order. -/
def priceBounds (attrs : ProductAttributes) : Option ℤ × Option ℤ :=
  match positivePrice attrs.minPriceJpy, positivePrice attrs.maxPriceJpy with
  | some minimum, some maximum => (some (min minimum maximum), some (max minimum maximum))
  | minimum, maximum => (minimum, maximum)

/-- `(attrs.price_preference or "none").casefold()` -/
def preferenceOf (attrs : ProductAttributes) : String :=
  casefold (match attrs.pricePreference with
    | none => "none"
    | some preference => if preference = "" then "none" else preference)

section Score

variable (arithmetic : Arithmetic)

/-- `min(1.0, x / y)` -/
def cappedRatio (x y : ℤ) : Except ArithmeticError ℚ := do
  let ratio ← arithmetic.divide x y
  pure (min 1 ratio)

/-- `min(1.0, 0.5 + 0.5 * math.log10(max(0.0, ratio) + 1.0))` -/
def premiumScore (ratio : ℚ) : ℚ :=
  min 1 (arithmetic.add (1 / 2)
    (arithmetic.mul (1 / 2) (arithmetic.log10.value (arithmetic.add (max 0 ratio) 1))))

/-- The score where the user names no price. -/
def preferenceScore (attrs : ProductAttributes) (price : ℤ) : Except ArithmeticError ℚ :=
  if preferenceOf attrs = "cheap" then
    match positivePrice attrs.expectedPriceMaxJpy with
    | some reference => cappedRatio arithmetic reference price
    | none => pure (1 / 2)
  else if preferenceOf attrs = "premium" then
    match positivePrice attrs.expectedPriceMinJpy with
    | some reference => do
        let ratio ← arithmetic.divide price reference
        pure (premiumScore arithmetic ratio)
    | none => pure (1 / 2)
  else pure (1 / 2)

/-- The score of a price that is positive. -/
def scoreOfPrice (attrs : ProductAttributes) (price : ℤ) : Except ArithmeticError ℚ :=
  match positivePrice attrs.targetPriceJpy, priceBounds attrs with
  | some target, _ => arithmetic.divide (min price target) (max price target)
  | none, (some minimum, some maximum) =>
      if minimum ≤ price ∧ price ≤ maximum then pure 1
      else if price < minimum then arithmetic.divide price minimum
      else arithmetic.divide maximum price
  | none, (some minimum, none) => cappedRatio arithmetic price minimum
  | none, (none, some maximum) => cappedRatio arithmetic maximum price
  | none, (none, none) => preferenceScore arithmetic attrs price

/-- `calculate_price_score(attrs, product)` -/
def calculatePriceScore (attrs : ProductAttributes) (product : NormalizedAmazonProduct) :
    Except ArithmeticError ℚ :=
  match positivePrice product.priceJpy with
  | none => pure 0
  | some price => scoreOfPrice arithmetic attrs price

end Score

/-! ## Prices that are positive -/

theorem positivePrice_eq_some {value : Option ℤ} {price : ℤ} :
    positivePrice value = some price ↔ value = some price ∧ 0 < price := by
  simp [positivePrice, Option.filter_eq_some_iff]

/-- The bounds are positive, and in order where both are given. -/
theorem priceBounds_cases (attrs : ProductAttributes) :
    (∀ low ∈ (priceBounds attrs).1, 0 < low) ∧ (∀ high ∈ (priceBounds attrs).2, 0 < high) ∧
      ∀ low ∈ (priceBounds attrs).1, ∀ high ∈ (priceBounds attrs).2, low ≤ high := by
  unfold priceBounds
  cases hminimum : positivePrice attrs.minPriceJpy with
  | none =>
      cases hmaximum : positivePrice attrs.maxPriceJpy with
      | none => simp
      | some maximum => simpa using (positivePrice_eq_some.mp hmaximum).2
  | some minimum =>
      have hpos := (positivePrice_eq_some.mp hminimum).2
      cases hmaximum : positivePrice attrs.maxPriceJpy with
      | none => simpa using hpos
      | some maximum =>
          have hpos' := (positivePrice_eq_some.mp hmaximum).2
          simp only [Option.mem_def, Option.some.injEq, forall_eq']
          omega

/-! ## Quotients -/

section Quotients

variable {arithmetic : Arithmetic} {x x' y y' : ℤ} {s t : ℚ}

theorem Arithmetic.divide_eq_ok (h : arithmetic.divide x y = .ok s) :
    s = arithmetic.round (x / y) := by
  unfold Arithmetic.divide at h
  split_ifs at h
  exact (Except.ok.inj h).symm

theorem Arithmetic.divide_ne_zeroDivision (hy : 0 < y) :
    arithmetic.divide x y ≠ .error .zeroDivision := by
  unfold Arithmetic.divide
  rw [if_neg hy.ne']
  split_ifs
  · intro h
    cases h
  · intro h
    cases h

theorem Arithmetic.round_nonneg {q : ℚ} (hq : 0 ≤ q) : 0 ≤ arithmetic.round q :=
  arithmetic.round_zero.symm.trans_le (arithmetic.round_mono _ _ le_rfl hq)

theorem ratio_le (hx : 0 ≤ x) (hxx' : x ≤ x') (hy' : 0 < y') (hyy' : y' ≤ y) :
    (x : ℚ) / y ≤ x' / y' := by
  apply div_le_div₀
  · exact_mod_cast hx.trans hxx'
  · exact_mod_cast hxx'
  · exact_mod_cast hy'
  · exact_mod_cast hyy'

/-- A quotient grows with its numerator, and falls with its denominator. -/
theorem Arithmetic.divide_mono (hx : 0 ≤ x) (hxx' : x ≤ x') (hy' : 0 < y') (hyy' : y' ≤ y)
    (h : arithmetic.divide x y = .ok s) (h' : arithmetic.divide x' y' = .ok t) : s ≤ t := by
  rw [Arithmetic.divide_eq_ok h, Arithmetic.divide_eq_ok h']
  apply arithmetic.round_mono _ _ _ (ratio_le hx hxx' hy' hyy')
  have hx' : (0 : ℚ) ≤ x := by exact_mod_cast hx
  have hy : (0 : ℚ) ≤ y := by exact_mod_cast (hy'.le.trans hyy')
  exact div_nonneg hx' hy

theorem Arithmetic.divide_within (hx : 0 ≤ x) (hxy : x ≤ y) (hy : 0 < y)
    (h : arithmetic.divide x y = .ok s) : 0 ≤ s ∧ s ≤ 1 := by
  have hx' : (0 : ℚ) ≤ x := by exact_mod_cast hx
  have hy' : (0 : ℚ) < y := by exact_mod_cast hy
  have hle : (x : ℚ) / y ≤ 1 := (div_le_one hy').mpr (by exact_mod_cast hxy)
  have hnonneg : (0 : ℚ) ≤ x / y := div_nonneg hx' hy'.le
  rw [Arithmetic.divide_eq_ok h]
  exact ⟨arithmetic.round_nonneg hnonneg,
    (arithmetic.round_mono _ _ hnonneg hle).trans_eq arithmetic.round_one⟩

theorem cappedRatio_eq_ok (h : cappedRatio arithmetic x y = .ok s) :
    ∃ ratio, arithmetic.divide x y = .ok ratio ∧ s = min 1 ratio := by
  obtain ⟨ratio, hratio, hs⟩ := bind_eq_ok_iff.mp h
  exact ⟨ratio, hratio, (pure_eq_ok_iff.mp hs).symm⟩

theorem cappedRatio_mono (hx : 0 ≤ x) (hxx' : x ≤ x') (hy' : 0 < y') (hyy' : y' ≤ y)
    (h : cappedRatio arithmetic x y = .ok s) (h' : cappedRatio arithmetic x' y' = .ok t) :
    s ≤ t := by
  obtain ⟨ratio, hratio, rfl⟩ := cappedRatio_eq_ok h
  obtain ⟨ratio', hratio', rfl⟩ := cappedRatio_eq_ok h'
  exact min_le_min_left 1 (Arithmetic.divide_mono hx hxx' hy' hyy' hratio hratio')

theorem cappedRatio_within (hx : 0 ≤ x) (hy : 0 < y) (h : cappedRatio arithmetic x y = .ok s) :
    0 ≤ s ∧ s ≤ 1 := by
  obtain ⟨ratio, hratio, rfl⟩ := cappedRatio_eq_ok h
  have hx' : (0 : ℚ) ≤ x := by exact_mod_cast hx
  have hy' : (0 : ℚ) < y := by exact_mod_cast hy
  have hnonneg : 0 ≤ ratio := by
    rw [Arithmetic.divide_eq_ok hratio]
    exact arithmetic.round_nonneg (div_nonneg hx' hy'.le)
  exact ⟨le_min zero_le_one hnonneg, min_le_left 1 ratio⟩

/-- An error that no quotient by a positive integer raises is not raised. -/
theorem cappedRatio_ne_error {e : ArithmeticError}
    (hdivide : ∀ x y, 0 < y → arithmetic.divide x y ≠ .error e) (hy : 0 < y) :
    cappedRatio arithmetic x y ≠ .error e := by
  intro h
  rcases bind_eq_error_iff.mp h with herror | ⟨_, _, hpure⟩
  · exact hdivide x y hy herror
  · cases hpure

/-- The logarithm is not negative, so the score is not below a half. -/
theorem premiumScore_mono {ratio ratio' : ℚ} (hratio : 0 ≤ ratio) (hle : ratio ≤ ratio') :
    0 ≤ premiumScore arithmetic ratio ∧
      premiumScore arithmetic ratio ≤ premiumScore arithmetic ratio' := by
  have hone : 1 ≤ arithmetic.add (max 0 ratio) 1 := by
    apply arithmetic.round_one.symm.trans_le
    apply arithmetic.round_mono _ _ zero_le_one
    rw [max_eq_right hratio]
    linarith
  have hsum : arithmetic.add (max 0 ratio) 1 ≤ arithmetic.add (max 0 ratio') 1 := by
    rw [max_eq_right hratio, max_eq_right (hratio.trans hle)]
    exact arithmetic.round_mono _ _ (by linarith) (by linarith)
  have hlog := arithmetic.log10.value_mono _ _ hone hsum
  have hnonneg : 0 ≤ arithmetic.log10.value (arithmetic.add (max 0 ratio) 1) := by
    have h := arithmetic.log10.value_mono 1 _ le_rfl hone
    rwa [arithmetic.log10.value_one] at h
  have hhalf : 0 ≤ arithmetic.mul (1 / 2)
      (arithmetic.log10.value (arithmetic.add (max 0 ratio) 1)) :=
    arithmetic.round_nonneg (by linarith)
  have hmul : arithmetic.mul (1 / 2) (arithmetic.log10.value (arithmetic.add (max 0 ratio) 1)) ≤
      arithmetic.mul (1 / 2) (arithmetic.log10.value (arithmetic.add (max 0 ratio') 1)) :=
    arithmetic.round_mono _ _ (by linarith) (by linarith)
  constructor
  · exact le_min zero_le_one (arithmetic.round_nonneg (by linarith))
  · exact min_le_min_left 1 (arithmetic.round_mono _ _ (by linarith) (by linarith))

end Quotients

/-! ## The score of one price -/

section Price

variable {arithmetic : Arithmetic} {attrs : ProductAttributes} {p q : ℤ} {s t : ℚ}

theorem preferenceScore_within (hp : 0 < p)
    (h : preferenceScore arithmetic attrs p = .ok s) : 0 ≤ s ∧ s ≤ 1 := by
  have hhalf : (0 : ℚ) ≤ 1 / 2 ∧ (1 : ℚ) / 2 ≤ 1 := by norm_num
  unfold preferenceScore at h
  split_ifs at h
  · split at h
    · next reference hreference =>
        exact cappedRatio_within (positivePrice_eq_some.mp hreference).2.le hp h
    · cases h
      exact hhalf
  · split at h
    · next reference hreference =>
        have hpos := (positivePrice_eq_some.mp hreference).2
        obtain ⟨ratio, hratio, hs⟩ := bind_eq_ok_iff.mp h
        cases hs
        have hnonneg : 0 ≤ ratio := by
          rw [Arithmetic.divide_eq_ok hratio]
          exact arithmetic.round_nonneg (by positivity)
        exact ⟨(premiumScore_mono hnonneg le_rfl).1, min_le_left 1 _⟩
    · cases h
      exact hhalf
  · cases h
    exact hhalf

theorem pure_ne_error {e : ArithmeticError} : (pure s : Except ArithmeticError ℚ) ≠ .error e := by
  intro h
  cases h

theorem preferenceScore_ne_error {e : ArithmeticError}
    (hdivide : ∀ x y, 0 < y → arithmetic.divide x y ≠ .error e) (hp : 0 < p) :
    preferenceScore arithmetic attrs p ≠ .error e := by
  unfold preferenceScore
  split_ifs
  · split
    · exact cappedRatio_ne_error hdivide hp
    · exact pure_ne_error
  · split
    · next reference hreference =>
        intro h
        rcases bind_eq_error_iff.mp h with herror | ⟨_, _, hpure⟩
        · exact hdivide p reference (positivePrice_eq_some.mp hreference).2 herror
        · cases hpure
    · exact pure_ne_error
  · exact pure_ne_error

/-- With a target the score is the smaller price over the larger one. -/
theorem scoreOfPrice_target {target : ℤ} (h : positivePrice attrs.targetPriceJpy = some target) :
    scoreOfPrice arithmetic attrs p = arithmetic.divide (min p target) (max p target) := by
  unfold scoreOfPrice
  rw [h]

theorem scoreOfPrice_range {low high : ℤ} (htarget : positivePrice attrs.targetPriceJpy = none)
    (h : priceBounds attrs = (some low, some high)) :
    scoreOfPrice arithmetic attrs p =
      if low ≤ p ∧ p ≤ high then pure 1
      else if p < low then arithmetic.divide p low else arithmetic.divide high p := by
  unfold scoreOfPrice
  rw [htarget, h]

theorem scoreOfPrice_within (hp : 0 < p) (h : scoreOfPrice arithmetic attrs p = .ok s) :
    0 ≤ s ∧ s ≤ 1 := by
  obtain ⟨hlow, hhigh, horder⟩ := priceBounds_cases attrs
  unfold scoreOfPrice at h
  split at h
  · next target htarget =>
      have hpos := (positivePrice_eq_some.mp htarget).2
      exact Arithmetic.divide_within (by omega) (by omega) (by omega) h
  · next low high htarget hbounds =>
      rw [hbounds] at hlow hhigh horder
      have hlow := hlow low rfl
      have hhigh := hhigh high rfl
      split_ifs at h
      · cases h
        norm_num
      · exact Arithmetic.divide_within hp.le (by omega) hlow h
      · exact Arithmetic.divide_within hhigh.le (by omega) hp h
  · next low htarget hbounds =>
      rw [hbounds] at hlow
      exact cappedRatio_within hp.le (hlow low rfl) h
  · next high htarget hbounds =>
      rw [hbounds] at hhigh
      exact cappedRatio_within (hhigh high rfl).le hp h
  · exact preferenceScore_within hp h

theorem scoreOfPrice_ne_error {e : ArithmeticError}
    (hdivide : ∀ x y, 0 < y → arithmetic.divide x y ≠ .error e) (hp : 0 < p) :
    scoreOfPrice arithmetic attrs p ≠ .error e := by
  obtain ⟨hlow, -, -⟩ := priceBounds_cases attrs
  unfold scoreOfPrice
  split
  · exact hdivide _ _ (by omega)
  · next low high htarget hbounds =>
      rw [hbounds] at hlow
      split_ifs
      · exact pure_ne_error
      · exact hdivide p low (hlow low rfl)
      · exact hdivide high p hp
  · next low htarget hbounds =>
      rw [hbounds] at hlow
      exact cappedRatio_ne_error hdivide (hlow low rfl)
  · exact cappedRatio_ne_error hdivide hp
  · exact preferenceScore_ne_error hdivide hp

theorem calculatePriceScore_ne_error {e : ArithmeticError} {product : NormalizedAmazonProduct}
    (hdivide : ∀ x y, 0 < y → arithmetic.divide x y ≠ .error e) :
    calculatePriceScore arithmetic attrs product ≠ .error e := by
  unfold calculatePriceScore
  split
  · exact pure_ne_error
  · next price hprice =>
      exact scoreOfPrice_ne_error hdivide (positivePrice_eq_some.mp hprice).2

theorem calculatePriceScore_within {product : NormalizedAmazonProduct}
    (h : calculatePriceScore arithmetic attrs product = .ok s) : 0 ≤ s ∧ s ≤ 1 := by
  unfold calculatePriceScore at h
  split at h
  · cases h
    norm_num
  · next price hprice =>
      exact scoreOfPrice_within (positivePrice_eq_some.mp hprice).2 h

/-- The score rises towards a target from below. -/
theorem scoreOfPrice_target_rises {target : ℤ}
    (htarget : positivePrice attrs.targetPriceJpy = some target) (hp : 0 < p) (hpq : p ≤ q)
    (hq : q ≤ target) (h : scoreOfPrice arithmetic attrs p = .ok s)
    (h' : scoreOfPrice arithmetic attrs q = .ok t) : s ≤ t := by
  rw [scoreOfPrice_target htarget] at h h'
  exact Arithmetic.divide_mono (by omega) (by omega) (by omega) (by omega) h h'

theorem scoreOfPrice_target_falls {target : ℤ}
    (htarget : positivePrice attrs.targetPriceJpy = some target) (hp : target ≤ p) (hpq : p ≤ q)
    (h : scoreOfPrice arithmetic attrs p = .ok s) (h' : scoreOfPrice arithmetic attrs q = .ok t) :
    t ≤ s := by
  have hpos := (positivePrice_eq_some.mp htarget).2
  rw [scoreOfPrice_target htarget] at h h'
  exact Arithmetic.divide_mono (by omega) (by omega) (by omega) (by omega) h' h

section Range

variable {low high : ℤ} (htarget : positivePrice attrs.targetPriceJpy = none)
  (hbounds : priceBounds attrs = (some low, some high))

include htarget hbounds

/-- Up to the lower bound the score is the price over it, rounded. -/
theorem scoreOfPrice_range_below (hp : 0 < p) (hlow : p ≤ low)
    (h : scoreOfPrice arithmetic attrs p = .ok s) : s = arithmetic.round (p / low) := by
  have horder := (priceBounds_cases attrs).2.2 low (by rw [hbounds]; rfl) high (by rw [hbounds]; rfl)
  rw [scoreOfPrice_range htarget hbounds] at h
  split_ifs at h
  · have heq : p = low := by omega
    have hne : (low : ℚ) ≠ 0 := by exact_mod_cast (by omega : low ≠ 0)
    cases h
    rw [heq, div_self hne, arithmetic.round_one]
  · exact Arithmetic.divide_eq_ok h
  · omega

/-- From the upper bound on the score is this bound over the price, rounded. -/
theorem scoreOfPrice_range_above (hhigh : high ≤ p)
    (h : scoreOfPrice arithmetic attrs p = .ok s) : s = arithmetic.round (high / p) := by
  have horder := (priceBounds_cases attrs).2.2 low (by rw [hbounds]; rfl) high (by rw [hbounds]; rfl)
  have hpos := (priceBounds_cases attrs).2.1 high (by rw [hbounds]; rfl)
  rw [scoreOfPrice_range htarget hbounds] at h
  split_ifs at h
  · have heq : p = high := by omega
    have hne : (high : ℚ) ≠ 0 := by exact_mod_cast hpos.ne'
    cases h
    rw [heq, div_self hne, arithmetic.round_one]
  · omega
  · exact Arithmetic.divide_eq_ok h

theorem scoreOfPrice_range_rises (hp : 0 < p) (hpq : p ≤ q) (hq : q ≤ low)
    (h : scoreOfPrice arithmetic attrs p = .ok s) (h' : scoreOfPrice arithmetic attrs q = .ok t) :
    s ≤ t := by
  rw [scoreOfPrice_range_below htarget hbounds hp (hpq.trans hq) h,
    scoreOfPrice_range_below htarget hbounds (hp.trans_le hpq) hq h']
  have hlow : (0 : ℚ) ≤ low := by exact_mod_cast (by omega : 0 ≤ low)
  have hnonneg : (0 : ℚ) ≤ p := by exact_mod_cast hp.le
  exact arithmetic.round_mono _ _ (div_nonneg hnonneg hlow)
    (ratio_le hp.le hpq (by omega) le_rfl)

theorem scoreOfPrice_range_falls (hp : high ≤ p) (hpq : p ≤ q)
    (h : scoreOfPrice arithmetic attrs p = .ok s) (h' : scoreOfPrice arithmetic attrs q = .ok t) :
    t ≤ s := by
  have hpos := (priceBounds_cases attrs).2.1 high (by rw [hbounds]; rfl)
  rw [scoreOfPrice_range_above htarget hbounds hp h,
    scoreOfPrice_range_above htarget hbounds (hp.trans hpq) h']
  have hhigh : (0 : ℚ) ≤ high := by exact_mod_cast hpos.le
  have hnonneg : (0 : ℚ) ≤ q := by exact_mod_cast (by omega : 0 ≤ q)
  exact arithmetic.round_mono _ _ (div_nonneg hhigh hnonneg)
    (ratio_le hpos.le le_rfl (by omega) hpq)

end Range

theorem preferenceScore_falls (hpreference : preferenceOf attrs = "cheap") (hp : 0 < p)
    (hpq : p ≤ q) (h : preferenceScore arithmetic attrs p = .ok s)
    (h' : preferenceScore arithmetic attrs q = .ok t) : t ≤ s := by
  unfold preferenceScore at h h'
  rw [if_pos hpreference] at h h'
  cases hreference : positivePrice attrs.expectedPriceMaxJpy with
  | none =>
      rw [hreference] at h h'
      cases h
      cases h'
      exact le_rfl
  | some reference =>
      rw [hreference] at h h'
      exact cappedRatio_mono (positivePrice_eq_some.mp hreference).2.le le_rfl hp hpq h' h

theorem preferenceScore_rises (hpreference : preferenceOf attrs = "premium") (hp : 0 < p)
    (hpq : p ≤ q) (h : preferenceScore arithmetic attrs p = .ok s)
    (h' : preferenceScore arithmetic attrs q = .ok t) : s ≤ t := by
  have hcheap : ¬ preferenceOf attrs = "cheap" := by
    rw [hpreference]
    decide
  unfold preferenceScore at h h'
  rw [if_neg hcheap, if_pos hpreference] at h h'
  cases hreference : positivePrice attrs.expectedPriceMinJpy with
  | none =>
      rw [hreference] at h h'
      cases h
      cases h'
      exact le_rfl
  | some reference =>
      have hpos := (positivePrice_eq_some.mp hreference).2
      rw [hreference] at h h'
      obtain ⟨ratio, hratio, hs⟩ := bind_eq_ok_iff.mp h
      obtain ⟨ratio', hratio', ht⟩ := bind_eq_ok_iff.mp h'
      cases hs
      cases ht
      have hnonneg : 0 ≤ ratio := by
        rw [Arithmetic.divide_eq_ok hratio]
        exact arithmetic.round_nonneg (by positivity)
      exact (premiumScore_mono hnonneg
        (Arithmetic.divide_mono hp.le hpq hpos le_rfl hratio hratio')).2

end Price

/-! ## Exact numbers -/

theorem divide_exactNumbers (log10 : Log10) (x : ℤ) {y : ℤ} (hy : y ≠ 0) :
    (exactNumbers log10).divide x y = .ok (x / y) := by
  unfold Arithmetic.divide
  rw [if_neg hy]
  rfl

/-- Every product has a score where nothing overflows. -/
theorem exists_calculatePriceScore (log10 : Log10) (attrs : ProductAttributes)
    (product : NormalizedAmazonProduct) :
    ∃ score, calculatePriceScore (exactNumbers log10) attrs product = .ok score := by
  cases hscore : calculatePriceScore (exactNumbers log10) attrs product with
  | ok score => exact ⟨score, rfl⟩
  | error e =>
      refine absurd hscore (calculatePriceScore_ne_error fun x y hy hdivide => ?_)
      rw [divide_exactNumbers log10 x hy.ne'] at hdivide
      cases hdivide

/-! ## Doubles -/

section Doubles

variable {log10 : Log10} {attrs : ProductAttributes} {x y p low high : ℤ}

/-- A quotient up to one does not overflow. -/
theorem divide_doubles (hx : 0 < x) (hxy : x ≤ y) :
    (doubles log10).divide x y = .ok (roundDouble (x / y)) := by
  have hy : (0 : ℚ) < y := by exact_mod_cast hx.trans_le hxy
  have hnonneg : (0 : ℚ) ≤ x / y := div_nonneg (by exact_mod_cast hx.le) hy.le
  have hle : (x : ℚ) / y ≤ 1 := (div_le_one hy).mpr (by exact_mod_cast hxy)
  have hround : roundDouble (x / y) ≤ 1 :=
    ((doubles log10).round_mono _ _ hnonneg hle).trans_eq (doubles log10).round_one
  have hfits : (doubles log10).overflows (x / y) = false := by
    apply decide_eq_false
    have hlarge : (1 : ℚ) < 2 ^ 1024 := one_lt_pow₀ one_lt_two (by decide)
    exact not_le.mpr (hround.trans_lt hlarge)
  unfold Arithmetic.divide
  rw [if_neg (hx.trans_le hxy).ne', hfits]
  rfl

/-- A quotient below one is rounded to it where the numbers differ by at most one part of `2 ^ 54`
of the larger. -/
theorem divide_doubles_eq_one_iff (hx : 0 < x) (hxy : x ≤ y) :
    (doubles log10).divide x y = .ok 1 ↔ 2 ^ 54 * (y - x) ≤ y := by
  have hx' : (0 : ℚ) < x := by exact_mod_cast hx
  have hy : (0 : ℚ) < y := by exact_mod_cast hx.trans_le hxy
  have hle : (x : ℚ) / y ≤ 1 := (div_le_one hy).mpr (by exact_mod_cast hxy)
  have hone : Rounding.roundTo 53 (-1074) ((x : ℚ) / y) = 1 ↔ 1 - 1 / 2 ^ (53 + 1) ≤ (x : ℚ) / y :=
    Rounding.roundTo_eq_one_iff (by decide) (by decide) (div_pos hx' hy) hle
  rw [divide_doubles hx hxy, Except.ok.injEq, roundDouble, hone, le_div_iff₀ hy]
  have hscaled : (1 - 1 / 2 ^ (53 + 1)) * (y : ℚ) ≤ x ↔ 2 ^ 54 * ((y : ℚ) - x) ≤ y := by
    constructor
    · intro h
      linarith
    · intro h
      linarith
  rw [hscaled]
  exact_mod_cast Iff.rfl

/-- The score is one where the price misses the range by at most one part of `2 ^ 54`. -/
theorem scoreOfPrice_range_eq_one_iff (htarget : positivePrice attrs.targetPriceJpy = none)
    (hbounds : priceBounds attrs = (some low, some high)) (hp : 0 < p) :
    scoreOfPrice (doubles log10) attrs p = .ok 1 ↔
      2 ^ 54 * (low - p) ≤ low ∧ 2 ^ 54 * (p - high) ≤ p := by
  have hpos := (priceBounds_cases attrs).1 low (by rw [hbounds]; rfl)
  have hpos' := (priceBounds_cases attrs).2.1 high (by rw [hbounds]; rfl)
  have horder := (priceBounds_cases attrs).2.2 low (by rw [hbounds]; rfl) high (by rw [hbounds]; rfl)
  rw [scoreOfPrice_range htarget hbounds]
  split_ifs with hinside hbelow
  · exact iff_of_true rfl (by omega)
  · rw [divide_doubles_eq_one_iff hp hbelow.le]
    omega
  · rw [divide_doubles_eq_one_iff hpos' (by omega)]
    omega

end Doubles

/-! ## A sound preference -/

section Sound

variable (arithmetic : Arithmetic) (attrs : ProductAttributes)

/-- Of two products whose prices are in the set, the dearer one has no lower score. -/
def Rises (prices : Set ℤ) : Prop :=
  ∀ cheaper dearer : NormalizedAmazonProduct, ∀ p ∈ prices, ∀ q ∈ prices,
    cheaper.priceJpy = some p → dearer.priceJpy = some q → 0 < p → p ≤ q →
    ∀ s t, calculatePriceScore arithmetic attrs cheaper = .ok s →
      calculatePriceScore arithmetic attrs dearer = .ok t → s ≤ t

/-- Of two products whose prices are in the set, the dearer one has no higher score. -/
def Falls (prices : Set ℤ) : Prop :=
  ∀ cheaper dearer : NormalizedAmazonProduct, ∀ p ∈ prices, ∀ q ∈ prices,
    cheaper.priceJpy = some p → dearer.priceJpy = some q → 0 < p → p ≤ q →
    ∀ s t, calculatePriceScore arithmetic attrs cheaper = .ok s →
      calculatePriceScore arithmetic attrs dearer = .ok t → t ≤ s

/-- The attributes with the smallest and the largest price exchanged. -/
def ProductAttributes.swapped : ProductAttributes :=
  { attrs with minPriceJpy := attrs.maxPriceJpy, maxPriceJpy := attrs.minPriceJpy }

/-- What the scores of products say about their prices. -/
structure SoundPreference : Prop where
  divides : ∀ product, calculatePriceScore arithmetic attrs product ≠ .error .zeroDivision
  within : ∀ product score, calculatePriceScore arithmetic attrs product = .ok score →
    0 ≤ score ∧ score ≤ 1
  /-- towards a target the score does not fall, from either side -/
  target : ∀ target, positivePrice attrs.targetPriceJpy = some target →
    Rises arithmetic attrs (Set.Iic target) ∧ Falls arithmetic attrs (Set.Ici target)
  /-- inside a range the score is one, up to what a double can tell -/
  inside : positivePrice attrs.targetPriceJpy = none →
    ∀ low high, priceBounds attrs = (some low, some high) →
      ∀ product p, product.priceJpy = some p → 0 < p →
        (calculatePriceScore arithmetic attrs product = .ok 1 ↔
          2 ^ 54 * (low - p) ≤ low ∧ 2 ^ 54 * (p - high) ≤ p)
  /-- outside a range the score falls with the distance from it -/
  outside : positivePrice attrs.targetPriceJpy = none →
    ∀ low high, priceBounds attrs = (some low, some high) →
      Rises arithmetic attrs (Set.Iic low) ∧ Falls arithmetic attrs (Set.Ici high)
  minimum : positivePrice attrs.targetPriceJpy = none →
    ∀ low, priceBounds attrs = (some low, none) → Rises arithmetic attrs Set.univ
  maximum : positivePrice attrs.targetPriceJpy = none →
    ∀ high, priceBounds attrs = (none, some high) → Falls arithmetic attrs Set.univ
  cheap : positivePrice attrs.targetPriceJpy = none → priceBounds attrs = (none, none) →
    preferenceOf attrs = "cheap" → Falls arithmetic attrs Set.univ
  premium : positivePrice attrs.targetPriceJpy = none → priceBounds attrs = (none, none) →
    preferenceOf attrs = "premium" → Rises arithmetic attrs Set.univ
  /-- exchanging the bounds changes nothing where both are given, or none -/
  swapped : ((positivePrice attrs.minPriceJpy).isSome ↔ (positivePrice attrs.maxPriceJpy).isSome) →
    ∀ product, calculatePriceScore arithmetic attrs.swapped product =
      calculatePriceScore arithmetic attrs product

variable {arithmetic attrs}

theorem calculatePriceScore_of_pos {product : NormalizedAmazonProduct} {p : ℤ}
    (h : product.priceJpy = some p) (hp : 0 < p) :
    calculatePriceScore arithmetic attrs product = scoreOfPrice arithmetic attrs p := by
  unfold calculatePriceScore
  rw [positivePrice_eq_some.mpr ⟨h, hp⟩]

theorem rises_of {prices : Set ℤ}
    (h : ∀ p ∈ prices, ∀ q ∈ prices, 0 < p → p ≤ q → ∀ s t,
      scoreOfPrice arithmetic attrs p = .ok s → scoreOfPrice arithmetic attrs q = .ok t → s ≤ t) :
    Rises arithmetic attrs prices := by
  intro cheaper dearer p hp q hq hcheaper hdearer hpos hpq s t hs ht
  rw [calculatePriceScore_of_pos hcheaper hpos] at hs
  rw [calculatePriceScore_of_pos hdearer (hpos.trans_le hpq)] at ht
  exact h p hp q hq hpos hpq s t hs ht

theorem falls_of {prices : Set ℤ}
    (h : ∀ p ∈ prices, ∀ q ∈ prices, 0 < p → p ≤ q → ∀ s t,
      scoreOfPrice arithmetic attrs p = .ok s → scoreOfPrice arithmetic attrs q = .ok t → t ≤ s) :
    Falls arithmetic attrs prices := by
  intro cheaper dearer p hp q hq hcheaper hdearer hpos hpq s t hs ht
  rw [calculatePriceScore_of_pos hcheaper hpos] at hs
  rw [calculatePriceScore_of_pos hdearer (hpos.trans_le hpq)] at ht
  exact h p hp q hq hpos hpq s t hs ht

theorem priceBounds_swapped
    (h : (positivePrice attrs.minPriceJpy).isSome ↔ (positivePrice attrs.maxPriceJpy).isSome) :
    priceBounds attrs.swapped = priceBounds attrs := by
  unfold priceBounds ProductAttributes.swapped
  dsimp only
  cases hminimum : positivePrice attrs.minPriceJpy with
  | none =>
      rw [hminimum] at h
      have hmaximum : positivePrice attrs.maxPriceJpy = none := by simpa using h
      rw [hmaximum]
  | some minimum =>
      rw [hminimum] at h
      obtain ⟨maximum, hmaximum⟩ := Option.isSome_iff_exists.mp (h.mp rfl)
      rw [hmaximum]
      simp only [min_comm, max_comm]

theorem scoreOfPrice_swapped
    (h : (positivePrice attrs.minPriceJpy).isSome ↔ (positivePrice attrs.maxPriceJpy).isSome)
    (p : ℤ) : scoreOfPrice arithmetic attrs.swapped p = scoreOfPrice arithmetic attrs p := by
  unfold scoreOfPrice
  rw [priceBounds_swapped h]
  rfl

end Sound

/-- The price score is a sound preference, for every logarithm. -/
theorem calculatePriceScore_sound (log10 : Log10) (attrs : ProductAttributes) :
    SoundPreference (doubles log10) attrs where
  divides := fun _ => calculatePriceScore_ne_error fun _ _ => Arithmetic.divide_ne_zeroDivision
  within := fun _ _ => calculatePriceScore_within
  target := fun target htarget =>
    ⟨rises_of fun _ _ _ hq hpos hpq _ _ =>
        scoreOfPrice_target_rises htarget hpos hpq (Set.mem_Iic.mp hq),
      falls_of fun _ hp _ _ _ hpq _ _ =>
        scoreOfPrice_target_falls htarget (Set.mem_Ici.mp hp) hpq⟩
  inside := by
    intro htarget low high hbounds product p hprice hp
    rw [calculatePriceScore_of_pos hprice hp]
    exact scoreOfPrice_range_eq_one_iff htarget hbounds hp
  outside := fun htarget low high hbounds =>
    ⟨rises_of fun _ _ _ hq hpos hpq _ _ =>
        scoreOfPrice_range_rises htarget hbounds hpos hpq (Set.mem_Iic.mp hq),
      falls_of fun _ hp _ _ _ hpq _ _ =>
        scoreOfPrice_range_falls htarget hbounds (Set.mem_Ici.mp hp) hpq⟩
  minimum := by
    intro htarget low hbounds
    have hlow := (priceBounds_cases attrs).1 low (by rw [hbounds]; rfl)
    refine rises_of fun p _ q _ hpos hpq s t hs ht => ?_
    unfold scoreOfPrice at hs ht
    rw [htarget, hbounds] at hs ht
    exact cappedRatio_mono hpos.le hpq hlow le_rfl hs ht
  maximum := by
    intro htarget high hbounds
    have hhigh := (priceBounds_cases attrs).2.1 high (by rw [hbounds]; rfl)
    refine falls_of fun p _ q _ hpos hpq s t hs ht => ?_
    unfold scoreOfPrice at hs ht
    rw [htarget, hbounds] at hs ht
    exact cappedRatio_mono hhigh.le le_rfl hpos hpq ht hs
  cheap := by
    intro htarget hbounds hpreference
    refine falls_of fun p _ q _ hpos hpq s t hs ht => ?_
    unfold scoreOfPrice at hs ht
    rw [htarget, hbounds] at hs ht
    exact preferenceScore_falls hpreference hpos hpq hs ht
  premium := by
    intro htarget hbounds hpreference
    refine rises_of fun p _ q _ hpos hpq s t hs ht => ?_
    unfold scoreOfPrice at hs ht
    rw [htarget, hbounds] at hs ht
    exact preferenceScore_rises hpreference hpos hpq hs ht
  swapped := by
    intro hgiven product
    unfold calculatePriceScore
    split
    · rfl
    · next price _ => exact scoreOfPrice_swapped hgiven price

/-! ## One bound exchanged -/

/-- A logarithm that the score of a bound does not ask. -/
def flatLog10 : Log10 := ⟨fun _ => 0, fun _ _ _ _ => le_rfl, rfl⟩

/-- A tent that should cost two yen or more. -/
def fromTwoYen : ProductAttributes := { tentAttributes with minPriceJpy := some 2 }

def oneYen : NormalizedAmazonProduct where
  source := "amazon"
  asin := none
  title := "tent"
  brandOrStore := none
  priceJpy := some 1
  listPriceJpy := none
  currency := none
  rating := none
  reviewCount := none
  categories := []
  imageUrl := none
  imageUrls := []
  productUrl := none
  shortUrl := none
  isPrime := false
  availability := none
  shipping := none
  sourceQuery := none
  position := none
  description := none

theorem score_fromTwoYen :
    calculatePriceScore (doubles flatLog10) fromTwoYen oneYen = .ok (1 / 2) := by
  have hscore : calculatePriceScore (doubles flatLog10) fromTwoYen oneYen =
      cappedRatio (doubles flatLog10) 1 2 := rfl
  have hround : roundDouble (((1 : ℤ) : ℚ) / ((2 : ℤ) : ℚ)) = 1 / 2 := by
    rw [Int.cast_one, Int.cast_ofNat]
    exact (doubles flatLog10).round_half
  rw [hscore, cappedRatio, divide_doubles (by decide) (by decide), hround]
  exact congrArg Except.ok (min_eq_right (by norm_num))

theorem score_fromTwoYen_swapped :
    calculatePriceScore (doubles flatLog10) fromTwoYen.swapped oneYen = .ok 1 := by
  have hscore : calculatePriceScore (doubles flatLog10) fromTwoYen.swapped oneYen =
      cappedRatio (doubles flatLog10) 2 1 := rfl
  have hround : roundDouble (((2 : ℤ) : ℚ) / ((1 : ℤ) : ℚ)) = 2 := by
    have hkept : roundDouble (2 ^ (1 : ℤ)) = 2 ^ (1 : ℤ) := roundDouble_two_zpow (by decide)
    rw [zpow_one] at hkept
    rw [Int.cast_one, div_one]
    exact_mod_cast hkept
  have hdivide : (doubles flatLog10).divide 2 1 = .ok 2 := by
    have hfits : (doubles flatLog10).overflows (((2 : ℤ) : ℚ) / ((1 : ℤ) : ℚ)) = false := by
      apply decide_eq_false
      rw [hround]
      exact not_le.mpr (lt_self_pow₀ one_lt_two (by decide))
    rw [Arithmetic.divide, if_neg (by decide), hfits]
    exact congrArg Except.ok hround
  rw [hscore, cappedRatio, hdivide]
  exact congrArg Except.ok (min_eq_left (by norm_num))

/-- A lower bound becomes an upper one. -/
theorem calculatePriceScore_swapped_ne :
    calculatePriceScore (doubles flatLog10) fromTwoYen.swapped oneYen ≠
      calculatePriceScore (doubles flatLog10) fromTwoYen oneYen := by
  rw [score_fromTwoYen, score_fromTwoYen_swapped]
  intro h
  have hvalue := Except.ok.inj h
  norm_num at hvalue

end AmazonSimilarSearch.Search
