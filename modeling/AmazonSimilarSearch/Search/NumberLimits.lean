import AmazonSimilarSearch.Search.Normalization
import Mathlib.Tactic.Linarith

/-!
# Numbers that a double can hold

`float(i)` raises where the integer rounds beyond the largest double, and so does
`int(price * rate)` where the product does; a numeric text of the same size is
read as infinity and dropped. An item is normalised without an exception exactly
when none of its numbers is too large for the step it goes through.
-/
namespace AmazonSimilarSearch.Search
open Foundation

/-! ## Integers as doubles -/

/-- The first integer that rounds beyond the largest double. -/
def floatLimit : ℕ := 2 ^ 1024 - 2 ^ 970

theorem roundHalfEven_cases (num den : ℕ) :
    PyFloat.roundHalfEven num den = num / den ∨
      PyFloat.roundHalfEven num den = num / den + 1 := by
  unfold PyFloat.roundHalfEven
  dsimp only
  split
  · exact Or.inl rfl
  · split
    · exact Or.inr rfl
    · split
      · exact Or.inl rfl
      · exact Or.inr rfl

/-- The exponent that an integer is rounded at. -/
def roundingExponent (num : ℕ) : ℤ :=
  let guess : ℤ := (Nat.log2 num : ℤ) - Nat.log2 1 - 52
  let s := PyFloat.scaled 2 num 1 guess
  max (if s.1 / s.2 < 2 ^ 52 then guess - 1 else guess) (-1074)

/-- The integer at that exponent, rounded. -/
def roundedMantissa (num : ℕ) : ℕ :=
  let t := PyFloat.scaled 2 num 1 (roundingExponent num)
  PyFloat.roundHalfEven t.1 t.2

/-- Rounding may carry into the next exponent, and the largest one is 971. -/
theorem ofRatio_isFinite {negative : Bool} {num : ℕ} (h : num ≠ 0) :
    (PyFloat.ofRatio negative num 1).isFinite = true ↔
      (if roundedMantissa num = 2 ^ 53 then roundingExponent num + 1 else roundingExponent num)
        ≤ 971 := by
  have hdef : PyFloat.ofRatio negative num 1 =
      if 971 < (if roundedMantissa num = 2 ^ 53 then (2 ^ 52, roundingExponent num + 1)
        else (roundedMantissa num, roundingExponent num)).2 then .infinite negative
      else .finite negative (if roundedMantissa num = 2 ^ 53 then
        (2 ^ 52, roundingExponent num + 1) else (roundedMantissa num, roundingExponent num)).1
        (if roundedMantissa num = 2 ^ 53 then (2 ^ 52, roundingExponent num + 1)
          else (roundedMantissa num, roundingExponent num)).2 := by
    rw [PyFloat.ofRatio, if_neg h]
    rfl
  rw [hdef]
  by_cases hcarry : roundedMantissa num = 2 ^ 53
  · simp only [if_pos hcarry]
    split
    · simp [PyFloat.isFinite]; omega
    · simp [PyFloat.isFinite]; omega
  · simp only [if_neg hcarry]
    split
    · simp [PyFloat.isFinite]; omega
    · simp [PyFloat.isFinite]; omega

theorem roundingExponent_le (num : ℕ) :
    roundingExponent num ≤ max ((Nat.log2 num : ℤ) - 52) (-1074) := by
  have hone : Nat.log2 1 = 0 := by decide
  unfold roundingExponent
  dsimp only
  rw [hone]
  split
  · omega
  · omega

/-- A large integer is rounded to 53 digits. -/
theorem roundingExponent_of_large {num : ℕ} (h : 52 ≤ Nat.log2 num) :
    roundingExponent num = (Nat.log2 num : ℤ) - 52 := by
  have hone : Nat.log2 1 = 0 := by decide
  have hne : num ≠ 0 := by
    intro hzero
    rw [hzero] at h
    exact absurd h (by decide)
  have hexponent : ((Nat.log2 num : ℤ) - (0 : ℕ) - 52).toNat = Nat.log2 num - 52 := by omega
  have hpow : 2 ^ 52 * 2 ^ (Nat.log2 num - 52) = 2 ^ Nat.log2 num := by
    rw [← pow_add]
    congr 1
    omega
  have hquotient : ¬ num / (1 * 2 ^ (Nat.log2 num - 52)) < 2 ^ 52 := by
    rw [Nat.one_mul, not_lt, Nat.le_div_iff_mul_le (Nat.two_pow_pos _), hpow]
    exact (Nat.le_log2 hne).mp (Nat.le_refl _)
  unfold roundingExponent PyFloat.scaled
  dsimp only
  rw [hone, if_pos (show (0 : ℤ) ≤ (Nat.log2 num : ℤ) - (0 : ℕ) - 52 by omega)]
  dsimp only
  rw [hexponent, if_neg hquotient]
  omega

/-- A quotient below `2 ^ 53` is rounded up to it when it is not below `2 ^ 53 - 1 / 2`. -/
theorem roundHalfEven_eq_iff {num half : ℕ} (hhalf : 0 < half) (hnum : num < 2 ^ 54 * half) :
    PyFloat.roundHalfEven num (2 * half) = 2 ^ 53 ↔ (2 ^ 54 - 1) * half ≤ num := by
  have hdiv := Nat.div_add_mod num (2 * half)
  have hmod := Nat.mod_lt num (show 0 < 2 * half by omega)
  have hquotient : num / (2 * half) < 2 ^ 53 := by
    rw [Nat.div_lt_iff_lt_mul (by omega)]
    omega
  by_cases hlast : num / (2 * half) = 2 ^ 53 - 1
  · rw [hlast] at hdiv
    unfold PyFloat.roundHalfEven
    dsimp only
    rw [hlast]
    split
    · omega
    · split
      · omega
      · rw [if_neg (by decide)]
        omega
  · have hbelow : num / (2 * half) + 1 ≤ 2 ^ 53 - 1 := by omega
    have hmul := Nat.mul_le_mul_left (2 * half) hbelow
    have hcases := roundHalfEven_cases num (2 * half)
    constructor
    · intro heq
      omega
    · intro hle
      rw [Nat.mul_add] at hmul
      omega

/-- The mantissa of an integer with 1024 binary digits. -/
theorem roundedMantissa_of_log {num : ℕ} (h : Nat.log2 num = 1023) :
    roundedMantissa num = PyFloat.roundHalfEven num (2 * 2 ^ 970) := by
  have hexponent : roundingExponent num = 971 := by
    rw [roundingExponent_of_large (by omega), h]
    rfl
  have htwice : 1 * 2 ^ (971 : ℤ).toNat = 2 * 2 ^ 970 := by
    rw [Nat.one_mul, ← pow_succ']
    congr 1
  rw [roundedMantissa, hexponent, PyFloat.scaled, if_pos (show (0 : ℤ) ≤ 971 by decide), htwice]

/-- `float(i)` does not overflow exactly below the limit. -/
theorem ofRatio_isFinite_iff {negative : Bool} {num : ℕ} :
    (PyFloat.ofRatio negative num 1).isFinite = true ↔ num < floatLimit := by
  have hlimit : floatLimit = (2 ^ 54 - 1) * 2 ^ 970 := by
    rw [floatLimit, Nat.sub_mul, Nat.one_mul, ← pow_add]
  have hpos : 0 < (2 : ℕ) ^ 970 := Nat.two_pow_pos 970
  have htop : (2 : ℕ) ^ 1024 = 2 ^ 54 * 2 ^ 970 := by rw [← pow_add]
  have hmiddle : (2 : ℕ) ^ 1023 = 2 ^ 53 * 2 ^ 970 := by rw [← pow_add]
  rw [hlimit]
  generalize hp : (2 : ℕ) ^ 970 = p at hpos htop hmiddle
  by_cases hzero : num = 0
  · rw [hzero]
    exact iff_of_true rfl (Nat.mul_pos (by decide) hpos)
  · rw [ofRatio_isFinite hzero]
    have hle := roundingExponent_le num
    rcases Nat.lt_trichotomy (Nat.log2 num) 1023 with hsmall | hedge | hlarge
    · have hnum := (Nat.log2_lt hzero).mp hsmall
      rw [hmiddle] at hnum
      apply iff_of_true
      · split
        · omega
        · omega
      · omega
    · have hnum := (Nat.log2_lt hzero).mp (show Nat.log2 num < 1024 by omega)
      rw [htop] at hnum
      have hexponent : roundingExponent num = (Nat.log2 num : ℤ) - 52 :=
        roundingExponent_of_large (by omega)
      have hround := roundHalfEven_eq_iff hpos hnum
      rw [roundedMantissa_of_log hedge, hp, hexponent, hedge]
      by_cases hcarry : PyFloat.roundHalfEven num (2 * p) = 2 ^ 53
      · rw [if_pos hcarry]
        have hnot := hround.mp hcarry
        exact iff_of_false (by decide) (by omega)
      · rw [if_neg hcarry]
        have hlt : ¬ (2 ^ 54 - 1) * p ≤ num := fun h => hcarry (hround.mpr h)
        exact iff_of_true (by decide) (by omega)
    · have hnum := (Nat.le_log2 hzero).mp (show 1024 ≤ Nat.log2 num by omega)
      rw [htop] at hnum
      have hexponent : roundingExponent num = (Nat.log2 num : ℤ) - 52 :=
        roundingExponent_of_large (by omega)
      apply iff_of_false
      · split
        · omega
        · omega
      · omega

/-! ## What an item may hold -/

/-- The value is no integer that is too large for a double. -/
def FitsDouble : Json → Prop
  | .int i => i.natAbs < floatLimit
  | _ => True

/-- The price in dollars times the rate is not too large for a double, nor is the rate. -/
def FitsRate (rate : ℤ) (price : PyFloat) : Prop :=
  rate.natAbs < floatLimit ∧
    (mulFloat price (PyFloat.ofRatio (rate < 0) rate.natAbs 1)).isFinite = true

/-- The number in a price, where it has one that is not negative. -/
def priceNumber? (value : Json) : Option PyFloat :=
  match asNumber value with
  | .ok (some price) => if price.isNegative then none else some price
  | _ => none

/-- The price can be converted. -/
def FitsPrice (rate : ℤ) (currency : Option String) (value : Json) : Prop :=
  FitsDouble value ∧ (currency = some usdCurrency → ∀ price ∈ priceNumber? value,
    FitsRate rate price)

/-- The price of an item, of the field that is read for it. -/
def priceValue (item : Fields) : Json :=
  firstTruthy [getField item "price_parsed", getField item "price"]

/-- The list price of an item. -/
def listPriceValue (item : Fields) : Json :=
  firstTruthy [getField item "old_price_parsed", getField item "strike_price_parsed",
    getField item "old_price", getField item "strike_price"]

/-- The item has a title, and no currency but yen or dollars. -/
def isEligible (item : Fields) : Bool :=
  (asNonEmptyString (getField item "name")).isSome && !(detectCurrency item).any fun currency =>
    currency != targetCurrency && currency != usdCurrency

/-- Every number that is read of an eligible item fits the steps it goes through. -/
structure Convertible (rate : ℤ) (item : Fields) : Prop where
  price : isEligible item = true → FitsPrice rate (detectCurrency item) (priceValue item)
  listPrice : isEligible item = true → FitsPrice rate (detectCurrency item) (listPriceValue item)
  numbers : isEligible item = true →
    ∀ key ∈ ["rating", "reviews", "position"], FitsDouble (getField item key)

theorem floatOfInt_eq_ok_iff {i : ℤ} {number : PyFloat} :
    floatOfInt i = .ok number ↔
      i.natAbs < floatLimit ∧ number = PyFloat.ofRatio (i < 0) i.natAbs 1 := by
  unfold floatOfInt
  dsimp only
  rw [← @ofRatio_isFinite_iff (decide (i < 0)) i.natAbs]
  split
  · rename_i hfinite
    rw [Except.ok.injEq]
    exact ⟨fun h => ⟨hfinite, h.symm⟩, fun h => h.2.symm⟩
  · rename_i hinfinite
    exact iff_of_false (fun h => nomatch h) fun h => hinfinite h.1

theorem eq_of_guarded {number number' : PyFloat}
    (h : (if number.isFinite = true then some number else none) = some number') :
    number'.isFinite = true := by
  split at h
  · rename_i hfinite
    rwa [← Option.some.inj h]
  · cases h

/-- A number that is read is finite. -/
theorem asNumber_finite {value : Json} {number : PyFloat}
    (h : asNumber value = .ok (some number)) : number.isFinite = true := by
  unfold asNumber at h
  split at h
  · simp only [bind_eq_ok_iff, pure_eq_ok_iff, Option.some.injEq] at h
    obtain ⟨number', hint, rfl⟩ := h
    obtain ⟨hlimit, rfl⟩ := floatOfInt_eq_ok_iff.mp hint
    exact ofRatio_isFinite_iff.mpr hlimit
  · exact eq_of_guarded (Except.ok.inj h)
  · split at h
    · exact eq_of_guarded (Except.ok.inj h)
    · cases h
  · cases h

/-- Reading a number raises only on an integer that is too large. -/
theorem asNumber_returns_iff (value : Json) :
    (∃ number, asNumber value = .ok number) ↔ FitsDouble value := by
  unfold asNumber
  split
  · rename_i i
    simp only [bind_eq_ok_iff, pure_eq_ok_iff, FitsDouble]
    constructor
    · rintro ⟨_, number, hint, _⟩
      exact (floatOfInt_eq_ok_iff.mp hint).1
    · intro hlimit
      exact ⟨_, _, floatOfInt_eq_ok_iff.mpr ⟨hlimit, rfl⟩, rfl⟩
  · exact iff_of_true ⟨_, rfl⟩ trivial
  · split
    · exact iff_of_true ⟨_, rfl⟩ trivial
    · exact iff_of_true ⟨_, rfl⟩ trivial
  · rename_i hint _ _
    refine iff_of_true ⟨_, rfl⟩ ?_
    cases value with
    | int i => exact absurd rfl (hint i)
    | _ => trivial

theorem intOfFloat_returns_iff {number : PyFloat} :
    (∃ whole, intOfFloat number = .ok whole) ↔ number.isFinite = true := by
  cases number with
  | finite negative mantissa exponent => exact iff_of_true ⟨_, rfl⟩ rfl
  | infinite negative => exact iff_of_false (fun h => nomatch h) (by decide +revert)
  | nan => exact iff_of_false (fun h => nomatch h) (by decide)

theorem asInt_returns_iff (value : Json) :
    (∃ whole, asInt value = .ok whole) ↔ FitsDouble value := by
  rw [← asNumber_returns_iff]
  unfold asInt
  simp only [bind_eq_ok_iff]
  constructor
  · rintro ⟨_, number, hnumber, _⟩
    exact ⟨number, hnumber⟩
  · rintro ⟨number, hnumber⟩
    cases number with
    | none => exact ⟨_, _, hnumber, rfl⟩
    | some number =>
        obtain ⟨whole, hwhole⟩ := intOfFloat_returns_iff.mpr (asNumber_finite hnumber)
        refine ⟨some whole, some number, hnumber, ?_⟩
        dsimp only
        rw [hwhole]
        rfl

/-- The conversion of a price in dollars. -/
def dollarsToJpy (rate : ℤ) (price : PyFloat) : Except NormalizeError (Option ℤ) := do
  let number ← floatOfInt rate
  let yen ← intOfFloat (mulFloat price number)
  pure (some yen)

theorem dollarsToJpy_returns_iff (rate : ℤ) (price : PyFloat) :
    (∃ yen, dollarsToJpy rate price = .ok yen) ↔ FitsRate rate price := by
  simp only [dollarsToJpy, bind_eq_ok_iff, pure_eq_ok_iff]
  constructor
  · rintro ⟨_, number, hnumber, whole, hwhole, _⟩
    obtain ⟨hlimit, rfl⟩ := floatOfInt_eq_ok_iff.mp hnumber
    exact ⟨hlimit, intOfFloat_returns_iff.mp ⟨whole, hwhole⟩⟩
  · rintro ⟨hlimit, hfinite⟩
    obtain ⟨whole, hwhole⟩ := intOfFloat_returns_iff.mpr hfinite
    exact ⟨_, _, floatOfInt_eq_ok_iff.mpr ⟨hlimit, rfl⟩, whole, hwhole, rfl⟩

theorem convertPriceToJpy_of_none {rate : ℤ} {value : Json} {currency : Option String}
    (h : asNumber value = .ok none) : convertPriceToJpy rate value currency = .ok none := by
  rw [convertPriceToJpy, asFloat, h]
  rfl

theorem convertPriceToJpy_of_some {rate : ℤ} {value : Json} {currency : Option String}
    {price : PyFloat} (h : asNumber value = .ok (some price)) :
    convertPriceToJpy rate value currency =
      if price.isNegative then .ok none
      else if currency = some usdCurrency then dollarsToJpy rate price
      else (intOfFloat price).map some := by
  rw [convertPriceToJpy, asFloat, h, ok_bind]
  dsimp only
  split
  · rfl
  · split
    · rfl
    · cases intOfFloat price with
      | error error => rfl
      | ok yen => rfl

/-- A price is converted exactly when it fits. -/
theorem convertPriceToJpy_returns_iff (rate : ℤ) (value : Json) (currency : Option String) :
    (∃ yen, convertPriceToJpy rate value currency = .ok yen) ↔ FitsPrice rate currency value := by
  by_cases hfits : FitsDouble value
  · obtain ⟨number, hnumber⟩ := (asNumber_returns_iff value).mpr hfits
    cases number with
    | none =>
        apply iff_of_true ⟨none, convertPriceToJpy_of_none hnumber⟩
        refine ⟨hfits, ?_⟩
        intro _ price hprice
        rw [priceNumber?, hnumber] at hprice
        cases hprice
    | some price =>
        have hpriceNumber : priceNumber? value = if price.isNegative then none else some price := by
          rw [priceNumber?, hnumber]
        rw [convertPriceToJpy_of_some hnumber, FitsPrice, hpriceNumber]
        by_cases hnegative : price.isNegative = true
        · rw [if_pos hnegative, if_pos hnegative]
          exact iff_of_true ⟨none, rfl⟩ ⟨hfits, fun _ _ hprice => nomatch hprice⟩
        · rw [if_neg hnegative, if_neg hnegative]
          by_cases hdollars : currency = some usdCurrency
          · rw [if_pos hdollars, dollarsToJpy_returns_iff]
            constructor
            · intro hrate
              refine ⟨hfits, ?_⟩
              intro _ price' hprice'
              rwa [← Option.some.inj hprice']
            · intro h
              exact h.2 hdollars price rfl
          · rw [if_neg hdollars]
            obtain ⟨yen, hyen⟩ := intOfFloat_returns_iff.mpr (asNumber_finite hnumber)
            exact iff_of_true ⟨some yen, by rw [hyen]; rfl⟩
              ⟨hfits, fun h => absurd h hdollars⟩
  · apply iff_of_false
    · rintro ⟨yen, h⟩
      rw [convertPriceToJpy, asFloat, bind_eq_ok_iff] at h
      obtain ⟨number, hnumber, _⟩ := h
      exact hfits ((asNumber_returns_iff value).mp ⟨number, hnumber⟩)
    · exact fun h => hfits h.1

theorem normalizeProduct_of_not_eligible {rate : ℤ} {item : Fields}
    (h : isEligible item = false) : normalizeProduct rate item = .ok none := by
  rw [normalizeProduct]
  cases htitle : asNonEmptyString (getField item "name") with
  | none => rfl
  | some title =>
      rw [isEligible, htitle, Option.isSome_some, Bool.true_and, Bool.not_eq_false'] at h
      dsimp only
      rw [if_pos h]
      rfl

theorem numbers_iff {item : Fields} :
    (∀ key ∈ ["rating", "reviews", "position"], FitsDouble (getField item key)) ↔
      (∃ rating, asFloat (getField item "rating") = .ok rating) ∧
      (∃ reviews, asInt (getField item "reviews") = .ok reviews) ∧
      ∃ position, asInt (getField item "position") = .ok position := by
  rw [asInt_returns_iff, asInt_returns_iff]
  simp only [asFloat, asNumber_returns_iff, List.forall_mem_cons, List.not_mem_nil,
    IsEmpty.forall_iff, implies_true, and_true]

/-- An item is normalised or dropped, and raises nothing, exactly when its numbers fit. -/
theorem normalizeProduct_returns_iff (rate : ℤ) (item : Fields) :
    (∃ product, normalizeProduct rate item = .ok product) ↔ Convertible rate item := by
  cases heligible : isEligible item with
  | false =>
      apply iff_of_true ⟨none, normalizeProduct_of_not_eligible heligible⟩
      constructor
      · intro h
        rw [heligible] at h
        cases h
      · intro h
        rw [heligible] at h
        cases h
      · intro h
        rw [heligible] at h
        cases h
  | true =>
      have hconvertible : Convertible rate item ↔
          FitsPrice rate (detectCurrency item) (priceValue item) ∧
          FitsPrice rate (detectCurrency item) (listPriceValue item) ∧
          ∀ key ∈ ["rating", "reviews", "position"], FitsDouble (getField item key) :=
        ⟨fun h => ⟨h.price heligible, h.listPrice heligible, h.numbers heligible⟩,
          fun h => ⟨fun _ => h.1, fun _ => h.2.1, fun _ => h.2.2⟩⟩
      rw [hconvertible, ← convertPriceToJpy_returns_iff, ← convertPriceToJpy_returns_iff,
        numbers_iff]
      rw [isEligible, Bool.and_eq_true, Bool.not_eq_true'] at heligible
      obtain ⟨title, htitle⟩ := Option.isSome_iff_exists.mp heligible.1
      rw [normalizeProduct, htitle]
      dsimp only
      rw [if_neg (by rw [heligible.2]; exact Bool.false_ne_true)]
      simp only [bind_eq_ok_iff, pure_eq_ok_iff, priceValue, listPriceValue]
      constructor
      · rintro ⟨_, price, hprice, listPrice, hlistPrice, rating, hrating, reviews, hreviews,
          position, hposition, _⟩
        exact ⟨⟨price, hprice⟩, ⟨listPrice, hlistPrice⟩, ⟨rating, hrating⟩, ⟨reviews, hreviews⟩,
          ⟨position, hposition⟩⟩
      · rintro ⟨⟨price, hprice⟩, ⟨listPrice, hlistPrice⟩, ⟨rating, hrating⟩, ⟨reviews, hreviews⟩,
          ⟨position, hposition⟩⟩
        exact ⟨_, price, hprice, listPrice, hlistPrice, rating, hrating, reviews, hreviews,
          position, hposition, rfl⟩

end AmazonSimilarSearch.Search
