import Mathlib.Algebra.Order.Floor.Ring
import Mathlib.Data.Int.ConditionallyCompleteOrder
import Mathlib.Data.Int.Log
import Mathlib.Data.Rat.Floor
import Mathlib.Tactic.FieldSimp
import Mathlib.Tactic.Linarith
import Mathlib.Tactic.Positivity

/-!
# Rounding to binary digits

A number is rounded to the nearest multiple of a power of two, and to the even one of two:
the power is chosen so that `precision` digits are left, and is not below a least one.
Such a rounding is monotone, and keeps the powers of two.
-/
namespace Foundation.Rounding

variable {α : Type*} [Field α] [LinearOrder α] [IsStrictOrderedRing α] [FloorRing α]

/-! ## To an integer -/

/-- The nearest integer, the even one of two. -/
def toEven (x : α) : ℤ :=
  if Int.fract x < 1 / 2 then ⌊x⌋
  else if 1 / 2 < Int.fract x then ⌊x⌋ + 1
  else if ⌊x⌋ % 2 = 0 then ⌊x⌋ else ⌊x⌋ + 1

omit [IsStrictOrderedRing α] in
theorem floor_le_toEven (x : α) : ⌊x⌋ ≤ toEven x := by
  unfold toEven
  split_ifs <;> omega

omit [IsStrictOrderedRing α] in
theorem toEven_le_floor_add_one (x : α) : toEven x ≤ ⌊x⌋ + 1 := by
  unfold toEven
  split_ifs <;> omega

@[simp] theorem toEven_intCast (n : ℤ) : toEven (n : α) = n := by
  have hfract : Int.fract (n : α) < 1 / 2 := by
    rw [Int.fract_intCast]
    exact one_half_pos
  rw [toEven, if_pos hfract, Int.floor_intCast]

theorem toEven_monotone : Monotone (toEven : α → ℤ) := by
  intro x y hxy
  rcases (Int.floor_mono hxy).lt_or_eq with hlt | heq
  · have hx := toEven_le_floor_add_one x
    have hy := floor_le_toEven y
    omega
  · have hfract : Int.fract x ≤ Int.fract y := by
      rw [Int.fract, Int.fract, heq]
      linarith
    unfold toEven
    rw [← heq]
    split_ifs <;> first | omega | (exfalso; linarith)

/-- An even integer is reached from a half below it. -/
theorem le_toEven_iff {n : ℤ} (hn : n % 2 = 0) {x : α} :
    n ≤ toEven x ↔ (n : α) - 1 / 2 ≤ x := by
  have hfloor := Int.floor_add_fract x
  rcases lt_trichotomy ⌊x⌋ (n - 1) with hlt | heq | hgt
  · have hle := toEven_le_floor_add_one x
    have hcast : (⌊x⌋ : α) + 2 ≤ n := by exact_mod_cast (by omega : ⌊x⌋ + 2 ≤ n)
    have hone := Int.fract_lt_one x
    constructor
    · intro h
      omega
    · intro h
      linarith
  · have hcast : (⌊x⌋ : α) = n - 1 := by exact_mod_cast heq
    have hodd : ⌊x⌋ % 2 ≠ 0 := by omega
    unfold toEven
    constructor
    · intro h
      split_ifs at h with h₁
      · omega
      all_goals linarith
    · intro h
      have hhalf : ¬ Int.fract x < 1 / 2 := by
        intro hsmall
        linarith
      rw [if_neg hhalf]
      split_ifs <;> omega
  · have hle := floor_le_toEven x
    have hcast : (n : α) ≤ ⌊x⌋ := by exact_mod_cast (by omega : n ≤ ⌊x⌋)
    have hfloor_le := Int.floor_le x
    constructor
    · intro _
      linarith
    · intro _
      omega

/-! ## To binary digits -/

/-- The exponent of the last digit that is kept. -/
def lastDigit (precision : ℕ) (least : ℤ) (x : α) : ℤ := max (Int.log 2 x - precision + 1) least

/-- A number that is not negative, rounded. -/
def roundTo (precision : ℕ) (least : ℤ) (x : α) : α :=
  toEven (x / 2 ^ lastDigit precision least x) * 2 ^ lastDigit precision least x

section Binary

variable {precision : ℕ} {least : ℤ} {x y : α}

theorem two_zpow_pos (k : ℤ) : (0 : α) < 2 ^ k := zpow_pos two_pos k

theorem toEven_two_pow (n : ℕ) : toEven ((2 : α) ^ n) = 2 ^ n := by
  have hcast : ((2 : α) ^ n) = ((2 ^ n : ℤ) : α) := by push_cast; rfl
  rw [hcast, toEven_intCast]

@[simp] theorem roundTo_zero : roundTo precision least (0 : α) = 0 := by
  have hzero : toEven (0 : α) = 0 := by exact_mod_cast toEven_intCast (α := α) 0
  rw [roundTo, zero_div, hzero, Int.cast_zero, zero_mul]

theorem lastDigit_mono (hx : 0 < x) (hxy : x ≤ y) :
    lastDigit precision least x ≤ lastDigit precision least y :=
  max_le_max_right _ (by have hlog := Int.log_mono_right (b := 2) hx hxy; omega)

theorem lt_two_zpow (x : α) : x < 2 ^ (lastDigit precision least x + precision) := by
  have hlog : x < (2 : ℕ) ^ (Int.log 2 x + 1) := Int.lt_zpow_succ_log_self one_lt_two x
  have hle : Int.log 2 x + 1 ≤ lastDigit precision least x + precision := by
    have hmax := le_max_left (Int.log 2 x - precision + 1) least
    unfold lastDigit
    omega
  calc x < (2 : α) ^ (Int.log 2 x + 1) := by exact_mod_cast hlog
    _ ≤ 2 ^ (lastDigit precision least x + precision) := zpow_le_zpow_right₀ one_le_two hle

/-- Above the least exponent no digit is wasted. -/
theorem two_zpow_le (hx : 0 < x) (h : least < lastDigit precision least x) :
    2 ^ (lastDigit precision least x + precision - 1) ≤ x := by
  have hlog : ((2 : ℕ) : α) ^ Int.log 2 x ≤ x := Int.zpow_log_le_self one_lt_two hx
  have heq : lastDigit precision least x + precision - 1 = Int.log 2 x := by
    unfold lastDigit at *
    omega
  rw [heq]
  exact_mod_cast hlog

theorem roundTo_le_two_zpow (x : α) :
    roundTo precision least x ≤ 2 ^ (lastDigit precision least x + precision) := by
  set e := lastDigit precision least x with he
  have hpos : (0 : α) < 2 ^ e := two_zpow_pos e
  have hquotient : x / 2 ^ e ≤ 2 ^ precision := by
    rw [div_le_iff₀ hpos, mul_comm, ← zpow_natCast, ← zpow_add₀ two_ne_zero]
    exact (lt_two_zpow x).le
  have hround : toEven (x / 2 ^ e) ≤ 2 ^ precision := by
    have hmono := toEven_monotone hquotient
    rwa [toEven_two_pow] at hmono
  have hcast : (toEven (x / 2 ^ e) : α) ≤ 2 ^ precision := by exact_mod_cast hround
  rw [roundTo, ← he, zpow_add₀ two_ne_zero, mul_comm (2 ^ e), zpow_natCast]
  exact mul_le_mul_of_nonneg_right hcast hpos.le

theorem two_zpow_le_roundTo (hprecision : 0 < precision) (hx : 0 < x)
    (h : least < lastDigit precision least x) :
    2 ^ (lastDigit precision least x + precision - 1) ≤ roundTo precision least x := by
  have hle := two_zpow_le hx h
  set e := lastDigit precision least x with he
  have hpos : (0 : α) < 2 ^ e := two_zpow_pos e
  obtain ⟨digits, rfl⟩ := Nat.exists_eq_succ_of_ne_zero hprecision.ne'
  have hexp : e + (digits + 1 : ℕ) - 1 = (digits : ℤ) + e := by push_cast; ring
  rw [hexp, zpow_add₀ two_ne_zero, zpow_natCast] at hle ⊢
  have hquotient : (2 : α) ^ digits ≤ x / 2 ^ e := (le_div_iff₀ hpos).mpr hle
  have hround : 2 ^ digits ≤ toEven (x / 2 ^ e) := by
    have hmono := toEven_monotone hquotient
    rwa [toEven_two_pow] at hmono
  have hcast : (2 : α) ^ digits ≤ toEven (x / 2 ^ e) := by exact_mod_cast hround
  rw [roundTo, ← he]
  exact mul_le_mul_of_nonneg_right hcast hpos.le

/-- Rounding is monotone: a larger number has the same last digit, or is past a power of two. -/
theorem roundTo_mono (hprecision : 0 < precision) (hx : 0 < x) (hxy : x ≤ y) :
    roundTo precision least x ≤ roundTo precision least y := by
  have hdigit : lastDigit precision least x ≤ lastDigit precision least y := lastDigit_mono hx hxy
  rcases hdigit.lt_or_eq with hlt | heq
  · have hleast : least < lastDigit precision least y :=
      (le_max_right _ _).trans_lt hlt
    calc roundTo precision least x
        ≤ 2 ^ (lastDigit precision least x + precision) := roundTo_le_two_zpow x
      _ ≤ 2 ^ (lastDigit precision least y + precision - 1) :=
          zpow_le_zpow_right₀ one_le_two (by omega)
      _ ≤ roundTo precision least y :=
          two_zpow_le_roundTo hprecision (hx.trans_le hxy) hleast
  · rw [roundTo, roundTo, heq]
    have hpos : (0 : α) < 2 ^ lastDigit precision least y := two_zpow_pos _
    have hquotient : x / 2 ^ lastDigit precision least y ≤ y / 2 ^ lastDigit precision least y :=
      div_le_div_of_nonneg_right hxy hpos.le
    have hcast : (toEven (x / 2 ^ lastDigit precision least y) : α) ≤
        toEven (y / 2 ^ lastDigit precision least y) := by
      exact_mod_cast toEven_monotone hquotient
    exact mul_le_mul_of_nonneg_right hcast hpos.le

/-- A power of two is kept, unless it is too small. -/
theorem roundTo_two_zpow (hprecision : 0 < precision) {k : ℤ} (hk : least ≤ k) :
    roundTo precision least ((2 : α) ^ k) = 2 ^ k := by
  have hlog : Int.log 2 ((2 : α) ^ k) = k := by
    have h := Int.log_zpow (R := α) one_lt_two k
    exact_mod_cast h
  have hle : lastDigit precision least ((2 : α) ^ k) ≤ k := by
    unfold lastDigit
    rw [hlog]
    omega
  obtain ⟨n, hn⟩ := Int.eq_ofNat_of_zero_le (sub_nonneg.mpr hle)
  have hquotient : (2 : α) ^ k / 2 ^ lastDigit precision least ((2 : α) ^ k) = 2 ^ n := by
    rw [← zpow_sub₀ two_ne_zero, hn]
    exact zpow_natCast 2 n
  rw [roundTo, hquotient, toEven_two_pow]
  push_cast
  rw [← hquotient, div_mul_cancel₀ _ (two_zpow_pos _).ne']

theorem roundTo_nonneg (hx : 0 ≤ x) : 0 ≤ roundTo precision least x := by
  have hpos : (0 : α) < 2 ^ lastDigit precision least x := two_zpow_pos _
  have hfloor : 0 ≤ ⌊x / 2 ^ lastDigit precision least x⌋ := Int.floor_nonneg.mpr (by positivity)
  have hround : (0 : ℤ) ≤ toEven (x / 2 ^ lastDigit precision least x) :=
    hfloor.trans (floor_le_toEven _)
  exact mul_nonneg (by exact_mod_cast hround) hpos.le

theorem lastDigit_of_half_le (hleast : least ≤ -precision) (hhalf : 1 / 2 ≤ x) (hlt : x < 1) :
    lastDigit precision least x = -precision := by
  have hx : 0 < x := one_half_pos.trans_le hhalf
  have hlow : (-1 : ℤ) ≤ Int.log 2 x := by
    rw [← Int.zpow_le_iff_le_log one_lt_two hx]
    simpa using hhalf
  have hhigh : Int.log 2 x < 0 := by
    rw [← Int.lt_zpow_iff_log_lt one_lt_two hx]
    simpa using hlt
  unfold lastDigit
  omega

theorem roundTo_eq_one_iff_of_half_le (hprecision : 0 < precision) (hleast : least ≤ -precision)
    (hhalf : 1 / 2 ≤ x) (hlt : x < 1) :
    roundTo precision least x = 1 ↔ 1 - 1 / 2 ^ (precision + 1) ≤ x := by
  have hpow : (0 : α) < 2 ^ precision := pow_pos two_pos _
  have hround : roundTo precision least x = toEven (x * 2 ^ precision) / 2 ^ precision := by
    rw [roundTo, lastDigit_of_half_le hleast hhalf hlt, zpow_neg, zpow_natCast, div_inv_eq_mul,
      ← div_eq_mul_inv]
  have hatMost : toEven (x * 2 ^ precision) ≤ 2 ^ precision := by
    have hmono := toEven_monotone (mul_le_of_le_one_left hpow.le hlt.le)
    rwa [toEven_two_pow] at hmono
  have heven : (2 ^ precision : ℤ) % 2 = 0 := by
    obtain ⟨digits, rfl⟩ := Nat.exists_eq_succ_of_ne_zero hprecision.ne'
    rw [pow_succ]
    exact Int.mul_emod_left _ _
  have hreached : (toEven (x * 2 ^ precision) : α) = 2 ^ precision ↔
      2 ^ precision ≤ toEven (x * 2 ^ precision) := by
    constructor
    · intro h
      exact_mod_cast h.ge
    · intro h
      exact_mod_cast le_antisymm hatMost h
  have hbound : 1 - 1 / 2 ^ (precision + 1) = ((2 : α) ^ precision - 1 / 2) / 2 ^ precision := by
    rw [pow_succ]
    field_simp
  rw [hround, div_eq_one_iff_eq hpow.ne', hreached, le_toEven_iff heven, hbound, div_le_iff₀ hpow]
  push_cast
  exact Iff.rfl

/-- What is rounded up to one: a number from half of the last digit below it. -/
theorem roundTo_eq_one_iff (hprecision : 0 < precision) (hleast : least ≤ -precision) (hx : 0 < x)
    (hle : x ≤ 1) : roundTo precision least x = 1 ↔ 1 - 1 / 2 ^ (precision + 1) ≤ x := by
  have hsmall : (1 : α) / 2 ^ (precision + 1) < 1 / 2 := by
    apply one_div_lt_one_div_of_lt two_pos
    calc (2 : α) = 2 ^ 1 := (pow_one 2).symm
      _ < 2 ^ (precision + 1) := pow_lt_pow_right₀ one_lt_two (by omega)
  rcases hle.lt_or_eq with hlt | rfl
  · rcases lt_or_ge x (1 / 2) with hbelow | hhalf
    · have hround : roundTo precision least x ≤ 1 / 2 := by
        have hmono : roundTo precision least x ≤ roundTo precision least (1 / 2) :=
          roundTo_mono hprecision hx hbelow.le
        have hkept := roundTo_two_zpow (α := α) (k := -1) hprecision (by omega : least ≤ -1)
        rw [zpow_neg_one, ← one_div] at hkept
        rwa [hkept] at hmono
      constructor
      · intro h
        linarith
      · intro h
        linarith
    · exact roundTo_eq_one_iff_of_half_le hprecision hleast hhalf hlt
  · have hkept := roundTo_two_zpow (α := α) (k := 0) hprecision (by omega : least ≤ 0)
    rw [zpow_zero] at hkept
    refine iff_of_true hkept ?_
    have hpos : (0 : α) < 1 / 2 ^ (precision + 1) := by positivity
    linarith

end Binary

end Foundation.Rounding
