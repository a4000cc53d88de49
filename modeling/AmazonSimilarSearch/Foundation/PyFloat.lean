import Mathlib.Data.Nat.Log
import Mathlib.Data.Int.Basic
import Mathlib.Algebra.Ring.Nat
import Mathlib.Algebra.Ring.Int.Defs

/-!
# Python floats

The IEEE 754 binary64 values that a JSON document can put into a Python
program: reading a decimal literal (round to nearest, ties to even), the
shortest `repr` that reads back to the same value, and the exact comparison
with integers that makes `1.0 == 1`.
-/
namespace Foundation

/-- `finite s m e` is `(-1) ^ s * m * 2 ^ e` with `m < 2 ^ 53`. -/
inductive PyFloat where
  | finite (negative : Bool) (mantissa : ℕ) (exponent : ℤ)
  | infinite (negative : Bool)
  | nan
  deriving DecidableEq, Repr

namespace PyFloat

/-- `num / den` as a quotient rounded to the nearest integer, ties to even. -/
def roundHalfEven (num den : ℕ) : ℕ :=
  let q := num / den
  let r := num % den
  if 2 * r < den then q
  else if den < 2 * r then q + 1
  else if q % 2 = 0 then q else q + 1

/-- `num / (den * base ^ e)` as a pair of naturals. -/
def scaled (base num den : ℕ) (e : ℤ) : ℕ × ℕ :=
  if 0 ≤ e then (num, den * base ^ e.toNat) else (num * base ^ (-e).toNat, den)

/-- The double nearest to `num / den`. -/
def ofRatio (negative : Bool) (num den : ℕ) : PyFloat :=
  if num = 0 then .finite negative 0 (-1074) else
  let guess : ℤ := (Nat.log2 num : ℤ) - Nat.log2 den - 52
  let s := scaled 2 num den guess
  let e := max (if s.1 / s.2 < 2 ^ 52 then guess - 1 else guess) (-1074)
  let t := scaled 2 num den e
  let m := roundHalfEven t.1 t.2
  let (m, e) := if m = 2 ^ 53 then (2 ^ 52, e + 1) else (m, e)
  if 971 < e then .infinite negative else .finite negative m e

/-- The double nearest to `digits * 10 ^ exponent`. -/
def ofDecimal (negative : Bool) (digits : ℕ) (exponent : ℤ) : PyFloat :=
  let s := scaled 10 digits 1 (-exponent)
  ofRatio negative s.1 s.2

/-- The exact value as `(-1) ^ negative * num / den`. -/
def ratio (mantissa : ℕ) (exponent : ℤ) : ℕ × ℕ := scaled 2 mantissa 1 (-exponent)

/-- `math.isfinite(f)` -/
def isFinite : PyFloat → Bool
  | .finite _ _ _ => true
  | _ => false

/-- `f < 0` -/
def isNegative : PyFloat → Bool
  | .finite negative mantissa _ => negative && mantissa != 0
  | .infinite negative => negative
  | .nan => false

/-- `f == i` for an integer `i`: Python compares the exact values. -/
def eqInt : PyFloat → ℤ → Bool
  | .finite negative m e, i =>
      let s := ratio m e
      (if negative then -(s.1 : ℤ) else s.1) == i * s.2
  | _, _ => false

/-- `f == g`: the two zeros are equal and `nan` equals nothing. -/
def eqFloat : PyFloat → PyFloat → Bool
  | .finite s m e, .finite s' m' e' =>
      let a := ratio m e
      let b := ratio m' e'
      (if s then -(a.1 : ℤ) else a.1) * b.2 == (if s' then -(b.1 : ℤ) else b.1) * a.2
  | .infinite s, .infinite s' => s == s'
  | _, _ => false

/-- The `k` with `10 ^ (k - 1) ≤ num / den < 10 ^ k`, for a double's value. -/
def decimalPoint (num den : ℕ) : ℤ :=
  if den ≤ num then ((Nat.toDigits 10 (num / den)).length : ℤ)
  else 1 - ((List.range 400).find? fun j => den ≤ num * 10 ^ j).getD 0

/-- The value rounded to `n` significant digits: the digits and the decimal point. -/
def significant (num den n : ℕ) : ℕ × ℤ :=
  let k := decimalPoint num den
  let s := scaled 10 num den (k - n)
  let d := roundHalfEven s.1 s.2
  if d = 10 ^ n then (10 ^ (n - 1), k + 1) else (d, k)

/-- The fewest significant digits that read back to the same double. -/
def shortest (m : ℕ) (e : ℤ) : ℕ × ℤ :=
  let s := ratio m e
  let reads := fun n =>
    let c := significant s.1 s.2 n
    ofDecimal false c.1 (c.2 - n) = .finite false m e
  let n := ((List.range 17).map (· + 1)).find? fun n => decide (reads n)
  significant s.1 s.2 (n.getD 17)

def zeros (n : ℕ) : List Char := List.replicate n '0'

/-- `float.__repr__` lays the digits out with a point in `-4 < k ≤ 16` and with an
exponent outside that range. -/
def layout (digits : List Char) (k : ℤ) : List Char :=
  if -4 < k ∧ k ≤ 16 then
    if k ≤ 0 then ['0', '.'] ++ zeros (-k).toNat ++ digits
    else if (digits.length : ℤ) ≤ k then
      digits ++ zeros (k.toNat - digits.length) ++ ['.', '0']
    else digits.take k.toNat ++ ['.'] ++ digits.drop k.toNat
  else
    let x := k - 1
    let power := Nat.toDigits 10 x.natAbs
    digits.take 1 ++ (if digits.length = 1 then [] else '.' :: digits.drop 1) ++
      ['e', if x < 0 then '-' else '+'] ++ zeros (2 - power.length) ++ power

/-- `float.__repr__` of a finite value; `json.dumps(..., allow_nan=False)` raises on the
others. -/
def repr? : PyFloat → Option (List Char)
  | .finite negative m e =>
      let sign := if negative then ['-'] else []
      if m = 0 then some (sign ++ ['0', '.', '0'])
      else
        let c := shortest m e
        some (sign ++ layout (Nat.toDigits 10 c.1) c.2)
  | .infinite _ => none
  | .nan => none

end PyFloat
end Foundation
