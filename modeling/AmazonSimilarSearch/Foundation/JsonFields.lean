import AmazonSimilarSearch.Foundation.JsonGrammar
import AmazonSimilarSearch.Foundation.JsonOrdered
import Mathlib.Algebra.Order.Ring.Nat

/-!
# The fields of an object that was read

What `d[k] = v` does to the fields of an object, and how large the numbers are that `json.loads`
makes: a literal with more digits than `int` takes is refused, and a float is rounded to a double,
so that an integer made of either can be written again.
-/
namespace Foundation

/-! ## Fields -/

namespace Fields

theorem get_insert_self (k : String) (v : Json) (fs : Fields) : (insert k v fs).get k = v := by
  induction fs with
  | nil => exact get_cons_self k v []
  | cons f fs ih =>
      obtain ⟨l, w⟩ := f
      rw [insert]
      split_ifs with hlt heq
      · exact get_cons_self k v _
      · exact get_cons_self k v fs
      · rw [get_cons_of_ne heq, ih]

theorem get_insert_of_ne {k l : String} (h : l ≠ k) (v : Json) (fs : Fields) :
    (insert k v fs).get l = fs.get l := by
  induction fs with
  | nil => rw [insert, get_cons_of_ne h]
  | cons f fs ih =>
      obtain ⟨m, w⟩ := f
      rw [insert]
      split_ifs with hlt heq
      · rw [get_cons_of_ne h]
      · subst heq
        rw [get_cons_of_ne h, get_cons_of_ne h]
      · by_cases hm : l = m
        · subst hm
          rw [get_cons_self, get_cons_self]
        · rw [get_cons_of_ne hm, get_cons_of_ne hm, ih]

theorem get_of_not_mem {k : String} {fs : Fields} (h : k ∉ fs.keys) : fs.get k = .null := by
  induction fs with
  | nil => rfl
  | cons f fs ih =>
      obtain ⟨l, w⟩ := f
      rw [keys_cons, List.mem_cons, not_or] at h
      rw [get_cons_of_ne h.1, ih h.2]

/-- A value that is there stands under its key. -/
theorem mem_of_get {k : String} {fs : Fields} (h : fs.get k ≠ .null) : (k, fs.get k) ∈ fs := by
  induction fs with
  | nil => exact absurd rfl h
  | cons f fs ih =>
      obtain ⟨l, w⟩ := f
      by_cases hl : k = l
      · subst hl
        rw [get_cons_self]
        exact List.mem_cons_self
      · rw [get_cons_of_ne hl] at h ⊢
        exact List.mem_cons_of_mem _ (ih h)

/-- Steps that each rewrite one field make a loop that rewrites the fields it names. -/
theorem get_foldl {step : Fields → String → Fields} {f : Json → Json}
    (hself : ∀ fs k, (step fs k).get k = f (fs.get k))
    (hne : ∀ fs k l, l ≠ k → (step fs k).get l = fs.get l) {names : List String}
    (hnames : names.Nodup) (fs : Fields) (l : String) :
    (names.foldl step fs).get l = if l ∈ names then f (fs.get l) else fs.get l := by
  induction names generalizing fs with
  | nil => rfl
  | cons k names ih =>
      obtain ⟨hk, hrest⟩ := List.nodup_cons.mp hnames
      rw [List.foldl_cons, ih hrest]
      by_cases hl : l = k
      · subst hl
        rw [if_neg hk, if_pos List.mem_cons_self, hself]
      · simp only [List.mem_cons, hl, false_or, hne fs k l hl]

end Fields

/-! ## The numbers of a document -/

namespace PyFloat

/-- A bound on the finite doubles. -/
def IsRounded : PyFloat → Prop
  | .finite _ mantissa exponent => mantissa ≤ 2 ^ 54 ∧ exponent ≤ 971
  | _ => True

theorem roundHalfEven_le (num den : ℕ) : roundHalfEven num den ≤ num / den + 1 := by
  unfold roundHalfEven
  dsimp only
  split_ifs <;> omega

/-- With the exponent that rounding takes, the quotient has about 53 bits. -/
theorem scaled_lt {num den : ℕ} (hden : den ≠ 0) {e : ℤ}
    (he : (Nat.log2 num : ℤ) - Nat.log2 den - 53 ≤ e) :
    (scaled 2 num den e).1 < 2 ^ 54 * (scaled 2 num den e).2 := by
  have hnum : num < 2 ^ (Nat.log2 num + 1) := Nat.lt_log2_self
  have hlow : 2 ^ Nat.log2 den ≤ den := Nat.log2_self_le hden
  unfold scaled
  split_ifs with hsign
  · have hexponent : Nat.log2 num + 1 ≤ 54 + Nat.log2 den + e.toNat := by omega
    calc num < 2 ^ (Nat.log2 num + 1) := hnum
      _ ≤ 2 ^ (54 + Nat.log2 den + e.toNat) := Nat.pow_le_pow_right two_pos hexponent
      _ = 2 ^ 54 * (2 ^ Nat.log2 den * 2 ^ e.toNat) := by rw [pow_add, pow_add, mul_assoc]
      _ ≤ 2 ^ 54 * (den * 2 ^ e.toNat) :=
          Nat.mul_le_mul_left _ (Nat.mul_le_mul_right _ hlow)
  · have hexponent : Nat.log2 num + 1 + (-e).toNat ≤ 54 + Nat.log2 den := by omega
    calc num * 2 ^ (-e).toNat < 2 ^ (Nat.log2 num + 1) * 2 ^ (-e).toNat :=
          Nat.mul_lt_mul_of_pos_right hnum (Nat.two_pow_pos _)
      _ = 2 ^ (Nat.log2 num + 1 + (-e).toNat) := (pow_add _ _ _).symm
      _ ≤ 2 ^ (54 + Nat.log2 den) := Nat.pow_le_pow_right two_pos hexponent
      _ = 2 ^ 54 * 2 ^ Nat.log2 den := pow_add _ _ _
      _ ≤ 2 ^ 54 * den := Nat.mul_le_mul_left _ hlow

theorem isRounded_ofRatio (negative : Bool) (num : ℕ) {den : ℕ} (hden : den ≠ 0) :
    (ofRatio negative num den).IsRounded := by
  unfold ofRatio
  split_ifs with hnum
  · exact ⟨Nat.zero_le _, by decide⟩
  · dsimp only
    generalize hexponent : max _ (-1074 : ℤ) = e
    have he : (Nat.log2 num : ℤ) - Nat.log2 den - 53 ≤ e := by
      rw [← hexponent]
      apply le_max_of_le_left
      split_ifs <;> omega
    have hlt := scaled_lt hden he
    have hround := roundHalfEven_le (scaled 2 num den e).1 (scaled 2 num den e).2
    have hdiv : (scaled 2 num den e).1 / (scaled 2 num den e).2 < 2 ^ 54 :=
      Nat.div_lt_of_lt_mul (by rwa [mul_comm])
    have hmantissa : roundHalfEven (scaled 2 num den e).1 (scaled 2 num den e).2 ≤ 2 ^ 54 := by
      omega
    split_ifs with hcarry hlarge hlarge
    · trivial
    · exact ⟨Nat.pow_le_pow_right two_pos (by decide), not_lt.mp hlarge⟩
    · trivial
    · exact ⟨hmantissa, not_lt.mp hlarge⟩

theorem isRounded_ofDecimal (negative : Bool) (digits : ℕ) (exponent : ℤ) :
    (ofDecimal negative digits exponent).IsRounded := by
  apply isRounded_ofRatio
  unfold scaled
  split_ifs
  · exact Nat.mul_ne_zero one_ne_zero (Nat.pow_pos (by decide)).ne'
  · exact one_ne_zero

theorem ratio_snd_pos (mantissa : ℕ) (exponent : ℤ) : 0 < (ratio mantissa exponent).2 := by
  unfold ratio scaled
  split_ifs
  · exact Nat.mul_pos one_pos (Nat.two_pow_pos _)
  · exact one_pos

theorem ratio_fst_le {mantissa bits bound : ℕ} {exponent : ℤ} (hmantissa : mantissa ≤ 2 ^ bits)
    (hexponent : exponent ≤ bound) : (ratio mantissa exponent).1 ≤ 2 ^ (bits + bound) := by
  rw [pow_add]
  unfold ratio scaled
  split_ifs
  · exact hmantissa.trans (Nat.le_mul_of_pos_right _ (Nat.two_pow_pos _))
  · exact Nat.mul_le_mul hmantissa (Nat.pow_le_pow_right two_pos (by omega))

/-- The whole part of a double has far fewer digits than `int` converts. -/
theorem ratio_fst_lt {negative : Bool} {mantissa : ℕ} {exponent : ℤ}
    (h : (finite negative mantissa exponent).IsRounded) :
    (ratio mantissa exponent).1 / (ratio mantissa exponent).2 < 10 ^ maxIntegerDigits := by
  have hlimit : 54 + 971 < maxIntegerDigits := by decide
  calc (ratio mantissa exponent).1 / (ratio mantissa exponent).2 ≤ (ratio mantissa exponent).1 :=
        Nat.div_le_self _ _
    _ ≤ 2 ^ (54 + 971) := ratio_fst_le h.1 h.2
    _ < 2 ^ maxIntegerDigits := Nat.pow_lt_pow_right one_lt_two hlimit
    _ ≤ 10 ^ maxIntegerDigits := Nat.pow_le_pow_left (by decide) _

end PyFloat

namespace Json

/-- The numbers that `json.loads` makes. -/
def IsRead : Json → Prop
  | .int i => i.natAbs < 10 ^ maxIntegerDigits
  | .float f => f.IsRounded
  | _ => True

theorem ofDigitChars_lt {digits : List Char} (h : ∀ c ∈ digits, c.isDigit = true) (init : ℕ) :
    Nat.ofDigitChars 10 digits init < (init + 1) * 10 ^ digits.length := by
  induction digits generalizing init with
  | nil => simp
  | cons c digits ih =>
      obtain ⟨hc, hdigits⟩ := List.forall_mem_cons.mp h
      have hvalue : c.toNat - '0'.toNat < 10 := by
        simp only [Char.isDigit, Bool.and_eq_true, decide_eq_true_eq] at hc
        have hnine : c.toNat ≤ 57 := hc.2
        show c.toNat - 48 < 10
        omega
      rw [Nat.ofDigitChars_cons, List.length_cons]
      calc Nat.ofDigitChars 10 digits (10 * init + (c.toNat - '0'.toNat))
          < (10 * init + (c.toNat - '0'.toNat) + 1) * 10 ^ digits.length := ih hdigits _
        _ ≤ (init + 1) * 10 * 10 ^ digits.length := Nat.mul_le_mul_right _ (by omega)
        _ = (init + 1) * 10 ^ (digits.length + 1) := by rw [pow_succ, mul_assoc, mul_comm 10]

theorem isRead_of_parseNumber {negative : Bool} {cs rest : List Char} {v : Json}
    (h : parseNumber negative cs = .ok (v, rest)) : IsRead v := by
  obtain ⟨whole, left, hwhole⟩ : ∃ whole left, wholePart cs = (whole, left) := ⟨_, _, rfl⟩
  unfold parseNumber at h
  simp only [hwhole] at h
  split_ifs at h with hnil hint hlong hsign
  · cases h
    have hlt := ofDigitChars_lt (exists_wholePart hwhole hnil).2.1 0
    rw [IsRead, Int.natAbs_neg, Int.natAbs_natCast]
    calc Nat.ofDigitChars 10 whole 0 < (0 + 1) * 10 ^ whole.length := hlt
      _ = 10 ^ whole.length := one_mul _
      _ ≤ 10 ^ maxIntegerDigits := Nat.pow_le_pow_right (by decide) (not_lt.mp hlong)
  · cases h
    have hlt := ofDigitChars_lt (exists_wholePart hwhole hnil).2.1 0
    rw [IsRead, Int.natAbs_natCast]
    calc Nat.ofDigitChars 10 whole 0 < (0 + 1) * 10 ^ whole.length := hlt
      _ = 10 ^ whole.length := one_mul _
      _ ≤ 10 ^ maxIntegerDigits := Nat.pow_le_pow_right (by decide) (not_lt.mp hlong)
  · cases h
    exact PyFloat.isRounded_ofDecimal _ _ _

theorem isRead_of_parseLiteral {tail cs rest : List Char} {r : Except JsonError Json} {v : Json}
    (hr : ∀ w, r = .ok w → IsRead w) (h : parseLiteral tail r cs = .ok (v, rest)) : IsRead v := by
  unfold parseLiteral at h
  split_ifs at h
  cases r with
  | error e => cases h
  | ok w =>
      cases h
      exact hr _ rfl

theorem isRead_constantValue {h : Hooks} {f : PyFloat} (hf : f.IsRounded) (v : Json)
    (hv : constantValue h f = .ok v) : IsRead v := by
  unfold constantValue at hv
  split_ifs at hv
  cases hv
  exact hf

theorem SpellsScalar.isRead {h : Hooks} {v : Json} {text : List Char}
    (hscalar : SpellsScalar h v text) : IsRead v := by
  obtain ⟨c, cs, rfl⟩ := List.exists_cons_of_ne_nil hscalar.ne_nil
  have hc := hscalar.chars c List.mem_cons_self
  have hne : ∀ d : Char, isScalarChar d = false → c ≠ d := by
    rintro d hd rfl
    rw [hc] at hd
    cases hd
  have hread := hscalar.reads 0 [] endsNumber_nil
  rw [List.append_nil, parseValue_scalar h 0 (hne _ rfl) (hne _ rfl) (hne _ rfl)] at hread
  unfold parseScalar at hread
  have hliteral : ∀ w w' : Json, IsRead w → Except.ok w = (.ok w' : Except JsonError Json) →
      IsRead w' := by
    rintro w w' hw ⟨⟩
    exact hw
  split_ifs at hread
  · exact isRead_of_parseLiteral (fun w => hliteral .null w trivial) hread
  · exact isRead_of_parseLiteral (fun w => hliteral (.bool true) w trivial) hread
  · exact isRead_of_parseLiteral (fun w => hliteral (.bool false) w trivial) hread
  · exact isRead_of_parseLiteral (isRead_constantValue (f := .nan) trivial) hread
  · exact isRead_of_parseLiteral (isRead_constantValue (f := .infinite false) trivial) hread
  · exact isRead_of_parseLiteral (isRead_constantValue (f := .infinite true) trivial) hread
  · exact isRead_of_parseNumber hread
  · exact isRead_of_parseNumber hread

theorem pairsValue_eq_ok {h : Hooks} {pairs : List (String × Json)} {v : Json}
    (hv : pairsValue h pairs = .ok v) : v = .obj (Fields.ofPairs pairs) := by
  unfold pairsValue at hv
  split_ifs at hv
  exact (Except.ok.inj hv).symm

/-- A number, or a value of another kind, and the members of an object are such values. -/
theorem Spells.isRead {h : Hooks} {m : Meaning} {text : List Char} (hspells : Spells h m text) :
    (∀ v, m = .value v → IsRead v) ∧
      ∀ pairs, m = .members pairs → ∀ p ∈ pairs, IsRead p.2 := by
  induction hspells with
  | scalar hscalar =>
      refine ⟨?_, fun pairs hm => by cases hm⟩
      rintro v ⟨⟩
      exact hscalar.isRead
  | @lastMember k _ _ _ _ _ v _ _ _ _ _ ih =>
      refine ⟨fun v hm => (by cases hm), ?_⟩
      rintro pairs ⟨⟩
      exact List.forall_mem_singleton.mpr (ih.1 v rfl)
  | @member k _ _ _ _ _ _ _ v pairs _ _ _ _ _ _ _ ih ihs =>
      refine ⟨fun v hm => (by cases hm), ?_⟩
      rintro pairs ⟨⟩
      exact List.forall_mem_cons.mpr ⟨ih.1 v rfl, ihs.2 pairs rfl⟩
  | emptyObject _ hv =>
      refine ⟨?_, fun pairs hm => by cases hm⟩
      rintro v ⟨⟩
      rw [pairsValue_eq_ok hv]
      trivial
  | object _ _ hv _ =>
      refine ⟨?_, fun pairs hm => by cases hm⟩
      rintro v ⟨⟩
      rw [pairsValue_eq_ok hv]
      trivial
  | _ =>
      refine ⟨fun v hm => ?_, fun pairs hm => by cases hm⟩
      cases hm <;> trivial

/-- The numbers among the fields of an object that was read. -/
theorem isRead_get {h : Hooks} {text : String} {fs : Fields}
    (hread : loads h text = .ok (.obj fs)) (k : String) : IsRead (fs.get k) := by
  by_cases hnull : fs.get k = .null
  · rw [hnull]
    trivial
  · obtain ⟨_, body, _, _, _, _, hspells⟩ := loads_eq_ok_iff.mp hread
    have hmem := Fields.mem_of_get hnull
    cases hspells with
    | scalar hscalar => exact absurd rfl (hscalar.ne_obj fs)
    | emptyObject _ hv =>
        cases pairsValue_eq_ok hv
        exact absurd hmem List.not_mem_nil
    | object _ hmembers hv =>
        cases pairsValue_eq_ok hv
        exact hmembers.isRead.2 _ rfl _ (mem_ofPairs hmem)

end Json
end Foundation
