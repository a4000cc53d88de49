import AmazonSimilarSearch.Foundation.JsonCanonical

/-!
# How long the text of a value is

A bound on the length of the canonical line of a plain value, from the sizes of
its strings alone. It is coarse: every character is counted as its longest
escape in its longest encoding.
-/
namespace Foundation
namespace Json

def stringSize (s : String) : ℕ := 6 * s.toList.length + 2

mutual
def textSize : Json → ℕ
  | .null => 4
  | .bool _ => 5
  | .int i => i.natAbs + 2
  | .float _ => 0
  | .str s => stringSize s
  | .arr xs => itemsSize xs + 2
  | .obj fs => fieldsSize fs + 2
def itemsSize : List Json → ℕ
  | [] => 0
  | x :: xs => textSize x + 1 + itemsSize xs
def fieldsSize : Fields → ℕ
  | [] => 0
  | (k, v) :: fs => stringSize k + textSize v + 2 + fieldsSize fs
end

theorem escapeChar_length_le (c : Char) : (escapeChar c).length ≤ 6 := by
  unfold escapeChar
  split_ifs <;> simp

theorem dumpString_length_le (s : String) : (dumpString s).length ≤ stringSize s := by
  have hbody : ∀ cs : List Char, (cs.flatMap escapeChar).length ≤ 6 * cs.length := by
    intro cs
    induction cs with
    | nil => simp
    | cons c cs ih =>
        have hc := escapeChar_length_le c
        simp only [List.flatMap_cons, List.length_append, List.length_cons]
        omega
  have h := hbody s.toList
  simp only [dumpString, stringSize, List.length_cons, List.length_append, List.length_nil]
  omega

theorem dumpInt_length_le {i : ℤ} {text : List Char} (h : dumpInt i = some text) :
    text.length ≤ i.natAbs + 2 := by
  have hdigits : (Nat.toDigits 10 i.natAbs).length ≤ i.natAbs + 1 :=
    (Nat.length_toDigits_le_iff (by decide) (by omega)).mpr
      (Nat.lt_of_lt_of_le (Nat.lt_pow_self (by decide)) (Nat.pow_le_pow_right (by decide) (by omega)))
  simp only [dumpInt] at h
  split_ifs at h <;> cases h
  · simp only [List.length_cons]
    omega
  · omega

mutual
theorem dumpValue_length_le : ∀ {v : Json} {text : List Char}, IsPlain v →
    dumpValue v = some text → text.length ≤ textSize v
  | .null, text, _, h => by
      simp only [dumpValue, Option.some.injEq] at h
      subst h
      simp [textSize]
  | .bool b, text, _, h => by
      cases b <;> simp only [dumpValue, Option.some.injEq] at h <;> subst h <;> simp [textSize]
  | .int i, text, _, h => by
      rw [dumpValue] at h
      exact dumpInt_length_le h
  | .float f, text, hv, _ => absurd hv (not_isPlain_float f)
  | .str s, text, _, h => by
      simp only [dumpValue, Option.some.injEq] at h
      subst h
      exact dumpString_length_le s
  | .arr xs, text, hv, h => by
      simp only [dumpValue, Option.map_eq_some_iff] at h
      obtain ⟨body, hbody, rfl⟩ := h
      have := dumpItems_length_le (isPlain_arr.mp hv) hbody
      simp only [textSize, List.length_cons, List.length_append, List.length_nil]
      omega
  | .obj fs, text, hv, h => by
      simp only [dumpValue, Option.map_eq_some_iff] at h
      obtain ⟨body, hbody, rfl⟩ := h
      have := dumpFields_length_le (isPlain_obj.mp hv).2 hbody
      simp only [textSize, List.length_cons, List.length_append, List.length_nil]
      omega
theorem dumpItems_length_le : ∀ {xs : List Json} {text : List Char}, PlainItems xs →
    dumpItems xs = some text → text.length ≤ itemsSize xs
  | [], text, _, h => by
      simp only [dumpItems, Option.some.injEq] at h
      subst h
      simp
  | [x], text, hv, h => by
      rw [dumpItems] at h
      have := dumpValue_length_le (plainItems_cons.mp hv).1 h
      simp only [itemsSize]
      omega
  | x :: y :: xs, text, hv, h => by
      simp only [dumpItems, Option.pure_def, Option.bind_eq_bind, Option.bind_eq_some_iff,
        Option.some.injEq] at h
      obtain ⟨head, hhead, tail, htail, rfl⟩ := h
      have hfirst := dumpValue_length_le (plainItems_cons.mp hv).1 hhead
      have hrest := dumpItems_length_le (plainItems_cons.mp hv).2 htail
      rw [itemsSize]
      simp only [List.length_append, List.length_cons]
      omega
theorem dumpFields_length_le : ∀ {fs : Fields} {text : List Char}, PlainFields fs →
    dumpFields fs = some text → text.length ≤ fieldsSize fs
  | [], text, _, h => by
      simp only [dumpFields, Option.some.injEq] at h
      subst h
      simp
  | [(k, v)], text, hv, h => by
      simp only [dumpFields, Option.pure_def, Option.bind_eq_bind, Option.bind_eq_some_iff,
        Option.some.injEq] at h
      obtain ⟨value, hvalue, rfl⟩ := h
      have hkey := dumpString_length_le k
      have := dumpValue_length_le (plainFields_cons.mp hv).1 hvalue
      simp only [fieldsSize, List.length_append, List.length_cons]
      omega
  | (k, v) :: f :: fs, text, hv, h => by
      simp only [dumpFields, Option.pure_def, Option.bind_eq_bind, Option.bind_eq_some_iff,
        Option.some.injEq] at h
      obtain ⟨value, hvalue, tail, htail, rfl⟩ := h
      have hkey := dumpString_length_le k
      have hfirst := dumpValue_length_le (plainFields_cons.mp hv).1 hvalue
      have hrest := dumpFields_length_le (plainFields_cons.mp hv).2 htail
      rw [fieldsSize]
      simp only [List.length_append, List.length_cons]
      omega
end

theorem itemsSize_le {xs : List Json} {n : ℕ} (h : ∀ x ∈ xs, textSize x ≤ n) :
    itemsSize xs ≤ xs.length * (n + 1) := by
  induction xs with
  | nil => simp [itemsSize]
  | cons x xs ih =>
      obtain ⟨hx, hxs⟩ := List.forall_mem_cons.mp h
      have hrest := ih hxs
      rw [itemsSize, List.length_cons, Nat.add_mul]
      omega

theorem canonicalLine?_length_le {v : Json} {raw : Bytes} (hv : IsPlain v)
    (h : canonicalLine? v = some raw) : raw.length ≤ 4 * textSize v + 1 := by
  simp only [canonicalLine?, dumps, Option.map_map, Option.map_eq_some_iff,
    Function.comp_apply] at h
  obtain ⟨text, htext, rfl⟩ := h
  have hsize := dumpValue_length_le hv htext
  have hbytes := encodeUtf8_length_le text
  have hnewline : (encodeUtf8 "\n").length = 1 := by decide
  rw [encodeUtf8_append, List.length_append, hnewline]
  omega

end Json
end Foundation
