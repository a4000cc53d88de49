import AmazonSimilarSearch.Foundation.JsonText

/-!
# Reading back what was encoded

The reader inverts the encoder on values whose objects name no key twice, and
whose floats are read back one by one: it gives the value back with the keys of
every object in order. So a plain value, which has no float and its keys in order,
is read back as it is. What follows the encoded value is arbitrary, except that it
must not continue a number.
-/
namespace Foundation
namespace Json

/-! ## Characters that end or start a token -/

/-- What follows a number is neither a digit nor the start of a fraction or exponent. -/
def EndsNumber (rest : List Char) : Prop :=
  ∀ c cs, rest = c :: cs → c.isDigit = false ∧ c ≠ '.' ∧ c ≠ 'e' ∧ c ≠ 'E'

theorem endsNumber_nil : EndsNumber [] := by
  intro c cs h
  cases h

theorem endsNumber_cons {c : Char} {cs : List Char}
    (h : c.isDigit = false ∧ c ≠ '.' ∧ c ≠ 'e' ∧ c ≠ 'E') : EndsNumber (c :: cs) := by
  intro d ds hd
  cases hd
  exact h

/-- The first character of an encoded value is no white space and closes nothing. -/
def StartsValue (text : List Char) : Prop :=
  ∃ c cs, text = c :: cs ∧ (c == ' ' || c == '\t' || c == '\n' || c == '\r') = false ∧
    c ≠ ']' ∧ c ≠ '\x7d' ∧ c ≠ Char.ofNat 0xFEFF

theorem StartsValue.skipSpace {text : List Char} (h : StartsValue text) (rest : List Char) :
    skipSpace (text ++ rest) = text ++ rest := by
  obtain ⟨c, cs, rfl, hc, -⟩ := h
  rw [Json.skipSpace, List.cons_append, List.dropWhile_cons, if_neg (by simp [hc])]

theorem StartsValue.head_ne {text : List Char} (h : StartsValue text) (rest : List Char) :
    (text ++ rest).head? ≠ some ']' ∧ (text ++ rest).head? ≠ some '\x7d' := by
  obtain ⟨c, cs, rfl, -, h₁, h₂, -⟩ := h
  simp [h₁, h₂]

theorem StartsValue.append {text : List Char} (h : StartsValue text) (rest : List Char) :
    StartsValue (text ++ rest) := by
  obtain ⟨c, cs, rfl, hc⟩ := h
  exact ⟨c, cs ++ rest, rfl, hc⟩

theorem startsValue_of_isDigit {c : Char} (h : c.isDigit = true) (cs : List Char) :
    StartsValue (c :: cs) := by
  refine ⟨c, cs, rfl, ?_, ?_, ?_, ?_⟩
  · simp only [Bool.or_eq_false_iff, beq_eq_false_iff_ne]
    refine ⟨⟨⟨?_, ?_⟩, ?_⟩, ?_⟩ <;> (rintro rfl; revert h; decide)
  all_goals (rintro rfl; revert h; decide)

/-! ## Plain and readable values -/

mutual
/-- No float anywhere, and the keys of every object in order. -/
def IsPlain : Json → Prop
  | .arr xs => PlainItems xs
  | .obj fs => Fields.SortedKeys fs ∧ PlainFields fs
  | .float _ => False
  | _ => True
def PlainItems : List Json → Prop
  | [] => True
  | x :: xs => IsPlain x ∧ PlainItems xs
def PlainFields : Fields → Prop
  | [] => True
  | (_, v) :: fs => IsPlain v ∧ PlainFields fs
end

attribute [grind =] IsPlain PlainItems PlainFields

@[simp] theorem isPlain_null : IsPlain .null := by simp [IsPlain]
@[simp] theorem isPlain_bool (b : Bool) : IsPlain (.bool b) := by simp [IsPlain]
@[simp] theorem isPlain_int (i : ℤ) : IsPlain (.int i) := by simp [IsPlain]
@[simp] theorem isPlain_str (s : String) : IsPlain (.str s) := by simp [IsPlain]
@[simp] theorem not_isPlain_float (f : PyFloat) : ¬ IsPlain (.float f) := by simp [IsPlain]

theorem isPlain_obj {fs : Fields} :
    IsPlain (.obj fs) ↔ Fields.SortedKeys fs ∧ PlainFields fs := by simp [IsPlain]

theorem isPlain_arr {xs : List Json} : IsPlain (.arr xs) ↔ PlainItems xs := by simp [IsPlain]

@[simp] theorem plainFields_nil : PlainFields [] := by simp [PlainFields]
@[simp] theorem plainFields_cons {k : String} {v : Json} {fs : Fields} :
    PlainFields ((k, v) :: fs) ↔ IsPlain v ∧ PlainFields fs := by simp [PlainFields]
@[simp] theorem plainItems_nil : PlainItems [] := by simp [PlainItems]
@[simp] theorem plainItems_cons {x : Json} {xs : List Json} :
    PlainItems (x :: xs) ↔ IsPlain x ∧ PlainItems xs := by simp [PlainItems]

theorem plainItems_iff {xs : List Json} : PlainItems xs ↔ ∀ x ∈ xs, IsPlain x := by
  induction xs with
  | nil => simp
  | cons x xs ih => simp [ih]

/-- The reader finds the float again in its text. -/
def FloatReads (f : PyFloat) : Prop :=
  ∃ c cs, f.repr? = some (c :: cs) ∧ c.isDigit = true ∧ ∀ (h : Hooks) (fuel : ℕ) (rest : List Char),
    EndsNumber rest → parseValue h (fuel + 1) (c :: cs ++ rest) = .ok (.float f, rest)

mutual
/-- Only floats that are read back, and no object with a repeated key. -/
def IsReadable : Json → Prop
  | .arr xs => ReadableItems xs
  | .obj fs => (Fields.keys fs).Nodup ∧ ReadableFields fs
  | .float f => FloatReads f
  | _ => True
def ReadableItems : List Json → Prop
  | [] => True
  | x :: xs => IsReadable x ∧ ReadableItems xs
def ReadableFields : Fields → Prop
  | [] => True
  | (_, v) :: fs => IsReadable v ∧ ReadableFields fs
end

attribute [grind =] IsReadable ReadableItems ReadableFields

theorem isReadable_float {f : PyFloat} : IsReadable (.float f) ↔ FloatReads f := by
  simp [IsReadable]

theorem isReadable_obj {fs : Fields} :
    IsReadable (.obj fs) ↔ (Fields.keys fs).Nodup ∧ ReadableFields fs := by simp [IsReadable]

theorem isReadable_arr {xs : List Json} : IsReadable (.arr xs) ↔ ReadableItems xs := by
  simp [IsReadable]

theorem readableFields_cons {k : String} {v : Json} {fs : Fields} :
    ReadableFields ((k, v) :: fs) ↔ IsReadable v ∧ ReadableFields fs := by simp [ReadableFields]

theorem readableItems_cons {x : Json} {xs : List Json} :
    ReadableItems (x :: xs) ↔ IsReadable x ∧ ReadableItems xs := by simp [ReadableItems]

mutual
/-- The value with the keys of every object in order. -/
def sortKeys : Json → Json
  | .arr xs => .arr (sortItems xs)
  | .obj fs => .obj (Fields.ofPairs (sortFields fs))
  | v => v
def sortItems : List Json → List Json
  | [] => []
  | x :: xs => sortKeys x :: sortItems xs
def sortFields : Fields → Fields
  | [] => []
  | (k, v) :: fs => (k, sortKeys v) :: sortFields fs
end

attribute [grind =] sortKeys sortItems sortFields

@[simp] theorem sortKeys_null : sortKeys .null = .null := by simp [sortKeys]
@[simp] theorem sortKeys_bool (b : Bool) : sortKeys (.bool b) = .bool b := by simp [sortKeys]
@[simp] theorem sortKeys_int (i : ℤ) : sortKeys (.int i) = .int i := by simp [sortKeys]
@[simp] theorem sortKeys_float (f : PyFloat) : sortKeys (.float f) = .float f := by simp [sortKeys]
@[simp] theorem sortKeys_str (s : String) : sortKeys (.str s) = .str s := by simp [sortKeys]
@[simp] theorem sortItems_nil : sortItems [] = [] := rfl
@[simp] theorem sortFields_nil : sortFields [] = [] := rfl
@[simp] theorem sortItems_cons (x : Json) (xs : List Json) :
    sortItems (x :: xs) = sortKeys x :: sortItems xs := rfl
@[simp] theorem sortFields_cons (k : String) (v : Json) (fs : Fields) :
    sortFields ((k, v) :: fs) = (k, sortKeys v) :: sortFields fs := rfl

theorem sortKeys_arr (xs : List Json) : sortKeys (.arr xs) = .arr (sortItems xs) := by
  simp [sortKeys]

theorem sortKeys_obj (fs : Fields) :
    sortKeys (.obj fs) = .obj (Fields.ofPairs (sortFields fs)) := by
  simp [sortKeys]

@[simp] theorem keys_sortFields (fs : Fields) :
    Fields.keys (sortFields fs) = Fields.keys fs := by
  induction fs with
  | nil => rfl
  | cons f fs ih => rw [sortFields, Fields.keys_cons, Fields.keys_cons, ih]

mutual
theorem IsPlain.isReadable : ∀ {v : Json}, IsPlain v → IsReadable v
  | .null, _ | .bool _, _ | .int _, _ | .str _, _ => by simp [IsReadable]
  | .float f, h => absurd h (not_isPlain_float f)
  | .arr _, h => isReadable_arr.mpr (PlainItems.readable (isPlain_arr.mp h))
  | .obj _, h =>
      isReadable_obj.mpr ⟨Fields.nodup_keys (isPlain_obj.mp h).1,
        PlainFields.readable (isPlain_obj.mp h).2⟩
theorem PlainItems.readable : ∀ {xs : List Json}, PlainItems xs → ReadableItems xs
  | [], _ => by simp [ReadableItems]
  | _ :: _, h =>
      readableItems_cons.mpr ⟨(plainItems_cons.mp h).1.isReadable,
        PlainItems.readable (plainItems_cons.mp h).2⟩
theorem PlainFields.readable : ∀ {fs : Fields}, PlainFields fs → ReadableFields fs
  | [], _ => by simp [ReadableFields]
  | (_, _) :: _, h =>
      readableFields_cons.mpr ⟨(plainFields_cons.mp h).1.isReadable,
        PlainFields.readable (plainFields_cons.mp h).2⟩
end

mutual
theorem IsPlain.sortKeys_eq : ∀ {v : Json}, IsPlain v → sortKeys v = v
  | .null, _ | .bool _, _ | .int _, _ | .str _, _ => by simp
  | .float f, h => absurd h (not_isPlain_float f)
  | .arr _, h => by rw [sortKeys, PlainItems.sortItems_eq (isPlain_arr.mp h)]
  | .obj _, h => by
      rw [sortKeys, PlainFields.sortFields_eq (isPlain_obj.mp h).2,
        Fields.ofPairs_sorted (isPlain_obj.mp h).1]
theorem PlainItems.sortItems_eq : ∀ {xs : List Json}, PlainItems xs → sortItems xs = xs
  | [], _ => rfl
  | _ :: _, h => by
      rw [sortItems, (plainItems_cons.mp h).1.sortKeys_eq,
        PlainItems.sortItems_eq (plainItems_cons.mp h).2]
theorem PlainFields.sortFields_eq : ∀ {fs : Fields}, PlainFields fs → sortFields fs = fs
  | [], _ => rfl
  | (_, _) :: _, h => by
      rw [sortFields, (plainFields_cons.mp h).1.sortKeys_eq,
        PlainFields.sortFields_eq (plainFields_cons.mp h).2]
end

/-! ## Strings -/

theorem hexUnit_lowerHexDigit {n : ℕ} (h : n < 32) :
    hexUnit? '0' '0' (lowerHexDigit (n / 16)) (lowerHexDigit (n % 16)) = some n := by
  revert n
  decide

theorem parseString_cons_plain {c : Char} (hq : c ≠ '"') (hb : c ≠ '\\')
    (hc : ¬ c.toNat < 32) (cs : List Char) :
    parseString (c :: cs) = consChar c (parseString cs) := by
  rw [parseString.eq_def]
  simp only [hq, hb, hc, if_false]

theorem parseString_escapeChar (c : Char) (rest : List Char) :
    parseString (escapeChar c ++ rest) = consChar c (parseString rest) := by
  unfold escapeChar
  split_ifs with h₁ h₂ h₃ h₄ h₅ h₆ h₇ h₈
  any_goals
    subst c
    rw [List.cons_append, List.singleton_append, parseString.eq_def]
    simp [simpleEscape?]
  · have hu := hexUnit_lowerHexDigit h₈
    have hlow : ¬ (0xD800 ≤ c.toNat ∧ c.toNat < 0xDC00) := by omega
    have hlow' : ¬ (0xDC00 ≤ c.toNat ∧ c.toNat < 0xE000) := by omega
    simp only [List.cons_append, List.nil_append]
    rw [parseString.eq_def]
    simp [hu, hlow, hlow', Char.ofNat_toNat]
  · exact parseString_cons_plain h₁ h₂ h₈ rest

theorem parseString_flatMap (cs rest : List Char) :
    parseString (cs.flatMap escapeChar ++ '"' :: rest) = .ok (cs, rest) := by
  induction cs with
  | nil =>
      rw [List.flatMap_nil, List.nil_append, parseString.eq_def]
      simp
  | cons c cs ih =>
      rw [List.flatMap_cons, List.append_assoc, parseString_escapeChar, ih]
      rfl

/-- The reader returns a string and stops after its closing quote. -/
theorem parseString_dumpString (s : String) (rest : List Char) :
    ∃ body, dumpString s ++ rest = '"' :: body ∧ parseString body = .ok (s.toList, rest) := by
  refine ⟨s.toList.flatMap escapeChar ++ '"' :: rest, ?_, parseString_flatMap _ _⟩
  simp [dumpString]

/-! ## Numbers -/

theorem isDigit_toDigits {n : ℕ} {c : Char} (h : c ∈ Nat.toDigits 10 n) : c.isDigit = true :=
  Nat.isDigit_of_mem_toDigits (by decide) (by decide) h

theorem takeWhile_digits {ds rest : List Char} (hd : ∀ c ∈ ds, c.isDigit = true)
    (hr : EndsNumber rest) :
    (ds ++ rest).takeWhile Char.isDigit = ds ∧ (ds ++ rest).dropWhile Char.isDigit = rest := by
  rw [List.takeWhile_append_of_pos hd, List.dropWhile_append_of_pos hd]
  cases rest with
  | nil => simp
  | cons c cs => simp [(hr c cs rfl).1]

theorem toDigits_head_zero {n : ℕ} {cs : List Char} (h : Nat.toDigits 10 n = '0' :: cs) :
    cs = [] := by
  induction n using Nat.strong_induction_on generalizing cs with
  | _ n ih =>
      rw [Nat.toDigits_eq_if (by decide)] at h
      split at h
      · exact ((List.cons.injEq _ _ _ _).mp h).2.symm
      · next hn =>
        obtain ⟨d, ds, hds⟩ := List.exists_cons_of_ne_nil (Nat.toDigits_ne_nil (n := n / 10) (b := 10))
        rw [hds, List.cons_append, List.cons.injEq] at h
        obtain ⟨rfl, hcs⟩ := h
        have hnil := ih (n / 10) (by omega) hds
        subst hnil
        have hvalue := Nat.ofDigitChars_ten_toDigits (n := n / 10)
        rw [hds] at hvalue
        have hzero : Nat.ofDigitChars 10 ['0'] 0 = 0 := by decide
        omega

theorem wholePart_toDigits (n : ℕ) {rest : List Char} (hr : EndsNumber rest) :
    wholePart (Nat.toDigits 10 n ++ rest) = (Nat.toDigits 10 n, rest) := by
  have h := takeWhile_digits (fun _ hc => isDigit_toDigits (n := n) hc) hr
  unfold wholePart
  split_ifs with hz
  · cases hd : Nat.toDigits 10 n with
    | nil => exact absurd hd Nat.toDigits_ne_nil
    | cons c cs =>
        rw [hd] at hz
        simp only [List.cons_append, List.head?_cons, Option.some.injEq] at hz
        subst hz
        rw [toDigits_head_zero hd]
        simp
  · rw [h.1, h.2]

theorem fractionPart_of_endsNumber {rest : List Char} (hr : EndsNumber rest) :
    fractionPart rest = ([], rest) := by
  unfold fractionPart
  split
  · next cs => exact absurd rfl (hr '.' cs rfl).2.1
  · rfl

theorem exponentPart_of_endsNumber {rest : List Char} (hr : EndsNumber rest) :
    exponentPart rest = (none, rest) := by
  cases rest with
  | nil => rfl
  | cons c cs =>
      have h := hr c cs rfl
      simp [exponentPart, h.2.2.1, h.2.2.2]

theorem parseNumber_toDigits (negative : Bool) {n : ℕ} {rest : List Char}
    (hn : (Nat.toDigits 10 n).length ≤ maxIntegerDigits) (hr : EndsNumber rest) :
    parseNumber negative (Nat.toDigits 10 n ++ rest) =
      .ok (.int (if negative then -(n : ℤ) else n), rest) := by
  simp only [parseNumber, wholePart_toDigits n hr, fractionPart_of_endsNumber hr,
    exponentPart_of_endsNumber hr, Nat.toDigits_ne_nil, if_false, true_and, if_true,
    not_lt.mpr hn, Nat.ofDigitChars_ten_toDigits]

/-- A value that starts with a digit is a number. -/
theorem parseValue_of_isDigit (h : Hooks) (fuel : ℕ) {c : Char} (hc : c.isDigit = true)
    (cs : List Char) : parseValue h (fuel + 1) (c :: cs) = parseNumber false (c :: cs) := by
  have hne : ∀ d : Char, d.isDigit = false → c ≠ d := by
    rintro d hd rfl
    rw [hc] at hd
    cases hd
  rw [parseValue, if_neg (hne _ (by decide)), if_neg (hne _ (by decide)),
    if_neg (hne _ (by decide)), if_neg (hne _ (by decide)), if_neg (hne _ (by decide)),
    if_neg (hne _ (by decide)), if_neg (hne _ (by decide)), if_neg (hne _ (by decide)),
    if_neg (hne _ (by decide))]

theorem dumpInt_eq_some {i : ℤ} {text : List Char} (h : dumpInt i = some text) :
    (Nat.toDigits 10 i.natAbs).length ≤ maxIntegerDigits ∧
      text = if i < 0 then '-' :: Nat.toDigits 10 i.natAbs else Nat.toDigits 10 i.natAbs := by
  by_cases hlong : maxIntegerDigits < (Nat.toDigits 10 i.natAbs).length
  · simp [dumpInt, hlong] at h
  · simp only [dumpInt, hlong, if_false, Option.some.injEq] at h
    exact ⟨not_lt.mp hlong, h.symm⟩

theorem startsValue_dumpInt {i : ℤ} {text : List Char} (h : dumpInt i = some text) :
    StartsValue text := by
  obtain ⟨-, rfl⟩ := dumpInt_eq_some h
  split_ifs
  · exact ⟨'-', _, rfl, by decide, by decide, by decide, by decide⟩
  · obtain ⟨c, cs, hcs⟩ := List.exists_cons_of_ne_nil (Nat.toDigits_ne_nil (n := i.natAbs) (b := 10))
    rw [hcs]
    exact startsValue_of_isDigit (isDigit_toDigits (n := i.natAbs) (by simp [hcs])) cs

theorem parseValue_dumpInt (h : Hooks) (fuel : ℕ) {i : ℤ} {text rest : List Char}
    (ht : dumpInt i = some text) (hr : EndsNumber rest) :
    parseValue h (fuel + 1) (text ++ rest) = .ok (.int i, rest) := by
  obtain ⟨hlength, rfl⟩ := dumpInt_eq_some ht
  obtain ⟨c, cs, hcs⟩ := List.exists_cons_of_ne_nil (Nat.toDigits_ne_nil (n := i.natAbs) (b := 10))
  have hc : c.isDigit = true := isDigit_toDigits (n := i.natAbs) (by simp [hcs])
  split_ifs with hi
  · have hminus : ¬ ((Nat.toDigits 10 i.natAbs ++ rest).head? = some 'I') := by
      rw [hcs]
      simp only [List.cons_append, List.head?_cons, Option.some.injEq]
      rintro rfl
      revert hc
      decide
    rw [List.cons_append, parseValue]
    simp only [Char.reduceEq, if_false, if_true, hminus, parseNumber_toDigits true hlength hr]
    congr
    omega
  · rw [hcs, List.cons_append, parseValue_of_isDigit h fuel hc, ← List.cons_append, ← hcs,
      parseNumber_toDigits false hlength hr]
    simp only [Bool.false_eq_true, if_false]
    congr
    omega

/-! ## Values -/

theorem startsValue_dumpString (s : String) : StartsValue (dumpString s) :=
  ⟨'"', _, rfl, by decide, by decide, by decide, by decide⟩

theorem startsValue_dumpValue {v : Json} (hv : IsReadable v) {text : List Char}
    (h : dumpValue v = some text) : StartsValue text := by
  cases v with
  | null => cases h; exact ⟨'n', _, rfl, by decide, by decide, by decide, by decide⟩
  | bool b =>
      cases b <;> cases h
      · exact ⟨'f', _, rfl, by decide, by decide, by decide, by decide⟩
      · exact ⟨'t', _, rfl, by decide, by decide, by decide, by decide⟩
  | int i => exact startsValue_dumpInt (by simpa [dumpValue] using h)
  | float f =>
      obtain ⟨c, cs, hrepr, hdigit, -⟩ := isReadable_float.mp hv
      rw [dumpValue, hrepr, Option.some.injEq] at h
      exact h ▸ startsValue_of_isDigit hdigit cs
  | str s =>
      simp only [dumpValue, Option.some.injEq] at h
      exact h ▸ startsValue_dumpString s
  | arr xs =>
      simp only [dumpValue, Option.map_eq_some_iff] at h
      obtain ⟨body, -, rfl⟩ := h
      exact ⟨'[', _, rfl, by decide, by decide, by decide, by decide⟩
  | obj fs =>
      simp only [dumpValue, Option.map_eq_some_iff] at h
      obtain ⟨body, -, rfl⟩ := h
      exact ⟨'\x7b', _, rfl, by decide, by decide, by decide, by decide⟩

theorem startsValue_dumpItems {x : Json} {xs : List Json} (hx : IsReadable x) {text : List Char}
    (h : dumpItems (x :: xs) = some text) : StartsValue text := by
  cases xs with
  | nil => exact startsValue_dumpValue hx (by simpa [dumpItems] using h)
  | cons y ys =>
      simp only [dumpItems, Option.pure_def, Option.bind_eq_bind, Option.bind_eq_some_iff,
        Option.some.injEq] at h
      obtain ⟨head, hhead, tail, -, rfl⟩ := h
      exact (startsValue_dumpValue hx hhead).append _

theorem startsValue_dumpFields {k : String} {v : Json} {fs : Fields} {text : List Char}
    (h : dumpFields ((k, v) :: fs) = some text) : StartsValue text := by
  cases fs with
  | nil =>
      simp only [dumpFields, Option.pure_def, Option.bind_eq_bind, Option.bind_eq_some_iff,
        Option.some.injEq] at h
      obtain ⟨value, -, rfl⟩ := h
      exact (startsValue_dumpString k).append _
  | cons f fs =>
      simp only [dumpFields, Option.pure_def, Option.bind_eq_bind, Option.bind_eq_some_iff,
        Option.some.injEq] at h
      obtain ⟨value, -, tail, -, rfl⟩ := h
      exact (startsValue_dumpString k).append _

theorem parseLiteral_append (tail : List Char) (v : Json) (rest : List Char) :
    parseLiteral tail (.ok v) (tail ++ rest) = .ok (v, rest) := by
  have hp : tail.isPrefixOf (tail ++ rest) = true := by
    rw [List.isPrefixOf_iff_prefix]
    exact List.prefix_append tail rest
  simp [parseLiteral, hp, Except.map]

theorem pairsValue_nodup (h : Hooks) {fs : Fields} (hfs : (Fields.keys fs).Nodup) :
    pairsValue h fs = .ok (.obj (Fields.ofPairs fs)) := by
  have hnodup : (fs.map Prod.fst).Nodup := hfs
  simp [pairsValue, hnodup]

theorem skipSpace_cons {c : Char} (hc : (c == ' ' || c == '\t' || c == '\n' || c == '\r') = false)
    (cs : List Char) : skipSpace (c :: cs) = c :: cs := by
  rw [skipSpace, List.dropWhile_cons, if_neg (by simp [hc])]

theorem endsNumber_comma (cs : List Char) : EndsNumber (',' :: cs) := endsNumber_cons (by decide)
theorem endsNumber_bracket (cs : List Char) : EndsNumber (']' :: cs) := endsNumber_cons (by decide)
theorem endsNumber_brace (cs : List Char) : EndsNumber ('\x7d' :: cs) := endsNumber_cons (by decide)

mutual
/-- The reader inverts the encoder, up to the order of keys. -/
theorem parseValue_dumpValue (h : Hooks) : ∀ (v : Json) (text rest : List Char) (fuel : ℕ),
    dumpValue v = some text → IsReadable v → EndsNumber rest → 2 * text.length ≤ fuel →
    parseValue h (fuel + 1) (text ++ rest) = .ok (sortKeys v, rest)
  | .null, text, rest, fuel, ht, _, _, _ => by
      cases ht
      rw [sortKeys_null]
      simpa [parseValue] using parseLiteral_append ['u', 'l', 'l'] .null rest
  | .bool true, text, rest, fuel, ht, _, _, _ => by
      cases ht
      rw [sortKeys_bool]
      simpa [parseValue] using parseLiteral_append ['r', 'u', 'e'] (.bool true) rest
  | .bool false, text, rest, fuel, ht, _, _, _ => by
      cases ht
      rw [sortKeys_bool]
      simpa [parseValue] using parseLiteral_append ['a', 'l', 's', 'e'] (.bool false) rest
  | .int i, text, rest, fuel, ht, _, hr, _ => by
      rw [sortKeys_int]
      exact parseValue_dumpInt h fuel (by simpa [dumpValue] using ht) hr
  | .float f, text, rest, fuel, ht, hv, hr, _ => by
      obtain ⟨c, cs, hrepr, -, hreads⟩ := isReadable_float.mp hv
      rw [dumpValue, hrepr, Option.some.injEq] at ht
      rw [sortKeys_float, ← ht]
      exact hreads h fuel rest hr
  | .str s, text, rest, fuel, ht, _, _, _ => by
      simp only [dumpValue, Option.some.injEq] at ht
      subst ht
      obtain ⟨body, hbody, hparse⟩ := parseString_dumpString s rest
      rw [hbody, parseValue, if_pos rfl, hparse]
      simp [Except.map]
  | .arr [], text, rest, fuel, ht, _, _, _ => by
      cases ht
      simp [parseValue, skipSpace, sortKeys_arr]
  | .arr (x :: xs), text, rest, fuel, ht, hv, _, hf => by
      simp only [dumpValue, Option.map_eq_some_iff] at ht
      obtain ⟨body, hbody, rfl⟩ := ht
      have hplain := isReadable_arr.mp hv
      have hstart := startsValue_dumpItems (readableItems_cons.mp hplain).1 hbody
      have hskip := hstart.skipSpace (']' :: rest)
      have hhead := (hstart.head_ne (']' :: rest)).1
      obtain ⟨fuel, rfl⟩ : ∃ n, fuel = n + 1 := ⟨fuel - 1, by simp at hf; omega⟩
      have hitems := parseItems_dumpItems h x xs body rest fuel hbody hplain
        (by simp at hf; omega)
      have htext : '[' :: (body ++ [']']) ++ rest = '[' :: (body ++ ']' :: rest) := by simp
      rw [htext, parseValue]
      simp only [Char.reduceEq, if_false, if_true, hskip, hhead, hitems]
      rfl
  | .obj [], text, rest, fuel, ht, _, _, _ => by
      cases ht
      simp [parseValue, skipSpace, pairsValue, Fields.ofPairs, Except.map, sortKeys_obj]
  | .obj ((k, v) :: fs), text, rest, fuel, ht, hv, _, hf => by
      simp only [dumpValue, Option.map_eq_some_iff] at ht
      obtain ⟨body, hbody, rfl⟩ := ht
      have hplain := isReadable_obj.mp hv
      have hstart := startsValue_dumpFields hbody
      have hskip := hstart.skipSpace ('\x7d' :: rest)
      have hhead := (hstart.head_ne ('\x7d' :: rest)).2
      obtain ⟨fuel, rfl⟩ : ∃ n, fuel = n + 1 := ⟨fuel - 1, by simp at hf; omega⟩
      have hmembers := parseMembers_dumpFields h k v fs [] body rest fuel hbody hplain.2
        (by simpa using hplain.1) (by simp at hf; omega)
      have htext : '\x7b' :: (body ++ ['\x7d']) ++ rest = '\x7b' :: (body ++ '\x7d' :: rest) := by
        simp
      rw [htext, parseValue]
      simp only [Char.reduceEq, if_false, if_true, hskip, hhead, hmembers]
      rfl
termination_by v => sizeOf v
theorem parseItems_dumpItems (h : Hooks) : ∀ (x : Json) (xs : List Json) (text rest : List Char)
    (fuel : ℕ), dumpItems (x :: xs) = some text → ReadableItems (x :: xs) → 2 * text.length < fuel →
    parseItems h (fuel + 1) (text ++ ']' :: rest) = .ok (sortItems (x :: xs), rest)
  | x, [], text, rest, fuel, ht, hv, hf => by
      have hx := parseValue_dumpValue h x text (']' :: rest)
      have htext : dumpValue x = some text := by simpa [dumpItems] using ht
      obtain ⟨c, cs, rfl, -⟩ := startsValue_dumpValue (readableItems_cons.mp hv).1 htext
      obtain ⟨fuel, rfl⟩ : ∃ n, fuel = n + 1 := ⟨fuel - 1, by simp at hf; omega⟩
      have hvalue := hx fuel htext (readableItems_cons.mp hv).1 (endsNumber_bracket rest) (by omega)
      rw [parseItems, hvalue]
      simp [bind, Except.bind, skipSpace, pure, Except.pure]
  | x, y :: ys, text, rest, fuel, ht, hv, hf => by
      simp only [dumpItems, Option.pure_def, Option.bind_eq_bind, Option.bind_eq_some_iff,
        Option.some.injEq] at ht
      obtain ⟨head, hhead, tail, htail, rfl⟩ := ht
      have hplain := readableItems_cons.mp hv
      have hstart := startsValue_dumpItems (readableItems_cons.mp hplain.2).1 htail
      obtain ⟨fuel, rfl⟩ : ∃ n, fuel = n + 1 := ⟨fuel - 1, by simp at hf; omega⟩
      have hvalue := parseValue_dumpValue h x head (',' :: (tail ++ ']' :: rest)) fuel hhead
        hplain.1 (endsNumber_comma _) (by simp at hf; omega)
      have hitems := parseItems_dumpItems h y ys tail rest fuel htail hplain.2 (by simp at hf; omega)
      have htext : head ++ ',' :: tail ++ ']' :: rest = head ++ ',' :: (tail ++ ']' :: rest) := by
        simp
      rw [htext, parseItems, hvalue]
      simp only [bind, Except.bind, skipSpace_cons (show (',' == ' ' || ',' == '\t' || ',' == '\n' ||
        ',' == '\r') = false by decide), hstart.skipSpace, hitems]
      rfl
termination_by x xs => sizeOf (x :: xs)
theorem parseMembers_dumpFields (h : Hooks) : ∀ (k : String) (v : Json) (fs : Fields)
    (pairs : List (String × Json)) (text rest : List Char) (fuel : ℕ),
    dumpFields ((k, v) :: fs) = some text → ReadableFields ((k, v) :: fs) →
    (Fields.keys pairs.reverse ++ Fields.keys ((k, v) :: fs)).Nodup → 2 * text.length < fuel →
    parseMembers h (fuel + 1) pairs (text ++ '\x7d' :: rest) =
      .ok (.obj (Fields.ofPairs (pairs.reverse ++ sortFields ((k, v) :: fs))), rest)
  | k, v, [], pairs, text, rest, fuel, ht, hv, hs, hf => by
      simp only [dumpFields, Option.pure_def, Option.bind_eq_bind, Option.bind_eq_some_iff,
        Option.some.injEq] at ht
      obtain ⟨value, hvalue, rfl⟩ := ht
      have hplain := (readableFields_cons.mp hv).1
      obtain ⟨body, hbody, hkey⟩ := parseString_dumpString k (':' :: (value ++ '\x7d' :: rest))
      have hstart := startsValue_dumpValue hplain hvalue
      obtain ⟨fuel, rfl⟩ : ∃ n, fuel = n + 1 := ⟨fuel - 1, by simp at hf; omega⟩
      have hparse := parseValue_dumpValue h v value ('\x7d' :: rest) fuel hvalue hplain
        (endsNumber_brace rest) (by simp at hf; omega)
      have htext : dumpString k ++ ':' :: value ++ '\x7d' :: rest = '"' :: body := by
        rw [← hbody]
        simp
      have hpairs : pairsValue h (pairs.reverse ++ [(k, sortKeys v)]) =
          .ok (.obj (Fields.ofPairs (pairs.reverse ++ [(k, sortKeys v)]))) :=
        pairsValue_nodup h (by simpa [Fields.keys] using hs)
      rw [htext, parseMembers]
      simp only [hkey, bind, Except.bind, skipSpace_cons (show (':' == ' ' || ':' == '\t' ||
        ':' == '\n' || ':' == '\r') = false by decide), hstart.skipSpace, hparse,
        skipSpace_cons (show ('\x7d' == ' ' || '\x7d' == '\t' || '\x7d' == '\n' ||
        '\x7d' == '\r') = false by decide), String.ofList_toList, List.reverse_cons, hpairs]
      rfl
  | k, v, (l, w) :: fs, pairs, text, rest, fuel, ht, hv, hs, hf => by
      simp only [dumpFields, Option.pure_def, Option.bind_eq_bind, Option.bind_eq_some_iff,
        Option.some.injEq] at ht
      obtain ⟨value, hvalue, tail, htail, rfl⟩ := ht
      have hplain := readableFields_cons.mp hv
      have hstart := startsValue_dumpValue hplain.1 hvalue
      have hstart' := startsValue_dumpFields htail
      obtain ⟨body, hbody, hkey⟩ :=
        parseString_dumpString k (':' :: (value ++ ',' :: (tail ++ '\x7d' :: rest)))
      obtain ⟨fuel, rfl⟩ : ∃ n, fuel = n + 1 := ⟨fuel - 1, by simp at hf; omega⟩
      have hparse := parseValue_dumpValue h v value (',' :: (tail ++ '\x7d' :: rest)) fuel hvalue
        hplain.1 (endsNumber_comma _) (by simp at hf; omega)
      have hmembers := parseMembers_dumpFields h l w fs ((k, sortKeys v) :: pairs) tail rest fuel
        htail hplain.2 (by simpa [Fields.keys] using hs) (by simp at hf; omega)
      have htext : dumpString k ++ ':' :: (value ++ ',' :: tail) ++ '\x7d' :: rest = '"' :: body := by
        rw [← hbody]
        simp
      rw [htext, parseMembers]
      simp only [hkey, bind, Except.bind, skipSpace_cons (show (':' == ' ' || ':' == '\t' ||
        ':' == '\n' || ':' == '\r') = false by decide), hstart.skipSpace, hparse,
        skipSpace_cons (show (',' == ' ' || ',' == '\t' || ',' == '\n' || ',' == '\r') = false by
        decide), hstart'.skipSpace, String.ofList_toList, hmembers]
      simp
termination_by k v fs => sizeOf ((k, v) :: fs)
end

/-- `json.loads(json.dumps(v))` is `v` with its keys in order, white space after the text
included. -/
theorem loads_dumps_sortKeys {v : Json} {text : String} (h : Hooks) (ht : dumps v = some text)
    (hv : IsReadable v) (space : List Char) (hspace : skipSpace space = [])
    (hend : EndsNumber space) : loads h (text ++ String.ofList space) = .ok (sortKeys v) := by
  simp only [dumps, Option.map_eq_some_iff] at ht
  obtain ⟨cs, hcs, rfl⟩ := ht
  have hstart := startsValue_dumpValue hv hcs
  obtain ⟨c, ds, rfl, -, -, -, hmark⟩ := hstart
  have hbom : ¬ ((c :: ds) ++ space).head? = some (Char.ofNat 0xFEFF) := by
    simpa using hmark
  have hparse := parseValue_dumpValue h v (c :: ds) space (2 * ((c :: ds) ++ space).length) hcs hv hend
    (by rw [List.length_append]; omega)
  simp only [loads, String.toList_append, String.toList_ofList, hbom, if_false,
    (startsValue_dumpValue hv hcs).skipSpace, hparse, bind, Except.bind, hspace, if_true, pure,
    Except.pure]

/-- `json.loads(json.dumps(v))` is `v` for a plain value. -/
theorem loads_dumps {v : Json} {text : String} (h : Hooks) (ht : dumps v = some text)
    (hv : IsPlain v) (space : List Char) (hspace : skipSpace space = [])
    (hend : EndsNumber space) : loads h (text ++ String.ofList space) = .ok v := by
  rw [loads_dumps_sortKeys h ht hv.isReadable space hspace hend, hv.sortKeys_eq]

end Json
end Foundation
