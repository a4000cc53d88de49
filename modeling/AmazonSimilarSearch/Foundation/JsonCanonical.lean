import AmazonSimilarSearch.Foundation.JsonRoundTrip

/-!
# The canonical line of a JSON value

Protocols that bind values by digest encode them as one line of sorted,
compact JSON in UTF-8. A plain value is determined by its line, and every
reader of JSON finds it again there.
-/
namespace Foundation
namespace Json

/-- The value has JSON text. -/
def Encodes (v : Json) : Prop := (dumpValue v).isSome

@[simp] theorem encodes_null : Encodes .null := rfl
@[simp] theorem encodes_bool (b : Bool) : Encodes (.bool b) := by cases b <;> rfl
@[simp] theorem encodes_str (s : String) : Encodes (.str s) := by simp [Encodes, dumpValue]

theorem encodes_int_iff {i : ℤ} : Encodes (.int i) ↔ i.natAbs < 10 ^ maxIntegerDigits := by
  rw [← Nat.length_toDigits_le_iff (by decide) (by decide), Encodes, dumpValue, dumpInt]
  by_cases h : maxIntegerDigits < (Nat.toDigits 10 i.natAbs).length
  · simp [h]
  · simp [h, not_lt.mp h]

theorem encodes_int {i : ℤ} (h : i.natAbs < 10 ^ maxIntegerDigits) : Encodes (.int i) :=
  encodes_int_iff.mpr h

theorem dumpItems_isSome_iff {xs : List Json} :
    (dumpItems xs).isSome ↔ ∀ x ∈ xs, Encodes x := by
  induction xs with
  | nil => simp [dumpItems]
  | cons x xs ih =>
      cases xs with
      | nil => simp [dumpItems, Encodes]
      | cons y ys =>
          rw [dumpItems, List.forall_mem_cons, ← ih]
          unfold Encodes
          cases dumpValue x <;> cases dumpItems (y :: ys) <;> simp

theorem dumpFields_isSome_iff {fs : Fields} :
    (dumpFields fs).isSome ↔ ∀ f ∈ fs, Encodes f.2 := by
  induction fs with
  | nil => simp [dumpFields]
  | cons f fs ih =>
      obtain ⟨k, v⟩ := f
      cases fs with
      | nil =>
          rw [dumpFields, List.forall_mem_cons]
          unfold Encodes
          cases dumpValue v <;> simp
      | cons g gs =>
          rw [dumpFields, List.forall_mem_cons, ← ih]
          unfold Encodes
          cases dumpValue v <;> cases dumpFields (g :: gs) <;> simp

@[simp] theorem encodes_arr {xs : List Json} : Encodes (.arr xs) ↔ ∀ x ∈ xs, Encodes x := by
  rw [Encodes, dumpValue, Option.isSome_map, dumpItems_isSome_iff]

@[simp] theorem encodes_obj {fs : Fields} : Encodes (.obj fs) ↔ ∀ f ∈ fs, Encodes f.2 := by
  rw [Encodes, dumpValue, Option.isSome_map, dumpFields_isSome_iff]

/-- `(json.dumps(value, ...) + "\n").encode("utf-8")`. -/
def canonicalLine? (v : Json) : Option Bytes :=
  (dumps v).map fun text => encodeUtf8 (text ++ "\n")

theorem canonicalLine?_isSome_iff {v : Json} : (canonicalLine? v).isSome ↔ Encodes v := by
  simp [canonicalLine?, dumps, Encodes]

/-- A readable value is found in its line with its keys in order. -/
theorem loads_of_line {v : Json} {raw : Bytes} (h : Hooks) (hv : IsReadable v)
    (hraw : canonicalLine? v = some raw) :
    ∃ text, decodeUtf8 raw = some text ∧ loads h text = .ok (sortKeys v) := by
  simp only [canonicalLine?, Option.map_eq_some_iff] at hraw
  obtain ⟨text, htext, rfl⟩ := hraw
  have hnewline : EndsNumber ['\n'] := endsNumber_cons (by decide)
  have hloads := loads_dumps_sortKeys h htext hv ['\n'] (by decide) hnewline
  exact ⟨text ++ "\n", decodeUtf8_encodeUtf8 _, hloads⟩

theorem loads_of_canonicalLine {v : Json} {raw : Bytes} (h : Hooks) (hv : IsPlain v)
    (hraw : canonicalLine? v = some raw) :
    ∃ text, decodeUtf8 raw = some text ∧ loads h text = .ok v := by
  have hloads := loads_of_line h hv.isReadable hraw
  rwa [hv.sortKeys_eq] at hloads

/-- Two plain values with one line are one value. -/
theorem eq_of_canonicalLine {v w : Json} {raw : Bytes} (hv : IsPlain v) (hw : IsPlain w)
    (hvraw : canonicalLine? v = some raw) (hwraw : canonicalLine? w = some raw) : v = w := by
  obtain ⟨s, hs, hsv⟩ := loads_of_canonicalLine ⟨false, false⟩ hv hvraw
  obtain ⟨t, ht, htw⟩ := loads_of_canonicalLine ⟨false, false⟩ hw hwraw
  cases hs.symm.trans ht
  exact Except.ok.inj (hsv.symm.trans htw)

/-- `json.dumps(value, ...).encode("utf-8")`, the canonical text without a line feed. -/
def compact? (v : Json) : Option Bytes := (dumps v).map encodeUtf8

theorem compact?_isSome_iff {v : Json} : (compact? v).isSome ↔ Encodes v := by
  simp [compact?, dumps, Encodes]

theorem loads_of_compact {v : Json} {raw : Bytes} (h : Hooks) (hv : IsPlain v)
    (hraw : compact? v = some raw) :
    ∃ text, decodeUtf8 raw = some text ∧ loads h text = .ok v := by
  simp only [compact?, Option.map_eq_some_iff] at hraw
  obtain ⟨text, htext, rfl⟩ := hraw
  have hloads := loads_dumps h htext hv [] rfl endsNumber_nil
  rw [String.ofList_nil, String.append_empty] at hloads
  exact ⟨text, decodeUtf8_encodeUtf8 _, hloads⟩

theorem canonicalLine_ne_nil {v : Json} {raw : Bytes} (h : canonicalLine? v = some raw) :
    raw ≠ [] := by
  simp only [canonicalLine?, Option.map_eq_some_iff] at h
  obtain ⟨text, -, rfl⟩ := h
  rw [encodeUtf8_append]
  have hline : encodeUtf8 "\n" ≠ [] := by decide
  simp [hline]

end Json

/-- The canonical line of a value that has one. -/
def lineOf (value : Json) : Bytes := (Json.canonicalLine? value).getD []

theorem canonicalLine?_lineOf {value : Json} (h : value.Encodes) :
    Json.canonicalLine? value = some (lineOf value) := by
  obtain ⟨line, hline⟩ := Option.isSome_iff_exists.mp (Json.canonicalLine?_isSome_iff.mpr h)
  rw [lineOf, hline, Option.getD_some]

namespace Fields

/-- An object with its keys in order is the list of its keys with what they hold. -/
theorem eq_map_get {fs : Fields} (h : fs.keys.Nodup) :
    fs = fs.keys.map fun k => (k, fs.get k) := by
  induction fs with
  | nil => rfl
  | cons f fs ih =>
      obtain ⟨k, v⟩ := f
      obtain ⟨hk, hfs⟩ := List.nodup_cons.mp h
      have hrest : (keys fs).map (fun l => (l, get ((k, v) :: fs) l)) =
          (keys fs).map fun l => (l, get fs l) := by
        refine List.map_congr_left fun l hl => ?_
        rw [get_cons_of_ne (ne_of_mem_of_not_mem hl hk)]
      rw [keys_cons, List.map_cons, get_cons_self, hrest, ← ih hfs]

/-- An object read with exactly the given keys is determined by what they hold. -/
theorem eq_of_hasExactKeys {fs : Fields} {names : List String} (hfs : SortedKeys fs)
    (hnames : names.Pairwise (· < ·)) (h : fs.hasExactKeys names = true) :
    fs = names.map fun k => (k, fs.get k) := by
  have hkeys := keys_eq_of_hasExactKeys hfs hnames h
  conv_lhs => rw [eq_map_get (nodup_keys hfs), hkeys]

theorem hasExactKeys_self (fs : Fields) : fs.hasExactKeys fs.keys = true := by
  simp [hasExactKeys]

end Fields
end Foundation
