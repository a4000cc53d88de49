import AmazonSimilarSearch.Foundation.Base64
import AmazonSimilarSearch.Foundation.JsonCanonical

/-!
# The exact length of the text of a value

The bytes of an encoded value, counted without building it: an object is its
braces, its commas and, for each field, a key, a colon and a value. A string of
printable ASCII characters that need no escape takes its own length and two quotes.
-/
namespace Foundation

/-- The bytes that characters take in UTF-8. -/
def byteLength (cs : List Char) : ℕ := (encodeUtf8 (String.ofList cs)).length

@[simp] theorem byteLength_nil : byteLength [] = 0 := by rw [byteLength, encodeUtf8_nil]; rfl

@[simp] theorem byteLength_append (cs ds : List Char) :
    byteLength (cs ++ ds) = byteLength cs + byteLength ds := by
  rw [byteLength, encodeUtf8_ofList_append, List.length_append, byteLength, byteLength]

theorem byteLength_cons_ascii {c : Char} (h : c.toNat < 128) (cs : List Char) :
    byteLength (c :: cs) = byteLength cs + 1 := by
  have hsize : c.utf8Size = 1 := by
    have hval : c.val ≤ 127 := Nat.le_of_lt_succ h
    exact if_pos hval
  rw [byteLength, encodeUtf8_ofList_cons, List.length_append, String.length_utf8EncodeChar, hsize,
    byteLength, Nat.add_comm]

theorem byteLength_ascii {cs : List Char} (h : ∀ c ∈ cs, c.toNat < 128) :
    byteLength cs = cs.length := by
  induction cs with
  | nil => rw [byteLength_nil]; rfl
  | cons c cs ih =>
      obtain ⟨hc, hcs⟩ := List.forall_mem_cons.mp h
      rw [byteLength_cons_ascii hc, ih hcs, List.length_cons]

namespace Json

/-! ## Strings -/

/-- A printable ASCII character that is written as it is. -/
def isVerbatim (c : Char) : Bool :=
  decide (32 ≤ c.toNat) && decide (c.toNat < 128) && c != '"' && c != '\\'

theorem isVerbatim_iff {c : Char} :
    isVerbatim c = true ↔ ((32 ≤ c.toNat ∧ c.toNat < 128) ∧ c ≠ '"') ∧ c ≠ '\\' := by
  simp only [isVerbatim, Bool.and_eq_true, decide_eq_true_eq, bne_iff_ne]

theorem escapeChar_of_isVerbatim {c : Char} (h : isVerbatim c = true) : escapeChar c = [c] := by
  obtain ⟨⟨⟨hlow, -⟩, hquote⟩, hslash⟩ := isVerbatim_iff.mp h
  have hne : ∀ d : Char, d.toNat < 32 → c ≠ d := by
    rintro d hd rfl
    omega
  rw [escapeChar, if_neg hquote, if_neg hslash, if_neg (hne _ (by decide)),
    if_neg (hne _ (by decide)), if_neg (hne _ (by decide)), if_neg (hne _ (by decide)),
    if_neg (hne _ (by decide)), if_neg (by omega)]

/-- The bytes of a JSON string, its quotes included. -/
def stringLength (s : String) : ℕ := byteLength (dumpString s)

theorem dumpString_of_isVerbatim {s : String} (h : s.toList.all isVerbatim = true) :
    dumpString s = '"' :: (s.toList ++ ['"']) := by
  have hbody : ∀ cs : List Char, cs.all isVerbatim = true → cs.flatMap escapeChar = cs := by
    intro cs
    induction cs with
    | nil => simp
    | cons c cs ih =>
        intro hcs
        rw [List.all_cons, Bool.and_eq_true] at hcs
        rw [List.flatMap_cons, escapeChar_of_isVerbatim hcs.1, ih hcs.2]
        rfl
  rw [dumpString, hbody _ h]

theorem stringLength_of_isVerbatim {s : String} (h : s.toList.all isVerbatim = true) :
    stringLength s = s.toList.length + 2 := by
  have hascii : ∀ c ∈ '"' :: (s.toList ++ ['"']), c.toNat < 128 := by
    intro c hc
    rw [List.mem_cons, List.mem_append, List.mem_singleton] at hc
    rcases hc with rfl | hc | rfl
    · decide
    · exact (isVerbatim_iff.mp (List.all_eq_true.mp h c hc)).1.1.2
    · decide
  rw [stringLength, dumpString_of_isVerbatim h, byteLength_ascii hascii]
  simp

/-! ## Values -/

/-- The bytes of a value's text. -/
def textLength (v : Json) : ℕ := byteLength ((dumpValue v).getD [])

@[simp] theorem textLength_null : textLength .null = 4 := by
  rw [textLength, dumpValue, Option.getD_some, byteLength_cons_ascii (by decide),
    byteLength_cons_ascii (by decide), byteLength_cons_ascii (by decide),
    byteLength_cons_ascii (by decide), byteLength_nil]

@[simp] theorem textLength_str (s : String) : textLength (.str s) = stringLength s := by
  rw [textLength, dumpValue, Option.getD_some, stringLength]

theorem byteLength_dumpItems {xs : List Json} {text : List Char} (h : dumpItems xs = some text) :
    byteLength text = (xs.map textLength).sum + (xs.length - 1) := by
  induction xs generalizing text with
  | nil =>
      cases h
      simp
  | cons x xs ih =>
      cases xs with
      | nil =>
          rw [dumpItems] at h
          simp [textLength, h]
      | cons y ys =>
          simp only [dumpItems, Option.pure_def, Option.bind_eq_bind, Option.bind_eq_some_iff,
            Option.some.injEq] at h
          obtain ⟨head, hhead, tail, htail, rfl⟩ := h
          have hrest := ih htail
          have hx : textLength x = byteLength head := by rw [textLength, hhead, Option.getD_some]
          rw [byteLength_append, byteLength_cons_ascii (by decide), hrest, List.map_cons (a := x),
            List.sum_cons, hx]
          simp only [List.length_cons]
          omega

/-- The bytes of a field: its key, a colon and its value. -/
def fieldLength (f : String × Json) : ℕ := stringLength f.1 + 1 + textLength f.2

theorem byteLength_field {k : String} {v : Json} {value : List Char}
    (h : dumpValue v = some value) :
    byteLength (dumpString k ++ ':' :: value) = fieldLength (k, v) := by
  rw [byteLength_append, byteLength_cons_ascii (by decide), fieldLength, textLength, h,
    Option.getD_some, stringLength, Nat.add_right_comm, Nat.add_assoc]

theorem byteLength_dumpFields {fs : Fields} {text : List Char} (h : dumpFields fs = some text) :
    byteLength text = (fs.map fieldLength).sum + (fs.length - 1) := by
  induction fs generalizing text with
  | nil =>
      cases h
      simp
  | cons f fs ih =>
      obtain ⟨k, v⟩ := f
      cases fs with
      | nil =>
          simp only [dumpFields, Option.pure_def, Option.bind_eq_bind, Option.bind_eq_some_iff,
            Option.some.injEq] at h
          obtain ⟨value, hvalue, rfl⟩ := h
          rw [byteLength_field hvalue]
          simp
      | cons g gs =>
          simp only [dumpFields, Option.pure_def, Option.bind_eq_bind, Option.bind_eq_some_iff,
            Option.some.injEq] at h
          obtain ⟨value, hvalue, tail, htail, rfl⟩ := h
          have hrest := ih htail
          have hfield := byteLength_field (k := k) hvalue
          have htext : dumpString k ++ ':' :: (value ++ ',' :: tail) =
              (dumpString k ++ ':' :: value) ++ ',' :: tail := by simp
          rw [htext, byteLength_append, hfield, byteLength_cons_ascii (by decide), hrest,
            List.map_cons (a := (k, v)), List.sum_cons]
          simp only [List.length_cons]
          omega

theorem textLength_arr {xs : List Json} (h : Encodes (.arr xs)) :
    textLength (.arr xs) = (xs.map textLength).sum + (xs.length - 1) + 2 := by
  obtain ⟨body, hbody⟩ := Option.isSome_iff_exists.mp (dumpItems_isSome_iff.mpr (encodes_arr.mp h))
  rw [textLength, dumpValue, hbody, Option.map_some, Option.getD_some,
    byteLength_cons_ascii (by decide), byteLength_append, byteLength_cons_ascii (by decide),
    byteLength_nil, byteLength_dumpItems hbody]

theorem textLength_obj {fs : Fields} (h : Encodes (.obj fs)) :
    textLength (.obj fs) = (fs.map fieldLength).sum + (fs.length - 1) + 2 := by
  obtain ⟨body, hbody⟩ :=
    Option.isSome_iff_exists.mp (dumpFields_isSome_iff.mpr (encodes_obj.mp h))
  rw [textLength, dumpValue, hbody, Option.map_some, Option.getD_some,
    byteLength_cons_ascii (by decide), byteLength_append, byteLength_cons_ascii (by decide),
    byteLength_nil, byteLength_dumpFields hbody]

/-- The canonical line ends the text with a line feed. -/
theorem lineOf_length {v : Json} (h : Encodes v) : (lineOf v).length = textLength v + 1 := by
  obtain ⟨text, htext⟩ := Option.isSome_iff_exists.mp h
  have hline : lineOf v = encodeUtf8 (String.ofList text ++ "\n") := by
    rw [lineOf, canonicalLine?, dumps, htext]
    rfl
  have hfeed : (encodeUtf8 "\n").length = 1 := by decide
  rw [hline, encodeUtf8_append, List.length_append, hfeed, textLength, htext, Option.getD_some,
    byteLength]

end Json

/-! ## Base64 -/

theorem isVerbatim_of_sextet? {c : Char} (h : (Base64.sextet? c).isSome) :
    Json.isVerbatim c = true := by
  obtain ⟨v, hv⟩ := Option.isSome_iff_exists.mp h
  have hall : ∀ v < 64, Json.isVerbatim (Base64.sextetChar v) = true := by decide
  rw [← Base64.sextetChar_of_sextet? hv]
  exact hall v (Base64.sextet?_lt hv)

theorem stringLength_b64encode (raw : Bytes) :
    Json.stringLength (b64encode raw) = (raw.length + 2) / 3 * 4 + 2 := by
  have hverbatim : (b64encode raw).toList.all Json.isVerbatim = true := by
    obtain ⟨cs, hcs, heq⟩ := Base64.encodeGroups_padding raw
    rw [b64encode, String.toList_ofList, heq, List.all_append, Bool.and_eq_true]
    constructor
    · exact List.all_eq_true.mpr fun c hc => isVerbatim_of_sextet? (hcs c hc)
    · rw [List.all_replicate]
      simp [Json.isVerbatim]
  rw [Json.stringLength_of_isVerbatim hverbatim, b64encode, String.toList_ofList,
    Base64.encodeGroups_length]

end Foundation
