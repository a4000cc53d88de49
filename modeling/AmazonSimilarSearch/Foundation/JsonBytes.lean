import AmazonSimilarSearch.Foundation.JsonCanonical

/-!
# Reading JSON from bytes

`json.loads` guesses the encoding of a byte string: a byte order mark names it,
and otherwise the zero octets among the first four do, because JSON text starts
with two ASCII characters. An encoded value contains no control character, so
its UTF-8 form has no zero octet and is read as UTF-8.
-/
namespace Foundation
namespace Json

/-! ## An encoded value has no control character -/

/-- No character below the space. -/
def NoControl (text : List Char) : Prop := ∀ c ∈ text, 32 ≤ c.toNat

theorem noControl_nil : NoControl [] := by simp [NoControl]

theorem noControl_cons {c : Char} {text : List Char} :
    NoControl (c :: text) ↔ 32 ≤ c.toNat ∧ NoControl text := by
  simp [NoControl]

theorem noControl_append {text rest : List Char} :
    NoControl (text ++ rest) ↔ NoControl text ∧ NoControl rest :=
  List.forall_mem_append

theorem NoControl.sublist {text rest : List Char} (h : NoControl rest)
    (hsublist : text.Sublist rest) : NoControl text :=
  fun c hc => h c (hsublist.subset hc)

theorem noControl_toDigits (n : ℕ) : NoControl (Nat.toDigits 10 n) := by
  intro c hc
  have hdigit := isDigit_toDigits hc
  simp only [Char.isDigit, Bool.and_eq_true, decide_eq_true_eq] at hdigit
  have hlow : '0'.toNat ≤ c.toNat := hdigit.1
  have hzero : '0'.toNat = 48 := rfl
  omega

theorem noControl_dumpInt {i : ℤ} {text : List Char} (h : dumpInt i = some text) :
    NoControl text := by
  obtain ⟨-, rfl⟩ := dumpInt_eq_some h
  split_ifs
  · exact noControl_cons.mpr ⟨by decide, noControl_toDigits _⟩
  · exact noControl_toDigits _

theorem noControl_zeros (n : ℕ) : NoControl (PyFloat.zeros n) := by
  intro c hc
  rw [List.eq_of_mem_replicate hc]
  decide

theorem noControl_layout {digits : List Char} (h : NoControl digits) (k : ℤ) :
    NoControl (PyFloat.layout digits k) := by
  have htake := fun n => h.sublist (List.take_sublist n digits)
  have hdrop := fun n => h.sublist (List.drop_sublist n digits)
  have hfraction : NoControl (if digits.length = 1 then [] else '.' :: digits.drop 1) := by
    split_ifs
    · exact noControl_nil
    · exact noControl_cons.mpr ⟨by decide, hdrop 1⟩
  have hsign : NoControl ['e', if k - 1 < 0 then '-' else '+'] := by
    split_ifs <;> simp [NoControl]
  rw [PyFloat.layout]
  by_cases hplain : -4 < k ∧ k ≤ 16
  · rw [if_pos hplain]
    split_ifs
    · exact noControl_append.mpr
        ⟨noControl_append.mpr ⟨by simp [NoControl], noControl_zeros _⟩, h⟩
    · exact noControl_append.mpr
        ⟨noControl_append.mpr ⟨h, noControl_zeros _⟩, by simp [NoControl]⟩
    · exact noControl_append.mpr
        ⟨noControl_append.mpr ⟨htake _, by simp [NoControl]⟩, hdrop _⟩
  · rw [if_neg hplain]
    exact noControl_append.mpr ⟨noControl_append.mpr ⟨noControl_append.mpr
      ⟨noControl_append.mpr ⟨htake 1, hfraction⟩, hsign⟩, noControl_zeros _⟩,
      noControl_toDigits _⟩

theorem noControl_repr {f : PyFloat} {text : List Char} (h : f.repr? = some text) :
    NoControl text := by
  cases f with
  | finite negative m e =>
      have hsign : NoControl (if negative then ['-'] else []) := by
        split_ifs <;> simp [NoControl]
      rw [PyFloat.repr?] at h
      by_cases hzero : m = 0
      · rw [if_pos hzero] at h
        rw [← Option.some.inj h]
        exact noControl_append.mpr ⟨hsign, by simp [NoControl]⟩
      · rw [if_neg hzero] at h
        rw [← Option.some.inj h]
        exact noControl_append.mpr ⟨hsign, noControl_layout (noControl_toDigits _) _⟩
  | infinite negative => cases h
  | nan => cases h

theorem noControl_lowerHexDigit {d : ℕ} (h : d < 16) : 32 ≤ (lowerHexDigit d).toNat := by
  revert d
  decide

theorem noControl_escapeChar (c : Char) : NoControl (escapeChar c) := by
  unfold escapeChar
  split_ifs with h₁ h₂ h₃ h₄ h₅ h₆ h₇ h₈
  any_goals simp [NoControl]
  · exact ⟨noControl_lowerHexDigit (by omega), noControl_lowerHexDigit (by omega)⟩
  · omega

theorem noControl_dumpString (s : String) : NoControl (dumpString s) := by
  have hbody : NoControl (s.toList.flatMap escapeChar) := by
    intro c hc
    obtain ⟨d, -, hd⟩ := List.mem_flatMap.mp hc
    exact noControl_escapeChar d c hd
  exact noControl_cons.mpr ⟨by decide, noControl_append.mpr ⟨hbody, by simp [NoControl]⟩⟩

mutual
theorem noControl_dumpValue : ∀ {v : Json} {text : List Char}, dumpValue v = some text →
    NoControl text
  | .null, text, h => by
      cases h
      simp [NoControl]
  | .bool b, text, h => by cases b <;> cases h <;> simp [NoControl]
  | .int i, text, h => noControl_dumpInt (by simpa [dumpValue] using h)
  | .float f, text, h => noControl_repr (by simpa [dumpValue] using h)
  | .str s, text, h => by
      simp only [dumpValue, Option.some.injEq] at h
      exact h ▸ noControl_dumpString s
  | .arr xs, text, h => by
      simp only [dumpValue, Option.map_eq_some_iff] at h
      obtain ⟨body, hbody, rfl⟩ := h
      exact noControl_cons.mpr ⟨by decide,
        noControl_append.mpr ⟨noControl_dumpItems hbody, by simp [NoControl]⟩⟩
  | .obj fs, text, h => by
      simp only [dumpValue, Option.map_eq_some_iff] at h
      obtain ⟨body, hbody, rfl⟩ := h
      exact noControl_cons.mpr ⟨by decide,
        noControl_append.mpr ⟨noControl_dumpFields hbody, by simp [NoControl]⟩⟩
theorem noControl_dumpItems : ∀ {xs : List Json} {text : List Char}, dumpItems xs = some text →
    NoControl text
  | [], text, h => by
      cases h
      exact noControl_nil
  | [x], text, h => noControl_dumpValue (v := x) (by simpa [dumpItems] using h)
  | x :: y :: xs, text, h => by
      simp only [dumpItems, Option.pure_def, Option.bind_eq_bind, Option.bind_eq_some_iff,
        Option.some.injEq] at h
      obtain ⟨head, hhead, tail, htail, rfl⟩ := h
      exact noControl_append.mpr ⟨noControl_dumpValue hhead,
        noControl_cons.mpr ⟨by decide, noControl_dumpItems htail⟩⟩
theorem noControl_dumpFields : ∀ {fs : Fields} {text : List Char}, dumpFields fs = some text →
    NoControl text
  | [], text, h => by
      cases h
      exact noControl_nil
  | [(k, v)], text, h => by
      simp only [dumpFields, Option.pure_def, Option.bind_eq_bind, Option.bind_eq_some_iff,
        Option.some.injEq] at h
      obtain ⟨value, hvalue, rfl⟩ := h
      exact noControl_append.mpr ⟨noControl_dumpString k,
        noControl_cons.mpr ⟨by decide, noControl_dumpValue hvalue⟩⟩
  | (k, v) :: f :: fs, text, h => by
      simp only [dumpFields, Option.pure_def, Option.bind_eq_bind, Option.bind_eq_some_iff,
        Option.some.injEq] at h
      obtain ⟨value, hvalue, tail, htail, rfl⟩ := h
      exact noControl_append.mpr ⟨noControl_dumpString k, noControl_cons.mpr ⟨by decide,
        noControl_append.mpr ⟨noControl_dumpValue hvalue,
          noControl_cons.mpr ⟨by decide, noControl_dumpFields htail⟩⟩⟩⟩
end

/-! ## The encoding of a byte string -/

inductive JsonEncoding where
  | utf8
  | utf8Sig
  | utf16
  | utf16BE
  | utf16LE
  | utf32
  | utf32BE
  | utf32LE
  deriving DecidableEq, Repr

/-- `json.detect_encoding` -/
def detectEncoding (raw : Bytes) : JsonEncoding :=
  if [0, 0, 0xFE, 0xFF].isPrefixOf raw ∨ [0xFF, 0xFE, 0, 0].isPrefixOf raw then .utf32
  else if [0xFE, 0xFF].isPrefixOf raw ∨ [0xFF, 0xFE].isPrefixOf raw then .utf16
  else if [0xEF, 0xBB, 0xBF].isPrefixOf raw then .utf8Sig
  else
    match raw with
    | first :: second :: third :: fourth :: _ =>
        if first = 0 then if second = 0 then .utf32BE else .utf16BE
        else if second = 0 then if third = 0 ∧ fourth = 0 then .utf32LE else .utf16LE
        else .utf8
    | [first, second] =>
        if first = 0 then .utf16BE else if second = 0 then .utf16LE else .utf8
    | _ => .utf8

/-- `json.loads(raw)`. What it makes of bytes in another encoding, or of bytes that are not UTF-8
(the decoder passes surrogates), is the argument `other`. -/
def loadsBytes (other : JsonEncoding → Bytes → Except JsonError Json) (h : Hooks) (raw : Bytes) :
    Except JsonError Json :=
  match detectEncoding raw, decodeUtf8 raw with
  | .utf8, some text => loads h text
  | encoding, _ => other encoding raw

/-- Bytes that start with an ASCII character and have no zero are UTF-8. -/
theorem detectEncoding_eq_utf8 {first : UInt8} {raw : Bytes} (hfirst : first < 128)
    (hzero : 0 ∉ first :: raw) : detectEncoding (first :: raw) = .utf8 := by
  have hstart : ∀ {mark : UInt8} {marks : Bytes}, mark = 0 ∨ 128 ≤ mark →
      ¬ (mark :: marks).isPrefixOf (first :: raw) = true := by
    intro mark marks hmark hmarks
    have heq : mark = first := by
      have hpair := hmarks
      simp only [List.isPrefixOf, Bool.and_eq_true, beq_iff_eq] at hpair
      exact hpair.1
    rcases hmark with hnull | hhigh
    · exact hzero (heq ▸ hnull ▸ List.mem_cons_self)
    · exact absurd hfirst (UInt8.not_lt.mpr (heq ▸ hhigh))
  have hnonzero : first ≠ 0 := fun heq => hzero (heq ▸ List.mem_cons_self)
  unfold detectEncoding
  rw [if_neg (not_or.mpr ⟨hstart (.inl rfl), hstart (.inr (by decide))⟩),
    if_neg (not_or.mpr ⟨hstart (.inr (by decide)), hstart (.inr (by decide))⟩),
    if_neg (hstart (.inr (by decide)))]
  rcases raw with _ | ⟨second, _ | ⟨third, _ | ⟨fourth, raw⟩⟩⟩
  · rfl
  · have hsecond : second ≠ 0 := fun heq => hzero (by simp [heq])
    simp only [if_neg hnonzero, if_neg hsecond]
  · rfl
  · have hsecond : second ≠ 0 := fun heq => hzero (by simp [heq])
    simp only [if_neg hnonzero, if_neg hsecond]

/-- Only the null character is encoded with a zero octet. -/
theorem zero_mem_utf8EncodeChar {c : Char} (h : 0 ∈ String.utf8EncodeChar c) : c.toNat = 0 := by
  unfold String.utf8EncodeChar at h
  dsimp only at h
  change c.val.toNat = 0
  split_ifs at h <;>
    simp only [List.mem_cons, List.not_mem_nil, or_false, ← UInt8.toNat_inj, UInt8.toNat_ofNat',
      UInt8.reduceToNat] at h <;> omega

theorem zero_notMem_encodeUtf8 {text : List Char} (h : NoControl text) :
    0 ∉ encodeUtf8 (String.ofList text) := by
  induction text with
  | nil =>
      rw [encodeUtf8_nil]
      exact List.not_mem_nil
  | cons c text ih =>
      obtain ⟨hc, htext⟩ := noControl_cons.mp h
      rw [encodeUtf8_ofList_cons, List.mem_append, not_or]
      refine ⟨?_, ih htext⟩
      intro hzero
      have hnull := zero_mem_utf8EncodeChar hzero
      omega

theorem isAscii_of_isDigit {c : Char} (h : c.isDigit = true) : c.toNat < 128 := by
  simp only [Char.isDigit, Bool.and_eq_true, decide_eq_true_eq] at h
  have hhigh : c.toNat ≤ '9'.toNat := h.2
  have hnine : '9'.toNat = 57 := rfl
  omega

theorem startsAscii_dumpValue {v : Json} (hv : IsReadable v) {text : List Char}
    (h : dumpValue v = some text) : ∃ c cs, text = c :: cs ∧ c.toNat < 128 := by
  cases v with
  | null =>
      cases h
      exact ⟨'n', _, rfl, by decide⟩
  | bool b =>
      cases b <;> cases h
      · exact ⟨'f', _, rfl, by decide⟩
      · exact ⟨'t', _, rfl, by decide⟩
  | int i =>
      obtain ⟨-, rfl⟩ := dumpInt_eq_some (i := i) (by simpa [dumpValue] using h)
      split_ifs
      · exact ⟨'-', _, rfl, by decide⟩
      · obtain ⟨c, cs, hcs⟩ :=
          List.exists_cons_of_ne_nil (Nat.toDigits_ne_nil (n := i.natAbs) (b := 10))
        exact ⟨c, cs, hcs, isAscii_of_isDigit (isDigit_toDigits (n := i.natAbs) (by simp [hcs]))⟩
  | float f =>
      obtain ⟨c, cs, hrepr, hdigit, -⟩ := isReadable_float.mp hv
      rw [dumpValue, hrepr, Option.some.injEq] at h
      exact ⟨c, cs, h.symm, isAscii_of_isDigit hdigit⟩
  | str s =>
      simp only [dumpValue, Option.some.injEq] at h
      exact ⟨'"', _, h.symm, by decide⟩
  | arr xs =>
      simp only [dumpValue, Option.map_eq_some_iff] at h
      obtain ⟨body, -, rfl⟩ := h
      exact ⟨'[', _, rfl, by decide⟩
  | obj fs =>
      simp only [dumpValue, Option.map_eq_some_iff] at h
      obtain ⟨body, -, rfl⟩ := h
      exact ⟨'\x7b', _, rfl, by decide⟩

theorem utf8EncodeChar_ascii {c : Char} (h : c.toNat < 128) :
    ∃ first : UInt8, first < 128 ∧ String.utf8EncodeChar c = [first] := by
  have hval : c.val.toNat ≤ 0x7f := Nat.le_of_lt_succ h
  refine ⟨c.val.toNat.toUInt8, ?_, ?_⟩
  · rw [UInt8.lt_iff_toNat_lt]
    simp only [Nat.toUInt8, UInt8.toNat_ofNat', UInt8.reduceToNat]
    omega
  · unfold String.utf8EncodeChar
    simp only [hval, if_true]

/-- The bytes of an encoded value are read as the value, its keys in order. -/
theorem loadsBytes_compact {v : Json} {raw : Bytes}
    (other : JsonEncoding → Bytes → Except JsonError Json) (h : Hooks) (hv : IsReadable v)
    (hraw : compact? v = some raw) : loadsBytes other h raw = .ok (sortKeys v) := by
  simp only [compact?, dumps, Option.map_map, Option.map_eq_some_iff, Function.comp_apply] at hraw
  obtain ⟨text, htext, rfl⟩ := hraw
  have hloads : loads h (String.ofList text) = .ok (sortKeys v) := by
    have hdumps : dumps v = some (String.ofList text) := by rw [dumps, htext, Option.map_some]
    have hread := loads_dumps_sortKeys h hdumps hv [] rfl endsNumber_nil
    rwa [String.ofList_nil, String.append_empty] at hread
  have hutf8 : detectEncoding (encodeUtf8 (String.ofList text)) = .utf8 := by
    have hzero := zero_notMem_encodeUtf8 (noControl_dumpValue htext)
    obtain ⟨c, cs, rfl, hascii⟩ := startsAscii_dumpValue hv htext
    obtain ⟨first, hfirst, hencode⟩ := utf8EncodeChar_ascii hascii
    rw [encodeUtf8_ofList_cons, hencode, List.singleton_append] at hzero ⊢
    exact detectEncoding_eq_utf8 hfirst hzero
  rw [loadsBytes, hutf8, decodeUtf8_encodeUtf8]
  exact hloads

end Json
end Foundation
