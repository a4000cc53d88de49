import Mathlib.Data.List.Basic
import Mathlib.Data.List.Induction
import Mathlib.Tactic.Common

/-!
# Byte strings, text and digests

Python `bytes` are lists of octets and Python `str` is `String`. A Lean string
holds no lone surrogate, so the UTF-8 encoder here is total; where the source
could meet a surrogate that case is an error of the JSON reader.
-/
namespace Foundation

abbrev Bytes := List UInt8

/-- `text.encode("utf-8")`. -/
def encodeUtf8 (text : String) : Bytes := text.toUTF8.data.toList

/-- `raw.decode("utf-8", errors="strict")`; `none` is `UnicodeDecodeError`. -/
def decodeUtf8 (raw : Bytes) : Option String := String.fromUTF8? ⟨raw.toArray⟩

/-- `raw.decode("ascii", errors="strict")`: ASCII is the one-octet part of UTF-8. -/
def decodeAscii (raw : Bytes) : Option String :=
  if raw.all (· < 128) then decodeUtf8 raw else none

@[simp] theorem decodeUtf8_encodeUtf8 (text : String) :
    decodeUtf8 (encodeUtf8 text) = some text := by
  simp only [decodeUtf8, encodeUtf8, Array.toArray_toList, String.fromUTF8?]
  exact dif_pos text.isValidUTF8

theorem encodeUtf8_of_decodeUtf8 {raw : Bytes} {text : String}
    (h : decodeUtf8 raw = some text) : encodeUtf8 text = raw := by
  unfold decodeUtf8 String.fromUTF8? at h
  split at h
  · cases h
    rfl
  · cases h

theorem encodeUtf8_injective : Function.Injective encodeUtf8 := by
  intro s t h
  have hs := decodeUtf8_encodeUtf8 s
  rw [h, decodeUtf8_encodeUtf8] at hs
  exact (Option.some.inj hs).symm

theorem encodeUtf8_append (s t : String) :
    encodeUtf8 (s ++ t) = encodeUtf8 s ++ encodeUtf8 t := by
  simp [encodeUtf8, String.toUTF8]

theorem encodeUtf8_ofList_cons (c : Char) (cs : List Char) :
    encodeUtf8 (String.ofList (c :: cs)) =
      String.utf8EncodeChar c ++ encodeUtf8 (String.ofList cs) := by
  simp [encodeUtf8, String.toUTF8, String.ofList, List.utf8Encode]

/-- No character takes more than four octets. -/
theorem encodeUtf8_length_le (cs : List Char) :
    (encodeUtf8 (String.ofList cs)).length ≤ 4 * cs.length := by
  induction cs with
  | nil => simp [encodeUtf8, String.toUTF8, String.ofList, List.utf8Encode]
  | cons c cs ih =>
      rw [encodeUtf8_ofList_cons, List.length_append, String.length_utf8EncodeChar]
      have hc := Char.utf8Size_le_four c
      simp only [List.length_cons]
      omega

theorem encodeUtf8_ofList_append (cs ds : List Char) :
    encodeUtf8 (String.ofList (cs ++ ds)) =
      encodeUtf8 (String.ofList cs) ++ encodeUtf8 (String.ofList ds) := by
  rw [String.ofList_append, encodeUtf8_append]

/-- Only a line feed is encoded with the octet 10 at its end. -/
theorem getLast?_utf8EncodeChar (c : Char) :
    (String.utf8EncodeChar c).getLast? = some 10 ↔ c = '\n' := by
  have hchar : c = '\n' ↔ c.val.toNat = 10 := by
    rw [Char.ext_iff, ← UInt32.toNat_inj]
    rfl
  rw [hchar]
  unfold String.utf8EncodeChar
  dsimp only
  split_ifs <;> simp only [List.getLast?_cons_cons, List.getLast?_singleton, Option.some.injEq,
    ← UInt8.toNat_inj, UInt8.toNat_ofNat'] <;> simp only [UInt8.reduceToNat] <;> omega

theorem encodeUtf8_nil : encodeUtf8 (String.ofList []) = [] := by
  simp [encodeUtf8, String.toUTF8, String.ofList, List.utf8Encode]

/-- The encoding of a text ends in the octet 10 exactly when the text ends in a line feed. -/
theorem getLast?_encodeUtf8 (text : String) :
    (encodeUtf8 text).getLast? = some 10 ↔ text.toList.getLast? = some '\n' := by
  rw [← String.ofList_toList (s := text)]
  generalize text.toList = cs
  induction cs using List.reverseRecOn with
  | nil => rw [encodeUtf8_nil, String.toList_ofList, List.getLast?_nil, List.getLast?_nil]; simp
  | append_singleton cs c ih =>
      have hc : (String.utf8EncodeChar c).getLast? ≠ none := by
        simp [String.utf8EncodeChar_ne_nil]
      rw [encodeUtf8_ofList_append, encodeUtf8_ofList_cons, List.getLast?_append,
        List.getLast?_append, String.toList_ofList, List.getLast?_concat, Option.some.injEq,
        ← getLast?_utf8EncodeChar]
      rw [encodeUtf8_nil, List.getLast?_nil, Option.none_or]
      cases hlast : (String.utf8EncodeChar c).getLast? with
      | none => exact absurd hlast hc
      | some b => rfl

end Foundation
