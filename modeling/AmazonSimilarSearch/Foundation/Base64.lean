import AmazonSimilarSearch.Foundation.Bytes

/-!
# Base64

`b64encode` is `base64.b64encode(raw).decode("ascii")` and `b64decode` is
`base64.b64decode(text, validate=True)`. The decoder ignores the bits that
padding leaves over, as `binascii` does; a caller that wants one text for one
octet string encodes the result again and compares.
-/
namespace Foundation

namespace Base64

/-- The character of six bits. -/
def sextetChar (v : ℕ) : Char :=
  if v < 26 then Char.ofNat (65 + v)
  else if v < 52 then Char.ofNat (71 + v)
  else if v < 62 then Char.ofNat (v - 4)
  else if v = 62 then '+' else '/'

def sextet? (c : Char) : Option ℕ :=
  if 'A' ≤ c ∧ c ≤ 'Z' then some (c.toNat - 65)
  else if 'a' ≤ c ∧ c ≤ 'z' then some (c.toNat - 71)
  else if '0' ≤ c ∧ c ≤ '9' then some (c.toNat + 4)
  else if c = '+' then some 62
  else if c = '/' then some 63
  else none

def encodeGroups : Bytes → List Char
  | [] => []
  | [a] => [sextetChar (a.toNat / 4), sextetChar (a.toNat % 4 * 16), '=', '=']
  | [a, b] => [sextetChar (a.toNat / 4), sextetChar (a.toNat % 4 * 16 + b.toNat / 16),
      sextetChar (b.toNat % 16 * 4), '=']
  | a :: b :: c :: rest =>
      sextetChar (a.toNat / 4) :: sextetChar (a.toNat % 4 * 16 + b.toNat / 16) ::
        sextetChar (b.toNat % 16 * 4 + c.toNat / 64) :: sextetChar (c.toNat % 64) ::
          encodeGroups rest

/-- The octets of four sextets. -/
def octets (a b c d : ℕ) : Bytes :=
  [UInt8.ofNat (a * 4 + b / 16), UInt8.ofNat (b % 16 * 16 + c / 4), UInt8.ofNat (c % 4 * 64 + d)]

def decodeGroups : List Char → Option Bytes
  | [] => some []
  | a :: b :: c :: d :: rest => do
      let x ← sextet? a
      let y ← sextet? b
      if rest = [] ∧ d = '=' then
        if c = '=' then pure ((octets x y 0 0).take 1)
        else do
          let z ← sextet? c
          pure ((octets x y z 0).take 2)
      else do
        let z ← sextet? c
        let w ← sextet? d
        let tail ← decodeGroups rest
        pure (octets x y z w ++ tail)
  | _ => none

theorem sextet?_sextetChar : ∀ v < 64, sextet? (sextetChar v) = some v := by
  decide

theorem sextetChar_ne_pad : ∀ v < 64, sextetChar v ≠ '=' := by
  decide

theorem toNat_lt (a : UInt8) : a.toNat < 256 := a.toNat_lt

theorem octets_split (a b c : UInt8) :
    octets (a.toNat / 4) (a.toNat % 4 * 16 + b.toNat / 16) (b.toNat % 16 * 4 + c.toNat / 64)
      (c.toNat % 64) = [a, b, c] := by
  have ha := toNat_lt a
  have hb := toNat_lt b
  have hc := toNat_lt c
  have h₁ : a.toNat / 4 * 4 + (a.toNat % 4 * 16 + b.toNat / 16) / 16 = a.toNat := by omega
  have h₂ : (a.toNat % 4 * 16 + b.toNat / 16) % 16 * 16 +
      (b.toNat % 16 * 4 + c.toNat / 64) / 4 = b.toNat := by omega
  have h₃ : (b.toNat % 16 * 4 + c.toNat / 64) % 4 * 64 + c.toNat % 64 = c.toNat := by omega
  simp only [octets, h₁, h₂, h₃, UInt8.ofNat_toNat]

theorem decodeGroups_encodeGroups (raw : Bytes) :
    decodeGroups (encodeGroups raw) = some raw := by
  induction raw using encodeGroups.induct with
  | case1 => rfl
  | case2 a =>
      have ha := toNat_lt a
      have h := octets_split a 0 0
      simp only [UInt8.toNat_zero, Nat.zero_div, Nat.add_zero, Nat.zero_mod,
        Nat.zero_mul] at h
      simp only [encodeGroups, decodeGroups, sextet?_sextetChar (a.toNat / 4) (by omega),
        sextet?_sextetChar (a.toNat % 4 * 16) (by omega), and_self, if_true,
        Option.bind_eq_bind, Option.bind_some, h]
      rfl
  | case3 a b =>
      have ha := toNat_lt a
      have hb := toNat_lt b
      have h := octets_split a b 0
      simp only [UInt8.toNat_zero, Nat.zero_div, Nat.add_zero, Nat.zero_mod] at h
      simp only [encodeGroups, decodeGroups, sextet?_sextetChar (a.toNat / 4) (by omega),
        sextet?_sextetChar (a.toNat % 4 * 16 + b.toNat / 16) (by omega),
        sextet?_sextetChar (b.toNat % 16 * 4) (by omega),
        sextetChar_ne_pad (b.toNat % 16 * 4) (by omega), and_self, if_true, if_false,
        Option.bind_eq_bind, Option.bind_some, h]
      rfl
  | case4 a b c rest ih =>
      have ha := toNat_lt a
      have hb := toNat_lt b
      have hc := toNat_lt c
      simp only [encodeGroups, decodeGroups, sextet?_sextetChar (a.toNat / 4) (by omega),
        sextet?_sextetChar (a.toNat % 4 * 16 + b.toNat / 16) (by omega),
        sextet?_sextetChar (b.toNat % 16 * 4 + c.toNat / 64) (by omega),
        sextet?_sextetChar (c.toNat % 64) (by omega),
        sextetChar_ne_pad (c.toNat % 64) (by omega), and_false, if_false, ih,
        Option.bind_eq_bind, Option.bind_some, octets_split]
      rfl

theorem sextet?_lt {c : Char} {v : ℕ} (h : sextet? c = some v) : v < 64 := by
  unfold sextet? at h
  split_ifs at h with h₁ h₂ h₃ h₄ h₅ <;> cases h
  · have hle : c.toNat ≤ 90 := h₁.2
    omega
  · have hle : c.toNat ≤ 122 := h₂.2
    omega
  · have hle : c.toNat ≤ 57 := h₃.2
    omega
  · omega
  · omega

theorem sextetChar_of_sextet? {c : Char} {v : ℕ} (h : sextet? c = some v) : sextetChar v = c := by
  have hofNat : Char.ofNat c.toNat = c := Char.ofNat_toNat c
  unfold sextet? at h
  split_ifs at h with h₁ h₂ h₃ h₄ h₅ <;> cases h
  · have hge : 65 ≤ c.toNat := h₁.1
    have hle : c.toNat ≤ 90 := h₁.2
    rw [sextetChar, if_pos (by omega), show 65 + (c.toNat - 65) = c.toNat by omega, hofNat]
  · have hge : 97 ≤ c.toNat := h₂.1
    have hle : c.toNat ≤ 122 := h₂.2
    rw [sextetChar, if_neg (by omega), if_pos (by omega),
      show 71 + (c.toNat - 71) = c.toNat by omega, hofNat]
  · have hge : 48 ≤ c.toNat := h₃.1
    have hle : c.toNat ≤ 57 := h₃.2
    rw [sextetChar, if_neg (by omega), if_neg (by omega), if_pos (by omega),
      show c.toNat + 4 - 4 = c.toNat by omega, hofNat]
  · rw [h₄]
    rfl
  · rw [h₅]
    rfl

/-- The bits of the last sextet that no octet holds. -/
def spareBits : List Char → ℕ
  | _ :: b :: c :: d :: rest =>
      if rest = [] ∧ d = '=' then
        if c = '=' then (sextet? b).getD 0 % 16 else (sextet? c).getD 0 % 4
      else spareBits rest
  | _ => 0

theorem sextetChar_eq_iff {c : Char} {v w : ℕ} (h : sextet? c = some v) (hw : w < 64) :
    sextetChar w = c ↔ w = v := by
  constructor
  · intro heq
    have hread := sextet?_sextetChar w hw
    rw [heq, h] at hread
    exact (Option.some.inj hread).symm
  · rintro rfl
    exact sextetChar_of_sextet? h

theorem toNat_octet {n : ℕ} (h : n < 256) : (UInt8.ofNat n).toNat = n :=
  UInt8.toNat_ofNat_of_lt' h

/-- The text is the encoding of what it decodes to exactly when its spare bits are zero. -/
theorem encodeGroups_of_decodeGroups {cs : List Char} {raw : Bytes}
    (h : decodeGroups cs = some raw) : encodeGroups raw = cs ↔ spareBits cs = 0 := by
  induction cs using decodeGroups.induct generalizing raw with
  | case1 =>
      cases h
      exact iff_of_true rfl rfl
  | case2 a b c d rest ih =>
      simp only [decodeGroups, Option.bind_eq_bind, Option.bind_eq_some_iff] at h
      obtain ⟨x, hx, y, hy, h⟩ := h
      have hx64 := sextet?_lt hx
      have hy64 := sextet?_lt hy
      have ha := sextetChar_of_sextet? hx
      have hfirst := toNat_octet (show x * 4 + y / 16 < 256 by omega)
      rw [spareBits]
      split_ifs at h ⊢ with hlast hc
      · obtain ⟨rfl, rfl⟩ := hlast
        subst hc
        cases h
        have hb := sextetChar_eq_iff hy (show y / 16 * 16 < 64 by omega)
        simp only [octets, List.take_succ_cons, List.take_zero, encodeGroups, hfirst, hy,
          Option.getD_some, List.cons.injEq, and_true]
        rw [show (x * 4 + y / 16) / 4 = x by omega, show (x * 4 + y / 16) % 4 * 16 = y / 16 * 16 by
          omega, hb]
        exact ⟨fun h => by omega, fun h => ⟨ha, by omega⟩⟩
      · obtain ⟨rfl, rfl⟩ := hlast
        simp only [Option.bind_eq_some_iff] at h
        obtain ⟨z, hz, h⟩ := h
        cases h
        have hz64 := sextet?_lt hz
        have hsecond := toNat_octet (show y % 16 * 16 + z / 4 < 256 by omega)
        have hb := (sextetChar_eq_iff hy (show y < 64 by omega)).mpr rfl
        have hc := sextetChar_eq_iff hz (show z / 4 * 4 < 64 by omega)
        simp only [octets, List.take_succ_cons, List.take_zero, encodeGroups, hfirst, hsecond, hz,
          Option.getD_some, List.cons.injEq, and_true]
        rw [show (x * 4 + y / 16) / 4 = x by omega,
          show (x * 4 + y / 16) % 4 * 16 + (y % 16 * 16 + z / 4) / 16 = y by omega,
          show (y % 16 * 16 + z / 4) % 16 * 4 = z / 4 * 4 by omega, hc]
        exact ⟨fun h => by omega, fun h => ⟨ha, hb, by omega⟩⟩
      · simp only [Option.bind_eq_some_iff] at h
        obtain ⟨z, hz, w, hw, tail, htail, h⟩ := h
        cases h
        have hz64 := sextet?_lt hz
        have hw64 := sextet?_lt hw
        have hsecond := toNat_octet (show y % 16 * 16 + z / 4 < 256 by omega)
        have hthird := toNat_octet (show z % 4 * 64 + w < 256 by omega)
        have hb := (sextetChar_eq_iff hy (show y < 64 by omega)).mpr rfl
        have hc := (sextetChar_eq_iff hz (show z < 64 by omega)).mpr rfl
        have hd := (sextetChar_eq_iff hw (show w < 64 by omega)).mpr rfl
        simp only [octets, List.cons_append, List.nil_append, encodeGroups, hfirst, hsecond, hthird,
          List.cons.injEq]
        rw [show (x * 4 + y / 16) / 4 = x by omega,
          show (x * 4 + y / 16) % 4 * 16 + (y % 16 * 16 + z / 4) / 16 = y by omega,
          show (y % 16 * 16 + z / 4) % 16 * 4 + (z % 4 * 64 + w) / 64 = z by omega,
          show (z % 4 * 64 + w) % 64 = w by omega, ih htail]
        exact ⟨fun h => h.2.2.2.2, fun h => ⟨ha, hb, hc, hd, h⟩⟩
  | case3 t hnil hcons =>
      have hnone : decodeGroups t = none := decodeGroups.eq_3 t hnil hcons
      rw [hnone] at h
      cases h

/-- The characters of the text without its padding. -/
theorem encodeGroups_padding (raw : Bytes) : ∃ cs, (∀ c ∈ cs, (sextet? c).isSome) ∧
    encodeGroups raw = cs ++ List.replicate ((3 - raw.length % 3) % 3) '=' := by
  have hchar : ∀ v < 64, (sextet? (sextetChar v)).isSome := by
    intro v hv
    rw [sextet?_sextetChar v hv]
    rfl
  induction raw using encodeGroups.induct with
  | case1 => exact ⟨[], by simp, rfl⟩
  | case2 a =>
      have ha := toNat_lt a
      refine ⟨[_, _], ?_, rfl⟩
      simp only [List.forall_mem_cons, List.not_mem_nil]
      exact ⟨hchar _ (by omega), hchar _ (by omega), nofun⟩
  | case3 a b =>
      have ha := toNat_lt a
      have hb := toNat_lt b
      refine ⟨[_, _, _], ?_, rfl⟩
      simp only [List.forall_mem_cons, List.not_mem_nil]
      exact ⟨hchar _ (by omega), hchar _ (by omega), hchar _ (by omega), nofun⟩
  | case4 a b c rest ih =>
      have ha := toNat_lt a
      have hb := toNat_lt b
      have hc := toNat_lt c
      obtain ⟨cs, hcs, heq⟩ := ih
      have hsplit : encodeGroups (a :: b :: c :: rest) = encodeGroups [a, b, c] ++ encodeGroups rest :=
        rfl
      have hpad : (a :: b :: c :: rest).length % 3 = rest.length % 3 := by
        rw [List.length_cons, List.length_cons, List.length_cons]
        omega
      refine ⟨encodeGroups [a, b, c] ++ cs, ?_, ?_⟩
      · simp only [encodeGroups, List.cons_append, List.nil_append, List.forall_mem_cons]
        exact ⟨hchar _ (by omega), hchar _ (by omega), hchar _ (by omega), hchar _ (by omega), hcs⟩
      · rw [hsplit, heq, hpad, List.append_assoc]

theorem encodeGroups_length (raw : Bytes) :
    (encodeGroups raw).length = (raw.length + 2) / 3 * 4 := by
  induction raw using encodeGroups.induct with
  | case1 => rfl
  | case2 a => simp [encodeGroups]
  | case3 a b => simp [encodeGroups]
  | case4 a b c rest ih =>
      simp only [encodeGroups, List.length_cons, ih]
      omega

end Base64

open Base64

/-- `base64.b64encode(raw).decode("ascii")`. -/
def b64encode (raw : Bytes) : String := String.ofList (encodeGroups raw)

/-- `base64.b64decode(text, validate=True)`; `none` is its `ValueError`. -/
def b64decode (text : String) : Option Bytes := decodeGroups text.toList

@[simp] theorem b64decode_b64encode (raw : Bytes) : b64decode (b64encode raw) = some raw := by
  rw [b64decode, b64encode, String.toList_ofList, decodeGroups_encodeGroups]

theorem b64encode_injective : Function.Injective b64encode := by
  intro a b h
  have ha := b64decode_b64encode a
  rw [h, b64decode_b64encode] at ha
  exact (Option.some.inj ha).symm

theorem b64encode_length (raw : Bytes) : (b64encode raw).length = (raw.length + 2) / 3 * 4 := by
  rw [b64encode, String.length_ofList, encodeGroups_length]

example : b64encode [0x4d, 0x61, 0x6e, 0x4d] = "TWFuTQ==" := by decide

end Foundation
