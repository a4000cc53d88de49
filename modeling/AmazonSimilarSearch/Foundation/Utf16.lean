import Mathlib.Data.List.Basic
import Mathlib.Data.Nat.Basic
import Mathlib.Tactic.Common

/-!
# UTF-16

A character outside the basic plane is written as two surrogates, which are no
characters themselves. So a text is determined by its octets in UTF-16BE.
-/
namespace Foundation

/-- The code units of a character. -/
def utf16Units (c : Char) : List ℕ :=
  if c.toNat < 0x10000 then [c.toNat]
  else [0xD800 + (c.toNat - 0x10000) / 0x400, 0xDC00 + (c.toNat - 0x10000) % 0x400]

/-- The octets of `text.encode("utf-16be")`. -/
def encodeUtf16be (text : String) : List ℕ :=
  (text.toList.flatMap utf16Units).flatMap fun unit => [unit / 256, unit % 256]

theorem octets_injective : Function.Injective fun units : List ℕ =>
    units.flatMap fun unit => [unit / 256, unit % 256] := by
  intro units
  induction units with
  | nil =>
      intro units' h
      cases units' with
      | nil => rfl
      | cons unit' units' => simp at h
  | cons unit units ih =>
      intro units' h
      cases units' with
      | nil => simp at h
      | cons unit' units' =>
          simp only [List.flatMap_cons, List.cons_append, List.nil_append, List.cons.injEq] at h
          obtain ⟨hhigh, hlow, hrest⟩ := h
          have hunit : unit = unit' := by omega
          rw [hunit, ih hrest]

/-- No character is a surrogate. -/
theorem not_surrogate (c : Char) : ¬ (0xD800 ≤ c.toNat ∧ c.toNat < 0xE000) := by
  intro h
  rcases c.valid with hlow | hhigh
  · have : c.val.toNat < 0xD800 := hlow
    exact absurd h.1 (not_le.mpr this)
  · have : 0xDFFF < c.val.toNat := hhigh.1
    have hc : c.toNat = c.val.toNat := rfl
    omega

theorem toNat_lt_surrogatePairs (c : Char) : c.toNat < 0x110000 := by
  rcases c.valid with hlow | hhigh
  · have : c.val.toNat < 0xD800 := hlow
    have hc : c.toNat = c.val.toNat := rfl
    omega
  · exact hhigh.2

theorem utf16Units_append_inj {c d : Char} {rest rest' : List ℕ}
    (h : utf16Units c ++ rest = utf16Units d ++ rest') : c = d ∧ rest = rest' := by
  have hc := not_surrogate c
  have hd := not_surrogate d
  have hcbound := toNat_lt_surrogatePairs c
  have hdbound := toNat_lt_surrogatePairs d
  unfold utf16Units at h
  split_ifs at h with hcplane hdplane hdplane
  · obtain ⟨hunit, hrest⟩ := List.cons.inj h
    exact ⟨Char.toNat_inj.mp hunit, hrest⟩
  · obtain ⟨hunit, -⟩ := List.cons.inj h
    omega
  · obtain ⟨hunit, -⟩ := List.cons.inj h
    omega
  · simp only [List.cons_append, List.nil_append, List.cons.injEq] at h
    obtain ⟨hhigh, hlow, hrest⟩ := h
    exact ⟨Char.toNat_inj.mp (by omega), hrest⟩

theorem flatMap_utf16Units_injective :
    Function.Injective fun text : List Char => text.flatMap utf16Units := by
  have hne : ∀ c, utf16Units c ≠ [] := by
    intro c
    unfold utf16Units
    split_ifs <;> simp
  intro text
  induction text with
  | nil =>
      intro text' h
      cases text' with
      | nil => rfl
      | cons c' text' =>
          simp only [List.flatMap_nil, List.flatMap_cons] at h
          exact absurd (List.append_eq_nil_iff.mp h.symm).1 (hne c')
  | cons c text ih =>
      intro text' h
      cases text' with
      | nil =>
          simp only [List.flatMap_nil, List.flatMap_cons] at h
          exact absurd (List.append_eq_nil_iff.mp h).1 (hne c)
      | cons c' text' =>
          simp only [List.flatMap_cons] at h
          obtain ⟨hchar, hrest⟩ := utf16Units_append_inj h
          rw [hchar, ih hrest]

theorem encodeUtf16be_injective : Function.Injective encodeUtf16be := by
  intro s t h
  have hunits := octets_injective h
  exact String.toList_inj.mp (flatMap_utf16Units_injective hunits)

end Foundation
