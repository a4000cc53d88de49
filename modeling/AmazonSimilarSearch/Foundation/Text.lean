import AmazonSimilarSearch.Foundation.JsonCanonical
import Mathlib.Data.List.Sort
import Mathlib.Order.Defs.LinearOrder
import Mathlib.Data.String.Basic

/-!
# Text with a pattern, and sorted text

A field with a pattern is text together with the proof that the pattern accepts
it. `sorted` over strings depends only on which strings there are.
-/
namespace Foundation

/-- Text that the pattern accepts. -/
structure Matching (pattern : String → Bool) where
  text : String
  matches_text : pattern text = true
  deriving DecidableEq

namespace Matching
variable {pattern : String → Bool}

@[ext] theorem ext {a b : Matching pattern} (h : a.text = b.text) : a = b := by
  cases a
  cases b
  cases h
  rfl

@[simp] theorem text_inj {a b : Matching pattern} : a.text = b.text ↔ a = b :=
  ⟨ext, congrArg text⟩

end Matching

/-- `^[head][tail]{0,n}$` -/
def matchesHeadTail (head tail : Char → Bool) (n : ℕ) (text : String) : Bool :=
  match text.toList with
  | [] => false
  | c :: cs => head c && decide (cs.length ≤ n) && cs.all tail

def isUpperAscii (c : Char) : Bool := 'A' ≤ c && c ≤ 'Z'
def isLowerAscii (c : Char) : Bool := 'a' ≤ c && c ≤ 'z'
def isDigitAscii (c : Char) : Bool := '0' ≤ c && c ≤ '9'
def isAlphanumericAscii (c : Char) : Bool := isUpperAscii c || isLowerAscii c || isDigitAscii c

/-- `^[0-9a-f]{low,high}$` -/
def matchesLowerHexRange (low high : ℕ) (text : String) : Bool :=
  decide (low ≤ text.toList.length) && decide (text.toList.length ≤ high) &&
    text.toList.all isLowerHexChar

/-! ## Sorting -/

section Sorting

variable {α : Type*} {β : Type*} [LinearOrder β]

/-- `sorted(values, key=key)`. -/
def sortedBy (key : α → β) (values : List α) : List α :=
  values.insertionSort fun a b => key a ≤ key b

/-- `sorted(texts)`. -/
def sortedText (texts : List String) : List String := sortedBy id texts

theorem sortedBy_perm (key : α → β) (values : List α) : (sortedBy key values).Perm values :=
  List.perm_insertionSort _ _

theorem pairwise_sortedBy (key : α → β) (values : List α) :
    (sortedBy key values).Pairwise fun a b => key a ≤ key b := by
  have : Std.Total fun a b : α => key a ≤ key b := ⟨fun a b => le_total (key a) (key b)⟩
  have : IsTrans α fun a b => key a ≤ key b := ⟨fun _ _ _ hab hbc => hab.trans hbc⟩
  exact List.pairwise_insertionSort _ _

/-- A sort by a key that tells the values apart forgets the order they came in. -/
theorem sortedBy_eq_of_perm {key : α → β} {values values' : List α} (h : values.Perm values')
    (hkey : ∀ a ∈ values, ∀ b ∈ values, key a = key b → a = b) :
    sortedBy key values = sortedBy key values' := by
  have hperm : (sortedBy key values).Perm (sortedBy key values') :=
    (sortedBy_perm key values).trans (h.trans (sortedBy_perm key values').symm)
  refine hperm.eq_of_pairwise ?_ (pairwise_sortedBy key values) (pairwise_sortedBy key values')
  intro a b ha hb hab hba
  have ha' := (sortedBy_perm key values).mem_iff.mp ha
  have hb' := h.mem_iff.mpr ((sortedBy_perm key values').mem_iff.mp hb)
  exact hkey a ha' b hb' (le_antisymm hab hba)

theorem sortedText_eq_of_perm {texts texts' : List String} (h : texts.Perm texts') :
    sortedText texts = sortedText texts' :=
  sortedBy_eq_of_perm h fun _ _ _ _ heq => heq

theorem sortedText_eq_nil_iff {texts : List String} : sortedText texts = [] ↔ texts = [] := by
  constructor
  · intro h
    have hperm := sortedBy_perm id texts
    rw [sortedText] at h
    rw [h] at hperm
    exact hperm.symm.eq_nil
  · rintro rfl
    rfl

end Sorting
end Foundation
