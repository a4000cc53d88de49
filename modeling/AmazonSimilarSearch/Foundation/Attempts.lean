import Mathlib.Algebra.BigOperators.Group.List.Basic
import Mathlib.Algebra.Order.BigOperators.Group.List
import Mathlib.Data.List.Sort
import Mathlib.Tactic.Common
import Mathlib.Algebra.Ring.Int.Defs

/-!
# Numbered attempts and what they add up to

Attempts under one key are numbered from one in the order in which they are
made. A stable sort that respects the numbers of every key only moves attempts
of different keys past each other, so each key finds its own again in order;
and weights that are positive make the total tell how far a log had come.
-/
namespace Foundation

universe u
variable {α : Type u}

/-- `list(range(1, n + 1))` -/
def countUp (n : ℕ) : List ℤ := (List.range n).map fun i : ℕ => (i : ℤ) + 1

@[simp] theorem length_countUp (n : ℕ) : (countUp n).length = n := by simp [countUp]

theorem countUp_succ (n : ℕ) : countUp (n + 1) = countUp n ++ [(n : ℤ) + 1] := by
  simp [countUp, List.range_succ]

theorem pairwise_countUp (n : ℕ) : (countUp n).Pairwise (· < ·) := by
  rw [countUp, List.pairwise_map]
  exact List.pairwise_lt_range.imp fun h => by omega

theorem countUp_injective {m n : ℕ} (h : countUp m = countUp n) : m = n := by
  simpa using congrArg List.length h

/-- The attempts are numbered from one, in order. -/
def Numbered (number : α → ℤ) (xs : List α) : Prop := xs.map number = countUp xs.length

instance (number : α → ℤ) (xs : List α) : Decidable (Numbered number xs) :=
  inferInstanceAs (Decidable (_ = _))

section Numbered

variable {number : α → ℤ} {xs : List α} {x : α}

theorem numbered_nil : Numbered number [] := rfl

theorem numbered_concat (h : Numbered number xs) (hx : number x = xs.length + 1) :
    Numbered number (xs ++ [x]) := by
  unfold Numbered at h ⊢
  rw [List.map_append, h, List.length_append, List.length_singleton, countUp_succ]
  simp [hx]

/-- The last attempt tells how many there were. -/
theorem Numbered.number_last (h : Numbered number (xs ++ [x])) : number x = xs.length + 1 := by
  unfold Numbered at h
  rw [List.map_append, List.length_append, List.length_singleton, countUp_succ] at h
  have hlast := List.append_inj_right' h (by simp)
  simpa using hlast

theorem Numbered.pairwise_lt (h : Numbered number xs) :
    xs.Pairwise fun a b => number a < number b := by
  rw [← List.pairwise_map (f := number) (R := (· < ·)), show xs.map number = _ from h]
  exact pairwise_countUp _

theorem Numbered.number_le (h : Numbered number xs) (hx : x ∈ xs) : number x ≤ xs.length := by
  have hmem : number x ∈ countUp xs.length := h ▸ List.mem_map_of_mem hx
  simp only [countUp, List.mem_map, List.mem_range] at hmem
  obtain ⟨i, hi, hnumber⟩ := hmem
  omega

end Numbered

/-- What is in order already stays as it is, also where it is one of several interleaved
lists. -/
theorem filter_mergeSort {le : α → α → Bool} (htrans : ∀ a b c, le a b → le b c → le a c)
    (htotal : ∀ a b, le a b || le b a) {p : α → Bool} {xs : List α}
    (h : (xs.filter p).Pairwise fun a b => le a b) : (xs.mergeSort le).filter p = xs.filter p := by
  have hsublist : (xs.filter p).Sublist (xs.mergeSort le) :=
    List.sublist_mergeSort htrans htotal h List.filter_sublist
  have hfilter : (xs.filter p).Sublist ((xs.mergeSort le).filter p) := by
    simpa [List.filter_filter] using hsublist.filter p
  have hlength : ((xs.mergeSort le).filter p).length = (xs.filter p).length :=
    ((List.mergeSort_perm xs le).filter p).length_eq
  exact (hfilter.eq_of_length hlength.symm).symm

section Totals

variable {weight : α → ℤ} {xs before after : List α}

theorem sum_map_mergeSort (weight : α → ℤ) (le : α → α → Bool) (xs : List α) :
    ((xs.mergeSort le).map weight).sum = (xs.map weight).sum :=
  ((List.mergeSort_perm xs le).map weight).sum_eq

theorem sum_map_nonneg (h : ∀ x ∈ xs, 0 < weight x) : 0 ≤ (xs.map weight).sum :=
  List.sum_nonneg fun w hw => by
    obtain ⟨x, hx, rfl⟩ := List.mem_map.mp hw
    exact (h x hx).le

theorem sum_map_le_append (h : ∀ x ∈ before ++ after, 0 < weight x) :
    (before.map weight).sum ≤ ((before ++ after).map weight).sum := by
  have hafter : 0 ≤ (after.map weight).sum :=
    sum_map_nonneg fun x hx => h x (List.mem_append_right _ hx)
  rw [List.map_append, List.sum_append]
  omega

/-- Positive weights: a log that has come further has the greater total. -/
theorem sum_map_lt_append (h : ∀ x ∈ before ++ after, 0 < weight x) (hafter : after ≠ []) :
    (before.map weight).sum < ((before ++ after).map weight).sum := by
  obtain ⟨x, rest, rfl⟩ := List.exists_cons_of_ne_nil hafter
  have hx : 0 < weight x := h x (by simp)
  have hrest : 0 ≤ (rest.map weight).sum :=
    sum_map_nonneg fun y hy => h y (List.mem_append_right _ (List.mem_cons_of_mem _ hy))
  rw [List.map_append, List.sum_append, List.map_cons, List.sum_cons]
  omega

end Totals
end Foundation
