import Mathlib.Data.Finset.Basic
import Mathlib.Data.Finset.Dedup
import Mathlib.Data.List.Nodup
import Mathlib.Logic.Function.Basic
import Mathlib.Tactic.Common

/-!
# Exclusive holdings

Parties share a store and each holds some of its places with the contents it
left there. A place is taken only when it is free, and only its holder changes
or frees it; so what a party holds stays as it left it, whatever the others do.

`Accounts` is the same for a pool of keys that are only ever used up: each used
key is charged to one party, or to the state of the pool at the start.
-/
namespace Foundation

universe u v w

variable {ι : Type u} {π : Type v} {γ : Type w}

/-- Every holding is in the store, and no place is held twice. -/
structure Held (store : π → Option γ) (holdings : ι → List (π × γ)) : Prop where
  stored : ∀ i, ∀ entry ∈ holdings i, store entry.1 = some entry.2
  nodup : ∀ i, ((holdings i).map Prod.fst).Nodup
  apart : ∀ i j, i ≠ j → ∀ a ∈ holdings i, ∀ b ∈ holdings j, a.1 ≠ b.1

namespace Held

variable {store : π → Option γ} {holdings : ι → List (π × γ)} {i : ι}

theorem empty (store : π → Option γ) : Held store fun _ : ι => [] :=
  ⟨by simp, by simp, by simp⟩

variable [DecidableEq ι]

/-- A place that `i` alone may hold: the others hold other places. -/
theorem update (h : Held store holdings) {entries : List (π × γ)} {store' : π → Option γ}
    (hstored : ∀ entry ∈ entries, store' entry.1 = some entry.2)
    (hnodup : (entries.map Prod.fst).Nodup)
    (hothers : ∀ j, j ≠ i → ∀ b ∈ holdings j, store' b.1 = store b.1)
    (hapart : ∀ j, j ≠ i → ∀ a ∈ entries, ∀ b ∈ holdings j, a.1 ≠ b.1) :
    Held store' (Function.update holdings i entries) := by
  constructor
  · intro j entry hentry
    by_cases hj : j = i
    · subst hj
      rw [Function.update_self] at hentry
      exact hstored entry hentry
    · rw [Function.update_of_ne hj] at hentry
      rw [hothers j hj entry hentry]
      exact h.stored j entry hentry
  · intro j
    by_cases hj : j = i
    · subst hj
      rwa [Function.update_self]
    · rw [Function.update_of_ne hj]
      exact h.nodup j
  · intro j k hjk a ha b hb
    by_cases hj : j = i
    · subst hj
      rw [Function.update_self] at ha
      rw [Function.update_of_ne (Ne.symm hjk)] at hb
      exact hapart k (Ne.symm hjk) a ha b hb
    · rw [Function.update_of_ne hj] at ha
      by_cases hk : k = i
      · subst hk
        rw [Function.update_self] at hb
        exact (hapart j hj b hb a ha).symm
      · rw [Function.update_of_ne hk] at hb
        exact h.apart j k hjk a ha b hb

/-- A party gives up what it holds. -/
theorem release (h : Held store holdings) (i : ι) :
    Held store (Function.update holdings i []) :=
  h.update (by simp) (by simp) (fun _ _ _ _ => rfl) (by simp)

variable [DecidableEq π]

/-- A party takes a place that is free. -/
theorem take (h : Held store holdings) {place : π} {content : γ} (hfree : store place = none) :
    Held (Function.update store place (some content))
      (Function.update holdings i (holdings i ++ [(place, content)])) := by
  have hne : ∀ j, ∀ entry ∈ holdings j, entry.1 ≠ place := by
    rintro j entry hentry rfl
    have hstored := h.stored j entry hentry
    simp [hfree] at hstored
  refine h.update ?_ ?_ ?_ ?_
  · intro entry hentry
    rcases List.mem_append.mp hentry with hold | hnew
    · rw [Function.update_of_ne (hne i entry hold)]
      exact h.stored i entry hold
    · rw [List.mem_singleton.mp hnew, Function.update_self]
  · rw [List.map_append, List.nodup_append]
    refine ⟨h.nodup i, by simp, ?_⟩
    intro p hp q hq
    obtain ⟨entry, hentry, rfl⟩ := List.mem_map.mp hp
    rw [List.map_singleton, List.mem_singleton] at hq
    rw [hq]
    exact hne i entry hentry
  · intro j _ b hb
    rw [Function.update_of_ne (hne j b hb)]
  · intro j hj a ha b hb
    rcases List.mem_append.mp ha with hold | hnew
    · exact h.apart i j (Ne.symm hj) a hold b hb
    · rw [List.mem_singleton.mp hnew]
      exact (hne j b hb).symm

/-- A party changes the last place it took. -/
theorem rewrite (h : Held store holdings) {kept : List (π × γ)} {place : π} {content next : γ}
    (hlast : holdings i = kept ++ [(place, content)]) :
    Held (Function.update store place (some next))
      (Function.update holdings i (kept ++ [(place, next)])) := by
  have hnodup := h.nodup i
  rw [hlast, List.map_append, List.nodup_append] at hnodup
  have hkept : ∀ entry ∈ kept, entry.1 ≠ place := fun entry hentry =>
    hnodup.2.2 entry.1 (List.mem_map_of_mem hentry) place (by simp)
  have hothers : ∀ j, j ≠ i → ∀ b ∈ holdings j, b.1 ≠ place := fun j hj b hb =>
    h.apart j i hj b hb (place, content) (by simp [hlast])
  refine h.update ?_ ?_ ?_ ?_
  · intro entry hentry
    rcases List.mem_append.mp hentry with hold | hnew
    · rw [Function.update_of_ne (hkept entry hold)]
      exact h.stored i entry (by simp [hlast, hold])
    · rw [List.mem_singleton.mp hnew, Function.update_self]
  · rw [List.map_append, List.nodup_append]
    exact ⟨hnodup.1, by simp, by simpa using hnodup.2.2⟩
  · intro j hj b hb
    rw [Function.update_of_ne (hothers j hj b hb)]
  · intro j hj a ha b hb
    rcases List.mem_append.mp ha with hold | hnew
    · exact h.apart i j (Ne.symm hj) a (by simp [hlast, hold]) b hb
    · rw [List.mem_singleton.mp hnew]
      exact (hothers j hj b hb).symm

/-- A party frees the last place it took and gives up the rest. -/
theorem remove (h : Held store holdings) {kept : List (π × γ)} {place : π} {content : γ}
    (hlast : holdings i = kept ++ [(place, content)]) :
    Held (Function.update store place none) (Function.update holdings i []) := by
  refine h.update (by simp) (by simp) ?_ (by simp)
  intro j hj b hb
  rw [Function.update_of_ne (h.apart j i hj b hb (place, content) (by simp [hlast]))]

end Held

/-- The used keys are those used at the start and those the parties took, each once. -/
structure Accounts [DecidableEq π] (initial used : Finset π) (taken : ι → List π) : Prop where
  used_iff : ∀ key, key ∈ used ↔ key ∈ initial ∨ ∃ i, key ∈ taken i
  fresh : ∀ i, ∀ key ∈ taken i, key ∉ initial
  apart : ∀ i j, i ≠ j → ∀ key ∈ taken i, key ∉ taken j

namespace Accounts

variable [DecidableEq π] {initial used : Finset π} {taken : ι → List π} {i : ι}

theorem start (initial : Finset π) : Accounts initial initial fun _ : ι => [] :=
  ⟨by simp, by simp, by simp⟩

variable [DecidableEq ι]

/-- A party that has nothing takes keys that are not used. -/
theorem take (h : Accounts initial used taken) (hnone : taken i = []) {keys : List π}
    (hfresh : ∀ key ∈ keys, key ∉ used) :
    Accounts initial (used ∪ keys.toFinset) (Function.update taken i keys) := by
  have hothers : ∀ j, ∀ key ∈ keys, key ∉ taken j := fun j key hkey htaken =>
    hfresh key hkey ((h.used_iff key).mpr (.inr ⟨j, htaken⟩))
  constructor
  · intro key
    rw [Finset.mem_union, List.mem_toFinset, h.used_iff]
    constructor
    · rintro ((hinitial | ⟨j, hj⟩) | hkey)
      · exact .inl hinitial
      · have hne : j ≠ i := by
          rintro rfl
          rw [hnone] at hj
          cases hj
        exact .inr ⟨j, by rwa [Function.update_of_ne hne]⟩
      · exact .inr ⟨i, by rwa [Function.update_self]⟩
    · rintro (hinitial | ⟨j, hj⟩)
      · exact .inl (.inl hinitial)
      · by_cases hne : j = i
        · subst hne
          rw [Function.update_self] at hj
          exact .inr hj
        · rw [Function.update_of_ne hne] at hj
          exact .inl (.inr ⟨j, hj⟩)
  · intro j key hkey
    by_cases hne : j = i
    · subst hne
      rw [Function.update_self] at hkey
      exact fun hinitial => hfresh key hkey ((h.used_iff key).mpr (.inl hinitial))
    · rw [Function.update_of_ne hne] at hkey
      exact h.fresh j key hkey
  · intro j k hjk key hj hk
    by_cases hji : j = i
    · subst hji
      rw [Function.update_self] at hj
      rw [Function.update_of_ne (Ne.symm hjk)] at hk
      exact hothers k key hj hk
    · rw [Function.update_of_ne hji] at hj
      by_cases hki : k = i
      · subst hki
        rw [Function.update_self] at hk
        exact hothers j key hk hj
      · rw [Function.update_of_ne hki] at hk
        exact h.apart j k hjk key hj hk

end Accounts
end Foundation
