import Mathlib.Data.List.Nodup

/-!
# Exploring a graph

A walk takes a node from the pending ones, skips it when it was visited before,
and otherwise finds out its successors and adds these to the pending ones. When
nothing is pending any more, exactly the nodes that can be reached from the root
have been visited, each once. The successors are those that the walk found, so
nothing is assumed of the graph.
-/
namespace Foundation

variable {α : Type}

/-- A node that can be reached over the successors that were found. -/
inductive Reaches (visits : List (α × List α)) (root : α) : α → Prop
  | root : Reaches visits root root
  | step {a b : α} {successors : List α} : Reaches visits root a → (a, successors) ∈ visits →
      b ∈ successors → Reaches visits root b

theorem Reaches.mono {visits visits' : List (α × List α)} {root a : α}
    (hsubset : visits ⊆ visits') (h : Reaches visits root a) : Reaches visits' root a := by
  induction h with
  | root => exact .root
  | step _ hvisit hmem ih => exact .step ih (hsubset hvisit) hmem

/-- The state of a walk: every visited node was visited once, every node at hand can be reached,
and no successor of a visited node is lost. -/
structure Exploring (root : α) (visits : List (α × List α)) (pending : List α) : Prop where
  nodup : (visits.map Prod.fst).Nodup
  started : root ∈ visits.map Prod.fst ∨ root ∈ pending
  visited : ∀ a ∈ visits.map Prod.fst, Reaches visits root a
  waiting : ∀ a ∈ pending, Reaches visits root a
  closed : ∀ visit ∈ visits, ∀ a ∈ visit.2, a ∈ visits.map Prod.fst ∨ a ∈ pending

namespace Exploring

variable {root a : α} {visits : List (α × List α)} {pending pending' successors : List α}

theorem start (root : α) : Exploring root [] [root] where
  nodup := List.nodup_nil
  started := Or.inr (List.mem_singleton_self root)
  visited := fun _ ha => absurd ha List.not_mem_nil
  waiting := by
    intro a ha
    rw [List.mem_singleton.mp ha]
    exact .root
  closed := fun _ hvisit => absurd hvisit List.not_mem_nil

/-- A node that was visited before is dropped. -/
theorem skip (h : Exploring root visits (a :: pending)) (ha : a ∈ visits.map Prod.fst) :
    Exploring root visits pending where
  nodup := h.nodup
  started := by
    cases h.started with
    | inl hroot => exact Or.inl hroot
    | inr hroot =>
        cases List.mem_cons.mp hroot with
        | inl heq => exact Or.inl (heq ▸ ha)
        | inr hmem => exact Or.inr hmem
  visited := h.visited
  waiting := fun b hb => h.waiting b (List.mem_cons_of_mem a hb)
  closed := by
    intro visit hvisit b hb
    cases h.closed visit hvisit b hb with
    | inl hvisited => exact Or.inl hvisited
    | inr hpending =>
        cases List.mem_cons.mp hpending with
        | inl heq => exact Or.inl (heq ▸ ha)
        | inr hmem => exact Or.inr hmem

/-- A new node is visited, and its successors wait with the other pending nodes. -/
theorem visit (h : Exploring root visits (a :: pending)) (ha : a ∉ visits.map Prod.fst)
    (hpending : ∀ b, b ∈ pending' ↔ b ∈ successors ∨ b ∈ pending) :
    Exploring root (visits ++ [(a, successors)]) pending' := by
  have hsubset : visits ⊆ visits ++ [(a, successors)] := List.subset_append_left _ _
  have hkeys {b : α} : b ∈ (visits ++ [(a, successors)]).map Prod.fst ↔
      b ∈ visits.map Prod.fst ∨ b = a := by
    rw [List.map_append, List.mem_append, List.map_singleton, List.mem_singleton]
  have hkept {b : α} (hb : b ∈ visits.map Prod.fst ∨ b ∈ a :: pending) :
      b ∈ (visits ++ [(a, successors)]).map Prod.fst ∨ b ∈ pending' := by
    rw [hkeys, hpending]
    rw [List.mem_cons] at hb
    tauto
  have hnodup : ((visits ++ [(a, successors)]).map Prod.fst).Nodup := by
    rw [List.map_append, List.map_singleton, ← List.concat_eq_append]
    exact h.nodup.concat ha
  have hreached : Reaches (visits ++ [(a, successors)]) root a :=
    (h.waiting a List.mem_cons_self).mono hsubset
  constructor
  · exact hnodup
  · exact hkept h.started
  · intro b hb
    cases hkeys.mp hb with
    | inl hvisited => exact (h.visited b hvisited).mono hsubset
    | inr heq => exact heq ▸ hreached
  · intro b hb
    cases (hpending b).mp hb with
    | inl hnew =>
        exact .step hreached (List.mem_append_right _ (List.mem_singleton_self _)) hnew
    | inr hold => exact (h.waiting b (List.mem_cons_of_mem a hold)).mono hsubset
  · intro entry hentry b hb
    cases List.mem_append.mp hentry with
    | inl hold => exact hkept (h.closed entry hold b hb)
    | inr hnew =>
        rw [List.mem_singleton.mp hnew] at hb
        exact Or.inr ((hpending b).mpr (Or.inl hb))

/-- At the end exactly the nodes that can be reached have been visited. -/
theorem mem_iff_reaches (h : Exploring root visits []) :
    a ∈ visits.map Prod.fst ↔ Reaches visits root a := by
  constructor
  · exact h.visited a
  · intro hreaches
    induction hreaches with
    | root => exact h.started.resolve_right List.not_mem_nil
    | step _ hvisit hmem _ => exact (h.closed _ hvisit _ hmem).resolve_right List.not_mem_nil

end Exploring

end Foundation
