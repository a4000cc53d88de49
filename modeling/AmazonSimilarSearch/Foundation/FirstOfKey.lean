import Mathlib.Data.List.Pairwise

/-!
# The first of every key

Of a list the first element with every key is kept, in order. A coarser key
keeps the same elements exactly when it tells apart all keys that occur.
-/
namespace Foundation

variable {α κ μ : Type} [DecidableEq κ] [DecidableEq μ]

/-- The elements whose key is new; `seen` are the keys of the elements kept before. -/
def firstOfKey (key : α → κ) (seen : List κ) : List α → List α
  | [] => []
  | a :: as =>
      if key a ∈ seen then firstOfKey key seen as else a :: firstOfKey key (key a :: seen) as

variable {key : α → κ} {seen : List κ} {as : List α} {a : α}

theorem firstOfKey_cons : firstOfKey key seen (a :: as) =
    if key a ∈ seen then firstOfKey key seen as else a :: firstOfKey key (key a :: seen) as := rfl

theorem firstOfKey_sublist (key : α → κ) (seen : List κ) (as : List α) :
    (firstOfKey key seen as).Sublist as := by
  induction as generalizing seen with
  | nil => exact List.Sublist.refl []
  | cons a as ih =>
      rw [firstOfKey_cons]
      split
      · exact (ih seen).cons a
      · exact (ih (key a :: seen)).cons_cons a

theorem not_mem_seen_of_firstOfKey (h : a ∈ firstOfKey key seen as) : key a ∉ seen := by
  induction as generalizing seen with
  | nil => exact absurd h List.not_mem_nil
  | cons b as ih =>
      rw [firstOfKey_cons] at h
      split at h
      · exact ih h
      · rename_i hb
        cases List.mem_cons.mp h with
        | inl heq => exact heq ▸ hb
        | inr hmem => exact fun hseen => ih hmem (List.mem_cons_of_mem _ hseen)

/-- No two elements that are kept have the same key. -/
theorem firstOfKey_pairwise (key : α → κ) (seen : List κ) (as : List α) :
    (firstOfKey key seen as).Pairwise fun a b => key a ≠ key b := by
  induction as generalizing seen with
  | nil => exact List.Pairwise.nil
  | cons a as ih =>
      rw [firstOfKey_cons]
      split
      · exact ih seen
      · refine List.Pairwise.cons ?_ (ih (key a :: seen))
        intro b hb heq
        exact not_mem_seen_of_firstOfKey hb (heq ▸ List.mem_cons_self)

/-- For every element one with its key has been kept. -/
theorem exists_firstOfKey (key : α → κ) (seen : List κ) (h : a ∈ as) :
    key a ∈ seen ∨ ∃ b ∈ firstOfKey key seen as, key b = key a := by
  induction as generalizing seen with
  | nil => exact absurd h List.not_mem_nil
  | cons b as ih =>
      rw [firstOfKey_cons]
      split
      · rename_i hb
        cases List.mem_cons.mp h with
        | inl heq => exact Or.inl (heq ▸ hb)
        | inr hmem => exact ih seen hmem
      · cases List.mem_cons.mp h with
        | inl heq => exact Or.inr ⟨b, List.mem_cons_self, by rw [heq]⟩
        | inr hmem =>
            cases ih (key b :: seen) hmem with
            | inl hseen =>
                cases List.mem_cons.mp hseen with
                | inl heq => exact Or.inr ⟨b, List.mem_cons_self, heq.symm⟩
                | inr hseen => exact Or.inl hseen
            | inr hkept =>
                obtain ⟨c, hc, heq⟩ := hkept
                exact Or.inr ⟨c, List.mem_cons_of_mem b hc, heq⟩

/-- Elements whose keys differ are all kept. -/
theorem firstOfKey_eq_self (hseen : ∀ a ∈ as, key a ∉ seen)
    (h : as.Pairwise fun a b => key a ≠ key b) : firstOfKey key seen as = as := by
  induction as generalizing seen with
  | nil => rfl
  | cons a as ih =>
      obtain ⟨hfirst, hrest⟩ := List.pairwise_cons.mp h
      rw [firstOfKey_cons, if_neg (hseen a List.mem_cons_self), ih _ hrest]
      intro b hb hmem
      cases List.mem_cons.mp hmem with
      | inl heq => exact hfirst b hb heq.symm
      | inr hmem => exact hseen b (List.mem_cons_of_mem a hb) hmem

/-- An element is kept or dropped by what has been kept before it. -/
theorem firstOfKey_append (key : α → κ) (seen : List κ) (before after : List α) :
    firstOfKey key seen (before ++ after) = firstOfKey key seen before ++
      firstOfKey key (((firstOfKey key seen before).map key).reverse ++ seen) after := by
  induction before generalizing seen with
  | nil => rfl
  | cons a before ih =>
      rw [List.cons_append, firstOfKey_cons, firstOfKey_cons]
      split
      · exact ih seen
      · rw [ih, List.cons_append, List.map_cons, List.reverse_cons, List.append_assoc,
          List.singleton_append]

/-- Keys that agree on what is equal keep the same elements. -/
theorem firstOfKey_congr {fine : α → μ} {seen' : List μ}
    (hseen : ∀ a ∈ as, key a ∈ seen ↔ fine a ∈ seen')
    (hkey : ∀ a ∈ as, ∀ b ∈ as, key a = key b ↔ fine a = fine b) :
    firstOfKey key seen as = firstOfKey fine seen' as := by
  induction as generalizing seen seen' with
  | nil => rfl
  | cons a as ih =>
      obtain ⟨ha, hrest⟩ := List.forall_mem_cons.mp hseen
      have hkey' : ∀ b ∈ as, ∀ c ∈ as, key b = key c ↔ fine b = fine c := fun b hb c hc =>
        hkey b (List.mem_cons_of_mem a hb) c (List.mem_cons_of_mem a hc)
      rw [firstOfKey_cons, firstOfKey_cons, ih hrest hkey']
      by_cases hold : key a ∈ seen
      · rw [if_pos hold, if_pos (ha.mp hold)]
      · rw [if_neg hold, if_neg fun h => hold (ha.mpr h)]
        congr 1
        apply ih _ hkey'
        intro b hb
        rw [List.mem_cons, List.mem_cons, hrest b hb,
          hkey b (List.mem_cons_of_mem a hb) a List.mem_cons_self]

/-- A coarser key keeps the same elements exactly when it is injective on the keys that occur. -/
theorem firstOfKey_coarser_iff (fine : α → μ) (coarse : μ → κ) (as : List α) :
    firstOfKey (fun a => coarse (fine a)) [] as = firstOfKey fine [] as ↔
      ∀ a ∈ as, ∀ b ∈ as, coarse (fine a) = coarse (fine b) → fine a = fine b := by
  constructor
  · intro h a ha b hb hcoarse
    obtain ⟨c, hc, hca⟩ := (exists_firstOfKey fine [] ha).resolve_left
      List.not_mem_nil
    obtain ⟨d, hd, hdb⟩ := (exists_firstOfKey fine [] hb).resolve_left
      List.not_mem_nil
    have hsame : coarse (fine c) = coarse (fine d) := by rw [hca, hdb, hcoarse]
    have hapart := firstOfKey_pairwise (fun a => coarse (fine a)) [] as
    rw [h] at hapart
    by_contra hne
    have hcd : c ≠ d := by
      intro heq
      exact hne (hca.symm.trans ((congrArg fine heq).trans hdb))
    have hsymm : Std.Symm fun a b => coarse (fine a) ≠ coarse (fine b) :=
      ⟨fun _ _ hapart => hapart.symm⟩
    exact hapart.forall hc hd hcd hsame
  · intro h
    apply firstOfKey_congr
    · intro a _
      exact ⟨fun hmem => absurd hmem List.not_mem_nil, fun hmem => absurd hmem List.not_mem_nil⟩
    · intro a ha b hb
      exact ⟨h a ha b hb, fun heq => congrArg coarse heq⟩

end Foundation
