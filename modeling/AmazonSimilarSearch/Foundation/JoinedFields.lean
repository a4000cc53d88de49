import AmazonSimilarSearch.Foundation.Words
import Mathlib.Data.List.Basic

/-!
# Fields between separators

A text that was joined from fields without the separator is split into the same fields, and what
a text is split into holds no separator.
-/
namespace Foundation

variable {separator : Char}

theorem not_mem_of_mem_splitAt {field cs : List Char} (h : field ∈ splitAt separator cs) :
    separator ∉ field := by
  induction cs generalizing field with
  | nil =>
      rw [splitAt, List.mem_singleton] at h
      rw [h]
      exact List.not_mem_nil
  | cons c cs ih =>
      rw [splitAt] at h
      split at h
      · rcases List.mem_cons.mp h with rfl | h
        · exact List.not_mem_nil
        · exact ih h
      · next hne =>
        split at h
        · rw [List.mem_singleton] at h
          rw [h, List.mem_singleton]
          exact fun heq => hne heq.symm
        · next first fields hsplit =>
          rcases List.mem_cons.mp h with rfl | h
          · rw [List.mem_cons, not_or]
            exact ⟨fun heq => hne heq.symm, ih (hsplit ▸ List.mem_cons_self)⟩
          · exact ih (hsplit ▸ List.mem_cons_of_mem _ h)

/-- The first field ends where the separator stands. -/
theorem splitAt_append_cons {field : List Char} (h : separator ∉ field) (rest : List Char) :
    splitAt separator (field ++ separator :: rest) = field :: splitAt separator rest := by
  induction field with
  | nil => rw [List.nil_append, splitAt, if_pos rfl]
  | cons c field ih =>
      rw [List.mem_cons, not_or] at h
      rw [List.cons_append, splitAt, if_neg (Ne.symm h.1), ih h.2]

theorem splitAt_single {field : List Char} (h : separator ∉ field) :
    splitAt separator field = [field] := by
  induction field with
  | nil => rfl
  | cons c field ih =>
      rw [List.mem_cons, not_or] at h
      rw [splitAt, if_neg (Ne.symm h.1), ih h.2]

theorem splitAt_intercalate {fields : List (List Char)} (hne : fields ≠ [])
    (h : ∀ field ∈ fields, separator ∉ field) :
    splitAt separator ([separator].intercalate fields) = fields := by
  induction fields with
  | nil => exact absurd rfl hne
  | cons field fields ih =>
      obtain ⟨hfield, hfields⟩ := List.forall_mem_cons.mp h
      cases fields with
      | nil => rw [List.intercalate_singleton, splitAt_single hfield]
      | cons next fields =>
          rw [List.intercalate_cons_cons, List.append_assoc, List.singleton_append,
            splitAt_append_cons hfield, ih (List.cons_ne_nil _ _) hfields]

/-! ## The part before the first separator -/

theorem partitionAt?_append_cons {before : List Char} (h : separator ∉ before)
    (after : List Char) :
    partitionAt? separator (before ++ separator :: after) = some (before, after) := by
  induction before with
  | nil => rw [List.nil_append, partitionAt?, if_pos rfl]
  | cons c cs ih =>
      rw [List.mem_cons, not_or] at h
      rw [List.cons_append, partitionAt?, if_neg (Ne.symm h.1), ih h.2]
      rfl

theorem pyPartition?_eq {text before after : String}
    (htext : text.toList = before.toList ++ separator :: after.toList)
    (h : separator ∉ before.toList) : pyPartition? separator text = some (before, after) := by
  rw [pyPartition?, htext, partitionAt?_append_cons h, Option.map_some, String.ofList_toList,
    String.ofList_toList]

end Foundation
