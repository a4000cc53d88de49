import AmazonSimilarSearch.Review.Models
import AmazonSimilarSearch.Review.Paths

/-!
# Patterns of a task

`TaskSpec` takes its allowed and denied paths only when every pattern is a
relative POSIX path, without `..` and without control characters, and none is
given twice.
-/
namespace AmazonSimilarSearch.Review
open Foundation

-- What is asked of the characters of a text is decided by going through the text.
local instance (priority := high) decidableForallChars (p : Char → Prop) [DecidablePred p]
    (cs : List Char) : Decidable (∀ c ∈ cs, p c) := List.decidableBAll p cs

/-- `_validate_repo_pattern` -/
def validateRepoPattern (value : String) : Except ValidationError String := do
  ensure (value ≠ "" ∧ value.toList.head? ≠ some '/' ∧ value.toList.head? ≠ some '\\' ∧
      '\\' ∉ value.toList)
    (.message "path patterns must be non-empty repository-relative POSIX paths")
  ensure (".." ∉ pathParts value) (.message "path patterns must not contain '..'")
  ensure (∀ c ∈ value.toList, 32 ≤ c.toNat)
    (.message "path patterns must not contain control characters")
  pure value

/-- The field `allowed_paths` or `denied_paths`: its bounds, then `validate_paths`. -/
def validatePaths (field : String) (value : List String) :
    Except ValidationError (List String) := do
  ensure (1 ≤ value.length ∧ value.length ≤ 100) (.field field)
  let patterns ← value.mapM validateRepoPattern
  ensure patterns.Nodup (.message "path patterns must be unique")
  pure patterns

theorem validateRepoPattern_eq_ok_iff {value accepted : String} :
    validateRepoPattern value = .ok accepted ↔
      (value ≠ "" ∧ value.toList.head? ≠ some '/' ∧ value.toList.head? ≠ some '\\' ∧
        '\\' ∉ value.toList) ∧ ".." ∉ pathParts value ∧ (∀ c ∈ value.toList, 32 ≤ c.toNat) ∧
      value = accepted := by
  simp only [validateRepoPattern, bind_eq_ok_iff, ensure_eq_ok_iff, pure_eq_ok_iff,
    exists_const]

theorem pathRoot_of_relative {cs : List Char} (h : cs.head? ≠ some '/') : pathRoot cs = [] := by
  unfold pathRoot
  split
  · exact absurd rfl h
  · exact absurd rfl h
  · exact absurd rfl h
  · rfl

/-- The fields of a text have no characters of their own. -/
theorem mem_of_mem_splitAt {separator c : Char} {field cs : List Char}
    (hfield : field ∈ splitAt separator cs) (hc : c ∈ field) : c ∈ cs := by
  induction cs generalizing field with
  | nil =>
      rw [splitAt, List.mem_singleton] at hfield
      rwa [hfield] at hc
  | cons d cs ih =>
      rw [splitAt] at hfield
      split at hfield
      · rw [List.mem_cons] at hfield
        cases hfield with
        | inl hnil => exact absurd (hnil ▸ hc) List.not_mem_nil
        | inr hfield => exact List.mem_cons_of_mem d (ih hfield hc)
      · split at hfield
        · rw [List.mem_singleton] at hfield
          rw [hfield, List.mem_singleton] at hc
          rw [hc]
          exact List.mem_cons_self
        · rename_i first fields hsplit
          rw [List.mem_cons] at hfield
          cases hfield with
          | inl hfirst =>
              rw [hfirst, List.mem_cons] at hc
              cases hc with
              | inl hd =>
                  rw [hd]
                  exact List.mem_cons_self
              | inr hc =>
                  exact List.mem_cons_of_mem d (ih (by rw [hsplit]; exact List.mem_cons_self) hc)
          | inr hrest =>
              exact List.mem_cons_of_mem d
                (ih (by rw [hsplit]; exact List.mem_cons_of_mem _ hrest) hc)

/-- The parts of a relative path have no characters of their own. -/
theorem mem_of_mem_pathParts {path part : String} {c : Char}
    (hrelative : path.toList.head? ≠ some '/') (hpart : part ∈ pathParts path)
    (hc : c ∈ part.toList) : c ∈ path.toList := by
  rw [pathParts, pathRoot_of_relative hrelative, List.nil_append, List.mem_filter,
    List.mem_map] at hpart
  obtain ⟨⟨field, hfield, rfl⟩, -⟩ := hpart
  rw [String.toList_ofList] at hc
  exact mem_of_mem_splitAt hfield hc

end AmazonSimilarSearch.Review
