import Mathlib.Logic.Embedding.Basic
import Mathlib.Logic.Function.Basic

/-!
# Content-addressed files

The files of a directory are named by a key of what their content was computed
from. `Addressed` says that every file holds what the source of its name
computes, where `Computes` relates a source and its results.
-/
namespace Foundation

universe u v w

variable {Source : Type u} {Key : Type v} {Value : Type w}

/-- Every file is named by a source, and holds what that source computes. -/
def Addressed (key : Source ↪ Key) (Computes : Source → Value → Prop)
    (files : Key → Option Value) : Prop :=
  ∀ k value, files k = some value → ∃ source, key source = k ∧ Computes source value

variable {key : Source ↪ Key} {Computes : Source → Value → Prop} {files : Key → Option Value}

theorem addressed_empty : Addressed key Computes (fun _ => none) := by
  intro k value h
  cases h

/-- The file of a source holds a result of this very source. -/
theorem Addressed.computes (h : Addressed key Computes files) {source : Source} {value : Value}
    (hfile : files (key source) = some value) : Computes source value := by
  obtain ⟨named, hkey, hcomputes⟩ := h (key source) value hfile
  rw [← key.injective hkey]
  exact hcomputes

theorem Addressed.update [DecidableEq Key] (h : Addressed key Computes files) {source : Source}
    {value : Value} (hvalue : Computes source value) :
    Addressed key Computes (Function.update files (key source) (some value)) := by
  intro k stored hstored
  by_cases hk : k = key source
  · subst hk
    rw [Function.update_self, Option.some.injEq] at hstored
    subst hstored
    exact ⟨source, rfl, hvalue⟩
  · rw [Function.update_of_ne hk] at hstored
    exact h k stored hstored

end Foundation
