import Mathlib.Tactic.Common

/-!
# Steps that may raise

A step changes a state, and returns or raises. What it changed before it raised stays
changed, so a step that follows in any case, as in a `finally` block, starts from there.
-/
namespace Foundation

/-- Whether the step returns, and the state after it. -/
abbrev RaisingStep (σ : Type) := σ → Bool × σ

namespace RaisingStep

variable {σ : Type} {first second last : RaisingStep σ} {state after : σ}

/-- The step that changes the state, and always returns. -/
def change (f : σ → σ) : RaisingStep σ := fun state => (true, f state)

/-- The step that only returns or raises. -/
def check (returns : Bool) : RaisingStep σ := fun state => (returns, state)

/-- The second step follows where the first one returns. -/
def andThen (first second : RaisingStep σ) : RaisingStep σ := fun state =>
  if (first state).1 then second (first state).2 else first state

/-- `try: first finally: last` -/
def inAnyCase (first last : RaisingStep σ) : RaisingStep σ := fun state =>
  ((first state).1 && (last (first state).2).1, (last (first state).2).2)

/-- The steps one after the other, until one of them raises. -/
def inOrder (steps : List (RaisingStep σ)) : RaisingStep σ := steps.foldr andThen (check true)

@[simp] theorem inOrder_nil : inOrder ([] : List (RaisingStep σ)) = check true := rfl

@[simp] theorem inOrder_cons (step : RaisingStep σ) (steps : List (RaisingStep σ)) :
    inOrder (step :: steps) = step.andThen (inOrder steps) := rfl

theorem andThen_of_returns (h : first state = (true, after)) :
    first.andThen second state = second after := by
  rw [andThen, h]
  rfl

theorem andThen_of_raises (h : (first state).1 = false) :
    first.andThen second state = first state := by
  rw [andThen, h]
  rfl

theorem returns_andThen :
    (first.andThen second state).1 = true ↔
      (first state).1 = true ∧ (second (first state).2).1 = true := by
  rw [andThen]
  cases h : (first state).1 with
  | true => simp
  | false => simp [h]

/-! ## What steps keep -/

/-- The step keeps what is known of the state, also where it raises. -/
def Keeps (step : RaisingStep σ) (known : σ → Prop) : Prop :=
  ∀ state, known state → known (step state).2

variable {known : σ → Prop}

theorem keeps_check (returns : Bool) : (check returns).Keeps known := fun _ h => h

theorem keeps_change {f : σ → σ} (h : ∀ state, known state → known (f state)) :
    (change f).Keeps known := h

theorem Keeps.andThen (hfirst : first.Keeps known) (hsecond : second.Keeps known) :
    (first.andThen second).Keeps known := by
  intro state hstate
  have hafter := hfirst state hstate
  rw [RaisingStep.andThen]
  split
  · exact hsecond _ hafter
  · exact hafter

theorem Keeps.inAnyCase (hfirst : first.Keeps known) (hlast : last.Keeps known) :
    (first.inAnyCase last).Keeps known :=
  fun state hstate => hlast _ (hfirst state hstate)

/-- Steps in order keep what each of them keeps. -/
theorem keeps_inOrder {steps : List (RaisingStep σ)} (h : ∀ step ∈ steps, step.Keeps known) :
    (inOrder steps).Keeps known := by
  induction steps with
  | nil => exact keeps_check true
  | cons step steps ih =>
      rw [List.forall_mem_cons] at h
      exact h.1.andThen (ih h.2)

end RaisingStep
end Foundation
