import AmazonSimilarSearch.Foundation.Checked

/-!
# Runs of a state machine

A machine takes one operation after another, whoever asks for it: every
interleaving of its callers is one list of operations. What one step keeps, a
run keeps; and where a run loses what it had, one step lost it.

A `transaction` works on a copy of the state and gives the copy up when it
raises.
-/
namespace Foundation

universe u v

section Runs

variable {σ : Type u} {ι : Type v} {step : σ → ι → σ}

/-- An invariant of one step is an invariant of a run. -/
theorem foldl_invariant {I : σ → Prop} (hstep : ∀ s op, I s → I (step s op)) :
    ∀ (ops : List ι) (s : σ), I s → I (ops.foldl step s) := by
  intro ops
  induction ops with
  | nil => exact fun s hs => hs
  | cons op ops ih => exact fun s hs => ih (step s op) (hstep s op hs)

/-- A reflexive and transitive relation that holds across one step holds across a run. -/
theorem foldl_related {R : σ → σ → Prop} (hrefl : ∀ s, R s s)
    (htrans : ∀ {a b c}, R a b → R b c → R a c) (hstep : ∀ s op, R s (step s op)) :
    ∀ (ops : List ι) (s : σ), R s (ops.foldl step s) := by
  intro ops
  induction ops with
  | nil => exact hrefl
  | cons op ops ih => exact fun s => htrans (hstep s op) (ih (step s op))

/-- A run that loses a property loses it in one of its steps. -/
theorem foldl_loses {P : σ → Prop} :
    ∀ (ops : List ι) (s : σ), P s → ¬ P (ops.foldl step s) →
      ∃ before op after, ops = before ++ op :: after ∧ P (before.foldl step s) ∧
        ¬ P (step (before.foldl step s) op) := by
  intro ops
  induction ops with
  | nil => exact fun s hs hlost => absurd hs hlost
  | cons op ops ih =>
      intro s hs hlost
      by_cases hnext : P (step s op)
      · obtain ⟨before, lost, after, rfl, hbefore, hafter⟩ := ih (step s op) hnext hlost
        exact ⟨op :: before, lost, after, rfl, hbefore, hafter⟩
      · exact ⟨[], op, ops, rfl, hs, hnext⟩

/-- `P` holds of every operation of a run and the state it finds. -/
def AlongRun (step : σ → ι → σ) (P : σ → ι → Prop) : σ → List ι → Prop
  | _, [] => True
  | s, op :: ops => P s op ∧ AlongRun step P (step s op) ops

/-- What a step keeps where `P` holds, a run keeps where `P` holds along it. -/
theorem foldl_invariant_along {I : σ → Prop} {P : σ → ι → Prop}
    (hstep : ∀ s op, I s → P s op → I (step s op)) :
    ∀ (ops : List ι) (s : σ), I s → AlongRun step P s ops → I (ops.foldl step s) := by
  intro ops
  induction ops with
  | nil => exact fun s hs _ => hs
  | cons op ops ih => exact fun s hs hP => ih (step s op) (hstep s op hs hP.1) hP.2

end Runs

section Transactions

variable {ε σ : Type u}

/-- `BEGIN … COMMIT`, with `ROLLBACK` when the body raises: what is reported, and the state
after it. -/
def transaction (body : σ → Except ε σ) (s : σ) : Except ε PUnit × σ :=
  match body s with
  | .ok next => (.ok ⟨⟩, next)
  | .error e => (.error e, s)

theorem transaction_ok_iff {body : σ → Except ε σ} {s next : σ} {u : PUnit} :
    transaction body s = (.ok u, next) ↔ body s = .ok next := by
  unfold transaction
  cases body s <;> simp

theorem transaction_error {body : σ → Except ε σ} {s : σ} {e : ε}
    (h : (transaction body s).1 = .error e) : (transaction body s).2 = s := by
  unfold transaction at h ⊢
  cases hbody : body s with
  | ok next => simp [hbody] at h
  | error e => rfl

/-- A transaction leaves the state alone or commits what its body made of it. -/
theorem transaction_cases (body : σ → Except ε σ) (s : σ) :
    (transaction body s).2 = s ∨ body s = .ok (transaction body s).2 := by
  unfold transaction
  cases hbody : body s with
  | ok next => exact .inr rfl
  | error e => exact .inl rfl

/-- A transaction that also returns a value. -/
def transact {α : Type u} (body : σ → Except ε (α × σ)) (s : σ) : Except ε α × σ :=
  match body s with
  | .ok (a, next) => (.ok a, next)
  | .error e => (.error e, s)

theorem transact_of_ok {α : Type u} {body : σ → Except ε (α × σ)} {s next : σ} {a : α}
    (h : body s = .ok (a, next)) : transact body s = (.ok a, next) := by
  simp [transact, h]

theorem transact_of_error {α : Type u} {body : σ → Except ε (α × σ)} {s : σ} {e : ε}
    (h : body s = .error e) : transact body s = (.error e, s) := by
  simp [transact, h]

end Transactions
end Foundation
