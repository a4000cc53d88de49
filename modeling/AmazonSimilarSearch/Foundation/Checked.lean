import Mathlib.Data.List.Basic
import Mathlib.Data.List.Chain
import Mathlib.Data.List.Forall2
import Mathlib.Tactic.Common

/-!
# Checked computations

A program that raises is a computation in `Except`. `ensure` is a guard, and
`Returned P` says that what a computation returns satisfies `P`: nothing is
promised of a computation that raises. The lemmas invert one guard or one bind
at a time, so a proof takes a long chain of checks apart without unfolding it.
-/
namespace Foundation

universe u v

variable {ε α β : Type u}

/-- `if not p: raise e`. -/
def ensure (p : Prop) [Decidable p] (e : ε) : Except ε PUnit :=
  if p then .ok ⟨⟩ else .error e

/-- A missing value raises. -/
def required (e : ε) : Option α → Except ε α
  | some a => .ok a
  | none => .error e

/-- Whatever the computation returns satisfies `P`. -/
def Returned (P : α → Prop) : Except ε α → Prop
  | .ok a => P a
  | .error _ => True

@[simp] theorem ensure_eq_ok_iff {p : Prop} [Decidable p] {e : ε} {u : PUnit} :
    ensure p e = .ok u ↔ p := by
  unfold ensure
  split_ifs with h <;> simp [h]

theorem ensure_of {p : Prop} [Decidable p] (e : ε) (h : p) : ensure p e = .ok ⟨⟩ :=
  if_pos h

@[simp] theorem required_eq_ok_iff {e : ε} {o : Option α} {a : α} :
    required e o = .ok a ↔ o = some a := by
  cases o <;> simp [required]

@[simp] theorem required_some (e : ε) (a : α) : required e (some a) = .ok a := rfl

theorem bind_eq_ok_iff {x : Except ε α} {f : α → Except ε β} {b : β} :
    (x >>= f) = .ok b ↔ ∃ a, x = .ok a ∧ f a = .ok b := by
  cases x <;> simp [bind, Except.bind]

theorem bind_eq_error_iff {x : Except ε α} {f : α → Except ε β} {e : ε} :
    (x >>= f) = .error e ↔ x = .error e ∨ ∃ a, x = .ok a ∧ f a = .error e := by
  cases x <;> simp [bind, Except.bind]

@[simp] theorem ensure_eq_error_iff {p : Prop} [Decidable p] {e e' : ε} :
    ensure p e = .error e' ↔ ¬ p ∧ e = e' := by
  unfold ensure
  split_ifs with h <;> simp [h]

@[simp] theorem required_eq_error_iff {e e' : ε} {o : Option α} :
    required e o = .error e' ↔ o = none ∧ e = e' := by
  cases o <;> simp [required]

@[simp] theorem ok_bind (a : α) (f : α → Except ε β) : (Except.ok a >>= f) = f a := rfl

@[simp] theorem error_bind (e : ε) (f : α → Except ε β) : (Except.error e >>= f) = .error e := rfl

theorem pure_eq_ok_iff {a b : α} : (pure a : Except ε α) = .ok b ↔ a = b := by
  simp [pure, Except.pure]

@[simp] theorem mapError_eq_ok_iff {ε' : Type u} {x : Except ε α} {f : ε → ε'} {a : α} :
    x.mapError f = .ok a ↔ x = .ok a := by
  cases x <;> simp [Except.mapError]

@[simp] theorem returned_ok (P : α → Prop) (a : α) : Returned P (.ok a : Except ε α) ↔ P a :=
  Iff.rfl

@[simp] theorem returned_error (P : α → Prop) (e : ε) : Returned P (.error e : Except ε α) :=
  trivial

theorem returned_iff {P : α → Prop} {x : Except ε α} :
    Returned P x ↔ ∀ a, x = .ok a → P a := by
  cases x <;> simp

theorem Returned.imp {P Q : α → Prop} {x : Except ε α} (h : Returned P x)
    (hpq : ∀ a, P a → Q a) : Returned Q x := by
  cases x with
  | ok a => exact hpq a h
  | error e => trivial

/-- A complaint that was not made does not apply. -/
theorem nil_of_ite {γ : Type v} {p : Prop} [Decidable p] {complaint : γ}
    (h : (if p then [complaint] else []) = []) : ¬ p := by
  intro hp
  rw [if_pos hp] at h
  cases h

/-- A loop that collects what each round returns. -/
theorem mapM_eq_ok_iff {f : α → Except ε β} {xs : List α} {ys : List β} :
    xs.mapM f = .ok ys ↔ List.Forall₂ (fun x y => f x = .ok y) xs ys := by
  induction xs generalizing ys with
  | nil =>
      simp only [List.mapM_nil, pure_eq_ok_iff, List.forall₂_nil_left_iff]
      exact eq_comm
  | cons x xs ih =>
      simp only [List.mapM_cons, bind_eq_ok_iff, pure_eq_ok_iff, ih, List.forall₂_cons_left_iff]
      constructor
      · rintro ⟨y, hy, ys, hys, rfl⟩
        exact ⟨y, ys, hy, hys, rfl⟩
      · rintro ⟨y, ys, hy, hys, rfl⟩
        exact ⟨y, hy, ys, hys, rfl⟩

/-- A loop that only checks. -/
theorem forM_eq_ok_iff {f : α → Except ε PUnit.{u + 1}} {xs : List α} {u : PUnit} :
    forM xs f = .ok u ↔ ∀ x ∈ xs, f x = .ok ⟨⟩ := by
  induction xs with
  | nil => simp [pure, Except.pure]
  | cons x xs ih =>
      simp only [List.forM_cons, bind_eq_ok_iff, List.forall_mem_cons, ih]
      constructor
      · rintro ⟨⟨⟩, hx, hxs⟩
        exact ⟨hx, hxs⟩
      · rintro ⟨hx, hxs⟩
        exact ⟨⟨⟩, hx, hxs⟩

theorem exists_of_forall₂ {M : α → β → Prop} {as : List α} {bs : List β}
    (h : List.Forall₂ M as bs) {a : α} (ha : a ∈ as) : ∃ b, M a b := by
  induction h with
  | nil => cases ha
  | cons hab _ ih =>
      rcases List.mem_cons.mp ha with rfl | ha
      · exact ⟨_, hab⟩
      · exact ih ha

theorem map_eq_map_of_forall₂ {γ : Type v} {M : α → β → Prop} {f : α → γ} {g : β → γ}
    (hfg : ∀ {a b}, M a b → f a = g b) {as : List α} {bs : List β}
    (h : List.Forall₂ M as bs) : as.map f = bs.map g := by
  induction h with
  | nil => rfl
  | cons hab _ ih => rw [List.map_cons, List.map_cons, hfg hab, ih]

theorem forall₂_trans {M : α → α → Prop} (htrans : ∀ a b c, M a b → M b c → M a c)
    {as bs cs : List α} (hab : List.Forall₂ M as bs) (hbc : List.Forall₂ M bs cs) :
    List.Forall₂ M as cs := by
  induction hab generalizing cs with
  | nil => exact hbc
  | cons hfirst _ ih =>
      obtain ⟨c, cs, hc, hrest, rfl⟩ := List.forall₂_cons_left_iff.mp hbc
      exact .cons (htrans _ _ _ hfirst hc) (ih hrest)

theorem forall₂_getElem? {M : α → β → Prop} {as : List α} {bs : List β}
    (h : List.Forall₂ M as bs) (i : ℕ) :
    (as[i]? = none ∧ bs[i]? = none) ∨ ∃ a b, as[i]? = some a ∧ bs[i]? = some b ∧ M a b := by
  induction h generalizing i with
  | nil => exact .inl ⟨rfl, rfl⟩
  | cons hab _ ih =>
      cases i with
      | zero => exact .inr ⟨_, _, rfl, rfl, hab⟩
      | succ i => simpa using ih i

theorem forall₂_set {M : α → β → Prop} {as : List α} {bs : List β}
    (h : List.Forall₂ M as bs) (i : ℕ) {a : α} {b : β} (hab : M a b) :
    List.Forall₂ M (as.set i a) (bs.set i b) := by
  induction h generalizing i with
  | nil => exact .nil
  | cons hfirst hrest ih =>
      cases i with
      | zero => exact .cons hab hrest
      | succ i => exact .cons hfirst (ih i)

/-- A chain is carried along a pointwise relation. -/
theorem isChain_of_forall₂ {R : α → α → Prop} {S : β → β → Prop} {M : α → β → Prop}
    (hstep : ∀ {a a' b b'}, M a b → M a' b' → R a a' → S b b') {as : List α} {bs : List β}
    (hmatch : List.Forall₂ M as bs) (h : List.IsChain R as) : List.IsChain S bs := by
  induction hmatch with
  | nil => exact .nil
  | cons hab hrest ih =>
      cases hrest with
      | nil => exact .singleton _
      | cons hab' hrest' =>
          obtain ⟨hfirst, htail⟩ := List.isChain_cons_cons.mp h
          exact List.isChain_cons_cons.mpr ⟨hstep hab hab' hfirst, ih htail⟩

/-- A loop that raises at the first failing round: an invariant of one round is an
invariant of the whole. -/
theorem foldlM_invariant {γ : Type v} {f : α → γ → Except ε α} {I : List γ → α → Prop}
    (hstep : ∀ done c a b, I done a → f a c = .ok b → I (done ++ [c]) b) :
    ∀ (cs done : List γ) (a b : α), I done a → cs.foldlM f a = .ok b → I (done ++ cs) b := by
  intro cs
  induction cs with
  | nil =>
      intro done a b ha hb
      simp only [List.foldlM_nil, pure_eq_ok_iff] at hb
      subst hb
      simpa using ha
  | cons c cs ih =>
      intro done a b ha hb
      rw [List.foldlM_cons, bind_eq_ok_iff] at hb
      obtain ⟨a', ha', hb⟩ := hb
      have hnext := ih (done ++ [c]) a' b (hstep done c a a' ha ha') hb
      simpa using hnext

end Foundation
