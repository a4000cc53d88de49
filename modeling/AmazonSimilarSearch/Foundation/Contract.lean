import AmazonSimilarSearch.Foundation.Interaction

/-!
# Contracts of programs that ask their environment

`Meets` is the weakest precondition of a program whose environment may answer
anything: every query is allowed where it is asked, and what is returned or
raised satisfies its postcondition. The postconditions see the whole history, so
an order of events is a statement about one history, and a program that runs its
parts whatever they raise (`attempt`) has a rule like any other.
-/
namespace Foundation
namespace Interaction

variable {Query : Type} {Answer : Query → Type} {ε ε' α β τ : Type}

/-- `try: x except BaseException as e`, with the exception as a value. -/
def attempt : Interaction Query Answer ε α → Interaction Query Answer ε' (Except ε α)
  | .done a => .done (.ok a)
  | .raise e => .done (.error e)
  | .ask query next => .ask query fun answer => (next answer).attempt

/-- The same program, with what it raises relabelled. -/
def mapError (f : ε → ε') : Interaction Query Answer ε α → Interaction Query Answer ε' α
  | .done a => .done a
  | .raise e => .raise (f e)
  | .ask query next => .ask query fun answer => (next answer).mapError f

/-- A loop whose rounds all run, whatever one of them raises. -/
def attemptEach (f : τ → Interaction Query Answer ε α) :
    List τ → Interaction Query Answer ε' (List (Except ε α))
  | [] => pure []
  | item :: items => do
      let result ← (f item).attempt
      let results ← attemptEach f items
      pure (result :: results)

/-- The exchanges of a run so far. -/
abbrev Exchanges (Query : Type) (Answer : Query → Type) := List (Exchange Query Answer)

/-! ## The weakest precondition -/

/-- Whatever the answers, each query is allowed where it is asked, and what is returned or raised
satisfies its postcondition. -/
def Meets (allowed : Exchanges Query Answer → Query → Prop)
    (returns : α → Exchanges Query Answer → Prop) (raises : ε → Exchanges Query Answer → Prop) :
    Interaction Query Answer ε α → Exchanges Query Answer → Prop
  | .done a, history => returns a history
  | .raise e, history => raises e history
  | .ask query next, history =>
      allowed history query ∧
        ∀ answer, (next answer).Meets allowed returns raises (history ++ [⟨query, answer⟩])

variable {allowed : Exchanges Query Answer → Query → Prop} {history : Exchanges Query Answer}
  {returns returns' : α → Exchanges Query Answer → Prop}
  {raises raises' : ε → Exchanges Query Answer → Prop}

@[simp] theorem meets_done {a : α} :
    (Interaction.done a : Interaction Query Answer ε α).Meets allowed returns raises history ↔
      returns a history := Iff.rfl

@[simp] theorem meets_raise {e : ε} :
    (Interaction.raise e : Interaction Query Answer ε α).Meets allowed returns raises history ↔
      raises e history := Iff.rfl

@[simp] theorem meets_query {q : Query} {returns : Answer q → Exchanges Query Answer → Prop} :
    (query q : Interaction Query Answer ε (Answer q)).Meets allowed returns raises history ↔
      allowed history q ∧ ∀ answer, returns answer (history ++ [⟨q, answer⟩]) := Iff.rfl

theorem meets_ofExcept {x : Except ε α} :
    (ofExcept x : Interaction Query Answer ε α).Meets allowed returns raises history ↔
      (∀ a, x = .ok a → returns a history) ∧ ∀ e, x = .error e → raises e history := by
  cases x <;> simp [ofExcept]

theorem meets_bind {x : Interaction Query Answer ε α} {f : α → Interaction Query Answer ε β}
    {returns : β → Exchanges Query Answer → Prop} :
    (x >>= f).Meets allowed returns raises history ↔
      x.Meets allowed (fun a history => (f a).Meets allowed returns raises history) raises
        history := by
  induction x generalizing history with
  | done a => exact Iff.rfl
  | raise e => exact Iff.rfl
  | ask q next ih => exact and_congr_right fun _ => forall_congr' fun answer => ih answer

theorem liftM_eq_ofExcept (x : Except ε α) :
    (liftM x : Interaction Query Answer ε α) = ofExcept x := rfl

@[simp] theorem meets_pure {a : α} :
    (pure a : Interaction Query Answer ε α).Meets allowed returns raises history ↔
      returns a history := Iff.rfl

/-- A guard raises, or the program goes on. -/
theorem meets_ensure {p : Prop} [Decidable p] {e : ε}
    {returns : PUnit → Exchanges Query Answer → Prop} :
    (ofExcept (ensure p e) : Interaction Query Answer ε PUnit).Meets allowed returns raises
      history ↔ (p → returns ⟨⟩ history) ∧ (¬ p → raises e history) := by
  by_cases hp : p
  · rw [ensure_of e hp]
    simp [ofExcept, hp]
  · have herror : ensure p e = .error e := if_neg hp
    rw [herror]
    simp [ofExcept, hp]

theorem meets_attempt {x : Interaction Query Answer ε α}
    {returns : Except ε α → Exchanges Query Answer → Prop}
    {raises : ε' → Exchanges Query Answer → Prop} :
    (x.attempt : Interaction Query Answer ε' (Except ε α)).Meets allowed returns raises history ↔
      x.Meets allowed (fun a => returns (.ok a)) (fun e => returns (.error e)) history := by
  induction x generalizing history with
  | done a => exact Iff.rfl
  | raise e => exact Iff.rfl
  | ask q next ih => exact and_congr_right fun _ => forall_congr' fun answer => ih answer

theorem meets_mapError {x : Interaction Query Answer ε α} {f : ε → ε'}
    {raises : ε' → Exchanges Query Answer → Prop} :
    (x.mapError f).Meets allowed returns raises history ↔
      x.Meets allowed returns (fun e => raises (f e)) history := by
  induction x generalizing history with
  | done a => exact Iff.rfl
  | raise e => exact Iff.rfl
  | ask q next ih => exact and_congr_right fun _ => forall_congr' fun answer => ih answer

theorem Meets.imp {x : Interaction Query Answer ε α} (h : x.Meets allowed returns raises history)
    (hreturns : ∀ a after, returns a after → returns' a after)
    (hraises : ∀ e after, raises e after → raises' e after) :
    x.Meets allowed returns' raises' history := by
  induction x generalizing history with
  | done a => exact hreturns a history h
  | raise e => exact hraises e history h
  | ask q next ih => exact ⟨h.1, fun answer => ih answer (h.2 answer)⟩

/-- Every event of the one kind is followed by one of the other kind. -/
def Followed (event reply : Exchange Query Answer → Prop) (history : Exchanges Query Answer) :
    Prop :=
  ∀ before exchange rest, history = before ++ exchange :: rest → event exchange →
    ∃ other ∈ rest, reply other

section Followed

variable {event reply : Exchange Query Answer → Prop} {more : Exchanges Query Answer}

theorem followed_of_forall_not (h : ∀ exchange ∈ history, ¬ event exchange) :
    Followed event reply history := by
  intro before exchange rest heq hevent
  exact absurd hevent (h exchange (by rw [heq]; simp))

/-- Events of other kinds may follow. -/
theorem Followed.append (h : Followed event reply history)
    (hmore : ∀ exchange ∈ more, ¬ event exchange) : Followed event reply (history ++ more) := by
  intro before exchange rest heq hevent
  rcases List.append_eq_append_iff.mp heq with ⟨middle, hbefore, hrest⟩ | ⟨middle, hhistory, hrest⟩
  · exact absurd hevent (hmore exchange (by rw [hrest]; simp))
  · cases middle with
    | nil =>
        rw [List.nil_append] at hrest
        exact absurd hevent (hmore exchange (by rw [← hrest]; simp))
    | cons first middle =>
        obtain ⟨rfl, rfl⟩ := List.cons.inj hrest
        obtain ⟨other, hother, hreply⟩ := h before exchange middle hhistory hevent
        exact ⟨other, List.mem_append_left _ hother, hreply⟩

/-- One reply at the end answers everything before it. -/
theorem followed_concat {last : Exchange Query Answer} (hreply : reply last)
    (hlast : ¬ event last) : Followed event reply (history ++ [last]) := by
  intro before exchange rest heq hevent
  rcases List.eq_nil_or_concat rest with rfl | ⟨rest, final, rfl⟩
  · obtain ⟨-, hexchange⟩ := List.append_inj' heq rfl
    cases hexchange
    exact absurd hevent hlast
  · have hsplit : history ++ [last] = (before ++ exchange :: rest) ++ [final] := by
      simpa using heq
    obtain ⟨-, hfinal⟩ := List.append_inj' hsplit rfl
    cases hfinal
    exact ⟨last, by simp, hreply⟩

end Followed

/-! ## Runs that meet a contract -/

/-- Every query of the history was allowed where it was asked. -/
def Respects (allowed : Exchanges Query Answer → Query → Prop) (history : Exchanges Query Answer) :
    Prop :=
  ∀ before exchange rest, history = before ++ exchange :: rest → allowed before exchange.1

theorem respects_nil : Respects allowed [] := by
  intro before exchange rest h
  simp at h

theorem Respects.concat (h : Respects allowed history) {exchange : Exchange Query Answer}
    (hallowed : allowed history exchange.1) : Respects allowed (history ++ [exchange]) := by
  intro before other rest heq
  rcases List.eq_nil_or_concat rest with rfl | ⟨rest, last, rfl⟩
  · obtain ⟨rfl, hother⟩ := List.append_inj' heq rfl
    cases hother
    exact hallowed
  · have hsplit : history ++ [exchange] = (before ++ other :: rest) ++ [last] := by
      simpa using heq
    exact h before other rest (List.append_inj' hsplit rfl).1

variable {answers : Answering Query Answer} {x : Interaction Query Answer ε α}
  {after : Exchanges Query Answer}

theorem Meets.respects (h : x.Meets allowed returns raises history)
    (hrespects : Respects allowed history) :
    Respects allowed (x.run answers history).2 := by
  induction x generalizing history with
  | done a => exact hrespects
  | raise e => exact hrespects
  | ask q next ih => exact ih _ (h.2 _) (hrespects.concat h.1)

/-- What a run returns or raises satisfies its postcondition. -/
theorem Meets.outcome (h : x.Meets allowed returns raises history)
    (answers : Answering Query Answer) :
    (∀ a, (x.run answers history).1 = .ok a → returns a (x.run answers history).2) ∧
      ∀ e, (x.run answers history).1 = .error e → raises e (x.run answers history).2 := by
  induction x generalizing history with
  | done a =>
      constructor
      · rintro _ ⟨rfl⟩
        exact h
      · intro e he
        cases he
  | raise e =>
      constructor
      · intro a ha
        cases ha
      · rintro _ ⟨rfl⟩
        exact h
  | ask q next ih => exact ih _ (h.2 _)

/-! ## Programs that succeed -/

/-- Under these answers the program returns the value, whatever was asked before. -/
def Yields (answers : Answering Query Answer) (x : Interaction Query Answer ε α) (a : α) : Prop :=
  ∀ history, ∃ after, x.run answers history = (.ok a, after)

section Yields

variable {answers : Answering Query Answer} {x : Interaction Query Answer ε α}

theorem Yields.bind {f : α → Interaction Query Answer ε β} {a : α} {b : β}
    (hx : Yields answers x a) (hf : Yields answers (f a) b) : Yields answers (x >>= f) b := by
  intro history
  obtain ⟨between, hbetween⟩ := hx history
  obtain ⟨after, hafter⟩ := hf between
  exact ⟨after, (run_bind_of_ok hbetween).trans hafter⟩

theorem run_attempt (x : Interaction Query Answer ε α) (history : Exchanges Query Answer) :
    (x.attempt : Interaction Query Answer ε' (Except ε α)).run answers history =
      (.ok (x.run answers history).1, (x.run answers history).2) := by
  induction x generalizing history with
  | done a => rfl
  | raise e => rfl
  | ask q next ih => exact ih _ _

theorem Yields.attempt {a : α} (h : Yields answers x a) :
    Yields answers (x.attempt : Interaction Query Answer ε' (Except ε α)) (.ok a) := by
  intro history
  obtain ⟨after, hafter⟩ := h history
  exact ⟨after, by rw [run_attempt, hafter]⟩

theorem run_mapError (f : ε → ε') (x : Interaction Query Answer ε α)
    (history : Exchanges Query Answer) :
    (x.mapError f).run answers history =
      ((x.run answers history).1.mapError f, (x.run answers history).2) := by
  induction x generalizing history with
  | done a => rfl
  | raise e => rfl
  | ask q next ih => exact ih _ _

theorem Yields.mapError {a : α} (h : Yields answers x a) (f : ε → ε') :
    Yields answers (x.mapError f) a := by
  intro history
  obtain ⟨after, hafter⟩ := h history
  refine ⟨after, ?_⟩
  rw [run_mapError, hafter]
  rfl

/-- Under these answers the program raises the exception, whatever was asked before. -/
def Raises (answers : Answering Query Answer) (x : Interaction Query Answer ε α) (e : ε) : Prop :=
  ∀ history, (x.run answers history).1 = .error e

theorem Raises.bind {e : ε} (h : Raises answers x e) (f : α → Interaction Query Answer ε β) :
    Raises answers (x >>= f) e := by
  intro history
  have hraised := h history
  rw [run_bind]
  generalize x.run answers history = outcome at hraised
  obtain ⟨result, after⟩ := outcome
  cases hraised
  rfl

end Yields

/-! ## Programs that come through -/

/-- Under these answers the program returns something with the property, whatever was asked
before. -/
def Reaches (answers : Answering Query Answer) (x : Interaction Query Answer ε α)
    (P : α → Prop) : Prop :=
  ∀ history, ∃ a after, x.run answers history = (.ok a, after) ∧ P a

section Reaches

variable {answers : Answering Query Answer} {x : Interaction Query Answer ε α} {P : α → Prop}

theorem reaches_pure {a : α} (h : P a) :
    Reaches answers (pure a : Interaction Query Answer ε α) P :=
  fun history => ⟨a, history, rfl, h⟩

theorem reaches_ofExcept {x : Except ε α} {a : α} (hx : x = .ok a) (h : P a) :
    Reaches answers (ofExcept x : Interaction Query Answer ε α) P := by
  intro history
  rw [hx]
  exact ⟨a, history, rfl, h⟩

theorem reaches_query {q : Query} {P : Answer q → Prop} (h : ∀ history, P (answers history q)) :
    Reaches answers (query q : Interaction Query Answer ε (Answer q)) P :=
  fun history => ⟨answers history q, _, rfl, h history⟩

theorem Reaches.bind {f : α → Interaction Query Answer ε β} {Q : β → Prop}
    (hx : Reaches answers x P) (hf : ∀ a, P a → Reaches answers (f a) Q) :
    Reaches answers (x >>= f) Q := by
  intro history
  obtain ⟨a, between, hrun, ha⟩ := hx history
  obtain ⟨b, after, hafter, hb⟩ := hf a ha between
  exact ⟨b, after, (run_bind_of_ok hrun).trans hafter, hb⟩

/-- A guard that holds lets the program go on. -/
theorem reaches_ensure {p : Prop} [Decidable p] (e : ε) (hp : p) :
    Reaches answers (ofExcept (ensure p e) : Interaction Query Answer ε PUnit) fun _ => True :=
  reaches_ofExcept (ensure_of e hp) trivial

theorem Reaches.attempt (h : Reaches answers x P) :
    Reaches answers (x.attempt : Interaction Query Answer ε' (Except ε α))
      fun result => ∃ a, result = .ok a ∧ P a := by
  intro history
  obtain ⟨a, after, hrun, ha⟩ := h history
  exact ⟨.ok a, after, by rw [run_attempt, hrun], a, rfl, ha⟩

end Reaches

end Interaction
end Foundation
