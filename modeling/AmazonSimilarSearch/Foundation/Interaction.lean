import AmazonSimilarSearch.Foundation.Checked

/-!
# Programs that ask their environment

An `Interaction` asks one query after another and returns or raises. The
environment answers from the whole history of exchanges, so a statement about
every environment is one about every sequence of answers. A program that asks
only queries of one kind cannot tell environments apart that agree on that kind.
-/
namespace Foundation

universe u

inductive Interaction (Query : Type) (Answer : Query → Type) (ε : Type) (α : Type) where
  | done (a : α)
  | raise (e : ε)
  | ask (query : Query) (next : Answer query → Interaction Query Answer ε α)

/-- A query with the answer it got. -/
abbrev Exchange (Query : Type) (Answer : Query → Type) := (query : Query) × Answer query

/-- Answers that may depend on everything asked before. -/
abbrev Answering (Query : Type) (Answer : Query → Type) :=
  List (Exchange Query Answer) → (query : Query) → Answer query

namespace Interaction

variable {Query : Type} {Answer : Query → Type} {ε α β : Type}

protected def bind (x : Interaction Query Answer ε α) (f : α → Interaction Query Answer ε β) :
    Interaction Query Answer ε β :=
  match x with
  | .done a => f a
  | .raise e => .raise e
  | .ask query next => .ask query fun answer => (next answer).bind f

instance : Monad (Interaction Query Answer ε) where
  pure := .done
  bind := Interaction.bind

/-- A checked computation as a program that asks nothing. -/
def ofExcept : Except ε α → Interaction Query Answer ε α
  | .ok a => .done a
  | .error e => .raise e

instance : MonadLift (Except ε) (Interaction Query Answer ε) := ⟨ofExcept⟩

/-- The program that asks one query. -/
def query (query : Query) : Interaction Query Answer ε (Answer query) := .ask query .done

@[simp] theorem done_bind (a : α) (f : α → Interaction Query Answer ε β) :
    (Interaction.done a >>= f) = f a := rfl

@[simp] theorem raise_bind (e : ε) (f : α → Interaction Query Answer ε β) :
    (Interaction.raise e >>= f) = .raise e := rfl

@[simp] theorem ask_bind (q : Query) (next : Answer q → Interaction Query Answer ε α)
    (f : α → Interaction Query Answer ε β) :
    (Interaction.ask q next >>= f) = .ask q fun answer => next answer >>= f := rfl

@[simp] theorem pure_eq_done (a : α) : (pure a : Interaction Query Answer ε α) = .done a := rfl

/-! ## Runs -/

/-- The result of a run, and the history after it. -/
def run (answers : Answering Query Answer) :
    Interaction Query Answer ε α → List (Exchange Query Answer) →
      Except ε α × List (Exchange Query Answer)
  | .done a, history => (.ok a, history)
  | .raise e, history => (.error e, history)
  | .ask query next, history =>
      (next (answers history query)).run answers (history ++ [⟨query, answers history query⟩])

variable {answers : Answering Query Answer} {history : List (Exchange Query Answer)}

@[simp] theorem run_done (a : α) :
    (Interaction.done a : Interaction Query Answer ε α).run answers history = (.ok a, history) :=
  rfl

@[simp] theorem run_raise (e : ε) :
    (Interaction.raise e : Interaction Query Answer ε α).run answers history =
      (.error e, history) := rfl

theorem run_query (q : Query) :
    (query q : Interaction Query Answer ε (Answer q)).run answers history =
      (.ok (answers history q), history ++ [⟨q, answers history q⟩]) := rfl

theorem run_ofExcept (x : Except ε α) :
    (ofExcept x : Interaction Query Answer ε α).run answers history = (x, history) := by
  cases x <;> rfl

theorem run_bind (x : Interaction Query Answer ε α) (f : α → Interaction Query Answer ε β) :
    (x >>= f).run answers history = match x.run answers history with
      | (.ok a, history') => (f a).run answers history'
      | (.error e, history') => (.error e, history') := by
  induction x generalizing history with
  | done a => rfl
  | raise e => rfl
  | ask q next ih => exact ih _

/-- A program returns when its parts return, one after the other. -/
theorem run_bind_eq_ok {x : Interaction Query Answer ε α} {f : α → Interaction Query Answer ε β}
    {b : β} {after : List (Exchange Query Answer)} :
    (x >>= f).run answers history = (.ok b, after) ↔
      ∃ a between, x.run answers history = (.ok a, between) ∧
        (f a).run answers between = (.ok b, after) := by
  rw [run_bind]
  rcases x.run answers history with ⟨result, between⟩
  cases result with
  | error e => simp
  | ok a =>
      constructor
      · exact fun h => ⟨a, between, rfl, h⟩
      · rintro ⟨a', between', heq, h⟩
        cases heq
        exact h

theorem run_bind_of_ok {x : Interaction Query Answer ε α} {f : α → Interaction Query Answer ε β}
    {a : α} {between : List (Exchange Query Answer)}
    (h : x.run answers history = (.ok a, between)) :
    (x >>= f).run answers history = (f a).run answers between := by
  rw [run_bind, h]

theorem run_ofExcept_bind_of_ok {x : Except ε α} {f : α → Interaction Query Answer ε β} {a : α}
    (h : x = .ok a) :
    (ofExcept x >>= f).run answers history = (f a).run answers history := by
  rw [h]
  rfl

theorem run_ofExcept_eq_ok {x : Except ε α} {a : α} {after : List (Exchange Query Answer)} :
    (ofExcept x : Interaction Query Answer ε α).run answers history = (.ok a, after) ↔
      x = .ok a ∧ after = history := by
  rw [run_ofExcept, Prod.mk.injEq]
  exact and_congr_right fun _ => eq_comm

theorem run_ofExcept_bind_eq_ok {x : Except ε α} {f : α → Interaction Query Answer ε β} {b : β}
    {after : List (Exchange Query Answer)} :
    (ofExcept x >>= f).run answers history = (.ok b, after) ↔
      ∃ a, x = .ok a ∧ (f a).run answers history = (.ok b, after) := by
  cases x with
  | error e => simp [ofExcept]
  | ok a => simp [ofExcept]

theorem run_done_eq_ok {a b : α} {after : List (Exchange Query Answer)} :
    (Interaction.done a : Interaction Query Answer ε α).run answers history = (.ok b, after) ↔
      a = b ∧ after = history := by
  rw [run_done, Prod.mk.injEq, Except.ok.injEq]
  exact and_congr_right fun _ => eq_comm

/-- Nothing that was asked is forgotten. -/
theorem prefix_run (x : Interaction Query Answer ε α) :
    history <+: (x.run answers history).2 := by
  induction x generalizing history with
  | done a => exact List.prefix_rfl
  | raise e => exact List.prefix_rfl
  | ask q next ih =>
      exact (List.prefix_append _ _).trans (ih (answers history q))

theorem prefix_of_run {x : Interaction Query Answer ε α} {result : Except ε α}
    {after : List (Exchange Query Answer)} (h : x.run answers history = (result, after)) :
    history <+: after := by
  have hgrows : history <+: (x.run answers history).2 := prefix_run x
  rwa [h] at hgrows

/-! ## Answers that never change -/

/-- The result in an environment that always gives the same answers. -/
def result (answer : (query : Query) → Answer query) : Interaction Query Answer ε α → Except ε α
  | .done a => .ok a
  | .raise e => .error e
  | .ask query next => (next (answer query)).result answer

theorem result_bind {answer : (query : Query) → Answer query} (x : Interaction Query Answer ε α)
    (f : α → Interaction Query Answer ε β) :
    (x >>= f).result answer = x.result answer >>= fun a => (f a).result answer := by
  induction x with
  | done a => rfl
  | raise e => rfl
  | ask q next ih => exact ih _

theorem result_bind_of_ok {answer : (query : Query) → Answer query}
    {x : Interaction Query Answer ε α} {f : α → Interaction Query Answer ε β} {a : α}
    (h : x.result answer = .ok a) : (x >>= f).result answer = (f a).result answer := by
  rw [result_bind, h]
  rfl

theorem result_query_bind {answer : (query : Query) → Answer query} (q : Query)
    (f : Answer q → Interaction Query Answer ε β) :
    (query q >>= f).result answer = (f (answer q)).result answer := rfl

theorem result_ofExcept {answer : (query : Query) → Answer query} (x : Except ε α) :
    (ofExcept x : Interaction Query Answer ε α).result answer = x := by
  cases x <;> rfl

theorem run_result (answer : (query : Query) → Answer query) (x : Interaction Query Answer ε α) :
    (x.run (fun _ => answer) history).1 = x.result answer := by
  induction x generalizing history with
  | done a => rfl
  | raise e => rfl
  | ask q next ih => exact ih _

/-- What has been answered is what is always answered. -/
theorem answered_of_run {answer : (query : Query) → Answer query}
    (hhistory : ∀ exchange ∈ history, exchange.2 = answer exchange.1)
    (x : Interaction Query Answer ε α) :
    ∀ exchange ∈ (x.run (fun _ => answer) history).2, exchange.2 = answer exchange.1 := by
  induction x generalizing history with
  | done a => exact hhistory
  | raise e => exact hhistory
  | ask q next ih =>
      apply ih
      intro exchange hexchange
      rcases List.mem_append.mp hexchange with hexchange | hexchange
      · exact hhistory exchange hexchange
      · rw [List.mem_singleton.mp hexchange]

/-! ## What a program asks -/

/-- Whatever the answers, the program asks only queries with the property. -/
def AsksOnly (P : Query → Prop) : Interaction Query Answer ε α → Prop
  | .done _ => True
  | .raise _ => True
  | .ask query next => P query ∧ ∀ answer, AsksOnly P (next answer)

variable {P : Query → Prop}

theorem asksOnly_done (a : α) : (Interaction.done a : Interaction Query Answer ε α).AsksOnly P :=
  trivial

theorem asksOnly_raise (e : ε) :
    (Interaction.raise e : Interaction Query Answer ε α).AsksOnly P := trivial

theorem asksOnly_ofExcept (x : Except ε α) :
    (ofExcept x : Interaction Query Answer ε α).AsksOnly P := by
  cases x <;> trivial

theorem asksOnly_query {q : Query} (h : P q) :
    (query q : Interaction Query Answer ε (Answer q)).AsksOnly P := ⟨h, fun _ => trivial⟩

theorem AsksOnly.bind {x : Interaction Query Answer ε α} {f : α → Interaction Query Answer ε β}
    (hx : x.AsksOnly P) (hf : ∀ a, (f a).AsksOnly P) : (x >>= f).AsksOnly P := by
  induction x with
  | done a => exact hf a
  | raise e => trivial
  | ask q next ih => exact ⟨hx.1, fun answer => ih answer (hx.2 answer)⟩

/-- What is new in the history of a run was asked by the program. -/
theorem AsksOnly.of_run {x : Interaction Query Answer ε α} (hx : x.AsksOnly P)
    (hhistory : ∀ exchange ∈ history, P exchange.1) :
    ∀ exchange ∈ (x.run answers history).2, P exchange.1 := by
  induction x generalizing history with
  | done a => exact hhistory
  | raise e => exact hhistory
  | ask q next ih =>
      apply ih _ (hx.2 _)
      intro exchange hexchange
      rcases List.mem_append.mp hexchange with hexchange | hexchange
      · exact hhistory exchange hexchange
      · rw [List.mem_singleton.mp hexchange]
        exact hx.1

/-- What is asked by a program and then by what follows its result. -/
theorem asked_bind {x : Interaction Query Answer ε α} {f : α → Interaction Query Answer ε β}
    (hx : ∀ exchange ∈ (x.run answers history).2, P exchange.1)
    (hf : ∀ a between, x.run answers history = (.ok a, between) →
      ∀ exchange ∈ ((f a).run answers between).2, P exchange.1) :
    ∀ exchange ∈ ((x >>= f).run answers history).2, P exchange.1 := by
  rw [run_bind]
  rcases hrun : x.run answers history with ⟨result, between⟩
  rw [hrun] at hx
  cases result with
  | error e => exact hx
  | ok a => exact hf a between hrun

/-- A run that asks only queries of one kind is the same in every environment that answers these
alike. -/
theorem run_eq_of_agree {answers' : Answering Query Answer}
    (hagree : ∀ history query, P query → answers' history query = answers history query)
    {x : Interaction Query Answer ε α}
    (hx : ∀ exchange ∈ (x.run answers history).2, P exchange.1) :
    x.run answers' history = x.run answers history := by
  induction x generalizing history with
  | done a => rfl
  | raise e => rfl
  | ask q next ih =>
      have hasked : (⟨q, answers history q⟩ : Exchange Query Answer) ∈
          ((Interaction.ask q next).run answers history).2 := by
        apply (prefix_run (next (answers history q))).subset
        simp
      have hanswer := hagree history q (hx _ hasked)
      rw [run, run, hanswer]
      exact ih _ hx

end Interaction
end Foundation
