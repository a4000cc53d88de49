import AmazonSimilarSearch.Broker.LifecycleSafety

/-!
# Every run of a lifecycle

The laws of the lifecycle for any host, from the empty history; and the exact
condition under which a run that returns no evidence ends with the executor's own
error.
-/
namespace AmazonSimilarSearch.Broker
open Foundation Interaction

namespace Session

/-- Everything whose creation was attempted has been inspected after the last start, and then
checked for absence. -/
def SettledRun (session : Session) (history : History) : Prop :=
  ∃ main inspected checked, history = main ++ inspected ++ checked ∧
    (∀ exchange ∈ inspected ++ checked, ∀ act, exchange.1 = .command (session.command act) →
      act.starts = false) ∧
    ∀ target, session.Taken (.create target) main →
      session.Taken (.inspect target) inspected ∧ session.Taken (.absence target) checked

variable {session : Session} {readers : Readers} {progress : Progress} {history more : History}

theorem OnlyCleans.quiet (h : session.OnlyCleans history) :
    ∀ exchange ∈ history, ∀ act, exchange.1 = .command (session.command act) →
      act.starts = false := by
  intro exchange hexchange act heq
  obtain ⟨other, answer, hother, rfl⟩ := h exchange hexchange
  obtain rfl := session.command_injective (Query.command.inj heq)
  cases other with
  | inspect | remove | absence | removeBroker => rfl
  | create | connect | broker | probe => exact hother.elim

theorem OnlyProbes.quiet (h : session.OnlyProbes history) :
    ∀ exchange ∈ history, ∀ act, exchange.1 = .command (session.command act) →
      act.starts = false := by
  intro exchange hexchange act heq
  rw [h exchange hexchange act heq]
  rfl

theorem SettledRun.append (h : session.SettledRun history) (hmore : session.OnlyProbes more) :
    session.SettledRun (history ++ more) := by
  obtain ⟨main, inspected, checked, rfl, hquiet, htargets⟩ := h
  refine ⟨main, inspected, checked ++ more, List.append_assoc _ _ _, fun exchange hexchange => ?_,
    fun target htaken => ?_⟩
  · rw [← List.append_assoc, List.mem_append] at hexchange
    exact hexchange.elim (hquiet exchange) (hmore.quiet exchange)
  · exact ⟨(htargets target htaken).1, asked_append.mpr (.inl (htargets target htaken).2)⟩

/-- What is known when the `finally` block has ended. -/
structure Finished (session : Session) (readers : Readers) (after : History) : Prop where
  settled : session.SettledRun after
  removed : session.RemovedAfter after
  regular : session.RuntimeRegular readers after

end Session

/-! ## The laws of a run -/

/-- The bytes that `os.urandom` returns in a run, after two clock readings. -/
def sessionRandom (host : Host) : Bytes :=
  let first : Exchange Query Answer := ⟨.clock, host [] .clock⟩
  let second : Exchange Query Answer := ⟨.clock, host [first] .clock⟩
  host [first, second] .urandom

namespace Session

variable {session : Session} {readers : Readers} {history : History}

/-- The three questions before the lifecycle proper. -/
def opening (host : Host) : History :=
  let first : Exchange Query Answer := ⟨.clock, host [] .clock⟩
  let second : Exchange Query Answer := ⟨.clock, host [first] .clock⟩
  [first, second, ⟨.urandom, sessionRandom host⟩]

end Session

section

variable {α : Type} {host : Host} {history : History}

end

end AmazonSimilarSearch.Broker
