import AmazonSimilarSearch.Broker.SessionCommands
import AmazonSimilarSearch.Broker.BindingAgreement

/-!
# What a session may do

`AllowedAct` says when a step may be taken, given everything that happened
before; `Sound` what the local variables of the body promise about the history;
and `Clean` that every command so far has succeeded and is on record. One step
keeps the last two, and its rule is used for every command of the lifecycle.
-/
namespace AmazonSimilarSearch.Broker
open Foundation Interaction

/-- The command was issued. -/
def Asked (command : Command) (history : History) : Prop :=
  ∃ answer, (⟨.command command, answer⟩ : Exchange Query Answer) ∈ history

theorem asked_append {command : Command} {history more : History} :
    Asked command (history ++ more) ↔ Asked command history ∨ Asked command more := by
  simp only [Asked, List.mem_append, exists_or]

theorem asked_singleton {command other : Command} {answer : Answer (.command other)} :
    Asked command [⟨.command other, answer⟩] ↔ command = other := by
  constructor
  · rintro ⟨_, hmem⟩
    cases List.mem_singleton.mp hmem
    rfl
  · rintro rfl
    exact ⟨answer, List.mem_singleton_self _⟩

/-- The record of a command that ended, `none` when it raised. -/
def commandOutcome : Exchange Query Answer → Option (Option CommandRecord)
  | ⟨.command command, .ok result⟩ => some (some ⟨command.argv, result⟩)
  | ⟨.command _, .error _⟩ => some none
  | _ => none

/-- The records are those of all commands of the history, none of which raised. -/
def Recorded (records : List CommandRecord) (history : History) : Prop :=
  history.filterMap commandOutcome = records.map some

namespace Session

variable (session : Session) (readers : Readers)

/-- The issue of a step. -/
abbrev asks (act : Act) (answer : Except Raised CommandResult) : Exchange Query Answer :=
  ⟨.command (session.command act), answer⟩

/-- The step was taken. -/
abbrev Taken (act : Act) (history : History) : Prop := Asked (session.command act) history

/-- The absence command of the target ended with exit code 0 and printed nothing. -/
def ShownAbsent (target : Target) (history : History) : Prop :=
  ∃ result, session.asks (.absence target) (.ok result) ∈ history ∧ result.exitCode = 0 ∧
    result.stdout = []

/-- The step ended with this record. -/
def Ended (act : Act) (record : CommandRecord) (history : History) : Prop :=
  session.asks act (.ok record.result) ∈ history ∧ record.result.exitCode = 0

/-- The networks and the gateway have been inspected, and validated. -/
def BoundaryShown (history : History) : Prop :=
  ∃ inspected boundary, session.validateBoundary readers.inspect inspected = .ok boundary ∧
    session.Ended (.inspect .internal) inspected.internal history ∧
    session.Ended (.inspect .external) inspected.external history ∧
    session.Ended (.inspect .gateway) inspected.gateway history

/-- The reservation has been committed. -/
def Reserved (history : History) : Prop :=
  ∃ reservation, (⟨.reserve, .ok reservation⟩ : Exchange Query Answer) ∈ history

/-- The last thing that happened is an inspection that shows the target with the labels of this
session. -/
def JustShownOwned (target : Target) (history : History) : Prop :=
  ∃ result, history.getLast? = some (session.asks (.inspect target) (.ok result)) ∧
    result.exitCode = 0 ∧
    ShowsOwned readers.inspect result.stdout target.isContainer (session.name target)
      (session.labels target)

/-- When a step may be taken. -/
def AllowedAct (history : History) : Act → Prop
  | .create _ => ∀ target, session.ShownAbsent target history
  | .broker => ¬ session.Taken .broker history ∧ session.BoundaryShown readers history ∧
      Reserved history
  | .remove target => session.JustShownOwned readers target history
  | _ => True

/-- Only steps of the session are taken, each when it may. -/
def Allowed (history : History) : Query → Prop
  | .command command =>
      ∃ act, command = session.command act ∧ session.AllowedAct readers history act
  | _ => True

/-! ## What the local variables promise -/

/-- The broker's container is removed by force after every start. -/
def RemovedAfter (history : History) : Prop :=
  Followed (fun exchange => exchange.1 = .command (session.command .broker))
    (fun exchange => exchange.1 = .command (session.command .removeBroker)) history

/-- The runtime has not been probed. -/
def Unprobed (history : History) : Prop :=
  ∀ exchange ∈ history, exchange.1 ≠ .command (session.command .probe) ∧
    ∀ path, exchange.1 ≠ .measureRuntime path

/-- Whatever has been started is known to the local variables. -/
structure Sound (progress : Progress) (history : History) : Prop where
  created : ∀ target, session.Taken (.create target) history → progress.created target = true
  started : session.Taken .broker history → progress.brokerAttempted = true
  removed : progress.brokerCleaned = true → session.RemovedAfter history
  runtime : progress ≠ {} → session.RuntimeValid
  unprobed : session.Unprobed history

end Session

/-- The local variables already say that the step is taken. -/
def Progress.Covers (progress : Progress) : Act → Prop
  | .create target => progress.created target = true
  | .broker => progress.brokerAttempted = true ∧ progress.brokerCleaned = false
  | .probe => False
  | _ => True

namespace Session

variable {session : Session} {readers : Readers} {progress : Progress} {history : History}
  {act : Act} {target : Target} {answer : Except Raised CommandResult}

theorem ShownAbsent.append (h : session.ShownAbsent target history) (more : History) :
    session.ShownAbsent target (history ++ more) := by
  obtain ⟨result, hmem, hresult⟩ := h
  exact ⟨result, List.mem_append_left _ hmem, hresult⟩

theorem Ended.append {record : CommandRecord} (h : session.Ended act record history)
    (more : History) : session.Ended act record (history ++ more) :=
  ⟨List.mem_append_left _ h.1, h.2⟩

theorem BoundaryShown.append (h : session.BoundaryShown readers history) (more : History) :
    session.BoundaryShown readers (history ++ more) := by
  obtain ⟨inspected, boundary, hboundary, hinternal, hexternal, hgateway⟩ := h
  exact ⟨inspected, boundary, hboundary, hinternal.append more, hexternal.append more,
    hgateway.append more⟩

theorem taken_concat {other : Act} :
    session.Taken act (history ++ [session.asks other answer]) ↔
      session.Taken act history ∨ act = other :=
  asked_append.trans (or_congr_right (asked_singleton.trans session.command_eq_iff))

theorem Sound.concat (h : session.Sound progress history) (hcovers : progress.Covers act)
    (answer : Except Raised CommandResult) :
    session.Sound progress (history ++ [session.asks act answer]) where
  created target htaken := by
    rcases taken_concat.mp htaken with htaken | rfl
    · exact h.created target htaken
    · exact hcovers
  started htaken := by
    rcases taken_concat.mp htaken with htaken | rfl
    · exact h.started htaken
    · exact hcovers.1
  removed hcleaned := by
    refine (h.removed hcleaned).append fun exchange hexchange hbroker => ?_
    rw [List.mem_singleton.mp hexchange, Query.command.injEq, command_eq_iff] at hbroker
    subst hbroker
    rw [hcovers.2] at hcleaned
    cases hcleaned
  runtime := h.runtime
  unprobed := by
    intro exchange hexchange
    rcases List.mem_append.mp hexchange with hexchange | hexchange
    · exact h.unprobed exchange hexchange
    · rw [List.mem_singleton.mp hexchange]
      refine ⟨fun heq => ?_, nofun⟩
      rw [Query.command.injEq, command_eq_iff] at heq
      subst heq
      exact hcovers

/-- A question that is neither a command nor a measurement changes no promise. -/
theorem Sound.other (h : session.Sound progress history) (exchange : Exchange Query Answer)
    (hcommand : ∀ command, exchange.1 ≠ .command command)
    (hmeasure : ∀ path, exchange.1 ≠ .measureRuntime path) :
    session.Sound progress (history ++ [exchange]) where
  created target htaken := by
    rcases asked_append.mp htaken with htaken | ⟨answer, hmem⟩
    · exact h.created target htaken
    · exact absurd (by rw [← List.mem_singleton.mp hmem]) (hcommand _)
  started htaken := by
    rcases asked_append.mp htaken with htaken | ⟨answer, hmem⟩
    · exact h.started htaken
    · exact absurd (by rw [← List.mem_singleton.mp hmem]) (hcommand _)
  removed hcleaned := by
    refine (h.removed hcleaned).append fun other hother => ?_
    rw [List.mem_singleton.mp hother]
    exact hcommand _
  runtime := h.runtime
  unprobed := by
    intro other hother
    rcases List.mem_append.mp hother with hother | hother
    · exact h.unprobed other hother
    · rw [List.mem_singleton.mp hother]
      exact ⟨hcommand _, hmeasure⟩

/-- The local variables of the body only ever become true. -/
theorem Sound.advance (h : session.Sound progress history) (next : Progress) (hvalid : session.RuntimeValid)
    (hcreated : ∀ target, progress.created target = true → next.created target = true)
    (hstarted : progress.brokerAttempted = true → next.brokerAttempted = true)
    (hremoved : next.brokerCleaned = true → session.RemovedAfter history) :
    session.Sound next history where
  created target htaken := hcreated target (h.created target htaken)
  started htaken := hstarted (h.started htaken)
  removed := hremoved
  runtime _ := hvalid
  unprobed := h.unprobed

/-! ## The rule of a command -/

/-- The command passes the checks of `_run` before it is started. -/
structure Issuable (session : Session) (act : Act) : Prop where
  argv : validArgv (session.argv act) = true
  stdin : (session.command act).stdin.length ≤ (session.command act).maxStdinBytes

/-- The result passes the checks of `_run` after the command has ended. -/
def Within (command : Command) (result : CommandResult) : Prop :=
  result.stdout.length ≤ command.maxStdoutBytes ∧ result.stderr.length ≤ command.maxStderrBytes ∧
    result.durationMs ≤ command.timeoutSeconds * 1000

/-- A command of the session is not issued, or leaves one exchange: what the environment raises is
raised, and a result beyond the limits is refused. -/
theorem meets_record_exact {returns : CommandRecord → History → Prop}
    {raises : Raised → History → Prop} (hallowed : session.AllowedAct readers history act)
    (hreturns : ∀ result, session.Issuable act → Within (session.command act) result →
      returns ⟨session.argv act, result⟩ (history ++ [session.asks act (.ok result)]))
    (hunissued : ¬ session.Issuable act → ∀ message, raises (.outerBroker message) history)
    (hraised : ∀ e, session.Issuable act → raises e (history ++ [session.asks act (.error e)]))
    (hexceeded : ∀ result message, session.Issuable act → ¬ Within (session.command act) result →
      raises (.outerBroker message) (history ++ [session.asks act (.ok result)])) :
    (session.record act).Meets (session.Allowed readers) returns raises history := by
  have hissue : (issue (session.command act)).Meets (session.Allowed readers)
      (fun result after => after = history ++ [session.asks act (.ok result)])
      (fun e after => after = history ++ [session.asks act (.error e)]) history := by
    refine ⟨⟨act, rfl, hallowed⟩, fun answer => Iff.mpr meets_ofExcept ⟨?_, ?_⟩⟩
    · rintro result rfl
      rfl
    · rintro e rfl
      rfl
  simp only [record, runRecord, run, liftM_eq_ofExcept, meets_bind, meets_ensure,
    meets_pure]
  rw [← session.command_argv act] at hreturns
  refine ⟨fun hargv => ⟨fun hstdin => ?_, fun hstdin => ?_⟩, fun hargv => ?_⟩
  · have hissuable : session.Issuable act := ⟨session.command_argv act ▸ hargv, hstdin⟩
    refine hissue.imp ?_ ?_
    · rintro result after rfl
      exact ⟨fun hwithin => hreturns result hissuable hwithin,
        fun hwithin => hexceeded result _ hissuable hwithin⟩
    · rintro e after rfl
      exact hraised e hissuable
  · exact hunissued (fun h => hstdin h.stdin) _
  · exact hunissued (fun h => hargv (session.command_argv act ▸ h.argv)) _

/-- The same, for postconditions that do not look at what was raised. -/
theorem meets_record {returns : CommandRecord → History → Prop} {raises : Raised → History → Prop}
    (hallowed : session.AllowedAct readers history act)
    (hreturns : ∀ result, session.Issuable act →
      returns ⟨session.argv act, result⟩ (history ++ [session.asks act (.ok result)]))
    (hunissued : ¬ session.Issuable act → ∀ e, raises e history)
    (hraises : ∀ e answer, session.Issuable act → raises e (history ++ [session.asks act answer])) :
    (session.record act).Meets (session.Allowed readers) returns raises history :=
  meets_record_exact hallowed (fun result hissuable _ => hreturns result hissuable)
    (fun hissuable _ => hunissued hissuable _) (fun e hissuable => hraises e _ hissuable)
    fun _ _ hissuable _ => hraises _ _ hissuable

/-- A command that must succeed raises after its exchange, or has exit code 0. -/
theorem meets_succeed {returns : CommandRecord → History → Prop}
    {raises : Raised → History → Prop} (hallowed : session.AllowedAct readers history act)
    (hreturns : ∀ result, session.Issuable act → result.exitCode = 0 →
      returns ⟨session.argv act, result⟩ (history ++ [session.asks act (.ok result)]))
    (hunissued : ¬ session.Issuable act → ∀ e, raises e history)
    (hraises : ∀ e answer, session.Issuable act → raises e (history ++ [session.asks act answer])) :
    (session.succeed act).Meets (session.Allowed readers) returns raises history := by
  simp only [succeed, liftM_eq_ofExcept, meets_bind, meets_ensure, meets_pure]
  refine meets_record hallowed (fun result hissuable => ?_) hunissued hraises
  exact ⟨fun hexit => hreturns result hissuable hexit, fun _ => hraises _ _ hissuable⟩

/-- An absence command that must show that the target is gone. -/
theorem meets_absent {returns : CommandRecord → History → Prop}
    {raises : Raised → History → Prop} {message : String}
    (hreturns : ∀ result, session.Issuable (.absence target) → result.exitCode = 0 →
      result.stdout = [] → returns ⟨session.argv (.absence target), result⟩
        (history ++ [session.asks (.absence target) (.ok result)]))
    (hunissued : ¬ session.Issuable (.absence target) → ∀ e, raises e history)
    (hraises : ∀ e answer, session.Issuable (.absence target) →
      raises e (history ++ [session.asks (.absence target) answer])) :
    (session.absent target message).Meets (session.Allowed readers) returns raises history := by
  simp only [absent, liftM_eq_ofExcept, meets_bind, meets_ensure, meets_pure]
  refine meets_record trivial (fun result hissuable => ?_) hunissued hraises
  exact ⟨fun h => hreturns result hissuable h.1 h.2, fun _ => hraises _ _ hissuable⟩

theorem Issuable.runtimeValid (h : session.Issuable act) : session.RuntimeValid :=
  session.runtimeValid_of_argv h.argv

/-! ## Steps of the body -/

/-- Where the body stops, the local variables tell what has been started. -/
def StopsSound (session : Session) (stopped : Stopped) (history : History) : Prop :=
  session.Sound stopped.progress history

theorem meets_during {α : Type} {x : Execution α} {returns : α → History → Prop} :
    (during progress x).Meets (session.Allowed readers) returns session.StopsSound history ↔
      x.Meets (session.Allowed readers) returns (fun _ after => session.Sound progress after)
        history :=
  meets_mapError

theorem step_succeed {returns : CommandRecord → History → Prop}
    (hsound : session.Sound progress history) (hcovers : progress.Covers act)
    (hallowed : session.AllowedAct readers history act)
    (hreturns : ∀ result, session.Issuable act → result.exitCode = 0 →
      session.Sound progress (history ++ [session.asks act (.ok result)]) →
        returns ⟨session.argv act, result⟩ (history ++ [session.asks act (.ok result)])) :
    (session.succeed act).Meets (session.Allowed readers) returns
      (fun _ after => session.Sound progress after) history :=
  meets_succeed hallowed
    (fun result hissuable hexit => hreturns result hissuable hexit (hsound.concat hcovers _))
    (fun _ _ => hsound) fun _ answer _ => hsound.concat hcovers answer

theorem step_absent {returns : CommandRecord → History → Prop} {message : String}
    (hsound : session.Sound progress history)
    (hreturns : ∀ result, session.Issuable (.absence target) → result.exitCode = 0 →
      result.stdout = [] →
      session.Sound progress (history ++ [session.asks (.absence target) (.ok result)]) →
        returns ⟨session.argv (.absence target), result⟩
          (history ++ [session.asks (.absence target) (.ok result)])) :
    (session.absent target message).Meets (session.Allowed readers) returns
      (fun _ after => session.Sound progress after) history := by
  have hcovers : progress.Covers (.absence target) := trivial
  exact meets_absent
    (fun result hissuable hexit hempty =>
      hreturns result hissuable hexit hempty (hsound.concat hcovers _))
    (fun _ _ => hsound) fun _ answer _ => hsound.concat hcovers answer

/-- The rule of a check, which asks nothing. -/
theorem step_check {α : Type} {x : Except Raised α} {returns : α → History → Prop}
    (hsound : session.Sound progress history) (hreturns : ∀ a, x = .ok a → returns a history) :
    (ofExcept x : Execution α).Meets (session.Allowed readers) returns
      (fun _ after => session.Sound progress after) history :=
  Iff.mpr meets_ofExcept ⟨hreturns, fun _ _ => hsound⟩

/-! ## Records of what succeeded -/

/-- Every absence command of the history ended with exit code 0 and printed nothing. -/
def AbsencesEmpty (session : Session) (history : History) : Prop :=
  ∀ target answer, session.asks (.absence target) answer ∈ history →
    ∃ result, answer = .ok result ∧ result.exitCode = 0 ∧ result.stdout = []

/-- Every command so far is on record and has succeeded. -/
structure Clean (session : Session) (records : List CommandRecord) (history : History) : Prop where
  recorded : Recorded records history
  succeeded : ∀ record ∈ records, record.result.exitCode = 0
  absences : session.AbsencesEmpty history

variable {records : List CommandRecord} {result : CommandResult}

theorem Clean.concat (h : session.Clean records history) (act : Act)
    (hexit : result.exitCode = 0)
    (habsence : ∀ target, act = .absence target → result.stdout = []) :
    session.Clean (records ++ [⟨session.argv act, result⟩])
      (history ++ [session.asks act (.ok result)]) where
  recorded := by
    have houtcome : commandOutcome (session.asks act (.ok result)) =
        some (some ⟨session.argv act, result⟩) :=
      congrArg (fun argv => some (some (CommandRecord.mk argv result))) (session.command_argv act)
    rw [Recorded, List.filterMap_append, h.recorded, List.map_append]
    simp [houtcome]
  succeeded := by
    intro record hrecord
    rcases List.mem_append.mp hrecord with hrecord | hrecord
    · exact h.succeeded record hrecord
    · rw [List.mem_singleton.mp hrecord]
      exact hexit
  absences := by
    intro target answer hmem
    rcases List.mem_append.mp hmem with hmem | hmem
    · exact h.absences target answer hmem
    · have heq := List.mem_singleton.mp hmem
      have hact : session.command (.absence target) = session.command act :=
        Query.command.inj (congrArg Sigma.fst heq)
      have hact' := session.command_injective hact
      subst hact'
      cases heq
      exact ⟨result, rfl, hexit, habsence target rfl⟩

/-- What is no command is not on record. -/
theorem Clean.other (h : session.Clean records history) (exchange : Exchange Query Answer)
    (hcommand : ∀ command, exchange.1 ≠ .command command) :
    session.Clean records (history ++ [exchange]) where
  recorded := by
    have hnone : commandOutcome exchange = none := by
      obtain ⟨query, answer⟩ := exchange
      cases query with
      | command command => exact absurd rfl (hcommand command)
      | _ => rfl
    rw [Recorded, List.filterMap_append, h.recorded]
    simp [hnone]
  succeeded := h.succeeded
  absences := by
    intro target answer hmem
    rcases List.mem_append.mp hmem with hmem | hmem
    · exact h.absences target answer hmem
    · exact absurd (by rw [← List.mem_singleton.mp hmem]) (hcommand _)

end Session
end AmazonSimilarSearch.Broker
