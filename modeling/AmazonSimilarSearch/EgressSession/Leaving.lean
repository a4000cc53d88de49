import AmazonSimilarSearch.EgressSession.CommandLines
import AmazonSimilarSearch.EgressSession.Contract

/-!
# Leaving a session

A session that may be left names what it has tried to create, and the path of the
runtime is then valid; the two loops of the cleanup keep what they have done for
each target. What raises on the way is an output, a probe or a record that
`Regular` excludes, so the property of a run is settled there.
-/
namespace AmazonSimilarSearch.EgressSession
open Foundation Interaction
open Broker (Target)

namespace Session

variable {session : Session} {loads : InspectReader} {history : History}

/-- Every query may be asked. -/
abbrev anyQuery : History → Query → Prop := fun _ _ => True

/-! ## The state in which a session is left -/

/-- A backend and an environment are set, and commands can be issued. -/
def Ready (state : State session.H) : Prop :=
  ∃ backend environment, state.backend = some backend ∧ state.environment = some environment ∧
    ValidExecutable backend

/-- What is known of a session that has not been left. -/
structure Leavable (session : Session) (state : State session.H) (history : History) : Prop where
  entered : state.entered = true
  is_open : state.closed = false
  created : ∀ target, Issued .provisioning (.create target) history → state.created target = true
  ready : ∀ target, state.created target = true → Ready state
  provisions : ∀ exchange ∈ history, ∀ stage act, exchange.1 = .command stage act →
    stage = .provisioning
  undetected : ∀ exchange ∈ history, exchange.1 ≠ .detect true
  no_post : state.postCommands = []

/-- One more exchange of the provisioning. -/
theorem Leavable.concat {state : State session.H} {last : Exchange Query Answer}
    (h : Leavable session state history)
    (hcreate : ∀ target, last.1 = .command .provisioning (.create target) →
      state.created target = true)
    (hstage : ∀ stage act, last.1 = .command stage act → stage = .provisioning)
    (hdetect : last.1 ≠ .detect true) : Leavable session state (history ++ [last]) where
  entered := h.entered
  is_open := h.is_open
  created target hissued := by
    rcases issued_append.mp hissued with hbefore | hlast
    · exact h.created target hbefore
    · exact hcreate target (issued_singleton.mp hlast)
  ready := h.ready
  provisions exchange hmem := by
    rcases List.mem_append.mp hmem with hmem | hmem
    · exact h.provisions exchange hmem
    · rw [List.mem_singleton.mp hmem]
      exact hstage
  undetected exchange hmem := by
    rcases List.mem_append.mp hmem with hmem | hmem
    · exact h.undetected exchange hmem
    · rw [List.mem_singleton.mp hmem]
      exact hdetect
  no_post := h.no_post

/-- A query that is no command. -/
theorem Leavable.other {state : State session.H} (h : Leavable session state history)
    (last : Exchange Query Answer) (hcommand : ∀ stage act, last.1 ≠ .command stage act)
    (hdetect : last.1 ≠ .detect true) : Leavable session state (history ++ [last]) :=
  h.concat (fun _ hlast => absurd hlast (hcommand _ _))
    (fun _ _ hlast => absurd hlast (hcommand _ _)) hdetect

/-- The attributes that may change meanwhile. -/
theorem Leavable.update {state after : State session.H} (h : Leavable session state history)
    (hentered : after.entered = state.entered) (hclosed : after.closed = state.closed)
    (hcreated : ∀ target, state.created target = true → after.created target = true)
    (hready : ∀ target, after.created target = true → Ready after)
    (hpost : after.postCommands = state.postCommands) : Leavable session after history where
  entered := hentered.trans h.entered
  is_open := hclosed.trans h.is_open
  created target hissued := hcreated target (h.created target hissued)
  ready := hready
  provisions := h.provisions
  undetected := h.undetected
  no_post := hpost.trans h.no_post

/-! ## Provisioning -/

/-- What is known while the resources are created. -/
structure Preparing (session : Session) (backend : ContainerBackend) (state : State session.H)
    (history : History) : Prop where
  leavable : Leavable session state history
  backend_set : state.backend = some backend
  environment_set : state.environment.isSome = true
  valid : ValidExecutable backend

theorem Preparing.isReady {backend : ContainerBackend} {state : State session.H}
    (h : Preparing session backend state history) : Ready state := by
  obtain ⟨environment, henvironment⟩ := Option.isSome_iff_exists.mp h.environment_set
  exact ⟨backend, environment, h.backend_set, henvironment, h.valid⟩

/-- Attributes that no cleanup reads, or one more resource that is about to be created. -/
theorem Preparing.update {backend : ContainerBackend} {state after : State session.H}
    (h : Preparing session backend state history)
    (hentered : after.entered = state.entered) (hclosed : after.closed = state.closed)
    (hcreated : ∀ target, state.created target = true → after.created target = true)
    (hbackend : after.backend = state.backend)
    (henvironment : after.environment = state.environment)
    (hpost : after.postCommands = state.postCommands) :
    Preparing session backend after history := by
  have hready : Ready after := by
    obtain ⟨backend, environment, hbackend', henvironment', hvalid⟩ := h.isReady
    exact ⟨backend, environment, hbackend.trans hbackend', henvironment.trans henvironment', hvalid⟩
  exact ⟨h.leavable.update hentered hclosed hcreated (fun _ _ => hready) hpost,
    hbackend.trans h.backend_set, by rw [henvironment]; exact h.environment_set, h.valid⟩

/-- What is known where the provisioning raises. -/
abbrev StopsLeavable (session : Session) : Stopped session.H → History → Prop :=
  fun stopped => Leavable session stopped.state

variable {backend : ContainerBackend} {state : State session.H} {act : Act}

theorem Leavable.command (h : Leavable session state history)
    (hact : ∀ target, act = .create target → state.created target = true)
    (answer : Except Unit Reply) :
    Leavable session state (history ++ [⟨.command .provisioning act, answer⟩]) := by
  refine h.concat (fun target hlast => hact target ?_) (fun stage other hlast => ?_) fun hlast => ?_
  · exact (Query.command.inj hlast).2
  · exact (Query.command.inj hlast).1.symm
  · cases hlast

theorem meets_required (h : Leavable session state history)
    (hact : ∀ target, act = .create target → state.created target = true) :
    (session.required backend state act).Meets anyQuery
      (fun _ after => Leavable session state after ∧ ValidExecutable backend)
      (StopsLeavable session) history := by
  rw [required, meets_bind]
  refine meets_command_or trivial h (fun answer _ => h.command hact answer) ?_
  intro reply record hargv _ _ _
  exact ⟨h.command hact (.ok reply), session.validExecutable_of_argv hargv⟩

theorem meets_during {α : Type} {x : Except Raised α} {returns : α → History → Prop}
    (h : Leavable session state history)
    (hreturns : ∀ value, x = .ok value → returns value history) :
    (session.during state x).Meets anyQuery returns (StopsLeavable session) history := by
  cases x with
  | ok value => exact hreturns value rfl
  | error error => exact h

theorem meets_succeed (h : Preparing session backend state history)
    (hact : ∀ target, act = .create target → state.created target = true) :
    (session.succeed backend state act).Meets anyQuery
      (fun _ => Preparing session backend state) (StopsLeavable session) history := by
  rw [succeed, meets_bind]
  refine (meets_required h.leavable hact).imp (fun record after hafter => ?_) fun _ _ h => h
  rw [meets_bind]
  exact meets_during hafter.1 fun _ _ =>
    ⟨hafter.1, h.backend_set, h.environment_set, hafter.2⟩

theorem meets_recorded (h : Preparing session backend state history)
    (hact : ∀ target, act = .create target → state.created target = true) :
    (session.recorded backend state act).Meets anyQuery
      (fun next after => Preparing session backend next after ∧
        ∀ target, state.created target = true → next.created target = true)
      (StopsLeavable session) history := by
  rw [recorded, meets_bind]
  refine (meets_succeed h hact).imp (fun record after hafter => ?_) fun _ _ h => h
  refine ⟨hafter.update rfl rfl (fun target h => ?_) rfl rfl rfl, fun target h => ?_⟩
  · cases target <;> exact h
  · cases target <;> exact h

theorem meets_preflight (h : Leavable session state history)
    (hbackend : state.backend = some backend)
    (henvironment : state.environment.isSome = true) :
    (session.preflight backend state).Meets anyQuery
      (fun next => Preparing session backend next) (StopsLeavable session) history := by
  have hno : ∀ target other : Target, Act.absence target = .create other →
      state.created other = true := fun _ _ h => nomatch h
  rw [preflight, meets_bind]
  refine (meets_required h (hno _)).imp (fun _ after hafter => ?_) fun _ _ h => h
  rw [meets_bind]
  refine (meets_required hafter.1 (hno _)).imp (fun _ after hafter => ?_) fun _ _ h => h
  rw [meets_bind]
  refine (meets_required hafter.1 (hno _)).imp (fun _ after hafter => ?_) fun _ _ h => h
  rw [meets_bind]
  refine meets_during hafter.1 fun _ _ => ?_
  have hpreparing : Preparing session backend state after :=
    ⟨hafter.1, hbackend, henvironment, hafter.2⟩
  exact hpreparing.update rfl rfl (fun target h => by cases target <;> exact h) rfl rfl rfl

theorem meets_create (h : Preparing session backend state history) :
    (session.create backend state).Meets anyQuery
      (fun next => Preparing session backend next) (StopsLeavable session) history := by
  rw [create, meets_bind]
  have hinternal : Preparing session backend { state with createdInternal := true } history :=
    h.update rfl rfl (fun target h => by cases target <;> first | rfl | exact h) rfl rfl rfl
  refine (meets_recorded hinternal fun target htarget => ?_).imp (fun next after hnext => ?_)
    fun _ _ h => h
  · cases htarget
    rfl
  rw [meets_bind]
  have hexternal : Preparing session backend { next with createdExternal := true } after :=
    hnext.1.update rfl rfl (fun target h => by cases target <;> first | rfl | exact h) rfl rfl rfl
  refine (meets_recorded hexternal fun target htarget => ?_).imp (fun next after hnext => ?_)
    fun _ _ h => h
  · cases htarget
    rfl
  rw [meets_bind]
  have hgateway : Preparing session backend { next with createdGateway := true } after :=
    hnext.1.update rfl rfl (fun target h => by cases target <;> first | rfl | exact h) rfl rfl rfl
  refine (meets_recorded hgateway fun target htarget => ?_).imp (fun next after hnext => ?_)
    fun _ _ h => h
  · cases htarget
    rfl
  have hconnect : ∀ target, Act.connect = .create target → next.created target = true :=
    fun _ h => nomatch h
  exact (meets_recorded hnext.1 hconnect).imp (fun next after hnext => hnext.1) fun _ _ h => h

theorem meets_measure (environment : Broker.Environment)
    (h : Preparing session backend state history) :
    (session.measure loads backend environment state).Meets anyQuery
      (fun next => Leavable session next) (StopsLeavable session) history := by
  have hno : ∀ target other : Target, Act.inspect target = .create other →
      state.created other = true := fun _ _ h => nomatch h
  rw [measure, meets_bind]
  refine (meets_succeed h (hno _)).imp (fun internal after h => ?_) fun _ _ h => h
  rw [meets_bind]
  refine (meets_succeed h (hno _)).imp (fun external after h => ?_) fun _ _ h => h
  rw [meets_bind]
  refine (meets_succeed h (hno _)).imp (fun gateway after h => ?_) fun _ _ h => h
  have hkeep : ∀ next : State session.H, next.entered = state.entered →
      next.closed = state.closed → next.created = state.created → next.backend = state.backend →
      next.environment = state.environment → next.postCommands = state.postCommands →
      Leavable session next after := by
    intro next hentered hclosed hcreated hbackend henvironment hpost
    exact (h.update hentered hclosed (fun target h => by rw [hcreated]; exact h) hbackend
      henvironment hpost).leavable
  rw [meets_bind]
  refine meets_during (hkeep _ rfl rfl rfl rfl rfl rfl) fun _ _ => ?_
  rw [meets_bind]
  refine meets_during (hkeep _ rfl rfl rfl rfl rfl rfl) fun _ _ => ?_
  rw [meets_bind]
  refine meets_during (hkeep _ rfl rfl rfl rfl rfl rfl) fun _ _ => ?_
  rw [meets_bind]
  refine meets_during (hkeep _ rfl rfl rfl rfl rfl rfl) fun _ _ => ?_
  rw [meets_bind]
  refine meets_during (hkeep _ rfl rfl rfl rfl rfl rfl) fun _ _ => ?_
  rw [meets_bind]
  refine meets_during (hkeep _ rfl rfl rfl rfl rfl rfl) fun _ _ => ?_
  exact hkeep _ rfl rfl rfl rfl rfl rfl

/-- Whatever the provisioning returns or raises, the session may be left. -/
theorem meets_provision (h : Leavable session state history)
    (hnone : ∀ target, state.created target = false) :
    (session.provision loads state).Meets anyQuery
      (fun next => Leavable session next) (StopsLeavable session) history := by
  rw [provision, meets_bind, detectExactBackend, meets_bind, meets_query]
  refine ⟨trivial, fun answer => ?_⟩
  have hdetected := h.other ⟨.detect false, answer⟩ (fun _ _ h => nomatch h)
    (fun h => nomatch h)
  have hstart : ∀ detected : Except Raised ContainerBackend,
      Meets anyQuery (fun next => Leavable session next) (StopsLeavable session) (do
        let backend ← session.during state detected
        session.during state session.checkPolicy
        let state := { state with backend := some backend }
        let environment ← Interaction.query (Query.baseEnvironment backend.name)
        let environment ← session.during state (environment.mapError fun _ => .exception)
        let startedUnixNs ← Interaction.query Query.clock
        let startedMonotonicNs ← Interaction.query Query.clock
        let state := { state with
          environment := some environment
          startedUnixNs := startedUnixNs
          startedMonotonicNs := startedMonotonicNs }
        let state ← session.preflight backend state
        let state ← session.create backend state
        session.measure loads backend environment state)
      (history ++ [⟨.detect false, answer⟩]) := by
    intro detected
    rw [meets_bind]
    refine meets_during hdetected fun backend _ => ?_
    rw [meets_bind]
    refine meets_during hdetected fun _ _ => ?_
    have hkeep : ∀ (next : State session.H) (after : History), Leavable session state after →
        next.entered = state.entered → next.closed = state.closed → next.created = state.created →
        next.postCommands = state.postCommands → Leavable session next after := by
      intro next after h hentered hclosed hcreated hpost
      refine h.update hentered hclosed (fun target h => by rw [hcreated]; exact h) ?_ hpost
      intro target htarget
      rw [hcreated, hnone target] at htarget
      cases htarget
    rw [meets_bind, meets_query]
    refine ⟨trivial, fun environment => ?_⟩
    have henvironment := hdetected.other ⟨.baseEnvironment backend.name, environment⟩
      (fun _ _ h => nomatch h) (fun h => nomatch h)
    rw [meets_bind]
    refine meets_during (hkeep _ _ henvironment rfl rfl rfl rfl) fun environment _ => ?_
    rw [meets_bind, meets_query]
    refine ⟨trivial, fun startedUnixNs => ?_⟩
    rw [meets_bind, meets_query]
    refine ⟨trivial, fun startedMonotonicNs => ?_⟩
    have hclock := (henvironment.other ⟨.clock, startedUnixNs⟩ (fun _ _ h => nomatch h)
      (fun h => nomatch h)).other ⟨.clock, startedMonotonicNs⟩ (fun _ _ h => nomatch h)
      (fun h => nomatch h)
    have hset : Leavable session
        { state with
          backend := some backend
          environment := some environment
          startedUnixNs := startedUnixNs
          startedMonotonicNs := startedMonotonicNs } _ := hkeep _ _ hclock rfl rfl rfl rfl
    rw [meets_bind]
    refine (meets_preflight hset rfl rfl).imp (fun next after h => ?_) fun _ _ h => h
    rw [meets_bind]
    exact (meets_create h).imp (fun next after h => meets_measure environment h) fun _ _ h => h
  rcases answer with (_ | _) | backend
  · exact hstart (.error isolationFailed)
  · exact hstart (.error .exception)
  · exact hstart (session.exactBackend true backend)

end Session
end AmazonSimilarSearch.EgressSession
