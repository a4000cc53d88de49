import AmazonSimilarSearch.OuterWorkflow.Spec
import Mathlib.Data.List.Chain

/-!
# The fixed workflow

`run_fixed_workflow` runs the seven phases in order. Its callbacks are not
trusted: a callback is any function of everything that was called and answered
before, so it may keep state, talk to the other callbacks and answer anything.
The history is not part of the source; it records what the driver did.
-/
namespace AmazonSimilarSearch.OuterWorkflow
open Foundation

/-- How a callback ends: with bytes, with some other object, or with an exception. -/
inductive Reply where
  | bytes (raw : Bytes)
  | other
  | raises
  deriving DecidableEq

/-- One call of a callback, with what it was given and how it ended. -/
inductive Event where
  | prepare (phase : Phase) (requestRaw : Bytes) (reply : Reply)
  | offline (payload : Bytes) (reply : Reply)
  | broker (payload : Bytes) (reply : Reply)
  | finalize (phase : Phase) (preparedRaw : Untrusted) (external : Bytes) (reply : Reply)
  | committed (phase : Phase) (requestRaw : Bytes) (preparedRaw : Untrusted) (external : Bytes)
      (finalizedRaw : Untrusted) (finalized : FinalizedTransition)

abbrev History := List Event

structure Callbacks where
  coordinatorPrepare : History → Phase → Bytes → Reply
  coordinatorFinalize : History → Phase → Untrusted → Bytes → Reply
  offlineExecute : History → Bytes → Reply
  brokerExecute : History → Bytes → Reply
  /-- `none` when the caller passes no callback; `true` when it raises -/
  transitionCommitted : Option
    (History → Phase → Bytes → Untrusted → Bytes → Untrusted → FinalizedTransition → Bool)

/-- The local variables of the driver. -/
structure State where
  requestRaw : Bytes
  transitions : List FinalizedTransition
  seenRequests : List Sha256
  seenActions : List Sha256
  seenFinalized : List Sha256
  history : History

def State.initial (initialRequest : Bytes) : State :=
  { requestRaw := initialRequest, transitions := [], seenRequests := [], seenActions := [],
    seenFinalized := [], history := [] }

/-- What a call hands back to the driver. -/
def Reply.value : Reply → Except Raised Untrusted
  | .bytes raw => .ok (some raw)
  | .other => .ok none
  | .raises => .error .callback

/-- The call of the executor that an action releases its payload to; a phase without one keeps
the payload as its evidence. -/
def execute (callbacks : Callbacks) (history : History) (kind : ExternalKind) (payload : Bytes) :
    Except Raised (Untrusted × History) :=
  match kind with
  | .offline => do
      let reply := callbacks.offlineExecute history payload
      let value ← reply.value
      pure (value, history ++ [.offline payload reply])
  | .broker => do
      let reply := callbacks.brokerExecute history payload
      let value ← reply.value
      pure (value, history ++ [.broker payload reply])
  | .none => pure (some payload, history)

def announce (callbacks : Callbacks) (history : History) (phase : Phase) (requestRaw : Bytes)
    (preparedRaw : Untrusted) (external : Bytes) (finalizedRaw : Untrusted)
    (finalized : FinalizedTransition) : Except Raised History :=
  match callbacks.transitionCommitted with
  | none => pure history
  | some committed => do
      ensure (committed history phase requestRaw preparedRaw external finalizedRaw finalized = false)
        .callback
      pure (history ++ [.committed phase requestRaw preparedRaw external finalizedRaw finalized])

/-- One round of the loop over `PHASE_ORDER`. -/
def transition (sha256 : HashFunction) (callbacks : Callbacks) (state : State)
    (expectedPhase : Phase) : Except Raised State := do
  let request ← validatePhaseRequestBytes sha256 state.requestRaw
  ensure (request.phase = expectedPhase ∧ request.requestSha256 ∉ state.seenRequests)
    (.workflowState "workflow request is reordered or replayed")
  let prepareReply := callbacks.coordinatorPrepare state.history expectedPhase state.requestRaw
  let preparedRaw ← prepareReply.value
  let history := state.history ++ [.prepare expectedPhase state.requestRaw prepareReply]
  let prepared ← parsePreparedTransition sha256 preparedRaw request
  let actionSha256 := prepared.action.actionSha256
  ensure (actionSha256 ∉ state.seenActions) (.workflowState "workflow action was replayed")
  let kind := prepared.action.externalKind
  let (value, history) ← execute callbacks history kind prepared.payload
  let maximum := if kind ≠ .none then maxExternalBytes else maxPreparedBytes
  let external ← required
    (.workflowState "outer execution evidence is empty or oversized") value
  ensure (external ≠ [] ∧ external.length ≤ maximum)
    (.workflowState "outer execution evidence is empty or oversized")
  let finalizeReply := callbacks.coordinatorFinalize history expectedPhase preparedRaw external
  let finalizedRaw ← finalizeReply.value
  let history := history ++ [.finalize expectedPhase preparedRaw external finalizeReply]
  let finalized ← parseFinalizedTransition sha256 finalizedRaw request
    (if kind ≠ .none then some external else none)
  ensure (finalized.finalizedSha256 ∉ state.seenFinalized)
    (.workflowState "finalized transition was replayed")
  let history ← announce callbacks history expectedPhase state.requestRaw preparedRaw external
    finalizedRaw finalized
  pure {
    requestRaw := finalized.nextRequest.getD state.requestRaw
    transitions := state.transitions ++ [finalized]
    seenRequests := request.requestSha256 :: state.seenRequests
    seenActions := actionSha256 :: state.seenActions
    seenFinalized := finalized.finalizedSha256 :: state.seenFinalized
    history }

/-- `run_fixed_workflow`, with the history of its calls. -/
def runFixedWorkflow (sha256 : HashFunction) (callbacks : Callbacks) (initialRequest : Bytes) :
    Except Raised (List FinalizedTransition × History) := do
  let state ← phaseOrder.foldlM (transition sha256 callbacks) (State.initial initialRequest)
  pure (state.transitions, state.history)

/-! ## What one round does -/

/-- The payload goes to the executor of its kind alone, and to none in the other phases. -/
def executorEvents (payload external : Bytes) : ExternalKind → History
  | .offline => [.offline payload (.bytes external)]
  | .broker => [.broker payload (.bytes external)]
  | .none => []

/-- Everything one round read and called, in its order. -/
structure PhaseStep where
  requestRaw : Bytes
  request : Request
  preparedRaw : Bytes
  prepared : PreparedTransition
  external : Bytes
  finalizedRaw : Bytes
  finalized : FinalizedTransition

namespace PhaseStep

def phase (step : PhaseStep) : Phase := step.request.phase

def committedEvents (announced : Bool) (step : PhaseStep) : History :=
  if announced then [.committed step.phase step.requestRaw (some step.preparedRaw) step.external
    (some step.finalizedRaw) step.finalized] else []

/-- The calls of the round. -/
def events (announced : Bool) (step : PhaseStep) : History :=
  .prepare step.phase step.requestRaw (.bytes step.preparedRaw) ::
    executorEvents step.prepared.payload step.external step.phase.externalKind ++
    .finalize step.phase (some step.preparedRaw) step.external (.bytes step.finalizedRaw) ::
      step.committedEvents announced

/-- What the executor of the phase returned, when the phase has one. -/
def externalRaw (step : PhaseStep) : Option Bytes :=
  if step.phase.externalKind ≠ .none then some step.external else none

/-- The round checked its request, its prepared transition and its finalized one. -/
structure Checked (sha256 : HashFunction) (step : PhaseStep) : Prop where
  request : validatePhaseRequestBytes sha256 step.requestRaw = .ok step.request
  prepared : parsePreparedTransition sha256 (some step.preparedRaw) step.request =
    .ok step.prepared
  external : step.phase.externalKind = .none → step.external = step.prepared.payload
  finalized : parseFinalizedTransition sha256 (some step.finalizedRaw) step.request
    step.externalRaw = .ok step.finalized

end PhaseStep

/-- The state after a round. -/
def State.after (state : State) (announced : Bool) (step : PhaseStep) : State :=
  { requestRaw := step.finalized.nextRequest.getD state.requestRaw
    transitions := state.transitions ++ [step.finalized]
    seenRequests := step.request.requestSha256 :: state.seenRequests
    seenActions := step.prepared.action.actionSha256 :: state.seenActions
    seenFinalized := step.finalized.finalizedSha256 :: state.seenFinalized
    history := state.history ++ step.events announced }

variable {H : HashFunction} {callbacks : Callbacks}

theorem Reply.value_eq_ok_some_iff {reply : Reply} {raw : Bytes} :
    reply.value = .ok (some raw) ↔ reply = .bytes raw := by
  cases reply <;> simp [Reply.value]

theorem execute_ok {history : History} {kind : ExternalKind} {payload : Bytes}
    {value : Untrusted} {after : History} {external : Bytes}
    (h : execute callbacks history kind payload = .ok (value, after))
    (hvalue : value = some external) :
    (kind = .none → external = payload) ∧
      after = history ++ executorEvents payload external kind := by
  subst hvalue
  cases kind with
  | none =>
      simp only [execute, pure_eq_ok_iff, Prod.mk.injEq, Option.some.injEq] at h
      simp [h.1, ← h.2, executorEvents]
  | offline =>
      simp only [execute, bind_eq_ok_iff, pure_eq_ok_iff, Prod.mk.injEq] at h
      obtain ⟨value, hreply, rfl, rfl⟩ := h
      simp [Reply.value_eq_ok_some_iff.mp hreply, executorEvents]
  | broker =>
      simp only [execute, bind_eq_ok_iff, pure_eq_ok_iff, Prod.mk.injEq] at h
      obtain ⟨value, hreply, rfl, rfl⟩ := h
      simp [Reply.value_eq_ok_some_iff.mp hreply, executorEvents]

theorem announce_ok {history after : History} {phase : Phase} {requestRaw external : Bytes}
    {preparedRaw finalizedRaw : Untrusted} {finalized : FinalizedTransition}
    (h : announce callbacks history phase requestRaw preparedRaw external finalizedRaw finalized =
      .ok after) :
    after = history ++ (if callbacks.transitionCommitted.isSome then
      [.committed phase requestRaw preparedRaw external finalizedRaw finalized] else []) := by
  cases hc : callbacks.transitionCommitted with
  | none =>
      simp only [announce, hc, pure_eq_ok_iff] at h
      simp [h]
  | some committed =>
      simp only [announce, hc, bind_eq_ok_iff, ensure_eq_ok_iff, exists_const,
        pure_eq_ok_iff] at h
      simp [← h.2]

/-- A round that does not raise is described by one step: it starts from the bytes the state
holds, serves the expected phase, repeats no digest, and leaves the state after it. -/
theorem transition_ok {state next : State} {phase : Phase}
    (h : transition H callbacks state phase = .ok next) :
    ∃ step : PhaseStep, step.requestRaw = state.requestRaw ∧ step.phase = phase ∧
      step.Checked H ∧ step.request.requestSha256 ∉ state.seenRequests ∧
      step.prepared.action.actionSha256 ∉ state.seenActions ∧
      step.finalized.finalizedSha256 ∉ state.seenFinalized ∧
      next = state.after callbacks.transitionCommitted.isSome step := by
  simp only [transition, bind_eq_ok_iff, ensure_eq_ok_iff, exists_const, required_eq_ok_iff,
    pure_eq_ok_iff] at h
  obtain ⟨request, hrequest, ⟨hphase, hfresh⟩, preparedRaw, hprepareReply, prepared, hprepared,
    haction, ⟨value, history⟩, hexecute, external, hvalue, -, finalizedRaw, hfinalizeReply,
    finalized, hfinalized, hfinalizedFresh, after, hannounce, hnext⟩ := h
  obtain ⟨⟨preparedBytes, rfl, -⟩, hbound, -⟩ := parsePreparedTransition_ok hprepared
  obtain ⟨⟨finalizedBytes, rfl, -, -⟩, -⟩ := parseFinalizedTransition_ok hfinalized
  have hkind : prepared.action.externalKind = phase.externalKind := by
    rw [hbound.kind, hphase]
  rw [hkind] at hexecute hfinalized
  obtain ⟨hexternal, rfl⟩ := execute_ok hexecute hvalue
  have hafter := announce_ok hannounce
  refine ⟨⟨state.requestRaw, request, preparedBytes, prepared, external, finalizedBytes,
    finalized⟩, rfl, hphase, ⟨hrequest, hprepared, ?_, ?_⟩, hfresh, haction, hfinalizedFresh, ?_⟩
  · intro hnone
    exact hexternal (by rw [← hnone, PhaseStep.phase, hphase])
  · simpa only [PhaseStep.externalRaw, PhaseStep.phase, hphase] using hfinalized
  · have hprepareEvent := Reply.value_eq_ok_some_iff.mp hprepareReply
    have hfinalizeEvent := Reply.value_eq_ok_some_iff.mp hfinalizeReply
    rw [hfinalizeEvent, hprepareEvent] at hafter
    rw [← hnext, hafter]
    simp only [State.after, PhaseStep.events, PhaseStep.committedEvents,
      PhaseStep.phase, hphase, List.append_assoc, List.cons_append]
    rfl

/-! ## What a whole run does -/

/-- The run of a list of rounds from the initial bytes: each round starts from the bytes the
one before it left, and no digest comes twice. -/
structure Run (sha256 : HashFunction) (announced : Bool) (initialRequest : Bytes)
    (phases : List Phase) (state : State) (steps : List PhaseStep) : Prop where
  phases : steps.map PhaseStep.phase = phases
  checked : ∀ step ∈ steps, step.Checked sha256
  chain : List.IsChain (fun a b => b.requestRaw = a.finalized.nextRequest.getD a.requestRaw) steps
  first : ∀ step ∈ steps.head?, step.requestRaw = initialRequest
  last : state.requestRaw = (steps.getLast?.map fun step =>
    step.finalized.nextRequest.getD step.requestRaw).getD initialRequest
  transitions : state.transitions = steps.map PhaseStep.finalized
  requests : state.seenRequests = (steps.map fun step => step.request.requestSha256).reverse
  actions : state.seenActions = (steps.map fun step => step.prepared.action.actionSha256).reverse
  finalized : state.seenFinalized =
    (steps.map fun step => step.finalized.finalizedSha256).reverse
  freshRequests : state.seenRequests.Nodup
  freshActions : state.seenActions.Nodup
  freshFinalized : state.seenFinalized.Nodup
  history : state.history = steps.flatMap (PhaseStep.events announced)

theorem Run.initial (announced : Bool) (initialRequest : Bytes) :
    Run H announced initialRequest [] (State.initial initialRequest) [] where
  phases := rfl
  checked := by simp
  chain := .nil
  first := by simp
  last := rfl
  transitions := rfl
  requests := rfl
  actions := rfl
  finalized := rfl
  freshRequests := List.nodup_nil
  freshActions := List.nodup_nil
  freshFinalized := List.nodup_nil
  history := rfl

/-- One more round extends the run. -/
theorem Run.append {initialRequest : Bytes} {phases : List Phase} {state next : State}
    {steps : List PhaseStep} {phase : Phase}
    (hrun : Run H callbacks.transitionCommitted.isSome initialRequest phases state steps)
    (h : transition H callbacks state phase = .ok next) :
    ∃ step, Run H callbacks.transitionCommitted.isSome initialRequest (phases ++ [phase]) next
      (steps ++ [step]) := by
  obtain ⟨step, hstart, hphase, hchecked, hrequest, haction, hfinalized, rfl⟩ := transition_ok h
  refine ⟨step, ?_⟩
  exact {
    phases := by simp [hrun.phases, hphase]
    checked := by
      intro s hs
      rcases List.mem_append.mp hs with hs | hs
      · exact hrun.checked s hs
      · rw [List.mem_singleton.mp hs]
        exact hchecked
    chain := by
      refine hrun.chain.append (.singleton _) ?_
      intro a ha b hb
      have hlast := hrun.last
      rw [Option.mem_def.mp ha] at hlast
      rw [← Option.some.inj hb, hstart, hlast]
      rfl
    first := by
      cases steps with
      | nil =>
          have hlast := hrun.last
          simp only [List.getLast?_nil, Option.map_none, Option.getD_none] at hlast
          simpa [hstart] using hlast
      | cons a steps => simpa using hrun.first
    last := by simp [State.after, hstart]
    transitions := by simp [State.after, hrun.transitions]
    requests := by simp [State.after, hrun.requests]
    actions := by simp [State.after, hrun.actions]
    finalized := by simp [State.after, hrun.finalized]
    freshRequests := List.nodup_cons.mpr ⟨hrequest, hrun.freshRequests⟩
    freshActions := List.nodup_cons.mpr ⟨haction, hrun.freshActions⟩
    freshFinalized := List.nodup_cons.mpr ⟨hfinalized, hrun.freshFinalized⟩
    history := by simp [State.after, hrun.history] }

/-- A run that returns is the run of one round for each phase of the order. -/
theorem runFixedWorkflow_ok {initialRequest : Bytes}
    {result : List FinalizedTransition × History}
    (h : runFixedWorkflow H callbacks initialRequest = .ok result) :
    ∃ state steps, Run H callbacks.transitionCommitted.isSome initialRequest phaseOrder state
      steps ∧ result = (state.transitions, state.history) := by
  simp only [runFixedWorkflow, bind_eq_ok_iff, pure_eq_ok_iff] at h
  obtain ⟨state, hstate, rfl⟩ := h
  have hrun := foldlM_invariant
    (I := fun phases state => ∃ steps,
      Run H callbacks.transitionCommitted.isSome initialRequest phases state steps)
    (fun done phase state next hinv hstep => by
      obtain ⟨steps, hsteps⟩ := hinv
      obtain ⟨step, hnext⟩ := hsteps.append hstep
      exact ⟨_, hnext⟩)
    phaseOrder [] (State.initial initialRequest) state ⟨[], Run.initial _ _⟩ hstate
  obtain ⟨steps, hsteps⟩ := hrun
  exact ⟨state, steps, hsteps, rfl⟩

end AmazonSimilarSearch.OuterWorkflow
