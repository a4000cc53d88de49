import AmazonSimilarSearch.OuterWorkflow.Honest
import Mathlib.Data.List.Nodup

/-!
# Runs that return

Callbacks that replay a list of checked rounds take the driver through exactly
those rounds. With the rounds of a coordinator that follows the protocol, the
driver returns for every digest function that keeps their digests apart, so
what is proved of runs that return is not vacuous.
-/
namespace AmazonSimilarSearch.OuterWorkflow
open Foundation

variable {H : HashFunction}

/-- Callbacks that answer each phase with the bytes of its round. -/
def replay (steps : List PhaseStep) : Callbacks :=
  let answer (phase : Phase) (bytes : PhaseStep → Bytes) : Reply :=
    match steps.find? fun step => step.phase = phase with
    | some step => .bytes (bytes step)
    | none => .raises
  { coordinatorPrepare := fun _ phase _ => answer phase PhaseStep.preparedRaw
    coordinatorFinalize := fun _ phase _ _ => answer phase PhaseStep.finalizedRaw
    offlineExecute := fun _ _ => answer .offline PhaseStep.external
    brokerExecute := fun _ _ => answer .broker PhaseStep.external
    transitionCommitted := none }

/-- The evidence of a round keeps the limits of the driver. -/
def PhaseStep.ExternalFits (step : PhaseStep) : Prop :=
  step.external ≠ [] ∧ step.external.length ≤
    if step.phase.externalKind ≠ .none then maxExternalBytes else maxPreparedBytes

/-- No digest of a round was seen before. -/
structure PhaseStep.Fresh (step : PhaseStep) (state : State) : Prop where
  request : step.request.requestSha256 ∉ state.seenRequests
  action : step.prepared.action.actionSha256 ∉ state.seenActions
  finalized : step.finalized.finalizedSha256 ∉ state.seenFinalized

/-- The driver takes one replayed round. -/
theorem transition_replay {steps : List PhaseStep} {step : PhaseStep} {state : State}
    (hfind : steps.find? (fun s => s.phase = step.phase) = some step) (hchecked : step.Checked H)
    (hexternal : step.ExternalFits) (hraw : step.requestRaw = state.requestRaw)
    (hfresh : step.Fresh state) :
    transition H (replay steps) state step.phase = .ok (state.after false step) := by
  have hbound := hchecked.prepared
  obtain ⟨-, hbound, -⟩ := parsePreparedTransition_ok hbound
  have hkind : step.prepared.action.externalKind = step.phase.externalKind := hbound.kind
  have hfinalized := hchecked.finalized
  rw [PhaseStep.externalRaw] at hfinalized
  have hexecute : ∀ history, execute (replay steps) history step.phase.externalKind
      step.prepared.payload = .ok (some step.external,
        history ++ executorEvents step.prepared.payload step.external step.phase.externalKind) := by
    intro history
    cases hphase : step.phase <;> simp only [hphase] at hfind <;>
      simp [execute, executorEvents, Phase.externalKind, replay, hfind, Reply.value,
        hchecked.external, hphase] <;> rfl
  have hrequest : step.request.phase = step.phase ∧
      step.request.requestSha256 ∉ state.seenRequests := ⟨rfl, hfresh.request⟩
  have hlimit := hexternal
  unfold PhaseStep.ExternalFits at hlimit
  have hprepare : (replay steps).coordinatorPrepare state.history step.phase state.requestRaw =
      .bytes step.preparedRaw := by
    simp only [replay, hfind]
  have hfinalize : ∀ history, (replay steps).coordinatorFinalize history step.phase
      (some step.preparedRaw) step.external = .bytes step.finalizedRaw := by
    intro history
    simp only [replay, hfind]
  have hannounce : ∀ history, announce (replay steps) history step.phase state.requestRaw
      (some step.preparedRaw) step.external (some step.finalizedRaw) step.finalized =
        .ok history := fun _ => rfl
  simp only [transition, ← hraw, hchecked.request, ok_bind, ensure_of _ hrequest]
  rw [hraw]
  simp only [hprepare, Reply.value, ok_bind, hchecked.prepared, ensure_of _ hfresh.action, hkind,
    hexecute, required_some, ensure_of _ hlimit, hfinalize, hfinalized,
    ensure_of _ hfresh.finalized, hannounce, State.after, PhaseStep.events,
    PhaseStep.committedEvents]
  simp [hraw, pure, Except.pure]

/-- The digests of the coming rounds differ from each other and from those seen. -/
structure FreshRounds (state : State) (steps : List PhaseStep) : Prop where
  requests : (steps.map (fun s => s.request.requestSha256) ++ state.seenRequests).Nodup
  actions : (steps.map (fun s => s.prepared.action.actionSha256) ++ state.seenActions).Nodup
  finalized : (steps.map (fun s => s.finalized.finalizedSha256) ++ state.seenFinalized).Nodup

theorem nodup_step {α : Type} {d : α} {ds seen : List α} (h : (d :: ds ++ seen).Nodup) :
    d ∉ seen ∧ (ds ++ d :: seen).Nodup := by
  rw [List.cons_append] at h
  refine ⟨fun hmem => (List.nodup_cons.mp h).1 (List.mem_append_right _ hmem), ?_⟩
  exact List.nodup_middle.mpr h

theorem FreshRounds.step {state : State} {step : PhaseStep} {steps : List PhaseStep}
    (h : FreshRounds state (step :: steps)) :
    step.Fresh state ∧ FreshRounds (state.after false step) steps := by
  obtain ⟨hrequest, hrequests⟩ := nodup_step h.requests
  obtain ⟨haction, hactions⟩ := nodup_step h.actions
  obtain ⟨hfinalized, hfinalizeds⟩ := nodup_step h.finalized
  exact ⟨⟨hrequest, haction, hfinalized⟩, ⟨hrequests, hactions, hfinalizeds⟩⟩

/-- A round that a replay can take. -/
structure Replayable (sha256 : HashFunction) (all : List PhaseStep) (step : PhaseStep) :
    Prop where
  found : all.find? (fun s => s.phase = step.phase) = some step
  checked : step.Checked sha256
  external : step.ExternalFits

theorem foldlM_replay {all : List PhaseStep} :
    ∀ (todo : List PhaseStep) (state : State), (∀ step ∈ todo, Replayable H all step) →
      List.IsChain (fun a b => b.requestRaw = a.finalized.nextRequest.getD a.requestRaw) todo →
      (∀ step ∈ todo.head?, step.requestRaw = state.requestRaw) → FreshRounds state todo →
      (todo.map PhaseStep.phase).foldlM (transition H (replay all)) state =
        .ok (todo.foldl (State.after · false ·) state) := by
  intro todo
  induction todo with
  | nil => exact fun _ _ _ _ _ => rfl
  | cons step todo ih =>
      intro state hreplay hchain hhead hfresh
      obtain ⟨hstep, htodo⟩ := List.forall_mem_cons.mp hreplay
      obtain ⟨hfirst, hrest⟩ := hfresh.step
      have hraw := hhead step rfl
      have hnext : ∀ next ∈ todo.head?, next.requestRaw = (state.after false step).requestRaw := by
        intro next hnext
        cases todo with
        | nil => cases hnext
        | cons b todo =>
            cases hnext
            rw [(List.isChain_cons_cons.mp hchain).1, hraw]
            rfl
      rw [List.map_cons, List.foldlM_cons,
        transition_replay hstep.found hstep.checked hstep.external hraw hfirst, ok_bind,
        ih _ htodo hchain.tail hnext hrest]
      rfl

theorem foldl_after (steps : List PhaseStep) (state : State) :
    (steps.foldl (State.after · false ·) state).transitions =
        state.transitions ++ steps.map PhaseStep.finalized ∧
      (steps.foldl (State.after · false ·) state).history =
        state.history ++ steps.flatMap (PhaseStep.events false) := by
  induction steps generalizing state with
  | nil => simp
  | cons step steps ih =>
      obtain ⟨htransitions, hhistory⟩ := ih (state.after false step)
      constructor
      · rw [List.foldl_cons, htransitions]
        simp [State.after]
      · rw [List.foldl_cons, hhistory]
        simp [State.after]

theorem find?_phase {steps : List PhaseStep} (h : (steps.map PhaseStep.phase).Nodup)
    {step : PhaseStep} (hmem : step ∈ steps) :
    steps.find? (fun s => s.phase = step.phase) = some step := by
  induction steps with
  | nil => cases hmem
  | cons first steps ih =>
      obtain ⟨hfirst, hrest⟩ := List.nodup_cons.mp h
      rcases List.mem_cons.mp hmem with rfl | hmem
      · simp
      · have hne : ¬ first.phase = step.phase := by
          intro hsame
          exact hfirst (hsame ▸ List.mem_map_of_mem hmem)
        rw [List.find?_cons_of_neg (by simpa using hne), ih hrest hmem]

/-- The driver returns when it is answered with checked rounds, one for each phase, that are
chained and repeat no digest. -/
theorem runFixedWorkflow_replay {steps : List PhaseStep} {initialRequest : Bytes}
    (hphases : steps.map PhaseStep.phase = phaseOrder)
    (hchecked : ∀ step ∈ steps, step.Checked H) (hexternal : ∀ step ∈ steps, step.ExternalFits)
    (hchain : List.IsChain
      (fun a b => b.requestRaw = a.finalized.nextRequest.getD a.requestRaw) steps)
    (hinitial : ∀ step ∈ steps.head?, step.requestRaw = initialRequest)
    (hfresh : FreshRounds (State.initial initialRequest) steps) :
    runFixedWorkflow H (replay steps) initialRequest =
      .ok (steps.map PhaseStep.finalized, steps.flatMap (PhaseStep.events false)) := by
  have hnodup : (steps.map PhaseStep.phase).Nodup := by
    rw [hphases]
    decide
  have hreplayable : ∀ step ∈ steps, Replayable H steps step := fun step hmem =>
    ⟨find?_phase hnodup hmem, hchecked step hmem, hexternal step hmem⟩
  have hfold := foldlM_replay steps (State.initial initialRequest) hreplayable
    hchain hinitial hfresh
  obtain ⟨htransitions, hhistory⟩ := foldl_after steps (State.initial initialRequest)
  rw [runFixedWorkflow, ← hphases, hfold, ok_bind, htransitions, hhistory]
  rfl

/-! ## The rounds of a coordinator that follows the protocol -/

/-- The rounds from a request to the end of the order, at most `n`. -/
def makeSteps (sha256 : HashFunction) (works : Phase → PhaseWork) : ℕ → Request → List PhaseStep
  | 0, _ => []
  | n + 1, request =>
      makeStep sha256 request (works request.phase) ::
        match makeNext sha256 request (works request.phase) with
        | some next => makeSteps sha256 works n next
        | none => []

variable {works : Phase → PhaseWork}

theorem makeSteps_zero (request : Request) : makeSteps H works 0 request = [] := rfl

theorem makeSteps_succ (n : ℕ) (request : Request) : makeSteps H works (n + 1) request =
    makeStep H request (works request.phase) ::
      match makeNext H request (works request.phase) with
      | some next => makeSteps H works n next
      | none => [] := rfl

theorem makeNext_phase {request next : Request} {work : PhaseWork}
    (h : makeNext H request work = some next) :
    phaseOrder[request.phase.sequence]? = some next.phase := by
  obtain ⟨phase, hphase, rfl⟩ := Option.map_eq_some_iff.mp h
  exact hphase

theorem makeSteps_phases (works : Phase → PhaseWork) (n : ℕ) (request : Request) (h : n + request.phase.sequence = 8) :
    (makeSteps H works n request).map PhaseStep.phase =
      phaseOrder.drop (request.phase.sequence - 1) := by
  induction n generalizing request with
  | zero =>
      have := request.phase.sequence_le
      omega
  | succ n ih =>
      have hdrop : phaseOrder.drop (request.phase.sequence - 1) =
          request.phase :: phaseOrder.drop request.phase.sequence := by
        cases request.phase <;> rfl
      rw [makeSteps_succ, List.map_cons, hdrop]
      congr 1
      cases hnext : makeNext H request (works request.phase) with
      | none =>
          have hend := Option.map_eq_none_iff.mp hnext
          simp only [List.getElem?_eq_none_iff] at hend
          rw [List.drop_eq_nil_of_le hend]
          rfl
      | some next =>
          have hsequence := nextPhase_eq (makeNext_phase hnext)
          simp only [ih next (by omega), hsequence, Nat.add_sub_cancel]

/-- Every round serves a bound request with the work of its phase. -/
theorem makeSteps_bound (hworks : ∀ phase, (works phase).Valid H phase) (n : ℕ)
    (request : Request) (hrequest : request.Bound H) :
    ∀ step ∈ makeSteps H works n request,
      ∃ served, served.Bound H ∧ step = makeStep H served (works served.phase) := by
  induction n generalizing request with
  | zero => simp [makeSteps_zero]
  | succ n ih =>
      rw [makeSteps_succ]
      refine List.forall_mem_cons.mpr ⟨⟨request, hrequest, rfl⟩, ?_⟩
      cases hnext : makeNext H request (works request.phase) with
      | none => simp
      | some next => exact ih next (makeNext_bound hrequest (hworks request.phase) hnext).1

theorem makeSteps_head (n : ℕ) (request : Request) :
    ∀ step ∈ (makeSteps H works n request).head?, step.requestRaw = requestLine request := by
  cases n with
  | zero => simp [makeSteps_zero]
  | succ n =>
      rw [makeSteps_succ, List.head?_cons]
      intro step hstep
      cases hstep
      rfl

theorem makeSteps_chain (n : ℕ) (request : Request) :
    List.IsChain (fun a b => b.requestRaw = a.finalized.nextRequest.getD a.requestRaw)
      (makeSteps H works n request) := by
  induction n generalizing request with
  | zero => exact .nil
  | succ n ih =>
      rw [makeSteps_succ]
      cases hnext : makeNext H request (works request.phase) with
      | none => exact .singleton _
      | some next =>
          refine List.isChain_cons.mpr ⟨?_, ih next⟩
          intro step hstep
          have hraw := makeSteps_head n next step hstep
          simp only [hraw, makeStep, makeFinalized, hnext, Option.map_some, Option.getD_some]

/-- **A run that follows the protocol returns**, for every digest function that keeps its
requests, its actions and its transitions apart. -/
theorem runFixedWorkflow_of_works {first : Request} (hfirst : first.Bound H)
    (hphase : first.phase = .snapshot) (hworks : ∀ phase, (works phase).Valid H phase)
    (hfits : ∀ step ∈ makeSteps H works 7 first, step.Fits)
    (hfresh : FreshRounds (State.initial (requestLine first)) (makeSteps H works 7 first)) :
    runFixedWorkflow H (replay (makeSteps H works 7 first)) (requestLine first) =
      .ok ((makeSteps H works 7 first).map PhaseStep.finalized,
        (makeSteps H works 7 first).flatMap (PhaseStep.events false)) := by
  have hbound := makeSteps_bound hworks 7 first hfirst
  refine runFixedWorkflow_replay ?_ ?_ ?_ (makeSteps_chain 7 first) (makeSteps_head 7 first) hfresh
  · have hphases := makeSteps_phases (H := H) works 7 first (by rw [hphase]; rfl)
    rwa [hphase] at hphases
  · intro step hmem
    obtain ⟨request, hrequest, rfl⟩ := hbound step hmem
    exact makeStep_checked hrequest (hworks request.phase) (hfits _ hmem)
  · intro step hmem
    obtain ⟨request, hrequest, rfl⟩ := hbound step hmem
    obtain ⟨hpayload, hexternal, hkept, -⟩ := hworks request.phase
    refine ⟨hexternal.1, ?_⟩
    split_ifs with hkind
    · exact hexternal.2
    · have hsame : (makeStep H request (works request.phase)).external =
          (works request.phase).payload := hkept (not_not.mp hkind)
      rw [hsame]
      exact hpayload.2.trans (by decide)

end AmazonSimilarSearch.OuterWorkflow
