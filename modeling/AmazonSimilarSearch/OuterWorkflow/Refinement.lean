import AmazonSimilarSearch.OuterWorkflow.Safety
import AmazonSimilarSearch.PhaseProtocol.Chain

/-!
# The outer verifier against the typed protocol

The outer verifier checks dicts by hand and compares them with Python's `==`;
the coordinator validates strict models. A run of the driver refines the typed
protocol when every request and every result it accepted validates there, and
the results are a chain. Two inputs tell the verifiers apart: the first request
may name inputs other than the empty artifact set, and the request embedded in
a result may carry `true` or a float for its sequence, which equals the integer
in Python. On every other input the driver refines the typed protocol.
-/
namespace AmazonSimilarSearch.OuterWorkflow
open Foundation PhaseProtocol

variable {H : HashFunction}

/-- The request of every phase, as the driver handed it to the coordinator. -/
def acceptedRequests (history : History) : List Bytes :=
  history.filterMap fun
    | .prepare _ requestRaw _ => some requestRaw
    | _ => none

/-- The bytes the coordinator returned for every phase. -/
def finalizedReplies (history : History) : List Bytes :=
  history.filterMap fun
    | .finalize _ _ _ (.bytes raw) => some raw
    | _ => none

/-- Every accepted document validates in the typed protocol, every result embeds the request of
its phase, and the results in order are accepted by a `PhaseChain`. -/
structure Refines (sha256 : HashFunction) (transitions : List FinalizedTransition)
    (history : History) : Prop where
  requests : ∀ raw ∈ acceptedRequests history,
    ∃ request, PhaseRequest.modelValidateJson sha256 raw = .ok request
  results : ∃ results, transitions.mapM (fun finalized =>
      PhaseResult.modelValidate sha256 (.obj finalized.result.fields)) = .ok results ∧
    List.Forall₂ (fun raw result =>
      Json.canonicalLine? (.obj result.phaseRequest.fields) = some raw)
      (acceptedRequests history) results ∧
    PhaseChain.build results = .ok results

/-- What a document holds at a path of object keys. -/
def valueAt? (value : Json) : List String → Option Json
  | [] => some value
  | key :: path => match value with
      | .obj fields => valueAt? (Fields.get fields key) path
      | _ => none

def documentAt? (raw : Bytes) (path : List String) : Option Json := do
  let value ← document? raw
  valueAt? value path

/-- The first request names the empty artifact set as its inputs. -/
def EmptyInitialInputs (sha256 : HashFunction) (initialRequest : Bytes) : Prop :=
  documentAt? initialRequest ["input_artifacts_sha256"] =
    (emptyInitialArtifactsSha256? sha256).map shaJson

/-- The sequence of the request embedded in a phase result is a JSON integer. -/
def IntegerSequence (finalizedRaw : Bytes) : Prop :=
  ∃ i, documentAt? finalizedRaw ["phase_result", "request", "sequence"] = some (.int i)

/-- The inputs on which the two verifiers agree. -/
structure StrictInputs (sha256 : HashFunction) (initialRequest : Bytes) (history : History) :
    Prop where
  initial : EmptyInitialInputs sha256 initialRequest
  sequences : ∀ raw ∈ finalizedReplies history, IntegerSequence raw

/-! ## Embedded requests -/

/-- A value that Python finds equal to a request differs from it in its sequence at most. -/
theorem pyEq_request {value : Json} {request : Request}
    (h : value.pyEq (.obj request.fields) = true) :
    ∃ sequence, value = .obj (fieldsWith request sequence) ∧
      sequence.pyEq (sequenceJson request.phase) = true := by
  rw [Json.pyEq_obj_iff] at h
  obtain ⟨fields, rfl, h⟩ := h
  simp only [Request.fields, Json.pyEqFields_cons_iff, Json.pyEqFields_nil_iff,
    Json.pyEq_str_right, pyEq_shaJson, pyEq_optionalShaJson] at h
  obtain ⟨_, _, rfl, rfl, _, _, rfl, rfl, _, _, rfl, rfl, _, _, rfl, rfl, _, _, rfl, rfl, _, _, rfl,
    rfl, _, _, rfl, rfl, _, _, rfl, rfl, _, _, rfl, rfl, _, _, rfl, rfl, _, _, rfl, rfl,
    sequence, _, rfl, hsequence, _, _, rfl, rfl, _, _, rfl, rfl, rfl⟩ := h
  exact ⟨sequence, rfl, hsequence⟩

theorem pyEq_int {i : ℤ} {value : Json} {phase : Phase} (hvalue : value = .int i)
    (h : value.pyEq (sequenceJson phase) = true) : value = sequenceJson phase := by
  subst hvalue
  simpa [sequenceJson, Json.pyEq, Json.integer?] using h

namespace PhaseStep

/-- The embedded request of a round is the round's own request, its sequence apart. -/
theorem Checked.embedded {step : PhaseStep} (h : step.Checked H) :
    ∃ sequence, step.finalized.result.request = .obj (fieldsWith step.request sequence) ∧
      sequence.pyEq (sequenceJson step.phase) = true ∧
      documentAt? step.finalizedRaw ["phase_result", "request", "sequence"] = some sequence := by
  obtain ⟨⟨bytes, hbytes, -, hread⟩, output, semantic, hfinalized⟩ :=
    parseFinalizedTransition_ok h.finalized
  cases hbytes
  obtain ⟨sequence, hrequest, hsequence⟩ := pyEq_request hfinalized.result.request
  refine ⟨sequence, hrequest, hsequence, ?_⟩
  have hresult : step.finalized.fields.get "phase_result" = .obj step.finalized.result.fields := rfl
  have hembedded : step.finalized.result.fields.get "request" = step.finalized.result.request := rfl
  have hvalue : (fieldsWith step.request sequence).get "sequence" = sequence := rfl
  simp only [documentAt?, hread, Option.bind_eq_bind, Option.bind_some, valueAt?, hresult,
    hembedded, hrequest, hvalue]

/-- A round meets the typed protocol's rules beyond the outer verifier's. -/
structure Strict (sha256 : HashFunction) (step : PhaseStep) : Prop where
  initialInputs : step.phase = .snapshot →
    emptyInitialArtifactsSha256? sha256 = some step.request.inputArtifactsSha256
  embeds : step.finalized.result.request = .obj step.request.fields

theorem candidateOf_of_anchor {request : Request} {semantic : List Artifact}
    {digest : Option Sha256} (h : candidateAnchor request semantic = .ok digest) :
    digest = candidateOf request semantic := by
  unfold candidateAnchor at h
  unfold candidateOf
  split_ifs at h ⊢ with hphase
  · simp only [bind_eq_ok_iff, required_eq_ok_iff, pure_eq_ok_iff] at h
    obtain ⟨measured, hmeasured, rfl⟩ := h
    exact hmeasured.symm
  · exact (pure_eq_ok_iff.mp h).symm

theorem packetOf_of_anchor {request : Request} {semantic : List Artifact}
    {digest : Option Sha256} (h : packetAnchor request semantic = .ok digest) :
    digest = packetOf request semantic := by
  unfold packetAnchor at h
  unfold packetOf
  split_ifs at h ⊢ with hphase
  · simp only [bind_eq_ok_iff, required_eq_ok_iff, pure_eq_ok_iff] at h
    obtain ⟨measured, hmeasured, rfl⟩ := h
    exact hmeasured.symm
  · exact (pure_eq_ok_iff.mp h).symm

theorem matched_of_measures {artifacts : List OutputArtifact} {semantic : List Artifact}
    (h : List.Forall₂ (Measures H) artifacts semantic) :
    ∀ artifact ∈ semantic, matchesArtifactName artifact.name = true := by
  induction h with
  | nil => simp
  | cons hmeasures _ ih =>
      refine List.forall_mem_cons.mpr ⟨?_, ih⟩
      rw [hmeasures.name]
      exact hmeasures.matched

/-- The outer checks of a result establish the contract of the typed result. -/
theorem Checked.contract {step : PhaseStep} (h : step.Checked H) (hstrict : step.Strict H) :
    ResultContract H step.request step.finalized.result := by
  obtain ⟨-, output, semantic, hfinalized⟩ := parseFinalizedTransition_ok h.finalized
  obtain ⟨hresult, hmeasured⟩ := And.intro hfinalized.result hfinalized.measured
  exact {
    embeds := hstrict.embeds
    matched := by
      rw [hresult.artifacts]
      exact matched_of_measures hmeasured.measured
    nonempty := by rw [hresult.artifacts]; exact hmeasured.nonempty
    bounded := by rw [hresult.artifacts]; exact hmeasured.bounded
    sorted := by rw [hresult.artifacts]; exact hmeasured.sorted
    nodup := by rw [hresult.artifacts]; exact hmeasured.nodup
    complete := by rw [hresult.artifacts]; exact hmeasured.complete
    set := by rw [hresult.artifacts, hresult.set, hmeasured.set]
    candidate := by
      rw [hresult.artifacts, hresult.candidate, candidateOf_of_anchor hmeasured.candidate]
    packet := by rw [hresult.artifacts, hresult.packet, packetOf_of_anchor hmeasured.packet]
    external := by
      rw [h.evidence]
      by_cases hkind : step.request.phase.externalKind = .none <;> simp [PhaseStep.phase, hkind]
    digest := hresult.digest }

/-- The typed result of a round. -/
structure Typed (step : PhaseStep) (result : PhaseResult H) : Prop where
  request : result.phaseRequest.toRequest = step.request
  document : result.toResult = step.finalized.result
  line : Json.canonicalLine? (.obj result.phaseRequest.fields) = some step.requestRaw

theorem Checked.line {step : PhaseStep} (h : step.Checked H) :
    Json.canonicalLine? (.obj step.request.fields) = some step.requestRaw :=
  (validatePhaseRequestBytes_ok h.request).1

theorem Checked.typed {step : PhaseStep} (h : step.Checked H) (hstrict : step.Strict H) :
    ∃ result : PhaseResult H, step.Typed result :=
  ⟨{ toResult := step.finalized.result
     phaseRequest := ⟨step.request, h.requestBound, hstrict.initialInputs⟩
     contract := h.contract hstrict }, rfl, rfl, h.line⟩

/-- A typed request read from the bytes of a round is the round's own request. -/
theorem Checked.request_of_validated {step : PhaseStep} (h : step.Checked H)
    {request : PhaseRequest H}
    (hrequest : PhaseRequest.modelValidateJson H step.requestRaw = .ok request) :
    request.toRequest = step.request := by
  rw [PhaseRequest.modelValidateJson, jsonValue_line (isPlain_request step.request) h.line, ok_bind,
    ← fieldsWith_sequenceJson] at hrequest
  exact (PhaseRequest.modelValidate_fieldsWith_ok hrequest).1

/-- A round whose result validates embeds its own request. -/
theorem Checked.embeds_of_validated {step : PhaseStep} (h : step.Checked H)
    {result : PhaseResult H}
    (hresult : PhaseResult.modelValidate H (.obj step.finalized.result.fields) = .ok result) :
    step.finalized.result.request = .obj step.request.fields := by
  obtain ⟨sequence, hrequest, -, -⟩ := h.embedded
  rw [PhaseResult.modelValidate_ok_iff, readResult_fields, hrequest, bind_eq_ok_iff] at hresult
  obtain ⟨validated, hembedded, -⟩ := hresult
  have hsequence := (PhaseRequest.modelValidate_fieldsWith_ok hembedded).2
  rw [hrequest, hsequence, fieldsWith_sequenceJson]

/-- What the bytes of a round's request name as its inputs. -/
theorem Checked.inputs {step : PhaseStep} (h : step.Checked H) :
    documentAt? step.requestRaw ["input_artifacts_sha256"] =
      some (shaJson step.request.inputArtifactsSha256) := by
  obtain ⟨text, htext, hloads⟩ :=
    Json.loads_of_canonicalLine hooks (isPlain_request step.request) h.line
  have hdocument : document? step.requestRaw = some (.obj step.request.fields) := by
    rw [document?, htext, Option.bind_some, hloads]
    rfl
  have hvalue : step.request.fields.get "input_artifacts_sha256" =
      shaJson step.request.inputArtifactsSha256 := rfl
  simp only [documentAt?, hdocument, Option.bind_eq_bind, Option.bind_some, valueAt?, hvalue]

/-- A round embeds its own request exactly when the embedded sequence is an integer. -/
theorem Checked.embeds_iff {step : PhaseStep} (h : step.Checked H) :
    step.finalized.result.request = .obj step.request.fields ↔
      IntegerSequence step.finalizedRaw := by
  obtain ⟨sequence, hrequest, hsequence, hdocument⟩ := h.embedded
  constructor
  · intro hembeds
    have hfields : fieldsWith step.request sequence = step.request.fields :=
      Json.obj.inj (hrequest.symm.trans hembeds)
    have hvalue : sequence = sequenceJson step.request.phase :=
      congrArg (fun fields => Fields.get fields "sequence") hfields
    exact ⟨_, hdocument.trans (congrArg some hvalue)⟩
  · rintro ⟨i, hi⟩
    rw [hdocument, Option.some.injEq] at hi
    rw [hrequest, pyEq_int hi hsequence]
    rfl

end PhaseStep

/-! ## Runs -/

namespace Run

variable {announced : Bool} {initialRequest : Bytes} {state : State} {steps : List PhaseStep}

theorem acceptedRequests_eq (h : Run H announced initialRequest phaseOrder state steps) :
    acceptedRequests state.history = steps.map PhaseStep.requestRaw := by
  have hevents : ∀ step : PhaseStep,
      acceptedRequests (step.events announced) = [step.requestRaw] := by
    intro step
    cases hkind : step.phase.externalKind <;> cases announced <;>
      simp [acceptedRequests, PhaseStep.events, PhaseStep.committedEvents, executorEvents, hkind]
  rw [h.history, acceptedRequests, List.filterMap_flatMap, List.map_eq_flatMap]
  exact List.flatMap_congr fun step _ => hevents step

theorem finalizedReplies_eq (h : Run H announced initialRequest phaseOrder state steps) :
    finalizedReplies state.history = steps.map PhaseStep.finalizedRaw := by
  have hevents : ∀ step : PhaseStep,
      finalizedReplies (step.events announced) = [step.finalizedRaw] := by
    intro step
    cases hkind : step.phase.externalKind <;> cases announced <;>
      simp [finalizedReplies, PhaseStep.events, PhaseStep.committedEvents, executorEvents, hkind]
  rw [h.history, finalizedReplies, List.filterMap_flatMap, List.map_eq_flatMap]
  exact List.flatMap_congr fun step _ => hevents step

/-- Only the first round serves the snapshot phase, and it starts from the initial request. -/
theorem initial_of_snapshot (h : Run H announced initialRequest phaseOrder state steps) :
    ∀ step ∈ steps, step.phase = .snapshot → step.requestRaw = initialRequest := by
  obtain ⟨a, b, c, d, e, f, g, rfl, ha, hb, hc, hd, he, hf, hg⟩ := exists_rounds h.phases
  have hfirst : a.requestRaw = initialRequest := h.first a rfl
  simp [hb, hc, hd, he, hf, hg, hfirst]

theorem exists_snapshot (h : Run H announced initialRequest phaseOrder state steps) :
    ∃ step ∈ steps, step.phase = .snapshot := by
  obtain ⟨a, b, c, d, e, f, g, rfl, ha, -⟩ := exists_rounds h.phases
  exact ⟨a, by simp, ha⟩

/-- The inputs of a run are strict exactly when every round is. -/
theorem strictInputs_iff (h : Run H announced initialRequest phaseOrder state steps) :
    StrictInputs H initialRequest state.history ↔ ∀ step ∈ steps, step.Strict H := by
  constructor
  · intro hinputs step hmem
    have hchecked := h.checked step hmem
    constructor
    · intro hphase
      have hinitial := hinputs.initial
      rw [EmptyInitialInputs, ← h.initial_of_snapshot step hmem hphase, hchecked.inputs] at hinitial
      obtain ⟨digest, hdigest, hsame⟩ := Option.map_eq_some_iff.mp hinitial.symm
      rw [hdigest, shaJson_injective hsame]
    · refine hchecked.embeds_iff.mpr (hinputs.sequences _ ?_)
      rw [h.finalizedReplies_eq]
      exact List.mem_map_of_mem hmem
  · intro hstrict
    constructor
    · obtain ⟨step, hmem, hphase⟩ := h.exists_snapshot
      rw [EmptyInitialInputs, ← h.initial_of_snapshot step hmem hphase,
        (h.checked step hmem).inputs, (hstrict step hmem).initialInputs hphase]
      rfl
    · intro raw hraw
      rw [h.finalizedReplies_eq] at hraw
      obtain ⟨step, hmem, rfl⟩ := List.mem_map.mp hraw
      exact (h.checked step hmem).embeds_iff.mp (hstrict step hmem).embeds

/-- The typed results of a run of strict rounds. -/
theorem exists_typed (h : ∀ step ∈ steps, step.Checked H)
    (hstrict : ∀ step ∈ steps, step.Strict H) :
    ∃ results : List (PhaseResult H), List.Forall₂ PhaseStep.Typed steps results := by
  induction steps with
  | nil => exact ⟨[], .nil⟩
  | cons step steps ih =>
      obtain ⟨hstep, hsteps⟩ := List.forall_mem_cons.mp h
      obtain ⟨hfirst, hrest⟩ := List.forall_mem_cons.mp hstrict
      obtain ⟨result, hresult⟩ := hstep.typed hfirst
      obtain ⟨results, hresults⟩ := ih hsteps hrest
      exact ⟨result :: results, .cons hresult hresults⟩

theorem extends_of_continues {a b : PhaseStep} {ra rb : PhaseResult H} (ha : a.Typed ra)
    (hb : b.Typed rb) (h : Continues a b) : Extends ra rb.phaseRequest.toRequest := by
  obtain ⟨harequest, haresult⟩ := ha
  rw [hb.request]
  exact {
    prior := by rw [h.previous, haresult]
    workflow := by rw [h.anchors.workflow, harequest]
    task := by rw [h.anchors.task, harequest]
    runtimeManifest := by rw [h.anchors.runtimeManifest, harequest]
    coordinatorKey := by rw [h.anchors.coordinatorKey, harequest]
    coordinatorPublicKey := by rw [h.anchors.coordinatorPublicKey, harequest]
    candidate := by rw [h.anchors.candidate, harequest]
    snapshot := by rw [h.snapshot, haresult]
    packet := by rw [h.packet, haresult]
    inputs := by rw [h.inputs, haresult] }

/-- The typed results of a run are a valid chain. -/
theorem valid_of_typed (h : Run H announced initialRequest phaseOrder state steps)
    {results : List (PhaseResult H)} (htyped : List.Forall₂ PhaseStep.Typed steps results) :
    PhaseChain.Valid results := by
  constructor
  · have hsequences : steps.map (fun step => step.phase.sequence) =
        results.map fun result => result.phaseRequest.phase.sequence :=
      map_eq_map_of_forall₂ (fun hresult => by rw [hresult.request]; rfl) htyped
    have horder : steps.map (fun step => step.phase.sequence) =
        phaseOrder.map Phase.sequence := by
      rw [← h.phases, List.map_map]
      rfl
    have hlength : results.length = phaseOrder.length := by
      rw [← htyped.length_eq, ← h.phases, List.length_map]
    rw [← hsequences, horder, hlength]
    rfl
  · exact isChain_of_forall₂ extends_of_continues htyped h.continues

theorem refines_of_strict (h : Run H announced initialRequest phaseOrder state steps)
    (hstrict : ∀ step ∈ steps, step.Strict H) : Refines H state.transitions state.history := by
  obtain ⟨results, htyped⟩ := exists_typed h.checked hstrict
  constructor
  · intro raw hraw
    rw [h.acceptedRequests_eq] at hraw
    obtain ⟨step, hmem, rfl⟩ := List.mem_map.mp hraw
    exact ⟨_, PhaseRequest.modelValidateJson_line ⟨step.request,
      (h.checked step hmem).requestBound, (hstrict step hmem).initialInputs⟩
      (h.checked step hmem).line⟩
  · refine ⟨results, ?_, ?_, PhaseChain.build_ok_iff.mpr ⟨h.valid_of_typed htyped, rfl⟩⟩
    · rw [h.transitions, mapM_eq_ok_iff, List.forall₂_map_left_iff]
      refine htyped.imp fun step result hresult => ?_
      rw [← hresult.document, PhaseResult.modelValidate_fields]
    · rw [h.acceptedRequests_eq, List.forall₂_map_left_iff]
      exact htyped.imp fun step result hresult => hresult.line

theorem strict_of_refines (h : Run H announced initialRequest phaseOrder state steps)
    (hrefines : Refines H state.transitions state.history) :
    ∀ step ∈ steps, step.Strict H := by
  intro step hmem
  have hchecked := h.checked step hmem
  constructor
  · intro hphase
    have hraw : step.requestRaw ∈ acceptedRequests state.history := by
      rw [h.acceptedRequests_eq]
      exact List.mem_map_of_mem hmem
    obtain ⟨request, hrequest⟩ := hrefines.requests _ hraw
    have hsame := hchecked.request_of_validated hrequest
    have hinitial := request.initialInputs
    rw [hsame] at hinitial
    exact hinitial hphase
  · obtain ⟨results, hresults, -⟩ := hrefines.results
    rw [h.transitions, mapM_eq_ok_iff, List.forall₂_map_left_iff] at hresults
    obtain ⟨result, hresult⟩ := exists_of_forall₂ hresults hmem
    exact hchecked.embeds_of_validated hresult

end Run

/-- **The driver refines the typed protocol exactly on strict inputs.** -/
theorem runFixedWorkflow_refines_iff (sha256 : HashFunction) (callbacks : Callbacks)
    (initialRequest : Bytes) :
    Returned (fun result => Refines sha256 result.1 result.2 ↔
        StrictInputs sha256 initialRequest result.2)
      (runFixedWorkflow sha256 callbacks initialRequest) := by
  rw [returned_iff]
  intro result h
  obtain ⟨state, steps, hrun, rfl⟩ := runFixedWorkflow_ok h
  rw [hrun.strictInputs_iff]
  exact ⟨hrun.strict_of_refines, hrun.refines_of_strict⟩

end AmazonSimilarSearch.OuterWorkflow
