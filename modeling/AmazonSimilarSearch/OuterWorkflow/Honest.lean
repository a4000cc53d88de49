import AmazonSimilarSearch.OuterWorkflow.Accept

/-!
# A coordinator that follows the protocol

From a bound first request and the artifacts of each phase, a coordinator can
answer every call so that the driver returns: the documents below are built
from each other in the order of the run, and each carries the digest of what it
says. The only thing left to the digest function is that it keeps the seven
requests, the seven actions and the seven transitions apart.
-/
namespace AmazonSimilarSearch.OuterWorkflow
open Foundation

variable {H : HashFunction}

/-- What a coordinator works with in one phase: the payload it releases, the evidence that comes
back for it, and the artifacts it measures. -/
structure PhaseWork where
  payload : Bytes
  external : Bytes
  artifacts : List OutputArtifact
  semantic : List Artifact

/-- The work fits its phase. -/
structure PhaseWork.Valid (sha256 : HashFunction) (phase : Phase) (work : PhaseWork) : Prop where
  payload : work.payload ≠ [] ∧ work.payload.length ≤ 2000000
  external : work.external ≠ [] ∧ work.external.length ≤ maxExternalBytes
  kept : phase.externalKind = .none → work.external = work.payload
  nonempty : 1 ≤ work.semantic.length
  bounded : work.semantic.length ≤ 512
  measured : List.Forall₂ (Measures sha256) work.artifacts work.semantic
  sorted : (work.semantic.map Artifact.name).Pairwise (· ≤ ·)
  nodup : (work.semantic.map Artifact.name).Nodup
  complete : completeArtifacts (work.semantic.map Artifact.name) phase = true

/-! ## The documents of one phase -/

section Documents

variable (sha256 : HashFunction) (request : Request) (work : PhaseWork)

def makeAction : Action :=
  let body : ActionBody :=
    { workflowId := request.workflowId, phase := request.phase,
      requestSha256 := request.requestSha256, externalKind := request.phase.externalKind,
      payloadSha256 := sha256 work.payload }
  { toActionBody := body, actionSha256 := domainSha256 sha256 actionDomain body.fields }

def makePrepared : PreparedTransition :=
  let action := makeAction sha256 request work
  { action, payload := work.payload,
    preparedSha256 := domainSha256 sha256 preparedDomain
      (PreparedTransition.body action work.payload) }

def candidateDigest : Option Sha256 :=
  if request.phase = .snapshot then digestOf? work.semantic "candidate-snapshot"
  else request.candidateSnapshotSha256

def packetDigest : Option Sha256 :=
  if request.phase = .reviewPacket then digestOf? work.semantic "review-packet"
  else request.reviewPacketSha256

def makeOutput : Output :=
  let body : OutputBody :=
    { workflowId := request.workflowId, phase := request.phase,
      requestSha256 := request.requestSha256, artifacts := work.artifacts,
      candidateSnapshotSha256 := candidateDigest request work,
      reviewPacketSha256 := packetDigest request work,
      outputArtifactsSha256 := sha256 (lineOf (artifactsJson work.semantic)) }
  { toOutputBody := body, outputSha256 := domainSha256 sha256 outputDomain body.fields }

def outputRaw : Bytes := lineOf (.obj (makeOutput sha256 request work).fields)

def makeResult : Result :=
  let output := makeOutput sha256 request work
  let body : ResultBody :=
    { request := .obj request.fields, outputArtifactsSha256 := output.outputArtifactsSha256,
      artifacts := work.semantic, candidateSnapshotSha256 := output.candidateSnapshotSha256,
      reviewPacketSha256 := output.reviewPacketSha256,
      externalExecutionSha256 :=
        if request.phase.externalKind ≠ .none then some (sha256 work.external) else none,
      coordinatorOutputSha256 := sha256 (outputRaw sha256 request work) }
  { toResultBody := body, phaseSha256 := domainSha256 sha256 resultDomain body.fields }

/-- The request of the next phase, when there is one. -/
def makeNext : Option Request :=
  let result := makeResult sha256 request work
  phaseOrder[request.phase.sequence]?.map fun phase =>
    let body : RequestBody :=
      { request.toRequestBody with
        phase
        previousPhaseSha256 := some result.phaseSha256
        candidateSnapshotSha256 := result.candidateSnapshotSha256
        reviewPacketSha256 := result.reviewPacketSha256
        inputArtifactsSha256 := result.outputArtifactsSha256 }
    { toRequestBody := body, requestSha256 := domainSha256 sha256 requestDomain body.fields }

def requestLine (request : Request) : Bytes := lineOf (.obj request.fields)

def makeFinalized : FinalizedTransition :=
  let result := makeResult sha256 request work
  let nextRequest := (makeNext sha256 request work).map requestLine
  { result, coordinatorOutput := outputRaw sha256 request work, nextRequest,
    finalizedSha256 := domainSha256 sha256 finalizedDomain
      (FinalizedTransition.body result (outputRaw sha256 request work) nextRequest) }

/-- One round of a coordinator that follows the protocol. -/
def makeStep : PhaseStep :=
  { requestRaw := requestLine request, request
    preparedRaw := lineOf (.obj (makePrepared sha256 request work).fields)
    prepared := makePrepared sha256 request work
    external := work.external
    finalizedRaw := lineOf (.obj (makeFinalized sha256 request work).fields)
    finalized := makeFinalized sha256 request work }

end Documents

/-- The documents of a round keep the byte limits. -/
structure PhaseStep.Fits (step : PhaseStep) : Prop where
  request : step.requestRaw.length ≤ 128000
  prepared : step.preparedRaw.length ≤ maxPreparedBytes
  output : step.finalized.coordinatorOutput.length ≤ 8000000
  next : ∀ raw ∈ step.finalized.nextRequest, raw.length ≤ 128000
  finalized : step.finalizedRaw.length ≤ maxFinalizedBytes

/-! ## Every document is bound -/

theorem encodes_nextField (nextRaw : Option Bytes) :
    ((nextRaw.map fun raw => Json.str (b64encode raw)).getD .null).Encodes := by
  cases nextRaw <;> simp

theorem encodes_finalizedBody {result : Result} (h : (Json.obj result.fields).Encodes)
    (outputRaw : Bytes) (nextRaw : Option Bytes) :
    (Json.obj (FinalizedTransition.body result outputRaw nextRaw)).Encodes := by
  rw [Json.encodes_obj, FinalizedTransition.body]
  simp only [List.forall_mem_cons]
  exact ⟨Json.encodes_str _, encodes_nextField _, h, Json.encodes_str _, by simp⟩

theorem encodes_finalized (finalized : FinalizedTransition)
    (h : (Json.obj finalized.result.fields).Encodes) : (Json.obj finalized.fields).Encodes := by
  rw [Json.encodes_obj, FinalizedTransition.fields]
  simp only [List.forall_mem_cons]
  exact ⟨Json.encodes_str _, encodes_shaJson _, encodes_nextField _, h, Json.encodes_str _,
    by simp⟩

theorem makeAction_bound (request : Request) (work : PhaseWork) :
    (makeAction H request work).Bound H request work.payload :=
  ⟨rfl, rfl, rfl, rfl, rfl, domainSha256?_eq (encodes_action _)⟩

theorem candidateAnchor_eq {request : Request} {work : PhaseWork}
    (h : work.Valid H request.phase) :
    candidateAnchor request work.semantic = .ok (candidateDigest request work) := by
  unfold candidateAnchor candidateDigest
  split_ifs with hphase
  · have hcomplete := h.complete
    rw [hphase] at hcomplete
    obtain ⟨digest, hdigest⟩ := Option.isSome_iff_exists.mp
      (digestOf?_isSome (candidateSnapshot_mem hcomplete))
    rw [hdigest, required_some]
    rfl
  · rfl

theorem packetAnchor_eq {request : Request} {work : PhaseWork}
    (h : work.Valid H request.phase) :
    packetAnchor request work.semantic = .ok (packetDigest request work) := by
  unfold packetAnchor packetDigest
  split_ifs with hphase
  · have hcomplete := h.complete
    rw [hphase] at hcomplete
    obtain ⟨digest, hdigest⟩ := Option.isSome_iff_exists.mp
      (digestOf?_isSome (reviewPacket_mem hcomplete))
    rw [hdigest, required_some]
    rfl
  · rfl

theorem makeOutput_bound {request : Request} {work : PhaseWork}
    (h : work.Valid H request.phase) :
    OutputBound H (makeOutput H request work) request work.semantic where
  workflow := rfl
  phase := rfl
  answers := rfl
  nonempty := h.nonempty
  bounded := h.bounded
  measured := h.measured
  sorted := h.sorted
  nodup := h.nodup
  complete := h.complete
  set := by
    rw [artifactSetSha256?, canonicalLine?_lineOf (encodes_artifacts _)]
    rfl
  candidate := candidateAnchor_eq h
  packet := packetAnchor_eq h
  digest := domainSha256?_eq (encodes_outputBody _)

theorem pyEq_request_self (request : Request) :
    (Json.obj request.fields).pyEq (.obj request.fields) = true := by
  have hsequence : (sequenceJson request.phase).pyEq (sequenceJson request.phase) = true := by
    simp [sequenceJson, Json.pyEq, Json.integer?]
  rw [Json.pyEq_obj_iff]
  refine ⟨_, rfl, ?_⟩
  simp only [Request.fields, Json.pyEqFields, Bool.and_eq_true, beq_self_eq_true,
    pyEq_shaJson, pyEq_optionalShaJson, Json.pyEq_str_right, hsequence, and_self]

theorem makeResult_bound (request : Request) (work : PhaseWork) :
    ResultBound H (makeResult H request work) request (makeOutput H request work) work.semantic
      (outputRaw H request work)
      (if request.phase.externalKind ≠ .none then some work.external else none) where
  request := pyEq_request_self request
  artifacts := rfl
  set := rfl
  candidate := rfl
  packet := rfl
  external := by
    by_cases hkind : request.phase.externalKind = .none <;> simp [makeResult, hkind]
  output := rfl
  digest := domainSha256?_eq (encodes_resultBody (encodes_request request))

theorem nextPhase_eq {phase next : Phase} (h : phaseOrder[phase.sequence]? = some next) :
    next.sequence = phase.sequence + 1 := by
  cases phase <;> cases h <;> rfl

theorem candidateDigest_ne_none {request : Request} {work : PhaseWork}
    (hrequest : request.Bound H) (h : work.Valid H request.phase) :
    candidateDigest request work ≠ none := by
  unfold candidateDigest
  split_ifs with hphase
  · have hcomplete := h.complete
    rw [hphase] at hcomplete
    exact Option.isSome_iff_ne_none.mp (digestOf?_isSome (candidateSnapshot_mem hcomplete))
  · exact fun hnone => hphase (hrequest.snapshot.mp hnone)

theorem packetDigest_ne_none_iff {request : Request} {work : PhaseWork} {next : Phase}
    (hrequest : request.Bound H) (h : work.Valid H request.phase)
    (hnext : phaseOrder[request.phase.sequence]? = some next) :
    packetDigest request work ≠ none ↔ Phase.broker.sequence ≤ next.sequence := by
  unfold packetDigest
  split_ifs with hphase
  · have hcomplete := h.complete
    rw [hphase] at hcomplete hnext
    cases hnext
    exact iff_of_true
      (Option.isSome_iff_ne_none.mp (digestOf?_isSome (reviewPacket_mem hcomplete))) (by decide)
  · rw [hrequest.packet]
    cases hp : request.phase <;> rw [hp] at hnext hphase <;> cases hnext <;>
      first | decide | exact absurd rfl hphase

/-- The request a coordinator builds for the next phase is bound and chained. -/
theorem makeNext_bound {request next : Request} {work : PhaseWork}
    (hrequest : request.Bound H) (h : work.Valid H request.phase)
    (hnext : makeNext H request work = some next) :
    next.Bound H ∧
      chained request next (makeOutput H request work) (makeResult H request work) := by
  obtain ⟨phase, hphase, rfl⟩ := Option.map_eq_some_iff.mp hnext
  have hsequence := nextPhase_eq hphase
  have hfirst : phase ≠ .snapshot := by
    intro hsnapshot
    rw [hsnapshot] at hsequence
    have hpos := request.phase.sequence_pos
    have hone : Phase.snapshot.sequence = 1 := rfl
    omega
  refine ⟨⟨?_, ?_, ?_, ?_⟩, ?_⟩
  · exact iff_of_false (Option.some_ne_none _) hfirst
  · exact iff_of_false (candidateDigest_ne_none hrequest h) hfirst
  · exact packetDigest_ne_none_iff hrequest h hphase
  · exact domainSha256?_eq (encodes_requestBody _)
  · exact ⟨hsequence, hphase, rfl, rfl, rfl, rfl, rfl, rfl, rfl, rfl, rfl, rfl⟩

theorem isOrdered_optionalShaJson (digest : Option Sha256) :
    (optionalShaJson digest).IsOrdered := by
  cases digest <;> simp [optionalShaJson, shaJson]

theorem isOrdered_request (request : Request) : (Json.obj request.fields).IsOrdered := by
  refine Json.isOrdered_obj.mpr ⟨(Json.isPlain_obj.mp (isPlain_request request)).1, ?_⟩
  simp [Request.fields, shaJson, isOrdered_optionalShaJson, sequenceJson]

theorem requestLine_eq (request : Request) :
    Json.canonicalLine? (.obj request.fields) = some (requestLine request) :=
  canonicalLine?_lineOf (encodes_request request)

theorem makeNext_nextBound {request : Request} {work : PhaseWork}
    (hrequest : request.Bound H) (h : work.Valid H request.phase)
    (hfits : ∀ raw ∈ (makeNext H request work).map requestLine, raw.length ≤ 128000) :
    NextRequestBound H request (makeOutput H request work) (makeResult H request work)
      ((makeNext H request work).map requestLine) := by
  cases hnext : makeNext H request work with
  | none =>
      refine Or.inl ⟨?_, rfl⟩
      have hend := Option.map_eq_none_iff.mp hnext
      cases hphase : request.phase <;> rw [hphase] at hend <;> first | rfl | cases hend
  | some next =>
      obtain ⟨hbound, hchained⟩ := makeNext_bound hrequest h hnext
      have hlength : (requestLine next).length ≤ 128000 := hfits _ (by rw [hnext]; rfl)
      exact Or.inr ⟨_, next, rfl,
        validatePhaseRequestBytes_of_bound hbound (requestLine_eq next) hlength, hchained⟩

/-- The driver accepts the round of a coordinator that follows the protocol. -/
theorem makeStep_checked {request : Request} {work : PhaseWork} (hrequest : request.Bound H)
    (h : work.Valid H request.phase) (hfits : (makeStep H request work).Fits) :
    (makeStep H request work).Checked H where
  request := validatePhaseRequestBytes_of_bound hrequest (requestLine_eq request) hfits.request
  prepared := by
    refine parsePreparedTransition_of_bound (makeAction_bound request work) h.payload.1 h.payload.2
      (domainSha256?_eq ?_) (canonicalLine?_lineOf ?_) hfits.prepared
    · simp [PreparedTransition.body, Action.fields]
    · simp [PreparedTransition.fields, Action.fields]
  external := h.kept
  finalized := by
    have hencodes : (Json.obj (makeResult H request work).fields).Encodes :=
      encodes_result (encodes_request request)
    have hplain := isPlain_finalized (makeFinalized H request work) (isPlain_request request)
    refine parseFinalizedTransition_of_bound
      ⟨canonicalLine?_lineOf (encodes_output _), makeOutput_bound h, makeResult_bound request work,
        ?_, makeNext_nextBound hrequest h hfits.next⟩
      hplain.isReadable hplain.sortKeys_eq hfits.output ?_ (domainSha256?_eq ?_) (canonicalLine?_lineOf ?_)
      hfits.finalized
    · exact isOrdered_request request
    · intro raw hraw
      refine ⟨?_, hfits.next raw hraw⟩
      obtain ⟨next, -, rfl⟩ := Option.map_eq_some_iff.mp hraw
      exact Json.canonicalLine_ne_nil (requestLine_eq next)
    · exact encodes_finalizedBody hencodes _ _
    · exact encodes_finalized (makeFinalized H request work) hencodes

end AmazonSimilarSearch.OuterWorkflow
