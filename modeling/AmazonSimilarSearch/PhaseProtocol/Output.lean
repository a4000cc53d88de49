import AmazonSimilarSearch.PhaseProtocol.Models

/-!
# Actions and outputs of the coordinator

`PhaseAction` and `CoordinatorPhaseOutput` of `phase_protocol.py`: what the
coordinator prepares for a phase, and the envelope it leaves behind. The digest
of an artifact is derived from its content, never read.
-/
namespace AmazonSimilarSearch.PhaseProtocol
open Foundation

/-- `PhaseProtocolError` -/
structure ProtocolError where
  message : String
  deriving DecidableEq, Repr

/-- An action that passed the strict model. -/
structure PhaseAction (sha256 : HashFunction) extends Action where
  approved : externalKind = phase.externalKind
  digest : domainSha256? sha256 actionDomain (.obj toActionBody.fields) = some actionSha256

/-- `PhaseAction.validate_for` -/
def PhaseAction.validateFor {sha256 : HashFunction} (action : PhaseAction sha256)
    (request : PhaseRequest sha256) (payload : Bytes) : Except ProtocolError Unit :=
  ensure (action.workflowId = request.workflowId ∧ action.phase = request.phase ∧
      action.requestSha256 = request.requestSha256 ∧ action.payloadSha256 = sha256 payload)
    ⟨"coordinator action does not match the claimed phase request"⟩

/-! ## Artifacts -/

def maxExternalBytes : ℕ := 6000000

/-- `PhaseOutputArtifact.content` -/
def contentOf (contentBase64 : String) : Except ValidationError Bytes := do
  let raw ← required (.contract "coordinator artifact is not canonical base64")
    (b64decode contentBase64)
  ensure (raw ≠ [] ∧ raw.length ≤ maxExternalBytes ∧ b64encode raw = contentBase64)
    (.contract "coordinator artifact content is invalid")
  pure raw

/-- A review packet names the digest of the rest of itself. -/
def packetSha256 (sha256 : HashFunction) (raw : Bytes) : Except ValidationError Sha256 := do
  let text ← required (.contract "review packet artifact must be canonical JSON") (decodeUtf8 raw)
  let packet ← (Json.loads ⟨false, false⟩ text).mapError fun _ =>
    .contract "review packet artifact must be canonical JSON"
  match packet with
  | .obj fields => do
      let digest ← match fields.lookup "packet_sha256" with
        | some (.str text) =>
            required (.contract "review packet artifact has no semantic digest")
              (LowerHex.ofText? 64 text)
        | _ => .error (.contract "review packet artifact has no semantic digest")
      let body ← required (.contract "review packet semantic digest is invalid")
        (Json.dumps (.obj (Fields.without fields "packet_sha256")))
      let full ← required (.contract "review packet semantic digest is invalid")
        (Json.canonicalLine? packet)
      ensure (raw = full ∧ digest = sha256 (encodeUtf8 body))
        (.contract "review packet semantic digest is invalid")
      pure digest
  | _ => .error (.contract "review packet artifact must be a JSON object")

/-- `PhaseOutputArtifact.semantic_sha256` -/
def semanticSha256 (sha256 : HashFunction) (artifact : OutputArtifact) :
    Except ValidationError Sha256 :=
  if isSnapshotName artifact.name then do
    let text ← required (.contract "snapshot artifact must contain its exact digest")
      (decodeAscii artifact.content)
    required (.contract "snapshot artifact must contain its exact digest")
      (LowerHex.ofText? 64 text)
  else if artifact.name = "review-packet" then packetSha256 sha256 artifact.content
  else pure (sha256 artifact.content)

/-- One round of `phase_artifacts`. -/
def phaseArtifact (sha256 : HashFunction) (artifact : OutputArtifact) :
    Except ValidationError Artifact := do
  let digest ← semanticSha256 sha256 artifact
  pure { name := artifact.name, sha256 := digest }

/-- `CoordinatorPhaseOutput.phase_artifacts` -/
def phaseArtifacts (sha256 : HashFunction) (artifacts : List OutputArtifact) :
    Except ValidationError (List Artifact) :=
  artifacts.mapM (phaseArtifact sha256)

/-! ## The output envelope -/

/-- The fields of `PhaseOutputArtifact`. -/
def readOutputArtifact (value : Json) : Except ValidationError (String × String) := do
  let fields ← modelFields value ["content_base64", "name"]
  let name ← field fields "name"
  match name with
  | .str name => do
      ensure (matchesArtifactName name = true) (.field "name")
      let content ← field fields "content_base64"
      match content with
      | .str text => do
          ensure (4 ≤ text.length ∧ text.length ≤ 8000000) (.field "content_base64")
          pure (name, text)
      | _ => .error (.field "content_base64")
  | _ => .error (.field "name")

def outputArtifactsField (fields : Fields) : Except ValidationError (List (String × String)) := do
  let value ← field fields "artifacts"
  match value with
  | .arr items => do
      ensure (1 ≤ items.length ∧ items.length ≤ 512) (.field "artifacts")
      items.mapM readOutputArtifact
  | _ => .error (.field "artifacts")

/-- The fields of `CoordinatorPhaseOutput`. -/
def outputFields : List String := ["artifacts", "candidate_snapshot_sha256",
  "output_artifacts_sha256", "output_sha256", "phase", "request_sha256", "review_packet_sha256",
  "schema_version", "sequence", "workflow_id"]

/-- What the model of an output establishes. -/
structure OutputContract (sha256 : HashFunction) (output : Output) (semantic : List Artifact) :
    Prop where
  derived : phaseArtifacts sha256 output.artifacts = .ok semantic
  sorted : (output.artifacts.map OutputArtifact.name).Pairwise (· ≤ ·)
  nodup : (output.artifacts.map OutputArtifact.name).Nodup
  complete : completeArtifacts (output.artifacts.map OutputArtifact.name) output.phase = true
  set : artifactSetSha256? sha256 semantic = some output.outputArtifactsSha256
  candidate : output.phase = .snapshot →
    output.candidateSnapshotSha256 = digestOf? semantic "candidate-snapshot"
  packet : output.phase = .reviewPacket →
    output.reviewPacketSha256 = digestOf? semantic "review-packet"
  digest : domainSha256? sha256 outputDomain (.obj output.toOutputBody.fields) =
    some output.outputSha256

/-- `CoordinatorPhaseOutput.validate_contract`, once the contents are decoded. -/
def validateOutputContract (sha256 : HashFunction) (output : Output) (semantic : List Artifact) :
    Except ValidationError Unit := do
  ensure (completeArtifacts (output.artifacts.map OutputArtifact.name) output.phase = true)
    (.contract (incompleteMessage output.phase))
  ensure (artifactSetSha256? sha256 semantic = some output.outputArtifactsSha256)
    (.contract "coordinator output artifact digest is invalid")
  ensure (output.phase = .snapshot →
      output.candidateSnapshotSha256 = digestOf? semantic "candidate-snapshot")
    (.contract "coordinator candidate snapshot anchor is invalid")
  ensure (output.phase = .reviewPacket →
      output.reviewPacketSha256 = digestOf? semantic "review-packet")
    (.contract "coordinator review packet anchor is invalid")
  ensure (domainSha256? sha256 outputDomain (.obj output.toOutputBody.fields) =
      some output.outputSha256)
    (.contract "coordinator output canonical digest is invalid")

/-- `CoordinatorPhaseOutput.model_validate`, with the artifacts it derives. -/
def modelValidateOutput (sha256 : HashFunction) (value : Json) :
    Except ValidationError (Output × List Artifact) := do
  let fields ← modelFields value outputFields
  versionField fields
  let workflowId ← shaField fields "workflow_id"
  let phase ← phaseField fields
  let sequence ← sequenceField fields
  let requestSha256 ← shaField fields "request_sha256"
  let texts ← outputArtifactsField fields
  let candidateSnapshotSha256 ← optionalShaField fields "candidate_snapshot_sha256"
  let reviewPacketSha256 ← optionalShaField fields "review_packet_sha256"
  let outputArtifactsSha256 ← shaField fields "output_artifacts_sha256"
  let outputSha256 ← shaField fields "output_sha256"
  ensure (sequence = phase.sequence) (.contract "coordinator output sequence is invalid")
  let names := texts.map Prod.fst
  ensure (names.Pairwise (· ≤ ·) ∧ names.Nodup)
    (.contract "coordinator artifacts must be uniquely sorted")
  let artifacts ← texts.mapM fun entry => do
    let content ← contentOf entry.2
    pure { name := entry.1, content : OutputArtifact }
  let semantic ← phaseArtifacts sha256 artifacts
  let output : Output := { workflowId, phase, requestSha256, artifacts, candidateSnapshotSha256,
                           reviewPacketSha256, outputArtifactsSha256, outputSha256 }
  validateOutputContract sha256 output semantic
  pure (output, semantic)

/-- `CoordinatorPhaseOutput.model_validate_json` -/
def modelValidateOutputJson (sha256 : HashFunction) (raw : Bytes) :
    Except ValidationError (Output × List Artifact) := do
  let value ← jsonValue raw
  modelValidateOutput sha256 value

/-- `CoordinatorPhaseOutput.validate_for` -/
def outputValidateFor (output : Output) (request : Request) : Except ProtocolError Unit := do
  ensure (output.workflowId = request.workflowId ∧ output.phase = request.phase ∧
      output.requestSha256 = request.requestSha256)
    ⟨"coordinator output does not match the claimed request"⟩
  ensure (output.phase ≠ .snapshot →
      output.candidateSnapshotSha256 = request.candidateSnapshotSha256)
    ⟨"coordinator output changed the snapshot anchor"⟩
  ensure (output.phase ≠ .reviewPacket →
      output.reviewPacketSha256 = request.reviewPacketSha256)
    ⟨"coordinator output changed the packet anchor"⟩

/-! ## Outputs read back -/

variable {H : HashFunction}

/-- The content of an artifact has a place in its envelope. -/
structure FitsEnvelope (artifact : OutputArtifact) : Prop where
  matched : matchesArtifactName artifact.name = true
  nonempty : artifact.content ≠ []
  bounded : artifact.content.length ≤ maxExternalBytes

theorem contentOf_b64encode {content : Bytes} (hne : content ≠ [])
    (hlength : content.length ≤ maxExternalBytes) :
    contentOf (b64encode content) = .ok content := by
  simp only [contentOf, b64decode_b64encode, required_some, ok_bind, bind_eq_ok_iff,
    ensure_eq_ok_iff, exists_const, pure_eq_ok_iff]
  exact ⟨⟨hne, hlength, trivial⟩, trivial⟩

theorem readOutputArtifact_fields {artifact : OutputArtifact} (h : FitsEnvelope artifact) :
    readOutputArtifact (.obj artifact.fields) = .ok (artifact.name, b64encode artifact.content) := by
  have hfields : modelFields (.obj artifact.fields) ["content_base64", "name"] =
      .ok artifact.fields := rfl
  have hname : field artifact.fields "name" = .ok (.str artifact.name) := rfl
  have hcontent : field artifact.fields "content_base64" =
      .ok (.str (b64encode artifact.content)) := rfl
  have hlength : 4 ≤ (b64encode artifact.content).length ∧
      (b64encode artifact.content).length ≤ 8000000 := by
    have hpos := List.length_pos_iff.mpr h.nonempty
    have hbound : artifact.content.length ≤ 6000000 := h.bounded
    rw [b64encode_length]
    omega
  simp only [readOutputArtifact, hfields, ok_bind, hname, ensure_of _ h.matched, hcontent,
    ensure_of _ hlength]
  rfl

/-- An output under its contract reads back as itself. -/
theorem modelValidateOutput_fields {output : Output} {semantic : List Artifact}
    (hfits : ∀ artifact ∈ output.artifacts, FitsEnvelope artifact)
    (hlength : 1 ≤ output.artifacts.length ∧ output.artifacts.length ≤ 512)
    (h : OutputContract H output semantic) :
    modelValidateOutput H (.obj output.fields) = .ok (output, semantic) := by
  have hfields : modelFields (.obj output.fields) outputFields = .ok output.fields := rfl
  have hversion : versionField output.fields = .ok () := rfl
  have hphase : phaseField output.fields = .ok output.phase := by
    have hname : Phase.ofName? output.phase.name = some output.phase :=
      Phase.ofName?_eq_some_iff.mpr rfl
    have hlookup : field output.fields "phase" = .ok (.str output.phase.name) := rfl
    simp only [phaseField, hlookup, ok_bind, hname, required_some]
  have hsequence : sequenceField output.fields = .ok (output.phase.sequence : ℤ) :=
    sequenceValue_sequenceJson output.phase
  have hartifacts : outputArtifactsField output.fields =
      .ok (output.artifacts.map fun a => (a.name, b64encode a.content)) := by
    have hfield : field output.fields "artifacts" =
        .ok (.arr (output.artifacts.map fun artifact => .obj artifact.fields)) := rfl
    have hitems : 1 ≤ (output.artifacts.map fun artifact => Json.obj artifact.fields).length ∧
        (output.artifacts.map fun artifact => Json.obj artifact.fields).length ≤ 512 := by
      rwa [List.length_map]
    simp only [outputArtifactsField, hfield, ok_bind, ensure_of _ hitems]
    rw [mapM_eq_ok_iff, List.forall₂_map_left_iff, List.forall₂_map_right_iff]
    exact List.forall₂_same.mpr fun artifact hmem => readOutputArtifact_fields (hfits artifact hmem)
  have hworkflow := shaField_of_lookup
    (show output.fields.lookup "workflow_id" = some (shaJson _) from rfl)
  have hrequest := shaField_of_lookup
    (show output.fields.lookup "request_sha256" = some (shaJson _) from rfl)
  have hset := shaField_of_lookup
    (show output.fields.lookup "output_artifacts_sha256" = some (shaJson _) from rfl)
  have hdigest := shaField_of_lookup
    (show output.fields.lookup "output_sha256" = some (shaJson _) from rfl)
  have hcandidate := optionalShaField_of_lookup
    (show output.fields.lookup "candidate_snapshot_sha256" = some (optionalShaJson _) from rfl)
  have hpacket := optionalShaField_of_lookup
    (show output.fields.lookup "review_packet_sha256" = some (optionalShaJson _) from rfl)
  have hnames : ((output.artifacts.map fun a => (a.name, b64encode a.content)).map
      Prod.fst).Pairwise (· ≤ ·) ∧ ((output.artifacts.map fun a =>
        (a.name, b64encode a.content)).map Prod.fst).Nodup := by
    rw [List.map_map]
    exact ⟨h.sorted, h.nodup⟩
  have hcontents : (output.artifacts.map fun a => (a.name, b64encode a.content)).mapM
      (fun entry => do
        let content ← contentOf entry.2
        pure ({ name := entry.1, content } : OutputArtifact)) = .ok output.artifacts := by
    rw [mapM_eq_ok_iff, List.forall₂_map_left_iff]
    refine List.forall₂_same.mpr fun artifact hmem => ?_
    rw [contentOf_b64encode (hfits artifact hmem).nonempty (hfits artifact hmem).bounded]
    rfl
  have hcontract : validateOutputContract H output semantic = .ok () := by
    simp only [validateOutputContract, bind_eq_ok_iff, ensure_eq_ok_iff, exists_const]
    exact ⟨h.complete, h.set, h.candidate, h.packet, h.digest⟩
  simp only [modelValidateOutput, hfields, ok_bind, hversion, hworkflow, hphase, hsequence, hrequest,
    hartifacts, hcandidate, hpacket, hset, hdigest, ensure_of _ hnames, hcontents, h.derived,
    hcontract]
  rfl

/-- The canonical line of an output under its contract reads back as that output. -/
theorem modelValidateOutputJson_line {output : Output} {semantic : List Artifact} {raw : Bytes}
    (hfits : ∀ artifact ∈ output.artifacts, FitsEnvelope artifact)
    (hlength : 1 ≤ output.artifacts.length ∧ output.artifacts.length ≤ 512)
    (h : OutputContract H output semantic)
    (hraw : Json.canonicalLine? (.obj output.fields) = some raw) :
    modelValidateOutputJson H raw = .ok (output, semantic) := by
  rw [modelValidateOutputJson, jsonValue_line (isPlain_output output) hraw, ok_bind,
    modelValidateOutput_fields hfits hlength h]

end AmazonSimilarSearch.PhaseProtocol
