import AmazonSimilarSearch.Foundation.Checked
import AmazonSimilarSearch.Foundation.JsonOrdered
import AmazonSimilarSearch.PhaseProtocol.Artifacts

/-!
# The outer verifier of coordinator bytes

`outer_workflow_state.py` up to its driver. Coordinator output is untrusted:
every byte string is read as canonical JSON, checked field by field and bound
by its digests. A dict that passed its checks is held as the record of what was
read; `Spec.lean` proves that the record's object is the dict.

A value of type `Untrusted` is `none` when it is not a `bytes` object.
-/
namespace AmazonSimilarSearch.OuterWorkflow
open Foundation

/-- What leaves a function of the module by `raise`. -/
inductive Raised where
  /-- `OuterWorkflowStateError` -/
  | workflowState (message : String)
  /-- a `ValueError` that no handler of the module catches -/
  | valueError
  /-- `next` found no artifact of the wanted name -/
  | stopIteration
  /-- whatever a callback raised -/
  | callback
  deriving DecidableEq, Repr

abbrev Untrusted := Option Bytes

def maxPreparedBytes : ℕ := 3000000
def maxExternalBytes : ℕ := 6000000
def maxFinalizedBytes : ℕ := 10000000

def preparedDomain : Bytes := encodeUtf8 "amazon-explorer-outer-prepared-transition-v1\x00"
def finalizedDomain : Bytes := encodeUtf8 "amazon-explorer-outer-finalized-transition-v1\x00"

def fail {α : Type} (message : String) : Except Raised α := .error (.workflowState message)

/-- `_canonical` -/
def canonical (value : Json) : Except Raised Bytes :=
  required (.workflowState "workflow value is not canonical JSON") (Json.canonicalLine? value)

/-- `_domain` -/
def domain (sha256 : HashFunction) (tag : Bytes) (value : Json) : Except Raised Sha256 := do
  let line ← canonical value
  pure (sha256 (tag ++ line))

def hooks : Json.Hooks := ⟨true, true⟩

/-- The exception that reading a document ends in. -/
def readError (label : String) : JsonError → Raised
  | .malformed => .workflowState s!"{label} is invalid JSON"
  | .duplicateKey => .workflowState s!"{label} contains a duplicate field"
  | .constant => .workflowState s!"{label} contains a non-finite number"
  -- `int` raises a `ValueError` that is not a `JSONDecodeError`
  | .integerTooLong => .valueError
  -- the string is read, and encoding it again fails
  | .loneSurrogate => .workflowState "workflow value is not canonical JSON"

/-- `_strict_json` -/
def strictJson (raw : Untrusted) (label : String) (maximum : ℕ) : Except Raised Fields := do
  let bytes ← required (.workflowState s!"{label} is empty or exceeds its byte limit") raw
  ensure (bytes ≠ [] ∧ bytes.length ≤ maximum)
    (.workflowState s!"{label} is empty or exceeds its byte limit")
  let text ← required (.workflowState s!"{label} is invalid JSON") (decodeUtf8 bytes)
  let value ← (Json.loads hooks text).mapError (readError label)
  match value with
  | .obj fields => do
      let line ← canonical (.obj fields)
      ensure (line = bytes) (.workflowState s!"{label} is not canonical JSON")
      pure fields
  | _ => fail s!"{label} is not canonical JSON"

/-- `_exact` on a dict. -/
def exactFields (fields : Fields) (names : List String) (label : String) :
    Except Raised Fields := do
  ensure (fields.hasExactKeys names = true)
    (.workflowState s!"{label} has missing or unknown fields")
  pure fields

/-- `_exact` -/
def exact (value : Json) (names : List String) (label : String) : Except Raised Fields :=
  match value with
  | .obj fields => exactFields fields names label
  | _ => fail s!"{label} has missing or unknown fields"

/-- `_sha` -/
def sha (value : Json) (label : String) : Except Raised Sha256 :=
  match value with
  | .str text => required (.workflowState s!"{label} is not a lowercase SHA-256")
      (LowerHex.ofText? 64 text)
  | _ => fail s!"{label} is not a lowercase SHA-256"

/-- `if value is not None: _sha(value)` -/
def optionalSha (value : Json) (label : String) : Except Raised (Option Sha256) :=
  match value with
  | .null => pure none
  | value => do
      let digest ← sha value label
      pure (some digest)

/-- `_integer`: a `bool` is not a strict integer. -/
def integer (value : Json) (label : String) (minimum maximum : ℤ) : Except Raised ℤ :=
  match value with
  | .int i => do
      ensure (minimum ≤ i ∧ i ≤ maximum)
        (.workflowState s!"{label} is not a strict bounded integer")
      pure i
  | _ => fail s!"{label} is not a strict bounded integer"

/-- `_decode_base64` -/
def decodeBase64 (value : Json) (label : String) (maximum : ℕ) : Except Raised Bytes :=
  match value with
  | .str text => do
      ensure (text.length ≤ maximum * 2) (.workflowState s!"{label} encoding is invalid")
      let raw ← required (.workflowState s!"{label} encoding is invalid") (b64decode text)
      ensure (raw ≠ [] ∧ raw.length ≤ maximum ∧ b64encode raw = text)
        (.workflowState s!"{label} is empty, oversized, or non-canonical")
      pure raw
  | _ => fail s!"{label} encoding is invalid"

/-- `phase in PHASE_ORDER`, with the phase found. -/
def phaseIn? : Json → Option Phase
  | .str text => Phase.ofName? text
  | _ => none

/-! ## Requests -/

/-- `validate_phase_request_bytes` -/
def validatePhaseRequestBytes (sha256 : HashFunction) (raw : Bytes) : Except Raised Request := do
  let document ← strictJson (some raw) "phase request" 128000
  let request ← exactFields document requestFields "phase request"
  let order := Raised.workflowState "phase request order is invalid"
  ensure ((request.get "schema_version").pyEq (.str "1.0") = true) order
  let phase ← required order (phaseIn? (request.get "phase"))
  let sequence ← integer (request.get "sequence") "phase sequence" 1 7
  ensure (sequence = phase.sequence) order
  let workflowId ← sha (request.get "workflow_id") "workflow_id"
  let taskSha256 ← sha (request.get "task_sha256") "task_sha256"
  let runtimeManifestSha256 ← sha (request.get "runtime_manifest_sha256") "runtime_manifest_sha256"
  let coordinatorKeyId ← sha (request.get "coordinator_key_id") "coordinator_key_id"
  let coordinatorPublicKeySha256 ←
    sha (request.get "coordinator_public_key_sha256") "coordinator_public_key_sha256"
  let candidateSha256 ← sha (request.get "candidate_sha256") "candidate_sha256"
  let inputArtifactsSha256 ← sha (request.get "input_artifacts_sha256") "input_artifacts_sha256"
  let requestSha256 ← sha (request.get "request_sha256") "request_sha256"
  let previousPhaseSha256 ←
    optionalSha (request.get "previous_phase_sha256") "previous_phase_sha256"
  let candidateSnapshotSha256 ←
    optionalSha (request.get "candidate_snapshot_sha256") "candidate_snapshot_sha256"
  let reviewPacketSha256 ← optionalSha (request.get "review_packet_sha256") "review_packet_sha256"
  ensure (previousPhaseSha256 = none ↔ sequence = 1)
    (.workflowState "phase request prior binding is invalid")
  ensure (candidateSnapshotSha256 = none ↔ sequence = 1)
    (.workflowState "phase request snapshot binding is invalid")
  ensure (reviewPacketSha256 ≠ none ↔ (Phase.broker.sequence : ℤ) ≤ sequence)
    (.workflowState "phase request packet binding is invalid")
  let measured ← domain sha256 requestDomain (.obj (request.without "request_sha256"))
  ensure (requestSha256 = measured) (.workflowState "phase request digest is invalid")
  pure { workflowId, phase, previousPhaseSha256, taskSha256, runtimeManifestSha256,
         coordinatorKeyId, coordinatorPublicKeySha256, candidateSha256, candidateSnapshotSha256,
         reviewPacketSha256, inputArtifactsSha256, requestSha256 }

/-! ## Prepared transitions -/

def actionFields : List String := ["action_sha256", "external_kind", "payload_sha256", "phase",
  "request_sha256", "schema_version", "sequence", "workflow_id"]

/-- `_validate_action` -/
def validateAction (sha256 : HashFunction) (value : Json) (request : Request) (payload : Bytes) :
    Except Raised Action := do
  let action ← exact value actionFields "phase action"
  let mismatch := Raised.workflowState "phase action does not match its request and payload"
  let expectedKind := request.phase.externalKind
  ensure ((action.get "schema_version").pyEq (.str "1.0") = true) mismatch
  ensure ((action.get "workflow_id").pyEq (shaJson request.workflowId) = true) mismatch
  ensure ((action.get "phase").pyEq (.str request.phase.name) = true) mismatch
  let sequence ← integer (action.get "sequence") "action sequence" 1 7
  ensure (sequence = request.phase.sequence) mismatch
  ensure ((action.get "request_sha256").pyEq (shaJson request.requestSha256) = true) mismatch
  ensure ((action.get "external_kind").pyEq (.str expectedKind.name) = true) mismatch
  ensure ((action.get "payload_sha256").pyEq (shaJson (sha256 payload)) = true) mismatch
  let actionSha256 ← sha (action.get "action_sha256") "action SHA-256"
  let measured ← domain sha256 actionDomain (.obj (action.without "action_sha256"))
  ensure (actionSha256 = measured) (.workflowState "phase action digest is invalid")
  pure { workflowId := request.workflowId, phase := request.phase,
         requestSha256 := request.requestSha256, externalKind := expectedKind,
         payloadSha256 := sha256 payload, actionSha256 }

structure PreparedTransition where
  action : Action
  payload : Bytes
  preparedSha256 : Sha256
  deriving DecidableEq

def preparedFields : List String :=
  ["action", "payload_base64", "prepared_sha256", "schema_version"]

/-- `parse_prepared_transition` -/
def parsePreparedTransition (sha256 : HashFunction) (raw : Untrusted) (request : Request) :
    Except Raised PreparedTransition := do
  let document ← strictJson raw "prepared transition" maxPreparedBytes
  let value ← exactFields document preparedFields "prepared transition"
  ensure ((value.get "schema_version").pyEq (.str "1.0") = true)
    (.workflowState "prepared transition version is invalid")
  let payload ← decodeBase64 (value.get "payload_base64") "prepared payload" 2000000
  let action ← validateAction sha256 (value.get "action") request payload
  let body : Fields := ["action", "payload_base64", "schema_version"].map fun key =>
    (key, value.get key)
  let preparedSha256 ← sha (value.get "prepared_sha256") "prepared transition SHA-256"
  let measured ← domain sha256 preparedDomain (.obj body)
  ensure (preparedSha256 = measured) (.workflowState "prepared transition digest is invalid")
  pure { action, payload, preparedSha256 }

/-! ## Coordinator output -/

/-- `_artifact_semantic` -/
def artifactSemantic (sha256 : HashFunction) (name : String) (raw : Bytes) :
    Except Raised Sha256 :=
  if isSnapshotName name then do
    let value ← required (.workflowState "snapshot artifact is not an exact digest")
      (decodeAscii raw)
    sha (.str value) "snapshot artifact"
  else if name = "review-packet" then do
    let packet ← strictJson (some raw) "review packet" 6000000
    let digest ← sha (packet.get "packet_sha256") "review packet SHA-256"
    let compact ← required .valueError (Json.dumps (.obj (packet.without "packet_sha256")))
    ensure (digest = sha256 (encodeUtf8 compact))
      (.workflowState "review packet semantic digest is invalid")
    pure digest
  else pure (sha256 raw)

def incompleteMessage : Phase → String
  | .snapshot => "snapshot artifact set is incomplete"
  | .redSnapshot => "RED artifact set is incomplete"
  | .offline => "offline artifact set is incomplete"
  | .reviewPacket => "review packet artifact set is incomplete"
  | .broker => "broker artifact set is incomplete"
  | .sign => "sign artifact set is incomplete"
  | .attestedJudge => "judge artifact set is incomplete"

/-- `_validate_completeness` -/
def validateCompleteness (phase : Phase) (names : List String) : Except Raised Unit :=
  ensure (completeArtifacts names phase = true) (.workflowState (incompleteMessage phase))

/-- One round of the loop over the artifacts. -/
def readArtifact (sha256 : HashFunction) (value : Json) :
    Except Raised (OutputArtifact × Artifact) := do
  let artifact ← exact value ["content_base64", "name"] "coordinator output artifact"
  match artifact.get "name" with
  | .str name => do
      ensure (matchesArtifactName name = true)
        (.workflowState "coordinator artifact name is invalid")
      let content ← decodeBase64 (artifact.get "content_base64") "coordinator artifact" 6000000
      let digest ← artifactSemantic sha256 name content
      pure (⟨name, content⟩, ⟨name, digest⟩)
  | _ => fail "coordinator artifact name is invalid"

/-- `isinstance(output["artifacts"], list)` -/
def listItems? : Json → Option (List Json)
  | .arr items => some items
  | _ => none

def outputFields : List String := ["artifacts", "candidate_snapshot_sha256",
  "output_artifacts_sha256", "output_sha256", "phase", "request_sha256", "review_packet_sha256",
  "schema_version", "sequence", "workflow_id"]

/-- The snapshot a phase leaves behind: the snapshot phase measures it, the others keep it. -/
def candidateAnchor (request : Request) (semantic : List Artifact) :
    Except Raised (Option Sha256) :=
  if request.phase = .snapshot then do
    let digest ← required .stopIteration (digestOf? semantic "candidate-snapshot")
    pure (some digest)
  else pure request.candidateSnapshotSha256

def packetAnchor (request : Request) (semantic : List Artifact) :
    Except Raised (Option Sha256) :=
  if request.phase = .reviewPacket then do
    let digest ← required .stopIteration (digestOf? semantic "review-packet")
    pure (some digest)
  else pure request.reviewPacketSha256

/-- `_validate_coordinator_output` -/
def validateCoordinatorOutput (sha256 : HashFunction) (raw : Bytes) (request : Request) :
    Except Raised (Output × List Artifact) := do
  let document ← strictJson (some raw) "coordinator output" 8000000
  let output ← exactFields document outputFields "coordinator output"
  let mismatch := Raised.workflowState "coordinator output does not match the phase request"
  ensure ((output.get "schema_version").pyEq (.str "1.0") = true) mismatch
  ensure ((output.get "workflow_id").pyEq (shaJson request.workflowId) = true) mismatch
  ensure ((output.get "phase").pyEq (.str request.phase.name) = true) mismatch
  let sequence ← integer (output.get "sequence") "coordinator output sequence" 1 7
  ensure (sequence = request.phase.sequence) mismatch
  ensure ((output.get "request_sha256").pyEq (shaJson request.requestSha256) = true) mismatch
  let items ← required mismatch (listItems? (output.get "artifacts"))
  ensure (1 ≤ items.length ∧ items.length ≤ 512) mismatch
  let read ← items.mapM (readArtifact sha256)
  let artifacts := read.map Prod.fst
  let semantic := read.map Prod.snd
  let names := semantic.map Artifact.name
  ensure (names.Pairwise (· ≤ ·) ∧ names.Nodup)
    (.workflowState "coordinator artifacts are duplicated or unsorted")
  validateCompleteness request.phase names
  let semanticLine ← canonical (artifactsJson semantic)
  let artifactDigest := sha256 semanticLine
  ensure ((output.get "output_artifacts_sha256").pyEq (shaJson artifactDigest) = true)
    (.workflowState "coordinator artifact manifest digest is invalid")
  let candidate ← candidateAnchor request semantic
  let packet ← packetAnchor request semantic
  ensure ((output.get "candidate_snapshot_sha256").pyEq (optionalShaJson candidate) = true ∧
      (output.get "review_packet_sha256").pyEq (optionalShaJson packet) = true)
    (.workflowState "coordinator output changed a workflow anchor")
  let outputSha256 ← sha (output.get "output_sha256") "coordinator output SHA-256"
  let measured ← domain sha256 outputDomain (.obj (output.without "output_sha256"))
  ensure (outputSha256 = measured) (.workflowState "coordinator output digest is invalid")
  pure ({ workflowId := request.workflowId, phase := request.phase,
          requestSha256 := request.requestSha256, artifacts,
          candidateSnapshotSha256 := candidate, reviewPacketSha256 := packet,
          outputArtifactsSha256 := artifactDigest, outputSha256 }, semantic)

/-! ## Results and finalized transitions -/

/-- `_validate_phase_result`. The embedded request is compared with Python's `==`. -/
def validatePhaseResult (sha256 : HashFunction) (value : Json) (request : Request)
    (output : Output) (semantic : List Artifact) (outputRaw : Bytes) (externalRaw : Option Bytes) :
    Except Raised Result := do
  let result ← exact value resultFields "phase result"
  let expectedExternal := externalRaw.map sha256
  ensure ((result.get "schema_version").pyEq (.str "1.0") = true ∧
      (result.get "request").pyEq (.obj request.fields) = true ∧
      (result.get "artifacts").pyEq (artifactsJson semantic) = true ∧
      (result.get "output_artifacts_sha256").pyEq (shaJson output.outputArtifactsSha256) = true ∧
      (result.get "candidate_snapshot_sha256").pyEq
        (optionalShaJson output.candidateSnapshotSha256) = true ∧
      (result.get "review_packet_sha256").pyEq (optionalShaJson output.reviewPacketSha256) = true ∧
      (result.get "external_execution_sha256").pyEq (optionalShaJson expectedExternal) = true ∧
      (result.get "coordinator_output_sha256").pyEq (shaJson (sha256 outputRaw)) = true)
    (.workflowState "phase result differs from measured coordinator evidence")
  let phaseSha256 ← sha (result.get "phase_sha256") "phase result SHA-256"
  let measured ← domain sha256 resultDomain (.obj (result.without "phase_sha256"))
  ensure (phaseSha256 = measured) (.workflowState "phase result digest is invalid")
  pure { request := result.get "request", artifacts := semantic,
         outputArtifactsSha256 := output.outputArtifactsSha256,
         candidateSnapshotSha256 := output.candidateSnapshotSha256,
         reviewPacketSha256 := output.reviewPacketSha256,
         externalExecutionSha256 := expectedExternal,
         coordinatorOutputSha256 := sha256 outputRaw, phaseSha256 }

structure FinalizedTransition where
  result : Result
  coordinatorOutput : Bytes
  nextRequest : Option Bytes
  finalizedSha256 : Sha256

/-- The next request continues the chain of its predecessor. -/
def chained (request next : Request) (output : Output) (result : Result) : Prop :=
  next.phase.sequence = request.phase.sequence + 1 ∧
  phaseOrder[request.phase.sequence]? = some next.phase ∧
  next.workflowId = request.workflowId ∧
  next.taskSha256 = request.taskSha256 ∧
  next.runtimeManifestSha256 = request.runtimeManifestSha256 ∧
  next.coordinatorKeyId = request.coordinatorKeyId ∧
  next.coordinatorPublicKeySha256 = request.coordinatorPublicKeySha256 ∧
  next.candidateSha256 = request.candidateSha256 ∧
  next.candidateSnapshotSha256 = output.candidateSnapshotSha256 ∧
  next.reviewPacketSha256 = output.reviewPacketSha256 ∧
  next.previousPhaseSha256 = some result.phaseSha256 ∧
  next.inputArtifactsSha256 = result.outputArtifactsSha256

instance (request next : Request) (output : Output) (result : Result) :
    Decidable (chained request next output result) := by
  unfold chained
  infer_instance

/-- The next request of a transition: none after the last phase, and one that continues the
chain after every other. -/
def validateNextRequest (sha256 : HashFunction) (request : Request) (output : Output)
    (result : Result) (nextRaw : Option Bytes) : Except Raised Unit :=
  if request.phase.sequence = phaseOrder.length then
    ensure (nextRaw = none) (.workflowState "final phase must not produce another request")
  else do
    let raw ← required (.workflowState "non-final phase omitted its next request") nextRaw
    let next ← validatePhaseRequestBytes sha256 raw
    ensure (chained request next output result)
      (.workflowState "next request is not chained to the finalized result")

/-- `None if encoded is None else _decode_base64(...)` -/
def decodeNextRequest (value : Json) : Except Raised (Option Bytes) :=
  match value with
  | .null => pure none
  | value => do
      let raw ← decodeBase64 value "next phase request" 128000
      pure (some raw)

def finalizedFields : List String := ["coordinator_output_base64", "finalized_sha256",
  "next_request_base64", "phase_result", "schema_version"]

/-- `parse_finalized_transition` -/
def parseFinalizedTransition (sha256 : HashFunction) (raw : Untrusted) (request : Request)
    (externalRaw : Option Bytes) : Except Raised FinalizedTransition := do
  let document ← strictJson raw "finalized transition" maxFinalizedBytes
  let value ← exactFields document finalizedFields "finalized transition"
  ensure ((value.get "schema_version").pyEq (.str "1.0") = true)
    (.workflowState "finalized transition version is invalid")
  let outputRaw ← decodeBase64 (value.get "coordinator_output_base64") "coordinator output" 8000000
  let measured ← validateCoordinatorOutput sha256 outputRaw request
  let result ← validatePhaseResult sha256 (value.get "phase_result") request measured.1 measured.2
    outputRaw externalRaw
  let nextRequest ← decodeNextRequest (value.get "next_request_base64")
  validateNextRequest sha256 request measured.1 result nextRequest
  let body : Fields := ["coordinator_output_base64", "next_request_base64", "phase_result",
    "schema_version"].map fun key => (key, value.get key)
  let finalizedSha256 ← sha (value.get "finalized_sha256") "finalized transition SHA-256"
  let digest ← domain sha256 finalizedDomain (.obj body)
  ensure (finalizedSha256 = digest) (.workflowState "finalized transition digest is invalid")
  pure { result, coordinatorOutput := outputRaw, nextRequest, finalizedSha256 }

end AmazonSimilarSearch.OuterWorkflow
