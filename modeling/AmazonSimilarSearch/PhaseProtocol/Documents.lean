import AmazonSimilarSearch.Foundation.Base64
import AmazonSimilarSearch.PhaseProtocol.Phase

/-!
# Documents of the phase protocol

The JSON documents that pass between the outer launcher and the coordinator.
Each is a record of what the document says, with the object it is written as;
the fields of that object stand in key order. A digest field binds the rest of
its document under a domain of its own.
-/
namespace AmazonSimilarSearch
open Foundation

def shaJson (digest : Sha256) : Json := .str digest.text

def optionalShaJson : Option Sha256 → Json
  | none => .null
  | some digest => shaJson digest

def sequenceJson (phase : Phase) : Json := .int phase.sequence

/-- `hashlib.sha256(domain + canonical(value)).hexdigest()`. -/
def domainSha256? (sha256 : HashFunction) (domain : Bytes) (value : Json) : Option Sha256 :=
  (Json.canonicalLine? value).map fun line => sha256 (domain ++ line)

def domainSha256 (sha256 : HashFunction) (tag : Bytes) (fields : Fields) : Sha256 :=
  sha256 (tag ++ lineOf (.obj fields))

theorem domainSha256?_eq {H : HashFunction} {tag : Bytes} {fields : Fields} (h : (Json.obj fields).Encodes) :
    domainSha256? H tag (.obj fields) = some (domainSha256 H tag fields) := by
  rw [domainSha256?, canonicalLine?_lineOf h, Option.map_some, domainSha256]

def requestDomain : Bytes := encodeUtf8 "amazon-explorer-phase-request-v1\x00"
def actionDomain : Bytes := encodeUtf8 "amazon-explorer-phase-action-v1\x00"
def outputDomain : Bytes := encodeUtf8 "amazon-explorer-coordinator-phase-output-v1\x00"
def resultDomain : Bytes := encodeUtf8 "amazon-explorer-phase-result-v1\x00"

/-- What a phase request says, its own digest apart. -/
structure RequestBody where
  workflowId : Sha256
  phase : Phase
  previousPhaseSha256 : Option Sha256
  taskSha256 : Sha256
  runtimeManifestSha256 : Sha256
  coordinatorKeyId : Sha256
  coordinatorPublicKeySha256 : Sha256
  candidateSha256 : Sha256
  candidateSnapshotSha256 : Option Sha256
  reviewPacketSha256 : Option Sha256
  inputArtifactsSha256 : Sha256
  deriving DecidableEq

structure Request extends RequestBody where
  requestSha256 : Sha256
  deriving DecidableEq

/-- The fields of a request: `_REQUEST_FIELDS`. -/
def requestFields : List String := ["candidate_sha256", "candidate_snapshot_sha256",
  "coordinator_key_id", "coordinator_public_key_sha256", "input_artifacts_sha256", "phase",
  "previous_phase_sha256", "request_sha256", "review_packet_sha256", "runtime_manifest_sha256",
  "schema_version", "sequence", "task_sha256", "workflow_id"]

def RequestBody.fields (body : RequestBody) : Fields := [
  ("candidate_sha256", shaJson body.candidateSha256),
  ("candidate_snapshot_sha256", optionalShaJson body.candidateSnapshotSha256),
  ("coordinator_key_id", shaJson body.coordinatorKeyId),
  ("coordinator_public_key_sha256", shaJson body.coordinatorPublicKeySha256),
  ("input_artifacts_sha256", shaJson body.inputArtifactsSha256),
  ("phase", .str body.phase.name),
  ("previous_phase_sha256", optionalShaJson body.previousPhaseSha256),
  ("review_packet_sha256", optionalShaJson body.reviewPacketSha256),
  ("runtime_manifest_sha256", shaJson body.runtimeManifestSha256),
  ("schema_version", .str "1.0"),
  ("sequence", sequenceJson body.phase),
  ("task_sha256", shaJson body.taskSha256),
  ("workflow_id", shaJson body.workflowId)]

def Request.fields (request : Request) : Fields := [
  ("candidate_sha256", shaJson request.candidateSha256),
  ("candidate_snapshot_sha256", optionalShaJson request.candidateSnapshotSha256),
  ("coordinator_key_id", shaJson request.coordinatorKeyId),
  ("coordinator_public_key_sha256", shaJson request.coordinatorPublicKeySha256),
  ("input_artifacts_sha256", shaJson request.inputArtifactsSha256),
  ("phase", .str request.phase.name),
  ("previous_phase_sha256", optionalShaJson request.previousPhaseSha256),
  ("request_sha256", shaJson request.requestSha256),
  ("review_packet_sha256", optionalShaJson request.reviewPacketSha256),
  ("runtime_manifest_sha256", shaJson request.runtimeManifestSha256),
  ("schema_version", .str "1.0"),
  ("sequence", sequenceJson request.phase),
  ("task_sha256", shaJson request.taskSha256),
  ("workflow_id", shaJson request.workflowId)]

structure ActionBody where
  workflowId : Sha256
  phase : Phase
  requestSha256 : Sha256
  externalKind : ExternalKind
  payloadSha256 : Sha256
  deriving DecidableEq

structure Action extends ActionBody where
  actionSha256 : Sha256
  deriving DecidableEq

def ActionBody.fields (body : ActionBody) : Fields := [
  ("external_kind", .str body.externalKind.name),
  ("payload_sha256", shaJson body.payloadSha256),
  ("phase", .str body.phase.name),
  ("request_sha256", shaJson body.requestSha256),
  ("schema_version", .str "1.0"),
  ("sequence", sequenceJson body.phase),
  ("workflow_id", shaJson body.workflowId)]

def Action.fields (action : Action) : Fields := [
  ("action_sha256", shaJson action.actionSha256),
  ("external_kind", .str action.externalKind.name),
  ("payload_sha256", shaJson action.payloadSha256),
  ("phase", .str action.phase.name),
  ("request_sha256", shaJson action.requestSha256),
  ("schema_version", .str "1.0"),
  ("sequence", sequenceJson action.phase),
  ("workflow_id", shaJson action.workflowId)]

/-- One semantic artifact: its name and its measured digest. -/
structure Artifact where
  name : String
  sha256 : Sha256
  deriving DecidableEq

def Artifact.fields (artifact : Artifact) : Fields :=
  [("name", .str artifact.name), ("sha256", shaJson artifact.sha256)]

def artifactsJson (artifacts : List Artifact) : Json :=
  .arr (artifacts.map fun artifact => .obj artifact.fields)

/-- `hashlib.sha256(canonical([...])).hexdigest()` over an artifact list. -/
def artifactSetSha256? (sha256 : HashFunction) (artifacts : List Artifact) : Option Sha256 :=
  (Json.canonicalLine? (artifactsJson artifacts)).map sha256

/-- One artifact as the coordinator hands it over, content included. -/
structure OutputArtifact where
  name : String
  content : Bytes
  deriving DecidableEq

def OutputArtifact.fields (artifact : OutputArtifact) : Fields :=
  [("content_base64", .str (b64encode artifact.content)), ("name", .str artifact.name)]

structure OutputBody where
  workflowId : Sha256
  phase : Phase
  requestSha256 : Sha256
  artifacts : List OutputArtifact
  candidateSnapshotSha256 : Option Sha256
  reviewPacketSha256 : Option Sha256
  outputArtifactsSha256 : Sha256
  deriving DecidableEq

structure Output extends OutputBody where
  outputSha256 : Sha256
  deriving DecidableEq

def OutputBody.fields (body : OutputBody) : Fields := [
  ("artifacts", .arr (body.artifacts.map fun artifact => .obj artifact.fields)),
  ("candidate_snapshot_sha256", optionalShaJson body.candidateSnapshotSha256),
  ("output_artifacts_sha256", shaJson body.outputArtifactsSha256),
  ("phase", .str body.phase.name),
  ("request_sha256", shaJson body.requestSha256),
  ("review_packet_sha256", optionalShaJson body.reviewPacketSha256),
  ("schema_version", .str "1.0"),
  ("sequence", sequenceJson body.phase),
  ("workflow_id", shaJson body.workflowId)]

def Output.fields (output : Output) : Fields := [
  ("artifacts", .arr (output.artifacts.map fun artifact => .obj artifact.fields)),
  ("candidate_snapshot_sha256", optionalShaJson output.candidateSnapshotSha256),
  ("output_artifacts_sha256", shaJson output.outputArtifactsSha256),
  ("output_sha256", shaJson output.outputSha256),
  ("phase", .str output.phase.name),
  ("request_sha256", shaJson output.requestSha256),
  ("review_packet_sha256", optionalShaJson output.reviewPacketSha256),
  ("schema_version", .str "1.0"),
  ("sequence", sequenceJson output.phase),
  ("workflow_id", shaJson output.workflowId)]

/-- What a phase result says, the digest that chains it apart. The embedded request is
any value: the two readers of a result disagree about which values they let in. -/
structure ResultBody where
  request : Json
  outputArtifactsSha256 : Sha256
  artifacts : List Artifact
  candidateSnapshotSha256 : Option Sha256
  reviewPacketSha256 : Option Sha256
  externalExecutionSha256 : Option Sha256
  coordinatorOutputSha256 : Sha256

structure Result extends ResultBody where
  phaseSha256 : Sha256

/-- The fields of a phase result. -/
def resultFields : List String := ["artifacts", "candidate_snapshot_sha256",
  "coordinator_output_sha256", "external_execution_sha256", "output_artifacts_sha256",
  "phase_sha256", "request", "review_packet_sha256", "schema_version"]

def ResultBody.fields (body : ResultBody) : Fields := [
  ("artifacts", artifactsJson body.artifacts),
  ("candidate_snapshot_sha256", optionalShaJson body.candidateSnapshotSha256),
  ("coordinator_output_sha256", shaJson body.coordinatorOutputSha256),
  ("external_execution_sha256", optionalShaJson body.externalExecutionSha256),
  ("output_artifacts_sha256", shaJson body.outputArtifactsSha256),
  ("request", body.request),
  ("review_packet_sha256", optionalShaJson body.reviewPacketSha256),
  ("schema_version", .str "1.0")]

def Result.fields (result : Result) : Fields := [
  ("artifacts", artifactsJson result.artifacts),
  ("candidate_snapshot_sha256", optionalShaJson result.candidateSnapshotSha256),
  ("coordinator_output_sha256", shaJson result.coordinatorOutputSha256),
  ("external_execution_sha256", optionalShaJson result.externalExecutionSha256),
  ("output_artifacts_sha256", shaJson result.outputArtifactsSha256),
  ("phase_sha256", shaJson result.phaseSha256),
  ("request", result.request),
  ("review_packet_sha256", optionalShaJson result.reviewPacketSha256),
  ("schema_version", .str "1.0")]

/-- The bindings of a request: what it may leave open at its place in the order, and its
digest. -/
structure Request.Bound (sha256 : HashFunction) (request : Request) : Prop where
  prior : request.previousPhaseSha256 = none ↔ request.phase = .snapshot
  snapshot : request.candidateSnapshotSha256 = none ↔ request.phase = .snapshot
  packet : request.reviewPacketSha256 ≠ none ↔
    Phase.broker.sequence ≤ request.phase.sequence
  digest : domainSha256? sha256 requestDomain (.obj request.toRequestBody.fields) =
    some request.requestSha256

/-! ## Each document's object is plain, and its digest binds the rest of it -/

theorem isPlain_shaJson (digest : Sha256) : (shaJson digest).IsPlain := by simp [shaJson]

theorem isPlain_optionalShaJson (digest : Option Sha256) : (optionalShaJson digest).IsPlain := by
  cases digest <;> simp [optionalShaJson, shaJson]

theorem encodes_shaJson (digest : Sha256) : (shaJson digest).Encodes := by simp [shaJson]

theorem encodes_optionalShaJson (digest : Option Sha256) : (optionalShaJson digest).Encodes := by
  cases digest <;> simp [optionalShaJson, shaJson]

theorem encodes_sequenceJson (phase : Phase) : (sequenceJson phase).Encodes := by
  have hsmall : phase.sequence < 10 := Nat.lt_of_le_of_lt phase.sequence_le (by decide)
  have hten : 10 ≤ 10 ^ maxIntegerDigits := Nat.le_self_pow (by decide) 10
  exact Json.encodes_int (Nat.lt_of_lt_of_le hsmall hten)

attribute [simp] isPlain_shaJson isPlain_optionalShaJson encodes_shaJson encodes_optionalShaJson
  encodes_sequenceJson

@[simp] theorem isPlain_sequenceJson (phase : Phase) : (sequenceJson phase).IsPlain := by
  simp [sequenceJson]

theorem shaJson_injective : Function.Injective shaJson := by
  intro a b h
  simpa [shaJson] using h

theorem optionalShaJson_injective : Function.Injective optionalShaJson := by
  intro a b h
  cases a <;> cases b <;> simp_all [optionalShaJson, shaJson]

theorem sequenceJson_injective : Function.Injective sequenceJson := by
  intro a b h
  simp only [sequenceJson, Json.int.injEq, Int.natCast_inj] at h
  exact Phase.sequence_injective h

@[simp] theorem shaJson_inj {a b : Sha256} : shaJson a = shaJson b ↔ a = b :=
  shaJson_injective.eq_iff

@[simp] theorem optionalShaJson_inj {a b : Option Sha256} :
    optionalShaJson a = optionalShaJson b ↔ a = b :=
  optionalShaJson_injective.eq_iff

theorem Request.fields_without (request : Request) :
    request.fields.without "request_sha256" = request.toRequestBody.fields := by
  simp [Request.fields, RequestBody.fields, Fields.without]

theorem Action.fields_without (action : Action) :
    action.fields.without "action_sha256" = action.toActionBody.fields := by
  simp [Action.fields, ActionBody.fields, Fields.without]

theorem Output.fields_without (output : Output) :
    output.fields.without "output_sha256" = output.toOutputBody.fields := by
  simp [Output.fields, OutputBody.fields, Fields.without]

theorem Result.fields_without (result : Result) :
    result.fields.without "phase_sha256" = result.toResultBody.fields := by
  simp [Result.fields, ResultBody.fields, Fields.without]

theorem isPlain_request (request : Request) : (Json.obj request.fields).IsPlain := by
  rw [Json.isPlain_obj]
  exact ⟨by simp only [Request.fields, Fields.SortedKeys, Fields.keys, List.map]; decide,
    by simp [Request.fields]⟩

theorem encodes_request (request : Request) : (Json.obj request.fields).Encodes := by
  simp [Request.fields]

theorem encodes_requestBody (body : RequestBody) : (Json.obj body.fields).Encodes := by
  simp [RequestBody.fields]

theorem encodes_artifacts (artifacts : List Artifact) : (artifactsJson artifacts).Encodes := by
  simp [artifactsJson, Artifact.fields]

theorem isPlain_action (action : Action) : (Json.obj action.fields).IsPlain := by
  rw [Json.isPlain_obj]
  exact ⟨by simp only [Action.fields, Fields.SortedKeys, Fields.keys, List.map]; decide,
    by simp [Action.fields]⟩

theorem isPlain_outputArtifact (artifact : OutputArtifact) :
    (Json.obj artifact.fields).IsPlain := by
  rw [Json.isPlain_obj]
  exact ⟨by simp only [OutputArtifact.fields, Fields.SortedKeys, Fields.keys, List.map]; decide,
    by simp [OutputArtifact.fields]⟩

theorem isPlain_output (output : Output) : (Json.obj output.fields).IsPlain := by
  have hartifacts : (Json.arr (output.artifacts.map fun a => .obj a.fields)).IsPlain := by
    rw [Json.isPlain_arr, Json.plainItems_iff]
    intro x hx
    obtain ⟨a, -, rfl⟩ := List.mem_map.mp hx
    exact isPlain_outputArtifact a
  rw [Json.isPlain_obj]
  exact ⟨by simp only [Output.fields, Fields.SortedKeys, Fields.keys, List.map]; decide,
    by simp [Output.fields, hartifacts]⟩

theorem isPlain_artifactsJson (artifacts : List Artifact) : (artifactsJson artifacts).IsPlain := by
  rw [artifactsJson, Json.isPlain_arr, Json.plainItems_iff]
  intro x hx
  obtain ⟨a, -, rfl⟩ := List.mem_map.mp hx
  rw [Json.isPlain_obj]
  exact ⟨by simp only [Artifact.fields, Fields.SortedKeys, Fields.keys, List.map]; decide,
    by simp [Artifact.fields]⟩

theorem isPlain_result {result : Result} (h : result.request.IsPlain) :
    (Json.obj result.fields).IsPlain := by
  rw [Json.isPlain_obj]
  exact ⟨by simp only [Result.fields, Fields.SortedKeys, Fields.keys, List.map]; decide,
    by simp [Result.fields, isPlain_artifactsJson, h]⟩

theorem encodes_action (body : ActionBody) : (Json.obj body.fields).Encodes := by
  simp [ActionBody.fields]

theorem encodes_actionFields (action : Action) : (Json.obj action.fields).Encodes := by
  simp [Action.fields]

theorem encodes_outputArtifacts (artifacts : List OutputArtifact) :
    (Json.arr (artifacts.map fun a => .obj a.fields)).Encodes := by
  simp [OutputArtifact.fields]

theorem encodes_outputBody (body : OutputBody) : (Json.obj body.fields).Encodes := by
  simp [OutputBody.fields, OutputArtifact.fields]

theorem encodes_output (output : Output) : (Json.obj output.fields).Encodes := by
  simp [Output.fields, OutputArtifact.fields]

theorem encodes_resultBody {body : ResultBody} (h : body.request.Encodes) :
    (Json.obj body.fields).Encodes := by
  simp [ResultBody.fields, encodes_artifacts, h]

theorem encodes_result {result : Result} (h : result.request.Encodes) :
    (Json.obj result.fields).Encodes := by
  simp [Result.fields, encodes_artifacts, h]

end AmazonSimilarSearch
