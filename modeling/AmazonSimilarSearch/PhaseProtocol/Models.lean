import AmazonSimilarSearch.Foundation.Checked
import AmazonSimilarSearch.PhaseProtocol.Artifacts

/-!
# The coordinator's typed protocol

`PhaseRequest` and `PhaseResult` of `phase_protocol.py`. A strict model is a structure that carries what its validators establish, so a value of
the type is a document that passed them. `modelValidate` is the only way in
from JSON: it reads the fields strictly (an `int` field takes no `bool` and no
`float`) and then runs the contract of the model.
-/
namespace AmazonSimilarSearch.PhaseProtocol
open Foundation

/-- A `pydantic.ValidationError`. Of several failing fields the first is named. -/
inductive ValidationError where
  | field (name : String)
  | contract (message : String)
  deriving DecidableEq, Repr

/-! ## Strict fields -/

/-- `extra="forbid"` on a JSON object. -/
def modelFields (value : Json) (names : List String) : Except ValidationError Fields :=
  match value with
  | .obj fields => do
      let unknown := (Fields.keys fields).find? fun key => !names.contains key
      ensure (unknown = none) (.field (unknown.getD ""))
      pure fields
  | _ => .error (.field "")

/-- A required field. -/
def field (fields : Fields) (name : String) : Except ValidationError Json :=
  required (.field name) (fields.lookup name)

/-- `Field(pattern=_SHA256_PATTERN)` on a `str`. -/
def shaField (fields : Fields) (name : String) : Except ValidationError Sha256 := do
  let value ← field fields name
  match value with
  | .str text => required (.field name) (LowerHex.ofText? 64 text)
  | _ => .error (.field name)

/-- `str | None = Field(default=None, pattern=_SHA256_PATTERN)` -/
def optionalShaField (fields : Fields) (name : String) :
    Except ValidationError (Option Sha256) :=
  match fields.lookup name with
  | none => pure none
  | some .null => pure none
  | some (.str text) => do
      let digest ← required (.field name) (LowerHex.ofText? 64 text)
      pure (some digest)
  | some _ => .error (.field name)

/-- `schema_version: Literal["1.0"] = "1.0"` -/
def versionField (fields : Fields) : Except ValidationError Unit :=
  match fields.lookup "schema_version" with
  | none => pure ()
  | some (.str text) => ensure (text = "1.0") (.field "schema_version")
  | some _ => .error (.field "schema_version")

def phaseField (fields : Fields) : Except ValidationError Phase := do
  let value ← field fields "phase"
  match value with
  | .str text => required (.field "phase") (Phase.ofName? text)
  | _ => .error (.field "phase")

/-- `int = Field(ge=1, le=len(PHASE_ORDER))` in strict mode. -/
def sequenceValue (value : Json) : Except ValidationError ℤ :=
  match value with
  | .int i => do
      ensure (1 ≤ i ∧ i ≤ phaseOrder.length) (.field "sequence")
      pure i
  | _ => .error (.field "sequence")

def sequenceField (fields : Fields) : Except ValidationError ℤ := do
  let value ← field fields "sequence"
  sequenceValue value

/-! ## Requests -/

/-- `EMPTY_INITIAL_ARTIFACTS_SHA256` -/
def emptyInitialArtifactsSha256? (sha256 : HashFunction) : Option Sha256 :=
  artifactSetSha256? sha256 []

/-- A request that passed the strict model. -/
structure PhaseRequest (sha256 : HashFunction) extends Request where
  bound : toRequest.Bound sha256
  initialInputs : phase = .snapshot →
    emptyInitialArtifactsSha256? sha256 = some inputArtifactsSha256

def readRequest (value : Json) : Except ValidationError (Request × ℤ) := do
  let fields ← modelFields value requestFields
  versionField fields
  let workflowId ← shaField fields "workflow_id"
  let phase ← phaseField fields
  let sequence ← sequenceField fields
  let previousPhaseSha256 ← optionalShaField fields "previous_phase_sha256"
  let taskSha256 ← shaField fields "task_sha256"
  let runtimeManifestSha256 ← shaField fields "runtime_manifest_sha256"
  let coordinatorKeyId ← shaField fields "coordinator_key_id"
  let coordinatorPublicKeySha256 ← shaField fields "coordinator_public_key_sha256"
  let candidateSha256 ← shaField fields "candidate_sha256"
  let candidateSnapshotSha256 ← optionalShaField fields "candidate_snapshot_sha256"
  let reviewPacketSha256 ← optionalShaField fields "review_packet_sha256"
  let inputArtifactsSha256 ← shaField fields "input_artifacts_sha256"
  let requestSha256 ← shaField fields "request_sha256"
  pure ({ workflowId, phase, previousPhaseSha256, taskSha256, runtimeManifestSha256,
          coordinatorKeyId, coordinatorPublicKeySha256, candidateSha256, candidateSnapshotSha256,
          reviewPacketSha256, inputArtifactsSha256, requestSha256 }, sequence)

/-- `PhaseRequest.validate_contract` -/
def validateRequestContract (sha256 : HashFunction) (request : Request) (sequence : ℤ) :
    Except ValidationError Unit := do
  ensure (sequence = request.phase.sequence)
    (.contract "phase sequence does not match the closed production order")
  ensure (request.previousPhaseSha256 = none ↔ request.phase = .snapshot)
    (.contract "only the first phase may omit the previous phase digest")
  ensure (request.phase = .snapshot →
      emptyInitialArtifactsSha256? sha256 = some request.inputArtifactsSha256)
    (.contract "first phase input artifacts must be the canonical empty artifact set")
  ensure (request.phase = .snapshot → request.candidateSnapshotSha256 = none)
    (.contract "snapshot request cannot pre-claim its output snapshot digest")
  ensure (request.phase ≠ .snapshot → request.candidateSnapshotSha256 ≠ none)
    (.contract "post-snapshot phases require the candidate snapshot digest")
  ensure (request.reviewPacketSha256 ≠ none ↔ Phase.broker.sequence ≤ request.phase.sequence)
    (.contract "review packet digest must appear exactly after packet construction")
  ensure (domainSha256? sha256 requestDomain (.obj request.toRequestBody.fields) =
      some request.requestSha256)
    (.contract "request_sha256 does not match canonical phase request bytes")

theorem validateRequestContract_ok_iff {H : HashFunction} {request : Request} {sequence : ℤ}
    {u : Unit} :
    validateRequestContract H request sequence = .ok u ↔ sequence = request.phase.sequence ∧
      request.Bound H ∧ (request.phase = .snapshot →
        emptyInitialArtifactsSha256? H = some request.inputArtifactsSha256) := by
  simp only [validateRequestContract, bind_eq_ok_iff, ensure_eq_ok_iff, exists_const]
  constructor
  · rintro ⟨hsequence, hprior, hinitial, hfirst, hlater, hpacket, hdigest⟩
    exact ⟨hsequence, ⟨hprior, ⟨fun h => by_contra fun hp => hlater hp h, hfirst⟩, hpacket, hdigest⟩,
      hinitial⟩
  · rintro ⟨hsequence, hbound, hinitial⟩
    exact ⟨hsequence, hbound.prior, hinitial, hbound.snapshot.mpr,
      fun hp h => hp (hbound.snapshot.mp h), hbound.packet, hbound.digest⟩

/-- `PhaseRequest.model_validate` on a JSON value. -/
def PhaseRequest.modelValidate (sha256 : HashFunction) (value : Json) :
    Except ValidationError (PhaseRequest sha256) := do
  let read ← readRequest value
  match h : validateRequestContract sha256 read.1 read.2 with
  | .ok _ =>
      let hcontract := (validateRequestContract_ok_iff.mp h).2
      pure { toRequest := read.1, bound := hcontract.1, initialInputs := hcontract.2 }
  | .error e => .error e

/-- `json.loads` as the models read bytes: no hook is installed. -/
def jsonValue (raw : Bytes) : Except ValidationError Json := do
  let text ← required (.field "") (decodeUtf8 raw)
  (Json.loads ⟨false, false⟩ text).mapError fun _ => .field ""

/-- `PhaseRequest.model_validate_json` -/
def PhaseRequest.modelValidateJson (sha256 : HashFunction) (raw : Bytes) :
    Except ValidationError (PhaseRequest sha256) := do
  let value ← jsonValue raw
  PhaseRequest.modelValidate sha256 value

/-! ## Results -/

/-- What a phase leaves as an anchor: the phase that measures it takes it from its artifacts. -/
def candidateOf (request : Request) (artifacts : List Artifact) : Option Sha256 :=
  if request.phase = .snapshot then digestOf? artifacts "candidate-snapshot"
  else request.candidateSnapshotSha256

def packetOf (request : Request) (artifacts : List Artifact) : Option Sha256 :=
  if request.phase = .reviewPacket then digestOf? artifacts "review-packet"
  else request.reviewPacketSha256

/-- What the model of a phase result establishes. -/
structure ResultContract (sha256 : HashFunction) (request : Request) (result : Result) :
    Prop where
  embeds : result.request = .obj request.fields
  matched : ∀ artifact ∈ result.artifacts, matchesArtifactName artifact.name = true
  nonempty : 1 ≤ result.artifacts.length
  bounded : result.artifacts.length ≤ 512
  sorted : (result.artifacts.map Artifact.name).Pairwise (· ≤ ·)
  nodup : (result.artifacts.map Artifact.name).Nodup
  complete : completeArtifacts (result.artifacts.map Artifact.name) request.phase = true
  set : artifactSetSha256? sha256 result.artifacts = some result.outputArtifactsSha256
  candidate : result.candidateSnapshotSha256 = candidateOf request result.artifacts
  packet : result.reviewPacketSha256 = packetOf request result.artifacts
  external : result.externalExecutionSha256 ≠ none ↔ request.phase.externalKind ≠ .none
  digest : domainSha256? sha256 resultDomain (.obj result.toResultBody.fields) =
    some result.phaseSha256

/-- A phase result that passed the strict model. -/
structure PhaseResult (sha256 : HashFunction) extends Result where
  phaseRequest : PhaseRequest sha256
  contract : ResultContract sha256 phaseRequest.toRequest toResult

/-- `PhaseArtifact` -/
def readArtifact (value : Json) : Except ValidationError Artifact := do
  let fields ← modelFields value ["name", "sha256"]
  let name ← field fields "name"
  match name with
  | .str name => do
      ensure (matchesArtifactName name = true) (.field "name")
      let sha256 ← shaField fields "sha256"
      pure { name, sha256 }
  | _ => .error (.field "name")

/-- `tuple[PhaseArtifact, ...] = Field(min_length=1, max_length=512)` read from JSON. -/
def artifactsField (fields : Fields) : Except ValidationError (List Artifact) := do
  let value ← field fields "artifacts"
  match value with
  | .arr items => do
      ensure (1 ≤ items.length ∧ items.length ≤ 512) (.field "artifacts")
      items.mapM readArtifact
  | _ => .error (.field "artifacts")

/-- The embedded request is validated as a model of its own and dumped again from it. -/
def readResult (sha256 : HashFunction) (value : Json) :
    Except ValidationError (PhaseRequest sha256 × Result) := do
  let fields ← modelFields value resultFields
  versionField fields
  let embedded ← field fields "request"
  let request ← PhaseRequest.modelValidate sha256 embedded
  let outputArtifactsSha256 ← shaField fields "output_artifacts_sha256"
  let artifacts ← artifactsField fields
  let candidateSnapshotSha256 ← optionalShaField fields "candidate_snapshot_sha256"
  let reviewPacketSha256 ← optionalShaField fields "review_packet_sha256"
  let externalExecutionSha256 ← optionalShaField fields "external_execution_sha256"
  let coordinatorOutputSha256 ← shaField fields "coordinator_output_sha256"
  let phaseSha256 ← shaField fields "phase_sha256"
  pure (request, { request := .obj request.fields, outputArtifactsSha256, artifacts,
                   candidateSnapshotSha256, reviewPacketSha256, externalExecutionSha256,
                   coordinatorOutputSha256, phaseSha256 })

def incompleteMessage : Phase → String
  | .snapshot => "snapshot phase requires policy plus base and candidate snapshots"
  | .redSnapshot => "RED phase must contain every named RED snapshot"
  | .offline => "offline phase requires all gates and paired RED/GREEN runs"
  | .reviewPacket => "review phase requires exactly one bounded packet"
  | .broker => "broker phase requires reviewer and adversary runs"
  | .sign => "sign phase requires the complete task, policy, gate, TDD, and review set"
  | .attestedJudge => "attested judge phase requires exactly one verdict"

/-- The snapshot anchor of a result. -/
def validateCandidate (request : Request) (result : Result) : Except ValidationError Unit :=
  if request.phase = .snapshot then do
    ensure (result.candidateSnapshotSha256 ≠ none)
      (.contract "snapshot result requires the measured candidate snapshot digest")
    ensure (result.candidateSnapshotSha256 = digestOf? result.artifacts "candidate-snapshot")
      (.contract "candidate snapshot anchor differs from its semantic artifact")
  else
    ensure (result.candidateSnapshotSha256 = request.candidateSnapshotSha256)
      (.contract "phase result changed the candidate snapshot digest")

def validatePacket (request : Request) (result : Result) : Except ValidationError Unit :=
  if request.phase = .reviewPacket then do
    ensure (result.reviewPacketSha256 ≠ none)
      (.contract "review-packet result requires the measured packet digest")
    ensure (result.reviewPacketSha256 = digestOf? result.artifacts "review-packet")
      (.contract "review packet anchor differs from its semantic artifact")
  else
    ensure (result.reviewPacketSha256 = request.reviewPacketSha256)
      (.contract "phase result changed the review packet digest")

/-- `PhaseResult.validate_contract` -/
def validateResultContract (sha256 : HashFunction) (request : Request) (result : Result) :
    Except ValidationError Unit := do
  let names := result.artifacts.map Artifact.name
  ensure (names.Pairwise (· ≤ ·) ∧ names.Nodup)
    (.contract "phase artifacts must be uniquely sorted by semantic name")
  ensure (completeArtifacts names request.phase = true)
    (.contract (incompleteMessage request.phase))
  ensure (artifactSetSha256? sha256 result.artifacts = some result.outputArtifactsSha256)
    (.contract "output artifact digest does not match the canonical artifact set")
  validateCandidate request result
  validatePacket request result
  ensure (result.externalExecutionSha256 ≠ none ↔ request.phase.externalKind ≠ .none)
    (.contract "external execution evidence is present for the wrong phase")
  ensure (domainSha256? sha256 resultDomain (.obj result.toResultBody.fields) =
      some result.phaseSha256)
    (.contract "phase_sha256 does not match canonical result bytes")

variable {H : HashFunction}

theorem validateCandidate_ok_iff {request : Request} {result : Result} {u : Unit}
    (hcomplete : completeArtifacts (result.artifacts.map Artifact.name) request.phase = true) :
    validateCandidate request result = .ok u ↔
      result.candidateSnapshotSha256 = candidateOf request result.artifacts := by
  unfold validateCandidate candidateOf
  split_ifs with hphase
  · simp only [bind_eq_ok_iff, ensure_eq_ok_iff, exists_const]
    refine ⟨And.right, fun h => ⟨?_, h⟩⟩
    rw [hphase] at hcomplete
    rw [h, ← Option.isSome_iff_ne_none]
    exact digestOf?_isSome (candidateSnapshot_mem hcomplete)
  · rw [ensure_eq_ok_iff]

theorem validatePacket_ok_iff {request : Request} {result : Result} {u : Unit}
    (hcomplete : completeArtifacts (result.artifacts.map Artifact.name) request.phase = true) :
    validatePacket request result = .ok u ↔
      result.reviewPacketSha256 = packetOf request result.artifacts := by
  unfold validatePacket packetOf
  split_ifs with hphase
  · simp only [bind_eq_ok_iff, ensure_eq_ok_iff, exists_const]
    refine ⟨And.right, fun h => ⟨?_, h⟩⟩
    rw [hphase] at hcomplete
    rw [h, ← Option.isSome_iff_ne_none]
    exact digestOf?_isSome (reviewPacket_mem hcomplete)
  · rw [ensure_eq_ok_iff]

/-- The contract is the rules a result has to satisfy beyond those its fields are read under. -/
theorem validateResultContract_ok_iff {request : Request} {result : Result} {u : Unit}
    (hembeds : result.request = .obj request.fields)
    (hmatched : ∀ artifact ∈ result.artifacts, matchesArtifactName artifact.name = true)
    (hlength : 1 ≤ result.artifacts.length ∧ result.artifacts.length ≤ 512) :
    validateResultContract H request result = .ok u ↔ ResultContract H request result := by
  simp only [validateResultContract, bind_eq_ok_iff, ensure_eq_ok_iff, exists_const]
  constructor
  · rintro ⟨⟨hsorted, hnodup⟩, hcomplete, hset, _, hcandidate, _, hpacket, hexternal, hdigest⟩
    exact ⟨hembeds, hmatched, hlength.1, hlength.2, hsorted, hnodup, hcomplete, hset,
      (validateCandidate_ok_iff hcomplete).mp hcandidate,
      (validatePacket_ok_iff hcomplete).mp hpacket, hexternal, hdigest⟩
  · intro h
    exact ⟨⟨h.sorted, h.nodup⟩, h.complete, h.set, (),
      (validateCandidate_ok_iff h.complete).mpr h.candidate, (),
      (validatePacket_ok_iff h.complete).mpr h.packet, h.external, h.digest⟩

theorem readArtifact_ok {value : Json} {artifact : Artifact}
    (h : readArtifact value = .ok artifact) : matchesArtifactName artifact.name = true := by
  simp only [readArtifact, bind_eq_ok_iff] at h
  obtain ⟨fields, -, name, -, h⟩ := h
  split at h
  · simp only [bind_eq_ok_iff, ensure_eq_ok_iff, exists_const, pure_eq_ok_iff] at h
    obtain ⟨hmatched, digest, -, rfl⟩ := h
    exact hmatched
  · cases h

theorem mapM_readArtifact_ok {items : List Json} {artifacts : List Artifact}
    (h : items.mapM readArtifact = .ok artifacts) :
    artifacts.length = items.length ∧
      ∀ artifact ∈ artifacts, matchesArtifactName artifact.name = true := by
  induction items generalizing artifacts with
  | nil =>
      simp only [List.mapM_nil, pure_eq_ok_iff] at h
      subst h
      simp
  | cons item items ih =>
      simp only [List.mapM_cons, bind_eq_ok_iff, pure_eq_ok_iff] at h
      obtain ⟨first, hfirst, rest, hrest, rfl⟩ := h
      obtain ⟨hlength, hmatched⟩ := ih hrest
      exact ⟨by simp [hlength], by simpa using ⟨readArtifact_ok hfirst, hmatched⟩⟩

theorem artifactsField_ok {fields : Fields} {artifacts : List Artifact}
    (h : artifactsField fields = .ok artifacts) :
    (∀ artifact ∈ artifacts, matchesArtifactName artifact.name = true) ∧
      1 ≤ artifacts.length ∧ artifacts.length ≤ 512 := by
  simp only [artifactsField, bind_eq_ok_iff] at h
  obtain ⟨value, -, h⟩ := h
  split at h
  · simp only [bind_eq_ok_iff, ensure_eq_ok_iff, exists_const] at h
    obtain ⟨hlength, h⟩ := h
    obtain ⟨hsame, hmatched⟩ := mapM_readArtifact_ok h
    exact ⟨hmatched, by rw [hsame]; exact hlength⟩
  · cases h

theorem readResult_ok {value : Json} {read : PhaseRequest H × Result}
    (h : readResult H value = .ok read) :
    read.2.request = .obj read.1.fields ∧
      (∀ artifact ∈ read.2.artifacts, matchesArtifactName artifact.name = true) ∧
      1 ≤ read.2.artifacts.length ∧ read.2.artifacts.length ≤ 512 := by
  simp only [readResult, bind_eq_ok_iff, pure_eq_ok_iff] at h
  obtain ⟨_, -, _, -, _, -, _, -, _, -, _, hartifacts, _, -, _, -, _, -, _, -, _, -, rfl⟩ := h
  exact ⟨rfl, artifactsField_ok hartifacts⟩

/-- `PhaseResult.model_validate` on a JSON value. -/
def PhaseResult.modelValidate (sha256 : HashFunction) (value : Json) :
    Except ValidationError (PhaseResult sha256) :=
  match hread : readResult sha256 value with
  | .error e => .error e
  | .ok read =>
      match h : validateResultContract sha256 read.1.toRequest read.2 with
      | .error e => .error e
      | .ok _ =>
          have hfields := readResult_ok hread
          .ok { toResult := read.2, phaseRequest := read.1
                contract := (validateResultContract_ok_iff hfields.1 hfields.2.1
                  hfields.2.2).mp h }

/-- `PhaseResult.model_validate_json` -/
def PhaseResult.modelValidateJson (sha256 : HashFunction) (raw : Bytes) :
    Except ValidationError (PhaseResult sha256) := do
  let value ← jsonValue raw
  PhaseResult.modelValidate sha256 value

/-- `PhaseResult.create`: the digest that chains the result is computed, not supplied. -/
def PhaseResult.create (sha256 : HashFunction) (body : ResultBody) :
    Except ValidationError (PhaseResult sha256) := do
  let phaseSha256 ← required (.field "phase_sha256")
    (domainSha256? sha256 resultDomain (.obj body.fields))
  let result : Result := { toResultBody := body, phaseSha256 }
  PhaseResult.modelValidate sha256 (.obj result.fields)

/-! ## What the models accept -/

theorem PhaseRequest.ext_request {a b : PhaseRequest H} (h : a.toRequest = b.toRequest) :
    a = b := by
  cases a
  cases b
  cases h
  rfl

/-- Validation gives the request that was read, and gives it exactly when it can be held as a
value of the model. -/
theorem PhaseRequest.modelValidate_ok_iff {value : Json} {request : PhaseRequest H} :
    PhaseRequest.modelValidate H value = .ok request ↔
      readRequest value = .ok (request.toRequest, request.phase.sequence) := by
  simp only [PhaseRequest.modelValidate, bind_eq_ok_iff]
  constructor
  · rintro ⟨read, hread, h⟩
    split at h
    · next u hcontract =>
      rw [pure_eq_ok_iff] at h
      subst h
      rw [hread, ← (validateRequestContract_ok_iff.mp hcontract).1]
    · cases h
  · intro hread
    refine ⟨_, hread, ?_⟩
    have hcontract := validateRequestContract_ok_iff (H := H) (u := ()).mpr
      ⟨rfl, request.bound, request.initialInputs⟩
    split
    · rfl
    · next e he => rw [hcontract] at he; cases he

theorem PhaseResult.modelValidate_ok_iff {value : Json} {result : PhaseResult H} :
    PhaseResult.modelValidate H value = .ok result ↔
      readResult H value = .ok (result.phaseRequest, result.toResult) := by
  unfold PhaseResult.modelValidate
  constructor
  · intro h
    split at h
    · cases h
    · next read hread =>
      split at h
      · cases h
      · cases h
        exact hread
  · intro hread
    split
    · next e he => rw [hread] at he; cases he
    · next read hread' =>
      rw [hread, Except.ok.injEq] at hread'
      subst hread'
      have hcontract : validateResultContract H result.phaseRequest.toRequest result.toResult =
          .ok () := (validateResultContract_ok_iff result.contract.embeds result.contract.matched
            ⟨result.contract.nonempty, result.contract.bounded⟩).mpr result.contract
      split
      · next e he => rw [hcontract] at he; cases he
      · rfl

theorem shaField_of_lookup {fields : Fields} {name : String} {digest : Sha256}
    (h : fields.lookup name = some (shaJson digest)) : shaField fields name = .ok digest := by
  simp [shaField, field, h, shaJson]

theorem optionalShaField_of_lookup {fields : Fields} {name : String} {digest : Option Sha256}
    (h : fields.lookup name = some (optionalShaJson digest)) :
    optionalShaField fields name = .ok digest := by
  cases digest with
  | none =>
      simp only [optionalShaField, h, optionalShaJson]
      rfl
  | some digest =>
      simp only [optionalShaField, h, optionalShaJson, shaJson, LowerHex.ofText?_text,
        required_some]
      rfl

/-- The object of a request with another value in the place of its sequence. -/
def fieldsWith (request : Request) (sequence : Json) : Fields := [
  ("candidate_sha256", shaJson request.candidateSha256),
  ("candidate_snapshot_sha256", optionalShaJson request.candidateSnapshotSha256),
  ("coordinator_key_id", shaJson request.coordinatorKeyId),
  ("coordinator_public_key_sha256", shaJson request.coordinatorPublicKeySha256),
  ("input_artifacts_sha256", shaJson request.inputArtifactsSha256),
  ("phase", .str request.phase.name),
  ("previous_phase_sha256", optionalShaJson request.previousPhaseSha256),
  ("request_sha256", shaJson request.requestSha256),
  ("review_packet_sha256", optionalShaJson request.reviewPacketSha256),
  ("runtime_manifest_sha256", shaJson request.runtimeManifestSha256),
  ("schema_version", .str "1.0"),
  ("sequence", sequence),
  ("task_sha256", shaJson request.taskSha256),
  ("workflow_id", shaJson request.workflowId)]

theorem fieldsWith_sequenceJson (request : Request) :
    fieldsWith request (sequenceJson request.phase) = request.fields := rfl

/-- A request reads back as itself, with whatever its sequence reads as. -/
theorem readRequest_fieldsWith (request : Request) (sequence : Json) :
    readRequest (.obj (fieldsWith request sequence)) =
      (sequenceValue sequence).map fun i => (request, i) := by
  have hfields : modelFields (.obj (fieldsWith request sequence)) requestFields =
      .ok (fieldsWith request sequence) := rfl
  have hversion : versionField (fieldsWith request sequence) = .ok () := rfl
  have hphase : phaseField (fieldsWith request sequence) = .ok request.phase := by
    have hname : Phase.ofName? request.phase.name = some request.phase :=
      Phase.ofName?_eq_some_iff.mpr rfl
    have hlookup : field (fieldsWith request sequence) "phase" =
        .ok (.str request.phase.name) := rfl
    simp only [phaseField, hlookup, ok_bind, hname, required_some]
  have hsequence : sequenceField (fieldsWith request sequence) = sequenceValue sequence := rfl
  have hworkflow := shaField_of_lookup
    (show (fieldsWith request sequence).lookup "workflow_id" = some (shaJson _) from rfl)
  have htask := shaField_of_lookup
    (show (fieldsWith request sequence).lookup "task_sha256" = some (shaJson _) from rfl)
  have hruntime := shaField_of_lookup
    (show (fieldsWith request sequence).lookup "runtime_manifest_sha256" = some (shaJson _) from rfl)
  have hkey := shaField_of_lookup
    (show (fieldsWith request sequence).lookup "coordinator_key_id" = some (shaJson _) from rfl)
  have hpublicKey := shaField_of_lookup
    (show (fieldsWith request sequence).lookup "coordinator_public_key_sha256" =
      some (shaJson _) from rfl)
  have hcandidate := shaField_of_lookup
    (show (fieldsWith request sequence).lookup "candidate_sha256" = some (shaJson _) from rfl)
  have hinput := shaField_of_lookup
    (show (fieldsWith request sequence).lookup "input_artifacts_sha256" = some (shaJson _) from rfl)
  have hdigest := shaField_of_lookup
    (show (fieldsWith request sequence).lookup "request_sha256" = some (shaJson _) from rfl)
  have hprior := optionalShaField_of_lookup
    (show (fieldsWith request sequence).lookup "previous_phase_sha256" =
      some (optionalShaJson _) from rfl)
  have hsnapshot := optionalShaField_of_lookup
    (show (fieldsWith request sequence).lookup "candidate_snapshot_sha256" =
      some (optionalShaJson _) from rfl)
  have hpacket := optionalShaField_of_lookup
    (show (fieldsWith request sequence).lookup "review_packet_sha256" =
      some (optionalShaJson _) from rfl)
  simp only [readRequest, hfields, ok_bind, hversion, hphase, hsequence, hworkflow, htask, hruntime,
    hkey, hpublicKey, hcandidate, hinput, hdigest, hprior, hsnapshot, hpacket]
  cases sequenceValue sequence <;> rfl

theorem sequenceValue_sequenceJson (phase : Phase) :
    sequenceValue (sequenceJson phase) = .ok (phase.sequence : ℤ) := by
  have hbound : (1 : ℤ) ≤ phase.sequence ∧ (phase.sequence : ℤ) ≤ phaseOrder.length :=
    ⟨by exact_mod_cast phase.sequence_pos, by exact_mod_cast phase.sequence_le⟩
  simp only [sequenceValue, sequenceJson, ensure_of _ hbound, ok_bind]
  rfl

theorem sequenceValue_ok {value : Json} {i : ℤ} (h : sequenceValue value = .ok i) :
    value = .int i := by
  cases value with
  | int j =>
      simp only [sequenceValue, bind_eq_ok_iff, ensure_eq_ok_iff, exists_const,
        pure_eq_ok_iff] at h
      rw [h.2]
  | _ => cases h

/-- The object of a request validates as the request itself, under the rules of the model. -/
theorem PhaseRequest.modelValidate_fields (request : PhaseRequest H) :
    PhaseRequest.modelValidate H (.obj request.fields) = .ok request := by
  rw [PhaseRequest.modelValidate_ok_iff, ← fieldsWith_sequenceJson, readRequest_fieldsWith,
    sequenceValue_sequenceJson]
  rfl

/-- With another value in the place of the sequence, only a JSON integer validates. -/
theorem PhaseRequest.modelValidate_fieldsWith_ok {request : Request} {sequence : Json}
    {validated : PhaseRequest H}
    (h : PhaseRequest.modelValidate H (.obj (fieldsWith request sequence)) = .ok validated) :
    validated.toRequest = request ∧ sequence = sequenceJson request.phase := by
  rw [PhaseRequest.modelValidate_ok_iff, readRequest_fieldsWith] at h
  cases hsequence : sequenceValue sequence with
  | error e => simp [hsequence, Except.map] at h
  | ok i =>
      simp only [hsequence, Except.map, Except.ok.injEq, Prod.mk.injEq] at h
      obtain ⟨rfl, rfl⟩ := h
      exact ⟨rfl, sequenceValue_ok hsequence⟩

theorem jsonValue_line {value : Json} {raw : Bytes} (hplain : value.IsPlain)
    (h : Json.canonicalLine? value = some raw) : jsonValue raw = .ok value := by
  obtain ⟨text, htext, hloads⟩ := Json.loads_of_canonicalLine ⟨false, false⟩ hplain h
  simp only [jsonValue, htext, required_some, ok_bind, hloads]
  rfl

/-- The canonical line of a model is read as that model. -/
theorem PhaseRequest.modelValidateJson_line (request : PhaseRequest H) {raw : Bytes}
    (h : Json.canonicalLine? (.obj request.fields) = some raw) :
    PhaseRequest.modelValidateJson H raw = .ok request := by
  rw [PhaseRequest.modelValidateJson, jsonValue_line (isPlain_request request.toRequest) h,
    ok_bind, PhaseRequest.modelValidate_fields]

theorem readArtifact_fields {artifact : Artifact}
    (h : matchesArtifactName artifact.name = true) :
    readArtifact (.obj artifact.fields) = .ok artifact := by
  have hfields : modelFields (.obj artifact.fields) ["name", "sha256"] = .ok artifact.fields := rfl
  have hname : field artifact.fields "name" = .ok (.str artifact.name) := rfl
  have hdigest := shaField_of_lookup
    (show artifact.fields.lookup "sha256" = some (shaJson _) from rfl)
  simp only [readArtifact, hfields, ok_bind, hname, ensure_of _ h, hdigest]
  rfl

theorem mapM_readArtifact_fields {artifacts : List Artifact}
    (h : ∀ artifact ∈ artifacts, matchesArtifactName artifact.name = true) :
    (artifacts.map fun artifact => Json.obj artifact.fields).mapM readArtifact = .ok artifacts := by
  induction artifacts with
  | nil => rfl
  | cons artifact artifacts ih =>
      obtain ⟨hfirst, hrest⟩ := List.forall_mem_cons.mp h
      rw [List.map_cons, List.mapM_cons, readArtifact_fields hfirst, ok_bind, ih hrest, ok_bind]
      rfl

theorem readArtifact_fields_eq {artifact read : Artifact}
    (h : readArtifact (.obj artifact.fields) = .ok read) : read = artifact := by
  have hmatched : matchesArtifactName artifact.name = true := by
    have hfields : modelFields (.obj artifact.fields) ["name", "sha256"] =
        .ok artifact.fields := rfl
    have hname : field artifact.fields "name" = .ok (.str artifact.name) := rfl
    simp only [readArtifact, hfields, ok_bind, hname, bind_eq_ok_iff, ensure_eq_ok_iff,
      exists_const] at h
    exact h.1
  rw [readArtifact_fields hmatched, Except.ok.injEq] at h
  exact h.symm

theorem artifactsField_fields_eq {result : Result} {artifacts : List Artifact}
    (h : artifactsField result.fields = .ok artifacts) : artifacts = result.artifacts := by
  have hfield : field result.fields "artifacts" =
      .ok (.arr (result.artifacts.map fun artifact => .obj artifact.fields)) := rfl
  simp only [artifactsField, hfield, ok_bind, bind_eq_ok_iff, ensure_eq_ok_iff, exists_const,
    mapM_eq_ok_iff, List.forall₂_map_left_iff] at h
  have hpairs : List.Forall₂ (· = ·) result.artifacts artifacts :=
    h.2.imp fun _ _ hread => (readArtifact_fields_eq hread).symm
  rw [List.forall₂_eq_eq_eq] at hpairs
  exact hpairs.symm

/-- A result reads back as itself, with whatever its embedded request and its artifacts read
as. -/
theorem readResult_fields (result : Result) :
    readResult H (.obj result.fields) = (do
      let request ← PhaseRequest.modelValidate H result.request
      let artifacts ← artifactsField result.fields
      pure (request, { result with request := .obj request.fields, artifacts })) := by
  have hfields : modelFields (.obj result.fields) resultFields = .ok result.fields := rfl
  have hversion : versionField result.fields = .ok () := rfl
  have hrequest : field result.fields "request" = .ok result.request := rfl
  have hset := shaField_of_lookup
    (show result.fields.lookup "output_artifacts_sha256" = some (shaJson _) from rfl)
  have hcandidate := optionalShaField_of_lookup
    (show result.fields.lookup "candidate_snapshot_sha256" = some (optionalShaJson _) from rfl)
  have hpacket := optionalShaField_of_lookup
    (show result.fields.lookup "review_packet_sha256" = some (optionalShaJson _) from rfl)
  have hexternal := optionalShaField_of_lookup
    (show result.fields.lookup "external_execution_sha256" = some (optionalShaJson _) from rfl)
  have houtput := shaField_of_lookup
    (show result.fields.lookup "coordinator_output_sha256" = some (shaJson _) from rfl)
  have hdigest := shaField_of_lookup
    (show result.fields.lookup "phase_sha256" = some (shaJson _) from rfl)
  simp only [readResult, hfields, ok_bind, hversion, hrequest, hset, hcandidate, hpacket, hexternal,
    houtput, hdigest]

theorem artifactsField_fields {result : Result}
    (hmatched : ∀ artifact ∈ result.artifacts, matchesArtifactName artifact.name = true)
    (hlength : 1 ≤ result.artifacts.length ∧ result.artifacts.length ≤ 512) :
    artifactsField result.fields = .ok result.artifacts := by
  have hfield : field result.fields "artifacts" =
      .ok (.arr (result.artifacts.map fun artifact => .obj artifact.fields)) := rfl
  have hitems : 1 ≤ (result.artifacts.map fun artifact => Json.obj artifact.fields).length ∧
      (result.artifacts.map fun artifact => Json.obj artifact.fields).length ≤ 512 := by
    rwa [List.length_map]
  simp only [artifactsField, hfield, ok_bind, ensure_of _ hitems,
    mapM_readArtifact_fields hmatched]

/-- The object of a result validates as the result itself. -/
theorem PhaseResult.modelValidate_fields (result : PhaseResult H) :
    PhaseResult.modelValidate H (.obj result.fields) = .ok result := by
  rw [PhaseResult.modelValidate_ok_iff, readResult_fields, result.contract.embeds,
    PhaseRequest.modelValidate_fields, artifactsField_fields result.contract.matched
      ⟨result.contract.nonempty, result.contract.bounded⟩]
  simp only [ok_bind, ← result.contract.embeds]
  rfl

/-- A result is created for the request it embeds, with what it was given. -/
theorem PhaseResult.create_ok {body : ResultBody} {request : PhaseRequest H}
    {result : PhaseResult H} (hrequest : body.request = .obj request.fields)
    (h : PhaseResult.create H body = .ok result) :
    result.phaseRequest = request ∧ result.toResultBody = body := by
  simp only [PhaseResult.create, bind_eq_ok_iff, required_eq_ok_iff,
    PhaseResult.modelValidate_ok_iff, readResult_fields, pure_eq_ok_iff, hrequest,
    PhaseRequest.modelValidate_fields, Except.ok.injEq] at h
  obtain ⟨phaseSha256, -, _, rfl, artifacts, hartifacts, hresult⟩ := h
  have hsame := artifactsField_fields_eq hartifacts
  obtain ⟨hphaseRequest, hfields⟩ := Prod.mk.injEq .. ▸ hresult
  refine ⟨hphaseRequest.symm, ?_⟩
  rw [← hfields, hsame]
  simp only [← hrequest]

theorem PhaseResult.request_isPlain (result : PhaseResult H) : result.request.IsPlain := by
  rw [result.contract.embeds]
  exact isPlain_request _

theorem PhaseResult.encodes (result : PhaseResult H) : (Json.obj result.fields).Encodes := by
  apply encodes_result
  rw [result.contract.embeds]
  exact encodes_request _

theorem PhaseResult.modelValidateJson_line (result : PhaseResult H) {raw : Bytes}
    (h : Json.canonicalLine? (.obj result.fields) = some raw) :
    PhaseResult.modelValidateJson H raw = .ok result := by
  rw [PhaseResult.modelValidateJson, jsonValue_line (isPlain_result result.request_isPlain) h,
    ok_bind, PhaseResult.modelValidate_fields]

end AmazonSimilarSearch.PhaseProtocol
