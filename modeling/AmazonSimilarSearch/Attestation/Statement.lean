import AmazonSimilarSearch.Foundation.Base64
import AmazonSimilarSearch.Foundation.Text

/-!
# Attestation statements

The signed records of `attestation.py`. A binding says which artifact, run and
session a statement is about; a statement adds its nonce and the time it was
issued. All fields of a binding are text, so `model_dump` is a list of named
texts, and what is signed is the canonical JSON of the statement.
-/
namespace AmazonSimilarSearch.Attestation
open Foundation

inductive ArtifactType where
  | task
  | policy
  | gate
  | tddRed
  | tddGreen
  | review
  deriving DecidableEq, Repr

def ArtifactType.name : ArtifactType → String
  | task => "task"
  | policy => "policy"
  | gate => "gate"
  | tddRed => "tdd-red"
  | tddGreen => "tdd-green"
  | review => "review"

theorem ArtifactType.name_injective : Function.Injective ArtifactType.name := by
  intro a b h
  cases a <;> cases b <;> first | rfl | exact absurd h (by decide)

/-- `^[A-Z][A-Z0-9_-]{0,63}$` -/
def isTaskId : String → Bool :=
  matchesHeadTail isUpperAscii (fun c => isUpperAscii c || isDigitAscii c || c == '_' || c == '-') 63

/-- `^sha256:[0-9a-f]{64}$` -/
def isImageDigest (text : String) : Bool :=
  decide (text.toList.take 7 = "sha256:".toList) &&
    matchesLowerHex 64 (String.ofList (text.toList.drop 7))

/-- `^[A-Za-z][A-Za-z0-9_.:-]{0,127}$` -/
def isRole : String → Bool :=
  matchesHeadTail (fun c => isUpperAscii c || isLowerAscii c)
    (fun c => isAlphanumericAscii c || c == '_' || c == '.' || c == ':' || c == '-') 127

/-- `^[A-Za-z0-9][A-Za-z0-9._-]{0,127}$` -/
def isSessionId : String → Bool :=
  matchesHeadTail isAlphanumericAscii
    (fun c => isAlphanumericAscii c || c == '.' || c == '_' || c == '-') 127

/-- `^[0-9a-f]{32,128}$` -/
def isNonce : String → Bool := matchesLowerHexRange 32 128

/-- `^[A-Za-z0-9_-]{86}$` -/
def isSignature (text : String) : Bool :=
  text.toList.length == 86 && text.toList.all fun c => isAlphanumericAscii c || c == '_' || c == '-'

structure AttestationBinding where
  artifactType : ArtifactType
  artifactSha256 : Sha256
  taskId : Matching isTaskId
  taskSha256 : Sha256
  baseSha : LowerHex 40
  headSha : LowerHex 40
  candidateSha256 : Sha256
  snapshotSha256 : Sha256
  runtimeManifestSha256 : Sha256
  runnerImageDigest : Matching isImageDigest
  runnerSha256 : Sha256
  argvSha256 : Sha256
  logSha256 : Sha256
  role : Matching isRole
  sessionId : Matching isSessionId
  requestSha256 : Sha256
  responseSha256 : Sha256
  deriving DecidableEq

/-- Trusted values against which a signed, untrusted statement is compared. -/
abbrev AttestationExpectation := AttestationBinding

structure AttestationStatement extends AttestationBinding where
  nonce : Matching isNonce
  issuedAt : ℤ
  issuedAt_nonneg : 0 ≤ issuedAt
  issuedAt_le : issuedAt ≤ 4102444800
  deriving DecidableEq

structure SignedAttestation where
  keyId : Sha256
  statement : AttestationStatement
  signature : Matching isSignature
  deriving DecidableEq

/-- `binding.model_dump()`, in the order of the fields. -/
def AttestationBinding.modelDump (binding : AttestationBinding) : List (String × String) := [
  ("schema_version", "1.0"),
  ("artifact_type", binding.artifactType.name),
  ("artifact_sha256", binding.artifactSha256.text),
  ("task_id", binding.taskId.text),
  ("task_sha256", binding.taskSha256.text),
  ("base_sha", binding.baseSha.text),
  ("head_sha", binding.headSha.text),
  ("candidate_sha256", binding.candidateSha256.text),
  ("snapshot_sha256", binding.snapshotSha256.text),
  ("runtime_manifest_sha256", binding.runtimeManifestSha256.text),
  ("runner_image_digest", binding.runnerImageDigest.text),
  ("runner_sha256", binding.runnerSha256.text),
  ("argv_sha256", binding.argvSha256.text),
  ("log_sha256", binding.logSha256.text),
  ("role", binding.role.text),
  ("session_id", binding.sessionId.text),
  ("request_sha256", binding.requestSha256.text),
  ("response_sha256", binding.responseSha256.text)]

/-- The dump leaves nothing out. -/
theorem AttestationBinding.modelDump_injective : Function.Injective modelDump := by
  intro a b h
  simp only [modelDump, List.cons.injEq, Prod.mk.injEq, true_and, and_true,
    LowerHex.text_inj, Matching.text_inj] at h
  cases a
  cases b
  simp_all only [AttestationBinding.mk.injEq, and_true]
  exact ArtifactType.name_injective h.1

/-! ## What is signed -/

/-- `model_dump(mode="json")` of a statement, with its keys in order. -/
def AttestationStatement.fields (statement : AttestationStatement) : Fields := [
  ("argv_sha256", .str statement.argvSha256.text),
  ("artifact_sha256", .str statement.artifactSha256.text),
  ("artifact_type", .str statement.artifactType.name),
  ("base_sha", .str statement.baseSha.text),
  ("candidate_sha256", .str statement.candidateSha256.text),
  ("head_sha", .str statement.headSha.text),
  ("issued_at", .int statement.issuedAt),
  ("log_sha256", .str statement.logSha256.text),
  ("nonce", .str statement.nonce.text),
  ("request_sha256", .str statement.requestSha256.text),
  ("response_sha256", .str statement.responseSha256.text),
  ("role", .str statement.role.text),
  ("runner_image_digest", .str statement.runnerImageDigest.text),
  ("runner_sha256", .str statement.runnerSha256.text),
  ("runtime_manifest_sha256", .str statement.runtimeManifestSha256.text),
  ("schema_version", .str "1.0"),
  ("session_id", .str statement.sessionId.text),
  ("snapshot_sha256", .str statement.snapshotSha256.text),
  ("task_id", .str statement.taskId.text),
  ("task_sha256", .str statement.taskSha256.text)]

def SignedAttestation.fields (envelope : SignedAttestation) : Fields := [
  ("algorithm", .str "Ed25519"),
  ("key_id", .str envelope.keyId.text),
  ("schema_version", .str "1.0"),
  ("signature", .str envelope.signature.text),
  ("statement", .obj envelope.statement.fields)]

theorem AttestationStatement.sortedKeys (statement : AttestationStatement) :
    statement.fields.SortedKeys := by
  simp only [fields, Fields.SortedKeys, Fields.keys, List.map]
  decide

theorem AttestationStatement.encodes (statement : AttestationStatement) :
    (Json.obj statement.fields).Encodes := by
  have hnonneg := statement.issuedAt_nonneg
  have hle := statement.issuedAt_le
  have hissued : (Json.int statement.issuedAt).Encodes := by
    apply Json.encodes_int
    have hsmall : statement.issuedAt.natAbs ≤ 4102444800 := by omega
    calc statement.issuedAt.natAbs
        ≤ 4102444800 := hsmall
      _ < 10 ^ 10 := by decide
      _ ≤ 10 ^ maxIntegerDigits := Nat.pow_le_pow_right (by decide) (by decide)
  simp [fields, hissued]

theorem SignedAttestation.encodes (envelope : SignedAttestation) :
    (Json.obj envelope.fields).Encodes := by
  simp [fields, envelope.statement.encodes]

/-- `canonical_json_bytes(value)`, for values that have canonical JSON. -/
def canonicalJsonBytes (fields : Fields) : Bytes :=
  encodeUtf8 ((Json.dumps (.obj fields)).getD "")

def signatureDomain : Bytes := encodeUtf8 "amazon-explorer-attestation-signature-v1\x00"
def keyIdDomain : Bytes := encodeUtf8 "amazon-explorer-attestation-key-id-v1\x00"

def signedBytes (statement : AttestationStatement) : Bytes :=
  signatureDomain ++ canonicalJsonBytes statement.fields

def canonicalSha256 (sha256 : HashFunction) (envelope : SignedAttestation) : Sha256 :=
  sha256 (canonicalJsonBytes envelope.fields)

/-- What the program uses of the Ed25519 keys of its cryptography library. -/
structure Ed25519 where
  PublicKey : Type
  publicBytes : PublicKey → Bytes
  /-- `public_key.verify(signature, data)` returns, instead of raising `InvalidSignature` -/
  verify : PublicKey → Bytes → Bytes → Bool

def publicKeyId (sha256 : HashFunction) (scheme : Ed25519) (key : scheme.PublicKey) : Sha256 :=
  sha256 (keyIdDomain ++ scheme.publicBytes key)

end AmazonSimilarSearch.Attestation
