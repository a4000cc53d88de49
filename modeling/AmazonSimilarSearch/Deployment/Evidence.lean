import AmazonSimilarSearch.Foundation.Checked
import AmazonSimilarSearch.Foundation.JsonCanonical
import AmazonSimilarSearch.Foundation.Words

/-!
# Deployment evidence

What `deployment_check.py` has found out about the four images of a release is one line of
canonical JSON, which names its own digest. The line is validated again where it is used.
-/
namespace AmazonSimilarSearch.Deployment
open Foundation

/-- What leaves a function of `deployment_check.py` by `raise`. -/
inductive Raised where
  /-- `DeploymentCheckError` -/
  | deployment (message : String)
  /-- an exception of another class -/
  | exception
  deriving DecidableEq, Repr

/-! ## The images of a release -/

/-- The keys of `_IMAGE_CONTRACTS` -/
inductive Role where
  | broker
  | brokerGateway
  | coordinator
  | offlineRunner
  deriving DecidableEq, Repr

namespace Role

def text : Role → String
  | .broker => "broker"
  | .brokerGateway => "broker-gateway"
  | .coordinator => "coordinator"
  | .offlineRunner => "offline-runner"

/-- `sorted(_IMAGE_CONTRACTS)` -/
def all : List Role := [.broker, .brokerGateway, .coordinator, .offlineRunner]

theorem mem_all (role : Role) : role ∈ all := by cases role <;> decide

theorem text_injective : Function.Injective text := by
  intro role role' h
  cases role <;> cases role' <;> first | rfl | exact absurd h (by decide)

def ofText? (text : String) : Option Role := all.find? fun role => role.text = text

@[simp] theorem ofText?_text (role : Role) : ofText? role.text = some role := by
  cases role <;> decide

end Role

/-- `_ImageContract` -/
structure ImageContract where
  user : String
  entrypoint : Option (List String)
  cmd : Option (List String)
  environment : List (String × String)
  smokeTail : List String
  smokeExitCode : ℤ

/-- `int(self.user.split(":", 1)[0])` -/
def ImageContract.uid (contract : ImageContract) : ℤ :=
  (pyInt? (String.ofList (contract.user.toList.takeWhile (· ≠ ':')))).getD 0

/-- `_IMAGE_CONTRACTS` -/
def Role.contract : Role → ImageContract
  | .coordinator =>
    { user := "65532:65532"
      entrypoint := some ["/opt/ai-review-runtime/.venv/bin/python", "-I",
        "/opt/ai-review-app/tools/ai_review/coordinator_main.py"]
      cmd := none
      environment := [("HOME", "/nonexistent"),
        ("PATH", "/opt/ai-review-runtime/.venv/bin:/usr/local/bin:/usr/bin:/bin"),
        ("PYTHONDONTWRITEBYTECODE", "1"), ("PYTHONHASHSEED", "0"), ("PYTHONNOUSERSITE", "1"),
        ("VIRTUAL_ENV", "/opt/ai-review-runtime/.venv")]
      smokeTail := ["--help"]
      smokeExitCode := 0 }
  | .offlineRunner =>
    { user := "65534:65534"
      entrypoint := none
      cmd := some ["python", "--version"]
      environment := [("HOME", "/nonexistent"),
        ("PATH", "/opt/ai-review-runtime/.venv/bin:/usr/local/bin:/usr/bin:/bin"),
        ("PYTHONDONTWRITEBYTECODE", "1"), ("PYTHONPYCACHEPREFIX", "/tmp/pycache"),
        ("PYTEST_ADDOPTS", "-p no:cacheprovider"), ("RUFF_CACHE_DIR", "/tmp/ruff-cache"),
        ("UV_CACHE_DIR", "/tmp/uv-cache"), ("UV_FROZEN", "1"), ("UV_NO_CACHE", "1"),
        ("UV_OFFLINE", "1"), ("UV_PROJECT_ENVIRONMENT", "/opt/ai-review-runtime/.venv")]
      smokeTail := []
      smokeExitCode := 0 }
  | .broker =>
    { user := "65532:65532"
      entrypoint := some ["/opt/ai-review/bin/responses-broker"]
      cmd := none
      environment := [("HOME", "/nonexistent"), ("PATH", "/usr/local/bin:/usr/bin:/bin"),
        ("PYTHONDONTWRITEBYTECODE", "1"), ("PYTHONHASHSEED", "0"), ("PYTHONNOUSERSITE", "1")]
      smokeTail := []
      smokeExitCode := 2 }
  | .brokerGateway =>
    { user := "65531:65531"
      entrypoint := some ["/opt/ai-review/bin/egress-gateway"]
      cmd := none
      environment := [("AI_REVIEW_EGRESS_GATEWAY", "1"), ("HOME", "/nonexistent"),
        ("PATH", "/usr/local/bin:/usr/bin:/bin"), ("PYTHONDONTWRITEBYTECODE", "1"),
        ("PYTHONHASHSEED", "0"), ("PYTHONNOUSERSITE", "1")]
      smokeTail := ["smoke"]
      smokeExitCode := 2 }

/-! ## Canonical JSON -/

/-- `_canonical` -/
def canonical (value : Json) : Except Raised Bytes :=
  required (.deployment "deployment evidence is not canonical JSON") (Json.canonicalLine? value)

def evidenceDomain : Bytes := encodeUtf8 "amazon-explorer-deployment-check-v1\x00"

/-- `_domain_sha256` -/
def domainSha256 (H : HashFunction) (value : Json) : Except Raised Sha256 := do
  let line ← canonical value
  pure (H (evidenceDomain ++ line))

/-- `_strict_json` -/
def strictJson (raw : Bytes) (label : String) (maximum : ℕ) : Except Raised Json := do
  ensure (raw ≠ [] ∧ raw.length ≤ maximum) (.deployment (label ++ " is empty or oversized"))
  let text ← required (.deployment (label ++ " is invalid JSON")) (decodeUtf8 raw)
  (Json.loads ⟨true, true⟩ text).mapError fun error => match error with
    | .malformed => .deployment (label ++ " is invalid JSON")
    | .duplicateKey => .deployment (label ++ " contains a duplicate field")
    | .constant => .deployment (label ++ " contains a non-JSON number")
    | .integerTooLong => .exception
    | .loneSurrogate => .exception

/-- `_sha` -/
def sha (value : Json) (label : String) : Except Raised Sha256 :=
  required (.deployment (label ++ " is not a lowercase SHA-256")) <| match value with
    | .str text => LowerHex.ofText? 64 text
    | _ => none

/-- `_DIGEST_RE.fullmatch(text)` -/
def matchesDigest (text : String) : Bool :=
  text.toList.take 7 = "sha256:".toList && matchesLowerHex 64 (String.ofList (text.toList.drop 7))

/-- `isinstance(value, dict)` -/
def asObject (error : Raised) : Json → Except Raised Fields
  | .obj fields => .ok fields
  | _ => .error error

/-- `isinstance(value, list)` -/
def asItems (error : Raised) : Json → Except Raised (List Json)
  | .arr items => .ok items
  | _ => .error error

/-! ## The shape of the evidence -/

def resultFields : List String := [
  "backend_evidence_sha256", "credentials_read", "deployment_evidence_sha256",
  "external_api_called", "external_network_created", "images", "manifest_sha256",
  "production_e2e_complete", "schema_version", "status"]

def imageFields : List String := [
  "digest", "inspect_sha256", "metadata_sha256", "role", "smoke_argv_sha256", "smoke_exit_code",
  "smoke_stderr_sha256", "smoke_stdout_sha256"]

def imageDigestFields : List String := [
  "inspect_sha256", "metadata_sha256", "smoke_argv_sha256", "smoke_stderr_sha256",
  "smoke_stdout_sha256"]

/-- `value is False` -/
def isFalse : Json → Bool
  | .bool b => !b
  | _ => false

/-- `role not in _IMAGE_CONTRACTS`, which raises `TypeError` for a list or a dictionary -/
def readRole : Json → Except Raised Role
  | .str text => required (.deployment "deployment image role is invalid") (Role.ofText? text)
  | .arr _ => .error .exception
  | .obj _ => .error .exception
  | _ => .error (.deployment "deployment image role is invalid")

def invalidImage : Raised := .deployment "deployment image evidence is invalid"

/-- One round of the loop over the images. -/
def checkImage (item : Json) : Except Raised Role := do
  let fields ← asObject invalidImage item
  ensure (fields.hasExactKeys imageFields = true) invalidImage
  let role ← readRole (fields.get "role")
  ensure ((match fields.get "digest" with | .str text => matchesDigest text | _ => false) = true)
    (.deployment "deployment image digest is invalid")
  ensure ((fields.get "smoke_exit_code").pyEq (.int role.contract.smokeExitCode) = true)
    (.deployment "deployment image smoke exit code is invalid")
  imageDigestFields.forM fun name => do
    let _ ← sha (fields.get name) ("deployment image " ++ name)
  pure role

section Evidence

variable (H : HashFunction)

/-- `_validate_result_shape`; the fields of the dictionary are returned. -/
def validateResultShape (value : Json) (validateDigest : Bool) : Except Raised Fields := do
  let unknown : Raised := .deployment "deployment evidence has missing or unknown fields"
  let fields ← asObject unknown value
  ensure (fields.hasExactKeys resultFields = true) unknown
  ensure ((fields.get "schema_version").pyEq (.str "1.0") = true ∧
    (fields.get "status").pyEq (.str "nonlive_ready") = true ∧
    isFalse (fields.get "credentials_read") = true ∧
    isFalse (fields.get "external_api_called") = true ∧
    isFalse (fields.get "external_network_created") = true ∧
    isFalse (fields.get "production_e2e_complete") = true)
    (.deployment "deployment evidence overstates the non-live result")
  let _ ← sha (fields.get "manifest_sha256") "deployment manifest digest"
  let _ ← sha (fields.get "backend_evidence_sha256") "deployment backend evidence digest"
  let evidenceSha256 ← sha (fields.get "deployment_evidence_sha256") "deployment evidence digest"
  let items ← asItems invalidImage (fields.get "images")
  let roles ← items.mapM checkImage
  ensure (roles = Role.all ∧ roles.Nodup)
    (.deployment "deployment image evidence set is incomplete")
  if validateDigest then do
    let computed ← domainSha256 H (.obj (fields.without "deployment_evidence_sha256"))
    ensure (evidenceSha256 = computed) (.deployment "deployment evidence digest is invalid")
    pure fields
  else pure fields

/-- `canonical_deployment_check_bytes` -/
def canonicalDeploymentCheckBytes (value : Json) : Except Raised Bytes := do
  let fields ← validateResultShape H value true
  canonical (.obj fields)

/-- `{item["role"]: item["digest"] for item in images}` -/
def digestsByRole (images : Json) : Fields :=
  Fields.ofPairs <| match images with
    | .arr items => items.filterMap fun item => match item with
        | .obj fields => match Fields.get fields "role" with
            | .str role => some (role, Fields.get fields "digest")
            | _ => none
        | _ => none
    | _ => []

/-- `validate_deployment_check_bytes` -/
def validateDeploymentCheckBytes (raw : Bytes) (expectedManifestSha256 : String)
    (expectedBackendEvidenceSha256 : String) (expectedImageDigests : Role → String) :
    Except Raised Fields := do
  let value ← strictJson raw "deployment evidence" 128000
  let parsed ← validateResultShape H value true
  let line ← canonical (.obj parsed)
  ensure (line = raw) (.deployment "deployment evidence is not canonical JSON")
  ensure ((parsed.get "manifest_sha256").pyEq (.str expectedManifestSha256) = true ∧
    (parsed.get "backend_evidence_sha256").pyEq (.str expectedBackendEvidenceSha256) = true ∧
    Json.pyEqFields (digestsByRole (parsed.get "images")) (Fields.ofPairs
      (Role.all.map fun role => (role.text, .str (expectedImageDigests role)))) = true)
    (.deployment "deployment evidence differs from its trusted inputs")
  pure parsed

end Evidence

end AmazonSimilarSearch.Deployment
