import AmazonSimilarSearch.Broker.Commands
import AmazonSimilarSearch.Foundation.Casefold
import AmazonSimilarSearch.Foundation.JsonOrdered

/-!
# The runtime binding

The outer executor measures the container runtime and states what it found as one
JSON record. The workflow driver and the coordinator each read this record again,
with their own canonical form: both end it with a line feed, the measurement
does not.
-/
namespace AmazonSimilarSearch.Broker
open Foundation Interaction

def fail {α : Type} (message : String) : Except Raised α := .error (.outerBroker message)

/-! ## Measuring the runtime -/

/-- What the runtime reports of its isolation. -/
structure RuntimeSecurity where
  rootless : Bool
  userNamespace : Bool
  seccompProfile : String
  deriving DecidableEq

/-- `type(value) is bool` -/
def asBool : Json → Option Bool
  | .bool b => some b
  | _ => none

/-- `value[key]` -/
def item (value : Json) (key : String) : Option Json :=
  match value with
  | .obj fields => fields.lookup key
  | _ => none

/-- The four values of `podman info`: rootless, user namespace, seccomp, profile. -/
def podmanSecurity (info : Json) : Option (Json × Bool × Json × Json) := do
  let host ← item info "host"
  let security ← item host "security"
  let rootless ← item security "rootless"
  let seccompEnabled ← item security "seccompEnabled"
  let seccompProfile ← item security "seccompProfilePath"
  pure (rootless, true, seccompEnabled, seccompProfile)

def asTexts : List Json → Option (List String)
  | [] => some []
  | .str text :: items => (asTexts items).map (text :: ·)
  | _ => none

/-- The same of `docker info`, which lists its security options. -/
def dockerSecurity (info : Json) : Option (Json × Bool × Json × Json) :=
  match info with
  | .arr items => do
      let options ← asTexts items
      let normalized := options.map casefold
      let rootless := normalized.any (contains "rootless")
      let seccompEnabled := normalized.any fun option =>
        "name=seccomp,".toList.isPrefixOf option.toList && contains "profile=builtin" option
      pure (.bool rootless, rootless || normalized.any (contains "userns"), .bool seccompEnabled,
        .str "builtin")
  | _ => none

/-- What `json.loads` makes of the output; the record has other parts that are not read, and
reading them may raise an exception of its own. -/
abbrev InfoReader := Bytes → Except Raised Json

/-- `_decode_runtime_security` -/
def decodeRuntimeSecurity (loads : InfoReader) (name : String) (record : CommandRecord) :
    Except Raised RuntimeSecurity := do
  let info ← loads record.result.stdout
  let reported := if name = "podman" then podmanSecurity info else dockerSecurity info
  let (rootless, userNamespace, seccompEnabled, seccompProfile) ←
    required (.outerBroker "outer runtime security probe failed") reported
  match rootless, seccompEnabled, seccompProfile with
  | .bool rootless, .bool true, .str seccompProfile => do
      ensure ((rootless = true ∨ userNamespace = true) ∧ seccompProfile ≠ "" ∧
          contains "unconfined" (casefold seccompProfile) = false)
        (Raised.outerBroker "outer runtime security probe failed")
      pure ⟨rootless, userNamespace, seccompProfile⟩
  | _, _, _ => fail "outer runtime security probe failed"

def probeArgv (path name : String) : List String :=
  if name = "podman" then [path, "info", "--format", "json"]
  else [path, "info", "--format", "\x7b\x7bjson .SecurityOptions\x7d\x7d"]

/-- `_runtime_probe_record` -/
def runtimeProbeRecord (path name : String) (environment : Environment) :
    Execution CommandRecord := do
  let record ← runRecord
    { argv := probeArgv path name
      stdin := []
      environment := environment
      timeoutSeconds := 10
      maxStdinBytes := 2
      maxStdoutBytes := maxInspectBytes
      maxStderrBytes := maxCommandStderrBytes }
  ensure (record.result.exitCode = 0) (Raised.outerBroker "outer runtime security probe failed")
  pure record

def securityPayload (name : String) (security : RuntimeSecurity) : Json :=
  .obj [("name", .str name), ("rootless", .bool security.rootless),
    ("seccomp_profile", .str security.seccompProfile),
    ("user_namespace", .bool security.userNamespace)]

/-- `_sha256(_canonical(security) + b"\n")` -/
def securityEvidenceSha256 (H : HashFunction) (name : String) (security : RuntimeSecurity) :
    Except Raised Sha256 := do
  let payload ← canonical (securityPayload name security)
  pure (H (payload ++ [10]))

def environmentJson (environment : Environment) : Json :=
  .obj (Fields.ofPairs (environment.map fun entry => (entry.1, .str entry.2)))

/-- The values of a runtime binding. -/
structure RuntimeValues where
  environmentSha256 : Sha256
  executableSha256 : Sha256
  name : String
  security : RuntimeSecurity
  securityEvidenceSha256 : Sha256
  deriving DecidableEq

def RuntimeValues.toJson (values : RuntimeValues) : Json :=
  .obj [("environment_sha256", .str values.environmentSha256.text),
    ("executable_sha256", .str values.executableSha256.text),
    ("name", .str values.name), ("rootless", .bool values.security.rootless),
    ("seccomp_profile", .str values.security.seccompProfile),
    ("security_evidence_sha256", .str values.securityEvidenceSha256.text),
    ("user_namespace", .bool values.security.userNamespace)]

/-- `runtime_path.name` -/
def pathName (path : String) : String := String.ofList (path.toList.reverse.takeWhile (· ≠ '/')).reverse

/-- The measurement, before it is encoded. -/
def measureRuntimeValues (H : HashFunction) (loads : InfoReader) (effectiveUid candidateUid : ℕ)
    (path : String) : Execution RuntimeValues := do
  ensure (0 < candidateUid ∧ candidateUid ≠ effectiveUid)
    (Raised.outerBroker "outer broker candidate UID is invalid")
  let name := pathName path
  ensure (name = "podman" ∨ name = "docker")
    (Raised.outerBroker "outer runtime executable is unsupported")
  let environment ← baseEnvironment name
  let (beforeDigest, beforeMetadata) ← measureRuntime path
  let record ← runtimeProbeRecord path name environment
  let security ← Interaction.ofExcept (decodeRuntimeSecurity loads name record)
  let (afterDigest, afterMetadata) ← measureRuntime path
  ensure (beforeDigest = afterDigest ∧ beforeMetadata = afterMetadata)
    (Raised.outerBroker "outer runtime executable changed during measurement")
  let evidence ← Interaction.ofExcept (securityEvidenceSha256 H name security)
  let environmentBytes ← Interaction.ofExcept (canonical (environmentJson environment))
  pure ⟨H environmentBytes, beforeDigest, name, security, evidence⟩

/-- `measure_broker_outer_runtime` for an absolute path. -/
def measureBrokerOuterRuntime (H : HashFunction) (loads : InfoReader)
    (effectiveUid candidateUid : ℕ) (path : String) : Execution Bytes := do
  let values ← measureRuntimeValues H loads effectiveUid candidateUid path
  Interaction.ofExcept (canonical values.toJson)

/-- What a probe leaves in the evidence. -/
structure RuntimeProbe where
  command : CommandRecord
  device : ℕ
  inode : ℕ
  runtimeSha256 : Sha256
  securityEvidenceSha256 : Sha256

/-- `_probe_runtime` -/
def probeRuntime (H : HashFunction) (loads : InfoReader) (path : String) (runtime : RuntimeValues)
    (environment : Environment) : Execution RuntimeProbe := do
  let (digest, metadata) ← measureRuntime path
  ensure (digest = runtime.executableSha256)
    (Raised.outerBroker "outer runtime digest differs from prepared binding")
  let record ← runtimeProbeRecord path runtime.name environment
  let security ← Interaction.ofExcept (decodeRuntimeSecurity loads runtime.name record)
  let evidence ← Interaction.ofExcept (securityEvidenceSha256 H runtime.name security)
  ensure (security = runtime.security ∧ evidence = runtime.securityEvidenceSha256)
    (Raised.outerBroker "outer runtime security differs from prepared binding")
  pure ⟨record, metadata.device, metadata.inode, digest, evidence⟩

/-! ## Reading the binding -/

/-- What the two readers raise. -/
inductive BindingError where
  /-- `OuterWorkflowRuntimeError` or `CoordinatorWorkflowInputError` -/
  | rejected (message : String)
  /-- the plain `ValueError` of an integer with too many digits -/
  | valueError
  deriving DecidableEq, Repr

def reject {α : Type} (message : String) : Except BindingError α := .error (.rejected message)

def bindingFields : List String :=
  ["environment_sha256", "executable_sha256", "name", "rootless", "seccomp_profile",
    "security_evidence_sha256", "user_namespace"]

def bindingReadError (label : String) : JsonError → BindingError
  | .duplicateKey => .rejected (label ++ " contains a duplicate field")
  | .integerTooLong => .valueError
  | _ => .rejected (label ++ " is not strict JSON")

def loadBinding (label : String) (raw : Bytes) : Except BindingError Json := do
  let text ← required (.rejected (label ++ " is not strict JSON")) (decodeUtf8 raw)
  (Json.loads ⟨true, false⟩ text).mapError (bindingReadError label)

/-- A field that holds a SHA-256. -/
def shaField (fields : Fields) (name : String) : Option Sha256 :=
  match fields.get name with
  | .str text => LowerHex.ofText? 64 text
  | _ => none

/-- `hashlib.sha256(_canonical(security_payload)).hexdigest()`, each canonical form with its
line feed. -/
def expectedSecurity (H : HashFunction) (fields : Fields) : Option Sha256 :=
  (Json.canonicalLine? (.obj [("name", fields.get "name"), ("rootless", fields.get "rootless"),
    ("seccomp_profile", fields.get "seccomp_profile"),
    ("user_namespace", fields.get "user_namespace")])).map H

/-- The checks on a binding that is a dict. -/
def validateBindingFields (H : HashFunction) (raw : Bytes) (fields : Fields) :
    Except BindingError Fields := do
  ensure (fields.hasExactKeys bindingFields = true ∧ Json.canonicalLine? (.obj fields) = some raw)
    (BindingError.rejected "broker runtime binding has unknown fields or noncanonical encoding")
  let expected ← required (.rejected "workflow artifact is not canonical JSON")
    (expectedSecurity H fields)
  match fields.get "name", fields.get "rootless", fields.get "user_namespace",
    fields.get "seccomp_profile" with
  | .str name, .bool rootless, .bool userNamespace, .str profile => do
      ensure (name = "podman" ∧ rootless = true ∧ userNamespace = true ∧
          (shaField fields "executable_sha256").isSome = true ∧
          (shaField fields "environment_sha256").isSome = true ∧ profile ≠ "" ∧
          contains "unconfined" (casefold profile) = false ∧
          shaField fields "security_evidence_sha256" = some expected)
        (BindingError.rejected "broker runtime binding is invalid")
      pure fields
  | _, _, _, _ => reject "broker runtime binding is invalid"

/-- `_validate_broker_runtime_binding` -/
def validateBrokerRuntimeBinding (H : HashFunction) (raw : Bytes) : Except BindingError Fields := do
  ensure (raw ≠ [] ∧ raw.length ≤ 16384)
    (BindingError.rejected "broker runtime binding is empty or oversized")
  let value ← loadBinding "broker runtime binding" raw
  match value with
  | .obj fields => validateBindingFields H raw fields
  | _ => reject "broker runtime binding has unknown fields or noncanonical encoding"

/-- `BrokerRuntimeBinding`, which `__post_init__` has checked. -/
structure BrokerRuntimeBinding (H : HashFunction) extends RuntimeValues where
  name_known : name = "podman" ∨ name = "docker"
  isolated : security.rootless = true ∨ security.userNamespace = true
  profile_ne_nil : security.seccompProfile ≠ ""
  profile_confined : contains "unconfined" (casefold security.seccompProfile) = false
  evidence : Broker.securityEvidenceSha256 H name security = .ok securityEvidenceSha256

/-- The values that the fields of a binding hold, each of its own type. -/
def valuesOf (fields : Fields) : Option RuntimeValues := do
  let environmentSha256 ← shaField fields "environment_sha256"
  let executableSha256 ← shaField fields "executable_sha256"
  let evidence ← shaField fields "security_evidence_sha256"
  match fields.get "name", fields.get "rootless", fields.get "user_namespace",
    fields.get "seccomp_profile" with
  | .str name, .bool rootless, .bool userNamespace, .str profile =>
      pure ⟨environmentSha256, executableSha256, name, ⟨rootless, userNamespace, profile⟩, evidence⟩
  | _, _, _, _ => none

/-- `BrokerRuntimeBinding(**fields)` -/
def BrokerRuntimeBinding.build (H : HashFunction) (fields : Fields) :
    Except BindingError (BrokerRuntimeBinding H) := do
  ensure (fields.hasExactKeys bindingFields = true)
    (BindingError.rejected "broker runtime binding is invalid")
  let values ← required (.rejected "broker runtime binding is invalid") (valuesOf fields)
  if h : (values.name = "podman" ∨ values.name = "docker") ∧
      (values.security.rootless = true ∨ values.security.userNamespace = true) ∧
      values.security.seccompProfile ≠ "" ∧
      contains "unconfined" (casefold values.security.seccompProfile) = false ∧
      Broker.securityEvidenceSha256 H values.name values.security =
        .ok values.securityEvidenceSha256 then
    pure ⟨values, h.1, h.2.1, h.2.2.1, h.2.2.2.1, h.2.2.2.2⟩
  else reject "broker runtime binding is invalid"

/-- `_runtime_binding` -/
def runtimeBinding (H : HashFunction) (raw : Bytes) (expectedSha256 : Sha256) :
    Except BindingError (BrokerRuntimeBinding H) := do
  ensure (H raw = expectedSha256) (BindingError.rejected "broker runtime binding SHA-256 differs")
  let value ← loadBinding "broker runtime binding" raw
  match value with
  | .obj fields => do
      let binding ← BrokerRuntimeBinding.build H fields
      ensure (Json.canonicalLine? binding.toJson = some raw)
        (BindingError.rejected "broker runtime binding is not canonical")
      pure binding
  | _ => reject "broker runtime binding is invalid"

end AmazonSimilarSearch.Broker
