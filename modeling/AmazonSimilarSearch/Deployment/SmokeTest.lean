import AmazonSimilarSearch.Broker.Commands
import AmazonSimilarSearch.BrokerLedger.Table
import AmazonSimilarSearch.Deployment.Evidence
import AmazonSimilarSearch.Foundation.Contract

/-!
# The deployment check

`run_deployment_check` inspects the four images of a release and runs each of them once, in a
container without network, under a name that it has seen to be free. The runner answers every
command in any way; an act stands for its command line.
-/
namespace AmazonSimilarSearch.Deployment
open Foundation Interaction
open Broker (contains)
open BrokerLedger (isAbsolute)
open Review (pathParts pathRoot)

/-! ## The environment of the check -/

inductive Act where
  | inspect (role : Role)
  /-- `container exists` -/
  | absence (name : String)
  | run (role : Role) (name : String)
  /-- `rm -f` -/
  | remove (name : String)
  deriving DecidableEq, Repr

/-- What a runner returns, where its attributes have the right types. -/
structure ProcessResult where
  exitCode : ℤ
  stdout : Bytes
  stderr : Bytes
  durationMs : ℤ
  stdoutSha256 : String
  stderrSha256 : String

inductive CommandFault where
  /-- the runner raises, or its result lacks an attribute -/
  | raised
  /-- an attribute has the wrong type -/
  | malformed
  deriving DecidableEq, Repr

inductive Query where
  /-- `token_hex(8)` -/
  | token (role : Role)
  | command (act : Act)
  deriving DecidableEq

def Answer : Query → Type
  | .token _ => Except Unit String
  | .command _ => Except CommandFault ProcessResult

abbrev Runner := Answering Query Answer
abbrev History := List (Exchange Query Answer)

/-- `DeploymentBackend` -/
structure DeploymentBackend where
  name : String
  executable : String
  rootless : Bool
  userNamespace : Bool
  seccompEnabled : Bool
  seccompProfile : String
  sha256 : String
  securityEvidenceSha256 : String
  deploymentEnvironmentSha256 : String
  configPathSha256 : String
  graphRootPathSha256 : String
  runRootPathSha256 : String
  seccompPathSha256 : String
  podmanInfoSha256 : String
  environment : List (String × String)

/-- The arguments of `run_deployment_check`. -/
structure Setup where
  H : HashFunction
  manifestSha256 : String
  backend : DeploymentBackend
  images : Role → String
  approvedDigests : Role → String

/-! ## The backend -/

def hasControl (text : String) : Bool := text.toList.any fun c => c = '\x00' || c = '\r' || c = '\n'

/-- `Path(os.path.abspath(path)).parts` of an absolute path -/
def abspathParts (path : String) : List String :=
  let root := pathRoot path.toList
  root ++ ((pathParts path).drop root.length).foldl
    (fun parts part => if part = ".." then parts.dropLast else parts ++ [part]) []

/-- `_canonical_absolute_path`, as the parts of the path -/
def canonicalAbsolutePath (value label : String) : Except Raised (List String) := do
  ensure (value ≠ "" ∧ hasControl value = false) (Raised.deployment (label ++ " is invalid"))
  ensure (isAbsolute value = true ∧ abspathParts value = pathParts value)
    (Raised.deployment (label ++ " is not canonical"))
  pure (pathParts value)

/-- `_explicit_storage_config_path` -/
def explicitStorageConfigPath (environment : List (String × String)) :
    Except Raised (List String) := do
  let missing : Raised := .deployment "deployment CONTAINERS_STORAGE_CONF is required"
  let configHome ← required missing (environment.lookup "XDG_CONFIG_HOME")
  let configHome ← canonicalAbsolutePath configHome "deployment XDG_CONFIG_HOME"
  let config ← required missing (environment.lookup "CONTAINERS_STORAGE_CONF")
  let config ← canonicalAbsolutePath config "deployment CONTAINERS_STORAGE_CONF"
  ensure (config = configHome ++ ["containers", "storage.conf"])
    (Raised.deployment "deployment CONTAINERS_STORAGE_CONF is not the canonical launcher config")
  pure config

def environmentNames : List String := [
  "CONTAINERS_STORAGE_CONF", "HOME", "LC_ALL", "PATH", "XDG_CONFIG_HOME", "XDG_DATA_HOME",
  "XDG_RUNTIME_DIR"]

/-- The seven variables, in order, with absolute paths. -/
def environmentValid (environment : List (String × String)) : Bool :=
  environment.map Prod.fst = environmentNames &&
    environment.lookup "LC_ALL" = some "C" && environment.lookup "PATH" = some "/bin:/usr/bin" &&
    (environment.all fun setting => setting.2 ≠ "" && !hasControl setting.2) &&
    environment.all fun setting => ["LC_ALL", "PATH"].contains setting.1 || isAbsolute setting.2

def runtimeNotRootless : Raised :=
  .deployment "deployment runtime is not rootless Podman with seccomp"

def backendDomain : Bytes := encodeUtf8 "amazon-explorer-deployment-backend-v1\x00"

/-- `canonical_backend_evidence_sha256` -/
def canonicalBackendEvidenceSha256 (H : HashFunction) (backend : DeploymentBackend) :
    Except Raised Sha256 := do
  let executable ← sha (.str backend.sha256) "deployment runtime digest"
  let security ← sha (.str backend.securityEvidenceSha256) "deployment runtime security digest"
  let environment ← sha (.str backend.deploymentEnvironmentSha256) "deployment environment digest"
  let config ← sha (.str backend.configPathSha256) "deployment Podman config digest"
  let graphRoot ← sha (.str backend.graphRootPathSha256) "deployment graph root digest"
  let runRoot ← sha (.str backend.runRootPathSha256) "deployment run root digest"
  let seccomp ← sha (.str backend.seccompPathSha256) "deployment seccomp path digest"
  let info ← sha (.str backend.podmanInfoSha256) "deployment Podman info digest"
  ensure (environmentValid backend.environment = true)
    (Raised.deployment "deployment runtime environment is invalid")
  let _ ← explicitStorageConfigPath backend.environment
  ensure (backend.name = "podman" ∧ backend.rootless = true ∧ backend.userNamespace = true ∧
    backend.seccompEnabled = true ∧ backend.seccompProfile ≠ "" ∧
    contains "unconfined" (casefold backend.seccompProfile) = false ∧
    hasControl backend.seccompProfile = false) runtimeNotRootless
  let line ← canonical (.obj [
    ("config_path_sha256", .str config.text),
    ("deployment_environment_sha256", .str environment.text),
    ("environment", .arr (backend.environment.map fun setting =>
      .arr [.str setting.1, .str setting.2])),
    ("executable_sha256", .str executable.text),
    ("graph_root_path_sha256", .str graphRoot.text),
    ("name", .str backend.name),
    ("podman_info_sha256", .str info.text),
    ("rootless", .bool backend.rootless),
    ("run_root_path_sha256", .str runRoot.text),
    ("seccomp_enabled", .bool backend.seccompEnabled),
    ("seccomp_path_sha256", .str seccomp.text),
    ("seccomp_profile", .str backend.seccompProfile),
    ("security_evidence_sha256", .str security.text),
    ("user_namespace", .bool backend.userNamespace)])
  pure (H (backendDomain ++ line))

/-! ## Names of images and containers -/

def isLowerAlphanumeric (c : Char) : Bool := ('a' ≤ c && c ≤ 'z') || ('0' ≤ c && c ≤ '9')

/-- `[a-z0-9](?:[a-z0-9.-]*[a-z0-9])?` -/
def matchesHost (host : List Char) : Bool :=
  host.head?.any isLowerAlphanumeric && host.getLast?.any isLowerAlphanumeric &&
    host.all fun c => isLowerAlphanumeric c || c = '.' || c = '-'

/-- `[1-9][0-9]{0,4}` -/
def matchesPort (port : List Char) : Bool :=
  (port.head?.any fun c => c ≠ '0') && decide (port.length ≤ 5) && port.all Char.isDigit

/-- `[a-z0-9]+(?:[._-][a-z0-9]+)*` -/
def matchesComponent (component : List Char) : Bool :=
  (splitAt '-' (component.map fun c => if c = '.' ∨ c = '_' then '-' else c)).all fun word =>
    word ≠ [] && word.all isLowerAlphanumeric

/-- The registry, with a port that exists. -/
def registryValid (registry : List Char) : Bool :=
  match splitAt ':' registry with
  | [host] => matchesHost host
  | [host, port] => matchesHost host && matchesPort port &&
      decide (Nat.ofDigitChars 10 port 0 ≤ 65535)
  | _ => false

def imageTokens : List String := ["://", "..", "//", "\\", "\x00", "\r", "\n"]

/-- `_image_digest` -/
def imageDigest (value : String) : Except Raised String := do
  let invalid : Raised := .deployment "deployment image is not a canonical registry reference"
  ensure (1 ≤ value.toList.length ∧ value.toList.length ≤ 512 ∧
    (imageTokens.any fun token => contains token value) = false) invalid
  let parts ← required invalid (pyPartition? '@' value)
  match splitAt '/' parts.1.toList with
  | registry :: components => do
      ensure (registryValid registry = true ∧ components ≠ [] ∧
        components.all matchesComponent = true ∧ matchesDigest parts.2 = true) invalid
      pure parts.2
  | [] => .error invalid

def containerStem : String := "ai-review-deploy-"

def isNameChar (c : Char) : Bool := isLowerAlphanumeric c || c = '-'

/-- `_CONTAINER_RE.fullmatch(name)` -/
def matchesContainer (name : String) : Bool :=
  let rest := name.toList.drop containerStem.toList.length
  let middle := rest.take (rest.length - 17)
  containerStem.toList.isPrefixOf name.toList && decide (18 ≤ rest.length) &&
    middle.all isNameChar && (rest.drop (rest.length - 17)).head? = some '-' &&
    (rest.drop (rest.length - 16)).all isLowerHexChar

/-! ## Commands -/

namespace Setup

variable (setup : Setup)

/-- `_smoke_argv` -/
def smokeArgv (role : Role) (name : String) : List String :=
  [setup.backend.executable, "run", "--rm", "--pull=never", "--name=" ++ name, "--network=none",
    "--read-only", "--cap-drop=ALL", "--security-opt=no-new-privileges", "--ipc=none",
    "--userns=keep-id:uid=" ++ toString role.contract.uid ++ ",gid=" ++
      toString role.contract.uid,
    "--user=" ++ role.contract.user, "--workdir=/", "--pids-limit=16", "--memory=128m",
    "--cpus=0.5", "--tmpfs=/tmp:rw,noexec,nosuid,nodev,size=4m,mode=1777", setup.images role] ++
  role.contract.smokeTail

/-- The command line of an act. -/
def argv : Act → List String
  | .inspect role => [setup.backend.executable, "image", "inspect", setup.images role]
  | .absence name => [setup.backend.executable, "container", "exists", name]
  | .run role name => setup.smokeArgv role name
  | .remove name => [setup.backend.executable, "rm", "-f", "--", name]

end Setup

def Act.maxOutputBytes : Act → ℕ
  | .inspect _ => 256000
  | _ => 64000

def Act.timeoutSeconds : Act → ℕ
  | .run _ _ => 60
  | _ => 30

def validArgument (item : String) : Bool :=
  item ≠ "" && !hasControl item && !contains "docker.sock" item && !contains "podman.sock" item

/-- What `_command` asks of a command line. -/
def validArgv (argv : List String) : Bool :=
  argv.head?.any isAbsolute && argv.all validArgument

/-- What `_command` asks of a result. -/
def ProcessResult.Within (H : HashFunction) (act : Act) (result : ProcessResult) : Prop :=
  result.stdout.length + result.stderr.length ≤ act.maxOutputBytes ∧
    (0 ≤ result.durationMs ∧ result.durationMs ≤ act.timeoutSeconds * 1000) ∧
    result.stdoutSha256 = (H result.stdout).text ∧ result.stderrSha256 = (H result.stderr).text

instance (H : HashFunction) (act : Act) (result : ProcessResult) :
    Decidable (result.Within H act) := inferInstanceAs (Decidable (_ ∧ _))

abbrev Checking := Interaction Query Answer Raised

namespace Setup

variable (setup : Setup)

/-- `_command` -/
def command (act : Act) : Checking ProcessResult := do
  ensure (validArgv (setup.argv act) = true)
    (Raised.deployment "deployment runtime command is invalid")
  match ← Interaction.query (Query.command act) with
  | .error .raised => .raise (Raised.deployment "deployment runtime command failed")
  | .error .malformed => .raise (Raised.deployment "deployment runtime result is invalid")
  | .ok result => do
      ensure (result.Within setup.H act) (Raised.deployment "deployment runtime result is invalid")
      pure result

/-! ## Inspections -/

def invalidInspection : Raised := .deployment "deployment image inspection is invalid"

/-- `_command_sequence` -/
def commandSequence : Json → Except Raised (Option (List String))
  | .null => .ok none
  | .arr items => do
      let texts ← items.mapM fun item => match item with
        | .str text => if text = "" || hasControl text then .error invalidInspection else .ok text
        | _ => .error invalidInspection
      pure (some texts)
  | _ => .error invalidInspection

def baseEnvironment : List (String × String) := [
  ("GPG_KEY", "7169605F62C751356D054A26A821E680E5FA6305"),
  ("PYTHON_SHA256", "5462f9099dfd30e238def83c71d91897d8caa5ff6ebc7a50f14d4802cdaaa79a"),
  ("PYTHON_VERSION", "3.13.7")]

def forbiddenEnvironmentNames : List String := [
  "all_proxy", "aws_ca_bundle", "curl_ca_bundle", "dyld_insert_libraries", "http_proxy",
  "https_proxy", "ld_audit", "ld_library_path", "ld_preload", "netrc", "no_proxy",
  "openai_api_key", "openai_base_url", "pythonhome", "pythoninspect", "pythonpath",
  "pythonstartup", "requests_ca_bundle", "ssl_cert_dir", "ssl_cert_file", "sslkeylogfile"]

/-- One round of the loop over `Env`. -/
def addSetting (environment : List (String × String)) (item : Json) :
    Except Raised (List (String × String)) := do
  let text ← required invalidInspection <| match item with
    | .str text => some text
    | _ => none
  ensure (hasControl text = false) invalidInspection
  let setting ← required invalidInspection (pyPartition? '=' text)
  ensure (setting.1 ≠ "" ∧ environment.lookup setting.1 = none) invalidInspection
  pure (environment ++ [setting])

/-- The two dictionaries hold the same settings. -/
def sameSettings (environment expected : List (String × String)) : Bool :=
  (environment.all fun setting => expected.lookup setting.1 = some setting.2) &&
    expected.all fun setting => environment.lookup setting.1 = some setting.2

/-- `_environment_map` -/
def environmentMap (value : Json) (contract : ImageContract) :
    Except Raised (List (String × String)) := do
  let items ← asItems invalidInspection value
  let environment ← items.foldlM addSetting []
  ensure ((environment.any fun setting =>
    forbiddenEnvironmentNames.contains (casefold setting.1)) = false) invalidInspection
  ensure (sameSettings environment (baseEnvironment ++ contract.environment) = true)
    invalidInspection
  pure environment

/-- `value == [text, …]` for a list of texts, or nothing -/
def optionalTexts (value : Option (List String)) : Json :=
  (value.map fun texts => Json.arr (texts.map .str)).getD .null

/-- `sorted(environment.items())` -/
def sortedSettings (environment : List (String × String)) : Json :=
  .arr ((environment.mergeSort fun a b => decide (a.1 ≤ b.1)).map fun setting =>
    .arr [.str setting.1, .str setting.2])

/-- `_inspect_image` -/
def inspectImage (role : Role) (raw : Bytes) : Except Raised (Sha256 × Sha256) := do
  let value ← strictJson raw "deployment image inspection" 256000
  let items ← asItems invalidInspection value
  ensure (items.length = 1) invalidInspection
  let inspected ← asObject invalidInspection (items.headD .null)
  let repoDigests ← asItems invalidInspection (inspected.get "RepoDigests")
  let config ← asObject invalidInspection (inspected.get "Config")
  ensure ((inspected.get "Digest").pyEq (.str (setup.approvedDigests role)) = true ∧
    (repoDigests.any fun item => item.pyEq (.str (setup.images role))) = true ∧
    (config.get "User").pyEq (.str role.contract.user) = true) invalidInspection
  let entrypoint ← commandSequence (config.get "Entrypoint")
  let cmd ← commandSequence (config.get "Cmd")
  ensure (entrypoint = role.contract.entrypoint ∧ cmd = role.contract.cmd) invalidInspection
  let environment ← environmentMap (config.get "Env") role.contract
  let line ← canonical (.obj [
    ("cmd", optionalTexts cmd),
    ("digest", .str (setup.approvedDigests role)),
    ("entrypoint", optionalTexts entrypoint),
    ("environment", sortedSettings environment),
    ("role", .str role.text),
    ("user", .str role.contract.user)])
  pure (setup.H raw, setup.H line)

/-! ## Smoke tests -/

/-- `container exists` answered 1, without output. -/
def ShowsAbsent (result : ProcessResult) : Prop :=
  result.exitCode = 1 ∧ result.stdout = [] ∧ result.stderr = []

instance (result : ProcessResult) : Decidable (ShowsAbsent result) :=
  inferInstanceAs (Decidable (_ ∧ _))

/-- `_assert_absent` -/
def assertAbsent (name : String) : Checking Unit := do
  let result ← setup.command (.absence name)
  ensure (ShowsAbsent result) (Raised.deployment "deployment smoke container cleanup is not proven")

/-- `container exists` answered 0 or 1, without output. -/
def ShowsState (result : ProcessResult) : Prop :=
  result.stdout = [] ∧ result.stderr = [] ∧ (result.exitCode = 0 ∨ result.exitCode = 1)

instance (result : ProcessResult) : Decidable (ShowsState result) :=
  inferInstanceAs (Decidable (_ ∧ _))

/-- `_cleanup_if_present` -/
def cleanupIfPresent (name : String) : Checking Unit := do
  let result ← setup.command (.absence name)
  ensure (ShowsState result) (Raised.deployment "deployment smoke container state is invalid")
  if result.exitCode = 0 then do
    let removed ← setup.command (.remove name)
    ensure (removed.exitCode = 0) (Raised.deployment "deployment smoke container cleanup failed")
    setup.assertAbsent name
  else setup.assertAbsent name

/-- The output that a smoke test of the image must have. -/
def validOutput (role : Role) (result : ProcessResult) : Bool :=
  match role with
  | .coordinator => (decodeUtf8 result.stdout).isSome && result.stderr = [] &&
      (encodeUtf8 "usage: ").isPrefixOf result.stdout &&
      decide (encodeUtf8 "snapshot" <:+: result.stdout) &&
      decide (encodeUtf8 "attested-judge" <:+: result.stdout)
  | .offlineRunner => result.stderr = [] && result.stdout = encodeUtf8 "Python 3.13.7\n"
  | .broker => result.stdout = [] &&
      result.stderr = encodeUtf8 "ai-review-broker: request is empty or exceeds the byte limit\n"
  | .brokerGateway => result.stdout = [] && result.stderr =
      encodeUtf8 "egress gateway error: egress gateway accepts no arguments\n"

/-- What is kept of a smoke test. -/
structure SmokeEvidence where
  argvSha256 : Sha256
  exitCode : ℤ
  stdoutSha256 : Sha256
  stderrSha256 : Sha256

/-- `ai-review-deploy-{role}-{token}` -/
def containerName (role : Role) (token : String) : String :=
  containerStem ++ role.text ++ "-" ++ token

def cleanupFailed : Raised := .deployment "deployment smoke cleanup failed"

/-- What is raised for an exception of the run. -/
def smokeFailure : Raised → Raised
  | .deployment message => .deployment message
  | .exception => .deployment "deployment smoke failed"

/-- What `_smoke_image` does after the run. -/
def concludeSmoke (role : Role) (name : String) (result : Except Raised ProcessResult) :
    Checking SmokeEvidence := do
  match ← (setup.cleanupIfPresent name).attempt with
  | .error _ => .raise cleanupFailed
  | .ok _ => do
      let result ← result.mapError smokeFailure
      ensure (result.exitCode = role.contract.smokeExitCode ∧ validOutput role result = true)
        (Raised.deployment "deployment smoke result is invalid")
      pure ⟨setup.H (encodeUtf8 ("\x00".intercalate (setup.smokeArgv role name))), result.exitCode,
        setup.H result.stdout, setup.H result.stderr⟩

/-- What `_smoke_image` does once the name is known to be free. -/
def smokeContainer (role : Role) (name : String) : Checking SmokeEvidence := do
  let result ← (setup.command (.run role name)).attempt
  setup.concludeSmoke role name result

/-- `_smoke_image` -/
def smokeImage (role : Role) : Checking SmokeEvidence := do
  match ← Interaction.query (Query.token role) with
  | .error _ => .raise Raised.exception
  | .ok token => do
      ensure (matchesContainer (containerName role token) = true)
        (Raised.deployment "deployment smoke container name is invalid")
      setup.assertAbsent (containerName role token)
      setup.smokeContainer role (containerName role token)

/-! ## The check -/

/-- One round of the loop over the images, with its entry of the evidence. -/
def checkRole (role : Role) : Checking Json := do
  let result ← setup.command (.inspect role)
  ensure (result.exitCode = 0 ∧ result.stderr = [])
    (Raised.deployment "deployment image inspection failed")
  let (inspectSha256, metadataSha256) ← setup.inspectImage role result.stdout
  let smoke ← setup.smokeImage role
  pure (.obj [
    ("digest", .str (setup.approvedDigests role)),
    ("inspect_sha256", .str inspectSha256.text),
    ("metadata_sha256", .str metadataSha256.text),
    ("role", .str role.text),
    ("smoke_argv_sha256", .str smoke.argvSha256.text),
    ("smoke_exit_code", .int smoke.exitCode),
    ("smoke_stderr_sha256", .str smoke.stderrSha256.text),
    ("smoke_stdout_sha256", .str smoke.stdoutSha256.text)])

def checkRoles : List Role → Checking (List Json)
  | [] => pure []
  | role :: roles => do
      let entry ← setup.checkRole role
      let entries ← checkRoles roles
      pure (entry :: entries)

/-- What is checked before the first command; the digest of the backend is returned. -/
def validate : Except Raised Sha256 := do
  let _ ← sha (.str setup.manifestSha256) "deployment manifest digest"
  ensure (setup.backend.name = "podman" ∧ setup.backend.rootless = true ∧
    setup.backend.userNamespace = true ∧ setup.backend.seccompEnabled = true ∧
    setup.backend.seccompProfile ≠ "" ∧
    contains "unconfined" (casefold setup.backend.seccompProfile) = false) runtimeNotRootless
  ensure (isAbsolute setup.backend.executable = true ∧
    (pathParts setup.backend.executable).getLast? = some "podman")
    (Raised.deployment "deployment runtime executable is invalid")
  let backendEvidence ← canonicalBackendEvidenceSha256 setup.H setup.backend
  Role.all.forM fun role => do
    ensure (matchesDigest (setup.approvedDigests role) = true)
      (Raised.deployment "deployment image is not manifest-pinned")
    let digest ← imageDigest (setup.images role)
    ensure (digest = setup.approvedDigests role)
      (Raised.deployment "deployment image is not manifest-pinned")
  ensure ((Role.all.map setup.approvedDigests).Nodup)
    (Raised.deployment "deployment images require distinct manifest digests")
  ensure ((setup.backend.environment.map Prod.fst).Pairwise (· < ·))
    (Raised.deployment "deployment runtime environment is not canonical")
  pure backendEvidence

/-- The evidence without its own digest. -/
def unsignedEvidence (backendEvidence : Sha256) (images : List Json) : Fields := [
  ("backend_evidence_sha256", .str backendEvidence.text),
  ("credentials_read", .bool false),
  ("external_api_called", .bool false),
  ("external_network_created", .bool false),
  ("images", .arr images),
  ("manifest_sha256", .str setup.manifestSha256),
  ("production_e2e_complete", .bool false),
  ("schema_version", .str "1.0"),
  ("status", .str "nonlive_ready")]

/-- `run_deployment_check` -/
def runDeploymentCheck : Checking Bytes := do
  let backendEvidence ← setup.validate
  let images ← setup.checkRoles Role.all
  let unsigned := setup.unsignedEvidence backendEvidence images
  let digest ← domainSha256 setup.H (.obj unsigned)
  canonicalDeploymentCheckBytes setup.H
    (.obj (unsigned.insert "deployment_evidence_sha256" (.str digest.text)))

end Setup

end AmazonSimilarSearch.Deployment
