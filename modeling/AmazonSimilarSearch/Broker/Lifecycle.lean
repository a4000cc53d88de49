import AmazonSimilarSearch.Broker.Inspect
import AmazonSimilarSearch.Foundation.Base64
import AmazonSimilarSearch.Foundation.Contract

/-!
# The lifecycle of a broker container

`_execute_one` of `broker_outer_executor.py`: two networks and a gateway are
created for one session, the broker runs once behind them, and everything is
inspected and removed again, whatever happened before. The values of a prepared
batch and run have passed `_parse_prepared_batch`; the callbacks that replace the
container runtime in tests are not given, as in `execute_prepared_broker_outer`.
-/
namespace AmazonSimilarSearch.Broker
open Foundation Interaction

/-! ## Prepared values -/

def isRepositoryChar (c : Char) : Bool :=
  c.isAlphanum || ['.', '_', '/', ':', '+', '-'].contains c

/-- The part of a pinned image before its digest. -/
def isRepository (text : String) : Bool :=
  text.toList.head?.any Char.isAlphanum && text.toList.all isRepositoryChar

/-- `_PINNED_IMAGE_RE` -/
structure PinnedImage where
  repository : String
  digest : Sha256
  matches_repository : isRepository repository = true

def PinnedImage.text (image : PinnedImage) : String :=
  image.repository ++ "@sha256:" ++ image.digest.text

inductive BrokerRole where
  | reviewer | adversary
  deriving DecidableEq, Repr

def BrokerRole.text : BrokerRole → String
  | .reviewer => "reviewer"
  | .adversary => "adversary"

/-- The fields of a prepared batch that an execution reads. -/
structure PreparedBrokerBatch where
  runtime : RuntimeValues
  gatewayImage : PinnedImage
  timeoutSeconds : ℕ
  maxStdinBytes : ℕ
  maxStdoutBytes : ℕ
  maxStderrBytes : ℕ
  name_known : runtime.name = "podman" ∨ runtime.name = "docker"
  timeout_within : 1 ≤ timeoutSeconds ∧ timeoutSeconds ≤ 300
  stdin_within : 2 ≤ maxStdinBytes ∧ maxStdinBytes ≤ 1000001
  stdout_within : 2 ≤ maxStdoutBytes ∧ maxStdoutBytes ≤ 1000000
  stderr_within : 1 ≤ maxStderrBytes ∧ maxStderrBytes ≤ 64000

/-- The fields of a prepared run that an execution reads. Its request digest, container name,
network name and command line are those that `_validate_run` has recomputed from them, and its
runtime is that of the batch. -/
structure PreparedBrokerRun where
  packetSha256 : Sha256
  role : BrokerRole
  attempt : ℕ
  image : PinnedImage
  /-- the standard input without its line feed -/
  request : Bytes
  descriptorSha256 : Sha256
  attempt_within : 1 ≤ attempt ∧ attempt ≤ 2
  request_within : request.length ≤ 260000

def PreparedBrokerRun.stdin (run : PreparedBrokerRun) : Bytes := run.request ++ [10]

def credentialEnv : String := "OPENAI_API_KEY"

/-- What `_base_environment` returns. -/
structure BaseEnvironment where
  entries : Environment
  keys : ∀ entry ∈ entries, entry.1 ∈ ["PATH", "LC_ALL", "XDG_RUNTIME_DIR", "DOCKER_HOST"]

/-- The arguments of one call of `_execute_one`. -/
structure BrokerCall where
  batch : PreparedBrokerBatch
  run : PreparedBrokerRun
  credential : String
  runtimeText : String
  environment : BaseEnvironment
  runtimePre : RuntimeProbe

/-! ## Names -/

/-- `len(raw).to_bytes(4, "big")` -/
def lengthField (n : ℕ) : Bytes :=
  [n / 2 ^ 24 % 256, n / 2 ^ 16 % 256, n / 2 ^ 8 % 256, n % 256].map UInt8.ofNat

def framed (value : String) : Bytes :=
  let raw := encodeUtf8 value
  lengthField raw.length ++ raw

/-- `digest.hexdigest()[:24]` -/
def shortDigest (digest : Sha256) : String := String.ofList (digest.text.toList.take 24)

/-- `_domain_name` -/
def domainName (H : HashFunction) (stem : String) (domain : Bytes) (values : List String) : String :=
  stem ++ shortDigest (H (domain ++ values.flatMap framed))

def containerNameDomain : Bytes := encodeUtf8 "amazon-explorer-isolated-broker-name-v1\x00"
def internalNetworkDomain : Bytes := encodeUtf8 "amazon-explorer-isolated-broker-network-v1\x00"
def externalNetworkDomain : Bytes := encodeUtf8 "amazon-explorer-broker-external-network-v1\x00"
def ownerDomain : Bytes := encodeUtf8 "amazon-explorer-broker-egress-owner-v1\x00"
def sessionDomain : Bytes := encodeUtf8 "amazon-explorer-broker-egress-session-v1\x00"
def outerRunDomain : Bytes := encodeUtf8 "amazon-explorer-outer-broker-run-v1\x00"

/-- `_invocation_values` -/
def invocationValues (H : HashFunction) (run : PreparedBrokerRun) : List String :=
  [run.packetSha256.text, (H run.request).text, run.role.text, toString run.attempt]

/-- `network.rsplit("-", 1)[-1][-16:]` -/
def networkSuffix (network : String) : String :=
  String.ofList ((network.toList.reverse.takeWhile (· ≠ '-')).take 16).reverse

def usernsArguments (name : String) (rootless : Bool) : List String :=
  if name = "podman" then
    if rootless then ["--userns=keep-id:uid=65532,gid=65532"] else ["--userns=auto"]
  else []

/-- `_expected_broker_argv`, which the descriptor of a run has to equal. -/
def expectedBrokerArgv (runtime : RuntimeValues) (containerName internalNetwork image : String) :
    List String :=
  [runtime.name, "run", "--pull=never", "--name=" ++ containerName,
    "--network=" ++ internalNetwork, "--read-only", "--cap-drop=ALL",
    "--security-opt=no-new-privileges", "--ipc=none"] ++
  usernsArguments runtime.name runtime.security.rootless ++
  ["--user=65532:65532", "--workdir=/", "--pids-limit=64", "--memory=512m", "--cpus=1",
    "--tmpfs=/tmp:rw,noexec,nosuid,nodev,size=16m,mode=1777", "--env=" ++ credentialEnv,
    "--env=AI_REVIEW_EXECUTE=1", "--env=AI_REVIEW_EXTERNAL_AI=1",
    "--env=PYTHONDONTWRITEBYTECODE=1", "--env=PYTHONNOUSERSITE=1",
    "--entrypoint=/opt/ai-review/bin/responses-broker", image]

def labelArguments (labels : Labels) : List String :=
  ["--label=ai-review.owner-sha256=" ++ labels.owner.text,
    "--label=ai-review.session-sha256=" ++ labels.session.text,
    "--label=ai-review.kind=" ++ labels.kind]

/-- `_network_create` -/
def networkCreate (runtime name : String) (isInternal : Bool) (labels : Labels) : List String :=
  [runtime, "network", "create", "--driver=bridge"] ++
    (if isInternal then ["--internal"] else []) ++ labelArguments labels ++ [name]

/-- `_gateway_run` -/
def gatewayRun (runtimePath : String) (runtime : RuntimeValues)
    (name externalNetwork image : String) (labels : Labels) : List String :=
  [runtimePath, "run", "--detach", "--pull=never", "--name=" ++ name,
    "--network=" ++ externalNetwork, "--read-only", "--cap-drop=ALL",
    "--security-opt=no-new-privileges", "--ipc=none"] ++
  usernsArguments runtime.name runtime.security.rootless ++
  ["--user=65532:65532", "--workdir=/", "--pids-limit=32", "--memory=128m", "--cpus=0.5",
    "--tmpfs=/tmp:rw,noexec,nosuid,nodev,size=4m,mode=1777",
    "--env=AI_REVIEW_EGRESS_GATEWAY=1"] ++ labelArguments labels ++
  ["--entrypoint=" ++ gatewayEntrypoint, image]

def absenceOfContainer (runtime name : String) : List String :=
  [runtime, "container", "ls", "--all", "--filter", "name=^" ++ name ++ "$",
    "--format=\x7b\x7b.Names\x7d\x7d"]

def absenceOfNetwork (runtime name : String) : List String :=
  [runtime, "network", "ls", "--filter", "name=^" ++ name ++ "$", "--format=\x7b\x7b.Name\x7d\x7d"]

/-! ## A session -/

/-- What a session creates: the gateway container and its two networks. -/
inductive Target where
  | gateway | internal | external
  deriving DecidableEq, Repr

def Target.all : List Target := [.gateway, .internal, .external]

theorem Target.mem_all (target : Target) : target ∈ Target.all := by
  cases target <;> decide

def Target.isContainer : Target → Bool
  | .gateway => true
  | _ => false

/-- The noun of the command line. -/
def Target.noun : Target → String
  | .gateway => "container"
  | _ => "network"

def Target.kind : Target → String
  | .gateway => "gateway"
  | .internal => "broker-internal"
  | .external => "gateway-external"

/-- The commands of a session. -/
inductive Act where
  | absence (target : Target)
  | create (target : Target)
  | connect
  | inspect (target : Target)
  | remove (target : Target)
  | broker
  | removeBroker
  | probe
  deriving DecidableEq, Repr

/-- The commands that create or start something. -/
def Act.starts : Act → Bool
  | .create _ | .connect | .broker => true
  | _ => false

/-- One call with the bytes that `os.urandom` gave it. -/
structure Session where
  H : HashFunction
  call : BrokerCall
  random : Bytes

namespace Session

variable (session : Session)

def values : List String := invocationValues session.H session.call.run

def internalNetwork : String :=
  domainName session.H "ai-review-broker-net-" internalNetworkDomain session.values

def externalNetwork : String :=
  domainName session.H "ai-review-egress-net-" externalNetworkDomain session.values

def gatewayName : String := "ai-review-egress-gateway-" ++ networkSuffix session.internalNetwork

def containerName : String :=
  domainName session.H "ai-review-broker-" containerNameDomain session.values

/-- `_sha256(_OWNER_DOMAIN + _canonical(list(values)))`; texts always have a canonical form. -/
def owner : Sha256 :=
  session.H (ownerDomain ++
    (Json.compact? (.arr (session.values.map .str))).getD [])

def sessionSha256 : Sha256 := session.H (sessionDomain ++ session.random)

def name : Target → String
  | .gateway => session.gatewayName
  | .internal => session.internalNetwork
  | .external => session.externalNetwork

def labels (target : Target) : Labels := ⟨session.owner, session.sessionSha256, target.kind⟩

/-- `_absence`, for a container and for a network -/
def absenceArgv : Target → List String
  | .gateway => absenceOfContainer session.call.runtimeText session.gatewayName
  | .internal => absenceOfNetwork session.call.runtimeText session.internalNetwork
  | .external => absenceOfNetwork session.call.runtimeText session.externalNetwork

def createArgv : Target → List String
  | .gateway => gatewayRun session.call.runtimeText session.call.batch.runtime session.gatewayName
      session.externalNetwork session.call.batch.gatewayImage.text (session.labels .gateway)
  | .internal => networkCreate session.call.runtimeText session.internalNetwork true
      (session.labels .internal)
  | .external => networkCreate session.call.runtimeText session.externalNetwork false
      (session.labels .external)

def connectArgv : List String :=
  [session.call.runtimeText, "network", "connect", "--alias", gatewayAlias,
    session.internalNetwork, session.gatewayName]

/-- `_inspect` -/
def inspectArgv (target : Target) : List String :=
  [session.call.runtimeText, target.noun, "inspect", "--", session.name target]

/-- `_remove` -/
def removeArgv (target : Target) : List String :=
  if target.isContainer then
    [session.call.runtimeText, "container", "rm", "-f", "--", session.name target]
  else [session.call.runtimeText, "network", "rm", "--", session.name target]

/-- `(runtime_text, *run["_descriptor_argv"][1:])` -/
def brokerArgv : List String :=
  session.call.runtimeText :: (expectedBrokerArgv session.call.batch.runtime session.containerName
    session.internalNetwork session.call.run.image.text).tail

def removeBrokerArgv : List String :=
  [session.call.runtimeText, "rm", "-f", "--", session.containerName]

def argv : Act → List String
  | .absence target => session.absenceArgv target
  | .create target => session.createArgv target
  | .connect => session.connectArgv
  | .inspect target => session.inspectArgv target
  | .remove target => session.removeArgv target
  | .broker => session.brokerArgv
  | .removeBroker => session.removeBrokerArgv
  | .probe => probeArgv session.call.runtimeText session.call.batch.runtime.name

/-- The command of `_generic_record` -/
def genericCommand (argv : List String) : Command where
  argv := argv
  stdin := []
  environment := session.call.environment.entries
  timeoutSeconds := 30
  maxStdinBytes := 2
  maxStdoutBytes := maxInspectBytes
  maxStderrBytes := maxCommandStderrBytes

/-- The one command that has the credential. -/
def brokerCommand : Command where
  argv := session.brokerArgv
  stdin := session.call.run.stdin
  environment := session.call.environment.entries ++ [(credentialEnv, session.call.credential)]
  timeoutSeconds := session.call.batch.timeoutSeconds
  maxStdinBytes := session.call.batch.maxStdinBytes
  maxStdoutBytes := session.call.batch.maxStdoutBytes
  maxStderrBytes := session.call.batch.maxStderrBytes

def probeCommand : Command where
  argv := session.argv .probe
  stdin := []
  environment := session.call.environment.entries
  timeoutSeconds := 10
  maxStdinBytes := 2
  maxStdoutBytes := maxInspectBytes
  maxStderrBytes := maxCommandStderrBytes

def command : Act → Command
  | .broker => session.brokerCommand
  | .probe => session.probeCommand
  | act => session.genericCommand (session.argv act)

end Session
end AmazonSimilarSearch.Broker
