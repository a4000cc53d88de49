import AmazonSimilarSearch.Broker.SessionCommands

/-!
# Commands of an egress session

`broker_egress_provisioner.py` owns two networks and the gateway that joins them,
and reaches them through single, bounded commands of the container runtime. The
environment answers every command in any way. An act stands for its command line.
-/
namespace AmazonSimilarSearch.EgressSession
open Foundation Interaction
open Broker (Target Labels BrokerRole Environment)

/-- What leaves a function of `broker_egress_provisioner.py` by `raise`. -/
inductive Raised where
  /-- `BrokerEgressProvisioningError` -/
  | provisioning (message : String)
  /-- `BrokerExecutionError` -/
  | execution (message : String)
  /-- an exception of another class -/
  | exception
  deriving DecidableEq, Repr

/-- The record list of a command. -/
inductive Stage where
  | provisioning | post | cleanup | absence
  deriving DecidableEq, Repr

inductive Act where
  | absence (target : Target)
  | create (target : Target)
  | connect
  | inspect (target : Target)
  | remove (target : Target)
  deriving DecidableEq, Repr

/-- What a runner returns. -/
structure ProcessResult where
  exitCode : ℤ
  stdout : Bytes
  stderr : Bytes
  durationMs : ℤ
  stdoutSha256 : String
  stderrSha256 : String

/-- A result, and the time between the two readings of the clock around the call. -/
structure Reply where
  result : ProcessResult
  observedNs : ℤ

structure ContainerBackend where
  name : String
  executable : String
  rootless : Bool
  userNamespace : Bool
  seccompEnabled : Bool
  seccompProfile : String
  sha256 : Sha256
  securityEvidenceSha256 : Sha256
  deriving DecidableEq

/-- An exception of `detect_container_backend`: one of the four classes that
`_detect_exact_backend` expects, or another one. -/
inductive DetectionError where
  | expected
  | other
  deriving DecidableEq, Repr

/-- A reading of a clock in nanoseconds, which is a C integer. -/
abbrev Nanoseconds := {time : ℤ // time.natAbs < 2 ^ 63}

inductive Query where
  | detect (afterwards : Bool)
  /-- `_base_host_environment(name)` -/
  | baseEnvironment (name : String)
  /-- `time.time_ns()` and `time.monotonic_ns()` -/
  | clock
  | command (stage : Stage) (act : Act)
  /-- the body of the `with` statement -/
  | body
  deriving DecidableEq

/-- A command or the body may raise anything. -/
def Answer : Query → Type
  | .detect _ => Except DetectionError ContainerBackend
  | .baseEnvironment _ => Except Unit Environment
  | .clock => Nanoseconds
  | .command _ _ => Except Unit Reply
  | .body => Except Unit Unit

abbrev Runtime := Answering Query Answer
abbrev History := List (Exchange Query Answer)

def maxRuntimeInspectBytes : ℕ := 64000
def maxRuntimeCommandStderrBytes : ℕ := 16000
def maxRuntimeCommandSeconds : ℕ := 30

/-! ## Command lines -/

def credentialEnv : String := "OPENAI_API_KEY"

def validArgument (value : String) : Bool :=
  value ≠ "" && value.toList.all (fun c => c ≠ '\x00' && c ≠ '\r' && c ≠ '\n') &&
    !(["--mount", "--volume", "-v"].contains value) &&
    !"--mount=".toList.isPrefixOf value.toList && !"--volume=".toList.isPrefixOf value.toList &&
    !Broker.contains credentialEnv value

/-- What `_run_runtime_command` asks of a command line. -/
def validArgv (argv : List String) : Bool :=
  match argv with
  | [] => false
  | executable :: _ => executable.toList.head? = some '/' && argv.all validArgument

/-- `IsolatedBrokerInvocation`, as far as a session reads it. Its network name is the one that its
constructor recomputes. -/
structure Invocation where
  packetSha256 : Sha256
  requestSha256 : Sha256
  role : BrokerRole
  attempt : ℕ
  containerRuntime : String
  runtimeRootless : Bool
  runtimeUserNamespace : Bool
  attempt_within : 1 ≤ attempt ∧ attempt ≤ 2
  runtime_known : containerRuntime = "podman" ∨ containerRuntime = "docker"

/-- `_PINNED_IMAGE_RE.fullmatch(image)`, with its only group. -/
def pinnedDigest (image : String) : Option String :=
  let repository := String.ofList (image.toList.takeWhile (· ≠ '@'))
  let digest := image.toList.dropWhile (· ≠ '@') |>.drop 1
  if Broker.isRepository repository = true ∧ digest.take 7 = "sha256:".toList ∧
      (digest.drop 7).length = 64 ∧ (digest.drop 7).all isLowerHexChar = true
  then some (String.ofList digest) else none

/-- The evidence of the boundary that `_provision` measures. -/
structure Boundary where
  runtimeName : String
  networkInspect : Bytes
  gatewayInspect : Bytes
  provisioning : Bytes
  deriving DecidableEq

/-- What the constructor of a session is given and computes. -/
structure Session where
  H : HashFunction
  invocation : Invocation
  gatewayImage : String
  expectedGatewayDigest : String
  /-- `validate_broker_egress_policy(allowlist_policy)`, or nothing where it raises -/
  policySha256 : Option Sha256
  expectedPolicySha256 : String
  /-- `secrets.token_bytes(32)` -/
  token : Bytes
  /-- `broker_egress_boundary_sha256`, or nothing where it raises -/
  boundarySha256 : Boundary → Option Sha256

namespace Session

variable (session : Session)

/-- `_invocation_values` -/
def values : List String :=
  [session.invocation.packetSha256.text, session.invocation.requestSha256.text,
    session.invocation.role.text, toString session.invocation.attempt]

def internalNetwork : String :=
  Broker.domainName session.H "ai-review-broker-net-" Broker.internalNetworkDomain session.values

/-- `broker_gateway_external_network_name` -/
def externalNetwork : String :=
  Broker.domainName session.H "ai-review-egress-net-" Broker.externalNetworkDomain session.values

/-- `_gateway_name` -/
def gatewayName : String :=
  "ai-review-egress-gateway-" ++ Broker.networkSuffix session.internalNetwork

/-- `_owner_sha256` -/
def owner : Sha256 :=
  session.H (Broker.ownerDomain ++ (Json.compact? (.arr (session.values.map .str))).getD [])

/-- `_new_session_sha256` -/
def sessionSha256 : Sha256 := session.H (Broker.sessionDomain ++ session.token)

def name : Target → String
  | .gateway => session.gatewayName
  | .internal => session.internalNetwork
  | .external => session.externalNetwork

def labels (target : Target) : Labels := ⟨session.owner, session.sessionSha256, target.kind⟩

/-- `_gateway_run_argv` -/
def gatewayRunArgv (backend : ContainerBackend) : List String :=
  [backend.executable, "run", "--detach", "--pull=never", "--name=" ++ session.gatewayName,
    "--network=" ++ session.externalNetwork, "--read-only", "--cap-drop=ALL",
    "--security-opt=no-new-privileges", "--ipc=none"] ++
  Broker.usernsArguments backend.name backend.rootless ++
  ["--user=65532:65532", "--workdir=/", "--pids-limit=32", "--memory=128m", "--cpus=0.5",
    "--tmpfs=/tmp:rw,noexec,nosuid,nodev,size=4m,mode=1777",
    "--env=AI_REVIEW_EGRESS_GATEWAY=1"] ++ Broker.labelArguments (session.labels .gateway) ++
  ["--entrypoint=" ++ Broker.gatewayEntrypoint, session.gatewayImage]

/-- The command line of an act. -/
def argv (backend : ContainerBackend) : Act → List String
  | .absence .gateway => Broker.absenceOfContainer backend.executable session.gatewayName
  | .absence target => Broker.absenceOfNetwork backend.executable (session.name target)
  | .create .gateway => session.gatewayRunArgv backend
  | .create .internal => Broker.networkCreate backend.executable session.internalNetwork true
      (session.labels .internal)
  | .create .external => Broker.networkCreate backend.executable session.externalNetwork false
      (session.labels .external)
  | .connect => [backend.executable, "network", "connect", "--alias", Broker.gatewayAlias,
      session.internalNetwork, session.gatewayName]
  | .inspect target => [backend.executable, target.noun, "inspect", "--", session.name target]
  | .remove .gateway => [backend.executable, "container", "rm", "-f", "--", session.gatewayName]
  | .remove target => [backend.executable, "network", "rm", "--", session.name target]

end Session

/-! ## Records -/

/-- `_canonical_json` -/
def canonicalJson (value : Json) : Except Raised Bytes :=
  required (.provisioning "broker egress evidence validation failed") (Json.compact? value)

def commandDomain : Bytes := encodeUtf8 "amazon-explorer-broker-egress-command-v1\x00"

/-- The dict that `_command_evidence_sha256` digests. -/
def commandPayload (H : HashFunction) (argv : List String) (exitCode : ℤ) (stdout stderr : Bytes)
    (durationMs : ℤ) : Json :=
  .obj [("argv", .arr (argv.map .str)), ("duration_ms", .int durationMs),
    ("exit_code", .int exitCode), ("stderr_base64", .str (b64encode stderr)),
    ("stderr_sha256", .str (H stderr).text), ("stdout_base64", .str (b64encode stdout)),
    ("stdout_sha256", .str (H stdout).text)]

/-- `_command_evidence_sha256` -/
def commandEvidenceSha256 (H : HashFunction) (argv : List String) (exitCode : ℤ)
    (stdout stderr : Bytes) (durationMs : ℤ) : Except Raised Sha256 := do
  let payload ← canonicalJson (commandPayload H argv exitCode stdout stderr durationMs)
  pure (H (commandDomain ++ payload))

/-- A record that `_measure_command_result` has made. -/
structure RuntimeCommandEvidence (H : HashFunction) where
  argv : List String
  exitCode : ℤ
  stdout : Bytes
  stderr : Bytes
  stdoutSha256 : Sha256
  stderrSha256 : Sha256
  durationMs : ℤ
  evidenceSha256 : Sha256
  argv_valid : validArgv argv = true
  stdout_measured : stdoutSha256 = H stdout
  stderr_measured : stderrSha256 = H stderr
  duration_within : 0 ≤ durationMs ∧ durationMs ≤ maxRuntimeCommandSeconds * 1000
  evidence_measured :
    commandEvidenceSha256 H argv exitCode stdout stderr durationMs = .ok evidenceSha256

def commandFailed : Raised := .provisioning "broker egress runtime command failed"

/-- The limits of `_measure_command_result`. -/
def Reply.Within (H : HashFunction) (reply : Reply) : Prop :=
  reply.result.stdout.length ≤ maxRuntimeInspectBytes ∧
    reply.result.stderr.length ≤ maxRuntimeCommandStderrBytes ∧
      (0 ≤ reply.result.durationMs ∧
        reply.result.durationMs ≤ maxRuntimeCommandSeconds * 1000) ∧
          max 0 (reply.observedNs / 1000000) ≤ maxRuntimeCommandSeconds * 1000 ∧
            reply.result.stdoutSha256 = (H reply.result.stdout).text ∧
              reply.result.stderrSha256 = (H reply.result.stderr).text

instance (H : HashFunction) (reply : Reply) : Decidable (reply.Within H) :=
  inferInstanceAs (Decidable (_ ∧ _))

/-- `measured_duration` -/
def Reply.measuredDuration (reply : Reply) : ℤ :=
  max reply.result.durationMs (max 0 (reply.observedNs / 1000000))

theorem Reply.measuredDuration_within {H : HashFunction} {reply : Reply} (h : reply.Within H) :
    0 ≤ reply.measuredDuration ∧ reply.measuredDuration ≤ maxRuntimeCommandSeconds * 1000 := by
  obtain ⟨-, -, ⟨hlow, hhigh⟩, hobserved, -⟩ := h
  exact ⟨le_max_of_le_left hlow, max_le hhigh hobserved⟩

/-- `_measure_command_result` for a command line that has been checked. -/
def measureCommandResult (H : HashFunction) (argv : List String) (hargv : validArgv argv = true)
    (reply : Reply) : Except Raised (RuntimeCommandEvidence H) :=
  if hwithin : reply.Within H then
    match hevidence : commandEvidenceSha256 H argv reply.result.exitCode reply.result.stdout
        reply.result.stderr reply.measuredDuration with
    | .error error => .error error
    | .ok evidence => .ok
        { argv := argv
          exitCode := reply.result.exitCode
          stdout := reply.result.stdout
          stderr := reply.result.stderr
          stdoutSha256 := H reply.result.stdout
          stderrSha256 := H reply.result.stderr
          durationMs := reply.measuredDuration
          evidenceSha256 := evidence
          argv_valid := hargv
          stdout_measured := rfl
          stderr_measured := rfl
          duration_within := Reply.measuredDuration_within hwithin
          evidence_measured := hevidence }
  else .error commandFailed

namespace Session

variable (session : Session)

/-- `_run_runtime_command`; nothing stands for the `BrokerEgressProvisioningError` that it raises
whatever has gone wrong. -/
def command {ε : Type} (backend : ContainerBackend) (stage : Stage) (act : Act) :
    Interaction Query Answer ε (Option (RuntimeCommandEvidence session.H)) :=
  if hargv : validArgv (session.argv backend act) = true then do
    match ← Interaction.query (Query.command stage act) with
    | .error _ => pure none
    | .ok reply =>
        match measureCommandResult session.H (session.argv backend act) hargv reply with
        | .ok record => pure (some record)
        | .error _ => pure none
  else pure none

end Session
end AmazonSimilarSearch.EgressSession
