import AmazonSimilarSearch.EgressSession.Inspect
import AmazonSimilarSearch.Foundation.Contract

/-!
# The lifecycle of an egress session

`BrokerEgressSession` as a context manager: it provisions two networks and the
gateway, hands out the boundary it has measured, and inspects and removes them
again when it is left. The object keeps its attributes when a method raises, so
an exception comes with them.
-/
namespace AmazonSimilarSearch.EgressSession
open Foundation Interaction
open Broker (Target Environment)

/-- The lifecycle evidence without the values that the session itself fixes. -/
structure LifecycleEvidence (H : HashFunction) where
  before : ContainerBackend
  after : ContainerBackend
  environmentSha256 : Sha256
  boundarySha256 : Sha256
  externalInspect : Bytes
  provisioningCommands : List (RuntimeCommandEvidence H)
  postCommands : List (RuntimeCommandEvidence H)
  cleanupCommands : List (RuntimeCommandEvidence H)
  absenceCommands : List (RuntimeCommandEvidence H)
  startedUnixNs : Nanoseconds
  durationMs : ℤ
  cleanupSucceeded : Bool

def LifecycleEvidence.records {H : HashFunction} (evidence : LifecycleEvidence H) :
    List (RuntimeCommandEvidence H) :=
  evidence.provisioningCommands ++ evidence.postCommands ++ evidence.cleanupCommands ++
    evidence.absenceCommands

/-- The attributes of a session that change. -/
structure State (H : HashFunction) where
  backend : Option ContainerBackend := none
  environment : Option Environment := none
  createdInternal : Bool := false
  createdExternal : Bool := false
  createdGateway : Bool := false
  entered : Bool := false
  closed : Bool := false
  startedUnixNs : Nanoseconds := ⟨0, by decide⟩
  startedMonotonicNs : Nanoseconds := ⟨0, by decide⟩
  provisioningCommands : List (RuntimeCommandEvidence H) := []
  postCommands : List (RuntimeCommandEvidence H) := []
  cleanupCommands : List (RuntimeCommandEvidence H) := []
  absenceCommands : List (RuntimeCommandEvidence H) := []
  /-- the boundary evidence and its digest -/
  boundary : Option (Boundary × Sha256) := none
  externalInspect : Bytes := []
  /-- the evidence and its digest -/
  lifecycleEvidence : Option (LifecycleEvidence H × Sha256) := none

def State.created {H : HashFunction} (state : State H) : Target → Bool
  | .gateway => state.createdGateway
  | .internal => state.createdInternal
  | .external => state.createdExternal

/-- Every command that is on record. -/
def State.records {H : HashFunction} (state : State H) : List (RuntimeCommandEvidence H) :=
  state.provisioningCommands ++ state.postCommands ++ state.cleanupCommands ++
    state.absenceCommands

/-- An exception, with the attributes of the session where it is raised. -/
structure Stopped (H : HashFunction) where
  error : Raised
  state : State H

def provisioningFailed : Raised := .provisioning "broker egress provisioning failed"
def cleanupFailed : Raised := .provisioning "broker egress cleanup failed"
def notReusable : Raised := .provisioning "broker egress session cannot be reused"
def notActive : Raised := .provisioning "broker egress session is not active"
def isolationFailed : Raised := .execution "broker runtime isolation validation failed"

namespace Session

variable (session : Session)

abbrev Running (α : Type) := Interaction Query Answer (Stopped session.H) α

/-- `boundary_evidence` -/
def boundaryEvidence (state : State session.H) : Except Raised (Boundary × Sha256) := do
  ensure (state.entered = true ∧ state.closed = false) notActive
  required notActive state.boundary

/-! ## The backend -/

/-- What `_detect_exact_backend` asks of the backend it has found. -/
def exactBackend (enforceInvocationMode : Bool) (backend : ContainerBackend) :
    Except Raised ContainerBackend := do
  ensure (backend.name = session.invocation.containerRuntime ∧
    (enforceInvocationMode = true → backend.rootless = session.invocation.runtimeRootless ∧
      backend.userNamespace = session.invocation.runtimeUserNamespace) ∧
    backend.seccompEnabled = true ∧ backend.seccompProfile ≠ "" ∧
    Broker.contains "unconfined" (casefold backend.seccompProfile) = false) isolationFailed
  pure backend

/-- `_detect_exact_backend`, which enforces the mode of the invocation only before the session. -/
def detectExactBackend {ε : Type} (afterwards : Bool) :
    Interaction Query Answer ε (Except Raised ContainerBackend) := do
  match ← Interaction.query (Query.detect afterwards) with
  | .error .expected => pure (.error isolationFailed)
  | .error .other => pure (.error .exception)
  | .ok backend => pure (session.exactBackend (!afterwards) backend)

/-- `_same_backend` -/
def sameBackend (before after : ContainerBackend) : Bool :=
  before.name = after.name && before.executable = after.executable &&
    before.sha256 = after.sha256 && before.rootless = after.rootless &&
    before.userNamespace = after.userNamespace && before.seccompEnabled && after.seccompEnabled &&
    before.seccompProfile = after.seccompProfile &&
    before.securityEvidenceSha256 = after.securityEvidenceSha256

/-! ## Provisioning -/

/-- A step of a method, during which the attributes have these values. -/
def during {α : Type} (state : State session.H) (x : Except Raised α) : session.Running α :=
  match x with
  | .ok value => pure value
  | .error error => .raise ⟨error, state⟩

/-- A command whose failure ends the provisioning. -/
def required (backend : ContainerBackend) (state : State session.H) (act : Act) :
    session.Running (RuntimeCommandEvidence session.H) := do
  match ← session.command backend .provisioning act with
  | none => .raise ⟨commandFailed, state⟩
  | some record => pure record

/-- The same with `_require_success`. -/
def succeed (backend : ContainerBackend) (state : State session.H) (act : Act) :
    session.Running (RuntimeCommandEvidence session.H) := do
  let record ← session.required backend state act
  session.during state (ensure (record.exitCode = 0) provisioningFailed)
  pure record

/-- What `_provision` checks before its first command. -/
def checkPolicy : Except Raised Unit := do
  let policySha256 ← Foundation.required provisioningFailed session.policySha256
  ensure (pinnedDigest session.gatewayImage = some session.expectedGatewayDigest ∧
    policySha256.text = session.expectedPolicySha256) provisioningFailed

/-- The three absence commands. -/
def preflight (backend : ContainerBackend) (state : State session.H) :
    session.Running (State session.H) := do
  let noGateway ← session.required backend state (.absence .gateway)
  let noInternal ← session.required backend state (.absence .internal)
  let noExternal ← session.required backend state (.absence .external)
  let absent := [noGateway, noInternal, noExternal]
  session.during state
    (ensure (∀ record ∈ absent, record.exitCode = 0 ∧ record.stdout = []) provisioningFailed)
  pure { state with provisioningCommands := state.provisioningCommands ++ absent }

/-- One more command that is on record when it has succeeded. -/
def recorded (backend : ContainerBackend) (state : State session.H) (act : Act) :
    session.Running (State session.H) := do
  let record ← session.succeed backend state act
  pure { state with provisioningCommands := state.provisioningCommands ++ [record] }

/-- The networks and the gateway are created; the attributes name them before their command. -/
def create (backend : ContainerBackend) (state : State session.H) :
    session.Running (State session.H) := do
  let state ← session.recorded backend { state with createdInternal := true } (.create .internal)
  let state ← session.recorded backend { state with createdExternal := true } (.create .external)
  let state ← session.recorded backend { state with createdGateway := true } (.create .gateway)
  session.recorded backend state .connect

/-- The payload of the provisioning evidence. -/
def provisioningPayload (backend : ContainerBackend) (environmentSha256 : Sha256)
    (state : State session.H) : Json :=
  .obj [("broker_internal_network", .str session.internalNetwork),
    ("commands", .arr (state.provisioningCommands.map fun record =>
      .str record.evidenceSha256.text)),
    ("environment_sha256", .str environmentSha256.text),
    ("gateway_alias", .str Broker.gatewayAlias),
    ("gateway_external_network", .str session.externalNetwork),
    ("gateway_external_network_inspect_sha256", .str (session.H state.externalInspect).text),
    ("gateway_port", .int 8443), ("owner_sha256", .str session.owner.text),
    ("runtime_executable", .str backend.executable),
    ("runtime_security_sha256", .str backend.securityEvidenceSha256.text),
    ("runtime_sha256", .str backend.sha256.text), ("schema_version", .str "1.0"),
    ("session_sha256", .str session.sessionSha256.text)]

/-- `_environment_sha256` -/
def environmentSha256 (environment : Environment) : Except Raised Sha256 := do
  let canonical ← canonicalJson (Broker.environmentJson environment)
  pure (session.H canonical)

section
variable (loads : InspectReader)

/-- `_validate_network_inspect` for a network of the session. -/
def validateNetwork (target : Target) (raw : Bytes) : Except Raised Bytes :=
  validateNetworkInspect loads raw (session.name target) (target = .internal) session.gatewayName
    (session.labels target)

/-- `_validate_gateway_inspect` for the gateway of the session. -/
def validateGateway (requireRunning : Bool) (raw : Bytes) : Except Raised Bytes :=
  validateGatewayInspect loads raw session.gatewayName session.gatewayImage
    session.internalNetwork session.externalNetwork (session.labels .gateway) requireRunning

/-- The end of `_provision`: the boundary is inspected and measured. -/
def measure (backend : ContainerBackend) (environment : Environment) (state : State session.H) :
    session.Running (State session.H) := do
  let internal ← session.succeed backend state (.inspect .internal)
  let external ← session.succeed backend state (.inspect .external)
  let gateway ← session.succeed backend state (.inspect .gateway)
  let state := { state with
    provisioningCommands := state.provisioningCommands ++ [internal, external, gateway] }
  let canonicalInternal ← session.during state
    (session.validateNetwork loads .internal internal.stdout)
  let externalInspect ← session.during state
    (session.validateNetwork loads .external external.stdout)
  let state := { state with externalInspect := externalInspect }
  let canonicalGateway ← session.during state (session.validateGateway loads true gateway.stdout)
  let environmentSha256 ← session.during state (session.environmentSha256 environment)
  let provisioning ← session.during state
    (canonicalJson (session.provisioningPayload backend environmentSha256 state))
  let boundary : Boundary := ⟨backend.name, canonicalInternal, canonicalGateway, provisioning⟩
  let boundarySha256 ← session.during state
    (Foundation.required isolationFailed (session.boundarySha256 boundary))
  pure { state with boundary := some (boundary, boundarySha256) }

/-- `_provision` -/
def provision (state : State session.H) : session.Running (State session.H) := do
  let detected ← session.detectExactBackend false
  let backend ← session.during state detected
  session.during state session.checkPolicy
  let state := { state with backend := some backend }
  let environment ← Interaction.query (Query.baseEnvironment backend.name)
  let environment ← session.during state (environment.mapError fun _ => .exception)
  let startedUnixNs ← Interaction.query Query.clock
  let startedMonotonicNs ← Interaction.query Query.clock
  let state := { state with
    environment := some environment
    startedUnixNs := startedUnixNs
    startedMonotonicNs := startedMonotonicNs }
  let state ← session.preflight backend state
  let state ← session.create backend state
  session.measure loads backend environment state

/-! ## After the body -/

/-- The comparison of the three inspections with the boundary. -/
def compareBoundary (boundary : Boundary) (externalInspect : Bytes)
    (internal external gateway : Bytes) : Except Raised Bool := do
  let canonicalInternal ← session.validateNetwork loads .internal internal
  if canonicalInternal ≠ boundary.networkInspect then pure false
  else do
    let canonicalExternal ← session.validateNetwork loads .external external
    if canonicalExternal ≠ externalInspect then pure false
    else do
      let _ ← session.validateGateway loads false gateway
      pure true

/-- The records of the three inspections, unless one of the commands raises. -/
def inspectAgain (backend : ContainerBackend) :
    session.Running (Option (List (RuntimeCommandEvidence session.H) × Bytes × Bytes × Bytes)) := do
  match ← session.command backend .post (.inspect .internal) with
  | none => pure none
  | some internal =>
      match ← session.command backend .post (.inspect .external) with
      | none => pure none
      | some external =>
          match ← session.command backend .post (.inspect .gateway) with
          | none => pure none
          | some gateway => pure (some ([internal, external, gateway],
              internal.stdout, external.stdout, gateway.stdout))

/-- `_post_execution_inspect` -/
def postExecutionInspect (backend : ContainerBackend) (state : State session.H) :
    session.Running (Bool × State session.H) := do
  match state.boundary with
  | none => pure (false, state)
  | some (boundary, _) =>
      match ← session.inspectAgain backend with
      | none => pure (false, state)
      | some (records, internal, external, gateway) =>
          let state := { state with postCommands := state.postCommands ++ records }
          if ∃ record ∈ state.postCommands, record.exitCode ≠ 0 then pure (false, state)
          else
            match session.compareBoundary loads boundary state.externalInspect internal external
                gateway with
            | .ok same => pure (same, state)
            | .error (.provisioning _) => pure (false, state)
            | .error error => .raise ⟨error, state⟩

/-! ## The cleanup -/

/-- One round of the first loop of `_cleanup`. -/
def cleanTarget (backend : ContainerBackend) (state : State session.H) (target : Target) :
    session.Running (Bool × State session.H) := do
  match ← session.command backend .cleanup (.inspect target) with
  | none => pure (false, state)
  | some inspected =>
      let state := { state with cleanupCommands := state.cleanupCommands ++ [inspected] }
      if inspected.exitCode ≠ 0 then pure (false, state)
      else
        match validateOwnedResourceInspect loads inspected.stdout target (session.name target)
            (session.labels target) with
        | .error (.provisioning _) => pure (false, state)
        | .error error => .raise ⟨error, state⟩
        | .ok _ => do
            match ← session.command backend .cleanup (.remove target) with
            | none => pure (false, state)
            | some removed => pure (removed.exitCode = 0,
                { state with cleanupCommands := state.cleanupCommands ++ [removed] })

/-- `for created, … in cleanup_targets:` -/
def cleanTargets (backend : ContainerBackend) :
    Bool → State session.H → List Target → session.Running (Bool × State session.H)
  | cleanupOk, state, [] => pure (cleanupOk, state)
  | cleanupOk, state, target :: targets =>
      if state.created target then do
        let (cleaned, state) ← session.cleanTarget loads backend state target
        cleanTargets backend (cleanupOk && cleaned) state targets
      else cleanTargets backend cleanupOk state targets

/-- `for created, argv in absence_targets:` -/
def checkAbsences (backend : ContainerBackend) :
    Bool → State session.H → List Target → session.Running (Bool × State session.H)
  | cleanupOk, state, [] => pure (cleanupOk, state)
  | cleanupOk, state, target :: targets =>
      if state.created target then do
        match ← session.command backend .absence (.absence target) with
        | none => checkAbsences backend false state targets
        | some record =>
            checkAbsences backend (cleanupOk && record.exitCode = 0 && record.stdout = [])
              { state with absenceCommands := state.absenceCommands ++ [record] } targets
      else checkAbsences backend cleanupOk state targets

end

/-! ## The evidence -/

/-- The output names the environment variable of the credential. -/
def namesCredential (record : RuntimeCommandEvidence session.H) : Bool :=
  decide (encodeUtf8 credentialEnv <:+: record.stdout) ||
    decide (encodeUtf8 credentialEnv <:+: record.stderr)

/-- `_validate_command_record` -/
def validateCommandRecord (record : RuntimeCommandEvidence session.H) : Except Raised Unit := do
  let failed : Raised := .provisioning "broker egress lifecycle validation failed"
  ensure ((record.argv.head?.any fun executable => executable.toList.head? = some '/') = true ∧
    record.stdoutSha256 = session.H record.stdout ∧
    record.stderrSha256 = session.H record.stderr ∧ session.namesCredential record = false ∧
    0 ≤ record.durationMs ∧ record.durationMs ≤ maxRuntimeCommandSeconds * 1000) failed
  let evidence ← commandEvidenceSha256 session.H record.argv record.exitCode record.stdout
    record.stderr record.durationMs
  ensure (record.evidenceSha256 = evidence) failed

/-- `_command_record_payload` -/
def recordPayload (record : RuntimeCommandEvidence session.H) : Json :=
  .obj [("argv", .arr (record.argv.map .str)), ("duration_ms", .int record.durationMs),
    ("evidence_sha256", .str record.evidenceSha256.text), ("exit_code", .int record.exitCode),
    ("stderr_sha256", .str record.stderrSha256.text),
    ("stdout_sha256", .str record.stdoutSha256.text)]

def recordPayloads (records : List (RuntimeCommandEvidence session.H)) : Json :=
  .arr (records.map session.recordPayload)

def lifecycleDomain : Bytes := encodeUtf8 "amazon-explorer-broker-egress-lifecycle-v1\x00"

/-- The dict that `_lifecycle_sha256` digests. -/
def lifecyclePayload (evidence : LifecycleEvidence session.H) : Json :=
  .obj [("boundary_evidence_sha256", .str evidence.boundarySha256.text),
    ("broker_allowlist_policy_sha256", .str session.expectedPolicySha256),
    ("broker_gateway_image_digest", .str session.expectedGatewayDigest),
    ("broker_internal_network", .str session.internalNetwork),
    ("cleanup_commands", session.recordPayloads evidence.cleanupCommands),
    ("cleanup_succeeded", .bool evidence.cleanupSucceeded),
    ("duration_ms", .int evidence.durationMs),
    ("environment_sha256", .str evidence.environmentSha256.text),
    ("gateway_container_name", .str session.gatewayName),
    ("gateway_external_network", .str session.externalNetwork),
    ("gateway_external_network_inspect_sha256", .str (session.H evidence.externalInspect).text),
    ("gateway_image", .str session.gatewayImage),
    ("post_cleanup_absence_commands", session.recordPayloads evidence.absenceCommands),
    ("post_execution_inspect_commands", session.recordPayloads evidence.postCommands),
    ("provisioning_commands", session.recordPayloads evidence.provisioningCommands),
    ("runtime_executable", .str evidence.after.executable),
    ("runtime_name", .str evidence.after.name),
    ("runtime_post_security_sha256", .str evidence.after.securityEvidenceSha256.text),
    ("runtime_post_sha256", .str evidence.after.sha256.text),
    ("runtime_pre_security_sha256", .str evidence.before.securityEvidenceSha256.text),
    ("runtime_pre_sha256", .str evidence.before.sha256.text),
    ("runtime_rootless", .bool evidence.after.rootless),
    ("runtime_seccomp_profile", .str evidence.after.seccompProfile),
    ("runtime_user_namespace", .bool evidence.after.userNamespace),
    ("schema_version", .str "1.0"), ("session_sha256", .str session.sessionSha256.text),
    ("started_unix_ns", .int evidence.startedUnixNs)]

/-- `_lifecycle_sha256` -/
def lifecycleSha256 (evidence : LifecycleEvidence session.H) : Except Raised Sha256 := do
  evidence.records.forM session.validateCommandRecord
  let payload ← canonicalJson (session.lifecyclePayload evidence)
  pure (session.H (lifecycleDomain ++ payload))

/-- The evidence is made where there is a boundary. -/
def attest (before after : ContainerBackend) (environment : Environment) (succeeded : Bool)
    (state : State session.H) : session.Running (State session.H) := do
  match state.boundary with
  | none => pure state
  | some (_, boundarySha256) => do
      let now ← Interaction.query Query.clock
      let environmentSha256 ← session.during state (session.environmentSha256 environment)
      let evidence : LifecycleEvidence session.H :=
        { before := before
          after := after
          environmentSha256 := environmentSha256
          boundarySha256 := boundarySha256
          externalInspect := state.externalInspect
          provisioningCommands := state.provisioningCommands
          postCommands := state.postCommands
          cleanupCommands := state.cleanupCommands
          absenceCommands := state.absenceCommands
          startedUnixNs := state.startedUnixNs
          durationMs := max 0 ((now.1 - state.startedMonotonicNs.1) / 1000000)
          cleanupSucceeded := succeeded }
      let sha256 ← session.during state (session.lifecycleSha256 evidence)
      pure { state with lifecycleEvidence := some (evidence, sha256) }

/-! ## Entering and leaving -/

variable (loads : InspectReader)

/-- The end of `_cleanup`: the backend is detected again, and the evidence is made. -/
def conclude (backend : ContainerBackend) (environment : Environment) (ok : Bool)
    (state : State session.H) : session.Running (Bool × State session.H) := do
  match ← session.detectExactBackend true with
  | .error .exception => .raise ⟨.exception, state⟩
  | .error _ => pure (false, state)
  | .ok after => do
      let succeeded := ok && sameBackend backend after
      let state ← session.attest backend after environment succeeded state
      pure (succeeded, state)

/-- The two loops of `_cleanup`, and its end. -/
def cleanTargetsAndConclude (backend : ContainerBackend) (environment : Environment)
    (postOk : Bool) (state : State session.H) : session.Running (Bool × State session.H) := do
  let (cleanupOk, state) ← session.cleanTargets loads backend true state Target.all
  let (cleanupOk, state) ← session.checkAbsences backend cleanupOk state Target.all
  session.conclude backend environment (postOk && cleanupOk) state

/-- `_cleanup` -/
def cleanup (requirePostInspect : Bool) (state : State session.H) :
    session.Running (Bool × State session.H) :=
  match state.backend, state.environment with
  | some backend, some environment => do
      let (postOk, state) ← if requirePostInspect
        then session.postExecutionInspect loads backend state else pure (true, state)
      session.cleanTargetsAndConclude loads backend environment postOk state
  | _, _ => pure (true, state)

/-- `_cleanup` and `self._closed = True` -/
def leave (requirePostInspect : Bool) (state : State session.H) :
    session.Running (Bool × State session.H) := do
  let (cleanupOk, state) ← session.cleanup loads requirePostInspect state
  pure (cleanupOk, { state with closed := true })

/-- `__enter__` -/
def enter (state : State session.H) : session.Running (State session.H) :=
  if state.entered || state.closed then .raise ⟨notReusable, state⟩
  else do
    match ← (session.provision loads { state with entered := true }).attempt with
    | .ok state => pure state
    | .error stopped => do
        let (cleanupOk, state) ← session.leave loads false stopped.state
        .raise ⟨if cleanupOk then provisioningFailed else cleanupFailed, state⟩

/-- `__exit__` -/
def exit (state : State session.H) : session.Running (State session.H) :=
  if state.closed then .raise ⟨notReusable, state⟩
  else do
    let (cleanupOk, state) ← session.leave loads true state
    if cleanupOk then pure state else .raise ⟨cleanupFailed, state⟩

/-- How a `with` statement ends. -/
inductive Ending where
  | returned
  | raised (error : Raised)
  /-- the exception of the body -/
  | bodyRaised

/-- `with session:` -/
def withSession : Interaction Query Answer Empty (Ending × State session.H) := do
  match ← (session.enter loads {}).attempt with
  | .error stopped => pure (.raised stopped.error, stopped.state)
  | .ok state => do
      let body ← Interaction.query Query.body
      match ← (session.exit loads state).attempt with
      | .error stopped => pure (.raised stopped.error, stopped.state)
      | .ok state => match body with
          | .ok _ => pure (.returned, state)
          | .error _ => pure (.bodyRaised, state)

end Session
end AmazonSimilarSearch.EgressSession
