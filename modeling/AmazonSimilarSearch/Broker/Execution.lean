import AmazonSimilarSearch.Broker.Lifecycle

/-!
# Executing one prepared run

The body of `_execute_one`, its cleanup, and the evidence it returns. The local
variables that the cleanup reads are constant between two commands, so every
command of the body raises together with the values they have there.
-/
namespace AmazonSimilarSearch.Broker
open Foundation Interaction

/-! ## Questions to the host -/

/-- `time.time_ns()` or `time.monotonic_ns()` -/
def readClock : Execution ℤ := .ask .clock .done

/-- `_reserve` -/
def commitReservation : Execution Reservation := .ask .reserve Interaction.ofExcept

/-! ## Commands that must succeed -/

namespace Session

variable (session : Session)

/-- `_generic_record`, or `_run_record` for the broker. -/
def record (act : Act) : Execution CommandRecord := runRecord (session.command act)

/-- A command, with `_require_success` on its record. -/
def succeed (act : Act) : Execution CommandRecord := do
  let record ← session.record act
  ensure (record.result.exitCode = 0) (Raised.outerBroker "outer broker lifecycle command failed")
  pure record

/-- An absence command that ends with exit code 0 and prints nothing. -/
def absent (target : Target) (message : String) : Execution CommandRecord := do
  let record ← session.record (.absence target)
  ensure (record.result.exitCode = 0 ∧ record.result.stdout = []) (Raised.outerBroker message)
  pure record

end Session

/-- The records of the three inspect commands. -/
structure Inspected where
  internal : CommandRecord
  external : CommandRecord
  gateway : CommandRecord

def Inspected.records (inspected : Inspected) : List CommandRecord :=
  [inspected.internal, inspected.external, inspected.gateway]

/-- The canonical forms of the two networks and the gateway. -/
structure Boundary where
  internal : Bytes
  external : Bytes
  gateway : Bytes
  deriving DecidableEq

/-- What Python makes of the outputs it reads as JSON. -/
structure Readers where
  info : InfoReader
  inspect : InspectReader

namespace Session

variable (session : Session)

/-- The three calls of `_validate_network` and `_validate_gateway`. -/
def validateBoundary (loads : InspectReader) (inspected : Inspected) : Except Raised Boundary := do
  let internal ← validateNetwork loads inspected.internal.result.stdout session.internalNetwork true
    session.gatewayName (session.labels .internal)
  let external ← validateNetwork loads inspected.external.result.stdout session.externalNetwork
    false session.gatewayName (session.labels .external)
  let gateway ← validateGateway loads inspected.gateway.result.stdout session.gatewayName
    session.call.batch.gatewayImage.text session.internalNetwork session.externalNetwork
    (session.labels .gateway)
  pure ⟨internal, external, gateway⟩

def inspectBoundary : Execution Inspected := do
  let internal ← session.succeed (.inspect .internal)
  let external ← session.succeed (.inspect .external)
  let gateway ← session.succeed (.inspect .gateway)
  pure ⟨internal, external, gateway⟩

end Session

/-! ## The body -/

/-- The local variables that the `finally` block reads. -/
structure Progress where
  createdInternal : Bool := false
  createdExternal : Bool := false
  createdGateway : Bool := false
  brokerAttempted : Bool := false
  /-- `broker_cleanup_record is not None` -/
  brokerCleaned : Bool := false
  deriving DecidableEq, Repr

def Progress.created (progress : Progress) : Target → Bool
  | .gateway => progress.createdGateway
  | .internal => progress.createdInternal
  | .external => progress.createdExternal

/-- An exception, with the local variables where it was raised. -/
structure Stopped where
  error : Raised
  progress : Progress

/-- A part of the body during which the local variables have these values. -/
def during {α : Type} (progress : Progress) (x : Execution α) : Interaction Query Answer Stopped α :=
  x.mapError fun e => ⟨e, progress⟩

def Progress.internal : Progress := { createdInternal := true }
def Progress.external : Progress := { Progress.internal with createdExternal := true }
def Progress.gateway : Progress := { Progress.external with createdGateway := true }
def Progress.started : Progress := { Progress.gateway with brokerAttempted := true }
def Progress.cleaned : Progress := { Progress.started with brokerCleaned := true }

/-- The commands that set up the session, and the boundary that they leave. -/
structure Provisioned where
  commands : List CommandRecord
  boundary : Boundary

/-- The reservation, the broker's own command and the removal of its container. -/
structure Launched where
  reservation : Reservation
  startedUnixNs : ℤ
  broker : CommandRecord
  cleanup : CommandRecord

/-- What the body has recorded when it ends. -/
structure Body where
  provisioning : List CommandRecord
  launched : Launched
  post : Inspected

def Body.records (body : Body) : List CommandRecord :=
  body.provisioning ++ [body.launched.broker, body.launched.cleanup] ++ body.post.records

namespace Session

variable (session : Session)

def collision : String := "outer broker lifecycle name collision"

/-- The three absence commands at the start of the `try` block. -/
def preflight : Interaction Query Answer Stopped (List CommandRecord) := do
  let noGateway ← during {} (session.absent .gateway collision)
  let noInternal ← during {} (session.absent .internal collision)
  let noExternal ← during {} (session.absent .external collision)
  pure [noGateway, noInternal, noExternal]

/-- The networks and the gateway are created; each is known to the cleanup before its command. -/
def create : Interaction Query Answer Stopped (List CommandRecord) := do
  let internal ← during .internal (session.succeed (.create .internal))
  let external ← during .external (session.succeed (.create .external))
  let gateway ← during .gateway (session.succeed (.create .gateway))
  let connected ← during .gateway (session.succeed .connect)
  pure [internal, external, gateway, connected]

/-- The `try` block up to the inspection of what was created. -/
def provision (readers : Readers) : Interaction Query Answer Stopped Provisioned := do
  let absent ← session.preflight
  let created ← session.create
  let inspected ← during .gateway session.inspectBoundary
  let boundary ← during .gateway (ofExcept (session.validateBoundary readers.inspect inspected))
  pure ⟨absent ++ created ++ inspected.records, boundary⟩

/-- `credential.encode("ascii") in broker_stdout` -/
def leaksCredential (record : CommandRecord) : Bool :=
  decide (encodeUtf8 session.call.credential <:+: record.result.stdout)

/-- The `try` block from the reservation to the check of the broker's output. -/
def launch : Interaction Query Answer Stopped Launched := do
  let reservation ← during .gateway commitReservation
  let startedUnixNs ← during .gateway readClock
  let broker ← during .started (session.record .broker)
  let cleanup ← during .started (session.record .removeBroker)
  during .cleaned (ofExcept (do
    ensure (cleanup.result.exitCode = 0)
      (Raised.outerBroker "outer broker lifecycle command failed")
    ensure (broker.result.exitCode = 0) (Raised.outerBroker "outer broker process failed")
    ensure (session.leaksCredential broker = false)
      (Raised.outerBroker "outer broker output contains credential material")))
  pure ⟨reservation, startedUnixNs, broker, cleanup⟩

/-- The end of the `try` block: nothing has changed meanwhile. -/
def recheck (readers : Readers) (before : Boundary) : Interaction Query Answer Stopped Inspected := do
  let post ← during .cleaned session.inspectBoundary
  during .cleaned (ofExcept (do
    let after ← session.validateBoundary readers.inspect post
    ensure (after = before)
      (Raised.outerBroker "outer broker egress boundary changed during execution")))
  pure post

/-- The `try` block. -/
def body (readers : Readers) : Interaction Query Answer Stopped Body := do
  let provisioned ← session.provision readers
  let launched ← session.launch
  let post ← session.recheck readers provisioned.boundary
  pure ⟨provisioned.commands, launched, post⟩

/-! ## The cleanup -/

/-- The targets in the order of the cleanup, those whose creation was attempted. -/
def targets (progress : Progress) : List Target := Target.all.filter progress.created

/-- One target: inspected, and removed when it is this session's own. -/
def removeOwned (loads : InspectReader) (target : Target) : Execution (List CommandRecord) := do
  let inspected ← session.succeed (.inspect target)
  ofExcept (validateOwned loads inspected.result.stdout target.isContainer (session.name target)
    (session.labels target))
  let removed ← session.succeed (.remove target)
  pure [inspected, removed]

/-- What the cleanup has done: one entry for every command sequence that it tried. -/
structure Cleanup where
  broker : List (Except Raised CommandRecord)
  removed : List (Except Raised (List CommandRecord))
  absent : List (Except Raised CommandRecord)

/-- `broker_cleanup_record = clean_broker_container()`, unless the body has one. -/
def cleanBroker (progress : Progress) : Execution (List (Except Raised CommandRecord)) :=
  if progress.brokerAttempted && !progress.brokerCleaned then
    attemptEach (fun _ => session.succeed .removeBroker) [()]
  else pure []

/-- The `finally` block. -/
def cleanUp (readers : Readers) (progress : Progress) : Execution Cleanup := do
  let broker ← session.cleanBroker progress
  let removed ← attemptEach (session.removeOwned readers.inspect) (targets progress)
  let absent ← attemptEach (fun target => session.absent target collision) (targets progress)
  pure ⟨broker, removed, absent⟩

end Session

/-- What was returned, when everything was. -/
def allOk {α : Type} : List (Except Raised α) → Option (List α)
  | [] => some []
  | .ok a :: results => (allOk results).map (a :: ·)
  | .error _ :: _ => none

/-- `raise failure`, which is wrapped unless it is an `OuterBrokerExecutionError`. -/
def Raised.wrapped : Raised → Raised
  | .outerBroker message => .outerBroker message
  | .exception => .outerBroker "outer broker execution failed"

/-- The records of a body and a cleanup in which nothing failed. -/
structure Settled where
  body : Body
  cleanup : List CommandRecord
  absence : List CommandRecord

/-- What is raised after the `finally` block: a failed cleanup hides what the body raised. -/
def settle (outcome : Except Stopped Body) (cleanup : Session.Cleanup) : Except Raised Settled := do
  let failed := Raised.outerBroker "outer broker cleanup could not be attested"
  let _ ← required failed (allOk cleanup.broker)
  let removed ← required failed (allOk cleanup.removed)
  let absent ← required failed (allOk cleanup.absent)
  let body ← outcome.mapError fun stopped => stopped.error.wrapped
  pure ⟨body, removed.flatten, absent⟩

/-- The local variables at the end of the body. -/
def progressOf : Except Stopped Body → Progress
  | .ok _ => .cleaned
  | .error stopped => stopped.progress

/-! ## The evidence -/

/-- `_command_record`, as it stands in the evidence. -/
def CommandRecord.toJson (H : HashFunction) (record : CommandRecord) : Json :=
  .obj [("argv", .arr (record.argv.map .str)), ("duration_ms", .int record.result.durationMs),
    ("exit_code", .int record.result.exitCode),
    ("stderr_base64", .str (b64encode record.result.stderr)),
    ("stderr_sha256", .str (H record.result.stderr).text),
    ("stdout_base64", .str (b64encode record.result.stdout)),
    ("stdout_sha256", .str (H record.result.stdout).text)]

def RuntimeProbe.toJson (H : HashFunction) (probe : RuntimeProbe) : Json :=
  .obj [("command", probe.command.toJson H), ("device", .int probe.device),
    ("inode", .int probe.inode), ("runtime_sha256", .str probe.runtimeSha256.text),
    ("security_evidence_sha256", .str probe.securityEvidenceSha256.text)]

/-- The runtime did not change between the two probes. -/
def RuntimeProbe.Unchanged (before after : RuntimeProbe) : Prop :=
  before.runtimeSha256 = after.runtimeSha256 ∧
    before.securityEvidenceSha256 = after.securityEvidenceSha256 ∧
      before.device = after.device ∧ before.inode = after.inode

instance (before after : RuntimeProbe) : Decidable (before.Unchanged after) :=
  inferInstanceAs (Decidable (_ ∧ _))

/-- The evidence of one run. -/
structure RunEvidence where
  settled : Settled
  durationMs : ℤ
  environmentSha256 : Sha256
  runtimePre : RuntimeProbe
  runtimePost : RuntimeProbe
  startedUnixNs : ℤ

def RunEvidence.toJson (session : Session) (evidence : RunEvidence) : Fields :=
  let body := evidence.settled.body
  let records := fun records : List CommandRecord =>
    Json.arr (records.map (CommandRecord.toJson session.H))
  [("broker_cleanup_command", body.launched.cleanup.toJson session.H),
    ("broker_command", body.launched.broker.toJson session.H),
    ("broker_started_unix_ns", .int body.launched.startedUnixNs),
    ("cleanup_commands", records evidence.settled.cleanup),
    ("cleanup_succeeded", .bool true),
    ("descriptor_sha256", .str session.call.run.descriptorSha256.text),
    ("duration_ms", .int evidence.durationMs),
    ("environment_sha256", .str evidence.environmentSha256.text),
    ("gateway_container_name", .str session.gatewayName),
    ("gateway_external_network", .str session.externalNetwork),
    ("owner_sha256", .str session.owner.text),
    ("post_cleanup_absence_commands", records evidence.settled.absence),
    ("post_execution_inspect_commands", records body.post.records),
    ("provisioning_commands", records body.provisioning),
    ("reservation", .obj body.launched.reservation.fields),
    ("role", .str session.call.run.role.text),
    ("runtime_post", evidence.runtimePost.toJson session.H),
    ("runtime_pre", evidence.runtimePre.toJson session.H),
    ("schema_version", .str "1.0"),
    ("session_sha256", .str session.sessionSha256.text),
    ("started_unix_ns", .int evidence.startedUnixNs)]

/-- The commands of the evidence in the order in which they ran. -/
def RunEvidence.records (evidence : RunEvidence) : List CommandRecord :=
  evidence.settled.body.records ++ evidence.settled.cleanup ++ evidence.settled.absence ++
    [evidence.runtimePost.command]

/-- `(now - started) // 1_000_000`, at least 0 -/
def elapsedMs (started now : ℤ) : ℤ := max 0 ((now - started) / 1000000)

namespace Session

variable (session : Session)

/-- What follows the `finally` block: the last probe, and the evidence with its digest. -/
def conclude (readers : Readers) (startedUnixNs started : ℤ) (settled : Settled) :
    Execution (RunEvidence × Sha256) := do
  let runtimePost ← probeRuntime session.H readers.info session.call.runtimeText
    session.call.batch.runtime session.call.environment.entries
  ensure (session.call.runtimePre.Unchanged runtimePost)
    (Raised.outerBroker "outer broker runtime changed during execution")
  let now ← readClock
  let environment ← ofExcept (canonical (environmentJson session.call.environment.entries))
  let evidence : RunEvidence :=
    { settled := settled
      durationMs := elapsedMs started now
      environmentSha256 := session.H environment
      runtimePre := session.call.runtimePre
      runtimePost := runtimePost
      startedUnixNs := startedUnixNs }
  let payload ← ofExcept (canonical (.obj (evidence.toJson session)))
  pure (evidence, session.H (outerRunDomain ++ payload))

/-- `_execute_one`, from the names of its session on. -/
def execute (readers : Readers) (startedUnixNs started : ℤ) : Execution (RunEvidence × Sha256) := do
  let outcome ← (session.body readers).attempt
  let cleanup ← session.cleanUp readers (progressOf outcome)
  let settled ← ofExcept (settle outcome cleanup)
  session.conclude readers startedUnixNs started settled

end Session

end AmazonSimilarSearch.Broker
