import AmazonSimilarSearch.PhaseProtocol.Journal

/-!
# Claimed phases

`run_claimed_phase`, with `execute_phase` and `persist_phase_output`, as a
system of calls that share a ledger and a file system. A call takes one step at
a time and any other call may step in between; what its callbacks answer, where
it raises and where it crashes is up to the environment.
-/
namespace AmazonSimilarSearch.PhaseProtocol
open Foundation

/-- What a call raises by itself; its callbacks and the ledger raise what they like. -/
inductive CallError where
  | protocol (error : ProtocolError)
  | model (error : ValidationError)
  deriving DecidableEq, Repr

def maxCoordinatorBytes : ℕ := 2000000

/-- `_bounded`, on what a callback returned: `none` is not `bytes`. -/
def bounded (raw : Option Bytes) (label : String) (maximum : ℕ) : Except CallError Bytes := do
  let error := CallError.protocol ⟨s!"{label} is empty or exceeds its byte limit"⟩
  let bytes ← required error raw
  ensure (bytes ≠ [] ∧ bytes.length ≤ maximum) error
  pure bytes

inductive Callback where
  | prepare
  | offline
  | broker
  | finalize
  deriving DecidableEq, Repr

/-- `pathlib.Path`, as far as `with_name` goes. -/
structure Path where
  parent : String
  name : String
  deriving DecidableEq, Repr

def Path.withName (path : Path) (name : String) : Path := { path with name }

/-- One call of `persist_phase_output`. -/
structure Write where
  path : Path
  content : Bytes
  expectedSha256 : Sha256

section Execute

variable {sha256 : HashFunction}

/-- An action with the payload it was validated for. -/
structure Prepared (request : PhaseRequest sha256) where
  action : PhaseAction sha256
  payload : Bytes
  answers : action.requestSha256 = request.requestSha256
  digest : action.payloadSha256 = sha256 payload

/-- `PhaseExecution`, with the result that is created from it. -/
structure Execution (request : PhaseRequest sha256) where
  prepared : Prepared request
  external : Option Bytes
  verifiedOutput : Bytes
  result : PhaseResult sha256
  answers : result.phaseRequest = request
  evidence : result.externalExecutionSha256 = external.map sha256
  output : result.coordinatorOutputSha256 = sha256 verifiedOutput

/-- The callback a call enters next. -/
inductive Task (request : PhaseRequest sha256) where
  | prepare
  | execute (prepared : Prepared request)
  | finalize (prepared : Prepared request) (external : Option Bytes)

def Task.callback {request : PhaseRequest sha256} : Task request → Callback
  | prepare => .prepare
  | execute prepared => if prepared.action.externalKind = .offline then .offline else .broker
  | finalize .. => .finalize

/-- `execute_phase` after `coordinator_prepare`. -/
def afterPrepare (request : PhaseRequest sha256) (action : PhaseAction sha256)
    (payload : Option Bytes) : Except CallError (Task request) := do
  let bytes ← bounded payload "coordinator phase payload" maxCoordinatorBytes
  match h : action.validateFor request bytes with
  | .error error => .error (.protocol error)
  | .ok _ =>
      let hchecks := ensure_eq_ok_iff.mp h
      let prepared : Prepared request := ⟨action, bytes, hchecks.2.2.1, hchecks.2.2.2⟩
      if action.externalKind = .none then pure (.finalize prepared none)
      else pure (.execute prepared)

/-- `execute_phase` after `offline_execute` or `broker_execute`. -/
def afterExternal {request : PhaseRequest sha256} (prepared : Prepared request)
    (raw : Option Bytes) : Except CallError (Task request) := do
  let label := if prepared.action.externalKind = .offline then "offline execution evidence"
    else "broker execution evidence"
  let external ← bounded raw label maxExternalBytes
  pure (.finalize prepared (some external))

/-- The values `run_claimed_phase` passes to `PhaseResult.create`. -/
def resultBody (request : PhaseRequest sha256) (output : Output) (artifacts : List Artifact)
    (external : Option Bytes) (verifiedOutput : Bytes) : ResultBody :=
  { request := .obj request.fields
    outputArtifactsSha256 := output.outputArtifactsSha256
    artifacts
    candidateSnapshotSha256 := output.candidateSnapshotSha256
    reviewPacketSha256 := output.reviewPacketSha256
    externalExecutionSha256 := external.map sha256
    coordinatorOutputSha256 := sha256 verifiedOutput }

/-- `execute_phase` after `coordinator_finalize`, and the result created from it. -/
def afterFinalize {request : PhaseRequest sha256} (prepared : Prepared request)
    (external : Option Bytes) (raw : Option Bytes) : Except CallError (Execution request) := do
  let verified ← bounded raw "coordinator verified output" maxExternalBytes
  let (output, artifacts) ← (modelValidateOutputJson sha256 verified).mapError fun _ =>
    .protocol ⟨"coordinator output is not a strict phase envelope"⟩
  (outputValidateFor output request.toRequest).mapError .protocol
  ensure (Json.canonicalLine? (.obj output.fields) = some verified)
    (.protocol ⟨"coordinator output must use the canonical JSON encoding"⟩)
  match h : PhaseResult.create sha256 (resultBody request output artifacts external verified) with
  | .error error => .error (.model error)
  | .ok result =>
      let hcreated : result.phaseRequest = request ∧ result.toResultBody = _ :=
        PhaseResult.create_ok rfl h
      pure { prepared, external, verifiedOutput := verified, result, answers := hcreated.1
             evidence := by rw [hcreated.2]; rfl
             output := by rw [hcreated.2]; rfl }

/-- The files of a call, in the order they are written. -/
def Execution.writes {request : PhaseRequest sha256} (execution : Execution request)
    (output : Path) : List Write :=
  let result := execution.result
  (match execution.external with
    | none => []
    | some external => [
        ⟨output.withName "prepared-payload.json", execution.prepared.payload,
          execution.prepared.action.payloadSha256⟩,
        ⟨output.withName "external-evidence.json", external, sha256 external⟩]) ++
  [⟨output.withName "coordinator-output.json", execution.verifiedOutput,
      result.coordinatorOutputSha256⟩,
    ⟨output.withName "artifact-manifest.json", lineOf (artifactsJson result.artifacts),
      result.outputArtifactsSha256⟩,
    ⟨output, lineOf (.obj result.fields), sha256 (lineOf (.obj result.fields))⟩]

end Execute

/-! ## One call -/

/-- How far a call has come with the ledger. -/
inductive Progress where
  | unclaimed
  | claimed
  | committed
  deriving DecidableEq, Repr

/-- Where a call stands. -/
inductive Stage {sha256 : HashFunction} (request : PhaseRequest sha256) where
  | starting
  | entering (task : Task request)
  | inside (task : Task request)
  | persisting (execution : Execution request) (done : ℕ)
  | writing (execution : Execution request) (done written : ℕ)
  | committing (execution : Execution request)
  | committed (execution : Execution request)
  | returned (execution : Execution request)
  | failed (progress : Progress)

namespace Stage

variable {sha256 : HashFunction} {request : PhaseRequest sha256}

def progress : Stage request → Progress
  | starting => .unclaimed
  | entering _ | inside _ | persisting .. | writing .. | committing _ => .claimed
  | committed _ | returned _ => .committed
  | failed progress => progress

def running : Stage request → Bool
  | returned _ | failed _ => false
  | _ => true

/-- The call goes on, or fails with its request claimed. -/
def proceed {α : Type} (next : α → Stage request) : Except CallError α → Stage request
  | .ok a => next a
  | .error _ => failed .claimed

/-- The file a call is at. -/
def current? (output : Path) : Stage request → Option Write
  | persisting execution done | writing execution done _ => (execution.writes output)[done]?
  | _ => none

/-- `execute_phase` returned: the first file is next. -/
def executed (execution : Execution request) : Stage request := persisting execution 0

/-- A file is closed: the next one is due, or the commit. -/
def closed (execution : Execution request) (output : Path) (done : ℕ) : Stage request :=
  if done + 1 < (execution.writes output).length then persisting execution (done + 1)
  else committing execution

end Stage

/-- What calls share. -/
structure Shared where
  ledger : Ledger
  files : Path → Option Bytes

def Shared.put (shared : Shared) (path : Path) (content : Option Bytes) : Shared :=
  { shared with files := Function.update shared.files path content }

structure Call (sha256 : HashFunction) where
  request : PhaseRequest sha256
  output : Path
  stage : Stage request

/-- What happens to a call. An exception is cleaned up after; a crash, or an exception that
`except Exception` does not catch, is not. -/
inductive CallEvent (sha256 : HashFunction) where
  | claim (fails : Statement → Bool)
  | enter
  | prepared (action : PhaseAction sha256) (payload : Option Bytes)
  | external (raw : Option Bytes)
  | finalized (raw : Option Bytes)
  | create
  | write (count : ℕ)
  | close
  | commit (fails : Statement → Bool)
  | finish
  | raised
  | crashed

namespace Call

variable {sha256 : HashFunction}

/-- An exception in a call: a file it was writing is unlinked. -/
def cleanUp (call : Call sha256) (shared : Shared) : Shared :=
  match call.stage, call.stage.current? call.output with
  | .writing .., some write => shared.put write.path none
  | _, _ => shared

/-- What a call makes of an event; `none` when the event cannot happen to it. -/
def step (call : Call sha256) (shared : Shared) :
    CallEvent sha256 → Option (Stage call.request × Shared)
  | .claim fails =>
      match call.stage with
      | .starting =>
          match claim fails call.request shared.ledger with
          | (.ok _, ledger) => some (.entering .prepare, { shared with ledger })
          | (.error _, ledger) => some (.failed .unclaimed, { shared with ledger })
      | _ => none
  | .enter =>
      match call.stage with
      | .entering task => some (.inside task, shared)
      | _ => none
  | .prepared action payload =>
      match call.stage with
      | .inside .prepare =>
          some (.proceed .entering (afterPrepare call.request action payload), shared)
      | _ => none
  | .external raw =>
      match call.stage with
      | .inside (.execute prepared) => some (.proceed .entering (afterExternal prepared raw), shared)
      | _ => none
  | .finalized raw =>
      match call.stage with
      | .inside (.finalize prepared external) =>
          some (.proceed .executed (afterFinalize prepared external raw), shared)
      | _ => none
  | .create =>
      match call.stage, call.stage.current? call.output with
      | .persisting execution done, some write =>
          if write.content.length ≤ maxExternalBytes ∧
              sha256 write.content = write.expectedSha256 ∧ shared.files write.path = none then
            some (.writing execution done 0, shared.put write.path (some []))
          else some (.failed .claimed, shared)
      | _, _ => none
  | .write count =>
      match call.stage, call.stage.current? call.output with
      | .writing execution done written, some write =>
          if 0 < count ∧ written + count ≤ write.content.length then
            some (.writing execution done (written + count),
              shared.put write.path (some (write.content.take (written + count))))
          else none
      | _, _ => none
  | .close =>
      match call.stage, call.stage.current? call.output with
      | .writing execution done written, some write =>
          if written = write.content.length then
            some (.closed execution call.output done, shared)
          else none
      | _, _ => none
  | .commit fails =>
      match call.stage with
      | .committing execution =>
          match commit fails execution.result shared.ledger with
          | (.ok _, ledger) => some (.committed execution, { shared with ledger })
          | (.error _, ledger) => some (.failed .claimed, { shared with ledger })
      | _ => none
  | .finish =>
      match call.stage with
      | .committed execution => some (.returned execution, shared)
      | _ => none
  | .raised =>
      if call.stage.running then some (.failed call.stage.progress, call.cleanUp shared) else none
  | .crashed =>
      if call.stage.running then some (.failed call.stage.progress, shared) else none

/-- The callback an event enters. -/
def enters (call : Call sha256) : CallEvent sha256 → Option Callback
  | .enter =>
      match call.stage with
      | .entering task => some task.callback
      | _ => none
  | _ => none

end Call

/-! ## All calls -/

/-- A call entered a callback. -/
structure Entered where
  call : ℕ
  workflowId : Sha256
  sequence : ℕ
  callback : Callback

structure System (sha256 : HashFunction) where
  shared : Shared
  calls : List (Call sha256)
  entered : List Entered

/-- A call begins, or something happens to one. -/
inductive SystemOp (sha256 : HashFunction) where
  | begins (request : PhaseRequest sha256) (output : Path)
  | happens (id : ℕ) (event : CallEvent sha256)

namespace System

variable {sha256 : HashFunction}

def initial (files : Path → Option Bytes) : System sha256 := ⟨⟨[], files⟩, [], []⟩

def step (system : System sha256) : SystemOp sha256 → System sha256
  | .begins request output =>
      { system with calls := system.calls ++ [⟨request, output, .starting⟩] }
  | .happens id event =>
      match system.calls[id]? with
      | none => system
      | some call =>
          match call.step system.shared event with
          | none => system
          | some (stage, shared) =>
              { shared
                calls := system.calls.set id { call with stage }
                entered := system.entered ++ (call.enters event).toList.map fun callback =>
                  ⟨id, call.request.workflowId, call.request.phase.sequence, callback⟩ }

/-- The system after any interleaving of what happens to its calls. -/
def run (files : Path → Option Bytes) (ops : List (SystemOp sha256)) : System sha256 :=
  ops.foldl step (initial files)

end System
end AmazonSimilarSearch.PhaseProtocol
