import AmazonSimilarSearch.Attestation.Statement
import AmazonSimilarSearch.Foundation.Checked

/-!
# Contracts of a review

The strict models of `models.py`. A value carries what its validators have
checked, so a task, a report or a verdict that contradicts itself cannot be
built. `validate` is the constructor of a model that is assembled from computed
values: it raises the first complaint of its validators.
-/
namespace AmazonSimilarSearch.Review
open Foundation
open Attestation (isTaskId isSessionId)

/-- The identifiers of tasks, requirements, acceptance tests and findings. -/
abbrev Identifier := Matching isTaskId

/-- A complaint of a validator; the field that broke its own bounds has no text here. -/
inductive ValidationError where
  | field (name : String)
  | message (text : String)
  deriving DecidableEq, Repr

/-! ## The task -/

inductive AcceptanceKind where
  | test
  | quality
  deriving DecidableEq, Repr

structure AcceptanceTest where
  id : Identifier
  kind : AcceptanceKind
  command : List String
  expectedExitCode : ℕ
  expectedRedExitCodes : List ℕ
  expectedRedFingerprintSha256 : Option Sha256
  testPaths : List String
  redContract : kind = .test → expectedRedExitCodes ≠ [] ∧
    expectedRedFingerprintSha256 ≠ none ∧ expectedExitCode ∉ expectedRedExitCodes
  qualityContract : kind = .quality → expectedRedExitCodes = [] ∧
    expectedRedFingerprintSha256 = none ∧ testPaths = []

structure ReviewPromptDigests where
  reviewerSha256 : Sha256
  adversarySha256 : Sha256

structure CandidateCommitPolicy where
  message : String
  authorName : String
  authorEmail : String
  timestamp : ℤ
  timezone : String

structure DiffLimits where
  maxChangedFiles : ℕ
  maxAddedLines : ℕ
  maxFileBytes : ℕ
  maxTotalBytes : ℕ
  byteLimits : maxFileBytes ≤ maxTotalBytes

inductive TaskSchema where
  | v1
  | v2
  deriving DecidableEq, Repr

structure TaskSpec where
  schemaVersion : TaskSchema
  taskId : Identifier
  baseSha : LowerHex 40
  trustedHarnessSha256 : Sha256
  requirements : List Identifier
  reviewPrompts : ReviewPromptDigests
  candidateCommit : CandidateCommitPolicy
  acceptanceTests : List AcceptanceTest
  allowedPaths : List String
  deniedPaths : List String
  limits : DiffLimits
  acceptanceTests_ne_nil : acceptanceTests ≠ []
  requirementIds_nodup : requirements.Nodup
  acceptanceIds_nodup : (acceptanceTests.map AcceptanceTest.id).Nodup
  testPathsGiven : schemaVersion = .v2 → ∀ test ∈ acceptanceTests, test.kind = .test →
    test.testPaths ≠ []

/-! ## The policy report -/

/-- `^[A-Z?]+$` -/
def isDiffStatus (text : String) : Bool :=
  text.toList ≠ [] && text.toList.all fun c => isUpperAscii c || c == '?'

structure DiffFile where
  path : String
  status : String
  additions : Option ℕ
  deletions : Option ℕ
  binary : Bool
  contentSha256 : Option Sha256
  path_length : 1 ≤ path.toList.length ∧ path.toList.length ≤ 4096
  status_matches : isDiffStatus status = true
  deriving DecidableEq

/-- The computed values that a `DiffFile` is built from. -/
structure DiffFileFields where
  path : String
  status : String
  additions : Option ℤ
  deletions : Option ℤ
  binary : Bool
  contentSha256 : Option Sha256

/-- `Field(default=None, ge=0)` -/
def naturalField (name : String) : Option ℤ → Except ValidationError (Option ℕ)
  | none => .ok none
  | some (.ofNat n) => .ok (some n)
  | some (.negSucc _) => .error (.field name)

def DiffFile.validate (fields : DiffFileFields) : Except ValidationError DiffFile := do
  let additions ← naturalField "additions" fields.additions
  let deletions ← naturalField "deletions" fields.deletions
  if hpath : 1 ≤ fields.path.toList.length ∧ fields.path.toList.length ≤ 4096 then
    if hstatus : isDiffStatus fields.status = true then
      pure ⟨fields.path, fields.status, additions, deletions, fields.binary,
        fields.contentSha256, hpath, hstatus⟩
    else .error (.field "status")
  else .error (.field "path")

structure PolicyReportFields where
  taskId : Identifier
  taskSha256 : Sha256
  passed : Bool
  trustedHarnessSha256 : Sha256
  baseSha : LowerHex 40
  headSha : LowerHex 40
  patchSha256 : Option Sha256
  changedFiles : List DiffFile
  totalAddedLines : ℕ
  violations : List String
  deriving DecidableEq

/-- `validate_result_consistency` -/
def PolicyReportFields.validateResultConsistency (fields : PolicyReportFields) :
    Except ValidationError Unit := do
  ensure (¬ (fields.passed = true ∧ fields.violations ≠ []))
    (.message "a passing policy report cannot contain violations")
  ensure (¬ (fields.passed = true ∧ fields.patchSha256 = none))
    (.message "a passing policy report requires a patch hash")
  ensure (¬ (fields.passed = true ∧ fields.changedFiles = []))
    (.message "a passing policy report requires at least one changed file")
  ensure (¬ (fields.passed = true ∧ ∃ file ∈ fields.changedFiles, file.contentSha256 = none))
    (.message "a passing policy report requires every changed content hash")
  ensure (¬ (fields.passed = false ∧ fields.violations = []))
    (.message "a failing policy report requires at least one violation")

structure PolicyReport extends PolicyReportFields where
  consistent : toPolicyReportFields.validateResultConsistency = .ok ⟨⟩
  deriving DecidableEq

def PolicyReport.validate (fields : PolicyReportFields) : Except ValidationError PolicyReport :=
  match h : fields.validateResultConsistency with
  | .ok _ => .ok ⟨fields, h⟩
  | .error error => .error error

/-! ## Reviews, gates and TDD evidence -/

inductive Severity where
  | critical
  | high
  | medium
  | low
  deriving DecidableEq, Repr

structure Finding where
  id : Identifier
  severity : Severity
  requirementId : Option String

/-- `finding.severity in {"critical", "high"}` -/
def Finding.isBlocking (finding : Finding) : Bool :=
  finding.severity = .critical || finding.severity = .high

inductive ReviewRole where
  | reviewer
  | adversary
  deriving DecidableEq, Repr

def ReviewRole.name : ReviewRole → String
  | reviewer => "reviewer"
  | adversary => "adversary"

inductive Decision where
  | accept
  | changesRequired
  | blocked
  deriving DecidableEq, Repr

def Decision.name : Decision → String
  | accept => "accept"
  | changesRequired => "changes_required"
  | blocked => "blocked"

structure ReviewReport where
  taskId : Identifier
  taskSha256 : Sha256
  role : ReviewRole
  reviewerId : Matching isSessionId
  sessionId : Matching isSessionId
  promptSha256 : Sha256
  decision : Decision
  baseSha : LowerHex 40
  headSha : LowerHex 40
  patchSha256 : Sha256
  findings : List Finding
  unverified : List String
  accepting : decision = .accept → ∀ finding ∈ findings, finding.isBlocking = false
  notAccepting : decision ≠ .accept → findings ≠ []
  findingIds_nodup : (findings.map Finding.id).Nodup

structure GateResult where
  taskId : Identifier
  taskSha256 : Sha256
  headSha : LowerHex 40
  patchSha256 : Sha256
  acceptanceTestId : Identifier
  command : List String
  expectedExitCode : ℕ
  passed : Bool
  exitCode : ℕ
  passed_iff : passed = decide (exitCode = expectedExitCode)

structure RedEvidence where
  exitCode : ℕ
  failureFingerprintSha256 : Sha256
  testPatchSha256 : Sha256

structure GreenEvidence where
  exitCode : ℕ
  testPatchSha256 : Sha256

structure TddEvidence where
  schemaVersion : TaskSchema
  taskId : Identifier
  taskSha256 : Sha256
  baseSha : LowerHex 40
  headSha : LowerHex 40
  patchSha256 : Sha256
  acceptanceTestId : Identifier
  command : List String
  testPaths : List String
  testManifestSha256 : Sha256
  testPatchSha256 : Sha256
  redSnapshotSha256 : Option Sha256
  greenSnapshotSha256 : Option Sha256
  red : RedEvidence
  green : GreenEvidence
  testPaths_ne_nil : testPaths ≠ []
  testPaths_nodup : testPaths.Nodup
  unboundSnapshots : schemaVersion = .v1 → redSnapshotSha256 = none ∧ greenSnapshotSha256 = none
  boundSnapshots : schemaVersion = .v2 → redSnapshotSha256 ≠ none ∧ greenSnapshotSha256 ≠ none ∧
    redSnapshotSha256 ≠ greenSnapshotSha256

/-! ## The verdict -/

inductive VerdictStatus where
  | pass
  | fail
  | humanReview
  deriving DecidableEq, Repr

structure VerdictFields where
  taskId : Identifier
  taskSha256 : Sha256
  trustedHarnessSha256 : Sha256
  baseSha : LowerHex 40
  headSha : LowerHex 40
  patchSha256 : Option Sha256
  status : VerdictStatus
  gates : List GateResult
  blockingFindings : List String
  reasons : List String

/-- `validate_verdict` -/
def VerdictFields.validateVerdict (fields : VerdictFields) : Except ValidationError Unit := do
  ensure (¬ (fields.status ≠ .fail ∧ fields.gates = []))
    (.message "a non-failing verdict requires at least one deterministic gate")
  ensure (¬ (fields.status = .pass ∧ (fields.blockingFindings ≠ [] ∨ fields.reasons ≠ [])))
    (.message "a passing verdict cannot contain blockers or reasons")
  ensure (¬ (fields.status = .pass ∧ fields.patchSha256 = none))
    (.message "a passing verdict requires a patch hash")
  ensure (¬ (fields.status ≠ .fail ∧ ∃ gate ∈ fields.gates, gate.passed = false))
    (.message "a failed gate requires a failing verdict")
  ensure (¬ (fields.status ≠ .fail ∧ fields.blockingFindings ≠ []))
    (.message "blocking findings require a failing verdict")
  ensure (¬ (fields.status ≠ .pass ∧ fields.reasons = []))
    (.message "a non-passing verdict requires reasons")

structure Verdict extends VerdictFields where
  consistent : toVerdictFields.validateVerdict = .ok ⟨⟩

def Verdict.validate (fields : VerdictFields) : Except ValidationError Verdict :=
  match h : fields.validateVerdict with
  | .ok _ => .ok ⟨fields, h⟩
  | .error error => .error error

end AmazonSimilarSearch.Review
