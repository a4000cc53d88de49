import AmazonSimilarSearch.Foundation.Text
import AmazonSimilarSearch.Review.Models

/-!
# The deterministic judge

`judge` collects every reason against a candidate from its task, policy report,
TDD evidence, gates and reviews. Without a reason it asks for a human decision;
it never passes a candidate by itself.
-/
namespace AmazonSimilarSearch.Review
open Foundation

/-- What `judge` can raise. -/
inductive JudgeError where
  | overflow
  | validation (error : ValidationError)
  deriving DecidableEq, Repr

section
variable (H : HashFunction) (task : TaskSpec) (policy : PolicyReport) (reviews : List ReviewReport)
  (gates : List GateResult) (tdd : TddEvidence) (taskSha256 : Sha256)

/-! ## The test manifest -/

/-- `files_by_path.get(path)`: of two files with one path the last is kept. -/
def PolicyReport.fileByPath (path : String) : Option DiffFile :=
  policy.changedFiles.reverse.find? fun item => item.path = path

/-- The digest is fed `len(encoded).to_bytes(4, "big")` and the encoded text. -/
def updateFramed (digested : Bytes) (value : String) : Except JudgeError Bytes := do
  let encoded := encodeUtf8 value
  ensure (encoded.length < 2 ^ 32) .overflow
  pure (digested ++ (List.ofFn fun i : Fin 4 => UInt8.ofNat (encoded.length / 256 ^ (3 - i.val))) ++
    encoded)

/-- What the digest has been fed after the loop; `none` is the early return. -/
def manifestPreimage : Bytes → List String → Except JudgeError (Option Bytes)
  | digested, [] => .ok (some digested)
  | digested, path :: paths =>
      match (policy.fileByPath path).bind DiffFile.contentSha256 with
      | none => .ok none
      | some contentSha256 => do
          let digested ← updateFramed digested path
          let digested ← updateFramed digested contentSha256.text
          manifestPreimage digested paths

/-- `build_test_manifest_sha256` -/
def buildTestManifestSha256 (testPaths : List String) : Except JudgeError (Option Sha256) := do
  let preimage ← manifestPreimage policy
    (encodeUtf8 "amazon-explorer-ai-review-test-manifest-v1\x00") (sortedText testPaths)
  pure (preimage.map H)

/-! ## The reasons against a candidate -/

/-- `acceptance_by_id.get(id)` -/
def TaskSpec.acceptanceById (id : Identifier) : Option AcceptanceTest :=
  task.acceptanceTests.reverse.find? fun test => test.id = id

def policyReasons : List String :=
  (if policy.taskId ≠ task.taskId then ["policy task id does not match the task"] else []) ++
  (if policy.taskSha256 ≠ taskSha256 then
    ["policy raw task SHA-256 does not match the task input"] else []) ++
  (if policy.baseSha ≠ task.baseSha then ["policy base SHA does not match the task"] else []) ++
  (if policy.trustedHarnessSha256 ≠ task.trustedHarnessSha256 then
    ["policy trusted harness SHA-256 does not match the task"] else []) ++
  (if policy.passed = false then policy.violations.map ("policy: " ++ ·) else []) ++
  (if policy.patchSha256 = none then ["policy did not produce a patch SHA-256"] else [])

def tddBindingReasons : List String :=
  (if tdd.baseSha ≠ task.baseSha then
    ["TDD evidence base SHA does not match the task"] else []) ++
  (if tdd.taskId ≠ task.taskId then
    ["TDD evidence task id does not match the task"] else []) ++
  (if tdd.taskSha256 ≠ taskSha256 then
    ["TDD evidence raw task SHA-256 does not match the task input"] else []) ++
  (if tdd.headSha ≠ policy.headSha then
    ["TDD evidence head SHA does not match policy evidence"] else []) ++
  (if some tdd.patchSha256 ≠ policy.patchSha256 then
    ["TDD evidence patch SHA-256 does not match policy evidence"] else [])

/-- The checks against the acceptance test that the evidence names. -/
def tddAcceptanceReasons : List String :=
  match task.acceptanceById tdd.acceptanceTestId with
  | none => ["TDD evidence references an unknown acceptance test"]
  | some acceptance =>
      (if acceptance.kind ≠ .test then
        ["TDD evidence must reference an acceptance test of kind test"]
      else if tdd.command ≠ acceptance.command then
        ["TDD evidence command does not match the task"]
      else if task.schemaVersion = .v2 ∧ tdd.testPaths ≠ acceptance.testPaths then
        ["TDD evidence test paths do not match the TaskSpec"]
      else []) ++
      (if tdd.red.exitCode ∉ acceptance.expectedRedExitCodes then
        ["RED phase exit code does not match the task's expected failure"] else []) ++
      (if some tdd.red.failureFingerprintSha256 ≠ acceptance.expectedRedFingerprintSha256 then
        ["RED phase failure fingerprint does not match the task"] else []) ++
      (if tdd.green.exitCode ≠ acceptance.expectedExitCode then
        ["GREEN phase did not pass"] else [])

def tddEvidenceReasons : List String :=
  (if tdd.red.testPatchSha256 ≠ tdd.testPatchSha256 ∨
      tdd.green.testPatchSha256 ≠ tdd.testPatchSha256 then
    ["test patch changed between RED and GREEN"] else []) ++
  (if tdd.schemaVersion = .v2 then
    if tdd.redSnapshotSha256 = none ∨ tdd.greenSnapshotSha256 = none then
      ["TDD v2 requires measured RED and GREEN snapshot SHA-256 values"]
    else if tdd.redSnapshotSha256 = tdd.greenSnapshotSha256 then
      ["TDD v2 RED and GREEN snapshots must be distinct"]
    else []
  else [])

/-- `sorted(set(tdd.test_paths) - changed_paths)` -/
def missingTestPaths : List String :=
  sortedText (tdd.testPaths.dedup.filter (· ∉ policy.changedFiles.map fun item => item.path))

def testPathReasons : List String :=
  if missingTestPaths policy tdd ≠ [] then
    ["TDD test paths are absent from the candidate diff: " ++
      ", ".intercalate (missingTestPaths policy tdd)]
  else []

def manifestReasons (expected : Option Sha256) : List String :=
  match expected with
  | none => ["TDD test manifest cannot be derived from policy evidence"]
  | some expected =>
      if tdd.testManifestSha256 ≠ expected then
        ["TDD test manifest SHA-256 does not match policy evidence"] else []

def acceptanceIds : List String := (task.acceptanceTests.map fun test => test.id.text).dedup

/-- The keys of `gate_counts`, in the order of their first gate. -/
def gateIds : List String := gates.map fun gate => gate.acceptanceTestId.text

def missingGates : List String :=
  sortedText ((acceptanceIds task).filter (· ∉ gateIds gates))

def unknownGates : List String :=
  sortedText ((gateIds gates).dedup.filter (· ∉ acceptanceIds task))

def duplicateGates : List String :=
  sortedText ((gateIds gates).dedup.filter fun id => (gateIds gates).count id ≠ 1)

def gateSetReasons : List String :=
  (if missingGates task gates ≠ [] then
    ["missing acceptance gates: " ++ ", ".intercalate (missingGates task gates)] else []) ++
  (if unknownGates task gates ≠ [] then
    ["unknown acceptance gates: " ++ ", ".intercalate (unknownGates task gates)] else []) ++
  (if duplicateGates gates ≠ [] then
    ["acceptance gates must appear exactly once: " ++ ", ".intercalate (duplicateGates gates)]
  else [])

def gateReasons (gate : GateResult) : List String :=
  let id := gate.acceptanceTestId.text
  (if gate.taskId ≠ task.taskId then
    ["gate " ++ id ++ " task id does not match the task"] else []) ++
  (if gate.taskSha256 ≠ taskSha256 then
    ["gate " ++ id ++ " raw task SHA-256 does not match the task input"] else []) ++
  (if gate.headSha ≠ policy.headSha then
    ["gate " ++ id ++ " head SHA does not match policy evidence"] else []) ++
  (if some gate.patchSha256 ≠ policy.patchSha256 then
    ["gate " ++ id ++ " candidate digest does not match policy evidence"] else []) ++
  -- an unknown gate is skipped here: it was already counted among the unknown gates
  match task.acceptanceById gate.acceptanceTestId with
  | none => []
  | some acceptance =>
      (if gate.command ≠ acceptance.command then
        ["gate " ++ id ++ " command does not match the task"] else []) ++
      (if gate.expectedExitCode ≠ acceptance.expectedExitCode then
        ["gate " ++ id ++ " expected exit code does not match the task"] else []) ++
      (if gate.passed = false then ["gate failed: " ++ id] else [])

/-- `REQUIRED_ROLES` -/
def requiredRoles : List ReviewRole := [.reviewer, .adversary]

def reviewRoles : List ReviewRole := reviews.map fun review => review.role

def missingRoles : List String :=
  sortedText ((requiredRoles.filter (· ∉ reviewRoles reviews)).map ReviewRole.name)

def duplicateRoles : List String :=
  sortedText (((reviewRoles reviews).dedup.filter fun role =>
    (reviewRoles reviews).count role ≠ 1).map ReviewRole.name)

def roleReasons : List String :=
  (if missingRoles reviews ≠ [] then
    ["missing review roles: " ++ ", ".intercalate (missingRoles reviews)] else []) ++
  (if duplicateRoles reviews ≠ [] then
    ["review roles must appear exactly once: " ++ ", ".intercalate (duplicateRoles reviews)]
  else [])

/-- The prompt digest of a role. -/
def ReviewPromptDigests.expected (prompts : ReviewPromptDigests) : ReviewRole → Sha256
  | .reviewer => prompts.reviewerSha256
  | .adversary => prompts.adversarySha256

/-- `{requirement.id for requirement in task.requirements}` as texts. -/
def requirementIds : List String := task.requirements.map fun id => id.text

def findingReasons (role : ReviewRole) (finding : Finding) : List String :=
  match finding.requirementId with
  | none => []
  | some requirementId =>
      if requirementId ∉ requirementIds task then
        [role.name ++ " finding " ++ finding.id.text ++ " references unknown requirement " ++
          requirementId]
      else []

def reviewReasons (review : ReviewReport) : List String :=
  let role := review.role.name
  (if review.taskId ≠ task.taskId then [role ++ " task id does not match the task"] else []) ++
  (if review.taskSha256 ≠ taskSha256 then
    [role ++ " raw task SHA-256 does not match the task input"] else []) ++
  (if review.baseSha ≠ task.baseSha then [role ++ " base SHA does not match the task"] else []) ++
  (if review.headSha ≠ policy.headSha then
    [role ++ " head SHA does not match policy evidence"] else []) ++
  (if some review.patchSha256 ≠ policy.patchSha256 then
    [role ++ " patch SHA-256 does not match policy evidence"] else []) ++
  (if review.promptSha256 ≠ task.reviewPrompts.expected review.role then
    [role ++ " prompt SHA-256 does not match the task"] else []) ++
  (if review.decision ≠ .accept then [role ++ " decision is " ++ review.decision.name] else []) ++
  review.findings.flatMap (findingReasons task review.role)

def reviewBlockers (review : ReviewReport) : List String :=
  (review.findings.filter Finding.isBlocking).map fun finding =>
    review.role.name ++ ":" ++ finding.id.text

def distinctReasons : List String :=
  if reviews.length = 2 then
    (if (reviews.map fun review => review.reviewerId).dedup.length ≠ 2 then
      ["reviewer and adversary must use distinct reviewer ids"] else []) ++
    (if (reviews.map fun review => review.sessionId).dedup.length ≠ 2 then
      ["reviewer and adversary must use distinct session ids"] else [])
  else []

/-! ## The verdict -/

/-- Every reason, in the order in which the judge states them. -/
def judgeReasons (manifest : Option Sha256) : List String :=
  policyReasons task policy taskSha256 ++
  tddBindingReasons task policy tdd taskSha256 ++
  tddAcceptanceReasons task tdd ++
  tddEvidenceReasons tdd ++
  testPathReasons policy tdd ++
  manifestReasons tdd manifest ++
  gateSetReasons task gates ++
  gates.flatMap (gateReasons task policy taskSha256) ++
  roleReasons reviews ++
  reviews.flatMap (reviewReasons task policy taskSha256) ++
  distinctReasons reviews

def judgeBlockers : List String := reviews.flatMap reviewBlockers

/-- Whether a review leaves something open that only a person can settle. -/
def needsExplicitDecision : Bool :=
  (reviews.any fun review => !review.unverified.isEmpty) ||
    reviews.any fun review => review.findings.any fun finding => finding.severity = .medium

def judgeOutcome (reasons blockers : List String) : VerdictStatus × List String :=
  if reasons ≠ [] ∨ blockers ≠ [] then (.fail, reasons)
  else if needsExplicitDecision reviews then
    (.humanReview, ["medium findings or unverified items require an explicit human decision"])
  else
    (.humanReview, ["review provenance is self-reported until a trusted coordinator attests it"])

/-- What the verdict is built from. -/
def verdictFields (reasons : List String) : VerdictFields :=
  let blockers := (judgeBlockers reviews).eraseDups
  let outcome := judgeOutcome reviews reasons blockers
  { taskId := task.taskId
    taskSha256 := taskSha256
    trustedHarnessSha256 := task.trustedHarnessSha256
    baseSha := task.baseSha
    headSha := policy.headSha
    patchSha256 := policy.patchSha256
    status := outcome.1
    gates := gates
    blockingFindings := blockers
    reasons := outcome.2 }

/-- `judge` -/
def judge : Except JudgeError Verdict := do
  let manifest ← buildTestManifestSha256 H policy tdd.testPaths
  let reasons := (judgeReasons task policy reviews gates tdd taskSha256 manifest).eraseDups
  (Verdict.validate (verdictFields task policy reviews gates taskSha256 reasons)).mapError
    .validation

end
end AmazonSimilarSearch.Review
