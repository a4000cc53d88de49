import AmazonSimilarSearch.PhaseProtocol.Artifacts
import AmazonSimilarSearch.Release.Accepted
import AmazonSimilarSearch.Release.GlobRegex
import AmazonSimilarSearch.Snapshot.RedTdd

/-!
# The task that a release is built from

`validate_release_task`, and what the stages after it ask of the task: the paths
of the tests in the snapshot code, the names in the phase protocol, the tests of
the red phase and the globs of the policy.
-/
namespace AmazonSimilarSearch.Release
open Foundation
open Review (pathParts sensitivePathReason validateRepoPattern)
open Snapshot (asPosix isTestPath checkTestPath validatedTestPaths)

/-- What leaves `validate_release_task` by `raise`. -/
inductive Raised where
  /-- `RuntimeReleaseError` -/
  | runtimeRelease (message : String)
  /-- an exception of another class -/
  | other
  deriving DecidableEq, Repr

/-- The exceptions of the reader: that of its hook, a `UnicodeError` or `json.JSONDecodeError`, or
one of another class. -/
inductive ReadError where
  | duplicateKey (key : String)
  | malformed
  | other
  deriving DecidableEq, Repr

/-- `json.loads` of the decoded bytes with the hook `reject_duplicate_keys`. -/
abbrev TaskReader := Bytes → Except ReadError Json

def invalidTask : Raised := .runtimeRelease "release task must be a strict valid TaskSpec"

/-- `TaskSpec.model_validate` as the release calls it. -/
def readTask (payload : Json) : Except Raised TaskSpec :=
  match TaskSpec.modelValidate payload with
  | .accepted task => .ok task
  | .refused => .error invalidTask
  | .raised => .error .other

def ReadError.raised : ReadError → Raised
  | .duplicateKey key => .runtimeRelease ("TaskSpec contains a duplicate JSON key: " ++ key)
  | .malformed => invalidTask
  | .other => .other

/-- The task is of the second version, and names the harness. -/
def bindHarness (task : TaskSpec) (harnessSha256 : String) : Except Raised TaskSpec := do
  ensure (task.schemaVersion = .v2)
    (.runtimeRelease "production runtime manifest requires TaskSpec v2")
  ensure (task.trustedHarnessSha256.text = harnessSha256)
    (.runtimeRelease "TaskSpec trusted harness SHA-256 differs from the exact asset")
  pure task

/-- `validate_release_task` -/
def validateReleaseTask (reader : TaskReader) (raw : Bytes) (harnessSha256 : String) :
    Except Raised TaskSpec := do
  let payload ← (reader raw).mapError ReadError.raised
  let task ← readTask payload
  bindHarness task harnessSha256

/-! ## The stages after it -/

/-- `_test_acceptances` of `coordinator_workflow_ops.py` -/
def testAcceptances (task : TaskSpec) : Except String (List AcceptanceTest) := do
  let tests := sortedBy (fun test => test.id.text)
    (task.acceptanceTests.filter fun test => test.kind = .test)
  ensure (tests ≠ [] ∧ ∀ test ∈ tests, test.testPaths.paths ≠ [])
    "RED phase requires every TaskSpec test to declare exact test_paths"
  pure tests

/-- What stands in front of the id of an acceptance test in the names of artifacts and roles. -/
def acceptanceKinds : List String := ["red-snapshot", "gate", "tdd-red", "tdd-green"]

/-- The checks of the later stages do not fail on the task. -/
structure Usable (task : TaskSpec) : Prop where
  testPaths : ∀ test ∈ task.acceptanceTests, test.kind = .test →
    validatedTestPaths test.testPaths.paths = .ok test.testPaths.paths
  artifactNames : ∀ test ∈ task.acceptanceTests, ∀ kind ∈ acceptanceKinds,
    matchesArtifactName (kind ++ ":" ++ test.id.text) = true
  roles : ∀ test ∈ task.acceptanceTests, ∀ kind ∈ acceptanceKinds,
    Attestation.isRole (kind ++ ":" ++ test.id.text) = true
  tests : ∃ tests, testAcceptances task = .ok tests
  patterns : ∀ pattern ∈ task.allowedPaths ++ task.deniedPaths,
    (compileRegex (globRegex pattern)).isSome = true ∧
      (compileRegex (globRegex (casefold pattern))).isSome = true

/-- A release task is usable, or refused with the error of the module. -/
def Clean : Except Raised TaskSpec → Prop
  | .ok task => task.schemaVersion = .v2 ∧ Usable task
  | .error error => error ≠ .other

/-! ## When it is clean -/

/-- The path is written as `PurePosixPath` writes it, and holds no sensitive name. -/
def ExactPath (path : String) : Prop := asPosix path = path ∧ sensitivePathReason path = none

/-- Up to the first path that is not below `tests/`, one has no parts at all. -/
structure ReachesRoot (texts : List String) : Prop where
  length_le : texts.length ≤ 100
  patterns : ∀ path ∈ texts, validateRepoPattern path = .ok path
  nodup : texts.Nodup
  reached : ∃ before path after, texts = before ++ path :: after ∧
    (∀ other ∈ before, (pathParts other).head?.map casefold = some "tests") ∧ pathParts path = []

/-- One of the acceptance tests is a test. -/
def HasTest (payload : Json) : Prop :=
  ∃ fields tests test, payload = .obj fields ∧
    fields.lookup "acceptance_tests" = some (.arr tests) ∧ .obj test ∈ tests ∧
    test.lookup "kind" = some (.str "test")

/-- The value is a valid task of the second version for this harness. -/
def IsReleaseTask (payload : Json) (harnessSha256 : String) : Prop :=
  ∃ task, TaskSpec.modelValidate payload = .accepted task ∧ task.schemaVersion = .v2 ∧
    task.trustedHarnessSha256.text = harnessSha256

/-- What is read is no reason for another exception, and a valid task has a test, and exact paths
only. -/
structure ReadsClean (payload : Json) (harnessSha256 : String) : Prop where
  rooted : ∀ texts, ListsTestPaths payload texts → ¬ ReachesRoot texts
  hasTest : IsReleaseTask payload harnessSha256 → HasTest payload
  exact : IsReleaseTask payload harnessSha256 →
    ∀ texts, ListsTestPaths payload texts → ∀ path ∈ texts, ExactPath path

end AmazonSimilarSearch.Release
