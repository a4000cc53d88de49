import AmazonSimilarSearch.Packet.SnapshotDiff
import AmazonSimilarSearch.Review.Judge
import Mathlib.Data.Finset.Dedup

/-!
# RED snapshots

`measure_red_tdd_snapshot` of `snapshot.py` and what it calls. The RED tree of a
task is its base with the candidate's tests; it is checked on the manifests of
three verified snapshots, and its evidence carries a digest of the test patch and
one of the test manifest.
-/
namespace AmazonSimilarSearch.Snapshot
open Foundation
open Packet (SnapshotFile)
open Review (pathParts pathRoot sensitivePathReason updateFramed)

inductive SnapshotFailure where
  /-- `SnapshotError` -/
  | snapshotError (message : String)
  /-- an exception of another class -/
  | exception
  deriving DecidableEq, Repr

structure SnapshotEvidence where
  root : String
  tree : String
  manifestPath : String
  manifestSha256 : Sha256
  snapshotSha256 : Sha256
  commitSha : String
  commitTreeSha : String
  candidateUid : ℕ
  excludedPaths : List String
  deriving DecidableEq

/-- A snapshot that `verify_readonly_snapshot` has accepted, with the files of its manifest. A
manifest has at most 32 MiB, and a file at most 2,000,000 bytes. -/
structure VerifiedSnapshot where
  evidence : SnapshotEvidence
  files : List SnapshotFile
  paths_nodup : (files.map SnapshotFile.path).Nodup
  paths_bounded : ∀ file ∈ files, (encodeUtf8 file.path).length ≤ 32 * 1024 * 1024
  digests : ∀ file ∈ files, matchesLowerHex 64 file.sha256 = true
  sizes_bounded : ∀ file ∈ files, file.size ≤ 2000000

namespace VerifiedSnapshot

/-- `_snapshot_file_map(...).get(path)` -/
def get (snapshot : VerifiedSnapshot) (path : String) : Option SnapshotFile :=
  snapshot.files.find? (·.path = path)

def paths (snapshot : VerifiedSnapshot) : List String := snapshot.files.map SnapshotFile.path

end VerifiedSnapshot

structure RedTddSnapshotEvidence where
  sourceSnapshotSha256 : Sha256
  candidateSnapshotSha256 : Sha256
  testPatchSha256 : Sha256
  testManifestSha256 : Sha256
  testPaths : List String
  snapshot : SnapshotEvidence

def require (p : Prop) [Decidable p] (message : String) : Except SnapshotFailure Unit :=
  ensure p (.snapshotError message)

/-! ## Test paths -/

/-- `PurePosixPath(path).as_posix()` of a relative path -/
def asPosix (path : String) : String :=
  if pathParts path = [] then "." else "/".intercalate (pathParts path)

/-- A safe path below `tests/`. -/
def isTestPath (path : String) : Bool :=
  pathRoot path.toList = [] && asPosix path = path &&
    !((pathParts path).any fun part => ["", ".", ".."].contains part) &&
    (pathParts path).head?.map casefold = some "tests" && sensitivePathReason path = none

def checkTestPath (path : String) : Except SnapshotFailure Unit := do
  require (path ≠ "" ∧ '\x00' ∉ path.toList) "test_paths contains an invalid path"
  require (isTestPath path = true) "test_paths must contain only safe paths below tests/"

/-- `_validated_test_paths` -/
def validatedTestPaths (testPaths : List String) : Except SnapshotFailure (List String) := do
  require (testPaths ≠ [] ∧ testPaths.length ≤ 256)
    "test_paths must contain between 1 and 256 exact paths"
  forM testPaths checkTestPath
  require testPaths.Nodup "test_paths must not contain duplicates"
  pure (sortedText testPaths)

/-! ## Digests -/

/-- What `_project_test_entry` keeps of an entry. -/
structure TestEntry where
  mode : String
  sha256 : String
  size : ℕ
  deriving DecidableEq

/-- `_project_test_entry` of an entry -/
def projectTestEntry (entry : SnapshotFile) : TestEntry where
  mode := entry.mode
  sha256 := entry.sha256
  size := entry.size

/-- The JSON of an entry or of none. -/
def TestEntry.dump : Option TestEntry → Json
  | none => .null
  | some entry => .obj [("mode", .str entry.mode), ("sha256", .str entry.sha256),
      ("size", .int entry.size)]

def missing (path : String) : SnapshotFailure :=
  .snapshotError ("candidate test path is missing or deleted: " ++ path)

section

variable (H : HashFunction) (base candidate red : VerifiedSnapshot)

/-- One round of the loop of `_test_delta`. -/
def testDeltaFile (path : String) : Except SnapshotFailure Json := do
  let candidateEntry ← required (missing path) (candidate.get path)
  let before := (base.get path).map projectTestEntry
  let after := some (projectTestEntry candidateEntry)
  require (before ≠ after) "candidate must change every exact test path"
  pure (.obj [("after", TestEntry.dump after), ("before", TestEntry.dump before),
    ("path", .str path)])

/-- The digest of `_test_delta`. -/
def testDeltaSha256 (testPaths : List String) : Except SnapshotFailure Sha256 := do
  let files ← testPaths.mapM (testDeltaFile base candidate)
  let rawDelta ← required .exception
    (Json.canonicalLine? (.obj [("files", .arr files), ("schema_version", .str "1.0")]))
  pure (H rawDelta)

/-- What the digest of `_test_manifest_sha256` has been fed after the loop. -/
def testManifestPreimage : Bytes → List String → Except SnapshotFailure Bytes
  | digested, [] => pure digested
  | digested, path :: paths => do
      let entry ← required (missing path) (candidate.get path)
      let digested ← (updateFramed digested path).mapError fun _ => .exception
      let digested ← (updateFramed digested entry.sha256).mapError fun _ => .exception
      testManifestPreimage digested paths

/-- `_test_manifest_sha256` -/
def testManifestSha256 (testPaths : List String) : Except SnapshotFailure Sha256 := do
  let preimage ← testManifestPreimage candidate
    (encodeUtf8 "amazon-explorer-ai-review-test-manifest-v1\x00") testPaths
  pure (H preimage)

/-! ## The RED tree -/

/-- The paths at which the base and the RED snapshot differ. -/
def changedPaths : Finset String :=
  ((base.paths ++ red.paths).filter fun path =>
    (base.get path).map projectTestEntry ≠ (red.get path).map projectTestEntry).toFinset

def checkRedEntry (path : String) : Except SnapshotFailure Unit :=
  require ((red.get path).map projectTestEntry = (candidate.get path).map projectTestEntry)
    ("RED test entry does not match candidate content and mode: " ++ path)

/-- `_assert_exact_red_tree` -/
def assertExactRedTree (testPaths : List String) : Except SnapshotFailure Unit := do
  require (changedPaths base red = testPaths.toFinset)
    "RED snapshot must change exactly the declared test_paths"
  forM testPaths (checkRedEntry candidate red)

/-- `measure_red_tdd_snapshot`; the three snapshots are what verification measures now. -/
def measureRedTddSnapshot (baseSnapshot candidateSnapshot : SnapshotEvidence)
    (testPaths : List String) : Except SnapshotFailure RedTddSnapshotEvidence := do
  require (base.evidence = baseSnapshot)
    "RED source snapshot evidence changed before measurement"
  require (candidate.evidence = candidateSnapshot)
    "RED candidate snapshot evidence changed before measurement"
  require (red.evidence.commitSha = base.evidence.commitSha ∧
    red.evidence.commitTreeSha = base.evidence.commitTreeSha)
    "RED snapshot source commit/tree does not match the verified base"
  require (red.evidence.excludedPaths = base.evidence.excludedPaths ∧
    base.evidence.excludedPaths = candidate.evidence.excludedPaths)
    "RED snapshot protected-path exclusions do not match its sources"
  let exactTestPaths ← validatedTestPaths testPaths
  let testPatchSha256 ← testDeltaSha256 H base candidate exactTestPaths
  let testManifest ← testManifestSha256 H candidate exactTestPaths
  assertExactRedTree base candidate red exactTestPaths
  pure {
    sourceSnapshotSha256 := base.evidence.snapshotSha256
    candidateSnapshotSha256 := candidate.evidence.snapshotSha256
    testPatchSha256 := testPatchSha256
    testManifestSha256 := testManifest
    testPaths := exactTestPaths
    snapshot := red.evidence }

end
end AmazonSimilarSearch.Snapshot
