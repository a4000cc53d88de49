import AmazonSimilarSearch.Foundation.Digest
import AmazonSimilarSearch.Policy.Worktree
import Mathlib.Data.Prod.Lex

/-!
# Inspection of a candidate diff

`inspect_git_diff` reads the metadata of the commit and of the diff first. Only
when nothing is wrong with these does it look for renames, check the worktree,
and read the blobs one after the other; the first file over a limit ends the
reading. Whatever it objects to is a violation, and a report passes without any.
-/
namespace AmazonSimilarSearch.Policy
open Foundation Review

/-- `values[key] = value` of a dict, which keeps its order. -/
def dictInsert {α : Type} (key : String) (value : α) : List (String × α) → List (String × α)
  | [] => [(key, value)]
  | (k, v) :: entries =>
      if k = key then (key, value) :: entries else (k, v) :: dictInsert key value entries

/-! ## Metadata of the diff -/

structure GitFileMetadata where
  status : String
  oldMode : String
  newMode : String
  oldBlob : String
  newBlob : String
  deriving DecidableEq, Repr

abbrev DiffMetadata := List (String × GitFileMetadata)

def rawDiffArguments (baseSha headSha : LowerHex 40) : List String :=
  ["diff", "--no-ext-diff", "--no-textconv", "--no-renames", "--ignore-submodules=none",
    "--abbrev=40", "--raw", "-z", baseSha.text, headSha.text, "--"]

/-- The fields of the raw diff, a header and a path at a time. -/
def collectMetadata (metadata : DiffMetadata) : List String → Except InspectionError DiffMetadata
  | header :: path :: fields => do
      let parts ← required (.inspection "unexpected git raw diff header") <|
        match pyWords header with
        | [oldMode, newMode, oldBlob, newBlob, status] =>
            if oldMode.toList.head? = some ':' then
              some (GitFileMetadata.mk status (.ofList oldMode.toList.tail) newMode oldBlob newBlob)
            else none
        | _ => none
      collectMetadata (dictInsert path parts metadata) fields
  | _ => .ok metadata

/-- `_diff_metadata`, of what the command has put out -/
def parseDiffMetadata (raw : Bytes) : Except InspectionError DiffMetadata := do
  let text ← required (.inspection "Git paths must be valid UTF-8") (decodeUtf8 raw)
  let fields := populatedFields '\x00' text
  require (fields.length % 2 = 0) "unexpected git raw diff output"
  collectMetadata [] fields

def diffMetadata (baseSha headSha : LowerHex 40) : Inspection DiffMetadata := do
  let raw ← git (rawDiffArguments baseSha headSha)
  .ofExcept (parseDiffMetadata raw)

/-- The object ids of the base tree, each with one of its paths. -/
abbrev BaseBlobs := List (String × String)

def baseTreeArguments (baseSha : LowerHex 40) : List String :=
  ["ls-tree", "-r", "-z", baseSha.text, "--"]

/-- `_base_blob_paths`, of what the command has put out -/
def parseBaseBlobs (raw : Bytes) : Except InspectionError BaseBlobs := do
  let text ← required (.inspection "Git paths must be valid UTF-8") (decodeUtf8 raw)
  (populatedFields '\x00' text).mapM fun field => do
    let unexpected := InspectionError.inspection "unexpected git ls-tree output"
    let (header, path) ← required unexpected (pyPartition? '\t' field)
    let (_, rest) ← required unexpected (pyPartition? ' ' header)
    let (_, objectId) ← required unexpected (pyPartition? ' ' rest)
    pure (objectId, path)

def baseBlobPaths (baseSha : LowerHex 40) : Inspection BaseBlobs := do
  let raw ← git (baseTreeArguments baseSha)
  .ofExcept (parseBaseBlobs raw)

/-- `deleted_by_blob.get(blob)` -/
def deletedByBlob (metadata : DiffMetadata) (blob : String) : Option String :=
  (metadata.reverse.find? fun entry => entry.2.status = "D" ∧ entry.2.oldBlob = blob).map Prod.fst

/-- A rename `R` or a copy `C`, with the old and the new path. -/
abbrev DetectedOperation := String × String × String

/-- What `_detected_renames_and_copies` says of one file. -/
def detectedOperation (metadata : DiffMetadata) (baseBlobs : BaseBlobs)
    (entry : String × GitFileMetadata) : Option DetectedOperation :=
  if entry.2.status ≠ "A" then none
  else match deletedByBlob metadata entry.2.newBlob with
    | some oldPath => some ("R", oldPath, entry.1)
    | none =>
        let sourcePaths := (baseBlobs.filter fun blob =>
          blob.1 = entry.2.newBlob ∧ blob.2 ≠ entry.1).map Prod.snd
        match sortedText sourcePaths with
        | [] => none
        | oldPath :: _ => some ("C", oldPath, entry.1)

/-- `_detected_renames_and_copies` -/
def detectedRenamesAndCopies (metadata : DiffMetadata) (baseBlobs : BaseBlobs) :
    List DetectedOperation :=
  metadata.filterMap (detectedOperation metadata baseBlobs)

def operationViolation (operation : DetectedOperation) : String :=
  "Git " ++ (if operation.1.toList.head? = some 'R' then "rename" else "copy") ++
    " is not supported: " ++ operation.2.1 ++ " -> " ++ operation.2.2

/-- `sorted(set(operations))` -/
def sortedOperations (operations : List DetectedOperation) : List DetectedOperation :=
  sortedBy (fun operation : DetectedOperation =>
    toLex (operation.1, toLex (operation.2.1, operation.2.2))) operations.dedup

/-! ## Line counts -/

/-- The added and deleted lines of a path; a binary file has none. -/
abbrev LineCounts := String × Option ℤ × Option ℤ

def numstatArguments (baseSha headSha : LowerHex 40) (paths : List String) : List String :=
  ["diff", "--no-ext-diff", "--no-textconv", "--no-renames", "--ignore-submodules=none",
    "--numstat", "-z", baseSha.text, headSha.text, "--"] ++ paths

/-- `None if count == "-" else int(count)` -/
def lineCount (count : String) : Except InspectionError (Option ℤ) :=
  if count = "-" then .ok none
  else do
    let lines ← required .valueError (pyInt? count)
    pure (some lines)

/-- `_numstat`, of what the command has put out -/
def parseNumstat (raw : Bytes) : Except InspectionError (List LineCounts) := do
  let text ← required (.inspection "Git paths must be valid UTF-8") (decodeUtf8 raw)
  (populatedFields '\x00' text).mapM fun field => do
    let unexpected := InspectionError.inspection "unexpected git numstat output"
    let (added, rest) ← required unexpected (pyPartition? '\t' field)
    let (deleted, path) ← required unexpected (pyPartition? '\t' rest)
    let additions ← lineCount added
    let deletions ← lineCount deleted
    pure (path, additions, deletions)

def numstat (baseSha headSha : LowerHex 40) (paths : List String) :
    Inspection (List LineCounts) :=
  if paths = [] then pure []
  else do
    let raw ← git (numstatArguments baseSha headSha paths)
    .ofExcept (parseNumstat raw)

/-- `stats.get(path, (None, None))` -/
def statsOf (stats : List LineCounts) (path : String) : Option ℤ × Option ℤ :=
  ((stats.reverse.find? (·.1 = path)).map Prod.snd).getD (none, none)

/-! ## The canonical digest -/

/-- Four octets of length, and the value. -/
def lengthPrefixed (value : Bytes) : Except InspectionError Bytes := do
  ensure (value.length < 2 ^ 32) .overflowError
  pure ([value.length / 2 ^ 24, value.length / 2 ^ 16 % 256, value.length / 2 ^ 8 % 256,
    value.length % 256].map UInt8.ofNat ++ value)

/-- The entries of the diff in the order of their paths. -/
def sortedEntries (metadata : DiffMetadata) : DiffMetadata := sortedBy Prod.fst metadata

/-- `_canonical_diff_hash` -/
def canonicalDiffHash (H : HashFunction) (baseSha headSha : LowerHex 40)
    (metadata : DiffMetadata) : Except InspectionError Sha256 := do
  let values := [baseSha.text, headSha.text] ++ (sortedEntries metadata).flatMap fun entry =>
    [entry.1, entry.2.status, entry.2.oldMode, entry.2.newMode, entry.2.oldBlob, entry.2.newBlob]
  let parts ← values.mapM fun value => lengthPrefixed (encodeUtf8 value)
  pure (H (encodeUtf8 "amazon-explorer-ai-review-diff-v1\x00" ++ parts.flatten))

/-! ## Violations of the metadata -/

def allowedStatuses : List String := ["A", "M"]

/-- The objections to one changed path; `pyRepr` is `repr`. -/
def pathViolations (pyRepr : String → String) (task : TaskSpec)
    (entry : String × GitFileMetadata) : List String :=
  let (path, item) := entry
  (if safeRepoPath path = false then ["unsafe repository path: " ++ pyRepr path] else []) ++
  (if isProtectedPath path = true then ["protected path changed: " ++ path] else []) ++
  (if matchesFolded path task.deniedPaths = true then ["denied path changed: " ++ path] else []) ++
  (if matchesGlob path task.allowedPaths = false then
    ["path is outside allowed_paths: " ++ path] else []) ++
  (if item.status ∉ allowedStatuses then
    ["unsupported Git status " ++ item.status ++ ": " ++ path] else []) ++
  (if item.newMode ∉ allowedFileModes then
    ["unsupported Git file mode " ++ item.newMode ++ ": " ++ path] else []) ++
  (if item.status = "M" ∧ item.oldMode ≠ item.newMode then
    ["file mode changes are not supported: " ++ path] else [])

/-- The objections to the commit and to the diff, before any content is read. -/
def metadataViolations (pyRepr : String → String) (task : TaskSpec)
    (commitViolations : List String) (metadata : DiffMetadata) : List String :=
  commitViolations ++
  (if metadata = [] then ["candidate has no committed changes"] else []) ++
  (if task.limits.maxChangedFiles < metadata.length then
    ["changed file count " ++ toString metadata.length ++ " exceeds " ++
      toString task.limits.maxChangedFiles] else []) ++
  (sortedEntries metadata).flatMap (pathViolations pyRepr task)

/-! ## Content -/

section
variable (sha1 : Sha1Function) (H : HashFunction)

/-- `_blob_size` -/
def blobSize (objectId : String) : Inspection ℤ := do
  let raw ← git ["cat-file", "-s", objectId]
  let invalid := InspectionError.inspection "Git returned an invalid blob size"
  let text ← .ofExcept (required invalid (decodeAscii raw))
  .ofExcept (required invalid (pyInt? (strip text)))

/-- `_blob_content` -/
def blobContent (objectId : String) (expectedSize : ℤ) : Inspection Bytes := do
  let content ← verifiedObjectContent sha1 .blob objectId
  .ofExcept (require ((content.length : ℤ) = expectedSize)
    "Git blob size changed during inspection")
  pure content

/-- What the loop over the inspectable paths has collected. -/
structure ContentState where
  violations : List String
  textPaths : List String
  binaryPaths : List String
  contentSha256 : List (String × Sha256)
  totalBytes : ℤ
  deriving DecidableEq

/-- The loop goes on, or a limit has ended it. -/
inductive LoopStep where
  | next (state : ContentState)
  | stop (state : ContentState)

def ContentState.object (state : ContentState) (violation : String) : ContentState :=
  { state with violations := state.violations ++ [violation] }

def totalViolation (task : TaskSpec) (total : ℤ) : String :=
  "total inspected blob size " ++ toString total ++ " exceeds " ++
    toString task.limits.maxTotalBytes

/-- The base content of a modified file. -/
def inspectBase (task : TaskSpec) (path : String) (item : GitFileMetadata)
    (state : ContentState) : Inspection LoopStep := do
  let oldSize ← blobSize item.oldBlob
  if (task.limits.maxFileBytes : ℤ) < oldSize then
    pure (.stop (state.object ("base file size " ++ toString oldSize ++ " exceeds " ++
      toString task.limits.maxFileBytes ++ ": " ++ path)))
  else
    let state := { state with totalBytes := state.totalBytes + oldSize }
    if (task.limits.maxTotalBytes : ℤ) < state.totalBytes then
      pure (.stop (state.object (totalViolation task state.totalBytes)))
    else do
      let _ ← blobContent sha1 item.oldBlob oldSize
      pure (.next state)

/-- UTF-8 text without NUL. -/
def isText (content : Bytes) : Bool := (decodeUtf8 content).isSome && !content.contains 0

/-- The candidate content of a changed file. -/
def inspectCandidate (task : TaskSpec) (path : String) (item : GitFileMetadata)
    (state : ContentState) : Inspection LoopStep := do
  let size ← blobSize item.newBlob
  let state := { state with totalBytes := state.totalBytes + size }
  if (task.limits.maxFileBytes : ℤ) < size then
    pure (.stop (state.object ("file size " ++ toString size ++ " exceeds " ++
      toString task.limits.maxFileBytes ++ ": " ++ path)))
  else if (task.limits.maxTotalBytes : ℤ) < state.totalBytes then
    pure (.stop (state.object (totalViolation task state.totalBytes)))
  else do
    let content ← blobContent sha1 item.newBlob size
    if isText content then
      pure (.next { state with
        textPaths := state.textPaths ++ [path]
        contentSha256 := state.contentSha256 ++ [(path, H content)] })
    else
      pure (.next { state.object ("binary diff is not supported: " ++ path) with
        binaryPaths := state.binaryPaths ++ [path] })

/-- The body of the loop. -/
def inspectFile (task : TaskSpec) (entry : String × GitFileMetadata) (state : ContentState) :
    Inspection LoopStep := do
  let (path, item) := entry
  if item.status = "M" then do
    match ← inspectBase sha1 task path item state with
    | .next state => inspectCandidate sha1 H task path item state
    | .stop state => pure (.stop state)
  else inspectCandidate sha1 H task path item state

def inspectFiles (task : TaskSpec) (state : ContentState) :
    DiffMetadata → Inspection ContentState
  | [] => pure state
  | entry :: entries => do
      match ← inspectFile sha1 H task entry state with
      | .next state => inspectFiles task state entries
      | .stop state => pure state

/-! ## The report -/

/-- What is known once the metadata has been read. -/
structure Inspected where
  baseSha : LowerHex 40
  headSha : LowerHex 40
  commitViolations : List String
  metadata : DiffMetadata

variable (validateEmptyEnvExample : Bytes → Bool) (pyRepr : String → String)

/-- `inspect_git_diff` up to the commit metadata: the base, the head, and what the contract of the
task objects to. -/
def inspectCommits (repo : String) (task : TaskSpec) (head : String) :
    Inspection (LowerHex 40 × LowerHex 40 × List String) := do
  rejectGitLayout
  rejectReplaceRefs
  let topLevel ← git ["rev-parse", "--show-toplevel"]
  let topLevelText ← .ofExcept
    (required (.inspection "repository root must be valid UTF-8") (decodeUtf8 topLevel))
  let resolved ← Interaction.query (Query.resolve (strip topLevelText))
  let resolvedTopLevel ← .ofExcept (required .osError resolved)
  .ofExcept (require (resolvedTopLevel = repo) "repository path must be the Git worktree root")
  let baseSha ← resolveCommit task.baseSha.text
  let headSha ← resolveCommit head
  let currentHeadSha ← resolveCommit "HEAD"
  .ofExcept (require (headSha = currentHeadSha)
    "policy must inspect the candidate repository's current HEAD")
  verifyCommitAndTreeGraph sha1 baseSha
  verifyCommitAndTreeGraph sha1 headSha
  let commitViolations ← inspectCandidateCommit sha1 task baseSha headSha
  pure (baseSha, headSha, commitViolations)

/-- `inspect_git_diff` up to the metadata of the diff. -/
def inspectMetadata (repo : String) (task : TaskSpec) (head : String) : Inspection Inspected := do
  let (baseSha, headSha, commitViolations) ← inspectCommits sha1 repo task head
  let metadata ← diffMetadata baseSha headSha
  pure ⟨baseSha, headSha, commitViolations, metadata⟩

/-- Renames and copies are looked for only when the metadata is in order. -/
def inspectOperations (inspected : Inspected) (violations : List String) :
    Inspection (List String) :=
  if violations ≠ [] then pure violations
  else do
    let baseBlobs ← baseBlobPaths inspected.baseSha
    pure (violations ++
      (sortedOperations (detectedRenamesAndCopies inspected.metadata baseBlobs)).map
        operationViolation)

/-- The content of the changed files, unless something has been objected to. -/
def inspectContent (task : TaskSpec) (inspected : Inspected) (violations : List String) :
    Inspection ContentState :=
  if violations ≠ [] then pure ⟨violations, [], [], [], 0⟩
  else do
    rejectDirtyWorktree sha1 validateEmptyEnvExample
    inspectFiles sha1 H task ⟨violations, [], [], [], 0⟩ (sortedEntries inspected.metadata)

/-- The entry of one changed file in the report. -/
def reportFile (state : ContentState) (stats : List LineCounts)
    (entry : String × GitFileMetadata) : Except InspectionError DiffFile :=
  (DiffFile.validate {
    path := entry.1
    status := entry.2.status
    additions := (statsOf stats entry.1).1
    deletions := (statsOf stats entry.1).2
    binary := state.binaryPaths.contains entry.1
    contentSha256 := state.contentSha256.lookup entry.1 }).mapError .validation

def statisticsViolations (state : ContentState) (stats : List LineCounts)
    (metadata : DiffMetadata) : List String :=
  (sortedEntries metadata).filterMap fun entry =>
    if entry.1 ∈ state.textPaths ∧
        ((statsOf stats entry.1).1 = none ∨ (statsOf stats entry.1).2 = none) then
      some ("Git did not return text statistics for: " ++ entry.1)
    else none

/-- `sum(item.additions or 0 for item in files)` -/
def totalAddedLines (files : List DiffFile) : ℕ :=
  (files.map fun file => file.additions.getD 0).sum

/-- The digest of the diff, and what is objected to it. -/
def patchDigest (inspected : Inspected) (expectedPatchSha256 : Option String) (blocked : Bool) :
    Except InspectionError (Option Sha256 × List String) := do
  if blocked then
    pure (none, if expectedPatchSha256 = none then []
      else ["patch SHA-256 was not computed because restricted content changed"])
  else do
    let patchSha256 ← canonicalDiffHash H inspected.baseSha inspected.headSha inspected.metadata
    pure (some patchSha256,
      if expectedPatchSha256.all (· = patchSha256.text) then []
      else ["patch SHA-256 does not match the expected value"])

/-- The candidate must not have changed while its content was read. -/
def recheckSnapshot (inspected : Inspected) : Inspection Unit := do
  let changed := "candidate HEAD changed during policy inspection"
  let head ← resolveCommit "HEAD"
  .ofExcept (require (head = inspected.headSha) changed)
  rejectReplaceRefs
  rejectDirtyWorktree sha1 validateEmptyEnvExample
  let head ← resolveCommit "HEAD"
  .ofExcept (require (head = inspected.headSha) changed)
  verifyCommitAndTreeGraph sha1 inspected.baseSha
  verifyCommitAndTreeGraph sha1 inspected.headSha

/-- Line counts are asked for only when nothing is wrong with the content. -/
def contentStats (inspected : Inspected) (state : ContentState) : Inspection (List LineCounts) :=
  if state.violations ≠ [] then pure []
  else numstat inspected.baseSha inspected.headSha state.textPaths

/-- The snapshot is checked again only when the worktree has been checked before. -/
def recheckClean (inspected : Inspected) (clean : Bool) : Inspection Unit :=
  if clean then recheckSnapshot sha1 validateEmptyEnvExample inspected else pure ()

/-- `inspect_git_diff` after the content, when `clean` says that the worktree has been checked. -/
def reportDiff (task : TaskSpec) (taskSha256 : Sha256) (expectedPatchSha256 : Option String)
    (inspected : Inspected) (state : ContentState) (clean : Bool) : Inspection PolicyReport := do
  let stats ← contentStats inspected state
  let files ← .ofExcept ((sortedEntries inspected.metadata).mapM (reportFile state stats))
  let counted := state.violations ++ statisticsViolations state stats inspected.metadata
  let added := totalAddedLines files
  let bounded := counted ++ if task.limits.maxAddedLines < added then
    ["added line count " ++ toString added ++ " exceeds " ++ toString task.limits.maxAddedLines]
    else []
  let (patchSha256, objections) ← .ofExcept
    (patchDigest H inspected expectedPatchSha256 (counted ≠ []))
  recheckClean sha1 validateEmptyEnvExample inspected clean
  .ofExcept ((PolicyReport.validate {
    taskId := task.taskId
    taskSha256
    passed := bounded ++ objections = []
    trustedHarnessSha256 := task.trustedHarnessSha256
    baseSha := inspected.baseSha
    headSha := inspected.headSha
    patchSha256
    changedFiles := files
    totalAddedLines := added
    violations := bounded ++ objections }).mapError .validation)

/-- `inspect_git_diff` after the metadata. Everything that blocks the content is a violation, so
the content is blocked exactly when there is one. -/
def inspectRest (task : TaskSpec) (taskSha256 : Sha256) (expectedPatchSha256 : Option String)
    (inspected : Inspected) : Inspection PolicyReport := do
  let violations ← inspectOperations inspected
    (metadataViolations pyRepr task inspected.commitViolations inspected.metadata)
  let state ← inspectContent sha1 H validateEmptyEnvExample task inspected violations
  reportDiff sha1 H validateEmptyEnvExample task taskSha256 expectedPatchSha256 inspected state
    (violations = [])

/-- `inspect_git_diff` -/
def inspectGitDiff (repo : String) (task : TaskSpec) (taskSha256 : Sha256) (head : String)
    (expectedPatchSha256 : Option String) : Inspection PolicyReport := do
  let inspected ← inspectMetadata sha1 repo task head
  inspectRest sha1 H validateEmptyEnvExample pyRepr task taskSha256 expectedPatchSha256 inspected

end
end AmazonSimilarSearch.Policy
