import AmazonSimilarSearch.Policy.Objects

/-!
# The candidate worktree

Before any content is inspected the worktree must be the committed tree and
nothing else: one standalone `.git` directory, an index that equals HEAD, no
untracked path, and for every tracked file a regular file with the content of
its blob.
-/
namespace AmazonSimilarSearch.Policy
open Foundation Review

def allowedFileModes : List String := ["100644", "100755"]

/-! ## Layout -/

/-- The checks on one entry below `.git`. -/
def checkMetadataEntry (owner : ℕ) (entry : WalkEntry) : Except InspectionError Unit := do
  require (entry.stat.isSymlink = false)
    ("candidate Git metadata must not contain symlinks: " ++ entry.relative)
  require (entry.isMount = false)
    ("candidate Git metadata must not contain nested mount points: " ++ entry.relative)
  require (entry.stat.isDirectory = true ∨ entry.stat.isRegular = true)
    ("candidate Git metadata contains an unsupported filesystem entry: " ++ entry.relative)
  require (¬ (entry.stat.isRegular = true ∧ entry.stat.hardLinks ≠ 1))
    ("candidate Git metadata files must not be hardlinks: " ++ entry.relative)
  require (entry.stat.owner = owner)
    ("candidate Git metadata must be owned by the coordinator user: " ++ entry.relative)
  require (entry.stat.mode.land 0o022 = 0)
    ("candidate Git metadata must not be group- or world-writable: " ++ entry.relative)

/-- A loop over the entries of a walk that stops at the limit. -/
def checkWalk (limit : ℕ) (message : String) (check : WalkEntry → Except InspectionError Unit) :
    ℕ → List WalkEntry → Except InspectionError Unit
  | _, [] => .ok ()
  | count, entry :: entries => do
      require (count + 1 ≤ limit) message
      check entry
      checkWalk limit message check (count + 1) entries

def checkGitLayout (layout : GitLayout) : Except InspectionError Unit := do
  require (layout.directory.any fun stat => stat.isDirectory && !stat.isSymlink)
    "candidate must use a standalone .git directory"
  require (layout.forbiddenMetadata.all (!·))
    "candidate Git metadata contains unsupported shared or external metadata"
  checkWalk maxGitMetadataEntries
    ("candidate Git metadata has more than " ++ toString maxGitMetadataEntries ++ " entries")
    (checkMetadataEntry layout.owner) 0 layout.entries

/-- `git rev-parse` must report the standalone `.git` directory for `argument`. -/
def checkGitDirectory (expected argument label : String) : Inspection Unit := do
  let raw ← git ["rev-parse", "--path-format=absolute", argument]
  let invalid := InspectionError.inspection (label ++ " must be a valid local path")
  let text ← .ofExcept (required invalid (decodeUtf8 raw))
  let resolved ← Interaction.query (Query.resolve (strip text))
  let reported ← .ofExcept (required invalid resolved)
  .ofExcept (require (reported = expected)
    (label ++ " must equal the standalone .git directory"))

/-- `_reject_git_layout` -/
def rejectGitLayout : Inspection Unit := do
  let layout ← Interaction.query Query.gitLayout
  .ofExcept (checkGitLayout layout)
  checkGitDirectory layout.resolved "--git-dir" "Git directory"
  checkGitDirectory layout.resolved "--git-common-dir" "Git common directory"
  let raw ← git ["rev-parse", "--show-object-format"]
  let format ← .ofExcept (required .unicodeDecode (decodeAscii raw))
  .ofExcept (require (strip format = "sha1")
    "candidate repository must use the SHA-1 Git object format")

/-- `_reject_replace_refs` -/
def rejectReplaceRefs : Inspection Unit := do
  let refs ← git ["for-each-ref", "--format=%(refname)", "refs/replace"]
  .ofExcept (require (refs.all fun b => b = 32 || (9 ≤ b && b ≤ 13))
    "repository contains a replace ref")

/-! ## Index and HEAD -/

/-- A path with its mode and object id. -/
abbrev TrackedEntry := String × String × String

/-- One field of `git ls-files --stage`. -/
def indexEntry (field : String) : Except InspectionError TrackedEntry := do
  let unexpected := InspectionError.inspection "unexpected Git index output"
  let (header, path) ← required unexpected (pyPartition? '\t' field)
  let (mode, rest) ← required unexpected (pyPartition? ' ' header)
  let (objectId, stage) ← required unexpected (pyPartition? ' ' rest)
  require (stage = "0" ∧ safeRepoPath path = true)
    "candidate index contains an unsupported entry"
  pure (path, mode, objectId)

/-- One field of `git ls-tree -r`. -/
def headTreeEntry (field : String) : Except InspectionError TrackedEntry := do
  let unexpected := InspectionError.inspection "unexpected Git tree output"
  let (header, path) ← required unexpected (pyPartition? '\t' field)
  let (mode, rest) ← required unexpected (pyPartition? ' ' header)
  let (objectType, objectId) ← required unexpected (pyPartition? ' ' rest)
  require (objectType ∈ ["blob", "commit"] ∧ safeRepoPath path = true)
    "candidate HEAD contains an unsupported entry"
  pure (path, mode, objectId)

/-- The loop that collects entries and rejects a path that comes twice. -/
def collectEntries (entry : String → Except InspectionError TrackedEntry) (repeated : String)
    (entries : List TrackedEntry) : List String → Except InspectionError (List TrackedEntry)
  | [] => .ok entries
  | field :: fields => do
      let next ← entry field
      require (next.1 ∉ entries.map Prod.fst) repeated
      collectEntries entry repeated (entries ++ [next]) fields

/-- `_parse_index` -/
def parseIndex : Inspection (List TrackedEntry) := do
  let raw ← git ["ls-files", "--stage", "-z"]
  .ofExcept do
    let text ← required (.inspection "Git index paths must be valid UTF-8") (decodeUtf8 raw)
    let fields := populatedFields '\x00' text
    require (fields.length ≤ maxTrackedFiles)
      ("candidate has more than " ++ toString maxTrackedFiles ++ " tracked files")
    collectEntries indexEntry "candidate index contains an unsupported entry" [] fields

/-- `_parse_head_tree` -/
def parseHeadTree : Inspection (List TrackedEntry) := do
  let raw ← git ["ls-tree", "-r", "-z", "HEAD", "--"]
  .ofExcept do
    let text ← required (.inspection "Git tree paths must be valid UTF-8") (decodeUtf8 raw)
    collectEntries headTreeEntry "candidate HEAD contains an unsupported entry" []
      (populatedFields '\x00' text)

/-- The directories above the tracked paths. -/
def trackedDirectories (paths : List String) : List String :=
  paths.flatMap fun path =>
    ((pathParts path).dropLast.inits.filter (· ≠ [])).map (String.intercalate "/")

/-- `_reject_untracked_paths` -/
def rejectUntrackedPaths (trackedPaths : List String) : Inspection Unit := do
  let entries ← Interaction.query Query.walkWorktree
  .ofExcept (checkWalk maxWorktreeEntries
    ("candidate worktree has more than " ++ toString maxWorktreeEntries ++ " entries")
    (fun entry => do
      require (entry.stat.isSymlink = false)
        ("candidate worktree must not contain symlinks: " ++ entry.relative)
      require (entry.relative ∈ trackedPaths ∨ entry.relative ∈ trackedDirectories trackedPaths)
        ("candidate worktree must not contain untracked or ignored paths: " ++ entry.relative))
    0 entries)

/-! ## Content -/

section
variable (sha1 : Sha1Function) (validateEmptyEnvExample : Bytes → Bool)

/-- `PurePosixPath(path).name` -/
def pathName (path : String) : String := (pathParts path).getLast?.getD ""

/-- The checks on the metadata of one tracked file; what is read of it is its size. -/
def checkTrackedFile (path mode : String) : Inspection ℕ := do
  .ofExcept do
    require (¬ (isProtectedPath path = true ∧ casefold (pathName path) ≠ ".env.example"))
      ("candidate HEAD contains a protected tracked path: " ++ path)
    require (mode ∈ allowedFileModes) ("candidate tracked file mode is unsupported: " ++ path)
  let found ← Interaction.query (Query.lstat path)
  .ofExcept do
    let stat ← required (.inspection ("candidate tracked file is missing: " ++ path)) found
    require (stat.isRegular = true) ("candidate tracked path is not a regular file: " ++ path)
    require (stat.hardLinks = 1) ("candidate tracked file must not be a hardlink: " ++ path)
    require (decide (mode = "100755") = (stat.mode.land 0o111 != 0))
      ("candidate tracked file mode differs from HEAD: " ++ path)
    require (stat.size ≤ maxTrackedFileBytes)
      ("candidate tracked file exceeds " ++ toString maxTrackedFileBytes ++ " bytes: " ++ path)
    pure stat.size

/-- The content of a tracked file must hash to its blob. -/
def checkTrackedContent (path objectId : String) : Inspection Unit := do
  let raw ← git ["hash-object", "--no-filters", "--", path]
  let text ← .ofExcept (required (.inspection "Git returned an invalid worktree blob id")
    (decodeAscii raw))
  .ofExcept (require (strip text = objectId)
    ("candidate worktree content differs from HEAD: " ++ path))
  if path = ".env.example" then do
    let content ← verifiedObjectContent sha1 .blob objectId
    .ofExcept (require (validateEmptyEnvExample content = true)
      "tracked .env.example is not a safe empty template")
  else pure ()

def checkTrackedFiles (totalBytes : ℕ) : List TrackedEntry → Inspection Unit
  | [] => pure ()
  | (path, mode, objectId) :: entries => do
      let size ← checkTrackedFile path mode
      .ofExcept (require (totalBytes + size ≤ maxTrackedTotalBytes)
        ("candidate tracked files exceed " ++ toString maxTrackedTotalBytes ++ " total bytes"))
      checkTrackedContent sha1 validateEmptyEnvExample path objectId
      checkTrackedFiles (totalBytes + size) entries

/-- An entry of `git ls-files -v` that hides nothing. -/
def isNormalIndexEntry (entry : String) : Bool :=
  match entry.toList with
  | 'H' :: ' ' :: _ :: _ => true
  | _ => false

/-- `_reject_dirty_worktree` -/
def rejectDirtyWorktree : Inspection Unit := do
  rejectGitLayout
  let raw ← git ["ls-files", "-v", "-z"]
  .ofExcept do
    let text ← required (.inspection "Git index paths must be valid UTF-8") (decodeUtf8 raw)
    require ((populatedFields '\x00' text).all isNormalIndexEntry)
      ("candidate index flags or state can hide worktree changes; require normal tracked " ++
        "entries")
  let index ← parseIndex
  let head ← parseHeadTree
  .ofExcept (require ((∀ entry ∈ index, entry ∈ head) ∧ ∀ entry ∈ head, entry ∈ index)
    "candidate index must match HEAD exactly")
  rejectUntrackedPaths (index.map Prod.fst)
  checkTrackedFiles sha1 validateEmptyEnvExample 0 index

end
end AmazonSimilarSearch.Policy
