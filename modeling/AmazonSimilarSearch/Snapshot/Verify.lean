import AmazonSimilarSearch.Foundation.JsonOrdered
import AmazonSimilarSearch.Preflight.ProtectedFile
import AmazonSimilarSearch.Snapshot.RedTdd

/-!
# Verifying a snapshot

`verify_readonly_snapshot` of `snapshot.py`. A snapshot is a directory that is named by the digest
of its manifest; the manifest lists the files below `tree` with their modes, sizes and digests.
The verifier reads every listed file, and then walks the tree for anything that is not listed.
-/
namespace AmazonSimilarSearch.Snapshot
open Foundation Posix
open Packet (SnapshotFile)
open Preflight (Checked Coordinator PreflightError RawAssetEvidence assertCandidateCannotMutate
  lstatEntry namesDirectory readProtectedFile ensureSeparateCandidateUid showPath walkedNames)
open Review (pathParts pathRoot sensitivePathReason)

abbrev Verifying (α : Type) := Except SnapshotFailure α

/-- `except PreflightError as exc: raise SnapshotError(str(exc))` -/
def fromPreflight : PreflightError → SnapshotFailure
  | .preflight message => .snapshotError message
  | .os _ => .exception

/-! ## The manifest -/

/-- The two patterns of a digest: `COMMIT_RE` -/
def matchesCommit (text : String) : Bool := matchesLowerHex 40 text || matchesLowerHex 64 text

structure Manifest where
  commitSha : String
  commitTreeSha : String
  excludedPaths : List String
  snapshotSha256 : String
  files : List Json

def manifestFields : List String := [
  "commit_sha", "commit_tree_sha", "excluded_paths", "files", "schema_version", "snapshot_sha256"]

def invalidVersion : SnapshotFailure :=
  .snapshotError "snapshot manifest version or commit is invalid"

def asText : Json → Option String
  | .str text => some text
  | _ => none

def asObject : Json → Option Fields
  | .obj fields => some fields
  | _ => none

def asItems : Json → Option (List Json)
  | .arr items => some items
  | _ => none

/-- `payload["excluded_paths"] in ([], [".env.example"])`, as the list of texts -/
def readExcludedPaths (value : Json) : Verifying (List String) :=
  if value.pyEq (.arr []) then .ok []
  else if value.pyEq (.arr [.str ".env.example"]) then .ok [".env.example"]
  else .error (.snapshotError "snapshot manifest contains an unsupported excluded path")

/-- `_load_manifest` -/
def loadManifest (raw : Bytes) : Verifying Manifest := do
  let invalid : SnapshotFailure := .snapshotError "snapshot manifest must be valid UTF-8 JSON"
  let text ← required invalid (decodeUtf8 raw)
  let payload ← (Json.loads ⟨true, false⟩ text).mapError fun error => match error with
    | .malformed => invalid
    | .duplicateKey => .snapshotError "duplicate JSON key in snapshot manifest"
    | _ => .exception
  let unknown : SnapshotFailure :=
    .snapshotError "snapshot manifest contains missing or unknown fields"
  let fields ← required unknown (asObject payload)
  ensure (fields.hasExactKeys manifestFields = true) unknown
  ensure ((fields.get "schema_version").pyEq (.str "1.0") = true) invalidVersion
  let commitSha ← required invalidVersion (asText (fields.get "commit_sha"))
  let commitTreeSha ← required invalidVersion (asText (fields.get "commit_tree_sha"))
  ensure (matchesCommit commitSha = true ∧ matchesCommit commitTreeSha = true) invalidVersion
  let invalidDigest : SnapshotFailure := .snapshotError "snapshot manifest digest is invalid"
  let snapshotSha256 ← required invalidDigest (asText (fields.get "snapshot_sha256"))
  ensure (matchesLowerHex 64 snapshotSha256 = true) invalidDigest
  let files ← required (SnapshotFailure.snapshotError "snapshot manifest files must be an array")
    (asItems (fields.get "files"))
  let excludedPaths ← readExcludedPaths (fields.get "excluded_paths")
  pure ⟨commitSha, commitTreeSha, excludedPaths, snapshotSha256, files⟩

/-- The value whose digest names the snapshot. -/
def Manifest.digestPayload (manifest : Manifest) : Json := .obj [
  ("commit_sha", .str manifest.commitSha),
  ("commit_tree_sha", .str manifest.commitTreeSha),
  ("excluded_paths", .arr (manifest.excludedPaths.map .str)),
  ("files", .arr manifest.files),
  ("schema_version", .str "1.0")]

/-- `stored_manifest` of `_freeze_staging_tree`: what is written to `manifest.json` -/
def Manifest.storedManifest (manifest : Manifest) : Json := .obj [
  ("commit_sha", .str manifest.commitSha),
  ("commit_tree_sha", .str manifest.commitTreeSha),
  ("excluded_paths", .arr (manifest.excludedPaths.map .str)),
  ("files", .arr manifest.files),
  ("schema_version", .str "1.0"),
  ("snapshot_sha256", .str manifest.snapshotSha256)]

/-! ## One entry of the manifest -/

def maxFileBytes : ℕ := 2000000
def maxTotalBytes : ℕ := 10000000
def maxManifestFiles : ℕ := 100000
def maxManifestBytes : ℕ := 32 * 1024 * 1024

def fileMode (gitMode : String) : Mode := if gitMode = "100755" then 0o555#12 else 0o444#12

def entryFields : List String := ["mode", "path", "sha256", "size"]

def unsafeEntry : SnapshotFailure := .snapshotError "snapshot file manifest entry is unsafe"

/-- `mode not in ALLOWED_GIT_MODES`, which raises `TypeError` for a list or a dictionary -/
def readMode : Json → Verifying String
  | .str text => do
      ensure (text = "100644" ∨ text = "100755") unsafeEntry
      pure text
  | .arr _ => .error .exception
  | .obj _ => .error .exception
  | _ => .error unsafeEntry

/-- `isinstance(size, int)`, not a truth value and not negative -/
def readSize : Json → Option ℕ
  | .int size => if 0 ≤ size then some size.toNat else none
  | _ => none

/-- The checks of one entry against the path of the entry before. -/
def readEntry (previousPath : String) (entry : Json) : Verifying SnapshotFile := do
  let invalid : SnapshotFailure := .snapshotError "snapshot file manifest entry is invalid"
  let fields ← required invalid (asObject entry)
  ensure (fields.hasExactKeys entryFields = true) invalid
  let mode ← readMode (fields.get "mode")
  let path ← required unsafeEntry (asText (fields.get "path"))
  ensure (previousPath < path ∧ pathRoot path.toList = [] ∧
    ((pathParts path).any fun part => ["", ".", ".."].contains part) = false) unsafeEntry
  let size ← required unsafeEntry (readSize (fields.get "size"))
  let sha256 ← required unsafeEntry (asText (fields.get "sha256"))
  ensure (matchesLowerHex 64 sha256 = true) unsafeEntry
  match sensitivePathReason path with
  | some reason =>
      .error (.snapshotError ("snapshot manifest contains " ++ reason ++ ": " ++ path))
  | none => pure ⟨mode, path, sha256, size⟩

/-! ## The files and the walk -/

section
variable (H : HashFunction) (coordinator : Coordinator) (fs : FileSystem) (candidateUid : Uid)

/-- The file that an entry lists is there as the entry says. -/
def verifyFile (rootDevice : ℕ) (tree : List String) (file : SnapshotFile) : Verifying Unit := do
  -- `os.lstat` raises `ValueError` for a name with NUL
  ensure ('\x00' ∉ file.path.toList) SnapshotFailure.exception
  let (evidence, _) ← (readProtectedFile H coordinator fs candidateUid
    (tree ++ pathParts file.path) ("snapshot file " ++ file.path) (some file.sha256)
    maxFileBytes).mapError fromPreflight
  require (evidence.device = rootDevice) "snapshot must not cross a nested filesystem mount"
  require (evidence.mode = fileMode file.mode ∧ evidence.size = file.size)
    ("snapshot file metadata does not match manifest: " ++ file.path)

/-- The loop over the entries, with the path before and the bytes so far. -/
def verifyEntries (rootDevice : ℕ) (tree : List String) :
    String → ℕ → List Json → Verifying (List SnapshotFile)
  | _, _, [] => pure []
  | previousPath, totalBytes, entry :: entries => do
      let file ← readEntry previousPath entry
      require (file.size ≤ maxFileBytes) "snapshot file exceeds the byte limit"
      require (totalBytes + file.size ≤ maxTotalBytes)
        "snapshot manifest exceeds the total byte limit"
      verifyFile H coordinator fs candidateUid rootDevice tree file
      let files ← verifyEntries rootDevice tree file.path (totalBytes + file.size) entries
      pure (file :: files)

def crossesMount : SnapshotFailure :=
  .snapshotError "snapshot must not cross a nested filesystem mount"

def containsSymlink : SnapshotFailure :=
  .snapshotError "snapshot tree must not contain symlinks"

/-- `(directory / name).is_symlink()` -/
def isSymlink (directory : Inode) (name : String) : Bool :=
  match lstatEntry coordinator fs directory name with
  | .ok found => Preflight.Content.isSymlink found.2.content
  | .error _ => false

/-- One round of the loop over the directories that a directory holds. -/
def walkSubdirectory (rootDevice : ℕ) (directory : Inode) (name : String) :
    Verifying (String × Inode) := do
  ensure (isSymlink coordinator fs directory name = false) containsSymlink
  let (child, node) ← (lstatEntry coordinator fs directory name).mapError fun _ =>
    SnapshotFailure.exception
  ensure (node.metadata.device = rootDevice) crossesMount
  pure (name, child)

/-- What a walk has found: the paths of files and of directories. -/
structure Found where
  files : List (List String)
  directories : List (List String)

def Found.append (found more : Found) : Found :=
  ⟨found.files ++ more.files, found.directories ++ more.directories⟩

/-- `os.walk`, which skips a directory that it cannot list. A walk that is deeper than the file
system has nodes never ends. -/
def walk (rootDevice : ℕ) : ℕ → List String → Inode → Verifying Found
  | 0, _, _ => .error .exception
  | depth + 1, path, directory =>
      if coordinator.listable directory = false then pure ⟨[], []⟩
      else do
        let node ← required .exception (fs.node directory)
        ensure (node.metadata.device = rootDevice) crossesMount
        require (Preflight.Content.isDirectory node.content = true ∧ node.metadata.mode = 0o555#12)
          "snapshot tree contains a symlink or writable directory"
        let names := (fs.entries directory).map Prod.fst
        let subdirectories ← (names.filter (namesDirectory fs directory)).mapM
          (walkSubdirectory coordinator fs rootDevice directory)
        let files := names.filter (! namesDirectory fs directory ·)
        ensure (∀ name ∈ files, isSymlink coordinator fs directory name = false) containsSymlink
        subdirectories.foldlM (fun found subdirectory => do
          let more ← walk rootDevice depth (path ++ [subdirectory.1]) subdirectory.2
          pure (found.append more))
          ⟨files.map (path ++ [·]), subdirectories.map (path ++ [·.1])⟩

/-- `PurePosixPath(path).parents` without the last one, as their names -/
def parentPaths (path : String) : List (List String) :=
  (List.range (pathParts path).length).tail.map (pathParts path).take

def joined (paths : List (List String)) : Finset String := (paths.map ("/".intercalate)).toFinset

/-! ## The verifier -/

/-- A directory that nobody writes, on the device of the snapshot. -/
def directoryAt (path : List String) (message : String) : Verifying (Inode × Node) := do
  let found := (fs.resolve path).bind fun inode => (fs.node inode).map fun node => (inode, node)
  let (inode, node) ← required (.snapshotError message) found
  require (Preflight.Content.isDirectory node.content = true ∧ node.metadata.mode = 0o555#12)
    message
  pure (inode, node)

/-- `verify_readonly_snapshot` -/
def verifyReadonlySnapshot (root : List String) : Verifying SnapshotEvidence := do
  (ensureSeparateCandidateUid coordinator candidateUid).mapError fromPreflight
  let _ ← (assertCandidateCannotMutate coordinator fs candidateUid root).mapError fromPreflight
  let manifestPath := root ++ ["manifest.json"]
  let (manifestEvidence, rawManifest) ← (readProtectedFile H coordinator fs candidateUid
    manifestPath "snapshot manifest" none maxManifestBytes).mapError fromPreflight
  let (_, rootNode) ← directoryAt fs root "snapshot root must be a read-only directory"
  let rootDevice := rootNode.metadata.device
  let tree := root ++ ["tree"]
  let (treeInode, treeNode) ← directoryAt fs tree "snapshot tree must be a read-only directory"
  ensure (treeNode.metadata.device = rootDevice ∧ manifestEvidence.device = rootDevice) crossesMount
  let manifest ← loadManifest rawManifest
  let payload ← required .exception (Json.canonicalLine? manifest.digestPayload)
  let snapshotSha256 := H payload
  require (snapshotSha256.text = manifest.snapshotSha256 ∧
    root.getLast? = some snapshotSha256.text)
    "snapshot manifest digest does not match its content-addressed root"
  require (manifest.files.length ≤ maxManifestFiles)
    "snapshot manifest exceeds the file count limit"
  let files ← verifyEntries H coordinator fs candidateUid rootDevice tree "" 0 manifest.files
  let found ← walk coordinator fs rootDevice (fs.nodes.length + 1) [] treeInode
  require (joined found.files = (files.map SnapshotFile.path).toFinset)
    "snapshot tree contains missing or unmanifested files"
  require (joined found.directories = joined (files.flatMap fun file => parentPaths file.path))
    "snapshot tree contains missing or unmanifested directories"
  pure {
    root := showPath root
    tree := showPath tree
    manifestPath := showPath manifestPath
    manifestSha256 := manifestEvidence.sha256
    snapshotSha256 := snapshotSha256
    commitSha := manifest.commitSha
    commitTreeSha := manifest.commitTreeSha
    candidateUid := candidateUid
    excludedPaths := manifest.excludedPaths }

end
end AmazonSimilarSearch.Snapshot
