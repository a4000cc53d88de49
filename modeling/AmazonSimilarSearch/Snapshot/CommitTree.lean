import AmazonSimilarSearch.Policy.Objects
import AmazonSimilarSearch.Snapshot.Verify

/-!
# The tree of a commit

What `create_readonly_snapshot` of `snapshot.py` reads of a commit. Git is asked for the size and
the content of an object; a content is used only after it was hashed to the id of its object again.
Trees are read recursively, with a limit on the depth and budgets for entries and bytes.
-/
namespace AmazonSimilarSearch.Snapshot
open Foundation
open Packet (SnapshotFile)
open Policy (ObjectType Sha1Function bytesHex objectPreimage)
open Review (sensitivePathReason)

/-- What the clone is asked: `git cat-file -s` and `git cat-file <type>`. -/
inductive GitQuery where
  | size (objectId : String)
  | content (objectType : ObjectType) (objectId : String)
  deriving DecidableEq

/-- The output of a command, or nothing when it fails or does not end. -/
def GitAnswer : GitQuery → Type := fun _ => Option Bytes

abbrev Reading := Interaction GitQuery GitAnswer SnapshotFailure
abbrev Clone := Answering GitQuery GitAnswer
abbrev Asked := List (Exchange GitQuery GitAnswer)

/-- `_run_git` -/
def runGit (query : GitQuery) : Reading Bytes := do
  let answer ← Interaction.query query
  .ofExcept (required (SnapshotFailure.snapshotError "trusted local Git operation failed")
    (answer : Option Bytes))

def maxCommitBytes : ℕ := 2000000
def maxTreeObjectBytes : ℕ := 8000000
def maxTreeTotalBytes : ℕ := 32000000
def maxTreeDepth : ℕ := 128
def maxTreeEntries : ℕ := 100000

/-! ## Objects -/

section
variable (sha1 : Sha1Function) (H : HashFunction)

/-- `_hash_git_object` -/
def hashGitObject (objectType : ObjectType) (content : Bytes) (objectIdLength : ℕ) :
    Except SnapshotFailure String :=
  if objectIdLength = 40 then .ok (sha1 (objectPreimage objectType content)).text
  else if objectIdLength = 64 then .ok (H (objectPreimage objectType content)).text
  else .error (.snapshotError "unsupported Git object ID length")

def checkObjectId (objectIdLength : ℕ) (objectId : String) : Except SnapshotFailure Unit :=
  require (matchesLowerHex objectIdLength objectId = true)
    "candidate tree contains an invalid object ID"

/-- `_verified_object_size` -/
def verifiedObjectSize (objectIdLength : ℕ) (objectId : String) : Reading ℕ := do
  .ofExcept (checkObjectId objectIdLength objectId)
  let rawSize ← runGit (.size objectId)
  let invalid := SnapshotFailure.snapshotError "Git object size is invalid"
  let text ← .ofExcept (required invalid (decodeAscii rawSize))
  let size ← .ofExcept (required invalid (pyInt? (strip text)))
  .ofExcept (ensure (0 ≤ size) invalid)
  pure size.toNat

/-- `_read_verified_object` -/
def readVerifiedObject (objectIdLength : ℕ) (objectType : ObjectType) (objectId : String)
    (maxBytes : ℕ) : Reading Bytes := do
  .ofExcept (checkObjectId objectIdLength objectId)
  let size ← verifiedObjectSize objectIdLength objectId
  .ofExcept (require (size ≤ maxBytes) ("Git " ++ objectType.name ++ " exceeds the byte limit"))
  let content ← runGit (.content objectType objectId)
  .ofExcept (require (content.length = size)
    ("Git " ++ objectType.name ++ " size changed during verification"))
  let digest ← .ofExcept (hashGitObject sha1 H objectType content objectIdLength)
  .ofExcept (require (digest = objectId)
    ("Git " ++ objectType.name ++ " content does not match its object ID"))
  pure content

end

/-! ## Trees -/

/-- A file of a commit: its mode, its blob and its path. -/
structure BlobEntry where
  mode : String
  objectId : String
  path : String
  deriving DecidableEq

/-- What may still be read. -/
structure TreeBudget where
  entries : ℕ
  bytes : ℕ

/-- One entry as it is framed: the mode, the name and the object id. -/
structure RawEntry where
  mode : Bytes
  name : Bytes
  objectId : Bytes

/-- The first entry of a tree with ids of that many octets, and the rest of the tree. -/
def splitRawEntry (objectBytes : ℕ) (raw : Bytes) : Option (RawEntry × Bytes) :=
  match raw.dropWhile (· ≠ 32) with
  | [] => none
  | _ :: afterMode =>
      match afterMode.dropWhile (· ≠ 0) with
      | [] => none
      | _ :: afterName =>
          if afterName.length < objectBytes then none
          else some (⟨raw.takeWhile (· ≠ 32), afterMode.takeWhile (· ≠ 0),
            afterName.take objectBytes⟩, afterName.drop objectBytes)

structure TreeEntry where
  mode : String
  name : String
  objectId : String

/-- The texts of an entry. -/
def decodeEntry (entry : RawEntry) : Except SnapshotFailure TreeEntry := do
  let unsupported := SnapshotFailure.snapshotError "candidate tree contains an unsupported filename"
  let mode ← required unsupported (decodeAscii entry.mode)
  let name ← required unsupported (decodeUtf8 entry.name)
  pure ⟨mode, name, bytesHex entry.objectId⟩

def treeModes : List String := ["40000", "040000"]
def allowedGitModes : List String := ["100644", "100755"]

/-- `relative.as_posix()` -/
def posixPath (path : List String) : String := "/".intercalate path

/-- The checks of a name below a directory. -/
def checkName (above : List String) (seenNames : List String) (name : String) :
    Except SnapshotFailure Unit := do
  require (name ∉ ["", ".", ".."] ∧ '/' ∉ name.toList ∧ '\x00' ∉ name.toList ∧ name ∉ seenNames)
    "candidate tree contains an unsafe or duplicate filename"
  let normalized := posixPath (above ++ [name])
  match if normalized = ".env.example" then none else sensitivePathReason normalized with
  | some reason =>
      .error (.snapshotError ("candidate tree contains " ++ reason ++ ": " ++ normalized))
  | none => .ok ⟨⟩

/-- An entry that is neither a tree nor a file. -/
def unsupportedMode (mode : String) : SnapshotFailure :=
  if mode = "120000" then .snapshotError "candidate tree must not contain symlinks"
  else if mode = "160000" then .snapshotError "candidate tree must not contain submodules"
  else .snapshotError ("candidate tree uses unsupported file mode: " ++ mode)

def invalidFraming : SnapshotFailure :=
  .snapshotError "candidate tree object has invalid binary framing"

section
variable (sha1 : Sha1Function) (H : HashFunction) (objectIdLength : ℕ)

/-- The loop over the entries of a tree, with what reads the trees below it. Every entry takes
octets away, so that there are no more entries than octets. -/
def readEntries (below : List String → String → TreeBudget → Reading (List BlobEntry × TreeBudget))
    (above : List String) :
    ℕ → List String → TreeBudget → Bytes → Reading (List BlobEntry × TreeBudget)
  | _, _, budget, [] => pure ([], budget)
  | 0, _, _, _ :: _ => .raise invalidFraming
  | length + 1, seenNames, budget, octet :: raw => do
      let (framed, rest) ← .ofExcept (required invalidFraming
        (splitRawEntry (objectIdLength / 2) (octet :: raw)))
      let entry ← .ofExcept (decodeEntry framed)
      .ofExcept (checkName above seenNames entry.name)
      .ofExcept (require (1 ≤ budget.entries) "candidate tree exceeds the maximum entry count")
      let left := { budget with entries := budget.entries - 1 }
      let (entries, left) ←
        if entry.mode ∈ treeModes then below (above ++ [entry.name]) entry.objectId left
        else if entry.mode ∈ allowedGitModes then
          pure ([⟨entry.mode, entry.objectId, posixPath (above ++ [entry.name])⟩], left)
        else .raise (unsupportedMode entry.mode)
      let (more, left) ← readEntries below above length (entry.name :: seenNames) left rest
      pure (entries ++ more, left)

/-- `_tree_entries`, by how deep it may still go -/
def treeEntries : ℕ → List String → String → TreeBudget → Reading (List BlobEntry × TreeBudget)
  | 0, _, _, _ => .raise (.snapshotError "candidate tree exceeds the maximum directory depth")
  | depth + 1, above, treeId, budget => do
      let treeSize ← verifiedObjectSize objectIdLength treeId
      .ofExcept (require (treeSize ≤ budget.bytes)
        "candidate tree objects exceed the total byte limit")
      let raw ← readVerifiedObject sha1 H objectIdLength .tree treeId maxTreeObjectBytes
      readEntries objectIdLength (treeEntries depth) above raw.length []
        { budget with bytes := budget.bytes - treeSize } raw

/-- The tree that a commit names in its first line. -/
def commitTree (commit : Bytes) : Except SnapshotFailure String := do
  let invalid := SnapshotFailure.snapshotError "candidate commit does not contain a valid tree"
  let firstLine := commit.takeWhile (· ≠ 10)
  let treeId ← required invalid ((firstLine.dropWhile (· ≠ 32)).tail?.bind decodeAscii)
  require (firstLine.takeWhile (· ≠ 32) = encodeUtf8 "tree")
    "candidate commit does not begin with a tree binding"
  pure treeId

/-- `_verified_commit_tree` without the length of the ids, which is that of the commit's own -/
def verifiedCommitTree (commitSha : String) : Reading (List BlobEntry × String) := do
  let objectIdLength := commitSha.toList.length
  let commit ← readVerifiedObject sha1 H objectIdLength .commit commitSha maxCommitBytes
  let treeId ← .ofExcept (commitTree commit)
  let (entries, _) ← treeEntries sha1 H objectIdLength (maxTreeDepth + 1) [] treeId
    ⟨maxTreeEntries, maxTreeTotalBytes⟩
  .ofExcept (require (entries.map BlobEntry.path).Nodup
    "candidate tree contains duplicate materialized paths")
  pure (entries, treeId)

end
end AmazonSimilarSearch.Snapshot
