import AmazonSimilarSearch.Foundation.Checked
import AmazonSimilarSearch.Foundation.PosixFiles

/-!
# Protected paths and trees

The permission checks of `preflight.py`. They look at one static picture of a file
system: every component of a path with its parent, and every entry that `os.walk`
shows below a root. The file systems here have neither ACLs nor hard links, so the
checks for these never fire.
-/
namespace AmazonSimilarSearch.Preflight
open Foundation Posix

/-- What the coordinator may do, and who it is. -/
structure Coordinator where
  effectiveUid : Uid
  searchable : Inode → Bool
  listable : Inode → Bool

inductive OsError where
  | notFound
  | other
  deriving DecidableEq, Repr

inductive PreflightError where
  | preflight (message : String)
  | os (error : OsError)
  deriving DecidableEq, Repr

abbrev Checked (α : Type) := Except PreflightError α

/-- `if not p: raise PreflightError(message)` -/
def require (p : Prop) [Decidable p] (message : String) : Checked Unit :=
  ensure p (.preflight message)

def showPath (parts : List String) : String := "/" ++ "/".intercalate parts

section
variable (coordinator : Coordinator) (fs : FileSystem) (candidateUid : Uid)

/-- `ensure_separate_candidate_uid`; a UID is a natural number here. -/
def ensureSeparateCandidateUid : Checked Unit := do
  require (candidateUid ≠ coordinator.effectiveUid)
    "coordinator and candidate require a different OS UID"
  require (candidateUid ≠ 0) "candidate execution as root is forbidden"

/-- `_candidate_may_write`: every group-writable object counts as writable. -/
def candidateMayWrite (metadata : Metadata) : Bool :=
  if metadata.owner = candidateUid && metadata.mode.ownerMayWrite then true
  else metadata.mode.othersMayWrite

/-- `_candidate_may_replace` -/
def candidateMayReplace (parent child : Metadata) : Bool :=
  if candidateMayWrite candidateUid parent = false then false
  else if parent.mode.isSticky = false then true
  else candidateUid = parent.owner || candidateUid = child.owner

/-- `os.lstat(directory / name)` -/
def lstatEntry (directory : Inode) (name : String) : Except OsError (Inode × Node) := do
  ensure (coordinator.searchable directory = true) OsError.other
  match fs.lookup directory name with
  | none => .error .notFound
  | some child =>
      let node ← required .other (fs.node child)
      pure (child, node)

def Content.isSymlink : Content → Bool
  | .symlink _ => true
  | _ => false

def componentError : OsError → PreflightError
  | .notFound => .preflight "protected asset path does not exist"
  | .other => .preflight "protected asset path could not be inspected safely"

/-- The loop over the components below a directory; the last one is returned. -/
def checkComponents : List String → Inode × Node → List String → Checked (Inode × Node)
  | _, found, [] => .ok found
  | walked, (directory, parent), part :: parts => do
      let (child, node) ← (lstatEntry coordinator fs directory part).mapError componentError
      let current := walked ++ [part]
      require (Content.isSymlink node.content = false)
        ("protected path must not contain symlinks: " ++ showPath current)
      require (candidateMayReplace candidateUid parent.metadata node.metadata = false)
        ("candidate UID can replace a protected path component: " ++ showPath current)
      checkComponents current (child, node) parts

/-- `assert_candidate_cannot_mutate` for the parts of an absolute path. -/
def assertCandidateCannotMutate (path : List String) : Checked (Inode × Node) := do
  ensureSeparateCandidateUid coordinator candidateUid
  require (path ≠ []) "protected asset path must name a non-root absolute path"
  let anchor ← (required .other (fs.node fs.root)).mapError componentError
  let (inode, node) ← checkComponents coordinator fs candidateUid [] (fs.root, anchor) path
  require (candidateMayWrite candidateUid node.metadata = false)
    "candidate UID can modify a protected asset"
  require (node.metadata.owner ≠ candidateUid) "candidate UID must not own a protected asset"
  pure (inode, node)

end

/-! ## Trees -/

def maxProtectedTreeEntries : ℕ := 200000
def maxProtectedTreeBytes : ℕ := 512 * 1024 * 1024
def maxProtectedTreeFileBytes : ℕ := 128 * 1024 * 1024

structure ProtectedTreeLimits where
  maxEntries : ℕ := maxProtectedTreeEntries
  maxTotalBytes : ℕ := maxProtectedTreeBytes
  maxFileBytes : ℕ := maxProtectedTreeFileBytes

/-- `_validate_tree_limits` -/
def validateTreeLimits (limits : ProtectedTreeLimits) : Checked Unit := do
  require (1 ≤ limits.maxEntries ∧ limits.maxEntries ≤ maxProtectedTreeEntries)
    "protected tree entry limit is invalid"
  require (1 ≤ limits.maxTotalBytes ∧ limits.maxTotalBytes ≤ maxProtectedTreeBytes)
    "protected tree total byte limit is invalid"
  require (1 ≤ limits.maxFileBytes ∧ limits.maxFileBytes ≤ maxProtectedTreeFileBytes)
    "protected tree file byte limit is invalid"
  require (limits.maxFileBytes ≤ limits.maxTotalBytes)
    "protected tree file limit must not exceed its total byte limit"

structure ProtectedTreeEvidence where
  root : List String
  candidateUid : Uid
  device : ℕ
  entryCount : ℕ
  totalBytes : ℕ

/-- The number of entries seen, and the bytes of the files among them. -/
structure Tally where
  entryCount : ℕ
  totalBytes : ℕ

section
variable (coordinator : Coordinator) (fs : FileSystem) (candidateUid rootDevice : ℕ)
  (sameDevice : Bool) (limits : ProtectedTreeLimits)

def Content.isDirectory : Content → Bool
  | .directory _ => true
  | _ => false

def Content.isFile : Content → Bool
  | .file _ => true
  | _ => false

/-- `_assert_tree_entry_protected` -/
def assertTreeEntryProtected (path : List String) (node : Node) : Checked Unit := do
  require (Content.isSymlink node.content = false)
    ("protected tree must not contain symlinks: " ++ showPath path)
  require (Content.isDirectory node.content = true ∨ Content.isFile node.content = true)
    ("protected tree contains an unsupported entry: " ++ showPath path)
  require (¬ (sameDevice = true ∧ node.metadata.device ≠ rootDevice))
    ("protected tree must not cross a nested filesystem mount: " ++ showPath path)
  require (node.metadata.owner ≠ candidateUid)
    ("candidate UID owns a protected tree entry: " ++ showPath path)
  require (candidateMayWrite candidateUid node.metadata = false)
    ("candidate UID can modify a protected tree entry: " ++ showPath path)

/-- The byte limits, for a regular file. -/
def addBytes (path : List String) (tally : Tally) : Content → Checked Tally
  | .file data => do
      require (data.length ≤ limits.maxFileBytes)
        ("protected tree file exceeds the byte limit: " ++ showPath path)
      require (tally.totalBytes + data.length ≤ limits.maxTotalBytes)
        "protected tree exceeds the total byte limit"
      pure { tally with totalBytes := tally.totalBytes + data.length }
  | _ => pure tally

/-- One round of the inner loop. -/
def scanEntry (path : List String) (directory : Inode) (tally : Tally) (name : String) :
    Checked (Tally × Inode × Node) := do
  let counted := { tally with entryCount := tally.entryCount + 1 }
  require (counted.entryCount ≤ limits.maxEntries) "protected tree exceeds the entry limit"
  let (child, node) ← (lstatEntry coordinator fs directory name).mapError .os
  let childPath := path ++ [name]
  assertTreeEntryProtected candidateUid rootDevice sameDevice childPath node
  let added ← addBytes limits childPath counted node.content
  pure (added, child, node)

abbrev Subdirectories := List (List String × Inode)

/-- The inner loop, which also collects the directories to walk next. -/
def scanEntries (path : List String) (directory : Inode) :
    Tally → List String → Checked (Tally × Subdirectories)
  | tally, [] => .ok (tally, [])
  | tally, name :: names => do
      let (tally, child, node) ←
        scanEntry coordinator fs candidateUid rootDevice sameDevice limits path directory tally name
      let (tally, subdirectories) ← scanEntries path directory tally names
      pure (tally, if Content.isDirectory node.content then (path ++ [name], child) :: subdirectories
        else subdirectories)

def namesDirectory (directory : Inode) (name : String) : Bool :=
  match (fs.lookup directory name).bind fs.node with
  | some node => Content.isDirectory node.content
  | none => false

/-- `[*directories, *filenames]` -/
def walkedNames (directory : Inode) : List String :=
  let names := (fs.entries directory).map Prod.fst
  names.filter (namesDirectory fs directory) ++ names.filter (! namesDirectory fs directory ·)

variable {coordinator fs candidateUid rootDevice sameDevice limits} in
theorem scanEntry_count {path : List String} {directory : Inode} {tally after : Tally}
    {name : String} {child : Inode} {node : Node}
    (h : scanEntry coordinator fs candidateUid rootDevice sameDevice limits path directory tally name
      = .ok (after, child, node)) :
    after.entryCount = tally.entryCount + 1 ∧ after.entryCount ≤ limits.maxEntries := by
  simp only [scanEntry, require, bind_eq_ok_iff, ensure_eq_ok_iff, pure_eq_ok_iff,
    Prod.mk.injEq] at h
  obtain ⟨_, hcount, _, _, _, _, added, hadded, rfl, -, -⟩ := h
  have hsame : added.entryCount = tally.entryCount + 1 := by
    unfold addBytes at hadded
    split at hadded
    · simp only [require, bind_eq_ok_iff, ensure_eq_ok_iff, pure_eq_ok_iff] at hadded
      obtain ⟨_, _, _, _, rfl⟩ := hadded
      rfl
    · rw [pure_eq_ok_iff] at hadded
      rw [← hadded]
  rw [hsame]
  exact ⟨rfl, hcount⟩

variable {coordinator fs candidateUid rootDevice sameDevice limits} in
/-- Every directory that is collected was counted as an entry. -/
theorem scanEntries_count {path : List String} {directory : Inode} {names : List String}
    {tally after : Tally} {subdirectories : Subdirectories}
    (h : scanEntries coordinator fs candidateUid rootDevice sameDevice limits path directory tally
      names = .ok (after, subdirectories)) :
    tally.entryCount + subdirectories.length ≤ after.entryCount ∧
      (after.entryCount ≤ limits.maxEntries ∨ after.entryCount = tally.entryCount) := by
  induction names generalizing tally after subdirectories with
  | nil =>
      simp only [scanEntries, Except.ok.injEq, Prod.mk.injEq] at h
      obtain ⟨rfl, rfl⟩ := h
      simp
  | cons name names ih =>
      simp only [scanEntries, bind_eq_ok_iff, pure_eq_ok_iff, Prod.mk.injEq] at h
      obtain ⟨⟨middle, child, node⟩, hentry, ⟨last, rest⟩, hrest, rfl, rfl⟩ := h
      obtain ⟨hcount, hlimit⟩ := scanEntry_count hentry
      obtain ⟨hlength, hafter⟩ := ih hrest
      have hbound : (if Content.isDirectory node.content then (path ++ [name], child) :: rest
          else rest).length ≤ rest.length + 1 := by
        split_ifs <;> simp
      dsimp only at hlength hafter hbound ⊢
      omega

/-- `os.walk`, which skips a directory that it cannot list. -/
def walkTree (tally : Tally) (pending : Subdirectories) : Checked Tally :=
  match pending with
  | [] => .ok tally
  | (path, directory) :: pending =>
      if coordinator.listable directory = false then walkTree tally pending
      else do
        let node ← (required .other (fs.node directory)).mapError .os
        assertTreeEntryProtected candidateUid rootDevice sameDevice path node
        match _h : scanEntries coordinator fs candidateUid rootDevice sameDevice limits path directory
            tally (walkedNames fs directory) with
        | .error error => .error error
        | .ok (tally, subdirectories) => walkTree tally (subdirectories ++ pending)
termination_by 2 * (limits.maxEntries - tally.entryCount) + pending.length
decreasing_by
  · simp
  · obtain ⟨hlength, hafter⟩ := scanEntries_count _h
    simp only [List.length_append, List.length_cons]
    omega

/-- `assert_candidate_cannot_mutate_tree` -/
def assertCandidateCannotMutateTree (root : List String) : Checked ProtectedTreeEvidence := do
  validateTreeLimits limits
  let (inode, node) ← assertCandidateCannotMutate coordinator fs candidateUid root
  require (Content.isDirectory node.content = true) "protected tree root must be a directory"
  let device := node.metadata.device
  assertTreeEntryProtected candidateUid device sameDevice root node
  let tally ← walkTree coordinator fs candidateUid device sameDevice limits ⟨0, 0⟩ [(root, inode)]
  pure ⟨root, candidateUid, device, tally.entryCount, tally.totalBytes⟩

end
end AmazonSimilarSearch.Preflight
