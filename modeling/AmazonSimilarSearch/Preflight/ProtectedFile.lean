import AmazonSimilarSearch.Foundation.Digest
import AmazonSimilarSearch.Preflight.Soundness

/-!
# Reading a protected file

`read_protected_file` of `preflight.py`: a path that the candidate cannot change is opened name by
name, without following a link, and its file is hashed. In one static picture of a file system the
checks against a file that changes meanwhile never fire.
-/
namespace AmazonSimilarSearch.Preflight
open Foundation Posix

def maxProtectedFileBytes : ℕ := 512 * 1024 * 1024

/-- `RawAssetEvidence` without the path, the inode and the owner -/
structure RawAssetEvidence where
  sha256 : Sha256
  size : ℕ
  device : ℕ
  mode : Mode

section
variable (H : HashFunction) (coordinator : Coordinator) (fs : FileSystem) (candidateUid : Uid)

/-- The permission to read: whoever may list a directory may open it. -/
def Coordinator.readable (coordinator : Coordinator) (inode : Inode) : Bool :=
  coordinator.listable inode

def unsafeComponent : PreflightError :=
  .preflight "protected asset path contains a symlink or unsafe component"

/-- `os.open(name, flags | O_NOFOLLOW, dir_fd=directory)` -/
def openEntry (directory : Inode) (name : String) : Checked (Inode × Node) := do
  let (child, node) ←
    (lstatEntry coordinator fs directory name).mapError fun _ => unsafeComponent
  ensure (Content.isSymlink node.content = false ∧ coordinator.readable child = true)
    unsafeComponent
  pure (child, node)

/-- The loop over the components below an open directory. -/
def openComponents : Inode → List String → Checked Node
  | _, [] => .error (.preflight "protected asset must be a regular file")
  | directory, [name] => do
      let (_, node) ← openEntry coordinator fs directory name
      pure node
  | directory, name :: names => do
      let (child, node) ← openEntry coordinator fs directory name
      ensure (Content.isDirectory node.content = true) unsafeComponent
      openComponents child names

/-- `_open_regular_nofollow` -/
def openRegularNofollow (path : List String) : Checked Node := do
  ensure (path ≠ []) (PreflightError.preflight "protected asset must be a regular file")
  ensure (coordinator.readable fs.root = true) (PreflightError.os .other)
  openComponents coordinator fs fs.root path

/-- `read_protected_file` -/
def readProtectedFile (path : List String) (label : String) (expectedSha256 : Option String)
    (maxBytes : ℕ) : Checked (RawAssetEvidence × Bytes) := do
  require (∀ expected ∈ expectedSha256, matchesLowerHex 64 expected = true)
    (label ++ " expected SHA-256 must be lowercase hexadecimal")
  require (1 ≤ maxBytes ∧ maxBytes ≤ maxProtectedFileBytes) (label ++ " byte limit is invalid")
  let _ ← assertCandidateCannotMutate coordinator fs candidateUid path
  let node ← openRegularNofollow coordinator fs path
  match node.content with
  | .file data => do
      require (data.length ≤ maxBytes) (label ++ " exceeds the byte limit")
      require (∀ expected ∈ expectedSha256, (H data).text = expected)
        (label ++ " SHA-256 does not match the trusted runtime manifest")
      pure (⟨H data, data.length, node.metadata.device, node.metadata.mode⟩, data)
  | _ => .error (.preflight (label ++ " must be a regular file"))

end

/-! ## What is known of a file that was read -/

section
variable {H : HashFunction} {coordinator : Coordinator} {fs : FileSystem} {uid : Uid}

/-- Every directory from here to the last name can be read. -/
def Opened (coordinator : Coordinator) (fs : FileSystem) (start : Inode) (names : List String) :
    Prop :=
  ∀ above inode, above <+: names → above ≠ names → fs.descend start above = some inode →
    coordinator.readable inode = true

theorem openEntry_spec {directory child : Inode} {name : String} {node : Node}
    (h : openEntry coordinator fs directory name = .ok (child, node)) :
    fs.lookup directory name = some child ∧ fs.node child = some node ∧
      coordinator.readable child = true := by
  simp only [openEntry, bind_eq_ok_iff, mapError_eq_ok_iff, ensure_eq_ok_iff, pure_eq_ok_iff,
    Prod.mk.injEq] at h
  obtain ⟨⟨found, held⟩, hentry, _, ⟨-, hreadable⟩, rfl, rfl⟩ := h
  obtain ⟨hlookup, hnode⟩ := lstatEntry_spec hentry
  exact ⟨hlookup, hnode, hreadable⟩

theorem opened_cons {start child : Inode} {name : String} {names : List String}
    (hstart : coordinator.readable start = true) (hlookup : fs.lookup start name = some child)
    (hrest : Opened coordinator fs child names) :
    Opened coordinator fs start (name :: names) := by
  intro above inode habove hne hdescend
  cases above with
  | nil =>
      rw [FileSystem.descend, Option.some.injEq] at hdescend
      rwa [← hdescend]
  | cons next above =>
      obtain ⟨rfl, hbegin⟩ := List.cons_prefix_cons.mp habove
      rw [FileSystem.descend, hlookup] at hdescend
      exact hrest above inode hbegin (fun heq => hne (by rw [heq])) hdescend

theorem openComponents_spec {names : List String} {start : Inode} {node : Node}
    (hstart : coordinator.readable start = true)
    (h : openComponents coordinator fs start names = .ok node) :
    (∃ inode, fs.descend start names = some inode ∧ fs.node inode = some node) ∧
      Opened coordinator fs start names := by
  induction names generalizing start with
  | nil => cases h
  | cons name names ih =>
      cases names with
      | nil =>
          simp only [openComponents, bind_eq_ok_iff, pure_eq_ok_iff] at h
          obtain ⟨⟨child, held⟩, hentry, rfl⟩ := h
          obtain ⟨hlookup, hnode, -⟩ := openEntry_spec hentry
          refine ⟨⟨child, by rw [FileSystem.descend, hlookup]; rfl, hnode⟩, ?_⟩
          refine opened_cons hstart hlookup fun above inode habove hne _ => ?_
          exact absurd (List.prefix_nil.mp habove) hne
      | cons next names =>
          simp only [openComponents, bind_eq_ok_iff, ensure_eq_ok_iff] at h
          obtain ⟨⟨child, held⟩, hentry, _, -, hrest⟩ := h
          obtain ⟨hlookup, -, hreadable⟩ := openEntry_spec hentry
          obtain ⟨⟨inode, hdescend, hnode⟩, hopened⟩ := ih hreadable hrest
          refine ⟨⟨inode, ?_, hnode⟩, opened_cons hstart hlookup hopened⟩
          rw [FileSystem.descend, hlookup]
          exact hdescend

/-- What is known of a file that was read. -/
structure Read (H : HashFunction) (coordinator : Coordinator) (uid : Uid) (fs : FileSystem)
    (path : List String) (evidence : RawAssetEvidence) (data : Bytes) : Prop where
  accepted : ∃ inode node, Accepted uid fs path inode node ∧ node.content = .file data ∧
    node.metadata.device = evidence.device ∧ node.metadata.mode = evidence.mode
  digest : evidence.sha256 = H data
  size : evidence.size = data.length
  opened : Opened coordinator fs fs.root path

theorem read_of_readProtectedFile {path : List String} {label : String}
    {expectedSha256 : Option String} {maxBytes : ℕ} {evidence : RawAssetEvidence} {data : Bytes}
    (h : readProtectedFile H coordinator fs uid path label expectedSha256 maxBytes =
      .ok (evidence, data)) :
    Read H coordinator uid fs path evidence data ∧ data.length ≤ maxBytes ∧
      ∀ expected ∈ expectedSha256, (H data).text = expected := by
  simp only [readProtectedFile, openRegularNofollow, require, bind_eq_ok_iff,
    ensure_eq_ok_iff] at h
  obtain ⟨_, -, _, -, ⟨inode, node⟩, hpath, opened, ⟨_, -, _, hroot, hopen⟩, h⟩ := h
  obtain ⟨⟨found, hdescend, hnode⟩, hreadable⟩ := openComponents_spec hroot hopen
  have haccepted := accepted_of_assert hpath
  have hsame : found = inode := Option.some.inj (hdescend.symm.trans haccepted.resolves)
  subst hsame
  have hheld : opened = node := Option.some.inj (hnode.symm.trans haccepted.node_eq)
  subst hheld
  cases hcontent : opened.content with
  | file bytes =>
      rw [hcontent] at h
      simp only [bind_eq_ok_iff, ensure_eq_ok_iff, pure_eq_ok_iff, Prod.mk.injEq] at h
      obtain ⟨_, hsize, _, hdigest, rfl, rfl⟩ := h
      exact ⟨⟨⟨found, opened, haccepted, hcontent, rfl, rfl⟩, rfl, rfl, hreadable⟩, hsize, hdigest⟩
  | directory entries => rw [hcontent] at h; cases h
  | symlink target => rw [hcontent] at h; cases h
  | special => rw [hcontent] at h; cases h

end
end AmazonSimilarSearch.Preflight
