import AmazonSimilarSearch.Snapshot.VerifyExact

/-!
# An accepted snapshot stays as it is

The verifier looks at one moment. What it has accepted still holds after whatever the candidate
does, exactly when the candidate owns no directory on the way to the snapshot or below its tree.
-/
namespace AmazonSimilarSearch.Snapshot
open Foundation Posix
open Packet (SnapshotFile)
open Preflight (Accepted Coordinator NoOwnedDirectory Protected descend_append descend_run_of_fixed
  lost_of_owned mayWrite_of_candidateMayWrite protected_of_accepted resolve_append resolve_run)
open Review (pathParts)

/-- The candidate owns no directory at a path or below it. -/
def OwnsNoDirectory (uid : Uid) (fs : FileSystem) (path : List String) : Prop :=
  ∀ names inode node, fs.resolve (path ++ names) = some inode → fs.node inode = some node →
    Preflight.Content.isDirectory node.content = true → node.metadata.owner ≠ uid

/-- What was verified still holds, whatever the candidate does. -/
def Stable (H : HashFunction) (uid : Uid) (fs : FileSystem) (root : List String)
    (evidence : SnapshotEvidence) : Prop :=
  ∀ fs', Reaches uid fs fs' → Holds H fs' root evidence

/-! ## Paths with one more name -/

section Paths

variable {uid : Uid} {fs fs' : FileSystem}

theorem descend_snoc {start directory : Inode} {names : List String} {name : String}
    (h : fs.descend start names = some directory) :
    fs.descend start (names ++ [name]) = fs.lookup directory name := by
  rw [descend_append, h, Option.bind_some, FileSystem.descend]
  cases fs.lookup directory name <;> rfl

theorem noOwnedDirectory_snoc {start directory : Inode} {names : List String} {name : String}
    {node : Node} (h : NoOwnedDirectory uid fs start names)
    (hdescend : fs.descend start names = some directory) (hnode : fs.node directory = some node)
    (howner : node.metadata.owner ≠ uid) : NoOwnedDirectory uid fs start (names ++ [name]) := by
  induction names generalizing start with
  | nil =>
      rw [FileSystem.descend, Option.some.injEq] at hdescend
      subst hdescend
      intro child _
      refine ⟨fun parent held hparent _ howned => ?_, trivial⟩
      rw [hnode, Option.some.injEq] at hparent
      subst hparent
      exact absurd howned howner
  | cons first names ih =>
      intro child hlookup
      rw [FileSystem.descend, hlookup, Option.bind_some] at hdescend
      obtain ⟨hfirst, hrest⟩ := h child hlookup
      exact ⟨hfirst, ih hrest hdescend⟩

theorem pinnedPath_snoc {start directory child : Inode} {names : List String} {name : String}
    (h : PinnedPath uid fs start names) (hdescend : fs.descend start names = some directory)
    (hpinned : Pinned uid fs directory name child) : PinnedPath uid fs start (names ++ [name]) := by
  induction names generalizing start with
  | nil =>
      rw [FileSystem.descend, Option.some.injEq] at hdescend
      subst hdescend
      exact ⟨child, hpinned, trivial⟩
  | cons first names ih =>
      obtain ⟨next, hfirst, hrest⟩ := h
      rw [FileSystem.descend, hfirst.1, Option.bind_some] at hdescend
      exact ⟨next, hfirst, ih hrest hdescend⟩

theorem descend_congr (h : ∀ directory name, fs'.lookup directory name = fs.lookup directory name)
    (start : Inode) (names : List String) : fs'.descend start names = fs.descend start names := by
  induction names generalizing start with
  | nil => rfl
  | cons name names ih =>
      rw [FileSystem.descend, FileSystem.descend, h]
      cases fs.lookup start name with
      | none => rfl
      | some child => exact ih child

end Paths

/-! ## Directories that nobody writes -/

section Directories

variable {uid : Uid} {fs : FileSystem}

/-- A directory of mode 0555 that the candidate does not own is out of its reach. -/
theorem not_exposed_of_mode {node : Node} (hmode : node.metadata.mode = 0o555#12)
    (howner : node.metadata.owner ≠ uid) : ¬ Exposed uid node := by
  have hwrite : mayWrite uid node.metadata = false := by
    rw [mayWrite, if_neg howner, hmode]
    decide
  unfold Exposed
  split
  · exact not_false
  · exact howner
  · rw [hwrite]
    simpa using howner

theorem pinned_of_mode {directory child : Inode} {name : String} {parent node : Node}
    (hlookup : fs.lookup directory name = some child) (hparent : fs.node directory = some parent)
    (hnode : fs.node child = some node) (hmode : parent.metadata.mode = 0o555#12)
    (howner : parent.metadata.owner ≠ uid) : Pinned uid fs directory name child := by
  refine ⟨hlookup, parent, node, hparent, hnode, .inr ⟨howner, .inl ?_⟩⟩
  rw [mayWrite, if_neg howner, hmode]
  decide

theorem owner_ne_of_fixed {inode : Inode} {node : Node} (h : Fixed uid fs inode)
    (hnode : fs.node inode = some node)
    (hdirectory : Preflight.Content.isDirectory node.content = true) :
    node.metadata.owner ≠ uid := by
  obtain ⟨held, hheld, hfixed⟩ := h
  rw [hnode, Option.some.injEq] at hheld
  subst hheld
  intro howner
  refine hfixed ?_
  cases hcontent : node.content with
  | directory entries =>
      rw [Exposed, hcontent]
      exact .inl howner
  | file data => rw [hcontent] at hdirectory; cases hdirectory
  | symlink target => rw [hcontent] at hdirectory; cases hdirectory
  | special => rw [hcontent] at hdirectory; cases hdirectory

end Directories

/-! ## Pictures that last -/

section Stability

variable {H : HashFunction} {coordinator : Coordinator} {uid : Uid} {root : List String}
  {evidence : SnapshotEvidence}

/-- A picture lasts when its nodes cannot be changed. -/
theorem Pictures.run {fs fs' : FileSystem} {tree : Inode} {files : List SnapshotFile}
    (h : Pictures H fs tree files) (hrun : Reaches uid fs fs')
    (hfixed : ∀ names inode, fs.descend tree names = some inode → Fixed uid fs inode) :
    Pictures H fs' tree files := by
  have hdescend : ∀ names, fs'.descend tree names = fs.descend tree names := fun names =>
    descend_run_of_fixed (fun above inode _ habove => hfixed above inode habove) hrun
  constructor
  · intro name names
    rw [hdescend]
    exact h.exists_iff name names
  · intro file hfile
    obtain ⟨inode, node, data, hpath, hnode, hrest⟩ := h.file file hfile
    exact ⟨inode, node, data, by rw [hdescend, hpath],
      by rw [(fixed_run (hfixed _ inode hpath) hrun).2, hnode], hrest⟩
  · intro names inode hpath hnot
    rw [hdescend] at hpath
    obtain ⟨node, hnode, hrest⟩ := h.directory names inode hpath hnot
    exact ⟨node, by rw [(fixed_run (hfixed names inode hpath) hrun).2, hnode], hrest⟩

/-- Below the tree nothing can be changed: files were protected when they were read, and
directories cannot be written. -/
theorem Compared.fixed {fs : NamedFileSystem} {rootDevice : ℕ} {path : List String} {tree : Inode}
    {files : List SnapshotFile} {found : Found}
    (h : Compared H coordinator fs.toFileSystem uid rootDevice path tree files found)
    (hpictures : Pictures H fs.toFileSystem tree files)
    (howner : OwnsNoDirectory uid fs.toFileSystem path) {names : List String} {inode : Inode}
    (hdescend : fs.descend tree names = some inode) : Fixed uid fs.toFileSystem inode := by
  by_cases hfile : ∃ file ∈ files, names = pathParts file.path
  · obtain ⟨file, hmem, rfl⟩ := hfile
    obtain ⟨data, hpresent⟩ := h.present file hmem
    obtain ⟨held, node, haccepted, -⟩ := hpresent.read
    have hresolve := haccepted.resolves
    rw [resolve_append h.resolves, hdescend, Option.some.injEq] at hresolve
    rw [hresolve]
    exact haccepted.fixed
  · obtain ⟨node, hnode, hdirectory, hmode⟩ := hpictures.directory names inode hdescend
      fun file hmem heq => hfile ⟨file, hmem, heq⟩
    refine ⟨node, hnode, not_exposed_of_mode hmode (howner names inode node ?_ hnode hdirectory)⟩
    rw [resolve_append h.resolves]
    exact hdescend

theorem stable_of_owned {fs : NamedFileSystem} {manifest : Manifest} {files : List SnapshotFile}
    {tree : Inode} (hlists : ListsReadOnly coordinator fs.toFileSystem)
    (h : Verification H coordinator fs.toFileSystem uid root evidence manifest files tree)
    (hway : NoOwnedDirectory uid fs.toFileSystem fs.root root)
    (hbelow : OwnsNoDirectory uid fs.toFileSystem (root ++ ["tree"])) :
    Stable H uid fs.toFileSystem root evidence := by
  intro fs' hrun
  obtain ⟨rootInode, rootNode, haccepted, hdirectory, hmode⟩ := h.accepted
  have howner := owner_ne_of_fixed haccepted.fixed haccepted.node_eq hdirectory
  obtain ⟨read, raw, hread, hload, hdigest⟩ := h.loaded
  obtain ⟨inode, node, hmanifest, hcontent, -⟩ := hread.accepted
  obtain ⟨treeNode, htreeNode, htreeDirectory, htreeMode⟩ := h.directory
  obtain ⟨rootDevice, found, hcompared⟩ := h.compared
  have hpictures := hcompared.pictures (hlists tree treeNode htreeNode htreeDirectory htreeMode)
    htreeNode htreeDirectory
  have hlookup : fs.lookup rootInode "tree" = some tree :=
    (descend_snoc haccepted.resolves).symm.trans hcompared.resolves
  have hpinned : PinnedPath uid fs.toFileSystem fs.root (root ++ ["tree"]) :=
    pinnedPath_snoc (haccepted.pinned hway) haccepted.resolves
      (pinned_of_mode hlookup haccepted.node_eq htreeNode hmode howner)
  have hraw : contentAt fs' (root ++ ["manifest.json"]) = some raw := by
    have hprotected := protected_of_accepted hmanifest
      (noOwnedDirectory_snoc hway haccepted.resolves haccepted.node_eq howner)
    obtain ⟨inode', node', hresolve, hnode, hresolve', hnode'⟩ := hprotected fs' hrun
    have hsame : inode' = inode := Option.some.inj (hresolve.symm.trans hmanifest.resolves)
    subst hsame
    have hheld : node' = node := Option.some.inj (hnode.symm.trans hmanifest.node_eq)
    subst hheld
    rw [contentAt, hresolve', Option.bind_some, hnode', Option.bind_some, hcontent, fileData]
  exact ⟨raw, manifest, files, tree, hraw, hload, hdigest, h.manifested,
    by rw [resolve_run hpinned hrun]; exact hcompared.resolves,
    hpictures.run hrun fun names inode hpath => hcompared.fixed hpictures hbelow hpath⟩

/-- The owner of a directory below the tree makes it writable. -/
theorem ownsNoDirectory_of_stable {fs : FileSystem}
    (h : Stable H uid fs root evidence) : OwnsNoDirectory uid fs (root ++ ["tree"]) := by
  intro names inode node hresolve hnode hdirectory howner
  have hlink : ∀ target, node.content ≠ .symlink target := by
    intro target hcontent
    rw [hcontent] at hdirectory
    cases hdirectory
  have hpermitted : Permitted uid fs (.chmod inode 0) := ⟨node, hnode, howner, hlink⟩
  obtain ⟨-, -, files, tree, -, -, -, -, htree, hpictures⟩ := h _ (reaches_apply hpermitted)
  have hsame : ∀ directory name,
      (Operation.apply uid fs (.chmod inode 0)).lookup directory name = fs.lookup directory name :=
    fun directory name => lookup_modify fun _ _ => rfl
  have hresolve' : (Operation.apply uid fs (.chmod inode 0)).resolve (root ++ ["tree"] ++ names) =
      some inode := by
    rw [FileSystem.resolve, descend_congr hsame, Operation.apply, root_modify]
    exact hresolve
  rw [resolve_append htree] at hresolve'
  have hchanged := node_modify_self hnode fun node =>
    { node with metadata := { node.metadata with mode := 0 } }
  by_cases hfile : ∃ file ∈ files, names = pathParts file.path
  · obtain ⟨file, hmem, rfl⟩ := hfile
    obtain ⟨found, held, data, hpath, hheld, hcontent, -⟩ := hpictures.file file hmem
    rw [hresolve', Option.some.injEq] at hpath
    subst hpath
    have heq := Option.some.inj (hheld.symm.trans hchanged)
    rw [heq] at hcontent
    rw [hcontent] at hdirectory
    cases hdirectory
  · obtain ⟨held, hheld, -, hmode⟩ := hpictures.directory names inode hresolve'
      fun file hmem heq => hfile ⟨file, hmem, heq⟩
    have heq := Option.some.inj (hheld.symm.trans hchanged)
    rw [heq] at hmode
    have hzero : (0 : Mode) = 0o555#12 := hmode
    exact absurd hzero (by decide)

theorem noOwnedDirectory_of_stable {fs : FileSystem} (h : Stable H uid fs root evidence) :
    NoOwnedDirectory uid fs fs.root root := by
  by_contra howned
  obtain ⟨fs', hrun, hlost⟩ := lost_of_owned howned
  obtain ⟨-, -, -, tree, -, -, -, -, htree, -⟩ := h fs' hrun
  rw [FileSystem.resolve, descend_append, ← FileSystem.resolve, hlost] at htree
  cases htree

/-- What was accepted stays so, exactly when the candidate owns no directory on the way to the
snapshot or below its tree. -/
theorem verifyReadonlySnapshot_stable_iff {fs : NamedFileSystem}
    (hlists : ListsReadOnly coordinator fs.toFileSystem)
    (h : verifyReadonlySnapshot H coordinator fs.toFileSystem uid root = .ok evidence) :
    Stable H uid fs.toFileSystem root evidence ↔
      NoOwnedDirectory uid fs.toFileSystem fs.root root ∧
        OwnsNoDirectory uid fs.toFileSystem (root ++ ["tree"]) := by
  obtain ⟨manifest, files, tree, hverified⟩ := verification_of_verify h
  constructor
  · exact fun hstable => ⟨noOwnedDirectory_of_stable hstable, ownsNoDirectory_of_stable hstable⟩
  · intro howned
    exact stable_of_owned hlists hverified howned.1 howned.2

end Stability

theorem oneFile_stable_iff :
    Stable hiDigest 1000 oneFileSystem.toFileSystem oneFileRoot (oneFileEvidence 1000) ↔
      NoOwnedDirectory 1000 oneFileSystem.toFileSystem oneFileSystem.root oneFileRoot ∧
        OwnsNoDirectory 1000 oneFileSystem.toFileSystem (oneFileRoot ++ ["tree"]) :=
  verifyReadonlySnapshot_stable_iff (fun _ _ _ _ _ => rfl) oneFile_accepted

end AmazonSimilarSearch.Snapshot
