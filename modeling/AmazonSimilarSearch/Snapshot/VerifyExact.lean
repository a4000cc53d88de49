import AmazonSimilarSearch.Foundation.JsonSize
import AmazonSimilarSearch.Snapshot.ManifestEntries
import AmazonSimilarSearch.Snapshot.Walked

/-!
# A verified snapshot holds what its manifest lists

The verifier compares what it has read of the manifest with what it finds in a walk, as sets of
texts. Below the tree of an accepted snapshot there is exactly what the manifest lists.
-/
namespace AmazonSimilarSearch.Snapshot
open Foundation Posix
open Packet (SnapshotFile)
open Preflight (Coordinator Accepted Opened Read accepted_of_assert assertCandidateCannotMutate
  descend_append ensureSeparateCandidateUid openRegularNofollow readProtectedFile
  read_of_readProtectedFile resolve_append showPath)
open Review (pathParts pathRoot sensitivePathReason)

/-! ## The files -/

section Files

variable {H : HashFunction} {coordinator : Coordinator} {fs : FileSystem} {uid : Uid}
  {rootDevice : ℕ} {tree : List String}

/-- A file that is listed is there. -/
structure Present (H : HashFunction) (coordinator : Coordinator) (uid : Uid) (fs : FileSystem)
    (rootDevice : ℕ) (tree : List String) (file : SnapshotFile) (data : Bytes) : Prop where
  read : ∃ inode node, Accepted uid fs (tree ++ pathParts file.path) inode node ∧
    node.content = .file data ∧ node.metadata.device = rootDevice ∧
    node.metadata.mode = fileMode file.mode
  size : data.length = file.size
  digest : (H data).text = file.sha256
  opened : Opened coordinator fs fs.root (tree ++ pathParts file.path)

theorem present_of_verifyFile {file : SnapshotFile}
    (h : verifyFile H coordinator fs uid rootDevice tree file = .ok ⟨⟩) :
    ∃ data, Present H coordinator uid fs rootDevice tree file data := by
  simp only [verifyFile, require, bind_eq_ok_iff, ensure_eq_ok_iff, mapError_eq_ok_iff] at h
  obtain ⟨_, -, ⟨evidence, data⟩, hread, _, hdevice, hmode, hsize⟩ := h
  obtain ⟨hread, -, hdigest⟩ := read_of_readProtectedFile hread
  obtain ⟨inode, node, haccepted, hcontent, hnodeDevice, hnodeMode⟩ := hread.accepted
  exact ⟨data, ⟨inode, node, haccepted, hcontent, hnodeDevice.trans hdevice,
    hnodeMode.trans hmode⟩, hread.size ▸ hsize, hdigest _ rfl, hread.opened⟩

/-- What the loop over the entries establishes. -/
theorem verifyEntries_eq_ok {previousPath : String} {totalBytes : ℕ} {items : List Json}
    {files : List SnapshotFile} (hordered : ∀ item ∈ items, item.IsOrdered)
    (htotal : totalBytes ≤ maxTotalBytes)
    (h : verifyEntries H coordinator fs uid rootDevice tree previousPath totalBytes items =
      .ok files) :
    items = files.map entryJson ∧ (previousPath :: files.map SnapshotFile.path).Pairwise (· < ·) ∧
      totalBytes + (files.map SnapshotFile.size).sum ≤ maxTotalBytes ∧
      ∀ file ∈ files, Listed file ∧ file.size ≤ maxFileBytes ∧
        ∃ data, Present H coordinator uid fs rootDevice tree file data := by
  induction items generalizing previousPath totalBytes files with
  | nil =>
      simp only [verifyEntries, pure_eq_ok_iff] at h
      subst h
      simpa using htotal
  | cons item items ih =>
      simp only [verifyEntries, require, bind_eq_ok_iff, ensure_eq_ok_iff, pure_eq_ok_iff] at h
      obtain ⟨file, hfile, _, hsize, _, hbytes, _, hpresent, rest, hrest, rfl⟩ := h
      obtain ⟨hitem, hitems⟩ := List.forall_mem_cons.mp hordered
      obtain ⟨rfl, hless, hlisted⟩ := listed_of_readEntry hitem hfile
      obtain ⟨rfl, hpairwise, hsum, hfiles⟩ := ih hitems hbytes hrest
      refine ⟨rfl, ?_, ?_, ?_⟩
      · rw [List.map_cons, List.pairwise_cons]
        refine ⟨?_, hpairwise⟩
        rw [List.forall_mem_cons]
        exact ⟨hless, fun path hpath => hless.trans (List.rel_of_pairwise_cons hpairwise hpath)⟩
      · rw [List.map_cons, List.sum_cons, ← Nat.add_assoc]
        exact hsum
      · rw [List.forall_mem_cons]
        exact ⟨⟨hlisted, hsize, present_of_verifyFile hpresent⟩, hfiles⟩

end Files

/-! ## The picture of a manifest -/

/-- Every name in a directory is one that can stand there. -/
structure NamedFileSystem extends FileSystem where
  named : ∀ directory name child, toFileSystem.lookup directory name = some child → IsName name

/-- Whoever acts may list a directory that everybody may read. -/
def ListsReadOnly (coordinator : Coordinator) (fs : FileSystem) : Prop :=
  ∀ inode node, fs.node inode = some node → Preflight.Content.isDirectory node.content = true →
    node.metadata.mode = 0o555#12 → coordinator.listable inode = true

/-- Below the tree there is what the files say, and nothing else. -/
structure Pictures (H : HashFunction) (fs : FileSystem) (tree : Inode)
    (files : List SnapshotFile) : Prop where
  exists_iff : ∀ name names, (∃ inode, fs.descend tree (name :: names) = some inode) ↔
    ∃ file ∈ files, name :: names <+: pathParts file.path
  file : ∀ file ∈ files, ∃ inode node data, fs.descend tree (pathParts file.path) = some inode ∧
    fs.node inode = some node ∧ node.content = .file data ∧
    node.metadata.mode = fileMode file.mode ∧ data.length = file.size ∧ (H data).text = file.sha256
  directory : ∀ names inode, fs.descend tree names = some inode →
    (∀ file ∈ files, names ≠ pathParts file.path) → ∃ node, fs.node inode = some node ∧
      Preflight.Content.isDirectory node.content = true ∧ node.metadata.mode = 0o555#12

theorem mem_parentPaths {path : String} {names : List String} (h : names ∈ parentPaths path) :
    names ≠ [] ∧ names <+: pathParts path ∧ names ≠ pathParts path := by
  obtain ⟨count, hcount, rfl⟩ := List.mem_map.mp h
  rw [List.range_eq_range', List.tail_range', List.mem_range'_1] at hcount
  have hlength : ((pathParts path).take count).length = count := by
    rw [List.length_take]
    omega
  refine ⟨?_, List.take_prefix _ _, fun heq => ?_⟩
  · intro hnil
    rw [hnil, List.length_nil] at hlength
    omega
  · rw [heq] at hlength
    omega

theorem isName_of_descend {fs : NamedFileSystem} {names : List String} {start inode : Inode}
    (h : fs.descend start names = some inode) : ∀ name ∈ names, IsName name := by
  induction names generalizing start with
  | nil => simp
  | cons name names ih =>
      obtain ⟨child, hlookup, hrest⟩ := Option.bind_eq_some_iff.mp h
      rw [List.forall_mem_cons]
      exact ⟨fs.named start name child hlookup, ih hrest⟩

/-- Where a path leads, every beginning of it leads somewhere. -/
theorem descend_of_prefix {fs : FileSystem} {above names : List String} {start inode : Inode}
    (hbegin : above <+: names) (h : fs.descend start names = some inode) :
    ∃ held, fs.descend start above = some held := by
  obtain ⟨rest, rfl⟩ := hbegin
  rw [descend_append] at h
  obtain ⟨held, hheld, -⟩ := Option.bind_eq_some_iff.mp h
  exact ⟨held, hheld⟩

theorem isDirectoryAt_of_prefix {fs : FileSystem} {above names : List String}
    {start held inode : Inode} (hbegin : above <+: names) (hne : above ≠ names)
    (h : fs.descend start names = some inode) (habove : fs.descend start above = some held) :
    isDirectoryAt fs held = true := by
  obtain ⟨rest, rfl⟩ := hbegin
  rw [descend_append, habove, Option.bind_some] at h
  cases rest with
  | nil => exact absurd (List.append_nil above).symm hne
  | cons next rest =>
      obtain ⟨child, hlookup, -⟩ := Option.bind_eq_some_iff.mp h
      exact isDirectoryAt_of_lookup hlookup

section Picture

variable {H : HashFunction} {coordinator : Coordinator} {fs : NamedFileSystem} {uid : Uid}
  {rootDevice : ℕ} {treePath : List String} {tree : Inode} {files : List SnapshotFile}
  {found : Found}

/-- What the verifier has established when it returns. -/
structure Compared (H : HashFunction) (coordinator : Coordinator) (fs : FileSystem) (uid : Uid)
    (rootDevice : ℕ) (treePath : List String) (tree : Inode) (files : List SnapshotFile)
    (found : Found) : Prop where
  resolves : fs.resolve treePath = some tree
  listed : ∀ file ∈ files, Listed file
  present : ∀ file ∈ files, ∃ data, Present H coordinator uid fs rootDevice treePath file data
  walked : Walked coordinator fs [] tree found
  files_eq : joined found.files = (files.map SnapshotFile.path).toFinset
  directories_eq : joined found.directories =
    joined (files.flatMap fun file => parentPaths file.path)

/-- A file that the walk has found is listed. -/
theorem Compared.file (h : Compared H coordinator fs.toFileSystem uid rootDevice treePath tree files
    found) {name : String} {names : List String} {inode : Inode}
    (hdescend : fs.descend tree (name :: names) = some inode)
    (hopened : Opened coordinator fs.toFileSystem tree (name :: names))
    (hfile : isDirectoryAt fs.toFileSystem inode = false) :
    ∃ file ∈ files, pathParts file.path = name :: names := by
  have hmem := h.walked.file_mem name names inode hdescend hopened hfile
  have hjoined : "/".intercalate (name :: names) ∈ joined found.files :=
    List.mem_toFinset.mpr (List.mem_map_of_mem hmem)
  rw [h.files_eq, List.mem_toFinset] at hjoined
  obtain ⟨file, hfile, hpath⟩ := List.mem_map.mp hjoined
  refine ⟨file, hfile, ?_⟩
  rw [hpath]
  exact pathParts_intercalate (List.cons_ne_nil _ _) (isName_of_descend hdescend)

/-- A directory that the walk has found is the parent of a listed file. -/
theorem Compared.directory (h : Compared H coordinator fs.toFileSystem uid rootDevice treePath tree
    files found) {name : String} {names : List String} {inode : Inode}
    (hdescend : fs.descend tree (name :: names) = some inode)
    (hopened : Opened coordinator fs.toFileSystem tree (name :: names))
    (hdirectory : isDirectoryAt fs.toFileSystem inode = true) :
    ∃ file ∈ files, name :: names <+: pathParts file.path ∧
      name :: names ≠ pathParts file.path := by
  have hmem := h.walked.directory_mem name names inode hdescend hopened hdirectory
  have hjoined : "/".intercalate (name :: names) ∈ joined found.directories :=
    List.mem_toFinset.mpr (List.mem_map_of_mem hmem)
  rw [h.directories_eq, joined, List.mem_toFinset] at hjoined
  obtain ⟨parent, hparent, heq⟩ := List.mem_map.mp hjoined
  obtain ⟨file, hfile, hparent⟩ := List.mem_flatMap.mp hparent
  obtain ⟨hne, hbegin, hproper⟩ := mem_parentPaths hparent
  have hnames : parent = name :: names := by
    refine eq_of_intercalate_eq hne (List.cons_ne_nil _ _) (fun part hpart => ?_)
      (isName_of_descend hdescend) heq
    exact isName_of_mem_pathParts (h.listed file hfile).relative (hbegin.subset hpart)
  subst hnames
  exact ⟨file, hfile, hbegin, hproper⟩

/-- The reader of a listed file has opened every directory above it. -/
theorem Compared.readable (h : Compared H coordinator fs.toFileSystem uid rootDevice treePath tree
    files found) {names : List String} {inode : Inode} {file : SnapshotFile} (hfile : file ∈ files)
    (hbegin : names <+: pathParts file.path) (hne : names ≠ pathParts file.path)
    (hdescend : fs.descend tree names = some inode) : coordinator.readable inode = true := by
  obtain ⟨data, hpresent⟩ := h.present file hfile
  refine hpresent.opened (treePath ++ names) inode (List.prefix_append_right_inj _ |>.mpr hbegin)
    (fun heq => hne (List.append_cancel_left heq)) ?_
  have hresolve : fs.resolve (treePath ++ names) = fs.descend tree names :=
    resolve_append h.resolves
  rw [hdescend] at hresolve
  exact hresolve

/-- The walk comes everywhere: the directories it passes are the parents of listed files. -/
theorem Compared.opened (h : Compared H coordinator fs.toFileSystem uid rootDevice treePath tree
    files found) (htree : coordinator.readable tree = true) :
    ∀ (names : List String) (inode : Inode), fs.descend tree names = some inode →
      Opened coordinator fs.toFileSystem tree names := by
  have key : ∀ (length : ℕ) (names : List String) (inode : Inode), names.length ≤ length →
      fs.descend tree names = some inode → Opened coordinator fs.toFileSystem tree names := by
    intro length
    induction length with
    | zero =>
        intro names inode hlength _ above held habove hne _
        rw [List.eq_nil_of_length_eq_zero (Nat.le_zero.mp hlength)] at habove hne
        exact absurd (List.prefix_nil.mp habove) hne
    | succ length ih =>
        intro names inode hlength hdescend above held habove hne hheld
        cases above with
        | nil =>
            rw [FileSystem.descend, Option.some.injEq] at hheld
            rwa [← hheld]
        | cons name above =>
            have hshorter : (name :: above).length ≤ length := by
              have hle := habove.length_le
              have hneLength : (name :: above).length ≠ names.length :=
                fun heq => hne (habove.eq_of_length heq)
              omega
            have hdirectory := isDirectoryAt_of_prefix habove hne hdescend hheld
            obtain ⟨file, hfile, hbegin, hproper⟩ :=
              h.directory hheld (ih _ held hshorter hheld) hdirectory
            exact h.readable hfile hbegin hproper hheld
  exact fun names inode => key names.length names inode le_rfl

/-- A listed file is found below the tree. -/
theorem Compared.descend (h : Compared H coordinator fs.toFileSystem uid rootDevice treePath tree
    files found) {file : SnapshotFile} (hfile : file ∈ files) :
    ∃ inode node data, fs.descend tree (pathParts file.path) = some inode ∧
      fs.node inode = some node ∧ node.content = .file data ∧
      node.metadata.mode = fileMode file.mode ∧ data.length = file.size ∧
      (H data).text = file.sha256 := by
  obtain ⟨data, hpresent⟩ := h.present file hfile
  obtain ⟨inode, node, haccepted, hcontent, -, hmode⟩ := hpresent.read
  have hresolve := haccepted.resolves
  rw [resolve_append h.resolves] at hresolve
  exact ⟨inode, node, data, hresolve, haccepted.node_eq, hcontent, hmode, hpresent.size,
    hpresent.digest⟩

theorem Compared.exists_iff (h : Compared H coordinator fs.toFileSystem uid rootDevice treePath
    tree files found) (htree : coordinator.readable tree = true) (name : String)
    (names : List String) : (∃ inode, fs.descend tree (name :: names) = some inode) ↔
      ∃ file ∈ files, name :: names <+: pathParts file.path := by
  constructor
  · intro hinode
    obtain ⟨inode, hdescend⟩ := hinode
    have hopened := h.opened htree _ _ hdescend
    cases hdirectory : isDirectoryAt fs.toFileSystem inode with
    | false =>
        obtain ⟨file, hfile, hparts⟩ := h.file hdescend hopened hdirectory
        exact ⟨file, hfile, by rw [hparts]⟩
    | true =>
        obtain ⟨file, hfile, hbegin, -⟩ := h.directory hdescend hopened hdirectory
        exact ⟨file, hfile, hbegin⟩
  · intro hlisted
    obtain ⟨file, hfile, hbegin⟩ := hlisted
    obtain ⟨inode, -, -, hdescend, -⟩ := h.descend hfile
    exact descend_of_prefix hbegin hdescend

/-- What is not a listed file is a directory that nobody writes. -/
theorem Compared.isDirectory (h : Compared H coordinator fs.toFileSystem uid rootDevice treePath
    tree files found) (htree : coordinator.readable tree = true) {node : Node}
    (hnode : fs.node tree = some node)
    (hcontent : Preflight.Content.isDirectory node.content = true)
    {names : List String} {inode : Inode} (hdescend : fs.descend tree names = some inode)
    (hnot : ∀ file ∈ files, names ≠ pathParts file.path) : ∃ held, fs.node inode = some held ∧
      Preflight.Content.isDirectory held.content = true ∧ held.metadata.mode = 0o555#12 := by
  have hopened := h.opened htree _ _ hdescend
  have hdirectory : isDirectoryAt fs.toFileSystem inode = true ∧
      coordinator.readable inode = true := by
    cases names with
    | nil =>
        rw [FileSystem.descend, Option.some.injEq] at hdescend
        subst hdescend
        exact ⟨by rw [isDirectoryAt, hnode]; exact hcontent, htree⟩
    | cons name names =>
        have hdirectory : isDirectoryAt fs.toFileSystem inode = true := by
          by_contra hfile
          obtain ⟨file, hmem, hparts⟩ := h.file hdescend hopened (Bool.eq_false_iff.mpr hfile)
          exact hnot file hmem hparts.symm
        obtain ⟨file, hfile, hbegin, hproper⟩ := h.directory hdescend hopened hdirectory
        exact ⟨hdirectory, h.readable hfile hbegin hproper hdescend⟩
  obtain ⟨held, hheld, hcontent⟩ := (Option.any_eq_true _ _).mp hdirectory.1
  exact ⟨held, hheld, hcontent,
    h.walked.mode names inode held hdescend hopened hdirectory.2 hheld hcontent⟩

theorem Compared.pictures (h : Compared H coordinator fs.toFileSystem uid rootDevice treePath
    tree files found) (htree : coordinator.readable tree = true) {node : Node}
    (hnode : fs.node tree = some node)
    (hcontent : Preflight.Content.isDirectory node.content = true) :
    Pictures H fs.toFileSystem tree files where
  exists_iff := h.exists_iff htree
  file := fun _ hfile => h.descend hfile
  directory := fun _ _ hdescend hnot => h.isDirectory htree hnode hcontent hdescend hnot

end Picture

/-! ## An accepted snapshot -/

/-- What a file holds. -/
def fileData : Content → Option Bytes
  | .file data => some data
  | _ => none

def contentAt (fs : FileSystem) (path : List String) : Option Bytes :=
  ((fs.resolve path).bind fs.node).bind fun node => fileData node.content

/-- The manifest names its snapshot, and it lists the files in order and within the limits. -/
structure Manifested (H : HashFunction) (root : List String) (evidence : SnapshotEvidence)
    (manifest : Manifest) (files : List SnapshotFile) : Prop where
  digest : ∃ payload, Json.canonicalLine? manifest.digestPayload = some payload ∧
    evidence.snapshotSha256 = H payload
  named : evidence.snapshotSha256.text = manifest.snapshotSha256 ∧
    root.getLast? = some manifest.snapshotSha256
  commit : evidence.commitSha = manifest.commitSha ∧
    evidence.commitTreeSha = manifest.commitTreeSha ∧
    evidence.excludedPaths = manifest.excludedPaths
  entries : manifest.files = files.map entryJson
  sorted : (files.map SnapshotFile.path).Pairwise (· < ·)
  listed : ∀ file ∈ files, Listed file ∧ file.size ≤ maxFileBytes
  total : (files.map SnapshotFile.size).sum ≤ maxTotalBytes
  count : files.length ≤ maxManifestFiles

/-- The manifest is named by its digest, and below the tree there is exactly what it lists. -/
def Holds (H : HashFunction) (fs : FileSystem) (root : List String)
    (evidence : SnapshotEvidence) : Prop :=
  ∃ raw manifest files tree, contentAt fs (root ++ ["manifest.json"]) = some raw ∧
    loadManifest raw = .ok manifest ∧ evidence.manifestSha256 = H raw ∧
    Manifested H root evidence manifest files ∧
    fs.resolve (root ++ ["tree"]) = some tree ∧ Pictures H fs tree files

/-- What the steps of the verifier establish. -/
structure Verification (H : HashFunction) (coordinator : Coordinator) (fs : FileSystem) (uid : Uid)
    (root : List String) (evidence : SnapshotEvidence) (manifest : Manifest)
    (files : List SnapshotFile) (tree : Inode) : Prop where
  accepted : ∃ inode node, Accepted uid fs root inode node ∧
    Preflight.Content.isDirectory node.content = true ∧ node.metadata.mode = 0o555#12
  loaded : ∃ read raw, Read H coordinator uid fs (root ++ ["manifest.json"]) read raw ∧
    loadManifest raw = .ok manifest ∧ evidence.manifestSha256 = H raw
  directory : ∃ node, fs.node tree = some node ∧ Preflight.Content.isDirectory node.content = true ∧
    node.metadata.mode = 0o555#12
  manifested : Manifested H root evidence manifest files
  compared : ∃ rootDevice found,
    Compared H coordinator fs uid rootDevice (root ++ ["tree"]) tree files found

theorem directoryAt_eq_ok {fs : FileSystem} {path : List String} {message : String}
    {inode : Inode} {node : Node} (h : directoryAt fs path message = .ok (inode, node)) :
    fs.resolve path = some inode ∧ fs.node inode = some node ∧
      Preflight.Content.isDirectory node.content = true ∧ node.metadata.mode = 0o555#12 := by
  simp only [directoryAt, require, bind_eq_ok_iff, required_eq_ok_iff, ensure_eq_ok_iff,
    pure_eq_ok_iff, Prod.mk.injEq, Option.bind_eq_some_iff, Option.map_eq_some_iff] at h
  obtain ⟨⟨found, held⟩, ⟨i, hresolve, n, hnode, hpair⟩, _, ⟨hdirectory, hmode⟩, rfl, rfl⟩ := h
  cases hpair
  exact ⟨hresolve, hnode, hdirectory, hmode⟩

section Verified

variable {H : HashFunction} {coordinator : Coordinator} {uid : Uid} {root : List String}
  {evidence : SnapshotEvidence}

theorem verification_of_verify {fs : FileSystem}
    (h : verifyReadonlySnapshot H coordinator fs uid root = .ok evidence) :
    ∃ manifest files tree,
      Verification H coordinator fs uid root evidence manifest files tree := by
  simp only [verifyReadonlySnapshot, require, bind_eq_ok_iff, required_eq_ok_iff, ensure_eq_ok_iff,
    mapError_eq_ok_iff, pure_eq_ok_iff] at h
  obtain ⟨_, -, ⟨rootInode, rootHeld⟩, hroot, ⟨read, raw⟩, hread, ⟨found, rootNode⟩, hrootAt,
    ⟨tree, treeNode⟩, htreeAt, _, -, manifest, hmanifest, payload, hpayload, _, ⟨hdigest, hlast⟩,
    _, hcount, files, hfiles, walked, hwalk, _, hpaths, _, hdirectories, rfl⟩ := h
  have haccepted := accepted_of_assert hroot
  obtain ⟨hrootResolves, hrootNode, hrootDirectory, hrootMode⟩ := directoryAt_eq_ok hrootAt
  obtain ⟨htreeResolves, htreeNode, htreeDirectory, htreeMode⟩ := directoryAt_eq_ok htreeAt
  have hinode : found = rootInode :=
    Option.some.inj (hrootResolves.symm.trans haccepted.resolves)
  subst hinode
  have hnode : rootNode = rootHeld := Option.some.inj (hrootNode.symm.trans haccepted.node_eq)
  subst hnode
  have hreadRaw := (read_of_readProtectedFile hread).1
  obtain ⟨-, hordered⟩ := loadManifest_eq_ok hmanifest
  obtain ⟨hentries, hsorted, htotal, hlisted⟩ :=
    verifyEntries_eq_ok hordered (Nat.zero_le _) hfiles
  refine ⟨manifest, files, tree, ⟨found, rootNode, haccepted, hrootDirectory, hrootMode⟩,
    ⟨read, raw, hreadRaw, hmanifest, hreadRaw.digest⟩,
    ⟨treeNode, htreeNode, htreeDirectory, htreeMode⟩, ?_, ?_⟩
  · refine ⟨⟨payload, hpayload, rfl⟩, ⟨hdigest, by rw [hlast, hdigest]⟩, ⟨rfl, rfl, rfl⟩, hentries,
      hsorted.of_cons, fun file hfile => ⟨(hlisted file hfile).1, (hlisted file hfile).2.1⟩, ?_, ?_⟩
    · rwa [Nat.zero_add] at htotal
    · rw [hentries, List.length_map] at hcount
      exact hcount
  · exact ⟨rootNode.metadata.device, walked, htreeResolves,
      fun file hfile => (hlisted file hfile).1, fun file hfile => (hlisted file hfile).2.2,
      walked_of_walk hwalk, hpaths, hdirectories⟩

theorem contentAt_of_accepted {fs : FileSystem} {path : List String} {inode : Inode} {node : Node}
    {data : Bytes} (h : Accepted uid fs path inode node) (hdata : node.content = .file data) :
    contentAt fs path = some data := by
  rw [contentAt, h.resolves, Option.bind_some, h.node_eq, Option.bind_some, hdata, fileData]

/-- An accepted snapshot holds what its manifest lists. -/
theorem verifyReadonlySnapshot_exact {fs : NamedFileSystem}
    (hlists : ListsReadOnly coordinator fs.toFileSystem)
    (h : verifyReadonlySnapshot H coordinator fs.toFileSystem uid root = .ok evidence) :
    Holds H fs.toFileSystem root evidence := by
  obtain ⟨manifest, files, tree, hverified⟩ := verification_of_verify h
  obtain ⟨read, raw, hread, hload, hdigest⟩ := hverified.loaded
  obtain ⟨inode, node, haccepted, hcontent, -⟩ := hread.accepted
  obtain ⟨treeNode, htreeNode, hdirectory, hmode⟩ := hverified.directory
  obtain ⟨rootDevice, found, hcompared⟩ := hverified.compared
  exact ⟨raw, manifest, files, tree, contentAt_of_accepted haccepted hcontent, hload, hdigest,
    hverified.manifested, hcompared.resolves,
    hcompared.pictures (hlists tree treeNode htreeNode hdirectory hmode) htreeNode hdirectory⟩

end Verified

/-! ## A snapshot of one file -/

/-- The digest of a text of two letters, and the digest of everything else. -/
def hiDigest : HashFunction := fun data =>
  if data = [104, 105] then ⟨String.ofList (List.replicate 64 '1'), by decide⟩
  else ⟨String.ofList (List.replicate 64 '0'), by decide⟩

def oneFile : SnapshotFile := ⟨"100644", "a.txt", String.ofList (List.replicate 64 '1'), 2⟩

def oneFileManifest : Manifest where
  commitSha := String.ofList (List.replicate 40 'c')
  commitTreeSha := String.ofList (List.replicate 40 'd')
  excludedPaths := []
  snapshotSha256 := String.ofList (List.replicate 64 '0')
  files := [entryJson oneFile]

def oneFileRoot : List String := ["srv", String.ofList (List.replicate 64 '0')]

/-- Beside the snapshot there may be something else. -/
def oneFileNodes (others : List (String × Inode)) : List (Inode × Node) := [
  (1, ⟨⟨0, 0o755, 0⟩, .directory (("srv", 2) :: others)⟩),
  (2, ⟨⟨0, 0o755, 0⟩, .directory [(String.ofList (List.replicate 64 '0'), 3)]⟩),
  (3, ⟨⟨0, 0o555, 0⟩, .directory [("manifest.json", 4), ("tree", 5)]⟩),
  (4, ⟨⟨0, 0o444, 0⟩, .file (lineOf oneFileManifest.storedManifest)⟩),
  (5, ⟨⟨0, 0o555, 0⟩, .directory [("a.txt", 6)]⟩),
  (6, ⟨⟨0, 0o444, 0⟩, .file [104, 105]⟩)]

theorem named_of_nodes {fs : FileSystem}
    (h : ∀ held ∈ fs.nodes, ∀ entry ∈ held.2.content.entries, IsName entry.1)
    (directory : Inode) (name : String) (child : Inode)
    (hlookup : fs.lookup directory name = some child) : IsName name := by
  cases hnode : fs.node directory with
  | none => simp [FileSystem.lookup, FileSystem.entries, hnode] at hlookup
  | some node =>
      rw [FileSystem.lookup, entries_of_node hnode] at hlookup
      obtain ⟨left, right, hnodes, -⟩ := List.lookup_eq_some_iff.mp hnode
      obtain ⟨before, after, hentries, -⟩ := List.lookup_eq_some_iff.mp hlookup
      refine h (directory, node) ?_ (name, child) ?_
      · rw [hnodes]
        simp
      · rw [hentries]
        simp

def oneFileSystem : NamedFileSystem where
  root := 1
  nodes := oneFileNodes []
  named := named_of_nodes (by decide)

/-- Everybody may search and list every directory. -/
def openCoordinator : Coordinator := ⟨0, fun _ => true, fun _ => true⟩

def oneFileEvidence (uid : Uid) : SnapshotEvidence where
  root := showPath oneFileRoot
  tree := showPath (oneFileRoot ++ ["tree"])
  manifestPath := showPath (oneFileRoot ++ ["manifest.json"])
  manifestSha256 := hiDigest (lineOf oneFileManifest.storedManifest)
  snapshotSha256 := hiDigest (lineOf oneFileManifest.digestPayload)
  commitSha := oneFileManifest.commitSha
  commitTreeSha := oneFileManifest.commitTreeSha
  candidateUid := uid
  excludedPaths := oneFileManifest.excludedPaths

theorem oneFileManifest_valid : oneFileManifest.Valid where
  commit := by decide
  digest := by decide
  excluded := .inl rfl
  plain := by
    intro item hitem
    obtain rfl : item = entryJson oneFile := List.mem_singleton.mp hitem
    exact isPlain_entryJson oneFile
  encodes := by
    intro item hitem
    obtain rfl : item = entryJson oneFile := List.mem_singleton.mp hitem
    exact encodes_entryJson (by decide)

theorem oneFileManifest_length :
    (lineOf oneFileManifest.storedManifest).length ≤ maxManifestBytes := by
  have hplain := isPlain_storedManifest (Manifest.Valid.plain oneFileManifest_valid)
  have hencodes := encodes_storedManifest (Manifest.Valid.encodes oneFileManifest_valid)
  have hlength := Json.canonicalLine?_length_le hplain (canonicalLine?_lineOf hencodes)
  have hsize : 4 * Json.textSize oneFileManifest.storedManifest + 1 ≤ maxManifestBytes := by
    decide
  exact hlength.trans hsize

/-- No canonical line is the text that has a digest of its own. -/
theorem hiDigest_lineOf {v : Json} (hplain : v.IsPlain) (hencodes : v.Encodes) :
    (hiDigest (lineOf v)).text = String.ofList (List.replicate 64 '0') := by
  have hne : lineOf v ≠ [104, 105] := by
    intro heq
    obtain ⟨text, htext, hloads⟩ :=
      Json.loads_of_canonicalLine ⟨true, false⟩ hplain (canonicalLine?_lineOf hencodes)
    have hhi : decodeUtf8 [104, 105] = some "hi" := by decide
    have hnot : (Json.loads ⟨true, false⟩ "hi").isOk = false := by decide
    rw [heq, hhi, Option.some.injEq] at htext
    rw [htext, hloads] at hnot
    cases hnot
  rw [hiDigest, if_neg hne]

theorem directoryAt_of_resolve {fs : FileSystem} {path : List String} {message : String}
    {inode : Inode} {node : Node} (hresolve : fs.resolve path = some inode)
    (hnode : fs.node inode = some node)
    (h : Preflight.Content.isDirectory node.content = true ∧ node.metadata.mode = 0o555#12) :
    directoryAt fs path message = .ok (inode, node) := by
  simp [directoryAt, hresolve, hnode, require, ensure, h]

theorem readProtectedFile_of_open {H : HashFunction} {coordinator : Coordinator} {fs : FileSystem}
    {uid : Uid} {path : List String} {label : String} {maxBytes : ℕ} {found : Inode × Node}
    {metadata : Metadata} {data : Bytes}
    (hlimit : 1 ≤ maxBytes ∧ maxBytes ≤ Preflight.maxProtectedFileBytes)
    (hpath : assertCandidateCannotMutate coordinator fs uid path = .ok found)
    (hopen : openRegularNofollow coordinator fs path = .ok ⟨metadata, .file data⟩)
    (hsize : data.length ≤ maxBytes) :
    readProtectedFile H coordinator fs uid path label none maxBytes =
      .ok (⟨H data, data.length, metadata.device, metadata.mode⟩, data) := by
  rw [readProtectedFile]
  simp only [Preflight.require, bind_eq_ok_iff, ensure_eq_ok_iff]
  refine ⟨⟨⟩, by simp, ⟨⟩, hlimit, found, hpath, _, hopen, ?_⟩
  simp only [bind_eq_ok_iff, ensure_eq_ok_iff]
  exact ⟨⟨⟩, hsize, ⟨⟩, by simp, rfl⟩

/-- The steps of the verifier at the snapshot, one after the other. -/
theorem verify_oneFile {fs : FileSystem} (uid : Uid)
    (huid : ensureSeparateCandidateUid openCoordinator uid = .ok ⟨⟩)
    (hroot : assertCandidateCannotMutate openCoordinator fs uid oneFileRoot =
      .ok (3, ⟨⟨0, 0o555, 0⟩, .directory [("manifest.json", 4), ("tree", 5)]⟩))
    (hpath : assertCandidateCannotMutate openCoordinator fs uid
      (oneFileRoot ++ ["manifest.json"]) =
        .ok (4, ⟨⟨0, 0o444, 0⟩, .file (lineOf oneFileManifest.storedManifest)⟩))
    (hopen : openRegularNofollow openCoordinator fs (oneFileRoot ++ ["manifest.json"]) =
      .ok ⟨⟨0, 0o444, 0⟩, .file (lineOf oneFileManifest.storedManifest)⟩)
    (hresolve : fs.resolve oneFileRoot = some 3 ∧ fs.resolve (oneFileRoot ++ ["tree"]) = some 5)
    (hnode : fs.node 3 = some ⟨⟨0, 0o555, 0⟩, .directory [("manifest.json", 4), ("tree", 5)]⟩ ∧
      fs.node 5 = some ⟨⟨0, 0o555, 0⟩, .directory [("a.txt", 6)]⟩)
    (hentries : verifyEntries hiDigest openCoordinator fs uid 0 (oneFileRoot ++ ["tree"]) "" 0
      [entryJson oneFile] = .ok [oneFile])
    (hwalk : walk openCoordinator fs 0 (fs.nodes.length + 1) [] 5 = .ok ⟨[["a.txt"]], []⟩) :
    verifyReadonlySnapshot hiDigest openCoordinator fs uid oneFileRoot =
      .ok (oneFileEvidence uid) := by
  have hread : readProtectedFile hiDigest openCoordinator fs uid (oneFileRoot ++ ["manifest.json"])
      "snapshot manifest" none maxManifestBytes = _ :=
    readProtectedFile_of_open (by decide) hpath hopen oneFileManifest_length
  have hload := loadManifest_stored oneFileManifest_valid
  have hplain := isPlain_digestPayload (Manifest.Valid.plain oneFileManifest_valid)
  have hencodes := encodes_digestPayload (Manifest.Valid.encodes oneFileManifest_valid)
  have hdigest := hiDigest_lineOf hplain hencodes
  rw [verifyReadonlySnapshot]
  simp only [require, bind_eq_ok_iff, mapError_eq_ok_iff, required_eq_ok_iff, ensure_eq_ok_iff,
    pure_eq_ok_iff]
  refine ⟨⟨⟩, huid, _, hroot, _, hread, _, directoryAt_of_resolve hresolve.1 hnode.1 ?_, _,
    directoryAt_of_resolve hresolve.2 hnode.2 ?_, ⟨⟩, ?_, _,
    hload, _, canonicalLine?_lineOf hencodes, ⟨⟩, ?_, ⟨⟩, ?_, _,
    hentries, _, hwalk, ⟨⟩, ?_, ⟨⟩, ?_, ?_⟩
  · exact ⟨rfl, rfl⟩
  · exact ⟨rfl, rfl⟩
  · exact ⟨rfl, rfl⟩
  · exact ⟨hdigest, by rw [hdigest]; rfl⟩
  · decide
  · decide
  · decide
  · simp only [oneFileEvidence]

theorem oneFile_accepted : verifyReadonlySnapshot hiDigest openCoordinator
    oneFileSystem.toFileSystem 1000 oneFileRoot = .ok (oneFileEvidence 1000) :=
  verify_oneFile 1000 (by decide) (by rfl) (by rfl) (by rfl) ⟨by rfl, by rfl⟩ ⟨by rfl, by rfl⟩
    (by decide +kernel) (by rfl)

theorem oneFile_exact :
    Holds hiDigest oneFileSystem.toFileSystem oneFileRoot (oneFileEvidence 1000) :=
  verifyReadonlySnapshot_exact (fun _ _ _ _ _ => rfl) oneFile_accepted

end AmazonSimilarSearch.Snapshot
