import AmazonSimilarSearch.Snapshot.VerifyExact
import Mathlib.Data.Set.Function

/-!
# The digest of a snapshot binds its tree

Two accepted snapshots of one digest show the same files and directories, as long as the hash
function takes no two of the texts that were hashed to one digest.
-/
namespace AmazonSimilarSearch.Snapshot
open Foundation Posix
open Packet (SnapshotFile)
open Preflight (Coordinator resolve_append)
open Review (pathParts)

/-- What can be seen of a node: the entries of a directory are seen at their own paths. -/
def view (fs : FileSystem) (inode : Inode) : Option (Mode × Content) :=
  (fs.node inode).map fun node => (node.metadata.mode, node.content.setEntries [])

def viewAt (fs : FileSystem) (path : List String) : Option (Mode × Content) :=
  (fs.resolve path).bind (view fs)

/-- The texts whose digests bind a snapshot. -/
def hashed (fs : FileSystem) (root : List String) : Set Bytes :=
  {data | (∃ raw manifest, contentAt fs (root ++ ["manifest.json"]) = some raw ∧
      loadManifest raw = .ok manifest ∧ Json.canonicalLine? manifest.digestPayload = some data) ∨
    ∃ names, contentAt fs (root ++ ["tree"] ++ names) = some data}

/-! ## The same manifest -/

theorem entryJson_injective : Function.Injective entryJson := by
  intro file file' h
  simp only [entryJson, Json.obj.injEq, List.cons.injEq, Prod.mk.injEq, Json.str.injEq,
    Json.int.injEq, Nat.cast_inj, true_and, and_true] at h
  obtain ⟨hmode, hpath, hsha, hsize⟩ := h
  cases file
  cases file'
  cases hmode
  cases hpath
  cases hsha
  cases hsize
  rfl

theorem str_injective : Function.Injective Json.str := fun _ _ h => Json.str.inj h

theorem eq_of_digestPayload_eq {manifest manifest' : Manifest}
    (h : manifest.digestPayload = manifest'.digestPayload) :
    manifest.commitSha = manifest'.commitSha ∧ manifest.commitTreeSha = manifest'.commitTreeSha ∧
      manifest.excludedPaths = manifest'.excludedPaths ∧ manifest.files = manifest'.files := by
  simp only [Manifest.digestPayload, Json.obj.injEq, List.cons.injEq, Prod.mk.injEq,
    Json.str.injEq, Json.arr.injEq, true_and, and_true] at h
  obtain ⟨hcommit, htree, hexcluded, hfiles⟩ := h
  exact ⟨hcommit, htree, str_injective.list_map hexcluded, hfiles⟩

theorem isPlain_of_manifested {H : HashFunction} {root : List String} {evidence : SnapshotEvidence}
    {manifest : Manifest} {files : List SnapshotFile}
    (h : Manifested H root evidence manifest files) : manifest.digestPayload.IsPlain := by
  refine isPlain_digestPayload fun item hitem => ?_
  rw [h.entries] at hitem
  obtain ⟨file, -, rfl⟩ := List.mem_map.mp hitem
  exact isPlain_entryJson file

/-! ## The same view -/

section Pictures

variable {H : HashFunction} {fs fs' : FileSystem} {tree tree' : Inode} {files : List SnapshotFile}

theorem view_of_node {inode : Inode} {node : Node} (h : fs.node inode = some node) :
    view fs inode = some (node.metadata.mode, node.content.setEntries []) := by
  rw [view, h, Option.map_some]

theorem setEntries_of_isDirectory {content : Content}
    (h : Preflight.Content.isDirectory content = true) :
    content.setEntries [] = .directory [] := by
  cases content with
  | directory entries => rfl
  | _ => cases h

/-- What a picture shows at the path of a file. -/
theorem Pictures.view_file (h : Pictures H fs tree files) {file : SnapshotFile}
    (hfile : file ∈ files) : ∃ inode data, fs.descend tree (pathParts file.path) = some inode ∧
      (fs.node inode).bind (fileData ·.content) = some data ∧
      view fs inode = some (fileMode file.mode, .file data) ∧ (H data).text = file.sha256 := by
  obtain ⟨inode, node, data, hdescend, hnode, hcontent, hmode, -, hdigest⟩ := h.file file hfile
  refine ⟨inode, data, hdescend, ?_, ?_, hdigest⟩
  · rw [hnode, Option.bind_some, hcontent, fileData]
  · rw [view_of_node hnode, hmode, hcontent]
    rfl

theorem Pictures.view_directory (h : Pictures H fs tree files) {names : List String}
    {inode : Inode} (hdescend : fs.descend tree names = some inode)
    (hnot : ∀ file ∈ files, names ≠ pathParts file.path) :
    view fs inode = some (0o555#12, .directory []) := by
  obtain ⟨node, hnode, hdirectory, hmode⟩ := h.directory names inode hdescend hnot
  rw [view_of_node hnode, hmode, setEntries_of_isDirectory hdirectory]

/-- Two pictures of the same files show the same. -/
theorem Pictures.view_eq (h : Pictures H fs tree files) (h' : Pictures H fs' tree' files)
    (hdata : ∀ names names' inode inode' data data', fs.descend tree names = some inode →
      fs'.descend tree' names' = some inode' →
      (fs.node inode).bind (fileData ·.content) = some data →
      (fs'.node inode').bind (fileData ·.content) = some data' → H data = H data' → data = data')
    (names : List String) :
    (fs.descend tree names).bind (view fs) = (fs'.descend tree' names).bind (view fs') := by
  by_cases hfile : ∃ file ∈ files, names = pathParts file.path
  · obtain ⟨file, hmem, rfl⟩ := hfile
    obtain ⟨inode, data, hdescend, hcontent, hview, hdigest⟩ := h.view_file hmem
    obtain ⟨inode', data', hdescend', hcontent', hview', hdigest'⟩ := h'.view_file hmem
    have hsame : data = data' := hdata _ _ _ _ data data' hdescend hdescend' hcontent hcontent'
      (LowerHex.ext (hdigest.trans hdigest'.symm))
    rw [hdescend, hdescend', Option.bind_some, Option.bind_some, hview, hview', hsame]
  · have hnot : ∀ file ∈ files, names ≠ pathParts file.path :=
      fun file hmem heq => hfile ⟨file, hmem, heq⟩
    have hexists : (∃ inode, fs.descend tree names = some inode) ↔
        ∃ inode, fs'.descend tree' names = some inode := by
      cases names with
      | nil => exact ⟨fun _ => ⟨tree', rfl⟩, fun _ => ⟨tree, rfl⟩⟩
      | cons name names => rw [h.exists_iff, h'.exists_iff]
    cases hdescend : fs.descend tree names with
    | some inode =>
        obtain ⟨inode', hdescend'⟩ := hexists.mp ⟨inode, hdescend⟩
        rw [hdescend', Option.bind_some, Option.bind_some, h.view_directory hdescend hnot,
          h'.view_directory hdescend' hnot]
    | none =>
        cases hdescend' : fs'.descend tree' names with
        | some inode' =>
            obtain ⟨inode, hsome⟩ := hexists.mpr ⟨inode', hdescend'⟩
            rw [hdescend] at hsome
            cases hsome
        | none => rfl

end Pictures

/-! ## The same digest -/

theorem contentAt_append {fs : FileSystem} {path names : List String} {tree inode : Inode}
    {data : Bytes} (hpath : fs.resolve path = some tree)
    (hdescend : fs.descend tree names = some inode)
    (hdata : (fs.node inode).bind (fileData ·.content) = some data) :
    contentAt fs (path ++ names) = some data := by
  rw [contentAt, resolve_append hpath, hdescend]
  exact hdata

theorem viewAt_append {fs : FileSystem} {path names : List String} {tree : Inode}
    (hpath : fs.resolve path = some tree) :
    viewAt fs (path ++ names) = (fs.descend tree names).bind (view fs) := by
  rw [viewAt, resolve_append hpath]

section Snapshots

variable {H : HashFunction} {coordinator coordinator' : Coordinator} {uid uid' : Uid}
  {root root' : List String} {evidence evidence' : SnapshotEvidence}

/-- Snapshots of one digest show the same tree. -/
theorem snapshots_agree {fs fs' : NamedFileSystem}
    (hlists : ListsReadOnly coordinator fs.toFileSystem)
    (hlists' : ListsReadOnly coordinator' fs'.toFileSystem)
    (h : verifyReadonlySnapshot H coordinator fs.toFileSystem uid root = .ok evidence)
    (h' : verifyReadonlySnapshot H coordinator' fs'.toFileSystem uid' root' = .ok evidence')
    (hinjective : Set.InjOn H (hashed fs.toFileSystem root ∪ hashed fs'.toFileSystem root'))
    (hdigest : evidence.snapshotSha256 = evidence'.snapshotSha256) :
    evidence.commitSha = evidence'.commitSha ∧ evidence.commitTreeSha = evidence'.commitTreeSha ∧
      evidence.excludedPaths = evidence'.excludedPaths ∧
      ∀ names, viewAt fs.toFileSystem (root ++ ["tree"] ++ names) =
        viewAt fs'.toFileSystem (root' ++ ["tree"] ++ names) := by
  obtain ⟨raw, manifest, files, tree, hraw, hload, -, hmanifested, htree, hpictures⟩ :=
    verifyReadonlySnapshot_exact hlists h
  obtain ⟨raw', manifest', files', tree', hraw', hload', -, hmanifested', htree', hpictures'⟩ :=
    verifyReadonlySnapshot_exact hlists' h'
  obtain ⟨payload, hpayload, hsha⟩ := hmanifested.digest
  obtain ⟨payload', hpayload', hsha'⟩ := hmanifested'.digest
  have hsamePayload : payload = payload' :=
    hinjective (.inl (.inl ⟨raw, manifest, hraw, hload, hpayload⟩))
      (.inr (.inl ⟨raw', manifest', hraw', hload', hpayload'⟩))
      (by rw [← hsha, ← hsha', hdigest])
  subst hsamePayload
  obtain ⟨hcommit, hcommitTree, hexcluded, hitems⟩ := eq_of_digestPayload_eq
    (Json.eq_of_canonicalLine (isPlain_of_manifested hmanifested)
      (isPlain_of_manifested hmanifested') hpayload hpayload')
  have hfiles : files = files' := by
    rw [hmanifested.entries, hmanifested'.entries] at hitems
    exact entryJson_injective.list_map hitems
  subst hfiles
  obtain ⟨hsha1, hsha2, hsha3⟩ := hmanifested.commit
  obtain ⟨hsha1', hsha2', hsha3'⟩ := hmanifested'.commit
  refine ⟨by rw [hsha1, hsha1', hcommit], by rw [hsha2, hsha2', hcommitTree],
    by rw [hsha3, hsha3', hexcluded], fun names => ?_⟩
  rw [viewAt_append htree, viewAt_append htree']
  refine hpictures.view_eq hpictures' (fun above above' inode inode' data data' hdescend hdescend'
    hdata hdata' heq => hinjective (.inl (.inr ⟨above, ?_⟩)) (.inr (.inr ⟨above', ?_⟩)) heq) names
  · exact contentAt_append htree hdescend hdata
  · exact contentAt_append htree' hdescend' hdata'

end Snapshots

/-! ## Two machines with the snapshot of one file -/

def otherFileSystem : NamedFileSystem where
  root := 1
  nodes := oneFileNodes [("opt", 7)]
  named := named_of_nodes (by decide)

theorem otherFile_accepted : verifyReadonlySnapshot hiDigest openCoordinator
    otherFileSystem.toFileSystem 2000 oneFileRoot =
      .ok (oneFileEvidence 2000) :=
  verify_oneFile 2000 (by decide) (by rfl) (by rfl) (by rfl) ⟨by rfl, by rfl⟩ ⟨by rfl, by rfl⟩
    (by decide +kernel) (by rfl)

theorem hashed_oneFile {fs : FileSystem}
    (hmanifest : contentAt fs (oneFileRoot ++ ["manifest.json"]) =
      some (lineOf oneFileManifest.storedManifest))
    (htree : fs.resolve (oneFileRoot ++ ["tree"]) = some 5)
    (hnode : fs.node 5 = some ⟨⟨0, 0o555, 0⟩, .directory [("a.txt", 6)]⟩ ∧
      fs.node 6 = some ⟨⟨0, 0o444, 0⟩, .file [104, 105]⟩) {data : Bytes}
    (h : data ∈ hashed fs oneFileRoot) :
    data = lineOf oneFileManifest.digestPayload ∨ data = [104, 105] := by
  rcases h with ⟨raw, manifest, hraw, hload, hpayload⟩ | ⟨names, hcontent⟩
  · rw [hmanifest, Option.some.injEq] at hraw
    rw [← hraw, loadManifest_stored oneFileManifest_valid, Except.ok.injEq] at hload
    have hencodes := encodes_digestPayload (Manifest.Valid.encodes oneFileManifest_valid)
    rw [← hload, canonicalLine?_lineOf hencodes, Option.some.injEq] at hpayload
    exact .inl hpayload.symm
  · rw [contentAt, resolve_append htree] at hcontent
    cases names with
    | nil => simp [FileSystem.descend, hnode.1, fileData] at hcontent
    | cons name names =>
        have hfive : fs.lookup 5 name = [("a.txt", 6)].lookup name := by
          rw [FileSystem.lookup, entries_of_node hnode.1]
          rfl
        have hsix : ∀ name, fs.lookup 6 name = none := by
          intro name
          rw [FileSystem.lookup, entries_of_node hnode.2]
          rfl
        rw [FileSystem.descend, hfive, List.lookup_cons] at hcontent
        cases hname : name == "a.txt" with
        | true =>
            rw [hname] at hcontent
            cases names with
            | nil =>
                simp only [FileSystem.descend, Option.bind_some, hnode.2, fileData,
                  Option.some.injEq] at hcontent
                exact .inr hcontent.symm
            | cons next names =>
                simp only [FileSystem.descend, Option.bind_some, hsix, Option.bind_none] at hcontent
                cases hcontent
        | false =>
            rw [hname] at hcontent
            cases hcontent

theorem hiDigest_injOn : Set.InjOn hiDigest
    {data | data = lineOf oneFileManifest.digestPayload ∨ data = [104, 105]} := by
  have hplain := isPlain_digestPayload (Manifest.Valid.plain oneFileManifest_valid)
  have hencodes := encodes_digestPayload (Manifest.Valid.encodes oneFileManifest_valid)
  have hpayload := hiDigest_lineOf hplain hencodes
  have hne : hiDigest (lineOf oneFileManifest.digestPayload) ≠ hiDigest [104, 105] := by
    intro heq
    rw [heq, hiDigest, if_pos rfl] at hpayload
    have hlists := congrArg String.toList hpayload
    rw [String.toList_ofList, String.toList_ofList] at hlists
    exact absurd hlists (by decide)
  intro data hdata data' hdata' heq
  rcases hdata with hdata | hdata
  · rcases hdata' with hdata' | hdata'
    · rw [hdata, hdata']
    · rw [hdata, hdata'] at heq
      exact absurd heq hne
  · rcases hdata' with hdata' | hdata'
    · rw [hdata, hdata'] at heq
      exact absurd heq.symm hne
    · rw [hdata, hdata']

theorem oneFile_agree :
    (oneFileEvidence 1000).commitSha = (oneFileEvidence 2000).commitSha ∧
      (oneFileEvidence 1000).commitTreeSha = (oneFileEvidence 2000).commitTreeSha ∧
      (oneFileEvidence 1000).excludedPaths = (oneFileEvidence 2000).excludedPaths ∧
      ∀ names, viewAt oneFileSystem.toFileSystem (oneFileRoot ++ ["tree"] ++ names) =
        viewAt otherFileSystem.toFileSystem (oneFileRoot ++ ["tree"] ++ names) := by
  refine snapshots_agree (fun _ _ _ _ _ => rfl) (fun _ _ _ _ _ => rfl) oneFile_accepted
    otherFile_accepted (hiDigest_injOn.mono fun data hdata => ?_) rfl
  rcases hdata with hdata | hdata
  · exact hashed_oneFile (by rfl) (by rfl) ⟨by rfl, by rfl⟩ hdata
  · exact hashed_oneFile (by rfl) (by rfl) ⟨by rfl, by rfl⟩ hdata

end AmazonSimilarSearch.Snapshot
