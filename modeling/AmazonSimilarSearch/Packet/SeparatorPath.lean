import AmazonSimilarSearch.Packet.Buildable
import AmazonSimilarSearch.Policy.OneFile

/-!
# A path with a line separator

The policy stage passes a report about a file whose name holds U+2028; the packet
stage prints the diff of the file and cannot read it.
-/
namespace AmazonSimilarSearch.Packet
open Foundation Review Policy

/-- Every passing report can be packed with the snapshots of its files. -/
def PassingReportsAreBuildable (difflib : UnifiedDiff) (answers : Repository) (repo : String)
    (task : TaskSpec) (taskSha256 : Sha256) (head : String) : Prop :=
  Returned (fun report => report.passed = true → ∀ base candidate,
    SnapshotsOf report.changedFiles base candidate →
      Buildable difflib task.deniedPaths report.changedFiles base candidate)
    ((inspectGitDiff sha1 sha256 (fun _ => true) id repo task taskSha256 head none).run
      answers []).1

/-- A file that is safe in all but its lines has a passing report that cannot be packed. -/
theorem unbuildable_of_stages (difflib : UnifiedDiff) {file : OneFile} {base candidate : Snapshot}
    (h : file.Stages) (hsnapshots : SnapshotsOf [file.diffFile] base candidate)
    (hseparated : ¬ LineSafe file.path) :
    ¬ PassingReportsAreBuildable difflib (fun _ => file.answer) "/repo" file.task (sha256 [])
      file.newCommit.text := by
  intro hbuildable
  obtain ⟨report, hreport, hpassing, _, _⟩ := h.run
  have hreported := returned_iff.mp hbuildable report hreport hpassing.passed
  rw [hpassing.changedFiles] at hreported
  obtain ⟨_, text, htext, hpackable⟩ := hreported _ _ hsnapshots
  have hadmitted : ∀ changed ∈ [file.diffFile],
      PathAdmitted file.task.deniedPaths changed.path := by
    intro changed hchanged
    rw [List.mem_singleton.mp hchanged]
    exact ⟨packetSafeRepoPath_of_safe h.safe,
      isPacketProtectedPath_of_unprotected h.unprotected h.notDenied⟩
  obtain ⟨files, hrendered, hfiles, hnodup, hmem⟩ :=
    hsnapshots.rendered difflib (by simp) hadmitted
  rw [hrendered] at htext
  cases htext
  exact hseparated ((packable_iff difflib hfiles hnodup (by simp) hadmitted hmem).mp hpackable
    file.diffFile (List.mem_singleton_self _))

theorem separatorPath_length : 1 ≤ "a\u2028b".toList.length ∧ "a\u2028b".toList.length ≤ 4096 := by
  decide

theorem separatorBlob_matches :
    matchesLowerHex 40 "78981922613b2afb6025042ff6bd878ac1994e85" = true := by decide

def separatorFile : OneFile where
  path := "a\u2028b"
  old := [98, 10]
  new := [97, 10]
  oldBlob := ⟨"61780798228d17af2d34fce4cfbdf35556832472", by decide⟩
  newBlob := ⟨"78981922613b2afb6025042ff6bd878ac1994e85", separatorBlob_matches⟩
  oldTree := ⟨"185d1a824313e7752110a676c84dc49f4a66f89c", by decide⟩
  newTree := ⟨"f97906a65af5e7ad0194a154b3ef2358a4068bf3", by decide⟩
  oldCommit := ⟨"bb98f8f16829a1b48271b2e8ceaec0e7aba6865e", by decide⟩
  newCommit := ⟨"194630bd0c5942e5e0ed3e4e0b2a17481b657383", by decide⟩
  path_length := separatorPath_length

/-- The header of the candidate commit, by lines. -/
def separatorFileLines : List String :=
  ["tree " ++ separatorFile.newTree.text, "parent " ++ separatorFile.oldCommit.text,
    "author dev <d@e> 0 +0000", "committer dev <d@e> 0 +0000"]

set_option maxRecDepth 20000 in
theorem separatorFile_readsCommit : separatorFile.ReadsCommit ("\n".intercalate separatorFileLines) "notes\n"
    separatorFileLines
    [("tree", separatorFile.newTree.text), ("parent", separatorFile.oldCommit.text),
      ("author", "dev <d@e> 0 +0000"), ("committer", "dev <d@e> 0 +0000")]
    ⟨"dev", "d@e", 0, "+0000"⟩ where
  verified := by decide +kernel
  split := by decide +kernel
  splitlines := by decide +kernel
  read := by decide +kernel
  parent := by decide +kernel
  keys := by decide +kernel
  nodup := by decide +kernel
  authored := by decide +kernel
  committed := by decide +kernel
  agrees := by decide +kernel

set_option maxRecDepth 20000 in
theorem separatorFile_readsRawDiff : separatorFile.ReadsRawDiff
    (":100644 100644 " ++ separatorFile.oldBlob.text ++ " " ++ separatorFile.newBlob.text ++ " M") where
  output := by decide +kernel
  split := by decide +kernel
  collected := by decide +kernel

set_option maxRecDepth 20000 in
theorem separatorFile_stages : separatorFile.Stages where
  layout := by decide +kernel
  refs := by decide +kernel
  base := by decide +kernel
  head := by decide +kernel
  current := by decide +kernel
  oldGraph := by decide +kernel
  newGraph := by decide +kernel
  commit := OneFile.ReadsCommit.inspect separatorFile_readsCommit
  metadata := OneFile.ReadsRawDiff.inspect separatorFile_readsRawDiff
  safe := by decide +kernel
  notDenied := by decide +kernel
  allowed := by decide +kernel
  baseBlobs := by decide +kernel
  unprotected := isProtectedPath_of_folded (by decide +kernel) (by decide +kernel)
    (by decide +kernel)
  size := by decide
  flags := by decide +kernel
  index := by decide +kernel
  tree := by decide +kernel
  tracked := by decide +kernel
  content := ⟨4, by decide +kernel⟩
  lines := by decide +kernel
  digest := by decide +kernel

/-- The snapshot of one content of the file. -/
def separatorSnapshot (content : Bytes) : Snapshot where
  files := [⟨"100644", separatorFile.path, (sha256 content).text, content.length⟩]
  paths_nodup := by simp
  read _ := some content

theorem separatorOld_noNul : '\x00' ∉ "b\n".toList := by decide

theorem separatorNew_noNul : '\x00' ∉ "a\n".toList := by decide

def separatorDiff : FileDiff where
  path := separatorFile.path
  old := some (⟨"100644", separatorFile.path, (sha256 separatorFile.old).text, 2⟩,
    ⟨separatorFile.old, "b\n", by decide +kernel, separatorOld_noNul⟩)
  entry := ⟨"100644", separatorFile.path, (sha256 separatorFile.new).text, 2⟩
  new := ⟨separatorFile.new, "a\n", by decide +kernel, separatorNew_noNul⟩

theorem readSnapshotText_of_read {snapshot : Snapshot} {entry : SnapshotFile}
    {text : SnapshotText} (h : snapshot.read entry = some text.raw) :
    readSnapshotText snapshot entry = .ok text := by
  obtain ⟨raw, text, hdecodes, hnul⟩ := text
  unfold readSnapshotText
  simp only [h]
  split
  · next hnone =>
    rw [hdecodes] at hnone
    cases hnone
  · next found hfound =>
    rw [hdecodes] at hfound
    cases hfound
    rw [dif_neg hnul]

theorem separatorFile_isChange : IsChange (separatorSnapshot separatorFile.old)
    (separatorSnapshot separatorFile.new) separatorFile.diffFile separatorDiff where
  path := rfl
  entry := by decide +kernel
  old := by decide +kernel
  changed := by decide +kernel
  modeKept := by rintro _ ⟨⟩; rfl
  status := rfl
  digest := rfl
  newText := readSnapshotText_of_read rfl
  oldText := by
    rintro _ ⟨⟩
    exact readSnapshotText_of_read rfl
  newVerified := ⟨by decide, (sha256 separatorFile.new).matches_text⟩
  oldVerified := by
    rintro _ ⟨⟩
    exact ⟨by decide, (sha256 separatorFile.old).matches_text⟩

theorem separatorFile_snapshots : SnapshotsOf [separatorFile.diffFile]
    (separatorSnapshot separatorFile.old) (separatorSnapshot separatorFile.new) where
  changed := by
    intro file hfile
    rw [List.mem_singleton.mp hfile]
    exact ⟨separatorDiff, separatorFile_isChange⟩
  unchanged := by
    intro path hpath
    have hne : separatorFile.path ≠ path := by
      rintro rfl
      exact hpath (List.mem_singleton_self _)
    simp [Snapshot.get, separatorSnapshot, hne]

/-- The line separator in the path makes its header unreadable. -/
theorem separator_path_unbuildable : ¬ PassingReportsAreBuildable replaceAll
    (fun _ => separatorFile.answer) "/repo" separatorFile.task (sha256 [])
      separatorFile.newCommit.text :=
  unbuildable_of_stages replaceAll separatorFile_stages separatorFile_snapshots (by decide)

end AmazonSimilarSearch.Packet
