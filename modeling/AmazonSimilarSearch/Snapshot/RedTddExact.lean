import AmazonSimilarSearch.Snapshot.RedTdd
import AmazonSimilarSearch.Review.JudgeContract

/-!
# RED is the base with the candidate's tests

The measurement compares the base and the RED snapshot by the set of paths at
which they differ, and the RED and the candidate snapshot path by path. Together
with the check that every test differs from the base, this says that the RED file
map is the base file map overridden at the test paths, and nowhere else.
-/
namespace AmazonSimilarSearch.Snapshot
open Foundation
open Packet (SnapshotFile)
open Review (PolicyReport buildTestManifestSha256 manifestPreimage updateFramed)

/-! ## Maps -/

section

variable {κ ν : Type}

/-- `f`, with the values of `g` at the keys in `s`. -/
def override (s : Set κ) [DecidablePred (· ∈ s)] (g f : κ → Option ν) : κ → Option ν :=
  fun k => if k ∈ s then g k else f k

/-- A map that differs from `f` exactly in `s` and agrees with `g` there is an override, when `f`
and `g` differ in `s`. -/
theorem eq_override_iff {s : Set κ} [DecidablePred (· ∈ s)] {f g h : κ → Option ν}
    (hdiffer : ∀ k ∈ s, f k ≠ g k) :
    ((∀ k, f k ≠ h k ↔ k ∈ s) ∧ ∀ k ∈ s, h k = g k) ↔ h = override s g f := by
  constructor
  · rintro ⟨hchanged, hagree⟩
    funext k
    by_cases hk : k ∈ s
    · rw [override, if_pos hk, hagree k hk]
    · rw [override, if_neg hk]
      have hsame := (not_iff_not.mpr (hchanged k)).mpr hk
      exact (not_not.mp hsame).symm
  · intro hoverride
    have hin : ∀ k ∈ s, h k = g k := by
      intro k hk
      rw [hoverride, override, if_pos hk]
    refine ⟨?_, hin⟩
    intro k
    by_cases hk : k ∈ s
    · rw [hin k hk]
      exact iff_of_true (hdiffer k hk) hk
    · have hout : h k = f k := by rw [hoverride, override, if_neg hk]
      rw [hout]
      exact iff_of_false (fun hne => hne rfl) hk

end

/-! ## File maps -/

namespace VerifiedSnapshot

variable {snapshot other : VerifiedSnapshot}

theorem get_path {path : String} {file : SnapshotFile} (h : snapshot.get path = some file) :
    file.path = path := by
  have hfound := List.find?_some h
  simpa using hfound

theorem get_mem {path : String} {file : SnapshotFile} (h : snapshot.get path = some file) :
    file ∈ snapshot.files := List.mem_of_find?_eq_some h

theorem get_eq_none_iff {path : String} : snapshot.get path = none ↔ path ∉ snapshot.paths := by
  rw [get, List.find?_eq_none, paths, List.mem_map, not_exists]
  constructor
  · rintro h file ⟨hfile, rfl⟩
    exact h file hfile (decide_eq_true rfl)
  · intro h file hfile hpath
    exact h file ⟨hfile, of_decide_eq_true hpath⟩

/-- An entry is determined by its path and what is projected of it. -/
theorem project_inj {path : String} :
    (snapshot.get path).map projectTestEntry = (other.get path).map projectTestEntry ↔
      snapshot.get path = other.get path := by
  constructor
  · intro h
    cases hfile : snapshot.get path with
    | none =>
        rw [hfile, Option.map_none] at h
        exact (Option.map_eq_none_iff.mp h.symm).symm
    | some file =>
        rw [hfile, Option.map_some] at h
        obtain ⟨file', hfile', hproject⟩ := Option.map_eq_some_iff.mp h.symm
        rw [hfile']
        have hpath : file'.path = file.path := by rw [get_path hfile', get_path hfile]
        simp only [projectTestEntry, TestEntry.mk.injEq] at hproject
        cases file
        cases file'
        simp only [Option.some.injEq, SnapshotFile.mk.injEq]
        exact ⟨hproject.1.symm, hpath.symm, hproject.2.1.symm, hproject.2.2.symm⟩
  · intro h
    rw [h]

end VerifiedSnapshot

section

variable {H : HashFunction} {base candidate red : VerifiedSnapshot}

theorem mem_changedPaths {path : String} :
    path ∈ changedPaths base red ↔ base.get path ≠ red.get path := by
  rw [changedPaths, List.mem_toFinset, List.mem_filter, decide_eq_true_eq, ne_eq,
    VerifiedSnapshot.project_inj, and_iff_right_iff_imp]
  intro hdiffer
  by_contra hnone
  rw [List.mem_append, not_or] at hnone
  refine hdiffer ?_
  rw [VerifiedSnapshot.get_eq_none_iff.mpr hnone.1, VerifiedSnapshot.get_eq_none_iff.mpr hnone.2]

/-- `_assert_exact_red_tree` accepts overrides of the base, once every test differs from it. -/
theorem assertExactRedTree_ok_iff {testPaths : List String}
    (hdiffer : ∀ path ∈ testPaths, base.get path ≠ candidate.get path) :
    assertExactRedTree base candidate red testPaths = .ok ⟨⟩ ↔
      red.get = override {path | path ∈ testPaths} candidate.get base.get := by
  have hset : changedPaths base red = testPaths.toFinset ↔
      ∀ path, base.get path ≠ red.get path ↔ path ∈ testPaths := by
    rw [Finset.ext_iff]
    simp only [mem_changedPaths, List.mem_toFinset]
  have hentries : (∀ path ∈ testPaths, checkRedEntry candidate red path = .ok ⟨⟩) ↔
      ∀ path ∈ testPaths, red.get path = candidate.get path := by
    simp only [checkRedEntry, require, ensure_eq_ok_iff, VerifiedSnapshot.project_inj]
  rw [← eq_override_iff (s := {path | path ∈ testPaths}) hdiffer]
  simp only [assertExactRedTree, require, bind_eq_ok_iff, ensure_eq_ok_iff, exists_const,
    forM_eq_ok_iff, hset, hentries]
  rfl

/-! ## The test patch -/

theorem testDeltaFile_ok_iff {path : String} {file : Json} :
    testDeltaFile base candidate path = .ok file ↔
      candidate.get path ≠ none ∧ base.get path ≠ candidate.get path ∧
        file = .obj [("after", TestEntry.dump ((candidate.get path).map projectTestEntry)),
          ("before", TestEntry.dump ((base.get path).map projectTestEntry)), ("path", .str path)] := by
  cases hcandidate : candidate.get path with
  | none => simp [testDeltaFile, hcandidate, bind_eq_ok_iff]
  | some entry =>
      have hproject : (base.get path).map projectTestEntry ≠ some (projectTestEntry entry) ↔
          base.get path ≠ some entry := by
        rw [← Option.map_some, ← hcandidate]
        exact not_congr VerifiedSnapshot.project_inj
      simp only [testDeltaFile, hcandidate, required_some, ok_bind, require, bind_eq_ok_iff,
        ensure_eq_ok_iff, exists_const, pure_eq_ok_iff, hproject, Option.map_some]
      simp only [ne_eq, reduceCtorEq, not_false_eq_true, true_and]
      exact and_congr_right fun _ => eq_comm

variable (base candidate) in
/-- The JSON of a changed test: its entries before and after. -/
def testChange (path : String) : Json :=
  .obj [("after", TestEntry.dump ((candidate.get path).map projectTestEntry)),
    ("before", TestEntry.dump ((base.get path).map projectTestEntry)), ("path", .str path)]

variable (base candidate) in
/-- The JSON of the test patch. -/
def testPatch (testPaths : List String) : Json :=
  .obj [("files", .arr (testPaths.map (testChange base candidate))), ("schema_version", .str "1.0")]

/-- The paths are those of candidate files that the base does not have like that. -/
def TestsChanged (base candidate : VerifiedSnapshot) (testPaths : List String) : Prop :=
  ∀ path ∈ testPaths, candidate.get path ≠ none ∧ base.get path ≠ candidate.get path

theorem encodes_entry (snapshot : VerifiedSnapshot) (path : String) :
    (TestEntry.dump ((snapshot.get path).map projectTestEntry)).Encodes := by
  cases hfile : snapshot.get path with
  | none => exact Json.encodes_null
  | some file =>
      have hsize := snapshot.sizes_bounded file (VerifiedSnapshot.get_mem hfile)
      have hint : (Json.int (file.size : ℤ)).Encodes := by
        apply Json.encodes_int
        rw [Int.natAbs_natCast]
        calc file.size
            ≤ 2000000 := hsize
          _ < 10 ^ 7 := by decide
          _ ≤ 10 ^ maxIntegerDigits := Nat.pow_le_pow_right (by decide) (by decide)
      simp [TestEntry.dump, projectTestEntry, hint]

theorem encodes_testPatch (testPaths : List String) :
    (testPatch base candidate testPaths).Encodes := by
  have hchange : ∀ path, (testChange base candidate path).Encodes := by
    intro path
    simp [testChange, encodes_entry]
  simp [testPatch, hchange]

theorem testDeltaFiles_ok_iff {testPaths : List String} {files : List Json} :
    testPaths.mapM (testDeltaFile base candidate) = .ok files ↔
      TestsChanged base candidate testPaths ∧
        files = testPaths.map (testChange base candidate) := by
  have hrow : ∀ path file, testDeltaFile base candidate path = .ok file ↔
      (candidate.get path ≠ none ∧ base.get path ≠ candidate.get path) ∧
        testChange base candidate path = file := by
    intro path file
    rw [testDeltaFile_ok_iff, and_assoc, testChange, eq_comm (a := file)]
  rw [mapM_eq_ok_iff]
  simp only [hrow]
  rw [List.forall₂_and_left, ← List.forall₂_map_left_iff, List.forall₂_eq_eq_eq, TestsChanged,
    eq_comm (a := files)]

theorem testDeltaSha256_ok_iff {testPaths : List String} {digest : Sha256} :
    testDeltaSha256 H base candidate testPaths = .ok digest ↔
      TestsChanged base candidate testPaths ∧
        digest = H (lineOf (testPatch base candidate testPaths)) := by
  have hencodes : (testPatch base candidate testPaths).Encodes := encodes_testPatch testPaths
  have hline := canonicalLine?_lineOf hencodes
  simp only [testDeltaSha256, bind_eq_ok_iff, testDeltaFiles_ok_iff]
  constructor
  · rintro ⟨files, ⟨hchanged, hfiles⟩, rest⟩
    rw [hfiles, ← testPatch, hline, required_some] at rest
    obtain ⟨raw, hraw, hdigest⟩ := rest
    rw [← Except.ok.inj hraw, pure_eq_ok_iff] at hdigest
    exact ⟨hchanged, hdigest.symm⟩
  · rintro ⟨hchanged, hdigest⟩
    refine ⟨_, ⟨hchanged, rfl⟩, lineOf (testPatch base candidate testPaths), ?_, ?_⟩
    · rw [← testPatch, hline, required_some]
    · rw [hdigest]
      rfl

/-! ## The test manifest -/

theorem updateFramed_bounded {value : String} (digested : Bytes)
    (h : (encodeUtf8 value).length < 2 ^ 32) : ∃ next, updateFramed digested value = .ok next := by
  simp only [updateFramed, ensure_of _ h, ok_bind]
  exact ⟨_, rfl⟩

/-- Every path of a manifest fits the frame. -/
theorem testManifestPreimage_ok {paths : List String} (digested : Bytes)
    (h : ∀ path ∈ paths, candidate.get path ≠ none) :
    ∃ preimage, testManifestPreimage candidate digested paths = .ok preimage := by
  induction paths generalizing digested with
  | nil => exact ⟨digested, rfl⟩
  | cons path paths ih =>
      obtain ⟨hpath, hpaths⟩ := List.forall_mem_cons.mp h
      obtain ⟨entry, hentry⟩ := Option.ne_none_iff_exists'.mp hpath
      have hmem := VerifiedSnapshot.get_mem hentry
      have hpathLength : (encodeUtf8 path).length < 2 ^ 32 := by
        have hbound := candidate.paths_bounded entry hmem
        rw [VerifiedSnapshot.get_path hentry] at hbound
        omega
      have hdigestLength : (encodeUtf8 entry.sha256).length < 2 ^ 32 := by
        have hdigest := candidate.digests entry hmem
        have hbound := Review.encodeUtf8_length_le_toList entry.sha256
        simp only [matchesLowerHex, Bool.and_eq_true, beq_iff_eq] at hdigest
        omega
      obtain ⟨afterPath, hafterPath⟩ := updateFramed_bounded digested hpathLength
      obtain ⟨next, hnext⟩ := updateFramed_bounded afterPath hdigestLength
      obtain ⟨preimage, hpreimage⟩ := ih next hpaths
      refine ⟨preimage, ?_⟩
      rw [testManifestPreimage, hentry, required_some, ok_bind, hafterPath]
      change (updateFramed afterPath entry.sha256).mapError _ >>= _ = _
      rw [hnext]
      exact hpreimage

/-- The report's files have the candidate's digests at the paths. -/
def CarriesDigests (candidate : VerifiedSnapshot) (policy : PolicyReport) (paths : List String) :
    Prop :=
  ∀ path ∈ paths, ((policy.fileByPath path).bind Review.DiffFile.contentSha256).map LowerHex.text =
    (candidate.get path).map SnapshotFile.sha256

/-- The two modules feed their digests the same. -/
theorem manifestPreimage_eq {policy : PolicyReport} {paths : List String} {digested preimage : Bytes}
    (hcarries : CarriesDigests candidate policy paths)
    (h : testManifestPreimage candidate digested paths = .ok preimage) :
    manifestPreimage policy digested paths = .ok (some preimage) := by
  induction paths generalizing digested with
  | nil =>
      rw [testManifestPreimage, pure_eq_ok_iff] at h
      rw [h]
      rfl
  | cons path paths ih =>
      obtain ⟨hpath, hpaths⟩ := List.forall_mem_cons.mp hcarries
      simp only [testManifestPreimage, bind_eq_ok_iff, required_eq_ok_iff, mapError_eq_ok_iff] at h
      obtain ⟨entry, hentry, afterPath, hafterPath, next, hnext, hrest⟩ := h
      rw [hentry, Option.map_some, Option.map_eq_some_iff] at hpath
      obtain ⟨content, hcontent, htext⟩ := hpath
      rw [manifestPreimage, hcontent]
      simp only [hafterPath, ok_bind, htext, hnext]
      exact ih hpaths hrest

/-! ## The measurement -/

/-- Between 1 and 256 distinct safe paths below `tests/`. -/
structure ValidTestPaths (testPaths : List String) : Prop where
  count : testPaths ≠ [] ∧ testPaths.length ≤ 256
  safe : ∀ path ∈ testPaths, path ≠ "" ∧ '\x00' ∉ path.toList ∧ isTestPath path = true
  nodup : testPaths.Nodup

theorem validatedTestPaths_ok_iff {testPaths exact : List String} :
    validatedTestPaths testPaths = .ok exact ↔
      ValidTestPaths testPaths ∧ exact = sortedText testPaths := by
  simp only [validatedTestPaths, checkTestPath, require, bind_eq_ok_iff, ensure_eq_ok_iff,
    exists_const, forM_eq_ok_iff, pure_eq_ok_iff]
  constructor
  · rintro ⟨hcount, hsafe, hnodup, hsorted⟩
    refine ⟨⟨hcount, ?_, hnodup⟩, hsorted.symm⟩
    intro path hpath
    exact and_assoc.mp (hsafe path hpath)
  · rintro ⟨hvalid, hsorted⟩
    refine ⟨hvalid.count, ?_, hvalid.nodup, hsorted.symm⟩
    intro path hpath
    exact and_assoc.mpr (hvalid.safe path hpath)

theorem mem_sortedText {paths : List String} {path : String} :
    path ∈ sortedText paths ↔ path ∈ paths :=
  (sortedBy_perm id paths).mem_iff

/-- RED is the base with the candidate's tests. -/
structure RedIsBaseWithTests (base candidate red : VerifiedSnapshot) (testPaths : List String) :
    Prop where
  paths : ValidTestPaths testPaths
  exclusions : red.evidence.excludedPaths = base.evidence.excludedPaths ∧
    base.evidence.excludedPaths = candidate.evidence.excludedPaths
  commit : red.evidence.commitSha = base.evidence.commitSha ∧
    red.evidence.commitTreeSha = base.evidence.commitTreeSha
  changed : TestsChanged base candidate testPaths
  files : red.get = override {path | path ∈ testPaths} candidate.get base.get

/-- The order in which the paths are declared plays no part. -/
theorem override_sortedText (testPaths : List String) :
    override {path | path ∈ sortedText testPaths} candidate.get base.get =
      override {path | path ∈ testPaths} candidate.get base.get := by
  funext path
  exact if_congr mem_sortedText rfl rfl

theorem TestsChanged.sortedText_iff {testPaths : List String} :
    TestsChanged base candidate (sortedText testPaths) ↔ TestsChanged base candidate testPaths := by
  simp only [TestsChanged, mem_sortedText]

/-- The test patch is read at the test paths only. -/
theorem testPatch_congr {base' candidate' : VerifiedSnapshot} {paths : List String}
    (hbase : ∀ path ∈ paths, base'.get path = base.get path)
    (hcandidate : ∀ path ∈ paths, candidate'.get path = candidate.get path) :
    testPatch base' candidate' paths = testPatch base candidate paths := by
  have hchanges : paths.map (testChange base' candidate') =
      paths.map (testChange base candidate) := by
    apply List.map_congr_left
    intro path hpath
    rw [testChange, testChange, hbase path hpath, hcandidate path hpath]
  rw [testPatch, testPatch, hchanges]

theorem measureRedTddSnapshot_eq_ok {baseSnapshot candidateSnapshot : SnapshotEvidence}
    {testPaths : List String} {evidence : RedTddSnapshotEvidence}
    (h : measureRedTddSnapshot H base candidate red baseSnapshot candidateSnapshot testPaths =
      .ok evidence) :
    RedIsBaseWithTests base candidate red testPaths ∧
      evidence.testPatchSha256 = H (lineOf (testPatch base candidate (sortedText testPaths))) ∧
      testManifestSha256 H candidate (sortedText testPaths) = .ok evidence.testManifestSha256 := by
  simp only [measureRedTddSnapshot, require, bind_eq_ok_iff, ensure_eq_ok_iff, exists_const,
    pure_eq_ok_iff, validatedTestPaths_ok_iff, testDeltaSha256_ok_iff] at h
  obtain ⟨-, -, hcommit, hexclusions, exact, ⟨hpaths, rfl⟩, patch, ⟨hchanged, rfl⟩, manifest,
    hmanifest, u, hred, rfl⟩ := h
  have hdiffer : ∀ path ∈ sortedText testPaths, base.get path ≠ candidate.get path :=
    fun path hpath => (hchanged path hpath).2
  have hfiles := (assertExactRedTree_ok_iff hdiffer).mp hred
  rw [override_sortedText] at hfiles
  exact ⟨⟨hpaths, hexclusions, hcommit, TestsChanged.sortedText_iff.mp hchanged, hfiles⟩, rfl,
    hmanifest⟩

theorem measureRedTddSnapshot_ok {testPaths : List String}
    (h : RedIsBaseWithTests base candidate red testPaths) :
    ∃ evidence, measureRedTddSnapshot H base candidate red base.evidence candidate.evidence
      testPaths = .ok evidence := by
  have hchanged := TestsChanged.sortedText_iff.mpr h.changed
  have hvalidated := validatedTestPaths_ok_iff.mpr ⟨h.paths, rfl⟩
  have hdelta := (testDeltaSha256_ok_iff (H := H)).mpr ⟨hchanged, rfl⟩
  have hpresent : ∀ path ∈ sortedText testPaths, candidate.get path ≠ none :=
    fun path hpath => (hchanged path hpath).1
  obtain ⟨preimage, hpreimage⟩ := testManifestPreimage_ok
    (encodeUtf8 "amazon-explorer-ai-review-test-manifest-v1\x00") hpresent
  have htree : assertExactRedTree base candidate red (sortedText testPaths) = .ok ⟨⟩ := by
    rw [assertExactRedTree_ok_iff fun path hpath => (hchanged path hpath).2, override_sortedText]
    exact h.files
  have hmanifest : testManifestSha256 H candidate (sortedText testPaths) = .ok (H preimage) := by
    rw [testManifestSha256, hpreimage]
    rfl
  rw [measureRedTddSnapshot, require, require, require, require, ensure_of _ rfl, ensure_of _ rfl,
    ensure_of _ h.commit, ensure_of _ h.exclusions, hvalidated]
  simp only [ok_bind, hdelta, hmanifest, htree]
  exact ⟨_, rfl⟩

/-- A RED snapshot is measured exactly when it is the base with the candidate's tests. The patch
digest depends only on the entries at the test paths, and the manifest digest is what the judge
builds from a report with the candidate's digests. -/
theorem measureRedTddSnapshot_exact (H : HashFunction) (base candidate red : VerifiedSnapshot)
    (testPaths : List String) :
    ((∃ evidence, measureRedTddSnapshot H base candidate red base.evidence candidate.evidence
        testPaths = .ok evidence) ↔ RedIsBaseWithTests base candidate red testPaths) ∧
      Returned (fun evidence =>
        (∀ base' candidate' red' testPaths', testPaths'.Perm testPaths →
          (∀ path ∈ testPaths, base'.get path = base.get path) →
          (∀ path ∈ testPaths, candidate'.get path = candidate.get path) →
          Returned (fun evidence' => evidence'.testPatchSha256 = evidence.testPatchSha256)
            (measureRedTddSnapshot H base' candidate' red' base'.evidence candidate'.evidence
              testPaths')) ∧
        ∀ policy : PolicyReport, policy.passed = true → CarriesDigests candidate policy testPaths →
          buildTestManifestSha256 H policy testPaths = .ok (some evidence.testManifestSha256))
        (measureRedTddSnapshot H base candidate red base.evidence candidate.evidence
          testPaths) := by
  refine ⟨⟨?_, measureRedTddSnapshot_ok⟩, returned_iff.mpr ?_⟩
  · rintro ⟨evidence, hevidence⟩
    exact (measureRedTddSnapshot_eq_ok hevidence).1
  · intro evidence hevidence
    obtain ⟨-, hpatch, hmanifest⟩ := measureRedTddSnapshot_eq_ok hevidence
    constructor
    · intro base' candidate' red' testPaths' hperm hbase hcandidate
      rw [returned_iff]
      intro evidence' hevidence'
      have hpatch' := (measureRedTddSnapshot_eq_ok hevidence').2.1
      have hsame : testPatch base' candidate' (sortedText testPaths) =
          testPatch base candidate (sortedText testPaths) := by
        apply testPatch_congr
        · intro path hpath
          exact hbase path (mem_sortedText.mp hpath)
        · intro path hpath
          exact hcandidate path (mem_sortedText.mp hpath)
      rw [hpatch', hpatch, sortedText_eq_of_perm hperm, hsame]
    · intro policy _ hcarries
      simp only [testManifestSha256, bind_eq_ok_iff, pure_eq_ok_iff] at hmanifest
      obtain ⟨preimage, hpreimage, hdigest⟩ := hmanifest
      have hsorted : CarriesDigests candidate policy (sortedText testPaths) := by
        intro path hpath
        exact hcarries path (mem_sortedText.mp hpath)
      rw [buildTestManifestSha256, manifestPreimage_eq hsorted hpreimage, ok_bind, Option.map_some,
        hdigest]
      rfl

end
end AmazonSimilarSearch.Snapshot
