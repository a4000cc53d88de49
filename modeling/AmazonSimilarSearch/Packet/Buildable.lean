import AmazonSimilarSearch.Packet.DiffPaths

/-!
# Which passing reports can be packed

A passing report and two snapshots that differ in its files give a diff, and the
packet stage accepts every path of the report. It reads the diff back exactly
when no path holds one of the three separators above ASCII that `splitlines`
knows; the policy stage admits these characters.
-/
namespace AmazonSimilarSearch.Packet
open Foundation Review

/-! ## Snapshots of a report -/

/-- What the verification of a snapshot ensures of an entry. -/
structure SnapshotFile.Verified (entry : SnapshotFile) : Prop where
  mode : entry.mode ∈ Policy.allowedFileModes
  sha256 : matchesLowerHex 64 entry.sha256 = true

/-- The change of a file between two snapshots is the one that the report names. -/
structure IsChange (base candidate : Snapshot) (file : DiffFile) (diff : FileDiff) : Prop where
  path : diff.path = file.path
  entry : candidate.get file.path = some diff.entry
  old : base.get file.path = diff.old.map Prod.fst
  changed : base.get file.path ≠ some diff.entry
  modeKept : ∀ old ∈ diff.old, old.1.mode = diff.entry.mode
  status : file.status = diff.status
  digest : file.contentSha256.map LowerHex.text = some diff.entry.sha256
  newText : readSnapshotText candidate diff.entry = .ok diff.new
  oldText : ∀ old ∈ diff.old, readSnapshotText base old.1 = .ok old.2
  newVerified : diff.entry.Verified
  oldVerified : ∀ old ∈ diff.old, old.1.Verified

/-- Two snapshots differ in the files of a report, and in no other. -/
structure SnapshotsOf (changedFiles : List DiffFile) (base candidate : Snapshot) : Prop where
  changed : ∀ file ∈ changedFiles, ∃ diff, IsChange base candidate file diff
  unchanged : ∀ path, path ∉ changedFiles.map DiffFile.path → base.get path = candidate.get path

theorem lineSafe_of_hex {text : String} (h : matchesLowerHex 64 text = true) : LineSafe text := by
  intro c hc
  rw [matchesLowerHex, Bool.and_eq_true] at h
  have hhex := List.all_eq_true.mp h.2 c hc
  by_contra hboundary
  simp only [isLineBoundary, List.contains_eq_mem, Bool.not_eq_false, decide_eq_true_eq,
    List.mem_cons, List.not_mem_nil, or_false] at hboundary
  rcases hboundary with rfl | rfl | rfl | rfl | rfl | rfl | rfl | rfl | rfl | rfl <;>
    exact absurd hhex (by decide)

theorem lineSafe_of_mode {mode : String} (h : mode ∈ Policy.allowedFileModes) : LineSafe mode := by
  simp only [Policy.allowedFileModes, List.mem_cons, List.not_mem_nil, or_false] at h
  rcases h with rfl | rfl
  · decide
  · decide

theorem IsChange.printable {base candidate : Snapshot} {file : DiffFile} {diff : FileDiff}
    (h : IsChange base candidate file diff) : diff.Printable where
  newMode := lineSafe_of_mode h.newVerified.mode
  newSha256 := lineSafe_of_hex h.newVerified.sha256
  oldMode old hold := lineSafe_of_mode (h.oldVerified old hold).mode
  oldSha256 old hold := lineSafe_of_hex (h.oldVerified old hold).sha256

/-! ## The diff is rendered -/

section
variable {difflib : UnifiedDiff} {deniedPaths : List String} {changedFiles : List DiffFile}
  {base candidate : Snapshot}

/-- The change of a path, where neither a deletion nor a change of mode can come. -/
def changeOf (base candidate : Snapshot) (path : String) :
    Option (String × Option SnapshotFile × SnapshotFile) :=
  match candidate.get path with
  | none => none
  | some new => if base.get path = some new then none else some (path, base.get path, new)

theorem changeOf_eq_some {path : String} {change : String × Option SnapshotFile × SnapshotFile} :
    changeOf base candidate path = some change ↔ change = (path, base.get path, change.2.2) ∧
      candidate.get path = some change.2.2 ∧ base.get path ≠ candidate.get path := by
  unfold changeOf
  cases hnew : candidate.get path with
  | none => simp
  | some new =>
      dsimp only
      split_ifs with hold
      · simp [hold]
      · simp only [Option.some.injEq, ne_eq, hold, not_false_eq_true, and_true]
        constructor
        · rintro rfl
          exact ⟨rfl, rfl⟩
        · rintro ⟨hchange, hentry⟩
          rw [hchange, ← hentry]

theorem SnapshotsOf.snapshotChange (h : SnapshotsOf changedFiles base candidate) (path : String) :
    snapshotChange base candidate path = .ok (changeOf base candidate path) := by
  unfold Packet.snapshotChange changeOf
  by_cases hpath : path ∈ changedFiles.map DiffFile.path
  · obtain ⟨file, hfile, rfl⟩ := List.mem_map.mp hpath
    obtain ⟨diff, hdiff⟩ := h.changed file hfile
    have hmode : (diff.old.map Prod.fst).all (fun old => old.mode = diff.entry.mode) = true := by
      cases hold : diff.old with
      | none => rfl
      | some old => simpa using hdiff.modeKept old hold
    have hchanged := hdiff.changed
    rw [hdiff.old] at hchanged
    simp only [hdiff.entry, hdiff.old, if_neg hchanged, ensure_of _ hmode, ok_bind]
    rfl
  · rw [h.unchanged path hpath]
    cases candidate.get path with
    | none => rfl
    | some new =>
        simp only [if_true]
        rfl

/-- A loop whose rounds all return. -/
theorem exists_mapM_eq_ok {α β ε : Type} {f : α → Except ε β} {P : α → β → Prop} {xs : List α}
    (h : ∀ x ∈ xs, ∃ y, f x = .ok y ∧ P x y) :
    ∃ ys, xs.mapM f = .ok ys ∧ List.Forall₂ P xs ys := by
  induction xs with
  | nil => exact ⟨[], rfl, .nil⟩
  | cons x xs ih =>
      obtain ⟨y, hy, hP⟩ := h x List.mem_cons_self
      obtain ⟨ys, hys, hPs⟩ := ih fun x' hx' => h x' (List.mem_cons_of_mem x hx')
      exact ⟨y :: ys, by rw [List.mapM_cons, hy, ok_bind, hys]; rfl, .cons hP hPs⟩

theorem expectedFile_of_mem {path : String} (h : path ∈ changedFiles.map DiffFile.path) :
    ∃ file ∈ changedFiles, file.path = path ∧ expectedFile changedFiles path = some file := by
  obtain ⟨file, hfile, hpath⟩ := List.mem_map.mp h
  have hsome : (expectedFile changedFiles path).isSome = true := by
    rw [expectedFile, List.find?_isSome]
    exact ⟨file, List.mem_reverse.mpr hfile, by simpa using hpath⟩
  obtain ⟨found, hfound⟩ := Option.isSome_iff_exists.mp hsome
  refine ⟨found, List.mem_reverse.mp (List.mem_of_find?_eq_some hfound), ?_, hfound⟩
  simpa using List.find?_some hfound

theorem SnapshotsOf.readFileDiff (h : SnapshotsOf changedFiles base candidate)
    (hadmitted : ∀ file ∈ changedFiles, PathAdmitted deniedPaths file.path)
    {change : String × Option SnapshotFile × SnapshotFile} {path : String}
    (hchange : changeOf base candidate path = some change) :
    ∃ diff, readFileDiff deniedPaths changedFiles base candidate change = .ok diff ∧
      diff.path = change.1 ∧ diff.Printable := by
  obtain ⟨heq, hentry, hchanged⟩ := changeOf_eq_some.mp hchange
  have hmem : path ∈ changedFiles.map DiffFile.path := by
    by_contra hmem
    exact hchanged (h.unchanged path hmem)
  obtain ⟨file, hfile, rfl, hexpected⟩ := expectedFile_of_mem hmem
  obtain ⟨diff, hdiff⟩ := h.changed file hfile
  have hentry' : change.2.2 = diff.entry := by
    rw [hdiff.entry] at hentry
    exact (Option.some.inj hentry).symm
  rw [heq, hentry', hdiff.old]
  refine ⟨diff, ?_, hdiff.path, hdiff.printable⟩
  have hprotected := (hadmitted file hfile).unprotected
  have hstatus : file.status = if (diff.old.map Prod.fst).isSome then "M" else "A" := by
    rw [hdiff.status, FileDiff.status, Option.isSome_map]
  unfold Packet.readFileDiff
  simp only [hexpected, required_some, ok_bind, ensure_of _ hstatus, ensure_of _ hdiff.digest,
    ensure_of _ hprotected]
  obtain ⟨path, old, entry, new⟩ := diff
  cases old with
  | none =>
      simp only [Option.map_none, hdiff.newText, pure_bind, ok_bind]
      rw [← hdiff.path]
      rfl
  | some old =>
      have hold : readSnapshotText base old.1 = .ok old.2 := hdiff.oldText old rfl
      simp only [Option.map_some, hold, hdiff.newText, ok_bind, pure_bind]
      rw [← hdiff.path]
      rfl

/-- The paths of both snapshots that change. -/
theorem mem_changedPaths (h : SnapshotsOf changedFiles base candidate) (path : String) :
    path ∈ ((sortedText (base.paths ++ candidate.paths).dedup).filterMap
        (changeOf base candidate)).map Prod.fst ↔ path ∈ changedFiles.map DiffFile.path := by
  simp only [List.mem_map, List.mem_filterMap]
  constructor
  · rintro ⟨change, ⟨path', _, hchange⟩, rfl⟩
    obtain ⟨heq, _, hchanged⟩ := changeOf_eq_some.mp hchange
    rw [heq]
    by_contra hmem
    exact hchanged (h.unchanged path' (by simpa using hmem))
  · rintro ⟨file, hfile, rfl⟩
    obtain ⟨diff, hdiff⟩ := h.changed file hfile
    refine ⟨(file.path, base.get file.path, diff.entry), ⟨file.path, ?_, ?_⟩, rfl⟩
    · have hfound : diff.entry ∈ candidate.files ∧ diff.entry.path = file.path :=
        ⟨List.mem_of_find?_eq_some hdiff.entry, by simpa using List.find?_some hdiff.entry⟩
      have hpath : file.path ∈ candidate.paths := hfound.2 ▸ List.mem_map_of_mem hfound.1
      rw [sortedText, (sortedBy_perm _ _).mem_iff, List.mem_dedup]
      exact List.mem_append_right _ hpath
    · exact changeOf_eq_some.mpr ⟨rfl, hdiff.entry, by rw [hdiff.entry]; exact hdiff.changed⟩

theorem nodup_changedPaths (base candidate : Snapshot) :
    (((sortedText (base.paths ++ candidate.paths).dedup).filterMap
      (changeOf base candidate)).map Prod.fst).Nodup := by
  have hnodup : (sortedText (base.paths ++ candidate.paths).dedup).Nodup :=
    (sortedBy_perm id _).nodup_iff.mpr (List.nodup_dedup _)
  have hsub : (((sortedText (base.paths ++ candidate.paths).dedup).filterMap
      (changeOf base candidate)).map Prod.fst).Sublist
        (sortedText (base.paths ++ candidate.paths).dedup) := by
    generalize sortedText (base.paths ++ candidate.paths).dedup = paths
    induction paths with
    | nil => exact List.Sublist.slnil
    | cons path paths ih =>
        cases hchange : changeOf base candidate path with
        | none =>
            rw [List.filterMap_cons_none hchange]
            exact ih.cons path
        | some change =>
            rw [List.filterMap_cons_some hchange, List.map_cons, (changeOf_eq_some.mp hchange).1]
            exact ih.cons_cons path
  exact hnodup.sublist hsub

variable (difflib) in
/-- Snapshots of a report give a diff, with one section for each of its paths. -/
theorem SnapshotsOf.rendered (h : SnapshotsOf changedFiles base candidate)
    (hne : changedFiles ≠ [])
    (hadmitted : ∀ file ∈ changedFiles, PathAdmitted deniedPaths file.path) :
    ∃ files, renderSnapshotDiff difflib deniedPaths changedFiles base candidate =
        .ok (renderedFiles difflib files) ∧ (∀ file ∈ files, file.Printable) ∧
      (files.map FileDiff.path).Nodup ∧
      ∀ path, path ∈ files.map FileDiff.path ↔ path ∈ changedFiles.map DiffFile.path := by
  have hchanges : (sortedText (base.paths ++ candidate.paths).dedup).mapM
      (Packet.snapshotChange base candidate) =
        .ok ((sortedText (base.paths ++ candidate.paths).dedup).map (changeOf base candidate)) := by
    rw [mapM_eq_ok_iff, List.forall₂_map_right_iff, List.forall₂_same]
    exact fun path _ => h.snapshotChange path
  have hmem := mem_changedPaths h
  have hnodup := nodup_changedPaths base candidate
  have hactual : ((sortedText (base.paths ++ candidate.paths).dedup).map
      (changeOf base candidate)).filterMap id =
        (sortedText (base.paths ++ candidate.paths).dedup).filterMap (changeOf base candidate) := by
    rw [List.filterMap_map]
    rfl
  have hreads : ∀ change ∈ (sortedText (base.paths ++ candidate.paths).dedup).filterMap
      (changeOf base candidate), ∃ diff,
        Packet.readFileDiff deniedPaths changedFiles base candidate change = .ok diff ∧
          (diff.path = change.1 ∧ diff.Printable) := by
    intro change hchange
    obtain ⟨path, _, hpath⟩ := List.mem_filterMap.mp hchange
    exact h.readFileDiff hadmitted hpath
  obtain ⟨files, hfiles, hof⟩ := exists_mapM_eq_ok hreads
  generalize (sortedText (base.paths ++ candidate.paths).dedup).filterMap
    (changeOf base candidate) = actual at hmem hnodup hactual hfiles hof
  have hpaths : actual.map Prod.fst = files.map FileDiff.path :=
    map_eq_map_of_forall₂ (fun hread => hread.1.symm) hof
  rw [hpaths] at hmem hnodup
  refine ⟨files, ?_, ?_, hnodup, hmem⟩
  · have hne' : files ≠ [] := by
      rintro rfl
      obtain ⟨file, files, rfl⟩ := List.exists_cons_of_ne_nil hne
      exact absurd ((hmem file.path).mpr (by simp)) (by simp)
    have hmatch : (∀ change ∈ actual, change.1 ∈ changedFiles.map DiffFile.path) ∧
        ∀ path ∈ changedFiles.map DiffFile.path, path ∈ actual.map Prod.fst := by
      rw [hpaths]
      constructor
      · intro change hchange
        rw [← hmem, ← hpaths]
        exact List.mem_map_of_mem hchange
      · exact fun path hpath => (hmem path).mpr hpath
    unfold renderSnapshotDiff
    simp only [hchanges, ok_bind, hactual, ensure_of _ hmatch, hfiles, ensure_of _ hne']
    rfl
  · intro file hfile
    obtain ⟨change, hread⟩ := exists_of_forall₂ hof.flip hfile
    exact hread.2

/-! ## Reports that pass -/

/-- The packet stage accepts the report and reads its paths back from the diff. -/
structure Packable (deniedPaths : List String) (changedFiles : List DiffFile) (text : String) :
    Prop where
  accepted : validateDiffPaths deniedPaths changedFiles text = .ok ⟨⟩
  recovered : ∃ paths, diffPaths deniedPaths text = .ok paths ∧
    ∀ path, path ∈ paths ↔ path ∈ changedFiles.map DiffFile.path

variable (difflib) in
theorem packable_iff {files : List FileDiff} (hfiles : ∀ file ∈ files, file.Printable)
    (hnodup : (files.map FileDiff.path).Nodup) (hne : changedFiles ≠ [])
    (hadmitted : ∀ file ∈ changedFiles, PathAdmitted deniedPaths file.path)
    (hmem : ∀ path, path ∈ files.map FileDiff.path ↔ path ∈ changedFiles.map DiffFile.path) :
    Packable deniedPaths changedFiles (renderedFiles difflib files) ↔
      ∀ file ∈ changedFiles, LineSafe file.path := by
  constructor
  · intro h file hfile
    by_contra hunsafe
    obtain ⟨diff, hdiff, hpath⟩ := List.mem_map.mp ((hmem file.path).mpr (List.mem_map_of_mem hfile))
    obtain ⟨paths, hpaths, _⟩ := h.recovered
    exact diffPaths_of_separator hdiff (hpath ▸ hunsafe) paths hpaths
  · intro hsafe
    have hpaths : diffPaths deniedPaths (renderedFiles difflib files) =
        .ok (files.map FileDiff.path) := by
      have hof : ∀ diff ∈ files, ∃ file ∈ changedFiles, file.path = diff.path := by
        intro diff hdiff
        exact List.mem_map.mp ((hmem diff.path).mp (List.mem_map_of_mem hdiff))
      apply diffPaths_renderedFiles hfiles
      · intro diff hdiff
        obtain ⟨file, hfile, hpath⟩ := hof diff hdiff
        exact hpath ▸ hsafe file hfile
      · intro diff hdiff
        obtain ⟨file, hfile, hpath⟩ := hof diff hdiff
        exact hpath ▸ hadmitted file hfile
    have hne' : files.map FileDiff.path ≠ [] := by
      intro hnil
      obtain ⟨file, rest, rfl⟩ := List.exists_cons_of_ne_nil hne
      have hfile := (hmem file.path).mpr (by simp)
      rw [hnil] at hfile
      cases hfile
    refine ⟨?_, files.map FileDiff.path, hpaths, hmem⟩
    rw [validateDiffPaths, hpaths, ok_bind, ensure_of _ ⟨hne', hnodup⟩, ok_bind, ensure_of]
    exact ⟨fun path hpath => (hmem path).mp hpath, fun path hpath => (hmem path).mpr hpath⟩

/-- Next line, line separator and paragraph separator. -/
def unicodeSeparators : List Char := ['\x85', '\u2028', '\u2029']

/-- A safe path has no control characters, so only three separators are left to it. -/
theorem lineSafe_iff_of_safe {path : String} (h : packetSafeRepoPath path = true) :
    LineSafe path ↔ ∀ c ∈ unicodeSeparators, c ∉ path.toList := by
  constructor
  · intro hsafe c hc hmem
    have hfalse := hsafe c hmem
    simp only [unicodeSeparators, List.mem_cons, List.not_mem_nil, or_false] at hc
    rcases hc with rfl | rfl | rfl <;> exact absurd hfalse (by decide)
  · intro hnone c hc
    by_contra hboundary
    have hcontrol : ¬ c.toNat < 32 := by
      unfold packetSafeRepoPath at h
      split_ifs at h
      simp only [Bool.and_eq_true, Bool.not_eq_true', List.any_eq_false, decide_eq_true_eq] at h
      exact h.2 c hc
    simp only [isLineBoundary, List.contains_eq_mem, Bool.not_eq_false, decide_eq_true_eq,
      List.mem_cons, List.not_mem_nil, or_false] at hboundary
    rcases hboundary with rfl | rfl | rfl | rfl | rfl | rfl | rfl | rfl | rfl | rfl
    · exact hcontrol (by decide)
    · exact hcontrol (by decide)
    · exact hcontrol (by decide)
    · exact hcontrol (by decide)
    · exact hcontrol (by decide)
    · exact hcontrol (by decide)
    · exact hcontrol (by decide)
    · exact hnone _ (by decide) hc
    · exact hnone _ (by decide) hc
    · exact hnone _ (by decide) hc

end

/-- The diff of a report and its snapshots can be printed, and the packet stage accepts the report
and the diff. -/
structure Buildable (difflib : UnifiedDiff) (deniedPaths : List String)
    (changedFiles : List DiffFile) (base candidate : Snapshot) : Prop where
  policyPaths : validatePolicyPaths deniedPaths changedFiles = .ok ⟨⟩
  diff : ∃ text, renderSnapshotDiff difflib deniedPaths changedFiles base candidate = .ok text ∧
    Packable deniedPaths changedFiles text

/-- For every repository, in every state and however it answers: a passing report and snapshots
that differ in its files can be packed exactly when no path of the report holds a separator above
ASCII. The report itself is accepted in any case. -/
theorem buildable_iff (difflib : UnifiedDiff) (sha1 : Policy.Sha1Function) (H : HashFunction)
    (validateEmptyEnvExample : Bytes → Bool) (pyRepr : String → String)
    (answers : Policy.Repository) (repo : String) (task : TaskSpec) (taskSha256 : Sha256)
    (head : String) (expectedPatchSha256 : Option String) :
    Returned (fun report => report.passed = true → ∀ base candidate,
      SnapshotsOf report.changedFiles base candidate →
        validatePolicyPaths task.deniedPaths report.changedFiles = .ok ⟨⟩ ∧
          (Buildable difflib task.deniedPaths report.changedFiles base candidate ↔
            ∀ file ∈ report.changedFiles, ∀ c ∈ unicodeSeparators, c ∉ file.path.toList))
      ((Policy.inspectGitDiff sha1 H validateEmptyEnvExample pyRepr repo task taskSha256 head
        expectedPatchSha256).run answers []).1 := by
  apply returned_iff.mpr
  intro report hreport hpassed base candidate hsnapshots
  obtain ⟨metadata, baseBlobs, reads, hcontract⟩ := Policy.passingContract_of_run hpassed
    (Prod.ext hreport rfl)
  have hadmitted : ∀ file ∈ report.changedFiles, PathAdmitted task.deniedPaths file.path := by
    intro file hfile
    have hpath := List.mem_map_of_mem (f := DiffFile.path) hfile
    rw [hcontract.reportedPaths] at hpath
    obtain ⟨entry, hentry, heq⟩ := List.mem_map.mp hpath
    rw [(Policy.sortedEntries_perm _).mem_iff] at hentry
    exact heq ▸ pathAdmitted_of_accepted (hcontract.paths entry hentry).1
  have hne : report.changedFiles ≠ [] := by
    intro hnil
    have hpaths := hcontract.reportedPaths
    rw [hnil, List.map_nil, eq_comm, List.map_eq_nil_iff] at hpaths
    have hperm := Policy.sortedEntries_perm metadata
    rw [hpaths] at hperm
    exact hcontract.nonempty hperm.symm.eq_nil
  have hsafe : (∀ file ∈ report.changedFiles, LineSafe file.path) ↔
      ∀ file ∈ report.changedFiles, ∀ c ∈ unicodeSeparators, c ∉ file.path.toList :=
    forall₂_congr fun file hfile => lineSafe_iff_of_safe (hadmitted file hfile).safe
  obtain ⟨files, hrendered, hfiles, hnodup, hmem⟩ :=
    hsnapshots.rendered difflib hne hadmitted
  have hpackable := packable_iff difflib hfiles hnodup hne hadmitted hmem
  have hpolicy := validatePolicyPaths_eq_ok hadmitted
  refine ⟨hpolicy, ?_⟩
  rw [← hsafe, ← hpackable]
  constructor
  · rintro ⟨_, text, htext, hpack⟩
    rw [hrendered] at htext
    exact Except.ok.inj htext ▸ hpack
  · intro hpack
    exact ⟨hpolicy, _, hrendered, hpack⟩

end AmazonSimilarSearch.Packet
