import AmazonSimilarSearch.Policy.Inspect
import Mathlib.Data.List.Dedup

/-!
# What a passing report guarantees

The violations only grow while a diff is inspected, so a report that passes has
been through every check. `PassingContract` says what was seen then, in terms of
the exchanges with the repository: the metadata of the diff, the base tree, and
the content of every changed file with its base.
-/
namespace AmazonSimilarSearch.Policy
open Foundation Review Interaction

section
variable {sha1 : Sha1Function} {H : HashFunction} {answers : Repository} {history after : History}

/-! ## Commands and objects -/

theorem run_git_eq_ok {arguments : List String} {output : Bytes}
    (h : (git arguments).run answers history = (.ok output, after)) :
    after = history ++ [⟨.git arguments, .ok output⟩] := by
  obtain ⟨answer, between, hquery, hanswer⟩ := run_bind_eq_ok.mp h
  rw [run_query, Prod.mk.injEq, Except.ok.injEq] at hquery
  obtain ⟨rfl, rfl⟩ := hquery
  revert hanswer
  cases hcase : answers history (Query.git arguments) with
  | error message =>
      intro hanswer
      cases hanswer
  | ok out =>
      intro hanswer
      obtain ⟨rfl, rfl⟩ := run_done_eq_ok.mp hanswer
      rfl

/-- An object was read, and its content hashed to its id. -/
def ObjectRead (sha1 : Sha1Function) (history : History) (objectType : ObjectType)
    (objectId : String) (content : Bytes) : Prop :=
  (⟨.git ["cat-file", objectType.name, objectId], .ok content⟩ : Exchange Query Answer) ∈ history ∧
    (sha1 (objectPreimage objectType content)).text = objectId

theorem ObjectRead.mono {objectType : ObjectType} {objectId : String} {content : Bytes}
    (h : ObjectRead sha1 history objectType objectId content) (hgrows : history <+: after) :
    ObjectRead sha1 after objectType objectId content :=
  ⟨hgrows.subset h.1, h.2⟩

theorem objectRead_of_run {objectType : ObjectType} {objectId : String} {content : Bytes}
    (h : (verifiedObjectContent sha1 objectType objectId).run answers history =
      (.ok content, after)) : ObjectRead sha1 after objectType objectId content := by
  obtain ⟨_, _, h⟩ := run_ofExcept_bind_eq_ok.mp h
  obtain ⟨output, between, hgit, h⟩ := run_bind_eq_ok.mp h
  obtain ⟨_, hhash, h⟩ := run_ofExcept_bind_eq_ok.mp h
  obtain ⟨rfl, rfl⟩ := run_done_eq_ok.mp h
  rw [run_git_eq_ok hgit]
  exact ⟨List.mem_append_right _ (List.mem_singleton_self _), ensure_eq_ok_iff.mp hhash⟩

theorem blobRead_of_run {objectId : String} {size : ℤ} {content : Bytes}
    (h : (blobContent sha1 objectId size).run answers history = (.ok content, after)) :
    ObjectRead sha1 after .blob objectId content ∧ (content.length : ℤ) = size := by
  obtain ⟨content', between, hread, h⟩ := run_bind_eq_ok.mp h
  obtain ⟨_, hsize, h⟩ := run_ofExcept_bind_eq_ok.mp h
  obtain ⟨rfl, rfl⟩ := run_done_eq_ok.mp h
  exact ⟨objectRead_of_run hread, ensure_eq_ok_iff.mp hsize⟩

/-! ## One changed file -/

/-- The content of a changed file, and of its base when it is modified. -/
structure FileRead where
  old : Option Bytes
  new : Bytes

def FileRead.bytes (read : FileRead) : ℕ := (read.old.map List.length).getD 0 + read.new.length

/-- The reading of a file within the limits of the task. -/
structure FileRead.Within (sha1 : Sha1Function) (task : TaskSpec) (history : History)
    (item : GitFileMetadata) (read : FileRead) : Prop where
  new : ObjectRead sha1 history .blob item.newBlob read.new
  newBytes : read.new.length ≤ task.limits.maxFileBytes
  newText : isText read.new = true
  old : ∀ content ∈ read.old, ObjectRead sha1 history .blob item.oldBlob content ∧
    content.length ≤ task.limits.maxFileBytes
  modified : item.status = "M" → read.old ≠ none

theorem FileRead.Within.mono {task : TaskSpec} {item : GitFileMetadata} {read : FileRead}
    (h : read.Within sha1 task history item) (hgrows : history <+: after) :
    read.Within sha1 task after item where
  new := h.new.mono hgrows
  newBytes := h.newBytes
  newText := h.newText
  old content hcontent := ⟨(h.old content hcontent).1.mono hgrows, (h.old content hcontent).2⟩
  modified := h.modified

/-- The state after a file has been read without an objection. -/
def ContentState.reads (state : ContentState) (H : HashFunction) (path : String)
    (read : FileRead) : ContentState :=
  { state with
    textPaths := state.textPaths ++ [path]
    contentSha256 := state.contentSha256 ++ [(path, H read.new)]
    totalBytes := state.totalBytes + read.bytes }

def LoopStep.state : LoopStep → ContentState
  | .next state => state
  | .stop state => state

theorem object_violations_ne_nil (state : ContentState) (violation : String) :
    (state.object violation).violations ≠ [] := by
  simp [ContentState.object]

/-- The candidate content is read within the limits, or there is an objection. -/
theorem inspectCandidate_cases {task : TaskSpec} {path : String} {item : GitFileMetadata}
    {state : ContentState} {step : LoopStep}
    (h : (inspectCandidate sha1 H task path item state).run answers history =
      (.ok step, after)) :
    step.state.violations ≠ [] ∨ ∃ content, ObjectRead sha1 after .blob item.newBlob content ∧
      content.length ≤ task.limits.maxFileBytes ∧ isText content = true ∧
      step = .next (state.reads H path ⟨none, content⟩) ∧
      state.totalBytes + content.length ≤ task.limits.maxTotalBytes := by
  obtain ⟨size, between, hsize, h⟩ := run_bind_eq_ok.mp h
  dsimp only at h
  split_ifs at h with hfile htotal
  · obtain ⟨rfl, _⟩ := run_done_eq_ok.mp h
    exact .inl (object_violations_ne_nil _ _)
  · obtain ⟨rfl, _⟩ := run_done_eq_ok.mp h
    exact .inl (object_violations_ne_nil _ _)
  · obtain ⟨content, between', hread, h⟩ := run_bind_eq_ok.mp h
    obtain ⟨hread, hlength⟩ := blobRead_of_run hread
    split_ifs at h with htext
    · obtain ⟨rfl, rfl⟩ := run_done_eq_ok.mp h
      refine .inr ⟨content, hread, by omega, htext, ?_, by omega⟩
      simp [ContentState.reads, FileRead.bytes, hlength]
    · obtain ⟨rfl, _⟩ := run_done_eq_ok.mp h
      exact .inl (object_violations_ne_nil _ _)

/-- The base content is read within the limits, or there is an objection. -/
theorem inspectBase_cases {task : TaskSpec} {path : String} {item : GitFileMetadata}
    {state : ContentState} {step : LoopStep}
    (h : (inspectBase sha1 task path item state).run answers history = (.ok step, after)) :
    (∃ stopped, step = .stop stopped ∧ stopped.violations ≠ []) ∨
      ∃ content, ObjectRead sha1 after .blob item.oldBlob content ∧
        content.length ≤ task.limits.maxFileBytes ∧
        step = .next { state with totalBytes := state.totalBytes + content.length } := by
  obtain ⟨size, between, hsize, h⟩ := run_bind_eq_ok.mp h
  dsimp only at h
  split_ifs at h with hfile htotal
  · obtain ⟨rfl, _⟩ := run_done_eq_ok.mp h
    exact .inl ⟨_, rfl, object_violations_ne_nil _ _⟩
  · obtain ⟨rfl, _⟩ := run_done_eq_ok.mp h
    exact .inl ⟨_, rfl, object_violations_ne_nil _ _⟩
  · obtain ⟨content, between', hread, h⟩ := run_bind_eq_ok.mp h
    obtain ⟨hread, hlength⟩ := blobRead_of_run hread
    obtain ⟨rfl, rfl⟩ := run_done_eq_ok.mp h
    exact .inr ⟨content, hread, by omega, by rw [hlength]⟩

/-- A file is read within the limits, or there is an objection. -/
theorem inspectFile_cases {task : TaskSpec} {entry : String × GitFileMetadata}
    {state : ContentState} {step : LoopStep}
    (h : (inspectFile sha1 H task entry state).run answers history = (.ok step, after)) :
    step.state.violations ≠ [] ∨ ∃ read : FileRead, read.Within sha1 task after entry.2 ∧
      step = .next (state.reads H entry.1 read) ∧
      state.totalBytes + read.bytes ≤ task.limits.maxTotalBytes := by
  obtain ⟨path, item⟩ := entry
  unfold inspectFile at h
  dsimp only at h
  split_ifs at h with hmodified
  · obtain ⟨baseStep, between, hbase, h⟩ := run_bind_eq_ok.mp h
    rcases inspectBase_cases hbase with ⟨stopped, rfl, hstopped⟩ | ⟨old, hold, hbytes, rfl⟩
    · obtain ⟨rfl, _⟩ := run_done_eq_ok.mp h
      exact .inl hstopped
    · rcases inspectCandidate_cases h with hobject | ⟨new, hnew, hnewBytes, htext, rfl, htotal⟩
      · exact .inl hobject
      · refine .inr ⟨⟨some old, new⟩, ⟨hnew, hnewBytes, htext, ?_, by simp⟩, ?_, ?_⟩
        · intro content hcontent
          cases hcontent
          exact ⟨hold.mono (prefix_of_run h), hbytes⟩
        · simp only [ContentState.reads, FileRead.bytes, Option.map_some, Option.getD_some,
            Option.map_none, Option.getD_none, LoopStep.next.injEq, ContentState.mk.injEq, true_and]
          omega
        · simp only [FileRead.bytes, Option.map_some, Option.getD_some]
          dsimp only at htotal
          omega
  · rcases inspectCandidate_cases h with hobject | ⟨new, hnew, hnewBytes, htext, rfl, htotal⟩
    · exact .inl hobject
    · refine .inr ⟨⟨none, new⟩, ⟨hnew, hnewBytes, htext, by simp, ?_⟩, rfl, ?_⟩
      · exact fun hstatus => absurd hstatus hmodified
      · simpa [FileRead.bytes] using htotal

/-! ## All changed files -/

/-- The files have been read one after the other, in the order of the entries. -/
structure FilesRead (sha1 : Sha1Function) (H : HashFunction) (task : TaskSpec) (history : History)
    (entries : DiffMetadata) (state final : ContentState) (reads : List FileRead) : Prop where
  within : List.Forall₂ (fun entry read => read.Within sha1 task history entry.2) entries reads
  totalBytes : final.totalBytes = state.totalBytes + (reads.map FileRead.bytes).sum
  bounded : entries ≠ [] → final.totalBytes ≤ task.limits.maxTotalBytes
  contentSha256 : final.contentSha256 = state.contentSha256 ++
    List.zipWith (fun entry read => (entry.1, H read.new)) entries reads

/-- One file more, before the others. -/
theorem FilesRead.cons {task : TaskSpec} {entry : String × GitFileMetadata}
    {entries : DiffMetadata} {state final : ContentState} {read : FileRead}
    {reads : List FileRead} (hread : read.Within sha1 task history entry.2)
    (htotal : state.totalBytes + read.bytes ≤ task.limits.maxTotalBytes)
    (hgrows : history <+: after)
    (h : FilesRead sha1 H task after entries (state.reads H entry.1 read) final reads) :
    FilesRead sha1 H task after (entry :: entries) state final (read :: reads) where
  within := .cons (hread.mono hgrows) h.within
  totalBytes := by
    rw [h.totalBytes, List.map_cons, List.sum_cons]
    simp only [ContentState.reads]
    omega
  bounded _ := by
    cases entries with
    | nil =>
        have hreads : reads = [] := List.forall₂_nil_left_iff.mp h.within
        rw [h.totalBytes, hreads]
        simpa [ContentState.reads] using htotal
    | cons entry entries => exact h.bounded (by simp)
  contentSha256 := by
    rw [h.contentSha256, List.zipWith_cons_cons]
    simp only [ContentState.reads, List.append_assoc, List.singleton_append]

theorem inspectFiles_violations {task : TaskSpec} {entries : DiffMetadata}
    {state final : ContentState} (hstate : state.violations ≠ [])
    (h : (inspectFiles sha1 H task state entries).run answers history = (.ok final, after)) :
    final.violations ≠ [] := by
  induction entries generalizing state history with
  | nil =>
      obtain ⟨rfl, _⟩ := run_done_eq_ok.mp h
      exact hstate
  | cons entry entries ih =>
      obtain ⟨step, between, hstep, hrest⟩ := run_bind_eq_ok.mp h
      have hgrown : step.state.violations ≠ [] := by
        rcases inspectFile_cases hstep with hobject | ⟨read, _, rfl, _⟩
        · exact hobject
        · exact hstate
      cases step with
      | next next => exact ih hgrown hrest
      | stop stopped =>
          obtain ⟨rfl, _⟩ := run_done_eq_ok.mp hrest
          exact hgrown

/-- Where the loop ends without an objection, it has read every file. -/
theorem inspectFiles_reads {task : TaskSpec} {entries : DiffMetadata}
    {state final : ContentState} (hfinal : final.violations = [])
    (h : (inspectFiles sha1 H task state entries).run answers history = (.ok final, after)) :
    ∃ reads, FilesRead sha1 H task after entries state final reads := by
  induction entries generalizing state history with
  | nil =>
      obtain ⟨rfl, _⟩ := run_done_eq_ok.mp h
      exact ⟨[], .nil, by simp, by simp, by simp⟩
  | cons entry entries ih =>
      obtain ⟨step, between, hstep, hrest⟩ := run_bind_eq_ok.mp h
      rcases inspectFile_cases hstep with hobject | ⟨read, hread, rfl, htotal⟩
      · cases step with
        | next next => exact absurd hfinal (inspectFiles_violations hobject hrest)
        | stop stopped =>
            obtain ⟨rfl, _⟩ := run_done_eq_ok.mp hrest
            exact absurd hfinal hobject
      · obtain ⟨reads, hreads⟩ := ih hrest
        exact ⟨read :: reads, hreads.cons hread htotal (prefix_of_run hrest)⟩

/-! ## The metadata -/

theorem keys_dictInsert {α : Type} (key : String) (value : α) (entries : List (String × α)) :
    (dictInsert key value entries).map Prod.fst =
      if key ∈ entries.map Prod.fst then entries.map Prod.fst
      else entries.map Prod.fst ++ [key] := by
  induction entries with
  | nil => rfl
  | cons entry entries ih =>
      obtain ⟨k, v⟩ := entry
      rw [dictInsert]
      by_cases hk : k = key
      · simp [hk]
      · rw [if_neg hk, List.map_cons, ih]
        have hk' : key ≠ k := Ne.symm hk
        simp only [List.map_cons, List.mem_cons, hk', false_or]
        split_ifs <;> rfl

theorem nodup_keys_dictInsert {α : Type} {key : String} {value : α} {entries : List (String × α)}
    (h : (entries.map Prod.fst).Nodup) : ((dictInsert key value entries).map Prod.fst).Nodup := by
  rw [keys_dictInsert]
  split_ifs with hkey
  · exact h
  · exact List.nodup_append.mpr ⟨h, List.nodup_singleton key, by
      rintro a ha b hb rfl
      exact hkey (List.mem_singleton.mp hb ▸ ha)⟩

theorem nodup_collectMetadata {metadata metadata' : DiffMetadata} {fields : List String}
    (hmetadata : (metadata.map Prod.fst).Nodup)
    (h : collectMetadata metadata fields = .ok metadata') : (metadata'.map Prod.fst).Nodup := by
  fun_induction collectMetadata metadata fields with
  | case1 metadata header path fields ih =>
      obtain ⟨parts, _, h⟩ := bind_eq_ok_iff.mp h
      exact ih parts (nodup_keys_dictInsert hmetadata) h
  | case2 metadata fields =>
      cases h
      exact hmetadata

/-- The paths of a diff are all different. -/
theorem nodup_parseDiffMetadata {raw : Bytes} {metadata : DiffMetadata}
    (h : parseDiffMetadata raw = .ok metadata) : (metadata.map Prod.fst).Nodup := by
  obtain ⟨text, _, h⟩ := bind_eq_ok_iff.mp h
  obtain ⟨_, _, h⟩ := bind_eq_ok_iff.mp h
  have hnil : (([] : DiffMetadata).map Prod.fst).Nodup := List.nodup_nil
  exact nodup_collectMetadata hnil h

theorem sortedEntries_perm (metadata : DiffMetadata) : (sortedEntries metadata).Perm metadata :=
  sortedBy_perm _ _

/-- The answer to the raw diff between two commits, read as metadata. -/
def DiffSeen (history : History) (baseSha headSha : LowerHex 40) (metadata : DiffMetadata) : Prop :=
  ∃ raw, (⟨.git (rawDiffArguments baseSha headSha), .ok raw⟩ : Exchange Query Answer) ∈ history ∧
    parseDiffMetadata raw = .ok metadata

/-- The answer to the listing of the base tree, read as blobs. -/
def BaseTreeSeen (history : History) (baseSha : LowerHex 40) (baseBlobs : BaseBlobs) : Prop :=
  ∃ raw, (⟨.git (baseTreeArguments baseSha), .ok raw⟩ : Exchange Query Answer) ∈ history ∧
    parseBaseBlobs raw = .ok baseBlobs

theorem diffSeen_of_run {repo head : String} {task : TaskSpec} {inspected : Inspected}
    (h : (inspectMetadata sha1 repo task head).run answers history = (.ok inspected, after)) :
    DiffSeen after inspected.baseSha inspected.headSha inspected.metadata := by
  obtain ⟨⟨baseSha, headSha, violations⟩, _, _, h⟩ := run_bind_eq_ok.mp h
  obtain ⟨metadata, _, hdiff, h⟩ := run_bind_eq_ok.mp h
  obtain ⟨rfl, rfl⟩ := run_done_eq_ok.mp h
  obtain ⟨raw, _, hgit, hparse⟩ := run_bind_eq_ok.mp hdiff
  obtain ⟨hmetadata, rfl⟩ := run_ofExcept_eq_ok.mp hparse
  refine ⟨raw, ?_, hmetadata⟩
  rw [run_git_eq_ok hgit]
  exact List.mem_append_right _ (List.mem_singleton_self _)

/-- Nothing is wrong with a changed path. -/
structure PathAccepted (task : TaskSpec) (entry : String × GitFileMetadata) : Prop where
  safe : safeRepoPath entry.1 = true
  unprotected : isProtectedPath entry.1 = false
  notDenied : matchesFolded entry.1 task.deniedPaths = false
  allowed : matchesGlob entry.1 task.allowedPaths = true
  status : entry.2.status ∈ allowedStatuses
  mode : entry.2.newMode ∈ allowedFileModes
  modeKept : entry.2.status = "M" → entry.2.oldMode = entry.2.newMode

theorem pathViolations_eq_nil {pyRepr : String → String} {task : TaskSpec}
    {entry : String × GitFileMetadata} (h : pathViolations pyRepr task entry = []) :
    PathAccepted task entry := by
  simp only [pathViolations, List.append_eq_nil_iff] at h
  obtain ⟨⟨⟨⟨⟨⟨hsafe, hprotected⟩, hdenied⟩, hallowed⟩, hstatus⟩, hmode⟩, hkept⟩ := h
  constructor
  · simpa using nil_of_ite hsafe
  · simpa using nil_of_ite hprotected
  · simpa using nil_of_ite hdenied
  · simpa using nil_of_ite hallowed
  · exact not_not.mp (nil_of_ite hstatus)
  · exact not_not.mp (nil_of_ite hmode)
  · intro hmodified
    by_contra hne
    exact nil_of_ite hkept ⟨hmodified, hne⟩

/-- What the metadata of a diff must be for its content to be looked at. -/
structure MetadataAccepted (task : TaskSpec) (commitViolations : List String)
    (metadata : DiffMetadata) : Prop where
  commit : commitViolations = []
  nonempty : metadata ≠ []
  count : metadata.length ≤ task.limits.maxChangedFiles
  paths : ∀ entry ∈ metadata, PathAccepted task entry

theorem metadataViolations_eq_nil {pyRepr : String → String} {task : TaskSpec}
    {commitViolations : List String} {metadata : DiffMetadata}
    (h : metadataViolations pyRepr task commitViolations metadata = []) :
    MetadataAccepted task commitViolations metadata := by
  simp only [metadataViolations, List.append_eq_nil_iff, List.flatMap_eq_nil_iff] at h
  obtain ⟨⟨⟨hcommit, hempty⟩, hcount⟩, hpaths⟩ := h
  constructor
  · exact hcommit
  · exact nil_of_ite hempty
  · exact not_lt.mp (nil_of_ite hcount)
  · intro entry hentry
    exact pathViolations_eq_nil (hpaths entry ((sortedEntries_perm metadata).mem_iff.mpr hentry))

/-- An added file is no rename and no copy of another path. -/
def IsNew (metadata : DiffMetadata) (baseBlobs : BaseBlobs)
    (entry : String × GitFileMetadata) : Prop :=
  entry.2.status = "A" →
    (∀ other ∈ metadata, other.2.status = "D" → other.2.oldBlob ≠ entry.2.newBlob) ∧
      ∀ blob ∈ baseBlobs, blob.1 = entry.2.newBlob → blob.2 = entry.1

theorem isNew_of_detectedOperation {metadata : DiffMetadata} {baseBlobs : BaseBlobs}
    {entry : String × GitFileMetadata} (h : detectedOperation metadata baseBlobs entry = none) :
    IsNew metadata baseBlobs entry := by
  intro hadded
  simp only [detectedOperation, hadded, ne_eq, not_true_eq_false, if_false] at h
  split at h
  · cases h
  · next hdeleted =>
    split at h
    · next hsources =>
      constructor
      · intro other hother hstatus hblob
        rw [deletedByBlob, Option.map_eq_none_iff, List.find?_eq_none] at hdeleted
        exact hdeleted other (List.mem_reverse.mpr hother) (by simp [hstatus, hblob])
      · intro blob hblob heq
        rw [sortedText_eq_nil_iff, List.map_eq_nil_iff, List.filter_eq_nil_iff] at hsources
        by_contra hne
        exact hsources blob hblob (by simp [heq, hne])
    · cases h

theorem sortedOperations_eq_nil {operations : List DetectedOperation}
    (h : sortedOperations operations = []) : operations = [] := by
  have hperm := sortedBy_perm (fun operation : DetectedOperation =>
    toLex (operation.1, toLex (operation.2.1, operation.2.2))) operations.dedup
  rw [sortedOperations] at h
  rw [h] at hperm
  exact (List.dedup_eq_nil _).mp hperm.symm.eq_nil

theorem baseTreeSeen_of_run {baseSha : LowerHex 40} {baseBlobs : BaseBlobs}
    (h : (baseBlobPaths baseSha).run answers history = (.ok baseBlobs, after)) :
    BaseTreeSeen after baseSha baseBlobs := by
  obtain ⟨raw, _, hgit, hparse⟩ := run_bind_eq_ok.mp h
  obtain ⟨hblobs, rfl⟩ := run_ofExcept_eq_ok.mp hparse
  refine ⟨raw, ?_, hblobs⟩
  rw [run_git_eq_ok hgit]
  exact List.mem_append_right _ (List.mem_singleton_self _)

/-- Where no rename or copy is objected to, the base tree has been read without one. -/
theorem inspectOperations_eq_nil {inspected : Inspected} {violations : List String}
    (h : (inspectOperations inspected violations).run answers history = (.ok [], after)) :
    violations = [] ∧ ∃ baseBlobs,
      (baseBlobPaths inspected.baseSha).run answers history = (.ok baseBlobs, after) ∧
        ∀ entry ∈ inspected.metadata, IsNew inspected.metadata baseBlobs entry := by
  unfold inspectOperations at h
  split_ifs at h with hviolations
  · obtain ⟨hnil, _⟩ := run_done_eq_ok.mp h
    exact absurd hnil hviolations
  · refine ⟨not_not.mp hviolations, ?_⟩
    obtain ⟨baseBlobs, between, hblobs, h⟩ := run_bind_eq_ok.mp h
    obtain ⟨hnil, rfl⟩ := run_done_eq_ok.mp h
    refine ⟨baseBlobs, hblobs, ?_⟩
    intro entry hentry
    have hnone := sortedOperations_eq_nil
      (List.map_eq_nil_iff.mp (List.append_eq_nil_iff.mp hnil).2)
    exact isNew_of_detectedOperation (List.filterMap_eq_nil_iff.mp hnone entry hentry)

/-! ## The report -/

theorem inspectContent_reads {validateEmptyEnvExample : Bytes → Bool} {task : TaskSpec}
    {inspected : Inspected} {violations : List String} {state : ContentState}
    (hstate : state.violations = [])
    (h : (inspectContent sha1 H validateEmptyEnvExample task inspected violations).run answers
      history = (.ok state, after)) :
    violations = [] ∧ ∃ reads, FilesRead sha1 H task after (sortedEntries inspected.metadata)
      ⟨[], [], [], [], 0⟩ state reads := by
  unfold inspectContent at h
  split_ifs at h with hviolations
  · obtain ⟨rfl, _⟩ := run_done_eq_ok.mp h
    exact absurd hstate hviolations
  · have hnil : violations = [] := not_not.mp hviolations
    subst hnil
    obtain ⟨_, _, _, h⟩ := run_bind_eq_ok.mp h
    exact ⟨rfl, inspectFiles_reads hstate h⟩

theorem lookup_zipWith_digests {entries : DiffMetadata} {reads : List FileRead}
    (hlength : entries.length = reads.length) (hnodup : (entries.map Prod.fst).Nodup) :
    entries.map (fun entry => (List.zipWith (fun (entry : String × GitFileMetadata) read =>
      (entry.1, H (FileRead.new read))) entries reads).lookup entry.1) =
        reads.map fun read => some (H read.new) := by
  induction entries generalizing reads with
  | nil =>
      cases reads with
      | nil => rfl
      | cons read reads => cases hlength
  | cons entry entries ih =>
      cases reads with
      | nil => cases hlength
      | cons read reads =>
          rw [List.map_cons, List.nodup_cons] at hnodup
          have hrest := ih (by simpa using hlength) hnodup.2
          rw [List.map_cons, List.map_cons, List.zipWith_cons_cons, List.lookup_cons_self, ← hrest]
          congr 1
          apply List.map_congr_left
          intro other hother
          have hne : other.1 ≠ entry.1 := by
            intro heq
            exact hnodup.1 (heq ▸ List.mem_map_of_mem hother)
          rw [List.lookup_cons, beq_false_of_ne hne]

theorem reportFile_ok {state : ContentState} {stats : List LineCounts}
    {entry : String × GitFileMetadata} {file : DiffFile}
    (h : reportFile state stats entry = .ok file) :
    file.path = entry.1 ∧ file.status = entry.2.status ∧
      file.contentSha256 = state.contentSha256.lookup entry.1 := by
  rw [reportFile, mapError_eq_ok_iff] at h
  obtain ⟨additions, _, h⟩ := bind_eq_ok_iff.mp h
  obtain ⟨deletions, _, h⟩ := bind_eq_ok_iff.mp h
  split at h
  · split at h
    · cases h
      exact ⟨rfl, rfl, rfl⟩
    · cases h
  · cases h

/-- The files of a report name the entries one by one. -/
theorem reportFiles_ok {state : ContentState} {stats : List LineCounts} {entries : DiffMetadata}
    {files : List DiffFile} (h : entries.mapM (reportFile state stats) = .ok files) :
    files.map DiffFile.path = entries.map Prod.fst ∧
      files.map DiffFile.status = entries.map (fun entry => entry.2.status) ∧
      files.map DiffFile.contentSha256 =
        entries.map (fun entry => state.contentSha256.lookup entry.1) := by
  have hfile := mapM_eq_ok_iff.mp h
  induction hfile with
  | nil => exact ⟨rfl, rfl, rfl⟩
  | cons hok hrest ih =>
      obtain ⟨hpath, hstatus, hdigest⟩ := reportFile_ok hok
      obtain ⟨hpaths, hstatuses, hdigests⟩ := ih (mapM_eq_ok_iff.mpr hrest)
      simp only [List.map_cons, hpath, hstatus, hdigest, hpaths, hstatuses, hdigests, and_self]

/-- What a report that passes was made from. -/
structure PassingContract (sha1 : Sha1Function) (H : HashFunction) (task : TaskSpec)
    (history : History) (report : PolicyReport) (metadata : DiffMetadata) (baseBlobs : BaseBlobs)
    (reads : List FileRead) : Prop where
  diff : DiffSeen history report.baseSha report.headSha metadata
  baseTree : BaseTreeSeen history report.baseSha baseBlobs
  nonempty : metadata ≠ []
  count : metadata.length ≤ task.limits.maxChangedFiles
  paths : ∀ entry ∈ metadata, PathAccepted task entry ∧ IsNew metadata baseBlobs entry
  contents : List.Forall₂ (fun entry read => FileRead.Within sha1 task history entry.2 read)
    (sortedEntries metadata) reads
  totalBytes : (reads.map FileRead.bytes).sum ≤ task.limits.maxTotalBytes
  addedLines : report.totalAddedLines = totalAddedLines report.changedFiles ∧
    report.totalAddedLines ≤ task.limits.maxAddedLines
  reportedPaths : report.changedFiles.map DiffFile.path = (sortedEntries metadata).map Prod.fst
  reportedStatuses : report.changedFiles.map DiffFile.status =
    (sortedEntries metadata).map fun entry => entry.2.status
  reportedDigests : report.changedFiles.map DiffFile.contentSha256 =
    reads.map fun read => some (H read.new)

theorem validate_report {fields : PolicyReportFields} {report : PolicyReport}
    (h : (PolicyReport.validate fields).mapError InspectionError.validation = .ok report) :
    report.toPolicyReportFields = fields := by
  rw [mapError_eq_ok_iff, PolicyReport.validate] at h
  split at h
  · cases h
    rfl
  · cases h

/-- What a report is made of, and when it passes. -/
structure ReportOf (H : HashFunction) (task : TaskSpec) (inspected : Inspected)
    (state : ContentState) (report : PolicyReport) : Prop where
  baseSha : report.baseSha = inspected.baseSha
  headSha : report.headSha = inspected.headSha
  files : ∃ stats, (sortedEntries inspected.metadata).mapM (reportFile state stats) =
    .ok report.changedFiles
  added : report.totalAddedLines = totalAddedLines report.changedFiles
  passing : report.passed = true → state.violations = [] ∧
    report.totalAddedLines ≤ task.limits.maxAddedLines

theorem reportDiff_ok {validateEmptyEnvExample : Bytes → Bool} {task : TaskSpec}
    {taskSha256 : Sha256} {expectedPatchSha256 : Option String} {inspected : Inspected}
    {state : ContentState} {clean : Bool} {report : PolicyReport}
    (h : (reportDiff sha1 H validateEmptyEnvExample task taskSha256 expectedPatchSha256 inspected
      state clean).run answers history = (.ok report, after)) :
    ReportOf H task inspected state report := by
  obtain ⟨stats, _, _, h⟩ := run_bind_eq_ok.mp h
  obtain ⟨files, hfiles, h⟩ := run_ofExcept_bind_eq_ok.mp h
  obtain ⟨⟨patchSha256, objections⟩, _, h⟩ := run_ofExcept_bind_eq_ok.mp h
  obtain ⟨_, _, _, h⟩ := run_bind_eq_ok.mp h
  obtain ⟨hreport, rfl⟩ := run_ofExcept_eq_ok.mp h
  have hfields := validate_report hreport
  constructor
  · rw [hfields]
  · rw [hfields]
  · exact ⟨stats, by rw [hfields]; exact hfiles⟩
  · rw [hfields]
  · intro hpassed
    rw [hfields] at hpassed ⊢
    simp only [decide_eq_true_eq, List.append_eq_nil_iff] at hpassed
    exact ⟨hpassed.1.1.1, not_lt.mp (nil_of_ite hpassed.1.2)⟩

/-- A report that passes went through every check. -/
theorem passingContract_of_run {validateEmptyEnvExample : Bytes → Bool}
    {pyRepr : String → String} {repo head : String} {task : TaskSpec} {taskSha256 : Sha256}
    {expectedPatchSha256 : Option String} {report : PolicyReport} (hpassed : report.passed = true)
    (h : (inspectGitDiff sha1 H validateEmptyEnvExample pyRepr repo task taskSha256 head
      expectedPatchSha256).run answers history = (.ok report, after)) :
    ∃ metadata baseBlobs reads,
      PassingContract sha1 H task after report metadata baseBlobs reads := by
  obtain ⟨inspected, between, hmetadata, hrest⟩ := run_bind_eq_ok.mp h
  obtain ⟨violations, between', hoperations, hrest'⟩ := run_bind_eq_ok.mp hrest
  obtain ⟨state, between'', hcontent, hreport⟩ := run_bind_eq_ok.mp hrest'
  have hof := reportDiff_ok hreport
  obtain ⟨hstate, hadded⟩ := hof.passing hpassed
  obtain ⟨rfl, reads, hreads⟩ := inspectContent_reads hstate hcontent
  obtain ⟨hviolations, baseBlobs, hblobs, hnew⟩ := inspectOperations_eq_nil hoperations
  obtain ⟨raw, hraw, hblobs⟩ := baseTreeSeen_of_run hblobs
  have haccepted := metadataViolations_eq_nil hviolations
  obtain ⟨rawDiff, hrawDiff, hdiff⟩ := diffSeen_of_run hmetadata
  have hkeep : between'' <+: after := prefix_of_run hreport
  have hkeep' : between' <+: after := (prefix_of_run hcontent).trans hkeep
  have hkeep'' : between <+: after := (prefix_of_run hoperations).trans hkeep'
  have hentries : sortedEntries inspected.metadata ≠ [] := by
    intro hnil
    have hperm := sortedEntries_perm inspected.metadata
    rw [hnil] at hperm
    exact haccepted.nonempty hperm.symm.eq_nil
  have hnodup : ((sortedEntries inspected.metadata).map Prod.fst).Nodup :=
    ((sortedEntries_perm _).map _).nodup_iff.mpr (nodup_parseDiffMetadata hdiff)
  obtain ⟨stats, hfiles⟩ := hof.files
  obtain ⟨hpaths, hstatuses, hdigests⟩ := reportFiles_ok hfiles
  refine ⟨inspected.metadata, baseBlobs, reads, ?_⟩
  constructor
  · rw [hof.baseSha, hof.headSha]
    exact ⟨rawDiff, hkeep''.subset hrawDiff, hdiff⟩
  · rw [hof.baseSha]
    exact ⟨raw, hkeep'.subset hraw, hblobs⟩
  · exact haccepted.nonempty
  · exact haccepted.count
  · exact fun entry hentry => ⟨haccepted.paths entry hentry, hnew entry hentry⟩
  · exact hreads.within.imp fun _ _ hread => hread.mono hkeep
  · have hbounded := hreads.bounded hentries
    rw [hreads.totalBytes] at hbounded
    dsimp only at hbounded
    omega
  · exact ⟨hof.added, hadded⟩
  · exact hpaths
  · exact hstatuses
  · rw [hdigests, hreads.contentSha256, List.nil_append]
    exact lookup_zipWith_digests hreads.within.length_eq hnodup

end
end AmazonSimilarSearch.Policy
