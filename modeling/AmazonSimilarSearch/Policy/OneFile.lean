import AmazonSimilarSearch.Foundation.Digest
import AmazonSimilarSearch.Policy.Contract

/-!
# Repositories of one file

A repository whose only file is modified between two commits, with its real
object ids, and the task that allows the change. Its inspection is a closed term
that can be evaluated.
-/
namespace AmazonSimilarSearch.Policy
open Foundation Review

structure OneFile where
  path : String
  old : Bytes
  new : Bytes
  oldBlob : LowerHex 40
  newBlob : LowerHex 40
  oldTree : LowerHex 40
  newTree : LowerHex 40
  oldCommit : LowerHex 40
  newCommit : LowerHex 40
  path_length : 1 ≤ path.toList.length ∧ path.toList.length ≤ 4096

def hexValue (c : Char) : ℕ := if c.toNat < 58 then c.toNat - 48 else c.toNat - 87

/-- `bytes.fromhex(digits)` -/
def bytesOfHex : List Char → Bytes
  | c :: d :: digits => UInt8.ofNat (16 * hexValue c + hexValue d) :: bytesOfHex digits
  | _ => []

namespace OneFile
variable (file : OneFile)

def treeContent (blob : LowerHex 40) : Bytes :=
  encodeUtf8 ("100644 " ++ file.path ++ "\x00") ++ bytesOfHex blob.text.toList

def signature : String := "author dev <d@e> 0 +0000\ncommitter dev <d@e> 0 +0000\n\n"

/-- The objects of the repository by their ids. -/
def objects : List (String × Bytes) := [
  (file.oldBlob.text, file.old),
  (file.newBlob.text, file.new),
  (file.oldTree.text, file.treeContent file.oldBlob),
  (file.newTree.text, file.treeContent file.newBlob),
  (file.oldCommit.text, encodeUtf8 ("tree " ++ file.oldTree.text ++ "\n" ++ signature ++ "base\n")),
  (file.newCommit.text, encodeUtf8 ("tree " ++ file.newTree.text ++ "\nparent " ++
    file.oldCommit.text ++ "\n" ++ signature ++ "notes\n"))]

def object (objectId : String) : Bytes := (file.objects.lookup objectId).getD []

def metadata : GitFileMetadata :=
  ⟨"M", "100644", "100644", file.oldBlob.text, file.newBlob.text⟩

def rawDiff : Bytes :=
  encodeUtf8 (":100644 100644 " ++ file.oldBlob.text ++ " " ++ file.newBlob.text ++ " M\x00" ++
    file.path ++ "\x00")

/-- What the Git commands put out. -/
def git : List String → Bytes
  | ["rev-parse", "--show-object-format"] => encodeUtf8 "sha1\n"
  | ["rev-parse", "--show-toplevel"] => encodeUtf8 "/repo\n"
  | ["rev-parse", "--path-format=absolute", _] => encodeUtf8 "/repo/.git\n"
  | ["rev-parse", "--verify", reference] =>
      encodeUtf8 ((if reference = file.oldCommit.text ++ "^\x7bcommit\x7d" then
        file.oldCommit.text else file.newCommit.text) ++ "\n")
  | ["for-each-ref", _, _] => []
  | ["cat-file", "-s", objectId] =>
      encodeUtf8 (toString (file.object objectId).length ++ "\n")
  | ["cat-file", _, objectId] => file.object objectId
  | ["ls-files", "-v", "-z"] => encodeUtf8 ("H " ++ file.path ++ "\x00")
  | ["ls-files", "--stage", "-z"] =>
      encodeUtf8 ("100644 " ++ file.newBlob.text ++ " 0\t" ++ file.path ++ "\x00")
  | ["ls-tree", "-r", "-z", commit, "--"] =>
      encodeUtf8 ("100644 blob " ++
        (if commit = "HEAD" then file.newBlob.text else file.oldBlob.text) ++ "\t" ++ file.path ++
          "\x00")
  | ["hash-object", "--no-filters", "--", _] => encodeUtf8 (file.newBlob.text ++ "\n")
  | arguments =>
      if "--raw" ∈ arguments then file.rawDiff else encodeUtf8 ("1\t1\t" ++ file.path ++ "\x00")

/-- The repository does not change while it is inspected. -/
def answer (query : Query) : Answer query :=
  match query with
  | .git arguments => .ok (file.git arguments)
  | .gitLayout => ⟨some ⟨false, true, false, 1, 0, 0o755, 0⟩, [], [], "/repo/.git", 0⟩
  | .resolve path => some path
  | .walkWorktree => [⟨file.path, ⟨false, false, true, 1, 0, 0o644, file.new.length⟩, false⟩]
  | .lstat _ => some ⟨false, false, true, 1, 0, 0o644, file.new.length⟩

def task : TaskSpec where
  schemaVersion := .v1
  taskId := ⟨"NOTES", by decide⟩
  baseSha := file.oldCommit
  trustedHarnessSha256 := sha256 []
  requirements := [⟨"R1", by decide⟩]
  reviewPrompts := ⟨sha256 [], sha256 []⟩
  candidateCommit := ⟨"notes", "dev", "d@e", 0, "+0000"⟩
  acceptanceTests := [⟨⟨"T1", by decide⟩, .quality, ["true"], 0, [], none, [], by decide, by decide⟩]
  allowedPaths := [file.path]
  deniedPaths := ["secret"]
  limits := ⟨1, 10, 100, 100, by decide⟩
  acceptanceTests_ne_nil := by simp
  requirementIds_nodup := by simp
  acceptanceIds_nodup := by simp
  testPathsGiven := by decide

/-- The inspection of the repository, with the hash functions of Git and of the reports. -/
def inspection : Inspection PolicyReport :=
  inspectGitDiff sha1 sha256 (fun _ => true) id "/repo" file.task (sha256 []) file.newCommit.text
    none

/-- The entry of the file in the report. -/
def diffFile : DiffFile where
  path := file.path
  status := "M"
  additions := some 1
  deletions := some 1
  binary := false
  contentSha256 := some (sha256 file.new)
  path_length := file.path_length
  status_matches := by decide

def finalState (totalBytes : ℤ) : ContentState :=
  ⟨[], [file.path], [], [(file.path, sha256 file.new)], totalBytes⟩

/-- What the stages of the inspection return. -/
structure Stages : Prop where
  layout : rejectGitLayout.result file.answer = .ok ⟨⟩
  refs : rejectReplaceRefs.result file.answer = .ok ⟨⟩
  base : (resolveCommit file.oldCommit.text).result file.answer = .ok file.oldCommit
  head : (resolveCommit file.newCommit.text).result file.answer = .ok file.newCommit
  current : (resolveCommit "HEAD").result file.answer = .ok file.newCommit
  oldGraph : (verifyCommitAndTreeGraph sha1 file.oldCommit).result file.answer = .ok ⟨⟩
  newGraph : (verifyCommitAndTreeGraph sha1 file.newCommit).result file.answer = .ok ⟨⟩
  commit : (inspectCandidateCommit sha1 file.task file.oldCommit file.newCommit).result file.answer =
    .ok []
  metadata : (diffMetadata file.oldCommit file.newCommit).result file.answer =
    .ok [(file.path, file.metadata)]
  safe : safeRepoPath file.path = true
  notDenied : matchesFolded file.path file.task.deniedPaths = false
  allowed : matchesGlob file.path file.task.allowedPaths = true
  baseBlobs : (baseBlobPaths file.oldCommit).result file.answer = .ok [(file.oldBlob.text, file.path)]
  unprotected : isProtectedPath file.path = false
  size : file.new.length ≤ maxTrackedFileBytes
  flags : (decodeUtf8 (file.git ["ls-files", "-v", "-z"])).any (fun text =>
    (populatedFields '\x00' text).all isNormalIndexEntry) = true
  index : parseIndex.result file.answer = .ok [(file.path, "100644", file.newBlob.text)]
  tree : parseHeadTree.result file.answer = .ok [(file.path, "100644", file.newBlob.text)]
  tracked : (checkTrackedContent sha1 (fun _ => true) file.path file.newBlob.text).result
    file.answer = .ok ⟨⟩
  content : ∃ totalBytes, (inspectFiles sha1 sha256 file.task ⟨[], [], [], [], 0⟩
    [(file.path, file.metadata)]).result file.answer = .ok (file.finalState totalBytes)
  lines : (numstat file.oldCommit file.newCommit [file.path]).result file.answer =
    .ok [(file.path, some 1, some 1)]
  digest : (canonicalDiffHash sha256 file.oldCommit file.newCommit
    [(file.path, file.metadata)]).isOk = true

end OneFile

/-! ## The candidate commit in parts -/

/-- What `_inspect_candidate_commit` reads of a commit: its bytes, its text and its headers. -/
structure OneFile.ReadsCommit (file : OneFile) (header message : String) (lines : List String)
    (headers : List (String × String)) (author : Identity) : Prop where
  verified : (verifiedObjectContent sha1 .commit file.newCommit.text).result file.answer =
    .ok (file.object file.newCommit.text)
  split : splitBlankLine (file.object file.newCommit.text) =
    some (encodeUtf8 header, encodeUtf8 message)
  splitlines : pySplitlines header = lines
  read : commitHeaders lines = .ok headers
  parent : headerValues headers "parent" = [file.oldCommit.text]
  keys : (∀ entry ∈ headers, entry.1 ∈ ["tree", "parent", "author", "committer"]) ∧
    ∀ key ∈ ["tree", "parent", "author", "committer"], key ∈ headers.map Prod.fst
  nodup : (headers.map Prod.fst).Nodup
  authored : parseIdentity ((headerValues headers "author").headD "") "author" = .ok author
  committed : parseIdentity ((headerValues headers "committer").headD "") "committer" = .ok author
  agrees : commitViolations file.task.candidateCommit message author author = []

theorem OneFile.ReadsCommit.inspect {file : OneFile} {header message : String} {lines : List String}
    {headers : List (String × String)} {author : Identity}
    (h : file.ReadsCommit header message lines headers author) :
    (inspectCandidateCommit sha1 file.task file.oldCommit file.newCommit).result file.answer =
      .ok [] := by
  rw [inspectCandidateCommit, Interaction.result_bind_of_ok h.verified, Interaction.result_ofExcept]
  simp only [h.split, decodeUtf8_encodeUtf8, required_some, ok_bind, h.splitlines, h.read, require,
    ensure_of _ h.parent, ensure_of _ h.keys, ensure_of _ h.nodup, h.authored, h.committed,
    h.agrees]
  rfl

/-- What `_diff_metadata` reads of the raw diff: the header and the path. -/
structure OneFile.ReadsRawDiff (file : OneFile) (header : String) : Prop where
  output : file.git (rawDiffArguments file.oldCommit file.newCommit) = file.rawDiff
  split : populatedFields '\x00' (":100644 100644 " ++ file.oldBlob.text ++ " " ++
    file.newBlob.text ++ " M\x00" ++ file.path ++ "\x00") = [header, file.path]
  collected : collectMetadata [] [header, file.path] = .ok [(file.path, file.metadata)]

theorem OneFile.ReadsRawDiff.inspect {file : OneFile} {header : String}
    (h : file.ReadsRawDiff header) :
    (diffMetadata file.oldCommit file.newCommit).result file.answer =
      .ok [(file.path, file.metadata)] := by
  have hgit : (Policy.git (rawDiffArguments file.oldCommit file.newCommit)).result file.answer =
      .ok file.rawDiff := congrArg Except.ok h.output
  have heven : [header, file.path].length % 2 = 0 := by simp
  rw [diffMetadata, Interaction.result_bind_of_ok hgit, Interaction.result_ofExcept,
    parseDiffMetadata, OneFile.rawDiff, decodeUtf8_encodeUtf8, required_some, ok_bind]
  simp only [h.split, require]
  rw [ensure_of _ heven, ok_bind, h.collected]

/-! ## The run through its stages -/

section
variable {file : OneFile}

open Interaction

theorem validate_of {fields : PolicyReportFields}
    (h : fields.validateResultConsistency = .ok ⟨⟩) :
    (PolicyReport.validate fields).mapError InspectionError.validation = .ok ⟨fields, h⟩ := by
  unfold PolicyReport.validate
  split
  · rfl
  · next hfailed =>
    rw [h] at hfailed
    cases hfailed

theorem result_git (arguments : List String) :
    (git arguments).result file.answer = .ok (file.git arguments) := rfl

theorem result_resolve (path : String) :
    (Interaction.query (Query.resolve path) : Inspection (Option String)).result file.answer =
      .ok (some path) := rfl

theorem result_done {α : Type} (a : α) :
    (Interaction.done a : Inspection α).result file.answer = .ok a := rfl

namespace OneFile.Stages

theorem inspectCommits (h : file.Stages) :
    (inspectCommits sha1 "/repo" file.task file.newCommit.text).result file.answer =
      .ok (file.oldCommit, file.newCommit, []) := by
  have hroot : file.git ["rev-parse", "--show-toplevel"] = encodeUtf8 "/repo\n" := rfl
  have hstrip : strip "/repo\n" = "/repo" := by decide
  have hbase : file.task.baseSha.text = file.oldCommit.text := rfl
  simp only [Policy.inspectCommits, result_bind, h.layout, h.refs, result_git, ok_bind, hroot,
    decodeUtf8_encodeUtf8, required_some, result_ofExcept, result_resolve, hstrip, require,
    ensure_of, hbase, h.base, h.head, h.current, h.oldGraph, h.newGraph, h.commit]
  rfl

theorem inspectMetadata (h : file.Stages) :
    (inspectMetadata sha1 "/repo" file.task file.newCommit.text).result file.answer =
      .ok ⟨file.oldCommit, file.newCommit, [], [(file.path, file.metadata)]⟩ := by
  simp only [Policy.inspectMetadata, result_bind, h.inspectCommits, h.metadata, ok_bind]
  rfl

theorem metadataViolations (h : file.Stages) :
    metadataViolations id file.task [] [(file.path, file.metadata)] = [] := by
  have hsorted : sortedEntries [(file.path, file.metadata)] = [(file.path, file.metadata)] := rfl
  have hlimit : file.task.limits.maxChangedFiles = 1 := rfl
  have hstatus : file.metadata.status = "M" := rfl
  have hmodes : file.metadata.oldMode = "100644" ∧ file.metadata.newMode = "100644" := ⟨rfl, rfl⟩
  have hpath : pathViolations id file.task (file.path, file.metadata) = [] := by
    simp [pathViolations, h.safe, h.unprotected, h.notDenied, h.allowed, hstatus, hmodes,
      allowedStatuses, allowedFileModes]
  simp [Policy.metadataViolations, hsorted, hpath, hlimit]

/-- The file is neither a rename nor a copy: it is modified. -/
theorem inspectOperations (h : file.Stages) :
    (inspectOperations ⟨file.oldCommit, file.newCommit, [], [(file.path, file.metadata)]⟩ []).result
      file.answer = .ok [] := by
  have hnone : detectedRenamesAndCopies [(file.path, file.metadata)]
      [(file.oldBlob.text, file.path)] = [] := rfl
  simp only [Policy.inspectOperations, ne_eq, not_true_eq_false, if_false, result_bind, h.baseBlobs,
    ok_bind, hnone]
  rfl

theorem checkTrackedFile (h : file.Stages) :
    (checkTrackedFile file.path "100644").result file.answer = .ok file.new.length := by
  have hmode : "100644" ∈ allowedFileModes := by decide
  have hbits : decide ("100644" = "100755") = (Nat.land 0o644 0o111 != 0) := by decide
  have hprotected : ¬ (isProtectedPath file.path = true ∧
      casefold (pathName file.path) ≠ ".env.example") := by
    rw [h.unprotected]
    simp
  unfold Policy.checkTrackedFile
  rw [result_bind_of_ok (a := ⟨⟩)]
  · rw [result_query_bind]
    simp only [result_ofExcept, answer, required_some, ok_bind, require, ensure_of, hbits, h.size]
    rfl
  · simp only [result_ofExcept, require, ensure_of _ hprotected, ensure_of _ hmode, ok_bind]

theorem rejectDirtyWorktree (h : file.Stages) :
    (rejectDirtyWorktree sha1 fun _ => true).result file.answer = .ok ⟨⟩ := by
  obtain ⟨flags, hdecode, hflags⟩ := (Option.any_eq_true _ _).mp h.flags
  have hsame : (∀ entry ∈ [(file.path, "100644", file.newBlob.text)],
      entry ∈ [(file.path, "100644", file.newBlob.text)]) ∧
      ∀ entry ∈ [(file.path, "100644", file.newBlob.text)],
        entry ∈ [(file.path, "100644", file.newBlob.text)] := ⟨fun _ => id, fun _ => id⟩
  have huntracked : (rejectUntrackedPaths [file.path]).result file.answer = .ok ⟨⟩ := by
    have hlimit : 0 + 1 ≤ maxWorktreeEntries := by decide
    have htracked : file.path ∈ [file.path] ∨ file.path ∈ trackedDirectories [file.path] :=
      .inl (List.mem_singleton_self _)
    rw [rejectUntrackedPaths, result_query_bind]
    simp only [result_ofExcept, answer, checkWalk, require, ensure_of _ hlimit, ok_bind, ensure_of,
      ensure_of _ htracked]
  have hfiles : (checkTrackedFiles sha1 (fun _ => true) 0
      [(file.path, "100644", file.newBlob.text)]).result file.answer = .ok ⟨⟩ := by
    have htotal : 0 + file.new.length ≤ maxTrackedTotalBytes := by
      have := h.size
      unfold maxTrackedFileBytes at this
      unfold maxTrackedTotalBytes
      omega
    simp only [checkTrackedFiles, result_bind, h.checkTrackedFile, ok_bind, result_ofExcept, require,
      ensure_of _ htotal, h.tracked]
    rfl
  simp only [Policy.rejectDirtyWorktree, result_bind, h.layout, ok_bind, result_git, result_ofExcept,
    hdecode, required_some, require, ensure_of _ hflags, h.index, h.tree, ensure_of _ hsame,
    List.map_cons, List.map_nil, huntracked, hfiles]

theorem recheckSnapshot (h : file.Stages) :
    (recheckSnapshot sha1 (fun _ => true)
      ⟨file.oldCommit, file.newCommit, [], [(file.path, file.metadata)]⟩).result file.answer =
        .ok ⟨⟩ := by
  simp only [Policy.recheckSnapshot, result_bind, h.current, h.refs, h.rejectDirtyWorktree,
    h.oldGraph, h.newGraph, ok_bind, result_ofExcept, require, ensure_of]

theorem inspectContent (h : file.Stages) : ∃ totalBytes,
    (inspectContent sha1 sha256 (fun _ => true) file.task
      ⟨file.oldCommit, file.newCommit, [], [(file.path, file.metadata)]⟩ []).result file.answer =
        .ok (file.finalState totalBytes) := by
  obtain ⟨totalBytes, hcontent⟩ := h.content
  have hsorted : sortedEntries [(file.path, file.metadata)] = [(file.path, file.metadata)] := rfl
  refine ⟨totalBytes, ?_⟩
  simp only [Policy.inspectContent, ne_eq, not_true_eq_false, if_false, result_bind,
    h.rejectDirtyWorktree, ok_bind, hsorted, hcontent]

theorem reportFile (totalBytes : ℤ) :
    reportFile (file.finalState totalBytes) [(file.path, some 1, some 1)]
      (file.path, file.metadata) = .ok file.diffFile := by
  have hstats : statsOf [(file.path, some 1, some 1)] file.path = (some 1, some 1) := by
    simp [statsOf]
  have hlength := file.path_length
  have hstatus : isDiffStatus file.metadata.status = true := by
    change isDiffStatus "M" = true
    decide
  have hcount : ∀ name, naturalField name (some 1) = .ok (some 1) := fun _ => rfl
  simp only [Policy.reportFile, hstats, finalState, List.lookup_cons_self, DiffFile.validate,
    List.contains_nil, hcount, ok_bind, dif_pos hlength, dif_pos hstatus]
  rfl

/-- A report that passes and names the file. -/
structure Passing (file : OneFile) (report : PolicyReport) : Prop where
  passed : report.passed = true
  baseSha : report.baseSha = file.oldCommit
  headSha : report.headSha = file.newCommit
  changedFiles : report.changedFiles = [file.diffFile]

theorem reportDiff (h : file.Stages) (totalBytes : ℤ) : ∃ report,
    (reportDiff sha1 sha256 (fun _ => true) file.task (sha256 []) none
      ⟨file.oldCommit, file.newCommit, [], [(file.path, file.metadata)]⟩
        (file.finalState totalBytes) true).result file.answer = .ok report ∧ Passing file report := by
  have hsorted : sortedEntries [(file.path, file.metadata)] = [(file.path, file.metadata)] := rfl
  have hfiles : [(file.path, file.metadata)].mapM
      (Policy.reportFile (file.finalState totalBytes) [(file.path, some 1, some 1)]) =
        .ok [file.diffFile] := by
    rw [List.mapM_cons, reportFile]
    rfl
  have hstats : (contentStats ⟨file.oldCommit, file.newCommit, [], [(file.path, file.metadata)]⟩
      (file.finalState totalBytes)).result file.answer = .ok [(file.path, some 1, some 1)] := by
    simpa [contentStats, finalState] using h.lines
  have hstatistics : statisticsViolations (file.finalState totalBytes)
      [(file.path, some 1, some 1)] [(file.path, file.metadata)] = [] := by
    simp [statisticsViolations, hsorted, statsOf]
  have hadded : ¬ file.task.limits.maxAddedLines < totalAddedLines [file.diffFile] := by
    change ¬ 10 < 1
    omega
  cases hdigest : canonicalDiffHash sha256 file.oldCommit file.newCommit
      [(file.path, file.metadata)] with
  | error error =>
      have hok := h.digest
      rw [hdigest] at hok
      cases hok
  | ok digest =>
      let fields : PolicyReportFields := {
        taskId := file.task.taskId
        taskSha256 := sha256 []
        passed := true
        trustedHarnessSha256 := file.task.trustedHarnessSha256
        baseSha := file.oldCommit
        headSha := file.newCommit
        patchSha256 := some digest
        changedFiles := [file.diffFile]
        totalAddedLines := totalAddedLines [file.diffFile]
        violations := [] }
      have hconsistent : fields.validateResultConsistency = .ok ⟨⟩ := by
        simp [fields, PolicyReportFields.validateResultConsistency, ensure, diffFile]
      have hviolations : (file.finalState totalBytes).violations = [] := rfl
      have hpatch : patchDigest sha256 ⟨file.oldCommit, file.newCommit, [],
          [(file.path, file.metadata)]⟩ none false = .ok (some digest, []) := by
        simp [patchDigest, hdigest]
      refine ⟨⟨fields, hconsistent⟩, ?_, rfl, rfl, rfl, rfl⟩
      simp only [Policy.reportDiff, result_bind, hstats, ok_bind, result_ofExcept, hsorted, hfiles,
        hviolations, hstatistics, List.append_nil, ne_eq, not_true_eq_false, decide_false, hpatch,
        recheckClean, if_true, h.recheckSnapshot, hadded, if_false, decide_true]
      exact validate_of hconsistent

/-- The inspection of the repository passes. -/
theorem inspection (h : file.Stages) : ∃ report,
    file.inspection.result file.answer = .ok report ∧ Passing file report := by
  obtain ⟨totalBytes, hcontent⟩ := h.inspectContent
  obtain ⟨report, hreport, hpassing⟩ := h.reportDiff totalBytes
  have hsorted : Policy.metadataViolations id file.task [] [(file.path, file.metadata)] = [] :=
    h.metadataViolations
  refine ⟨report, ?_, hpassing⟩
  simp only [OneFile.inspection, inspectGitDiff, inspectRest, result_bind, h.inspectMetadata, ok_bind,
    hsorted, h.inspectOperations, hcontent, decide_true, hreport]

theorem rawDiff_parsed (h : file.Stages) :
    parseDiffMetadata (file.git (rawDiffArguments file.oldCommit file.newCommit)) =
      .ok [(file.path, file.metadata)] := by
  have hmetadata := h.metadata
  rwa [diffMetadata, result_bind_of_ok (result_git _), result_ofExcept] at hmetadata

/-- What an unchanging repository has answered to a command. -/
theorem answer_of_mem {arguments : List String} {output : Bytes}
    (h : (⟨.git arguments, .ok output⟩ : Exchange Query Answer) ∈
      (file.inspection.run (fun _ => file.answer) []).2) : output = file.git arguments := by
  have hanswer := answered_of_run (by simp) _ _ h
  exact Except.ok.inj hanswer

/-- The report passes, and both the diff and the base content of the file have been read. -/
theorem run (h : file.Stages) : ∃ report,
    (file.inspection.run (fun _ => file.answer) []).1 = .ok report ∧ Passing file report ∧
      DiffSeen (file.inspection.run (fun _ => file.answer) []).2 report.baseSha report.headSha
        [(file.path, file.metadata)] ∧
      ObjectRead sha1 (file.inspection.run (fun _ => file.answer) []).2 .blob file.oldBlob.text
        file.old := by
  obtain ⟨report, hresult, hpassing⟩ := h.inspection
  have hreport : (file.inspection.run (fun _ => file.answer) []).1 = .ok report :=
    (run_result _ _).trans hresult
  obtain ⟨metadata, baseBlobs, reads, hcontract⟩ :=
    passingContract_of_run hpassing.passed (Prod.ext hreport rfl)
  have hmetadata : metadata = [(file.path, file.metadata)] := by
    obtain ⟨raw, hraw, hparse⟩ := hcontract.diff
    rw [answer_of_mem hraw, hpassing.baseSha, hpassing.headSha, h.rawDiff_parsed] at hparse
    exact (Except.ok.inj hparse).symm
  subst hmetadata
  have hsorted : sortedEntries [(file.path, file.metadata)] = [(file.path, file.metadata)] := rfl
  have hcontents := hcontract.contents
  rw [hsorted] at hcontents
  obtain ⟨read, _, hread, _, rfl⟩ := List.forall₂_cons_left_iff.mp hcontents
  obtain ⟨content, hcontent⟩ := Option.ne_none_iff_exists'.mp (hread.modified rfl)
  have hold := (hread.old content hcontent).1
  have hobject : content = file.old := by
    rw [answer_of_mem hold.1]
    change (file.objects.lookup file.oldBlob.text).getD [] = file.old
    rw [objects, List.lookup_cons_self]
    rfl
  exact ⟨report, hreport, hpassing, hcontract.diff, hobject ▸ hold⟩

end OneFile.Stages
end
end AmazonSimilarSearch.Policy
