import AmazonSimilarSearch.Policy.Contract

/-!
# Restricted content is never read

What is asked before the content of a changed file depends on commits, trees and
the raw diff only. Where something is wrong with these the inspection ends
without another kind of question, so that no answer about content can show in
its report.
-/
namespace AmazonSimilarSearch.Policy
open Foundation Review Interaction

/-- A question about the content of a file: its blob, the size of it, its lines, or the file in
the worktree. -/
def ReadsContent : Query → Prop
  | .git ("cat-file" :: option :: _) => option ∉ [ObjectType.commit.name, ObjectType.tree.name]
  | .git ("hash-object" :: _) => True
  | .git ("diff" :: options) => "--numstat" ∈ options
  | .git _ => False
  | .walkWorktree => True
  | .lstat _ => True
  | .gitLayout => False
  | .resolve _ => False

attribute [grind =] ReadsContent

/-! ## What the metadata is read from -/

def LeavesContent (query : Query) : Prop := ¬ ReadsContent query

abbrev Silent {α : Type} (x : Inspection α) : Prop := x.AsksOnly LeavesContent

theorem silent_git {arguments : List String} (h : LeavesContent (.git arguments)) :
    Silent (git arguments) := by
  unfold git
  apply (asksOnly_query h).bind
  intro answer
  cases answer with
  | ok output => trivial
  | error message => trivial

theorem silent_ofExcept {α : Type} (x : Except InspectionError α) : Silent (ofExcept x) :=
  asksOnly_ofExcept x

theorem silent_resolveCommit (reference : String) : Silent (resolveCommit reference) := by
  unfold resolveCommit
  apply (silent_ofExcept _).bind
  intro _
  apply (silent_git (by simp [LeavesContent, ReadsContent])).bind
  intro value
  apply (silent_ofExcept _).bind
  intro text
  exact silent_ofExcept _

theorem silent_checkGitDirectory (expected argument label : String) :
    Silent (checkGitDirectory expected argument label) := by
  unfold checkGitDirectory
  apply (silent_git (by simp [LeavesContent, ReadsContent])).bind
  intro raw
  apply (silent_ofExcept _).bind
  intro text
  apply (asksOnly_query (by simp [LeavesContent, ReadsContent])).bind
  intro resolved
  apply (silent_ofExcept _).bind
  intro reported
  exact silent_ofExcept _

theorem silent_rejectGitLayout : Silent rejectGitLayout := by
  unfold rejectGitLayout
  apply (asksOnly_query (by simp [LeavesContent, ReadsContent])).bind
  intro layout
  apply (silent_ofExcept _).bind
  intro _
  apply (silent_checkGitDirectory _ _ _).bind
  intro _
  apply (silent_checkGitDirectory _ _ _).bind
  intro _
  apply (silent_git (by simp [LeavesContent, ReadsContent])).bind
  intro raw
  apply (silent_ofExcept _).bind
  intro format
  exact silent_ofExcept _

theorem silent_rejectReplaceRefs : Silent rejectReplaceRefs := by
  unfold rejectReplaceRefs
  apply (silent_git (by simp [LeavesContent, ReadsContent])).bind
  intro refs
  exact silent_ofExcept _

section
variable {sha1 : Sha1Function} {H : HashFunction}

/-- Commits and trees are not content. -/
theorem silent_verifiedObjectContent {objectType : ObjectType} (h : objectType ≠ .blob)
    (objectId : String) : Silent (verifiedObjectContent sha1 objectType objectId) := by
  unfold verifiedObjectContent
  apply (silent_ofExcept _).bind
  intro _
  apply (silent_git ?_).bind
  · intro content
    apply (silent_ofExcept _).bind
    intro _
    trivial
  · cases objectType with
    | commit => simp [LeavesContent, ReadsContent]
    | tree => simp [LeavesContent, ReadsContent]
    | blob => exact absurd rfl h

theorem silent_verifyTrees (passes : ℕ) (pending seen : List String) (count : ℕ) :
    Silent (verifyTrees sha1 passes pending seen count) := by
  induction passes generalizing pending seen count with
  | zero =>
      cases pending with
      | nil => trivial
      | cons treeId pending => trivial
  | succ passes ih =>
      cases pending with
      | nil => trivial
      | cons treeId pending =>
          rw [verifyTrees]
          split_ifs
          · exact ih pending seen count
          · apply (silent_verifiedObjectContent (by simp) treeId).bind
            intro content
            apply (silent_ofExcept _).bind
            intro entries
            exact ih _ _ _

theorem silent_verifyCommitAndTreeGraph (commitId : LowerHex 40) :
    Silent (verifyCommitAndTreeGraph sha1 commitId) := by
  unfold verifyCommitAndTreeGraph
  apply (silent_verifiedObjectContent (by simp) _).bind
  intro content
  apply (silent_ofExcept _).bind
  intro treeId
  exact silent_verifyTrees _ _ _ _

theorem silent_inspectCandidateCommit (task : TaskSpec) (baseSha headSha : LowerHex 40) :
    Silent (inspectCandidateCommit sha1 task baseSha headSha) := by
  unfold inspectCandidateCommit
  apply (silent_verifiedObjectContent (by simp) _).bind
  intro raw
  exact silent_ofExcept _

theorem silent_inspectCommits (repo : String) (task : TaskSpec) (head : String) :
    Silent (inspectCommits sha1 repo task head) := by
  unfold inspectCommits
  apply silent_rejectGitLayout.bind
  intro _
  apply silent_rejectReplaceRefs.bind
  intro _
  apply (silent_git (by simp [LeavesContent, ReadsContent])).bind
  intro topLevel
  apply (silent_ofExcept _).bind
  intro topLevelText
  apply (asksOnly_query (by simp [LeavesContent, ReadsContent])).bind
  intro resolved
  apply (silent_ofExcept _).bind
  intro resolvedTopLevel
  apply (silent_ofExcept _).bind
  intro _
  apply (silent_resolveCommit _).bind
  intro baseSha
  apply (silent_resolveCommit _).bind
  intro headSha
  apply (silent_resolveCommit _).bind
  intro currentHeadSha
  apply (silent_ofExcept _).bind
  intro _
  apply (silent_verifyCommitAndTreeGraph baseSha).bind
  intro _
  apply (silent_verifyCommitAndTreeGraph headSha).bind
  intro _
  apply (silent_inspectCandidateCommit task baseSha headSha).bind
  intro violations
  trivial

/-- An object id is no option of `git diff`. -/
theorem numstat_not_mem_rawDiffArguments (baseSha headSha : LowerHex 40) :
    LeavesContent (.git (rawDiffArguments baseSha headSha)) := by
  have hne : ∀ commit : LowerHex 40, "--numstat" ≠ commit.text := by
    intro commit heq
    have hdash : '-' ∈ commit.text.toList := by
      rw [← heq]
      decide
    exact absurd (commit.isLowerHexChar_of_mem hdash) (by decide)
  simp [rawDiffArguments, LeavesContent, ReadsContent, hne]

theorem silent_inspectMetadata (repo : String) (task : TaskSpec) (head : String) :
    Silent (inspectMetadata sha1 repo task head) := by
  unfold inspectMetadata
  apply (silent_inspectCommits repo task head).bind
  rintro ⟨baseSha, headSha, violations⟩
  apply AsksOnly.bind
  · apply (silent_git (numstat_not_mem_rawDiffArguments baseSha headSha)).bind
    intro raw
    exact silent_ofExcept _
  · intro metadata
    trivial

theorem silent_inspectOperations (inspected : Inspected) (violations : List String) :
    Silent (inspectOperations inspected violations) := by
  unfold inspectOperations
  split_ifs
  · trivial
  · apply AsksOnly.bind
    · apply (silent_git (by simp [baseTreeArguments, LeavesContent, ReadsContent])).bind
      intro raw
      exact silent_ofExcept _
    · intro baseBlobs
      trivial

/-! ## Nothing is asked about restricted content -/

/-- Something is wrong with the commit or with the diff, or a file is renamed or copied. -/
def Restricted (answers : Repository) (history : History) (task : TaskSpec)
    (inspected : Inspected) : Prop :=
  ¬ MetadataAccepted task inspected.commitViolations inspected.metadata ∨
    ∃ baseBlobs after,
      (baseBlobPaths inspected.baseSha).run answers history = (.ok baseBlobs, after) ∧
        ∃ entry ∈ inspected.metadata, ¬ IsNew inspected.metadata baseBlobs entry

variable {answers : Repository} {history after : History} {validateEmptyEnvExample : Bytes → Bool}
  {pyRepr : String → String} {task : TaskSpec} {inspected : Inspected}

theorem Restricted.violations_ne_nil {violations : List String}
    (h : Restricted answers history task inspected)
    (hrun : (inspectOperations inspected (metadataViolations pyRepr task inspected.commitViolations
      inspected.metadata)).run answers history = (.ok violations, after)) : violations ≠ [] := by
  rintro rfl
  obtain ⟨hnil, baseBlobs, hblobs, hnew⟩ := inspectOperations_eq_nil hrun
  rcases h with hmetadata | ⟨baseBlobs', after', hblobs', entry, hentry, hold⟩
  · exact hmetadata (metadataViolations_eq_nil hnil)
  · rw [hblobs] at hblobs'
    cases hblobs'
    exact hold (hnew entry hentry)

/-- With an objection the report is made from the metadata alone. -/
theorem silent_reportDiff {taskSha256 : Sha256} {expectedPatchSha256 : Option String}
    {state : ContentState} (hstate : state.violations ≠ []) :
    Silent (reportDiff sha1 H validateEmptyEnvExample task taskSha256 expectedPatchSha256 inspected
      state false) := by
  have hstats : contentStats inspected state = .done [] := if_pos hstate
  rw [reportDiff, hstats, done_bind]
  apply (silent_ofExcept _).bind
  intro files
  apply (silent_ofExcept _).bind
  intro digest
  exact silent_ofExcept _

theorem Restricted.unread {taskSha256 : Sha256} {expectedPatchSha256 : Option String}
    (h : Restricted answers history task inspected)
    (hhistory : ∀ exchange ∈ history, LeavesContent exchange.1) :
    ∀ exchange ∈ ((inspectRest sha1 H validateEmptyEnvExample pyRepr task taskSha256
      expectedPatchSha256 inspected).run answers history).2, LeavesContent exchange.1 := by
  have hoperations : ∀ exchange ∈ ((inspectOperations inspected (metadataViolations pyRepr task
      inspected.commitViolations inspected.metadata)).run answers history).2,
      LeavesContent exchange.1 := (silent_inspectOperations _ _).of_run hhistory
  unfold inspectRest
  apply asked_bind (P := LeavesContent) hoperations
  intro violations between hrun
  have hviolations := h.violations_ne_nil hrun
  have hcontent : inspectContent sha1 H validateEmptyEnvExample task inspected violations =
      .done ⟨violations, [], [], [], 0⟩ := if_pos hviolations
  rw [hrun] at hoperations
  rw [hcontent, done_bind, decide_eq_false hviolations]
  exact (silent_reportDiff hviolations).of_run hoperations

/-- No question about content is asked, and the answers to these make no difference. -/
structure ContentBlind {α : Type} (x : Inspection α) (answers : Repository) : Prop where
  unread : ∀ exchange ∈ (x.run answers []).2, LeavesContent exchange.1
  unchanged : ∀ answers' : Repository,
    (∀ history query, LeavesContent query → answers' history query = answers history query) →
      x.run answers' [] = x.run answers []

/-- For every repository, in every state and however it answers: when the commit or the diff of
the metadata is restricted, the content of no file is asked for, and the report is the same in
every repository that differs in content only. -/
theorem inspectGitDiff_contentBlind (sha1 : Sha1Function) (H : HashFunction)
    (validateEmptyEnvExample : Bytes → Bool) (pyRepr : String → String) (answers : Repository)
    (repo : String) (task : TaskSpec) (taskSha256 : Sha256) (head : String)
    (expectedPatchSha256 : Option String) :
    let metadataRun := (inspectMetadata sha1 repo task head).run answers []
    Returned (fun inspected => Restricted answers metadataRun.2 task inspected →
      ContentBlind (inspectGitDiff sha1 H validateEmptyEnvExample pyRepr repo task taskSha256 head
        expectedPatchSha256) answers) metadataRun.1 := by
  apply returned_iff.mpr
  intro inspected hinspected hrestricted
  have hmetadata : ∀ exchange ∈ ((inspectMetadata sha1 repo task head).run answers []).2,
      LeavesContent exchange.1 := (silent_inspectMetadata repo task head).of_run (by simp)
  have hunread : ∀ exchange ∈ ((inspectGitDiff sha1 H validateEmptyEnvExample pyRepr repo task
      taskSha256 head expectedPatchSha256).run answers []).2, LeavesContent exchange.1 := by
    unfold inspectGitDiff
    apply asked_bind (P := LeavesContent) hmetadata
    intro inspected' between hrun
    rw [hrun] at hinspected hrestricted hmetadata
    cases hinspected
    exact hrestricted.unread hmetadata
  exact ⟨hunread, fun answers' hagree => run_eq_of_agree hagree hunread⟩

end
end AmazonSimilarSearch.Policy
