import AmazonSimilarSearch.Review.Models
import AmazonSimilarSearch.Foundation.JsonCanonical

/-!
# The review packet

`ReviewPacket` of `review_packet.py` with all the models it contains, and its
canonical bytes: one line of JSON and a line feed. The dump of every model is an
object with its keys in order that determines the model.
-/
namespace AmazonSimilarSearch.Packet
open Foundation
open Review (AcceptanceKind AcceptanceTest CandidateCommitPolicy DiffFile DiffLimits Identifier
  PolicyReport ReviewPromptDigests TaskSchema)

attribute [ext] PolicyReport

/-! ## Values of fields -/

def dumpOption {α : Type} (dump : α → Json) : Option α → Json
  | none => .null
  | some value => dump value

def dumpSha256 (digest : Sha256) : Json := .str digest.text
def dumpNat (n : ℕ) : Json := .int n
def dumpTexts (texts : List String) : Json := .arr (texts.map .str)
def dumpList {α : Type} (dump : α → Json) (values : List α) : Json := .arr (values.map dump)

section

variable {α : Type} {dump : α → Json}

theorem dumpOption_injective (h : Function.Injective dump) (hnull : ∀ a, dump a ≠ .null) :
    Function.Injective (dumpOption dump) := by
  intro a b heq
  cases a with
  | none =>
      cases b with
      | none => rfl
      | some value => exact absurd heq.symm (hnull value)
  | some value =>
      cases b with
      | none => exact absurd heq (hnull value)
      | some value' => exact congrArg some (h heq)

theorem dumpList_injective (h : Function.Injective dump) :
    Function.Injective (dumpList dump) := by
  intro xs ys heq
  exact List.map_injective_iff.mpr h (Json.arr.inj heq)

theorem dumpNat_injective : Function.Injective dumpNat := by
  intro m n heq
  exact Int.ofNat_inj.mp (Json.int.inj heq)

theorem dumpSha256_injective : Function.Injective dumpSha256 := by
  intro a b heq
  exact LowerHex.text_injective (Json.str.inj heq)

theorem dumpTexts_injective : Function.Injective dumpTexts :=
  dumpList_injective fun _ _ => Json.str.inj

@[simp] theorem dumpOption_sha256_inj {a b : Option Sha256} :
    dumpOption dumpSha256 a = dumpOption dumpSha256 b ↔ a = b :=
  (dumpOption_injective dumpSha256_injective (fun _ h => nomatch h)).eq_iff

@[simp] theorem dumpOption_nat_inj {a b : Option ℕ} :
    dumpOption dumpNat a = dumpOption dumpNat b ↔ a = b :=
  (dumpOption_injective dumpNat_injective (fun _ h => nomatch h)).eq_iff

@[simp] theorem dumpNat_inj {m n : ℕ} : dumpNat m = dumpNat n ↔ m = n := dumpNat_injective.eq_iff

@[simp] theorem dumpSha256_inj {a b : Sha256} : dumpSha256 a = dumpSha256 b ↔ a = b :=
  dumpSha256_injective.eq_iff

@[simp] theorem dumpTexts_inj {a b : List String} : dumpTexts a = dumpTexts b ↔ a = b :=
  dumpTexts_injective.eq_iff

@[simp] theorem isPlain_dumpSha256 (digest : Sha256) : (dumpSha256 digest).IsPlain :=
  Json.isPlain_str _

@[simp] theorem isPlain_dumpNat (n : ℕ) : (dumpNat n).IsPlain := Json.isPlain_int _

theorem isPlain_dumpOption (h : ∀ a, (dump a).IsPlain) (value : Option α) :
    (dumpOption dump value).IsPlain := by
  cases value with
  | none => exact Json.isPlain_null
  | some a => exact h a

theorem isPlain_dumpList (h : ∀ a, (dump a).IsPlain) (values : List α) :
    (dumpList dump values).IsPlain := by
  rw [dumpList, Json.isPlain_arr, Json.plainItems_iff]
  intro item hitem
  obtain ⟨a, -, rfl⟩ := List.mem_map.mp hitem
  exact h a

@[simp] theorem isPlain_dumpOption_sha256 (value : Option Sha256) :
    (dumpOption dumpSha256 value).IsPlain := isPlain_dumpOption isPlain_dumpSha256 value

@[simp] theorem isPlain_dumpOption_nat (value : Option ℕ) :
    (dumpOption dumpNat value).IsPlain := isPlain_dumpOption isPlain_dumpNat value

@[simp] theorem isPlain_dumpTexts (texts : List String) : (dumpTexts texts).IsPlain :=
  isPlain_dumpList Json.isPlain_str texts

end

/-! ## The task -/

/-- A `TaskSpec` with the fields that only people read. -/
@[ext] structure PacketTask extends Review.TaskSpec where
  objective : String
  requirementTexts : List String
  outOfScope : List String
  requirementTexts_length : requirementTexts.length = requirements.length

def dumpKind : AcceptanceKind → Json
  | .test => .str "test"
  | .quality => .str "quality"

def dumpSchema : TaskSchema → Json
  | .v1 => .str "1.0"
  | .v2 => .str "2.0"

@[simp] theorem dumpKind_inj {a b : AcceptanceKind} : dumpKind a = dumpKind b ↔ a = b := by
  cases a <;> cases b <;> simp [dumpKind]

@[simp] theorem dumpSchema_inj {a b : TaskSchema} : dumpSchema a = dumpSchema b ↔ a = b := by
  cases a <;> cases b <;> simp [dumpSchema]

@[simp] theorem isPlain_dumpKind (kind : AcceptanceKind) : (dumpKind kind).IsPlain := by
  cases kind <;> simp [dumpKind]

@[simp] theorem isPlain_dumpSchema (schema : TaskSchema) : (dumpSchema schema).IsPlain := by
  cases schema <;> simp [dumpSchema]

def dumpAcceptanceTest (test : AcceptanceTest) : Json := .obj [
  ("command", dumpTexts test.command),
  ("expected_exit_code", dumpNat test.expectedExitCode),
  ("expected_red_exit_codes", dumpList dumpNat test.expectedRedExitCodes),
  ("expected_red_fingerprint_sha256", dumpOption dumpSha256 test.expectedRedFingerprintSha256),
  ("id", .str test.id.text),
  ("kind", dumpKind test.kind),
  ("test_paths", dumpTexts test.testPaths)]

def dumpRequirement (requirement : Identifier × String) : Json := .obj [
  ("id", .str requirement.1.text),
  ("text", .str requirement.2)]

def dumpReviewPrompts (prompts : ReviewPromptDigests) : Json := .obj [
  ("adversary_sha256", dumpSha256 prompts.adversarySha256),
  ("reviewer_sha256", dumpSha256 prompts.reviewerSha256)]

def dumpCandidateCommit (commit : CandidateCommitPolicy) : Json := .obj [
  ("author_email", .str commit.authorEmail),
  ("author_name", .str commit.authorName),
  ("message", .str commit.message),
  ("timestamp", .int commit.timestamp),
  ("timezone", .str commit.timezone)]

def dumpLimits (limits : DiffLimits) : Json := .obj [
  ("max_added_lines", dumpNat limits.maxAddedLines),
  ("max_changed_files", dumpNat limits.maxChangedFiles),
  ("max_file_bytes", dumpNat limits.maxFileBytes),
  ("max_total_bytes", dumpNat limits.maxTotalBytes)]

def PacketTask.modelDump (task : PacketTask) : Json := .obj [
  ("acceptance_tests", dumpList dumpAcceptanceTest task.acceptanceTests),
  ("allowed_paths", dumpTexts task.allowedPaths),
  ("base_sha", .str task.baseSha.text),
  ("candidate_commit", dumpCandidateCommit task.candidateCommit),
  ("denied_paths", dumpTexts task.deniedPaths),
  ("limits", dumpLimits task.limits),
  ("network_policy", .str "deny"),
  ("objective", .str task.objective),
  ("out_of_scope", dumpTexts task.outOfScope),
  ("requirements", dumpList dumpRequirement (task.requirements.zip task.requirementTexts)),
  ("review_prompts", dumpReviewPrompts task.reviewPrompts),
  ("schema_version", dumpSchema task.schemaVersion),
  ("task_id", .str task.taskId.text),
  ("trusted_harness_sha256", dumpSha256 task.trustedHarnessSha256)]

theorem dumpAcceptanceTest_injective : Function.Injective dumpAcceptanceTest := by
  intro a b h
  cases a
  cases b
  simp only [dumpAcceptanceTest, Json.obj.injEq, List.cons.injEq, Prod.mk.injEq, true_and,
    and_true, Json.str.injEq, Matching.text_inj, dumpTexts_inj, dumpNat_inj,
    dumpOption_sha256_inj, dumpKind_inj, (dumpList_injective dumpNat_injective).eq_iff] at h
  simp only [AcceptanceTest.mk.injEq]
  tauto

theorem dumpRequirement_injective : Function.Injective dumpRequirement := by
  intro a b h
  simp only [dumpRequirement, Json.obj.injEq, List.cons.injEq, Prod.mk.injEq, true_and, and_true,
    Json.str.injEq, Matching.text_inj] at h
  exact Prod.ext h.1 h.2

theorem dumpReviewPrompts_injective : Function.Injective dumpReviewPrompts := by
  intro a b h
  cases a
  cases b
  simp only [dumpReviewPrompts, Json.obj.injEq, List.cons.injEq, Prod.mk.injEq, true_and,
    and_true, dumpSha256_inj] at h
  simp only [ReviewPromptDigests.mk.injEq]
  tauto

theorem dumpCandidateCommit_injective : Function.Injective dumpCandidateCommit := by
  intro a b h
  cases a
  cases b
  simp only [dumpCandidateCommit, Json.obj.injEq, List.cons.injEq, Prod.mk.injEq, true_and,
    and_true, Json.str.injEq, Json.int.injEq] at h
  simp only [CandidateCommitPolicy.mk.injEq]
  tauto

theorem dumpLimits_injective : Function.Injective dumpLimits := by
  intro a b h
  cases a
  cases b
  simp only [dumpLimits, Json.obj.injEq, List.cons.injEq, Prod.mk.injEq, true_and, and_true,
    dumpNat_inj] at h
  simp only [DiffLimits.mk.injEq]
  tauto

/-- Two lists of one length are determined by their zip. -/
theorem zip_injective {α β : Type} {xs xs' : List α} {ys ys' : List β}
    (hlength : ys.length = xs.length) (hlength' : ys'.length = xs'.length)
    (h : xs.zip ys = xs'.zip ys') : xs = xs' ∧ ys = ys' := by
  constructor
  · rw [← List.map_fst_zip hlength.ge, h, List.map_fst_zip hlength'.ge]
  · rw [← List.map_snd_zip hlength.le, h, List.map_snd_zip hlength'.le]

theorem PacketTask.modelDump_injective : Function.Injective PacketTask.modelDump := by
  intro a b h
  simp only [modelDump, Json.obj.injEq, List.cons.injEq, Prod.mk.injEq, true_and, and_true,
    Json.str.injEq, Matching.text_inj, LowerHex.text_inj, dumpTexts_inj, dumpSha256_inj,
    dumpSchema_inj, dumpCandidateCommit_injective.eq_iff, dumpLimits_injective.eq_iff,
    dumpReviewPrompts_injective.eq_iff, (dumpList_injective dumpAcceptanceTest_injective).eq_iff,
    (dumpList_injective dumpRequirement_injective).eq_iff] at h
  obtain ⟨htests, hallowed, hbase, hcommit, hdenied, hlimits, hobjective, hscope, hzip, hprompts,
    hschema, hid, hharness⟩ := h
  obtain ⟨hrequirements, htexts⟩ :=
    zip_injective a.requirementTexts_length b.requirementTexts_length hzip
  exact PacketTask.ext hschema hid hbase hharness hrequirements hprompts hcommit htests hallowed
    hdenied hlimits hobjective htexts hscope

/-! ## The policy report -/

def dumpDiffFile (file : DiffFile) : Json := .obj [
  ("additions", dumpOption dumpNat file.additions),
  ("binary", .bool file.binary),
  ("content_sha256", dumpOption dumpSha256 file.contentSha256),
  ("deletions", dumpOption dumpNat file.deletions),
  ("path", .str file.path),
  ("status", .str file.status)]

def dumpPolicyReport (report : PolicyReport) : Json := .obj [
  ("base_sha", .str report.baseSha.text),
  ("changed_files", dumpList dumpDiffFile report.changedFiles),
  ("head_sha", .str report.headSha.text),
  ("passed", .bool report.passed),
  ("patch_sha256", dumpOption dumpSha256 report.patchSha256),
  ("schema_version", .str "1.0"),
  ("task_id", .str report.taskId.text),
  ("task_sha256", dumpSha256 report.taskSha256),
  ("total_added_lines", dumpNat report.totalAddedLines),
  ("trusted_harness_sha256", dumpSha256 report.trustedHarnessSha256),
  ("violations", dumpTexts report.violations)]

theorem dumpDiffFile_injective : Function.Injective dumpDiffFile := by
  intro a b h
  cases a
  cases b
  simp only [dumpDiffFile, Json.obj.injEq, List.cons.injEq, Prod.mk.injEq, true_and, and_true,
    Json.str.injEq, Json.bool.injEq, dumpOption_nat_inj, dumpOption_sha256_inj] at h
  simp only [DiffFile.mk.injEq]
  tauto

theorem dumpPolicyReport_injective : Function.Injective dumpPolicyReport := by
  intro a b h
  simp only [dumpPolicyReport, Json.obj.injEq, List.cons.injEq, Prod.mk.injEq, true_and, and_true,
    Json.str.injEq, Json.bool.injEq, LowerHex.text_inj, Matching.text_inj, dumpSha256_inj,
    dumpNat_inj, dumpTexts_inj, dumpOption_sha256_inj,
    (dumpList_injective dumpDiffFile_injective).eq_iff] at h
  obtain ⟨hbase, hfiles, hhead, hpassed, hpatch, hid, htask, hadded, hharness, hviolations⟩ := h
  exact PolicyReport.ext hid htask hpassed hharness hbase hhead hpatch hfiles hadded hviolations

/-! ## Gates and TDD evidence -/

/-- A `GateResult` with the digest of its evidence. -/
@[ext] structure PacketGate extends Review.GateResult where
  evidenceSha256 : Sha256

/-- A `TddEvidence` with the digests of its logs. -/
@[ext] structure PacketTddEvidence extends Review.TddEvidence where
  redLogSha256 : Sha256
  greenLogSha256 : Sha256

def PacketGate.modelDump (gate : PacketGate) : Json := .obj [
  ("acceptance_test_id", .str gate.acceptanceTestId.text),
  ("command", dumpTexts gate.command),
  ("evidence_sha256", dumpSha256 gate.evidenceSha256),
  ("exit_code", dumpNat gate.exitCode),
  ("expected_exit_code", dumpNat gate.expectedExitCode),
  ("head_sha", .str gate.headSha.text),
  ("passed", .bool gate.passed),
  ("patch_sha256", dumpSha256 gate.patchSha256),
  ("task_id", .str gate.taskId.text),
  ("task_sha256", dumpSha256 gate.taskSha256)]

def dumpRed (red : Review.RedEvidence) (logSha256 : Sha256) : Json := .obj [
  ("exit_code", dumpNat red.exitCode),
  ("failure_fingerprint_sha256", dumpSha256 red.failureFingerprintSha256),
  ("log_sha256", dumpSha256 logSha256),
  ("test_patch_sha256", dumpSha256 red.testPatchSha256)]

def dumpGreen (green : Review.GreenEvidence) (logSha256 : Sha256) : Json := .obj [
  ("exit_code", dumpNat green.exitCode),
  ("log_sha256", dumpSha256 logSha256),
  ("test_patch_sha256", dumpSha256 green.testPatchSha256)]

def PacketTddEvidence.modelDump (evidence : PacketTddEvidence) : Json := .obj [
  ("acceptance_test_id", .str evidence.acceptanceTestId.text),
  ("base_sha", .str evidence.baseSha.text),
  ("command", dumpTexts evidence.command),
  ("green", dumpGreen evidence.green evidence.greenLogSha256),
  ("green_snapshot_sha256", dumpOption dumpSha256 evidence.greenSnapshotSha256),
  ("head_sha", .str evidence.headSha.text),
  ("patch_sha256", dumpSha256 evidence.patchSha256),
  ("red", dumpRed evidence.red evidence.redLogSha256),
  ("red_snapshot_sha256", dumpOption dumpSha256 evidence.redSnapshotSha256),
  ("schema_version", dumpSchema evidence.schemaVersion),
  ("task_id", .str evidence.taskId.text),
  ("task_sha256", dumpSha256 evidence.taskSha256),
  ("test_manifest_sha256", dumpSha256 evidence.testManifestSha256),
  ("test_patch_sha256", dumpSha256 evidence.testPatchSha256),
  ("test_paths", dumpTexts evidence.testPaths)]

theorem PacketGate.modelDump_injective : Function.Injective PacketGate.modelDump := by
  intro a b h
  simp only [modelDump, Json.obj.injEq, List.cons.injEq, Prod.mk.injEq, true_and, and_true,
    Json.str.injEq, Json.bool.injEq, LowerHex.text_inj, Matching.text_inj, dumpSha256_inj,
    dumpNat_inj, dumpTexts_inj] at h
  obtain ⟨htest, hcommand, hevidence, hexit, hexpected, hhead, hpassed, hpatch, hid, htask⟩ := h
  exact PacketGate.ext hid htask hhead hpatch htest hcommand hexpected hpassed hexit hevidence

theorem dumpRed_inj {red red' : Review.RedEvidence} {log log' : Sha256} :
    dumpRed red log = dumpRed red' log' ↔ red = red' ∧ log = log' := by
  cases red
  cases red'
  simp only [dumpRed, Json.obj.injEq, List.cons.injEq, Prod.mk.injEq, true_and, and_true,
    dumpSha256_inj, dumpNat_inj, Review.RedEvidence.mk.injEq]
  tauto

theorem dumpGreen_inj {green green' : Review.GreenEvidence} {log log' : Sha256} :
    dumpGreen green log = dumpGreen green' log' ↔ green = green' ∧ log = log' := by
  cases green
  cases green'
  simp only [dumpGreen, Json.obj.injEq, List.cons.injEq, Prod.mk.injEq, true_and, and_true,
    dumpSha256_inj, dumpNat_inj, Review.GreenEvidence.mk.injEq]
  tauto

theorem PacketTddEvidence.modelDump_injective :
    Function.Injective PacketTddEvidence.modelDump := by
  intro a b h
  simp only [modelDump, Json.obj.injEq, List.cons.injEq, Prod.mk.injEq, true_and, and_true,
    Json.str.injEq, LowerHex.text_inj, Matching.text_inj, dumpSha256_inj, dumpTexts_inj,
    dumpOption_sha256_inj, dumpSchema_inj, dumpRed_inj, dumpGreen_inj] at h
  obtain ⟨htest, hbase, hcommand, hgreen, hgreenSnapshot, hhead, hpatch, hred, hredSnapshot,
    hschema, hid, htask, hmanifest, htestPatch, hpaths⟩ := h
  exact PacketTddEvidence.ext hschema hid htask hbase hhead hpatch htest hcommand hpaths hmanifest
    htestPatch hredSnapshot hgreenSnapshot hred.1 hgreen.1 hred.2 hgreen.2

/-! ## The packet -/

structure ReviewContextFile where
  path : String
  content : String
  contentSha256 : Sha256

structure TrustedDiffBinding where
  taskSha256 : Sha256
  baseSha : LowerHex 40
  headSha : LowerHex 40
  candidateDigestSha256 : Sha256
  trustedDiffSha256 : Sha256
  snapshotManifestSha256 : Sha256
  coordinatorAttestationSha256 : Sha256

structure ReviewArtifactDigests where
  taskSha256 : Sha256
  policySha256 : Sha256
  trustedDiffSha256 : Sha256
  contextManifestSha256 : Sha256
  gatesSha256 : Sha256
  tddEvidenceSha256 : Sha256

/-- What `validate_integrity` checks besides the digest of the packet is carried along. -/
structure ReviewPacket where
  taskSha256 : Sha256
  task : PacketTask
  policy : PolicyReport
  candidateDigestSha256 : Sha256
  trustedDiff : String
  trustedDiffBinding : TrustedDiffBinding
  context : List ReviewContextFile
  gates : List PacketGate
  tddEvidence : List PacketTddEvidence
  artifactDigests : ReviewArtifactDigests
  packetSha256 : Sha256
  task_bound : artifactDigests.taskSha256 = taskSha256
  candidate_bound : trustedDiffBinding.candidateDigestSha256 = candidateDigestSha256
  diff_bound : artifactDigests.trustedDiffSha256 = trustedDiffBinding.trustedDiffSha256

def dumpContextFile (file : ReviewContextFile) : Json := .obj [
  ("content", .str file.content),
  ("content_sha256", dumpSha256 file.contentSha256),
  ("path", .str file.path)]

def dumpTrustedDiffBinding (binding : TrustedDiffBinding) : Json := .obj [
  ("base_sha", .str binding.baseSha.text),
  ("candidate_digest_sha256", dumpSha256 binding.candidateDigestSha256),
  ("coordinator_attestation_sha256", dumpSha256 binding.coordinatorAttestationSha256),
  ("head_sha", .str binding.headSha.text),
  ("snapshot_manifest_sha256", dumpSha256 binding.snapshotManifestSha256),
  ("task_sha256", dumpSha256 binding.taskSha256),
  ("trusted_diff_sha256", dumpSha256 binding.trustedDiffSha256)]

def dumpArtifactDigests (digests : ReviewArtifactDigests) : Json := .obj [
  ("context_manifest_sha256", dumpSha256 digests.contextManifestSha256),
  ("gates_sha256", dumpSha256 digests.gatesSha256),
  ("policy_sha256", dumpSha256 digests.policySha256),
  ("task_sha256", dumpSha256 digests.taskSha256),
  ("tdd_evidence_sha256", dumpSha256 digests.tddEvidenceSha256),
  ("trusted_diff_sha256", dumpSha256 digests.trustedDiffSha256)]

theorem dumpContextFile_injective : Function.Injective dumpContextFile := by
  intro a b h
  cases a
  cases b
  simp only [dumpContextFile, Json.obj.injEq, List.cons.injEq, Prod.mk.injEq, true_and, and_true,
    Json.str.injEq, dumpSha256_inj] at h
  simp only [ReviewContextFile.mk.injEq]
  tauto

theorem dumpTrustedDiffBinding_injective : Function.Injective dumpTrustedDiffBinding := by
  intro a b h
  cases a
  cases b
  simp only [dumpTrustedDiffBinding, Json.obj.injEq, List.cons.injEq, Prod.mk.injEq, true_and,
    and_true, Json.str.injEq, LowerHex.text_inj, dumpSha256_inj] at h
  simp only [TrustedDiffBinding.mk.injEq]
  tauto

theorem dumpArtifactDigests_injective : Function.Injective dumpArtifactDigests := by
  intro a b h
  cases a
  cases b
  simp only [dumpArtifactDigests, Json.obj.injEq, List.cons.injEq, Prod.mk.injEq, true_and,
    and_true, dumpSha256_inj] at h
  simp only [ReviewArtifactDigests.mk.injEq]
  tauto

namespace ReviewPacket

/-- `packet.model_dump(mode="json")` -/
def modelDump (packet : ReviewPacket) : Json := .obj [
  ("artifact_digests", dumpArtifactDigests packet.artifactDigests),
  ("candidate_digest_sha256", dumpSha256 packet.candidateDigestSha256),
  ("context", dumpList dumpContextFile packet.context),
  ("gates", dumpList PacketGate.modelDump packet.gates),
  ("packet_sha256", dumpSha256 packet.packetSha256),
  ("policy", dumpPolicyReport packet.policy),
  ("schema_version", .str "1.0"),
  ("task", packet.task.modelDump),
  ("task_sha256", dumpSha256 packet.taskSha256),
  ("tdd_evidence", dumpList PacketTddEvidence.modelDump packet.tddEvidence),
  ("trusted_diff", .str packet.trustedDiff),
  ("trusted_diff_binding", dumpTrustedDiffBinding packet.trustedDiffBinding)]

/-- `packet.model_dump(mode="json", exclude={"packet_sha256"})` -/
def body (packet : ReviewPacket) : Json :=
  match packet.modelDump with
  | .obj fields => .obj (Fields.without fields "packet_sha256")
  | value => value

theorem modelDump_injective : Function.Injective modelDump := by
  intro a b h
  simp only [modelDump, Json.obj.injEq, List.cons.injEq, Prod.mk.injEq, true_and, and_true,
    Json.str.injEq, dumpSha256_inj, dumpArtifactDigests_injective.eq_iff,
    dumpPolicyReport_injective.eq_iff, PacketTask.modelDump_injective.eq_iff,
    dumpTrustedDiffBinding_injective.eq_iff, (dumpList_injective dumpContextFile_injective).eq_iff,
    (dumpList_injective PacketGate.modelDump_injective).eq_iff,
    (dumpList_injective PacketTddEvidence.modelDump_injective).eq_iff] at h
  cases a
  cases b
  simp only [ReviewPacket.mk.injEq]
  tauto

end ReviewPacket

/-! ## Dumps are plain -/

/-- The dump of a model is plain when its keys are in order and its fields are plain. -/
theorem isPlain_object {fields : Fields} (hkeys : fields.SortedKeys)
    (hfields : Json.PlainFields fields) : (Json.obj fields).IsPlain :=
  Json.isPlain_obj.mpr ⟨hkeys, hfields⟩

@[simp] theorem isPlain_dumpAcceptanceTest (test : AcceptanceTest) : (dumpAcceptanceTest test).IsPlain := by
  refine isPlain_object ?_ (by simp [isPlain_dumpList])
  simp only [Fields.SortedKeys, Fields.keys, List.map]
  decide

@[simp] theorem isPlain_dumpRequirement (requirement : Identifier × String) : (dumpRequirement requirement).IsPlain := by
  refine isPlain_object ?_ (by simp)
  simp only [Fields.SortedKeys, Fields.keys, List.map]
  decide

@[simp] theorem isPlain_dumpReviewPrompts (prompts : ReviewPromptDigests) : (dumpReviewPrompts prompts).IsPlain := by
  refine isPlain_object ?_ (by simp)
  simp only [Fields.SortedKeys, Fields.keys, List.map]
  decide

@[simp] theorem isPlain_dumpCandidateCommit (commit : CandidateCommitPolicy) : (dumpCandidateCommit commit).IsPlain := by
  refine isPlain_object ?_ (by simp)
  simp only [Fields.SortedKeys, Fields.keys, List.map]
  decide

@[simp] theorem isPlain_dumpLimits (limits : DiffLimits) : (dumpLimits limits).IsPlain := by
  refine isPlain_object ?_ (by simp)
  simp only [Fields.SortedKeys, Fields.keys, List.map]
  decide

@[simp] theorem isPlain_task (task : PacketTask) : (PacketTask.modelDump task).IsPlain := by
  refine isPlain_object ?_ (by simp [isPlain_dumpList])
  simp only [Fields.SortedKeys, Fields.keys, List.map]
  decide

@[simp] theorem isPlain_dumpDiffFile (file : DiffFile) : (dumpDiffFile file).IsPlain := by
  refine isPlain_object ?_ (by simp)
  simp only [Fields.SortedKeys, Fields.keys, List.map]
  decide

@[simp] theorem isPlain_dumpPolicyReport (report : PolicyReport) : (dumpPolicyReport report).IsPlain := by
  refine isPlain_object ?_ (by simp [isPlain_dumpList])
  simp only [Fields.SortedKeys, Fields.keys, List.map]
  decide

@[simp] theorem isPlain_gate (gate : PacketGate) : (PacketGate.modelDump gate).IsPlain := by
  refine isPlain_object ?_ (by simp)
  simp only [Fields.SortedKeys, Fields.keys, List.map]
  decide

@[simp] theorem isPlain_dumpRed (red : Review.RedEvidence) (log : Sha256) : (dumpRed red log).IsPlain := by
  refine isPlain_object ?_ (by simp)
  simp only [Fields.SortedKeys, Fields.keys, List.map]
  decide

@[simp] theorem isPlain_dumpGreen (green : Review.GreenEvidence) (log : Sha256) : (dumpGreen green log).IsPlain := by
  refine isPlain_object ?_ (by simp)
  simp only [Fields.SortedKeys, Fields.keys, List.map]
  decide

@[simp] theorem isPlain_tddEvidence (evidence : PacketTddEvidence) : (PacketTddEvidence.modelDump evidence).IsPlain := by
  refine isPlain_object ?_ (by simp)
  simp only [Fields.SortedKeys, Fields.keys, List.map]
  decide

@[simp] theorem isPlain_dumpContextFile (file : ReviewContextFile) : (dumpContextFile file).IsPlain := by
  refine isPlain_object ?_ (by simp)
  simp only [Fields.SortedKeys, Fields.keys, List.map]
  decide

@[simp] theorem isPlain_dumpTrustedDiffBinding (binding : TrustedDiffBinding) : (dumpTrustedDiffBinding binding).IsPlain := by
  refine isPlain_object ?_ (by simp)
  simp only [Fields.SortedKeys, Fields.keys, List.map]
  decide

@[simp] theorem isPlain_dumpArtifactDigests (digests : ReviewArtifactDigests) : (dumpArtifactDigests digests).IsPlain := by
  refine isPlain_object ?_ (by simp)
  simp only [Fields.SortedKeys, Fields.keys, List.map]
  decide

theorem ReviewPacket.isPlain (packet : ReviewPacket) : packet.modelDump.IsPlain := by
  refine isPlain_object ?_ (by simp [isPlain_dumpList])
  simp only [Fields.SortedKeys, Fields.keys, List.map]
  decide

/-! ## Canonical bytes -/

/-- `ValueError` -/
inductive PacketError where
  | valueError (message : String)
  deriving DecidableEq, Repr

/-- `_canonical_json_bytes` of `review_packet.py`; a number that is too long raises. -/
def canonicalJsonBytes (value : Json) : Except PacketError Bytes :=
  required (.valueError "Exceeds the limit (4300 digits) for integer string conversion")
    (Json.compact? value)

namespace ReviewPacket

/-- `compute_packet_sha256` -/
def computeSha256 (sha256 : HashFunction) (packet : ReviewPacket) : Except PacketError Sha256 := do
  let raw ← canonicalJsonBytes packet.body
  pure (sha256 raw)

/-- `canonical_packet_bytes` -/
def canonicalBytes (sha256 : HashFunction) (packet : ReviewPacket) : Except PacketError Bytes := do
  let computed ← packet.computeSha256 sha256
  ensure (packet.packetSha256 = computed)
    (.valueError "packet SHA-256 does not match its canonical content")
  let raw ← canonicalJsonBytes packet.modelDump
  pure (raw ++ encodeUtf8 "\n")

/-- The canonical bytes are the one line of the packet's dump. -/
theorem canonicalBytes_ok {sha256 : HashFunction} {packet : ReviewPacket} {raw : Bytes}
    (h : packet.canonicalBytes sha256 = .ok raw) :
    ∃ line, Json.dumps packet.modelDump = some line ∧ raw = encodeUtf8 (line ++ "\n") := by
  simp only [canonicalBytes, canonicalJsonBytes, bind_eq_ok_iff, required_eq_ok_iff, pure_eq_ok_iff,
    Json.compact?, Option.map_eq_some_iff] at h
  obtain ⟨computed, -, -, -, compact, ⟨line, hline, rfl⟩, rfl⟩ := h
  exact ⟨line, hline, (encodeUtf8_append line "\n").symm⟩

/-- A packet is determined by the line of its dump. -/
theorem eq_of_dumps {packet packet' : ReviewPacket} {line : String}
    (h : Json.dumps packet.modelDump = some line) (h' : Json.dumps packet'.modelDump = some line) :
    packet = packet' := by
  have hraw : Json.canonicalLine? packet.modelDump = some (encodeUtf8 (line ++ "\n")) := by
    rw [Json.canonicalLine?, h, Option.map_some]
  have hraw' : Json.canonicalLine? packet'.modelDump = some (encodeUtf8 (line ++ "\n")) := by
    rw [Json.canonicalLine?, h', Option.map_some]
  exact modelDump_injective (Json.eq_of_canonicalLine packet.isPlain packet'.isPlain hraw hraw')

end ReviewPacket
end AmazonSimilarSearch.Packet
