import AmazonSimilarSearch.Review.Judge
import Mathlib.Data.List.Dedup
import Mathlib.Data.List.Count

/-!
# What the judge guarantees

The judge raises on no input, and it leaves a candidate to a human decision only
when no reason was found. `HumanReviewable` says what the absence of every reason
means for the policy report, the gates, the reviews and the TDD evidence.
-/
namespace AmazonSimilarSearch.Review
open Foundation

section
variable {H : HashFunction} {task : TaskSpec} {policy : PolicyReport}
  {reviews : List ReviewReport} {gates : List GateResult} {tdd : TddEvidence}
  {taskSha256 : Sha256}

/-! ## The manifest is always computed -/

theorem fileByPath_path {path : String} {file : DiffFile} (h : policy.fileByPath path = some file) :
    file.path = path := by
  have hfound := List.find?_some h
  simpa using hfound

theorem encodeUtf8_length_le_toList (text : String) :
    (encodeUtf8 text).length ≤ 4 * text.toList.length := by
  have h := encodeUtf8_length_le text.toList
  rwa [String.ofList_toList] at h

theorem updateFramed_ok {value : String} (digested : Bytes) (h : value.toList.length ≤ 4096) :
    ∃ next, updateFramed digested value = .ok next := by
  have hlength := encodeUtf8_length_le_toList value
  have hframe : (encodeUtf8 value).length < 2 ^ 32 := by omega
  simp only [updateFramed, ensure_of _ hframe, ok_bind]
  exact ⟨_, rfl⟩

/-- A path that is digested is the path of a file, so its length fits the frame. -/
theorem manifestPreimage_ok (policy : PolicyReport) (paths : List String) (digested : Bytes) :
    ∃ preimage, manifestPreimage policy digested paths = .ok preimage := by
  induction paths generalizing digested with
  | nil => exact ⟨_, rfl⟩
  | cons path paths ih =>
      unfold manifestPreimage
      split
      · exact ⟨none, rfl⟩
      · next contentSha256 hcontent =>
        obtain ⟨file, hfile, -⟩ := Option.bind_eq_some_iff.mp hcontent
        have hpath : path.toList.length ≤ 4096 := by
          rw [← fileByPath_path hfile]
          exact file.path_length.2
        obtain ⟨afterPath, hafterPath⟩ := updateFramed_ok digested hpath
        have hdigest : contentSha256.text.toList.length ≤ 4096 := by
          rw [contentSha256.length_toList]
          omega
        obtain ⟨next, hnext⟩ := updateFramed_ok afterPath hdigest
        obtain ⟨preimage, hpreimage⟩ := ih next
        refine ⟨preimage, ?_⟩
        rw [hafterPath, ok_bind, hnext, ok_bind, hpreimage]

variable (H policy) in
theorem buildTestManifestSha256_ok (testPaths : List String) :
    ∃ manifest, buildTestManifestSha256 H policy testPaths = .ok manifest := by
  obtain ⟨preimage, hpreimage⟩ := manifestPreimage_ok policy (sortedText testPaths)
    (encodeUtf8 "amazon-explorer-ai-review-test-manifest-v1\x00")
  refine ⟨preimage.map H, ?_⟩
  rw [buildTestManifestSha256, hpreimage]
  rfl

/-! ## Without a reason, every check has passed -/

/-- The report passed, and it is about the judged task. -/
structure PolicyAccepted (task : TaskSpec) (policy : PolicyReport) (taskSha256 patch : Sha256) :
    Prop where
  passed : policy.passed = true
  patch : policy.patchSha256 = some patch
  taskId : policy.taskId = task.taskId
  taskSha256 : policy.taskSha256 = taskSha256
  baseSha : policy.baseSha = task.baseSha
  trustedHarnessSha256 : policy.trustedHarnessSha256 = task.trustedHarnessSha256

theorem policyReasons_eq_nil (h : policyReasons task policy taskSha256 = []) :
    ∃ patch, PolicyAccepted task policy taskSha256 patch := by
  simp only [policyReasons, List.append_eq_nil_iff] at h
  obtain ⟨⟨⟨⟨⟨htaskId, htaskSha256⟩, hbase⟩, hharness⟩, hpassed⟩, hpatch⟩ := h
  obtain ⟨patch, hpatch⟩ := Option.ne_none_iff_exists'.mp (nil_of_ite hpatch)
  refine ⟨patch, ⟨?_, hpatch, not_not.mp (nil_of_ite htaskId), not_not.mp (nil_of_ite htaskSha256),
    not_not.mp (nil_of_ite hbase), not_not.mp (nil_of_ite hharness)⟩⟩
  -- a failing report has violations, and each of them is a reason
  by_contra hfailed
  rw [Bool.not_eq_true] at hfailed
  rw [if_pos hfailed, List.map_eq_nil_iff] at hpassed
  have hconsistent := policy.consistent
  simp only [PolicyReportFields.validateResultConsistency, bind_eq_ok_iff, ensure_eq_ok_iff]
    at hconsistent
  obtain ⟨_, _, _, _, _, _, _, _, hviolations⟩ := hconsistent
  exact hviolations ⟨hfailed, hpassed⟩

/-- The acceptance test of the TDD evidence, and what was measured for it. -/
structure TddAccepted (H : HashFunction) (task : TaskSpec) (policy : PolicyReport)
    (tdd : TddEvidence) (taskSha256 patch : Sha256) (acceptance : AcceptanceTest) : Prop where
  known : acceptance ∈ task.acceptanceTests
  acceptanceTestId : acceptance.id = tdd.acceptanceTestId
  kind : acceptance.kind = .test
  command : tdd.command = acceptance.command
  testPaths : task.schemaVersion = .v2 → tdd.testPaths = acceptance.testPaths
  redExitCode : tdd.red.exitCode ∈ acceptance.expectedRedExitCodes
  redFingerprint :
    acceptance.expectedRedFingerprintSha256 = some tdd.red.failureFingerprintSha256
  greenExitCode : tdd.green.exitCode = acceptance.expectedExitCode
  redTestPatch : tdd.red.testPatchSha256 = tdd.testPatchSha256
  greenTestPatch : tdd.green.testPatchSha256 = tdd.testPatchSha256
  changed : ∀ path ∈ tdd.testPaths, ∃ file ∈ policy.changedFiles, file.path = path
  manifest : buildTestManifestSha256 H policy tdd.testPaths = .ok (some tdd.testManifestSha256)
  taskId : tdd.taskId = task.taskId
  taskSha256 : tdd.taskSha256 = taskSha256
  baseSha : tdd.baseSha = task.baseSha
  headSha : tdd.headSha = policy.headSha
  patchSha256 : tdd.patchSha256 = patch

theorem acceptanceById_spec {id : Identifier} {acceptance : AcceptanceTest}
    (h : task.acceptanceById id = some acceptance) :
    acceptance ∈ task.acceptanceTests ∧ acceptance.id = id := by
  have hid := List.find?_some h
  exact ⟨List.mem_reverse.mp (List.mem_of_find?_eq_some h), by simpa using hid⟩

/-- The ids of acceptance tests are distinct, so each test is found under its own id. -/
theorem acceptanceById_self {acceptance : AcceptanceTest} (h : acceptance ∈ task.acceptanceTests) :
    task.acceptanceById acceptance.id = some acceptance := by
  cases hfound : task.acceptanceById acceptance.id with
  | none =>
      have hnone := List.find?_eq_none.mp hfound acceptance (List.mem_reverse.mpr h)
      simp at hnone
  | some found =>
      obtain ⟨hmem, hid⟩ := acceptanceById_spec hfound
      rw [List.inj_on_of_nodup_map task.acceptanceIds_nodup hmem h hid]

theorem mem_of_missingTestPaths_eq_nil (h : missingTestPaths policy tdd = []) {path : String}
    (hpath : path ∈ tdd.testPaths) : ∃ file ∈ policy.changedFiles, file.path = path := by
  have hnone := List.filter_eq_nil_iff.mp (sortedText_eq_nil_iff.mp h) path
    (List.mem_dedup.mpr hpath)
  simpa using hnone

theorem tddReasons_eq_nil {patch : Sha256} {manifest : Option Sha256}
    (hpatch : policy.patchSha256 = some patch)
    (hmanifest : buildTestManifestSha256 H policy tdd.testPaths = .ok manifest)
    (hbinding : tddBindingReasons task policy tdd taskSha256 = [])
    (hacceptance : tddAcceptanceReasons task tdd = [])
    (hevidence : tddEvidenceReasons tdd = []) (hpaths : testPathReasons policy tdd = [])
    (hbound : manifestReasons tdd manifest = []) :
    ∃ acceptance, TddAccepted H task policy tdd taskSha256 patch acceptance := by
  unfold tddAcceptanceReasons at hacceptance
  cases hfound : task.acceptanceById tdd.acceptanceTestId with
  | none => simp [hfound] at hacceptance
  | some acceptance =>
  obtain ⟨hknown, hid⟩ := acceptanceById_spec hfound
  simp only [hfound, List.append_eq_nil_iff] at hacceptance
  obtain ⟨⟨⟨hnamed, hred⟩, hfingerprint⟩, hgreen⟩ := hacceptance
  have hkind : acceptance.kind = .test := by
    by_contra hkind
    rw [if_pos hkind] at hnamed
    cases hnamed
  rw [if_neg (not_not.mpr hkind)] at hnamed
  have hcommand : tdd.command = acceptance.command := by
    by_contra hcommand
    rw [if_pos hcommand] at hnamed
    cases hnamed
  rw [if_neg (not_not.mpr hcommand)] at hnamed
  have hnamedPaths := nil_of_ite hnamed
  simp only [tddBindingReasons, List.append_eq_nil_iff] at hbinding
  obtain ⟨⟨⟨⟨hbase, htaskId⟩, htaskSha256⟩, hhead⟩, hbindingPatch⟩ := hbinding
  simp only [tddEvidenceReasons, List.append_eq_nil_iff] at hevidence
  have htestPatch := not_or.mp (nil_of_ite hevidence.1)
  have hbindingPatch := not_not.mp (nil_of_ite hbindingPatch)
  rw [hpatch, Option.some.injEq] at hbindingPatch
  cases manifest with
  | none => simp [manifestReasons] at hbound
  | some expected =>
  have hexpected := not_not.mp (nil_of_ite hbound)
  refine ⟨acceptance, ?_⟩
  constructor
  case known => exact hknown
  case acceptanceTestId => exact hid
  case kind => exact hkind
  case command => exact hcommand
  case testPaths =>
    intro hv2
    by_contra hne
    exact hnamedPaths ⟨hv2, hne⟩
  case redExitCode => exact not_not.mp (nil_of_ite hred)
  case redFingerprint => exact (not_not.mp (nil_of_ite hfingerprint)).symm
  case greenExitCode => exact not_not.mp (nil_of_ite hgreen)
  case redTestPatch => exact not_not.mp htestPatch.1
  case greenTestPatch => exact not_not.mp htestPatch.2
  case changed =>
    intro path hpath
    exact mem_of_missingTestPaths_eq_nil (not_not.mp (nil_of_ite hpaths)) hpath
  case manifest => rw [hmanifest, hexpected]
  case taskId => exact not_not.mp (nil_of_ite htaskId)
  case taskSha256 => exact not_not.mp (nil_of_ite htaskSha256)
  case baseSha => exact not_not.mp (nil_of_ite hbase)
  case headSha => exact not_not.mp (nil_of_ite hhead)
  case patchSha256 => exact hbindingPatch

/-- The one gate of an acceptance test: it passed, with the bindings of the task and the policy. -/
structure GateAccepted (task : TaskSpec) (policy : PolicyReport) (taskSha256 patch : Sha256)
    (acceptance : AcceptanceTest) (gate : GateResult) : Prop where
  acceptanceTestId : gate.acceptanceTestId = acceptance.id
  passed : gate.passed = true
  command : gate.command = acceptance.command
  expectedExitCode : gate.expectedExitCode = acceptance.expectedExitCode
  taskId : gate.taskId = task.taskId
  taskSha256 : gate.taskSha256 = taskSha256
  headSha : gate.headSha = policy.headSha
  patchSha256 : gate.patchSha256 = patch

theorem gateReasons_eq_nil {patch : Sha256} {gate : GateResult} {acceptance : AcceptanceTest}
    (hpatch : policy.patchSha256 = some patch)
    (hacceptance : task.acceptanceById gate.acceptanceTestId = some acceptance)
    (h : gateReasons task policy taskSha256 gate = []) :
    GateAccepted task policy taskSha256 patch acceptance gate := by
  simp only [gateReasons, hacceptance, List.append_eq_nil_iff] at h
  obtain ⟨⟨⟨⟨htaskId, htaskSha256⟩, hhead⟩, hbinding⟩, ⟨hcommand, hexpected⟩, hpassed⟩ := h
  have hbinding := not_not.mp (nil_of_ite hbinding)
  rw [hpatch, Option.some.injEq] at hbinding
  constructor
  · exact (acceptanceById_spec hacceptance).2.symm
  · simpa using nil_of_ite hpassed
  · exact not_not.mp (nil_of_ite hcommand)
  · exact not_not.mp (nil_of_ite hexpected)
  · exact not_not.mp (nil_of_ite htaskId)
  · exact not_not.mp (nil_of_ite htaskSha256)
  · exact not_not.mp (nil_of_ite hhead)
  · exact hbinding

/-- A value that is counted once is the key of exactly one element. -/
theorem filter_eq_singleton_of_count {α β : Type} [DecidableEq β] {key : α → β} {values : List α}
    {k : β} (h : (values.map key).count k = 1) :
    ∃ a, values.filter (fun b => key b = k) = [a] := by
  rw [List.count, List.countP_map, List.countP_eq_length_filter] at h
  obtain ⟨a, ha⟩ := List.length_eq_one_iff.mp h
  refine ⟨a, ?_⟩
  rw [← ha]
  refine List.filter_congr fun b _ => ?_
  simp [beq_eq_decide]

/-- What the ids of the gates are when none is missing, unknown or repeated. -/
structure GateSetAccepted (task : TaskSpec) (gates : List GateResult) : Prop where
  unique : ∀ acceptance ∈ task.acceptanceTests,
    ∃ gate, gates.filter (fun gate => gate.acceptanceTestId = acceptance.id) = [gate]
  known : ∀ gate ∈ gates, ∃ acceptance ∈ task.acceptanceTests,
    acceptance.id = gate.acceptanceTestId

theorem gateSetReasons_eq_nil (h : gateSetReasons task gates = []) : GateSetAccepted task gates := by
  simp only [gateSetReasons, List.append_eq_nil_iff] at h
  obtain ⟨⟨hmissing, hunknown⟩, hduplicate⟩ := h
  have hmissing := sortedText_eq_nil_iff.mp (not_not.mp (nil_of_ite hmissing))
  have hunknown := sortedText_eq_nil_iff.mp (not_not.mp (nil_of_ite hunknown))
  have hduplicate := sortedText_eq_nil_iff.mp (not_not.mp (nil_of_ite hduplicate))
  rw [List.filter_eq_nil_iff] at hmissing hunknown hduplicate
  constructor
  case unique =>
    intro acceptance hacceptance
    have hid : acceptance.id.text ∈ gateIds gates := by
      simpa using hmissing acceptance.id.text
        (List.mem_dedup.mpr (List.mem_map_of_mem hacceptance))
    have hcount : (gateIds gates).count acceptance.id.text = 1 := by
      simpa using hduplicate acceptance.id.text (List.mem_dedup.mpr hid)
    obtain ⟨gate, hgate⟩ := filter_eq_singleton_of_count hcount
    exact ⟨gate, by simpa using hgate⟩
  case known =>
    intro gate hgate
    have hid : gate.acceptanceTestId.text ∈ acceptanceIds task := by
      simpa using hunknown gate.acceptanceTestId.text
        (List.mem_dedup.mpr (List.mem_map_of_mem hgate))
    simpa [acceptanceIds] using hid

/-- An accepting review of the judged candidate, with nothing that blocks it. -/
structure ReviewAccepted (task : TaskSpec) (policy : PolicyReport) (taskSha256 patch : Sha256)
    (review : ReviewReport) : Prop where
  decision : review.decision = .accept
  taskId : review.taskId = task.taskId
  taskSha256 : review.taskSha256 = taskSha256
  baseSha : review.baseSha = task.baseSha
  headSha : review.headSha = policy.headSha
  patchSha256 : review.patchSha256 = patch
  promptSha256 : review.promptSha256 = task.reviewPrompts.expected review.role
  notBlocking : ∀ finding ∈ review.findings,
    finding.severity ≠ .critical ∧ finding.severity ≠ .high
  requirements : ∀ finding ∈ review.findings, ∀ id, finding.requirementId = some id →
    ∃ requirement ∈ task.requirements, requirement.text = id

theorem findingReasons_eq_nil {role : ReviewRole} {finding : Finding} {id : String}
    (h : findingReasons task role finding = []) (hid : finding.requirementId = some id) :
    ∃ requirement ∈ task.requirements, requirement.text = id := by
  simp only [findingReasons, hid] at h
  have hknown := not_not.mp (nil_of_ite h)
  simpa [requirementIds] using hknown

theorem reviewReasons_eq_nil {patch : Sha256} {review : ReviewReport}
    (hpatch : policy.patchSha256 = some patch)
    (h : reviewReasons task policy taskSha256 review = []) :
    ReviewAccepted task policy taskSha256 patch review := by
  simp only [reviewReasons, List.append_eq_nil_iff, List.flatMap_eq_nil_iff] at h
  obtain ⟨⟨⟨⟨⟨⟨⟨htaskId, htaskSha256⟩, hbase⟩, hhead⟩, hbinding⟩, hprompt⟩, hdecision⟩,
    hfindings⟩ := h
  have hbinding := not_not.mp (nil_of_ite hbinding)
  rw [hpatch, Option.some.injEq] at hbinding
  have haccept := not_not.mp (nil_of_ite hdecision)
  constructor
  case decision => exact haccept
  case taskId => exact not_not.mp (nil_of_ite htaskId)
  case taskSha256 => exact not_not.mp (nil_of_ite htaskSha256)
  case baseSha => exact not_not.mp (nil_of_ite hbase)
  case headSha => exact not_not.mp (nil_of_ite hhead)
  case patchSha256 => exact hbinding
  case promptSha256 => exact not_not.mp (nil_of_ite hprompt)
  case notBlocking =>
    intro finding hfinding
    simpa [Finding.isBlocking] using review.accepting haccept finding hfinding
  case requirements =>
    intro finding hfinding id hid
    exact findingReasons_eq_nil (hfindings finding hfinding) hid

theorem roleReasons_eq_nil (h : roleReasons reviews = []) (role : ReviewRole) :
    (reviewRoles reviews).count role = 1 := by
  simp only [roleReasons, List.append_eq_nil_iff] at h
  have hmissing := sortedText_eq_nil_iff.mp (not_not.mp (nil_of_ite h.1))
  have hduplicate := sortedText_eq_nil_iff.mp (not_not.mp (nil_of_ite h.2))
  rw [List.map_eq_nil_iff, List.filter_eq_nil_iff] at hmissing hduplicate
  have hrole : role ∈ reviewRoles reviews := by
    have hrequired : role ∈ requiredRoles := by cases role <;> decide
    simpa using hmissing role hrequired
  simpa using hduplicate role (List.mem_dedup.mpr hrole)

/-- There are two roles, so one review of each makes two reviews. -/
theorem length_eq_two_of_roles (h : ∀ role, (reviewRoles reviews).count role = 1) :
    reviews.length = 2 := by
  have hcount : ∀ roles : List ReviewRole,
      roles.length = roles.count .reviewer + roles.count .adversary := by
    intro roles
    induction roles with
    | nil => rfl
    | cons role roles ih =>
        cases role
        · rw [List.count_cons_self, List.count_cons_of_ne (by decide), List.length_cons]
          omega
        · rw [List.count_cons_of_ne (by decide), List.count_cons_self, List.length_cons]
          omega
  have hlength := hcount (reviewRoles reviews)
  rw [h, h, reviewRoles, List.length_map] at hlength
  exact hlength

/-- Two values with two different images have images without repetition. -/
theorem nodup_of_dedup_length {α β : Type} [DecidableEq β] {f : α → β} {values : List α}
    (hlength : values.length = 2) (h : (values.map f).dedup.length = 2) :
    (values.map f).Nodup := by
  have hsame : (values.map f).dedup = values.map f := by
    refine (List.dedup_sublist (values.map f)).eq_of_length ?_
    rw [h, List.length_map, hlength]
  rw [← hsame]
  exact List.nodup_dedup _

/-- The two reviews of a candidate. -/
structure ReviewsAccepted (task : TaskSpec) (policy : PolicyReport) (taskSha256 patch : Sha256)
    (reviews : List ReviewReport) : Prop where
  two : reviews.length = 2
  unique : ∀ role, ∃ review, reviews.filter (fun review => review.role = role) = [review]
  accepted : ∀ review ∈ reviews, ReviewAccepted task policy taskSha256 patch review
  reviewerIds : (reviews.map fun review => review.reviewerId).Nodup
  sessionIds : (reviews.map fun review => review.sessionId).Nodup

theorem reviewsAccepted_of_nil {patch : Sha256} (hpatch : policy.patchSha256 = some patch)
    (hroles : roleReasons reviews = [])
    (hreviews : reviews.flatMap (reviewReasons task policy taskSha256) = [])
    (hdistinct : distinctReasons reviews = []) :
    ReviewsAccepted task policy taskSha256 patch reviews := by
  have hcount := roleReasons_eq_nil hroles
  have htwo := length_eq_two_of_roles hcount
  rw [distinctReasons, if_pos htwo, List.append_eq_nil_iff] at hdistinct
  constructor
  case two => exact htwo
  case unique => exact fun role => filter_eq_singleton_of_count (hcount role)
  case accepted =>
    intro review hreview
    exact reviewReasons_eq_nil hpatch (List.flatMap_eq_nil_iff.mp hreviews review hreview)
  case reviewerIds => exact nodup_of_dedup_length htwo (not_not.mp (nil_of_ite hdistinct.1))
  case sessionIds => exact nodup_of_dedup_length htwo (not_not.mp (nil_of_ite hdistinct.2))

/-! ## The verdict -/

/-- Everything that holds of a candidate that is left to a human decision. -/
structure HumanReviewable (H : HashFunction) (task : TaskSpec) (policy : PolicyReport)
    (reviews : List ReviewReport) (gates : List GateResult) (tdd : TddEvidence)
    (taskSha256 patch : Sha256) : Prop where
  policyAccepted : PolicyAccepted task policy taskSha256 patch
  uniqueGates : ∀ acceptance ∈ task.acceptanceTests, ∃ gate,
    gates.filter (fun gate => gate.acceptanceTestId = acceptance.id) = [gate] ∧
      GateAccepted task policy taskSha256 patch acceptance gate
  knownGates : ∀ gate ∈ gates, ∃ acceptance ∈ task.acceptanceTests,
    GateAccepted task policy taskSha256 patch acceptance gate
  reviewsAccepted : ReviewsAccepted task policy taskSha256 patch reviews
  tddAccepted : ∃ acceptance, TddAccepted H task policy tdd taskSha256 patch acceptance

theorem gateAccepted_of_nil {patch : Sha256} (hpatch : policy.patchSha256 = some patch)
    (hgates : gates.flatMap (gateReasons task policy taskSha256) = []) {gate : GateResult}
    (hgate : gate ∈ gates) {acceptance : AcceptanceTest} (hknown : acceptance ∈ task.acceptanceTests)
    (hid : acceptance.id = gate.acceptanceTestId) :
    GateAccepted task policy taskSha256 patch acceptance gate := by
  refine gateReasons_eq_nil hpatch ?_ (List.flatMap_eq_nil_iff.mp hgates gate hgate)
  rw [← hid]
  exact acceptanceById_self hknown

theorem humanReviewable_of_nil {manifest : Option Sha256}
    (hmanifest : buildTestManifestSha256 H policy tdd.testPaths = .ok manifest)
    (h : judgeReasons task policy reviews gates tdd taskSha256 manifest = []) :
    ∃ patch, HumanReviewable H task policy reviews gates tdd taskSha256 patch := by
  simp only [judgeReasons, List.append_eq_nil_iff] at h
  obtain ⟨⟨⟨⟨⟨⟨⟨⟨⟨⟨hpolicy, hbinding⟩, hacceptance⟩, hevidence⟩, hpaths⟩, hbound⟩, hset⟩, hgates⟩,
    hroles⟩, hreviews⟩, hdistinct⟩ := h
  obtain ⟨patch, hpolicy⟩ := policyReasons_eq_nil hpolicy
  have hset := gateSetReasons_eq_nil hset
  refine ⟨patch, ?_⟩
  constructor
  case policyAccepted => exact hpolicy
  case uniqueGates =>
    intro acceptance hknown
    obtain ⟨gate, hgate⟩ := hset.unique acceptance hknown
    have hmem : gate ∈ gates ∧ gate.acceptanceTestId = acceptance.id := by
      have hfiltered : gate ∈ gates.filter (fun gate => gate.acceptanceTestId = acceptance.id) := by
        rw [hgate]
        exact List.mem_singleton_self gate
      simpa using hfiltered
    exact ⟨gate, hgate, gateAccepted_of_nil hpolicy.patch hgates hmem.1 hknown hmem.2.symm⟩
  case knownGates =>
    intro gate hgate
    obtain ⟨acceptance, hknown, hid⟩ := hset.known gate hgate
    exact ⟨acceptance, hknown, gateAccepted_of_nil hpolicy.patch hgates hgate hknown hid⟩
  case reviewsAccepted => exact reviewsAccepted_of_nil hpolicy.patch hroles hreviews hdistinct
  case tddAccepted =>
    exact tddReasons_eq_nil hpolicy.patch hmanifest hbinding hacceptance hevidence hpaths hbound

/-- Only a review that does not accept has a blocking finding, and its decision is a reason. -/
theorem judgeReasons_ne_nil_of_blockers {manifest : Option Sha256}
    (h : judgeBlockers reviews ≠ []) :
    judgeReasons task policy reviews gates tdd taskSha256 manifest ≠ [] := by
  intro hnil
  simp only [judgeReasons, List.append_eq_nil_iff] at hnil
  have hreviews := List.flatMap_eq_nil_iff.mp hnil.1.2
  apply h
  rw [judgeBlockers, List.flatMap_eq_nil_iff]
  intro review hreview
  have hreasons := hreviews review hreview
  simp only [reviewReasons, List.append_eq_nil_iff] at hreasons
  have haccept := not_not.mp (nil_of_ite hreasons.1.2)
  rw [reviewBlockers, List.map_eq_nil_iff, List.filter_eq_nil_iff]
  intro finding hfinding
  simpa using review.accepting haccept finding hfinding

theorem eraseDups_eq_nil_iff {texts : List String} : texts.eraseDups = [] ↔ texts = [] := by
  cases texts with
  | nil => simp
  | cons text texts => simp [List.eraseDups_cons]

theorem Verdict.validate_of_consistent {fields : VerdictFields}
    (h : fields.validateVerdict = .ok ⟨⟩) : Verdict.validate fields = .ok ⟨fields, h⟩ := by
  unfold Verdict.validate
  split
  · rfl
  · next error herror =>
      rw [h] at herror
      cases herror

theorem validateVerdict_of_fail {fields : VerdictFields} (hstatus : fields.status = .fail)
    (hreasons : fields.reasons ≠ []) : fields.validateVerdict = .ok ⟨⟩ := by
  simp [VerdictFields.validateVerdict, hstatus, hreasons, ensure_of]

theorem validateVerdict_of_humanReview {fields : VerdictFields}
    (hstatus : fields.status = .humanReview) (hgates : fields.gates ≠ [])
    (hpassed : ∀ gate ∈ fields.gates, gate.passed = true) (hblockers : fields.blockingFindings = [])
    (hreasons : fields.reasons ≠ []) : fields.validateVerdict = .ok ⟨⟩ := by
  have hnone : ¬ ∃ gate ∈ fields.gates, gate.passed = false := by
    rintro ⟨gate, hgate, hfailed⟩
    rw [hpassed gate hgate] at hfailed
    cases hfailed
  simp [VerdictFields.validateVerdict, hstatus, hgates, hblockers, hreasons, ensure_of, hnone]

theorem judge_of_consistent {manifest : Option Sha256} {reasons : List String}
    (hmanifest : buildTestManifestSha256 H policy tdd.testPaths = .ok manifest)
    (hreasons : (judgeReasons task policy reviews gates tdd taskSha256 manifest).eraseDups = reasons)
    (h : (verdictFields task policy reviews gates taskSha256 reasons).validateVerdict = .ok ⟨⟩) :
    judge H task policy reviews gates tdd taskSha256 =
      .ok ⟨verdictFields task policy reviews gates taskSha256 reasons, h⟩ := by
  subst hreasons
  simp only [judge, hmanifest, ok_bind, Verdict.validate_of_consistent h]
  rfl

variable (task policy reviews gates taskSha256) in
/-- With a reason the verdict is a failing one. -/
theorem verdictFields_of_reasons {reasons : List String} (h : reasons ≠ []) :
    (verdictFields task policy reviews gates taskSha256 reasons).status = .fail ∧
      (verdictFields task policy reviews gates taskSha256 reasons).reasons = reasons := by
  have houtcome : judgeOutcome reviews reasons (judgeBlockers reviews).eraseDups =
      (.fail, reasons) := if_pos (.inl h)
  simp only [verdictFields, houtcome, and_self]

variable (task policy gates taskSha256) in
/-- Without a reason or a blocker, one of two texts asks for a human decision. -/
theorem verdictFields_of_nil (h : judgeBlockers reviews = []) :
    (verdictFields task policy reviews gates taskSha256 []).status = .humanReview ∧
      (verdictFields task policy reviews gates taskSha256 []).blockingFindings = [] ∧
      (verdictFields task policy reviews gates taskSha256 []).reasons ≠ [] := by
  simp only [verdictFields, h, eraseDups_eq_nil_iff.mpr, judgeOutcome, ne_eq, not_true_eq_false,
    or_self, if_false]
  split_ifs <;> simp

/-- `judge` returns a verdict for every input. It never passes a candidate, and leaves it to a
human decision only when every check on it has succeeded. -/
theorem judge_failClosed (H : HashFunction) (task : TaskSpec) (policy : PolicyReport)
    (reviews : List ReviewReport) (gates : List GateResult) (tdd : TddEvidence)
    (taskSha256 : Sha256) :
    ∃ verdict, judge H task policy reviews gates tdd taskSha256 = .ok verdict ∧
      verdict.status ≠ .pass ∧
      (verdict.status = .humanReview →
        ∃ patch, HumanReviewable H task policy reviews gates tdd taskSha256 patch) := by
  obtain ⟨manifest, hmanifest⟩ := buildTestManifestSha256_ok H policy tdd.testPaths
  by_cases hreasons : judgeReasons task policy reviews gates tdd taskSha256 manifest = []
  case pos =>
    obtain ⟨patch, hreviewable⟩ := humanReviewable_of_nil hmanifest hreasons
    have hblockers : judgeBlockers reviews = [] := by
      by_contra hblockers
      exact judgeReasons_ne_nil_of_blockers hblockers hreasons
    obtain ⟨hstatus, hnoBlockers, htext⟩ := verdictFields_of_nil task policy gates taskSha256
      hblockers
    have hgates : gates ≠ [] := by
      obtain ⟨acceptance, hacceptance⟩ := List.exists_mem_of_ne_nil _ task.acceptanceTests_ne_nil
      obtain ⟨gate, hgate, -⟩ := hreviewable.uniqueGates acceptance hacceptance
      rintro rfl
      cases hgate
    have hpassed : ∀ gate ∈ gates, gate.passed = true := by
      intro gate hgate
      obtain ⟨acceptance, -, haccepted⟩ := hreviewable.knownGates gate hgate
      exact haccepted.passed
    have hvalid := validateVerdict_of_humanReview hstatus hgates hpassed hnoBlockers htext
    refine ⟨_, judge_of_consistent hmanifest (eraseDups_eq_nil_iff.mpr hreasons) hvalid, ?_, ?_⟩
    · rw [hstatus]
      decide
    · intro _
      exact ⟨patch, hreviewable⟩
  case neg =>
    have hdistinct := mt eraseDups_eq_nil_iff.mp hreasons
    obtain ⟨hstatus, htext⟩ := verdictFields_of_reasons task policy reviews gates taskSha256
      hdistinct
    have hvalid := validateVerdict_of_fail hstatus (by rwa [htext])
    refine ⟨_, judge_of_consistent hmanifest rfl hvalid, ?_, ?_⟩
    · rw [hstatus]
      decide
    · intro hhuman
      rw [hstatus] at hhuman
      cases hhuman

end
end AmazonSimilarSearch.Review
