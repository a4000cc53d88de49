import AmazonSimilarSearch.Foundation.Validation
import AmazonSimilarSearch.Review.RepoPatterns

/-!
# The task of a release

`TaskSpec.model_validate` on the value that `json.loads` returns. The models are
strict: a value of another type is a complaint, and so is a field that a model
does not have. `IndexError` is no `ValueError`, so it leaves the validation.
-/
namespace AmazonSimilarSearch.Release
open Foundation
open Attestation (isTaskId)
open Review (Identifier AcceptanceKind TaskSchema ReviewPromptDigests CandidateCommitPolicy
  DiffLimits pathParts validateRepoPattern)

/-! ## Requirements -/

structure Requirement where
  id : Identifier
  text : String

def Requirement.validate : Json → Validation Requirement :=
  .object ["id", "text"] fun fields =>
    Requirement.mk <$> .field fields "id" (.matching isTaskId)
      <*> .field fields "text" (.boundedText 1 2000 fun _ => true)

/-! ## Acceptance tests -/

/-- The loop over `PurePosixPath(path).parts[0]`, which a path without parts does not have. -/
def checkBelowTests : List String → Validation Unit
  | [] => .accepted ()
  | path :: paths => match pathParts path with
    | [] => .raised
    | part :: _ => if casefold part = "tests" then checkBelowTests paths else .refused

/-- The path is relative, without `..`, and starts in a directory that folds to `tests`. -/
structure IsTestPattern (path : String) : Prop where
  pattern : validateRepoPattern path = .ok path
  below : (pathParts path).head?.map casefold = some "tests"

theorem checkBelowTests_eq_accepted_iff {paths : List String} {u : Unit} :
    checkBelowTests paths = .accepted u ↔
      ∀ path ∈ paths, (pathParts path).head?.map casefold = some "tests" := by
  induction paths with
  | nil => simp [checkBelowTests]
  | cons path paths ih =>
      rw [checkBelowTests, List.forall_mem_cons]
      cases hparts : pathParts path with
      | nil => simp
      | cons part parts =>
          by_cases hpart : casefold part = "tests"
          · simp [hpart, ih]
          · simp [hpart]

/-- The paths of an acceptance test. -/
structure TestPaths where
  paths : List String
  patterns : ∀ path ∈ paths, IsTestPattern path
  nodup : paths.Nodup
  length_le : paths.length ≤ 100
  sorted : sortedText paths = paths

structure AcceptanceFields where
  id : Identifier
  kind : AcceptanceKind
  command : List String
  expectedExitCode : ℤ
  expectedRedExitCodes : List ℤ
  expectedRedFingerprintSha256 : Option Sha256
  testPaths : TestPaths

/-- `validate_tdd_contract` -/
def AcceptanceFields.Contract (fields : AcceptanceFields) : Prop :=
  fields.expectedRedExitCodes.Nodup ∧
    (∀ code ∈ fields.expectedRedExitCodes, 0 ≤ code ∧ code ≤ 255) ∧
    (fields.kind = .test → fields.expectedRedExitCodes ≠ [] ∧
      fields.expectedRedFingerprintSha256 ≠ none ∧
      fields.expectedExitCode ∉ fields.expectedRedExitCodes) ∧
    (fields.kind = .quality → fields.expectedRedExitCodes = [] ∧
      fields.expectedRedFingerprintSha256 = none ∧ fields.testPaths.paths = [])

instance (fields : AcceptanceFields) : Decidable fields.Contract :=
  inferInstanceAs (Decidable (_ ∧ _))

structure AcceptanceTest extends AcceptanceFields where
  contract : toAcceptanceFields.Contract

/-- `validate_command` -/
def validateCommand (value : List String) : Validation (List String) :=
  .check (∀ argument ∈ value, argument ≠ "" ∧ '\x00' ∉ argument.toList) value

theorem mapM_validateRepoPattern {value paths : List String} :
    value.mapM validateRepoPattern = .ok paths ↔
      paths = value ∧ ∀ path ∈ value, validateRepoPattern path = .ok path := by
  rw [mapM_eq_ok_iff]
  induction value generalizing paths with
  | nil => simp
  | cons path value ih =>
      cases paths with
      | nil => simp
      | cons accepted paths =>
          rw [List.forall₂_cons, ih, List.forall_mem_cons]
          constructor
          · rintro ⟨hpath, rfl, hpaths⟩
            obtain ⟨hform, hup, hcontrol, rfl⟩ := Review.validateRepoPattern_eq_ok_iff.mp hpath
            exact ⟨rfl, hpath, hpaths⟩
          · rintro ⟨heq, hpath, hpaths⟩
            cases heq
            exact ⟨hpath, rfl, hpaths⟩

theorem sortedText_sortedText (texts : List String) :
    sortedText (sortedText texts) = sortedText texts :=
  sortedText_eq_of_perm (sortedBy_perm id texts)

theorem mem_sortedText {texts : List String} {text : String} :
    text ∈ sortedText texts ↔ text ∈ texts :=
  (sortedBy_perm id texts).mem_iff

/-- `validate_test_paths`, after the field's own bound. -/
def validateTestPaths (value : List String) : Validation TestPaths :=
  if hlength : value.length ≤ 100 then
    match hpatterns : value.mapM validateRepoPattern with
    | .error _ => .refused
    | .ok paths =>
        if hnodup : paths.Nodup then
          match hbelow : checkBelowTests paths with
          | .accepted _ => .accepted
              { paths := sortedText paths
                patterns := fun path hmem => by
                  obtain ⟨rfl, hall⟩ := mapM_validateRepoPattern.mp hpatterns
                  have hpath := mem_sortedText.mp hmem
                  exact ⟨hall path hpath, checkBelowTests_eq_accepted_iff.mp hbelow path hpath⟩
                nodup := (sortedBy_perm id paths).nodup_iff.mpr hnodup
                length_le := by
                  rw [(mapM_validateRepoPattern.mp hpatterns).1]
                  exact (sortedBy_perm id value).length_eq.trans_le hlength
                sorted := sortedText_sortedText paths }
          | .refused => .refused
          | .raised => .raised
        else .refused
  else .refused

theorem validateTestPaths_eq_raised_iff {value : List String} :
    validateTestPaths value = .raised ↔ value.length ≤ 100 ∧
      (∀ path ∈ value, validateRepoPattern path = .ok path) ∧ value.Nodup ∧
      checkBelowTests value = .raised := by
  rw [validateTestPaths]
  split
  · next hlength =>
      split
      · next error herror =>
          refine iff_of_false (fun h => nomatch h) fun ⟨_, hall, _⟩ => ?_
          rw [mapM_validateRepoPattern.mpr ⟨rfl, hall⟩] at herror
          cases herror
      · next paths hpaths =>
          obtain ⟨rfl, hall⟩ := mapM_validateRepoPattern.mp hpaths
          split
          · next hnodup =>
              split
              · next u hbelow => simp [hbelow]
              · next hbelow => simp [hbelow]
              · next hbelow => exact iff_of_true rfl ⟨hlength, hall, hnodup, hbelow⟩
          · next hnodup => simp [hnodup]
  · next hlength => simp [hlength]

/-- The paths that are kept are the given ones, sorted. -/
theorem paths_of_validateTestPaths {value : List String} {accepted : TestPaths}
    (h : validateTestPaths value = .accepted accepted) :
    accepted.paths = sortedText value := by
  rw [validateTestPaths] at h
  split at h
  · split at h
    · cases h
    · next paths hpaths =>
        obtain ⟨rfl, -⟩ := mapM_validateRepoPattern.mp hpaths
        split at h
        · split at h
          · cases h
            rfl
          · cases h
          · cases h
        · cases h
  · cases h

def TestPaths.empty : TestPaths where
  paths := []
  patterns := fun _ hmem => absurd hmem List.not_mem_nil
  nodup := List.nodup_nil
  length_le := Nat.zero_le 100
  sorted := rfl

def testPathsField (value : Json) : Validation TestPaths :=
  (Validation.list 0 100 .text value).andThen validateTestPaths

def AcceptanceFields.read (fields : Fields) : Validation AcceptanceFields :=
  AcceptanceFields.mk <$> .field fields "id" (.matching isTaskId)
    <*> .field fields "kind" (.literal [("test", .test), ("quality", .quality)])
    <*> .field fields "command" (fun value =>
      (Validation.list 1 64 .text value).andThen validateCommand)
    <*> .fieldOr fields "expected_exit_code" 0 (.integer 0 255)
    <*> .fieldOr fields "expected_red_exit_codes" [] (.list 0 16 .anyInteger)
    <*> .fieldOr fields "expected_red_fingerprint_sha256" none (.nullable (.digest 64))
    <*> .fieldOr fields "test_paths" .empty testPathsField

def AcceptanceTest.validate (value : Json) : Validation AcceptanceTest :=
  (Validation.object ["id", "kind", "command", "expected_exit_code", "expected_red_exit_codes",
    "expected_red_fingerprint_sha256", "test_paths"] AcceptanceFields.read value).andThen
    fun fields => if h : fields.Contract then .accepted ⟨fields, h⟩ else .refused

/-! ## The other models -/

def readReviewPrompts : Json → Validation ReviewPromptDigests :=
  .object ["reviewer_sha256", "adversary_sha256"] fun fields =>
    ReviewPromptDigests.mk <$> .field fields "reviewer_sha256" (.digest 64)
      <*> .field fields "adversary_sha256" (.digest 64)

/-- `\s` of the patterns, which is Unicode's `White_Space`. -/
def isWhiteSpace (c : Char) : Bool :=
  let code := c.toNat
  (9 ≤ code && code ≤ 13) || code == 32 || code == 0x85 || code == 0xa0 || code == 0x1680 ||
    (0x2000 ≤ code && code ≤ 0x200a) || code == 0x2028 || code == 0x2029 || code == 0x202f ||
    code == 0x205f || code == 0x3000

/-- `^[^\r\n]+$` -/
def isMessage (text : String) : Bool :=
  text ≠ "" && text.toList.all fun c => c ≠ '\r' && c ≠ '\n'

/-- `^[^<>\r\n]+$` -/
def isAuthorName (text : String) : Bool :=
  isMessage text && text.toList.all fun c => c ≠ '<' && c ≠ '>'

/-- `^[^<>\s@]+@[^<>\s@]+$` -/
def isAuthorEmail (text : String) : Bool :=
  match splitAt '@' text.toList with
  | [name, domain] => name ≠ [] && domain ≠ [] && (name ++ domain).all fun c =>
      c ≠ '<' && c ≠ '>' && !isWhiteSpace c
  | _ => false

/-- `^[+-](?:0[0-9]|1[0-4])[0-5][0-9]$` -/
def isTimezone (text : String) : Bool :=
  match text.toList with
  | [sign, a, b, c, d] => (sign = '+' || sign = '-') &&
      ((a = '0' && isDigitAscii b) || (a = '1' && '0' ≤ b && b ≤ '4')) &&
      ('0' ≤ c && c ≤ '5') && isDigitAscii d
  | _ => false

def readCandidateCommit : Json → Validation CandidateCommitPolicy :=
  .object ["message", "author_name", "author_email", "timestamp", "timezone"] fun fields =>
    CandidateCommitPolicy.mk <$> .field fields "message" (.boundedText 1 128 isMessage)
      <*> .field fields "author_name" (.boundedText 1 128 isAuthorName)
      <*> .field fields "author_email" (.boundedText 3 254 isAuthorEmail)
      <*> .field fields "timestamp" (.integer 0 4102444800)
      <*> .field fields "timezone" (.boundedText 5 5 isTimezone)

/-- `validate_byte_limits` -/
def validateByteLimits (limits : ℕ × ℕ × ℕ × ℕ) : Validation DiffLimits :=
  if h : limits.2.2.1 ≤ limits.2.2.2
  then .accepted ⟨limits.1, limits.2.1, limits.2.2.1, limits.2.2.2, h⟩ else .refused

def readLimits (value : Json) : Validation DiffLimits :=
  (Validation.object ["max_changed_files", "max_added_lines", "max_file_bytes", "max_total_bytes"]
    (fun fields => (fun files lines file total => (files, lines, file, total))
      <$> .field fields "max_changed_files" (.natural 1 500)
      <*> .field fields "max_added_lines" (.natural 0 100000)
      <*> .fieldOr fields "max_file_bytes" 2000000 (.natural 1 100000000)
      <*> .fieldOr fields "max_total_bytes" 10000000 (.natural 1 500000000)) value).andThen
    validateByteLimits

/-! ## The task -/

inductive NetworkPolicy where
  | deny
  deriving DecidableEq, Repr

structure TaskFields where
  schemaVersion : TaskSchema
  taskId : Identifier
  baseSha : LowerHex 40
  trustedHarnessSha256 : Sha256
  objective : String
  requirements : List Requirement
  reviewPrompts : ReviewPromptDigests
  candidateCommit : CandidateCommitPolicy
  acceptanceTests : List AcceptanceTest
  allowedPaths : List String
  deniedPaths : List String
  limits : DiffLimits
  networkPolicy : NetworkPolicy
  outOfScope : List String

/-- `validate_unique_ids` -/
def TaskFields.Contract (fields : TaskFields) : Prop :=
  (fields.requirements.map Requirement.id).Nodup ∧
    (fields.acceptanceTests.map fun test => test.id).Nodup ∧
    (fields.schemaVersion = .v2 → ∀ test ∈ fields.acceptanceTests, test.kind = .test →
      test.testPaths.paths ≠ [])

instance (fields : TaskFields) : Decidable fields.Contract :=
  inferInstanceAs (Decidable (_ ∧ _))

structure TaskSpec extends TaskFields where
  contract : toTaskFields.Contract

/-- `validate_patterns` -/
def validatePatterns (value : List String) : Validation (List String) :=
  match value.mapM validateRepoPattern with
  | .error _ => .refused
  | .ok patterns => .check patterns.Nodup patterns

/-- `validate_out_of_scope` -/
def validateOutOfScope (value : List String) : Validation (List String) :=
  .check (∀ item ∈ value, strip item ≠ "") value

def TaskFields.read (fields : Fields) : Validation TaskFields :=
  TaskFields.mk <$> .field fields "schema_version" (.literal [("1.0", .v1), ("2.0", .v2)])
    <*> .field fields "task_id" (.matching isTaskId)
    <*> .field fields "base_sha" (.digest 40)
    <*> .field fields "trusted_harness_sha256" (.digest 64)
    <*> .field fields "objective" (.boundedText 1 4000 fun _ => true)
    <*> .field fields "requirements" (.list 1 100 Requirement.validate)
    <*> .field fields "review_prompts" readReviewPrompts
    <*> .field fields "candidate_commit" readCandidateCommit
    <*> .field fields "acceptance_tests" (.list 1 100 AcceptanceTest.validate)
    <*> .field fields "allowed_paths" (fun value =>
      (Validation.list 1 100 .text value).andThen validatePatterns)
    <*> .field fields "denied_paths" (fun value =>
      (Validation.list 1 100 .text value).andThen validatePatterns)
    <*> .field fields "limits" readLimits
    <*> .field fields "network_policy" (.literal [("deny", .deny)])
    <*> .fieldOr fields "out_of_scope" [] (fun value =>
      (Validation.list 0 100 .text value).andThen validateOutOfScope)

/-- `TaskSpec.model_validate` -/
def TaskSpec.modelValidate (value : Json) : Validation TaskSpec :=
  (Validation.object ["schema_version", "task_id", "base_sha", "trusted_harness_sha256",
    "objective", "requirements", "review_prompts", "candidate_commit", "acceptance_tests", "allowed_paths",
    "denied_paths", "limits", "network_policy", "out_of_scope"] TaskFields.read value).andThen
    fun fields => if h : fields.Contract then .accepted ⟨fields, h⟩ else .refused

/-! ## When the validation raises -/

/-- A value that is a list of these texts. -/
def IsTexts (value : Json) (texts : List String) : Prop := value = .arr (texts.map .str)

theorem forall₂_text_iff {items : List Json} {texts : List String} :
    List.Forall₂ (fun item text => Validation.text item = .accepted text) items texts ↔
      items = texts.map .str := by
  induction items generalizing texts with
  | nil => cases texts <;> simp
  | cons item items ih =>
      cases texts with
      | nil => simp
      | cons text texts =>
          rw [List.forall₂_cons, ih, List.map_cons, List.cons.injEq]
          cases item <;> simp [Validation.text]

theorem list_text_eq_accepted_iff {low high : ℕ} {value : Json} {texts : List String} :
    Validation.list low high .text value = .accepted texts ↔
      IsTexts value texts ∧ low ≤ texts.length ∧ texts.length ≤ high := by
  rw [Validation.list_eq_accepted_iff]
  simp only [forall₂_text_iff, IsTexts]
  constructor
  · rintro ⟨_, rfl, hlow, hhigh, rfl⟩
    rw [List.length_map] at hlow hhigh
    exact ⟨rfl, hlow, hhigh⟩
  · rintro ⟨rfl, hlow, hhigh⟩
    exact ⟨_, rfl, by rwa [List.length_map], by rwa [List.length_map], rfl⟩

theorem testPathsField_eq_raised_iff {value : Json} :
    testPathsField value = .raised ↔ ∃ texts, IsTexts value texts ∧
      validateTestPaths texts = .raised := by
  rw [testPathsField, Validation.andThen_eq_raised_iff]
  simp only [Validation.list_eq_raised_iff, Validation.text_ne_raised, and_false, exists_false,
    false_or, list_text_eq_accepted_iff]
  constructor
  · rintro ⟨texts, ⟨htexts, -⟩, hraised⟩
    exact ⟨texts, htexts, hraised⟩
  · rintro ⟨texts, htexts, hraised⟩
    exact ⟨texts, ⟨htexts, Nat.zero_le _, (validateTestPaths_eq_raised_iff.mp hraised).1⟩, hraised⟩

theorem AcceptanceFields.read_eq_raised_iff {fields : Fields} :
    AcceptanceFields.read fields = .raised ↔ ∃ paths texts,
      fields.lookup "test_paths" = some paths ∧ IsTexts paths texts ∧
        validateTestPaths texts = .raised := by
  simp only [AcceptanceFields.read, Validation.seq_eq_raised_iff, Validation.map_eq_raised_iff,
    Validation.field_eq_raised_iff, Validation.fieldOr_eq_raised_iff,
    Validation.matching_ne_raised, Validation.literal_ne_raised, Validation.andThen_eq_raised_iff,
    Validation.list_eq_raised_iff, Validation.text_ne_raised, Validation.integer_ne_raised,
    Validation.anyInteger_ne_raised, Validation.nullable_eq_raised_iff,
    Validation.digest_ne_raised, validateCommand, Validation.check_ne_raised,
    testPathsField_eq_raised_iff, and_false, exists_false, or_self, false_or, exists_and_left]

theorem AcceptanceTest.validate_eq_raised_iff {value : Json} :
    AcceptanceTest.validate value = .raised ↔ ∃ fields paths texts, value = .obj fields ∧
      fields.lookup "test_paths" = some paths ∧ IsTexts paths texts ∧
      validateTestPaths texts = .raised := by
  have hcontract : ∀ fields : AcceptanceFields, (if h : fields.Contract
      then Validation.accepted (⟨fields, h⟩ : AcceptanceTest) else .refused) ≠ .raised := by
    intro fields
    split_ifs <;> simp
  simp only [AcceptanceTest.validate, Validation.andThen_eq_raised_iff,
    Validation.object_eq_raised_iff, AcceptanceFields.read_eq_raised_iff, hcontract, and_false,
    exists_false, or_false, exists_and_left]

theorem Requirement.validate_ne_raised (value : Json) : Requirement.validate value ≠ .raised := by
  simp [Requirement.validate, Validation.object_eq_raised_iff, Validation.seq_eq_raised_iff,
    Validation.map_eq_raised_iff, Validation.field_eq_raised_iff]

theorem readReviewPrompts_ne_raised (value : Json) : readReviewPrompts value ≠ .raised := by
  simp [readReviewPrompts, Validation.object_eq_raised_iff, Validation.seq_eq_raised_iff,
    Validation.map_eq_raised_iff, Validation.field_eq_raised_iff]

theorem readCandidateCommit_ne_raised (value : Json) : readCandidateCommit value ≠ .raised := by
  simp [readCandidateCommit, Validation.object_eq_raised_iff, Validation.seq_eq_raised_iff,
    Validation.map_eq_raised_iff, Validation.field_eq_raised_iff]

theorem readLimits_ne_raised (value : Json) : readLimits value ≠ .raised := by
  have hbytes : ∀ limits, validateByteLimits limits ≠ .raised := by
    intro limits
    rw [validateByteLimits]
    split_ifs <;> simp
  simp [readLimits, Validation.andThen_eq_raised_iff, Validation.object_eq_raised_iff,
    Validation.seq_eq_raised_iff, Validation.map_eq_raised_iff, Validation.field_eq_raised_iff,
    Validation.fieldOr_eq_raised_iff, hbytes]

theorem validatePatterns_ne_raised (value : List String) : validatePatterns value ≠ .raised := by
  rw [validatePatterns]
  split <;> simp

/-- The texts under `test_paths` of an acceptance test that is validated. -/
def ListsTestPaths (payload : Json) (texts : List String) : Prop :=
  ∃ fields tests test paths, payload = .obj fields ∧
    fields.lookup "acceptance_tests" = some (.arr tests) ∧ .obj test ∈ tests.take 101 ∧
    test.lookup "test_paths" = some paths ∧ IsTexts paths texts

/-- The validation of a task raises only where that of test paths does. -/
theorem TaskSpec.modelValidate_eq_raised_iff {payload : Json} :
    TaskSpec.modelValidate payload = .raised ↔
      ∃ texts, ListsTestPaths payload texts ∧ validateTestPaths texts = .raised := by
  have hcontract : ∀ fields : TaskFields, (if h : fields.Contract
      then Validation.accepted (⟨fields, h⟩ : TaskSpec) else .refused) ≠ .raised := by
    intro fields
    split_ifs <;> simp
  have hread : ∀ fields, TaskFields.read fields = .raised ↔ ∃ tests,
      fields.lookup "acceptance_tests" = some (.arr tests) ∧
        ∃ test ∈ tests.take 101, AcceptanceTest.validate test = .raised := by
    intro fields
    simp only [TaskFields.read, Validation.seq_eq_raised_iff, Validation.map_eq_raised_iff,
      Validation.field_eq_raised_iff, Validation.fieldOr_eq_raised_iff,
      Validation.matching_ne_raised, Validation.literal_ne_raised,
      Validation.andThen_eq_raised_iff, Validation.list_eq_raised_iff, Validation.text_ne_raised,
      Validation.digest_ne_raised, Validation.boundedText_ne_raised, validateOutOfScope,
      Validation.check_ne_raised, Requirement.validate_ne_raised, readReviewPrompts_ne_raised,
      readCandidateCommit_ne_raised, readLimits_ne_raised, validatePatterns_ne_raised, and_false,
      exists_false, or_self, false_or, or_false]
    constructor
    · rintro ⟨_, hlookup, tests, rfl, hraised⟩
      exact ⟨tests, hlookup, hraised⟩
    · rintro ⟨tests, hlookup, hraised⟩
      exact ⟨_, hlookup, tests, rfl, hraised⟩
  simp only [TaskSpec.modelValidate, Validation.andThen_eq_raised_iff,
    Validation.object_eq_raised_iff, hread, hcontract, and_false, exists_false, or_false,
    AcceptanceTest.validate_eq_raised_iff]
  constructor
  · rintro ⟨fields, rfl, tests, htests, _, hmem, test, paths, texts, rfl, hpaths, htexts, hraised⟩
    exact ⟨texts, ⟨fields, tests, test, paths, rfl, htests, hmem, hpaths, htexts⟩, hraised⟩
  · rintro ⟨texts, ⟨fields, tests, test, paths, rfl, htests, hmem, hpaths, htexts⟩, hraised⟩
    exact ⟨fields, rfl, tests, htests, _, hmem, test, paths, texts, rfl, hpaths, htexts, hraised⟩

end AmazonSimilarSearch.Release
