import AmazonSimilarSearch.Release.Validate
import AmazonSimilarSearch.Snapshot.RedTddExact

/-!
# When a release task is usable

The checks of the later stages, against what the validation of the task has
already made sure of. What they still ask is that every path is exact and that
there is a test; everything else follows from the task.
-/
namespace AmazonSimilarSearch.Release
open Foundation
open Review (pathParts pathRoot sensitivePathReason validateRepoPattern
  validateRepoPattern_eq_ok_iff pathRoot_of_relative)
open Snapshot (asPosix isTestPath checkTestPath validatedTestPaths)

/-! ## Test paths -/

theorem checkBelowTests_eq_raised_iff {paths : List String} :
    checkBelowTests paths = .raised ↔ ∃ before path after, paths = before ++ path :: after ∧
      (∀ other ∈ before, (pathParts other).head?.map casefold = some "tests") ∧
        pathParts path = [] := by
  induction paths with
  | nil => simp [checkBelowTests]
  | cons path paths ih =>
      rw [checkBelowTests]
      constructor
      · intro h
        split at h
        · next hparts => exact ⟨[], path, paths, rfl, fun _ hmem => absurd hmem List.not_mem_nil, hparts⟩
        · next part rest hparts =>
            split_ifs at h with hpart
            obtain ⟨before, found, after, rfl, hbefore, hfound⟩ := ih.mp h
            refine ⟨path :: before, found, after, rfl, ?_, hfound⟩
            rw [List.forall_mem_cons]
            exact ⟨by rw [hparts]; exact congrArg some hpart, hbefore⟩
      · rintro ⟨before, found, after, heq, hbefore, hfound⟩
        cases before with
        | nil =>
            cases heq
            rw [hfound]
        | cons first before =>
            cases heq
            rw [List.forall_mem_cons] at hbefore
            obtain ⟨part, hpart, hfold⟩ := Option.map_eq_some_iff.mp hbefore.1
            obtain ⟨rest, hparts⟩ := List.head?_eq_some_iff.mp hpart
            rw [hparts]
            simp only [hfold, if_true]
            exact ih.mpr ⟨before, found, after, rfl, hbefore.2, hfound⟩

theorem reachesRoot_iff {texts : List String} :
    ReachesRoot texts ↔ validateTestPaths texts = .raised := by
  rw [validateTestPaths_eq_raised_iff, checkBelowTests_eq_raised_iff]
  exact ⟨fun h => ⟨h.length_le, h.patterns, h.nodup, h.reached⟩,
    fun ⟨hlength, hpatterns, hnodup, hreached⟩ => ⟨hlength, hpatterns, hnodup, hreached⟩⟩

/-- A path of a task is a test path of the snapshot code exactly when it is exact. -/
theorem IsTestPattern.safe_iff {path : String} (h : IsTestPattern path) :
    path ≠ "" ∧ '\x00' ∉ path.toList ∧ isTestPath path = true ↔ ExactPath path := by
  obtain ⟨⟨hne, hhead, -, -⟩, hup, hcontrol, -⟩ := validateRepoPattern_eq_ok_iff.mp h.pattern
  have hnul : '\x00' ∉ path.toList := fun hmem => absurd (hcontrol _ hmem) (by decide)
  have hroot : pathRoot path.toList = [] := pathRoot_of_relative hhead
  have hparts : ((pathParts path).any fun part => ["", ".", ".."].contains part) = false := by
    rw [List.any_eq_false]
    intro part hpart
    have hplain : part ≠ "" ∧ part ≠ "." := by
      rw [pathParts, hroot, List.nil_append, List.mem_filter] at hpart
      simpa using hpart.2
    have hpartUp : part ≠ ".." := fun heq => hup (heq ▸ hpart)
    simp [hplain, hpartUp]
  rw [and_iff_right hne, and_iff_right hnul, isTestPath, hroot, hparts, h.below, ExactPath]
  simp

/-- The paths of a task are accepted unchanged exactly when there are some and all are exact. -/
theorem TestPaths.validated_iff (testPaths : TestPaths) :
    validatedTestPaths testPaths.paths = .ok testPaths.paths ↔
      testPaths.paths ≠ [] ∧ ∀ path ∈ testPaths.paths, ExactPath path := by
  rw [Snapshot.validatedTestPaths_ok_iff]
  constructor
  · rintro ⟨hvalid, -⟩
    refine ⟨hvalid.count.1, fun path hmem => ?_⟩
    exact (testPaths.patterns path hmem).safe_iff.mp (hvalid.safe path hmem)
  · rintro ⟨hne, hexact⟩
    have hlength : testPaths.paths.length ≤ 256 := testPaths.length_le.trans (by decide)
    refine ⟨⟨⟨hne, hlength⟩, fun path hmem => ?_, testPaths.nodup⟩, testPaths.sorted.symm⟩
    exact (testPaths.patterns path hmem).safe_iff.mpr (hexact path hmem)

/-! ## Names -/

/-- The kinds are short words of lower-case letters and dashes. -/
theorem acceptanceKinds_plain : ∀ kind ∈ acceptanceKinds, kind.toList.length ≤ 12 ∧
    kind.toList.head?.any isLowerLetter = true ∧ kind.toList.all isKindChar = true := by
  decide

theorem exists_cons_of_kind {kind : String} (hkind : kind ∈ acceptanceKinds) : ∃ first rest,
    kind.toList = first :: rest ∧ isLowerLetter first = true ∧ (∀ c ∈ rest, isKindChar c = true) ∧
      rest.length ≤ 11 := by
  obtain ⟨hlength, hfirst, hall⟩ := acceptanceKinds_plain kind hkind
  cases hlist : kind.toList with
  | nil =>
      rw [hlist] at hfirst
      cases hfirst
  | cons first rest =>
      rw [hlist, List.length_cons] at hlength
      rw [hlist] at hfirst
      rw [hlist, List.all_eq_true] at hall
      exact ⟨first, rest, rfl, hfirst, fun c hc => hall c (List.mem_cons_of_mem _ hc), by omega⟩

/-- An identifier is an upper-case letter and up to 63 more characters. -/
theorem exists_cons_of_identifier (id : Review.Identifier) : ∃ first rest,
    id.text.toList = first :: rest ∧ isUpperLetter first = true ∧
      (∀ c ∈ rest, isItemChar c = true) ∧ rest.length ≤ 63 := by
  have hmatches : matchesHeadTail isUpperAscii
      (fun c => isUpperAscii c || isDigitAscii c || c == '_' || c == '-') 63 id.text = true :=
    id.matches_text
  rw [matchesHeadTail] at hmatches
  cases hlist : id.text.toList with
  | nil =>
      rw [hlist] at hmatches
      cases hmatches
  | cons first rest =>
      rw [hlist] at hmatches
      simp only [Bool.and_eq_true, decide_eq_true_eq, List.all_eq_true] at hmatches
      exact ⟨first, rest, rfl, hmatches.1.1, hmatches.2, hmatches.1.2⟩

theorem toList_artifactName (kind text : String) :
    (kind ++ ":" ++ text).toList = kind.toList ++ ':' :: text.toList := by
  simp

theorem matchesArtifactName_of_kind (id : Review.Identifier) {kind : String}
    (hkind : kind ∈ acceptanceKinds) : matchesArtifactName (kind ++ ":" ++ id.text) = true := by
  obtain ⟨first, rest, hkindList, hfirst, hrest, -⟩ := exists_cons_of_kind hkind
  obtain ⟨letter, tail, hidList, hletter, htail, hlength⟩ := exists_cons_of_identifier id
  have hdrop : (rest ++ ':' :: letter :: tail).dropWhile isKindChar = ':' :: letter :: tail := by
    rw [List.dropWhile_append_of_pos hrest]
    rfl
  rw [matchesArtifactName, toList_artifactName, hkindList, hidList, List.cons_append]
  simp only [hdrop, hfirst, matchesItem, hletter, Bool.true_and, beq_self_eq_true,
    List.all_eq_true.mpr htail, hlength, decide_true]

/-- The characters after the first one of a role. -/
def isRoleChar (c : Char) : Bool :=
  isAlphanumericAscii c || c == '_' || c == '.' || c == ':' || c == '-'

theorem isRoleChar_of_isKindChar {c : Char} (h : isKindChar c = true) : isRoleChar c = true := by
  simp only [isKindChar, isLowerLetter, isDecimalDigit, Bool.or_eq_true] at h
  simp only [isRoleChar, isAlphanumericAscii, isLowerAscii, isDigitAscii, Bool.or_eq_true]
  tauto

theorem isRoleChar_of_isItemChar {c : Char} (h : isItemChar c = true) : isRoleChar c = true := by
  simp only [isItemChar, isUpperLetter, isDecimalDigit, Bool.or_eq_true] at h
  simp only [isRoleChar, isAlphanumericAscii, isUpperAscii, isDigitAscii, Bool.or_eq_true]
  tauto

theorem isRole_of_kind (id : Review.Identifier) {kind : String}
    (hkind : kind ∈ acceptanceKinds) : Attestation.isRole (kind ++ ":" ++ id.text) = true := by
  obtain ⟨first, rest, hkindList, hfirst, hrest, hrestLength⟩ := exists_cons_of_kind hkind
  obtain ⟨letter, tail, hidList, hletter, htail, hlength⟩ := exists_cons_of_identifier id
  have hletterRole : isRoleChar letter = true := by
    apply isRoleChar_of_isItemChar
    rw [isItemChar, hletter]
    rfl
  have hchars : ∀ c ∈ rest ++ ':' :: letter :: tail, isRoleChar c = true := by
    simp only [List.forall_mem_append, List.forall_mem_cons]
    exact ⟨fun c hc => isRoleChar_of_isKindChar (hrest c hc), rfl, hletterRole,
      fun c hc => isRoleChar_of_isItemChar (htail c hc)⟩
  have hfirstRole : (isUpperAscii first || isLowerAscii first) = true := by
    rw [show isLowerAscii first = true from hfirst, Bool.or_true]
  have hroleLength : (rest ++ ':' :: letter :: tail).length ≤ 127 := by
    simp only [List.length_append, List.length_cons]
    omega
  rw [Attestation.isRole, matchesHeadTail, toList_artifactName, hkindList, hidList,
    List.cons_append]
  simp only [hfirstRole, hroleLength, decide_true, Bool.true_and]
  exact List.all_eq_true.mpr hchars

/-! ## The task -/

theorem testAcceptances_isOk_iff {task : TaskSpec} (hversion : task.schemaVersion = .v2) :
    (∃ tests, testAcceptances task = .ok tests) ↔
      ∃ test ∈ task.acceptanceTests, test.kind = .test := by
  have hmem : ∀ test, test ∈ sortedBy (fun test : AcceptanceTest => test.id.text)
      (task.acceptanceTests.filter fun test => test.kind = .test) ↔
        test ∈ task.acceptanceTests ∧ test.kind = .test := by
    intro test
    rw [(sortedBy_perm _ _).mem_iff, List.mem_filter, decide_eq_true_eq]
  have hpaths := task.contract.2.2 hversion
  simp only [testAcceptances, bind_eq_ok_iff, ensure_eq_ok_iff, pure_eq_ok_iff]
  constructor
  · rintro ⟨_, _, ⟨hne, -⟩, -⟩
    obtain ⟨test, htest⟩ := List.exists_mem_of_ne_nil _ hne
    exact ⟨test, (hmem test).mp htest⟩
  · rintro ⟨test, htest, hkind⟩
    refine ⟨_, ⟨⟩, ⟨List.ne_nil_of_mem ((hmem test).mpr ⟨htest, hkind⟩), fun other hother => ?_⟩, rfl⟩
    obtain ⟨hother, hotherKind⟩ := (hmem other).mp hother
    exact hpaths other hother hotherKind

/-- What the later stages still ask of a task of the second version. -/
theorem usable_iff {task : TaskSpec} (hversion : task.schemaVersion = .v2) :
    Usable task ↔ (∃ test ∈ task.acceptanceTests, test.kind = .test) ∧
      ∀ test ∈ task.acceptanceTests, ∀ path ∈ test.testPaths.paths, ExactPath path := by
  constructor
  · intro h
    refine ⟨(testAcceptances_isOk_iff hversion).mp h.tests, fun test htest path hpath => ?_⟩
    cases hkind : test.kind with
    | test => exact (test.testPaths.validated_iff.mp (h.testPaths test htest hkind)).2 path hpath
    | quality =>
        rw [(test.contract.2.2.2 hkind).2.2] at hpath
        exact absurd hpath List.not_mem_nil
  · rintro ⟨htests, hexact⟩
    constructor
    · intro test htest hkind
      exact test.testPaths.validated_iff.mpr
        ⟨task.contract.2.2 hversion test htest hkind, hexact test htest⟩
    · exact fun test _ kind => matchesArtifactName_of_kind test.id
    · exact fun test _ kind => isRole_of_kind test.id
    · exact (testAcceptances_isOk_iff hversion).mpr htests
    · intro pattern _
      rw [compileRegex_globRegex, compileRegex_globRegex]
      exact ⟨rfl, rfl⟩

theorem exists_mem_of_forall₂ {α β : Type} {R : α → β → Prop} {xs : List α} {ys : List β}
    (h : List.Forall₂ R xs ys) {x : α} (hx : x ∈ xs) : ∃ y ∈ ys, R x y := by
  induction h with
  | nil => cases hx
  | cons hxy _ ih =>
      rcases List.mem_cons.mp hx with rfl | hx
      · exact ⟨_, List.mem_cons_self, hxy⟩
      · obtain ⟨y, hy, hxy⟩ := ih hx
        exact ⟨y, List.mem_cons_of_mem _ hy, hxy⟩

/-- The paths of an acceptance test are the texts that were given. -/
theorem KeptFrom.mem_paths_iff {fields : Fields} {test : AcceptanceTest} (h : KeptFrom fields test)
    {path : String} : path ∈ test.testPaths.paths ↔ ∃ paths texts,
      fields.lookup "test_paths" = some paths ∧ IsTexts paths texts ∧ path ∈ texts := by
  rcases h.paths with ⟨paths, texts, hlookup, htexts, hsorted⟩ | ⟨hlookup, hnone⟩
  · rw [hsorted, mem_sortedText]
    constructor
    · intro hpath
      exact ⟨paths, texts, hlookup, htexts, hpath⟩
    · rintro ⟨_, others, hlookup', hothers, hpath⟩
      rw [hlookup] at hlookup'
      cases hlookup'
      have hmap : others.map Json.str = texts.map Json.str :=
        Json.arr.inj (hothers.symm.trans htexts)
      have hinjective : Function.Injective Json.str := fun _ _ heq => Json.str.inj heq
      rwa [hinjective.list_map hmap] at hpath
  · rw [hnone, hlookup]
    simp

/-- The same for the value that the task was read from. -/
theorem TaskKeptFrom.usable_iff {payload : Json} {task : TaskSpec} (h : TaskKeptFrom payload task)
    (hversion : task.schemaVersion = .v2) :
    Usable task ↔ HasTest payload ∧
      ∀ texts, ListsTestPaths payload texts → ∀ path ∈ texts, ExactPath path := by
  obtain ⟨fields, tests, rfl, hlookup, hlength, hkept⟩ := h.tests
  have htake : tests.take 101 = tests := List.take_of_length_le (hlength.trans (by decide))
  have htest : (∃ test ∈ task.acceptanceTests, test.kind = .test) ↔ HasTest (.obj fields) := by
    constructor
    · rintro ⟨test, hmem, hkind⟩
      obtain ⟨_, hvalue, testFields, rfl, hfrom⟩ := exists_mem_of_forall₂ hkept.flip hmem
      exact ⟨fields, tests, testFields, rfl, hlookup, hvalue, hfrom.kind.mpr hkind⟩
    · rintro ⟨_, _, testFields, heq, hlookup', hmem, hkind⟩
      cases heq
      rw [hlookup] at hlookup'
      cases hlookup'
      obtain ⟨test, htestMem, _, heq, hfrom⟩ := exists_mem_of_forall₂ hkept hmem
      cases heq
      exact ⟨test, htestMem, hfrom.kind.mp hkind⟩
  have hpaths : (∀ test ∈ task.acceptanceTests, ∀ path ∈ test.testPaths.paths, ExactPath path) ↔
      ∀ texts, ListsTestPaths (.obj fields) texts → ∀ path ∈ texts, ExactPath path := by
    constructor
    · rintro hexact texts ⟨_, _, testFields, paths, heq, hlookup', hmem, hpaths, htexts⟩ path hpath
      cases heq
      rw [hlookup] at hlookup'
      cases hlookup'
      rw [htake] at hmem
      obtain ⟨test, htestMem, _, heq, hfrom⟩ := exists_mem_of_forall₂ hkept hmem
      cases heq
      exact hexact test htestMem path (hfrom.mem_paths_iff.mpr ⟨paths, texts, hpaths, htexts, hpath⟩)
    · intro hexact test hmem path hpath
      obtain ⟨_, hvalue, testFields, rfl, hfrom⟩ := exists_mem_of_forall₂ hkept.flip hmem
      obtain ⟨paths, texts, hpaths, htexts, hpath⟩ := hfrom.mem_paths_iff.mp hpath
      exact hexact texts ⟨fields, tests, testFields, paths, rfl, hlookup, by rwa [htake], hpaths,
        htexts⟩ path hpath
  rw [Release.usable_iff hversion, htest, hpaths]

/-! ## The validation -/

theorem clean_bindHarness_iff {task : TaskSpec} {harnessSha256 : String} :
    Clean (bindHarness task harnessSha256) ↔
      (task.schemaVersion = .v2 → task.trustedHarnessSha256.text = harnessSha256 → Usable task) := by
  rw [bindHarness]
  by_cases hversion : task.schemaVersion = .v2
  · rw [ensure_of _ hversion, ok_bind]
    by_cases hharness : task.trustedHarnessSha256.text = harnessSha256
    · rw [ensure_of _ hharness]
      constructor
      · intro hclean _ _
        exact hclean.2
      · intro h
        exact ⟨hversion, h hversion hharness⟩
    · rw [ensure, if_neg hharness]
      exact iff_of_true (fun h => nomatch h) fun _ h => absurd h hharness
  · rw [ensure, if_neg hversion]
    exact iff_of_true (fun h => nomatch h) fun h => absurd h hversion

theorem clean_readTask_iff {payload : Json} {harnessSha256 : String} :
    Clean (readTask payload >>= fun task => bindHarness task harnessSha256) ↔
      ReadsClean payload harnessSha256 := by
  have hrooted : TaskSpec.modelValidate payload ≠ .raised ↔
      ∀ texts, ListsTestPaths payload texts → ¬ ReachesRoot texts := by
    simp only [ne_eq, TaskSpec.modelValidate_eq_raised_iff, reachesRoot_iff, not_exists, not_and]
  rw [readTask]
  cases hvalidated : TaskSpec.modelValidate payload with
  | raised =>
      refine iff_of_false (fun hclean => hclean rfl) fun h => ?_
      exact hrooted.mpr h.rooted hvalidated
  | refused =>
      have hno : ¬ IsReleaseTask payload harnessSha256 := by
        rintro ⟨task, haccepted, -⟩
        rw [hvalidated] at haccepted
        cases haccepted
      refine iff_of_true (fun h => nomatch h) ⟨hrooted.mp ?_, fun h => absurd h hno,
        fun h => absurd h hno⟩
      rw [hvalidated]
      exact fun h => nomatch h
  | accepted task =>
      have hroot : ∀ texts, ListsTestPaths payload texts → ¬ ReachesRoot texts := by
        apply hrooted.mp
        rw [hvalidated]
        exact fun h => nomatch h
      have hrelease : IsReleaseTask payload harnessSha256 ↔
          task.schemaVersion = .v2 ∧ task.trustedHarnessSha256.text = harnessSha256 := by
        constructor
        · rintro ⟨other, haccepted, hother⟩
          rw [hvalidated] at haccepted
          cases haccepted
          exact hother
        · exact fun h => ⟨task, hvalidated, h⟩
      have hkept := TaskSpec.keptFrom hvalidated
      simp only [ok_bind]
      rw [clean_bindHarness_iff]
      constructor
      · intro husable
        refine ⟨hroot, fun h => ?_, fun h => ?_⟩
        · obtain ⟨hversion, hharness⟩ := hrelease.mp h
          exact ((hkept.usable_iff hversion).mp (husable hversion hharness)).1
        · obtain ⟨hversion, hharness⟩ := hrelease.mp h
          exact ((hkept.usable_iff hversion).mp (husable hversion hharness)).2
      · intro h hversion hharness
        have htask := hrelease.mpr ⟨hversion, hharness⟩
        exact (hkept.usable_iff hversion).mpr ⟨h.hasTest htask, h.exact htask⟩

/-- A release task is usable, or refused with the error of the module, exactly when no path without
parts is reached, and a valid task has a test, and exact paths only. -/
theorem validateReleaseTask_clean_iff (reader : TaskReader) (raw : Bytes) (harnessSha256 : String) :
    Clean (validateReleaseTask reader raw harnessSha256) ↔ match reader raw with
      | .error error => error ≠ .other
      | .ok payload => ReadsClean payload harnessSha256 := by
  rw [validateReleaseTask]
  cases hread : reader raw with
  | error error =>
      cases error with
      | duplicateKey key => exact iff_of_true (fun h => nomatch h) (fun h => nomatch h)
      | malformed => exact iff_of_true (fun h => nomatch h) (fun h => nomatch h)
      | other => exact iff_of_false (fun hclean => hclean rfl) fun h => h rfl
  | ok payload => exact clean_readTask_iff

/-! ## A path without parts -/

/-- `json.loads` with the hook, which names the key that this reader leaves out. -/
def taskReader : TaskReader := fun raw => do
  let text ← required .malformed (decodeUtf8 raw)
  (Json.loads ⟨true, false⟩ text).mapError fun error => match error with
    | .malformed => .malformed
    | .duplicateKey => .duplicateKey ""
    | _ => .other

def rootPathText : String := "\x7b\"acceptance_tests\":[\x7b\"test_paths\":[\".\"]\x7d]\x7d"

def rootPathPayload : Json :=
  .obj [("acceptance_tests", .arr [.obj [("test_paths", .arr [.str "."])]])]

theorem taskReader_rootPathText : taskReader (encodeUtf8 rootPathText) = .ok rootPathPayload := by
  have hdumps : Json.dumps rootPathPayload = some rootPathText := by decide
  have hplain : rootPathPayload.IsPlain := by
    simp [rootPathPayload, Json.IsPlain, Json.PlainItems, Json.PlainFields, Fields.SortedKeys,
      Fields.keys]
  have hcompact : Json.compact? rootPathPayload = some (encodeUtf8 rootPathText) := by
    rw [Json.compact?, hdumps]
    rfl
  obtain ⟨text, htext, hloads⟩ := Json.loads_of_compact ⟨true, false⟩ hplain hcompact
  rw [taskReader, htext, required_some, ok_bind, hloads]
  rfl

theorem reachesRoot_dot : ReachesRoot ["."] where
  length_le := by decide
  patterns := by
    have hparts : pathParts "." = [] := by decide
    have hchars : ".".toList = ['.'] := String.toList_ofList
    simp only [List.forall_mem_singleton, validateRepoPattern_eq_ok_iff, hparts, hchars]
    exact ⟨⟨by decide, by decide, by decide, by decide⟩, List.not_mem_nil,
      by decide, trivial⟩
  nodup := List.nodup_singleton "."
  reached := ⟨[], ".", [], rfl, fun _ hmem => absurd hmem List.not_mem_nil, by decide⟩

/-- What validation raises is not the error of the module. -/
theorem not_clean_of_raised {reader : TaskReader} {raw : Bytes} {payload : Json}
    (hread : reader raw = .ok payload) (hraised : TaskSpec.modelValidate payload = .raised)
    (harnessSha256 : String) : ¬ Clean (validateReleaseTask reader raw harnessSha256) := by
  have hresult : validateReleaseTask reader raw harnessSha256 = .error .other := by
    rw [validateReleaseTask, hread]
    simp only [Except.mapError, ok_bind, readTask, hraised, error_bind]
  rw [hresult]
  exact fun hclean => hclean rfl

theorem modelValidate_rootPathPayload : TaskSpec.modelValidate rootPathPayload = .raised := by
  rw [TaskSpec.modelValidate_eq_raised_iff]
  exact ⟨["."], ⟨_, _, _, _, rfl, rfl, List.mem_cons_self, rfl, rfl⟩,
    reachesRoot_iff.mp reachesRoot_dot⟩

/-- `PurePosixPath(".").parts[0]` raises `IndexError`. -/
theorem rootPathTask_not_clean :
    ¬ Clean (validateReleaseTask taskReader (encodeUtf8 rootPathText)
      "eeeeeeeeeeeeeeeeeeeeeeeeeeeeeeeeeeeeeeeeeeeeeeeeeeeeeeeeeeeeeeee") :=
  not_clean_of_raised taskReader_rootPathText modelValidate_rootPathPayload _

end AmazonSimilarSearch.Release
