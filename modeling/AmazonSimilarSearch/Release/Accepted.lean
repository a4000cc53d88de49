import AmazonSimilarSearch.Release.Task

/-!
# What an accepted task keeps

The fields of a task that later stages read, traced back to the value that was
validated.
-/
namespace AmazonSimilarSearch.Release
open Foundation
open Review (validateRepoPattern)

variable {α β : Type}

/-- The validator of a literal accepts the text of the choice. -/
theorem literal_eq_accepted_iff {choices : List (String × α)} {value : Json} {choice : α} :
    Validation.literal choices value = .accepted choice ↔
      ∃ text, value = .str text ∧ choices.lookup text = some choice := by
  rw [Validation.literal, Validation.andThen_eq_accepted_iff]
  constructor
  · rintro ⟨text, htext, hchoice⟩
    cases value with
    | str shown =>
        cases htext
        split at hchoice
        · next found hfound =>
            cases hchoice
            exact ⟨_, rfl, hfound⟩
        · cases hchoice
    | _ => cases htext
  · rintro ⟨text, rfl, hlookup⟩
    exact ⟨text, rfl, by rw [hlookup]⟩

/-- An accepted acceptance test keeps its kind and its paths. -/
structure KeptFrom (fields : Fields) (test : AcceptanceTest) : Prop where
  kind : fields.lookup "kind" = some (.str "test") ↔ test.kind = .test
  paths : (∃ paths texts, fields.lookup "test_paths" = some paths ∧ IsTexts paths texts ∧
      test.testPaths.paths = sortedText texts) ∨
    (fields.lookup "test_paths" = none ∧ test.testPaths.paths = [])

theorem AcceptanceTest.keptFrom {value : Json} {test : AcceptanceTest}
    (h : AcceptanceTest.validate value = .accepted test) :
    ∃ fields, value = .obj fields ∧ KeptFrom fields test := by
  obtain ⟨read, hobject, hcontract⟩ := Validation.andThen_eq_accepted_iff.mp h
  obtain ⟨fields, rfl, hread, -⟩ := Validation.object_eq_accepted_iff.mp hobject
  have hsame : test.toAcceptanceFields = read := by
    split at hcontract
    · cases hcontract
      rfl
    · cases hcontract
  subst hsame
  obtain ⟨_, paths, hrest1, hpaths, hfields⟩ := Validation.seq_eq_accepted_iff.mp hread
  obtain ⟨_, fingerprint, hrest2, -, rfl⟩ := Validation.seq_eq_accepted_iff.mp hrest1
  obtain ⟨_, codes, hrest3, -, rfl⟩ := Validation.seq_eq_accepted_iff.mp hrest2
  obtain ⟨_, code, hrest4, -, rfl⟩ := Validation.seq_eq_accepted_iff.mp hrest3
  obtain ⟨_, command, hrest5, -, rfl⟩ := Validation.seq_eq_accepted_iff.mp hrest4
  obtain ⟨_, kind, hrest6, hkind, rfl⟩ := Validation.seq_eq_accepted_iff.mp hrest5
  obtain ⟨id, -, rfl⟩ := Validation.map_eq_accepted_iff.mp hrest6
  have htestKind : test.kind = kind := congrArg AcceptanceFields.kind hfields.symm
  have htestPaths : test.testPaths = paths := congrArg AcceptanceFields.testPaths hfields.symm
  refine ⟨fields, rfl, ?_, ?_⟩
  · obtain ⟨shown, hshown, hliteral⟩ := Validation.field_eq_accepted_iff.mp hkind
    obtain ⟨text, rfl, hchoice⟩ := literal_eq_accepted_iff.mp hliteral
    rw [hshown, htestKind, Option.some.injEq, Json.str.injEq]
    have hchoices : ∀ choice ∈ [("test", Review.AcceptanceKind.test), ("quality", .quality)],
        choice.1 = "test" ↔ choice.2 = .test := by
      decide
    obtain ⟨before, after, hsplit, -⟩ := List.lookup_eq_some_iff.mp hchoice
    exact hchoices (text, kind) (by rw [hsplit]; simp)
  · rw [htestPaths]
    rcases Validation.fieldOr_eq_accepted_iff.mp hpaths with ⟨shown, hshown, haccepted⟩ | hmissing
    · obtain ⟨texts, htexts, hvalid⟩ := Validation.andThen_eq_accepted_iff.mp haccepted
      exact Or.inl ⟨shown, texts, hshown, (list_text_eq_accepted_iff.mp htexts).1,
        paths_of_validateTestPaths hvalid⟩
    · exact Or.inr ⟨hmissing.1, by rw [← hmissing.2]; rfl⟩

/-- An accepted task keeps its acceptance tests and its patterns. -/
structure TaskKeptFrom (payload : Json) (task : TaskSpec) : Prop where
  tests : ∃ fields tests, payload = .obj fields ∧
    fields.lookup "acceptance_tests" = some (.arr tests) ∧ tests.length ≤ 100 ∧
    List.Forall₂ (fun value test => ∃ fields, value = .obj fields ∧ KeptFrom fields test) tests
      task.acceptanceTests
  patterns : ∀ pattern ∈ task.allowedPaths ++ task.deniedPaths,
    validateRepoPattern pattern = .ok pattern

theorem patterns_of_accepted {fields : Fields} {name : String} {patterns : List String}
    (h : Validation.field fields name (fun value =>
      (Validation.list 1 100 .text value).andThen validatePatterns) = .accepted patterns) :
    ∀ pattern ∈ patterns, validateRepoPattern pattern = .ok pattern := by
  obtain ⟨_, -, haccepted⟩ := Validation.field_eq_accepted_iff.mp h
  obtain ⟨texts, -, hvalid⟩ := Validation.andThen_eq_accepted_iff.mp haccepted
  rw [validatePatterns] at hvalid
  split at hvalid
  · cases hvalid
  · next accepted hmap =>
      obtain ⟨-, rfl⟩ := Validation.check_eq_accepted_iff.mp hvalid
      obtain ⟨rfl, hall⟩ := mapM_validateRepoPattern.mp hmap
      exact hall

theorem TaskSpec.keptFrom {payload : Json} {task : TaskSpec}
    (h : TaskSpec.modelValidate payload = .accepted task) : TaskKeptFrom payload task := by
  obtain ⟨read, hobject, hcontract⟩ := Validation.andThen_eq_accepted_iff.mp h
  obtain ⟨fields, rfl, hread, -⟩ := Validation.object_eq_accepted_iff.mp hobject
  have hsame : task.toTaskFields = read := by
    split at hcontract
    · cases hcontract
      rfl
    · cases hcontract
  subst hsame
  obtain ⟨_, outOfScope, hrest1, -, hfields⟩ := Validation.seq_eq_accepted_iff.mp hread
  obtain ⟨_, network, hrest2, -, rfl⟩ := Validation.seq_eq_accepted_iff.mp hrest1
  obtain ⟨_, limits, hrest3, -, rfl⟩ := Validation.seq_eq_accepted_iff.mp hrest2
  obtain ⟨_, denied, hrest4, hdenied, rfl⟩ := Validation.seq_eq_accepted_iff.mp hrest3
  obtain ⟨_, allowed, hrest5, hallowed, rfl⟩ := Validation.seq_eq_accepted_iff.mp hrest4
  obtain ⟨_, tests, hrest6, htests, rfl⟩ := Validation.seq_eq_accepted_iff.mp hrest5
  obtain ⟨_, commit, hrest7, -, rfl⟩ := Validation.seq_eq_accepted_iff.mp hrest6
  obtain ⟨_, prompts, hrest8, -, rfl⟩ := Validation.seq_eq_accepted_iff.mp hrest7
  obtain ⟨_, requirements, hrest9, -, rfl⟩ := Validation.seq_eq_accepted_iff.mp hrest8
  obtain ⟨_, objective, hrest10, -, rfl⟩ := Validation.seq_eq_accepted_iff.mp hrest9
  obtain ⟨_, harness, hrest11, -, rfl⟩ := Validation.seq_eq_accepted_iff.mp hrest10
  obtain ⟨_, base, hrest12, -, rfl⟩ := Validation.seq_eq_accepted_iff.mp hrest11
  obtain ⟨_, taskId, hrest13, -, rfl⟩ := Validation.seq_eq_accepted_iff.mp hrest12
  obtain ⟨version, -, rfl⟩ := Validation.map_eq_accepted_iff.mp hrest13
  have htaskTests : task.acceptanceTests = tests :=
    congrArg TaskFields.acceptanceTests hfields.symm
  have htaskAllowed : task.allowedPaths = allowed := congrArg TaskFields.allowedPaths hfields.symm
  have htaskDenied : task.deniedPaths = denied := congrArg TaskFields.deniedPaths hfields.symm
  constructor
  · obtain ⟨shown, hshown, hlist⟩ := Validation.field_eq_accepted_iff.mp htests
    obtain ⟨items, rfl, -, hlength, hitems⟩ := Validation.list_eq_accepted_iff.mp hlist
    rw [htaskTests]
    exact ⟨fields, items, rfl, hshown, hlength, hitems.imp fun _ _ => AcceptanceTest.keptFrom⟩
  · rw [htaskAllowed, htaskDenied]
    intro pattern hmem
    rcases List.mem_append.mp hmem with hmem | hmem
    · exact patterns_of_accepted hallowed pattern hmem
    · exact patterns_of_accepted hdenied pattern hmem

end AmazonSimilarSearch.Release
