import AmazonSimilarSearch.Foundation.JoinedFields
import AmazonSimilarSearch.Packet.SnapshotDiff
import AmazonSimilarSearch.Policy.Contract
import AmazonSimilarSearch.Review.RepoPatterns

/-!
# Paths of a review packet

`review_packet.py` checks the paths of a policy report once more, with a
protected list and a safety check of its own, and reads the paths of the review
diff back from its headers. A path that the policy stage admits passes both
checks again.
-/
namespace AmazonSimilarSearch.Packet
open Foundation Review

/-! ## Validation -/

/-- `_validate_policy_paths` -/
def validatePolicyPaths (deniedPaths : List String) (changedFiles : List DiffFile) :
    Except String Unit :=
  changedFiles.forM fun file => do
    ensure (packetSafeRepoPath file.path = true)
      "policy contains an unsafe repository-relative path"
    ensure (isPacketProtectedPath file.path deniedPaths = false)
      ("policy contains protected path: " ++ file.path)

/-- `line.startswith("diff --git ")` -/
def isPathHeader (line : String) : Bool := "diff --git ".toList.isPrefixOf line.toList

/-- A path of a header without its mark, `a/` or `b/`. -/
def withoutMark (mark : Char) (path : String) : Except String String :=
  match path.toList with
  | c :: '/' :: rest =>
      if c = mark then .ok (String.ofList rest)
      else .error "trusted diff path headers must use a/ and b/ prefixes"
  | _ => .error "trusted diff path headers must use a/ and b/ prefixes"

/-- The path of one header of the diff. -/
def headerPath (deniedPaths : List String) (line : String) : Except String String := do
  let fields ← (shlexSplit line).mapError fun _ =>
    "trusted diff contains an unparseable path header"
  let (oldPath, newPath) ← required "trusted diff contains an invalid path header" <|
    match fields with
    | ["diff", "--git", oldPath, newPath] => some (oldPath, newPath)
    | _ => none
  let oldPath ← withoutMark 'a' oldPath
  let newPath ← withoutMark 'b' newPath
  ensure (oldPath = newPath) "trusted diff rename/copy path headers are not supported"
  ensure (packetSafeRepoPath newPath = true)
    "trusted diff contains an unsafe repository-relative path"
  ensure (isPacketProtectedPath newPath deniedPaths = false)
    ("trusted diff contains protected path: " ++ newPath)
  pure newPath

/-- The paths that `_validate_diff_paths` collects. -/
def diffPaths (deniedPaths : List String) (trustedDiff : String) : Except String (List String) :=
  ((pySplitlines trustedDiff).filter isPathHeader).mapM (headerPath deniedPaths)

/-- `_validate_diff_paths` -/
def validateDiffPaths (deniedPaths : List String) (changedFiles : List DiffFile)
    (trustedDiff : String) : Except String Unit := do
  let paths ← diffPaths deniedPaths trustedDiff
  ensure (paths ≠ [] ∧ paths.Nodup) "trusted diff must contain unique path headers"
  ensure ((∀ path ∈ paths, path ∈ changedFiles.map DiffFile.path) ∧
      ∀ path ∈ changedFiles.map DiffFile.path, path ∈ paths)
    "trusted diff paths do not match the passing policy"

/-! ## The two stages agree -/

theorem safe_first {path : String} (h : safeRepoPath path = true) :
    path ≠ "" ∧ path.toList.head? ≠ some '/' ∧ path.toList.contains '\\' = false ∧
      path.toList.head? ≠ some '\\' := by
  unfold safeRepoPath at h
  split_ifs at h with hfirst
  simp only [List.any_cons, List.any_nil, Bool.or_false, Bool.or_eq_true, decide_eq_true_eq,
    not_or, Bool.not_eq_true] at hfirst
  exact ⟨hfirst.1.1, hfirst.1.2.1, hfirst.2, hfirst.1.2.2⟩

/-- What is safe for the policy stage is safe for the packet stage. -/
theorem packetSafeRepoPath_of_safe {path : String} (h : safeRepoPath path = true) :
    packetSafeRepoPath path = true := by
  have hfirst := safe_first h
  have hroot : pathRoot path.toList = [] := pathRoot_of_relative hfirst.2.1
  unfold safeRepoPath at h
  unfold packetSafeRepoPath
  split_ifs at h ⊢ with hbad hparts
  rw [h, Bool.and_true, Bool.not_eq_true', List.any_eq_false]
  intro part hpart hdots
  have hpart' := hparts
  simp only [Bool.not_eq_true, List.any_eq_false] at hpart'
  have hnormal := hpart' part hpart
  simp only [pathParts, hroot, List.nil_append, List.mem_filter, Bool.and_eq_true,
    decide_eq_true_eq] at hpart
  simp only [List.contains_eq_mem, List.mem_cons, List.not_mem_nil, or_false, decide_eq_true_eq,
    decide_eq_false_iff_not, not_or] at hdots hnormal
  rcases hdots with hempty | hdot | hup
  · exact hnormal.1 hempty
  · exact hpart.2.2 hdot
  · exact hnormal.2 hup

theorem slash_mem_casefold {path : String} (h : '/' ∈ path.toList) :
    '/' ∈ (casefold path).toList := by
  rw [casefold, String.toList_ofList, List.mem_flatMap]
  exact ⟨'/', h, by decide⟩

/-- A path that folds to a name without slashes is a single part. -/
theorem pathParts_of_casefold {path name : String} (h : casefold path = name)
    (hslash : '/' ∉ name.toList) (hempty : name ≠ "") (hdot : name ≠ ".") :
    pathParts path = [path] := by
  have hnone : '/' ∉ path.toList := fun hmem => hslash (h ▸ slash_mem_casefold hmem)
  have hroot : pathRoot path.toList = [] := by
    apply pathRoot_of_relative
    intro hhead
    exact hnone (List.mem_of_mem_head? hhead)
  have hne : path ≠ "" := by
    rintro rfl
    exact hempty (h.symm.trans (by decide))
  have hne' : path ≠ "." := by
    rintro rfl
    exact hdot (h.symm.trans (by decide))
  simp [pathParts, hroot, splitAt_single hnone, hne, hne']

theorem sensitivePathReason_of_part {path part : String}
    (hpart : part = "cache" ∨ part = ".git") (h : part ∈ (pathParts path).map casefold) :
    (sensitivePathReason path).isSome = true := by
  unfold sensitivePathReason
  dsimp only
  split_ifs with h1 h2 h3 h4 h5 h6 h7
  all_goals first
    | rfl
    | skip
  rcases hpart with rfl | rfl
  · simp only [List.contains_eq_mem, h, decide_true, Bool.true_or, not_true_eq_false] at h6
  · simp only [List.contains_eq_mem, h, decide_true, not_true_eq_false] at h7

theorem sensitivePathReason_of_casefold {path name : String} (hname : name = "cache" ∨ name = ".git")
    (h : casefold path = name) : (sensitivePathReason path).isSome = true := by
  apply sensitivePathReason_of_part hname
  have hparts : pathParts path = [path] := by
    rcases hname with rfl | rfl
    · exact pathParts_of_casefold h (by decide) (by decide) (by decide)
    · exact pathParts_of_casefold h (by decide) (by decide) (by decide)
  rw [hparts, List.map_singleton, h]
  exact List.mem_singleton_self name

theorem globMatches_name {path name : String} (hname : name = "cache" ∨ name = ".git")
    (h : globMatches (globTokens (casefold name).toList) (casefold path).toList = true) :
    casefold path = name := by
  have hfold : casefold name = name := by
    rcases hname with rfl | rfl
    · exact casefold_of_lower (by decide) (by decide)
    · exact casefold_of_lower (by decide) (by decide)
  have hplain : ∀ c ∈ name.toList, c ≠ '*' ∧ c ≠ '?' := by
    have hall : name.toList.all (fun c => c ≠ '*' && c ≠ '?') = true := by
      rcases hname with rfl | rfl
      · decide
      · decide
    simpa using hall
  rw [hfold] at h
  exact String.toList_injective ((globMatches_of_plain hplain).mp h)

/-- What neither the policy stage protects nor the task denies is not protected by the packet
stage. -/
theorem isPacketProtectedPath_of_unprotected {path : String} {deniedPaths : List String}
    (h : isProtectedPath path = false) (hdenied : matchesFolded path deniedPaths = false) :
    isPacketProtectedPath path deniedPaths = false := by
  rw [isProtectedPath, Bool.or_eq_false_iff] at h
  have hname : ∀ name, name = "cache" ∨ name = ".git" →
      globMatches (globTokens (casefold name).toList) (casefold path).toList = false := by
    intro name hname
    by_contra hmatch
    have hsensitive := sensitivePathReason_of_casefold hname
      (globMatches_name hname (Bool.not_eq_false _ ▸ hmatch))
    rw [h.1] at hsensitive
    cases hsensitive
  have hpatterns := h.2
  simp only [matchesFolded, matchesGlob, protectedPatterns, List.map_cons, List.map_nil,
    List.any_cons, List.any_nil, Bool.or_false, Bool.or_eq_false_iff] at hpatterns
  have hpacket : matchesFolded path packetProtectedPatterns = false := by
    simp only [matchesFolded, matchesGlob, packetProtectedPatterns, List.map_cons, List.map_nil,
      List.any_cons, List.any_nil, Bool.or_false, Bool.or_eq_false_iff]
    exact ⟨hpatterns.1, hpatterns.2.1, hname ".git" (.inr rfl), hpatterns.2.2.1,
      hname "cache" (.inl rfl), hpatterns.2.2.2⟩
  rw [isPacketProtectedPath, h.1, hpacket, hdenied]
  rfl

/-- The path is safe and nothing protects it. -/
structure PathAdmitted (deniedPaths : List String) (path : String) : Prop where
  safe : packetSafeRepoPath path = true
  unprotected : isPacketProtectedPath path deniedPaths = false

theorem pathAdmitted_of_accepted {task : TaskSpec} {entry : String × Policy.GitFileMetadata}
    (h : Policy.PathAccepted task entry) : PathAdmitted task.deniedPaths entry.1 where
  safe := packetSafeRepoPath_of_safe h.safe
  unprotected := isPacketProtectedPath_of_unprotected h.unprotected h.notDenied

theorem validatePolicyPaths_eq_ok {deniedPaths : List String} {changedFiles : List DiffFile}
    (h : ∀ file ∈ changedFiles, PathAdmitted deniedPaths file.path) :
    validatePolicyPaths deniedPaths changedFiles = .ok ⟨⟩ := by
  apply forM_eq_ok_iff.mpr
  intro file hfile
  rw [ensure_of _ (h file hfile).safe, ok_bind, ensure_of _ (h file hfile).unprotected]

end AmazonSimilarSearch.Packet
