import AmazonSimilarSearch.Packet.PathChecks
import Mathlib.Data.List.Induction

/-!
# Reading the paths of a diff

A rendered diff is a list of lines, and only the first line of a file is a path
header. Its lines are read back as they were printed as long as no path holds a
line separator; a path that does is cut inside its quotation marks, and
`shlex.split` raises.
-/
namespace AmazonSimilarSearch.Packet
open Foundation Review

/-- No character of the text ends a line. -/
def LineSafe (text : String) : Prop := ∀ c ∈ text.toList, isLineBoundary c = false

theorem lineSafe_iff_all {text : String} :
    text.toList.all (fun c => !isLineBoundary c) = true ↔ LineSafe text := by
  simp [LineSafe, List.all_eq_true]

instance : DecidablePred LineSafe := fun _ => decidable_of_iff _ lineSafe_iff_all

theorem LineSafe.append {s t : String} (hs : LineSafe s) (ht : LineSafe t) : LineSafe (s ++ t) := by
  intro c hc
  rw [String.toList_append, List.mem_append] at hc
  exact hc.elim (hs c) (ht c)

theorem lineSafe_toString (n : ℕ) : LineSafe (toString n) := by
  intro c hc
  rw [Nat.toString_eq_repr, Nat.toList_repr] at hc
  have hdigit : c.isDigit = true := Nat.isDigit_of_mem_toDigits (by decide) (by decide) hc
  by_contra hboundary
  simp only [isLineBoundary, List.contains_eq_mem, Bool.not_eq_false, decide_eq_true_eq,
    List.mem_cons, List.not_mem_nil, or_false] at hboundary
  rcases hboundary with rfl | rfl | rfl | rfl | rfl | rfl | rfl | rfl | rfl | rfl <;>
    exact absurd hdigit (by decide)

theorem lineSafe_quote {text : String} (h : LineSafe text) : LineSafe (shlexQuote text) := by
  intro c hc
  rw [shlexQuote, String.toList_ofList] at hc
  unfold shlexQuoteChars at hc
  split_ifs at hc
  · simp only [List.mem_cons, List.not_mem_nil, or_false, or_self] at hc
    subst hc
    decide
  · exact h c hc
  · simp only [List.mem_cons, List.mem_append, List.not_mem_nil, or_false, escapeQuotes,
      List.mem_flatMap] at hc
    rcases hc with rfl | ⟨d, hd, hc⟩ | rfl
    · decide
    · split_ifs at hc
      · simp only [List.mem_cons, List.not_mem_nil, or_false] at hc
        rcases hc with rfl | rfl | rfl | rfl | rfl <;> decide
      · rw [List.mem_singleton.mp hc]
        exact h d hd
    · decide

theorem lineSafe_of_mem_splitlines {text line : String} (h : line ∈ pySplitlines text) :
    LineSafe line := by
  obtain ⟨cs, hcs, rfl⟩ := List.mem_map.mp h
  intro c hc
  rw [String.toList_ofList] at hc
  exact isLineBoundary_of_mem_splitLines _ cs hcs c hc

theorem lineSafe_hunkHeader (a b c d : ℕ) : LineSafe (hunkHeader a b c d) := by
  have hrange : ∀ start stop, LineSafe (formatRangeUnified start stop) := by
    intro start stop
    unfold formatRangeUnified
    split_ifs
    · exact lineSafe_toString _
    · exact ((lineSafe_toString _).append (by decide)).append (lineSafe_toString _)
    · exact ((lineSafe_toString _).append (by decide)).append (lineSafe_toString _)
  unfold hunkHeader
  apply LineSafe.append
  · apply LineSafe.append
    · apply LineSafe.append
      · apply LineSafe.append _ (hrange a b)
        decide
      · decide
    · exact hrange c d
  · decide

/-! ## Texts as lines -/

theorem toList_printLines (lines : List String) :
    (printLines lines).toList = unlines (lines.map String.toList) := by
  simp [printLines, unlines, String.toList_join, List.flatMap_map]

/-- The lines of a printed text are the lines that were printed. -/
theorem splitlines_printLines {lines : List String} (h : ∀ line ∈ lines, LineSafe line) :
    pySplitlines (printLines lines) = lines := by
  rw [pySplitlines, toList_printLines, splitLines_unlines]
  · simp [Function.comp_def]
  · intro line hline
    obtain ⟨text, htext, rfl⟩ := List.mem_map.mp hline
    exact h text htext

/-! ## Lines of a file -/

def FileDiff.headerLine (file : FileDiff) : String :=
  "diff --git " ++ shlexQuote ("a/" ++ file.path) ++ " " ++ shlexQuote ("b/" ++ file.path)

def FileDiff.lines (difflib : UnifiedDiff) (file : FileDiff) : List String :=
  file.header ++ file.hunks difflib

theorem header_eq_cons (file : FileDiff) : file.header = file.headerLine :: file.header.tail := rfl

/-- The modes and digests of the manifests are printed on one line each. -/
structure FileDiff.Printable (file : FileDiff) : Prop where
  newMode : LineSafe file.entry.mode
  newSha256 : LineSafe file.entry.sha256
  oldMode : ∀ old ∈ file.old, LineSafe old.1.mode
  oldSha256 : ∀ old ∈ file.old, LineSafe old.1.sha256

theorem lineSafe_headerLine {file : FileDiff} (h : LineSafe file.path) :
    LineSafe file.headerLine := by
  have hmark : ∀ mark : String, LineSafe mark → LineSafe (shlexQuote (mark ++ file.path)) :=
    fun mark hmark => lineSafe_quote (hmark.append h)
  unfold FileDiff.headerLine
  apply LineSafe.append
  · apply LineSafe.append
    · apply LineSafe.append
      · decide
      · exact hmark "a/" (by decide)
    · decide
  · exact hmark "b/" (by decide)

theorem lineSafe_tail {file : FileDiff} (h : file.Printable) :
    ∀ line ∈ file.header.tail, LineSafe line := by
  have hold : ∀ (field : SnapshotFile → String) (missing : String), LineSafe missing →
      (∀ old ∈ file.old, LineSafe (field old.1)) →
      LineSafe ((file.old.map fun old => field old.1).getD missing) := by
    intro field missing hmissing hfield
    cases hcase : file.old with
    | none => exact hmissing
    | some old => exact hfield old hcase
  intro line hline
  simp only [FileDiff.header, List.tail_cons, List.mem_cons, List.not_mem_nil, or_false] at hline
  rcases hline with rfl | rfl | rfl | rfl | rfl | rfl | rfl
  · unfold FileDiff.status
    split_ifs <;> decide
  · exact .append (by decide)
      (hold SnapshotFile.mode _ (by decide) h.oldMode)
  · exact .append (by decide) h.newMode
  · exact .append (by decide)
      (hold SnapshotFile.sha256 _ (by decide) h.oldSha256)
  · exact .append (by decide) h.newSha256
  · split_ifs <;> decide
  · split_ifs <;> decide

theorem lineSafe_hunks {difflib : UnifiedDiff} {file : FileDiff} (h : LineSafe file.path) :
    ∀ line ∈ file.hunks difflib, LineSafe line := by
  intro line hline
  have hold : LineSafe file.oldLabel := by
    unfold FileDiff.oldLabel
    split_ifs
    · exact .append (by decide) h
    · decide
  rcases difflib.format _ _ _ _ line hline with
    rfl | rfl | ⟨a, b, c, d, rfl⟩ | ⟨text, htext, rfl | rfl⟩ | ⟨text, htext, rfl⟩
  · exact .append (by decide) hold
  · exact .append (by decide) (.append (by decide) h)
  · exact lineSafe_hunkHeader a b c d
  · exact .append (by decide) (lineSafe_of_mem_splitlines htext)
  · exact .append (by decide) (lineSafe_of_mem_splitlines htext)
  · exact .append (by decide) (lineSafe_of_mem_splitlines htext)

theorem lineSafe_lines {difflib : UnifiedDiff} {file : FileDiff} (hfile : file.Printable)
    (h : LineSafe file.path) : ∀ line ∈ file.lines difflib, LineSafe line := by
  intro line hline
  rw [FileDiff.lines, header_eq_cons, List.cons_append] at hline
  rcases List.mem_cons.mp hline with rfl | hline
  · exact lineSafe_headerLine h
  · exact (List.mem_append.mp hline).elim (lineSafe_tail hfile line) (lineSafe_hunks h line)

/-! ## Path headers among the lines -/

theorem isPathHeader_of_head {line : String} {c : Char} (h : line.toList.head? = some c)
    (hc : c ≠ 'd') : isPathHeader line = false := by
  rw [isPathHeader, Bool.eq_false_iff, ne_eq, List.isPrefixOf_iff_prefix]
  rintro ⟨rest, hrest⟩
  have hd : line.toList.head? = some 'd' := by
    rw [← hrest]
    rfl
  rw [h, Option.some.injEq] at hd
  exact hc hd

theorem head_append {s t : String} {c : Char} (h : s.toList.head? = some c) :
    (s ++ t).toList.head? = some c := by
  rw [String.toList_append, List.head?_append, h]
  rfl

theorem isPathHeader_headerLine (file : FileDiff) : isPathHeader file.headerLine = true := by
  rw [isPathHeader, List.isPrefixOf_iff_prefix]
  simp [FileDiff.headerLine, List.append_assoc]

theorem isPathHeader_tail (file : FileDiff) :
    ∀ line ∈ file.header.tail, isPathHeader line = false := by
  intro line hline
  simp only [FileDiff.header, List.tail_cons, List.mem_cons, List.not_mem_nil, or_false] at hline
  rcases hline with rfl | rfl | rfl | rfl | rfl | rfl | rfl
  · exact isPathHeader_of_head (head_append (c := 's') (by decide)) (by decide)
  · exact isPathHeader_of_head (head_append (c := 'o') (by decide)) (by decide)
  · exact isPathHeader_of_head (head_append (c := 'n') (by decide)) (by decide)
  · exact isPathHeader_of_head (head_append (c := 'o') (by decide)) (by decide)
  · exact isPathHeader_of_head (head_append (c := 'n') (by decide)) (by decide)
  · exact isPathHeader_of_head (head_append (c := 'o') (by decide)) (by decide)
  · exact isPathHeader_of_head (head_append (c := 'n') (by decide)) (by decide)

/-- No content line looks like a path header: each begins with its own mark. -/
theorem isPathHeader_hunks {difflib : UnifiedDiff} (file : FileDiff) :
    ∀ line ∈ file.hunks difflib, isPathHeader line = false := by
  intro line hline
  rcases difflib.format _ _ _ _ line hline with
    rfl | rfl | ⟨a, b, c, d, rfl⟩ | ⟨text, htext, rfl | rfl⟩ | ⟨text, htext, rfl⟩
  · exact isPathHeader_of_head (head_append (c := '-') (by decide)) (by decide)
  · exact isPathHeader_of_head (head_append (c := '+') (by decide)) (by decide)
  · exact isPathHeader_of_head (head_append (head_append (head_append (head_append (c := '@')
      (by decide))))) (by decide)
  · exact isPathHeader_of_head (head_append (c := ' ') (by decide)) (by decide)
  · exact isPathHeader_of_head (head_append (c := '-') (by decide)) (by decide)
  · exact isPathHeader_of_head (head_append (c := '+') (by decide)) (by decide)

theorem filter_lines {difflib : UnifiedDiff} (file : FileDiff) :
    (file.lines difflib).filter isPathHeader = [file.headerLine] := by
  have hrest : (file.header.tail ++ file.hunks difflib).filter isPathHeader = [] := by
    apply List.filter_eq_nil_iff.mpr
    intro line hline
    rw [Bool.not_eq_true]
    exact (List.mem_append.mp hline).elim (isPathHeader_tail file line) (isPathHeader_hunks file line)
  rw [FileDiff.lines, header_eq_cons, List.cons_append, List.filter_cons_of_pos, hrest]
  exact isPathHeader_headerLine file

/-! ## Headers that are read back -/

theorem shlexSplit_of_run {text : String} {words : List (List Char)}
    (h : shlexRun .between [] false text.toList = .ok words) :
    shlexSplit text = .ok (words.map String.ofList) := by
  rw [shlexSplit, h]
  rfl

/-- The two words before the paths. -/
theorem shlexRun_diff_git (rest : List Char) :
    shlexRun .between [] false ("diff --git ".toList ++ rest) =
      (shlexRun .between [] false rest).map (["diff".toList, "--git".toList] ++ ·) := by
  have hne : "diff".toList ≠ [] ∧ "--git".toList ≠ [] := by decide
  have hdiff := shlexRun_quoted hne.1 (' ' :: ("--git ".toList ++ rest))
  have hgit := shlexRun_quoted hne.2 (' ' :: rest)
  rw [shlexRun_word_space (by decide)] at hdiff hgit
  have hwords : "diff --git ".toList ++ rest =
      shlexQuoteChars "diff".toList ++ ' ' :: (shlexQuoteChars "--git".toList ++ ' ' :: rest) := rfl
  have hgit' : "--git ".toList ++ rest = shlexQuoteChars "--git".toList ++ ' ' :: rest := rfl
  rw [hgit', hgit] at hdiff
  rw [hwords, hdiff]
  cases shlexRun .between [] false rest with
  | error error => rfl
  | ok words => rfl

theorem shlexSplit_headerLine (file : FileDiff) :
    shlexSplit file.headerLine = .ok ["diff", "--git", "a/" ++ file.path, "b/" ++ file.path] := by
  have hne : ∀ mark : String, mark ≠ "" → (mark ++ file.path).toList ≠ [] := by
    intro mark hmark hnil
    rw [String.toList_append, List.append_eq_nil_iff] at hnil
    exact hmark (String.toList_injective hnil.1)
  have hnew := shlexRun_quoted (hne "b/" (by decide)) []
  rw [List.append_nil, shlexRun_word_end (hne "b/" (by decide))] at hnew
  have hold := shlexRun_quoted (hne "a/" (by decide))
    (' ' :: shlexQuoteChars ("b/" ++ file.path).toList)
  rw [shlexRun_word_space (hne "a/" (by decide)), hnew] at hold
  have hline : file.headerLine.toList = "diff --git ".toList ++
      (shlexQuoteChars ("a/" ++ file.path).toList ++
        ' ' :: shlexQuoteChars ("b/" ++ file.path).toList) := by
    simp [FileDiff.headerLine, shlexQuote]
  have hrun := shlexRun_diff_git (shlexQuoteChars ("a/" ++ file.path).toList ++
    ' ' :: shlexQuoteChars ("b/" ++ file.path).toList)
  rw [← hline, hold] at hrun
  have hwords : shlexRun .between [] false file.headerLine.toList =
      .ok (["diff", "--git", "a/" ++ file.path, "b/" ++ file.path].map String.toList) := hrun
  rw [shlexSplit_of_run hwords, List.map_map]
  simp only [Function.comp_def, String.ofList_toList, List.map_id']

theorem withoutMark_of_marked (mark : Char) (path : String) :
    withoutMark mark (String.ofList [mark, '/'] ++ path) = .ok path := by
  simp [withoutMark]

theorem headerPath_headerLine {deniedPaths : List String} {file : FileDiff}
    (h : PathAdmitted deniedPaths file.path) :
    headerPath deniedPaths file.headerLine = .ok file.path := by
  have hold : withoutMark 'a' ("a/" ++ file.path) = .ok file.path := withoutMark_of_marked 'a' _
  have hnew : withoutMark 'b' ("b/" ++ file.path) = .ok file.path := withoutMark_of_marked 'b' _
  rw [headerPath, shlexSplit_headerLine]
  simp only [Except.mapError, ok_bind, required_some, hold, hnew, ensure_of _ h.safe,
    ensure_of _ h.unprotected, ensure_of]
  rfl

/-! ## The diff of all files -/

/-- The sections of the files, as `_render_snapshot_diff` joins them. -/
def renderedFiles (difflib : UnifiedDiff) (files : List FileDiff) : String :=
  String.join (files.map (FileDiff.rendered difflib))

theorem toList_renderedFiles (difflib : UnifiedDiff) (files : List FileDiff) :
    (renderedFiles difflib files).toList =
      unlines ((files.flatMap (FileDiff.lines difflib)).map String.toList) := by
  induction files with
  | nil => rfl
  | cons file files ih =>
      have hcons : (renderedFiles difflib (file :: files)).toList =
          (file.rendered difflib).toList ++ (renderedFiles difflib files).toList := by
        simp [renderedFiles, String.toList_join]
      have hfile : (file.rendered difflib).toList =
          unlines ((file.lines difflib).map String.toList) := toList_printLines _
      rw [hcons, ih, hfile, List.flatMap_cons, List.map_append]
      exact List.flatMap_append.symm

theorem renderedFiles_eq (difflib : UnifiedDiff) (files : List FileDiff) :
    renderedFiles difflib files = printLines (files.flatMap (FileDiff.lines difflib)) := by
  apply String.toList_injective
  rw [toList_renderedFiles, toList_printLines]

theorem filter_flatMap_lines (difflib : UnifiedDiff) (files : List FileDiff) :
    (files.flatMap (FileDiff.lines difflib)).filter isPathHeader =
      files.map FileDiff.headerLine := by
  induction files with
  | nil => rfl
  | cons file files ih =>
      rw [List.flatMap_cons, List.filter_append, filter_lines, ih, List.map_cons,
        List.singleton_append]

/-- Without separators in the paths, these are read back as they were printed. -/
theorem diffPaths_renderedFiles {difflib : UnifiedDiff} {deniedPaths : List String}
    {files : List FileDiff} (hfiles : ∀ file ∈ files, file.Printable)
    (hsafe : ∀ file ∈ files, LineSafe file.path)
    (hadmitted : ∀ file ∈ files, PathAdmitted deniedPaths file.path) :
    diffPaths deniedPaths (renderedFiles difflib files) = .ok (files.map FileDiff.path) := by
  have hlines : ∀ line ∈ files.flatMap (FileDiff.lines difflib), LineSafe line := by
    intro line hline
    obtain ⟨file, hfile, hline⟩ := List.mem_flatMap.mp hline
    exact lineSafe_lines (hfiles file hfile) (hsafe file hfile) line hline
  rw [diffPaths, renderedFiles_eq, splitlines_printLines hlines, filter_flatMap_lines,
    mapM_eq_ok_iff, List.forall₂_map_left_iff, List.forall₂_map_right_iff, List.forall₂_same]
  intro file hfile
  exact headerPath_headerLine (hadmitted file hfile)

/-! ## Paths that are cut -/

theorem unlines_ends (lines : List (List Char)) :
    unlines lines = [] ∨ (unlines lines).getLast? = some '\n' := by
  induction lines using List.reverseRecOn with
  | nil => exact .inl rfl
  | append_singleton lines line _ =>
      refine .inr ?_
      rw [unlines, List.flatMap_append, List.flatMap_singleton, ← List.append_assoc,
        List.getLast?_concat]

/-- `diff --git ` -/
def diffMark : List Char := ['d', 'i', 'f', 'f', ' ', '-', '-', 'g', 'i', 't', ' ']

theorem toList_diffMark : "diff --git ".toList = diffMark := by decide

/-- The header of a path up to its first separator. -/
def cutHeader (before : List Char) : List Char :=
  diffMark ++ '\'' :: escapeQuotes ('a' :: '/' :: before)

theorem headerPath_cutHeader (deniedPaths : List String) (before : List Char) :
    headerPath deniedPaths (String.ofList (cutHeader before)) =
      .error "trusted diff contains an unparseable path header" := by
  have hrun : shlexRun .between [] false (cutHeader before) = .error .noClosingQuotation := by
    rw [cutHeader, ← toList_diffMark, shlexRun_diff_git, shlexRun, if_neg (by decide),
      if_neg (by decide), if_pos (by decide), shlexRun_cut]
    rfl
  have hsplit : shlexSplit (String.ofList (cutHeader before)) = .error .noClosingQuotation := by
    rw [shlexSplit, String.toList_ofList, hrun]
    rfl
  rw [headerPath, hsplit]
  rfl

theorem isPathHeader_cutHeader (before : List Char) :
    isPathHeader (String.ofList (cutHeader before)) = true := by
  rw [isPathHeader, List.isPrefixOf_iff_prefix, toList_diffMark, String.toList_ofList]
  exact List.prefix_append diffMark _

theorem escapeQuotes_cons {c : Char} (h : c ≠ '\'') (cs : List Char) :
    escapeQuotes (c :: cs) = c :: escapeQuotes cs := by
  simp [escapeQuotes, h]

theorem lineSafe_cutHeader {before : List Char} (h : ∀ c ∈ before, isLineBoundary c = false) :
    ∀ c ∈ cutHeader before, isLineBoundary c = false := by
  have hmark : LineSafe "diff --git " := by decide
  rw [LineSafe, toList_diffMark] at hmark
  have hpath : ∀ c ∈ 'a' :: '/' :: before, isLineBoundary c = false := by
    intro c hc
    simp only [List.mem_cons] at hc
    rcases hc with rfl | rfl | hc
    · decide
    · decide
    · exact h c hc
  intro c hc
  rw [cutHeader, List.mem_append, List.mem_cons, escapeQuotes, List.mem_flatMap] at hc
  rcases hc with hc | rfl | ⟨d, hd, hc⟩
  · exact hmark c hc
  · decide
  · split_ifs at hc
    · simp only [List.mem_cons, List.not_mem_nil, or_false] at hc
      rcases hc with rfl | rfl | rfl | rfl | rfl <;> decide
    · rw [List.mem_singleton.mp hc]
      exact hpath d hd

theorem isShellSafe_of_boundary {c : Char} (h : isLineBoundary c = true) :
    isShellSafe c = false := by
  simp only [isLineBoundary, List.contains_eq_mem, decide_eq_true_eq, List.mem_cons,
    List.not_mem_nil, or_false] at h
  rcases h with rfl | rfl | rfl | rfl | rfl | rfl | rfl | rfl | rfl | rfl <;> decide

/-- The first separator of a path. -/
theorem exists_separator {path : String} (h : ¬ LineSafe path) :
    ∃ before c rest, path.toList = before ++ c :: rest ∧
      (∀ d ∈ before, isLineBoundary d = false) ∧ isLineBoundary c = true := by
  have hfind : (path.toList.find? isLineBoundary).isSome = true := by
    rw [List.find?_isSome]
    by_contra hnone
    apply h
    intro c hc
    by_contra hboundary
    exact hnone ⟨c, hc, by simpa using hboundary⟩
  obtain ⟨c, hc⟩ := Option.isSome_iff_exists.mp hfind
  obtain ⟨hboundary, before, rest, hpath, hbefore⟩ := List.find?_eq_some_iff_append.mp hc
  exact ⟨before, c, rest, hpath, by simpa using hbefore, hboundary⟩

/-- The header line of a path with a separator is cut there, inside the quotation marks. -/
theorem headerLine_of_separator {file : FileDiff} {before rest : List Char} {c : Char}
    (hpath : file.path.toList = before ++ c :: rest) (hc : isLineBoundary c = true) :
    ∃ rest', file.headerLine.toList = cutHeader before ++ c :: rest' := by
  have hlist : ("a/" ++ file.path).toList = 'a' :: '/' :: (before ++ c :: rest) := by
    rw [String.toList_append, hpath]
    rfl
  have hunsafe : ('a' :: '/' :: (before ++ c :: rest)).all isShellSafe = false := by
    rw [List.all_eq_false]
    exact ⟨c, by simp, by simp [isShellSafe_of_boundary hc]⟩
  have hquote : c ≠ '\'' := by
    rintro rfl
    exact absurd hc (by decide)
  have hescape : escapeQuotes ('a' :: '/' :: (before ++ c :: rest)) =
      escapeQuotes ('a' :: '/' :: before) ++ c :: escapeQuotes rest := by
    rw [← escapeQuotes_cons hquote]
    have hsplit : 'a' :: '/' :: (before ++ c :: rest) = ('a' :: '/' :: before) ++ c :: rest := rfl
    rw [hsplit, escapeQuotes, List.flatMap_append]
    rfl
  refine ⟨escapeQuotes rest ++ ['\''] ++ " ".toList ++ (shlexQuote ("b/" ++ file.path)).toList, ?_⟩
  rw [FileDiff.headerLine, String.toList_append, String.toList_append, String.toList_append,
    toList_diffMark, shlexQuote, String.toList_ofList, hlist, shlexQuoteChars_of_special hunsafe,
    hescape, cutHeader]
  simp only [List.append_assoc, List.cons_append]

/-- A path with a separator makes the diff unreadable. -/
theorem diffPaths_of_separator {difflib : UnifiedDiff} {deniedPaths : List String}
    {files : List FileDiff} {file : FileDiff} (hfile : file ∈ files) (h : ¬ LineSafe file.path)
    (paths : List String) : diffPaths deniedPaths (renderedFiles difflib files) ≠ .ok paths := by
  intro hpaths
  obtain ⟨before, after, rfl⟩ := List.append_of_mem hfile
  obtain ⟨start, c, rest, hpath, hstart, hc⟩ := exists_separator h
  obtain ⟨rest', hline⟩ := headerLine_of_separator hpath hc
  have htext : ∃ rest'', (renderedFiles difflib (before ++ file :: after)).toList =
      unlines ((before.flatMap (FileDiff.lines difflib)).map String.toList) ++
        (cutHeader start ++ c :: rest'') := by
    rw [toList_renderedFiles, List.flatMap_append, List.flatMap_cons, FileDiff.lines,
      header_eq_cons, List.cons_append, List.cons_append, List.map_append, List.map_cons, hline,
      unlines, List.flatMap_append, List.flatMap_cons]
    exact ⟨_, by simp only [unlines, List.append_assoc, List.cons_append]; rfl⟩
  obtain ⟨rest'', htext⟩ := htext
  obtain ⟨lines, hlines⟩ := splitLines_append_boundary rest'' (lineSafe_cutHeader hstart) hc
  have hmem : String.ofList (cutHeader start) ∈
      pySplitlines (renderedFiles difflib (before ++ file :: after)) := by
    rw [pySplitlines, htext, splitLines_append _ (unlines_ends _), hlines]
    apply List.mem_map_of_mem
    simp
  obtain ⟨path, hread⟩ := exists_of_forall₂ (mapM_eq_ok_iff.mp hpaths)
    (List.mem_filter.mpr ⟨hmem, isPathHeader_cutHeader start⟩)
  rw [headerPath_cutHeader] at hread
  cases hread

end AmazonSimilarSearch.Packet
