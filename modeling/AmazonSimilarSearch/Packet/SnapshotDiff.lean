import AmazonSimilarSearch.Foundation.Lines
import AmazonSimilarSearch.Foundation.Shlex
import AmazonSimilarSearch.Review.Models
import AmazonSimilarSearch.Review.Paths

/-!
# The review diff

`_render_snapshot_diff` of `review_packet.py` prints what changed between two
verified snapshots. It splits the texts with `splitlines`, so a line of the diff
does not show which separator ended it; only the final line feed has a header of
its own. A text is determined up to its separators, and no further.
-/
namespace AmazonSimilarSearch.Packet
open Foundation Review

/-! ## Paths -/

/-- `_PROTECTED_PATTERNS` of `review_packet.py` -/
def packetProtectedPatterns : List String :=
  [".streamlit/secrets.toml", "**/.streamlit/secrets.toml", ".git", ".git/**", "cache", "cache/**"]

/-- `_is_protected_path` of `review_packet.py` -/
def isPacketProtectedPath (path : String) (deniedPaths : List String) : Bool :=
  (sensitivePathReason path).isSome || matchesFolded path packetProtectedPatterns ||
    matchesFolded path deniedPaths

/-- `_safe_repo_path` of `review_packet.py` -/
def packetSafeRepoPath (path : String) : Bool :=
  if path = "" || ['/', '\\'].any (path.toList.head? = some ·) || path.toList.contains '\\' then false
  else !((pathParts path).any fun part => ["", ".", ".."].contains part) &&
    !path.toList.any fun c => c.toNat < 32

/-! ## Snapshots -/

/-- An entry of a snapshot manifest. -/
structure SnapshotFile where
  mode : String
  path : String
  sha256 : String
  size : ℕ
  deriving DecidableEq, Repr

/-- A verified snapshot: the entries of its manifest, and what `read_protected_file` reads of
one of them, or nothing when it raises. -/
structure Snapshot where
  files : List SnapshotFile
  paths_nodup : (files.map SnapshotFile.path).Nodup
  read : SnapshotFile → Option Bytes

/-- `entries.get(path)` -/
def Snapshot.get (snapshot : Snapshot) (path : String) : Option SnapshotFile :=
  snapshot.files.find? (·.path = path)

def Snapshot.paths (snapshot : Snapshot) : List String := snapshot.files.map SnapshotFile.path

/-- The content of a snapshot file: UTF-8 text without NUL. -/
structure SnapshotText where
  raw : Bytes
  text : String
  decodes : decodeUtf8 raw = some text
  noNul : '\x00' ∉ text.toList

/-- `_read_snapshot_text` -/
def readSnapshotText (snapshot : Snapshot) (entry : SnapshotFile) : Except String SnapshotText :=
  match snapshot.read entry with
  | none => .error ("review snapshot file is not verified UTF-8 text: " ++ entry.path)
  | some raw =>
      match hdecodes : decodeUtf8 raw with
      | none => .error ("review snapshot file is not verified UTF-8 text: " ++ entry.path)
      | some text =>
          if hnul : '\x00' ∈ text.toList then
            .error ("review snapshot file contains a NUL byte: " ++ entry.path)
          else .ok ⟨raw, text, hdecodes, hnul⟩

/-! ## Unified diffs -/

/-- `_format_range_unified(start, stop)` -/
def formatRangeUnified (start stop : ℕ) : String :=
  if stop - start = 1 then toString (start + 1)
  else if stop = start then toString start ++ "," ++ toString (stop - start)
  else toString (start + 1) ++ "," ++ toString (stop - start)

/-- The first line of a hunk over lines `a` to `b` of the old text and `c` to `d` of the new. -/
def hunkHeader (a b c d : ℕ) : String :=
  "@@ -" ++ formatRangeUnified a b ++ " +" ++ formatRangeUnified c d ++ " @@"

/-- `difflib.unified_diff` with `lineterm=""`: whatever hunks it chooses, they are printed in the
unified format, they are none when there is no change, and they give the new lines when applied
to the old ones. -/
structure UnifiedDiff where
  unifiedDiff : (old new : List String) → (fromfile tofile : String) → List String
  eq_nil_iff : ∀ old new fromfile tofile, unifiedDiff old new fromfile tofile = [] ↔ old = new
  new_eq : ∀ old new new' fromfile tofile,
    unifiedDiff old new fromfile tofile = unifiedDiff old new' fromfile tofile → new = new'
  format : ∀ old new fromfile tofile, ∀ line ∈ unifiedDiff old new fromfile tofile,
    line = "--- " ++ fromfile ∨ line = "+++ " ++ tofile ∨
      (∃ a b c d, line = hunkHeader a b c d) ∨
      (∃ text ∈ old, line = " " ++ text ∨ line = "-" ++ text) ∨
      ∃ text ∈ new, line = "+" ++ text

/-! ## Rendering -/

/-- `raw.endswith(bytes((10,)))` -/
def endsWithLineFeed (raw : Bytes) : Bool := raw.getLast? = some 10

/-- A changed file with the texts that are compared; an added file has no old one. -/
structure FileDiff where
  path : String
  old : Option (SnapshotFile × SnapshotText)
  entry : SnapshotFile
  new : SnapshotText

namespace FileDiff

def status (file : FileDiff) : String := if file.old.isSome then "M" else "A"
def oldText (file : FileDiff) : String := (file.old.map fun old => old.2.text).getD ""
def oldRaw (file : FileDiff) : Bytes := (file.old.map fun old => old.2.raw).getD []
def oldLabel (file : FileDiff) : String := if file.old.isSome then "a/" ++ file.path else "/dev/null"
def newLabel (file : FileDiff) : String := "b/" ++ file.path

/-- What the final-newline headers show. -/
def finalNewlines (file : FileDiff) : Bool × Bool :=
  (endsWithLineFeed file.oldRaw, endsWithLineFeed file.new.raw)

def header (file : FileDiff) : List String := [
  "diff --git " ++ shlexQuote ("a/" ++ file.path) ++ " " ++ shlexQuote file.newLabel,
  "status " ++ file.status,
  "old-mode " ++ (file.old.map fun old => old.1.mode).getD "000000",
  "new-mode " ++ file.entry.mode,
  "old-sha256 " ++ (file.old.map fun old => old.1.sha256).getD
    "0000000000000000000000000000000000000000000000000000000000000000",
  "new-sha256 " ++ file.entry.sha256,
  "old-final-newline " ++ (if file.finalNewlines.1 then "true" else "false"),
  "new-final-newline " ++ (if file.finalNewlines.2 then "true" else "false")]

def hunks (difflib : UnifiedDiff) (file : FileDiff) : List String :=
  difflib.unifiedDiff (pySplitlines file.oldText) (pySplitlines file.new.text) file.oldLabel
    file.newLabel

end FileDiff

/-- `"\n".join(lines) + "\n"` of lines that are not none. -/
def printLines (lines : List String) : String := String.join (lines.map (· ++ "\n"))

def FileDiff.rendered (difflib : UnifiedDiff) (file : FileDiff) : String :=
  printLines (file.header ++ file.hunks difflib)

/-- The changed paths with their entries, and whether they were added. -/
def snapshotChange (base candidate : Snapshot) (path : String) :
    Except String (Option (String × Option SnapshotFile × SnapshotFile)) := do
  let old := base.get path
  match candidate.get path with
  | none =>
      if old = none then pure none
      else .error "snapshot-derived review diff does not support deleted files"
  | some new =>
      if old = some new then pure none
      else do
        ensure (old.all fun old => old.mode = new.mode)
          "snapshot-derived review diff does not support mode changes"
        pure (some (path, old, new))

/-- `expected[path]`: the last of the files with this path. -/
def expectedFile (changedFiles : List DiffFile) (path : String) : Option DiffFile :=
  changedFiles.reverse.find? (·.path = path)

/-- The body of the loop over the changed paths. -/
def readFileDiff (deniedPaths : List String) (changedFiles : List DiffFile)
    (base candidate : Snapshot) (change : String × Option SnapshotFile × SnapshotFile) :
    Except String FileDiff := do
  let (path, old, entry) := change
  let policyFile ← required ("KeyError: " ++ path) (expectedFile changedFiles path)
  ensure (policyFile.status = if old.isSome then "M" else "A")
    "snapshot change status does not match the passing policy"
  ensure (policyFile.contentSha256.map LowerHex.text = some entry.sha256)
    "snapshot content does not match the passing policy digest"
  ensure (isPacketProtectedPath path deniedPaths = false)
    ("snapshot-derived review diff contains protected path: " ++ path)
  let oldText ← match old with
    | none => pure none
    | some old => do
        let text ← readSnapshotText base old
        pure (some (old, text))
  let new ← readSnapshotText candidate entry
  pure ⟨path, oldText, entry, new⟩

/-- `_render_snapshot_diff` -/
def renderSnapshotDiff (difflib : UnifiedDiff) (deniedPaths : List String)
    (changedFiles : List DiffFile) (base candidate : Snapshot) : Except String String := do
  let paths := sortedText (base.paths ++ candidate.paths).dedup
  let changes ← paths.mapM (snapshotChange base candidate)
  let actual := changes.filterMap id
  ensure ((∀ change ∈ actual, change.1 ∈ changedFiles.map DiffFile.path) ∧
      ∀ path ∈ changedFiles.map DiffFile.path, path ∈ actual.map Prod.fst)
    "snapshot changes do not match the passing policy paths"
  let files ← actual.mapM (readFileDiff deniedPaths changedFiles base candidate)
  ensure (files ≠ []) "snapshot-derived review diff is empty"
  pure (String.join (files.map (FileDiff.rendered difflib)))

/-! ## What a diff determines -/

/-- `text` without the line feed that may end it. -/
def withoutFinalLineFeed (text : String) : List Char :=
  if text.toList.getLast? = some '\n' then text.toList.dropLast else text.toList

/-- The same lines, up to the separators that end them. -/
def SameLines (s t : String) : Prop := lineFeedForm s.toList = lineFeedForm t.toList

/-- The diff of the same file with another candidate content. -/
def FileDiff.withCandidate (file : FileDiff) (other : SnapshotFile × SnapshotText) : FileDiff :=
  { file with entry := other.1, new := other.2 }

/-- The hunks and the final-newline headers of a file tell its new text from another one, and
show a change unless it is in the final line feed only. -/
structure FileDiff.Faithful (difflib : UnifiedDiff) (file : FileDiff)
    (other : SnapshotFile × SnapshotText) : Prop where
  determined : (file.withCandidate other).hunks difflib = file.hunks difflib →
    (file.withCandidate other).finalNewlines = file.finalNewlines → other.2.text = file.new.text
  visible : file.hunks difflib = [] →
    withoutFinalLineFeed file.oldText = withoutFinalLineFeed file.new.text

variable {difflib : UnifiedDiff} {file : FileDiff} {other : SnapshotFile × SnapshotText}

theorem hunks_eq_iff :
    (file.withCandidate other).hunks difflib = file.hunks difflib ↔
      SameLines other.2.text file.new.text := by
  constructor
  · intro h
    exact pySplitlines_eq_iff.mp (difflib.new_eq _ _ _ _ _ h)
  · intro h
    have hlines := pySplitlines_eq_iff.mpr h
    simp only [FileDiff.withCandidate, FileDiff.hunks, hlines]
    rfl

theorem hunks_eq_nil_iff : file.hunks difflib = [] ↔ SameLines file.oldText file.new.text := by
  rw [FileDiff.hunks, difflib.eq_nil_iff, pySplitlines_eq_iff, SameLines]

theorem finalNewlines_eq_iff :
    (file.withCandidate other).finalNewlines = file.finalNewlines ↔
      endsWithLineFeed other.2.raw = endsWithLineFeed file.new.raw := by
  simp only [FileDiff.withCandidate, FileDiff.finalNewlines, FileDiff.oldRaw, Prod.mk.injEq, true_and]

/-- A diff is faithful exactly where no two of the texts differ only in the separators that end
their lines. -/
theorem faithful_iff (difflib : UnifiedDiff) (file : FileDiff)
    (other : SnapshotFile × SnapshotText) :
    file.Faithful difflib other ↔
      (SameLines other.2.text file.new.text →
        endsWithLineFeed other.2.raw = endsWithLineFeed file.new.raw →
          other.2.text = file.new.text) ∧
      (SameLines file.oldText file.new.text →
        withoutFinalLineFeed file.oldText = withoutFinalLineFeed file.new.text) := by
  constructor
  · intro h
    constructor
    · intro hlines hfinal
      exact h.determined (hunks_eq_iff.mpr hlines) (finalNewlines_eq_iff.mpr hfinal)
    · intro hlines
      exact h.visible (hunks_eq_nil_iff.mpr hlines)
  · rintro ⟨hdetermined, hvisible⟩
    constructor
    · intro hhunks hfinal
      exact hdetermined (hunks_eq_iff.mp hhunks) (finalNewlines_eq_iff.mp hfinal)
    · intro hhunks
      exact hvisible (hunks_eq_nil_iff.mp hhunks)

/-! ## Texts of line feeds -/

/-- No separator but the line feed. -/
def LineFeedsOnly (text : String) : Prop := ∀ c ∈ text.toList, isLineBoundary c = true → c = '\n'

theorem endsWithLineFeed_iff (text : SnapshotText) :
    endsWithLineFeed text.raw = true ↔ text.text.toList.getLast? = some '\n' := by
  rw [endsWithLineFeed, decide_eq_true_iff, ← encodeUtf8_of_decodeUtf8 text.decodes,
    getLast?_encodeUtf8]

/-- Texts of line feeds with the same lines differ at most in a final line feed. -/
theorem ended_eq_of_sameLines {s t : String} (hs : LineFeedsOnly s) (ht : LineFeedsOnly t)
    (h : SameLines s t) : ended s.toList = ended t.toList := by
  rw [SameLines, lineFeedForm, lineFeedForm, lineFeeds_of_lineFeedsOnly hs,
    lineFeeds_of_lineFeedsOnly ht] at h
  exact h

theorem eq_of_ended_eq {cs ds : List Char} (h : ended cs = ended ds)
    (hfinal : cs.getLast? = some '\n' ↔ ds.getLast? = some '\n') : cs = ds := by
  rw [ended_eq, ended_eq] at h
  by_cases hcs : cs.getLast? = some '\n'
  · rwa [if_pos (Or.inr hcs), if_pos (Or.inr (hfinal.mp hcs))] at h
  · have hds : ¬ ds.getLast? = some '\n' := fun hds => hcs (hfinal.mpr hds)
    simp only [hcs, hds, or_false] at h
    split_ifs at h with hnil hnil' hnil'
    · exact h
    · simp [hnil] at h
    · simp [hnil'] at h
    · exact List.append_cancel_right h

theorem dropFinal_ended (cs : List Char) :
    (if cs.getLast? = some '\n' then cs.dropLast else cs) = (ended cs).dropLast := by
  rw [ended_eq]
  by_cases hcs : cs.getLast? = some '\n'
  · rw [if_pos hcs, if_pos (Or.inr hcs)]
  · by_cases hnil : cs = []
    · subst hnil
      rfl
    · rw [if_neg hcs, if_neg (by simp [hcs, hnil]), List.dropLast_concat]

/-- A diff between texts of line feeds is faithful. -/
theorem faithful_of_lineFeedsOnly (hold : LineFeedsOnly file.oldText)
    (hnew : LineFeedsOnly file.new.text) (hother : LineFeedsOnly other.2.text) :
    file.Faithful difflib other := by
  apply (faithful_iff difflib file other).mpr
  constructor
  · intro hlines hfinal
    apply String.toList_injective
    apply eq_of_ended_eq (ended_eq_of_sameLines hother hnew hlines)
    rw [← endsWithLineFeed_iff, ← endsWithLineFeed_iff, hfinal]
  · intro hlines
    unfold withoutFinalLineFeed
    rw [dropFinal_ended, dropFinal_ended, ended_eq_of_sameLines hold hnew hlines]

/-! ## Separators that a diff does not show -/

/-- A diff that replaces all old lines by all new ones. -/
def replaceAll : UnifiedDiff where
  unifiedDiff old new fromfile tofile :=
    if old = new then []
    else ["--- " ++ fromfile, "+++ " ++ tofile, hunkHeader 0 old.length 0 new.length] ++
      old.map ("-" ++ ·) ++ new.map ("+" ++ ·)
  eq_nil_iff old new fromfile tofile := by
    split_ifs with h <;> simp [h]
  new_eq old new new' fromfile tofile h := by
    have hinj : Function.Injective fun text : String => "+" ++ text :=
      fun _ _ htext => by simpa using htext
    split_ifs at h with h₁ h₂ h₂
    · exact h₁.symm.trans h₂
    · simp at h
    · simp at h
    · simp only [List.cons_append, List.nil_append, List.cons.injEq, true_and,
        List.append_cancel_left_eq] at h
      exact hinj.list_map h.2
  format old new fromfile tofile line hline := by
    split_ifs at hline
    · cases hline
    · simp only [List.cons_append, List.nil_append, List.mem_cons, List.mem_append,
        List.mem_map] at hline
      rcases hline with rfl | rfl | rfl | ⟨text, htext, rfl⟩ | ⟨text, htext, rfl⟩
      · exact .inl rfl
      · exact .inr (.inl rfl)
      · exact .inr (.inr (.inl ⟨_, _, _, _, rfl⟩))
      · exact .inr (.inr (.inr (.inl ⟨text, htext, .inr rfl⟩)))
      · exact .inr (.inr (.inr (.inr ⟨text, htext, rfl⟩)))

def SnapshotText.ofText (text : String) (h : '\x00' ∉ text.toList) : SnapshotText :=
  ⟨encodeUtf8 text, text, decodeUtf8_encodeUtf8 text, h⟩

/-- The manifest entry of `notes.txt` with this content. -/
def notesEntry (text : String) : SnapshotFile :=
  ⟨"100644", "notes.txt", (sha256 (encodeUtf8 text)).text, (encodeUtf8 text).length⟩

def notesText (text : String) (h : '\x00' ∉ text.toList) : SnapshotFile × SnapshotText :=
  (notesEntry text, .ofText text h)

def notesDiff : FileDiff where
  path := "notes.txt"
  old := some (notesText "b\n" (by decide))
  entry := notesEntry "a\n"
  new := .ofText "a\n" (by decide)

/-- A carriage return before the line feed changes the text and not its diff. -/
theorem carriageReturn_unfaithful :
    ¬ notesDiff.Faithful replaceAll (notesText "a\r\n" (by decide)) := by
  intro h
  have hlines : SameLines "a\r\n" "a\n" := by
    unfold SameLines
    decide
  have hfinal : endsWithLineFeed (encodeUtf8 "a\r\n") = endsWithLineFeed (encodeUtf8 "a\n") := by
    decide
  have htext : "a\r\n" = "a\n" :=
    h.determined (hunks_eq_iff.mpr hlines) (finalNewlines_eq_iff.mpr hfinal)
  exact absurd htext (by decide)

end AmazonSimilarSearch.Packet
