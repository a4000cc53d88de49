import Mathlib.Data.List.Basic
import Mathlib.Data.String.Basic
import Mathlib.Tactic.Common

/-!
# Lines of a text

`str.splitlines` ends a line at any of eleven separators and drops it. Two texts
have the same lines when they agree after each separator is rewritten as a line
feed and the last line is ended by one; `lineFeedForm` is that normal form.
-/
namespace Foundation

/-- The characters that end a line. -/
def isLineBoundary (c : Char) : Bool :=
  ['\n', '\r', '\x0b', '\x0c', '\x1c', '\x1d', '\x1e', '\x85', '\u2028', '\u2029'].contains c

/-- The lines of a text; a carriage return and a line feed together end one line. -/
def splitLines : List Char → List (List Char)
  | [] => []
  | '\r' :: '\n' :: cs => [] :: splitLines cs
  | c :: cs =>
      if isLineBoundary c then [] :: splitLines cs
      else match splitLines cs with
        | [] => [[c]]
        | line :: lines => (c :: line) :: lines

/-- `text.splitlines()` -/
def pySplitlines (text : String) : List String := (splitLines text.toList).map String.ofList

/-- Every separator rewritten as a line feed. -/
def lineFeeds : List Char → List Char
  | [] => []
  | '\r' :: '\n' :: cs => '\n' :: lineFeeds cs
  | c :: cs => (if isLineBoundary c then '\n' else c) :: lineFeeds cs

/-- The text with its last line ended by a line feed. -/
def ended : List Char → List Char
  | [] => []
  | [c] => if c = '\n' then [c] else [c, '\n']
  | c :: d :: cs => c :: ended (d :: cs)

attribute [grind =] splitLines lineFeeds ended

def lineFeedForm (text : List Char) : List Char := ended (lineFeeds text)

def unlines (lines : List (List Char)) : List Char := lines.flatMap (· ++ ['\n'])

@[simp] theorem unlines_nil : unlines [] = [] := rfl

@[simp] theorem unlines_cons (line : List Char) (lines : List (List Char)) :
    unlines (line :: lines) = line ++ '\n' :: unlines lines := by
  simp [unlines]

theorem ended_cons {cs : List Char} (c : Char) (h : cs ≠ []) : ended (c :: cs) = c :: ended cs := by
  cases cs with
  | nil => exact absurd rfl h
  | cons d cs => rfl

theorem ended_lineFeed_cons (cs : List Char) : ended ('\n' :: cs) = '\n' :: ended cs := by
  cases cs <;> rfl

@[simp] theorem splitLines_eq_nil {cs : List Char} : splitLines cs = [] ↔ cs = [] := by
  constructor
  · intro h
    unfold splitLines at h
    split at h
    · rfl
    · cases h
    · split at h
      · cases h
      · split at h <;> cases h
  · rintro rfl
    rfl

@[simp] theorem lineFeeds_eq_nil {cs : List Char} : lineFeeds cs = [] ↔ cs = [] := by
  constructor
  · intro h
    unfold lineFeeds at h
    split at h
    · rfl
    · cases h
    · cases h
  · rintro rfl
    rfl

/-- The lines, each ended by a line feed, are the normal form of the text. -/
theorem unlines_splitLines (cs : List Char) : unlines (splitLines cs) = lineFeedForm cs := by
  unfold lineFeedForm
  fun_induction splitLines cs with
  | case1 => rfl
  | case2 cs ih =>
      rw [unlines_cons, ih, lineFeeds, ended_lineFeed_cons]
      rfl
  | case3 c cs hcrlf hc ih =>
      rw [unlines_cons, ih, lineFeeds, if_pos hc, ended_lineFeed_cons]
      · rfl
      · exact hcrlf
  | case4 c cs hcrlf hc hcs ih =>
      have hnil : cs = [] := splitLines_eq_nil.mp hcs
      subst hnil
      rw [lineFeeds, if_neg hc, lineFeeds, ended, if_neg]
      · rfl
      · rintro rfl
        exact hc (by decide)
      · exact hcrlf
  | case5 c cs hcrlf hc line lines hcs ih =>
      have hne : cs ≠ [] := by
        rintro rfl
        cases hcs
      rw [lineFeeds, if_neg hc, ended_cons _ (by simpa using hne), ← ih, hcs]
      · simp
      · exact hcrlf

theorem isLineBoundary_of_mem_splitLines (cs : List Char) :
    ∀ line ∈ splitLines cs, ∀ c ∈ line, isLineBoundary c = false := by
  fun_induction splitLines cs with
  | case1 => simp
  | case2 cs ih => simpa using ih
  | case3 c cs hcrlf hc ih => simpa using ih
  | case4 c cs hcrlf hc hcs ih => simpa using hc
  | case5 c cs hcrlf hc line lines hcs ih =>
      rw [hcs] at ih
      intro line' hline'
      rcases List.mem_cons.mp hline' with rfl | hline'
      · intro d hd
        rcases List.mem_cons.mp hd with rfl | hd
        · simpa using hc
        · exact ih line (by simp) d hd
      · exact ih line' (List.mem_cons_of_mem line hline')

/-- A line without separators and a line feed are the first line of what follows. -/
theorem splitLines_append_lineFeed {line : List Char} (rest : List Char)
    (h : ∀ c ∈ line, isLineBoundary c = false) :
    splitLines (line ++ '\n' :: rest) = line :: splitLines rest := by
  induction line with
  | nil => rfl
  | cons c line ih =>
      have hc : isLineBoundary c = false := h c (by simp)
      have hline := ih fun d hd => h d (by simp [hd])
      rw [List.cons_append, splitLines, if_neg (by simp [hc]), hline]
      rintro rest' rfl
      cases hc

theorem splitLines_boundary {c : Char} (rest : List Char) (hc : isLineBoundary c = true) :
    ∃ lines, splitLines (c :: rest) = [] :: lines := by
  unfold splitLines
  split
  · next h => cases h
  · exact ⟨_, rfl⟩
  · next h =>
    cases h
    rw [if_pos hc]
    exact ⟨_, rfl⟩

/-- A line without separators ends at whatever separator comes next. -/
theorem splitLines_append_boundary {line : List Char} {c : Char} (rest : List Char)
    (h : ∀ d ∈ line, isLineBoundary d = false) (hc : isLineBoundary c = true) :
    ∃ lines, splitLines (line ++ c :: rest) = line :: lines := by
  induction line with
  | nil => exact splitLines_boundary rest hc
  | cons d line ih =>
      have hd : isLineBoundary d = false := h d (by simp)
      obtain ⟨lines, hlines⟩ := ih fun e he => h e (by simp [he])
      refine ⟨lines, ?_⟩
      rw [List.cons_append, splitLines, if_neg (by simp [hd]), hlines]
      rintro rest' rfl
      cases hd

/-- Behind a line feed the lines start anew. -/
theorem splitLines_append {cs : List Char} (rest : List Char)
    (h : cs = [] ∨ cs.getLast? = some '\n') :
    splitLines (cs ++ rest) = splitLines cs ++ splitLines rest := by
  have htail : ∀ {c : Char} {cs : List Char}, cs ≠ [] →
      (c :: cs = [] ∨ (c :: cs).getLast? = some '\n') → cs = [] ∨ cs.getLast? = some '\n' := by
    intro c cs hne hlast
    rcases hlast with hnil | hlast
    · cases hnil
    · obtain ⟨d, ds, rfl⟩ := List.exists_cons_of_ne_nil hne
      exact .inr (by rwa [List.getLast?_cons_cons] at hlast)
  fun_induction splitLines cs with
  | case1 => rfl
  | case2 cs ih =>
      by_cases hcs : cs = []
      · subst hcs
        rfl
      · rw [List.cons_append, List.cons_append, splitLines, ih (htail hcs (htail (by simp) h)),
          List.cons_append]
  | case3 c cs hcrlf hc ih =>
      by_cases hcs : cs = []
      · subst hcs
        have hfeed : c = '\n' := by simpa using h
        subst hfeed
        rfl
      · rw [List.cons_append, splitLines, if_pos hc, ih (htail hcs h), List.cons_append]
        obtain ⟨d, ds, rfl⟩ := List.exists_cons_of_ne_nil hcs
        rintro rest' rfl hrest
        cases hrest
        exact hcrlf ds rfl rfl
  | case4 c cs hcrlf hc hcs ih =>
      have hnil : cs = [] := splitLines_eq_nil.mp hcs
      subst hnil
      have hfeed : c = '\n' := by simpa using h
      subst hfeed
      exact absurd (by decide) hc
  | case5 c cs hcrlf hc line lines hcs ih =>
      have hne : cs ≠ [] := by
        rintro rfl
        cases hcs
      rw [List.cons_append, splitLines, if_neg hc, ih (htail hne h), hcs]
      · rfl
      · rintro rest' rfl
        exact absurd (by decide) hc

theorem splitLines_unlines {lines : List (List Char)}
    (h : ∀ line ∈ lines, ∀ c ∈ line, isLineBoundary c = false) :
    splitLines (unlines lines) = lines := by
  induction lines with
  | nil => rfl
  | cons line lines ih =>
      rw [unlines_cons, splitLines_append_lineFeed _ (h line (by simp)),
        ih fun line' hline' => h line' (by simp [hline'])]

/-- Texts have the same lines exactly when they have the same normal form. -/
theorem splitLines_eq_iff {cs ds : List Char} :
    splitLines cs = splitLines ds ↔ lineFeedForm cs = lineFeedForm ds := by
  constructor
  · intro h
    rw [← unlines_splitLines, ← unlines_splitLines, h]
  · intro h
    rw [← splitLines_unlines (isLineBoundary_of_mem_splitLines cs), unlines_splitLines, h,
      ← unlines_splitLines, splitLines_unlines (isLineBoundary_of_mem_splitLines ds)]

theorem pySplitlines_eq_iff {s t : String} :
    pySplitlines s = pySplitlines t ↔ lineFeedForm s.toList = lineFeedForm t.toList := by
  have hinj : Function.Injective String.ofList := fun _ _ h => String.ofList_injective h
  rw [pySplitlines, pySplitlines, hinj.list_map.eq_iff, splitLines_eq_iff]

/-- A text whose only separators are line feeds is its own rewriting. -/
theorem lineFeeds_of_lineFeedsOnly {cs : List Char}
    (h : ∀ c ∈ cs, isLineBoundary c = true → c = '\n') : lineFeeds cs = cs := by
  fun_induction lineFeeds cs with
  | case1 => rfl
  | case2 cs ih => exact absurd (h '\r' (by simp) (by decide)) (by decide)
  | case3 c cs hcrlf ih =>
      rw [ih fun d hd => h d (List.mem_cons_of_mem c hd)]
      by_cases hc : isLineBoundary c = true
      · rw [if_pos hc, h c (by simp) hc]
      · rw [if_neg hc]

/-- Ending the last line adds a line feed, unless there is one or no line at all. -/
theorem ended_eq (cs : List Char) :
    ended cs = if cs = [] ∨ cs.getLast? = some '\n' then cs else cs ++ ['\n'] := by
  fun_induction ended cs with
  | case1 => rfl
  | case2 => rfl
  | case3 c hc => simp [hc]
  | case4 c d cs ih =>
      rw [ih]
      simp only [reduceCtorEq, false_or, List.getLast?_cons_cons, List.cons_append]
      split_ifs <;> rfl

end Foundation
