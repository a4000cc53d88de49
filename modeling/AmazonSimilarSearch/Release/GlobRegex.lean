import AmazonSimilarSearch.Foundation.Text
import AmazonSimilarSearch.Review.Paths

/-!
# The regular expression of a glob

`_glob_regex` writes an expression from the pattern, one character after the other,
and `re.compile` reads it. Characters that mean something in an expression are
escaped, so what is read has one node for each token of the pattern.
-/
namespace AmazonSimilarSearch.Release
open Foundation
open Review (GlobToken globTokens)

/-! ## Writing -/

/-- The characters that `re.escape` puts a backslash in front of. -/
def specialChars : List Char :=
  ['(', ')', '[', ']', '\x7b', '\x7d', '?', '*', '+', '-', '|', '^', '$', '\\', '.', '&', '~', '#',
    ' ', '\t', '\n', '\r', '\x0b', '\x0c']

/-- `re.escape(character)` -/
def escapeChar (c : Char) : List Char := if c ∈ specialChars then ['\\', c] else [c]

/-- The loop of `_glob_regex` on what is left of the pattern. -/
def globExpression : List Char → List Char
  | [] => []
  | '*' :: '*' :: '/' :: cs => "(?:.*/)?".toList ++ globExpression cs
  | '*' :: '*' :: cs => ".*".toList ++ globExpression cs
  | '*' :: cs => "[^/]*".toList ++ globExpression cs
  | '?' :: cs => "[^/]".toList ++ globExpression cs
  | c :: cs => escapeChar c ++ globExpression cs

/-- The expression that `_glob_regex` compiles. -/
def globRegex (pattern : String) : List Char := '^' :: (globExpression pattern.toList ++ ['$'])

/-! ## Reading -/

inductive RegexNode where
  | literal (c : Char)
  | any
  /-- every character but this one -/
  | except (c : Char)
  | start
  | stop
  | group (nodes : List RegexNode)
  | star (node : RegexNode)
  | optional (node : RegexNode)

/-- What a repetition can follow. -/
def RegexNode.repeatable : RegexNode → Bool
  | start => false
  | stop => false
  | star _ => false
  | optional _ => false
  | _ => true

/-- The characters that do not stand for themselves. -/
def regexChars : List Char :=
  ['(', ')', '[', '\x7b', '?', '*', '+', '|', '^', '$', '\\', '.']

/-- The repetition of a node, where it can be repeated. -/
def RegexNode.repeated (node : RegexNode) (c : Char) : Option RegexNode :=
  if node.repeatable then
    if c = '*' then some (.star node) else if c = '?' then some (.optional node) else none
  else none

/-- The nodes of an expression; `outer` holds those of the open groups and `nodes` those of the
innermost one, last first. Nothing stands for the `re.error` of a malformed expression, and for
syntax that `_glob_regex` never writes. -/
def readRegex : List Char → List (List RegexNode) → List RegexNode → Option (List RegexNode)
  | [], outer, nodes => if outer.isEmpty then some nodes.reverse else none
  | c :: cs, outer, nodes =>
      if c ∉ regexChars then readRegex cs outer (.literal c :: nodes)
      else if c = '\\' then
        match cs with
        | [] => none
        | d :: cs => if isAlphanumericAscii d then none else readRegex cs outer (.literal d :: nodes)
      else if c = '(' then
        match cs with
        | '?' :: ':' :: cs => readRegex cs (nodes :: outer) []
        | _ => none
      else if c = ')' then
        match outer with
        | enclosing :: outer => readRegex cs outer (.group nodes.reverse :: enclosing)
        | [] => none
      else if c = '[' then
        match cs with
        | '^' :: d :: ']' :: cs =>
            if d ∈ ['\\', '[', ']', '^', '-'] then none
            else readRegex cs outer (.except d :: nodes)
        | _ => none
      else if c = '.' then readRegex cs outer (.any :: nodes)
      else if c = '^' then readRegex cs outer (.start :: nodes)
      else if c = '$' then readRegex cs outer (.stop :: nodes)
      else match nodes with
        | [] => none
        | node :: nodes => match node.repeated c with
            | none => none
            | some node => readRegex cs outer (node :: nodes)

attribute [grind =] readRegex

/-- `re.compile(expression)` -/
def compileRegex (expression : List Char) : Option (List RegexNode) := readRegex expression [] []

/-! ## What is written is read -/

/-- The node that a token of the pattern is read as. -/
def tokenNode : GlobToken → RegexNode
  | .directories => .optional (.group [.star .any, .literal '/'])
  | .anything => .star .any
  | .segment => .star (.except '/')
  | .one => .except '/'
  | .literal c => .literal c

section Reading

variable {c d : Char} {cs : List Char} {outer : List (List RegexNode)} {nodes : List RegexNode}

theorem readRegex_plain (h : c ∉ regexChars) :
    readRegex (c :: cs) outer nodes = readRegex cs outer (.literal c :: nodes) := by
  rw [readRegex.eq_def]
  exact if_pos h

theorem readRegex_backslash (h : isAlphanumericAscii d = false) :
    readRegex ('\\' :: d :: cs) outer nodes = readRegex cs outer (.literal d :: nodes) := by
  rw [readRegex.eq_def]
  simp [regexChars, h]

theorem readRegex_open :
    readRegex ('(' :: '?' :: ':' :: cs) outer nodes = readRegex cs (nodes :: outer) [] := by
  rw [readRegex.eq_def]
  simp [regexChars]

theorem readRegex_close {enclosing : List RegexNode} :
    readRegex (')' :: cs) (enclosing :: outer) nodes =
      readRegex cs outer (.group nodes.reverse :: enclosing) := by
  rw [readRegex.eq_def]
  simp [regexChars]

theorem readRegex_class (h : d ∉ ['\\', '[', ']', '^', '-']) :
    readRegex ('[' :: '^' :: d :: ']' :: cs) outer nodes =
      readRegex cs outer (.except d :: nodes) := by
  rw [readRegex.eq_def]
  simp only [List.mem_cons, List.not_mem_nil, or_false] at h
  simp [regexChars, h]

/-- A character that is a node of its own. -/
theorem readRegex_single {node : RegexNode}
    (h : (c, node) ∈ [('.', RegexNode.any), ('^', .start), ('$', .stop)]) :
    readRegex (c :: cs) outer nodes = readRegex cs outer (node :: nodes) := by
  rw [readRegex.eq_def]
  simp only [List.mem_cons, Prod.mk.injEq, List.not_mem_nil, or_false] at h
  obtain ⟨rfl, rfl⟩ | ⟨rfl, rfl⟩ | ⟨rfl, rfl⟩ := h <;> simp [regexChars]

/-- A character that repeats the node before it. -/
theorem readRegex_repeated {node next : RegexNode} (hc : c = '*' ∨ c = '?')
    (h : node.repeated c = some next) :
    readRegex (c :: cs) outer (node :: nodes) = readRegex cs outer (next :: nodes) := by
  rw [readRegex.eq_def]
  obtain rfl | rfl := hc <;> simp [regexChars, h]

/-- `(?:.*/)?` -/
theorem readRegex_directories :
    readRegex ("(?:.*/)?".toList ++ cs) outer nodes =
      readRegex cs outer (tokenNode .directories :: nodes) := by
  calc readRegex ("(?:.*/)?".toList ++ cs) outer nodes
      = readRegex ('.' :: '*' :: '/' :: ')' :: '?' :: cs) (nodes :: outer) [] := readRegex_open
    _ = readRegex ('/' :: ')' :: '?' :: cs) (nodes :: outer) [.star .any] := by
        rw [readRegex_single (.head _), readRegex_repeated (.inl rfl) rfl]
    _ = readRegex ('?' :: cs) outer (.group [.star .any, .literal '/'] :: nodes) := by
        rw [readRegex_plain (by decide), readRegex_close]
        rfl
    _ = readRegex cs outer (tokenNode .directories :: nodes) := readRegex_repeated (.inr rfl) rfl

/-- `[^/]` -/
theorem readRegex_one :
    readRegex ("[^/]".toList ++ cs) outer nodes = readRegex cs outer (tokenNode .one :: nodes) :=
  readRegex_class (by decide)

/-- `[^/]*` -/
theorem readRegex_segment :
    readRegex ("[^/]*".toList ++ cs) outer nodes =
      readRegex cs outer (tokenNode .segment :: nodes) :=
  (readRegex_class (by decide)).trans (readRegex_repeated (.inl rfl) rfl)

/-- `.*` -/
theorem readRegex_anything :
    readRegex (".*".toList ++ cs) outer nodes =
      readRegex cs outer (tokenNode .anything :: nodes) :=
  (readRegex_single (.head _)).trans (readRegex_repeated (.inl rfl) rfl)

theorem readRegex_escapeChar :
    readRegex (escapeChar c ++ cs) outer nodes =
      readRegex cs outer (tokenNode (.literal c) :: nodes) := by
  have hspecial : ∀ c ∈ specialChars, isAlphanumericAscii c = false :=
    by simpa only [List.all_eq_true, Bool.not_eq_true'] using
      (by decide : specialChars.all (!isAlphanumericAscii ·) = true)
  have hregex : ∀ c ∈ regexChars, c ∈ specialChars := fun _ hc =>
    (by decide : regexChars ⊆ specialChars) hc
  rw [escapeChar]
  by_cases hc : c ∈ specialChars
  · rw [if_pos hc]
    exact readRegex_backslash (hspecial c hc)
  · rw [if_neg hc]
    exact readRegex_plain fun hmem => hc (hregex c hmem)

end Reading

/-- What is written for a pattern is read as the nodes of its tokens. -/
theorem readRegex_globExpression (cs rest : List Char) (outer : List (List RegexNode))
    (nodes : List RegexNode) :
    readRegex (globExpression cs ++ rest) outer nodes =
      readRegex rest outer (((globTokens cs).map tokenNode).reverse ++ nodes) := by
  have hstep : ∀ (token : GlobToken) (tokens : List GlobToken) (nodes : List RegexNode),
      ((token :: tokens).map tokenNode).reverse ++ nodes =
        (tokens.map tokenNode).reverse ++ (tokenNode token :: nodes) := by
    simp
  fun_induction globExpression cs generalizing nodes with
  | case1 => rfl
  | case2 cs ih =>
      rw [List.append_assoc, readRegex_directories, ih, globTokens, hstep]
  | case3 cs hslash ih =>
      rw [List.append_assoc, readRegex_anything, ih, globTokens, hstep]
      exact hslash
  | case4 cs hslash hstar ih =>
      rw [List.append_assoc, readRegex_segment, ih, globTokens, hstep]
      · exact hslash
      · exact hstar
  | case5 cs ih =>
      rw [List.append_assoc, readRegex_one, ih, globTokens, hstep]
  | case6 c cs h1 h2 h3 h4 ih =>
      rw [List.append_assoc, readRegex_escapeChar, ih, globTokens, hstep]
      all_goals assumption

/-- Every pattern is compiled, and has one node for each of its tokens. -/
theorem compileRegex_globRegex (pattern : String) :
    compileRegex (globRegex pattern) =
      some (.start :: ((globTokens pattern.toList).map tokenNode ++ [.stop])) := by
  rw [compileRegex, globRegex, readRegex_single (.tail _ (.head _)), readRegex_globExpression,
    readRegex_single (.tail _ (.tail _ (.head _)))]
  rw [readRegex.eq_def]
  simp

end AmazonSimilarSearch.Release
