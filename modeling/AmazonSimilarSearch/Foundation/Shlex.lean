import AmazonSimilarSearch.Foundation.Text

/-!
# Words of a shell line

`shlex.quote` and `shlex.split`. The splitter reads one character at a time; a
quoted word may be empty, and a quotation or an escape that never ends raises.
A quoted word is read back as it was, and cut anywhere inside it raises.
-/
namespace Foundation

/-- ASCII word characters, `@%+=:,./` and the hyphen need no quotes. -/
def isShellSafe (c : Char) : Bool :=
  isAlphanumericAscii c || ['_', '@', '%', '+', '=', ':', ',', '.', '/', '-'].contains c

/-- `text.replace("'", "'\"'\"'")` -/
def escapeQuotes (cs : List Char) : List Char :=
  cs.flatMap fun c => if c = '\'' then ['\'', '"', '\'', '"', '\''] else [c]

def shlexQuoteChars (cs : List Char) : List Char :=
  if cs = [] then ['\'', '\'']
  else if cs.all isShellSafe then cs
  else '\'' :: (escapeQuotes cs ++ ['\''])

/-- `shlex.quote` -/
def shlexQuote (text : String) : String := String.ofList (shlexQuoteChars text.toList)

inductive ShlexError where
  | noClosingQuotation
  | noEscapedCharacter
  deriving DecidableEq, Repr

/-- Where the splitter is; `escape` remembers the quotation it is in. -/
inductive ShlexState where
  | between
  | word
  | quote (mark : Char)
  | escape (mark : Option Char)
  deriving DecidableEq, Repr

def isShellSpace (c : Char) : Bool := c = ' ' || c = '\t' || c = '\r' || c = '\n'
def isShellQuote (c : Char) : Bool := c = '\'' || c = '"'

/-- `read_token` until the end of the text: `token` is what the word has so far, and `quoted`
whether part of it was quoted. -/
def shlexRun : ShlexState → List Char → Bool → List Char →
    Except ShlexError (List (List Char))
  | .between, _, _, [] => .ok []
  | .word, token, quoted, [] => .ok (if token ≠ [] ∨ quoted then [token] else [])
  | .quote _, _, _, [] => .error .noClosingQuotation
  | .escape _, _, _, [] => .error .noEscapedCharacter
  | .between, _, _, c :: cs =>
      if isShellSpace c then shlexRun .between [] false cs
      else if c = '\\' then shlexRun (.escape none) [] false cs
      else if isShellQuote c then shlexRun (.quote c) [] true cs
      else shlexRun .word [c] false cs
  | .word, token, quoted, c :: cs =>
      if isShellSpace c then
        if token ≠ [] ∨ quoted then do
          let words ← shlexRun .between [] false cs
          pure (token :: words)
        else shlexRun .between [] false cs
      else if isShellQuote c then shlexRun (.quote c) token true cs
      else if c = '\\' then shlexRun (.escape none) token quoted cs
      else shlexRun .word (token ++ [c]) quoted cs
  | .quote mark, token, _, c :: cs =>
      if c = mark then shlexRun .word token true cs
      else if c = '\\' ∧ mark = '"' then shlexRun (.escape (some mark)) token true cs
      else shlexRun (.quote mark) (token ++ [c]) true cs
  | .escape none, token, quoted, c :: cs => shlexRun .word (token ++ [c]) quoted cs
  | .escape (some mark), token, quoted, c :: cs =>
      let kept := if c ≠ '\\' ∧ c ≠ mark then ['\\'] else []
      shlexRun (.quote mark) (token ++ kept ++ [c]) quoted cs

attribute [grind =] shlexRun

/-- `shlex.split` -/
def shlexSplit (text : String) : Except ShlexError (List String) := do
  let words ← shlexRun .between [] false text.toList
  pure (words.map String.ofList)

theorem not_special_of_isShellSafe {c : Char} (h : isShellSafe c = true) :
    isShellSpace c = false ∧ isShellQuote c = false ∧ c ≠ '\\' := by
  refine ⟨?_, ?_, ?_⟩
  · by_contra hspace
    simp only [isShellSpace, Bool.not_eq_false, Bool.or_eq_true, decide_eq_true_eq] at hspace
    rcases hspace with ((rfl | rfl) | rfl) | rfl <;> exact absurd h (by decide)
  · by_contra hquote
    simp only [isShellQuote, Bool.not_eq_false, Bool.or_eq_true, decide_eq_true_eq] at hquote
    rcases hquote with rfl | rfl <;> exact absurd h (by decide)
  · rintro rfl
    exact absurd h (by decide)

theorem shlexRun_safe {cs : List Char} (h : cs.all isShellSafe = true) (token : List Char)
    (quoted : Bool) (rest : List Char) :
    shlexRun .word token quoted (cs ++ rest) = shlexRun .word (token ++ cs) quoted rest := by
  induction cs generalizing token with
  | nil => simp
  | cons c cs ih =>
      simp only [List.all_cons, Bool.and_eq_true] at h
      obtain ⟨hspace, hquote, hescape⟩ := not_special_of_isShellSafe h.1
      rw [List.cons_append, shlexRun, hspace, hquote, if_neg (by simp), if_neg (by simp),
        if_neg hescape, ih h.2, List.append_assoc, List.singleton_append]

/-- Inside single quotes, escaped text is read as the text it stands for. -/
theorem shlexRun_escapeQuotes (cs token rest : List Char) :
    shlexRun (.quote '\'') token true (escapeQuotes cs ++ rest) =
      shlexRun (.quote '\'') (token ++ cs) true rest := by
  induction cs generalizing token with
  | nil => simp [escapeQuotes]
  | cons c cs ih =>
      have hcons : escapeQuotes (c :: cs) =
          (if c = '\'' then ['\'', '"', '\'', '"', '\''] else [c]) ++ escapeQuotes cs := rfl
      rw [hcons]
      by_cases hc : c = '\''
      · subst hc
        rw [if_pos rfl]
        simp only [List.cons_append, List.nil_append]
        rw [shlexRun, if_pos rfl, shlexRun, if_neg (by decide), if_pos (by decide), shlexRun,
          if_neg (by decide), if_neg (by decide), shlexRun, if_pos rfl, shlexRun,
          if_neg (by decide), if_pos (by decide), ih]
        simp
      · rw [if_neg hc, List.singleton_append, List.cons_append, shlexRun, if_neg hc,
          if_neg (by simp), ih]
        simp

theorem shlexQuoteChars_of_special {cs : List Char} (h : cs.all isShellSafe = false) :
    shlexQuoteChars cs = '\'' :: (escapeQuotes cs ++ ['\'']) := by
  have hne : cs ≠ [] := by
    rintro rfl
    cases h
  rw [shlexQuoteChars, if_neg hne, if_neg (by simp [h])]

/-- A quoted word is read up to its end. -/
theorem shlexRun_quoted {cs : List Char} (h : cs ≠ []) (rest : List Char) :
    shlexRun .between [] false (shlexQuoteChars cs ++ rest) =
      shlexRun .word cs (!cs.all isShellSafe) rest := by
  cases hsafe : cs.all isShellSafe with
  | true =>
      rw [shlexQuoteChars, if_neg h, if_pos hsafe]
      cases cs with
      | nil => exact absurd rfl h
      | cons c cs =>
          simp only [List.all_cons, Bool.and_eq_true] at hsafe
          obtain ⟨hspace, hquote, hescape⟩ := not_special_of_isShellSafe hsafe.1
          rw [List.cons_append, shlexRun, hspace, if_neg (by simp), if_neg hescape, hquote,
            if_neg (by simp), shlexRun_safe hsafe.2]
          rfl
  | false =>
      rw [shlexQuoteChars_of_special hsafe, List.cons_append, shlexRun, if_neg (by decide),
        if_neg (by decide), if_pos (by decide), List.append_assoc, shlexRun_escapeQuotes,
        List.nil_append, List.singleton_append, shlexRun, if_pos rfl]
      rfl

theorem shlexRun_word_end {token : List Char} (h : token ≠ []) (quoted : Bool) :
    shlexRun .word token quoted [] = .ok [token] := by
  rw [shlexRun, if_pos (Or.inl h)]

theorem shlexRun_word_space {token : List Char} (h : token ≠ []) (quoted : Bool)
    (rest : List Char) :
    shlexRun .word token quoted (' ' :: rest) =
      (shlexRun .between [] false rest).map (token :: ·) := by
  rw [shlexRun, if_pos (by decide), if_pos (Or.inl h)]
  cases shlexRun .between [] false rest <;> rfl

/-- A word that needs quotes and is cut before its end raises. -/
theorem shlexRun_cut (cs token : List Char) :
    shlexRun (.quote '\'') token true (escapeQuotes cs) = .error .noClosingQuotation := by
  have h := shlexRun_escapeQuotes cs token []
  rw [List.append_nil] at h
  rw [h, shlexRun]

example : shlexSplit (shlexQuote "it's here" ++ " x") = .ok ["it's here", "x"] := by decide

end Foundation
