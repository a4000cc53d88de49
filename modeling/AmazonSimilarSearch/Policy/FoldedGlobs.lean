import AmazonSimilarSearch.Policy.Contract
import AmazonSimilarSearch.Review.RepoPatterns

/-!
# Globs without regard to case

A denied path is matched after pattern and path have been case-folded. Folding
keeps the characters that globs are made of, so every token of a pattern but one
still takes what it took. A question mark takes one character: it loses a
character whose folding has several, and then a path that a denied pattern
matches literally may not be reported.
-/
namespace AmazonSimilarSearch.Policy
open Foundation Review Interaction

/-! ## Replacing characters by texts -/

/-- The characters that have a meaning in a glob or for its tokens. -/
def globMarks : List Char := ['/', '\n', '*', '?']

/-- A replacement of characters that neither touches a mark nor makes one. -/
structure KeepsMarks (f : Char → List Char) : Prop where
  nonempty : ∀ c, f c ≠ []
  fixed : ∀ c ∈ globMarks, f c = [c]
  only : ∀ c, ∀ d ∈ f c, d ∈ globMarks → d = c

/-- What the replacement makes of a token. -/
def replaceToken (f : Char → List Char) : GlobToken → List GlobToken
  | .literal c => (f c).map .literal
  | token => [token]

/-- A token takes a text: what it matches, with a question mark for the characters of `q` only. -/
def TokenTakes (q : Char → Bool) : GlobToken → List Char → Prop
  | .directories, cs => cs = [] ∨ ∃ body, cs = body ++ ['/'] ∧ '\n' ∉ body
  | .anything, cs => '\n' ∉ cs
  | .segment, cs => '/' ∉ cs
  | .one, cs => ∃ c, cs = [c] ∧ c ≠ '/' ∧ q c = true
  | .literal d, cs => cs = [d]

attribute [grind =] replaceToken TokenTakes

/-- The text is cut into what the tokens take, one after the other. -/
inductive GlobReads (q : Char → Bool) : List GlobToken → List Char → Prop
  | nil : GlobReads q [] []
  | cons {token : GlobToken} {tokens : List GlobToken} {cs ds : List Char} :
      TokenTakes q token cs → GlobReads q tokens ds → GlobReads q (token :: tokens) (cs ++ ds)

theorem matchesAfter_iff {p : Char → Bool} {rest : List Char → Bool} {cs : List Char} :
    matchesAfter p rest cs = true ↔
      ∃ ds es, cs = ds ++ es ∧ (∀ c ∈ ds, p c = true) ∧ rest es = true := by
  induction cs with
  | nil =>
      rw [matchesAfter]
      constructor
      · intro h
        exact ⟨[], [], rfl, by simp, h⟩
      · rintro ⟨ds, es, hsplit, _, h⟩
        obtain ⟨-, rfl⟩ := List.append_eq_nil_iff.mp hsplit.symm
        exact h
  | cons c cs ih =>
      rw [matchesAfter, Bool.or_eq_true, Bool.and_eq_true, ih]
      constructor
      · intro h
        cases h with
        | inl h => exact ⟨[], c :: cs, rfl, by simp, h⟩
        | inr h =>
            obtain ⟨hc, ds, es, rfl, hds, hrest⟩ := h
            exact ⟨c :: ds, es, rfl, List.forall_mem_cons.mpr ⟨hc, hds⟩, hrest⟩
      · rintro ⟨ds, es, hsplit, hds, hrest⟩
        cases ds with
        | nil =>
            rw [List.nil_append] at hsplit
            exact Or.inl (hsplit ▸ hrest)
        | cons d ds =>
            obtain ⟨rfl, rfl⟩ := List.cons.inj hsplit
            obtain ⟨hd, hds⟩ := List.forall_mem_cons.mp hds
            exact Or.inr ⟨hd, ds, es, rfl, hds, hrest⟩

theorem matchesAfterSlash_iff {rest : List Char → Bool} {cs : List Char} :
    matchesAfterSlash rest cs = true ↔
      ∃ ds es, cs = ds ++ '/' :: es ∧ '\n' ∉ ds ∧ rest es = true := by
  induction cs with
  | nil => simp [matchesAfterSlash]
  | cons c cs ih =>
      rw [matchesAfterSlash, Bool.or_eq_true, Bool.and_eq_true, Bool.and_eq_true, ih,
        decide_eq_true_eq, decide_eq_true_eq]
      constructor
      · intro h
        cases h with
        | inl h => exact ⟨[], cs, by rw [h.1]; rfl, List.not_mem_nil, h.2⟩
        | inr h =>
            obtain ⟨hc, ds, es, rfl, hds, hrest⟩ := h
            exact ⟨c :: ds, es, rfl, by simp [hds, Ne.symm hc], hrest⟩
      · rintro ⟨ds, es, hsplit, hds, hrest⟩
        cases ds with
        | nil =>
            obtain ⟨rfl, rfl⟩ := List.cons.inj hsplit
            exact Or.inl ⟨rfl, hrest⟩
        | cons d ds =>
            obtain ⟨rfl, rfl⟩ := List.cons.inj hsplit
            rw [List.mem_cons, not_or] at hds
            exact Or.inr ⟨Ne.symm hds.1, ds, es, rfl, hds.2, hrest⟩

theorem globMatches_cons (token : GlobToken) (tokens : List GlobToken) (cs : List Char) :
    globMatches (token :: tokens) cs = token.matchThen (globMatches tokens) cs := rfl

/-- A token matches what it takes, and the rest matches after it. -/
theorem matchThen_iff {token : GlobToken} {rest : List Char → Bool} {cs : List Char} :
    token.matchThen rest cs = true ↔
      ∃ ds es, cs = ds ++ es ∧ TokenTakes (fun _ => true) token ds ∧ rest es = true := by
  cases token with
  | directories =>
      rw [GlobToken.matchThen, Bool.or_eq_true, matchesAfterSlash_iff]
      constructor
      · intro h
        cases h with
        | inl h => exact ⟨[], cs, rfl, Or.inl rfl, h⟩
        | inr h =>
            obtain ⟨ds, es, rfl, hds, hrest⟩ := h
            exact ⟨ds ++ ['/'], es, by simp, Or.inr ⟨ds, rfl, hds⟩, hrest⟩
      · rintro ⟨ds, es, hsplit, htakes, hrest⟩
        cases htakes with
        | inl hnil =>
            rw [hnil, List.nil_append] at hsplit
            exact Or.inl (hsplit ▸ hrest)
        | inr hbody =>
            obtain ⟨body, rfl, hbody⟩ := hbody
            exact Or.inr ⟨body, es, by simp [hsplit], hbody, hrest⟩
  | anything =>
      rw [GlobToken.matchThen, matchesAfter_iff]
      simp only [TokenTakes, decide_eq_true_eq, ne_eq, List.forall_mem_ne']
  | segment =>
      rw [GlobToken.matchThen, matchesAfter_iff]
      simp only [TokenTakes, decide_eq_true_eq, ne_eq, List.forall_mem_ne']
  | one =>
      cases cs with
      | nil =>
          simp [GlobToken.matchThen, TokenTakes]
      | cons c cs =>
          simp [GlobToken.matchThen, TokenTakes]
  | literal d =>
      cases cs with
      | nil => simp [GlobToken.matchThen, TokenTakes]
      | cons c cs =>
          simp [GlobToken.matchThen, TokenTakes]

/-- The matcher finds a reading wherever there is one. -/
theorem globMatches_iff {tokens : List GlobToken} {cs : List Char} :
    globMatches tokens cs = true ↔ GlobReads (fun _ => true) tokens cs := by
  induction tokens generalizing cs with
  | nil =>
      constructor
      · intro h
        rw [List.isEmpty_iff.mp h]
        exact .nil
      · intro h
        cases h
        rfl
  | cons token tokens ih =>
      rw [globMatches_cons, matchThen_iff]
      constructor
      · rintro ⟨ds, es, hsplit, htakes, hrest⟩
        rw [hsplit]
        exact .cons htakes (ih.mp hrest)
      · intro h
        cases h with
        | cons htakes hrest => exact ⟨_, _, rfl, htakes, ih.mpr hrest⟩

namespace GlobReads

variable {q : Char → Bool}

theorem single {token : GlobToken} {cs : List Char} (h : TokenTakes q token cs) :
    GlobReads q [token] cs := by
  have hcons := GlobReads.cons h .nil
  rwa [List.append_nil] at hcons

theorem append {tokens tokens' : List GlobToken} {cs ds : List Char} (h : GlobReads q tokens cs)
    (h' : GlobReads q tokens' ds) : GlobReads q (tokens ++ tokens') (cs ++ ds) := by
  induction h with
  | nil => exact h'
  | cons htakes _ ih =>
      rw [List.cons_append, List.append_assoc]
      exact .cons htakes ih

theorem literals (cs : List Char) : GlobReads q (cs.map .literal) cs := by
  induction cs with
  | nil => exact .nil
  | cons c cs ih =>
      have hcons : GlobReads q (.literal c :: cs.map .literal) ([c] ++ cs) := .cons rfl ih
      exact hcons

end GlobReads

/-! ## Patterns and paths after a replacement -/

section

variable {f : Char → List Char} (hf : KeepsMarks f)

include hf

theorem mark_mem_flatMap {d : Char} (hd : d ∈ globMarks) {cs : List Char} :
    d ∈ cs.flatMap f ↔ d ∈ cs := by
  rw [List.mem_flatMap]
  constructor
  · rintro ⟨c, hc, hmem⟩
    rwa [hf.only c d hmem hd]
  · intro hmem
    exact ⟨d, hmem, by rw [hf.fixed d hd]; exact List.mem_singleton_self d⟩

/-- A replaced text starts with a mark exactly when the text does. -/
theorem head?_flatMap {d : Char} (hd : d ∈ globMarks) (cs : List Char) :
    (cs.flatMap f).head? = some d ↔ cs.head? = some d := by
  cases cs with
  | nil => rfl
  | cons c cs =>
      obtain ⟨e, es, hes⟩ := List.exists_cons_of_ne_nil (hf.nonempty c)
      rw [List.flatMap_cons, hes, List.cons_append, List.head?_cons, List.head?_cons,
        Option.some.injEq, Option.some.injEq]
      constructor
      · intro he
        exact (hf.only c d (by rw [hes, he]; exact List.mem_cons_self) hd).symm
      · intro hc
        have hfixed := hf.fixed d hd
        rw [← hc, hes] at hfixed
        exact (List.cons.inj hfixed).1.trans hc

omit hf in
/-- A character that is no wildcard is a token of its own. -/
theorem globTokens_cons_plain {c : Char} (hstar : c ≠ '*') (hone : c ≠ '?') (cs : List Char) :
    globTokens (c :: cs) = .literal c :: globTokens cs := by
  rw [globTokens]
  · intro _ hc
    exact absurd hc hstar
  · intro _ hc
    exact absurd hc hstar
  · exact hstar
  · exact hone

omit hf in
theorem globTokens_append_plain {ds : List Char} (h : ∀ d ∈ ds, d ≠ '*' ∧ d ≠ '?')
    (cs : List Char) : globTokens (ds ++ cs) = ds.map .literal ++ globTokens cs := by
  induction ds with
  | nil => rfl
  | cons d ds ih =>
      obtain ⟨hd, hds⟩ := List.forall_mem_cons.mp h
      rw [List.cons_append, globTokens_cons_plain hd.1 hd.2, ih hds]
      rfl

omit hf in
/-- A star that no star follows is a segment. -/
theorem globTokens_star {cs : List Char} (h : cs.head? ≠ some '*') :
    globTokens ('*' :: cs) = .segment :: globTokens cs := by
  rw [globTokens]
  · intro ds hcs
    exact h (by rw [hcs]; rfl)
  · intro ds hcs
    exact h (by rw [hcs]; rfl)

omit hf in
/-- Two stars that no slash follows are anything. -/
theorem globTokens_stars {cs : List Char} (h : cs.head? ≠ some '/') :
    globTokens ('*' :: '*' :: cs) = .anything :: globTokens cs := by
  rw [globTokens]
  intro ds hcs
  exact h (by rw [hcs]; rfl)

/-- Replacing the characters of a pattern replaces its tokens. -/
theorem globTokens_flatMap (cs : List Char) :
    globTokens (cs.flatMap f) = (globTokens cs).flatMap (replaceToken f) := by
  have hstar : f '*' = ['*'] := hf.fixed '*' (by decide)
  have hslash : f '/' = ['/'] := hf.fixed '/' (by decide)
  have hone : f '?' = ['?'] := hf.fixed '?' (by decide)
  fun_induction globTokens cs with
  | case1 => rfl
  | case2 cs ih =>
      simp only [List.flatMap_cons, hstar, hslash, List.singleton_append, globTokens, ih,
        replaceToken]
  | case3 cs hcs ih =>
      have hhead : (cs.flatMap f).head? ≠ some '/' := by
        rw [ne_eq, head?_flatMap hf (by decide)]
        intro h
        obtain ⟨ds, rfl⟩ := List.head?_eq_some_iff.mp h
        exact hcs ds rfl
      simp only [List.flatMap_cons, hstar, List.singleton_append, globTokens_stars hhead, ih,
        replaceToken]
  | case4 cs hcs hcs' ih =>
      have hhead : (cs.flatMap f).head? ≠ some '*' := by
        rw [ne_eq, head?_flatMap hf (by decide)]
        intro h
        obtain ⟨ds, rfl⟩ := List.head?_eq_some_iff.mp h
        exact hcs' ds rfl
      simp only [List.flatMap_cons, hstar, List.singleton_append, globTokens_star hhead, ih,
        replaceToken]
  | case5 cs ih =>
      simp only [List.flatMap_cons, hone, List.singleton_append, globTokens, ih, replaceToken]
  | case6 c cs _ _ hc hc' ih =>
      have hplain : ∀ d ∈ f c, d ≠ '*' ∧ d ≠ '?' := by
        intro d hd
        constructor
        · intro hdstar
          exact hc (hf.only c d hd (by simp [hdstar, globMarks]) ▸ hdstar)
        · intro hdone
          exact hc' (hf.only c d hd (by simp [hdone, globMarks]) ▸ hdone)
      rw [List.flatMap_cons, globTokens_append_plain hplain, ih, List.flatMap_cons, replaceToken]

/-- What a token takes, its replacement takes after replacing, unless a question mark takes a
character that several replace. -/
theorem TokenTakes.replaced {token : GlobToken} {cs : List Char}
    (h : TokenTakes (fun c => (f c).length == 1) token cs) :
    GlobReads (fun _ => true) (replaceToken f token) (cs.flatMap f) := by
  cases token with
  | directories =>
      apply GlobReads.single
      cases h with
      | inl hnil => exact Or.inl (by rw [hnil]; rfl)
      | inr hbody =>
          obtain ⟨body, rfl, hbody⟩ := hbody
          refine Or.inr ⟨body.flatMap f, ?_, ?_⟩
          · rw [List.flatMap_append, List.flatMap_singleton, hf.fixed '/' (by decide)]
          · rwa [mark_mem_flatMap hf (by decide)]
  | anything =>
      apply GlobReads.single
      rw [TokenTakes, mark_mem_flatMap hf (by decide)]
      exact h
  | segment =>
      apply GlobReads.single
      rw [TokenTakes, mark_mem_flatMap hf (by decide)]
      exact h
  | one =>
      apply GlobReads.single
      obtain ⟨c, rfl, hc, hlength⟩ := h
      obtain ⟨d, hd⟩ := List.length_eq_one_iff.mp (beq_iff_eq.mp hlength)
      refine ⟨d, by rw [List.flatMap_singleton, hd], ?_, rfl⟩
      intro hslash
      have hdc := hf.only c d (by rw [hd]; exact List.mem_singleton_self d)
        (by simp [hslash, globMarks])
      exact hc (hdc ▸ hslash)
  | literal c =>
      have hcs : cs = [c] := h
      rw [hcs, List.flatMap_singleton, replaceToken]
      exact GlobReads.literals (f c)

/-- A reading stays one after replacing, unless a question mark takes a character that several
replace. -/
theorem GlobReads.replaced {tokens : List GlobToken} {cs : List Char}
    (h : GlobReads (fun c => (f c).length == 1) tokens cs) :
    GlobReads (fun _ => true) (tokens.flatMap (replaceToken f)) (cs.flatMap f) := by
  induction h with
  | nil => exact .nil
  | cons htakes _ ih =>
      rw [List.flatMap_cons, List.flatMap_append]
      exact (htakes.replaced hf).append ih

end

/-! ## Case folding -/

/-- The folding of one character. -/
def foldChar (c : Char) : List Char := mapChar foldRuns foldExpansions c

/-- The character folds to one character. -/
def foldsToOne (c : Char) : Bool := (foldChar c).length == 1

theorem casefold_toList (text : String) : (casefold text).toList = text.toList.flatMap foldChar := by
  rw [casefold, String.toList_ofList]
  rfl

/-- The code of a code point that is not a character is zero. -/
theorem toNat_ofNat_cases (n : ℕ) : (Char.ofNat n).toNat = n ∨ (Char.ofNat n).toNat = 0 := by
  by_cases hvalid : n.isValidChar
  · rw [Char.ofNat, dif_pos hvalid]
    exact Or.inl rfl
  · rw [Char.ofNat, dif_neg hvalid]
    exact Or.inr rfl

/-- A code point past the marks is none of them. -/
theorem ofNat_not_mark {n : ℕ} (h : 64 ≤ n) : Char.ofNat n ∉ globMarks := by
  intro hmark
  have hcode : (Char.ofNat n).toNat ∈ globMarks.map Char.toNat := List.mem_map_of_mem hmark
  have hcodes : globMarks.map Char.toNat = [47, 10, 42, 63] := rfl
  rw [hcodes] at hcode
  have hofNat := toNat_ofNat_cases n
  simp only [List.mem_cons, List.not_mem_nil, or_false] at hcode
  omega

/-- Every code point of the expansions is past the marks. -/
theorem foldExpansions_past :
    ∀ entry ∈ foldExpansions, entry.2 ≠ [] ∧ ∀ n ∈ entry.2, 64 ≤ n := by
  decide

/-- Every run starts past the marks, and so does its image. -/
theorem foldRuns_past : ∀ run ∈ foldRuns, (64 : ℤ) ≤ run.1 + run.2.2.2 := by
  decide +kernel

/-- A character is its own folding, or the folding has no marks. -/
theorem foldChar_cases (c : Char) :
    foldChar c = [c] ∨ (foldChar c ≠ [] ∧ ∀ d ∈ foldChar c, d ∉ globMarks) := by
  unfold foldChar mapChar
  dsimp only
  split
  · rename_i codes hlookup
    right
    obtain ⟨before, after, hentries, -⟩ := List.lookup_eq_some_iff.mp hlookup
    have hmem : (c.toNat, codes) ∈ foldExpansions := by
      rw [hentries]
      simp
    obtain ⟨hne, hpast⟩ := foldExpansions_past _ hmem
    constructor
    · rwa [ne_eq, List.map_eq_nil_iff]
    · intro d hd
      obtain ⟨n, hn, rfl⟩ := List.mem_map.mp hd
      exact ofNat_not_mark (hpast n hn)
  · split
    · rename_i run hfind
      right
      have hmem := List.mem_of_find?_eq_some hfind
      have hin := List.find?_some hfind
      simp only [Bool.and_eq_true, decide_eq_true_eq] at hin
      have hpast := foldRuns_past run hmem
      refine ⟨List.cons_ne_nil _ _, ?_⟩
      intro d hd
      rw [List.mem_singleton.mp hd]
      apply ofNat_not_mark
      omega
    · exact Or.inl rfl

theorem keepsMarks_foldChar : KeepsMarks foldChar where
  nonempty := by
    intro c
    cases foldChar_cases c with
    | inl h =>
        rw [h]
        exact List.cons_ne_nil _ _
    | inr h => exact h.1
  fixed := by
    intro c hc
    simp only [globMarks, List.mem_cons, List.not_mem_nil, or_false] at hc
    rcases hc with rfl | rfl | rfl | rfl
    all_goals decide
  only := by
    intro c d hd hmark
    cases foldChar_cases c with
    | inl h =>
        rw [h] at hd
        exact List.mem_singleton.mp hd
    | inr h => exact absurd hmark (h.2 d hd)

/-- A folded pattern matches the folded path when the pattern reads the path with question marks
only for characters that fold to one. -/
theorem globMatches_casefold {pattern path : String}
    (h : GlobReads foldsToOne (globTokens pattern.toList) path.toList) :
    globMatches (globTokens (casefold pattern).toList) (casefold path).toList = true := by
  rw [globMatches_iff, casefold_toList, casefold_toList, globTokens_flatMap keepsMarks_foldChar]
  exact h.replaced keepsMarks_foldChar

theorem length_le_flatMap_foldChar (cs : List Char) :
    cs.length ≤ (cs.flatMap foldChar).length := by
  induction cs with
  | nil => exact Nat.le_refl 0
  | cons c cs ih =>
      have hpos := List.length_pos_iff.mpr (KeepsMarks.nonempty keepsMarks_foldChar c)
      rw [List.flatMap_cons, List.length_append, List.length_cons]
      omega

/-- A text that folding does not make longer has characters only that fold to one. -/
theorem foldsToOne_of_length {cs : List Char} (h : (cs.flatMap foldChar).length = cs.length) :
    ∀ c ∈ cs, foldsToOne c = true := by
  induction cs with
  | nil => exact fun _ hc => absurd hc List.not_mem_nil
  | cons c cs ih =>
      have hpos := List.length_pos_iff.mpr (KeepsMarks.nonempty keepsMarks_foldChar c)
      have hle := length_le_flatMap_foldChar cs
      rw [List.flatMap_cons, List.length_append, List.length_cons] at h
      have hone : (foldChar c).length = 1 := by omega
      have hrest : (cs.flatMap foldChar).length = cs.length := by omega
      exact List.forall_mem_cons.mpr ⟨beq_iff_eq.mpr hone, ih hrest⟩

/-! ## The pattern of a path -/

/-- A question mark for every character but the slashes. -/
def questionMarks (cs : List Char) : List Char := cs.map fun c => if c = '/' then '/' else '?'

/-- A pattern that matches the path; no pattern starts with a slash, so a star stands before one. -/
def questionPattern (path : String) : String :=
  .ofList (if path.toList.head? = some '/' then '*' :: questionMarks path.toList
    else questionMarks path.toList)

theorem questionMarks_cons (c : Char) (cs : List Char) :
    questionMarks (c :: cs) = (if c = '/' then '/' else '?') :: questionMarks cs := rfl

theorem mem_questionMarks {c : Char} {cs : List Char} (h : c ∈ questionMarks cs) :
    c = '/' ∨ c = '?' := by
  obtain ⟨d, -, rfl⟩ := List.mem_map.mp h
  split
  · exact Or.inl rfl
  · exact Or.inr rfl

theorem mem_questionPattern {c : Char} {path : String} (h : c ∈ (questionPattern path).toList) :
    c = '/' ∨ c = '?' ∨ c = '*' := by
  rw [questionPattern, String.toList_ofList] at h
  split at h
  · rw [List.mem_cons] at h
    cases h with
    | inl hstar => exact Or.inr (Or.inr hstar)
    | inr hmem => exact (mem_questionMarks hmem).imp_right Or.inl
  · exact (mem_questionMarks h).imp_right Or.inl

/-- The pattern consists of characters that fold to themselves. -/
theorem casefold_questionPattern (path : String) :
    casefold (questionPattern path) = questionPattern path := by
  apply String.toList_inj.mp
  rw [casefold_toList]
  have hfixed : ∀ c ∈ (questionPattern path).toList, foldChar c = [c] := by
    intro c hc
    apply KeepsMarks.fixed keepsMarks_foldChar
    rcases mem_questionPattern hc with rfl | rfl | rfl
    all_goals decide
  rw [List.flatMap_congr hfixed, List.flatMap_singleton']

theorem head?_questionPattern (path : String) :
    (questionPattern path).toList.head? ≠ some '/' := by
  rw [questionPattern, String.toList_ofList]
  split
  · simp
  · rename_i hhead
    cases hpath : path.toList with
    | nil => simp [questionMarks]
    | cons c cs =>
        rw [hpath, List.head?_cons, Option.some.injEq] at hhead
        simp [questionMarks_cons, hhead]

/-- The task model takes the pattern of a path. -/
theorem validatePaths_questionPattern {path : String} (h : path ≠ "") :
    validatePaths "denied_paths" [questionPattern path] = .ok [questionPattern path] := by
  have hchars {c : Char} (hc : c ∈ (questionPattern path).toList) :
      32 ≤ c.toNat ∧ c ≠ '\\' ∧ c ≠ '.' := by
    rcases mem_questionPattern hc with rfl | rfl | rfl
    all_goals decide
  have hne : questionPattern path ≠ "" := by
    obtain ⟨c, cs, hpath⟩ := List.exists_cons_of_ne_nil (fun hnil : path.toList = [] =>
      h (String.toList_eq_nil_iff.mp hnil))
    intro hempty
    have hnil := congrArg String.toList hempty
    rw [questionPattern, String.toList_ofList, hpath, questionMarks_cons] at hnil
    split at hnil
    all_goals exact List.cons_ne_nil _ _ hnil
  have hpattern : validateRepoPattern (questionPattern path) = .ok (questionPattern path) := by
    rw [validateRepoPattern_eq_ok_iff]
    refine ⟨⟨hne, head?_questionPattern path, ?_, ?_⟩, ?_, ?_, rfl⟩
    · intro hhead
      exact (hchars (List.mem_of_mem_head? hhead)).2.1 rfl
    · intro hmem
      exact (hchars hmem).2.1 rfl
    · intro hup
      exact (hchars (mem_of_mem_pathParts (head?_questionPattern path) hup
        (c := '.') (by decide))).2.2 rfl
    · intro c hc
      exact (hchars hc).1
  rw [validatePaths, ensure_of _ ⟨Nat.le_refl 1, by simp⟩, List.mapM_cons, hpattern, List.mapM_nil]
  simp only [ok_bind, pure_bind]
  rw [ensure_of _ (List.nodup_singleton _)]
  rfl

/-- Every token takes one character. -/
def TakesOne (token : GlobToken) : Prop := token = .one ∨ ∃ c, token = .literal c

theorem length_of_takesOne {q : Char → Bool} {tokens : List GlobToken} {cs : List Char}
    (h : GlobReads q tokens cs) (hone : ∀ token ∈ tokens, TakesOne token) :
    cs.length = tokens.length := by
  induction h with
  | nil => rfl
  | @cons token tokens cs ds htakes _ ih =>
      obtain ⟨htoken, htokens⟩ := List.forall_mem_cons.mp hone
      have hlength : cs.length = 1 := by
        cases htoken with
        | inl heq =>
            rw [heq] at htakes
            obtain ⟨c, rfl, -⟩ := htakes
            rfl
        | inr heq =>
            obtain ⟨c, rfl⟩ := heq
            have hcs : cs = [c] := htakes
            rw [hcs]
            rfl
      rw [List.length_append, hlength, ih htokens, List.length_cons]
      omega

theorem globTokens_questionMarks (cs : List Char) :
    globTokens (questionMarks cs) =
      cs.map fun c => if c = '/' then .literal '/' else .one := by
  induction cs with
  | nil => rfl
  | cons c cs ih =>
      rw [questionMarks_cons, List.map_cons]
      split
      · rw [globTokens_cons_plain (by decide) (by decide), ih]
      · rw [globTokens, ih]

theorem takesOne_questionMarks {cs : List Char} {token : GlobToken}
    (h : token ∈ globTokens (questionMarks cs)) : TakesOne token := by
  rw [globTokens_questionMarks, List.mem_map] at h
  obtain ⟨c, -, rfl⟩ := h
  split
  · exact Or.inr ⟨'/', rfl⟩
  · exact Or.inl rfl

theorem globReads_questionMarks (cs : List Char) :
    GlobReads (fun _ => true) (globTokens (questionMarks cs)) cs := by
  rw [globTokens_questionMarks]
  induction cs with
  | nil => exact .nil
  | cons c cs ih =>
      have htakes : TokenTakes (fun _ => true) (if c = '/' then .literal '/' else .one) [c] := by
        split
        · rename_i hc
          rw [hc]
          rfl
        · rename_i hc
          exact ⟨c, rfl, hc, rfl⟩
      exact GlobReads.cons htakes ih

theorem globTokens_questionPattern (path : String) :
    globTokens (questionPattern path).toList =
      (if path.toList.head? = some '/' then [.segment] else []) ++
        globTokens (questionMarks path.toList) := by
  rw [questionPattern, String.toList_ofList]
  split
  · rename_i hhead
    obtain ⟨cs, hpath⟩ := List.head?_eq_some_iff.mp hhead
    rw [globTokens_star]
    · rfl
    · simp [hpath, questionMarks_cons]
  · rfl

/-- The pattern of a path matches it. -/
theorem globMatches_questionPattern (path : String) :
    globMatches (globTokens (questionPattern path).toList) path.toList = true := by
  rw [globMatches_iff, globTokens_questionPattern]
  have hmarks := globReads_questionMarks path.toList
  split
  · have hnothing : TokenTakes (fun _ => true) .segment [] := List.not_mem_nil
    exact (GlobReads.single hnothing).append hmarks
  · exact hmarks

/-- A path that starts with a slash leaves nothing for the star. -/
theorem globReads_segment_slash {tokens : List GlobToken} {cs : List Char}
    (hhead : cs.head? = some '/') (h : GlobReads (fun _ => true) (.segment :: tokens) cs) :
    GlobReads (fun _ => true) tokens cs := by
  cases h with
  | @cons _ _ ds es htakes hrest =>
      cases ds with
      | nil => exact hrest
      | cons d ds =>
          rw [List.cons_append, List.head?_cons, Option.some.injEq] at hhead
          have hds : '/' ∉ d :: ds := htakes
          rw [hhead] at hds
          exact absurd List.mem_cons_self hds

/-- The pattern of a path matches the folded path only when every character folds to one. -/
theorem foldsToOne_of_questionPattern {path : String}
    (h : globMatches (globTokens (questionPattern path).toList) (casefold path).toList = true) :
    ∀ c ∈ path.toList, foldsToOne c = true := by
  rw [globMatches_iff, globTokens_questionPattern, casefold_toList] at h
  have hmarks : GlobReads (fun _ => true) (globTokens (questionMarks path.toList))
      (path.toList.flatMap foldChar) := by
    split at h
    · rename_i hhead
      apply globReads_segment_slash _ h
      rwa [head?_flatMap keepsMarks_foldChar (by decide)]
    · exact h
  have hlength := length_of_takesOne hmarks fun _ => takesOne_questionMarks
  rw [globTokens_questionMarks, List.length_map] at hlength
  exact foldsToOne_of_length hlength

/-! ## What is denied -/

/-- A pattern reads the path with question marks only for characters that fold to one. -/
def ReadsFolded (path : String) (patterns : List String) : Prop :=
  ∃ pattern ∈ patterns, GlobReads foldsToOne (globTokens pattern.toList) path.toList

theorem matchesFolded_of_reads {path : String} {patterns : List String}
    (h : ReadsFolded path patterns) : matchesFolded path patterns = true := by
  obtain ⟨pattern, hpattern, hreads⟩ := h
  rw [matchesFolded, matchesGlob, List.any_map, List.any_eq_true]
  exact ⟨pattern, hpattern, globMatches_casefold hreads⟩

theorem TokenTakes.of_forall {q : Char → Bool} {token : GlobToken} {cs : List Char}
    (h : TokenTakes (fun _ => true) token cs) (hq : ∀ c ∈ cs, q c = true) :
    TokenTakes q token cs := by
  cases token with
  | one =>
      obtain ⟨c, rfl, hc, -⟩ := h
      exact ⟨c, rfl, hc, hq c (List.mem_singleton_self c)⟩
  | directories => exact h
  | anything => exact h
  | segment => exact h
  | literal d => exact h

/-- Question marks are limited no further by what all characters satisfy. -/
theorem GlobReads.of_forall {q : Char → Bool} {tokens : List GlobToken} {cs : List Char}
    (h : GlobReads (fun _ => true) tokens cs) (hq : ∀ c ∈ cs, q c = true) :
    GlobReads q tokens cs := by
  induction h with
  | nil => exact .nil
  | cons htakes _ ih =>
      rw [List.forall_mem_append] at hq
      exact .cons (htakes.of_forall hq.1) (ih hq.2)

theorem readsFolded_of_forall {path : String} {patterns : List String}
    (hone : ∀ c ∈ path.toList, foldsToOne c = true) (h : matchesGlob path patterns = true) :
    ReadsFolded path patterns := by
  obtain ⟨pattern, hpattern, hmatches⟩ := List.any_eq_true.mp h
  exact ⟨pattern, hpattern, (globMatches_iff.mp hmatches).of_forall hone⟩

section
variable {sha1 : Sha1Function} {H : HashFunction} {answers : Repository} {history after : History}
  {validateEmptyEnvExample : Bytes → Bool}

theorem mem_of_inspectOperations {inspected : Inspected} {violations violations' : List String}
    {violation : String} (hmem : violation ∈ violations)
    (h : (inspectOperations inspected violations).run answers history = (.ok violations', after)) :
    violation ∈ violations' := by
  rw [inspectOperations, if_pos (List.ne_nil_of_mem hmem)] at h
  obtain ⟨rfl, _⟩ := run_done_eq_ok.mp h
  exact hmem

theorem mem_of_inspectContent {task : TaskSpec} {inspected : Inspected}
    {violations : List String} {state : ContentState} {violation : String}
    (hmem : violation ∈ violations)
    (h : (inspectContent sha1 H validateEmptyEnvExample task inspected violations).run answers
      history = (.ok state, after)) : violation ∈ state.violations := by
  rw [inspectContent, if_pos (List.ne_nil_of_mem hmem)] at h
  obtain ⟨rfl, _⟩ := run_done_eq_ok.mp h
  exact hmem

theorem mem_of_reportDiff {task : TaskSpec} {taskSha256 : Sha256}
    {expectedPatchSha256 : Option String} {inspected : Inspected} {state : ContentState}
    {clean : Bool} {report : PolicyReport} {violation : String}
    (hmem : violation ∈ state.violations)
    (h : (reportDiff sha1 H validateEmptyEnvExample task taskSha256 expectedPatchSha256 inspected
      state clean).run answers history = (.ok report, after)) : violation ∈ report.violations := by
  obtain ⟨stats, _, _, h⟩ := run_bind_eq_ok.mp h
  obtain ⟨files, _, h⟩ := run_ofExcept_bind_eq_ok.mp h
  obtain ⟨⟨patchSha256, objections⟩, _, h⟩ := run_ofExcept_bind_eq_ok.mp h
  obtain ⟨_, _, _, h⟩ := run_bind_eq_ok.mp h
  obtain ⟨hreport, _⟩ := run_ofExcept_eq_ok.mp h
  rw [validate_report hreport]
  simp only [List.mem_append]
  exact Or.inl (Or.inl (Or.inl hmem))

/-- What is objected to the metadata stands in the report. -/
theorem mem_violations_of_run {pyRepr : String → String} {repo head : String} {task : TaskSpec}
    {taskSha256 : Sha256} {expectedPatchSha256 : Option String} {report : PolicyReport}
    {path : String} (hdenied : matchesFolded path task.deniedPaths = true)
    (hpath : path ∈ report.changedFiles.map DiffFile.path)
    (h : (inspectGitDiff sha1 H validateEmptyEnvExample pyRepr repo task taskSha256 head
      expectedPatchSha256).run answers history = (.ok report, after)) :
    "denied path changed: " ++ path ∈ report.violations := by
  obtain ⟨inspected, _, _, hrest⟩ := run_bind_eq_ok.mp h
  obtain ⟨violations, _, hoperations, hrest⟩ := run_bind_eq_ok.mp hrest
  obtain ⟨state, _, hcontent, hreport⟩ := run_bind_eq_ok.mp hrest
  obtain ⟨stats, hfiles⟩ := (reportDiff_ok hreport).files
  rw [(reportFiles_ok hfiles).1] at hpath
  obtain ⟨entry, hentry, rfl⟩ := List.mem_map.mp hpath
  apply mem_of_reportDiff _ hreport
  apply mem_of_inspectContent _ hcontent
  apply mem_of_inspectOperations _ hoperations
  simp only [metadataViolations, List.mem_append, List.mem_flatMap]
  refine Or.inr ⟨entry, hentry, ?_⟩
  simp [pathViolations, hdenied]

end

/-- Folding never loses what a pattern reads with question marks only for characters that fold to
one, and such a path is reported as denied. For a path on its own this is exact: no accepted list
of patterns loses it when all its characters fold to one, and some list does when one does not. -/
theorem matchesFolded_strict (path : String) :
    (∀ patterns, ReadsFolded path patterns → matchesFolded path patterns = true) ∧
    ((∀ field patterns, validatePaths field patterns = .ok patterns →
      matchesGlob path patterns = true → matchesFolded path patterns = true) ↔
      ∀ c ∈ path.toList, foldsToOne c = true) ∧
    ∀ (sha1 : Sha1Function) (H : HashFunction) (validateEmptyEnvExample : Bytes → Bool)
      (pyRepr : String → String) (answers : Repository) (repo : String) (task : TaskSpec)
      (taskSha256 : Sha256) (head : String) (expectedPatchSha256 : Option String),
      Returned (fun report => path ∈ report.changedFiles.map DiffFile.path →
          ReadsFolded path task.deniedPaths →
            "denied path changed: " ++ path ∈ report.violations)
        ((inspectGitDiff sha1 H validateEmptyEnvExample pyRepr repo task taskSha256 head
          expectedPatchSha256).run answers []).1 := by
  refine ⟨fun patterns => matchesFolded_of_reads, ?_, ?_⟩
  · constructor
    · intro h
      by_cases hempty : path = ""
      · rw [hempty]
        exact fun c hc => absurd hc List.not_mem_nil
      · have hmatches : matchesGlob path [questionPattern path] = true := by
          rw [matchesGlob, List.any_cons, List.any_nil, Bool.or_false]
          exact globMatches_questionPattern path
        have hfolded := h _ _ (validatePaths_questionPattern hempty) hmatches
        rw [matchesFolded, matchesGlob, List.map_singleton, casefold_questionPattern,
          List.any_cons, List.any_nil, Bool.or_false] at hfolded
        exact foldsToOne_of_questionPattern hfolded
    · intro hone field patterns _ hmatches
      exact matchesFolded_of_reads (readsFolded_of_forall hone hmatches)
  · intro sha1 H validateEmptyEnvExample pyRepr answers repo task taskSha256 head
      expectedPatchSha256
    apply returned_iff.mpr
    intro report hreport hpath hreads
    apply mem_violations_of_run (matchesFolded_of_reads hreads) hpath
    rw [← hreport]

/-- `ß` folds to `ss`, which one question mark does not match. -/
theorem matchesFolded_sharpS :
    validatePaths "denied_paths" ["?"] = .ok ["?"] ∧
    matchesGlob "ß" ["?"] = true ∧ matchesFolded "ß" ["?"] = false := by
  have hpattern : questionPattern "ß" = "?" := by decide
  have hvalid := validatePaths_questionPattern (show "ß" ≠ "" by decide)
  rw [hpattern] at hvalid
  exact ⟨hvalid, by decide, by decide⟩

end AmazonSimilarSearch.Policy
