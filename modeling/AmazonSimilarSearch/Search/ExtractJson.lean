import AmazonSimilarSearch.Foundation.Casefold
import AmazonSimilarSearch.Foundation.JsonLineBreaks

/-!
# The JSON text of an answer

`extract_json_text` takes the text between the outermost braces of what a model has answered, and
drops the lines of a code fence before. The lines are split at every line boundary that Python
knows and joined by line feeds.
-/
namespace AmazonSimilarSearch.Search
open Foundation

/-! ## The code -/

/-- `json.loads` without hooks -/
def plainHooks : Json.Hooks where
  rejectDuplicates := false
  rejectConstants := false

def fence : List Char := "```".toList

/-- `text.strip()` -/
def stripChars (text : List Char) : List Char :=
  ((text.dropWhile isPySpace).reverse.dropWhile isPySpace).reverse

/-- The lines of a fenced block, without the fence. -/
def dropFence (lines : List (List Char)) : List (List Char) :=
  let lines := if lines.head?.any fence.isPrefixOf then lines.drop 1 else lines
  if lines.getLast?.any fun line => stripChars line == fence then lines.dropLast else lines

/-- `text.find(c)` -/
def find? (c : Char) (text : List Char) : Option ℕ := text.findIdx? (· == c)

/-- `text.rfind(c)` -/
def rfind? (c : Char) (text : List Char) : Option ℕ :=
  (text.reverse.findIdx? (· == c)).map fun i => text.length - 1 - i

/-- From the first opening brace to the last closing one. -/
def braced (text : List Char) : List Char :=
  match find? '\x7b' text, rfind? '\x7d' text with
  | some jsonStart, some jsonEnd =>
      if jsonEnd < jsonStart then text else (text.drop jsonStart).take (jsonEnd + 1 - jsonStart)
  | _, _ => text

/-- `extract_json_text(raw_text)` -/
def extractJsonText (rawText : String) : String :=
  let normalized := stripChars rawText.toList
  let normalized :=
    if fence.isPrefixOf normalized then
      stripChars (['\n'].intercalate (dropFence (splitLines normalized)))
    else normalized
  String.ofList (braced normalized)

/-! ## The outermost braces -/

theorem find?_append {c : Char} {before : List Char} (hbefore : c ∉ before) (rest : List Char) :
    find? c (before ++ c :: rest) = some before.length := by
  have hnone : before.findIdx? (· == c) = none := by
    rw [List.findIdx?_eq_none_iff]
    intro d hd
    rw [beq_eq_false_iff_ne]
    rintro rfl
    exact hbefore hd
  rw [find?, List.findIdx?_append, hnone, List.findIdx?_cons, beq_self_eq_true]
  simp

theorem rfind?_append {c : Char} {after : List Char} (hafter : c ∉ after) (before : List Char) :
    rfind? c (before ++ c :: after) = some before.length := by
  have hmem : c ∉ after.reverse := by simpa using hafter
  have hfind := find?_append hmem before.reverse
  rw [find?] at hfind
  have hreverse : (before ++ c :: after).reverse = after.reverse ++ c :: before.reverse := by simp
  rw [rfind?, hreverse, hfind, Option.map_some]
  congr 1
  simp only [List.length_append, List.length_cons, List.length_reverse]
  omega

/-- A text in braces, and nothing that opens a brace before it or closes one after it. -/
theorem braced_append {before after : List Char} (hbefore : '\x7b' ∉ before)
    (hafter : '\x7d' ∉ after) (inner : List Char) :
    braced (before ++ ('\x7b' :: (inner ++ '\x7d' :: after))) = '\x7b' :: (inner ++ ['\x7d']) := by
  have hstart := find?_append hbefore (inner ++ '\x7d' :: after)
  have hend := rfind?_append hafter (before ++ '\x7b' :: inner)
  have htext : before ++ ('\x7b' :: (inner ++ '\x7d' :: after)) =
      before ++ '\x7b' :: inner ++ '\x7d' :: after := by simp
  rw [← htext] at hend
  unfold braced
  rw [hstart, hend]
  have hlength : (before ++ '\x7b' :: inner).length = before.length + (inner.length + 1) := by simp
  dsimp only
  rw [if_neg (by omega), List.drop_left, hlength]
  have htake : before.length + (inner.length + 1) + 1 - before.length = inner.length + 2 := by omega
  rw [htake, List.take_succ_cons]
  have hinner : inner ++ '\x7d' :: after = inner ++ ['\x7d'] ++ after := by simp
  rw [hinner, List.take_left' (by simp)]

/-! ## White space around a text -/

/-- The text starts and ends with a brace. -/
def InBraces (text : List Char) : Prop := ∃ inner, text = '\x7b' :: (inner ++ ['\x7d'])

theorem dropWhile_append_of_head {p : Char → Bool} {c : Char} (hc : p c = false)
    (before rest : List Char) :
    (before ++ c :: rest).dropWhile p = before.dropWhile p ++ c :: rest := by
  induction before with
  | nil => rw [List.nil_append, List.dropWhile_cons, hc]; rfl
  | cons d before ih =>
      rw [List.cons_append, List.dropWhile_cons, List.dropWhile_cons, ih]
      split <;> rfl

/-- What is stripped stands around the braces. -/
theorem stripChars_append {text : List Char} (htext : InBraces text) (before after : List Char) :
    stripChars (before ++ (text ++ after)) = before.dropWhile isPySpace ++
      (text ++ (after.reverse.dropWhile isPySpace).reverse) := by
  obtain ⟨inner, rfl⟩ := htext
  have hopening : isPySpace '\x7b' = false := by decide
  have hclosing : isPySpace '\x7d' = false := by decide
  have hfront := dropWhile_append_of_head hopening before (inner ++ ['\x7d'] ++ after)
  have hback := dropWhile_append_of_head hclosing after.reverse
    (before.dropWhile isPySpace ++ '\x7b' :: inner).reverse
  have hreverse : (before.dropWhile isPySpace ++ '\x7b' :: (inner ++ ['\x7d'] ++ after)).reverse =
      after.reverse ++ '\x7d' :: (before.dropWhile isPySpace ++ '\x7b' :: inner).reverse := by simp
  rw [stripChars, List.cons_append, hfront, hreverse, hback]
  simp

/-- Only what is in braces is left of a text with no other braces around it. -/
theorem braced_stripChars {text before after : List Char} (htext : InBraces text)
    (hbefore : '\x7b' ∉ before) (hafter : '\x7d' ∉ after) :
    braced (stripChars (before ++ (text ++ after))) = text := by
  rw [stripChars_append htext]
  obtain ⟨inner, rfl⟩ := htext
  have hfront : '\x7b' ∉ before.dropWhile isPySpace := fun hmem =>
    hbefore ((List.dropWhile_sublist isPySpace).mem hmem)
  have hback : '\x7d' ∉ (after.reverse.dropWhile isPySpace).reverse := by
    intro hmem
    have hmem := (List.dropWhile_sublist isPySpace).mem (List.mem_reverse.mp hmem)
    exact hafter (List.mem_reverse.mp hmem)
  rw [List.cons_append, List.append_assoc]
  exact braced_append hfront hback inner

/-- Without a fence the text in braces is taken. -/
theorem extractJsonText_prose {text before after : List Char} (htext : InBraces text)
    (hbefore : ∀ c ∈ before, c ≠ '\x7b' ∧ c ∉ fence) (hafter : '\x7d' ∉ after) :
    extractJsonText (String.ofList (before ++ (text ++ after))) = String.ofList text := by
  have hfence : fence.isPrefixOf (stripChars (before ++ (text ++ after))) = false := by
    rw [stripChars_append htext]
    obtain ⟨inner, rfl⟩ := htext
    cases hdrop : before.dropWhile isPySpace with
    | nil => rfl
    | cons c cs =>
        have hmem : c ∈ before := by
          apply (List.dropWhile_sublist isPySpace).mem
          rw [hdrop]
          exact List.mem_cons_self
        have hc : ('\x60' == c) = false := by
          rw [beq_eq_false_iff_ne]
          rintro rfl
          exact (hbefore _ hmem).2 (by decide)
        rw [List.cons_append]
        show (('\x60' == c) && _) = false
        rw [hc]
        rfl
  unfold extractJsonText
  rw [String.toList_ofList]
  dsimp only
  rw [hfence]
  exact congrArg String.ofList
    (braced_stripChars htext (fun hmem => (hbefore _ hmem).1 rfl) hafter)

/-! ## A fenced block -/

/-- The text in a code fence, as the characters of it. -/
def fenced (text : List Char) : List Char :=
  fence ++ "json\n".toList ++ (text ++ '\n' :: fence)

theorem stripChars_fenced (text : List Char) : stripChars (fenced text) = fenced text := by
  have hfirst : (fenced text).dropWhile isPySpace = fenced text := rfl
  have hreverse : (fenced text).reverse =
      fence ++ '\n' :: (fence ++ "json\n".toList ++ text).reverse := by
    simp [fenced, fence]
  have hlast : (fenced text).reverse.dropWhile isPySpace = (fenced text).reverse := by
    rw [hreverse]
    rfl
  rw [stripChars, hfirst, hlast, List.reverse_reverse]

theorem dropFence_fenced (text : List Char) :
    dropFence (splitLines (fenced text)) = splitLines (text ++ ['\n']) := by
  have hline : ∀ c ∈ fence ++ "json".toList, isLineBoundary c = false := by
    have hall : ((fence ++ "json".toList).all fun c => !isLineBoundary c) = true := rfl
    exact fun c hc => (Bool.not_eq_true' _).mp (List.all_eq_true.mp hall c hc)
  have hfirst : splitLines (fenced text) =
      (fence ++ "json".toList) :: splitLines (text ++ '\n' :: fence) :=
    splitLines_append_lineFeed (text ++ '\n' :: fence) hline
  have hlast : splitLines (text ++ '\n' :: fence) = splitLines (text ++ ['\n']) ++ [fence] := by
    have hended : text ++ ['\n'] = [] ∨ (text ++ ['\n']).getLast? = some '\n' := .inr (by simp)
    have happend := splitLines_append fence hended
    have hfence : splitLines fence = [fence] := by decide
    rw [hfence, List.append_assoc] at happend
    exact happend
  have hstrip : (stripChars fence == fence) = true := by decide
  rw [hfirst, hlast, dropFence, List.head?_cons, Option.any_some]
  have hstarts : fence.isPrefixOf (fence ++ "json".toList) = true := by decide
  rw [hstarts, if_pos rfl, List.drop_one, List.tail_cons, List.getLast?_concat, Option.any_some,
    hstrip, if_pos rfl, List.dropLast_concat]

/-- Joined by line feeds, only the last line is not ended. -/
theorem intercalate_append_lineFeed {lines : List (List Char)} (h : lines ≠ []) :
    ['\n'].intercalate lines ++ ['\n'] = unlines lines := by
  induction lines with
  | nil => exact absurd rfl h
  | cons line lines ih =>
      cases lines with
      | nil => simp [unlines]
      | cons next lines =>
          rw [List.intercalate_cons_cons, unlines_cons, ← ih (List.cons_ne_nil _ _)]
          simp

theorem exists_of_append_lineFeed {joined text space before : List Char} (htext : InBraces text)
    (h : joined ++ ['\n'] = before ++ (text ++ space)) :
    ∃ rest, joined = before ++ (text ++ rest) ∧ ∀ c ∈ rest, c ∈ space := by
  rcases List.eq_nil_or_concat' space with rfl | ⟨rest, c, rfl⟩
  · obtain ⟨inner, rfl⟩ := htext
    have hend : before ++ ('\x7b' :: (inner ++ ['\x7d']) ++ []) =
        before ++ '\x7b' :: inner ++ ['\x7d'] := by simp
    rw [hend] at h
    exact absurd (List.append_inj_right' h rfl) (by decide)
  · refine ⟨rest, ?_, fun d hd => List.mem_append_left _ hd⟩
    have hend : before ++ (text ++ (rest ++ [c])) = before ++ (text ++ rest) ++ [c] := by simp
    rw [hend] at h
    exact List.append_inj_left' h rfl

theorem not_mem_of_isSpace {space : List Char} (hspace : Json.IsSpace space) {c : Char}
    (hc : Json.isJsonSpace c = false) : c ∉ space := by
  intro hmem
  rw [hspace c hmem] at hc
  cases hc

theorem inBraces_lineFeeds {text : List Char} (htext : InBraces text) :
    InBraces (lineFeeds text) := by
  obtain ⟨inner, rfl⟩ := htext
  refine ⟨lineFeeds inner, ?_⟩
  rw [Json.lineFeeds_cons (.inl (by decide)), Json.lineFeeds_before rfl]
  rfl

theorem lineFeeds_between {text before after : List Char} (htext : InBraces text) :
    lineFeeds (before ++ (text ++ after)) =
      lineFeeds before ++ (lineFeeds text ++ lineFeeds after) := by
  obtain ⟨inner, rfl⟩ := htext
  have hend : Json.EndsValue ('\x7b' :: (inner ++ ['\x7d'])) :=
    ((Json.endsValue_singleton rfl).append inner).cons _
  rw [Json.lineFeeds_append (.inr (by simp)), hend.lineFeeds_append]

theorem exists_ended (text : List Char) : ∃ feed, ended text = text ++ feed ∧ Json.IsSpace feed := by
  rw [ended_eq]
  split_ifs
  · exact ⟨[], (List.append_nil text).symm, List.forall_mem_nil _⟩
  · exact ⟨['\n'], rfl, List.forall_mem_singleton.mpr rfl⟩

/-- Of a fenced block the text in braces is taken, with every line ended by a line feed. -/
theorem extractJsonText_fenced {text before after : List Char} (htext : InBraces text)
    (hbefore : Json.IsSpace before) (hafter : Json.IsSpace after) :
    extractJsonText (String.ofList (fenced (before ++ (text ++ after)))) =
      String.ofList (lineFeeds text) := by
  have hlines : splitLines (before ++ (text ++ after) ++ ['\n']) ≠ [] := by
    rw [Ne, splitLines_eq_nil]
    exact List.append_ne_nil_of_right_ne_nil _ (List.cons_ne_nil _ _)
  have hjoined := intercalate_append_lineFeed hlines
  have hassoc : before ++ (text ++ after) ++ ['\n'] = before ++ (text ++ (after ++ ['\n'])) := by simp
  obtain ⟨feed, hfeed, hspace⟩ := exists_ended
    (lineFeeds before ++ (lineFeeds text ++ lineFeeds (after ++ ['\n'])))
  rw [unlines_splitLines, hassoc, lineFeedForm, lineFeeds_between htext, hfeed, List.append_assoc,
    List.append_assoc] at hjoined
  obtain ⟨rest, hrest, hmem⟩ := exists_of_append_lineFeed (inBraces_lineFeeds htext) hjoined
  have hafterSpace : Json.IsSpace (after ++ ['\n']) :=
    List.forall_mem_append.mpr ⟨hafter, List.forall_mem_singleton.mpr rfl⟩
  have hrestSpace : Json.IsSpace rest := fun c hc =>
    List.forall_mem_append.mpr ⟨Json.isSpace_lineFeeds hafterSpace, hspace⟩ c (hmem c hc)
  have hfence : fence.isPrefixOf (fenced (before ++ (text ++ after))) = true := rfl
  unfold extractJsonText
  rw [String.toList_ofList]
  dsimp only
  rw [stripChars_fenced, hfence, if_pos rfl, dropFence_fenced, hassoc, hrest]
  exact congrArg String.ofList (braced_stripChars (inBraces_lineFeeds htext)
    (not_mem_of_isSpace (Json.isSpace_lineFeeds hbefore) rfl) (not_mem_of_isSpace hrestSpace rfl))

/-! ## Objects -/

/-- A text that `json.loads` reads as an object. -/
structure ObjectText where
  text : String
  fields : Fields
  loads_eq : Json.loads plainHooks text = .ok (.obj fields)

/-- A text without braces and backticks. -/
structure Prose where
  text : String
  plain : ∀ c ∈ text.toList, c ≠ '\x7b' ∧ c ≠ '\x7d' ∧ c ∉ fence

/-- Around a text in braces no white space is left. -/
theorem spells_of_loads {body : List Char} {w : Json} (hbody : InBraces body)
    (hread : Json.loads plainHooks (String.ofList body) = .ok w) :
    Json.Spells plainHooks (.value w) body := by
  obtain ⟨before, text, after, htext, hbefore, hafter, hspells⟩ := Json.loads_eq_ok_iff.mp hread
  rw [String.toList_ofList] at htext
  obtain ⟨inner, rfl⟩ := hbody
  have hnoBefore : before = [] := by
    cases before with
    | nil => rfl
    | cons c before =>
        have hc : '\x7b' = c := (List.cons.inj htext).1
        subst hc
        exact absurd (hbefore _ List.mem_cons_self) (by decide)
  have hnoAfter : after = [] := by
    rcases List.eq_nil_or_concat' after with rfl | ⟨init, c, rfl⟩
    · rfl
    · have hend : before ++ (text ++ (init ++ [c])) = before ++ (text ++ init) ++ [c] := by simp
      rw [hend, ← List.cons_append] at htext
      cases List.append_inj_right' htext rfl
      exact absurd (hafter '\x7d' (by simp)) (by decide)
  subst hnoBefore
  subst hnoAfter
  rw [List.nil_append, List.append_nil] at htext
  rwa [htext]

theorem loads_of_spells {body : List Char} {v : Json}
    (hspells : Json.Spells plainHooks (.value v) body) :
    Json.loads plainHooks (String.ofList body) = .ok v :=
  Json.loads_eq_ok_iff.mpr ⟨[], body, [], by simp, List.forall_mem_nil _, List.forall_mem_nil _,
    hspells⟩

/-- A fenced block is read as the same object if it is read at all. -/
theorem loads_lineFeeds_iff {body : List Char} {fs : Fields}
    (hspells : Json.Spells plainHooks (.value (.obj fs)) body) :
    (∃ w, Json.loads plainHooks (String.ofList (lineFeeds body)) = .ok w) ↔
      Json.NoTextBreak body := by
  have hbraces : InBraces body := Json.exists_braces hspells
  rw [← Json.spells_lineFeeds_iff hspells]
  exact exists_congr fun w => ⟨spells_of_loads (inBraces_lineFeeds hbraces), loads_of_spells⟩

theorem noTextBreak_of_isSpace {space : List Char} (hspace : Json.IsSpace space) :
    Json.NoTextBreak space := by
  intro c hc
  have hchar := hspace c hc
  simp only [Json.isJsonSpace, Bool.or_eq_true, beq_iff_eq] at hchar
  rcases hchar with ((rfl | rfl) | rfl) | rfl <;> decide

theorem plain_of_isSpace {space : List Char} (hspace : Json.IsSpace space) :
    ∀ c ∈ space, c ≠ '\x7b' ∧ c ∉ fence := by
  intro c hc
  constructor
  · rintro rfl
    exact not_mem_of_isSpace hspace rfl hc
  · intro hmem
    have hbacktick : c = '\x60' := by simpa [fence] using hmem
    subst hbacktick
    exact not_mem_of_isSpace hspace rfl hc

/-- The text of an object, where an answer is nothing else. -/
theorem loads_extractJsonText {text : String} {fs : Fields}
    (hread : Json.loads plainHooks text = .ok (.obj fs)) :
    Json.loads plainHooks (extractJsonText text) = .ok (.obj fs) := by
  obtain ⟨front, body, back, htext, hfront, hback, hspells⟩ := Json.loads_eq_ok_iff.mp hread
  have hplain := extractJsonText_prose (Json.exists_braces hspells) (plain_of_isSpace hfront)
    (not_mem_of_isSpace hback rfl)
  rw [← htext, String.ofList_toList] at hplain
  rw [hplain]
  exact loads_of_spells hspells

/-- The answers that hold the text of an object are read as the object: the text alone, in prose,
and in a code fence if no string in it holds a character that ends a line. -/
theorem extractJsonText_loads (object : ObjectText) (before after : Prose) :
    Json.loads plainHooks (extractJsonText object.text) = .ok (.obj object.fields) ∧
    Json.loads plainHooks (extractJsonText (before.text ++ object.text ++ after.text)) =
      .ok (.obj object.fields) ∧
    ((∃ v, Json.loads plainHooks
        (extractJsonText (String.ofList (fenced object.text.toList))) = .ok v) ↔
      Json.NoTextBreak object.text.toList) ∧
    ∀ v, Json.loads plainHooks
        (extractJsonText (String.ofList (fenced object.text.toList))) = .ok v →
      v = .obj object.fields := by
  obtain ⟨front, body, back, htext, hfront, hback, hspells⟩ :=
    Json.loads_eq_ok_iff.mp object.loads_eq
  have hbraces : InBraces body := Json.exists_braces hspells
  have hfence : extractJsonText (String.ofList (fenced object.text.toList)) =
      String.ofList (lineFeeds body) := by
    rw [htext]
    exact extractJsonText_fenced hbraces hfront hback
  have hno : Json.NoTextBreak object.text.toList ↔ Json.NoTextBreak body := by
    rw [htext, Json.noTextBreak_append, Json.noTextBreak_append]
    have hfrontBreak := noTextBreak_of_isSpace hfront
    have hbackBreak := noTextBreak_of_isSpace hback
    tauto
  refine ⟨loads_extractJsonText object.loads_eq, ?_, ?_, ?_⟩
  · have hbeforePlain : ∀ c ∈ before.text.toList ++ front, c ≠ '\x7b' ∧ c ∉ fence :=
      List.forall_mem_append.mpr
        ⟨fun c hc => ⟨(before.plain c hc).1, (before.plain c hc).2.2⟩, plain_of_isSpace hfront⟩
    have hafterPlain : '\x7d' ∉ back ++ after.text.toList := by
      rw [List.mem_append, not_or]
      exact ⟨not_mem_of_isSpace hback rfl, fun hmem => (after.plain _ hmem).2.1 rfl⟩
    have hprose := extractJsonText_prose hbraces hbeforePlain hafterPlain
    have hjoined : before.text.toList ++ front ++ (body ++ (back ++ after.text.toList)) =
        (before.text ++ object.text ++ after.text).toList := by
      simp [htext]
    rw [hjoined, String.ofList_toList] at hprose
    rw [hprose]
    exact loads_of_spells hspells
  · rw [hfence, loads_lineFeeds_iff hspells, hno]
  · intro v hv
    rw [hfence] at hv
    have hbreak := (loads_lineFeeds_iff hspells).mp ⟨v, hv⟩
    rw [loads_of_spells (hspells.lineFeeds hbreak)] at hv
    exact (Except.ok.inj hv).symm

end AmazonSimilarSearch.Search
