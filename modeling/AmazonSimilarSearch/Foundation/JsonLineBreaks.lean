import AmazonSimilarSearch.Foundation.JsonGrammar
import AmazonSimilarSearch.Foundation.Lines

/-!
# Line breaks in JSON texts

Python ends a line at more characters than JSON takes for white space. When every line of a text is
ended by a line feed, the text spells the same value exactly if none of the others is in it: those
of them that JSON accepts at all stand in a string, where a line feed may not.
-/
namespace Foundation.Json

/-- A line ends here, and a string may hold the character. -/
def isTextBreak (c : Char) : Bool := isLineBoundary c && decide (32 ≤ c.toNat)

/-! ## Line feeds of pieces -/

theorem lineFeeds_cons {c : Char} {cs : List Char} (h : c ≠ '\r' ∨ cs.head? ≠ some '\n') :
    lineFeeds (c :: cs) = (if isLineBoundary c then '\n' else c) :: lineFeeds cs := by
  rw [lineFeeds]
  rintro rest rfl rfl
  rcases h with h | h
  · exact h rfl
  · exact h rfl

/-- A carriage return and a line feed are the only two characters that end one line. -/
theorem lineFeeds_append {cs rest : List Char}
    (h : cs.getLast? ≠ some '\r' ∨ rest.head? ≠ some '\n') :
    lineFeeds (cs ++ rest) = lineFeeds cs ++ lineFeeds rest := by
  have htail : ∀ {c : Char} {cs : List Char}, cs ≠ [] →
      ((c :: cs).getLast? ≠ some '\r' ∨ rest.head? ≠ some '\n') →
      cs.getLast? ≠ some '\r' ∨ rest.head? ≠ some '\n' := by
    intro c cs hne hlast
    obtain ⟨d, ds, rfl⟩ := List.exists_cons_of_ne_nil hne
    rwa [List.getLast?_cons_cons] at hlast
  fun_induction lineFeeds cs with
  | case1 => rfl
  | case2 cs ih =>
      by_cases hcs : cs = []
      · subst hcs
        rfl
      · rw [List.cons_append, List.cons_append, lineFeeds, ih (htail hcs (htail (by simp) h)),
          List.cons_append]
  | case3 c cs hcrlf ih =>
      by_cases hcs : cs = []
      · subst hcs
        rw [List.singleton_append, lineFeeds_cons]
        · rfl
        · simpa using h
      · rw [List.cons_append, lineFeeds_cons, ih (htail hcs h), List.cons_append]
        obtain ⟨d, ds, rfl⟩ := List.exists_cons_of_ne_nil hcs
        by_cases hc : c = '\r'
        · right
          intro hd
          cases hd
          exact hcrlf ds hc rfl
        · exact .inl hc

theorem lineFeeds_of_forall_ne {cs : List Char} (h : ∀ c ∈ cs, isLineBoundary c = false) :
    lineFeeds cs = cs :=
  lineFeeds_of_lineFeedsOnly fun c hc hboundary => by
    rw [h c hc] at hboundary
    cases hboundary

theorem isSpace_lineFeeds {space : List Char} (h : IsSpace space) : IsSpace (lineFeeds space) := by
  fun_induction lineFeeds space with
  | case1 => exact h
  | case2 cs ih =>
      have hrest := ih fun c hc => h c (List.mem_cons_of_mem _ (List.mem_cons_of_mem _ hc))
      exact List.forall_mem_cons.mpr ⟨rfl, hrest⟩
  | case3 c cs hcrlf ih =>
      refine List.forall_mem_cons.mpr ⟨?_, ih fun d hd => h d (List.mem_cons_of_mem _ hd)⟩
      split
      · rfl
      · exact h c List.mem_cons_self

/-- White space before a character that is no line feed. -/
theorem lineFeeds_before {cs : List Char} {c : Char} (hc : isLineBoundary c = false)
    (rest : List Char) : lineFeeds (cs ++ c :: rest) = lineFeeds cs ++ c :: lineFeeds rest := by
  have hfeed : c ≠ '\n' := by
    rintro rfl
    cases hc
  have hreturn : c ≠ '\r' := by
    rintro rfl
    cases hc
  rw [lineFeeds_append (.inr (by simpa using hfeed)), lineFeeds_cons (.inl hreturn), hc]
  rfl

/-- The last character of a text is no white space. -/
def EndsValue (text : List Char) : Prop := ∃ init c, text = init ++ [c] ∧ isJsonSpace c = false

theorem EndsValue.append {text : List Char} (h : EndsValue text) (before : List Char) :
    EndsValue (before ++ text) := by
  obtain ⟨init, c, rfl, hc⟩ := h
  exact ⟨before ++ init, c, (List.append_assoc _ _ _).symm, hc⟩

theorem EndsValue.cons {text : List Char} (h : EndsValue text) (c : Char) :
    EndsValue (c :: text) := h.append [c]

theorem endsValue_singleton {c : Char} (hc : isJsonSpace c = false) : EndsValue [c] :=
  ⟨[], c, rfl, hc⟩

theorem EndsValue.lineFeeds_append {text : List Char} (h : EndsValue text) (rest : List Char) :
    lineFeeds (text ++ rest) = lineFeeds text ++ lineFeeds rest := by
  apply Json.lineFeeds_append
  obtain ⟨init, c, rfl, hc⟩ := h
  left
  rw [List.getLast?_concat]
  intro heq
  cases heq
  cases hc

theorem endsValue_string {s body : List Char} (h : SpellsString s body) : EndsValue body := by
  induction h with
  | quote => exact endsValue_singleton rfl
  | @token c token s body htoken hbody ih => exact ih.append token

variable {h : Hooks}

theorem isLineBoundary_of_isScalarChar {c : Char} (hc : isScalarChar c = true) :
    isLineBoundary c = false ∧ isJsonSpace c = false := by
  have hne : ∀ d : Char, isScalarChar d = false → c ≠ d := by
    rintro d hd rfl
    rw [hc] at hd
    cases hd
  constructor
  · simp only [isLineBoundary, List.contains_eq_mem, List.mem_cons, List.not_mem_nil, or_false,
      decide_eq_false_iff_not, not_or]
    exact ⟨hne _ rfl, hne _ rfl, hne _ rfl, hne _ rfl, hne _ rfl, hne _ rfl, hne _ rfl, hne _ rfl,
      hne _ rfl, hne _ rfl⟩
  · simp only [isJsonSpace, Bool.or_eq_false_iff, beq_eq_false_iff_ne]
    exact ⟨⟨⟨hne _ rfl, hne _ rfl⟩, hne _ rfl⟩, hne _ rfl⟩

theorem endsValue_scalar {v : Json} {text : List Char} (hscalar : SpellsScalar h v text) :
    EndsValue text := by
  refine ⟨text.dropLast, text.getLast hscalar.ne_nil, ?_, ?_⟩
  · exact (List.dropLast_append_getLast hscalar.ne_nil).symm
  · exact (isLineBoundary_of_isScalarChar (hscalar.chars _ (List.getLast_mem _))).2

/-- A text of the grammar ends with no white space. -/
theorem Spells.endsValue {m : Meaning} {text : List Char} (hspells : Spells h m text) :
    EndsValue text := by
  induction hspells with
  | scalar hscalar => exact endsValue_scalar hscalar
  | string hbody => exact (endsValue_string hbody).cons '"'
  | @emptyObject v space _ _ => exact ((endsValue_singleton rfl).append space).cons _
  | @object v pairs space text _ _ _ ih => exact (ih.append space).cons _
  | @emptyArray space _ => exact ((endsValue_singleton rfl).append space).cons _
  | @array vs space text _ _ ih => exact (ih.append space).cons _
  | @lastItem v text space _ _ _ => exact ((endsValue_singleton rfl).append space).append text
  | @item v vs text before after texts _ _ _ _ _ ih =>
      exact (((ih.append after).cons ',').append before).append text
  | @lastMember k key before after text space v _ _ _ _ _ _ =>
      exact (((((((endsValue_singleton rfl).append space).append text).append after).cons
        ':').append before).append key).cons '"'
  | @member k key before after text space more texts v pairs _ _ _ _ _ _ _ _ ih =>
      exact (((((((((ih.append more).cons ',').append space).append text).append after).cons
        ':').append before).append key).cons '"')

/-! ## Texts without such breaks -/

def NoTextBreak (text : List Char) : Prop := ∀ c ∈ text, isTextBreak c = false

theorem noTextBreak_cons {c : Char} {text : List Char} :
    NoTextBreak (c :: text) ↔ isTextBreak c = false ∧ NoTextBreak text := List.forall_mem_cons

theorem noTextBreak_append {text rest : List Char} :
    NoTextBreak (text ++ rest) ↔ NoTextBreak text ∧ NoTextBreak rest := List.forall_mem_append

theorem toNat_of_hexValue {c : Char} {n : ℕ} (hc : hexValue? c = some n) :
    (48 ≤ c.toNat ∧ c.toNat ≤ 57) ∨ (65 ≤ c.toNat ∧ c.toNat ≤ 70) ∨
      (97 ≤ c.toNat ∧ c.toNat ≤ 102) := by
  unfold hexValue? at hc
  split_ifs at hc with hdigit hlower hupper
  · exact .inl hdigit
  · exact .inr (.inr hlower)
  · exact .inr (.inl hupper)

/-- A character of a string that ends no line and starts no escape. -/
structure IsInert (c : Char) : Prop where
  control : 32 ≤ c.toNat
  quote : c ≠ '"'
  escape : c ≠ '\\'
  break_eq : isTextBreak c = false

theorem isTextBreak_of_lt {c : Char} (hc : c.toNat < 128) : isTextBreak c = false := by
  by_cases hcontrol : 32 ≤ c.toNat
  · have hne : ∀ d : Char, d.toNat < 32 ∨ 128 ≤ d.toNat → c ≠ d := by
      rintro d hd rfl
      omega
    have hboundary : isLineBoundary c = false := by
      simp only [isLineBoundary, List.contains_eq_mem, List.mem_cons, List.not_mem_nil, or_false,
        decide_eq_false_iff_not, not_or]
      refine ⟨?_, ?_, ?_, ?_, ?_, ?_, ?_, ?_, ?_, ?_⟩ <;> exact hne _ (by decide)
    rw [isTextBreak, hboundary]
    rfl
  · rw [isTextBreak, decide_eq_false hcontrol, Bool.and_false]

theorem isInert_of_hexValue {c : Char} {n : ℕ} (hc : hexValue? c = some n) : IsInert c := by
  have hrange := toNat_of_hexValue hc
  refine ⟨by omega, ?_, ?_, isTextBreak_of_lt (by omega)⟩
  · rintro rfl
    cases hc
  · rintro rfl
    cases hc

theorem isInert_of_hexUnit {p q r s : Char} {u : ℕ} (hu : hexUnit? p q r s = some u) :
    IsInert p ∧ IsInert q ∧ IsInert r ∧ IsInert s := by
  simp only [hexUnit?, Option.bind_eq_bind, Option.bind_eq_some_iff] at hu
  obtain ⟨_, hp, _, hq, _, hr, _, hs, -⟩ := hu
  exact ⟨isInert_of_hexValue hp, isInert_of_hexValue hq, isInert_of_hexValue hr,
    isInert_of_hexValue hs⟩

theorem toNat_of_simpleEscape {e c : Char} (he : simpleEscape? e = some c) :
    32 ≤ e.toNat ∧ isTextBreak e = false := by
  have hmem : e ∈ ['"', '\\', '/', 'b', 'f', 'n', 'r', 't'] := by
    unfold simpleEscape? at he
    split_ifs at he
    all_goals simp_all
    tauto
  simp only [List.mem_cons, List.not_mem_nil, or_false] at hmem
  rcases hmem with rfl | rfl | rfl | rfl | rfl | rfl | rfl | rfl <;> decide

/-- The characters of a string are no control characters. -/
theorem control_string {s body : List Char} (hbody : SpellsString s body) :
    ∀ c ∈ body, 32 ≤ c.toNat := by
  induction hbody with
  | quote => exact List.forall_mem_singleton.mpr (by decide)
  | @token c token s body htoken hbody ih =>
      refine List.forall_mem_append.mpr ⟨?_, ih⟩
      cases htoken with
      | plain hquote hescape hcontrol => simpa using hcontrol
      | escape hunicode hc => simpa using (toNat_of_simpleEscape hc).1
      | unicode hu _ =>
          obtain ⟨hp, hq, hr, hs⟩ := isInert_of_hexUnit hu
          simpa using ⟨hp.control, hq.control, hr.control, hs.control⟩
      | surrogates hu hl _ _ =>
          obtain ⟨hp, hq, hr, hs⟩ := isInert_of_hexUnit hu
          obtain ⟨hp', hq', hr', hs'⟩ := isInert_of_hexUnit hl
          simpa using ⟨hp.control, hq.control, hr.control, hs.control,
            hp'.control, hq'.control, hr'.control, hs'.control⟩

theorem lineFeeds_string {s body : List Char} (hbody : SpellsString s body)
    (hno : NoTextBreak body) : lineFeeds body = body := by
  apply lineFeeds_of_forall_ne
  intro c hc
  have hbreak := hno c hc
  rw [isTextBreak, decide_eq_true (control_string hbody c hc), Bool.and_true] at hbreak
  exact hbreak

theorem lineFeeds_scalar {v : Json} {text : List Char} (hscalar : SpellsScalar h v text) :
    lineFeeds text = text :=
  lineFeeds_of_forall_ne fun c hc => (isLineBoundary_of_isScalarChar (hscalar.chars c hc)).1

theorem lineFeeds_space_append {space text : List Char} (htext : StartsValue text) :
    lineFeeds (space ++ text) = lineFeeds space ++ lineFeeds text := by
  obtain ⟨c, cs, rfl, hc, -⟩ := htext
  apply lineFeeds_append
  right
  intro heq
  cases heq
  cases hc

/-- Ending every line by a line feed keeps what is spelt. -/
theorem Spells.lineFeeds {m : Meaning} {text : List Char} (hspells : Spells h m text)
    (hno : NoTextBreak text) : Spells h m (lineFeeds text) := by
  induction hspells with
  | scalar hscalar =>
      rw [lineFeeds_scalar hscalar]
      exact .scalar hscalar
  | @string s body hbody =>
      rw [lineFeeds_cons (.inl (by decide)), lineFeeds_string hbody (noTextBreak_cons.mp hno).2]
      exact .string hbody
  | @emptyObject v space hspace hv =>
      rw [lineFeeds_cons (.inl (by decide)), lineFeeds_before rfl]
      exact .emptyObject (isSpace_lineFeeds hspace) hv
  | @object v pairs space text hspace hmembers hv ih =>
      simp only [noTextBreak_cons, noTextBreak_append] at hno
      rw [lineFeeds_cons (.inl (by decide)), lineFeeds_space_append hmembers.startsValue]
      exact .object (isSpace_lineFeeds hspace) (ih hno.2.2) hv
  | @emptyArray space hspace =>
      rw [lineFeeds_cons (.inl (by decide)), lineFeeds_before rfl]
      exact .emptyArray (isSpace_lineFeeds hspace)
  | @array vs space text hspace hitems ih =>
      simp only [noTextBreak_cons, noTextBreak_append] at hno
      rw [lineFeeds_cons (.inl (by decide)), lineFeeds_space_append hitems.startsValue]
      exact .array (isSpace_lineFeeds hspace) (ih hno.2.2)
  | @lastItem v text space hv hspace ih =>
      rw [hv.endsValue.lineFeeds_append, lineFeeds_before rfl]
      exact .lastItem (ih (noTextBreak_append.mp hno).1) (isSpace_lineFeeds hspace)
  | @item v vs text before after texts hv hbefore hafter hitems ihValue ihItems =>
      simp only [noTextBreak_cons, noTextBreak_append] at hno
      rw [hv.endsValue.lineFeeds_append, lineFeeds_before rfl,
        lineFeeds_space_append hitems.startsValue]
      exact .item (ihValue hno.1) (isSpace_lineFeeds hbefore) (isSpace_lineFeeds hafter)
        (ihItems hno.2.2.2.2)
  | @lastMember k key before after text space v hkey hbefore hafter hv hspace ih =>
      simp only [noTextBreak_cons, noTextBreak_append] at hno
      rw [lineFeeds_cons (.inl (by decide)), (endsValue_string hkey).lineFeeds_append,
        lineFeeds_before rfl, lineFeeds_space_append (hv.startsValue.append _),
        hv.endsValue.lineFeeds_append, lineFeeds_before rfl, lineFeeds_string hkey hno.2.1]
      exact .lastMember hkey (isSpace_lineFeeds hbefore) (isSpace_lineFeeds hafter)
        (ih hno.2.2.2.2.2.1) (isSpace_lineFeeds hspace)
  | @member k key before after text space more texts v pairs hkey hbefore hafter hv hspace hmore
      hmembers ihValue ihMembers =>
      simp only [noTextBreak_cons, noTextBreak_append] at hno
      rw [lineFeeds_cons (.inl (by decide)), (endsValue_string hkey).lineFeeds_append,
        lineFeeds_before rfl, lineFeeds_space_append (hv.startsValue.append _),
        hv.endsValue.lineFeeds_append, lineFeeds_before rfl,
        lineFeeds_space_append hmembers.startsValue, lineFeeds_string hkey hno.2.1]
      exact .member hkey (isSpace_lineFeeds hbefore) (isSpace_lineFeeds hafter)
        (ihValue hno.2.2.2.2.2.1) (isSpace_lineFeeds hspace) (isSpace_lineFeeds hmore)
        (ihMembers hno.2.2.2.2.2.2.2.2.2)

/-! ## Texts with such breaks -/

/-- Where a text is read: outside of strings, in a string, or behind a backslash in one. -/
inductive Place where
  | outside
  | inside
  | escaped

/-- Strings hold no control characters, and lines are broken in no other place but in strings. -/
def Tidy : Place → List Char → Prop
  | _, [] => True
  | .outside, c :: cs =>
      if c = '"' then Tidy .inside cs else isTextBreak c = false ∧ Tidy .outside cs
  | .inside, c :: cs => 32 ≤ c.toNat ∧
      if c = '"' then Tidy .outside cs
      else if c = '\\' then Tidy .escaped cs else Tidy .inside cs
  | .escaped, c :: cs => 32 ≤ c.toNat ∧ isTextBreak c = false ∧ Tidy .inside cs

theorem tidy_outside_iff {c : Char} {cs : List Char} : Tidy .outside (c :: cs) ↔
    if c = '"' then Tidy .inside cs else isTextBreak c = false ∧ Tidy .outside cs := Iff.rfl

theorem tidy_inside_iff {c : Char} {cs : List Char} : Tidy .inside (c :: cs) ↔ 32 ≤ c.toNat ∧
    if c = '"' then Tidy .outside cs
    else if c = '\\' then Tidy .escaped cs else Tidy .inside cs := Iff.rfl

theorem tidy_escaped_iff {c : Char} {cs : List Char} : Tidy .escaped (c :: cs) ↔
    32 ≤ c.toNat ∧ isTextBreak c = false ∧ Tidy .inside cs := Iff.rfl

theorem tidy_inert {c : Char} (hc : IsInert c) (cs : List Char) :
    Tidy .inside (c :: cs) ↔ Tidy .inside cs := by
  rw [tidy_inside_iff, if_neg hc.quote, if_neg hc.escape]
  exact and_iff_right hc.control

theorem tidy_escape {e : Char} (he : 32 ≤ e.toNat ∧ isTextBreak e = false) (cs : List Char) :
    Tidy .inside ('\\' :: e :: cs) ↔ Tidy .inside cs := by
  rw [tidy_inside_iff, if_neg (by decide), if_pos rfl, tidy_escaped_iff]
  exact (and_iff_right (by decide)).trans ((and_iff_right he.1).trans (and_iff_right he.2))

theorem tidy_unicode {p q r s : Char} {u : ℕ} (hu : hexUnit? p q r s = some u) (cs : List Char) :
    Tidy .inside ('\\' :: 'u' :: p :: q :: r :: s :: cs) ↔ Tidy .inside cs := by
  obtain ⟨hp, hq, hr, hs⟩ := isInert_of_hexUnit hu
  rw [tidy_escape (by decide), tidy_inert hp, tidy_inert hq, tidy_inert hr, tidy_inert hs]

/-- A string leads outside again. -/
theorem tidy_string {s body : List Char} (hbody : SpellsString s body) (rest : List Char) :
    Tidy .inside (body ++ rest) ↔ Tidy .outside rest := by
  induction hbody with
  | quote =>
      rw [List.singleton_append, tidy_inside_iff, if_pos rfl]
      exact and_iff_right (by decide)
  | @token c token s body htoken hbody ih =>
      rw [← ih, List.append_assoc]
      cases htoken with
      | plain hquote hescape hcontrol =>
          rw [List.singleton_append, tidy_inside_iff, if_neg hquote, if_neg hescape]
          exact and_iff_right hcontrol
      | escape hunicode hc => exact tidy_escape (toNat_of_simpleEscape hc) _
      | unicode hu _ => exact tidy_unicode hu _
      | surrogates hu hl _ _ => exact (tidy_unicode hu _).trans (tidy_unicode hl _)

theorem tidy_outside_cons {c : Char} (hquote : c ≠ '"') (hc : c.toNat < 128) (cs : List Char) :
    Tidy .outside (c :: cs) ↔ Tidy .outside cs := by
  rw [tidy_outside_iff, if_neg hquote]
  exact and_iff_right (isTextBreak_of_lt hc)

theorem tidy_outside_append {text : List Char} (htext : ∀ c ∈ text, c ≠ '"' ∧ c.toNat < 128)
    (rest : List Char) : Tidy .outside (text ++ rest) ↔ Tidy .outside rest := by
  induction text with
  | nil => exact Iff.rfl
  | cons c text ih =>
      obtain ⟨hc, htext⟩ := List.forall_mem_cons.mp htext
      rw [List.cons_append, tidy_outside_cons hc.1 hc.2, ih htext]

theorem tidy_space {space : List Char} (hspace : IsSpace space) (rest : List Char) :
    Tidy .outside (space ++ rest) ↔ Tidy .outside rest := by
  apply tidy_outside_append
  intro c hc
  have hspaceChar := hspace c hc
  simp only [isJsonSpace, Bool.or_eq_true, beq_iff_eq] at hspaceChar
  rcases hspaceChar with ((rfl | rfl) | rfl) | rfl <;> decide

theorem toNat_of_isScalarChar {c : Char} (hc : isScalarChar c = true) : c.toNat < 128 := by
  have hval : c.toNat = c.val.toNat := rfl
  delta isScalarChar Char.isAlphanum Char.isAlpha Char.isUpper Char.isLower Char.isDigit at hc
  simp only [Bool.or_eq_true, Bool.and_eq_true, decide_eq_true_eq, beq_iff_eq, ge_iff_le,
    UInt32.le_iff_toNat_le] at hc
  rcases hc with (((((hc | hc) | hc)) | rfl) | rfl) | rfl
  · exact hval ▸ hc.2.trans_lt (by decide)
  · exact hval ▸ hc.2.trans_lt (by decide)
  · exact hval ▸ hc.2.trans_lt (by decide)
  all_goals decide

theorem tidy_scalar {v : Json} {text : List Char} (hscalar : SpellsScalar h v text)
    (rest : List Char) : Tidy .outside (text ++ rest) ↔ Tidy .outside rest := by
  apply tidy_outside_append
  intro c hc
  have hchar := hscalar.chars c hc
  constructor
  · rintro rfl
    cases hchar
  · exact toNat_of_isScalarChar hchar

/-- A text of the grammar starts and ends outside of strings. -/
theorem Spells.tidy {m : Meaning} {text : List Char} (hspells : Spells h m text)
    (rest : List Char) : Tidy .outside (text ++ rest) ↔ Tidy .outside rest := by
  induction hspells generalizing rest with
  | scalar hscalar => exact tidy_scalar hscalar rest
  | string hbody =>
      rw [List.cons_append, tidy_outside_iff, if_pos rfl]
      exact tidy_string hbody rest
  | emptyObject hspace hv =>
      rw [List.cons_append, List.append_assoc, tidy_outside_cons (by decide) (by decide),
        tidy_space hspace]
      exact tidy_outside_cons (by decide) (by decide) rest
  | object hspace hmembers hv ih =>
      rw [List.cons_append, List.append_assoc, tidy_outside_cons (by decide) (by decide),
        tidy_space hspace, ih]
  | emptyArray hspace =>
      rw [List.cons_append, List.append_assoc, tidy_outside_cons (by decide) (by decide),
        tidy_space hspace]
      exact tidy_outside_cons (by decide) (by decide) rest
  | array hspace hitems ih =>
      rw [List.cons_append, List.append_assoc, tidy_outside_cons (by decide) (by decide),
        tidy_space hspace, ih]
  | lastItem hv hspace ih =>
      rw [List.append_assoc, List.append_assoc, ih, tidy_space hspace]
      exact tidy_outside_cons (by decide) (by decide) rest
  | item hv hbefore hafter hitems ihValue ihItems =>
      rw [List.append_assoc, List.append_assoc, ihValue, tidy_space hbefore, List.cons_append,
        tidy_outside_cons (by decide) (by decide), List.append_assoc, tidy_space hafter, ihItems]
  | lastMember hkey hbefore hafter hv hspace ih =>
      simp only [List.cons_append, List.append_assoc]
      rw [tidy_outside_iff, if_pos rfl, tidy_string hkey, tidy_space hbefore,
        tidy_outside_cons (by decide) (by decide), tidy_space hafter, ih, tidy_space hspace]
      exact tidy_outside_cons (by decide) (by decide) rest
  | member hkey hbefore hafter hv hspace hmore hmembers ihValue ihMembers =>
      simp only [List.cons_append, List.append_assoc]
      rw [tidy_outside_iff, if_pos rfl, tidy_string hkey, tidy_space hbefore,
        tidy_outside_cons (by decide) (by decide), tidy_space hafter, ihValue, tidy_space hspace,
        tidy_outside_cons (by decide) (by decide), tidy_space hmore, ihMembers]

/-- A break in a tidy text stands in a string, and a line feed in its place is not tidy. -/
theorem noTextBreak_of_tidy {cs : List Char} {place : Place} (htidy : Tidy place cs)
    (hfeeds : Tidy place (lineFeeds cs)) : NoTextBreak cs := by
  fun_induction lineFeeds cs generalizing place with
  | case1 => exact List.forall_mem_nil _
  | case2 cs ih =>
      cases place with
      | outside =>
          rw [tidy_outside_cons (by decide) (by decide)] at htidy hfeeds
          rw [tidy_outside_cons (by decide) (by decide)] at htidy
          exact noTextBreak_cons.mpr ⟨rfl, noTextBreak_cons.mpr ⟨rfl, ih htidy hfeeds⟩⟩
      | inside => exact absurd htidy.1 (by decide)
      | escaped => exact absurd htidy.1 (by decide)
  | case3 c cs hcrlf ih =>
      cases place with
      | outside =>
          rw [tidy_outside_iff] at htidy
          split_ifs at htidy with hquote
          · subst hquote
            exact noTextBreak_cons.mpr ⟨rfl, ih htidy hfeeds⟩
          · refine noTextBreak_cons.mpr ⟨htidy.1, ih htidy.2 ?_⟩
            split_ifs at hfeeds with hboundary
            · exact (tidy_outside_cons (by decide) (by decide) _).mp hfeeds
            · rw [Tidy, if_neg hquote] at hfeeds
              exact hfeeds.2
      | inside =>
          split_ifs at hfeeds with hboundary
          · exact absurd hfeeds.1 (by decide)
          · have hc : isTextBreak c = false := by
              rw [isTextBreak, Bool.not_eq_true _ |>.mp hboundary]
              rfl
            rw [tidy_inside_iff] at htidy hfeeds
            refine noTextBreak_cons.mpr ⟨hc, ?_⟩
            split_ifs at htidy hfeeds with hquote hescape
            · exact ih htidy.2 hfeeds.2
            · exact ih htidy.2 hfeeds.2
            · exact ih htidy.2 hfeeds.2
      | escaped =>
          split_ifs at hfeeds with hboundary
          · exact absurd hfeeds.1 (by decide)
          · exact noTextBreak_cons.mpr ⟨htidy.2.1, ih htidy.2.2 hfeeds.2.2⟩

/-- Ending every line by a line feed keeps what is spelt exactly if no such break is there. -/
theorem spells_lineFeeds_iff {v : Json} {text : List Char} (hspells : Spells h (.value v) text) :
    (∃ w, Spells h (.value w) (lineFeeds text)) ↔ NoTextBreak text := by
  constructor
  · rintro ⟨w, hfeeds⟩
    have htidy := (hspells.tidy []).mpr trivial
    have hfeedsTidy := (hfeeds.tidy []).mpr trivial
    rw [List.append_nil] at htidy hfeedsTidy
    exact noTextBreak_of_tidy htidy hfeedsTidy
  · exact fun hno => ⟨v, hspells.lineFeeds hno⟩

end Foundation.Json
