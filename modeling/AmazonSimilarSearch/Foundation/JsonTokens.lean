import AmazonSimilarSearch.Foundation.JsonRoundTrip
import Mathlib.Data.List.TakeWhile

/-!
# Strings and numbers in JSON texts

A string is spelt by tokens, one for each of its characters, up to a quote. A number or a literal
is read again wherever nothing follows that would continue it.
-/
namespace Foundation.Json

/-! ## Strings -/

/-- A character of a string, and how it may be written. -/
inductive StringToken : Char → List Char → Prop where
  | plain {c : Char} (hquote : c ≠ '"') (hescape : c ≠ '\\') (hcontrol : 32 ≤ c.toNat) :
      StringToken c [c]
  | escape {e c : Char} (hunicode : e ≠ 'u') (hc : simpleEscape? e = some c) :
      StringToken c ['\\', e]
  | unicode {p q r s : Char} {u : ℕ} (hu : hexUnit? p q r s = some u)
      (hsurrogate : ¬ (0xD800 ≤ u ∧ u < 0xE000)) :
      StringToken (Char.ofNat u) ['\\', 'u', p, q, r, s]
  | surrogates {p q r s p' q' r' s' : Char} {u l : ℕ} (hu : hexUnit? p q r s = some u)
      (hl : hexUnit? p' q' r' s' = some l) (hhigh : 0xD800 ≤ u ∧ u < 0xDC00)
      (hlow : 0xDC00 ≤ l ∧ l < 0xE000) :
      StringToken (Char.ofNat (0x10000 + (u - 0xD800) * 0x400 + (l - 0xDC00)))
        ['\\', 'u', p, q, r, s, '\\', 'u', p', q', r', s']

/-- The characters of a string, and its text up to the closing quote. -/
inductive SpellsString : List Char → List Char → Prop where
  | quote : SpellsString [] ['"']
  | token {c : Char} {token s body : List Char} (htoken : StringToken c token)
      (hbody : SpellsString s body) : SpellsString (c :: s) (token ++ body)

theorem consChar_eq_ok_iff {c : Char} {r : Except JsonError (List Char × List Char)}
    {s rest : List Char} :
    consChar c r = .ok (s, rest) ↔ ∃ tail, s = c :: tail ∧ r = .ok (tail, rest) := by
  cases r with
  | error e => simp [consChar, Except.map]
  | ok p =>
      obtain ⟨tail, left⟩ := p
      simp only [consChar, Except.map, Except.ok.injEq, Prod.mk.injEq]
      constructor
      · rintro ⟨rfl, rfl⟩
        exact ⟨tail, rfl, rfl, rfl⟩
      · rintro ⟨tail', rfl, rfl, rfl⟩
        exact ⟨rfl, rfl⟩

theorem parseString_token {c : Char} {token : List Char} (h : StringToken c token)
    (tail : List Char) : parseString (token ++ tail) = consChar c (parseString tail) := by
  cases h with
  | plain hquote hescape hcontrol =>
      exact parseString_cons_plain hquote hescape (by omega) tail
  | escape hunicode hc =>
      rw [List.cons_append, List.singleton_append, parseString.eq_def]
      simp [hunicode, hc]
  | @unicode p q r s u hu hsurrogate =>
      have hhigh : ¬ (0xD800 ≤ u ∧ u < 0xDC00) := by omega
      have hlow : ¬ (0xDC00 ≤ u ∧ u < 0xE000) := by omega
      simp only [List.cons_append, List.nil_append]
      rw [parseString.eq_def]
      simp [hu, hhigh, hlow]
  | surrogates hu hl hhigh hlow =>
      simp only [List.cons_append, List.nil_append]
      rw [parseString.eq_def]
      simp [hu, hl, hhigh, hlow]

theorem parseString_of_spells {s body : List Char} (h : SpellsString s body) (rest : List Char) :
    parseString (body ++ rest) = .ok (s, rest) := by
  induction h with
  | quote =>
      rw [List.singleton_append, parseString.eq_def]
      simp
  | token htoken hbody ih =>
      rw [List.append_assoc, parseString_token htoken, ih]
      rfl

theorem spells_of_consChar {c : Char} {token cs s rest : List Char} (htoken : StringToken c token)
    (ih : ∀ {tail}, parseString cs = .ok (tail, rest) →
      ∃ body, cs = body ++ rest ∧ SpellsString tail body)
    (h : consChar c (parseString cs) = .ok (s, rest)) :
    ∃ body, token ++ cs = body ++ rest ∧ SpellsString s body := by
  obtain ⟨tail, rfl, htail⟩ := consChar_eq_ok_iff.mp h
  obtain ⟨body, rfl, hbody⟩ := ih htail
  exact ⟨token ++ body, (List.append_assoc _ _ _).symm, .token htoken hbody⟩

/-- What is read as a string spells it. -/
theorem spells_of_parseString {cs s rest : List Char} (h : parseString cs = .ok (s, rest)) :
    ∃ body, cs = body ++ rest ∧ SpellsString s body := by
  fun_induction parseString cs generalizing s with
  | case2 cs =>
      cases h
      exact ⟨['"'], rfl, .quote⟩
  | case6 p q r s u hu hhigh p' q' r' s' cs l hl hlow _ ih =>
      exact spells_of_consChar (.surrogates hu hl hhigh hlow) ih h
  | case10 p q r s cs u hu hhigh hlow _ ih =>
      exact spells_of_consChar (.unicode hu (by omega)) ih h
  | case13 e cs hunicode c hc _ ih => exact spells_of_consChar (.escape hunicode hc) ih h
  | case15 c cs hquote hescape hcontrol ih =>
      exact spells_of_consChar (.plain hquote hescape (not_lt.mp hcontrol)) ih h
  | _ => cases h

/-! ## Numbers and literals -/

/-- The characters of numbers and literals. -/
def isScalarChar (c : Char) : Bool := c.isAlphanum || c == '-' || c == '+' || c == '.'

/-- The rest does not continue a run of digits. -/
def EndsDigits (rest : List Char) : Prop := ∀ c ∈ rest.head?, c.isDigit = false

theorem EndsNumber.endsDigits {rest : List Char} (h : EndsNumber rest) : EndsDigits rest := by
  intro c hc
  obtain ⟨cs, rfl⟩ := List.head?_eq_some_iff.mp hc
  exact (h c cs rfl).1

theorem isScalarChar_of_isDigit {c : Char} (h : c.isDigit = true) : isScalarChar c = true := by
  simp [isScalarChar, Char.isAlphanum, h]

theorem takeWhile_isDigit_append {digits rest : List Char}
    (hdigits : ∀ c ∈ digits, c.isDigit = true) (hrest : EndsDigits rest) :
    (digits ++ rest).takeWhile Char.isDigit = digits ∧
      (digits ++ rest).dropWhile Char.isDigit = rest := by
  rw [List.takeWhile_append_of_pos hdigits, List.dropWhile_append_of_pos hdigits]
  cases rest with
  | nil => simp
  | cons c cs => simp [hrest c rfl]

/-- Digits of a text, up to what follows them. -/
theorem isDigit_takeWhile (cs : List Char) : ∀ c ∈ cs.takeWhile Char.isDigit, c.isDigit = true :=
  List.all_eq_true.mp List.all_takeWhile

/-- The whole part is read again where no further digit follows. -/
theorem exists_wholePart {cs whole left : List Char} (h : wholePart cs = (whole, left))
    (hwhole : whole ≠ []) :
    cs = whole ++ left ∧ (∀ c ∈ whole, c.isDigit = true) ∧
      ∀ rest, EndsDigits rest → wholePart (whole ++ rest) = (whole, rest) := by
  unfold wholePart at h ⊢
  by_cases hzero : cs.head? = some '0'
  · rw [if_pos hzero] at h
    cases h
    obtain ⟨tail, rfl⟩ := List.head?_eq_some_iff.mp hzero
    exact ⟨rfl, by simp, fun rest _ => rfl⟩
  · rw [if_neg hzero] at h
    cases h
    refine ⟨List.takeWhile_append_dropWhile.symm, isDigit_takeWhile cs, fun rest hrest => ?_⟩
    have hread := takeWhile_isDigit_append (isDigit_takeWhile cs) hrest
    have hhead : (cs.takeWhile Char.isDigit ++ rest).head? ≠ some '0' := by
      cases cs with
      | nil => exact absurd rfl hwhole
      | cons c cs =>
          cases hc : c.isDigit with
          | false => simp [hc] at hwhole
          | true => simpa [List.takeWhile_cons, hc] using hzero
    rw [if_neg hhead, hread.1, hread.2]

theorem fractionPart_append {digits rest : List Char} (hdigits : ∀ c ∈ digits, c.isDigit = true)
    (hne : digits ≠ []) (hrest : EndsDigits rest) :
    fractionPart ('.' :: (digits ++ rest)) = (digits, rest) := by
  have hread := takeWhile_isDigit_append hdigits hrest
  rw [fractionPart, hread.1, hread.2]
  exact if_neg hne

/-- The fraction is absent, or its digits follow a point. -/
theorem exists_fractionPart {cs fraction left : List Char}
    (h : fractionPart cs = (fraction, left)) :
    (fraction = [] ∧ left = cs) ∨
      fraction ≠ [] ∧ cs = '.' :: (fraction ++ left) ∧ ∀ c ∈ fraction, c.isDigit = true := by
  unfold fractionPart at h
  split at h
  · next cs =>
      dsimp only at h
      split_ifs at h with hnil
      · cases h
        exact .inl ⟨rfl, rfl⟩
      · cases h
        refine .inr ⟨hnil, ?_, isDigit_takeWhile cs⟩
        rw [List.takeWhile_append_dropWhile]
  · cases h
    exact .inl ⟨rfl, rfl⟩

/-- The value of an exponent. -/
def exponentValue (sign digits : List Char) : ℤ :=
  if sign = ['-'] then -(Nat.ofDigitChars 10 digits 0 : ℤ) else Nat.ofDigitChars 10 digits 0

/-- An exponent has digits behind its sign, if it has one. -/
theorem exponentPart_sign {e : Char} (he : e = 'e' ∨ e = 'E') {sign body : List Char}
    (hsign : sign = ['-'] ∨ sign = ['+'] ∨
      sign = [] ∧ body.head? ≠ some '-' ∧ body.head? ≠ some '+') :
    exponentPart (e :: (sign ++ body)) =
      if body.takeWhile Char.isDigit = [] then (none, e :: (sign ++ body))
      else (some (exponentValue sign (body.takeWhile Char.isDigit)),
        body.dropWhile Char.isDigit) := by
  rw [exponentPart, if_pos he]
  rcases hsign with rfl | rfl | ⟨rfl, hminus, hplus⟩
  · simp only [List.singleton_append, List.head?_cons, true_or, if_true, List.drop_one,
      List.tail_cons, exponentValue]
  · simp only [List.singleton_append, List.head?_cons, Option.some.injEq, Char.reduceEq, or_true,
      if_true, List.drop_one, List.tail_cons, if_false, exponentValue, List.cons.injEq, and_true]
  · simp only [List.nil_append, hplus, hminus, or_self, if_false, reduceCtorEq, exponentValue]

/-- Whatever follows the letter has a sign or has none. -/
theorem exists_sign (cs : List Char) :
    ∃ sign body, cs = sign ++ body ∧ (sign = ['-'] ∨ sign = ['+'] ∨
      sign = [] ∧ body.head? ≠ some '-' ∧ body.head? ≠ some '+') := by
  by_cases hminus : cs.head? = some '-'
  · obtain ⟨body, rfl⟩ := List.head?_eq_some_iff.mp hminus
    exact ⟨['-'], body, rfl, .inl rfl⟩
  · by_cases hplus : cs.head? = some '+'
    · obtain ⟨body, rfl⟩ := List.head?_eq_some_iff.mp hplus
      exact ⟨['+'], body, rfl, .inr (.inl rfl)⟩
    · exact ⟨[], cs, rfl, .inr (.inr ⟨rfl, hminus, hplus⟩)⟩

/-- The exponent is absent, or is read again where no further digit follows. -/
theorem exists_exponentPart {cs left : List Char} {exponent : Option ℤ}
    (h : exponentPart cs = (exponent, left)) :
    (exponent = none ∧ left = cs) ∨
      ∃ e text, (e = 'e' ∨ e = 'E') ∧ cs = e :: (text ++ left) ∧
        (∀ c ∈ text, isScalarChar c = true) ∧
        ∀ rest, EndsDigits rest → exponentPart (e :: (text ++ rest)) = (exponent, rest) := by
  cases cs with
  | nil =>
      cases h
      exact .inl ⟨rfl, rfl⟩
  | cons e tail =>
      by_cases he : e = 'e' ∨ e = 'E'
      · obtain ⟨sign, body, rfl, hsign⟩ := exists_sign tail
        rw [exponentPart_sign he hsign] at h
        split_ifs at h with hnil
        · cases h
          exact .inl ⟨rfl, rfl⟩
        · cases h
          refine .inr ⟨e, sign ++ body.takeWhile Char.isDigit, he, ?_, ?_, fun rest hrest => ?_⟩
          · rw [List.append_assoc, List.takeWhile_append_dropWhile]
          · intro c hc
            rcases List.mem_append.mp hc with hc | hc
            · rcases hsign with rfl | rfl | ⟨rfl, -, -⟩
              · exact List.mem_singleton.mp hc ▸ rfl
              · exact List.mem_singleton.mp hc ▸ rfl
              · cases hc
            · exact isScalarChar_of_isDigit (isDigit_takeWhile body c hc)
          · have hread := takeWhile_isDigit_append (isDigit_takeWhile body) hrest
            have hhead : (body.takeWhile Char.isDigit ++ rest).head? = body.head? := by
              cases body with
              | nil => exact absurd rfl hnil
              | cons c cs =>
                  cases hc : c.isDigit with
                  | false => simp [hc] at hnil
                  | true => simp [hc]
            rw [List.append_assoc, exponentPart_sign he (by rwa [hhead]), hread.1, hread.2,
              if_neg hnil]
      · rw [exponentPart, if_neg he] at h
        cases h
        exact .inl ⟨rfl, rfl⟩

theorem endsDigits_cons {c : Char} (h : c.isDigit = false) (cs : List Char) :
    EndsDigits (c :: cs) := by
  intro d hd
  cases hd
  exact h

theorem fractionPart_of_ne {cs : List Char} (h : cs.head? ≠ some '.') :
    fractionPart cs = ([], cs) := by
  unfold fractionPart
  split
  · exact absurd rfl h
  · rfl

/-- The text of an exponent, or none, is read again before what ends the number. -/
theorem exists_exponentText {cs left : List Char} {exponent : Option ℤ}
    (h : exponentPart cs = (exponent, left)) :
    ∃ text, cs = text ++ left ∧ (∀ c ∈ text, isScalarChar c = true) ∧
      ∀ rest, EndsNumber rest → exponentPart (text ++ rest) = (exponent, rest) ∧
        EndsDigits (text ++ rest) ∧ (text ++ rest).head? ≠ some '.' := by
  rcases exists_exponentPart h with ⟨rfl, rfl⟩ | ⟨e, text, he, rfl, hchars, hagain⟩
  · refine ⟨[], rfl, by simp, fun rest hrest => ?_⟩
    refine ⟨exponentPart_of_endsNumber hrest, hrest.endsDigits, fun hpoint => ?_⟩
    obtain ⟨tail, rfl⟩ := List.head?_eq_some_iff.mp hpoint
    exact (hrest '.' tail rfl).2.1 rfl
  · have hletter : isScalarChar e = true ∧ e.isDigit = false ∧ e ≠ '.' := by
      rcases he with rfl | rfl <;> decide
    refine ⟨e :: text, rfl, List.forall_mem_cons.mpr ⟨hletter.1, hchars⟩, fun rest hrest => ?_⟩
    refine ⟨hagain rest hrest.endsDigits, endsDigits_cons hletter.2.1 _, ?_⟩
    simpa using hletter.2.2

/-- The text of a fraction, or none, is read again before what starts no fraction. -/
theorem exists_fractionText {cs fraction left : List Char}
    (h : fractionPart cs = (fraction, left)) :
    ∃ text, cs = text ++ left ∧ (∀ c ∈ text, isScalarChar c = true) ∧
      ∀ rest, EndsDigits rest → rest.head? ≠ some '.' →
        fractionPart (text ++ rest) = (fraction, rest) ∧ EndsDigits (text ++ rest) := by
  rcases exists_fractionPart h with ⟨rfl, rfl⟩ | ⟨hsome, rfl, hchars⟩
  · exact ⟨[], rfl, by simp, fun rest hrest hpoint => ⟨fractionPart_of_ne hpoint, hrest⟩⟩
  · refine ⟨'.' :: fraction, rfl, ?_, fun rest hrest _ => ?_⟩
    · exact List.forall_mem_cons.mpr ⟨rfl, fun c hc => isScalarChar_of_isDigit (hchars c hc)⟩
    · exact ⟨fractionPart_append hchars hsome hrest, endsDigits_cons rfl _⟩

/-- The value of a number that is read in parts. -/
def numberValue (negative : Bool) (whole fraction : List Char) (exponent : Option ℤ) :
    Except JsonError Json :=
  if fraction = [] ∧ exponent = none then
    if maxIntegerDigits < whole.length then .error .integerTooLong
    else .ok (.int (if negative then -(Nat.ofDigitChars 10 whole 0 : ℤ)
      else Nat.ofDigitChars 10 whole 0))
  else .ok (.float (PyFloat.ofDecimal negative (Nat.ofDigitChars 10 (whole ++ fraction) 0)
    (exponent.getD 0 - fraction.length)))

theorem parseNumber_parts {negative : Bool} {cs whole afterWhole fraction afterFraction left : List Char}
    {exponent : Option ℤ} (hwhole : wholePart cs = (whole, afterWhole)) (hne : whole ≠ [])
    (hfraction : fractionPart afterWhole = (fraction, afterFraction))
    (hexponent : exponentPart afterFraction = (exponent, left)) :
    parseNumber negative cs =
      (numberValue negative whole fraction exponent).map fun v => (v, left) := by
  unfold parseNumber numberValue
  simp only [hwhole, hfraction, hexponent, hne, if_false]
  split_ifs <;> rfl

/-- A number is read again where nothing follows that would continue it. -/
theorem exists_number {negative : Bool} {cs left : List Char} {v : Json}
    (h : parseNumber negative cs = .ok (v, left)) :
    ∃ c text, cs = c :: (text ++ left) ∧ c.isDigit = true ∧ (∀ d ∈ text, isScalarChar d = true) ∧
      ∀ rest, EndsNumber rest → parseNumber negative (c :: (text ++ rest)) = .ok (v, rest) := by
  obtain ⟨whole, afterWhole, hwhole⟩ : ∃ whole left, wholePart cs = (whole, left) := ⟨_, _, rfl⟩
  obtain ⟨fraction, afterFraction, hfraction⟩ :
      ∃ fraction left, fractionPart afterWhole = (fraction, left) := ⟨_, _, rfl⟩
  obtain ⟨exponent, afterExponent, hexponent⟩ :
      ∃ exponent left, exponentPart afterFraction = (exponent, left) := ⟨_, _, rfl⟩
  have hne : whole ≠ [] := by
    rintro rfl
    simp [parseNumber, hwhole] at h
  rw [parseNumber_parts hwhole hne hfraction hexponent] at h
  cases hvalue : numberValue negative whole fraction exponent with
  | error e =>
      rw [hvalue] at h
      cases h
  | ok value =>
      rw [hvalue] at h
      cases h
      obtain ⟨hcs, hdigits, hwholeAgain⟩ := exists_wholePart hwhole hne
      obtain ⟨exponentText, hexponentText, hexponentChars, hexponentAgain⟩ :=
        exists_exponentText hexponent
      obtain ⟨fractionText, hfractionText, hfractionChars, hfractionAgain⟩ :=
        exists_fractionText hfraction
      obtain ⟨c, whole, rfl⟩ := List.exists_cons_of_ne_nil hne
      obtain ⟨hc, hdigits⟩ := List.forall_mem_cons.mp hdigits
      refine ⟨c, whole ++ (fractionText ++ exponentText), ?_, hc, ?_, fun rest hrest => ?_⟩
      · rw [hcs, hfractionText, hexponentText, List.cons_append, List.append_assoc,
          List.append_assoc]
      · intro d hd
        rcases List.mem_append.mp hd with hd | hd
        · exact isScalarChar_of_isDigit (hdigits d hd)
        · rcases List.mem_append.mp hd with hd | hd
          · exact hfractionChars d hd
          · exact hexponentChars d hd
      · obtain ⟨hexponentRead, hexponentEnds, hpoint⟩ := hexponentAgain rest hrest
        obtain ⟨hfractionRead, hfractionEnds⟩ := hfractionAgain _ hexponentEnds hpoint
        rw [List.append_assoc, List.append_assoc, ← List.cons_append,
          parseNumber_parts (hwholeAgain _ hfractionEnds) hne hfractionRead hexponentRead, hvalue]
        rfl

/-- What a value is read as that is no string, array or object. -/
def parseScalar (h : Hooks) (c : Char) (cs : List Char) : Except JsonError (Json × List Char) :=
  if c = 'n' then parseLiteral ['u', 'l', 'l'] (.ok .null) cs
  else if c = 't' then parseLiteral ['r', 'u', 'e'] (.ok (.bool true)) cs
  else if c = 'f' then parseLiteral ['a', 'l', 's', 'e'] (.ok (.bool false)) cs
  else if c = 'N' then parseLiteral ['a', 'N'] (constantValue h .nan) cs
  else if c = 'I' then
    parseLiteral ['n', 'f', 'i', 'n', 'i', 't', 'y'] (constantValue h (.infinite false)) cs
  else if c = '-' then
    if cs.head? = some 'I' then
      parseLiteral ['I', 'n', 'f', 'i', 'n', 'i', 't', 'y'] (constantValue h (.infinite true)) cs
    else parseNumber true cs
  else parseNumber false (c :: cs)

theorem parseValue_scalar (h : Hooks) (fuel : ℕ) {c : Char} (hquote : c ≠ '"')
    (hbrace : c ≠ '\x7b') (hbracket : c ≠ '[') (cs : List Char) :
    parseValue h (fuel + 1) (c :: cs) = parseScalar h c cs := by
  rw [parseValue, if_neg hquote, if_neg hbrace, if_neg hbracket]
  rfl

theorem exists_literal {tail cs left : List Char} {r : Except JsonError Json} {v : Json}
    (h : parseLiteral tail r cs = .ok (v, left)) :
    cs = tail ++ left ∧ ∀ rest, parseLiteral tail r (tail ++ rest) = .ok (v, rest) := by
  unfold parseLiteral at h
  split_ifs at h with hprefix
  obtain ⟨left', rfl⟩ := List.isPrefixOf_iff_prefix.mp hprefix
  cases r with
  | error e => cases h
  | ok w =>
      simp only [Except.map, List.drop_left, Except.ok.injEq, Prod.mk.injEq] at h
      obtain ⟨rfl, rfl⟩ := h
      exact ⟨rfl, parseLiteral_append tail w⟩

/-- The whole text of a number or of a literal. -/
structure SpellsScalar (h : Hooks) (v : Json) (text : List Char) : Prop where
  ne_nil : text ≠ []
  chars : ∀ c ∈ text, isScalarChar c = true
  reads : ∀ fuel rest, EndsNumber rest → parseValue h (fuel + 1) (text ++ rest) = .ok (v, rest)

theorem spellsScalar_of_parseScalar {h : Hooks} {c : Char} {text : List Char} {v : Json}
    (hchars : ∀ d ∈ c :: text, isScalarChar d = true)
    (hreads : ∀ rest, EndsNumber rest → parseScalar h c (text ++ rest) = .ok (v, rest)) :
    SpellsScalar h v (c :: text) := by
  have hne : ∀ d : Char, isScalarChar d = false → c ≠ d := by
    rintro d hd rfl
    rw [hchars c List.mem_cons_self] at hd
    cases hd
  refine ⟨List.cons_ne_nil c text, hchars, fun fuel rest hrest => ?_⟩
  rw [List.cons_append, parseValue_scalar h fuel (hne _ rfl) (hne _ rfl) (hne _ rfl)]
  exact hreads rest hrest

theorem exists_scalar {h : Hooks} {c : Char} {cs left : List Char} {v : Json}
    (hread : parseScalar h c cs = .ok (v, left)) :
    ∃ text, c :: cs = text ++ left ∧ SpellsScalar h v text := by
  have literal : ∀ {tail : List Char} {r : Except JsonError Json},
      (∀ rest, parseScalar h c (tail ++ rest) = parseLiteral tail r (tail ++ rest)) →
      (∀ d ∈ c :: tail, isScalarChar d = true) → parseLiteral tail r cs = .ok (v, left) →
      ∃ text, c :: cs = text ++ left ∧ SpellsScalar h v text := by
    intro tail r hscalar hchars hliteral
    obtain ⟨rfl, hagain⟩ := exists_literal hliteral
    refine ⟨c :: tail, rfl, spellsScalar_of_parseScalar hchars fun rest _ => ?_⟩
    rw [hscalar, hagain]
  unfold parseScalar at hread
  split_ifs at hread with hn ht hf hN hI hminus hinfinity
  · subst hn
    exact literal (fun _ => rfl) (List.all_eq_true.mp rfl) hread
  · subst ht
    exact literal (fun _ => rfl) (List.all_eq_true.mp rfl) hread
  · subst hf
    exact literal (fun _ => rfl) (List.all_eq_true.mp rfl) hread
  · subst hN
    exact literal (fun _ => rfl) (List.all_eq_true.mp rfl) hread
  · subst hI
    exact literal (fun _ => rfl) (List.all_eq_true.mp rfl) hread
  · subst hminus
    exact literal (fun _ => rfl) (List.all_eq_true.mp rfl) hread
  · subst hminus
    obtain ⟨d, text, rfl, hd, hchars, hagain⟩ := exists_number hread
    refine ⟨'-' :: d :: text, rfl, spellsScalar_of_parseScalar ?_ fun rest hrest => ?_⟩
    · exact List.forall_mem_cons.mpr ⟨rfl, List.forall_mem_cons.mpr
        ⟨isScalarChar_of_isDigit hd, hchars⟩⟩
    · have hnot : (d :: (text ++ rest)).head? ≠ some 'I' := by
        rintro heq
        cases heq
        cases hd
      rw [← hagain rest hrest, List.cons_append, parseScalar, if_neg hnot]
      rfl
  · obtain ⟨d, text, hcs, hd, hchars, hagain⟩ := exists_number hread
    cases hcs
    refine ⟨c :: text, rfl, spellsScalar_of_parseScalar ?_ fun rest hrest => ?_⟩
    · exact List.forall_mem_cons.mpr ⟨isScalarChar_of_isDigit hd, hchars⟩
    · rw [parseScalar, if_neg hn, if_neg ht, if_neg hf, if_neg hN, if_neg hI, if_neg hminus]
      exact hagain rest hrest

theorem parseLiteral_ne_obj {tail cs rest : List Char} {r : Except JsonError Json} {fs : Fields}
    (hr : r ≠ .ok (.obj fs)) : parseLiteral tail r cs ≠ .ok (.obj fs, rest) := by
  unfold parseLiteral
  split_ifs
  · cases r with
    | error e =>
        intro h
        cases h
    | ok v =>
        intro h
        cases h
        exact hr rfl
  · intro h
    cases h

theorem parseNumber_ne_obj {negative : Bool} {cs rest : List Char} {fs : Fields} :
    parseNumber negative cs ≠ .ok (.obj fs, rest) := by
  unfold parseNumber
  dsimp only
  split_ifs <;> (intro h; cases h)

theorem constantValue_ne_obj {h : Hooks} {f : PyFloat} {fs : Fields} :
    constantValue h f ≠ .ok (.obj fs) := by
  unfold constantValue
  split_ifs <;> (intro h; cases h)

/-- A number or a literal is no object. -/
theorem parseScalar_ne_obj {h : Hooks} {c : Char} {cs rest : List Char} {fs : Fields} :
    parseScalar h c cs ≠ .ok (.obj fs, rest) := by
  unfold parseScalar
  split_ifs
  · exact parseLiteral_ne_obj (by simp)
  · exact parseLiteral_ne_obj (by simp)
  · exact parseLiteral_ne_obj (by simp)
  · exact parseLiteral_ne_obj constantValue_ne_obj
  · exact parseLiteral_ne_obj constantValue_ne_obj
  · exact parseLiteral_ne_obj constantValue_ne_obj
  · exact parseNumber_ne_obj
  · exact parseNumber_ne_obj

theorem SpellsScalar.ne_obj {h : Hooks} {v : Json} {text : List Char}
    (hscalar : SpellsScalar h v text) (fs : Fields) : v ≠ .obj fs := by
  rintro rfl
  obtain ⟨c, cs, rfl⟩ := List.exists_cons_of_ne_nil hscalar.ne_nil
  have hc := hscalar.chars c List.mem_cons_self
  have hne : ∀ d : Char, isScalarChar d = false → c ≠ d := by
    rintro d hd rfl
    rw [hc] at hd
    cases hd
  have hread := hscalar.reads 0 [] endsNumber_nil
  rw [List.append_nil, parseValue_scalar h 0 (hne _ rfl) (hne _ rfl) (hne _ rfl)] at hread
  exact parseScalar_ne_obj hread

end Foundation.Json
