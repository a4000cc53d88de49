import AmazonSimilarSearch.Foundation.Checked
import AmazonSimilarSearch.Foundation.JsonTokens

/-!
# The grammar of JSON texts

`Spells h m text` says that the whole of a text is spelt for `m`: a value, the items of an array up
to its bracket, or the members of an object up to its brace. `json.loads` accepts exactly the texts
of the grammar, between white space; what a text spells depends neither on the fuel of the readers
nor on what follows it.
-/
namespace Foundation.Json

/-! ## White space -/

def isJsonSpace (c : Char) : Bool := c == ' ' || c == '\t' || c == '\n' || c == '\r'

def IsSpace (cs : List Char) : Prop := ∀ c ∈ cs, isJsonSpace c = true

theorem exists_space (cs : List Char) : ∃ space, IsSpace space ∧ cs = space ++ skipSpace cs :=
  ⟨cs.takeWhile isJsonSpace, List.all_eq_true.mp List.all_takeWhile,
    List.takeWhile_append_dropWhile.symm⟩

theorem skipSpace_append {space : List Char} (hspace : IsSpace space) (rest : List Char) :
    skipSpace (space ++ rest) = skipSpace rest := List.dropWhile_append_of_pos hspace

theorem skipSpace_eq_nil_iff {cs : List Char} : skipSpace cs = [] ↔ IsSpace cs :=
  List.dropWhile_eq_nil_iff

theorem endsNumber_space_append {space rest : List Char} (hspace : IsSpace space)
    (hrest : EndsNumber rest) : EndsNumber (space ++ rest) := by
  cases space with
  | nil => exact hrest
  | cons c space =>
      have hc := hspace c List.mem_cons_self
      apply endsNumber_cons
      simp only [isJsonSpace, Bool.or_eq_true, beq_iff_eq] at hc
      rcases hc with ((rfl | rfl) | rfl) | rfl <;> decide

/-! ## Values -/

/-- What a piece of text stands for. -/
inductive Meaning where
  | value (v : Json)
  /-- the items of an array, up to its bracket -/
  | items (vs : List Json)
  /-- the members of an object, up to its brace -/
  | members (pairs : List (String × Json))

inductive Spells (h : Hooks) : Meaning → List Char → Prop where
  | scalar {v : Json} {text : List Char} (hscalar : SpellsScalar h v text) :
      Spells h (.value v) text
  | string {s body : List Char} (hbody : SpellsString s body) :
      Spells h (.value (.str (String.ofList s))) ('"' :: body)
  | emptyObject {v : Json} {space : List Char} (hspace : IsSpace space)
      (hv : pairsValue h [] = .ok v) : Spells h (.value v) ('\x7b' :: (space ++ ['\x7d']))
  | object {v : Json} {pairs : List (String × Json)} {space text : List Char}
      (hspace : IsSpace space) (hmembers : Spells h (.members pairs) text)
      (hv : pairsValue h pairs = .ok v) : Spells h (.value v) ('\x7b' :: (space ++ text))
  | emptyArray {space : List Char} (hspace : IsSpace space) :
      Spells h (.value (.arr [])) ('[' :: (space ++ [']']))
  | array {vs : List Json} {space text : List Char} (hspace : IsSpace space)
      (hitems : Spells h (.items vs) text) : Spells h (.value (.arr vs)) ('[' :: (space ++ text))
  | lastItem {v : Json} {text space : List Char} (hv : Spells h (.value v) text)
      (hspace : IsSpace space) : Spells h (.items [v]) (text ++ (space ++ [']']))
  | item {v : Json} {vs : List Json} {text before after texts : List Char}
      (hv : Spells h (.value v) text) (hbefore : IsSpace before) (hafter : IsSpace after)
      (hitems : Spells h (.items vs) texts) :
      Spells h (.items (v :: vs)) (text ++ (before ++ ',' :: (after ++ texts)))
  | lastMember {k key before after text space : List Char} {v : Json}
      (hkey : SpellsString k key) (hbefore : IsSpace before) (hafter : IsSpace after)
      (hv : Spells h (.value v) text) (hspace : IsSpace space) :
      Spells h (.members [(String.ofList k, v)])
        ('"' :: (key ++ (before ++ ':' :: (after ++ (text ++ (space ++ ['\x7d']))))))
  | member {k key before after text space more texts : List Char} {v : Json}
      {pairs : List (String × Json)} (hkey : SpellsString k key) (hbefore : IsSpace before)
      (hafter : IsSpace after) (hv : Spells h (.value v) text) (hspace : IsSpace space)
      (hmore : IsSpace more) (hmembers : Spells h (.members pairs) texts) :
      Spells h (.members ((String.ofList k, v) :: pairs))
        ('"' :: (key ++ (before ++ ':' :: (after ++ (text ++ (space ++ ',' :: (more ++ texts)))))))

variable {h : Hooks}

theorem SpellsScalar.startsValue {v : Json} {text : List Char} (hscalar : SpellsScalar h v text) :
    StartsValue text := by
  obtain ⟨c, cs, rfl⟩ := List.exists_cons_of_ne_nil hscalar.ne_nil
  have hc := hscalar.chars c List.mem_cons_self
  have hne : ∀ d : Char, isScalarChar d = false → c ≠ d := by
    rintro d hd rfl
    rw [hc] at hd
    cases hd
  refine ⟨c, cs, rfl, ?_, hne _ rfl, hne _ rfl, hne _ rfl⟩
  simp only [Bool.or_eq_false_iff, beq_eq_false_iff_ne]
  exact ⟨⟨⟨hne _ rfl, hne _ rfl⟩, hne _ rfl⟩, hne _ rfl⟩

/-- A text of the grammar starts with no white space and closes nothing. -/
theorem Spells.startsValue {m : Meaning} {text : List Char} (hspells : Spells h m text) :
    StartsValue text := by
  induction hspells with
  | scalar hscalar => exact hscalar.startsValue
  | string _ => exact ⟨_, _, rfl, by decide⟩
  | emptyObject _ _ => exact ⟨_, _, rfl, by decide⟩
  | object _ _ _ _ => exact ⟨_, _, rfl, by decide⟩
  | emptyArray _ => exact ⟨_, _, rfl, by decide⟩
  | array _ _ _ => exact ⟨_, _, rfl, by decide⟩
  | lastItem _ _ ih => exact ih.append _
  | item _ _ _ _ ih _ => exact ih.append _
  | lastMember _ _ _ _ _ _ => exact ⟨_, _, rfl, by decide⟩
  | member _ _ _ _ _ _ _ _ _ => exact ⟨_, _, rfl, by decide⟩

/-- The character that closes what is open at the start of the text. -/
def Meaning.closing : Meaning → Option Char
  | .value _ => none
  | .items _ => some ']'
  | .members _ => some '\x7d'

theorem Spells.closing {m : Meaning} {text : List Char} (hspells : Spells h m text) :
    ∀ c ∈ m.closing, ∃ init, text = init ++ [c] := by
  induction hspells with
  | @lastItem v text space _ _ _ =>
      rintro c ⟨⟩
      exact ⟨text ++ space, (List.append_assoc _ _ _).symm⟩
  | @item v vs text before after texts _ _ _ _ _ ih =>
      intro c hc
      obtain ⟨init, rfl⟩ := ih c hc
      exact ⟨text ++ (before ++ ',' :: (after ++ init)), by simp⟩
  | @lastMember k key before after text space v _ _ _ _ _ _ =>
      rintro c ⟨⟩
      exact ⟨'"' :: (key ++ (before ++ ':' :: (after ++ (text ++ space)))), by simp⟩
  | @member k key before after text space more texts v pairs _ _ _ _ _ _ _ _ ih =>
      intro c hc
      obtain ⟨init, rfl⟩ := ih c hc
      exact ⟨'"' :: (key ++ (before ++ ':' :: (after ++ (text ++ (space ++ ',' :: (more ++ init)))))),
        by simp⟩
  | _ =>
      intro c hc
      cases hc

/-- An object is spelt in braces. -/
theorem exists_braces {fs : Fields} {text : List Char}
    (hspells : Spells h (.value (.obj fs)) text) :
    ∃ inner, text = '\x7b' :: (inner ++ ['\x7d']) := by
  cases hspells with
  | scalar hscalar => exact absurd rfl (hscalar.ne_obj fs)
  | @emptyObject _ space _ _ => exact ⟨space, rfl⟩
  | @object _ pairs space text _ hmembers _ =>
      obtain ⟨init, rfl⟩ := hmembers.closing _ rfl
      exact ⟨space ++ init, by simp⟩

/-- The readers return what is spelt, with fuel for twice its length, and leave what follows. -/
def Reads (h : Hooks) (text : List Char) : Meaning → Prop
  | .value v => ∀ fuel rest, 2 * text.length ≤ fuel → EndsNumber rest →
      parseValue h fuel (text ++ rest) = .ok (v, rest)
  | .items vs => ∀ fuel rest, 2 * text.length < fuel →
      parseItems h fuel (text ++ rest) = .ok (vs, rest)
  | .members pairs => ∀ fuel rest read v, 2 * text.length ≤ fuel →
      pairsValue h (read.reverse ++ pairs) = .ok v →
      parseMembers h fuel read (text ++ rest) = .ok (v, rest)

theorem skipSpace_of_startsValue {space text : List Char} (hspace : IsSpace space)
    (htext : StartsValue text) (rest : List Char) :
    skipSpace (space ++ (text ++ rest)) = text ++ rest := by
  rw [skipSpace_append hspace, htext.skipSpace]

theorem skipSpace_closing {space : List Char} {c : Char} (hspace : IsSpace space)
    (hc : isJsonSpace c = false) (rest : List Char) :
    skipSpace (space ++ c :: rest) = c :: rest := by
  rw [skipSpace_append hspace, skipSpace_cons hc]

theorem exists_fuel {n fuel : ℕ} (h : n < fuel) : ∃ fuel', fuel = fuel' + 1 ∧ n ≤ fuel' :=
  ⟨fuel - 1, by omega, by omega⟩

theorem Spells.reads {m : Meaning} {text : List Char} (hspells : Spells h m text) :
    Reads h text m := by
  induction hspells with
  | @scalar v text hscalar =>
      intro fuel rest hfuel hrest
      have hlength : 0 < text.length := List.length_pos_of_ne_nil hscalar.ne_nil
      obtain ⟨fuel, rfl, -⟩ := exists_fuel (by omega : 0 < fuel)
      exact hscalar.reads fuel rest hrest
  | @string s body hbody =>
      intro fuel rest hfuel _
      obtain ⟨fuel, rfl, -⟩ := exists_fuel (by simp at hfuel; omega : 0 < fuel)
      rw [List.cons_append, parseValue, if_pos rfl, parseString_of_spells hbody]
      rfl
  | @emptyObject v space hspace hv =>
      intro fuel rest hfuel _
      obtain ⟨fuel, rfl, -⟩ := exists_fuel (by simp at hfuel; omega : 0 < fuel)
      have hskip : skipSpace (space ++ ['\x7d'] ++ rest) = '\x7d' :: rest := by
        rw [List.append_assoc]
        exact skipSpace_closing hspace rfl rest
      rw [List.cons_append, parseValue, if_neg (by decide), if_pos rfl, hskip, List.head?_cons,
        if_pos rfl, hv]
      rfl
  | @object v pairs space text hspace hmembers hv ih =>
      intro fuel rest hfuel _
      simp only [List.length_cons, List.length_append] at hfuel
      obtain ⟨fuel, rfl, hless⟩ := exists_fuel (by omega : 2 * text.length < fuel)
      have hskip := skipSpace_of_startsValue hspace hmembers.startsValue rest
      have hhead := (hmembers.startsValue.head_ne rest).2
      rw [List.cons_append, List.append_assoc, parseValue, if_neg (by decide), if_pos rfl, hskip,
        if_neg hhead]
      exact ih fuel rest [] v hless hv
  | @emptyArray space hspace =>
      intro fuel rest hfuel _
      obtain ⟨fuel, rfl, -⟩ := exists_fuel (by simp at hfuel; omega : 0 < fuel)
      have hskip : skipSpace (space ++ [']'] ++ rest) = ']' :: rest := by
        rw [List.append_assoc]
        exact skipSpace_closing hspace rfl rest
      rw [List.cons_append, parseValue, if_neg (by decide), if_neg (by decide), if_pos rfl, hskip,
        List.head?_cons, if_pos rfl]
      rfl
  | @array vs space text hspace hitems ih =>
      intro fuel rest hfuel _
      simp only [List.length_cons, List.length_append] at hfuel
      obtain ⟨fuel, rfl, hless⟩ := exists_fuel (by omega : 2 * text.length + 1 < fuel)
      have hskip := skipSpace_of_startsValue hspace hitems.startsValue rest
      have hhead := (hitems.startsValue.head_ne rest).1
      rw [List.cons_append, List.append_assoc, parseValue, if_neg (by decide), if_neg (by decide),
        if_pos rfl, hskip, if_neg hhead, ih fuel rest (by omega)]
      rfl
  | @lastItem v text space hv hspace ih =>
      intro fuel rest hfuel
      simp only [List.length_append, List.length_singleton] at hfuel
      obtain ⟨fuel, rfl, hless⟩ := exists_fuel (by omega : 2 * text.length < fuel)
      have hvalue := ih fuel (space ++ ']' :: rest) hless
        (endsNumber_space_append hspace (endsNumber_bracket rest))
      have htext : text ++ (space ++ [']']) ++ rest = text ++ (space ++ ']' :: rest) := by simp
      rw [htext, parseItems, hvalue]
      simp only [bind, Except.bind, skipSpace_closing hspace (c := ']') rfl]
      rfl
  | @item v vs text before after texts hv hbefore hafter hitems ihValue ihItems =>
      intro fuel rest hfuel
      simp only [List.length_append, List.length_cons] at hfuel
      obtain ⟨fuel, rfl, hless⟩ := exists_fuel (by omega : 2 * text.length < fuel)
      have hvalue := ihValue fuel (before ++ ',' :: (after ++ (texts ++ rest))) hless
        (endsNumber_space_append hbefore (endsNumber_comma _))
      have hmore := ihItems fuel rest (by omega)
      have htext : text ++ (before ++ ',' :: (after ++ texts)) ++ rest =
          text ++ (before ++ ',' :: (after ++ (texts ++ rest))) := by simp
      rw [htext, parseItems, hvalue]
      simp only [bind, Except.bind, skipSpace_closing hbefore (c := ',') rfl,
        skipSpace_of_startsValue hafter hitems.startsValue, hmore]
      rfl
  | @lastMember k key before after text space v hkey hbefore hafter hv hspace ih =>
      intro fuel rest read w hfuel hpairs
      simp only [List.length_append, List.length_cons] at hfuel
      obtain ⟨fuel, rfl, hless⟩ := exists_fuel (by omega : 2 * text.length < fuel)
      have hvalue := ih fuel (space ++ '\x7d' :: rest) hless
        (endsNumber_space_append hspace (endsNumber_brace rest))
      have htext : '"' :: (key ++ (before ++ ':' :: (after ++ (text ++ (space ++ ['\x7d']))))) ++
          rest = '"' :: (key ++ (before ++ ':' :: (after ++ (text ++ (space ++ '\x7d' :: rest))))) := by
        simp
      rw [htext, parseMembers]
      simp only [bind, Except.bind, parseString_of_spells hkey,
        skipSpace_closing hbefore (c := ':') rfl, skipSpace_of_startsValue hafter hv.startsValue,
        hvalue, skipSpace_closing hspace (c := '\x7d') rfl, List.reverse_cons, hpairs]
      rfl
  | @member k key before after text space more texts v pairs hkey hbefore hafter hv hspace hmore
      hmembers ihValue ihMembers =>
      intro fuel rest read w hfuel hpairs
      simp only [List.length_append, List.length_cons] at hfuel
      obtain ⟨fuel, rfl, hless⟩ := exists_fuel (by omega : 2 * text.length < fuel)
      have hvalue := ihValue fuel (space ++ ',' :: (more ++ (texts ++ rest))) hless
        (endsNumber_space_append hspace (endsNumber_comma _))
      have hrest := ihMembers fuel rest ((String.ofList k, v) :: read) w (by omega)
        (by simpa using hpairs)
      have htext : '"' :: (key ++ (before ++ ':' :: (after ++ (text ++ (space ++
          ',' :: (more ++ texts)))))) ++ rest = '"' :: (key ++ (before ++ ':' :: (after ++ (text ++
            (space ++ ',' :: (more ++ (texts ++ rest))))))) := by simp
      rw [htext, parseMembers]
      simp only [bind, Except.bind, parseString_of_spells hkey,
        skipSpace_closing hbefore (c := ':') rfl, skipSpace_of_startsValue hafter hv.startsValue,
        hvalue, skipSpace_closing hspace (c := ',') rfl,
        skipSpace_of_startsValue hmore hmembers.startsValue, hrest]

/-! ## What is read is spelt -/

theorem map_eq_ok_iff {α β : Type} {f : α → β} {r : Except JsonError α} {b : β} :
    r.map f = .ok b ↔ ∃ a, r = .ok a ∧ f a = b := by
  cases r <;> simp [Except.map]

/-- What a piece of text before the rest stands for. -/
def SpeltBefore (h : Hooks) (m : Meaning) (rest cs : List Char) : Prop :=
  ∃ text, cs = text ++ rest ∧ Spells h m text

theorem SpeltBefore.after_space {m : Meaning} {rest cs : List Char}
    (hspelt : SpeltBefore h m rest (skipSpace cs)) :
    ∃ space text, IsSpace space ∧ cs = space ++ (text ++ rest) ∧ Spells h m text := by
  obtain ⟨text, htext, hspells⟩ := hspelt
  obtain ⟨space, hspace, hcs⟩ := exists_space cs
  exact ⟨space, text, hspace, by rw [← htext, ← hcs], hspells⟩

theorem exists_closing {cs rest : List Char} {c : Char} (hcs : skipSpace cs = c :: rest) :
    ∃ space, IsSpace space ∧ cs = space ++ c :: rest := by
  obtain ⟨space, hspace, heq⟩ := exists_space cs
  exact ⟨space, hspace, by rw [← hcs, ← heq]⟩

/-- A value is spelt, where the items and members in it are. -/
theorem spelt_of_parseValue {fuel : ℕ}
    (hitems : ∀ cs vs rest, parseItems h fuel cs = .ok (vs, rest) →
      SpeltBefore h (.items vs) rest cs)
    (hmembers : ∀ cs v rest, parseMembers h fuel [] cs = .ok (v, rest) →
      ∃ pairs, SpeltBefore h (.members pairs) rest cs ∧ pairsValue h pairs = .ok v)
    {cs rest : List Char} {v : Json} (hread : parseValue h (fuel + 1) cs = .ok (v, rest)) :
    SpeltBefore h (.value v) rest cs := by
  cases cs with
  | nil => cases hread
  | cons c cs =>
      by_cases hquote : c = '"'
      · subst hquote
        rw [parseValue, if_pos rfl] at hread
        obtain ⟨⟨s, left⟩, hstring, heq⟩ := map_eq_ok_iff.mp hread
        cases heq
        obtain ⟨body, rfl, hbody⟩ := spells_of_parseString hstring
        exact ⟨'"' :: body, rfl, .string hbody⟩
      by_cases hbrace : c = '\x7b'
      · subst hbrace
        rw [parseValue, if_neg (by decide), if_pos rfl] at hread
        split_ifs at hread with hclosing
        · obtain ⟨tail, htail⟩ := List.head?_eq_some_iff.mp hclosing
          obtain ⟨space, hspace, rfl⟩ := exists_closing htail
          rw [htail] at hread
          obtain ⟨w, hw, heq⟩ := map_eq_ok_iff.mp hread
          cases heq
          exact ⟨'\x7b' :: (space ++ ['\x7d']), by simp, .emptyObject hspace hw⟩
        · obtain ⟨pairs, hspelt, hv⟩ := hmembers _ v rest hread
          obtain ⟨space, text, hspace, rfl, hspells⟩ := hspelt.after_space
          exact ⟨'\x7b' :: (space ++ text), by simp, .object hspace hspells hv⟩
      by_cases hbracket : c = '['
      · subst hbracket
        rw [parseValue, if_neg (by decide), if_neg (by decide), if_pos rfl] at hread
        split_ifs at hread with hclosing
        · obtain ⟨tail, htail⟩ := List.head?_eq_some_iff.mp hclosing
          obtain ⟨space, hspace, rfl⟩ := exists_closing htail
          rw [htail] at hread
          cases hread
          exact ⟨'[' :: (space ++ [']']), by simp, .emptyArray hspace⟩
        · obtain ⟨⟨vs, left⟩, hvs, heq⟩ := map_eq_ok_iff.mp hread
          cases heq
          obtain ⟨space, text, hspace, rfl, hspells⟩ := (hitems _ vs left hvs).after_space
          exact ⟨'[' :: (space ++ text), by simp, .array hspace hspells⟩
      · rw [parseValue_scalar h fuel hquote hbrace hbracket] at hread
        obtain ⟨text, htext, hscalar⟩ := exists_scalar hread
        exact ⟨text, htext, .scalar hscalar⟩

theorem spelt_of_parseItems {fuel : ℕ}
    (hvalue : ∀ cs v rest, parseValue h fuel cs = .ok (v, rest) →
      SpeltBefore h (.value v) rest cs)
    (hitems : ∀ cs vs rest, parseItems h fuel cs = .ok (vs, rest) →
      SpeltBefore h (.items vs) rest cs)
    {cs rest : List Char} {vs : List Json} (hread : parseItems h (fuel + 1) cs = .ok (vs, rest)) :
    SpeltBefore h (.items vs) rest cs := by
  rw [parseItems] at hread
  obtain ⟨⟨v, left⟩, hv, hnext⟩ := bind_eq_ok_iff.mp hread
  clear hread
  obtain ⟨text, rfl, hspells⟩ := hvalue cs v left hv
  dsimp only at hnext
  split at hnext
  · next tail htail =>
      obtain ⟨space, hspace, rfl⟩ := exists_closing htail
      cases hnext
      exact ⟨text ++ (space ++ [']']), by simp, .lastItem hspells hspace⟩
  · next tail htail =>
      obtain ⟨before, hbefore, rfl⟩ := exists_closing htail
      obtain ⟨⟨ws, last⟩, hws, heq⟩ := bind_eq_ok_iff.mp hnext
      cases heq
      obtain ⟨after, texts, hafter, rfl, hmore⟩ := (hitems _ ws last hws).after_space
      exact ⟨text ++ (before ++ ',' :: (after ++ texts)), by simp,
        .item hspells hbefore hafter hmore⟩
  · cases hnext

theorem spelt_of_parseMembers {fuel : ℕ}
    (hvalue : ∀ cs v rest, parseValue h fuel cs = .ok (v, rest) →
      SpeltBefore h (.value v) rest cs)
    (hmembers : ∀ read cs v rest, parseMembers h fuel read cs = .ok (v, rest) →
      ∃ pairs, SpeltBefore h (.members pairs) rest cs ∧
        pairsValue h (read.reverse ++ pairs) = .ok v)
    {read : List (String × Json)} {cs rest : List Char} {v : Json}
    (hread : parseMembers h (fuel + 1) read cs = .ok (v, rest)) :
    ∃ pairs, SpeltBefore h (.members pairs) rest cs ∧
      pairsValue h (read.reverse ++ pairs) = .ok v := by
  rw [parseMembers.eq_def] at hread
  dsimp only at hread
  split at hread
  · next cs =>
      obtain ⟨⟨k, afterKey⟩, hk, hnext⟩ := bind_eq_ok_iff.mp hread
      clear hread
      obtain ⟨key, rfl, hkey⟩ := spells_of_parseString hk
      dsimp only at hnext
      split at hnext
      · next afterColon hcolon =>
          obtain ⟨before, hbefore, rfl⟩ := exists_closing hcolon
          obtain ⟨⟨w, afterValue⟩, hw, hlast⟩ := bind_eq_ok_iff.mp hnext
          clear hnext
          obtain ⟨after, text, hafter, rfl, hspells⟩ := (hvalue _ w afterValue hw).after_space
          dsimp only at hlast
          split at hlast
          · next tail htail =>
              obtain ⟨space, hspace, rfl⟩ := exists_closing htail
              obtain ⟨x, hx, heq⟩ := bind_eq_ok_iff.mp hlast
              cases heq
              refine ⟨[(String.ofList k, w)], ⟨_, ?_, .lastMember hkey hbefore hafter hspells hspace⟩,
                by simpa using hx⟩
              simp
          · next tail htail =>
              obtain ⟨space, hspace, rfl⟩ := exists_closing htail
              obtain ⟨pairs, hspelt, hpairs⟩ := hmembers _ _ v rest hlast
              obtain ⟨more, texts, hmore, rfl, hrest⟩ := hspelt.after_space
              refine ⟨(String.ofList k, w) :: pairs,
                ⟨_, ?_, .member hkey hbefore hafter hspells hspace hmore hrest⟩,
                by simpa using hpairs⟩
              simp
          · cases hlast
      · cases hnext
  · cases hread

/-- Whatever the three readers return is spelt by what they have consumed. -/
theorem spelt_of_read (fuel : ℕ) :
    (∀ cs v rest, parseValue h fuel cs = .ok (v, rest) → SpeltBefore h (.value v) rest cs) ∧
    (∀ cs vs rest, parseItems h fuel cs = .ok (vs, rest) → SpeltBefore h (.items vs) rest cs) ∧
    (∀ read cs v rest, parseMembers h fuel read cs = .ok (v, rest) →
      ∃ pairs, SpeltBefore h (.members pairs) rest cs ∧
        pairsValue h (read.reverse ++ pairs) = .ok v) := by
  induction fuel with
  | zero =>
      refine ⟨?_, ?_, ?_⟩
      · intro cs v rest hread
        rw [parseValue] at hread
        cases hread
      · intro cs vs rest hread
        rw [parseItems] at hread
        cases hread
      · intro read cs v rest hread
        rw [parseMembers] at hread
        cases hread
  | succ fuel ih =>
      obtain ⟨hvalue, hitems, hmembers⟩ := ih
      refine ⟨fun cs v rest => spelt_of_parseValue hitems fun cs v rest => hmembers [] cs v rest,
        fun cs vs rest => spelt_of_parseItems hvalue hitems,
        fun read cs v rest => spelt_of_parseMembers hvalue hmembers⟩

/-- `json.loads` accepts exactly the texts of the grammar, between white space. -/
theorem loads_eq_ok_iff {text : String} {v : Json} :
    loads h text = .ok v ↔ ∃ before body after, text.toList = before ++ (body ++ after) ∧
      IsSpace before ∧ IsSpace after ∧ Spells h (.value v) body := by
  constructor
  · intro hread
    unfold loads at hread
    dsimp only at hread
    split_ifs at hread
    obtain ⟨⟨w, rest⟩, hw, hread⟩ := bind_eq_ok_iff.mp hread
    dsimp only at hread
    split_ifs at hread with hrest
    cases hread
    obtain ⟨before, body, hbefore, htext, hspells⟩ :=
      ((spelt_of_read _).1 _ v rest hw).after_space
    exact ⟨before, body, rest, htext, hbefore, skipSpace_eq_nil_iff.mp hrest, hspells⟩
  · rintro ⟨before, body, after, htext, hbefore, hafter, hspells⟩
    have hbom : ¬ (before ++ (body ++ after)).head? = some (Char.ofNat 0xFEFF) := by
      cases before with
      | nil =>
          obtain ⟨c, cs, rfl, -, -, -, hc⟩ := hspells.startsValue
          simpa using hc
      | cons c before =>
          intro heq
          cases heq
          exact absurd (hbefore _ List.mem_cons_self) (by decide)
    have hskip := skipSpace_of_startsValue hbefore hspells.startsValue after
    have hends : EndsNumber after := by
      rw [← List.append_nil after]
      exact endsNumber_space_append hafter endsNumber_nil
    have hvalue := hspells.reads (2 * (before ++ (body ++ after)).length + 1) after
      (by simp only [List.length_append]; omega) hends
    unfold loads
    rw [htext]
    dsimp only
    rw [if_neg hbom, hskip, hvalue]
    exact if_pos (skipSpace_eq_nil_iff.mpr hafter)

end Foundation.Json
