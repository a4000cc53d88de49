import AmazonSimilarSearch.Foundation.JsonCanonical
import AmazonSimilarSearch.Foundation.JsonFields
import AmazonSimilarSearch.Foundation.JsonKeyOrder
import AmazonSimilarSearch.Search.AttributeExtraction

/-!
# The normal form of attributes

What `parse_attributes` returns are exactly the attributes in normal form: positive prices in
ordered ranges, categories that the name and the features support, queries that are joined from the
parts of the product. Such attributes survive their JSON dump, whatever the fallback query is.
-/
namespace AmazonSimilarSearch.Search
open Foundation

/-! ## The fields after the coercions -/

/-- What becomes of the value of a list field. -/
def listValue : Json → Json
  | .null => .arr []
  | .str value => .arr [.str value]
  | value => value

theorem get_normalizeListField (data : Fields) (field : String) :
    (normalizeListField data field).get field = listValue (data.get field) := by
  unfold normalizeListField
  cases hvalue : data.get field with
  | null => exact Fields.get_insert_self _ _ _
  | str value => exact Fields.get_insert_self _ _ _
  | _ => exact hvalue

theorem get_normalizeListField_of_ne (data : Fields) (field other : String) (h : other ≠ field) :
    (normalizeListField data field).get other = data.get other := by
  unfold normalizeListField
  cases data.get field with
  | null => exact Fields.get_insert_of_ne h _ _
  | str value => exact Fields.get_insert_of_ne h _ _
  | _ => rfl

theorem get_normalizePriceField (data : Fields) (field : String) :
    (normalizePriceField data field).get field =
      optionalInt (normalizePriceValue (data.get field)) := by
  unfold normalizePriceField
  split_ifs with hmem
  · exact Fields.get_insert_self _ _ _
  · rw [Fields.get_of_not_mem hmem]
    rfl

theorem get_normalizePriceField_of_ne (data : Fields) (field other : String) (h : other ≠ field) :
    (normalizePriceField data field).get other = data.get other := by
  unfold normalizePriceField
  split_ifs
  · exact Fields.get_insert_of_ne h _ _
  · rfl

/-- No field is coerced twice. -/
theorem get_normalizeBonsaiFields (data : Fields) (field : String) :
    (normalizeBonsaiFields data).get field =
      if field ∈ priceFields then optionalInt (normalizePriceValue (data.get field))
      else if field ∈ listFields then listValue (data.get field)
      else data.get field := by
  have hprices : priceFields.Nodup := by decide
  have hlists : listFields.Nodup := by decide
  have hdisjoint : ∀ name ∈ priceFields, name ∉ listFields := by decide
  unfold normalizeBonsaiFields
  rw [Fields.get_foldl (f := fun value => optionalInt (normalizePriceValue value))
    get_normalizePriceField get_normalizePriceField_of_ne hprices,
    Fields.get_foldl get_normalizeListField get_normalizeListField_of_ne hlists]
  split_ifs with hprice hlist
  · exact absurd hlist (hdisjoint _ hprice)
  · rfl
  · rfl
  · rfl

/-! ## Prices -/

/-- A price that the program works with, and that it can write. -/
def IsPrice (price : ℤ) : Prop := 0 < price ∧ price.natAbs < 10 ^ maxIntegerDigits

theorem isPrice_of_positiveInteger {number : PyFloat} (hnumber : number.IsRounded) :
    ∀ price ∈ positiveInteger? number, IsPrice price := by
  intro price hprice
  cases number with
  | finite negative mantissa exponent =>
      cases negative with
      | true => cases hprice
      | false =>
          simp only [positiveInteger?, Option.mem_def, Option.ite_none_right_eq_some,
            Option.some.injEq] at hprice
          obtain ⟨⟨hpos, hdvd⟩, rfl⟩ := hprice
          refine ⟨?_, ?_⟩
          · have hle := Nat.div_pos_iff.mpr
              ⟨PyFloat.ratio_snd_pos mantissa exponent, Nat.le_of_dvd hpos (Nat.dvd_of_mod_eq_zero hdvd)⟩
            exact_mod_cast hle
          · rw [Int.natAbs_natCast]
            exact PyFloat.ratio_fst_lt hnumber
  | infinite negative => cases hprice
  | nan => cases hprice

theorem isRounded_of_priceNumber {text : List Char} {number : PyFloat}
    (h : priceNumber text = some number) : number.IsRounded := by
  unfold priceNumber at h
  dsimp only at h
  split_ifs at h
  all_goals
    cases h
    exact PyFloat.isRounded_ofDecimal _ _ _

/-- Every price that is taken from a value of an answer is one. -/
theorem isPrice_of_normalizePriceValue {value : Json} (hvalue : value.IsRead) :
    ∀ price ∈ normalizePriceValue value, IsPrice price := by
  intro price hprice
  cases value with
  | int i =>
      simp only [normalizePriceValue, Option.mem_def, Option.ite_none_right_eq_some,
        Option.some.injEq] at hprice
      obtain ⟨hpos, rfl⟩ := hprice
      exact ⟨hpos, hvalue⟩
  | float number => exact isPrice_of_positiveInteger hvalue price hprice
  | str text =>
      obtain ⟨number, hnumber, hprice⟩ := Option.bind_eq_some_iff.mp hprice
      exact isPrice_of_positiveInteger (isRounded_of_priceNumber hnumber) price hprice
  | null => cases hprice
  | bool b => cases hprice
  | arr items => cases hprice
  | obj fields => cases hprice

theorem normalizePriceValue_optionalInt {price : Option ℤ} (h : ∀ value ∈ price, IsPrice value) :
    normalizePriceValue (optionalInt price) = price := by
  cases price with
  | none => rfl
  | some value => exact if_pos (h value rfl).1

/-! ## Reading a dump -/

theorem readOptionalText_eq {data : Fields} {field : String} {value : Option String}
    (h : data.get field = optionalText value) : readOptionalText data field = some value := by
  unfold readOptionalText
  rw [h]
  cases value <;> rfl

theorem readOptionalInt_eq {data : Fields} {field : String} {value : Option ℤ}
    (h : data.get field = optionalInt value) : readOptionalInt data field = some value := by
  unfold readOptionalInt
  rw [h]
  cases value <;> rfl

theorem readTextList_eq {data : Fields} {field : String} {values : List String}
    (h : data.get field = textList values) : readTextList data field = some values := by
  unfold readTextList
  rw [h]
  clear h
  simp only [textList]
  induction values with
  | nil => rfl
  | cons value values ih =>
      rw [List.map_cons, List.mapM_cons]
      simp only [ih, Option.pure_def, Option.bind_eq_bind, Option.bind_some]

/-- Only an integer that the field holds is read from it. -/
theorem get_of_readOptionalInt {data : Fields} {field : String} {value : Option ℤ}
    (h : readOptionalInt data field = some value) : data.get field = optionalInt value := by
  unfold readOptionalInt at h
  split at h
  · next hnull =>
      cases h
      exact hnull
  · next price hprice =>
      cases h
      exact hprice
  · cases h

/-- The fields of `attrs.model_dump(mode="json")` -/
def dumpedFields (attrs : ProductAttributes) : Fields :=
  match attrs.modelDump with
  | .obj fields => fields
  | _ => []

theorem modelDump_eq (attrs : ProductAttributes) : attrs.modelDump = .obj (dumpedFields attrs) := rfl

/-- `model_validate` looks at the values of the fields only. -/
theorem modelValidate_congr {data data' : Fields} (h : ∀ field, data.get field = data'.get field) :
    modelValidate data = modelValidate data' := by
  have htext : ∀ field, readOptionalText data field = readOptionalText data' field := by
    intro field
    rw [readOptionalText, readOptionalText, h]
  have hlist : ∀ field, readTextList data field = readTextList data' field := by
    intro field
    rw [readTextList, readTextList, h]
  have hint : ∀ field, readOptionalInt data field = readOptionalInt data' field := by
    intro field
    rw [readOptionalInt, readOptionalInt, h]
  simp only [modelValidate, htext, hlist, hint]

theorem modelValidate_dumpedFields (attrs : ProductAttributes) :
    modelValidate (dumpedFields attrs) = some attrs := by
  have htext : ∀ field value, (dumpedFields attrs).get field = optionalText value →
      readOptionalText (dumpedFields attrs) field = some value := fun _ _ => readOptionalText_eq
  have hlist : ∀ field values, (dumpedFields attrs).get field = textList values →
      readTextList (dumpedFields attrs) field = some values := fun _ _ => readTextList_eq
  have hint : ∀ field value, (dumpedFields attrs).get field = optionalInt value →
      readOptionalInt (dumpedFields attrs) field = some value := fun _ _ => readOptionalInt_eq
  unfold modelValidate
  rw [htext "estimated_product_name_ja" (some attrs.estimatedProductNameJa) rfl,
    htext "estimated_product_name_en" _ rfl, htext "category_ja" _ rfl, htext "category_en" _ rfl,
    htext "color_ja" _ rfl, htext "color_en" _ rfl, hlist "features_ja" _ rfl,
    hlist "features_en" _ rfl, hlist "negative_conditions_ja" _ rfl,
    hlist "negative_conditions_en" _ rfl, hlist "search_queries_ja" _ rfl,
    hlist "search_queries_en" _ rfl, hlist "required_terms_ja" _ rfl,
    hlist "required_terms_en" _ rfl, hlist "preferred_terms_ja" _ rfl,
    hlist "preferred_terms_en" _ rfl, hlist "related_terms_ja" _ rfl,
    hlist "related_terms_en" _ rfl, htext "price_preference" _ rfl, hint "min_price_jpy" _ rfl,
    hint "max_price_jpy" _ rfl, hint "target_price_jpy" _ rfl, hint "expected_price_min_jpy" _ rfl,
    hint "expected_price_max_jpy" _ rfl]
  rfl

/-! ## The normal form -/

def ProductAttributes.prices (attrs : ProductAttributes) : List (Option ℤ) := [
  attrs.minPriceJpy, attrs.maxPriceJpy, attrs.targetPriceJpy, attrs.expectedPriceMinJpy,
  attrs.expectedPriceMaxJpy]

/-- The smaller price does not exceed the larger one. -/
def Ordered (minimum maximum : Option ℤ) : Prop := ∀ low ∈ minimum, ∀ high ∈ maximum, low ≤ high

theorem ordered_orderedRange (minimum maximum : Option ℤ) :
    Ordered (orderedRange minimum maximum).1 (orderedRange minimum maximum).2 := by
  unfold Ordered orderedRange
  cases minimum with
  | none => simp
  | some low =>
      cases maximum with
      | none => simp
      | some high =>
          dsimp only
          split_ifs with hlt
          · rintro a ⟨⟩ b ⟨⟩
            exact hlt.le
          · rintro a ⟨⟩ b ⟨⟩
            exact not_lt.mp hlt

theorem orderedRange_of_ordered {minimum maximum : Option ℤ} (h : Ordered minimum maximum) :
    orderedRange minimum maximum = (minimum, maximum) := by
  cases minimum with
  | none => rfl
  | some low =>
      cases maximum with
      | none => rfl
      | some high => exact if_neg (not_lt.mpr (h low rfl high rfl))

/-- The bounds of a range are the two prices that were given. -/
theorem orderedRange_mem {P : ℤ → Prop} {minimum maximum : Option ℤ}
    (hminimum : ∀ price ∈ minimum, P price) (hmaximum : ∀ price ∈ maximum, P price) :
    (∀ price ∈ (orderedRange minimum maximum).1, P price) ∧
      ∀ price ∈ (orderedRange minimum maximum).2, P price := by
  cases minimum with
  | none => exact ⟨hminimum, hmaximum⟩
  | some low =>
      cases maximum with
      | none => exact ⟨hminimum, hmaximum⟩
      | some high =>
          unfold orderedRange
          dsimp only
          split_ifs
          · exact ⟨hmaximum, hminimum⟩
          · exact ⟨hminimum, hmaximum⟩

section Lower

variable (lower : String → String)

/-- Attributes that need no rewriting. -/
structure NormalForm (attrs : ProductAttributes) : Prop where
  prices : ∀ price? ∈ attrs.prices, ∀ price ∈ price?, IsPrice price
  range : Ordered attrs.minPriceJpy attrs.maxPriceJpy
  expectedRange : Ordered attrs.expectedPriceMinJpy attrs.expectedPriceMaxJpy
  /-- A Japanese category occurs in the name and the features. -/
  categoryJa : ∀ category ∈ attrs.categoryJa, category = "" ∨
    japaneseCategoryEvidence category
      (some attrs.estimatedProductNameJa :: attrs.featuresJa.map some) = true
  /-- The words of an English category are words of the name and the features. -/
  categoryEn : ∀ category ∈ attrs.categoryEn, category = "" ∨
    englishCategoryEvidence lower category
      (attrs.estimatedProductNameEn :: attrs.featuresEn.map some) = true
  queryJa : attrs.searchQueriesJa ≠ []
  queriesJa : japaneseParts lower attrs ≠ [] →
    attrs.searchQueriesJa = [" ".intercalate (japaneseParts lower attrs)]
  queryEn : attrs.searchQueriesEn = [] → ∀ name ∈ attrs.estimatedProductNameEn, name = ""
  queriesEn : englishParts lower attrs ≠ [] →
    attrs.searchQueriesEn = [lower (" ".intercalate (englishParts lower attrs))]

variable {lower}

theorem checkedCategory_of {category : Option String} {evidence : String → Bool}
    (h : ∀ text ∈ category, text = "" ∨ evidence text = true) :
    checkedCategory category evidence = category := by
  cases category with
  | none => rfl
  | some text =>
      have htext : (decide (text = "") || evidence text) = true := by simpa using h text rfl
      rw [checkedCategory, Option.filter_some, if_pos htext]

theorem of_checkedCategory {category : Option String} {evidence : String → Bool} :
    ∀ text ∈ checkedCategory category evidence, text = "" ∨ evidence text = true := by
  intro text htext
  have hkept := (Option.filter_eq_some_iff.mp htext).2
  simpa using hkept

theorem nameQueries_eq_nil_iff {name? : Option String} :
    (name?.filter (· ≠ "")).toList = [] ↔ ∀ name ∈ name?, name = "" := by
  cases name? with
  | none => simp
  | some name => by_cases hname : name = "" <;> simp [hname]

/-- Attributes in normal form are not rewritten. -/
theorem NormalForm.rewriteAttributes {attrs : ProductAttributes} (h : NormalForm lower attrs)
    (fallbackQuery : String) : rewriteAttributes lower fallbackQuery attrs = attrs := by
  have hranges : normalizePriceRanges attrs = attrs := by
    rw [normalizePriceRanges, orderedRange_of_ordered h.range,
      orderedRange_of_ordered h.expectedRange]
  have hfallback : fallbackQueries fallbackQuery attrs = attrs := by
    have hen : (if attrs.searchQueriesEn = [] then
        (attrs.estimatedProductNameEn.filter (· ≠ "")).toList
        else attrs.searchQueriesEn) = attrs.searchQueriesEn := by
      split_ifs with hnone
      · rw [nameQueries_eq_nil_iff.mpr (h.queryEn hnone), hnone]
      · rfl
    rw [fallbackQueries, if_neg h.queryJa, hen]
  have hcategories : categoriesCheck lower attrs = attrs := by
    rw [categoriesCheck, checkedCategory_of h.categoryJa, checkedCategory_of h.categoryEn]
  have hqueries : improveSearchQueries lower attrs = attrs := by
    have hja : (if japaneseParts lower attrs = [] then attrs.searchQueriesJa
        else [" ".intercalate (japaneseParts lower attrs)]) = attrs.searchQueriesJa := by
      split_ifs with hparts
      · rfl
      · exact (h.queriesJa hparts).symm
    have hen : (if englishParts lower attrs = [] then attrs.searchQueriesEn
        else [lower (" ".intercalate (englishParts lower attrs))]) = attrs.searchQueriesEn := by
      split_ifs with hparts
      · rfl
      · exact (h.queriesEn hparts).symm
    rw [improveSearchQueries, hja, hen]
  rw [Search.rewriteAttributes, hranges, hfallback, hcategories, hqueries]

/-- The rewritings make the normal form of attributes with prices. -/
theorem normalForm_rewriteAttributes {attrs : ProductAttributes}
    (hprices : ∀ price? ∈ attrs.prices, ∀ price ∈ price?, IsPrice price) (fallbackQuery : String) :
    NormalForm lower (rewriteAttributes lower fallbackQuery attrs) := by
  simp only [ProductAttributes.prices, List.forall_mem_cons, List.not_mem_nil, false_implies,
    implies_true, and_true] at hprices
  obtain ⟨hmin, hmax, htarget, hexpectedMin, hexpectedMax⟩ := hprices
  have hrange := orderedRange_mem hmin hmax
  have hexpected := orderedRange_mem hexpectedMin hexpectedMax
  exact {
    prices := by
      simp only [ProductAttributes.prices, List.forall_mem_cons, List.not_mem_nil, false_implies,
        implies_true, and_true]
      exact ⟨hrange.1, hrange.2, htarget, hexpected.1, hexpected.2⟩
    range := ordered_orderedRange _ _
    expectedRange := ordered_orderedRange _ _
    categoryJa := of_checkedCategory
    categoryEn := of_checkedCategory
    queryJa := by
      rw [rewriteAttributes, improveSearchQueries]
      dsimp only
      split_ifs with hnone
      · show (if attrs.searchQueriesJa = [] then [fallbackQuery] else attrs.searchQueriesJa) ≠ []
        split_ifs with hqueries
        · exact List.cons_ne_nil _ _
        · exact hqueries
      · exact List.cons_ne_nil _ _
    queriesJa := fun hsome => if_neg hsome
    queryEn := by
      intro hnone name hname
      rw [rewriteAttributes, improveSearchQueries] at hnone
      dsimp only at hnone
      split_ifs at hnone with henglish
      change (if attrs.searchQueriesEn = [] then
        (attrs.estimatedProductNameEn.filter (· ≠ "")).toList else attrs.searchQueriesEn) = [] at hnone
      split_ifs at hnone with hqueries
      · exact nameQueries_eq_nil_iff.mp hnone name hname
      · exact absurd hnone hqueries
    queriesEn := fun hsome => if_neg hsome }

/-! ## Answers -/

theorem get_of_modelValidate {data : Fields} {attrs : ProductAttributes}
    (h : modelValidate data = some attrs) :
    data.get "min_price_jpy" = optionalInt attrs.minPriceJpy ∧
      data.get "max_price_jpy" = optionalInt attrs.maxPriceJpy ∧
      data.get "target_price_jpy" = optionalInt attrs.targetPriceJpy ∧
      data.get "expected_price_min_jpy" = optionalInt attrs.expectedPriceMinJpy ∧
      data.get "expected_price_max_jpy" = optionalInt attrs.expectedPriceMaxJpy := by
  unfold modelValidate at h
  -- the fields before the prices
  iterate 19 obtain ⟨_, _, h⟩ := Option.bind_eq_some_iff.mp h
  obtain ⟨_, hmin, h⟩ := Option.bind_eq_some_iff.mp h
  obtain ⟨_, hmax, h⟩ := Option.bind_eq_some_iff.mp h
  obtain ⟨_, htarget, h⟩ := Option.bind_eq_some_iff.mp h
  obtain ⟨_, hexpectedMin, h⟩ := Option.bind_eq_some_iff.mp h
  obtain ⟨_, hexpectedMax, h⟩ := Option.bind_eq_some_iff.mp h
  cases h
  exact ⟨get_of_readOptionalInt hmin, get_of_readOptionalInt hmax, get_of_readOptionalInt htarget,
    get_of_readOptionalInt hexpectedMin, get_of_readOptionalInt hexpectedMax⟩

/-- The prices that are validated have been coerced before. -/
theorem isPrice_of_modelValidate {text : String} {data : Fields} {attrs : ProductAttributes}
    (hread : Json.loads plainHooks text = .ok (.obj data))
    (hattrs : modelValidate (normalizeBonsaiFields data) = some attrs) :
    ∀ price? ∈ attrs.prices, ∀ price ∈ price?, IsPrice price := by
  have hprice : ∀ field ∈ priceFields, ∀ price? : Option ℤ,
      (normalizeBonsaiFields data).get field = optionalInt price? →
        ∀ price ∈ price?, IsPrice price := by
    intro field hfield price? hget
    rw [get_normalizeBonsaiFields, if_pos hfield, optionalInt_inj] at hget
    rw [← hget]
    exact isPrice_of_normalizePriceValue (Json.isRead_get hread field)
  obtain ⟨hmin, hmax, htarget, hexpectedMin, hexpectedMax⟩ := get_of_modelValidate hattrs
  simp only [ProductAttributes.prices, List.forall_mem_cons, List.not_mem_nil, false_implies,
    implies_true, and_true]
  exact ⟨hprice _ (by decide) _ hmin, hprice _ (by decide) _ hmax, hprice _ (by decide) _ htarget,
    hprice _ (by decide) _ hexpectedMin, hprice _ (by decide) _ hexpectedMax⟩

theorem normalForm_of_parseAttributes {rawText fallbackQuery : String} {attrs : ProductAttributes}
    (h : parseAttributes lower rawText fallbackQuery = .ok attrs) : NormalForm lower attrs := by
  unfold parseAttributes at h
  split at h
  · next data hread =>
      split at h
      · next validated hvalidated =>
          cases h
          exact normalForm_rewriteAttributes (isPrice_of_modelValidate hread hvalidated) _
      · cases h
  · cases h

/-- A dump with prices is coerced to itself. -/
theorem get_normalizeBonsaiFields_dumpedFields {attrs : ProductAttributes}
    (h : ∀ price? ∈ attrs.prices, ∀ price ∈ price?, IsPrice price) (field : String) :
    (normalizeBonsaiFields (dumpedFields attrs)).get field = (dumpedFields attrs).get field := by
  simp only [ProductAttributes.prices, List.forall_mem_cons, List.not_mem_nil, false_implies,
    implies_true, and_true] at h
  obtain ⟨hmin, hmax, htarget, hexpectedMin, hexpectedMax⟩ := h
  have hprice : ∀ field (price? : Option ℤ), (dumpedFields attrs).get field = optionalInt price? →
      (∀ price ∈ price?, IsPrice price) →
        optionalInt (normalizePriceValue ((dumpedFields attrs).get field)) =
          (dumpedFields attrs).get field := by
    intro field price? hget hvalid
    rw [hget, normalizePriceValue_optionalInt hvalid]
  rw [get_normalizeBonsaiFields]
  split_ifs with hprices hlists
  · simp only [priceFields, List.mem_cons, List.not_mem_nil, or_false] at hprices
    rcases hprices with rfl | rfl | rfl | rfl | rfl
    · exact hprice _ _ rfl hmin
    · exact hprice _ _ rfl hmax
    · exact hprice _ _ rfl htarget
    · exact hprice _ _ rfl hexpectedMin
    · exact hprice _ _ rfl hexpectedMax
  · simp only [listFields, List.mem_cons, List.not_mem_nil, or_false] at hlists
    rcases hlists with rfl | rfl | rfl | rfl | rfl | rfl | rfl | rfl | rfl | rfl | rfl | rfl <;> rfl
  · rfl

theorem isPlain_modelDump (attrs : ProductAttributes) : attrs.modelDump.IsPlain := by
  have htext : ∀ value, (optionalText value).IsPlain := by
    intro value
    cases value <;> simp [optionalText]
  have hint : ∀ value, (optionalInt value).IsPlain := by
    intro value
    cases value <;> simp [optionalInt]
  have hlist : ∀ values, (textList values).IsPlain := by
    intro values
    rw [textList, Json.isPlain_arr, Json.plainItems_iff, List.forall_mem_map]
    exact fun value _ => Json.isPlain_str value
  rw [modelDump_eq, Json.isPlain_obj, Json.plainFields_iff]
  refine ⟨?_, ?_⟩
  · show (Fields.keys (dumpedFields attrs)).Pairwise (· < ·)
    simp only [dumpedFields, ProductAttributes.modelDump, Fields.keys_cons, Fields.keys_nil]
    decide
  · simp only [dumpedFields, ProductAttributes.modelDump, List.forall_mem_cons, htext, hint, hlist,
      Json.isPlain_str, List.not_mem_nil, false_implies, implies_true, and_true]

theorem encodes_modelDump {attrs : ProductAttributes}
    (h : ∀ price? ∈ attrs.prices, ∀ price ∈ price?, IsPrice price) : attrs.modelDump.Encodes := by
  have htext : ∀ value, (optionalText value).Encodes := by
    intro value
    cases value <;> simp [optionalText]
  have hlist : ∀ values, (textList values).Encodes := by
    intro values
    rw [textList, Json.encodes_arr, List.forall_mem_map]
    exact fun value _ => Json.encodes_str value
  have hint : ∀ price? ∈ attrs.prices, (optionalInt price?).Encodes := by
    intro price? hmem
    cases price? with
    | none => simp [optionalInt]
    | some price => exact Json.encodes_int (h _ hmem price rfl).2
  simp only [ProductAttributes.prices, List.forall_mem_cons, List.not_mem_nil, false_implies,
    implies_true, and_true] at hint
  obtain ⟨hmin, hmax, htarget, hexpectedMin, hexpectedMax⟩ := hint
  rw [modelDump_eq, Json.encodes_obj]
  simp only [dumpedFields, ProductAttributes.modelDump, List.forall_mem_cons, htext, hlist, hmin,
    hmax, htarget, hexpectedMin, hexpectedMax, Json.encodes_str, List.not_mem_nil, false_implies,
    implies_true, and_true]

/-- The dump of attributes in normal form is read as these attributes. -/
theorem NormalForm.exists_dump {attrs : ProductAttributes} (h : NormalForm lower attrs) :
    ∃ text, Json.dumps attrs.modelDump = some text ∧
      ∀ fallbackQuery, parseAttributes lower text fallbackQuery = .ok attrs := by
  obtain ⟨cs, hcs⟩ := Option.isSome_iff_exists.mp (encodes_modelDump h.prices)
  have hdump : Json.dumps attrs.modelDump = some (String.ofList cs) := by
    rw [Json.dumps, hcs, Option.map_some]
  refine ⟨String.ofList cs, hdump, fun fallbackQuery => ?_⟩
  have hread := Json.loads_dumps plainHooks hdump (isPlain_modelDump attrs) [] rfl
    Json.endsNumber_nil
  rw [String.ofList_nil, String.append_empty, modelDump_eq] at hread
  have hvalid : modelValidate (normalizeBonsaiFields (dumpedFields attrs)) = some attrs := by
    rw [modelValidate_congr (get_normalizeBonsaiFields_dumpedFields h.prices),
      modelValidate_dumpedFields]
  rw [parseAttributes, loads_extractJsonText hread]
  dsimp only
  rw [hvalid]
  dsimp only
  rw [h.rewriteAttributes]

variable (lower)

/-- Attributes are parsed from some answer if and only if they are in normal form. -/
theorem parseAttributes_normalForm_iff (attrs : ProductAttributes) :
    (∃ rawText fallbackQuery, parseAttributes lower rawText fallbackQuery = .ok attrs) ↔
      NormalForm lower attrs := by
  constructor
  · rintro ⟨rawText, fallbackQuery, hparse⟩
    exact normalForm_of_parseAttributes hparse
  · intro h
    obtain ⟨text, _, hparse⟩ := h.exists_dump
    exact ⟨text, "", hparse ""⟩

/-- Attributes that were parsed can be dumped, and are parsed from their dump again. -/
theorem parseAttributes_idempotent {rawText fallbackQuery : String} {attrs : ProductAttributes}
    (h : parseAttributes lower rawText fallbackQuery = .ok attrs) :
    ∃ text, Json.dumps attrs.modelDump = some text ∧
      ∀ otherQuery, parseAttributes lower text otherQuery = .ok attrs :=
  (normalForm_of_parseAttributes h).exists_dump

end Lower

/-- A name, and a range of prices in the wrong order. -/
def reversedRange : String :=
  "\x7b\"estimated_product_name_ja\":\"mouse\",\"max_price_jpy\":2000,\"min_price_jpy\":\"￥3,000\"\x7d"

def orderedAttributes : ProductAttributes where
  estimatedProductNameJa := "mouse"
  estimatedProductNameEn := none
  categoryJa := none
  categoryEn := none
  colorJa := none
  colorEn := none
  featuresJa := []
  featuresEn := []
  negativeConditionsJa := []
  negativeConditionsEn := []
  searchQueriesJa := ["mouse"]
  searchQueriesEn := []
  requiredTermsJa := []
  requiredTermsEn := []
  preferredTermsJa := []
  preferredTermsEn := []
  relatedTermsJa := []
  relatedTermsEn := []
  pricePreference := none
  minPriceJpy := some 2000
  maxPriceJpy := some 3000
  targetPriceJpy := none
  expectedPriceMinJpy := none
  expectedPriceMaxJpy := none

theorem reversedRange_idempotent :
    ∃ text, Json.dumps orderedAttributes.modelDump = some text ∧
      ∀ otherQuery, parseAttributes id text otherQuery = .ok orderedAttributes :=
  @parseAttributes_idempotent id reversedRange "mouse" orderedAttributes (by decide +kernel)

end AmazonSimilarSearch.Search
