import AmazonSimilarSearch.Foundation.Words
import AmazonSimilarSearch.Search.Cache
import AmazonSimilarSearch.Search.ExtractJson
import AmazonSimilarSearch.Search.TextProcessing

/-!
# Attributes of a product

`parse_attributes` makes product attributes of what a model has answered: lists and prices are
coerced, the object is validated, and price ranges, categories and search queries are rewritten one
after the other. `str.lower` may be any function.
-/
namespace AmazonSimilarSearch.Search
open Foundation

def bonsaiResponseError : String := "Bonsai response is not valid product JSON."

def listFields : List String := [
  "features_ja", "features_en", "negative_conditions_ja", "negative_conditions_en",
  "search_queries_ja", "search_queries_en", "required_terms_ja", "required_terms_en",
  "preferred_terms_ja", "preferred_terms_en", "related_terms_ja", "related_terms_en"]

def priceFields : List String := [
  "min_price_jpy", "max_price_jpy", "target_price_jpy", "expected_price_min_jpy",
  "expected_price_max_jpy"]

/-! ## Prices -/

/-- `int(number)` where `math.isfinite(number)`, `number.is_integer()` and `number > 0`. -/
def positiveInteger? : PyFloat → Option ℤ
  | .finite false mantissa exponent =>
      let ratio := PyFloat.ratio mantissa exponent
      if 0 < ratio.1 ∧ ratio.1 % ratio.2 = 0 then some (ratio.1 / ratio.2 : ℕ) else none
  | _ => none

def skipSpaces (cs : List Char) : List Char := cs.dropWhile isPySpace

/-- `(?:JPY)?` in either case -/
def skipJpy (cs : List Char) : List Char :=
  match cs with
  | j :: p :: y :: rest =>
      if (j = 'J' ∨ j = 'j') ∧ (p = 'P' ∨ p = 'p') ∧ (y = 'Y' ∨ y = 'y') then rest else cs
  | _ => cs

/-- `[¥￥]?` -/
def skipYenSign (cs : List Char) : List Char :=
  if cs.head?.any fun c => c == '¥' || c == '￥' then cs.drop 1 else cs

/-- `(?:円|JPY)?` -/
def skipUnit (cs : List Char) : List Char :=
  if cs.head? = some '円' then cs.drop 1 else skipJpy cs

/-- `float(match.group(1).replace(",", ""))` where `PRICE_STRING_PATTERN` matches the text. -/
def priceNumber (text : List Char) : Option PyFloat :=
  let cs := skipSpaces (skipYenSign (skipSpaces (skipJpy (skipSpaces text))))
  let negative := cs.head? = some '-'
  let cs := if cs.head? = some '+' ∨ cs.head? = some '-' then cs.drop 1 else cs
  if cs.head?.any isDecimal then
    let whole := cs.takeWhile fun c => isDecimal c || c == ','
    let rest := cs.drop whole.length
    let fraction := fractionDigits rest
    let rest := if fraction = [] then rest else rest.drop (fraction.length + 1)
    if skipSpaces (skipUnit (skipSpaces rest)) = [] then
      some (PyFloat.ofDecimal negative (digitsValue (whole.filter (· ≠ ',') ++ fraction))
        (-(fraction.length : ℤ)))
    else none
  else none

/-- `normalize_price_value(value)` -/
def normalizePriceValue : Json → Option ℤ
  | .int value => if 0 < value then some value else none
  | .float value => positiveInteger? value
  | .str value => (priceNumber value.toList).bind positiveInteger?
  | _ => none

/-! ## The object -/

/-- One field of `LIST_FIELDS` -/
def normalizeListField (data : Fields) (field : String) : Fields :=
  match data.get field with
  | .null => data.insert field (.arr [])
  | .str value => data.insert field (.arr [.str value])
  | _ => data

/-- One field of `PRICE_FIELDS` -/
def normalizePriceField (data : Fields) (field : String) : Fields :=
  if field ∈ data.keys then
    data.insert field (optionalInt (normalizePriceValue (data.get field)))
  else data

/-- `normalize_bonsai_json(data)` of a dictionary -/
def normalizeBonsaiFields (data : Fields) : Fields :=
  priceFields.foldl normalizePriceField (listFields.foldl normalizeListField data)

/-- A field of type `str | None` -/
def readOptionalText (data : Fields) (field : String) : Option (Option String) :=
  match data.get field with
  | .null => some none
  | .str value => some (some value)
  | _ => none

/-- A field of type `list[str]`, which is there -/
def readTextList (data : Fields) (field : String) : Option (List String) :=
  match data.get field with
  | .arr items => items.mapM fun item => match item with
      | .str value => some value
      | _ => none
  | _ => none

/-- A field of type `int | None`, which holds one of the two where it is there -/
def readOptionalInt (data : Fields) (field : String) : Option (Option ℤ) :=
  match data.get field with
  | .null => some none
  | .int value => some (some value)
  | _ => none

/-- `ProductAttributes.model_validate(data)`, after `normalize_bonsai_json` -/
def modelValidate (data : Fields) : Option ProductAttributes := do
  let estimatedProductNameJa ← (readOptionalText data "estimated_product_name_ja").join
  let estimatedProductNameEn ← readOptionalText data "estimated_product_name_en"
  let categoryJa ← readOptionalText data "category_ja"
  let categoryEn ← readOptionalText data "category_en"
  let colorJa ← readOptionalText data "color_ja"
  let colorEn ← readOptionalText data "color_en"
  let featuresJa ← readTextList data "features_ja"
  let featuresEn ← readTextList data "features_en"
  let negativeConditionsJa ← readTextList data "negative_conditions_ja"
  let negativeConditionsEn ← readTextList data "negative_conditions_en"
  let searchQueriesJa ← readTextList data "search_queries_ja"
  let searchQueriesEn ← readTextList data "search_queries_en"
  let requiredTermsJa ← readTextList data "required_terms_ja"
  let requiredTermsEn ← readTextList data "required_terms_en"
  let preferredTermsJa ← readTextList data "preferred_terms_ja"
  let preferredTermsEn ← readTextList data "preferred_terms_en"
  let relatedTermsJa ← readTextList data "related_terms_ja"
  let relatedTermsEn ← readTextList data "related_terms_en"
  let pricePreference ← readOptionalText data "price_preference"
  let minPriceJpy ← readOptionalInt data "min_price_jpy"
  let maxPriceJpy ← readOptionalInt data "max_price_jpy"
  let targetPriceJpy ← readOptionalInt data "target_price_jpy"
  let expectedPriceMinJpy ← readOptionalInt data "expected_price_min_jpy"
  let expectedPriceMaxJpy ← readOptionalInt data "expected_price_max_jpy"
  pure {
    estimatedProductNameJa, estimatedProductNameEn, categoryJa, categoryEn, colorJa, colorEn,
    featuresJa, featuresEn, negativeConditionsJa, negativeConditionsEn, searchQueriesJa,
    searchQueriesEn, requiredTermsJa, requiredTermsEn, preferredTermsJa, preferredTermsEn,
    relatedTermsJa, relatedTermsEn, pricePreference, minPriceJpy, maxPriceJpy, targetPriceJpy,
    expectedPriceMinJpy, expectedPriceMaxJpy }

/-! ## The rewritings -/

/-- The smaller price first, where both are given. -/
def orderedRange (minimum maximum : Option ℤ) : Option ℤ × Option ℤ :=
  match minimum, maximum with
  | some low, some high => if high < low then (some high, some low) else (some low, some high)
  | _, _ => (minimum, maximum)

/-- `normalize_price_ranges(attrs)` -/
def normalizePriceRanges (attrs : ProductAttributes) : ProductAttributes :=
  let range := orderedRange attrs.minPriceJpy attrs.maxPriceJpy
  let expected := orderedRange attrs.expectedPriceMinJpy attrs.expectedPriceMaxJpy
  { attrs with
    minPriceJpy := range.1
    maxPriceJpy := range.2
    expectedPriceMinJpy := expected.1
    expectedPriceMaxJpy := expected.2 }

/-- `" ".join(part for part in evidence_parts if part)` -/
def joinedParts (parts : List (Option String)) : String :=
  " ".intercalate ((parts.filterMap id).filter (· ≠ ""))

/-- `japanese_category_evidence(category, evidence_parts)` -/
def japaneseCategoryEvidence (category : String) (evidenceParts : List (Option String)) : Bool :=
  strip category ≠ "" && containsText (strip category) (joinedParts evidenceParts)

/-- `japanese_query_part(value)` -/
def japaneseQueryPart (value : Option String) : Option String :=
  value.filter fun text => text ≠ "" && text.toList.any isJapaneseCharacter

section Lower

variable (lower : String → String)

/-- `english_words(text)` -/
def englishWords (text : String) : List String :=
  (pyWords (String.ofList ((lower text).toList.map fun c => if c = '-' then ' ' else c))).filter
    fun word => 2 < word.toList.length

/-- `english_category_evidence(category, evidence_parts)` -/
def englishCategoryEvidence (category : String) (evidenceParts : List (Option String)) : Bool :=
  let categoryWords := englishWords lower category
  let evidenceWords := englishWords lower (joinedParts evidenceParts)
  !categoryWords.isEmpty && categoryWords.all (evidenceWords.contains ·)

/-- A category that is given is kept where the evidence supports it; an empty one is kept. -/
def checkedCategory (category : Option String) (evidence : String → Bool) : Option String :=
  category.filter fun text => text = "" || evidence text

/-- `categories_check(attrs)` -/
def categoriesCheck (attrs : ProductAttributes) : ProductAttributes :=
  let japaneseEvidence := some attrs.estimatedProductNameJa :: attrs.featuresJa.map some
  let englishEvidence := attrs.estimatedProductNameEn :: attrs.featuresEn.map some
  { attrs with
    categoryJa := checkedCategory attrs.categoryJa fun category =>
      japaneseCategoryEvidence category japaneseEvidence
    categoryEn := checkedCategory attrs.categoryEn fun category =>
      englishCategoryEvidence lower category englishEvidence }

/-- `clean_dupe_empty(values)` of `user_attribute_extraction.py`, which folds case by `str.lower` -/
def cleanDupeEmptyLower (values : List (Option String)) : List String :=
  firstOfKey lower [] (strippedValues values)

def japaneseParts (attrs : ProductAttributes) : List String :=
  cleanDupeEmptyLower lower ([japaneseQueryPart (some attrs.estimatedProductNameJa),
    japaneseQueryPart attrs.colorJa] ++
    attrs.featuresJa.map (fun feature => japaneseQueryPart (some feature)) ++
    [japaneseQueryPart attrs.categoryJa])

def englishParts (attrs : ProductAttributes) : List String :=
  cleanDupeEmptyLower lower ([attrs.estimatedProductNameEn, attrs.colorEn] ++
    attrs.featuresEn.map some ++ [attrs.categoryEn])

/-- `improve_search_queries(attrs)` -/
def improveSearchQueries (attrs : ProductAttributes) : ProductAttributes :=
  { attrs with
    searchQueriesJa := if japaneseParts lower attrs = [] then attrs.searchQueriesJa
      else [" ".intercalate (japaneseParts lower attrs)]
    searchQueriesEn := if englishParts lower attrs = [] then attrs.searchQueriesEn
      else [lower (" ".intercalate (englishParts lower attrs))] }

/-- The queries that stand in where the answer gives none. -/
def fallbackQueries (fallbackQuery : String) (attrs : ProductAttributes) : ProductAttributes :=
  { attrs with
    searchQueriesJa := if attrs.searchQueriesJa = [] then [fallbackQuery] else attrs.searchQueriesJa
    searchQueriesEn := if attrs.searchQueriesEn = [] then
        (attrs.estimatedProductNameEn.filter (· ≠ "")).toList
      else attrs.searchQueriesEn }

/-- What `parse_attributes` does with the attributes that it has validated. -/
def rewriteAttributes (fallbackQuery : String) (attrs : ProductAttributes) : ProductAttributes :=
  improveSearchQueries lower (categoriesCheck lower
    (fallbackQueries fallbackQuery (normalizePriceRanges attrs)))

/-- `parse_attributes(raw_text, fallback_query)` -/
def parseAttributes (rawText fallbackQuery : String) : Except String ProductAttributes :=
  match Json.loads plainHooks (extractJsonText rawText) with
  | .ok (.obj data) => match modelValidate (normalizeBonsaiFields data) with
    | some attrs => .ok (rewriteAttributes lower fallbackQuery attrs)
    | none => .error bonsaiResponseError
  | _ => .error bonsaiResponseError

end Lower

end AmazonSimilarSearch.Search
