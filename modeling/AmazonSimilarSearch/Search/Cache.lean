import AmazonSimilarSearch.Foundation.ContentAddressed
import AmazonSimilarSearch.Foundation.Digest
import AmazonSimilarSearch.Search.Normalization

/-!
# The cache of the product search

`run.py` keeps the results of its four steps as files under the cache
directory. A file is named by `build_cache_key` of what it depends on: the raw
answer by the query, the normalised products by the answer itself, the scores
by the attributes and the name of the products.
-/
namespace AmazonSimilarSearch.Search
open Foundation

structure ProductAttributes where
  estimatedProductNameJa : String
  estimatedProductNameEn : Option String
  categoryJa : Option String
  categoryEn : Option String
  colorJa : Option String
  colorEn : Option String
  featuresJa : List String
  featuresEn : List String
  negativeConditionsJa : List String
  negativeConditionsEn : List String
  searchQueriesJa : List String
  searchQueriesEn : List String
  requiredTermsJa : List String
  requiredTermsEn : List String
  preferredTermsJa : List String
  preferredTermsEn : List String
  relatedTermsJa : List String
  relatedTermsEn : List String
  pricePreference : Option String
  minPriceJpy : Option ℤ
  maxPriceJpy : Option ℤ
  targetPriceJpy : Option ℤ
  expectedPriceMinJpy : Option ℤ
  expectedPriceMaxJpy : Option ℤ
  deriving DecidableEq, Repr

def optionalText (value : Option String) : Json := (value.map Json.str).getD .null
def optionalInt (value : Option ℤ) : Json := (value.map Json.int).getD .null
def textList (values : List String) : Json := .arr (values.map Json.str)

/-- `attrs.model_dump(mode="json")` -/
def ProductAttributes.modelDump (attrs : ProductAttributes) : Json := .obj [
  ("category_en", optionalText attrs.categoryEn),
  ("category_ja", optionalText attrs.categoryJa),
  ("color_en", optionalText attrs.colorEn),
  ("color_ja", optionalText attrs.colorJa),
  ("estimated_product_name_en", optionalText attrs.estimatedProductNameEn),
  ("estimated_product_name_ja", .str attrs.estimatedProductNameJa),
  ("expected_price_max_jpy", optionalInt attrs.expectedPriceMaxJpy),
  ("expected_price_min_jpy", optionalInt attrs.expectedPriceMinJpy),
  ("features_en", textList attrs.featuresEn),
  ("features_ja", textList attrs.featuresJa),
  ("max_price_jpy", optionalInt attrs.maxPriceJpy),
  ("min_price_jpy", optionalInt attrs.minPriceJpy),
  ("negative_conditions_en", textList attrs.negativeConditionsEn),
  ("negative_conditions_ja", textList attrs.negativeConditionsJa),
  ("preferred_terms_en", textList attrs.preferredTermsEn),
  ("preferred_terms_ja", textList attrs.preferredTermsJa),
  ("price_preference", optionalText attrs.pricePreference),
  ("related_terms_en", textList attrs.relatedTermsEn),
  ("related_terms_ja", textList attrs.relatedTermsJa),
  ("required_terms_en", textList attrs.requiredTermsEn),
  ("required_terms_ja", textList attrs.requiredTermsJa),
  ("search_queries_en", textList attrs.searchQueriesEn),
  ("search_queries_ja", textList attrs.searchQueriesJa),
  ("target_price_jpy", optionalInt attrs.targetPriceJpy)]

@[simp] theorem optionalText_inj {a b : Option String} : optionalText a = optionalText b ↔ a = b := by
  cases a <;> cases b <;> simp [optionalText]

@[simp] theorem optionalInt_inj {a b : Option ℤ} : optionalInt a = optionalInt b ↔ a = b := by
  cases a <;> cases b <;> simp [optionalInt]

@[simp] theorem textList_inj {a b : List String} : textList a = textList b ↔ a = b := by
  have hstr : Function.Injective Json.str := fun _ _ h => Json.str.inj h
  rw [textList, textList, Json.arr.injEq]
  exact hstr.list_map.eq_iff

theorem modelDump_injective : Function.Injective ProductAttributes.modelDump := by
  intro a b h
  simp only [ProductAttributes.modelDump, Json.obj.injEq, List.cons.injEq, Prod.mk.injEq,
    optionalText_inj, optionalInt_inj, textList_inj, Json.str.injEq, true_and, and_true] at h
  obtain ⟨h₁, h₂, h₃, h₄, h₅, h₆, h₇, h₈, h₉, h₁₀, h₁₁, h₁₂, h₁₃, h₁₄, h₁₅, h₁₆, h₁₇, h₁₈, h₁₉,
    h₂₀, h₂₁, h₂₂, h₂₃, h₂₄⟩ := h
  cases a
  cases b
  simp_all

/-- The configured values that a cache key or a result depends on. -/
structure Settings where
  bonsaiBaseUrl : String
  bonsaiModel : String
  bonsaiTemperature : PyFloat
  bonsaiMaxTokens : ℤ
  bonsaiPrompt : String
  outscraperEndpoint : String
  outscraperDomain : String
  outscraperLanguage : String
  outscraperPostalCode : String
  outscraperLimit : ℤ
  usdToJpyRate : ℤ
  titleScoreWeight : PyFloat
  attributeScoreWeight : PyFloat
  priceScoreWeight : PyFloat
  requiredTermWeight : ℤ
  colorTermWeight : ℤ
  featureTermWeight : ℤ
  preferredTermWeight : ℤ
  relatedTermWeight : ℤ
  enableCache : Bool

/-- `build_cache_key`, without collisions. `asValue` is a key as a value in the payload of
another one. -/
structure CacheKeys (Key : Type) where
  buildCacheKey : Json ↪ Key
  asValue : Key ↪ Json

section Keys
variable (H : HashFunction) (settings : Settings) {Key : Type} (keys : CacheKeys Key)

def buildAttributesCacheKey (userInput cacheScope : String) : Key :=
  keys.buildCacheKey (.obj [
    ("bonsai_base_url", .str settings.bonsaiBaseUrl),
    ("bonsai_model", .str settings.bonsaiModel),
    ("cache_scope", .str cacheScope),
    ("max_tokens", .int settings.bonsaiMaxTokens),
    ("prompt_sha256", .str (H (encodeUtf8 settings.bonsaiPrompt)).text),
    ("temperature", .float settings.bonsaiTemperature),
    ("type", .str "product_attributes"),
    ("user_input", .str userInput),
    ("version", .str "2")])

def buildOutscraperCacheKey (query cacheScope : String) : Key :=
  keys.buildCacheKey (.obj [
    ("cache_scope", .str cacheScope),
    ("domain", .str settings.outscraperDomain),
    ("endpoint", .str settings.outscraperEndpoint),
    ("language", .str settings.outscraperLanguage),
    ("limit", .int settings.outscraperLimit),
    ("postal_code", .str settings.outscraperPostalCode),
    ("query", .str query),
    ("type", .str "outscraper_raw")])

/-- The scope and the raw response that normalised products were computed from. -/
structure ProductsSource where
  cacheScope : String
  rawResponse : Fields

def normalizedPayload (source : ProductsSource) : Json := .obj [
  ("cache_scope", .str source.cacheScope),
  ("raw_response", .obj source.rawResponse),
  ("type", .str "normalized_products"),
  ("usd_to_jpy_rate", .int settings.usdToJpyRate),
  ("version", .str "2")]

theorem normalizedPayload_injective : Function.Injective (normalizedPayload settings) := by
  intro a b h
  simp only [normalizedPayload, Json.obj.injEq, List.cons.injEq, Prod.mk.injEq, Json.str.injEq,
    true_and, and_true] at h
  obtain ⟨hscope, hresponse⟩ := h
  cases a
  cases b
  cases hscope
  cases hresponse
  rfl

def buildNormalizedCacheKey : ProductsSource ↪ Key :=
  Function.Embedding.trans ⟨normalizedPayload settings, normalizedPayload_injective settings⟩
    keys.buildCacheKey

/-- The attributes and the products, by their source, that scores were computed from. -/
structure ScoresSource where
  attrs : ProductAttributes
  products : ProductsSource

def scoredPayload (source : ScoresSource) : Json := .obj [
  ("attribute_score_weight", .float settings.attributeScoreWeight),
  ("attributes", source.attrs.modelDump),
  ("color_term_weight", .int settings.colorTermWeight),
  ("feature_term_weight", .int settings.featureTermWeight),
  ("normalized_cache_key", keys.asValue (buildNormalizedCacheKey settings keys source.products)),
  ("preferred_term_weight", .int settings.preferredTermWeight),
  ("price_score_weight", .float settings.priceScoreWeight),
  ("related_term_weight", .int settings.relatedTermWeight),
  ("required_term_weight", .int settings.requiredTermWeight),
  ("title_score_weight", .float settings.titleScoreWeight),
  ("type", .str "scored_products"),
  ("version", .str "2")]

theorem scoredPayload_injective : Function.Injective (scoredPayload settings keys) := by
  intro a b h
  simp only [scoredPayload, Json.obj.injEq, List.cons.injEq, Prod.mk.injEq, true_and,
    and_true, EmbeddingLike.apply_eq_iff_eq] at h
  obtain ⟨hattrs, hproducts⟩ := h
  have hattrs := modelDump_injective hattrs
  cases a
  cases b
  cases hattrs
  cases hproducts
  rfl

def buildScoredCacheKey : ScoresSource ↪ Key :=
  Function.Embedding.trans ⟨scoredPayload settings keys, scoredPayload_injective settings keys⟩
    keys.buildCacheKey

end Keys

/-- The files of the four cache directories. A raw file holds JSON; a file that the program
writes from its own values reads back as these. -/
structure Cache (Key Score : Type) where
  attributes : Key → Option ProductAttributes
  raw : Key → Option Json
  normalized : Key → Option (List NormalizedAmazonProduct)
  scored : Key → Option (List Score)

def Cache.empty {Key Score : Type} : Cache Key Score :=
  ⟨fun _ => none, fun _ => none, fun _ => none, fun _ => none⟩

end AmazonSimilarSearch.Search
