import AmazonSimilarSearch.Search.PriceScore
import AmazonSimilarSearch.Search.TextProcessing

/-!
# Scores of products

`score_products` compares the attributes with every product, by texts, by conditions and by
price, and sorts the products by their scores. The tokenizer, the similarity of texts and the
logarithm are fields of `ScoringTools`; numbers are not rounded but where the code rounds them.
-/
namespace AmazonSimilarSearch.Search
open Foundation

/-! ## Settings and tools -/

/-- The settings of the scores, as `Settings` validates them. -/
structure ScoreSettings where
  titleScoreWeight : ℚ
  attributeScoreWeight : ℚ
  priceScoreWeight : ℚ
  requiredTermWeight : ℕ
  colorTermWeight : ℕ
  featureTermWeight : ℕ
  preferredTermWeight : ℕ
  relatedTermWeight : ℕ
  title_within : 0 ≤ titleScoreWeight ∧ titleScoreWeight ≤ 1
  attribute_within : 0 ≤ attributeScoreWeight ∧ attributeScoreWeight ≤ 1
  price_within : 0 ≤ priceScoreWeight ∧ priceScoreWeight ≤ 1
  scores_sum : |titleScoreWeight + attributeScoreWeight + priceScoreWeight - 1| ≤ 1 / 10 ^ 9
  terms_sum : requiredTermWeight + colorTermWeight + featureTermWeight + preferredTermWeight +
    relatedTermWeight ≠ 0

/-- One similarity for each document, between zero and one. -/
def Similarities (documents : List String) : Type :=
  { scores : List ℚ // scores.length = documents.length ∧ ∀ score ∈ scores, 0 ≤ score ∧ score ≤ 1 }

def Similarities.zeros (documents : List String) : Similarities documents :=
  ⟨documents.map fun _ => 0, List.length_map _, by
    intro score hscore
    obtain ⟨_, -, rfl⟩ := List.mem_map.mp hscore
    exact ⟨le_rfl, zero_le_one⟩⟩

structure ScoringTools where
  tokenize : Tokenizer
  /-- the cosine similarities of the TF-IDF vectors of a query and of documents; nothing where the
  vectorizer raises `ValueError` -/
  cosineSimilarity : String → (documents : List String) → Option (Similarities documents)
  log10 : Log10

/-- The languages that `score_products` compares. -/
inductive Language where
  | en
  | ja
  deriving DecidableEq, Repr

/-! ## Terms -/

/-- `build_title_query_terms(attrs, language)` -/
def buildTitleQueryTerms (attrs : ProductAttributes) : Language → List String
  | .en => cleanDupeEmpty [attrs.estimatedProductNameEn, attrs.categoryEn]
  | .ja => cleanDupeEmpty [some attrs.estimatedProductNameJa, attrs.categoryJa]

/-- `build_attribute_terms(attrs, language)` -/
def buildAttributeTerms (attrs : ProductAttributes) : Language → List String
  | .en => cleanDupeEmpty ([attrs.colorEn, attrs.categoryEn] ++ attrs.featuresEn.map some)
  | .ja => cleanDupeEmpty ([attrs.colorJa, attrs.categoryJa] ++ attrs.featuresJa.map some)

/-- `repeat_terms(terms, weight)` -/
def repeatTerms (terms : List String) (weight : ℕ) : List String :=
  (cleanDupeEmpty (terms.map some)).flatMap (List.replicate weight)

/-- `build_negative_terms(attrs)` -/
def buildNegativeTerms (attrs : ProductAttributes) : List String :=
  cleanDupeEmpty ((attrs.negativeConditionsEn ++ attrs.negativeConditionsJa).map some)

section Terms

variable (settings : ScoreSettings) (attrs : ProductAttributes)

/-- `build_weighted_ranking_terms(attrs, language)` -/
def buildWeightedRankingTerms : Language → List String
  | .en => repeatTerms attrs.requiredTermsEn settings.requiredTermWeight ++
      repeatTerms attrs.preferredTermsEn settings.preferredTermWeight ++
      repeatTerms attrs.relatedTermsEn settings.relatedTermWeight
  | .ja => repeatTerms attrs.requiredTermsJa settings.requiredTermWeight ++
      repeatTerms attrs.preferredTermsJa settings.preferredTermWeight ++
      repeatTerms attrs.relatedTermsJa settings.relatedTermWeight

/-- `weighted_groups` -/
def weightedGroups : Language → List (List (Option String) × ℕ)
  | .en => [(attrs.requiredTermsEn.map some, settings.requiredTermWeight),
      ([attrs.colorEn], settings.colorTermWeight),
      (attrs.featuresEn.map some, settings.featureTermWeight),
      (attrs.preferredTermsEn.map some, settings.preferredTermWeight),
      (attrs.relatedTermsEn.map some, settings.relatedTermWeight)]
  | .ja => [(attrs.requiredTermsJa.map some, settings.requiredTermWeight),
      ([attrs.colorJa], settings.colorTermWeight),
      (attrs.featuresJa.map some, settings.featureTermWeight),
      (attrs.preferredTermsJa.map some, settings.preferredTermWeight),
      (attrs.relatedTermsJa.map some, settings.relatedTermWeight)]

/-- `weighted_condition_terms(attrs, language)`: a term has the weight of the first group it is
in. -/
def weightedConditionTerms (language : Language) : List (String × ℕ) :=
  firstOfKey (fun term => casefold term.1) []
    ((weightedGroups settings attrs language).flatMap fun group =>
      (cleanDupeEmpty group.1).map fun term => (term, group.2))

end Terms

/-! ## Texts of a product -/

/-- `product_text_parts(product)` -/
def productTextParts (product : NormalizedAmazonProduct) : List String :=
  [product.title, product.brandOrStore.getD "", " ".intercalate product.categories,
    product.description.getD ""]

/-- `combined_product_text(product)` -/
def combinedProductText (product : NormalizedAmazonProduct) : String :=
  " ".intercalate ((productTextParts product).filter (· ≠ ""))

/-! ## Scores -/

structure ProductScore where
  asin : Option String
  title : String
  priceJpy : Option ℤ
  rating : Option PyFloat
  reviewCount : Option ℤ
  imageUrl : Option String
  productUrl : Option String
  titleSimilarity : ℚ
  attributeSimilarity : ℚ
  priceScore : ℚ
  negativePenalty : ℚ
  totalScore : ℚ
  matchedTerms : List String
  missingTerms : List String
  negativeMatches : List String

/-- `round(score, 4)` -/
def round4 (score : ℚ) : ℚ := Rounding.toEven (score * 10000) / 10000

/-- What TF-IDF says of one product. -/
structure TextSimilarity where
  titleScoreEn : ℚ
  titleScoreJa : ℚ
  attributeScoreEn : ℚ
  attributeScoreJa : ℚ

section Scoring

variable (tools : ScoringTools) (settings : ScoreSettings) (attrs : ProductAttributes)

/-- `build_title_query_text(attrs, language)` -/
def buildTitleQueryText (language : Language) : String :=
  buildTfidfText tools.tokenize false ((buildTitleQueryTerms attrs language ++
    buildWeightedRankingTerms settings attrs language).map some)

/-- `build_attribute_query_text(attrs, language)` -/
def buildAttributeQueryText (language : Language) : String :=
  buildTfidfText tools.tokenize false ((buildAttributeTerms attrs language ++
    buildWeightedRankingTerms settings attrs language).map some)

/-- `build_product_tfidf_text(product)` -/
def buildProductTfidfText (product : NormalizedAmazonProduct) : String :=
  buildTfidfText tools.tokenize true [some (combinedProductText product)]

/-- `build_product_title_tfidf_text(product)` -/
def buildProductTitleTfidfText (product : NormalizedAmazonProduct) : String :=
  buildTfidfText tools.tokenize true [some product.title]

/-- `calculate_tfidf_similarities(query_text, document_texts)` -/
def calculateTfidfSimilarities (queryText : String) (documentTexts : List String) :
    Similarities documentTexts :=
  if queryText = "" ∨ documentTexts = [] then .zeros documentTexts
  else if ¬ (queryText :: documentTexts).any (fun document => strip document ≠ "") then
    .zeros documentTexts
  else (tools.cosineSimilarity queryText documentTexts).getD (.zeros documentTexts)

/-- `calculate_weighted_condition_match_score(attrs, product_text, language)`: the score, and the
terms that match and that are missing. -/
def calculateWeightedConditionMatchScore (productText : String) (language : Language) :
    Except ArithmeticError (ℚ × List String × List String) :=
  let weightedTerms := weightedConditionTerms settings attrs language
  if weightedTerms.isEmpty then pure (0, [], [])
  else do
    let matched := weightedTerms.filter fun term => termMatchesText tools.tokenize term.1 productText
    let missing := weightedTerms.filter fun term => !termMatchesText tools.tokenize term.1 productText
    let matchedWeight := (matched.map Prod.snd).sum
    let totalWeight := (weightedTerms.map Prod.snd).sum
    let score ← (exactNumbers tools.log10).divide matchedWeight totalWeight
    pure (score, firstOfKey casefold [] (matched.map Prod.fst),
      firstOfKey casefold [] (missing.map Prod.fst))

/-- `select_attribute_language(attrs, english_score, japanese_score)` -/
def selectAttributeLanguage (englishScore japaneseScore : ℚ) : Language :=
  if japaneseScore < englishScore then .en
  else if englishScore < japaneseScore then .ja
  else if !(weightedConditionTerms settings attrs .ja).isEmpty &&
      (weightedConditionTerms settings attrs .en).isEmpty then .ja
  else .en

/-- `calculate_negative_penalty(attrs, product)` -/
def calculateNegativePenalty (product : NormalizedAmazonProduct) : ℚ × List String :=
  let negativeMatches := (buildNegativeTerms attrs).filter fun term =>
    termMatchesText tools.tokenize term (combinedProductText product)
  if negativeMatches.isEmpty then (0, []) else (min (1 / 2) (1 / 5 * negativeMatches.length),
    negativeMatches)

/-- `score_product(attrs, product, …)`, with the similarities and the language given. -/
def scoreProduct (product : NormalizedAmazonProduct) (titleSimilarity attributeSimilarity : ℚ)
    (attributeLanguage : Language) : Except ArithmeticError ProductScore := do
  let (_, matchedTerms, missingTerms) ← calculateWeightedConditionMatchScore tools settings attrs
    (combinedProductText product) attributeLanguage
  let priceScore ← calculatePriceScore (exactNumbers tools.log10) attrs product
  let (negativePenalty, negativeMatches) := calculateNegativePenalty tools attrs product
  let totalScore := titleSimilarity * settings.titleScoreWeight +
    attributeSimilarity * settings.attributeScoreWeight +
    priceScore * settings.priceScoreWeight - negativePenalty
  pure {
    asin := product.asin
    title := product.title
    priceJpy := product.priceJpy
    rating := product.rating
    reviewCount := product.reviewCount
    imageUrl := product.imageUrl
    productUrl := product.productUrl
    titleSimilarity := round4 titleSimilarity
    attributeSimilarity := round4 attributeSimilarity
    priceScore := round4 priceScore
    negativePenalty := round4 negativePenalty
    totalScore := round4 (max 0 (min 1 totalScore))
    matchedTerms := matchedTerms
    missingTerms := missingTerms
    negativeMatches := negativeMatches }

/-- The similarities of the products, by what of the query and of the products is compared. -/
def titleScores (products : List NormalizedAmazonProduct) (language : Language) :
    Similarities (products.map (buildProductTitleTfidfText tools)) :=
  calculateTfidfSimilarities tools (buildTitleQueryText tools settings attrs language)
    (products.map (buildProductTitleTfidfText tools))

def attributeScores (products : List NormalizedAmazonProduct) (language : Language) :
    Similarities (products.map (buildProductTfidfText tools)) :=
  calculateTfidfSimilarities tools (buildAttributeQueryText tools settings attrs language)
    (products.map (buildProductTfidfText tools))

/-- What TF-IDF says of the products, in order. -/
def textSimilarities (products : List NormalizedAmazonProduct) : List TextSimilarity :=
  (((titleScores tools settings attrs products .en).1.zip
      (titleScores tools settings attrs products .ja).1).zip
    ((attributeScores tools settings attrs products .en).1.zip
      (attributeScores tools settings attrs products .ja).1)).map
    fun scores => ⟨scores.1.1, scores.1.2, scores.2.1, scores.2.2⟩

/-- One turn of the loop of `score_products`. -/
def scoreBest (product : NormalizedAmazonProduct) (similarity : TextSimilarity) :
    Except ArithmeticError ProductScore := do
  let productText := combinedProductText product
  let (conditionEn, _, _) ←
    calculateWeightedConditionMatchScore tools settings attrs productText .en
  let (conditionJa, _, _) ←
    calculateWeightedConditionMatchScore tools settings attrs productText .ja
  let attributeScoreEn := max similarity.attributeScoreEn conditionEn
  let attributeScoreJa := max similarity.attributeScoreJa conditionJa
  let attributeLanguage := selectAttributeLanguage settings attrs attributeScoreEn attributeScoreJa
  scoreProduct tools settings attrs product (max similarity.titleScoreEn similarity.titleScoreJa)
    (max attributeScoreEn attributeScoreJa) attributeLanguage

/-- `score_products(attrs, products)` -/
def scoreProducts (products : List NormalizedAmazonProduct) :
    Except ArithmeticError (List ProductScore) := do
  let scoredProducts ← (products.zip (textSimilarities tools settings attrs products)).mapM
    fun pair => scoreBest tools settings attrs pair.1 pair.2
  pure (scoredProducts.mergeSort fun a b => decide (b.totalScore ≤ a.totalScore))

end Scoring

end AmazonSimilarSearch.Search
