import AmazonSimilarSearch.Foundation.Attempts
import AmazonSimilarSearch.Search.ProductScoring

/-!
# The ranking of products

Products are scored and ranked exactly when the terms of both languages can be weighed. A weight
may be zero as long as one is not, so the terms of one language may weigh nothing together.
-/
namespace AmazonSimilarSearch.Search
open Foundation

section Ranking

variable (tools : ScoringTools) (settings : ScoreSettings) (attrs : ProductAttributes)

/-! ## What a ranking is -/

/-- The language has no condition terms, or one of them has a weight. -/
def Weighable (language : Language) : Prop :=
  weightedConditionTerms settings attrs language = [] ∨
    ∃ term ∈ weightedConditionTerms settings attrs language, 0 < term.2

instance (language : Language) : Decidable (Weighable settings attrs language) :=
  inferInstanceAs (Decidable (_ ∨ _))

def conditionTerms (language : Language) : List String :=
  (weightedConditionTerms settings attrs language).map Prod.fst

/-- The share that the matching terms have in the weight of all of them. -/
def conditionShare (productText : String) (language : Language) : ℚ :=
  (((weightedConditionTerms settings attrs language).filter fun term =>
      termMatchesText tools.tokenize term.1 productText).map Prod.snd).sum /
    ((weightedConditionTerms settings attrs language).map Prod.snd).sum

/-- The attribute score of a product in one language. -/
def attributeScore (product : NormalizedAmazonProduct) (similarity : TextSimilarity) :
    Language → ℚ
  | .en => max similarity.attributeScoreEn
      (conditionShare tools settings attrs (combinedProductText product) .en)
  | .ja => max similarity.attributeScoreJa
      (conditionShare tools settings attrs (combinedProductText product) .ja)

/-- What one score says about its product. -/
structure Sound (product : NormalizedAmazonProduct) (similarity : TextSimilarity)
    (score : ProductScore) : Prop where
  shows : score.asin = product.asin ∧ score.title = product.title ∧
    score.priceJpy = product.priceJpy ∧ score.rating = product.rating ∧
    score.reviewCount = product.reviewCount ∧ score.imageUrl = product.imageUrl ∧
    score.productUrl = product.productUrl
  within : ∀ component ∈ [score.titleSimilarity, score.attributeSimilarity, score.priceScore,
    score.negativePenalty, score.totalScore], 0 ≤ component ∧ component ≤ 1
  /-- the terms are those of the language whose attribute score is shown -/
  partitions : ∃ language,
    score.attributeSimilarity =
      round4 (attributeScore tools settings attrs product similarity language) ∧
    score.matchedTerms = (conditionTerms settings attrs language).filter
      (fun term => termMatchesText tools.tokenize term (combinedProductText product)) ∧
    score.missingTerms = (conditionTerms settings attrs language).filter
      (fun term => !termMatchesText tools.tokenize term (combinedProductText product))

/-- The scores are one for each product, with the highest first and equal ones in the order of the
products. -/
structure Ranking (products : List NormalizedAmazonProduct) (scores : List ProductScore) :
    Prop where
  length_eq : scores.length = products.length
  falls : scores.Pairwise fun a b => b.totalScore ≤ a.totalScore
  stable : ∃ scored, List.Forall₂ (fun pair score => Sound tools settings attrs pair.1 pair.2 score)
      (products.zip (textSimilarities tools settings attrs products)) scored ∧
    scores.Perm scored ∧
    ∀ total, scores.filter (fun score => decide (score.totalScore = total)) =
      scored.filter fun score => decide (score.totalScore = total)

/-! ## Similarities -/

def TextSimilarity.Within (similarity : TextSimilarity) : Prop :=
  ∀ component ∈ [similarity.titleScoreEn, similarity.titleScoreJa, similarity.attributeScoreEn,
    similarity.attributeScoreJa], 0 ≤ component ∧ component ≤ 1

theorem length_titleScores (products : List NormalizedAmazonProduct) (language : Language) :
    (titleScores tools settings attrs products language).1.length = products.length :=
  (titleScores tools settings attrs products language).2.1.trans (List.length_map _)

theorem length_attributeScores (products : List NormalizedAmazonProduct) (language : Language) :
    (attributeScores tools settings attrs products language).1.length = products.length :=
  (attributeScores tools settings attrs products language).2.1.trans (List.length_map _)

/-- `zip` finds as many similarities as products. -/
theorem length_textSimilarities (products : List NormalizedAmazonProduct) :
    (textSimilarities tools settings attrs products).length = products.length := by
  simp only [textSimilarities, List.length_map, List.length_zip, length_titleScores,
    length_attributeScores, min_self]

variable {tools settings attrs}

theorem textSimilarities_within {products : List NormalizedAmazonProduct}
    {similarity : TextSimilarity} (h : similarity ∈ textSimilarities tools settings attrs products) :
    similarity.Within := by
  obtain ⟨⟨⟨titleEn, titleJa⟩, attributeEn, attributeJa⟩, hmem, rfl⟩ := List.mem_map.mp h
  obtain ⟨htitles, hattributes⟩ := List.of_mem_zip hmem
  obtain ⟨htitleEn, htitleJa⟩ := List.of_mem_zip htitles
  obtain ⟨hattributeEn, hattributeJa⟩ := List.of_mem_zip hattributes
  intro component hcomponent
  simp only [List.mem_cons, List.not_mem_nil, or_false] at hcomponent
  rcases hcomponent with rfl | rfl | rfl | rfl
  · exact (titleScores tools settings attrs products .en).2.2 _ htitleEn
  · exact (titleScores tools settings attrs products .ja).2.2 _ htitleJa
  · exact (attributeScores tools settings attrs products .en).2.2 _ hattributeEn
  · exact (attributeScores tools settings attrs products .ja).2.2 _ hattributeJa

/-! ## Conditions -/

variable {productText : String} {language : Language}

/-- No condition term is there twice, so none of those that match or that are missing is dropped. -/
theorem firstOfKey_conditionTerms (keep : String → Bool) :
    firstOfKey casefold []
        (((weightedConditionTerms settings attrs language).filter fun term => keep term.1).map
          Prod.fst) = (conditionTerms settings attrs language).filter keep := by
  have hpairwise : (weightedConditionTerms settings attrs language).Pairwise
      fun a b => casefold a.1 ≠ casefold b.1 := firstOfKey_pairwise _ [] _
  have hkept : (((weightedConditionTerms settings attrs language).filter
      fun term => keep term.1).map Prod.fst).Pairwise fun a b => casefold a ≠ casefold b :=
    List.pairwise_map.mpr (hpairwise.sublist List.filter_sublist)
  rw [firstOfKey_eq_self (fun _ _ => List.not_mem_nil) hkept, conditionTerms, List.filter_map]
  rfl

theorem weighable_iff : Weighable settings attrs language ↔
    weightedConditionTerms settings attrs language = [] ∨
      ((weightedConditionTerms settings attrs language).map Prod.snd).sum ≠ 0 := by
  refine or_congr Iff.rfl ?_
  rw [Ne, List.sum_eq_zero_iff, List.forall_mem_map]
  push Not
  exact exists_congr fun term => and_congr Iff.rfl Nat.pos_iff_ne_zero

/-- The condition score of a language whose terms can be weighed. -/
theorem calculateWeightedConditionMatchScore_of_weighable
    (h : Weighable settings attrs language) :
    calculateWeightedConditionMatchScore tools settings attrs productText language =
      .ok (conditionShare tools settings attrs productText language,
        (conditionTerms settings attrs language).filter
          (fun term => termMatchesText tools.tokenize term productText),
        (conditionTerms settings attrs language).filter
          (fun term => !termMatchesText tools.tokenize term productText)) := by
  unfold calculateWeightedConditionMatchScore
  dsimp only
  rcases weighable_iff.mp h with hnil | hsum
  · rw [hnil, conditionShare, conditionTerms, hnil]
    simp only [List.filter_nil, List.map_nil, List.sum_nil, Nat.cast_zero, div_zero]
    rfl
  · have hsome : ¬ (weightedConditionTerms settings attrs language).isEmpty := by
      intro hempty
      rw [List.isEmpty_iff.mp hempty] at hsum
      exact hsum rfl
    rw [if_neg hsome, divide_exactNumbers tools.log10 _ (by exact_mod_cast hsum), ok_bind,
      firstOfKey_conditionTerms fun term => termMatchesText tools.tokenize term productText,
      firstOfKey_conditionTerms fun term => !termMatchesText tools.tokenize term productText]
    rfl

theorem calculateWeightedConditionMatchScore_of_not_weighable
    (h : ¬ Weighable settings attrs language) :
    calculateWeightedConditionMatchScore tools settings attrs productText language =
      .error .zeroDivision := by
  obtain ⟨hsome, hsum⟩ := not_or.mp (mt weighable_iff.mpr h)
  rw [not_not] at hsum
  unfold calculateWeightedConditionMatchScore
  dsimp only
  rw [if_neg (mt List.isEmpty_iff.mp hsome), hsum]
  rfl

theorem conditionShare_within :
    0 ≤ conditionShare tools settings attrs productText language ∧
      conditionShare tools settings attrs productText language ≤ 1 := by
  have hle : (((weightedConditionTerms settings attrs language).filter fun term =>
      termMatchesText tools.tokenize term.1 productText).map Prod.snd).sum ≤
      ((weightedConditionTerms settings attrs language).map Prod.snd).sum :=
    (List.filter_sublist.map Prod.snd).sum_le_sum fun _ _ => Nat.zero_le _
  constructor
  · exact div_nonneg (Nat.cast_nonneg _) (Nat.cast_nonneg _)
  · exact div_le_one_of_le₀ (by exact_mod_cast hle) (Nat.cast_nonneg _)

/-! ## One score -/

theorem round4_within {score : ℚ} (h : 0 ≤ score ∧ score ≤ 1) :
    0 ≤ round4 score ∧ round4 score ≤ 1 := by
  have hlow : (0 : ℤ) ≤ Rounding.toEven (score * 10000) := by
    have hmono := Rounding.toEven_monotone (α := ℚ) (show ((0 : ℤ) : ℚ) ≤ score * 10000 by
      push_cast
      linarith)
    rwa [Rounding.toEven_intCast] at hmono
  have hhigh : Rounding.toEven (score * 10000) ≤ 10000 := by
    have hmono := Rounding.toEven_monotone (α := ℚ) (show score * 10000 ≤ ((10000 : ℤ) : ℚ) by
      push_cast
      linarith)
    rwa [Rounding.toEven_intCast] at hmono
  constructor
  · exact div_nonneg (by exact_mod_cast hlow) (by norm_num)
  · rw [round4, div_le_one (by norm_num)]
    exact_mod_cast hhigh

theorem max_within {x y : ℚ} (hx : 0 ≤ x ∧ x ≤ 1) (hy : 0 ≤ y ∧ y ≤ 1) :
    0 ≤ max x y ∧ max x y ≤ 1 :=
  ⟨hx.1.trans (le_max_left x y), max_le hx.2 hy.2⟩

theorem calculateNegativePenalty_within (product : NormalizedAmazonProduct) :
    0 ≤ (calculateNegativePenalty tools attrs product).1 ∧
      (calculateNegativePenalty tools attrs product).1 ≤ 1 := by
  unfold calculateNegativePenalty
  dsimp only
  split_ifs
  · exact ⟨le_rfl, zero_le_one⟩
  · refine ⟨le_min (by norm_num) (by positivity), ?_⟩
    exact (min_le_left _ _).trans (by norm_num)

variable {product : NormalizedAmazonProduct} {similarity : TextSimilarity}

theorem attributeScore_within (hsimilarity : similarity.Within) :
    0 ≤ attributeScore tools settings attrs product similarity language ∧
      attributeScore tools settings attrs product similarity language ≤ 1 := by
  cases language with
  | en => exact max_within (hsimilarity _ (by simp)) conditionShare_within
  | ja => exact max_within (hsimilarity _ (by simp)) conditionShare_within

/-- The language that is selected has the larger of the two scores. -/
theorem attributeScore_selectAttributeLanguage (settings : ScoreSettings)
    (attrs : ProductAttributes) (score : Language → ℚ) :
    score (selectAttributeLanguage settings attrs (score .en) (score .ja)) =
      max (score .en) (score .ja) := by
  unfold selectAttributeLanguage
  split_ifs with hen hja hterms
  · exact (max_eq_left hen.le).symm
  · exact (max_eq_right hja.le).symm
  · exact (max_eq_right (not_lt.mp hen)).symm
  · exact (max_eq_left (not_lt.mp hja)).symm

/-- A product has a score where the terms of the language that is shown can be weighed. -/
theorem scoreProduct_sound (h : Weighable settings attrs language) {titleSimilarity : ℚ}
    (htitle : 0 ≤ titleSimilarity ∧ titleSimilarity ≤ 1) (hsimilarity : similarity.Within) :
    ∃ score, scoreProduct tools settings attrs product titleSimilarity
        (attributeScore tools settings attrs product similarity language) language = .ok score ∧
      Sound tools settings attrs product similarity score := by
  obtain ⟨priceScore, hprice⟩ := exists_calculatePriceScore tools.log10 attrs product
  unfold scoreProduct
  rw [calculateWeightedConditionMatchScore_of_weighable h, ok_bind, hprice]
  refine ⟨_, rfl, ?_⟩
  constructor
  · exact ⟨rfl, rfl, rfl, rfl, rfl, rfl, rfl⟩
  · intro component hcomponent
    simp only [List.mem_cons, List.not_mem_nil, or_false] at hcomponent
    rcases hcomponent with rfl | rfl | rfl | rfl | rfl
    · exact round4_within htitle
    · exact round4_within (attributeScore_within hsimilarity)
    · exact round4_within (calculatePriceScore_within hprice)
    · exact round4_within (calculateNegativePenalty_within product)
    · exact round4_within ⟨le_max_left _ _, max_le zero_le_one (min_le_left _ _)⟩
  · exact ⟨language, rfl, rfl, rfl⟩

theorem scoreBest_sound (product : NormalizedAmazonProduct)
    (h : ∀ language, Weighable settings attrs language) (hsimilarity : similarity.Within) :
    ∃ score, scoreBest tools settings attrs product similarity = .ok score ∧
      Sound tools settings attrs product similarity score := by
  have hselected := attributeScore_selectAttributeLanguage settings attrs
    (attributeScore tools settings attrs product similarity)
  have htitle := max_within (hsimilarity similarity.titleScoreEn (by simp))
    (hsimilarity similarity.titleScoreJa (by simp))
  unfold scoreBest
  dsimp only
  rw [calculateWeightedConditionMatchScore_of_weighable (h .en), ok_bind,
    calculateWeightedConditionMatchScore_of_weighable (h .ja), ok_bind]
  obtain ⟨score, hscore, hsound⟩ := scoreProduct_sound (h _) htitle hsimilarity
  rw [hselected] at hscore
  exact ⟨score, hscore, hsound⟩

/-- Both languages are weighed for every product, whichever is shown. -/
theorem scoreBest_of_not_weighable (h : ¬ Weighable settings attrs language) :
    scoreBest tools settings attrs product similarity = .error .zeroDivision := by
  unfold scoreBest
  dsimp only
  cases language with
  | en =>
      rw [calculateWeightedConditionMatchScore_of_not_weighable h]
      rfl
  | ja =>
      by_cases hen : Weighable settings attrs .en
      · rw [calculateWeightedConditionMatchScore_of_weighable hen, ok_bind,
          calculateWeightedConditionMatchScore_of_not_weighable h]
        rfl
      · rw [calculateWeightedConditionMatchScore_of_not_weighable hen]
        rfl

/-! ## All scores -/

variable {products : List NormalizedAmazonProduct}

/-- Scores that are found for all products, in order. -/
theorem exists_scored (h : ∀ language, Weighable settings attrs language)
    {pairs : List (NormalizedAmazonProduct × TextSimilarity)}
    (hpairs : ∀ pair ∈ pairs, pair.2.Within) :
    ∃ scored, pairs.mapM (fun pair => scoreBest tools settings attrs pair.1 pair.2) = .ok scored ∧
      List.Forall₂ (fun pair score => Sound tools settings attrs pair.1 pair.2 score) pairs
        scored := by
  induction pairs with
  | nil => exact ⟨[], rfl, List.Forall₂.nil⟩
  | cons pair pairs ih =>
      obtain ⟨hpair, hrest⟩ := List.forall_mem_cons.mp hpairs
      obtain ⟨score, hscore, hsound⟩ := scoreBest_sound pair.1 h hpair
      obtain ⟨scored, hscored, hall⟩ := ih hrest
      refine ⟨score :: scored, ?_, List.Forall₂.cons hsound hall⟩
      rw [List.mapM_cons, hscore, ok_bind, hscored]
      rfl

/-- Sorting by falling scores keeps equal scores in order. -/
theorem mergeSort_ranking {scored : List ProductScore}
    (h : List.Forall₂ (fun pair score => Sound tools settings attrs pair.1 pair.2 score)
      (products.zip (textSimilarities tools settings attrs products)) scored) :
    Ranking tools settings attrs products
      (scored.mergeSort fun a b => decide (b.totalScore ≤ a.totalScore)) := by
  have htrans : ∀ a b c : ProductScore, decide (b.totalScore ≤ a.totalScore) = true →
      decide (c.totalScore ≤ b.totalScore) = true → decide (c.totalScore ≤ a.totalScore) = true := by
    intro a b c hab hbc
    simp only [decide_eq_true_eq] at hab hbc ⊢
    exact hbc.trans hab
  have htotal : ∀ a b : ProductScore, (decide (b.totalScore ≤ a.totalScore) ||
      decide (a.totalScore ≤ b.totalScore)) = true := by
    intro a b
    simpa using le_total b.totalScore a.totalScore
  constructor
  · rw [List.length_mergeSort, ← h.length_eq, List.length_zip, length_textSimilarities, min_self]
  · exact (List.pairwise_mergeSort htrans htotal scored).imp of_decide_eq_true
  · refine ⟨scored, h, List.mergeSort_perm scored _, fun total => ?_⟩
    apply filter_mergeSort htrans htotal
    apply List.pairwise_of_forall_mem_list
    intro a ha b hb
    have hta := of_decide_eq_true (List.mem_filter.mp ha).2
    have htb := of_decide_eq_true (List.mem_filter.mp hb).2
    exact decide_eq_true (htb.trans hta.symm).le

/-- The first product already raises where the terms of a language cannot be weighed. -/
theorem scoreProducts_of_not_weighable (h : ¬ Weighable settings attrs language)
    (hproducts : products ≠ []) :
    scoreProducts tools settings attrs products = .error .zeroDivision := by
  have hlength : (products.zip (textSimilarities tools settings attrs products)).length =
      products.length := by
    rw [List.length_zip, length_textSimilarities, min_self]
  unfold scoreProducts
  cases hpairs : products.zip (textSimilarities tools settings attrs products) with
  | nil =>
      rw [hpairs] at hlength
      exact absurd (List.length_eq_zero_iff.mp hlength.symm) hproducts
  | cons pair pairs =>
      rw [List.mapM_cons, scoreBest_of_not_weighable h]
      rfl

/-- Products are ranked exactly when there are none, or when the terms of both languages can be
weighed. -/
theorem scoreProducts_ranking_iff (tools : ScoringTools) (settings : ScoreSettings)
    (attrs : ProductAttributes) (products : List NormalizedAmazonProduct) :
    (∃ scores, scoreProducts tools settings attrs products = .ok scores ∧
      Ranking tools settings attrs products scores) ↔
    products = [] ∨ ∀ language, Weighable settings attrs language := by
  constructor
  · rintro ⟨scores, hscores, -⟩
    by_contra hnot
    obtain ⟨hproducts, hweighable⟩ := not_or.mp hnot
    obtain ⟨language, hlanguage⟩ := not_forall.mp hweighable
    rw [scoreProducts_of_not_weighable hlanguage hproducts] at hscores
    cases hscores
  · intro h
    obtain ⟨scored, hscored, hsound⟩ : ∃ scored,
        (products.zip (textSimilarities tools settings attrs products)).mapM
          (fun pair => scoreBest tools settings attrs pair.1 pair.2) = .ok scored ∧
        List.Forall₂ (fun pair score => Sound tools settings attrs pair.1 pair.2 score)
          (products.zip (textSimilarities tools settings attrs products)) scored := by
      rcases h with rfl | h
      · exact ⟨[], rfl, List.Forall₂.nil⟩
      · apply exists_scored h
        intro pair hpair
        exact textSimilarities_within (List.of_mem_zip hpair).2
    unfold scoreProducts
    rw [hscored, ok_bind]
    exact ⟨_, rfl, mergeSort_ranking hsound⟩

end Ranking

/-! ## Required terms without a weight -/

/-- Required terms have no weight, all others have one. -/
def unweightedRequired : ScoreSettings where
  titleScoreWeight := 45 / 100
  attributeScoreWeight := 35 / 100
  priceScoreWeight := 20 / 100
  requiredTermWeight := 0
  colorTermWeight := 3
  featureTermWeight := 2
  preferredTermWeight := 2
  relatedTermWeight := 1
  title_within := by norm_num
  attribute_within := by norm_num
  price_within := by norm_num
  scores_sum := by norm_num
  terms_sum := by decide

/-- A tokenizer that finds no Japanese words, and texts that are never similar. -/
def plainTools : ScoringTools where
  tokenize := fun _ => []
  cosineSimilarity := fun _ _ => none
  log10 := flatLog10

/-- A tent, where `tent` is required. -/
def requiredTent : ProductAttributes := { tentAttributes with requiredTermsEn := ["tent"] }

theorem requiredTent_not_weighable : ¬ Weighable unweightedRequired requiredTent .en := by
  decide

/-- The search for a tent divides by zero. -/
theorem scoreProducts_requiredTent_not_ranking :
    scoreProducts plainTools unweightedRequired requiredTent [oneYen] = .error .zeroDivision ∧
      ¬ ∃ scores, scoreProducts plainTools unweightedRequired requiredTent [oneYen] = .ok scores ∧
        Ranking plainTools unweightedRequired requiredTent [oneYen] scores := by
  have herror : scoreProducts plainTools unweightedRequired requiredTent [oneYen] =
      .error .zeroDivision :=
    scoreProducts_of_not_weighable requiredTent_not_weighable (List.cons_ne_nil _ _)
  refine ⟨herror, ?_⟩
  rintro ⟨scores, hscores, -⟩
  rw [herror] at hscores
  cases hscores

end AmazonSimilarSearch.Search
