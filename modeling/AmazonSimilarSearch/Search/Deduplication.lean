import AmazonSimilarSearch.Foundation.FirstOfKey
import AmazonSimilarSearch.Search.NumberLimits

/-!
# Which products are kept

`normalize_amazon_products_response` drops an item that is no product, and a
product whose key it has seen. One item with a number that is too large ends the
normalisation of all of them. The key is the first of four identifiers of
different kinds, but the set of seen keys does not know the kinds.
-/
namespace AmazonSimilarSearch.Search
open Foundation

/-! ## The loop over the items -/

/-- What becomes of an item, where nothing is raised. -/
def productOf (rate : ℤ) (item : Fields) : Option NormalizedAmazonProduct :=
  match normalizeProduct rate item with
  | .ok product => product
  | .error _ => none

/-- The products among the items, before any is dropped for its key. -/
def normalizable (rate : ℤ) (items : List Fields) : List NormalizedAmazonProduct :=
  items.filterMap (productOf rate)

theorem normalizable_append (rate : ℤ) (items items' : List Fields) :
    normalizable rate (items ++ items') = normalizable rate items ++ normalizable rate items' :=
  List.filterMap_append

/-- Where all items can be converted, the first product of every key is kept. -/
theorem normalizeItems_eq {rate : ℤ} {items : List Fields} {seen : List String}
    (h : ∀ item ∈ items, Convertible rate item) :
    normalizeItems rate seen items = .ok (firstOfKey dedupeKey seen (normalizable rate items)) := by
  induction items generalizing seen with
  | nil => rfl
  | cons item items ih =>
      obtain ⟨hitem, hrest⟩ := List.forall_mem_cons.mp h
      obtain ⟨product, hproduct⟩ := (normalizeProduct_returns_iff rate item).mpr hitem
      have hof : productOf rate item = product := by rw [productOf, hproduct]
      rw [normalizeItems, hproduct, ok_bind]
      cases product with
      | none =>
          rw [normalizable, List.filterMap_cons, hof]
          exact ih hrest
      | some product =>
          rw [normalizable, List.filterMap_cons, hof]
          dsimp only
          rw [firstOfKey]
          by_cases hseen : dedupeKey product ∈ seen
          · rw [if_pos hseen, if_pos hseen]
            exact ih hrest
          · rw [if_neg hseen, if_neg hseen, ih hrest]
            rfl

/-- The loop returns only when it can convert every item. -/
theorem convertible_of_normalizeItems {rate : ℤ} {items : List Fields} {seen : List String}
    {products : List NormalizedAmazonProduct} (h : normalizeItems rate seen items = .ok products) :
    ∀ item ∈ items, Convertible rate item := by
  induction items generalizing seen products with
  | nil => exact fun _ hitem => absurd hitem List.not_mem_nil
  | cons item items ih =>
      rw [normalizeItems, bind_eq_ok_iff] at h
      obtain ⟨product, hproduct, h⟩ := h
      have hitem := (normalizeProduct_returns_iff rate item).mp ⟨product, hproduct⟩
      refine List.forall_mem_cons.mpr ⟨hitem, ?_⟩
      cases product with
      | none => exact ih h
      | some product =>
          dsimp only at h
          split at h
          · exact ih h
          · rw [bind_eq_ok_iff] at h
            obtain ⟨rest, hrest, _⟩ := h
            exact ih hrest

/-! ## Bad items -/

/-- The values that may be items: the groups of the response, and what is in its lists. -/
def productValues (response : Fields) : List Json :=
  match getField response "data" with
  | .arr groups => groups.flatMap fun group => match group with
    | .arr items => items
    | group => [group]
  | _ => []

theorem dictItems_append (values values' : List Json) :
    dictItems (values ++ values') = dictItems values ++ dictItems values' :=
  List.filterMap_append

theorem iterProductItems_eq (response : Fields) :
    iterProductItems response = dictItems (productValues response) := by
  unfold iterProductItems productValues
  cases getField response "data" with
  | arr groups =>
      dsimp only
      induction groups with
      | nil => rfl
      | cons group groups ih =>
          rw [List.flatMap_cons, List.flatMap_cons, dictItems_append, ih]
          cases group with
          | obj fields => rfl
          | arr items => rfl
          | _ => rfl
  | _ => rfl

/-- The value is no dictionary that a product can be made of. -/
def Malformed (rate : ℤ) (value : Json) : Prop :=
  ∀ item, value = .obj item → ∀ product, normalizeProduct rate item ≠ .ok (some product)

/-- The response is normalised, and just as well without any of its malformed items. -/
structure Isolated (rate : ℤ) (response : Fields) : Prop where
  returns : ∃ products, normalizeAmazonProductsResponse rate response = .ok products
  removal : ∀ (response' : Fields) (before : List Json) (value : Json) (after : List Json),
    productValues response = before ++ value :: after →
    productValues response' = before ++ after → Malformed rate value →
      normalizeAmazonProductsResponse rate response' =
        normalizeAmazonProductsResponse rate response

theorem normalizeResponse_eq {rate : ℤ} {response : Fields}
    (h : ∀ item ∈ iterProductItems response, Convertible rate item) :
    normalizeAmazonProductsResponse rate response =
      .ok (firstOfKey dedupeKey [] (normalizable rate (iterProductItems response))) :=
  normalizeItems_eq h

/-- A malformed value makes no product. -/
theorem normalizable_of_malformed {rate : ℤ} {value : Json} (h : Malformed rate value) :
    normalizable rate (dictItems [value]) = [] := by
  cases value with
  | obj item =>
      have hnone : productOf rate item = none := by
        rw [productOf]
        split
        · rename_i product hproduct
          cases product with
          | none => rfl
          | some product => exact absurd hproduct (h item rfl product)
        · rfl
      rw [normalizable, dictItems, List.filterMap_cons]
      dsimp only
      rw [List.filterMap_nil, List.filterMap_cons, hnone, List.filterMap_nil]
  | _ => rfl

/-- The normalisation is total and keeps bad items apart exactly when no number of an item is too
large for the steps it goes through. -/
theorem normalizeAmazonProductsResponse_isolated_iff (rate : ℤ) (response : Fields) :
    Isolated rate response ↔ ∀ item ∈ iterProductItems response, Convertible rate item := by
  constructor
  · intro h
    obtain ⟨products, hproducts⟩ := h.returns
    exact convertible_of_normalizeItems hproducts
  · intro h
    refine ⟨⟨_, normalizeResponse_eq h⟩, ?_⟩
    intro response' before value after hsplit hsplit' hmalformed
    have hitems : iterProductItems response =
        dictItems before ++ (dictItems [value] ++ dictItems after) := by
      have hsingle : before ++ value :: after = before ++ ([value] ++ after) := rfl
      rw [iterProductItems_eq, hsplit, hsingle, dictItems_append, dictItems_append]
    have hitems' : iterProductItems response' = dictItems before ++ dictItems after := by
      rw [iterProductItems_eq, hsplit', dictItems_append]
    have h' : ∀ item ∈ iterProductItems response', Convertible rate item := by
      intro item hitem
      apply h
      rw [hitems'] at hitem
      rw [hitems]
      rw [List.mem_append] at hitem ⊢
      exact hitem.imp_right fun hmem => List.mem_append_right _ hmem
    rw [normalizeResponse_eq h, normalizeResponse_eq h', hitems, hitems', normalizable_append,
      normalizable_append, normalizable_append, normalizable_of_malformed hmalformed,
      List.nil_append]

/-- One item with a price of 401 digits ends the normalisation of the others. -/
theorem hugePrice_raises :
    normalizeAmazonProductsResponse 160
      [("data", .arr [.obj [("name", .str "lamp")],
        .obj [("name", .str "tent"), ("price_parsed", .int (10 ^ 400))]])] = .error .overflow ∧
    ∃ product, normalizeAmazonProductsResponse 160
      [("data", .arr [.obj [("name", .str "lamp")]])] = .ok [product] := by
  refine ⟨by decide +kernel, ⟨"amazon", none, "lamp", none, none, none, none, none, none, [], none,
    [], none, none, false, none, none, none, none, none⟩, by decide⟩

/-! ## Kinds of keys -/

/-- The identifiers that may key a product. -/
inductive KeyKind where
  | asin
  | shortUrl
  | productUrl
  | title
  deriving DecidableEq, Repr

/-- The identifier of a kind. -/
def identifier (product : NormalizedAmazonProduct) : KeyKind → Option String
  | .asin => product.asin
  | .shortUrl => product.shortUrl
  | .productUrl => product.productUrl
  | .title => some product.title

/-- The kind that keys the product. -/
def keyKind (product : NormalizedAmazonProduct) : KeyKind :=
  if product.asin.isSome then .asin
  else if product.shortUrl.isSome then .shortUrl
  else if product.productUrl.isSome then .productUrl
  else .title

/-- The key of the product together with its kind. -/
def typedKey (product : NormalizedAmazonProduct) : KeyKind × Option String :=
  (keyKind product, identifier product (keyKind product))

/-- The same kind keys both products, and they have the same identifier of it. -/
def SameProduct (product product' : NormalizedAmazonProduct) : Prop :=
  typedKey product = typedKey product'

/-- A product is dropped exactly when an earlier one that was kept is the same. -/
inductive KeepsFirst : List NormalizedAmazonProduct → List NormalizedAmazonProduct →
    List NormalizedAmazonProduct → Prop
  | nil (earlier : List NormalizedAmazonProduct) : KeepsFirst earlier [] []
  | drop {earlier products kept : List NormalizedAmazonProduct} {product : NormalizedAmazonProduct} :
      (∃ same ∈ earlier, SameProduct same product) → KeepsFirst earlier products kept →
        KeepsFirst earlier (product :: products) kept
  | keep {earlier products kept : List NormalizedAmazonProduct} {product : NormalizedAmazonProduct} :
      (¬ ∃ same ∈ earlier, SameProduct same product) →
        KeepsFirst (product :: earlier) products kept →
          KeepsFirst earlier (product :: products) (product :: kept)

/-- The products that are kept: in order, the first of the same ones, and no two the same. -/
structure Deduplicated (products kept : List NormalizedAmazonProduct) : Prop where
  first : KeepsFirst [] products kept
  order : kept.Sublist products
  apart : kept.Pairwise fun product product' => ¬ SameProduct product product'

/-- No two products have one key of two kinds. -/
def KindsApart (products : List NormalizedAmazonProduct) : Prop :=
  ∀ product ∈ products, ∀ product' ∈ products,
    dedupeKey product = dedupeKey product' → keyKind product = keyKind product'

theorem identifier_keyKind (product : NormalizedAmazonProduct) :
    identifier product (keyKind product) = some (dedupeKey product) := by
  unfold keyKind dedupeKey
  cases hasin : product.asin with
  | some asin => simp [identifier, hasin]
  | none =>
      cases hshort : product.shortUrl with
      | some shortUrl => simp [identifier, hshort]
      | none =>
          cases hurl : product.productUrl with
          | some productUrl => simp [identifier, hurl]
          | none => simp [identifier]

theorem typedKey_eq_iff {product product' : NormalizedAmazonProduct} :
    typedKey product = typedKey product' ↔
      keyKind product = keyKind product' ∧ dedupeKey product = dedupeKey product' := by
  rw [typedKey, typedKey, Prod.mk.injEq, identifier_keyKind, identifier_keyKind,
    Option.some.injEq]

theorem keepsFirst_iff {earlier products kept : List NormalizedAmazonProduct} :
    KeepsFirst earlier products kept ↔
      kept = firstOfKey typedKey (earlier.map typedKey) products := by
  induction products generalizing earlier kept with
  | nil =>
      constructor
      · intro h
        cases h
        rfl
      · intro h
        rw [h]
        exact .nil earlier
  | cons product products ih =>
      have hsame : (∃ same ∈ earlier, SameProduct same product) ↔
          typedKey product ∈ earlier.map typedKey := List.mem_map.symm
      rw [firstOfKey]
      constructor
      · intro h
        cases h with
        | drop hdrop hrest =>
            rw [if_pos (hsame.mp hdrop)]
            exact ih.mp hrest
        | keep hkeep hrest =>
            rw [if_neg fun hmem => hkeep (hsame.mpr hmem)]
            rw [ih.mp hrest]
            rfl
      · intro h
        by_cases hdrop : typedKey product ∈ earlier.map typedKey
        · rw [if_pos hdrop] at h
          exact .drop (hsame.mpr hdrop) (ih.mpr h)
        · rw [if_neg hdrop] at h
          rw [h]
          exact .keep (fun hmem => hdrop (hsame.mp hmem)) (ih.mpr rfl)

theorem deduplicated_iff {products kept : List NormalizedAmazonProduct} :
    Deduplicated products kept ↔ kept = firstOfKey typedKey [] products := by
  constructor
  · intro h
    exact keepsFirst_iff.mp h.first
  · intro h
    refine ⟨keepsFirst_iff.mpr h, ?_, ?_⟩
    · rw [h]
      exact firstOfKey_sublist typedKey [] products
    · rw [h]
      exact firstOfKey_pairwise typedKey [] products

/-- Keys without their kinds keep the same products exactly when no key has two kinds. -/
theorem firstOfKey_dedupeKey_iff (products : List NormalizedAmazonProduct) :
    firstOfKey dedupeKey [] products = firstOfKey typedKey [] products ↔ KindsApart products := by
  have hvalue (product : NormalizedAmazonProduct) :
      (typedKey product).2.getD "" = dedupeKey product := by
    rw [typedKey, identifier_keyKind]
    rfl
  have hcoarser := firstOfKey_coarser_iff typedKey
    (fun key : KeyKind × Option String => key.2.getD "") products
  simp only [hvalue] at hcoarser
  refine hcoarser.trans ?_
  constructor
  · intro h product hproduct product' hproduct' hkey
    exact (typedKey_eq_iff.mp (h product hproduct product' hproduct' hkey)).1
  · intro h product hproduct product' hproduct' hkey
    exact typedKey_eq_iff.mpr ⟨h product hproduct product' hproduct' hkey, hkey⟩

/-- The output is the products in order, each dropped exactly when an earlier one that was kept is
the same, if and only if the normalisation raises nothing and no key has two kinds. -/
theorem normalizeAmazonProductsResponse_deduplicated_iff (rate : ℤ) (response : Fields) :
    (∃ kept, normalizeAmazonProductsResponse rate response = .ok kept ∧
      Deduplicated (normalizable rate (iterProductItems response)) kept) ↔
    (∀ item ∈ iterProductItems response, Convertible rate item) ∧
      KindsApart (normalizable rate (iterProductItems response)) := by
  constructor
  · rintro ⟨kept, hkept, hdeduplicated⟩
    have hconvertible := convertible_of_normalizeItems hkept
    rw [normalizeResponse_eq hconvertible, Except.ok.injEq] at hkept
    refine ⟨hconvertible, (firstOfKey_dedupeKey_iff _).mp ?_⟩
    rw [hkept]
    exact deduplicated_iff.mp hdeduplicated
  · rintro ⟨hconvertible, hapart⟩
    refine ⟨_, normalizeResponse_eq hconvertible, deduplicated_iff.mpr ?_⟩
    exact (firstOfKey_dedupeKey_iff _).mpr hapart

/-- A product whose title is the ASIN of an earlier one is lost. -/
theorem titleOfAsin_dropped :
    ∃ product product', normalizeAmazonProductsResponse 160
      [("data", .arr [.obj [("name", .str "lamp"), ("asin", .str "X")],
        .obj [("name", .str "X")]])] = .ok [product] ∧
    normalizable 160 [[("name", .str "lamp"), ("asin", .str "X")], [("name", .str "X")]] =
      [product, product'] ∧ ¬ SameProduct product product' := by
  refine ⟨⟨"amazon", some "X", "lamp", none, none, none, none, none, none, [], none, [], none, none,
    false, none, none, none, none, none⟩, ⟨"amazon", none, "X", none, none, none, none, none, none,
    [], none, [], none, none, false, none, none, none, none, none⟩, by decide,
    by decide, ?_⟩
  intro h
  exact absurd (typedKey_eq_iff.mp h).1 (by decide)

end AmazonSimilarSearch.Search
