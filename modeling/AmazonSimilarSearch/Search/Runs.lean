import AmazonSimilarSearch.Foundation.Runs
import AmazonSimilarSearch.Search.Cache

/-!
# Concurrent product searches

Any number of calls of `run_product_search` share one cache directory. A call
reads a file, or puts a file in its place with one atomic replacement, in a
step of its own; between two steps of a call the others take theirs. What a
call gets from the network, whether a cached file is fresh, and which step
raises, is left to the environment.
-/
namespace AmazonSimilarSearch.Search
open Foundation

inductive SearchError where
  | valueError (message : String)
  /-- `AttributeError` of a file that is not an object -/
  | attributeError
  | normalizeError (error : NormalizeError)
  | outside
  deriving DecidableEq, Repr

structure SearchRequest where
  userInput : String
  useCache : Bool
  cacheScope : String

/-- `validate_search_query` -/
def validateSearchQuery (query : String) : Except SearchError String := do
  ensure (query ≠ "") (.valueError "Search query must not be empty.")
  ensure (¬ (query.startsWith "http://" || query.startsWith "https://"))
    (.valueError "Pass a search query instead of an Amazon URL.")
  pure query

/-- `select_outscraper_query` -/
def selectOutscraperQuery (attrs : ProductAttributes) : Except SearchError String :=
  match attrs.searchQueriesJa with
  | query :: _ => validateSearchQuery query
  | [] => match attrs.searchQueriesEn with
    | query :: _ => validateSearchQuery query
    | [] => validateSearchQuery attrs.estimatedProductNameJa

/-- What a call does next, with the local variables it has by then. -/
inductive Stage (Score : Type) where
  | loadingAttributes
  | extracting
  | storingAttributes (attrs : ProductAttributes)
  | loadingResponse (attrs : ProductAttributes) (query : String)
  | fetching (attrs : ProductAttributes) (query : String)
  | storingResponse (attrs : ProductAttributes) (query : String) (data : Json)
  | readingResponse (attrs : ProductAttributes) (query : String)
  | loadingProducts (attrs : ProductAttributes) (query : String) (rawResponse : Fields)
  | normalizing (attrs : ProductAttributes) (query : String) (rawResponse : Fields)
  | storingProducts (attrs : ProductAttributes) (rawResponse : Fields)
      (products : List NormalizedAmazonProduct)
  | loadingScores (attrs : ProductAttributes) (rawResponse : Fields)
      (products : List NormalizedAmazonProduct)
  | storingScores (attrs : ProductAttributes) (rawResponse : Fields) (scores : List Score)
  | returned (scores : List Score)
  | raised (error : SearchError)

structure SearchRun (Score : Type) where
  normalizedInput : String
  normalizedScope : String
  cacheEnabled : Bool
  stage : Stage Score

/-- What happens to a call in one step. -/
inductive SearchEvent where
  /-- `repository.load`; the file counts when it is fresh and can be read -/
  | loads (readable : Bool)
  /-- `call_bonsai` and `extract_product_attributes` -/
  | extracts (attrs : ProductAttributes)
  /-- `fetch_amazon_products` -/
  | fetches (data : Json)
  /-- `temporary_path.replace(path)` at the end of `write_json` -/
  | replaces
  /-- `read_json` -/
  | reads
  | raises

section
variable (H : HashFunction) (settings : Settings) {Key : Type} [DecidableEq Key]
  (keys : CacheKeys Key) {Score : Type}
  (scoreProducts : ProductAttributes → List NormalizedAmazonProduct → Option (List Score))

def SearchRun.start (request : SearchRequest) : SearchRun Score :=
  let normalizedInput := strip request.userInput
  let normalizedScope := strip request.cacheScope
  { normalizedInput, normalizedScope
    cacheEnabled := settings.enableCache && request.useCache
    stage :=
      if normalizedInput = "" then .raised (.valueError "検索条件を入力してください。")
      else if normalizedScope = "" ∨ 128 < normalizedScope.length then
        .raised (.valueError "Cache scope must contain between 1 and 128 characters.")
      else .loadingAttributes }

/-- Step 2 of the search. -/
def selectQuery (attrs : ProductAttributes) : Stage Score :=
  match selectOutscraperQuery attrs with
  | .ok query => .loadingResponse attrs query
  | .error error => .raised error

/-- Step 4 of the search, when there are no cached scores. -/
def scoring (attrs : ProductAttributes) (rawResponse : Fields)
    (products : List NormalizedAmazonProduct) : Stage Score :=
  match scoreProducts attrs products with
  | some scores => .storingScores attrs rawResponse scores
  | none => .raised .outside

/-- What `repository.load` gives to the call. -/
def SearchRun.cached {α : Type} (run : SearchRun Score) (readable : Bool) (file : Option α) :
    Option α :=
  if run.cacheEnabled && readable then file else none

def SearchRun.productsSource (run : SearchRun Score) (rawResponse : Fields) : ProductsSource :=
  ⟨run.normalizedScope, rawResponse⟩

def SearchRun.attributesKey (run : SearchRun Score) : Key :=
  buildAttributesCacheKey H settings keys run.normalizedInput run.normalizedScope

def SearchRun.responseKey (run : SearchRun Score) (query : String) : Key :=
  buildOutscraperCacheKey settings keys query run.normalizedScope

def SearchRun.productsKey (run : SearchRun Score) (rawResponse : Fields) : Key :=
  buildNormalizedCacheKey settings keys (run.productsSource rawResponse)

def SearchRun.scoresKey (run : SearchRun Score) (attrs : ProductAttributes)
    (rawResponse : Fields) : Key :=
  buildScoredCacheKey settings keys ⟨attrs, run.productsSource rawResponse⟩

/-- `repository.load` at each of the four steps. -/
def SearchRun.load (run : SearchRun Score) (cache : Cache Key Score) (readable : Bool) :
    Stage Score :=
  match run.stage with
  | .loadingAttributes =>
      match run.cached readable (cache.attributes (run.attributesKey H settings keys)) with
      | some attrs => selectQuery attrs
      | none => .extracting
  | .loadingResponse attrs query =>
      match run.cached readable (cache.raw (run.responseKey settings keys query)) with
      | some (.obj rawResponse) => .loadingProducts attrs query rawResponse
      | _ => .fetching attrs query
  | .loadingProducts attrs query rawResponse =>
      match run.cached readable (cache.normalized (run.productsKey settings keys rawResponse)) with
      | some products => .loadingScores attrs rawResponse products
      | none => .normalizing attrs query rawResponse
  | .loadingScores attrs rawResponse products =>
      match run.cached readable (cache.scored (run.scoresKey settings keys attrs rawResponse)) with
      | some scores => .returned scores
      | none => scoring scoreProducts attrs rawResponse products
  | stage => stage

/-- The two places that read the raw file: after `call_outscraper`, and in `normalize`. -/
def SearchRun.read (run : SearchRun Score) (cache : Cache Key Score) : Stage Score :=
  match run.stage with
  | .readingResponse attrs query =>
      match cache.raw (run.responseKey settings keys query) with
      | some (.obj rawResponse) => .loadingProducts attrs query rawResponse
      | some _ => .raised (.valueError "Outscraper cache must contain a JSON object.")
      | none => .raised .outside
  | .normalizing attrs query rawResponse =>
      match cache.raw (run.responseKey settings keys query) with
      | some (.obj response) =>
          match normalizeAmazonProductsResponse settings.usdToJpyRate response with
          | .ok products => .storingProducts attrs rawResponse products
          | .error error => .raised (.normalizeError error)
      | some _ => .raised .attributeError
      | none => .raised .outside
  | stage => stage

/-- The end of `write_json`: what the call does next, and the cache with the file replaced. -/
def SearchRun.replace (run : SearchRun Score) (cache : Cache Key Score) :
    Stage Score × Cache Key Score :=
  match run.stage with
  | .storingAttributes attrs => (selectQuery attrs, { cache with
      attributes := Function.update cache.attributes (run.attributesKey H settings keys)
        (some attrs) })
  | .storingResponse attrs query data => (.readingResponse attrs query, { cache with
      raw := Function.update cache.raw (run.responseKey settings keys query) (some data) })
  | .storingProducts attrs rawResponse products => (.loadingScores attrs rawResponse products,
      { cache with
        normalized := Function.update cache.normalized
          (run.productsKey settings keys rawResponse) (some products) })
  | .storingScores attrs rawResponse scores => (.returned scores, { cache with
      scored := Function.update cache.scored (run.scoresKey settings keys attrs rawResponse)
        (some scores) })
  | stage => (stage, cache)

def SearchRun.raise (run : SearchRun Score) : Stage Score :=
  match run.stage with
  | .returned scores => .returned scores
  | .raised error => .raised error
  | _ => .raised .outside

/-- One step of a call, with the cache it shares. A step that the call is not at changes
nothing. -/
def SearchRun.step (run : SearchRun Score) (cache : Cache Key Score) :
    SearchEvent → Stage Score × Cache Key Score
  | .loads readable => (run.load H settings keys scoreProducts cache readable, cache)
  | .extracts attrs => match run.stage with
    | .extracting => (.storingAttributes attrs, cache)
    | stage => (stage, cache)
  | .fetches data => match run.stage with
    | .fetching attrs query => (.storingResponse attrs query data, cache)
    | stage => (stage, cache)
  | .replaces => run.replace H settings keys cache
  | .reads => (run.read settings keys cache, cache)
  | .raises => (run.raise, cache)

structure SearchSystem (Key Score : Type) where
  cache : Cache Key Score
  runs : List (SearchRun Score)

inductive SearchOp where
  | begins (request : SearchRequest)
  | happens (index : ℕ) (event : SearchEvent)

def SearchSystem.step (system : SearchSystem Key Score) : SearchOp → SearchSystem Key Score
  | .begins request => { system with runs := system.runs ++ [.start settings request] }
  | .happens index event => match system.runs[index]? with
    | some run =>
        let next := run.step H settings keys scoreProducts system.cache event
        ⟨next.2, system.runs.set index { run with stage := next.1 }⟩
    | none => system

def SearchSystem.initial : SearchSystem Key Score := ⟨.empty, []⟩

def SearchSystem.run (ops : List SearchOp) : SearchSystem Key Score :=
  ops.foldl (SearchSystem.step H settings keys scoreProducts) .initial

end

/-! ## What the files hold -/

section
variable (settings : Settings) {Key : Type} (keys : CacheKeys Key) {Score : Type}
  (scoreProducts : ProductAttributes → List NormalizedAmazonProduct → Option (List Score))

def ProductsComputed (source : ProductsSource) (products : List NormalizedAmazonProduct) : Prop :=
  normalizeAmazonProductsResponse settings.usdToJpyRate source.rawResponse = .ok products

def ScoresComputed (source : ScoresSource) (scores : List Score) : Prop :=
  ∃ products, ProductsComputed settings source.products products ∧
    scoreProducts source.attrs products = some scores

/-- Every normalised file holds the products of the response its name was computed from, and
every scored file the scores of the attributes and the products its name was computed from. -/
def ContentAddressed (cache : Cache Key Score) : Prop :=
  Addressed (buildNormalizedCacheKey settings keys) (ProductsComputed settings) cache.normalized ∧
    Addressed (buildScoredCacheKey settings keys) (ScoresComputed settings scoreProducts)
      cache.scored

/-- What a call has in hand was computed from the response that it names its files by. -/
def SearchRun.Sound (run : SearchRun Score) : Prop :=
  match run.stage with
  | .storingProducts _ rawResponse products | .loadingScores _ rawResponse products =>
      ProductsComputed settings (run.productsSource rawResponse) products
  | .storingScores attrs rawResponse scores =>
      ScoresComputed settings scoreProducts ⟨attrs, run.productsSource rawResponse⟩ scores
  | _ => True

/-- When `normalize` reads the raw file again, the file still gives the products of the response
that the call has named them by. -/
def SearchRun.RereadsProducts (run : SearchRun Score) (cache : Cache Key Score) : Prop :=
  match run.stage with
  | .normalizing _ query rawResponse =>
      ∀ response products, cache.raw (run.responseKey settings keys query) = some (.obj response) →
        ProductsComputed settings (run.productsSource response) products →
          ProductsComputed settings (run.productsSource rawResponse) products
  | _ => True

/-- The condition on one step of the system. -/
def SearchSystem.Rereads (system : SearchSystem Key Score) : SearchOp → Prop
  | .happens index .reads => ∀ run, system.runs[index]? = some run →
      run.RereadsProducts settings keys system.cache
  | _ => True

end

section
variable {H : HashFunction} {settings : Settings} {Key : Type} [DecidableEq Key]
  {keys : CacheKeys Key} {Score : Type}
  {scoreProducts : ProductAttributes → List NormalizedAmazonProduct → Option (List Score)}

omit [DecidableEq Key] in
theorem contentAddressed_empty :
    ContentAddressed settings keys scoreProducts (Cache.empty : Cache Key Score) :=
  ⟨addressed_empty, addressed_empty⟩

/-- A call that goes on to the response has no products yet. -/
theorem sound_selectQuery (run : SearchRun Score) (attrs : ProductAttributes) :
    { run with stage := selectQuery attrs }.Sound settings scoreProducts := by
  unfold selectQuery
  cases selectOutscraperQuery attrs <;> trivial

theorem sound_scoring {run : SearchRun Score} (attrs : ProductAttributes) {rawResponse : Fields}
    {products : List NormalizedAmazonProduct}
    (h : ProductsComputed settings (run.productsSource rawResponse) products) :
    { run with stage := scoring scoreProducts attrs rawResponse products }.Sound settings
      scoreProducts := by
  unfold scoring
  cases hscores : scoreProducts attrs products with
  | none => trivial
  | some scores => exact ⟨products, h, hscores⟩

/-- A file that is loaded is one that is there. -/
theorem of_cached {α : Type} {run : SearchRun Score} {readable : Bool} {file : Option α} {a : α}
    (h : run.cached readable file = some a) : file = some a := by
  unfold SearchRun.cached at h
  split at h
  · exact h
  · cases h

omit [DecidableEq Key] in
theorem sound_load {run : SearchRun Score} {cache : Cache Key Score}
    (hcache : ContentAddressed settings keys scoreProducts cache)
    (hrun : run.Sound settings scoreProducts) (readable : Bool) :
    { run with stage := run.load H settings keys scoreProducts cache readable }.Sound settings
      scoreProducts := by
  unfold SearchRun.load
  cases hstage : run.stage with
  | loadingAttributes =>
      dsimp only
      split
      · exact sound_selectQuery run _
      · trivial
  | loadingResponse attrs query =>
      dsimp only
      split <;> trivial
  | loadingProducts attrs query rawResponse =>
      dsimp only
      split
      · next products hproducts => exact hcache.1.computes (of_cached hproducts)
      · trivial
  | loadingScores attrs rawResponse products =>
      rw [SearchRun.Sound, hstage] at hrun
      dsimp only
      split
      · trivial
      · exact sound_scoring attrs hrun
  | storingProducts attrs rawResponse products =>
      rw [SearchRun.Sound, hstage] at hrun
      exact hrun
  | storingScores attrs rawResponse scores =>
      rw [SearchRun.Sound, hstage] at hrun
      exact hrun
  | _ => trivial

omit [DecidableEq Key] in
theorem sound_read {run : SearchRun Score} {cache : Cache Key Score}
    (hrun : run.Sound settings scoreProducts) (hreads : run.RereadsProducts settings keys cache) :
    { run with stage := run.read settings keys cache }.Sound settings scoreProducts := by
  unfold SearchRun.read
  cases hstage : run.stage with
  | readingResponse attrs query =>
      dsimp only
      split <;> trivial
  | normalizing attrs query rawResponse =>
      rw [SearchRun.RereadsProducts, hstage] at hreads
      dsimp only
      split
      · next response hresponse =>
        split
        · next products hproducts => exact hreads response products hresponse hproducts
        · trivial
      · trivial
      · trivial
  | storingProducts attrs rawResponse products =>
      rw [SearchRun.Sound, hstage] at hrun
      exact hrun
  | loadingScores attrs rawResponse products =>
      rw [SearchRun.Sound, hstage] at hrun
      exact hrun
  | storingScores attrs rawResponse scores =>
      rw [SearchRun.Sound, hstage] at hrun
      exact hrun
  | _ => trivial

/-- A replacement puts a file under the name of what it was computed from. -/
theorem sound_replace {run : SearchRun Score} {cache : Cache Key Score}
    (hcache : ContentAddressed settings keys scoreProducts cache)
    (hrun : run.Sound settings scoreProducts) :
    { run with stage := (run.replace H settings keys cache).1 }.Sound settings scoreProducts ∧
      ContentAddressed settings keys scoreProducts (run.replace H settings keys cache).2 := by
  unfold SearchRun.replace
  cases hstage : run.stage with
  | storingAttributes attrs => exact ⟨sound_selectQuery run attrs, hcache⟩
  | storingResponse attrs query data => exact ⟨trivial, hcache⟩
  | storingProducts attrs rawResponse products =>
      rw [SearchRun.Sound, hstage] at hrun
      exact ⟨hrun, hcache.1.update hrun, hcache.2⟩
  | storingScores attrs rawResponse scores =>
      rw [SearchRun.Sound, hstage] at hrun
      exact ⟨trivial, hcache.1, hcache.2.update hrun⟩
  | loadingScores attrs rawResponse products =>
      rw [SearchRun.Sound, hstage] at hrun
      exact ⟨hrun, hcache⟩
  | _ => exact ⟨trivial, hcache⟩

theorem sound_raise (run : SearchRun Score) :
    { run with stage := run.raise }.Sound settings scoreProducts := by
  unfold SearchRun.raise
  cases run.stage <;> trivial

/-- One step of a call keeps the cache content-addressed. -/
theorem sound_step {run : SearchRun Score} {cache : Cache Key Score}
    (hcache : ContentAddressed settings keys scoreProducts cache)
    (hrun : run.Sound settings scoreProducts) {event : SearchEvent}
    (hreads : event = .reads → run.RereadsProducts settings keys cache) :
    let next := run.step H settings keys scoreProducts cache event
    { run with stage := next.1 }.Sound settings scoreProducts ∧
      ContentAddressed settings keys scoreProducts next.2 := by
  cases event with
  | loads readable => exact ⟨sound_load hcache hrun readable, hcache⟩
  | extracts attrs =>
      simp only [SearchRun.step]
      split
      · exact ⟨trivial, hcache⟩
      · exact ⟨hrun, hcache⟩
  | fetches data =>
      simp only [SearchRun.step]
      split
      · exact ⟨trivial, hcache⟩
      · exact ⟨hrun, hcache⟩
  | replaces => exact sound_replace hcache hrun
  | reads => exact ⟨sound_read hrun (hreads rfl), hcache⟩
  | raises => exact ⟨sound_raise run, hcache⟩

/-- The invariant of the system. -/
def SearchSystem.Sound (settings : Settings) (keys : CacheKeys Key)
    (scoreProducts : ProductAttributes → List NormalizedAmazonProduct → Option (List Score))
    (system : SearchSystem Key Score) : Prop :=
  ContentAddressed settings keys scoreProducts system.cache ∧
    ∀ run ∈ system.runs, run.Sound settings scoreProducts

theorem sound_start (request : SearchRequest) :
    (SearchRun.start settings request).Sound settings scoreProducts := by
  unfold SearchRun.start
  dsimp only
  split_ifs <;> trivial

theorem SearchSystem.Sound.step {system : SearchSystem Key Score} {op : SearchOp}
    (h : system.Sound settings keys scoreProducts) (hop : system.Rereads settings keys op) :
    (system.step H settings keys scoreProducts op).Sound settings keys scoreProducts := by
  obtain ⟨hcache, hruns⟩ := h
  cases op with
  | begins request =>
      refine ⟨hcache, fun run hrun => ?_⟩
      rcases List.mem_append.mp hrun with hrun | hrun
      · exact hruns run hrun
      · rw [List.mem_singleton.mp hrun]
        exact sound_start request
  | happens index event =>
      simp only [SearchSystem.step]
      cases hindex : system.runs[index]? with
      | none => exact ⟨hcache, hruns⟩
      | some run =>
          have hrun := hruns run (List.mem_of_getElem? hindex)
          have hreads : event = .reads → run.RereadsProducts settings keys system.cache := by
            rintro rfl
            exact hop run hindex
          obtain ⟨hnext, hcache'⟩ := sound_step (H := H) hcache hrun hreads
          refine ⟨hcache', fun other hother => ?_⟩
          rcases List.mem_or_eq_of_mem_set hother with hother | rfl
          · exact hruns other hother
          · exact hnext

/-- However many searches share the cache: as long as no call re-reads a raw file that another
call has replaced by an answer with other products, every file holds what its name says. -/
theorem runProductSearch_contentAddressed (ops : List SearchOp)
    (h : AlongRun (SearchSystem.step H settings keys scoreProducts)
      (SearchSystem.Rereads settings keys) .initial ops) :
    ContentAddressed settings keys scoreProducts
      (SearchSystem.run H settings keys scoreProducts ops).cache := by
  have hinitial : SearchSystem.Sound settings keys scoreProducts
      (SearchSystem.initial : SearchSystem Key Score) :=
    ⟨contentAddressed_empty, by intro run hrun; cases hrun⟩
  exact (foldl_invariant_along (fun _ _ hs hop => hs.step hop) ops _ hinitial h).1

end

/-! ## A search that another one overtakes -/

def tentAttributes : ProductAttributes where
  estimatedProductNameJa := "tent"
  estimatedProductNameEn := none
  categoryJa := none
  categoryEn := none
  colorJa := none
  colorEn := none
  featuresJa := []
  featuresEn := []
  negativeConditionsJa := []
  negativeConditionsEn := []
  searchQueriesJa := []
  searchQueriesEn := []
  requiredTermsJa := []
  requiredTermsEn := []
  preferredTermsJa := []
  preferredTermsEn := []
  relatedTermsJa := []
  relatedTermsEn := []
  pricePreference := none
  minPriceJpy := none
  maxPriceJpy := none
  targetPriceJpy := none
  expectedPriceMinJpy := none
  expectedPriceMaxJpy := none

def defaultSettings : Settings where
  bonsaiBaseUrl := "http://127.0.0.1:8080/v1"
  bonsaiModel := "Bonsai-8B.gguf"
  bonsaiTemperature := .ofDecimal false 1 (-1)
  bonsaiMaxTokens := 1000
  bonsaiPrompt := ""
  outscraperEndpoint := "https://api.outscraper.cloud/amazon-products"
  outscraperDomain := "amazon.co.jp"
  outscraperLanguage := "ja"
  outscraperPostalCode := "100-0001"
  outscraperLimit := 100
  usdToJpyRate := 160
  titleScoreWeight := .ofDecimal false 45 (-2)
  attributeScoreWeight := .ofDecimal false 35 (-2)
  priceScoreWeight := .ofDecimal false 20 (-2)
  requiredTermWeight := 4
  colorTermWeight := 3
  featureTermWeight := 2
  preferredTermWeight := 2
  relatedTermWeight := 1
  enableCache := true

def tentRequest : SearchRequest := ⟨"tent", true, "local-cli"⟩

def oneProduct : Fields := [("data", .arr [.obj [("name", .str "A")]])]
def noProducts : Fields := [("data", .arr [])]

/-- A search up to the point where the raw file holds its answer. -/
def searchEvents (response : Fields) : List SearchEvent :=
  [.loads true, .extracts tentAttributes, .replaces, .loads true, .fetches (.obj response),
    .replaces]

/-- The rest of a search that finds nothing more in the cache. -/
def finishEvents : List SearchEvent :=
  [.reads, .loads true, .reads, .replaces, .loads true, .replaces]

theorem select_tent : selectOutscraperQuery tentAttributes = .ok "tent" := by
  rfl

theorem normalize_noProducts : normalizeAmazonProductsResponse 160 noProducts = .ok [] := by
  rfl

def tentSearch {Score : Type} (cacheEnabled : Bool) (stage : Stage Score) : SearchRun Score :=
  ⟨"tent", "local-cli", cacheEnabled, stage⟩

theorem start_tent {Score : Type} (useCache : Bool) :
    SearchRun.start defaultSettings ⟨"tent", useCache, "local-cli"⟩ =
      (tentSearch useCache .loadingAttributes : SearchRun Score) := by
  have hinput : strip "tent" = "tent" := by decide
  have hscope : strip "local-cli" = "local-cli" := by decide
  have hlength : ¬ 128 < "local-cli".length := by decide
  have hnonempty : "tent" ≠ "" ∧ "local-cli" ≠ "" := by decide
  simp only [SearchRun.start, tentSearch, hinput, hscope, defaultSettings, Bool.true_and,
    hnonempty, hlength, if_false, or_self]

def loneOps : List SearchOp :=
  .begins tentRequest :: (searchEvents oneProduct ++ finishEvents).map (SearchOp.happens 0)

/-- The first search has named its products when a second one, of the same query and without the
cache, replaces the raw file. -/
def overtakenOps : List SearchOp :=
  [.begins tentRequest, .begins { tentRequest with useCache := false }] ++
    (searchEvents oneProduct ++ [SearchEvent.reads, SearchEvent.loads true]).map
      (SearchOp.happens 0) ++
    (searchEvents noProducts).map (SearchOp.happens 1) ++
    [SearchEvent.reads, SearchEvent.replaces].map (SearchOp.happens 0)

section
variable (H : HashFunction) {Key : Type} [DecidableEq Key] (keys : CacheKeys Key) {Score : Type}
  (scoreProducts : ProductAttributes → List NormalizedAmazonProduct → Option (List Score))

theorem lone_rereads :
    AlongRun (SearchSystem.step H defaultSettings keys scoreProducts)
      (SearchSystem.Rereads defaultSettings keys) .initial loneOps := by
  simp only [loneOps, searchEvents, finishEvents, List.cons_append, List.nil_append,
    List.map_cons, List.map_nil, AlongRun, SearchSystem.Rereads, SearchSystem.step,
    SearchSystem.initial, List.getElem?_cons_zero, Option.some.injEq, forall_eq', tentRequest,
    start_tent, tentSearch, SearchRun.step, SearchRun.load, SearchRun.cached, Cache.empty,
    SearchRun.replace, selectQuery, select_tent, SearchRun.read, SearchRun.responseKey,
    SearchRun.RereadsProducts, SearchRun.productsKey, SearchRun.productsSource, List.set_cons_zero,
    Function.update_self, Bool.and_self, if_true, true_and, and_true]
  rintro _ products ⟨⟩ hproducts
  exact hproducts

/-- The file named by the first answer holds the products of the second one. -/
theorem overtaken_file :
    (SearchSystem.run H defaultSettings keys scoreProducts overtakenOps).cache.normalized
      (buildNormalizedCacheKey defaultSettings keys ⟨"local-cli", oneProduct⟩) = some [] := by
  have hrate : defaultSettings.usdToJpyRate = 160 := rfl
  simp [overtakenOps, searchEvents, SearchSystem.run, SearchSystem.step, SearchSystem.initial,
    tentRequest, start_tent, tentSearch, SearchRun.step, SearchRun.load, SearchRun.cached,
    Cache.empty, SearchRun.replace, selectQuery, select_tent, SearchRun.read,
    SearchRun.responseKey, SearchRun.productsKey, SearchRun.productsSource, hrate,
    normalize_noProducts]

theorem not_contentAddressed_overtaken :
    ¬ ContentAddressed defaultSettings keys scoreProducts
      (SearchSystem.run H defaultSettings keys scoreProducts overtakenOps).cache := by
  intro h
  have hcomputed := h.1.computes (overtaken_file H keys scoreProducts)
  have hone : normalizeAmazonProductsResponse 160 oneProduct ≠ .ok [] := by decide
  exact hone hcomputed

end

def plainKeys : CacheKeys Json := ⟨.refl _, .refl _⟩

def titlesOnly (_ : ProductAttributes) (products : List NormalizedAmazonProduct) :
    Option (List String) :=
  some (products.map NormalizedAmazonProduct.title)

open Classical in
theorem lone_search_contentAddressed :
    ContentAddressed defaultSettings plainKeys titlesOnly
      (SearchSystem.run sha256 defaultSettings plainKeys titlesOnly loneOps).cache :=
  runProductSearch_contentAddressed loneOps (lone_rereads _ plainKeys titlesOnly)

open Classical in
theorem overtaken_search_stale :
    ¬ ContentAddressed defaultSettings plainKeys titlesOnly
      (SearchSystem.run sha256 defaultSettings plainKeys titlesOnly overtakenOps).cache :=
  not_contentAddressed_overtaken _ plainKeys titlesOnly

end AmazonSimilarSearch.Search
