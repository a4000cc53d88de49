import AmazonSimilarSearch.Outscraper.Polling

/-!
# Searches keep to the protocol

A whole search, from the first request to its result: where the API key goes,
how many requests there are, and how the search can end. The effects between
the requests can end it too, and a wait that the system cannot represent does.
-/
namespace AmazonSimilarSearch.Outscraper
open Foundation

/-- Settings that the argument checks let through. -/
structure AcceptedArguments extends Arguments where
  accepted : toArguments.Accepted

/-- The search ends with a result, or with one of the errors of the client. -/
def EndsAsDocumented (arguments : Arguments) (result : Except OutscraperError Fields)
    (exchanges : List Exchange) : Prop :=
  match result with
  | .ok data => Completed data
  | .error (.taskFailedError status data) => FailedAnswer status data exchanges
  | .error (.taskTimeoutError count location _) => count = arguments.maxPolls ∧
      ∃ first polled, exchanges = first ++ polled ∧
        PendingPolls (httpRequest arguments location none) arguments.maxPolls.toNat polled
  | .error (.requestError _) | .error (.responseError _) | .error (.securityError _) => True
  | .error (.valueError _) | .error (.effectError _) => False

/-- What holds of a search, its result and the exchanges it made. -/
structure KeepsProtocol (checkNetloc : String → Bool) (env : Environment) (arguments : Arguments)
    (result : Except OutscraperError Fields) (exchanges : List Exchange) : Prop where
  /-- the API key goes to the origin of the endpoint only, over https -/
  keyed : ∀ exchange ∈ exchanges, exchange.request.apiKey = arguments.apiKey ∧
    (exchange.request.url = arguments.endpoint ∨
      SameOrigin checkNetloc arguments.endpoint exchange.request.url)
  secure : ∀ exchange ∈ exchanges, ∃ origin, HttpsOrigin checkNetloc exchange.request.url origin
  notRedirected : ∀ exchange ∈ exchanges, exchange.request.allowRedirects = false
  nothingAfterRedirect : NothingAfterRedirect exchanges
  bounded : (exchanges.length : ℤ) ≤ arguments.maxAttempts * (1 + arguments.maxPolls)
  ends : EndsAsDocumented arguments result exchanges ∨
    ∃ effect, result = .error (.effectError effect) ∧ ∃ log, env.raises log effect = true

section
variable {checkNetloc : String → Bool} {env : Environment} {arguments : Arguments}

theorem ends_of_ofRequest {error : OutscraperError} (exchanges : List Exchange)
    (h : error.OfRequest env) : EndsAsDocumented arguments (.error error) exchanges ∨
      ∃ effect, (.error error : Except OutscraperError Fields) = .error (.effectError effect) ∧
        ∃ log, env.raises log effect = true := by
  cases error with
  | requestError message => exact .inl trivial
  | responseError message => exact .inl trivial
  | securityError message => exact .inl trivial
  | effectError effect => exact .inr ⟨effect, rfl, h⟩
  | taskFailedError status data => exact h.elim
  | taskTimeoutError count location last => exact h.elim
  | valueError message => exact h.elim

/-- Nothing was asked of the network. -/
theorem keepsProtocol_nil (h : arguments.Accepted) {error : OutscraperError}
    (herror : error.OfRequest env) :
    KeepsProtocol checkNetloc env arguments (.error error) [] where
  keyed := by simp
  secure := by simp
  notRedirected := by simp
  nothingAfterRedirect := by simp [NothingAfterRedirect]
  bounded := by
    have hattempts := h.maxAttempts
    have hpolls := h.maxPolls
    rw [List.length_nil, Nat.cast_zero]
    exact mul_nonneg (by omega) (by omega)
  ends := ends_of_ofRequest [] herror

/-- The first request, when nothing follows it. -/
theorem keepsProtocol_of_request (h : arguments.Accepted) {params : Option (List (String × Json))}
    {answer result : Except OutscraperError Fields} {exchanges : List Exchange}
    (hendpoint : ∃ origin, HttpsOrigin checkNetloc arguments.endpoint origin)
    (hends : RequestEnds env (httpRequest arguments arguments.endpoint params)
      arguments.attemptLimit answer exchanges)
    (hresult : EndsAsDocumented arguments result exchanges ∨
      ∃ effect, result = .error (.effectError effect) ∧ ∃ log, env.raises log effect = true) :
    KeepsProtocol checkNetloc env arguments result exchanges where
  keyed := by
    intro exchange hexchange
    rw [hends.sent exchange hexchange]
    exact ⟨rfl, .inl rfl⟩
  secure := by
    intro exchange hexchange
    rw [hends.sent exchange hexchange]
    exact hendpoint
  notRedirected := by
    intro exchange hexchange
    rw [hends.sent exchange hexchange]
    rfl
  nothingAfterRedirect := by
    cases answer with
    | ok data => exact nothingAfterRedirect_of_forall (hends.answered data rfl).1
    | error error => exact (hends.raised error rfl).1
  bounded := by
    have hlength := hends.length_le
    have hattempts := h.maxAttempts
    have hpolls := h.maxPolls
    have hlimit : (arguments.attemptLimit : ℤ) = arguments.maxAttempts :=
      Int.toNat_of_nonneg (by omega)
    calc (exchanges.length : ℤ)
        ≤ arguments.attemptLimit := by exact_mod_cast hlength
      _ = arguments.maxAttempts * 1 := by rw [hlimit, mul_one]
      _ ≤ arguments.maxAttempts * (1 + arguments.maxPolls) :=
          mul_le_mul_of_nonneg_left (by omega) (by omega)
  ends := hresult

/-- The first request, and the poll loop that follows it. -/
theorem keepsProtocol_of_polls (h : arguments.Accepted) {params : Option (List (String × Json))}
    {location : String} {data : Fields} {result : Except OutscraperError Fields}
    {first polled : List Exchange}
    (hlocation : SameOrigin checkNetloc arguments.endpoint location)
    (hends : RequestEnds env (httpRequest arguments arguments.endpoint params)
      arguments.attemptLimit (.ok data) first)
    (hpolls : PollsEnd env arguments (httpRequest arguments location none)
      arguments.maxPolls.toNat result polled) :
    KeepsProtocol checkNetloc env arguments result (first ++ polled) where
  keyed := by
    intro exchange hexchange
    rcases List.mem_append.mp hexchange with hmem | hmem
    · rw [hends.sent exchange hmem]
      exact ⟨rfl, .inl rfl⟩
    · rw [hpolls.sent exchange hmem]
      exact ⟨rfl, .inr hlocation⟩
  secure := by
    obtain ⟨origin, hendpoint, hresults⟩ := hlocation
    intro exchange hexchange
    rcases List.mem_append.mp hexchange with hmem | hmem
    · rw [hends.sent exchange hmem]
      exact ⟨origin, hendpoint⟩
    · rw [hpolls.sent exchange hmem]
      exact ⟨origin, hresults⟩
  notRedirected := by
    intro exchange hexchange
    rcases List.mem_append.mp hexchange with hmem | hmem
    · rw [hends.sent exchange hmem]
      rfl
    · rw [hpolls.sent exchange hmem]
      rfl
  nothingAfterRedirect :=
    nothingAfterRedirect_append (hends.answered data rfl).1 hpolls.nothingAfterRedirect
  bounded := by
    have hfirst := hends.length_le
    have hpolled := hpolls.length_le
    have hattempts := h.maxAttempts
    have hcount := h.maxPolls
    have hlimit : (arguments.attemptLimit : ℤ) = arguments.maxAttempts :=
      Int.toNat_of_nonneg (by omega)
    have hpollCount : (arguments.maxPolls.toNat : ℤ) = arguments.maxPolls :=
      Int.toNat_of_nonneg (by omega)
    calc ((first ++ polled).length : ℤ)
        = first.length + polled.length := by rw [List.length_append, Nat.cast_add]
      _ ≤ arguments.attemptLimit + arguments.maxPolls.toNat * arguments.attemptLimit := by
          exact_mod_cast Nat.add_le_add hfirst hpolled
      _ = arguments.maxAttempts * (1 + arguments.maxPolls) := by
          rw [hlimit, hpollCount]
          ring
  ends := by
    cases result with
    | ok answer => exact .inl (hpolls.returned answer rfl)
    | error error =>
        rcases hpolls.raised error rfl with hrequest | ⟨status, failed, rfl, ⟨answer, hmem, hanswer⟩,
          hstate⟩ | ⟨last, rfl, hpending⟩
        · exact ends_of_ofRequest _ hrequest
        · exact .inl ⟨⟨answer, List.mem_append_right _ hmem, hanswer⟩, hstate⟩
        · exact .inl ⟨rfl, first, polled, rfl, hpending⟩

theorem withoutLocation_ends {data : Fields} (exchanges : List Exchange) :
    EndsAsDocumented arguments (withoutLocation data) exchanges := by
  unfold withoutLocation
  split
  · next hstate =>
    cases hresult : validatedCompletedResult data with
    | ok result =>
        obtain ⟨rfl, hitems⟩ := validatedCompletedResult_ok hresult
        exact ⟨hitems, hstate⟩
    | error error =>
        obtain ⟨message, rfl⟩ := validatedCompletedResult_error hresult
        trivial
  · trivial
  · trivial

/-- What follows the answer to the first request. -/
theorem fetch_afterFirst (h : arguments.Accepted) {params : Option (List (String × Json))}
    {searchTask : Fields} {first : List Exchange}
    (hendpoint : ∃ origin, HttpsOrigin checkNetloc arguments.endpoint origin)
    (hends : RequestEnds env (httpRequest arguments arguments.endpoint params)
      arguments.attemptLimit (.ok searchTask) first) :
    (afterFirst env checkNetloc arguments searchTask).Spec fun result more =>
      KeepsProtocol checkNetloc env arguments result (first ++ more) := by
  have hfirst : ∀ result : Except OutscraperError Fields,
      EndsAsDocumented arguments result first ∨
        (∃ effect, result = .error (.effectError effect) ∧ ∃ log, env.raises log effect = true) →
      KeepsProtocol checkNetloc env arguments result (first ++ []) := by
    intro result hresult
    rw [List.append_nil]
    exact keepsProtocol_of_request h hendpoint hends hresult
  unfold afterFirst
  apply Client.Spec.check_bind
  · intro error herror
    rw [ensure_eq_error_iff, not_not] at herror
    obtain ⟨hstate, rfl⟩ := herror
    obtain ⟨exchange, hlast, hanswers⟩ := (hends.answered searchTask rfl).2
    exact hfirst _ (.inl ⟨⟨exchange, List.mem_of_getLast? hlast, hanswers⟩, hstate, rfl⟩)
  intro _ _
  split
  · next resultsLocation _ =>
    split_ifs with hempty
    · exact Client.Spec.check (hfirst _ (.inl (withoutLocation_ends _)))
    apply Client.Spec.check_bind
    · intro error herror
      obtain ⟨message, rfl⟩ := validateResultsLocation_error herror
      exact hfirst _ (.inl trivial)
    intro safe hsafe
    obtain ⟨rfl, hlocation⟩ := validateResultsLocation_ok hsafe
    apply (perform_spec _).bind
    · rintro error more ⟨rfl, hok | ⟨herror, hraises⟩⟩
      · cases hok
      · cases herror
        exact hfirst _ (.inr ⟨_, rfl, hraises⟩)
    · rintro u more ⟨rfl, -⟩
      simp only [List.nil_append]
      exact (polls_spec h hsafe 0 _ searchTask).imp fun result more hpolls =>
        keepsProtocol_of_polls h hlocation hends hpolls
  · split_ifs with htruthy
    · exact Client.Spec.raise (hfirst _ (.inl trivial))
    · exact Client.Spec.check (hfirst _ (.inl (withoutLocation_ends _)))

/-- The first request goes out when the endpoint is an https origin. -/
theorem taskAmazonProductsRequest_spec (h : arguments.Accepted) :
    (taskAmazonProductsRequest env checkNetloc arguments).Spec fun result new =>
      (∃ message, result = .error (.securityError message) ∧ new = []) ∨
      (∃ origin, HttpsOrigin checkNetloc arguments.endpoint origin) ∧
        RequestEnds env (httpRequest arguments arguments.endpoint
          (some (buildAmazonProductsParams arguments))) arguments.attemptLimit result new := by
  apply Client.Spec.check_bind
  · intro error herror
    obtain ⟨message, rfl⟩ := validatedHttpsOrigin_error herror
    exact .inl ⟨message, rfl, rfl⟩
  · intro origin horigin
    exact (requestJson_spec h _ _).imp fun result new hends =>
      .inr ⟨⟨origin, validatedHttpsOrigin_eq_ok_iff.mp horigin⟩, hends⟩

theorem fetchAmazonProducts_spec (h : arguments.Accepted) :
    (fetchAmazonProducts env checkNetloc arguments).Spec
      (KeepsProtocol checkNetloc env arguments) := by
  rw [fetchAmazonProducts, ensure_of _ h.maxPolls, ensure_of _ h.pollInterval]
  apply Client.Spec.check_bind (by simp)
  intro _ _
  apply Client.Spec.check_bind (by simp)
  intro _ _
  apply (taskAmazonProductsRequest_spec h).bind
  · rintro error new (⟨message, hresult, rfl⟩ | ⟨hendpoint, hends⟩)
    · cases hresult
      exact keepsProtocol_nil h trivial
    · exact keepsProtocol_of_request h hendpoint hends
        (ends_of_ofRequest new (hends.raised error rfl).2)
  · rintro searchTask new (⟨message, hresult, -⟩ | ⟨hendpoint, hends⟩)
    · cases hresult
    · exact fetch_afterFirst h hendpoint hends

/-- Whatever the network answers, a search with accepted settings keeps to the protocol. -/
theorem fetchAmazonProducts_keepsProtocol (checkNetloc : String → Bool) (env : Environment)
    (search : AcceptedArguments) :
    KeepsProtocol checkNetloc env search.toArguments
      (fetchAmazonProducts env checkNetloc search.toArguments []).1
      (fetchAmazonProducts env checkNetloc search.toArguments []).2 := by
  have hspec : (fetchAmazonProducts env checkNetloc search.toArguments).Spec
      (KeepsProtocol checkNetloc env search.toArguments) := fetchAmazonProducts_spec search.accepted
  obtain ⟨exchanges, hlog, hkeeps⟩ := hspec []
  rw [hlog, List.nil_append]
  exact hkeeps

end

/-! ## A wait that cannot be represented -/

/-- `time.sleep` counts nanoseconds in 64 bits. -/
def sleepRaises (seconds : ℤ) : Bool := 2 ^ 63 ≤ seconds * 10 ^ 9

/-- A service that accepts a search and then reports that it is still pending. -/
def slowService : Environment where
  get := fun log _ =>
    if log = [] then
      .response 202 (some (.obj
        [("results_location", .str "https://api.outscraper.cloud/requests/1")]))
    else .response 200 (some (.obj [("status", .str "Pending")]))
  raises := fun _ effect => match effect with
    | .pollSleep seconds => sleepRaises seconds
    | _ => false

def slowArguments : Arguments where
  query := "tent"
  apiKey := "key"
  endpoint := "https://api.outscraper.cloud/amazon-products"
  domain := "amazon.co.jp"
  language := "ja"
  postalCode := ""
  limit := 100
  requestTimeout := 30
  pollInterval := 10 ^ 10
  maxPolls := 2
  maxAttempts := 3
  backoffSeconds := .finite false 1 0

def slowSearch : AcceptedArguments where
  toArguments := slowArguments
  accepted := ⟨by decide, by decide, by decide, by decide, by decide⟩

def isEffectError : Except OutscraperError Fields → Bool
  | .error (.effectError _) => true
  | _ => false

/-- A search whose result is an exception of an effect does not end as the client documents. -/
theorem not_endsAsDocumented {arguments : Arguments} {result : Except OutscraperError Fields}
    {exchanges : List Exchange} (h : isEffectError result = true) :
    ¬ EndsAsDocumented arguments result exchanges := by
  intro hends
  unfold isEffectError at h
  split at h
  · exact hends
  · cases h

theorem slowSearch_raises : isEffectError
    (fetchAmazonProducts slowService (fun _ => true) slowSearch.toArguments []).1 = true := by
  decide +kernel

/-- Every search ends with a result or with one of the errors of the client. -/
def AlwaysEndsAsDocumented : Prop :=
  ∀ (checkNetloc : String → Bool) (env : Environment) (search : AcceptedArguments),
    EndsAsDocumented search.toArguments
      (fetchAmazonProducts env checkNetloc search.toArguments []).1
      (fetchAmazonProducts env checkNetloc search.toArguments []).2

theorem not_always_of_raises {env : Environment} {search : AcceptedArguments}
    (h : isEffectError (fetchAmazonProducts env (fun _ => true) search.toArguments []).1 = true) :
    ¬ AlwaysEndsAsDocumented := by
  intro hends
  exact not_endsAsDocumented h (hends _ env search)

/-- The settings admit a wait of any length, and a search can end on one that `time.sleep`
refuses. -/
theorem accepted_wait_raises : ¬ AlwaysEndsAsDocumented :=
  not_always_of_raises slowSearch_raises

end AmazonSimilarSearch.Outscraper
