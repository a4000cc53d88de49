import AmazonSimilarSearch.Outscraper.Client

/-!
# The polling protocol

What a search does, whatever the network answers. A specification of a client
computation says which exchanges it adds to those before it and how it ends;
specifications compose along `bind`.
-/
namespace AmazonSimilarSearch.Outscraper
open Foundation

/-! ## Specifications -/

/-- The computation adds exchanges to those before it, and these and its result satisfy `P`. -/
def Client.Spec {α : Type} (x : Client α)
    (P : Except OutscraperError α → List Exchange → Prop) : Prop :=
  ∀ log, ∃ new, (x log).2 = log ++ new ∧ P (x log).1 new

namespace Client.Spec
variable {α β : Type} {x : Client α} {f : α → Client β}
  {P Q : Except OutscraperError α → List Exchange → Prop}

theorem imp (h : x.Spec P) (hpq : ∀ result new, P result new → Q result new) : x.Spec Q := by
  intro log
  obtain ⟨new, hlog, hp⟩ := h log
  exact ⟨new, hlog, hpq _ _ hp⟩

theorem check {result : Except OutscraperError α} (h : P result []) : (Client.check result).Spec P :=
  fun log => ⟨[], (List.append_nil log).symm, h⟩

theorem raise {error : OutscraperError} (h : P (.error error) []) : (Client.raise error).Spec P :=
  fun log => ⟨[], (List.append_nil log).symm, h⟩

/-- A computation that raises ends there; otherwise the next one goes on from what it adds. -/
theorem bind {R : Except OutscraperError β → List Exchange → Prop} (hx : x.Spec P)
    (herror : ∀ error new, P (.error error) new → R (.error error) new)
    (hf : ∀ a new, P (.ok a) new → (f a).Spec fun result more => R result (new ++ more)) :
    (x >>= f).Spec R := by
  intro log
  obtain ⟨new, hlog, hp⟩ := hx log
  have hbind : (x >>= f) log = Client.bind x f log := rfl
  rw [hbind, Client.bind]
  rcases hresult : x log with ⟨error | a, log'⟩
  · rw [hresult] at hlog hp
    exact ⟨new, hlog, herror error new hp⟩
  · rw [hresult] at hlog hp
    obtain ⟨more, hmore, hr⟩ := hf a new hp log'
    refine ⟨new ++ more, ?_, hr⟩
    rw [hmore, show log' = log ++ new from hlog, List.append_assoc]

/-- A check raises what it raises, or goes on with what it found. -/
theorem check_bind {result : Except OutscraperError α}
    {R : Except OutscraperError β → List Exchange → Prop}
    (herror : ∀ error, result = .error error → R (.error error) [])
    (hf : ∀ a, result = .ok a → (f a).Spec R) : (Client.check result >>= f).Spec R := by
  apply bind (Client.Spec.check (P := fun r new => r = result ∧ new = []) ⟨rfl, rfl⟩)
  · rintro error new ⟨hresult, rfl⟩
    exact herror error hresult.symm
  · rintro a new ⟨hresult, rfl⟩
    exact hf a hresult.symm

end Client.Spec

/-! ## One request -/

def Outcome.isRedirect : Outcome → Bool
  | .response status _ => 300 ≤ status && status < 400
  | _ => false

/-- The exchange got a JSON object. -/
def Exchange.Answers (exchange : Exchange) (data : Fields) : Prop :=
  ∃ status, exchange.outcome = .response status (some (.obj data))

/-- No redirect is followed: nothing comes after one. -/
def NothingAfterRedirect (exchanges : List Exchange) : Prop :=
  ∀ exchange ∈ exchanges.dropLast, exchange.outcome.isRedirect = false

/-- What a request raises, given that its arguments were accepted. -/
def OutscraperError.OfRequest (env : Environment) : OutscraperError → Prop
  | .requestError _ | .responseError _ | .securityError _ => True
  | .effectError effect => ∃ log, env.raises log effect = true
  | _ => False

/-- How one request ends. -/
structure RequestEnds (env : Environment) (request : HttpRequest) (limit : ℕ)
    (result : Except OutscraperError Fields) (exchanges : List Exchange) : Prop where
  length_le : exchanges.length ≤ limit
  sent : ∀ exchange ∈ exchanges, exchange.request = request
  answered : ∀ data, result = .ok data →
    (∀ exchange ∈ exchanges, exchange.outcome.isRedirect = false) ∧
      ∃ exchange ∈ exchanges.getLast?, exchange.Answers data
  raised : ∀ error, result = .error error →
    NothingAfterRedirect exchanges ∧ error.OfRequest env

theorem isRedirect_of_isTransient {outcome : Outcome} (h : outcome.isTransient = true) :
    outcome.isRedirect = false := by
  cases outcome with
  | timeout => rfl
  | connectionError => rfl
  | response status body =>
      simp only [Outcome.isTransient, isTransientStatus, Bool.or_eq_true, beq_iff_eq,
        Bool.and_eq_true, decide_eq_true_eq] at h
      simp only [Outcome.isRedirect, Bool.and_eq_false_iff, decide_eq_false_iff_not]
      omega

theorem Outcome.result_ok {maxAttempts : ℤ} {outcome : Outcome} {data : Fields}
    (h : outcome.result maxAttempts = .ok data) :
    outcome.isRedirect = false ∧ ∃ status, outcome = .response status (some (.obj data)) := by
  cases outcome with
  | timeout => cases h
  | connectionError => cases h
  | response status body =>
      simp only [Outcome.result] at h
      split_ifs at h with hredirect hfailed
      simp only [Outcome.isRedirect, Bool.and_eq_false_iff, decide_eq_false_iff_not]
      refine ⟨by omega, status, ?_⟩
      split at h <;> simp_all

theorem Outcome.result_error {env : Environment} {maxAttempts : ℤ} {outcome : Outcome}
    {error : OutscraperError} (h : outcome.result maxAttempts = .error error) :
    error.OfRequest env := by
  cases outcome with
  | timeout =>
      cases h
      trivial
  | connectionError =>
      cases h
      trivial
  | response status body =>
      simp only [Outcome.result] at h
      split_ifs at h with hredirect hfailed htransient
      · cases h
        trivial
      · cases h
        trivial
      · cases h
        trivial
      · split at h <;> cases h <;> trivial

section
variable {env : Environment} {arguments : Arguments} {request : HttpRequest}

theorem get_spec (request : HttpRequest) :
    (get env request).Spec fun result new =>
      ∃ outcome, result = .ok outcome ∧ new = [⟨request, outcome⟩] :=
  fun log => ⟨[⟨request, env.get log request⟩], rfl, env.get log request, rfl, rfl⟩

theorem perform_spec (effect : Effect) :
    (perform env effect).Spec fun result new => new = [] ∧
      (result = .ok () ∨ result = .error (.effectError effect) ∧
        ∃ log, env.raises log effect = true) := by
  intro log
  simp only [perform]
  split_ifs with hraises
  · exact ⟨[], (List.append_nil log).symm, rfl, .inr ⟨rfl, log, hraises⟩⟩
  · exact ⟨[], (List.append_nil log).symm, rfl, .inl rfl⟩

/-- The last attempt of a request. -/
theorem requestEnds_last (outcome : Outcome) :
    RequestEnds env request 1 (outcome.result arguments.maxAttempts) [⟨request, outcome⟩] where
  length_le := le_rfl
  sent := by simp
  answered := by
    intro data hdata
    obtain ⟨hredirect, hanswer⟩ := Outcome.result_ok hdata
    exact ⟨by simpa using hredirect, _, rfl, hanswer⟩
  raised := by
    intro error herror
    exact ⟨by simp [NothingAfterRedirect], Outcome.result_error herror⟩

/-- An attempt that is worth another one, and what comes after it. -/
theorem RequestEnds.cons {limit : ℕ} {result : Except OutscraperError Fields}
    {outcome : Outcome} {more : List Exchange} (houtcome : outcome.isTransient = true)
    (h : RequestEnds env request limit result more) :
    RequestEnds env request (limit + 1) result (⟨request, outcome⟩ :: more) where
  length_le := by
    rw [List.length_cons]
    exact Nat.succ_le_succ h.length_le
  sent := by
    intro exchange hexchange
    rcases List.mem_cons.mp hexchange with rfl | hmore
    · rfl
    · exact h.sent exchange hmore
  answered := by
    intro data hdata
    obtain ⟨hredirect, exchange, hlast, hanswer⟩ := h.answered data hdata
    refine ⟨?_, exchange, ?_, hanswer⟩
    · intro other hother
      rcases List.mem_cons.mp hother with rfl | hmore
      · exact isRedirect_of_isTransient houtcome
      · exact hredirect other hmore
    · rw [Option.mem_def] at hlast ⊢
      rw [List.getLast?_cons, hlast]
      rfl
  raised := by
    intro error herror
    obtain ⟨hredirect, hof⟩ := h.raised error herror
    refine ⟨?_, hof⟩
    intro exchange hexchange
    cases more with
    | nil => cases hexchange
    | cons next rest =>
        rw [List.dropLast_cons_cons] at hexchange
        rcases List.mem_cons.mp hexchange with rfl | hmore
        · exact isRedirect_of_isTransient houtcome
        · exact hredirect exchange hmore

theorem attempts_spec (attempt remaining : ℕ) :
    (attempts env arguments request attempt remaining).Spec
      (RequestEnds env request (remaining + 1)) := by
  induction remaining generalizing attempt with
  | zero =>
      apply (get_spec request).bind
      · rintro error new ⟨outcome, hresult, -⟩
        cases hresult
      · rintro outcome new ⟨outcome', hresult, rfl⟩
        cases hresult
        apply Client.Spec.check
        exact requestEnds_last outcome
  | succ remaining ih =>
      apply (get_spec request).bind
      · rintro error new ⟨outcome, hresult, -⟩
        cases hresult
      · rintro outcome new ⟨outcome', hresult, rfl⟩
        cases hresult
        split_ifs with htransient
        · apply (perform_spec _).bind
          · rintro error new ⟨rfl, hok | ⟨herror, hraises⟩⟩
            · cases hok
            · cases herror
              refine RequestEnds.cons htransient ⟨Nat.zero_le _, by simp, ?_, ?_⟩
              · intro data hdata
                cases hdata
              · intro error herror
                cases herror
                exact ⟨by simp [NothingAfterRedirect], hraises⟩
          · rintro u new ⟨rfl, -⟩
            exact (ih (attempt + 1)).imp fun result more h => h.cons htransient
        · apply Client.Spec.check
          have hlast : RequestEnds env request 1 (outcome.result arguments.maxAttempts)
              [⟨request, outcome⟩] := requestEnds_last outcome
          exact { hlast with length_le := by simp }

/-! ## Accepted arguments and origins -/

/-- What the argument checks let through. -/
structure Arguments.Accepted (arguments : Arguments) : Prop where
  maxPolls : 1 ≤ arguments.maxPolls
  pollInterval : 0 ≤ arguments.pollInterval
  maxAttempts : 1 ≤ arguments.maxAttempts
  requestTimeout : 0 < arguments.requestTimeout
  backoffSeconds : arguments.backoffSeconds.isNegative = false

/-- The attempts that one request may take. -/
def Arguments.attemptLimit (arguments : Arguments) : ℕ := arguments.maxAttempts.toNat

/-- The URL has scheme https and no user information, and addresses that host and port: a host
is compared without the dots at its end and without regard to case. -/
structure HttpsOrigin (checkNetloc : String → Bool) (url : String) (origin : Origin) : Prop where
  https : ∃ parsed port hostname, urlparse checkNetloc url = some parsed ∧
    parsed.scheme = "https" ∧ parsed.hasUserinfo = false ∧
    parsed.port? = some port ∧ parsed.hostname? = some hostname ∧
    origin = (casefold (rstripDots hostname), effectivePort port)

variable {checkNetloc : String → Bool}

theorem validatedHttpsOrigin_eq_ok_iff {url label : String} {origin : Origin} :
    validatedHttpsOrigin checkNetloc url label = .ok origin ↔
      HttpsOrigin checkNetloc url origin := by
  simp only [validatedHttpsOrigin, bind_eq_ok_iff, required_eq_ok_iff, ensure_eq_ok_iff,
    exists_const, Except.ok.injEq]
  constructor
  · rintro ⟨parsed, hparsed, port, hport, hscheme, hostname, hhostname, huser, rfl⟩
    exact ⟨parsed, port, hostname, hparsed, hscheme, huser, hport, hhostname, rfl⟩
  · rintro ⟨parsed, port, hostname, hparsed, hscheme, huser, hport, hhostname, rfl⟩
    exact ⟨parsed, hparsed, port, hport, hscheme, hostname, hhostname, huser, rfl⟩

theorem validatedHttpsOrigin_error {url label : String} {error : OutscraperError}
    (h : validatedHttpsOrigin checkNetloc url label = .error error) :
    ∃ message, error = .securityError message := by
  simp only [validatedHttpsOrigin, bind_eq_error_iff, ensure_eq_error_iff, required_eq_error_iff,
    reduceCtorEq, and_false, exists_false, or_false] at h
  obtain ⟨-, rfl⟩ | ⟨_, -, ⟨-, rfl⟩ | ⟨_, -, ⟨-, rfl⟩ | ⟨_, -, ⟨-, rfl⟩ | ⟨_, -, -, rfl⟩⟩⟩⟩ := h <;>
    exact ⟨_, rfl⟩

/-- The results are where the endpoint is. -/
def SameOrigin (checkNetloc : String → Bool) (endpoint url : String) : Prop :=
  ∃ origin, HttpsOrigin checkNetloc endpoint origin ∧ HttpsOrigin checkNetloc url origin

theorem validateResultsLocation_ok {resultsLocation endpoint safe : String}
    (h : validateResultsLocation checkNetloc resultsLocation endpoint = .ok safe) :
    safe = resultsLocation ∧ SameOrigin checkNetloc endpoint resultsLocation := by
  simp only [validateResultsLocation, bind_eq_ok_iff, ensure_eq_ok_iff, exists_const,
    Except.ok.injEq, validatedHttpsOrigin_eq_ok_iff] at h
  obtain ⟨origin, hendpoint, results, hresults, rfl, rfl⟩ := h
  exact ⟨rfl, results, hendpoint, hresults⟩

theorem validateResultsLocation_error {resultsLocation endpoint : String}
    {error : OutscraperError}
    (h : validateResultsLocation checkNetloc resultsLocation endpoint = .error error) :
    ∃ message, error = .securityError message := by
  simp only [validateResultsLocation, bind_eq_error_iff, ensure_eq_error_iff, reduceCtorEq,
    and_false, exists_false, or_false] at h
  obtain hendpoint | ⟨_, -, hresults | ⟨_, -, -, rfl⟩⟩ := h
  · exact validatedHttpsOrigin_error hendpoint
  · exact validatedHttpsOrigin_error hresults
  · exact ⟨_, rfl⟩

theorem requestJson_spec (h : arguments.Accepted) (url : String)
    (params : Option (List (String × Json))) :
    (requestJson env arguments url params).Spec
      (RequestEnds env (httpRequest arguments url params) arguments.attemptLimit) := by
  simp only [requestJson, ensure_of _ h.maxAttempts, ensure_of _ h.requestTimeout,
    ensure_of _ h.backoffSeconds]
  have hlimit : arguments.maxAttempts.toNat - 1 + 1 = arguments.attemptLimit := by
    have := h.maxAttempts
    unfold Arguments.attemptLimit
    omega
  have hattempts : (attempts env arguments (httpRequest arguments url params) 1
      (arguments.maxAttempts.toNat - 1)).Spec (RequestEnds env (httpRequest arguments url params)
        (arguments.maxAttempts.toNat - 1 + 1)) := attempts_spec 1 _
  rw [hlimit] at hattempts
  exact hattempts

/-! ## The poll loop -/

/-- A result that may be returned: its task is done and its data are a list. -/
def Completed (data : Fields) : Prop :=
  (∃ items, data.lookup "data" = some (.arr items)) ∧ taskState data = .success

/-- The exchanges of one poll, which found the task pending. -/
def PendingPoll (request : HttpRequest) (exchanges : List Exchange) : Prop :=
  (∀ exchange ∈ exchanges, exchange.request = request) ∧
    ∃ data, taskState data = .pending ∧ ∃ exchange ∈ exchanges.getLast?, exchange.Answers data

/-- The exchanges of `count` polls, all of which found the task pending. -/
def PendingPolls (request : HttpRequest) (count : ℕ) (exchanges : List Exchange) : Prop :=
  ∃ groups : List (List Exchange), groups.length = count ∧ groups.flatten = exchanges ∧
    ∀ group ∈ groups, PendingPoll request group

/-- The task was reported to have failed. -/
def FailedAnswer (status : String) (data : Fields) (exchanges : List Exchange) : Prop :=
  (∃ exchange ∈ exchanges, exchange.Answers data) ∧ taskState data = .failed ∧
    status = normalizedStatus data

theorem nothingAfterRedirect_append {first rest : List Exchange}
    (hfirst : ∀ exchange ∈ first, exchange.outcome.isRedirect = false)
    (hrest : NothingAfterRedirect rest) : NothingAfterRedirect (first ++ rest) := by
  intro exchange hexchange
  rw [List.dropLast_append] at hexchange
  split_ifs at hexchange with hnil
  · exact hfirst exchange ((List.dropLast_sublist _).subset hexchange)
  · rcases List.mem_append.mp hexchange with hmem | hmem
    · exact hfirst exchange hmem
    · exact hrest exchange hmem

theorem nothingAfterRedirect_of_forall {exchanges : List Exchange}
    (h : ∀ exchange ∈ exchanges, exchange.outcome.isRedirect = false) :
    NothingAfterRedirect exchanges :=
  fun exchange hexchange => h exchange ((List.dropLast_sublist _).subset hexchange)

theorem validatedCompletedResult_ok {data result : Fields}
    (h : validatedCompletedResult data = .ok result) :
    result = data ∧ ∃ items, data.lookup "data" = some (.arr items) := by
  unfold validatedCompletedResult at h
  split at h
  · cases h
  · next items hitems =>
    cases h
    exact ⟨rfl, items, hitems⟩
  · cases h

theorem validatedCompletedResult_error {data : Fields} {error : OutscraperError}
    (h : validatedCompletedResult data = .error error) :
    ∃ message, error = .responseError message := by
  unfold validatedCompletedResult at h
  split at h <;> cases h <;> exact ⟨_, rfl⟩

/-- How the poll loop ends, with `count` rounds left. -/
structure PollsEnd (env : Environment) (arguments : Arguments) (request : HttpRequest) (count : ℕ)
    (result : Except OutscraperError Fields) (exchanges : List Exchange) : Prop where
  length_le : exchanges.length ≤ count * arguments.attemptLimit
  sent : ∀ exchange ∈ exchanges, exchange.request = request
  nothingAfterRedirect : NothingAfterRedirect exchanges
  returned : ∀ data, result = .ok data → Completed data
  raised : ∀ error, result = .error error → error.OfRequest env ∨
    (∃ status data, error = .taskFailedError status data ∧ FailedAnswer status data exchanges) ∨
    ∃ last, error = .taskTimeoutError arguments.maxPolls request.url last ∧
      PendingPolls request count exchanges

/-- A round that ends the loop. -/
theorem pollsEnd_of_request {request : HttpRequest} {count : ℕ}
    {answer result : Except OutscraperError Fields} {exchanges : List Exchange}
    (h : RequestEnds env request arguments.attemptLimit answer exchanges)
    (hreturned : ∀ data, result = .ok data → Completed data)
    (hraised : ∀ error, result = .error error → error.OfRequest env ∨
      ∃ status data, error = .taskFailedError status data ∧ FailedAnswer status data exchanges) :
    PollsEnd env arguments request (count + 1) result exchanges where
  length_le := by
    have hlength := h.length_le
    rw [Nat.add_mul, Nat.one_mul]
    exact hlength.trans (Nat.le_add_left _ _)
  sent := h.sent
  nothingAfterRedirect := by
    cases answer with
    | ok data => exact nothingAfterRedirect_of_forall (h.answered data rfl).1
    | error error => exact (h.raised error rfl).1
  returned := hreturned
  raised := fun error herror => (hraised error herror).imp_right .inl

/-- A round that found the task pending, and the rounds after it. -/
theorem PollsEnd.cons {request : HttpRequest} {count : ℕ} {data : Fields}
    {result : Except OutscraperError Fields} {exchanges more : List Exchange}
    (hfirst : RequestEnds env request arguments.attemptLimit (.ok data) exchanges)
    (hpending : taskState data = .pending)
    (h : PollsEnd env arguments request count result more) :
    PollsEnd env arguments request (count + 1) result (exchanges ++ more) where
  length_le := by
    have hlength := hfirst.length_le
    have hmore := h.length_le
    rw [List.length_append, Nat.add_mul, Nat.one_mul]
    omega
  sent := by
    intro exchange hexchange
    rcases List.mem_append.mp hexchange with hmem | hmem
    · exact hfirst.sent exchange hmem
    · exact h.sent exchange hmem
  nothingAfterRedirect :=
    nothingAfterRedirect_append (hfirst.answered data rfl).1 h.nothingAfterRedirect
  returned := h.returned
  raised := by
    intro error herror
    rcases h.raised error herror with hrequest | ⟨status, failed, rfl, hanswer, hstate⟩ |
      ⟨last, rfl, groups, hcount, hgroups, hpolls⟩
    · exact .inl hrequest
    · obtain ⟨exchange, hexchange, hanswers⟩ := hanswer
      exact .inr (.inl ⟨status, failed, rfl,
        ⟨exchange, List.mem_append_right _ hexchange, hanswers⟩, hstate⟩)
    · refine .inr (.inr ⟨last, rfl, exchanges :: groups, ?_, ?_, ?_⟩)
      · rw [List.length_cons, hcount]
      · rw [List.flatten_cons, hgroups]
      · intro group hgroup
        rcases List.mem_cons.mp hgroup with rfl | hmem
        · exact ⟨hfirst.sent, data, hpending, (hfirst.answered data rfl).2⟩
        · exact hpolls group hmem

/-- A round that found the task pending, and ended on an effect after it. -/
theorem pollsEnd_of_effect {request : HttpRequest} {count : ℕ} {data : Fields} {effect : Effect}
    {exchanges : List Exchange}
    (h : RequestEnds env request arguments.attemptLimit (.ok data) exchanges)
    (hraises : ∃ log, env.raises log effect = true) :
    PollsEnd env arguments request (count + 1) (.error (.effectError effect)) exchanges := by
  refine pollsEnd_of_request h ?_ ?_
  · intro data hdata
    cases hdata
  · intro error herror
    cases herror
    exact .inl hraises

theorem polls_spec (h : arguments.Accepted) {resultsLocation : String}
    (hlocation : validateResultsLocation checkNetloc resultsLocation arguments.endpoint =
      .ok resultsLocation) (count remaining : ℕ) (lastResult : Fields) :
    (polls env checkNetloc arguments resultsLocation count lastResult remaining).Spec
      (PollsEnd env arguments (httpRequest arguments resultsLocation none) remaining) := by
  induction remaining generalizing count lastResult with
  | zero =>
      apply Client.Spec.raise
      refine ⟨by simp, by simp, by simp [NothingAfterRedirect], by simp, ?_⟩
      intro error herror
      cases herror
      exact .inr (.inr ⟨_, rfl, [], rfl, rfl, by simp⟩)
  | succ remaining ih =>
      have hfetch : fetchRequestResult env checkNetloc arguments resultsLocation =
          requestJson env arguments resultsLocation none := by
        rw [fetchRequestResult, hlocation]
        rfl
      rw [polls, hfetch]
      apply (requestJson_spec h resultsLocation none).bind
      · intro error new hends
        refine pollsEnd_of_request hends (by simp) ?_
        intro other hother
        cases hother
        exact .inl (hends.raised error rfl).2
      intro data new hends
      apply (perform_spec _).bind
      · rintro error more ⟨rfl, hok | ⟨herror, hraises⟩⟩
        · cases hok
        · cases herror
          rw [List.append_nil]
          exact pollsEnd_of_effect hends hraises
      rintro u more ⟨rfl, -⟩
      simp only [List.nil_append]
      cases hstate : taskState data with
      | failed =>
          apply Client.Spec.raise
          rw [List.append_nil]
          refine pollsEnd_of_request hends (by simp) ?_
          intro error herror
          cases herror
          obtain ⟨exchange, hlast, hanswers⟩ := (hends.answered data rfl).2
          exact .inr ⟨_, _, rfl, ⟨exchange, List.mem_of_getLast? hlast, hanswers⟩, hstate, rfl⟩
      | success =>
          apply Client.Spec.check
          rw [List.append_nil]
          refine pollsEnd_of_request hends ?_ ?_
          · intro result hresult
            obtain ⟨rfl, hitems⟩ := validatedCompletedResult_ok hresult
            exact ⟨hitems, hstate⟩
          · intro error herror
            obtain ⟨message, rfl⟩ := validatedCompletedResult_error herror
            exact .inl trivial
      | unknown =>
          apply Client.Spec.raise
          rw [List.append_nil]
          refine pollsEnd_of_request hends (by simp) ?_
          intro error herror
          cases herror
          exact .inl trivial
      | pending =>
          have hrest : (polls env checkNetloc arguments resultsLocation (count + 1) data
              remaining).Spec fun result more =>
                PollsEnd env arguments (httpRequest arguments resultsLocation none)
                  (remaining + 1) result (new ++ more) :=
            (ih (count + 1) data).imp fun result more hmore => hmore.cons hends hstate
          by_cases hlast : remaining = 0
          · simpa [hlast] using hrest
          · simp only [ne_eq, hlast, not_false_eq_true, if_true]
            apply (perform_spec _).bind
            · rintro error more ⟨rfl, hok | ⟨herror, hraises⟩⟩
              · cases hok
              · cases herror
                rw [List.append_nil]
                exact pollsEnd_of_effect hends hraises
            · rintro u more ⟨rfl, -⟩
              simpa only [List.nil_append] using hrest

end
end AmazonSimilarSearch.Outscraper
