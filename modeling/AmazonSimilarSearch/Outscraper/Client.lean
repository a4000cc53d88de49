import AmazonSimilarSearch.Foundation.Checked
import AmazonSimilarSearch.Foundation.Url
import Mathlib.Algebra.Order.Ring.Int
import Mathlib.Tactic.Ring

/-!
# The Outscraper client

`outscraper_client.py`: requests with an API key, retried while the service is
down, and the poll loop around them. The network answers each request as it
likes, depending on all that was asked before; so do the waits and the printed
lines between the requests, which may raise. A computation carries the requests
issued so far and keeps them when it raises.
-/
namespace AmazonSimilarSearch.Outscraper
open Foundation

/-! ## What happens around the client -/

structure HttpRequest where
  url : String
  params : Option (List (String × Json))
  apiKey : String
  timeout : ℤ
  allowRedirects : Bool

/-- What becomes of one `requests.get`: `body` is what `response.json()` reads, when it can. -/
inductive Outcome where
  | timeout
  | connectionError
  | response (status : ℤ) (body : Option Json)

structure Exchange where
  request : HttpRequest
  outcome : Outcome

/-- The effects between the requests. -/
inductive Effect where
  | retrySleep (attempt : ℕ) (backoffSeconds : PyFloat)
  | pollSleep (seconds : ℤ)
  | printRequestId (id : Json)
  | printPoll (count maxPolls : ℕ) (status : Json)

structure Environment where
  get : List Exchange → HttpRequest → Outcome
  /-- the effect raises, such as `time.sleep` on a wait it cannot represent -/
  raises : List Exchange → Effect → Bool

inductive OutscraperError where
  | requestError (message : String)
  | responseError (message : String)
  | securityError (message : String)
  | taskFailedError (status : String) (data : Fields)
  | taskTimeoutError (maxPolls : ℤ) (resultsLocation : String) (lastResult : Fields)
  | valueError (message : String)
  /-- an exception of an effect -/
  | effectError (effect : Effect)

/-- A computation of the client, with the exchanges so far. -/
abbrev Client (α : Type) := List Exchange → Except OutscraperError α × List Exchange

namespace Client
variable {α β : Type}

def pure (a : α) : Client α := fun log => (.ok a, log)

def raise (error : OutscraperError) : Client α := fun log => (.error error, log)

def bind (x : Client α) (f : α → Client β) : Client β := fun log =>
  match x log with
  | (.ok a, log) => f a log
  | (.error error, log) => (.error error, log)

instance : Monad Client where
  pure := pure
  bind := bind

/-- A check that asks nobody. -/
def check (x : Except OutscraperError α) : Client α := fun log => (x, log)

end Client

/-! ## Statuses -/

def processingStatuses : List String := ["pending", "in progress", "in_progress", "processing"]
def failedStatuses : List String := ["failed", "failure", "error", "cancelled", "canceled"]
def successStatuses : List String :=
  ["success", "succeeded", "complete", "completed", "done", "finished", "ok"]

inductive TaskState where
  | pending
  | failed
  | success
  | unknown
  deriving DecidableEq, Repr

/-- `str(data.get("status", "")).strip().casefold()`; the `str` of a value that is no text is
none of the words that are looked for. -/
def normalizedStatus? (data : Fields) : Option String :=
  match data.lookup "status" with
  | none => some ""
  | some (.str status) => some (casefold (strip status))
  | some _ => none

/-- `_normalized_status(data)`, of a status that is text. -/
def normalizedStatus (data : Fields) : String := (normalizedStatus? data).getD ""

def statusIn (words : List String) (data : Fields) : Bool :=
  (normalizedStatus? data).any fun status => words.contains status

def taskState (data : Fields) : TaskState :=
  if statusIn processingStatuses data then .pending
  else if statusIn failedStatuses data then .failed
  else if statusIn successStatuses data ∨ (data.lookup "data").isSome then .success
  else .unknown

def validatedCompletedResult (data : Fields) : Except OutscraperError Fields :=
  match data.lookup "data" with
  | none => .error (.responseError "Completed Outscraper response does not include data")
  | some (.arr _) => .ok data
  | some _ => .error (.responseError "Outscraper response data must be a list")

/-! ## Origins -/

/-- `text.rstrip(".")`. -/
def rstripDots (text : String) : String :=
  String.ofList (text.toList.reverse.dropWhile (· == '.')).reverse

/-- The host and the port that a URL addresses. -/
abbrev Origin := String × ℕ

/-- `port or 443` -/
def effectivePort (port : Option ℕ) : ℕ := if port.getD 0 = 0 then 443 else port.getD 0

section
variable (checkNetloc : String → Bool)

def validatedHttpsOrigin (url label : String) : Except OutscraperError Origin := do
  let invalid := OutscraperError.securityError (label ++ " is not a valid URL")
  let parsed ← required invalid (urlparse checkNetloc url)
  let port ← required invalid parsed.port?
  ensure (parsed.scheme = "https") (.securityError (label ++ " must use HTTPS"))
  let hostname ← required (.securityError (label ++ " must include a host")) parsed.hostname?
  ensure (parsed.hasUserinfo = false)
    (.securityError (label ++ " must not include user information"))
  .ok (casefold (rstripDots hostname), effectivePort port)

def validateResultsLocation (resultsLocation endpoint : String) :
    Except OutscraperError String := do
  let endpointOrigin ← validatedHttpsOrigin checkNetloc endpoint "Outscraper endpoint"
  let resultsOrigin ←
    validatedHttpsOrigin checkNetloc resultsLocation "Outscraper results_location"
  ensure (resultsOrigin = endpointOrigin) (.securityError
    "Outscraper results_location must use the same host and port as the endpoint")
  .ok resultsLocation

end

/-! ## Requests -/

/-- The settings of one search. -/
structure Arguments where
  query : String
  apiKey : String
  endpoint : String
  domain : String
  language : String
  postalCode : String
  limit : ℤ
  requestTimeout : ℤ
  pollInterval : ℤ
  maxPolls : ℤ
  maxAttempts : ℤ
  backoffSeconds : PyFloat

def buildAmazonProductsParams (arguments : Arguments) : List (String × Json) :=
  [("query", .str arguments.query), ("domain", .str arguments.domain),
    ("language", .str arguments.language), ("limit", .int arguments.limit),
    ("async", .str "true")] ++
  if arguments.postalCode = "" then [] else [("postal_code", .str arguments.postalCode)]

def httpRequest (arguments : Arguments) (url : String) (params : Option (List (String × Json))) :
    HttpRequest :=
  ⟨url, params, arguments.apiKey, arguments.requestTimeout, false⟩

def isTransientStatus (status : ℤ) : Bool := status == 429 || (500 ≤ status && status < 600)

/-- The attempt fails in a way that is worth another one. -/
def Outcome.isTransient : Outcome → Bool
  | .timeout => true
  | .connectionError => true
  | .response status _ => isTransientStatus status

/-- What the last attempt comes to. -/
def Outcome.result (maxAttempts : ℤ) : Outcome → Except OutscraperError Fields
  | .timeout | .connectionError => .error (.requestError
      ("Outscraper request failed after " ++ toString maxAttempts ++ " attempts"))
  | .response status body =>
      if 300 ≤ status ∧ status < 400 then
        .error (.securityError "Outscraper redirects are not allowed for API-key requests")
      else if 400 ≤ status ∧ status < 600 then
        .error (.requestError (if isTransientStatus status then
          "Outscraper returned HTTP " ++ toString status ++ " after " ++ toString maxAttempts ++
            " attempts"
        else "Outscraper returned non-retryable HTTP " ++ toString status))
      else match body with
        | none => .error (.responseError "Outscraper returned invalid JSON")
        | some (.obj data) => .ok data
        | some _ => .error (.responseError "Outscraper response must be a JSON object")

section
variable (env : Environment)

/-- An effect, which may raise. -/
def perform (effect : Effect) : Client Unit := fun log =>
  if env.raises log effect then (.error (.effectError effect), log) else (.ok (), log)

def get (request : HttpRequest) : Client Outcome := fun log =>
  let outcome := env.get log request
  (.ok outcome, log ++ [⟨request, outcome⟩])

/-- The attempts of `_request_json`, of which `remaining` are left after this one. -/
def attempts (arguments : Arguments) (request : HttpRequest) (attempt : ℕ) :
    ℕ → Client Fields
  | 0 => do
      let outcome ← get env request
      Client.check (outcome.result arguments.maxAttempts)
  | remaining + 1 => do
      let outcome ← get env request
      if outcome.isTransient then do
        perform env (.retrySleep attempt arguments.backoffSeconds)
        attempts arguments request (attempt + 1) remaining
      else Client.check (outcome.result arguments.maxAttempts)

/-- `_request_json` -/
def requestJson (arguments : Arguments) (url : String)
    (params : Option (List (String × Json))) : Client Fields := do
  Client.check (ensure (1 ≤ arguments.maxAttempts)
    (.valueError "max_attempts must be at least 1"))
  Client.check (ensure (0 < arguments.requestTimeout)
    (.valueError "timeout must be greater than 0"))
  Client.check (ensure (arguments.backoffSeconds.isNegative = false)
    (.valueError "backoff_seconds must not be negative"))
  attempts env arguments (httpRequest arguments url params) 1 (arguments.maxAttempts.toNat - 1)

variable (checkNetloc : String → Bool)

def fetchRequestResult (arguments : Arguments) (resultsLocation : String) : Client Fields := do
  let safeResultsLocation ←
    Client.check (validateResultsLocation checkNetloc resultsLocation arguments.endpoint)
  requestJson env arguments safeResultsLocation none

def taskAmazonProductsRequest (arguments : Arguments) : Client Fields := do
  let _ ← Client.check (validatedHttpsOrigin checkNetloc arguments.endpoint "Outscraper endpoint")
  requestJson env arguments arguments.endpoint (some (buildAmazonProductsParams arguments))

/-! ## Polling -/

/-- The rounds of the poll loop, of which `remaining` are left; `count` were made. -/
def polls (arguments : Arguments) (resultsLocation : String) (count : ℕ) (lastResult : Fields) :
    ℕ → Client Fields
  | 0 => Client.raise (.taskTimeoutError arguments.maxPolls resultsLocation lastResult)
  | remaining + 1 => do
      let result ← fetchRequestResult env checkNetloc arguments resultsLocation
      perform env (.printPoll (count + 1) arguments.maxPolls.toNat
        ((result.lookup "status").getD (.str "unknown")))
      match taskState result with
      | .failed => Client.raise (.taskFailedError (normalizedStatus result) result)
      | .success => Client.check (validatedCompletedResult result)
      | .unknown => Client.raise (.responseError
          "Outscraper polling response has an unknown task status and no data")
      | .pending => do
          if remaining ≠ 0 then perform env (.pollSleep arguments.pollInterval)
          polls arguments resultsLocation (count + 1) result remaining

/-- What the answer to the first request comes to, when it names no place for the results. -/
def withoutLocation (searchTask : Fields) : Except OutscraperError Fields :=
  match taskState searchTask with
  | .success => validatedCompletedResult searchTask
  | .pending => .error (.responseError
      "Pending Outscraper response does not include results_location")
  | _ => .error (.responseError
      "Outscraper response has neither a result nor results_location")

/-- `fetch_amazon_products`, once the first request is answered. -/
def afterFirst (arguments : Arguments) (searchTask : Fields) : Client Fields := do
  Client.check (ensure (taskState searchTask ≠ .failed)
    (.taskFailedError (normalizedStatus searchTask) searchTask))
  match (searchTask.lookup "results_location").getD .null with
  | .str resultsLocation =>
      if resultsLocation = "" then Client.check (withoutLocation searchTask) else do
        let safeResultsLocation ←
          Client.check (validateResultsLocation checkNetloc resultsLocation arguments.endpoint)
        perform env (.printRequestId ((searchTask.lookup "id").getD .null))
        polls env checkNetloc arguments safeResultsLocation 0 searchTask arguments.maxPolls.toNat
  | other =>
      if other.isTruthy then
        Client.raise (.responseError "Outscraper results_location must be a string")
      else Client.check (withoutLocation searchTask)

def fetchAmazonProducts (arguments : Arguments) : Client Fields := do
  Client.check (ensure (1 ≤ arguments.maxPolls) (.valueError "max_polls must be at least 1"))
  Client.check (ensure (0 ≤ arguments.pollInterval)
    (.valueError "poll_interval must not be negative"))
  let searchTask ← taskAmazonProductsRequest env checkNetloc arguments
  afterFirst env checkNetloc arguments searchTask

end
end AmazonSimilarSearch.Outscraper
