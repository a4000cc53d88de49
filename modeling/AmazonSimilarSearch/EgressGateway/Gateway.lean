import AmazonSimilarSearch.Foundation.Bytes
import AmazonSimilarSearch.Foundation.Casefold
import AmazonSimilarSearch.Foundation.Contract

/-!
# The egress gateway

`egress_gateway.py` accepts one peer, connects to one of the addresses that its
target resolves to, and relays both directions until both sides have ended. The
resolver, the clock, the selector and every socket call are queries, which may
answer anything that the call can. The loops have a bound on their rounds, so a
run with a small bound is the beginning of a longer one.
-/
namespace AmazonSimilarSearch.EgressGateway
open Foundation

/-! ## What the gateway asks -/

inductive Endpoint where
  | peer
  | target
  deriving DecidableEq, Repr

/-- `endpoints[source]` -/
def Endpoint.other : Endpoint → Endpoint
  | peer => target
  | target => peer

/-- The sockets of a run; every address has a connection of its own. -/
inductive Socket where
  | listener
  | peer
  | connection (attempt : ℕ)
  deriving DecidableEq, Repr

/-- An entry of `sockaddr`: a host and a port with what follows them, or something else. -/
inductive SocketAddress where
  | inet (host : String) (port : ℤ) (rest : List ℤ)
  | other
  deriving DecidableEq, Repr

/-- An entry of what `getaddrinfo` returns, without the canonical name. -/
structure AddressInfo where
  family : ℤ
  socketType : ℤ
  protocol : ℤ
  address : SocketAddress
  deriving DecidableEq, Repr

/-- `BlockingIOError`, or another `OSError`. -/
inductive SocketError where
  | blocking
  | other
  deriving DecidableEq, Repr

/-- The calls that return nothing. -/
inductive SocketCall where
  | create (socket : Socket) (family : ℤ)
  | reuseAddress
  | bind (host : String) (port : ℤ)
  | listen (backlog : ℕ)
  | settimeout (socket : Socket) (seconds : Option ℕ)
  | connect (attempt : ℕ) (address : SocketAddress)
  | createSelector
  | setNonblocking (endpoint : Endpoint)
  | register (endpoint : Endpoint)
  | shutdown (endpoint : Endpoint)
  | closeSelector
  | close (socket : Socket)
  deriving DecidableEq, Repr

inductive Query where
  | resolve (host : String) (port : ℤ)
  | call (call : SocketCall)
  | accept
  /-- `time.monotonic()`, in nanoseconds -/
  | monotonic
  | select (registered : List Endpoint) (timeout : ℤ)
  | recv (endpoint : Endpoint) (size : ℕ)
  | send (endpoint : Endpoint) (view : Bytes)
  deriving DecidableEq

/-- A selector reports a registered file object once; a call receives and sends no more than it
was asked to. -/
def Answer : Query → Type
  | .resolve _ _ => Except SocketError (List AddressInfo)
  | .call _ => Except SocketError Unit
  | .accept => Except SocketError SocketAddress
  | .monotonic => ℤ
  | .select registered _ => Except SocketError {events : List Endpoint //
      events.Nodup ∧ events ⊆ registered}
  | .recv _ size => Except SocketError {chunk : Bytes // chunk.length ≤ size}
  | .send _ view => Except SocketError {written : ℕ // written ≤ view.length}

/-- What ends a run early. -/
inductive Raised where
  /-- `EgressGatewayError` -/
  | gateway (message : String)
  | osError
  /-- the bound on the rounds is used up, and the loop goes on -/
  | running
  deriving DecidableEq, Repr

abbrev Gateway := Interaction Query Answer Raised
abbrev Network := Answering Query Answer
abbrev History := List (Exchange Query Answer)

/-- The classification of addresses by the `ipaddress` module. -/
structure IpLibrary where
  Ip : Type
  /-- `ipaddress.ip_address(host)`, or nothing where it raises `ValueError` -/
  ipAddress : String → Option Ip
  compressed : Ip → String
  isGlobal : Ip → Bool
  isPrivate : Ip → Bool
  isLoopback : Ip → Bool
  isLinkLocal : Ip → Bool
  isMulticast : Ip → Bool

def listenHost : String := "0.0.0.0"
def listenPort : ℤ := 8443
def targetHost : String := "api.openai.com"
def targetPort : ℤ := 443
def acceptTimeoutSeconds : ℕ := 30
def connectTimeoutSeconds : ℕ := 30
def relayTimeoutSeconds : ℤ := 240
def maxBytesPerDirection : ℕ := 16000000
def maxTargetAddresses : ℕ := 16
def nanoseconds : ℤ := 1000000000
def afInet : ℤ := 2
def afInet6 : ℤ := 10
def sockStream : ℤ := 1
def ipprotoTcp : ℤ := 6

def forbiddenEnvNames : List String :=
  ["all_proxy", "aws_ca_bundle", "curl_ca_bundle", "http_proxy", "https_proxy", "ld_audit",
    "ld_library_path", "ld_preload", "netrc", "no_proxy", "openai_api_key", "openai_base_url",
    "pythonhome", "pythonpath", "requests_ca_bundle", "ssl_cert_dir", "ssl_cert_file"]

/-- A call whose `OSError` nothing catches. -/
def call (socketCall : SocketCall) : Gateway Unit := do
  match ← Interaction.query (Query.call socketCall) with
  | .ok _ => pure ()
  | .error _ => .raise .osError

def monotonic : Gateway ℤ := Interaction.query Query.monotonic

/-! ## Addresses -/

/-- `_validate_environment` -/
def validateEnvironment (environment : List (String × String)) : Except Raised Unit := do
  ensure (∀ entry ∈ environment, casefold entry.1 ∉ forbiddenEnvNames)
    (.gateway "egress gateway environment is not approved")
  ensure (environment.lookup "AI_REVIEW_EGRESS_GATEWAY" = some "1")
    (.gateway "egress gateway opt-in is missing")

section
variable (ip : IpLibrary)

/-- A target address with its family. -/
abbrev TargetAddress := ℤ × SocketAddress

/-- The addresses collected so far, and their keys. -/
structure Collected where
  addresses : List TargetAddress
  seen : List (ℤ × String × ℤ)

/-- The host of an entry for the target, as an address. -/
def targetIp? (info : AddressInfo) : Option (String × ip.Ip) :=
  match info.address with
  | .other => none
  | .inet host port _ =>
      if info.family ∉ [afInet, afInet6] ∨ info.socketType ≠ sockStream ∨
          info.protocol ∉ [0, ipprotoTcp] ∨ port ≠ targetPort then none
      else (ip.ipAddress host).map fun address => (host, address)

/-- One round of the loop of `_validated_target_addresses`. -/
def collectAddress (collected : Collected) (info : AddressInfo) : Except Raised Collected :=
  match targetIp? ip info with
  | none => .ok collected
  | some (_, address) => do
      ensure (ip.isGlobal address = true)
        (.gateway "egress target resolution returned a forbidden address")
      let key := (info.family, ip.compressed address, targetPort)
      let next : Collected := if key ∈ collected.seen then collected
        else ⟨collected.addresses ++ [(info.family, info.address)], key :: collected.seen⟩
      ensure (next.addresses.length ≤ maxTargetAddresses)
        (.gateway "egress target resolution exceeded its address limit")
      pure next

def collectAddresses (infos : List AddressInfo) : Except Raised (List TargetAddress) := do
  let collected ← infos.foldlM (collectAddress ip) ⟨[], []⟩
  ensure (collected.addresses ≠ [])
    (.gateway "egress target resolution returned no approved address")
  pure collected.addresses

/-- `_validated_target_addresses` -/
def validatedTargetAddresses : Gateway (List TargetAddress) := do
  match ← Interaction.query (Query.resolve targetHost targetPort) with
  | .error _ => .raise (.gateway "egress target resolution failed")
  | .ok infos => .ofExcept (collectAddresses ip infos)

/-- `_validate_peer` -/
def validatePeer (address : SocketAddress) : Except Raised Unit := do
  let peer ← required (.gateway "egress gateway peer is invalid") <|
    match address with
    | .inet host _ _ => ip.ipAddress host
    | .other => none
  ensure (ip.isPrivate peer = true ∧ ip.isLoopback peer = false ∧ ip.isLinkLocal peer = false ∧
      ip.isMulticast peer = false)
    (.gateway "egress gateway peer is outside the private broker network")

end

/-- The calls of one attempt whose `OSError` means the next address. -/
def tryConnect (attempt : ℕ) (address : SocketAddress) : Gateway Unit := do
  call (.settimeout (.connection attempt) (some connectTimeoutSeconds))
  call (.connect attempt address)
  call (.settimeout (.connection attempt) none)

/-- `_connect_target`; the attempts are numbered. -/
def connectTarget : ℕ → List TargetAddress → Gateway ℕ
  | _, [] => .raise (.gateway "egress target connection failed")
  | attempt, (family, address) :: addresses => do
      call (.create (.connection attempt) family)
      match ← (tryConnect attempt address).attempt with
      | .ok _ => pure attempt
      | .error _ => do
          call (.close (.connection attempt))
          connectTarget (attempt + 1) addresses

/-! ## The relay -/

/-- What the loop of `_relay` keeps: the registered endpoints, and the bytes of each. -/
structure RelayState where
  registered : List Endpoint
  byteCounts : Endpoint → ℕ

/-- `while view:` -/
def sendAll (destination : Endpoint) (deadline : ℤ) : ℕ → Bytes → Gateway Unit
  | rounds, view =>
      if view = [] then pure ()
      else match rounds with
        | 0 => .raise .running
        | rounds + 1 => do
            match ← Interaction.query (Query.send destination view) with
            | .error .blocking => do
                let now ← monotonic
                .ofExcept (ensure (now < deadline) (Raised.gateway "egress relay timed out"))
                sendAll destination deadline rounds view
            | .error .other => .raise .osError
            | .ok written => do
                .ofExcept (ensure (0 < written.1) (Raised.gateway "egress relay failed"))
                sendAll destination deadline rounds (view.drop written.1)

def recvSize : ℕ := 65536

/-- One event of the inner loop. -/
def relayEvent (deadline : ℤ) (rounds : ℕ) (state : RelayState) (source : Endpoint) :
    Gateway RelayState := do
  match ← Interaction.query (Query.recv source recvSize) with
  | .error .blocking => pure state
  | .error .other => .raise .osError
  | .ok chunk =>
      if chunk.1 = [] then do
        let _ ← Interaction.query (Query.call (.shutdown source.other))
        pure { state with registered := state.registered.erase source }
      else do
        let count := state.byteCounts source + chunk.1.length
        .ofExcept (ensure (count ≤ maxBytesPerDirection)
          (Raised.gateway "egress relay exceeded its byte limit"))
        sendAll source.other deadline rounds chunk.1
        pure { state with byteCounts := Function.update state.byteCounts source count }

/-- `for key, _mask in events:` -/
def relayEvents (deadline : ℤ) (rounds : ℕ) : RelayState → List Endpoint → Gateway RelayState
  | state, [] => pure state
  | state, source :: events => do
      let state ← relayEvent deadline rounds state source
      relayEvents deadline rounds state events

/-- `while selector.get_map():` -/
def relayLoop (deadline : ℤ) : ℕ → RelayState → Gateway Unit
  | rounds, state =>
      if state.registered = [] then pure ()
      else match rounds with
        | 0 => .raise .running
        | rounds + 1 => do
            let now ← monotonic
            .ofExcept (ensure (0 < deadline - now) (Raised.gateway "egress relay timed out"))
            match ← Interaction.query
                (Query.select state.registered (min (deadline - now) nanoseconds)) with
            | .error _ => .raise .osError
            | .ok events => do
                let state ← relayEvents deadline rounds state events.1
                relayLoop deadline rounds state

/-- Both endpoints become readable events of the selector. -/
def registerEndpoints : List Endpoint → Gateway Unit
  | [] => pure ()
  | endpoint :: endpoints => do
      call (.setNonblocking endpoint)
      call (.register endpoint)
      registerEndpoints endpoints

/-- The body of the `try` statement of `_relay`. -/
def relayBody (deadline : ℤ) (rounds : ℕ) : Gateway Unit := do
  registerEndpoints [.peer, .target]
  relayLoop deadline rounds ⟨[.peer, .target], fun _ => 0⟩

/-- `_relay`; a run that has not ended has not come to its `finally` block. -/
def relay (rounds : ℕ) : Gateway Unit := do
  call .createSelector
  let now ← monotonic
  match ← (relayBody (now + relayTimeoutSeconds * nanoseconds) rounds).attempt with
  | .ok _ => call .closeSelector
  | .error error =>
      if error = .running then .raise .running
      else do
        call .closeSelector
        .raise error

/-! ## Serving one peer -/

/-- The sockets that the `finally` block knows. -/
structure Opened where
  peer : Bool := false
  target : Option ℕ := none

/-- An exception, with the sockets that were open where it was raised. -/
structure Stopped where
  error : Raised
  opened : Opened

/-- A part of the body during which these sockets are open. -/
def during {α : Type} (opened : Opened) (x : Gateway α) : Interaction Query Answer Stopped α :=
  x.mapError fun error => ⟨error, opened⟩

def configureListener : Gateway SocketAddress := do
  call .reuseAddress
  call (.bind listenHost listenPort)
  call (.listen 1)
  call (.settimeout .listener (some acceptTimeoutSeconds))
  match ← Interaction.query Query.accept with
  | .ok address => pure address
  | .error _ => .raise (.gateway "egress gateway did not receive one broker connection")

section
variable (ip : IpLibrary) (rounds : ℕ)

/-- The body of the `try` statement; it returns the number of the connection it has used. -/
def serveBody (addresses : List TargetAddress) : Interaction Query Answer Stopped ℕ := do
  let peerAddress ← during {} configureListener
  let target ← during { peer := true } do
    .ofExcept (validatePeer ip peerAddress)
    connectTarget 0 addresses
  during { peer := true, target := some target } (relay rounds)
  pure target

/-- The `finally` block. -/
def closeSockets (opened : Opened) : Gateway Unit := do
  call (.close .listener)
  if opened.peer then call (.close .peer)
  match opened.target with
  | some attempt => call (.close (.connection attempt))
  | none => pure ()

/-- `serve_once` -/
def serveOnce (environment : List (String × String)) : Gateway Unit := do
  .ofExcept (validateEnvironment environment)
  let addresses ← validatedTargetAddresses ip
  call (.create .listener afInet)
  match ← (serveBody ip rounds addresses).attempt with
  | .ok target => closeSockets { peer := true, target := some target }
  | .error stopped =>
      if stopped.error = .running then .raise .running
      else do
        closeSockets stopped.opened
        .raise stopped.error

end
end AmazonSimilarSearch.EgressGateway
