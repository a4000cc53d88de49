import AmazonSimilarSearch.EgressGateway.Gateway

/-!
# What a run of the gateway shows

The laws of the pipe are stated over the history of a run: what was received from
each side and what was sent to it, which sockets are open, and which answers are
an `OSError` that nothing catches. The contract of a query says what must be
known where it is asked.
-/
namespace AmazonSimilarSearch.EgressGateway
open Foundation Interaction

/-! ## Bytes -/

/-- What an exchange receives from the endpoint. -/
def receivedBy (endpoint : Endpoint) : Exchange Query Answer → Bytes
  | ⟨.recv source _, .ok chunk⟩ => if source = endpoint then chunk.1 else []
  | _ => []

/-- What an exchange sends to the endpoint. -/
def sentBy (endpoint : Endpoint) : Exchange Query Answer → Bytes
  | ⟨.send destination view, .ok written⟩ =>
      if destination = endpoint then view.take written.1 else []
  | _ => []

def received (endpoint : Endpoint) (history : History) : Bytes :=
  history.flatMap (receivedBy endpoint)

def sent (endpoint : Endpoint) (history : History) : Bytes := history.flatMap (sentBy endpoint)

/-- What was sent to each side is a beginning of what was received from the other one, and no more
than the limit. -/
def Piped (history : History) : Prop :=
  ∀ endpoint, sent endpoint.other history <+: received endpoint history ∧
    (sent endpoint.other history).length ≤ maxBytesPerDirection

/-- The stream of the endpoint has ended. -/
def Ended (endpoint : Endpoint) (history : History) : Prop :=
  ∃ size chunk, (⟨.recv endpoint size, .ok chunk⟩ : Exchange Query Answer) ∈ history ∧
    chunk.1 = []

/-- Both streams have ended, and all of them was forwarded. -/
def Finished (history : History) : Prop :=
  ∀ endpoint, Ended endpoint history ∧ sent endpoint.other history = received endpoint history

/-! ## Addresses -/

section
variable (ip : IpLibrary)

/-- The address is a globally routable one on the target port. -/
def GlobalTarget : SocketAddress → Prop
  | .inet host port _ => port = targetPort ∧
      ∃ address, ip.ipAddress host = some address ∧ ip.isGlobal address = true
  | .other => False

/-- The address was in the answer of the resolver, and is one that may be connected to. -/
def ResolvedGlobal (history : History) (address : SocketAddress) : Prop :=
  GlobalTarget ip address ∧ ∃ infos info,
    (⟨.resolve targetHost targetPort, .ok infos⟩ : Exchange Query Answer) ∈ history ∧
      info ∈ infos ∧ info.address = address

/-- The peer has a private address, no loopback, link-local or multicast one. -/
def PrivatePeer : SocketAddress → Prop
  | .inet host _ _ => ∃ address, ip.ipAddress host = some address ∧ ip.isPrivate address = true ∧
      ip.isLoopback address = false ∧ ip.isLinkLocal address = false ∧
      ip.isMulticast address = false
  | .other => False

/-- A private peer has been accepted. -/
def AcceptedPrivate (history : History) : Prop :=
  ∃ address, (⟨.accept, .ok address⟩ : Exchange Query Answer) ∈ history ∧ PrivatePeer ip address

/-! ## The contract of a query -/

/-- Connections go to resolved addresses, bytes are relayed for a private peer, and what is sent
is what has been received and not sent before. -/
def Allowed (history : History) : Query → Prop
  | .call (.connect _ address) => ResolvedGlobal ip history address
  | .recv _ _ => AcceptedPrivate ip history
  | .send destination view => AcceptedPrivate ip history ∧
      received destination.other history = sent destination history ++ view ∧
      (received destination.other history).length ≤ maxBytesPerDirection
  | _ => True

end

/-! ## Sockets and failures -/

def Opens (socket : Socket) : Exchange Query Answer → Prop
  | ⟨.call (.create other _), .ok _⟩ => other = socket
  | ⟨.accept, .ok _⟩ => socket = .peer
  | _ => False

def Closes (socket : Socket) : Exchange Query Answer → Prop
  | ⟨.call (.close other), .ok _⟩ => other = socket
  | _ => False

/-- Every socket but the known ones is closed after it was opened. -/
def ClosedBut (known : List Socket) (history : History) : Prop :=
  ∀ socket, socket ∉ known → Followed (Opens socket) (Closes socket) history

/-- The calls whose `OSError` is caught. -/
def isGuarded : SocketCall → Bool
  | .settimeout (.connection _) _ => true
  | .connect _ _ => true
  | .shutdown _ => true
  | _ => false

/-- An `OSError` that nothing catches. -/
def Uncaught : Exchange Query Answer → Prop
  | ⟨.call socketCall, .error _⟩ => isGuarded socketCall = false
  | ⟨.select _ _, .error _⟩ => True
  | ⟨.recv _ _, .error .other⟩ => True
  | ⟨.send _ _, .error .other⟩ => True
  | _ => False

/-- Nothing has been raised that nothing catches. -/
def Clean (history : History) : Prop := ∀ exchange ∈ history, ¬ Uncaught exchange

/-- The state of a run between two queries, with the sockets that are open. -/
structure Sound (known : List Socket) (history : History) : Prop where
  clean : Clean history
  closed : ClosedBut known history

/-- What is known where an exception is raised: an `OSError` is one that nothing caught. -/
def Stops (known : List Socket) : Raised → History → Prop
  | .gateway _, history => Sound known history
  | .osError, history => ¬ Clean history
  | .running, history => Clean history

/-- A run ends without an exception or with `EgressGatewayError`, and all its sockets are closed;
a run that goes on has not failed yet. -/
def Surfaces : Except Raised Unit → History → Prop
  | .error .osError, _ => False
  | .error .running, _ => True
  | _, history => ClosedBut [] history

end AmazonSimilarSearch.EgressGateway
