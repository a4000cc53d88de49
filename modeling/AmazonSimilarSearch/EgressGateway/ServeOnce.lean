import AmazonSimilarSearch.EgressGateway.Pipe

/-!
# One served peer

The parts of `serve_once` around the relay: the addresses that a resolver's
answer leaves, the attempts to connect, and the sockets that are closed at the
end. Every call that may fail is followed to what its failure raises.
-/
namespace AmazonSimilarSearch.EgressGateway
open Foundation Interaction

section
variable {ip : IpLibrary} {known : List Socket} {history : History}

/-! ## The addresses -/

/-- An entry of the answer that may be connected to. -/
def Approved (ip : IpLibrary) (infos : List AddressInfo) (address : SocketAddress) : Prop :=
  GlobalTarget ip address ∧ ∃ info ∈ infos, info.address = address

theorem targetIp?_eq_some {info : AddressInfo} {host : String} {address : ip.Ip}
    (h : targetIp? ip info = some (host, address)) :
    ∃ rest, info.address = .inet host targetPort rest ∧ ip.ipAddress host = some address := by
  rw [targetIp?] at h
  cases hinfo : info.address with
  | other =>
      rw [hinfo] at h
      cases h
  | inet name port rest =>
      rw [hinfo] at h
      simp only at h
      split at h
      · cases h
      · next hkeep =>
          obtain ⟨found, hfound, heq⟩ := Option.map_eq_some_iff.mp h
          cases heq
          have hport : port = targetPort := by
            by_contra hne
            exact hkeep (Or.inr (Or.inr (Or.inr hne)))
          exact ⟨rest, by rw [hport], hfound⟩

/-- A round keeps the addresses and may add the one of its entry. -/
theorem collectAddress_ok {collected next : Collected} {info : AddressInfo}
    (h : collectAddress ip collected info = .ok next) :
    ∀ entry ∈ next.addresses, entry ∈ collected.addresses ∨ Approved ip [info] entry.2 := by
  rw [collectAddress] at h
  cases htarget : targetIp? ip info with
  | none =>
      rw [htarget] at h
      cases h
      exact fun entry hentry => Or.inl hentry
  | some target =>
      obtain ⟨host, address⟩ := target
      rw [htarget] at h
      obtain ⟨_, hglobal, hrest⟩ := bind_eq_ok_iff.mp h
      obtain ⟨_, _, hnext⟩ := bind_eq_ok_iff.mp hrest
      have hisGlobal := ensure_eq_ok_iff.mp hglobal
      obtain ⟨rest, hinfo, hhost⟩ := targetIp?_eq_some htarget
      have happroved : Approved ip [info] info.address := by
        refine ⟨?_, info, List.mem_singleton_self info, rfl⟩
        rw [hinfo]
        exact ⟨rfl, address, hhost, hisGlobal⟩
      have heq := (pure_eq_ok_iff.mp hnext).symm
      intro entry hentry
      rw [heq] at hentry
      split at hentry
      · exact Or.inl hentry
      · rcases List.mem_append.mp hentry with hentry | hentry
        · exact Or.inl hentry
        · rw [List.mem_singleton.mp hentry]
          exact Or.inr happroved

theorem foldlM_collectAddress_ok {infos : List AddressInfo} {collected next : Collected}
    (h : infos.foldlM (collectAddress ip) collected = .ok next) :
    ∀ entry ∈ next.addresses, entry ∈ collected.addresses ∨ Approved ip infos entry.2 := by
  induction infos generalizing collected with
  | nil =>
      cases h
      exact fun entry hentry => Or.inl hentry
  | cons info infos ih =>
      rw [List.foldlM_cons] at h
      obtain ⟨middle, hmiddle, hrest⟩ := bind_eq_ok_iff.mp h
      intro entry hentry
      rcases ih hrest entry hentry with hbefore | ⟨hglobal, found, hfound, haddress⟩
      · rcases collectAddress_ok hmiddle entry hbefore with hold | ⟨hglobal, found, hfound, haddress⟩
        · exact Or.inl hold
        · rw [List.mem_singleton.mp hfound] at haddress
          exact Or.inr ⟨hglobal, info, List.mem_cons_self, haddress⟩
      · exact Or.inr ⟨hglobal, found, List.mem_cons_of_mem _ hfound, haddress⟩

theorem collectAddresses_ok {infos : List AddressInfo} {addresses : List TargetAddress}
    (h : collectAddresses ip infos = .ok addresses) :
    ∀ entry ∈ addresses, Approved ip infos entry.2 := by
  obtain ⟨collected, hcollected, hrest⟩ := bind_eq_ok_iff.mp h
  obtain ⟨_, _, hpure⟩ := bind_eq_ok_iff.mp hrest
  cases pure_eq_ok_iff.mp hpure
  intro entry hentry
  rcases foldlM_collectAddress_ok hcollected entry hentry with hnone | happroved
  · exact absurd hnone List.not_mem_nil
  · exact happroved

theorem validatePeer_ok {address : SocketAddress} (h : validatePeer ip address = .ok ()) :
    PrivatePeer ip address := by
  obtain ⟨peer, hpeer, hensure⟩ := bind_eq_ok_iff.mp h
  rw [required_eq_ok_iff] at hpeer
  cases address with
  | other => cases hpeer
  | inet host port rest => exact ⟨peer, hpeer, ensure_eq_ok_iff.mp hensure⟩

/-- The validators raise `EgressGatewayError` and nothing else. -/
theorem validatePeer_error {address : SocketAddress} {error : Raised}
    (h : validatePeer ip address = .error error) : ∃ message, error = .gateway message := by
  rcases bind_eq_error_iff.mp h with hrequired | ⟨peer, _, hensure⟩
  · exact ⟨_, (required_eq_error_iff.mp hrequired).2.symm⟩
  · exact ⟨_, (ensure_eq_error_iff.mp hensure).2.symm⟩

/-! ## Before the relay -/

/-- What is known before a byte has been relayed. -/
structure Starting (ip : IpLibrary) (known : List Socket) (addresses : List TargetAddress)
    (history : History) : Prop where
  sound : Sound known history
  silent : ∀ endpoint, received endpoint history = [] ∧ sent endpoint history = []
  resolved : ∀ entry ∈ addresses, ResolvedGlobal ip history entry.2

variable {addresses : List TargetAddress} {last : Exchange Query Answer}

theorem Starting.concat {after : List Socket} (h : Starting ip known addresses history)
    (hsilent : Silent last) (hsound : Sound after (history ++ [last])) :
    Starting ip after addresses (history ++ [last]) where
  sound := hsound
  silent endpoint := by
    rw [hsilent.received, hsilent.sent]
    exact h.silent endpoint
  resolved entry hentry := (h.resolved entry hentry).concat

/-- The calls that open a socket. -/
def creates : SocketCall → Bool
  | .create _ _ => true
  | _ => false

theorem not_opens_call {socketCall : SocketCall} (h : creates socketCall = false)
    (answer : Answer (.call socketCall)) (socket : Socket) :
    ¬ Opens socket ⟨.call socketCall, answer⟩ := by
  intro hopens
  cases answer with
  | error error => cases socketCall <;> exact hopens
  | ok answer =>
      cases socketCall with
      | create other family => cases h
      | _ => exact hopens

/-- A call that opens no socket and succeeds. -/
theorem Starting.called (h : Starting ip known addresses history) (socketCall : SocketCall)
    (hcreates : creates socketCall = false) :
    Starting ip known addresses (history ++ [⟨.call socketCall, .ok ()⟩]) :=
  h.concat (silent_call _ _) (h.sound.concat (fun h => h) (not_opens_call hcreates _))

theorem Relaying.called {state : RelayState} {pending : Endpoint → Bytes}
    (h : Relaying ip known state pending history) (socketCall : SocketCall)
    (hcreates : creates socketCall = false) :
    Relaying ip known state pending (history ++ [⟨.call socketCall, .ok ()⟩]) :=
  h.calm _ (silent_call _ _) (fun h => h) (not_opens_call hcreates _)

/-- A call that opens no socket, whether it fails or not. -/
theorem Starting.call {socketCall : SocketCall} {answer : Answer (.call socketCall)}
    (h : Starting ip known addresses history)
    (hcaught : ¬ Uncaught ⟨.call socketCall, answer⟩)
    (hopens : ∀ socket, ¬ Opens socket ⟨.call socketCall, answer⟩) :
    Starting ip known addresses (history ++ [⟨.call socketCall, answer⟩]) :=
  h.concat (silent_call _ _) (h.sound.concat hcaught hopens)

theorem Starting.of_cons {entry : TargetAddress} (h : Starting ip known (entry :: addresses) history) :
    Starting ip known addresses history :=
  ⟨h.sound, h.silent, fun other hother => h.resolved other (List.mem_cons_of_mem _ hother)⟩

/-- With a private peer the relay may start. -/
theorem Starting.relaying (h : Starting ip known addresses history)
    (haccepted : AcceptedPrivate ip history) :
    Relaying ip known ⟨[.peer, .target], fun _ => 0⟩ nothing history where
  sound := h.sound
  accepted := haccepted
  forwarded endpoint := by rw [(h.silent endpoint).1, (h.silent endpoint.other).2]; rfl
  counted endpoint := by rw [(h.silent endpoint).1]; rfl
  bounded endpoint := by
    rw [(h.silent endpoint).1]
    exact Nat.zero_le _
  ended endpoint hendpoint := by cases endpoint <;> simp at hendpoint

/-! ## Connecting -/

theorem meets_tryConnect (attempt : ℕ) {address : SocketAddress} {addresses : List TargetAddress}
    (h : Starting ip known addresses history) (haccepted : AcceptedPrivate ip history)
    (hresolved : ResolvedGlobal ip history address) :
    (tryConnect attempt address).Meets (Allowed ip)
      (fun _ after => Starting ip known addresses after ∧ AcceptedPrivate ip after)
      (fun _ after => Starting ip known addresses after ∧ AcceptedPrivate ip after) history := by
  have hcaught : ∀ (socketCall : SocketCall) (answer : Answer (.call socketCall)),
      isGuarded socketCall = true → ¬ Uncaught ⟨.call socketCall, answer⟩ := by
    intro socketCall answer hguarded huncaught
    cases answer with
    | ok answer => exact huncaught
    | error error => exact Bool.noConfusion (hguarded.symm.trans huncaught)
  rw [tryConnect, meets_bind]
  have hfirst : ∀ answer, Starting ip known addresses (history ++
      [⟨.call (.settimeout (.connection attempt) (some connectTimeoutSeconds)), answer⟩]) :=
    fun answer => h.call (hcaught _ _ rfl) (by cases answer <;> exact fun _ h => h)
  refine meets_call trivial ?_ fun error => ⟨hfirst (.error error), haccepted.concat⟩
  rw [meets_bind]
  have hsecond : ∀ answer, Starting ip known addresses ((history ++ _) ++
      [⟨.call (.connect attempt address), answer⟩]) :=
    fun answer => (hfirst (.ok ())).call (hcaught _ _ rfl) (by cases answer <;> exact fun _ h => h)
  refine meets_call hresolved.concat ?_ fun error => ⟨hsecond (.error error), haccepted.concat.concat⟩
  have hthird : ∀ answer, Starting ip known addresses (((history ++ _) ++ _) ++
      [⟨.call (.settimeout (.connection attempt) none), answer⟩]) :=
    fun answer => (hsecond (.ok ())).call (hcaught _ _ rfl) (by cases answer <;> exact fun _ h => h)
  exact meets_call trivial ⟨hthird (.ok ()), haccepted.concat.concat.concat⟩
    fun error => ⟨hthird (.error error), haccepted.concat.concat.concat⟩

/-- An attempt that fails closes its socket; the successful one is known from then on. -/
theorem meets_connectTarget (attempt : ℕ) (h : Starting ip known addresses history)
    (haccepted : AcceptedPrivate ip history) :
    (connectTarget attempt addresses).Meets (Allowed ip)
      (fun target after => Relaying ip (.connection target :: known)
        ⟨[.peer, .target], fun _ => 0⟩ nothing after) (Stops known) history := by
  induction addresses generalizing attempt history with
  | nil => exact h.sound
  | cons entry addresses ih =>
      obtain ⟨family, address⟩ := entry
      rw [connectTarget, meets_bind]
      have hcreate : Starting ip (.connection attempt :: known) ((family, address) :: addresses)
          (history ++ [⟨.call (.create (.connection attempt) family), .ok ()⟩]) :=
        h.concat (silent_call _ _) (h.sound.open (fun h => h) fun _ hopen => hopen.symm)
      refine meets_unguardedCall trivial rfl ?_
      rw [meets_bind, meets_attempt]
      apply (meets_tryConnect attempt hcreate haccepted.concat
        (hcreate.resolved (family, address) List.mem_cons_self)).imp
      · intro _ after hafter
        exact hafter.1.relaying hafter.2
      · intro error after hafter
        rw [meets_bind]
        refine meets_unguardedCall trivial rfl ?_
        have hclose : Starting ip known addresses
            (after ++ [⟨.call (.close (.connection attempt)), .ok ()⟩]) :=
          hafter.1.of_cons.concat (silent_call _ _) hafter.1.sound.close
        exact ih (attempt + 1) hclose hafter.2.concat

/-! ## The relay as a whole -/

theorem meets_relayBody (deadline : ℤ) (rounds : ℕ)
    (h : Relaying ip known ⟨[.peer, .target], fun _ => 0⟩ nothing history) :
    (relayBody deadline rounds).Meets (Allowed ip)
      (fun _ after => Finished after ∧ Sound known after) (Stops known) history := by
  rw [relayBody, meets_bind]
  have hregister : ∀ (endpoints : List Endpoint) (history : History),
      Relaying ip known ⟨[.peer, .target], fun _ => 0⟩ nothing history →
      (registerEndpoints endpoints).Meets (Allowed ip)
        (fun _ => Relaying ip known ⟨[.peer, .target], fun _ => 0⟩ nothing) (Stops known)
        history := by
    intro endpoints
    induction endpoints with
    | nil => exact fun _ h => h
    | cons endpoint endpoints ih =>
        intro history h
        rw [registerEndpoints, meets_bind]
        refine meets_unguardedCall trivial rfl ?_
        rw [meets_bind]
        refine meets_unguardedCall trivial rfl ?_
        apply ih
        exact (h.called (.setNonblocking endpoint) rfl).called (.register endpoint) rfl
  exact (hregister _ _ h).imp (fun _ _ hready => meets_relayLoop deadline rounds hready)
    fun _ _ hstops => hstops

theorem meets_relay (rounds : ℕ)
    (h : Relaying ip known ⟨[.peer, .target], fun _ => 0⟩ nothing history) :
    (relay rounds).Meets (Allowed ip)
      (fun _ after => Finished after ∧ Sound known after) (Stops known) history := by
  rw [relay, meets_bind]
  refine meets_unguardedCall trivial rfl ?_
  rw [meets_bind]
  apply meets_monotonic
  intro now
  have hstart := (h.called .createSelector rfl).calm ⟨.monotonic, now⟩
    ⟨fun _ => rfl, fun _ => rfl⟩ (fun h => h) fun _ h => h
  rw [meets_bind, meets_attempt]
  apply (meets_relayBody (now + relayTimeoutSeconds * nanoseconds) rounds hstart).imp
  · intro _ after hafter
    refine meets_unguardedCall trivial rfl ?_
    exact ⟨hafter.1.concat (silent_call _ _), hafter.2.concat (fun h => h) fun _ h => h⟩
  · intro error after hstops
    cases error with
    | gateway message =>
        simp only [reduceCtorEq, if_false]
        rw [meets_bind]
        refine meets_unguardedCall trivial rfl ?_
        exact Sound.concat hstops (fun h => h) fun _ h => h
    | osError =>
        simp only [reduceCtorEq, if_false]
        rw [meets_bind]
        refine meets_unguardedCall trivial rfl ?_
        exact not_clean_append hstops
    | running => exact hstops

/-! ## The sockets -/

/-- The sockets that the `finally` block closes. -/
def Opened.sockets (opened : Opened) : List Socket :=
  .listener :: ((if opened.peer then [.peer] else []) ++ opened.target.toList.map .connection)

/-- A close keeps what no close changes, and one socket less is open. -/
theorem meets_close {kept : History → Prop} {given : Prop} {socket : Socket} {opened : List Socket}
    (hkept : ∀ before after, kept before → kept (before ++ [⟨.call (.close after), .ok ()⟩]))
    (h : kept history ∧ (given → Sound (socket :: known) history)) :
    (call (.close socket)).Meets (Allowed ip)
      (fun _ after => kept after ∧ (given → Sound known after)) (Stops opened) history :=
  meets_unguardedCall trivial rfl ⟨hkept _ _ h.1, fun hgiven => (h.2 hgiven).close⟩

theorem meets_closeSockets (kept : History → Prop) (given : Prop) {opened : Opened}
    (hkept : ∀ before after, kept before → kept (before ++ [⟨.call (.close after), .ok ()⟩]))
    (h : kept history ∧ (given → Sound opened.sockets history)) :
    (closeSockets opened).Meets (Allowed ip)
      (fun _ after => kept after ∧ (given → Sound [] after)) (Stops []) history := by
  obtain ⟨peer, target⟩ := opened
  rw [closeSockets, meets_bind]
  apply (meets_close hkept h).imp _ fun _ _ hstops => hstops
  intro _ history h
  cases peer with
  | false =>
      cases target with
      | none => exact h
      | some attempt => exact meets_close hkept h
  | true =>
      simp only [if_true]
      rw [meets_bind]
      refine (meets_close hkept h).imp (fun _ after h => ?_) fun _ _ hstops => hstops
      cases target with
      | none => exact h
      | some attempt => exact meets_close hkept h

/-! ## The run -/

theorem meets_configureListener (h : Starting ip [.listener] addresses history) :
    configureListener.Meets (Allowed ip)
      (fun address after => Starting ip [.peer, .listener] addresses after ∧
        (⟨.accept, .ok address⟩ : Exchange Query Answer) ∈ after)
      (Stops [.listener]) history := by
  rw [configureListener, meets_bind]
  refine meets_unguardedCall trivial rfl ?_
  rw [meets_bind]
  refine meets_unguardedCall trivial rfl ?_
  rw [meets_bind]
  refine meets_unguardedCall trivial rfl ?_
  rw [meets_bind]
  refine meets_unguardedCall trivial rfl ?_
  rw [meets_bind, meets_query]
  refine ⟨trivial, fun answer => ?_⟩
  have hlistening := (((h.called .reuseAddress rfl).called (.bind listenHost listenPort) rfl).called
    (.listen 1) rfl).called (.settimeout .listener (some acceptTimeoutSeconds)) rfl
  cases answer with
  | error error => exact hlistening.sound.concat (fun h => h) fun _ h => h
  | ok address =>
      refine ⟨hlistening.concat ⟨fun _ => rfl, fun _ => rfl⟩
        (hlistening.sound.open (fun h => h) fun _ hopen => hopen), by simp⟩

/-- More sockets may be known. -/
theorem Sound.weaken {after : List Socket} (h : Sound known history)
    (hsubset : ∀ socket ∈ known, socket ∈ after) : Sound after history :=
  ⟨h.clean, fun socket hsocket => h.closed socket fun hmem => hsocket (hsubset socket hmem)⟩

theorem Stops.weaken {after : List Socket} {error : Raised} (h : Stops known error history)
    (hsubset : ∀ socket ∈ known, socket ∈ after) : Stops after error history := by
  cases error with
  | gateway message => exact Sound.weaken h hsubset
  | osError => exact h
  | running => exact h

theorem meets_during {α : Type} (opened : Opened) {x : Gateway α} {returns : α → History → Prop}
    (h : x.Meets (Allowed ip) returns (Stops opened.sockets) history) :
    (during opened x).Meets (Allowed ip) returns
      (fun stopped => Stops stopped.opened.sockets stopped.error) history := by
  rw [during, meets_mapError]
  exact h

theorem meets_serveBody (rounds : ℕ) (h : Starting ip [.listener] addresses history) :
    (serveBody ip rounds addresses).Meets (Allowed ip)
      (fun target after => Finished after ∧
        Sound (Opened.sockets { peer := true, target := some target }) after)
      (fun stopped => Stops stopped.opened.sockets stopped.error) history := by
  rw [serveBody, meets_bind]
  apply (meets_during {} (meets_configureListener h)).imp _ fun _ _ hstops => hstops
  intro peerAddress history hlistening
  obtain ⟨hstarting, haccepted⟩ := hlistening
  have hknown : ∀ socket ∈ [Socket.peer, .listener],
      socket ∈ Opened.sockets { peer := true } := by
    intro socket hsocket
    simpa [Opened.sockets, or_comm] using hsocket
  have hconnect : (do
      .ofExcept (validatePeer ip peerAddress)
      connectTarget 0 addresses : Gateway ℕ).Meets (Allowed ip)
      (fun target after => Relaying ip [.connection target, .peer, .listener]
        ⟨[.peer, .target], fun _ => 0⟩ nothing after)
      (Stops (Opened.sockets { peer := true })) history := by
    rw [meets_bind, meets_ofExcept]
    constructor
    · intro _ hvalid
      exact (meets_connectTarget 0 hstarting ⟨peerAddress, haccepted, validatePeer_ok hvalid⟩).imp
        (fun _ _ h => h) fun _ _ hstops => hstops.weaken hknown
    · intro error herror
      obtain ⟨message, rfl⟩ := validatePeer_error herror
      exact hstarting.sound.weaken hknown
  rw [meets_bind]
  apply (meets_during _ hconnect).imp _ fun _ _ hstops => hstops
  intro target history hrelaying
  have hall : ∀ socket ∈ [Socket.connection target, .peer, .listener],
      socket ∈ Opened.sockets { peer := true, target := some target } := by
    intro socket hsocket
    simpa [Opened.sockets, or_comm, or_assoc, or_left_comm] using hsocket
  have hrelay : (relay rounds).Meets (Allowed ip)
      (fun _ after => Finished after ∧
        Sound (Opened.sockets { peer := true, target := some target }) after)
      (Stops (Opened.sockets { peer := true, target := some target })) history :=
    (meets_relay rounds hrelaying).imp (fun _ _ h => ⟨h.1, h.2.weaken hall⟩)
      fun _ _ hstops => hstops.weaken hall
  rw [meets_bind]
  exact (meets_during _ hrelay).imp (fun _ _ h => h) fun _ _ hstops => hstops

theorem starting_of_resolved {infos : List AddressInfo}
    (h : collectAddresses ip infos = .ok addresses) :
    Starting ip [] addresses [⟨.resolve targetHost targetPort, .ok infos⟩] where
  sound := by
    refine ⟨?_, fun socket _ => followed_of_forall_not ?_⟩
    · intro exchange hmem
      rw [List.mem_singleton.mp hmem]
      exact fun h => h
    · intro exchange hmem
      rw [List.mem_singleton.mp hmem]
      exact fun h => h
  silent _ := ⟨rfl, rfl⟩
  resolved entry hentry := by
    obtain ⟨hglobal, info, hinfo, haddress⟩ := collectAddresses_ok h entry hentry
    exact ⟨hglobal, infos, info, List.mem_singleton_self _, hinfo, haddress⟩

/-- Without an opened socket and without a failure nothing has to be closed. -/
theorem sound_of_resolve {answer : Answer (.resolve targetHost targetPort)} :
    Sound [] [⟨.resolve targetHost targetPort, answer⟩] := by
  refine ⟨?_, fun socket _ => followed_of_forall_not ?_⟩
  · intro exchange hmem
    rw [List.mem_singleton.mp hmem]
    exact fun h => h
  · intro exchange hmem
    rw [List.mem_singleton.mp hmem]
    exact fun h => h

theorem validateEnvironment_error {environment : List (String × String)} {error : Raised}
    (h : validateEnvironment environment = .error error) : ∃ message, error = .gateway message := by
  rw [validateEnvironment] at h
  rcases bind_eq_error_iff.mp h with hforbidden | ⟨_, _, hmissing⟩
  · exact ⟨_, (ensure_eq_error_iff.mp hforbidden).2.symm⟩
  · exact ⟨_, (ensure_eq_error_iff.mp hmissing).2.symm⟩

theorem foldlM_collectAddress_error {infos : List AddressInfo} {collected : Collected}
    {error : Raised} (h : infos.foldlM (collectAddress ip) collected = .error error) :
    ∃ message, error = .gateway message := by
  induction infos generalizing collected with
  | nil => cases h
  | cons info infos ih =>
      rw [List.foldlM_cons] at h
      rcases bind_eq_error_iff.mp h with hround | ⟨next, _, hrest⟩
      · rw [collectAddress] at hround
        split at hround
        · cases hround
        · rcases bind_eq_error_iff.mp hround with hforbidden | ⟨_, _, hround⟩
          · exact ⟨_, (ensure_eq_error_iff.mp hforbidden).2.symm⟩
          · rcases bind_eq_error_iff.mp hround with hlimit | ⟨_, _, hpure⟩
            · exact ⟨_, (ensure_eq_error_iff.mp hlimit).2.symm⟩
            · cases hpure
      · exact ih hrest

theorem collectAddresses_error {infos : List AddressInfo} {error : Raised}
    (h : collectAddresses ip infos = .error error) : ∃ message, error = .gateway message := by
  rcases bind_eq_error_iff.mp h with hloop | ⟨collected, _, hrest⟩
  · exact foldlM_collectAddress_error hloop
  · rcases bind_eq_error_iff.mp hrest with hnone | ⟨_, _, hpure⟩
    · exact ⟨_, (ensure_eq_error_iff.mp hnone).2.symm⟩
    · cases hpure

/-- The whole run, from the beginning. -/
theorem meets_serveOnce (ip : IpLibrary) (rounds : ℕ) (environment : List (String × String)) :
    (serveOnce ip rounds environment).Meets (Allowed ip)
      (fun _ after => Finished after ∧ Sound [] after) (Stops []) [] := by
  rw [serveOnce, meets_bind, meets_ofExcept]
  constructor
  swap
  · intro error herror
    obtain ⟨message, rfl⟩ := validateEnvironment_error herror
    exact ⟨fun exchange hmem => absurd hmem List.not_mem_nil,
      fun socket _ => followed_of_forall_not fun exchange hmem => absurd hmem List.not_mem_nil⟩
  · intro _ _
    rw [meets_bind, validatedTargetAddresses, meets_bind, meets_query]
    refine ⟨trivial, fun answer => ?_⟩
    cases answer with
    | error error => exact sound_of_resolve
    | ok infos =>
        rw [List.nil_append]
        apply meets_ofExcept.mpr
        constructor
        swap
        · intro error herror
          obtain ⟨message, rfl⟩ := collectAddresses_error herror
          exact sound_of_resolve
        · intro addresses haddresses
          have hresolved := starting_of_resolved haddresses
          rw [meets_bind]
          refine meets_unguardedCall trivial rfl ?_
          have hlistener : Starting ip [.listener] addresses (_ ++
              [⟨.call (.create .listener afInet), .ok ()⟩]) :=
            hresolved.concat (silent_call _ _)
              (hresolved.sound.open (fun h => h) fun _ hopen => hopen.symm)
          rw [meets_bind, meets_attempt]
          apply (meets_serveBody rounds hlistener).imp
          · intro target after hafter
            apply (meets_closeSockets Finished True
              (fun _ _ h => h.concat (silent_call _ _)) ⟨hafter.1, fun _ => hafter.2⟩).imp
            · exact fun _ _ h => ⟨h.1, h.2 trivial⟩
            · exact fun _ _ hstops => hstops
          · intro stopped after hstops
            obtain ⟨error, opened⟩ := stopped
            cases error with
            | gateway message =>
                simp only [reduceCtorEq, if_false]
                rw [meets_bind]
                exact (meets_closeSockets (fun _ => True) True
                  (fun _ _ h => h) ⟨trivial, fun _ => hstops⟩).imp
                  (fun _ _ h => h.2 trivial) fun _ _ hstops => hstops
            | osError =>
                simp only [reduceCtorEq, if_false]
                rw [meets_bind]
                exact (meets_closeSockets (fun after => ¬ Clean after) False
                  (fun _ _ h => not_clean_append h) ⟨hstops, False.elim⟩).imp
                  (fun _ _ h => h.1) fun _ _ hstops => hstops
            | running => exact hstops

end

/-- Every run is a pipe: it asks only for what its contract allows, each of its prefixes has sent
beginnings of what it had received, and it returns only when all of it has been forwarded and all
sockets are closed. It surfaces as the gateway's own exception exactly when no call answered an
`OSError` that nothing catches. -/
theorem serveOnce_surfaces_iff (ip : IpLibrary) (rounds : ℕ)
    (environment : List (String × String)) (network : Network) :
    let run := (serveOnce ip rounds environment).run network []
    Respects (Allowed ip) run.2 ∧
    (∀ moment, moment <+: run.2 → Piped moment) ∧
    Returned (fun _ => Finished run.2 ∧ ClosedBut [] run.2) run.1 ∧
    (Surfaces run.1 run.2 ↔ Clean run.2) := by
  intro run
  have hmeets := meets_serveOnce ip rounds environment
  have hrespects : Respects (Allowed ip) run.2 := hmeets.respects respects_nil
  obtain ⟨hok, herror⟩ := hmeets.outcome network
  refine ⟨hrespects, ?_, returned_iff.mpr fun value hvalue => ?_, ?_⟩
  · rintro moment ⟨rest, hrest⟩
    apply piped_of_respects ip
    intro before exchange middle heq
    exact hrespects before exchange (middle ++ rest) (by rw [← hrest, heq]; simp)
  · obtain ⟨hfinished, hsound⟩ := hok value hvalue
    exact ⟨hfinished, hsound.closed⟩
  · have hcases : ∀ result, run.1 = result → (Surfaces result run.2 ↔ Clean run.2) := by
      intro result hresult
      cases result with
      | ok value =>
          have hsound := (hok value hresult).2
          exact iff_of_true hsound.closed hsound.clean
      | error error =>
          have hstops := herror error hresult
          cases error with
          | gateway message => exact iff_of_true hstops.closed hstops.clean
          | osError => exact iff_of_false (fun h => h) hstops
          | running => exact iff_of_true trivial hstops
    exact hcases run.1 rfl

/-- The classification of a global address and of a private one. -/
def twoAddresses : IpLibrary where
  Ip := String
  ipAddress := some
  compressed := id
  isGlobal host := host == "104.18.33.45"
  isPrivate host := host == "172.18.0.2"
  isLoopback _ := false
  isLinkLocal _ := false
  isMulticast _ := false

/-- The peer connects and is readable, and its connection has been reset. -/
def resetNetwork : Network := fun _ query =>
  match query with
  | .resolve _ port => .ok [⟨afInet, sockStream, ipprotoTcp, .inet "104.18.33.45" port []⟩]
  | .call _ => .ok ()
  | .accept => .ok (.inet "172.18.0.2" 50000 [])
  | .monotonic => (0 : ℤ)
  | .select registered _ =>
      .ok ⟨registered.take 1, by cases registered <;> simp, List.take_subset 1 registered⟩
  | .recv _ _ => .error .other
  | .send _ _ => .ok ⟨0, Nat.zero_le _⟩

/-- The reset of the peer's connection ends the run as an `OSError`. -/
theorem serveOnce_connectionReset :
    let run := (serveOnce twoAddresses 1 [("AI_REVIEW_EGRESS_GATEWAY", "1")]).run resetNetwork []
    run.1 = .error .osError ∧ ¬ Surfaces run.1 run.2 := by
  intro run
  have hraised : run.1 = .error .osError := by decide
  exact ⟨hraised, hraised ▸ fun h => h⟩

end AmazonSimilarSearch.EgressGateway
