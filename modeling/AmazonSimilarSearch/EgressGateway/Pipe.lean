import AmazonSimilarSearch.EgressGateway.Contract

/-!
# The gateway as a pipe

What a relay keeps between two queries is stated once; every exchange either
moves bytes or keeps all of it. The loops follow by induction on their rounds,
and the laws of a whole run from the contract of its queries.
-/
namespace AmazonSimilarSearch.EgressGateway
open Foundation Interaction

/-! ## One more exchange -/

@[simp] theorem Endpoint.other_other (endpoint : Endpoint) : endpoint.other.other = endpoint := by
  cases endpoint <;> rfl

section Histories

variable {history : History} {last : Exchange Query Answer} {endpoint : Endpoint}

theorem received_concat :
    received endpoint (history ++ [last]) = received endpoint history ++ receivedBy endpoint last := by
  rw [received, List.flatMap_append, List.flatMap_singleton, received]

theorem sent_concat :
    sent endpoint (history ++ [last]) = sent endpoint history ++ sentBy endpoint last := by
  rw [sent, List.flatMap_append, List.flatMap_singleton, sent]

/-- An exchange that moves no byte. -/
structure Silent (exchange : Exchange Query Answer) : Prop where
  receives : ∀ endpoint, receivedBy endpoint exchange = []
  sends : ∀ endpoint, sentBy endpoint exchange = []

theorem Silent.received (h : Silent last) :
    received endpoint (history ++ [last]) = EgressGateway.received endpoint history := by
  rw [received_concat, h.receives, List.append_nil]

theorem Silent.sent (h : Silent last) :
    sent endpoint (history ++ [last]) = EgressGateway.sent endpoint history := by
  rw [sent_concat, h.sends, List.append_nil]

theorem silent_call (socketCall : SocketCall) (answer : Answer (.call socketCall)) :
    Silent ⟨.call socketCall, answer⟩ := ⟨fun _ => rfl, fun _ => rfl⟩

theorem Ended.concat (h : Ended endpoint history) : Ended endpoint (history ++ [last]) := by
  obtain ⟨size, chunk, hmem, hempty⟩ := h
  exact ⟨size, chunk, List.mem_append_left _ hmem, hempty⟩

theorem AcceptedPrivate.concat {ip : IpLibrary} (h : AcceptedPrivate ip history) :
    AcceptedPrivate ip (history ++ [last]) := by
  obtain ⟨address, hmem, hprivate⟩ := h
  exact ⟨address, List.mem_append_left _ hmem, hprivate⟩

theorem ResolvedGlobal.concat {ip : IpLibrary} {address : SocketAddress}
    (h : ResolvedGlobal ip history address) : ResolvedGlobal ip (history ++ [last]) address := by
  obtain ⟨hglobal, infos, info, hmem, hinfo⟩ := h
  exact ⟨hglobal, infos, info, List.mem_append_left _ hmem, hinfo⟩

theorem Finished.concat (h : Finished history) (hsilent : Silent last) :
    Finished (history ++ [last]) := by
  intro endpoint
  rw [hsilent.sent, hsilent.received]
  exact ⟨(h endpoint).1.concat, (h endpoint).2⟩

theorem not_clean_concat (h : Uncaught last) : ¬ Clean (history ++ [last]) :=
  fun hclean => hclean last (by simp) h

theorem not_clean_append (h : ¬ Clean history) : ¬ Clean (history ++ [last]) :=
  fun hclean => h fun exchange hmem => hclean exchange (List.mem_append_left _ hmem)

theorem Clean.concat (h : Clean history) (hlast : ¬ Uncaught last) : Clean (history ++ [last]) := by
  intro exchange hmem
  rcases List.mem_append.mp hmem with hmem | hmem
  · exact h exchange hmem
  · rw [List.mem_singleton.mp hmem]
    exact hlast

variable {known : List Socket} {socket : Socket}

/-- An exchange that opens no unknown socket and raises nothing that is not caught. -/
theorem Sound.concat (h : Sound known history) (hlast : ¬ Uncaught last)
    (hopens : ∀ socket, ¬ Opens socket last) : Sound known (history ++ [last]) := by
  refine ⟨h.clean.concat hlast, fun socket hknown => (h.closed socket hknown).append ?_⟩
  intro exchange hmem
  rw [List.mem_singleton.mp hmem]
  exact hopens socket

/-- A socket that is opened becomes known. -/
theorem Sound.open (h : Sound known history) (hlast : ¬ Uncaught last)
    (hopens : ∀ other, Opens other last → other = socket) :
    Sound (socket :: known) (history ++ [last]) := by
  refine ⟨h.clean.concat hlast, fun other hother => ?_⟩
  rw [List.mem_cons, not_or] at hother
  apply (h.closed other hother.2).append
  intro exchange hmem hopen
  rw [List.mem_singleton.mp hmem] at hopen
  exact hother.1 (hopens other hopen)

/-- A socket that is closed need not be known any more. -/
theorem Sound.close (h : Sound (socket :: known) history) :
    Sound known (history ++ [⟨.call (.close socket), .ok ()⟩]) := by
  refine ⟨h.clean.concat (fun h => h), fun other hother => ?_⟩
  by_cases hsame : other = socket
  · exact followed_concat (show socket = other from hsame.symm) (fun h => h)
  · apply (h.closed other (by simp [hsame, hother])).append
    intro exchange hmem
    rw [List.mem_singleton.mp hmem]
    exact fun h => h

end Histories

/-! ## What every prefix shows -/

/-- The contract of the queries makes the run a pipe. -/
theorem piped_of_respects (ip : IpLibrary) {history : History}
    (h : Respects (Allowed ip) history) : Piped history := by
  induction history using List.reverseRecOn with
  | nil =>
      intro endpoint
      exact ⟨List.nil_prefix, Nat.zero_le _⟩
  | append_singleton history last ih =>
      have hbefore : Respects (Allowed ip) history := by
        intro before exchange rest heq
        exact h before exchange (rest ++ [last]) (by rw [heq]; simp)
      have hallowed : Allowed ip history last.1 := h history last [] rfl
      intro endpoint
      obtain ⟨hbegins, hbound⟩ := ih hbefore endpoint
      rw [received_concat, sent_concat]
      by_cases hsends : sentBy endpoint.other last = []
      · rw [hsends, List.append_nil]
        exact ⟨hbegins.trans (List.prefix_append _ _), hbound⟩
      · -- only a send sends: it takes a beginning of what is pending
        obtain ⟨query, answer⟩ := last
        cases query with
        | send destination view =>
            cases answer with
            | error error => exact absurd rfl hsends
            | ok written =>
                have hdestination : destination = endpoint.other := by
                  by_contra hne
                  exact hsends (if_neg hne)
                subst hdestination
                obtain ⟨-, hreceived, hlimit⟩ := hallowed
                rw [Endpoint.other_other] at hreceived hlimit
                have htake : sent endpoint.other history ++ view.take written.1 <+:
                    received endpoint history := by
                  rw [hreceived]
                  exact List.prefix_append_right_inj _ |>.mpr (List.take_prefix _ _)
                have hsent : sentBy endpoint.other ⟨.send endpoint.other view, .ok written⟩ =
                    view.take written.1 := if_pos rfl
                rw [hsent]
                exact ⟨htake.trans (List.prefix_append _ _), htake.length_le.trans hlimit⟩
        | _ => exact absurd rfl hsends

/-! ## The relay -/

section
variable {ip : IpLibrary} {known : List Socket}

/-- What is known between two queries of the relay, with what has been received from each side
and not been sent yet. -/
structure Relaying (ip : IpLibrary) (known : List Socket) (state : RelayState)
    (pending : Endpoint → Bytes) (history : History) : Prop where
  sound : Sound known history
  accepted : AcceptedPrivate ip history
  forwarded : ∀ endpoint,
    received endpoint history = sent endpoint.other history ++ pending endpoint
  counted : ∀ endpoint, state.byteCounts endpoint = (received endpoint history).length
  bounded : ∀ endpoint, (received endpoint history).length ≤ maxBytesPerDirection
  ended : ∀ endpoint, endpoint ∉ state.registered → Ended endpoint history

/-- Nothing is pending. -/
def nothing : Endpoint → Bytes := fun _ => []

/-- Only bytes of one side are pending. -/
def held (source : Endpoint) (view : Bytes) : Endpoint → Bytes :=
  fun endpoint => if endpoint = source then view else []

theorem held_nil (source : Endpoint) : held source [] = nothing := by
  funext endpoint
  exact ite_self _

variable {state : RelayState} {pending : Endpoint → Bytes} {history : History}
  {last : Exchange Query Answer}

/-- An exchange that moves nothing keeps what is known. -/
theorem Relaying.concat {after : List Socket} (h : Relaying ip known state pending history)
    (hsilent : Silent last) (hsound : Sound after (history ++ [last])) :
    Relaying ip after state pending (history ++ [last]) where
  sound := hsound
  accepted := h.accepted.concat
  forwarded endpoint := by rw [hsilent.received, hsilent.sent, h.forwarded]
  counted endpoint := by rw [hsilent.received, h.counted]
  bounded endpoint := by
    rw [hsilent.received]
    exact h.bounded endpoint
  ended endpoint hendpoint := (h.ended endpoint hendpoint).concat

/-- The same for an exchange that opens nothing and that is no failure. -/
theorem Relaying.calm (h : Relaying ip known state pending history)
    (last : Exchange Query Answer) (hsilent : Silent last)
    (hlast : ¬ Uncaught last) (hopens : ∀ socket, ¬ Opens socket last) :
    Relaying ip known state pending (history ++ [last]) :=
  h.concat hsilent (h.sound.concat hlast hopens)

/-- A chunk that has been received is pending. -/
theorem Relaying.recv {source : Endpoint} {size : ℕ} {chunk : {chunk : Bytes // chunk.length ≤ size}}
    (h : Relaying ip known state nothing history)
    (hlimit : state.byteCounts source + chunk.1.length ≤ maxBytesPerDirection) :
    Relaying ip known
      { state with byteCounts :=
          Function.update state.byteCounts source (state.byteCounts source + chunk.1.length) }
      (held source chunk.1) (history ++ [⟨.recv source size, .ok chunk⟩]) := by
  have hreceived : ∀ endpoint, receivedBy endpoint ⟨.recv source size, .ok chunk⟩ =
      if source = endpoint then chunk.1 else [] := fun _ => rfl
  refine ⟨h.sound.concat (fun h => h) (fun _ h => h), h.accepted.concat, ?_, ?_, ?_,
    fun endpoint hendpoint => (h.ended endpoint hendpoint).concat⟩
  · intro endpoint
    have hforwarded : received endpoint history = sent endpoint.other history := by
      rw [h.forwarded, nothing, List.append_nil]
    rw [received_concat, sent_concat, hreceived, hforwarded,
      show sentBy endpoint.other ⟨.recv source size, .ok chunk⟩ = [] from rfl, List.append_nil, held]
    simp only [eq_comm]
  · intro endpoint
    rw [received_concat, hreceived, List.length_append, ← h.counted]
    by_cases hsource : source = endpoint
    · subst hsource
      rw [if_pos rfl]
      exact Function.update_self _ _ _
    · rw [if_neg hsource, List.length_nil, Nat.add_zero]
      exact Function.update_of_ne (Ne.symm hsource) _ _
  · intro endpoint
    rw [received_concat, hreceived, List.length_append]
    by_cases hsource : source = endpoint
    · subst hsource
      rw [if_pos rfl, ← h.counted]
      exact hlimit
    · rw [if_neg hsource, List.length_nil, Nat.add_zero]
      exact h.bounded endpoint

/-- What has been written is not pending any more. -/
theorem Relaying.send {source : Endpoint} {view : Bytes}
    (h : Relaying ip known state (held source view) history)
    (written : {written : ℕ // written ≤ view.length}) :
    Relaying ip known state (held source (view.drop written.1))
      (history ++ [⟨.send source.other view, .ok written⟩]) := by
  have hreceived : ∀ endpoint,
      receivedBy endpoint ⟨.send source.other view, .ok written⟩ = [] := fun _ => rfl
  have hsent : ∀ endpoint, sentBy endpoint ⟨.send source.other view, .ok written⟩ =
      if source.other = endpoint then view.take written.1 else [] := fun _ => rfl
  refine ⟨h.sound.concat (fun h => h) (fun _ h => h), h.accepted.concat, ?_, ?_, ?_,
    fun endpoint hendpoint => (h.ended endpoint hendpoint).concat⟩
  · intro endpoint
    rw [received_concat, sent_concat, hreceived, hsent, List.append_nil, h.forwarded, held, held]
    by_cases hsource : endpoint = source
    · subst hsource
      rw [if_pos rfl, if_pos rfl, if_pos rfl, List.append_assoc, List.take_append_drop]
    · have hother : source.other ≠ endpoint.other := by
        intro heq
        have := congrArg Endpoint.other heq
        rw [Endpoint.other_other, Endpoint.other_other] at this
        exact hsource this.symm
      rw [if_neg hsource, if_neg hsource, if_neg hother, List.append_nil, List.append_nil]
  · intro endpoint
    rw [received_concat, hreceived, List.append_nil, h.counted]
  · intro endpoint
    rw [received_concat, hreceived, List.append_nil]
    exact h.bounded endpoint

/-- An endpoint whose stream has ended is not registered any more. -/
theorem Relaying.erase {source : Endpoint} (h : Relaying ip known state pending history)
    (hended : Ended source history) :
    Relaying ip known { state with registered := state.registered.erase source } pending
      history where
  sound := h.sound
  accepted := h.accepted
  forwarded := h.forwarded
  counted := h.counted
  bounded := h.bounded
  ended endpoint hendpoint := by
    by_cases hsame : endpoint = source
    · rw [hsame]
      exact hended
    · exact h.ended endpoint fun hmem => hendpoint ((List.mem_erase_of_ne hsame).mpr hmem)

/-- With no endpoint left, everything has been forwarded. -/
theorem Relaying.finished (h : Relaying ip known state nothing history)
    (hregistered : state.registered = []) : Finished history := by
  intro endpoint
  refine ⟨h.ended endpoint (by rw [hregistered]; exact List.not_mem_nil), ?_⟩
  rw [h.forwarded, nothing, List.append_nil]

/-! ## The loops -/

/-- A call whose failure nothing catches. -/
theorem meets_call {socketCall : SocketCall} {returns : Unit → History → Prop}
    {raises : Raised → History → Prop} (hallowed : Allowed ip history (.call socketCall))
    (hreturns : returns () (history ++ [⟨.call socketCall, .ok ()⟩]))
    (hraises : ∀ error, raises .osError (history ++ [⟨.call socketCall, .error error⟩])) :
    (call socketCall).Meets (Allowed ip) returns raises history := by
  rw [call, meets_bind, meets_query]
  refine ⟨hallowed, fun answer => ?_⟩
  cases answer with
  | error error => exact hraises error
  | ok answer => exact hreturns

/-- A failure of an unguarded call ends the run. -/
theorem meets_unguardedCall {socketCall : SocketCall} {returns : Unit → History → Prop}
    (hallowed : Allowed ip history (.call socketCall)) (hguarded : isGuarded socketCall = false)
    (hreturns : returns () (history ++ [⟨.call socketCall, .ok ()⟩])) :
    (call socketCall).Meets (Allowed ip) returns (Stops known) history :=
  meets_call hallowed hreturns fun _ => not_clean_concat hguarded

theorem meets_monotonic {returns : ℤ → History → Prop} {raises : Raised → History → Prop}
    (h : ∀ now, returns now (history ++ [⟨.monotonic, now⟩])) :
    monotonic.Meets (Allowed ip) returns raises history :=
  ⟨trivial, h⟩

theorem meets_sendAll (deadline : ℤ) (source : Endpoint) (rounds : ℕ) {view : Bytes}
    (h : Relaying ip known state (held source view) history) :
    (sendAll source.other deadline rounds view).Meets (Allowed ip)
      (fun _ => Relaying ip known state nothing) (Stops known) history := by
  induction rounds generalizing view history with
  | zero =>
      rw [sendAll]
      by_cases hview : view = []
      · subst hview
        rw [held_nil] at h
        rw [if_pos rfl]
        exact h
      · rw [if_neg hview]
        exact h.sound.clean
  | succ rounds ih =>
      rw [sendAll]
      by_cases hview : view = []
      · subst hview
        rw [held_nil] at h
        rw [if_pos rfl]
        exact h
      · rw [if_neg hview, meets_bind, meets_query]
        have hpending : received source.other.other history =
            sent source.other history ++ view := by
          rw [Endpoint.other_other, h.forwarded, held, if_pos rfl]
        refine ⟨⟨h.accepted, hpending, h.bounded _⟩, fun answer => ?_⟩
        rcases answer with (_ | _) | written
        · -- the call would block
          have hcalm := h.calm ⟨.send source.other view, .error .blocking⟩
            ⟨fun _ => rfl, fun _ => rfl⟩ (fun h => h) (fun _ h => h)
          rw [meets_bind]
          apply meets_monotonic
          intro now
          have hnow := hcalm.calm ⟨.monotonic, now⟩
            ⟨fun _ => rfl, fun _ => rfl⟩ (fun h => h) (fun _ h => h)
          rw [meets_bind, meets_ensure]
          exact ⟨fun _ => ih hnow, fun _ => hnow.sound⟩
        · exact not_clean_concat trivial
        · have hsent := h.send written
          rw [meets_bind, meets_ensure]
          exact ⟨fun _ => ih hsent, fun _ => hsent.sound⟩

theorem meets_relayEvent (deadline : ℤ) (rounds : ℕ) (source : Endpoint)
    (h : Relaying ip known state nothing history) :
    (relayEvent deadline rounds state source).Meets (Allowed ip)
      (fun next => Relaying ip known next nothing) (Stops known) history := by
  rw [relayEvent, meets_bind, meets_query]
  refine ⟨h.accepted, fun answer => ?_⟩
  rcases answer with (_ | _) | chunk
  · exact h.calm _ ⟨fun _ => rfl, fun _ => rfl⟩ (fun h => h) (fun _ h => h)
  · exact not_clean_concat trivial
  · by_cases hempty : chunk.1 = []
    · simp only [if_pos hempty]
      have hsilent : Silent ⟨.recv source recvSize, .ok chunk⟩ := by
        refine ⟨fun endpoint => ?_, fun _ => rfl⟩
        rw [receivedBy, hempty, ite_self]
      have hcalm := h.calm _ hsilent (fun h => h) (fun _ h => h)
      have hended : Ended source (history ++ [⟨.recv source recvSize, .ok chunk⟩]) :=
        ⟨recvSize, chunk, by simp, hempty⟩
      rw [meets_bind, meets_query]
      refine ⟨trivial, fun answer => ?_⟩
      have hshutdown := hcalm.calm _ (silent_call (.shutdown source.other) answer)
        (by cases answer <;> exact fun h => nomatch h) (by cases answer <;> exact fun _ h => h)
      exact hshutdown.erase hended.concat
    · simp only [if_neg hempty]
      rw [meets_bind, meets_ensure]
      constructor
      · intro hlimit
        rw [meets_bind]
        exact (meets_sendAll deadline source rounds (h.recv hlimit)).imp
          (fun _ _ hsent => hsent) fun _ _ hstops => hstops
      · intro _
        exact h.sound.concat (fun h => h) (fun _ h => h)

theorem meets_relayEvents (deadline : ℤ) (rounds : ℕ) (events : List Endpoint)
    (h : Relaying ip known state nothing history) :
    (relayEvents deadline rounds state events).Meets (Allowed ip)
      (fun next => Relaying ip known next nothing) (Stops known) history := by
  induction events generalizing state history with
  | nil => exact h
  | cons source events ih =>
      rw [relayEvents, meets_bind]
      exact (meets_relayEvent deadline rounds source h).imp (fun _ _ hnext => ih hnext)
        fun _ _ hstops => hstops

/-- What has been relayed when the loop ends is everything. -/
theorem meets_relayLoop (deadline : ℤ) (rounds : ℕ)
    (h : Relaying ip known state nothing history) :
    (relayLoop deadline rounds state).Meets (Allowed ip)
      (fun _ after => Finished after ∧ Sound known after) (Stops known) history := by
  induction rounds generalizing state history with
  | zero =>
      rw [relayLoop]
      by_cases hregistered : state.registered = []
      · rw [if_pos hregistered]
        exact ⟨h.finished hregistered, h.sound⟩
      · rw [if_neg hregistered]
        exact h.sound.clean
  | succ rounds ih =>
      rw [relayLoop]
      by_cases hregistered : state.registered = []
      · rw [if_pos hregistered]
        exact ⟨h.finished hregistered, h.sound⟩
      · rw [if_neg hregistered, meets_bind]
        apply meets_monotonic
        intro now
        have hnow := h.calm ⟨.monotonic, now⟩
          ⟨fun _ => rfl, fun _ => rfl⟩ (fun h => h) (fun _ h => h)
        rw [meets_bind, meets_ensure]
        refine ⟨fun _ => ?_, fun _ => hnow.sound⟩
        rw [meets_bind, meets_query]
        refine ⟨trivial, fun answer => ?_⟩
        cases answer with
        | error error => exact not_clean_concat trivial
        | ok events =>
            have hevents := hnow.calm
              ⟨.select state.registered (min (deadline - now) nanoseconds), .ok events⟩
              ⟨fun _ => rfl, fun _ => rfl⟩ (fun h => h) (fun _ h => h)
            rw [meets_bind]
            exact (meets_relayEvents deadline rounds events.1 hevents).imp
              (fun _ _ hnext => ih hnext) fun _ _ hstops => hstops

end

end AmazonSimilarSearch.EgressGateway
