import AmazonSimilarSearch.Attestation.NonceLedger
import AmazonSimilarSearch.Foundation.Holdings

/-!
# Histories of verifications

Any number of calls of `verify_attestation_set` share one nonce ledger. A call
checks its envelopes, reserves their nonces and returns; the calls take these
steps in any order, and a call may die between any two of them. `consumed`
records which nonces a call has put into the ledger.
-/
namespace AmazonSimilarSearch.Attestation
open Foundation

/-- How far a call has come. -/
inductive Stage where
  | checking
  | reserving (ordered : List SignedAttestation)
  | reserved (ordered : List SignedAttestation) (result : Except VerifyError Bool)
      (reserved : Bool)
  /-- `reserved` says whether the reservation had taken effect -/
  | raised (error : VerifyError) (reserved : Bool)
  | returned (ordered : List SignedAttestation) (verified : VerifiedAttestationSet)
  | crashed

structure VerifyCall (scheme : Ed25519) where
  arguments : VerifyArguments scheme
  stage : Stage
  consumed : List String

inductive VerifyEvent (ledger : NonceLedger) where
  | checks (clock : ℤ)
  | reserves (circumstances : ledger.Circumstances)
  | finishes
  | crashes

section
variable (H : HashFunction) {scheme : Ed25519} {ledger : NonceLedger}

/-- One step of a call, with the ledger it shares. A step that the call is not at changes
nothing. -/
def VerifyCall.step (call : VerifyCall scheme) (state : ledger.State) :
    VerifyEvent ledger → VerifyCall scheme × ledger.State
  | .checks clock => match call.stage with
    | .checking => match verifyEnvelopes H scheme call.arguments clock with
      | .ok ordered => ({ call with stage := .reserving ordered }, state)
      | .error error => ({ call with stage := .raised error false }, state)
    | _ => (call, state)
  | .reserves circumstances => match call.stage with
    | .reserving ordered =>
        let nonces := ordered.map SignedAttestation.nonce
        let reservation := ledger.reserveMany circumstances nonces state
        ({ call with
            stage := .reserved ordered reservation.result reservation.reserved
            consumed := if reservation.reserved then nonces else [] }, reservation.state)
    | _ => (call, state)
  | .finishes => match call.stage with
    | .reserved ordered result reserved => match result with
      | .ok true => ({ call with stage := .returned ordered (verifiedSet H ordered) }, state)
      | .ok false =>
          let error := .attestationError "attestation replay detected"
          ({ call with stage := .raised error reserved }, state)
      | .error error => ({ call with stage := .raised error reserved }, state)
    | _ => (call, state)
  | .crashes => match call.stage with
    | .checking | .reserving _ | .reserved _ _ _ => ({ call with stage := .crashed }, state)
    | _ => (call, state)

structure VerifySystem (scheme : Ed25519) (ledger : NonceLedger) where
  state : ledger.State
  calls : List (VerifyCall scheme)

inductive VerifyOp (scheme : Ed25519) (ledger : NonceLedger) where
  | begins (arguments : VerifyArguments scheme)
  | happens (index : ℕ) (event : VerifyEvent ledger)

def VerifySystem.step (system : VerifySystem scheme ledger) :
    VerifyOp scheme ledger → VerifySystem scheme ledger
  | .begins arguments => { system with calls := system.calls ++ [⟨arguments, .checking, []⟩] }
  | .happens index event => match system.calls[index]? with
    | some call =>
        let next := call.step H system.state event
        ⟨next.2, system.calls.set index next.1⟩
    | none => system

def VerifySystem.run (initial : ledger.State) (ops : List (VerifyOp scheme ledger)) :
    VerifySystem scheme ledger :=
  ops.foldl (VerifySystem.step H) ⟨initial, []⟩

end

/-! ## What one call does -/

section
variable {H : HashFunction} {scheme : Ed25519} {ledger : NonceLedger}

/-- The envelopes passed the checks of the call, at the time it read. -/
def Verified (H : HashFunction) (arguments : VerifyArguments scheme)
    (ordered : List SignedAttestation) : Prop :=
  ∃ clock time, verificationTime clock arguments.now = .ok time ∧
    SetVerifies H scheme arguments time ordered

/-- What a call has done when it is at its stage. -/
def VerifyCall.Sound (H : HashFunction) (call : VerifyCall scheme) : Prop :=
  match call.stage with
  | .checking => call.consumed = []
  | .reserving ordered => call.consumed = [] ∧ Verified H call.arguments ordered
  | .reserved ordered result reserved => Verified H call.arguments ordered ∧
      (reserved = false → call.consumed = []) ∧
      (result = .ok true → call.consumed = ordered.map SignedAttestation.nonce)
  | .returned ordered verified => Verified H call.arguments ordered ∧
      call.consumed = ordered.map SignedAttestation.nonce ∧ verified = verifiedSet H ordered
  | .raised _ reserved => reserved = false → call.consumed = []
  | .crashed => True

/-- A step leaves the ledger and the nonces of the call alone, or takes new nonces for a call
that had none. -/
theorem VerifyCall.step_ledger {call : VerifyCall scheme} {state : ledger.State}
    (h : call.Sound H) (event : VerifyEvent ledger) :
    let next := call.step H state event
    (next.2 = state ∧ next.1.consumed = call.consumed) ∨
      call.consumed = [] ∧ (∀ nonce ∈ next.1.consumed, nonce ∉ ledger.used state) ∧
        ledger.used next.2 = ledger.used state ∪ next.1.consumed.toFinset := by
  cases event with
  | checks clock =>
      left
      simp only [VerifyCall.step]
      split
      · split <;> exact ⟨rfl, rfl⟩
      · exact ⟨rfl, rfl⟩
  | reserves circumstances =>
      simp only [VerifyCall.step]
      split
      · next ordered hstage =>
        rw [VerifyCall.Sound, hstage] at h
        have hlaw := ledger.allOrNothing circumstances (ordered.map SignedAttestation.nonce) state
        generalize ledger.reserveMany circumstances (ordered.map SignedAttestation.nonce) state =
          reservation at hlaw
        cases hreserved : reservation.reserved with
        | false => exact .inl ⟨hlaw.untouched hreserved, h.1.symm⟩
        | true => exact .inr ⟨h.1, hlaw.fresh hreserved, hlaw.taken hreserved⟩
      · exact .inl ⟨rfl, rfl⟩
  | finishes =>
      left
      simp only [VerifyCall.step]
      split
      · split <;> exact ⟨rfl, rfl⟩
      · exact ⟨rfl, rfl⟩
  | crashes =>
      left
      simp only [VerifyCall.step]
      split <;> exact ⟨rfl, rfl⟩

theorem VerifyCall.step_arguments (call : VerifyCall scheme) (state : ledger.State)
    (event : VerifyEvent ledger) : (call.step H state event).1.arguments = call.arguments := by
  cases event <;> simp only [VerifyCall.step]
  · split
    · split <;> rfl
    · rfl
  · split <;> rfl
  · split
    · split <;> rfl
    · rfl
  · split <;> rfl

theorem VerifyCall.Sound.step {call : VerifyCall scheme} (h : call.Sound H)
    (state : ledger.State) (event : VerifyEvent ledger) : (call.step H state event).1.Sound H := by
  cases event with
  | checks clock =>
      simp only [VerifyCall.step]
      split
      · next hstage =>
        rw [VerifyCall.Sound, hstage] at h
        split
        · next ordered hordered =>
          obtain ⟨time, htime, hverified⟩ := verifyEnvelopes_ok hordered
          exact ⟨h, clock, time, htime, hverified⟩
        · exact fun _ => h
      · exact h
  | reserves circumstances =>
      simp only [VerifyCall.step]
      split
      · next ordered hstage =>
        rw [VerifyCall.Sound, hstage] at h
        have hlaw := ledger.allOrNothing circumstances (ordered.map SignedAttestation.nonce) state
        refine ⟨h.2, fun hreserved => ?_, fun hresult => if_pos (hlaw.reported hresult)⟩
        simp only [hreserved, Bool.false_eq_true, if_false]
      · exact h
  | finishes =>
      simp only [VerifyCall.step]
      split
      · next ordered result reserved hstage =>
        rw [VerifyCall.Sound, hstage] at h
        split
        · exact ⟨h.1, h.2.2 rfl, rfl⟩
        · exact h.2.1
        · exact h.2.1
      · exact h
  | crashes =>
      simp only [VerifyCall.step]
      split
      · trivial
      · trivial
      · trivial
      · exact h

/-! ## What a history does -/

/-- The nonces that a call of the system has put into the ledger. -/
def VerifySystem.consumed (system : VerifySystem scheme ledger) (index : ℕ) : List String :=
  match system.calls[index]? with
  | some call => call.consumed
  | none => []

/-- The ledger holds what it held at first and what the calls have put into it, and no two calls
have put the same nonce into it. -/
structure VerifySystem.Sound (H : HashFunction) (initial : ledger.State)
    (system : VerifySystem scheme ledger) : Prop where
  calls : ∀ call ∈ system.calls, call.Sound H
  accounts : Accounts (ledger.used initial) (ledger.used system.state) system.consumed

/-- The same operation, with the envelopes of a call in another order. -/
inductive VerifyOp.SameUpToOrder : VerifyOp scheme ledger → VerifyOp scheme ledger → Prop where
  | begins {a b : VerifyArguments scheme} (h : a.SameUpToOrder b) :
      SameUpToOrder (.begins a) (.begins b)
  | happens (index : ℕ) (event : VerifyEvent ledger) :
      SameUpToOrder (.happens index event) (.happens index event)

/-- Two calls that differ at most in the order of their envelopes. -/
structure VerifyCall.SameUpToOrder (a b : VerifyCall scheme) : Prop where
  arguments : a.arguments.SameUpToOrder b.arguments
  stage : a.stage = b.stage
  consumed : a.consumed = b.consumed

/-- Two systems whose calls differ at most in the order of their envelopes. -/
structure VerifySystem.SameUpToOrder (a b : VerifySystem scheme ledger) : Prop where
  state : a.state = b.state
  calls : List.Forall₂ VerifyCall.SameUpToOrder a.calls b.calls

theorem VerifyCall.SameUpToOrder.step {a b : VerifyCall scheme} (h : a.SameUpToOrder b)
    (state : ledger.State) (event : VerifyEvent ledger) :
    (a.step H state event).1.SameUpToOrder (b.step H state event).1 ∧
      (a.step H state event).2 = (b.step H state event).2 := by
  obtain ⟨arguments, stage, consumed⟩ := a
  obtain ⟨arguments', stage', consumed'⟩ := b
  obtain ⟨harguments, hstage, hconsumed⟩ := h
  simp only at harguments hstage hconsumed
  subst hstage hconsumed
  have hsame : ∀ next : Stage, ∀ taken : List String,
      VerifyCall.SameUpToOrder ⟨arguments, next, taken⟩ ⟨arguments', next, taken⟩ :=
    fun _ _ => ⟨harguments, rfl, rfl⟩
  cases event with
  | checks clock =>
      cases stage with
      | checking =>
          simp only [VerifyCall.step, verifyEnvelopes_eq_of_sameUpToOrder harguments clock]
          split <;> exact ⟨hsame _ _, rfl⟩
      | _ => exact ⟨hsame _ _, rfl⟩
  | reserves circumstances => cases stage <;> exact ⟨hsame _ _, rfl⟩
  | finishes =>
      cases stage with
      | reserved ordered result reserved =>
          simp only [VerifyCall.step]
          split <;> exact ⟨hsame _ _, rfl⟩
      | _ => exact ⟨hsame _ _, rfl⟩
  | crashes => cases stage <;> exact ⟨hsame _ _, rfl⟩

theorem VerifySystem.SameUpToOrder.step {a b : VerifySystem scheme ledger}
    (h : a.SameUpToOrder b) {op op' : VerifyOp scheme ledger} (hop : op.SameUpToOrder op') :
    (a.step H op).SameUpToOrder (b.step H op') := by
  cases hop with
  | begins harguments =>
      refine ⟨h.state, List.rel_append h.calls ?_⟩
      exact .cons ⟨harguments, rfl, rfl⟩ .nil
  | happens index event =>
      rcases forall₂_getElem? h.calls index with ⟨ha, hb⟩ | ⟨call, call', ha, hb, hcall⟩
      · simpa only [VerifySystem.step, ha, hb] using h
      · simp only [VerifySystem.step, ha, hb, ← h.state]
        obtain ⟨hnext, hstate⟩ := hcall.step (H := H) a.state event
        exact ⟨hstate, forall₂_set h.calls index hnext⟩

theorem VerifyCall.Sound.returned {call : VerifyCall scheme} (h : call.Sound H)
    {ordered : List SignedAttestation} {verified : VerifiedAttestationSet}
    (hstage : call.stage = .returned ordered verified) :
    Verified H call.arguments ordered ∧ verified = verifiedSet H ordered ∧
      call.consumed = ordered.map SignedAttestation.nonce := by
  rw [VerifyCall.Sound, hstage] at h
  exact ⟨h.1, h.2.2, h.2.1⟩

end
end AmazonSimilarSearch.Attestation
