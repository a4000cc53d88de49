import AmazonSimilarSearch.Attestation.NonceLedger
import AmazonSimilarSearch.Foundation.Runs

/-!
# Reservations by several processes

The steps of `SqliteNonceLedger.reserve_many`, taken by any number of calls on one
database in any order. A transaction that has inserted a row keeps its rollback
journal in the ledger directory until it ends. The check of the closed file comes
after `COMMIT` and refuses every other entry of the directory, so it also fails
while another call has a transaction open.
-/
namespace AmazonSimilarSearch.Attestation
open Foundation

/-! ## One call -/

/-- Where a call of `reserve_many` stands. -/
inductive ReservePhase where
  | entered
  | connected
  /-- after `BEGIN IMMEDIATE` -/
  | began
  /-- in `executemany`, with the table as the transaction sees it -/
  | inserting (rest : List String) (pending : UsedNonces) (reservedAt : ℤ)
  /-- an exception was caught, and the transaction is still open -/
  | aborting (error : TransactionError) (message : String)
  /-- the connection is closed -/
  | closed (outcome : Except VerifyError Bool)
  | returned (result : Except VerifyError Bool)

/-- What the environment decides in one step. -/
structure StepCircumstance where
  fails : Bool
  /-- the text of a `NonceLedgerContractError` -/
  contractError : String
  /-- `int(time.time())` -/
  time : ℤ

/-- The database and its directory, as all calls see them. -/
structure SharedLedger where
  table : UsedNonces
  /-- the call whose transaction is open -/
  writer : Option ℕ
  /-- its rollback journal stands in the ledger directory -/
  journal : Bool

/-- No transaction is open. -/
def SharedLedger.idle (table : UsedNonces) : SharedLedger where
  table := table
  writer := none
  journal := false

def reservationFailed : VerifyError := .attestationError "nonce ledger reservation failed"

/-- What the `except` clauses make of a caught exception; the rollback may fail too. -/
def abortOutcome (rollbackFails : Bool) (message : String) :
    TransactionError → Except VerifyError Bool
  | .integrity =>
      if rollbackFails then .error (.attestationError "nonce ledger rollback failed") else .ok false
  | .contract => .error (.attestationError message)
  | .sqlite => .error reservationFailed

/-- `_validate_closed_file` raises: by itself, or because of a journal beside the ledger. -/
def closedFileError (c : StepCircumstance) (shared : SharedLedger) : Option VerifyError :=
  if c.fails then some (.attestationError c.contractError)
  else if shared.journal then
    some (.attestationError "nonce ledger directory contains a forbidden SQLite sidecar")
  else none

/-- The next step of a call. A connection that is closed in a transaction ends it. -/
def advance (nonces : List String) (id : ℕ) (c : StepCircumstance) (shared : SharedLedger) :
    ReservePhase → SharedLedger × ReservePhase
  | .entered =>
      if ¬ nonces.all isNonce ∨ ¬ nonces.Nodup then (shared, .returned (.ok false))
      else if c.fails then (shared, .returned (.error (.attestationError c.contractError)))
      else (shared, .connected)
  | .connected =>
      if c.fails ∨ shared.writer.isSome then (shared, .closed (.error reservationFailed))
      else ({ shared with writer := some id }, .began)
  | .began =>
      if c.fails then (shared, .aborting .contract c.contractError)
      else (shared, .inserting nonces shared.table c.time)
  | .inserting (nonce :: rest) pending reservedAt =>
      if c.fails then (shared, .aborting .sqlite "")
      else match pending.insert ⟨nonce, reservedAt⟩ with
        | .ok next => ({ shared with journal := true }, .inserting rest next reservedAt)
        | .error error => (shared, .aborting error "")
  | .inserting [] pending _ =>
      if c.fails then (shared, .aborting .sqlite "")
      else (SharedLedger.idle pending, .closed (.ok true))
  | .aborting error message =>
      (SharedLedger.idle shared.table, .closed (abortOutcome c.fails message error))
  | .closed outcome =>
      match closedFileError c shared with
      | some error => (shared, .returned (.error error))
      | none => (shared, .returned outcome)
  | .returned result => (shared, .returned result)

/-! ## All calls -/

/-- What the steps of one call did to the set of nonces. -/
structure Effect where
  added : Finset String
  removed : Finset String
  deriving DecidableEq

namespace Effect

def nothing : Effect := ⟨∅, ∅⟩

/-- One more step of the call. -/
def record (effect : Effect) (before after : Finset String) : Effect where
  added := effect.added ∪ (after \ before)
  removed := effect.removed ∪ (before \ after)

@[simp] theorem record_self (effect : Effect) (nonces : Finset String) :
    effect.record nonces nonces = effect := by
  simp [record]

theorem nothing_record_union {nonces : Finset String} {new : List String}
    (h : ∀ nonce ∈ new, nonce ∉ nonces) :
    nothing.record nonces (nonces ∪ new.toFinset) = ⟨new.toFinset, ∅⟩ := by
  have hdisjoint : Disjoint nonces new.toFinset := by
    rw [Finset.disjoint_right]
    intro nonce hnonce
    exact h nonce (List.mem_toFinset.mp hnonce)
  have hadded : (nonces ∪ new.toFinset) \ nonces = new.toFinset :=
    Finset.union_sdiff_cancel_left hdisjoint
  have hremoved : nonces \ (nonces ∪ new.toFinset) = ∅ :=
    Finset.sdiff_eq_empty_iff_subset.mpr Finset.subset_union_left
  rw [record, nothing, hadded, hremoved]
  simp

end Effect

/-- The shared ledger and every call, with what each did so far. -/
structure Reservations where
  shared : SharedLedger
  phase : ℕ → ReservePhase
  effect : ℕ → Effect

/-- Before any call. -/
def Reservations.initial (table : UsedNonces) : Reservations where
  shared := SharedLedger.idle table
  phase := fun _ => .entered
  effect := fun _ => Effect.nothing

abbrev ReservationEvent := ℕ × StepCircumstance

section

variable (arguments : ℕ → List String)

/-- One call takes its next step. -/
def Reservations.step (s : Reservations) (event : ReservationEvent) : Reservations :=
  let next := advance (arguments event.1) event.1 event.2 s.shared (s.phase event.1)
  { shared := next.1
    phase := Function.update s.phase event.1 next.2
    effect := Function.update s.effect event.1
      ((s.effect event.1).record s.shared.table.nonces next.1.table.nonces) }

def Reservations.run (s : Reservations) (events : List ReservationEvent) : Reservations :=
  events.foldl (Reservations.step arguments) s

end

/-! ## Atomicity -/

/-- `True` with all nonces newly in the ledger, `False` or an `AttestationError` with the set
unchanged. -/
def Atomic (nonces : List String) (effect : Effect) : Except VerifyError Bool → Prop
  | .ok true => nonces.Nodup ∧ effect = ⟨nonces.toFinset, ∅⟩
  | .ok false => effect = Effect.nothing
  | .error error => (∃ message, error = .attestationError message) ∧ effect = Effect.nothing

/-- Every call that has returned was atomic. -/
def AllAtomic (arguments : ℕ → List String) (s : Reservations) : Prop :=
  ∀ id result, s.phase id = .returned result → Atomic (arguments id) (s.effect id) result

/-- The step is no check of the closed file that fails after the `COMMIT` of a nonce. -/
def ClosedFileHolds (arguments : ℕ → List String) (s : Reservations) (event : ReservationEvent) :
    Prop :=
  s.phase event.1 = .closed (.ok true) → arguments event.1 ≠ [] →
    closedFileError event.2 s.shared = none

/-! ## One step of one call -/

/-- What holds of a call in each of its phases. -/
def PhaseInvariant (nonces : List String) (id : ℕ) (shared : SharedLedger) (effect : Effect) :
    ReservePhase → Prop
  | .entered => effect = Effect.nothing
  | .connected => nonces.Nodup ∧ effect = Effect.nothing
  | .began => nonces.Nodup ∧ shared.writer = some id ∧ effect = Effect.nothing
  | .inserting rest pending _ =>
      nonces.Nodup ∧ shared.writer = some id ∧ effect = Effect.nothing ∧
        ∃ done, done ++ rest = nonces ∧ (∀ nonce ∈ done, nonce ∉ shared.table.nonces) ∧
          pending.nonces = shared.table.nonces ∪ done.toFinset
  | .aborting _ _ => shared.writer = some id ∧ effect = Effect.nothing
  | .closed outcome => Atomic nonces effect outcome
  | .returned _ => True

theorem atomic_abortOutcome (nonces : List String) (rollbackFails : Bool) (message : String)
    (error : TransactionError) :
    Atomic nonces Effect.nothing (abortOutcome rollbackFails message error) := by
  cases error with
  | integrity =>
      cases rollbackFails
      · rfl
      · exact ⟨⟨_, rfl⟩, rfl⟩
  | contract => exact ⟨⟨_, rfl⟩, rfl⟩
  | sqlite => exact ⟨⟨_, rfl⟩, rfl⟩

section

variable {nonces : List String} {id : ℕ} {c : StepCircumstance} {shared : SharedLedger}
  {effect : Effect}

theorem advance_inserting_invariant {nonce : String} {rest : List String} {pending : UsedNonces}
    {reservedAt : ℤ}
    (h : PhaseInvariant nonces id shared effect (.inserting (nonce :: rest) pending reservedAt)) :
    let next := advance nonces id c shared (.inserting (nonce :: rest) pending reservedAt)
    PhaseInvariant nonces id next.1
      (effect.record shared.table.nonces next.1.table.nonces) next.2 := by
  obtain ⟨hnodup, hwriter, heffect, done, hdone, hfresh, hpending⟩ := h
  intro next
  by_cases hfails : c.fails = true
  · have hnext : next = (shared, .aborting .sqlite "") := if_pos hfails
    rw [hnext, Effect.record_self]
    exact ⟨hwriter, heffect⟩
  · cases hinsert : pending.insert ⟨nonce, reservedAt⟩ with
    | error error =>
        have hnext : next = (shared, .aborting error "") := by
          simp only [next, advance, if_neg hfails, hinsert]
        rw [hnext, Effect.record_self]
        exact ⟨hwriter, heffect⟩
    | ok inserted =>
        have hnext : next =
            ({ shared with journal := true }, .inserting rest inserted reservedAt) := by
          simp only [next, advance, if_neg hfails, hinsert]
        obtain ⟨hnew, hinserted⟩ := UsedNonces.insert_ok hinsert
        rw [hpending, Finset.mem_union, not_or] at hnew
        rw [hnext, Effect.record_self]
        refine ⟨hnodup, hwriter, heffect, done ++ [nonce], ?_, ?_, ?_⟩
        · rw [List.append_assoc, List.singleton_append, hdone]
        · intro other hother
          rcases List.mem_append.mp hother with hold | hlast
          · exact hfresh other hold
          · rw [List.mem_singleton.mp hlast]
            exact hnew.1
        · rw [hinserted, hpending, List.toFinset_append, Finset.union_assoc]

theorem advance_commit_invariant {pending : UsedNonces} {reservedAt : ℤ}
    (h : PhaseInvariant nonces id shared effect (.inserting [] pending reservedAt)) :
    let next := advance nonces id c shared (.inserting [] pending reservedAt)
    PhaseInvariant nonces id next.1
      (effect.record shared.table.nonces next.1.table.nonces) next.2 := by
  obtain ⟨hnodup, hwriter, heffect, done, hdone, hfresh, hpending⟩ := h
  intro next
  by_cases hfails : c.fails = true
  · have hnext : next = (shared, .aborting .sqlite "") := if_pos hfails
    rw [hnext, Effect.record_self]
    exact ⟨hwriter, heffect⟩
  · have hnext : next = (SharedLedger.idle pending, .closed (.ok true)) := if_neg hfails
    rw [List.append_nil] at hdone
    rw [hnext, heffect, ← hdone]
    have hrecord := Effect.nothing_record_union hfresh
    rw [← hpending] at hrecord
    rw [hdone] at hrecord ⊢
    exact ⟨hnodup, hrecord⟩

/-- One step of a call keeps what holds of it. -/
theorem advance_invariant {phase : ReservePhase} (h : PhaseInvariant nonces id shared effect phase) :
    let next := advance nonces id c shared phase
    PhaseInvariant nonces id next.1
      (effect.record shared.table.nonces next.1.table.nonces) next.2 := by
  intro next
  cases phase with
  | entered =>
      simp only [next, advance]
      split_ifs with hinvalid hfails
      · trivial
      · trivial
      · rw [Effect.record_self]
        push Not at hinvalid
        exact ⟨hinvalid.2, h⟩
  | connected =>
      simp only [next, advance]
      split_ifs with hfails
      · rw [Effect.record_self]
        exact ⟨⟨_, rfl⟩, h.2⟩
      · rw [Effect.record_self]
        exact ⟨h.1, rfl, h.2⟩
  | began =>
      simp only [next, advance]
      split_ifs with hfails
      · rw [Effect.record_self]
        exact h.2
      · rw [Effect.record_self]
        exact ⟨h.1, h.2.1, h.2.2, [], rfl, by simp, by simp⟩
  | inserting rest pending reservedAt =>
      cases rest with
      | nil => exact advance_commit_invariant h
      | cons nonce rest => exact advance_inserting_invariant h
  | aborting error message =>
      simp only [next, advance, SharedLedger.idle, Effect.record_self]
      rw [h.2]
      exact atomic_abortOutcome nonces c.fails message error
  | closed outcome =>
      simp only [next, advance]
      split
      · trivial
      · trivial
  | returned result => trivial

/-- While another call has the transaction, a step changes neither it nor the table. -/
theorem advance_of_writer {phase : ReservePhase} {other : ℕ}
    (h : PhaseInvariant nonces id shared effect phase) (hwriter : shared.writer = some other)
    (hother : other ≠ id) :
    (advance nonces id c shared phase).1 = shared := by
  have hself : shared.writer ≠ some id := by
    rw [hwriter]
    exact fun heq => hother (Option.some.inj heq)
  cases phase with
  | entered =>
      simp only [advance]
      split_ifs <;> rfl
  | connected =>
      have hbusy : c.fails = true ∨ shared.writer.isSome = true := .inr (by rw [hwriter]; rfl)
      simp only [advance, if_pos hbusy]
  | began => exact absurd h.2.1 hself
  | inserting rest pending reservedAt => exact absurd h.2.1 hself
  | aborting error message => exact absurd h.1 hself
  | closed outcome =>
      simp only [advance]
      split <;> rfl
  | returned result => rfl

/-- The invariant of a call depends on the shared ledger only while it is the writer. -/
theorem PhaseInvariant.transfer {phase : ReservePhase} {shared' : SharedLedger}
    (h : PhaseInvariant nonces id shared effect phase)
    (hshared : shared.writer = some id → shared' = shared) :
    PhaseInvariant nonces id shared' effect phase := by
  cases phase with
  | entered => exact h
  | connected => exact h
  | began =>
      rw [hshared h.2.1]
      exact h
  | inserting rest pending reservedAt =>
      rw [hshared h.2.1]
      exact h
  | aborting error message =>
      rw [hshared h.1]
      exact h
  | closed outcome => exact h
  | returned result => trivial

theorem closedFileError_attestation {error : VerifyError}
    (h : closedFileError c shared = some error) : ∃ message, error = .attestationError message := by
  unfold closedFileError at h
  split_ifs at h
  · exact ⟨_, (Option.some.inj h).symm⟩
  · exact ⟨_, (Option.some.inj h).symm⟩

/-- A call that fails after its `COMMIT` was atomic only when it had nothing to reserve. -/
theorem atomic_error_iff {outcome : Except VerifyError Bool} {error : VerifyError}
    (h : Atomic nonces effect outcome) (herror : ∃ message, error = .attestationError message) :
    Atomic nonces effect (.error error) ↔ (outcome = .ok true → nonces = []) := by
  have hiff : Atomic nonces effect (.error error) ↔ effect = Effect.nothing :=
    and_iff_right herror
  rw [hiff]
  cases outcome with
  | error other => exact iff_of_true h.2 (fun heq => nomatch heq)
  | ok reserved =>
      cases reserved with
      | false => exact iff_of_true h (fun heq => nomatch heq)
      | true =>
          obtain ⟨-, heffect⟩ := h
          rw [heffect, Effect.nothing, Effect.mk.injEq, and_iff_left rfl,
            List.toFinset_eq_empty_iff]
          exact ⟨fun h _ => h, fun h => h rfl⟩

/-- Whether a call that returns in this step is atomic. -/
theorem advance_returned_atomic_iff {phase : ReservePhase} {result : Except VerifyError Bool}
    (h : PhaseInvariant nonces id shared effect phase)
    (hopen : ∀ result, phase ≠ .returned result)
    (hnext : (advance nonces id c shared phase).2 = .returned result) :
    Atomic nonces (effect.record shared.table.nonces
        (advance nonces id c shared phase).1.table.nonces) result ↔
      (phase = .closed (.ok true) → nonces ≠ [] → closedFileError c shared = none) := by
  cases phase with
  | entered =>
      simp only [advance] at hnext ⊢
      split_ifs at hnext ⊢
      · cases hnext
        rw [Effect.record_self]
        exact iff_of_true h (fun heq => nomatch heq)
      · cases hnext
        rw [Effect.record_self]
        exact iff_of_true ⟨⟨_, rfl⟩, h⟩ (fun heq => nomatch heq)
  | connected =>
      simp only [advance] at hnext
      split_ifs at hnext
  | began =>
      simp only [advance] at hnext
      split_ifs at hnext
  | inserting rest pending reservedAt =>
      cases rest with
      | nil =>
          simp only [advance] at hnext
          split_ifs at hnext
      | cons nonce rest =>
          simp only [advance] at hnext
          split_ifs at hnext
          split at hnext <;> cases hnext
  | aborting error message => cases hnext
  | closed outcome =>
      cases hclosed : closedFileError c shared with
      | none =>
          simp only [advance, hclosed] at hnext ⊢
          cases hnext
          rw [Effect.record_self]
          exact iff_of_true h (fun _ _ => trivial)
      | some error =>
          simp only [advance, hclosed] at hnext ⊢
          cases hnext
          rw [Effect.record_self, atomic_error_iff h (closedFileError_attestation hclosed)]
          simp only [ReservePhase.closed.injEq, reduceCtorEq, imp_false, not_not]
  | returned earlier => exact absurd rfl (hopen earlier)

end

/-! ## Runs -/

section

variable {arguments : ℕ → List String} {s : Reservations} {event : ReservationEvent}

def Reservations.Invariant (arguments : ℕ → List String) (s : Reservations) : Prop :=
  ∀ id, PhaseInvariant (arguments id) id s.shared (s.effect id) (s.phase id)

theorem initial_invariant (table : UsedNonces) :
    (Reservations.initial table).Invariant arguments :=
  fun _ => rfl

theorem step_invariant (h : s.Invariant arguments) :
    (s.step arguments event).Invariant arguments := by
  intro id
  by_cases hid : id = event.1
  · rw [hid]
    simp only [Reservations.step, Function.update_self]
    exact advance_invariant (h event.1)
  · simp only [Reservations.step, Function.update_of_ne hid]
    refine (h id).transfer ?_
    intro hwriter
    exact advance_of_writer (h event.1) hwriter hid

/-- A step keeps the calls atomic exactly when it does not fail behind a `COMMIT`. -/
theorem allAtomic_step_iff (h : s.Invariant arguments) :
    AllAtomic arguments (s.step arguments event) ↔
      AllAtomic arguments s ∧ ClosedFileHolds arguments s event := by
  by_cases hreturned : ∃ result, s.phase event.1 = .returned result
  · obtain ⟨result, hresult⟩ := hreturned
    have hsame : s.step arguments event = s := by
      simp only [Reservations.step, hresult, advance, Effect.record_self]
      rw [← hresult, Function.update_eq_self, Function.update_eq_self]
    have hclosed : ClosedFileHolds arguments s event := by
      intro heq
      rw [hresult] at heq
      cases heq
    rw [hsame, and_iff_left hclosed]
  · push Not at hreturned
    have hstep : ∀ result,
        (advance (arguments event.1) event.1 event.2 s.shared (s.phase event.1)).2 =
          .returned result →
        (Atomic (arguments event.1) ((s.step arguments event).effect event.1) result ↔
          ClosedFileHolds arguments s event) := by
      intro result hresult
      simp only [Reservations.step, Function.update_self]
      exact advance_returned_atomic_iff (h event.1) hreturned hresult
    constructor
    · intro hafter
      constructor
      · intro id result hid
        by_cases hsame : id = event.1
        · rw [hsame] at hid
          exact absurd hid (hreturned result)
        · have hatomic := hafter id result
          simp only [Reservations.step, Function.update_of_ne hsame] at hatomic
          exact hatomic hid
      · intro hphase
        obtain ⟨result, hresult⟩ : ∃ result,
            (advance (arguments event.1) event.1 event.2 s.shared (s.phase event.1)).2 =
              .returned result := by
          rw [hphase]
          simp only [advance]
          split
          · exact ⟨_, rfl⟩
          · exact ⟨_, rfl⟩
        have hatomic := hafter event.1 result
        simp only [Reservations.step, Function.update_self] at hatomic
        refine (hstep result hresult).mp ?_ hphase
        simp only [Reservations.step, Function.update_self]
        exact hatomic hresult
    · intro hbefore id result hid
      by_cases hsame : id = event.1
      · rw [hsame] at hid ⊢
        refine (hstep result ?_).mpr hbefore.2
        simpa only [Reservations.step, Function.update_self] using hid
      · have hatomic := hbefore.1 id result
        simp only [Reservations.step, Function.update_of_ne hsame] at hid ⊢
        exact hatomic hid

/-- The calls of a run are atomic exactly when none of them fails behind its `COMMIT`. -/
theorem allAtomic_run_iff (events : List ReservationEvent) :
    ∀ {s : Reservations}, s.Invariant arguments →
      (AllAtomic arguments (s.run arguments events) ↔
        AllAtomic arguments s ∧
          AlongRun (Reservations.step arguments) (ClosedFileHolds arguments) s events) := by
  induction events with
  | nil => exact fun _ => (and_iff_left trivial).symm
  | cons event events ih =>
      intro s hs
      have hnext : (s.step arguments event).Invariant arguments := step_invariant hs
      have hrest := ih hnext
      rw [allAtomic_step_iff hs, and_assoc] at hrest
      exact hrest

end

/-- `reserve_many` is atomic in a run exactly when, in all of its steps, the check of the closed
file does not fail after the `COMMIT` of a nonce. -/
theorem reserveMany_atomic_iff (arguments : ℕ → List String) (table : UsedNonces)
    (events : List ReservationEvent) :
    AllAtomic arguments ((Reservations.initial table).run arguments events) ↔
      AlongRun (Reservations.step arguments) (ClosedFileHolds arguments)
        (Reservations.initial table) events := by
  have hinitial : AllAtomic arguments (Reservations.initial table) :=
    fun _ _ heq => nomatch heq
  rw [allAtomic_run_iff events (initial_invariant table), and_iff_right hinitial]

/-! ## A journal of another call -/

def emptyNonceLedger : UsedNonces where
  rows := []
  primaryKey := List.nodup_nil
  checks := by simp

/-- Two calls, with one nonce each. -/
def twoReservations : ℕ → List String
  | 0 => ["aaaaaaaaaaaaaaaaaaaaaaaaaaaaaaaa"]
  | _ => ["bbbbbbbbbbbbbbbbbbbbbbbbbbbbbbbb"]

/-- Nothing fails. -/
def quietStep : StepCircumstance where
  fails := false
  contractError := ""
  time := 0

/-- The first call commits; the second begins and inserts; the first checks the closed file. -/
def journalEvents : List ReservationEvent :=
  ([0, 0, 0, 0, 0, 1, 1, 1, 1, 0] : List ℕ).map fun id => (id, quietStep)

/-- The first call raises, and its nonce is in the ledger. -/
theorem reserveMany_journal_not_atomic :
    ¬ AllAtomic twoReservations
      ((Reservations.initial emptyNonceLedger).run twoReservations journalEvents) := by
  intro h
  have hreturned :
      ((Reservations.initial emptyNonceLedger).run twoReservations journalEvents).phase 0 =
        .returned (.error (.attestationError
          "nonce ledger directory contains a forbidden SQLite sidecar")) := by
    rfl
  have hadded :
      ((Reservations.initial emptyNonceLedger).run twoReservations journalEvents).effect 0 =
        ⟨{"aaaaaaaaaaaaaaaaaaaaaaaaaaaaaaaa"}, ∅⟩ := by
    rfl
  have hatomic := (h 0 _ hreturned).2
  rw [hadded] at hatomic
  exact absurd hatomic (by decide)

end AmazonSimilarSearch.Attestation
