import AmazonSimilarSearch.Attestation.Verify
import Mathlib.Data.Finset.Basic
import Mathlib.Data.Finset.Lattice.Lemmas
import Mathlib.Data.Finset.Dedup

/-!
# Nonce ledgers

The two implementations of `NonceLedger`: the set of an `InMemoryNonceLedger`,
and the table `used_nonces` of a `SqliteNonceLedger`, whose rows satisfy the
constraints of its schema. A reservation is one critical section, under a lock
or in a transaction; which steps of it fail is up to the environment.
-/
namespace AmazonSimilarSearch.Attestation
open Foundation

/-- What became of one `reserve_many`: what it reports, whether the nonces were put into the
ledger, and the ledger after it. -/
structure Reservation (σ : Type) where
  result : Except VerifyError Bool
  reserved : Bool
  state : σ

/-- A reservation takes all of its nonces, each of them new, or leaves the ledger alone. -/
structure Reservation.AllOrNothing {σ : Type} (used : σ → Finset String) (nonces : List String)
    (before : σ) (reservation : Reservation σ) : Prop where
  untouched : reservation.reserved = false → reservation.state = before
  nodup : reservation.reserved = true → nonces.Nodup
  fresh : reservation.reserved = true → ∀ nonce ∈ nonces, nonce ∉ used before
  taken : reservation.reserved = true → used reservation.state = used before ∪ nonces.toFinset
  reported : reservation.result = .ok true → reservation.reserved = true

/-- An implementation of the protocol `NonceLedger`. -/
structure NonceLedger where
  State : Type
  /-- what the environment decides in one reservation -/
  Circumstances : Type
  used : State → Finset String
  reserveMany : Circumstances → List String → State → Reservation State
  allOrNothing : ∀ circumstances nonces before,
    (reserveMany circumstances nonces before).AllOrNothing used nonces before

/-! ## In memory -/

/-- `InMemoryNonceLedger.reserve_many` -/
def reserveInMemory (nonces : List String) (state : Finset String) :
    Reservation (Finset String) :=
  if ¬ nonces.Nodup then ⟨.ok false, false, state⟩
  else if ∃ nonce ∈ nonces, nonce ∈ state then ⟨.ok false, false, state⟩
  else ⟨.ok true, true, state ∪ nonces.toFinset⟩

theorem reserveInMemory_allOrNothing (nonces : List String) (state : Finset String) :
    (reserveInMemory nonces state).AllOrNothing id nonces state := by
  unfold reserveInMemory
  split_ifs with hnodup hpresent
  · constructor <;> simp
  · push Not at hpresent
    constructor
    · simp
    · exact fun _ => hnodup
    · exact fun _ => hpresent
    · exact fun _ => rfl
    · exact fun _ => rfl
  · constructor <;> simp

/-- `InMemoryNonceLedger` -/
def inMemoryNonceLedger : NonceLedger where
  State := Finset String
  Circumstances := Unit
  used := id
  reserveMany := fun _ => reserveInMemory
  allOrNothing := fun _ => reserveInMemory_allOrNothing

/-! ## In SQLite -/

/-- One row of the table `used_nonces`. -/
structure NonceRow where
  nonce : String
  reservedAt : ℤ
  deriving DecidableEq

/-- The table `used_nonces` with what its schema demands. -/
structure UsedNonces where
  rows : List NonceRow
  primaryKey : (rows.map NonceRow.nonce).Nodup
  checks : ∀ row ∈ rows, isNonce row.nonce = true ∧ 0 ≤ row.reservedAt

namespace UsedNonces

def nonces (table : UsedNonces) : Finset String := (table.rows.map NonceRow.nonce).toFinset

end UsedNonces

/-- The steps of a reservation that can fail. -/
inductive LedgerStep where
  | connect
  | beginImmediate
  | validate
  | insert (nonce : String)
  | commit
  | rollback
  | validateClosedFile
  deriving DecidableEq, Repr

structure SqliteCircumstances where
  fails : LedgerStep → Bool
  /-- the text of a `NonceLedgerContractError` -/
  contractError : String
  /-- `int(time.time())` -/
  reservedAt : ℤ

/-- What ends a transaction. -/
inductive TransactionError where
  | integrity
  | contract
  | sqlite
  deriving DecidableEq, Repr

/-- `INSERT INTO used_nonces(nonce, reserved_at) VALUES (?, ?)` -/
def UsedNonces.insert (table : UsedNonces) (row : NonceRow) :
    Except TransactionError UsedNonces :=
  if h : row.nonce ∉ table.rows.map NonceRow.nonce ∧ isNonce row.nonce = true ∧
      0 ≤ row.reservedAt then
    .ok {
      rows := table.rows ++ [row]
      primaryKey := by
        rw [List.map_append, List.nodup_append]
        refine ⟨table.primaryKey, List.nodup_singleton _, ?_⟩
        intro a ha b hb
        rw [List.map_singleton, List.mem_singleton] at hb
        rw [hb]
        exact ne_of_mem_of_not_mem ha h.1
      checks := by
        intro other hother
        rcases List.mem_append.mp hother with hold | hnew
        · exact table.checks other hold
        · rw [List.mem_singleton.mp hnew]
          exact h.2 }
  else .error .integrity

def insertNonce (circumstances : SqliteCircumstances) (table : UsedNonces) (nonce : String) :
    Except TransactionError UsedNonces := do
  ensure (circumstances.fails (.insert nonce) = false) .sqlite
  table.insert ⟨nonce, circumstances.reservedAt⟩

/-- From `BEGIN IMMEDIATE` to `COMMIT`. -/
def reserveBody (circumstances : SqliteCircumstances) (nonces : List String)
    (table : UsedNonces) : Except TransactionError UsedNonces := do
  ensure (circumstances.fails .beginImmediate = false) .sqlite
  ensure (circumstances.fails .validate = false) .contract
  let inserted ← nonces.foldlM (insertNonce circumstances) table
  ensure (circumstances.fails .commit = false) .sqlite
  pure inserted

/-- What a reservation reports when its transaction has ended and the connection is closed. -/
def reserveResult (circumstances : SqliteCircumstances) :
    Except TransactionError Unit → Except VerifyError Bool
  | .ok _ => .ok true
  | .error .integrity =>
      if circumstances.fails .rollback then
        .error (.attestationError "nonce ledger rollback failed")
      else .ok false
  | .error .contract => .error (.attestationError circumstances.contractError)
  | .error .sqlite => .error (.attestationError "nonce ledger reservation failed")

/-- `SqliteNonceLedger.reserve_many` -/
def reserveSqlite (circumstances : SqliteCircumstances) (nonces : List String)
    (table : UsedNonces) : Reservation UsedNonces :=
  if ¬ nonces.all isNonce then ⟨.ok false, false, table⟩
  else if ¬ nonces.Nodup then ⟨.ok false, false, table⟩
  else if circumstances.fails .connect then
    ⟨.error (.attestationError circumstances.contractError), false, table⟩
  else
    let attempt := transaction (reserveBody circumstances nonces) table
    { result :=
        if circumstances.fails .validateClosedFile then
          .error (.attestationError circumstances.contractError)
        else reserveResult circumstances attempt.1
      reserved := attempt.1.isOk
      state := attempt.2 }

theorem UsedNonces.insert_ok {table next : UsedNonces} {row : NonceRow}
    (h : table.insert row = .ok next) :
    row.nonce ∉ table.nonces ∧ next.nonces = table.nonces ∪ [row.nonce].toFinset := by
  unfold UsedNonces.insert at h
  split at h
  · next hnew =>
    cases h
    constructor
    · rw [UsedNonces.nonces, List.mem_toFinset]
      exact hnew.1
    · simp only [UsedNonces.nonces, List.map_append, List.map_singleton]
      exact List.toFinset_append
  · cases h

/-- The rows that a statement for many nonces leaves. -/
theorem insertMany_ok {circumstances : SqliteCircumstances} (nonces : List String)
    {table next : UsedNonces}
    (h : nonces.foldlM (insertNonce circumstances) table = .ok next) :
    (∀ nonce ∈ nonces, nonce ∉ table.nonces) ∧
      next.nonces = table.nonces ∪ nonces.toFinset := by
  have hinvariant := foldlM_invariant
    (I := fun done reached => (∀ nonce ∈ done, nonce ∉ table.nonces) ∧
      reached.nonces = table.nonces ∪ done.toFinset)
    (f := insertNonce circumstances) ?_ nonces [] table next (by simp) h
  · simpa using hinvariant
  · rintro done nonce before after ⟨hdone, hbefore⟩ hinsert
    simp only [insertNonce, bind_eq_ok_iff, ensure_eq_ok_iff, exists_const] at hinsert
    obtain ⟨hfresh, hafter⟩ := UsedNonces.insert_ok hinsert.2
    rw [hbefore, Finset.mem_union, not_or] at hfresh
    constructor
    · intro other hother
      rcases List.mem_append.mp hother with hold | hnew
      · exact hdone other hold
      · rw [List.mem_singleton.mp hnew]
        exact hfresh.1
    · rw [hafter, hbefore, List.toFinset_append, Finset.union_assoc]

theorem reserveBody_ok {circumstances : SqliteCircumstances} {nonces : List String}
    {table next : UsedNonces} (h : reserveBody circumstances nonces table = .ok next) :
    (∀ nonce ∈ nonces, nonce ∉ table.nonces) ∧
      next.nonces = table.nonces ∪ nonces.toFinset := by
  simp only [reserveBody, bind_eq_ok_iff, ensure_eq_ok_iff, exists_const, pure_eq_ok_iff] at h
  obtain ⟨-, -, inserted, hinserted, -, rfl⟩ := h
  exact insertMany_ok nonces hinserted

theorem reserveResult_eq_ok_true {circumstances : SqliteCircumstances}
    {outcome : Except TransactionError Unit}
    (h : reserveResult circumstances outcome = .ok true) : outcome.isOk = true := by
  cases outcome with
  | ok u => rfl
  | error error =>
      cases error with
      | integrity =>
          rw [reserveResult] at h
          split_ifs at h
          simp at h
      | contract => simp [reserveResult] at h
      | sqlite => simp [reserveResult] at h

/-- The transaction of a reservation commits all of it or nothing. -/
theorem reserveTransaction (circumstances : SqliteCircumstances) {nonces : List String}
    (hnodup : nonces.Nodup) (table : UsedNonces) :
    let attempt := transaction (reserveBody circumstances nonces) table
    (⟨reserveResult circumstances attempt.1, attempt.1.isOk, attempt.2⟩ :
      Reservation UsedNonces).AllOrNothing UsedNonces.nonces nonces table := by
  intro attempt
  rcases hbody : reserveBody circumstances nonces table with error | next
  · have hattempt : attempt = (.error error, table) := by
      simp [attempt, transaction, hbody]
    rw [hattempt]
    constructor
    · exact fun _ => rfl
    · exact fun _ => hnodup
    · intro hok
      cases hok
    · intro hok
      cases hok
    · exact reserveResult_eq_ok_true
  · have hattempt : attempt = (.ok ⟨⟩, next) := by
      simp [attempt, transaction, hbody]
    obtain ⟨hfresh, htaken⟩ := reserveBody_ok hbody
    rw [hattempt]
    constructor
    · intro herror
      cases herror
    · exact fun _ => hnodup
    · exact fun _ => hfresh
    · exact fun _ => htaken
    · exact fun _ => rfl

theorem reserveSqlite_allOrNothing (circumstances : SqliteCircumstances) (nonces : List String)
    (table : UsedNonces) :
    (reserveSqlite circumstances nonces table).AllOrNothing UsedNonces.nonces nonces table := by
  unfold reserveSqlite
  split_ifs with hvalid hnodup hconnect hclosed
  · constructor <;> simp
  · have h := reserveTransaction circumstances hnodup table
    exact { h with reported := by simp }
  · exact reserveTransaction circumstances hnodup table
  · constructor <;> simp
  · constructor <;> simp

/-- `SqliteNonceLedger` -/
def sqliteNonceLedger : NonceLedger where
  State := UsedNonces
  Circumstances := SqliteCircumstances
  used := UsedNonces.nonces
  reserveMany := reserveSqlite
  allOrNothing := reserveSqlite_allOrNothing

inductive LedgerKind where
  | inMemory
  | sqlite
  deriving DecidableEq, Repr

def LedgerKind.ledger : LedgerKind → NonceLedger
  | inMemory => inMemoryNonceLedger
  | sqlite => sqliteNonceLedger

end AmazonSimilarSearch.Attestation
