import AmazonSimilarSearch.BrokerLedger.Invariant
import AmazonSimilarSearch.Foundation.Runs

/-!
# Reservations of the typed executor

`_ledger_identity`, `_reserve_attempt` and `measure_broker_ledger` of
`broker_executor.py`. One call of `_reserve_attempt` is one `BEGIN IMMEDIATE …
COMMIT` on the table, so every interleaving of processes is one list of calls,
each with what its host decides. After the commit the file is looked at once
more: a call that fails there has charged its row.
-/
namespace AmazonSimilarSearch.BrokerLedger
open Foundation

section Calls

variable (sha256 : HashFunction)

/-- `_ledger_identity` -/
def ledgerIdentity (path : LedgerPath) (stat : Option LedgerStat) : Except ExecutorError LedgerIdentity := do
  let stat ← required invalidLedger stat
  ensure (stat.isPrivate = true ∧ 0 ≤ stat.device ∧ 0 < stat.inode) invalidLedger
  let payload ← canonicalJson (identityPayload (.int stat.device) (.int stat.inode) path.text)
  pure ⟨path.text, stat.device, stat.inode, sha256 (identityDomain ++ payload)⟩

/-- The arguments of `_reserve_attempt`, those of the invocation first. -/
structure ReserveCall where
  packetSha256 : String
  role : String
  attempt : ℤ
  reservedTokens : ℤ
  reservedCostMicrousd : ℤ
  packetReservationLimit : ℤ
  packetCostLimitMicrousd : ℤ
  pricingPolicySha256 : String
  expectedLedgerIdentitySha256 : String
  deriving DecidableEq

/-- The row that a call inserts. -/
def ReserveCall.row (call : ReserveCall) (reservedAt : UnixTime) : Row :=
  { packetSha256 := call.packetSha256
    role := call.role
    attempt := call.attempt
    reservedTokens := call.reservedTokens
    reservedCostMicrousd := call.reservedCostMicrousd
    reservationUnixNs := reservedAt.ns }

/-- What a call measures is bound to its limits and the file it found. -/
def ReserveCall.binding (call : ReserveCall) (identity : LedgerIdentity) : Binding :=
  { ledgerPath := identity.path
    ledgerDevice := .int identity.device
    ledgerInode := .int identity.inode
    ledgerIdentitySha256 := identity.sha256.text
    packetSha256 := call.packetSha256
    packetReservationLimit := call.packetReservationLimit
    packetCostLimitMicrousd := call.packetCostLimitMicrousd
    pricingPolicySha256 := call.pricingPolicySha256 }

/-- `except sqlite3.Error`; an `OverflowError` is not caught. -/
def sql {α : Type} (statement : Except SqlError α) : Except ExecutorError α :=
  statement.mapError fun
    | .sqlite => invalidLedger
    | .overflow => .exception

/-- `_open_ledger`, and the identity the call expects. -/
def openLedger (host : Host) (call : ReserveCall) : Except ExecutorError LedgerIdentity := do
  let identity ← ledgerIdentity sha256 host.path host.before
  sql (execute host.fails .connect)
  ensure (isSha256 call.expectedLedgerIdentitySha256 = true ∧
    identity.sha256.text = call.expectedLedgerIdentitySha256) invalidLedger
  pure identity

/-- The transaction of `_reserve_attempt`. -/
def reserveBody (host : Host) (call : ReserveCall) (identity : LedgerIdentity) (table : Table) :
    Except ExecutorError ((BrokerLedgerEvidence × Sha256) × Table) := do
  sql (execute host.fails .beginTransaction)
  sql (execute host.fails .selectAttempts)
  let attempts := selectAttempts table call.packetSha256 call.role
  ensure (attempts = countUp attempts.length)
    (.brokerExecution "broker attempt reservation rejected")
  ensure (attempts.length + 1 ≤ 2 ∧ call.attempt = attempts.length + 1)
    (.brokerExecution "broker attempt reservation rejected")
  sql (execute host.fails .selectTotals)
  let tokens ← sql (sumColumn Row.reservedTokens (ofPacket table call.packetSha256))
  let cost ← sql (sumColumn Row.reservedCostMicrousd (ofPacket table call.packetSha256))
  ensure (tokens + call.reservedTokens ≤ call.packetReservationLimit)
    (.brokerExecution "broker token reservation rejected")
  ensure (cost + call.reservedCostMicrousd ≤ call.packetCostLimitMicrousd)
    (.brokerExecution "broker cost reservation rejected")
  sql (execute host.fails .insert)
  let next ← sql (insertRow table (call.row host.reservedAt))
  sql (execute host.fails .selectRows)
  let evidence ← buildLedgerEvidence sha256 (call.binding identity)
    ((ledgerRows next call.packetSha256).map Row.raw) (.int host.measuredAt.ns)
  let record ← reservationRecordSha256 sha256 (reservationRecord (call.row host.reservedAt))
  sql (execute host.fails .commit)
  pure ((evidence, record), next)

/-- `_reserve_attempt`: what the call returns, and the table after it. -/
def reserveAttempt (host : Host) (call : ReserveCall) (table : Table) :
    Except ExecutorError (BrokerLedgerEvidence × Sha256) × Table :=
  match openLedger sha256 host call with
  | .error e => (.error e, table)
  | .ok identity =>
      let (committed, next) := transact (reserveBody sha256 host call identity) table
      (do
        let result ← committed
        let after ← ledgerIdentity sha256 host.path host.after
        ensure (after = identity) invalidLedger
        pure result, next)

/-- `MAX_OUTPUT_TOKENS` and `MAX_PACKET_RESERVED_TOKENS` -/
def maxOutputTokens : ℤ := 12000
def maxPacketReservedTokens : ℤ := 4 * contextWindowTokens

/-- Every failure of a measurement has one message, but for other exceptions. -/
def measurementError : ExecutorError → ExecutorError
  | .brokerExecution _ => invalidEvidence
  | .exception => .exception

/-- `measure_broker_ledger` -/
def measureBrokerLedger (host : Host) (packetSha256 : String)
    (packetReservationLimit packetCostLimitMicrousd : ℤ) (pricingPolicySha256 : String)
    (table : Table) : Except ExecutorError BrokerLedgerEvidence := do
  ensure (isSha256 packetSha256 = true ∧
    (maxOutputTokens ≤ packetReservationLimit ∧
      packetReservationLimit ≤ maxPacketReservedTokens) ∧
    (1 ≤ packetCostLimitMicrousd ∧ packetCostLimitMicrousd ≤ absolutePacketCostLimitMicrousd) ∧
    pricingPolicySha256 = approvedPricingPolicySha256 sha256) invalidEvidence
  Except.mapError measurementError do
    let identity ← ledgerIdentity sha256 host.path host.before
    sql (execute host.fails .connect)
    sql (execute host.fails .beginTransaction)
    sql (execute host.fails .selectRows)
    let evidence ← buildLedgerEvidence sha256
      { ledgerPath := identity.path, ledgerDevice := .int identity.device,
        ledgerInode := .int identity.inode, ledgerIdentitySha256 := identity.sha256.text,
        packetSha256 := packetSha256, packetReservationLimit := packetReservationLimit,
        packetCostLimitMicrousd := packetCostLimitMicrousd,
        pricingPolicySha256 := pricingPolicySha256 }
      ((ledgerRows table packetSha256).map Row.raw) (.int host.measuredAt.ns)
    sql (execute host.fails .commit)
    let after ← ledgerIdentity sha256 host.path host.after
    ensure (after = identity) invalidEvidence
    pure evidence

end Calls

/-! ## What one call does -/

section Step

variable {sha256 : HashFunction} {host : Host} {call : ReserveCall} {identity : LedgerIdentity}
  {table next : Table} {evidence : BrokerLedgerEvidence} {record : Sha256}

@[simp] theorem sql_eq_ok_iff {α : Type} {statement : Except SqlError α} {a : α} :
    sql statement = .ok a ↔ statement = .ok a :=
  mapError_eq_ok_iff

theorem sumColumn_eq_ok_iff {column : Row → ℤ} {rows : List Row} {total : ℤ} :
    sumColumn column rows = .ok total ↔
      FitsInteger (rows.map column).sum ∧ (rows.map column).sum = total := by
  simp only [sumColumn, bind_eq_ok_iff, ensure_eq_ok_iff, exists_const, pure_eq_ok_iff]

theorem length_selectAttempts (table : Table) (packetSha256 role : String) :
    (selectAttempts table packetSha256 role).length =
      (ofRole (ofPacket table packetSha256) role).length := by
  rw [selectAttempts, List.length_map, List.length_mergeSort]

/-- What a transaction that commits has checked. -/
structure Reserves (sha256 : HashFunction) (host : Host) (call : ReserveCall)
    (identity : LedgerIdentity) (table next : Table) (evidence : BrokerLedgerEvidence)
    (record : Sha256) : Prop where
  runs : ∀ statement, statement ≠ .connect → host.fails statement = false
  numbered : selectAttempts table call.packetSha256 call.role =
    countUp (ofRole (ofPacket table call.packetSha256) call.role).length
  atMostTwo : (ofRole (ofPacket table call.packetSha256) call.role).length + 1 ≤ 2
  attempt : call.attempt = (ofRole (ofPacket table call.packetSha256) call.role).length + 1
  fits : FitsInteger (totalTokens (ofPacket table call.packetSha256)) ∧
    FitsInteger (totalCost (ofPacket table call.packetSha256))
  tokens : totalTokens (ofPacket table call.packetSha256) + call.reservedTokens ≤
    call.packetReservationLimit
  cost : totalCost (ofPacket table call.packetSha256) + call.reservedCostMicrousd ≤
    call.packetCostLimitMicrousd
  inserted : insertRow table (call.row host.reservedAt) = .ok next
  evidence : Builds sha256 (call.binding identity) (ledgerRows next call.packetSha256)
    host.measuredAt.ns evidence
  record : reservationRecordSha256 sha256 (reservationRecord (call.row host.reservedAt)) = .ok record

theorem reserveBody_eq_ok_iff :
    reserveBody sha256 host call identity table = .ok ((evidence, record), next) ↔
      Reserves sha256 host call identity table next evidence record := by
  simp only [reserveBody, bind_eq_ok_iff, ensure_eq_ok_iff, exists_const, pure_eq_ok_iff,
    sql_eq_ok_iff, execute_eq_ok_iff, sumColumn_eq_ok_iff, buildLedgerEvidence_rows,
    length_selectAttempts]
  constructor
  · rintro ⟨hbegin, hselect, hnumbered, ⟨htwo, hattempt⟩, htotals, tokens, ⟨hfits, rfl⟩, cost,
      ⟨hfits', rfl⟩, htokens, hcost, hinsert, inserted, hinserted, hrows, built, hbuilt, digest,
      hdigest, hcommit, hpair⟩
    cases hpair
    refine ⟨?_, hnumbered, htwo, hattempt, ⟨hfits, hfits'⟩, htokens, hcost, hinserted, hbuilt,
      hdigest⟩
    intro statement hstatement
    cases statement with
    | connect => exact absurd rfl hstatement
    | beginTransaction => exact hbegin
    | selectAttempts => exact hselect
    | selectTotals => exact htotals
    | insert => exact hinsert
    | selectRows => exact hrows
    | commit => exact hcommit
  · intro h
    exact ⟨h.runs _ (by simp), h.runs _ (by simp), h.numbered, ⟨h.atMostTwo, h.attempt⟩,
      h.runs _ (by simp), _, ⟨h.fits.1, rfl⟩, _, ⟨h.fits.2, rfl⟩, h.tokens, h.cost,
      h.runs _ (by simp), next, h.inserted, h.runs _ (by simp), evidence, h.evidence, record,
      h.record, h.runs _ (by simp), rfl⟩

namespace Reserves

theorem next_eq (h : Reserves sha256 host call identity table next evidence record) :
    next = table ++ [call.row host.reservedAt] :=
  (insertRow_eq_ok_iff.mp h.inserted).2.2.symm

theorem mem_ledgerRows (h : Reserves sha256 host call identity table next evidence record) :
    call.row host.reservedAt ∈ ledgerRows next call.packetSha256 := by
  rw [BrokerLedger.mem_ledgerRows, h.next_eq, mem_ofPacket]
  exact ⟨List.mem_append_right _ (List.mem_singleton_self _), rfl⟩

/-- The builder has looked at the new row too. -/
theorem checked (h : Reserves sha256 host call identity table next evidence record) :
    (call.row host.reservedAt).Checked call.packetSha256 :=
  h.evidence.accountable.checked _ h.mem_ledgerRows

theorem fitsTime (h : Reserves sha256 host call identity table next evidence record) :
    FitsInteger (call.row host.reservedAt).reservationUnixNs :=
  (insertRow_eq_ok_iff.mp h.inserted).1.2.2.2

end Reserves

/-- What one call can do: raise without a commit, return what it committed, or raise after the
commit because the file is not the one it found before. -/
inductive Outcome (sha256 : HashFunction) (host : Host) (call : ReserveCall) (table : Table) :
    Except ExecutorError (BrokerLedgerEvidence × Sha256) × Table → Prop
  | rejected (e : ExecutorError) : Outcome sha256 host call table (.error e, table)
  | reserved (identity : LedgerIdentity) (next : Table) (evidence : BrokerLedgerEvidence)
      (record : Sha256) (hopen : openLedger sha256 host call = .ok identity)
      (hreserves : Reserves sha256 host call identity table next evidence record) :
      Outcome sha256 host call table (.ok (evidence, record), next)
  | charged (identity : LedgerIdentity) (next : Table) (evidence : BrokerLedgerEvidence)
      (record : Sha256) (e : ExecutorError) (hopen : openLedger sha256 host call = .ok identity)
      (hreserves : Reserves sha256 host call identity table next evidence record)
      (hafter : ledgerIdentity sha256 host.path host.after ≠ .ok identity) :
      Outcome sha256 host call table (.error e, next)

theorem reserveAttempt_outcome (sha256 : HashFunction) (host : Host) (call : ReserveCall)
    (table : Table) : Outcome sha256 host call table (reserveAttempt sha256 host call table) := by
  unfold reserveAttempt
  cases hopen : openLedger sha256 host call with
  | error e => exact .rejected e
  | ok identity =>
      cases hbody : reserveBody sha256 host call identity table with
      | error e =>
          simp only [transact_of_error hbody, error_bind]
          exact .rejected e
      | ok committed =>
          obtain ⟨⟨evidence, record⟩, next⟩ := committed
          have hreserves := reserveBody_eq_ok_iff.mp hbody
          simp only [transact_of_ok hbody, ok_bind]
          cases hafter : ledgerIdentity sha256 host.path host.after with
          | error e =>
              exact .charged identity next evidence record e hopen hreserves (by simp [hafter])
          | ok after =>
              by_cases hsame : after = identity
              · simp only [ok_bind, ensure_of _ hsame]
                exact .reserved identity next evidence record hopen hreserves
              · simp only [ok_bind, ensure, if_neg hsame, error_bind]
                exact .charged identity next evidence record _ hopen hreserves
                  (by simpa [hafter] using hsame)

/-- The file of an opened ledger, under the identity the call expects. -/
theorem ofFile_of_openLedger (h : openLedger sha256 host call = .ok identity) :
    (call.binding identity).OfFile sha256 ∧
      identity.sha256.text = call.expectedLedgerIdentitySha256 := by
  simp only [openLedger, ledgerIdentity, bind_eq_ok_iff, ensure_eq_ok_iff, exists_const,
    pure_eq_ok_iff, required_eq_ok_iff, sql_eq_ok_iff, execute_eq_ok_iff] at h
  obtain ⟨found, ⟨stat, -, ⟨-, hdevice, hinode⟩, payload, hpayload, rfl⟩, -, ⟨-, hexpected⟩, rfl⟩ := h
  refine ⟨⟨host.path.absolute, ?_, ?_, payload, hpayload, rfl⟩, hexpected⟩
  · exact decide_eq_true hdevice
  · exact decide_eq_true hinode

end Step
end AmazonSimilarSearch.BrokerLedger
