import AmazonSimilarSearch.BrokerLedger.BudgetSafety
import AmazonSimilarSearch.Broker.Commands

/-!
# Reservations of the outer executor

`_ledger_identity`, `_reserve` and `_measure_frozen_ledger` of
`broker_outer_executor.py`, which has the standard library only: it writes the
same table by the same rule and leaves every further check to the decoders. A
prepared batch has passed `_parse_prepared_batch`, so limits, roles, attempts and
tokens are within bounds, and its pricing is what the coordinator approved.
-/
namespace AmazonSimilarSearch.BrokerLedger
open Foundation Broker

/-- The limits of a packet, as a batch is prepared with them. -/
structure PreparedLimits where
  tokens : ℤ
  cost : ℤ
  tokens_within : 12000 ≤ tokens ∧ tokens ≤ 1088000
  cost_within : 1 ≤ cost ∧ cost ≤ 7940000

def PreparedLimits.limits (prepared : PreparedLimits) : Limits :=
  { tokens := prepared.tokens
    cost := prepared.cost
    tokens_nonneg := by have := prepared.tokens_within; omega
    cost_nonneg := by have := prepared.cost_within; omega }

/-- The fields of a prepared batch that ledger calls read. -/
structure PreparedBatch where
  reviewPacketSha256 : Sha256
  brokerLedgerIdentitySha256 : Sha256
  brokerPricingPolicySha256 : String
  limits : PreparedLimits

/-- The fields of a prepared run that ledger calls read; its packet is that of its batch. -/
structure PreparedRun where
  role : String
  attempt : ℤ
  reservedTokens : ℤ
  reservedCostMicrousd : ℤ
  role_mem : role ∈ roles
  attempt_within : 1 ≤ attempt ∧ attempt ≤ 2
  tokens_within : 12000 ≤ reservedTokens ∧ reservedTokens ≤ 272000
  cost_pos : 0 < reservedCostMicrousd

section Outer

variable (sha256 : HashFunction)

/-- `_ledger_identity` of `broker_outer_executor.py` -/
def outerLedgerIdentity (path : LedgerPath) (stat : Option LedgerStat) : Except Raised LedgerIdentity := do
  let stat ← required (.outerBroker "outer protected asset could not be inspected") stat
  ensure (stat.isRegular = true ∧ stat.links = 1)
    (Raised.outerBroker "outer protected asset must be a regular single-link file")
  ensure (stat.mode &&& 0o077 = 0)
    (Raised.outerBroker "outer broker ledger permissions are invalid")
  let payload ← canonical (identityPayload (.int stat.device) (.int stat.inode) path.text)
  pure ⟨path.text, stat.device, stat.inode, sha256 (identityDomain ++ payload)⟩

/-- `except (OSError, sqlite3.Error, TypeError, ValueError)`; an `OverflowError` is not caught. -/
def outerSql {α : Type} (message : String) (statement : Except SqlError α) : Except Raised α :=
  statement.mapError fun
    | .sqlite => .outerBroker message
    | .overflow => .exception

def PreparedRun.row (run : PreparedRun) (packetSha256 : String) (reservedAt : UnixTime) : Row :=
  { packetSha256 := packetSha256
    role := run.role
    attempt := run.attempt
    reservedTokens := run.reservedTokens
    reservedCostMicrousd := run.reservedCostMicrousd
    reservationUnixNs := reservedAt.ns }

/-- What `_reserve` returns. -/
def reservationPayload (identity : LedgerIdentity) (tokens cost : ℤ) (records : List Json)
    (reservedAt measuredAt : UnixTime) : Json :=
  .obj [("broker_ledger_identity_sha256", .str identity.sha256.text),
    ("cumulative_reserved_cost_microusd", .int cost),
    ("cumulative_reserved_tokens", .int tokens),
    ("ledger_device", .int identity.device),
    ("ledger_inode", .int identity.inode),
    ("measured_unix_ns", .int measuredAt.ns),
    ("records", .arr records),
    ("reservation_unix_ns", .int reservedAt.ns)]

def reservationFailed : String := "outer broker ledger reservation failed"

/-- The transaction of `_reserve`. -/
def outerReserveBody (host : Host) (batch : PreparedBatch) (run : PreparedRun)
    (identity : LedgerIdentity) (table : Table) : Except Raised (Json × Table) := do
  let packetSha256 := batch.reviewPacketSha256.text
  outerSql reservationFailed (execute host.fails .beginTransaction)
  outerSql reservationFailed (execute host.fails .selectAttempts)
  let attempts := selectAttempts table packetSha256 run.role
  ensure (attempts = countUp attempts.length ∧ run.attempt = attempts.length + 1)
    (Raised.outerBroker "outer broker attempt reservation rejected")
  outerSql reservationFailed (execute host.fails .selectTotals)
  let tokens ← outerSql reservationFailed
    (sumColumn Row.reservedTokens (ofPacket table packetSha256))
  let cost ← outerSql reservationFailed
    (sumColumn Row.reservedCostMicrousd (ofPacket table packetSha256))
  ensure (tokens + run.reservedTokens ≤ batch.limits.tokens ∧
    cost + run.reservedCostMicrousd ≤ batch.limits.cost)
    (Raised.outerBroker "outer broker packet reservation rejected")
  outerSql reservationFailed (execute host.fails .insert)
  let next ← outerSql reservationFailed
    (insertRow table (run.row packetSha256 host.reservedAt))
  outerSql reservationFailed (execute host.fails .selectRows)
  let records := (ledgerRows next packetSha256).map reservationRecord
  outerSql reservationFailed (execute host.fails .commit)
  pure (reservationPayload identity (tokens + run.reservedTokens) (cost + run.reservedCostMicrousd)
    records host.reservedAt host.measuredAt, next)

/-- The file of the session, before a connection to it. -/
def outerOpen (message : String) (host : Host) (batch : PreparedBatch) :
    Except Raised LedgerIdentity := do
  let identity ← outerLedgerIdentity sha256 host.path host.before
  ensure (identity.sha256 = batch.brokerLedgerIdentitySha256)
    (Raised.outerBroker "outer broker ledger identity changed")
  outerSql message (execute host.fails .connect)
  pure identity

/-- `_reserve`: what the call returns, and the table after it. -/
def outerReserve (host : Host) (batch : PreparedBatch) (run : PreparedRun) (table : Table) :
    Except Raised Json × Table :=
  match outerOpen sha256 reservationFailed host batch with
  | .error e => (.error e, table)
  | .ok identity =>
      let (committed, next) := transact (outerReserveBody host batch run identity) table
      (do
        let payload ← committed
        let after ← outerLedgerIdentity sha256 host.path host.after
        ensure (after.device = identity.device ∧ after.inode = identity.inode ∧
          after.sha256 = identity.sha256)
          (Raised.outerBroker "outer broker ledger changed during reservation")
        pure payload, next)

/-- `_FROZEN_LEDGER_DOMAIN` -/
def frozenLedgerDomain : Bytes := encodeUtf8 "amazon-explorer-frozen-broker-ledger-v1\x00"

/-- The fields of a frozen ledger in the order of their keys; the digest is among them once it
is known. -/
def frozenFields (identity : LedgerIdentity) (batch : PreparedBatch) (tokens cost : ℤ)
    (measuredAt : UnixTime) (records : List Json) (recordsSha256 : String)
    (digest : List (String × Json)) : Fields :=
  [("broker_ledger_identity_sha256", .str identity.sha256.text),
    ("broker_packet_cost_limit_microusd", .int batch.limits.cost),
    ("broker_packet_reservation_limit", .int batch.limits.tokens),
    ("broker_pricing_policy_sha256", .str batch.brokerPricingPolicySha256),
    ("cumulative_reserved_cost_microusd", .int cost),
    ("cumulative_reserved_tokens", .int tokens)] ++ digest ++
  [("ledger_device", .int identity.device),
    ("ledger_inode", .int identity.inode),
    ("ledger_path", .str identity.path),
    ("measured_unix_ns", .int measuredAt.ns),
    ("packet_sha256", .str batch.reviewPacketSha256.text),
    ("records", .arr records),
    ("records_sha256", .str recordsSha256),
    ("schema_version", .str "1.0")]

/-- What `_measure_frozen_ledger` asks of one record. -/
def frozenRecordValid (row : Row) : Prop :=
  row.role ∈ roles ∧ (1 ≤ row.attempt ∧ row.attempt ≤ 2) ∧
    (1 ≤ row.reservedTokens ∧ row.reservedTokens ≤ 272000) ∧
    (1 ≤ row.reservedCostMicrousd ∧ row.reservedCostMicrousd ≤ 7940000) ∧
    0 < row.reservationUnixNs

instance (row : Row) : Decidable (frozenRecordValid row) :=
  inferInstanceAs (Decidable (_ ∧ _ ∧ _ ∧ _ ∧ _))

def measurementFailed : String := "outer broker final ledger measurement failed"

/-- The rows of the packet, read in one transaction of a file that stays the same. -/
def frozenRows (host : Host) (batch : PreparedBatch) (table : Table) :
    Except Raised (LedgerIdentity × List Row) := do
  let identity ← outerOpen sha256 measurementFailed host batch
  outerSql measurementFailed (execute host.fails .beginTransaction)
  outerSql measurementFailed (execute host.fails .selectRows)
  outerSql measurementFailed (execute host.fails .commit)
  let after ← outerLedgerIdentity sha256 host.path host.after
  ensure (after.device = identity.device ∧ after.inode = identity.inode ∧
    after.sha256 = identity.sha256)
    (Raised.outerBroker "outer broker ledger changed during measurement")
  pure (identity, ledgerRows table batch.reviewPacketSha256.text)

/-- `_measure_frozen_ledger` -/
def measureFrozenLedger (host : Host) (batch : PreparedBatch) (table : Table) :
    Except Raised Json := do
  let (identity, rows) ← frozenRows sha256 host batch table
  ensure (∀ row ∈ rows, frozenRecordValid row)
    (Raised.outerBroker "outer broker final ledger record is invalid")
  ensure (rows ≠ [] ∧ Contiguous rows ∧ totalTokens rows ≤ batch.limits.tokens ∧
    totalCost rows ≤ batch.limits.cost)
    (Raised.outerBroker "outer broker final ledger records are invalid")
  let records := rows.map reservationRecord
  let recordsBytes ← canonical (recordsPayload batch.reviewPacketSha256.text records)
  let frozen := frozenFields identity batch (totalTokens rows) (totalCost rows) host.measuredAt
    records (sha256 recordsBytes).text
  let unsigned ← canonical (.obj (frozen []))
  pure (.obj (frozen
    [("final_ledger_sha256", .str (sha256 (frozenLedgerDomain ++ unsigned)).text)]))

end Outer

/-! ## What one call of `_reserve` does -/

section Step

variable {sha256 : HashFunction} {host : Host} {batch : PreparedBatch} {run : PreparedRun}
  {identity : LedgerIdentity} {table next : Table} {payload : Json}

@[simp] theorem outerSql_eq_ok_iff {α : Type} {message : String} {statement : Except SqlError α}
    {a : α} : outerSql message statement = .ok a ↔ statement = .ok a :=
  mapError_eq_ok_iff

/-- What a transaction of `_reserve` that commits has checked. -/
structure OuterReserves (host : Host) (batch : PreparedBatch) (run : PreparedRun)
    (identity : LedgerIdentity) (table next : Table) (payload : Json) : Prop where
  runs : ∀ statement, statement ≠ .connect → host.fails statement = false
  numbered : selectAttempts table batch.reviewPacketSha256.text run.role =
    countUp (ofRole (ofPacket table batch.reviewPacketSha256.text) run.role).length
  attempt : run.attempt =
    (ofRole (ofPacket table batch.reviewPacketSha256.text) run.role).length + 1
  fits : FitsInteger (totalTokens (ofPacket table batch.reviewPacketSha256.text)) ∧
    FitsInteger (totalCost (ofPacket table batch.reviewPacketSha256.text))
  tokens : totalTokens (ofPacket table batch.reviewPacketSha256.text) + run.reservedTokens ≤
    batch.limits.tokens
  cost : totalCost (ofPacket table batch.reviewPacketSha256.text) + run.reservedCostMicrousd ≤
    batch.limits.cost
  inserted : insertRow table (run.row batch.reviewPacketSha256.text host.reservedAt) = .ok next
  payload : payload = reservationPayload identity
    (totalTokens (ofPacket table batch.reviewPacketSha256.text) + run.reservedTokens)
    (totalCost (ofPacket table batch.reviewPacketSha256.text) + run.reservedCostMicrousd)
    ((ledgerRows next batch.reviewPacketSha256.text).map reservationRecord) host.reservedAt
    host.measuredAt

theorem outerReserveBody_eq_ok_iff :
    outerReserveBody host batch run identity table = .ok (payload, next) ↔
      OuterReserves host batch run identity table next payload := by
  simp only [outerReserveBody, bind_eq_ok_iff, ensure_eq_ok_iff, exists_const, pure_eq_ok_iff,
    outerSql_eq_ok_iff, execute_eq_ok_iff, sumColumn_eq_ok_iff, length_selectAttempts]
  constructor
  · rintro ⟨hbegin, hselect, ⟨hnumbered, hattempt⟩, htotals, tokens, ⟨hfits, rfl⟩, cost,
      ⟨hfits', rfl⟩, ⟨htokens, hcost⟩, hinsert, inserted, hinserted, hrows, hcommit, hpair⟩
    cases hpair
    refine ⟨?_, hnumbered, hattempt, ⟨hfits, hfits'⟩, htokens, hcost, hinserted, rfl⟩
    intro statement hstatement
    cases statement with
    | connect => exact absurd rfl hstatement
    | beginTransaction => exact hbegin
    | selectAttempts => exact hselect
    | selectTotals => exact htotals
    | insert => exact hinsert
    | selectRows => exact hrows
    | commit => exact hcommit
  · intro h
    exact ⟨h.runs _ (by simp), h.runs _ (by simp), ⟨h.numbered, h.attempt⟩, h.runs _ (by simp), _,
      ⟨h.fits.1, rfl⟩, _, ⟨h.fits.2, rfl⟩, ⟨h.tokens, h.cost⟩, h.runs _ (by simp), next,
      h.inserted, h.runs _ (by simp), h.runs _ (by simp), by rw [h.payload]; rfl⟩

namespace OuterReserves

theorem next_eq (h : OuterReserves host batch run identity table next payload) :
    next = table ++ [run.row batch.reviewPacketSha256.text host.reservedAt] :=
  (insertRow_eq_ok_iff.mp h.inserted).2.2.symm

end OuterReserves

end Step
end AmazonSimilarSearch.BrokerLedger
