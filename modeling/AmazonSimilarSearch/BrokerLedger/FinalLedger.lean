import AmazonSimilarSearch.BrokerLedger.BudgetSafety

/-!
# The final ledger

`validate_successful_broker_executions_against_final_ledger` of
`broker_executor.py`. The final ledger is authoritative for cost: each role may
stop only at the execution that is presented for it, and the later of the two
executions must have seen the whole ledger.
-/
namespace AmazonSimilarSearch.BrokerLedger
open Foundation

/-- The fields of `BrokerExecutionEvidence` that account for a reservation. -/
structure BrokerExecutionEvidence where
  packetSha256 : String
  role : String
  attempt : ℤ
  reservedTokens : ℤ
  reservedCostMicrousd : ℤ
  cumulativeReservedTokens : ℤ
  cumulativeReservedCostMicrousd : ℤ
  reservationRecordSha256 : String
  brokerPacketReservationLimit : ℤ
  brokerPacketCostLimitMicrousd : ℤ
  brokerPricingPolicySha256 : String
  brokerLedgerIdentitySha256 : String
  ledger : BrokerLedgerEvidence

def invalidFinal : ExecutorError := .brokerExecution "broker final ledger validation failed"

/-- The values a ledger itself states. -/
def BrokerLedgerEvidence.ownExpected (ledger : BrokerLedgerEvidence) : Expected :=
  { packetSha256 := ledger.packetSha256
    packetReservationLimit := ledger.brokerPacketReservationLimit
    packetCostLimitMicrousd := ledger.brokerPacketCostLimitMicrousd
    pricingPolicySha256 := ledger.brokerPricingPolicySha256 }

section Check

variable (sha256 : HashFunction) (now : UnixTime)

/-- What the loop asks of the record at which a role has stopped. -/
def matchesRecord (final : BrokerLedgerEvidence) (execution : BrokerExecutionEvidence)
    (record : Json) (digest : Sha256) : Prop :=
  (recordField record "reserved_tokens").pyEq (.int execution.reservedTokens) = true ∧
  execution.reservationRecordSha256 = digest.text ∧
  execution.packetSha256 = final.packetSha256 ∧
  execution.brokerLedgerIdentitySha256 = final.brokerLedgerIdentitySha256 ∧
  execution.brokerPacketReservationLimit = final.brokerPacketReservationLimit ∧
  execution.brokerPacketCostLimitMicrousd = final.brokerPacketCostLimitMicrousd ∧
  execution.brokerPricingPolicySha256 = final.brokerPricingPolicySha256 ∧
  (recordField record "reserved_cost_microusd").pyEq (.int execution.reservedCostMicrousd) = true ∧
  execution.cumulativeReservedTokens = execution.ledger.cumulativeReservedTokens ∧
  execution.cumulativeReservedCostMicrousd = execution.ledger.cumulativeReservedCostMicrousd

instance (final : BrokerLedgerEvidence) (execution : BrokerExecutionEvidence) (record : Json)
    (digest : Sha256) : Decidable (matchesRecord final execution record digest) := by
  unfold matchesRecord
  infer_instance

/-- One round of the loop over the roles. -/
def checkExecution (final : BrokerLedgerEvidence) (finalRecords : List Json)
    (execution : BrokerExecutionEvidence) : Except ExecutorError Unit := do
  let roleRecords := finalRecords.filter fun record =>
    (recordField record "role").pyEq (.str execution.role)
  ensure (roleRecords.map (fun record => intOf (recordField record "attempt")) =
    countUp execution.attempt.toNat) invalidFinal
  let successful ← required invalidFinal roleRecords.getLast?
  let digest ← reservationRecordSha256 sha256 successful
  ensure (matchesRecord final execution successful digest) invalidFinal
  let records ← validatedLedgerRecords sha256 now final.ownExpected execution.ledger
  ensure (∀ record ∈ records, finalRecords.any record.pyEq = true) invalidFinal

/-- `max(values, key=...)`: the first of the greatest. -/
def latest (a b : BrokerExecutionEvidence) : BrokerExecutionEvidence :=
  if a.cumulativeReservedTokens < b.cumulativeReservedTokens then b else a

/-- The comparison of the totals after the loop. -/
def checkTotals (final : BrokerLedgerEvidence) (a b : BrokerExecutionEvidence) :
    Except ExecutorError Unit :=
  ensure (a.cumulativeReservedTokens ≠ b.cumulativeReservedTokens ∧
    max a.cumulativeReservedTokens b.cumulativeReservedTokens = final.cumulativeReservedTokens ∧
    (latest a b).ledger.records = final.records ∧
    (latest a b).ledger.recordsSha256 = final.recordsSha256) invalidFinal

/-- The roles of two executions are the two roles. -/
def bothRoles (a b : BrokerExecutionEvidence) : Prop :=
  (a.role = "reviewer" ∧ b.role = "adversary") ∨ (a.role = "adversary" ∧ b.role = "reviewer")

instance (a b : BrokerExecutionEvidence) : Decidable (bothRoles a b) :=
  inferInstanceAs (Decidable (_ ∨ _))

/-- `validate_successful_broker_executions_against_final_ledger` -/
def validateFinalLedger (executions : List BrokerExecutionEvidence)
    (final : BrokerLedgerEvidence) : Except ExecutorError BrokerLedgerEvidence :=
  match executions with
  | [a, b] => do
      ensure (bothRoles a b) invalidFinal
      let finalRecords ← validatedLedgerRecords sha256 now final.ownExpected final
      checkExecution sha256 now final finalRecords a
      checkExecution sha256 now final finalRecords b
      checkTotals final a b
      pure final
  | _ => .error invalidFinal

end Check

/-! ## Records and rows -/

section Records

variable {sha256 : HashFunction} {now : UnixTime} {final : BrokerLedgerEvidence}
  {execution : BrokerExecutionEvidence} {rows : List Row} {row : Row}

theorem pyEq_reservationRecord (row : Row) :
    (reservationRecord row).pyEq (reservationRecord row) = true := by
  simp [reservationRecord, Json.pyEq, Json.pyEqFields, Json.integer?]

theorem pyEq_int_iff {i j : ℤ} : (Json.int i).pyEq (.int j) = true ↔ i = j := by
  simp [Json.pyEq, Json.integer?]

/-- The records of a role are those of its rows. -/
theorem filter_records (rows : List Row) (role : String) :
    (rows.map reservationRecord).filter (fun record =>
      (recordField record "role").pyEq (.str role)) =
      (ofRole rows role).map reservationRecord := by
  rw [List.filter_map, ofRole]
  refine congrArg _ (List.filter_congr fun row _ => ?_)
  rw [Bool.eq_iff_iff]
  simp only [Function.comp_apply, Json.pyEq_str_right, decide_eq_true_eq]
  exact ⟨fun h => by cases h; rfl, fun h => by rw [← h]; rfl⟩

theorem attempts_records (rows : List Row) :
    (rows.map reservationRecord).map (fun record => intOf (recordField record "attempt")) =
      rows.map Row.attempt := by
  rw [List.map_map]
  rfl

/-- What a round of the loop asks, over the rows of the final ledger. -/
structure StopsAt (sha256 : HashFunction) (final : BrokerLedgerEvidence) (rows : List Row)
    (execution : BrokerExecutionEvidence) (row : Row) : Prop where
  attempts : (ofRole rows execution.role).map Row.attempt = countUp execution.attempt.toNat
  last : (ofRole rows execution.role).getLast? = some row
  tokens : row.reservedTokens = execution.reservedTokens
  cost : row.reservedCostMicrousd = execution.reservedCostMicrousd
  record : ∃ digest, reservationRecordSha256 sha256 (reservationRecord row) = .ok digest ∧
    execution.reservationRecordSha256 = digest.text
  packetSha256 : execution.packetSha256 = final.packetSha256
  identity : execution.brokerLedgerIdentitySha256 = final.brokerLedgerIdentitySha256
  reservationLimit : execution.brokerPacketReservationLimit = final.brokerPacketReservationLimit
  costLimit : execution.brokerPacketCostLimitMicrousd = final.brokerPacketCostLimitMicrousd
  pricing : execution.brokerPricingPolicySha256 = final.brokerPricingPolicySha256
  cumulative : execution.cumulativeReservedTokens = execution.ledger.cumulativeReservedTokens ∧
    execution.cumulativeReservedCostMicrousd = execution.ledger.cumulativeReservedCostMicrousd

theorem matchesRecord_iff {digest : Sha256} :
    matchesRecord final execution (reservationRecord row) digest ↔
      row.reservedTokens = execution.reservedTokens ∧
      execution.reservationRecordSha256 = digest.text ∧
      execution.packetSha256 = final.packetSha256 ∧
      execution.brokerLedgerIdentitySha256 = final.brokerLedgerIdentitySha256 ∧
      execution.brokerPacketReservationLimit = final.brokerPacketReservationLimit ∧
      execution.brokerPacketCostLimitMicrousd = final.brokerPacketCostLimitMicrousd ∧
      execution.brokerPricingPolicySha256 = final.brokerPricingPolicySha256 ∧
      row.reservedCostMicrousd = execution.reservedCostMicrousd ∧
      execution.cumulativeReservedTokens = execution.ledger.cumulativeReservedTokens ∧
      execution.cumulativeReservedCostMicrousd =
        execution.ledger.cumulativeReservedCostMicrousd := by
  unfold matchesRecord
  rw [show recordField (reservationRecord row) "reserved_tokens" = .int row.reservedTokens from rfl,
    show recordField (reservationRecord row) "reserved_cost_microusd" =
      .int row.reservedCostMicrousd from rfl, pyEq_int_iff, pyEq_int_iff]

theorem checkExecution_eq_ok_iff :
    checkExecution sha256 now final (rows.map reservationRecord) execution = .ok () ↔
      (∃ row, StopsAt sha256 final rows execution row) ∧
      ∃ records, validatedLedgerRecords sha256 now final.ownExpected execution.ledger = .ok records ∧
        ∀ record ∈ records, (rows.map reservationRecord).any record.pyEq = true := by
  simp only [checkExecution, filter_records, attempts_records, bind_eq_ok_iff, ensure_eq_ok_iff,
    exists_const, required_eq_ok_iff, List.getLast?_map, Option.map_eq_some_iff]
  constructor
  · rintro ⟨hattempts, record, ⟨row, hlast, rfl⟩, digest, hdigest, hmatches, records, hrecords, hall⟩
    obtain ⟨h₁, h₂, h₃, h₄, h₅, h₆, h₇, h₈, h₉⟩ := matchesRecord_iff.mp hmatches
    exact ⟨⟨row, hattempts, hlast, h₁, h₈, ⟨digest, hdigest, h₂⟩, h₃, h₄, h₅, h₆, h₇, h₉⟩, records,
      hrecords, hall⟩
  · rintro ⟨⟨row, hattempts, hlast, h₁, h₈, ⟨digest, hdigest, h₂⟩, h₃, h₄, h₅, h₆, h₇, h₉⟩, records,
      hrecords, hall⟩
    exact ⟨hattempts, _, ⟨row, hlast, rfl⟩, digest, hdigest,
      matchesRecord_iff.mpr ⟨h₁, h₂, h₃, h₄, h₅, h₆, h₇, h₈, h₉⟩, records, hrecords, hall⟩

theorem validateFinalLedger_eq_ok_iff {executions : List BrokerExecutionEvidence}
    {result : BrokerLedgerEvidence} :
    validateFinalLedger sha256 now executions final = .ok result ↔
      ∃ a b records, executions = [a, b] ∧ bothRoles a b ∧
        validatedLedgerRecords sha256 now final.ownExpected final = .ok records ∧
        checkExecution sha256 now final records a = .ok () ∧
        checkExecution sha256 now final records b = .ok () ∧
        checkTotals final a b = .ok () ∧ final = result := by
  unfold validateFinalLedger
  split
  · simp only [bind_eq_ok_iff, ensure_eq_ok_iff, exists_const, pure_eq_ok_iff, List.cons.injEq]
    constructor
    · rintro ⟨hroles, records, hrecords, ⟨⟩, ha, ⟨⟩, hb, ⟨⟩, htotals, hresult⟩
      exact ⟨_, _, records, ⟨rfl, rfl, trivial⟩, hroles, hrecords, ha, hb, htotals, hresult⟩
    · rintro ⟨_, _, records, ⟨rfl, rfl, -⟩, hroles, hrecords, ha, hb, htotals, hresult⟩
      exact ⟨hroles, records, hrecords, (), ha, (), hb, (), htotals, hresult⟩
  · rename_i hpair
    simp only [reduceCtorEq, false_iff, not_exists, not_and]
    rintro a b - hexecutions
    exact absurd hexecutions (hpair a b)

end Records
end AmazonSimilarSearch.BrokerLedger
