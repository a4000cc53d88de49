import AmazonSimilarSearch.BrokerLedger.Outer

/-!
# Decoding the outer executor's ledger

`validate_frozen_broker_ledger_evidence` of `broker_executor.py`, and
`_decode_frozen_ledger` and `_decode_reservation` of `broker_phase_protocol.py`:
the typed side rebuilds its evidence from what the outer executor wrote, and
validates that evidence as its own.
-/
namespace AmazonSimilarSearch.BrokerLedger
open Foundation Broker

/-- What leaves a decoder of `broker_phase_protocol.py` by `raise`. -/
inductive DecodeError where
  /-- `BrokerPhaseProtocolError` -/
  | protocol (message : String)
  /-- what `broker_executor.py` raises -/
  | executor (error : ExecutorError)
  deriving DecidableEq, Repr

section Decoders

variable (sha256 : HashFunction) (now : UnixTime)

/-- Every exception that validation may meet is turned into the one message. -/
def frozenError : ExecutorError → ExecutorError
  | .brokerExecution message => .brokerExecution message
  | .exception => invalidEvidence

/-- `validate_frozen_broker_ledger_evidence` -/
def validateFrozenLedger (evidence : BrokerLedgerEvidence) (expected : Expected)
    (expectedIdentitySha256 : String) : Except ExecutorError BrokerLedgerEvidence := do
  ensure (isSha256 expectedIdentitySha256 = true) invalidEvidence
  Except.mapError frozenError do
    let _ ← validatedLedgerRecords sha256 now expected evidence
    ensure (evidence.brokerLedgerIdentitySha256 = expectedIdentitySha256) invalidEvidence
    pure evidence

/-- `_canonical_json` of `broker_phase_protocol.py` -/
def protocolJson (value : Json) : Except DecodeError Bytes :=
  required (.protocol "broker phase artifact is not canonical JSON") (Json.compact? value)

def frozenKeys : List String :=
  ["broker_ledger_identity_sha256", "broker_packet_cost_limit_microusd",
    "broker_packet_reservation_limit", "broker_pricing_policy_sha256",
    "cumulative_reserved_cost_microusd", "cumulative_reserved_tokens", "final_ledger_sha256",
    "ledger_device", "ledger_inode", "ledger_path", "measured_unix_ns", "packet_sha256", "records",
    "records_sha256", "schema_version"]

def stringOf : Json → Option String
  | .str text => some text
  | _ => none

/-- `isinstance(value, int)` of a value that is no `bool` -/
def isInteger : Json → Bool
  | .int _ => true
  | _ => false

/-- What evidence of a batch is bound to. -/
def batchBinding (batch : PreparedBatch) (path : String) (device inode : Json) : Binding :=
  { ledgerPath := path
    ledgerDevice := device
    ledgerInode := inode
    ledgerIdentitySha256 := batch.brokerLedgerIdentitySha256.text
    packetSha256 := batch.reviewPacketSha256.text
    packetReservationLimit := batch.limits.tokens
    packetCostLimitMicrousd := batch.limits.cost
    pricingPolicySha256 := batch.brokerPricingPolicySha256 }

/-- `_build_ledger_evidence` and `validate_frozen_broker_ledger_evidence` on decoded records,
with what a decoder compares in between. -/
def rebuildLedger (binding : Binding) (rows : List RawRow) (measuredUnixNs : Json)
    (compare : BrokerLedgerEvidence → Except DecodeError Unit) (invalid : ExecutorError → DecodeError) :
    Except DecodeError BrokerLedgerEvidence := do
  let ledger ← (buildLedgerEvidence sha256 binding rows measuredUnixNs).mapError .executor
  compare ledger
  (validateFrozenLedger sha256 now ledger binding.expected binding.ledgerIdentitySha256).mapError
    invalid

def frozenBindingInvalid : DecodeError := .protocol "outer broker frozen ledger binding is invalid"

/-- `_decode_frozen_ledger` of a dict -/
def decodeFrozenFields (batch : PreparedBatch) (fields : Fields) :
    Except DecodeError BrokerLedgerEvidence := do
  ensure (fields.hasExactKeys frozenKeys = true)
    (DecodeError.protocol "outer broker frozen ledger is invalid")
  ensure ((fields.get "schema_version").pyEq (.str "1.0") = true) frozenBindingInvalid
  let digest ← required frozenBindingInvalid (stringOf (fields.get "final_ledger_sha256"))
  ensure (isSha256 digest = true) frozenBindingInvalid
  let unsigned ← protocolJson (.obj (fields.without "final_ledger_sha256"))
  ensure (digest = (sha256 (frozenLedgerDomain ++ unsigned)).text ∧
    (fields.get "broker_ledger_identity_sha256").pyEq
      (.str batch.brokerLedgerIdentitySha256.text) = true ∧
    (fields.get "packet_sha256").pyEq (.str batch.reviewPacketSha256.text) = true ∧
    (fields.get "broker_packet_reservation_limit").pyEq (.int batch.limits.tokens) = true ∧
    (fields.get "broker_packet_cost_limit_microusd").pyEq (.int batch.limits.cost) = true ∧
    (fields.get "broker_pricing_policy_sha256").pyEq
      (.str batch.brokerPricingPolicySha256) = true) frozenBindingInvalid
  let path ← required frozenBindingInvalid (stringOf (fields.get "ledger_path"))
  ensure (isAbsolute (pathText path) = true) frozenBindingInvalid
  let records ← required frozenBindingInvalid (itemsOf (fields.get "records"))
  ensure (records ≠ []) frozenBindingInvalid
  let rows ← records.mapM
    (rawOfRecord (DecodeError.protocol "outer broker frozen ledger records are invalid"))
  rebuildLedger sha256 now
    (batchBinding batch (pathText path) (fields.get "ledger_device") (fields.get "ledger_inode"))
    rows (fields.get "measured_unix_ns")
    (fun ledger => ensure
      ((fields.get "records_sha256").pyEq (.str ledger.recordsSha256) = true ∧
        (fields.get "cumulative_reserved_tokens").pyEq
          (.int ledger.cumulativeReservedTokens) = true ∧
        (fields.get "cumulative_reserved_cost_microusd").pyEq
          (.int ledger.cumulativeReservedCostMicrousd) = true)
      (DecodeError.protocol "outer broker frozen ledger totals are invalid"))
    .executor

/-- `_decode_frozen_ledger` -/
def decodeFrozenLedger (batch : PreparedBatch) : Json → Except DecodeError BrokerLedgerEvidence
  | .obj fields => decodeFrozenFields sha256 now batch fields
  | _ => .error (.protocol "outer broker frozen ledger is invalid")

def reservationKeys : List String :=
  ["broker_ledger_identity_sha256", "cumulative_reserved_cost_microusd",
    "cumulative_reserved_tokens", "ledger_device", "ledger_inode", "measured_unix_ns", "records",
    "reservation_unix_ns"]

def reservationInvalid : DecodeError := .protocol "outer broker reservation is invalid"

def reservationRecordsInvalid : DecodeError :=
  .protocol "outer broker reservation records are invalid"

/-- The sort key of a record, `(str(value["role"]), int(value["attempt"]))`. Records with another
role or attempt have a key as well, but the builder refuses them in any order. -/
def recordKey (record : Json) : Except DecodeError (String × ℤ) :=
  match recordField record "role", recordField record "attempt" with
  | .str role, .int attempt => .ok (role, attempt)
  | _, _ => .error reservationRecordsInvalid

/-- `records == sorted(records, key=...)`: no record has a smaller key than the one before it. -/
def keysOrdered (keys : List (String × ℤ)) : Bool :=
  keys.Pairwise fun a b => a.1 < b.1 ∨ a.1 = b.1 ∧ a.2 ≤ b.2

/-- What the one record of the run must hold. -/
def matchesRun (batch : PreparedBatch) (run : PreparedRun) (fields : Fields) (record : Json) :
    Prop :=
  (recordField record "packet_sha256").pyEq (.str batch.reviewPacketSha256.text) = true ∧
  (recordField record "reserved_tokens").pyEq (.int run.reservedTokens) = true ∧
  (recordField record "reserved_cost_microusd").pyEq (.int run.reservedCostMicrousd) = true ∧
  (recordField record "reservation_unix_ns").pyEq (fields.get "reservation_unix_ns") = true

instance (batch : PreparedBatch) (run : PreparedRun) (fields : Fields) (record : Json) :
    Decidable (matchesRun batch run fields record) :=
  inferInstanceAs (Decidable (_ ∧ _ ∧ _ ∧ _))

/-- The records of the run among those of a reservation. -/
def matchingRecords (run : PreparedRun) (records : List Json) : List Json :=
  records.filter fun record => (recordField record "role").pyEq (.str run.role) &&
    (recordField record "attempt").pyEq (.int run.attempt)

/-- `_decode_reservation` of a dict -/
def decodeReservationFields (batch : PreparedBatch) (run : PreparedRun)
    (finalLedger : BrokerLedgerEvidence) (fields : Fields) :
    Except DecodeError (BrokerLedgerEvidence × Json) := do
  ensure (fields.hasExactKeys reservationKeys = true) reservationInvalid
  let records ← required reservationRecordsInvalid (itemsOf (fields.get "records"))
  ensure (records ≠ []) reservationRecordsInvalid
  let rows ← records.mapM (rawOfRecord reservationRecordsInvalid)
  let keys ← records.mapM recordKey
  ensure (keysOrdered keys = true)
    (DecodeError.protocol "outer broker reservation records are reordered")
  ensure ((fields.get "broker_ledger_identity_sha256").pyEq
      (.str batch.brokerLedgerIdentitySha256.text) = true ∧
    (fields.get "ledger_device").pyEq finalLedger.ledgerDevice = true ∧
    (fields.get "ledger_inode").pyEq finalLedger.ledgerInode = true ∧
    isInteger (fields.get "ledger_device") = true ∧ positiveInt (fields.get "ledger_inode") = true ∧
    positiveInt (fields.get "measured_unix_ns") = true ∧
    (matchingRecords run records).length = 1) reservationInvalid
  let record ← required reservationInvalid (matchingRecords run records).head?
  ensure (matchesRun batch run fields record) reservationInvalid
  let ledger ← rebuildLedger sha256 now
    (batchBinding batch finalLedger.ledgerPath (fields.get "ledger_device")
      (fields.get "ledger_inode"))
    rows (fields.get "measured_unix_ns")
    (fun ledger => ensure
      ((fields.get "cumulative_reserved_tokens").pyEq
          (.int ledger.cumulativeReservedTokens) = true ∧
        (fields.get "cumulative_reserved_cost_microusd").pyEq
          (.int ledger.cumulativeReservedCostMicrousd) = true)
      (DecodeError.protocol "outer broker reservation totals are invalid"))
    (fun
      | .brokerExecution _ => .protocol "outer broker frozen ledger validation failed"
      | .exception => .executor .exception)
  pure (ledger, record)

/-- `_decode_reservation` -/
def decodeReservation (batch : PreparedBatch) (run : PreparedRun)
    (finalLedger : BrokerLedgerEvidence) : Json → Except DecodeError (BrokerLedgerEvidence × Json)
  | .obj fields => decodeReservationFields sha256 now batch run finalLedger fields
  | _ => .error reservationInvalid

end Decoders
end AmazonSimilarSearch.BrokerLedger
