import AmazonSimilarSearch.Foundation.Runs
import AmazonSimilarSearch.PhaseProtocol.Chain
import Mathlib.Data.List.Sort

/-!
# The phase ledger

`SqlitePhaseLedger` of `phase_protocol.py`: the rows of its table as it stores
them, and the two transactions on it. Rows keep requests and results as
canonical JSON and every check parses them again. Which SQL statements of a
call fail is up to the environment.
-/
namespace AmazonSimilarSearch.PhaseProtocol
open Foundation

/-- `CHECK(status IN ('pending','complete'))` -/
inductive Status where
  | pending
  | complete
  deriving DecidableEq, Repr

/-- One row of the table `phases`. -/
structure Row where
  workflowId : Sha256
  sequence : ℕ
  phase : Phase
  requestSha256 : Sha256
  requestJson : Bytes
  status : Status
  resultSha256 : Option Sha256
  resultJson : Option Bytes
  deriving DecidableEq

/-- The table `phases`, in the order of insertion. -/
abbrev Ledger := List Row

/-- The SQL statements of a call. -/
inductive Statement where
  | beginImmediate
  | selectPresent
  | selectPending
  | selectResults
  | insert
  | selectRow
  | update
  | commit
  deriving DecidableEq, Repr

/-- What a call on the ledger raises. -/
inductive LedgerError where
  | protocol (error : ProtocolError)
  | model (error : ValidationError)
  /-- `sqlite3.IntegrityError` -/
  | integrity
  /-- `sqlite3.OperationalError` -/
  | operational (statement : Statement)
  /-- `bytes(None)` -/
  | missing
  /-- `canonical_json_bytes` -/
  | encoding
  deriving DecidableEq, Repr

/-- A statement runs unless the environment makes it fail. -/
def execute (fails : Statement → Bool) (statement : Statement) : Except LedgerError Unit :=
  ensure (fails statement = false) (.operational statement)

/-- `PRIMARY KEY(workflow_id, sequence)` and the two `UNIQUE` columns. -/
def Constraints (ledger : Ledger) : Prop :=
  (ledger.map fun row => (row.workflowId, row.sequence)).Nodup ∧
    (ledger.map Row.requestSha256).Nodup ∧ (ledger.filterMap Row.resultSha256).Nodup

instance (ledger : Ledger) : Decidable (Constraints ledger) :=
  inferInstanceAs (Decidable (_ ∧ _ ∧ _))

/-- A statement that would break a constraint of the table raises. -/
def constrained (next : Ledger) : Except LedgerError Ledger := do
  ensure (Constraints next) .integrity
  pure next

def rowsOf (ledger : Ledger) (workflowId : Sha256) : List Row :=
  ledger.filter fun row => row.workflowId = workflowId

/-- `SELECT ... WHERE workflow_id = ? AND status = 'complete' ORDER BY sequence` -/
def selectComplete (ledger : Ledger) (workflowId : Sha256) : List Row :=
  (ledger.filter fun row => row.workflowId = workflowId ∧ row.status = .complete).mergeSort
    fun a b => a.sequence ≤ b.sequence

def readResultRow (sha256 : HashFunction) (row : Row) :
    Except LedgerError (PhaseResult sha256) := do
  let resultJson ← required .missing row.resultJson
  (PhaseResult.modelValidateJson sha256 resultJson).mapError .model

/-- `SqlitePhaseLedger._completed_results` -/
def completedResults (sha256 : HashFunction) (ledger : Ledger) (workflowId : Sha256) :
    Except LedgerError (List (PhaseResult sha256)) :=
  (selectComplete ledger workflowId).mapM (readResultRow sha256)

/-- The row of a claim. -/
def pendingRow (request : Request) (requestJson : Bytes) : Row :=
  { workflowId := request.workflowId, sequence := request.phase.sequence, phase := request.phase,
    requestSha256 := request.requestSha256, requestJson, status := .pending, resultSha256 := none,
    resultJson := none }

section Transactions

variable {sha256 : HashFunction}

/-- The body of `SqlitePhaseLedger.claim`. -/
def claimBody (fails : Statement → Bool) (request : PhaseRequest sha256) (ledger : Ledger) :
    Except LedgerError Ledger := do
  execute fails .beginImmediate
  execute fails .selectPresent
  ensure (∀ row ∈ ledger, ¬ (row.requestSha256 = request.requestSha256 ∨
      (row.workflowId = request.workflowId ∧ row.sequence = request.phase.sequence)))
    (.protocol ⟨"phase request was already claimed"⟩)
  execute fails .selectPending
  ensure (∀ row ∈ ledger, ¬ (row.workflowId = request.workflowId ∧ row.status = .pending))
    (.protocol ⟨"workflow contains an interrupted consumed phase"⟩)
  execute fails .selectResults
  let results ← completedResults sha256 ledger request.workflowId
  let chain ← (PhaseChain.build results).mapError .protocol
  (chain.validateRequest request.toRequest).mapError .protocol
  let requestJson ← required .encoding (Json.canonicalLine? (.obj request.fields))
  execute fails .insert
  let next ← constrained (ledger ++ [pendingRow request.toRequest requestJson])
  execute fails .commit
  pure next

/-- `SqlitePhaseLedger.claim` -/
def claim (fails : Statement → Bool) (request : PhaseRequest sha256) (ledger : Ledger) :
    Except LedgerError Unit × Ledger :=
  transaction (claimBody fails request) ledger

/-- `UPDATE phases SET status='complete', ... WHERE ... AND status='pending'` -/
def completeRow (result : PhaseResult sha256) (resultJson : Bytes) (row : Row) : Row :=
  if row.workflowId = result.phaseRequest.workflowId ∧
      row.sequence = result.phaseRequest.phase.sequence ∧ row.status = .pending then
    { row with
      status := .complete
      resultSha256 := some result.phaseSha256
      resultJson := some resultJson }
  else row

/-- The body of `SqlitePhaseLedger.commit`. -/
def commitBody (fails : Statement → Bool) (result : PhaseResult sha256) (ledger : Ledger) :
    Except LedgerError Ledger := do
  execute fails .beginImmediate
  execute fails .selectRow
  let row ← required (.protocol ⟨"phase result has no uniquely pending claim"⟩)
    (ledger.find? fun row => row.workflowId = result.phaseRequest.workflowId ∧
      row.sequence = result.phaseRequest.phase.sequence)
  ensure (row.status = .pending) (.protocol ⟨"phase result has no uniquely pending claim"⟩)
  let stored ← (PhaseRequest.modelValidateJson sha256 row.requestJson).mapError .model
  ensure (stored.toRequest = result.phaseRequest.toRequest)
    (.protocol ⟨"phase result does not match the consumed request"⟩)
  let resultJson ← required .encoding (Json.canonicalLine? (.obj result.fields))
  execute fails .update
  let next ← constrained (ledger.map (completeRow result resultJson))
  execute fails .commit
  pure next

/-- `SqlitePhaseLedger.commit` -/
def commit (fails : Statement → Bool) (result : PhaseResult sha256) (ledger : Ledger) :
    Except LedgerError Unit × Ledger :=
  transaction (commitBody fails result) ledger

end Transactions

/-- What the processes that share a ledger do to it. A crash loses the process and nothing of
the ledger. -/
inductive Op (sha256 : HashFunction) where
  | claim (fails : Statement → Bool) (request : PhaseRequest sha256)
  | commit (fails : Statement → Bool) (result : PhaseResult sha256)
  | crash

namespace Op

variable {sha256 : HashFunction}

/-- What an operation reports, and the ledger after it. -/
def apply (ledger : Ledger) : Op sha256 → Except LedgerError Unit × Ledger
  | claim fails request => PhaseProtocol.claim fails request ledger
  | commit fails result => PhaseProtocol.commit fails result ledger
  | crash => (.ok (), ledger)

def step (ledger : Ledger) (op : Op sha256) : Ledger := (op.apply ledger).2

/-- The ledger after any interleaving of calls and crashes, from the empty table. -/
def run (ops : List (Op sha256)) : Ledger := ops.foldl step []

end Op

/-! ## What a transaction that commits has checked -/

variable {H : HashFunction} {fails : Statement → Bool} {ledger next : Ledger}

theorem constrained_ok_iff {rows : Ledger} :
    constrained rows = .ok next ↔ Constraints rows ∧ rows = next := by
  simp only [constrained, bind_eq_ok_iff, ensure_eq_ok_iff, exists_const, pure_eq_ok_iff]

/-- What `claim` has checked of a request it consumes. -/
structure Claims (ledger next : Ledger) (request : PhaseRequest H) : Prop where
  fresh : ∀ row ∈ ledger, row.requestSha256 ≠ request.requestSha256
  unclaimed : ∀ row ∈ rowsOf ledger request.workflowId, row.sequence ≠ request.phase.sequence
  idle : ∀ row ∈ rowsOf ledger request.workflowId, row.status = .complete
  follows : ∃ results, completedResults H ledger request.workflowId = .ok results ∧
    PhaseChain.Valid results ∧ PhaseChain.Next results request.toRequest
  constraints : Constraints next
  appended : next = ledger ++ [pendingRow request.toRequest (lineOf (.obj request.fields))]

/-- What `commit` has checked of a result it records. -/
structure Commits (ledger next : Ledger) (result : PhaseResult H) : Prop where
  claimed : ∃ row ∈ rowsOf ledger result.phaseRequest.workflowId,
    row.sequence = result.phaseRequest.phase.sequence ∧ row.status = .pending ∧
      PhaseRequest.modelValidateJson H row.requestJson = .ok result.phaseRequest
  constraints : Constraints next
  completed : next = ledger.map (completeRow result (lineOf (.obj result.fields)))

theorem mem_rowsOf {workflowId : Sha256} {row : Row} :
    row ∈ rowsOf ledger workflowId ↔ row ∈ ledger ∧ row.workflowId = workflowId := by
  simp [rowsOf]

theorem Status.ne_pending_iff {status : Status} : status ≠ .pending ↔ status = .complete := by
  cases status <;> simp

theorem claimBody_ok {request : PhaseRequest H}
    (h : claimBody fails request ledger = .ok next) : Claims ledger next request := by
  simp only [claimBody, execute, bind_eq_ok_iff, ensure_eq_ok_iff, exists_const,
    required_eq_ok_iff, mapError_eq_ok_iff, PhaseChain.build_ok_iff,
    PhaseChain.validateRequest_ok_iff, constrained_ok_iff, pure_eq_ok_iff] at h
  obtain ⟨-, -, hpresent, -, hpending, -, results, hresults, chain, ⟨hvalid, rfl⟩, hnext, raw, hraw,
    -, _, ⟨hconstraints, rfl⟩, -, rfl⟩ := h
  have hline : lineOf (.obj request.fields) = raw := by
    rw [lineOf, hraw, Option.getD_some]
  constructor
  · exact fun row hrow hsame => hpresent row hrow (.inl hsame)
  · intro row hrow hsame
    obtain ⟨hmem, hworkflow⟩ := mem_rowsOf.mp hrow
    exact hpresent row hmem (.inr ⟨hworkflow, hsame⟩)
  · intro row hrow
    obtain ⟨hmem, hworkflow⟩ := mem_rowsOf.mp hrow
    exact Status.ne_pending_iff.mp fun hstatus => hpending row hmem ⟨hworkflow, hstatus⟩
  · exact ⟨_, hresults, hvalid, hnext⟩
  · exact hconstraints
  · rw [hline]

theorem commitBody_ok {result : PhaseResult H}
    (h : commitBody fails result ledger = .ok next) : Commits ledger next result := by
  simp only [commitBody, execute, bind_eq_ok_iff, ensure_eq_ok_iff, exists_const,
    required_eq_ok_iff, mapError_eq_ok_iff, constrained_ok_iff, pure_eq_ok_iff] at h
  obtain ⟨-, -, row, hrow, hpending, stored, hstored, hsame, raw, hraw, -, _, ⟨hconstraints, rfl⟩,
    -, rfl⟩ := h
  have hline : lineOf (.obj result.fields) = raw := by
    rw [lineOf, hraw, Option.getD_some]
  have hkey := List.find?_some hrow
  simp only [decide_eq_true_eq] at hkey
  constructor
  · refine ⟨row, mem_rowsOf.mpr ⟨List.mem_of_find?_eq_some hrow, hkey.1⟩, hkey.2, hpending, ?_⟩
    rw [hstored, PhaseRequest.ext_request hsame]
  · exact hconstraints
  · rw [hline]

theorem row_unique (h : Constraints ledger) {a b : Row} (ha : a ∈ ledger) (hb : b ∈ ledger)
    (hworkflow : a.workflowId = b.workflowId) (hsequence : a.sequence = b.sequence) : a = b :=
  List.inj_on_of_nodup_map h.1 ha hb (Prod.ext hworkflow hsequence)

/-- A claim whose checks pass is consumed, as long as its statements run. -/
theorem claimBody_of {request : PhaseRequest H} (hruns : ∀ statement, fails statement = false)
    (h : Claims ledger next request) : claimBody fails request ledger = .ok next := by
  obtain ⟨results, hresults, hvalid, hnext⟩ := h.follows
  have hpresent : ∀ row ∈ ledger, ¬ (row.requestSha256 = request.requestSha256 ∨
      (row.workflowId = request.workflowId ∧ row.sequence = request.phase.sequence)) := by
    rintro row hrow (hsame | ⟨hworkflow, hsame⟩)
    · exact h.fresh row hrow hsame
    · exact h.unclaimed row (mem_rowsOf.mpr ⟨hrow, hworkflow⟩) hsame
  have hidle : ∀ row ∈ ledger, ¬ (row.workflowId = request.workflowId ∧ row.status = .pending) := by
    rintro row hrow ⟨hworkflow, hstatus⟩
    have hcomplete := h.idle row (mem_rowsOf.mpr ⟨hrow, hworkflow⟩)
    exact Status.ne_pending_iff.mpr hcomplete hstatus
  simp only [claimBody, execute, bind_eq_ok_iff, ensure_eq_ok_iff, exists_const,
    required_eq_ok_iff, mapError_eq_ok_iff, PhaseChain.build_ok_iff,
    PhaseChain.validateRequest_ok_iff, constrained_ok_iff, pure_eq_ok_iff, hruns, true_and]
  refine ⟨hpresent, hidle, results, hresults, results, ⟨hvalid, rfl⟩, hnext, _,
    canonicalLine?_lineOf (encodes_request request.toRequest), next, ⟨?_, h.appended.symm⟩, rfl⟩
  rw [← h.appended]
  exact h.constraints

/-- A commit whose checks pass is recorded, as long as its statements run. -/
theorem commitBody_of {result : PhaseResult H} (hruns : ∀ statement, fails statement = false)
    (hledger : Constraints ledger) (h : Commits ledger next result) :
    commitBody fails result ledger = .ok next := by
  obtain ⟨row, hrow, hsequence, hpending, hstored⟩ := h.claimed
  obtain ⟨hmem, hworkflow⟩ := mem_rowsOf.mp hrow
  have hfind : ledger.find? (fun row => row.workflowId = result.phaseRequest.workflowId ∧
      row.sequence = result.phaseRequest.phase.sequence) = some row := by
    have hsome : (ledger.find? fun row => row.workflowId = result.phaseRequest.workflowId ∧
        row.sequence = result.phaseRequest.phase.sequence).isSome := by
      rw [List.find?_isSome]
      exact ⟨row, hmem, by simp [hworkflow, hsequence]⟩
    obtain ⟨found, hfound⟩ := Option.isSome_iff_exists.mp hsome
    have hkey := List.find?_some hfound
    simp only [decide_eq_true_eq] at hkey
    rw [hfound, row_unique hledger (List.mem_of_find?_eq_some hfound) hmem
      (hkey.1.trans hworkflow.symm) (hkey.2.trans hsequence.symm)]
  simp only [commitBody, execute, bind_eq_ok_iff, ensure_eq_ok_iff, exists_const,
    required_eq_ok_iff, mapError_eq_ok_iff, constrained_ok_iff, pure_eq_ok_iff, hruns, true_and]
  refine ⟨row, hfind, hpending, result.phaseRequest, hstored, rfl, _,
    canonicalLine?_lineOf result.encodes, next, ⟨?_, h.completed.symm⟩, rfl⟩
  rw [← h.completed]
  exact h.constraints

/-- A step leaves the ledger alone, or is a claim or a commit that returns and whose checks
passed. -/
theorem step_cases (ledger : Ledger) (op : Op H) :
    op.step ledger = ledger ∨
      (op.apply ledger).1 = .ok () ∧
        ((∃ fails request, op = .claim fails request ∧ Claims ledger (op.step ledger) request) ∨
          ∃ fails result, op = .commit fails result ∧ Commits ledger (op.step ledger) result) := by
  cases op with
  | claim fails request =>
      rcases transaction_cases (claimBody fails request) ledger with hsame | hbody
      · exact .inl hsame
      · have hreport := transaction_ok_iff (u := ()).mpr hbody
        exact .inr ⟨congrArg Prod.fst hreport, .inl ⟨fails, request, rfl, claimBody_ok hbody⟩⟩
  | commit fails result =>
      rcases transaction_cases (commitBody fails result) ledger with hsame | hbody
      · exact .inl hsame
      · have hreport := transaction_ok_iff (u := ()).mpr hbody
        exact .inr ⟨congrArg Prod.fst hreport, .inr ⟨fails, result, rfl, commitBody_ok hbody⟩⟩
  | crash => exact .inl rfl

end AmazonSimilarSearch.PhaseProtocol
