import AmazonSimilarSearch.PhaseProtocol.Journal

/-!
# Safety of the phase ledger

Whatever processes share a ledger, in whatever order their calls take effect
and wherever they crash: every workflow is a valid chain of completed phases
with at most one claimed phase at its end, no request is consumed twice, and a
claimed phase stands in the way of every later claim until its own result is
committed.
-/
namespace AmazonSimilarSearch.PhaseProtocol
open Foundation

variable {H : HashFunction}

/-- What holds of every reachable ledger. -/
structure LedgerInvariant (sha256 : HashFunction) (ledger : Ledger) : Prop where
  sequences : ∀ workflowId, (rowsOf ledger workflowId).map Row.sequence =
    List.range' 1 (rowsOf ledger workflowId).length
  complete : ∀ workflowId, ∀ row ∈ (rowsOf ledger workflowId).dropLast, row.status = .complete
  accepted : ∀ workflowId, ∃ results, completedResults sha256 ledger workflowId = .ok results ∧
    PhaseChain.build results = .ok results
  requests : (ledger.map Row.requestSha256).Nodup

/-- A row keeps its place and its request, and a completed row keeps everything. -/
structure RowKept (row later : Row) : Prop where
  workflow : later.workflowId = row.workflowId
  sequence : later.sequence = row.sequence
  phase : later.phase = row.phase
  request : later.requestSha256 = row.requestSha256
  requestJson : later.requestJson = row.requestJson
  complete : row.status = .complete → later = row

/-- The later ledger keeps every row of the earlier one, in place. -/
def Grows (ledger later : Ledger) : Prop :=
  ∃ kept added, later = kept ++ added ∧ List.Forall₂ RowKept ledger kept

/-- The result answers the request of the row. -/
def Answers (sha256 : HashFunction) (row : Row) (result : PhaseResult sha256) : Prop :=
  result.phaseRequest.workflowId = row.workflowId ∧
    result.phaseRequest.phase.sequence = row.sequence ∧
    PhaseRequest.modelValidateJson sha256 row.requestJson = .ok result.phaseRequest

/-- Between a pending row and the next claim that its workflow admits, the row is committed with
a result of its own request. -/
def BlocksUntilCommitted (sha256 : HashFunction) (ops : List (Op sha256)) (row : Row) : Prop :=
  ∀ (more : List (Op sha256)) (fails : Statement → Bool) (request : PhaseRequest sha256),
    request.workflowId = row.workflowId →
    (claim fails request (Op.run (ops ++ more))).1 = .ok () →
    ∃ before fails' result after, more = before ++ .commit fails' result :: after ∧
      (commit fails' result (Op.run (ops ++ before))).1 = .ok () ∧ Answers sha256 row result

/-- An operation that raises leaves the ledger unchanged. -/
def RaisesUnchanged (sha256 : HashFunction) (ledger : Ledger) : Prop :=
  ∀ (op : Op sha256) (error : LedgerError),
    (op.apply ledger).1 = .error error → (op.apply ledger).2 = ledger

/-! ## The invariant -/

theorem Represents.invariant {ledger : Ledger} {workflows : Sha256 → Workflow H}
    (h : Represents ledger workflows) : LedgerInvariant H ledger := by
  constructor
  · intro workflowId
    rw [h.rows]
    exact (workflows workflowId).rows_sequence
  · intro workflowId
    rw [h.rows]
    exact (workflows workflowId).rows_status_dropLast
  · intro workflowId
    exact ⟨_, completedResults_eq h workflowId,
      PhaseChain.build_ok_iff.mpr ⟨(workflows workflowId).valid, rfl⟩⟩
  · exact h.requests

theorem constraints_step {ledger : Ledger} (h : Constraints ledger) (op : Op H) :
    Constraints (op.step ledger) := by
  rcases step_cases ledger op with hsame | ⟨-, ⟨_, _, -, hclaims⟩ | ⟨_, _, -, hcommits⟩⟩
  · rwa [hsame]
  · exact hclaims.constraints
  · exact hcommits.constraints

theorem constraints_run (ops : List (Op H)) : Constraints (Op.run ops) :=
  foldl_invariant (I := Constraints) (fun _ op h => constraints_step h op) ops []
    (by simp [Constraints])

/-! ## Rows are kept -/

theorem RowKept.refl (row : Row) : RowKept row row :=
  ⟨rfl, rfl, rfl, rfl, rfl, fun _ => rfl⟩

theorem RowKept.trans {a b c : Row} (hab : RowKept a b) (hbc : RowKept b c) : RowKept a c := by
  constructor
  · exact hbc.workflow.trans hab.workflow
  · exact hbc.sequence.trans hab.sequence
  · exact hbc.phase.trans hab.phase
  · exact hbc.request.trans hab.request
  · exact hbc.requestJson.trans hab.requestJson
  · intro ha
    have hb := hab.complete ha
    rw [hbc.complete (by rwa [hb]), hb]

theorem rowKept_completeRow (result : PhaseResult H) (resultJson : Bytes) (row : Row) :
    RowKept row (completeRow result resultJson row) := by
  by_cases hrow : row.status = .complete
  · rw [completeRow_of_complete hrow]
    exact RowKept.refl row
  · unfold completeRow
    split_ifs
    · exact ⟨rfl, rfl, rfl, rfl, rfl, fun h => absurd h hrow⟩
    · exact RowKept.refl row

theorem Grows.refl (ledger : Ledger) : Grows ledger ledger :=
  ⟨ledger, [], (List.append_nil _).symm, List.forall₂_same.mpr fun row _ => RowKept.refl row⟩

theorem Grows.trans {a b c : Ledger} (hab : Grows a b) (hbc : Grows b c) : Grows a c := by
  obtain ⟨kept, added, rfl, hkept⟩ := hab
  obtain ⟨kept', added', rfl, hkept'⟩ := hbc
  have hfirst := List.forall₂_take_append _ _ _ hkept'.flip
  refine ⟨kept'.take kept.length, kept'.drop kept.length ++ added', ?_, ?_⟩
  · rw [← List.append_assoc, List.take_append_drop]
  · exact forall₂_trans (M := RowKept) (fun _ _ _ => RowKept.trans) hkept hfirst.flip

theorem grows_step (ledger : Ledger) (op : Op H) : Grows ledger (op.step ledger) := by
  rcases step_cases ledger op with hsame | ⟨-, ⟨_, _, -, hclaims⟩ | ⟨_, result, -, hcommits⟩⟩
  · rw [hsame]
    exact Grows.refl ledger
  · rw [hclaims.appended]
    exact ⟨ledger, _, rfl, List.forall₂_same.mpr fun row _ => RowKept.refl row⟩
  · rw [hcommits.completed]
    refine ⟨_, [], (List.append_nil _).symm, ?_⟩
    rw [List.forall₂_map_right_iff]
    exact List.forall₂_same.mpr fun row _ => rowKept_completeRow result _ row

theorem grows_run (ops more : List (Op H)) : Grows (Op.run ops) (Op.run (ops ++ more)) := by
  rw [Op.run, Op.run, List.foldl_append]
  exact foldl_related Grows.refl Grows.trans grows_step more _

/-! ## A pending row is in the way -/

theorem claim_ok {fails : Statement → Bool} {request : PhaseRequest H} {ledger : Ledger}
    (h : (claim fails request ledger).1 = .ok ()) :
    Claims ledger (claim fails request ledger).2 request :=
  claimBody_ok (transaction_ok_iff.mp (Prod.ext h rfl))

theorem not_mem_of_claim {fails : Statement → Bool} {request : PhaseRequest H} {ledger : Ledger}
    {row : Row} (hpending : row.status = .pending) (hworkflow : request.workflowId = row.workflowId)
    (h : (claim fails request ledger).1 = .ok ()) : row ∉ ledger := by
  intro hmem
  have hcomplete := (claim_ok h).idle row (mem_rowsOf.mpr ⟨hmem, hworkflow.symm⟩)
  exact Status.ne_pending_iff.mpr hcomplete hpending

/-- Only the commit of its own request takes a pending row away. -/
theorem commit_of_lost {ledger : Ledger} (hledger : Constraints ledger) {row : Row}
    (hrow : row ∈ ledger) (hpending : row.status = .pending) {op : Op H}
    (hlost : row ∉ op.step ledger) :
    ∃ fails result, op = .commit fails result ∧ (commit fails result ledger).1 = .ok () ∧
      Answers H row result := by
  rcases step_cases ledger op with hsame |
    ⟨hreport, ⟨_, _, -, hclaims⟩ | ⟨fails, result, rfl, hcommits⟩⟩
  · rw [hsame] at hlost
    exact absurd hrow hlost
  · rw [hclaims.appended] at hlost
    exact absurd (List.mem_append_left _ hrow) hlost
  · refine ⟨fails, result, rfl, hreport, ?_⟩
    have hchanged : completeRow result (lineOf (.obj result.fields)) row ≠ row := by
      intro hkept
      apply hlost
      rw [hcommits.completed]
      exact List.mem_map.mpr ⟨row, hrow, hkept⟩
    have hkey : row.workflowId = result.phaseRequest.workflowId ∧
        row.sequence = result.phaseRequest.phase.sequence := by
      by_contra hother
      exact hchanged (if_neg fun hrow => hother ⟨hrow.1, hrow.2.1⟩)
    obtain ⟨claimed, hclaimed, hsequence, -, hstored⟩ := hcommits.claimed
    obtain ⟨hmem, hworkflow⟩ := mem_rowsOf.mp hclaimed
    have hunique := row_unique hledger hmem hrow (hworkflow.trans hkey.1.symm)
      (hsequence.trans hkey.2.symm)
    subst hunique
    exact ⟨hworkflow.symm, hsequence.symm, hstored⟩

theorem blocks_run (ops : List (Op H)) {row : Row} (hrow : row ∈ Op.run ops)
    (hpending : row.status = .pending) : BlocksUntilCommitted H ops row := by
  intro more fails request hworkflow hclaim
  have hlost := not_mem_of_claim hpending hworkflow hclaim
  rw [Op.run, List.foldl_append] at hlost
  obtain ⟨before, op, after, rfl, hbefore, hafter⟩ :=
    foldl_loses (P := fun ledger => row ∈ ledger) more (Op.run ops) hrow hlost
  rw [Op.run, ← List.foldl_append] at hbefore hafter
  obtain ⟨fails', result, rfl, hcommit, hanswers⟩ :=
    commit_of_lost (constraints_run (ops ++ before)) hbefore hpending hafter
  exact ⟨before, fails', result, after, rfl, hcommit, hanswers⟩

theorem raises_unchanged (ledger : Ledger) : RaisesUnchanged H ledger := by
  intro op error herror
  cases op with
  | claim fails request => exact transaction_error herror
  | commit fails result => exact transaction_error herror
  | crash => rfl

/-- The phase ledger is safe under every interleaving of claims, commits and crashes. -/
theorem phaseLedger_safe (sha256 : HashFunction) (ops : List (Op sha256)) :
    LedgerInvariant sha256 (Op.run ops) ∧
      (∀ more, Grows (Op.run ops) (Op.run (ops ++ more))) ∧
      (∀ row ∈ Op.run ops, row.status = .pending → BlocksUntilCommitted sha256 ops row) ∧
      RaisesUnchanged sha256 (Op.run ops) := by
  obtain ⟨workflows, h⟩ := exists_represents ops
  exact ⟨h.invariant, grows_run ops, fun row hrow hpending => blocks_run ops hrow hpending,
    raises_unchanged _⟩

end AmazonSimilarSearch.PhaseProtocol
