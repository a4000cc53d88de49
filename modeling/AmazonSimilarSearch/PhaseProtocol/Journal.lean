import AmazonSimilarSearch.PhaseProtocol.Ledger

/-!
# What the ledger is for

A workflow is a chain of results and at most one claimed request that waits for
its own. `Represents` says that the rows of the table are those of one such
workflow for every workflow id. A claim puts the next request of an idle
workflow to waiting, a commit ends the wait, and no other step changes
anything.
-/
namespace AmazonSimilarSearch.PhaseProtocol
open Foundation

variable {H : HashFunction}

/-- A workflow as its ledger keeps it. -/
structure Workflow (sha256 : HashFunction) where
  chain : PhaseChain sha256
  waiting : Option (PhaseRequest sha256)
  valid : chain.Valid
  next : ∀ request ∈ waiting, chain.Next request.toRequest

/-- The row of a request that waits for its result. -/
def waitingRow (request : PhaseRequest H) : Row :=
  pendingRow request.toRequest (lineOf (.obj request.fields))

/-- The row of a result. -/
def resultRow (result : PhaseResult H) : Row :=
  completeRow result (lineOf (.obj result.fields)) (waitingRow result.phaseRequest)

namespace Workflow

def rows (workflow : Workflow H) : List Row :=
  workflow.chain.map resultRow ++ workflow.waiting.toList.map waitingRow

def empty : Workflow H := ⟨[], none, .nil, by simp⟩

/-- An idle workflow takes its next request. -/
def claim (workflow : Workflow H) (request : PhaseRequest H)
    (hnext : workflow.chain.Next request.toRequest) : Workflow H :=
  ⟨workflow.chain, some request, workflow.valid, by simpa using hnext⟩

/-- The result of the waiting request extends the chain. -/
def commit (workflow : Workflow H) (result : PhaseResult H)
    (hwaiting : workflow.waiting = some result.phaseRequest) : Workflow H :=
  ⟨workflow.chain ++ [result], none,
    PhaseChain.valid_append_iff.mpr ⟨workflow.valid, workflow.next _ hwaiting⟩, by simp⟩

end Workflow

/-- The ledger keeps the workflow of every id, and no request twice. -/
structure Represents (ledger : Ledger) (workflows : Sha256 → Workflow H) : Prop where
  rows : ∀ workflowId, rowsOf ledger workflowId = (workflows workflowId).rows
  requests : (ledger.map Row.requestSha256).Nodup

/-! ## Rows -/

section Rows

variable {request : PhaseRequest H} {result : PhaseResult H}

theorem resultRow_eq (result : PhaseResult H) :
    resultRow result = { waitingRow result.phaseRequest with
      status := .complete
      resultSha256 := some result.phaseSha256
      resultJson := some (lineOf (.obj result.fields)) } :=
  if_pos ⟨rfl, rfl, rfl⟩

@[simp] theorem waitingRow_status : (waitingRow request).status = .pending := rfl
@[simp] theorem waitingRow_sequence : (waitingRow request).sequence = request.phase.sequence := rfl
@[simp] theorem waitingRow_workflowId : (waitingRow request).workflowId = request.workflowId := rfl

@[simp] theorem resultRow_status : (resultRow result).status = .complete := by
  rw [resultRow_eq]

@[simp] theorem resultRow_sequence :
    (resultRow result).sequence = result.phaseRequest.phase.sequence := by
  rw [resultRow_eq]
  rfl

@[simp] theorem resultRow_workflowId :
    (resultRow result).workflowId = result.phaseRequest.workflowId := by
  rw [resultRow_eq]
  rfl

theorem completeRow_of_complete {resultJson : Bytes} {row : Row} (h : row.status = .complete) :
    completeRow result resultJson row = row :=
  if_neg fun hrow => by simp [h] at hrow

theorem completeRow_of_ne {resultJson : Bytes} {row : Row}
    (h : row.workflowId ≠ result.phaseRequest.workflowId) :
    completeRow result resultJson row = row :=
  if_neg fun hrow => h hrow.1

@[simp] theorem completeRow_workflowId (resultJson : Bytes) (row : Row) :
    (completeRow result resultJson row).workflowId = row.workflowId := by
  unfold completeRow
  split_ifs <;> rfl

@[simp] theorem completeRow_requestSha256 (resultJson : Bytes) (row : Row) :
    (completeRow result resultJson row).requestSha256 = row.requestSha256 := by
  unfold completeRow
  split_ifs <;> rfl

theorem completeRow_resultSha256 {resultJson : Bytes} {row : Row} {digest : Sha256}
    (h : (completeRow result resultJson row).resultSha256 = some digest) :
    (digest = result.phaseSha256 ∧ (row.workflowId, row.sequence) =
      (result.phaseRequest.workflowId, result.phaseRequest.phase.sequence)) ∨
      row.resultSha256 = some digest := by
  unfold completeRow at h
  split_ifs at h with hrow
  · exact .inl ⟨(Option.some.inj h).symm, Prod.ext hrow.1 hrow.2.1⟩
  · exact .inr h

theorem readResultRow_resultRow (result : PhaseResult H) :
    readResultRow H (resultRow result) = .ok result := by
  have hjson : (resultRow result).resultJson = some (lineOf (.obj result.fields)) := by
    rw [resultRow_eq]
  rw [readResultRow, hjson, required_some, ok_bind, mapError_eq_ok_iff]
  exact result.modelValidateJson_line (canonicalLine?_lineOf result.encodes)

theorem modelValidateJson_waitingRow (request : PhaseRequest H) :
    PhaseRequest.modelValidateJson H (waitingRow request).requestJson = .ok request :=
  request.modelValidateJson_line (canonicalLine?_lineOf (encodes_request request.toRequest))

end Rows

/-! ## The rows of a workflow -/

namespace Workflow

variable (workflow : Workflow H)

theorem rows_sequence :
    workflow.rows.map Row.sequence = List.range' 1 workflow.rows.length := by
  have hchain : (workflow.chain.map resultRow).map Row.sequence =
      List.range' 1 workflow.chain.length := by
    rw [List.map_map, ← workflow.valid.sequences]
    exact List.map_congr_left fun result _ => resultRow_sequence
  cases hwaiting : workflow.waiting with
  | none => simpa [rows, hwaiting] using hchain
  | some request =>
      have hnext := (workflow.next request hwaiting).sequence
      rw [List.map_map] at hchain
      simp only [rows, hwaiting, Option.toList_some, List.map_append, List.map_map, hchain,
        List.map_cons, List.map_nil, waitingRow_sequence, hnext, List.length_append,
        List.length_map, List.length_cons, List.length_nil, List.range'_concat]
      rw [Nat.one_mul, Nat.add_comm]

theorem rows_status_dropLast : ∀ row ∈ workflow.rows.dropLast, row.status = .complete := by
  have hchain : ∀ row ∈ workflow.chain.map resultRow, row.status = .complete := by
    simp
  cases hwaiting : workflow.waiting with
  | none =>
      intro row hrow
      have hmem := (List.dropLast_sublist workflow.rows).subset hrow
      exact hchain row (by simpa [rows, hwaiting] using hmem)
  | some request => simp [rows, hwaiting]

theorem filter_complete_rows :
    workflow.rows.filter (fun row => row.status = .complete) = workflow.chain.map resultRow := by
  rw [rows, List.filter_append]
  have hwaiting : (workflow.waiting.toList.map waitingRow).filter
      (fun row => row.status = .complete) = [] := by
    simp [List.filter_eq_nil_iff]
  rw [hwaiting, List.append_nil, List.filter_eq_self]
  simp

theorem waiting_of_mem {row : Row} (hrow : row ∈ workflow.rows) (hstatus : row.status = .pending) :
    ∃ request, workflow.waiting = some request ∧ row = waitingRow request := by
  rcases List.mem_append.mp hrow with hdone | hwaiting
  · obtain ⟨result, -, rfl⟩ := List.mem_map.mp hdone
    simp at hstatus
  · obtain ⟨request, hmem, rfl⟩ := List.mem_map.mp hwaiting
    exact ⟨request, Option.mem_toList.mp hmem, rfl⟩

theorem waiting_eq_none (h : ∀ row ∈ workflow.rows, row.status = .complete) :
    workflow.waiting = none := by
  cases hwaiting : workflow.waiting with
  | none => rfl
  | some request =>
      have hrow := h (waitingRow request) (by simp [rows, hwaiting])
      simp at hrow

end Workflow

/-! ## The ledger reads back the chain -/

section Reads

variable {ledger next : Ledger} {workflows : Sha256 → Workflow H}

theorem selectComplete_eq (h : Represents ledger workflows) (workflowId : Sha256) :
    selectComplete ledger workflowId = (workflows workflowId).chain.map resultRow := by
  have hfilter : (ledger.filter fun row => row.workflowId = workflowId ∧ row.status = .complete) =
      (workflows workflowId).chain.map resultRow := by
    rw [← (workflows workflowId).filter_complete_rows, ← h.rows, rowsOf, List.filter_filter]
    congr 1
    funext row
    simp [and_comm]
  have hsorted : ((workflows workflowId).chain.map resultRow).Pairwise
      fun a b => decide (a.sequence ≤ b.sequence) = true := by
    have hrange : (((workflows workflowId).chain.map resultRow).map Row.sequence).Pairwise
        (· ≤ ·) := by
      have hsequences : ((workflows workflowId).chain.map resultRow).map Row.sequence =
          List.range' 1 (workflows workflowId).chain.length := by
        rw [List.map_map, ← (workflows workflowId).valid.sequences]
        exact List.map_congr_left fun result _ => resultRow_sequence
      rw [hsequences]
      exact List.pairwise_le_range'
    rw [List.pairwise_map] at hrange
    exact hrange.imp fun hle => decide_eq_true hle
  rw [selectComplete, hfilter, List.mergeSort_of_pairwise hsorted]

/-- The completed results of a workflow are its chain. -/
theorem completedResults_eq (h : Represents ledger workflows) (workflowId : Sha256) :
    completedResults H ledger workflowId = .ok (workflows workflowId).chain := by
  rw [completedResults, selectComplete_eq h, mapM_eq_ok_iff, List.forall₂_map_left_iff]
  exact List.forall₂_same.mpr fun result _ => readResultRow_resultRow result

end Reads

/-! ## Claims and commits move one workflow -/

section Steps

variable {ledger next : Ledger} {workflows : Sha256 → Workflow H}

/-- One move of the workflows: of one of them, or of none. -/
inductive Moves (workflows : Sha256 → Workflow H) : (Sha256 → Workflow H) → Prop where
  | claim (request : PhaseRequest H) (hidle : (workflows request.workflowId).waiting = none)
      (hnext : (workflows request.workflowId).chain.Next request.toRequest) :
      Moves workflows (Function.update workflows request.workflowId
        ((workflows request.workflowId).claim request hnext))
  | commit (result : PhaseResult H)
      (hwaiting : (workflows result.phaseRequest.workflowId).waiting = some result.phaseRequest) :
      Moves workflows (Function.update workflows result.phaseRequest.workflowId
        ((workflows result.phaseRequest.workflowId).commit result hwaiting))
  | stay : Moves workflows workflows

theorem represents_nil : Represents ([] : Ledger) fun _ => (Workflow.empty : Workflow H) :=
  ⟨fun _ => rfl, List.nodup_nil⟩

theorem rowsOf_append_waitingRow (request : PhaseRequest H) (workflowId : Sha256) :
    rowsOf (ledger ++ [waitingRow request]) workflowId = rowsOf ledger workflowId ++
      if request.workflowId = workflowId then [waitingRow request] else [] := by
  rw [rowsOf, List.filter_append, rowsOf]
  congr 1
  by_cases hid : request.workflowId = workflowId <;> simp [hid]

theorem rowsOf_map_completeRow (result : PhaseResult H) (resultJson : Bytes)
    (workflowId : Sha256) :
    rowsOf (ledger.map (completeRow result resultJson)) workflowId =
      (rowsOf ledger workflowId).map (completeRow result resultJson) := by
  rw [rowsOf, List.filter_map, rowsOf]
  congr 2
  funext row
  simp

theorem Represents.claimed (h : Represents ledger workflows) {request : PhaseRequest H}
    (hclaims : Claims ledger next request)
    (hidle : (workflows request.workflowId).waiting = none)
    (hnext : (workflows request.workflowId).chain.Next request.toRequest) :
    Represents next (Function.update workflows request.workflowId
      ((workflows request.workflowId).claim request hnext)) := by
  refine ⟨fun workflowId => ?_, hclaims.constraints.2.1⟩
  have happended : next = ledger ++ [waitingRow request] := hclaims.appended
  rw [happended, rowsOf_append_waitingRow, h.rows]
  by_cases hid : request.workflowId = workflowId
  · subst hid
    rw [if_pos rfl, Function.update_self]
    simp [Workflow.rows, Workflow.claim, hidle]
  · rw [if_neg hid, Function.update_of_ne (Ne.symm hid), List.append_nil]

theorem Represents.committed (h : Represents ledger workflows) {result : PhaseResult H}
    (hcommits : Commits ledger next result)
    (hwaiting : (workflows result.phaseRequest.workflowId).waiting = some result.phaseRequest) :
    Represents next (Function.update workflows result.phaseRequest.workflowId
      ((workflows result.phaseRequest.workflowId).commit result hwaiting)) := by
  refine ⟨fun workflowId => ?_, hcommits.constraints.2.1⟩
  rw [hcommits.completed, rowsOf_map_completeRow, h.rows]
  by_cases hid : workflowId = result.phaseRequest.workflowId
  · subst hid
    rw [Function.update_self]
    have hchain : (((workflows result.phaseRequest.workflowId).chain.map resultRow).map
        (completeRow result (lineOf (.obj result.fields)))) =
        (workflows result.phaseRequest.workflowId).chain.map resultRow := by
      rw [List.map_map]
      exact List.map_congr_left fun _ _ => completeRow_of_complete resultRow_status
    rw [Workflow.rows, List.map_append, hchain, hwaiting]
    simp [Workflow.rows, Workflow.commit, resultRow]
  · rw [Function.update_of_ne hid, ← h.rows]
    refine (List.map_congr_left fun row hrow => ?_).trans (List.map_id _)
    apply completeRow_of_ne
    rwa [(mem_rowsOf.mp hrow).2]

theorem Represents.claim (h : Represents ledger workflows) {request : PhaseRequest H}
    (hclaims : Claims ledger next request) :
    ∃ workflows', Represents next workflows' ∧ Moves workflows workflows' := by
  obtain ⟨results, hresults, -, hnext⟩ := hclaims.follows
  rw [completedResults_eq h, Except.ok.injEq] at hresults
  subst hresults
  have hidle : (workflows request.workflowId).waiting = none := by
    apply Workflow.waiting_eq_none
    rw [← h.rows]
    exact hclaims.idle
  exact ⟨_, h.claimed hclaims hidle hnext, .claim request hidle hnext⟩

theorem Represents.commit (h : Represents ledger workflows) {result : PhaseResult H}
    (hcommits : Commits ledger next result) :
    ∃ workflows', Represents next workflows' ∧ Moves workflows workflows' := by
  obtain ⟨row, hrow, -, hpending, hstored⟩ := hcommits.claimed
  rw [h.rows] at hrow
  obtain ⟨request, hwaiting, rfl⟩ := Workflow.waiting_of_mem _ hrow hpending
  rw [modelValidateJson_waitingRow, Except.ok.injEq] at hstored
  subst hstored
  exact ⟨_, h.committed hcommits hwaiting, .commit result hwaiting⟩

theorem constraints_append {row : Row} (h : Constraints ledger)
    (hkey : ∀ other ∈ rowsOf ledger row.workflowId, other.sequence ≠ row.sequence)
    (hrequest : ∀ other ∈ ledger, other.requestSha256 ≠ row.requestSha256)
    (hresult : row.resultSha256 = none) : Constraints (ledger ++ [row]) := by
  refine ⟨?_, ?_, ?_⟩
  · rw [List.map_append, List.map_singleton, List.nodup_append]
    refine ⟨h.1, List.nodup_singleton _, ?_⟩
    intro key hmem key' hkey' hsame
    obtain ⟨other, hother, rfl⟩ := List.mem_map.mp hmem
    rw [List.mem_singleton.mp hkey', Prod.mk.injEq] at hsame
    exact hkey other (mem_rowsOf.mpr ⟨hother, hsame.1⟩) hsame.2
  · rw [List.map_append, List.map_singleton, List.nodup_append]
    refine ⟨h.2.1, List.nodup_singleton _, ?_⟩
    intro digest hmem digest' hdigest' hsame
    obtain ⟨other, hother, rfl⟩ := List.mem_map.mp hmem
    exact hrequest other hother (hsame.trans (List.mem_singleton.mp hdigest'))
  · rw [List.filterMap_append, List.filterMap_cons_none hresult]
    simpa using h.2.2

/-- An idle workflow admits its next request, if no workflow consumed it before. -/
theorem Represents.claims_of (h : Represents ledger workflows) (hledger : Constraints ledger)
    {request : PhaseRequest H} (hidle : (workflows request.workflowId).waiting = none)
    (hnext : (workflows request.workflowId).chain.Next request.toRequest)
    (hfresh : ∀ row ∈ ledger, row.requestSha256 ≠ request.requestSha256) :
    Claims ledger (ledger ++ [waitingRow request]) request := by
  have hrows : rowsOf ledger request.workflowId =
      (workflows request.workflowId).chain.map resultRow := by
    rw [h.rows, Workflow.rows, hidle]
    simp
  have hunclaimed : ∀ row ∈ rowsOf ledger request.workflowId,
      row.sequence ≠ request.phase.sequence := by
    intro row hrow hsame
    have hmem := List.mem_map_of_mem (f := Row.sequence) hrow
    rw [h.rows, Workflow.rows_sequence, ← h.rows, hrows, List.length_map, hsame,
      hnext.sequence, List.mem_range'_1] at hmem
    omega
  constructor
  · exact hfresh
  · exact hunclaimed
  · rw [hrows]
    simp
  · exact ⟨_, completedResults_eq h _, (workflows request.workflowId).valid, hnext⟩
  · exact constraints_append hledger hunclaimed hfresh rfl
  · rfl

theorem constraints_completeRow {result : PhaseResult H} (h : Constraints ledger)
    (hresult : ∀ row ∈ ledger, row.resultSha256 ≠ some result.phaseSha256) :
    Constraints (ledger.map (completeRow result (lineOf (.obj result.fields)))) := by
  refine ⟨?_, ?_, ?_⟩
  · rw [List.map_map]
    refine (congrArg List.Nodup (List.map_congr_left fun row _ => ?_)).mpr h.1
    unfold Function.comp completeRow
    split_ifs <;> rfl
  · rw [List.map_map]
    refine (congrArg List.Nodup (List.map_congr_left fun row _ => ?_)).mpr h.2.1
    exact completeRow_requestSha256 _ _
  · have hkeys := List.pairwise_map.mp h.1
    have hresults := List.pairwise_filterMap.mp h.2.2
    rw [List.filterMap_map]
    refine List.pairwise_filterMap.mpr ((hkeys.and hresults).imp_of_mem ?_)
    rintro a b ha hb ⟨hkey, hresults⟩ digest hdigest digest' hdigest' rfl
    rcases completeRow_resultSha256 hdigest with ⟨rfl, ha'⟩ | ha' <;>
      rcases completeRow_resultSha256 hdigest' with ⟨hsame, hb'⟩ | hb'
    · exact hkey (ha'.trans hb'.symm)
    · exact hresult b hb hb'
    · exact hresult a ha (hsame ▸ ha')
    · exact hresults digest ha' digest hb' rfl

/-- The result of a waiting request is recorded, if no row holds its digest. -/
theorem Represents.commits_of (h : Represents ledger workflows) (hledger : Constraints ledger)
    {result : PhaseResult H}
    (hwaiting : (workflows result.phaseRequest.workflowId).waiting = some result.phaseRequest)
    (hfresh : ∀ row ∈ ledger, row.resultSha256 ≠ some result.phaseSha256) :
    Commits ledger (ledger.map (completeRow result (lineOf (.obj result.fields)))) result := by
  have hmem : waitingRow result.phaseRequest ∈ rowsOf ledger result.phaseRequest.workflowId := by
    rw [h.rows, Workflow.rows, hwaiting]
    simp
  exact ⟨⟨_, hmem, rfl, rfl, modelValidateJson_waitingRow _⟩,
    constraints_completeRow hledger hfresh, rfl⟩

/-- The ledger simulates the workflows: each step is one move of them. -/
theorem Represents.step (h : Represents ledger workflows) (op : Op H) :
    ∃ workflows', Represents (op.step ledger) workflows' ∧ Moves workflows workflows' := by
  rcases step_cases ledger op with hsame | ⟨-, ⟨_, _, -, hclaims⟩ | ⟨_, _, -, hcommits⟩⟩
  · rw [hsame]
    exact ⟨workflows, h, .stay⟩
  · exact h.claim hclaims
  · exact h.commit hcommits

/-- Every reachable ledger represents some workflows. -/
theorem exists_represents (ops : List (Op H)) :
    ∃ workflows : Sha256 → Workflow H, Represents (Op.run ops) workflows := by
  refine foldl_invariant (I := fun ledger => ∃ w : Sha256 → Workflow H, Represents ledger w)
    ?_ ops [] ⟨_, represents_nil⟩
  rintro ledger op ⟨workflows, h⟩
  obtain ⟨workflows', h', -⟩ := h.step op
  exact ⟨workflows', h'⟩

end Steps

end AmazonSimilarSearch.PhaseProtocol
