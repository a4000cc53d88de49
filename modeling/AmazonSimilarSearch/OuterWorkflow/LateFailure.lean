import AmazonSimilarSearch.OuterWorkflow.Divergence
import AmazonSimilarSearch.PhaseProtocol.CallSafety

/-!
# A call that fails after its commit

The rounds of a coordinator that follows the protocol, seen from the calls that
claim them. A call may still die when its result is committed and it has not
returned: the phase is complete then, and the next one of the workflow is free
to run.
-/
namespace AmazonSimilarSearch.OuterWorkflow
open Foundation PhaseProtocol

variable {H : HashFunction}

/-! ## The coordinator's side of a round -/

section Round

variable {request : PhaseRequest H} {work : PhaseWork}

def makePhaseAction (request : PhaseRequest H) (work : PhaseWork) : PhaseAction H where
  toAction := makeAction H request.toRequest work
  approved := rfl
  digest := domainSha256?_eq (encodes_action _)

theorem phaseArtifact_of_measures {artifact : OutputArtifact} {semantic : Artifact}
    (h : Measures H artifact semantic) (hpacket : artifact.name ≠ "review-packet") :
    phaseArtifact H artifact = .ok semantic := by
  have hdigest := h.digest
  have hsemantic : semanticSha256 H artifact = .ok semantic.sha256 := by
    unfold artifactSemantic at hdigest
    unfold semanticSha256
    rw [if_neg hpacket] at hdigest ⊢
    split_ifs at hdigest ⊢ with hsnapshot
    · simp only [bind_eq_ok_iff, required_eq_ok_iff, sha_eq_ok_iff] at hdigest ⊢
      obtain ⟨text, htext, hsha⟩ := hdigest
      refine ⟨text, htext, ?_⟩
      rw [shaJson, Json.str.injEq] at hsha
      rw [hsha, LowerHex.ofText?_text]
    · rwa [pure_eq_ok_iff] at hdigest ⊢
  rw [phaseArtifact, hsemantic, ok_bind, ← h.name]
  rfl

theorem forall₂_measures_names {artifacts : List OutputArtifact} {semantic : List Artifact}
    (h : List.Forall₂ (Measures H) artifacts semantic) :
    artifacts.map OutputArtifact.name = semantic.map Artifact.name :=
  map_eq_map_of_forall₂ (fun hmeasures => hmeasures.name.symm) h

theorem makeOutput_contract (h : work.Valid H request.phase)
    (hpacket : ∀ artifact ∈ work.artifacts, artifact.name ≠ "review-packet") :
    OutputContract H (makeOutput H request.toRequest work) work.semantic where
  derived := by
    rw [phaseArtifacts, mapM_eq_ok_iff]
    have hmeasured := (List.forall₂_and_left _ _).mpr ⟨hpacket, h.measured⟩
    exact hmeasured.imp fun _ _ hpair => phaseArtifact_of_measures hpair.2 hpair.1
  sorted := by
    have hnames := forall₂_measures_names h.measured
    exact hnames ▸ h.sorted
  nodup := by
    have hnames := forall₂_measures_names h.measured
    exact hnames ▸ h.nodup
  complete := by
    have hnames := forall₂_measures_names h.measured
    exact hnames ▸ h.complete
  set := by
    rw [artifactSetSha256?, canonicalLine?_lineOf (encodes_artifacts _)]
    rfl
  candidate := fun hphase => if_pos hphase
  packet := fun hphase => if_pos hphase
  digest := domainSha256?_eq (encodes_outputBody _)

/-- The result a coordinator that follows the protocol leaves, as a typed one. -/
def makePhaseResult (request : PhaseRequest H) (work : PhaseWork)
    (h : work.Valid H request.phase) : PhaseResult H where
  toResult := makeResult H request.toRequest work
  phaseRequest := request
  contract := {
    embeds := rfl
    matched := PhaseStep.matched_of_measures h.measured
    nonempty := h.nonempty
    bounded := h.bounded
    sorted := h.sorted
    nodup := h.nodup
    complete := h.complete
    set := by
      rw [artifactSetSha256?]
      change (Json.canonicalLine? (artifactsJson work.semantic)).map H = _
      rw [canonicalLine?_lineOf (encodes_artifacts _)]
      rfl
    candidate := rfl
    packet := rfl
    external := by
      by_cases hkind : request.phase.externalKind = .none <;> simp [makeResult, hkind]
    digest := domainSha256?_eq (encodes_resultBody (encodes_request request.toRequest)) }

/-- What a valid result was created from creates it. -/
theorem create_of_result (result : PhaseResult H) :
    PhaseResult.create H result.toResultBody = .ok result := by
  rw [PhaseResult.create, result.contract.digest, required_some, ok_bind]
  exact result.modelValidate_fields

theorem afterPrepare_makeAction (h : work.Valid H request.phase)
    (hkind : request.phase.externalKind = .none) :
    ∃ prepared : Prepared request, prepared.payload = work.payload ∧
      afterPrepare request (makePhaseAction request work) (some work.payload) =
        .ok (.finalize prepared none) := by
  have hbounded : bounded (some work.payload) "coordinator phase payload" maxCoordinatorBytes =
      .ok work.payload := by
    simp only [bounded, required_some, ok_bind, bind_eq_ok_iff, ensure_eq_ok_iff, exists_const,
      pure_eq_ok_iff, and_true]
    exact h.payload
  have hvalid : (makePhaseAction request work).validateFor request work.payload = .ok () :=
    ensure_of _ ⟨rfl, rfl, rfl, rfl⟩
  have hnone : (makePhaseAction request work).externalKind = .none := hkind
  refine ⟨⟨makePhaseAction request work, work.payload, rfl, rfl⟩, rfl, ?_⟩
  rw [afterPrepare, hbounded, ok_bind]
  split
  · next error herror =>
    rw [hvalid] at herror
    cases herror
  · rw [if_pos hnone]
    rfl

theorem afterFinalize_makeOutput (h : work.Valid H request.phase)
    (hkind : request.phase.externalKind = .none)
    (hpacket : ∀ artifact ∈ work.artifacts, artifact.name ≠ "review-packet")
    (hlength : (outputRaw H request.toRequest work).length ≤ PhaseProtocol.maxExternalBytes)
    (prepared : Prepared request) :
    ∃ execution : Execution request, execution.result = makePhaseResult request work h ∧
      execution.external = none ∧
      execution.verifiedOutput = outputRaw H request.toRequest work ∧
      afterFinalize prepared none (some (outputRaw H request.toRequest work)) =
        .ok execution := by
  have hraw : Json.canonicalLine? (.obj (makeOutput H request.toRequest work).fields) =
      some (outputRaw H request.toRequest work) := canonicalLine?_lineOf (encodes_output _)
  have hbounded : bounded (some (outputRaw H request.toRequest work)) "coordinator verified output"
      PhaseProtocol.maxExternalBytes = .ok (outputRaw H request.toRequest work) := by
    simp only [bounded, required_some, ok_bind, bind_eq_ok_iff, ensure_eq_ok_iff, exists_const,
      pure_eq_ok_iff, and_true]
    exact ⟨Json.canonicalLine_ne_nil hraw, hlength⟩
  have hfits : ∀ artifact ∈ (makeOutput H request.toRequest work).artifacts,
      FitsEnvelope artifact := by
    intro artifact hmem
    obtain ⟨semantic, hmeasures⟩ := exists_of_forall₂ h.measured hmem
    exact ⟨hmeasures.matched, hmeasures.nonempty, hmeasures.bounded⟩
  have hcount : 1 ≤ (makeOutput H request.toRequest work).artifacts.length ∧
      (makeOutput H request.toRequest work).artifacts.length ≤ 512 := by
    have hsame : (makeOutput H request.toRequest work).artifacts.length = work.semantic.length :=
      h.measured.length_eq
    rw [hsame]
    exact ⟨h.nonempty, h.bounded⟩
  have hread := modelValidateOutputJson_line hfits hcount (makeOutput_contract h hpacket) hraw
  have hvalid : outputValidateFor (makeOutput H request.toRequest work) request.toRequest =
      .ok () := by
    simp only [outputValidateFor, bind_eq_ok_iff, ensure_eq_ok_iff, exists_const]
    exact ⟨⟨rfl, rfl, rfl⟩, fun hphase => if_neg hphase, fun hphase => if_neg hphase⟩
  have hbody : resultBody request (makeOutput H request.toRequest work) work.semantic none
      (outputRaw H request.toRequest work) =
        (makePhaseResult request work h).toResultBody := by
    have hexternal : (makePhaseResult request work h).externalExecutionSha256 = none := by
      have hcontract := (makePhaseResult request work h).contract.external
      exact not_not.mp fun hne => hcontract.mp hne hkind
    have hsame : (makePhaseResult request work h).toResultBody =
        { resultBody request (makeOutput H request.toRequest work) work.semantic none
            (outputRaw H request.toRequest work) with
          externalExecutionSha256 := (makePhaseResult request work h).externalExecutionSha256 } :=
      rfl
    rw [hsame, hexternal]
    rfl
  have hcreate := create_of_result (makePhaseResult request work h)
  rw [← hbody] at hcreate
  rw [afterFinalize, hbounded, ok_bind, hread]
  simp only [Except.mapError, ok_bind, hvalid, ensure_of _ hraw]
  split
  · next error herror =>
    rw [hcreate] at herror
    cases herror
  · next result hresult =>
    rw [hcreate, Except.ok.injEq] at hresult
    exact ⟨_, hresult.symm, rfl, rfl, rfl⟩

end Round

/-! ## A call that runs to its commit -/

/-- The events take the call, and what it shares, to where they end. -/
inductive Runs : Call H → Shared → List (CallEvent H) → Call H → Shared → Prop where
  | nil {call : Call H} {shared : Shared} : Runs call shared [] call shared
  | cons {call last : Call H} {shared next final : Shared} {event : CallEvent H}
      {events : List (CallEvent H)} {stage : Stage call.request}
      (hstep : call.step shared event = some (stage, next))
      (hrest : Runs { call with stage } next events last final) :
      Runs call shared (event :: events) last final

theorem Runs.append {call middle last : Call H} {shared next final : Shared}
    {events more : List (CallEvent H)} (h : Runs call shared events middle next)
    (hmore : Runs middle next more last final) : Runs call shared (events ++ more) last final := by
  induction h with
  | nil => exact hmore
  | cons hstep _ ih => exact .cons hstep (ih hmore)

/-- A run of the only call is a run of the system. -/
theorem Runs.system {call last : Call H} {shared final : Shared} {events : List (CallEvent H)}
    (h : Runs call shared events last final) (entered : List Entered) :
    ∃ entered', (events.map (SystemOp.happens 0)).foldl System.step ⟨shared, [call], entered⟩ =
      ⟨final, [last], entered'⟩ := by
  induction h generalizing entered with
  | nil => exact ⟨entered, rfl⟩
  | cons hstep _ ih =>
      obtain ⟨entered', hrun⟩ := ih (entered ++ _)
      refine ⟨entered', ?_⟩
      rw [← hrun, List.map_cons, List.foldl_cons]
      congr 1
      simp only [System.step, List.getElem?_cons_zero, hstep]
      rfl

section Persist

variable {request : PhaseRequest H} {execution : Execution request} {output : Path}

def persistEvents (content : Bytes) : List (CallEvent H) := [.create, .write content.length, .close]

/-- A new file is written in three steps. -/
theorem runs_persist (execution : Execution request) (output : Path) (done : ℕ)
    (shared : Shared) {write : Write}
    (hwrite : (execution.writes output)[done]? = some write) (hne : write.content ≠ [])
    (hlength : write.content.length ≤ PhaseProtocol.maxExternalBytes)
    (hdigest : H write.content = write.expectedSha256) (hfree : shared.files write.path = none) :
    Runs ⟨request, output, .persisting execution done⟩ shared (persistEvents write.content)
      ⟨request, output, .closed execution output done⟩
      (shared.put write.path (some write.content)) := by
  have hcreate : Call.step ⟨request, output, .persisting execution done⟩ shared .create =
      some (.writing execution done 0, shared.put write.path (some [])) := by
    simp only [Call.step, Stage.current?, hwrite]
    exact if_pos ⟨hlength, hdigest, hfree⟩
  have hput : (shared.put write.path (some [])).put write.path
      (some (write.content.take write.content.length)) =
      shared.put write.path (some write.content) := by
    simp [Shared.put]
  have hbytes : Call.step ⟨request, output, .writing execution done 0⟩
      (shared.put write.path (some [])) (.write write.content.length) =
      some (.writing execution done write.content.length,
        shared.put write.path (some write.content)) := by
    simp only [Call.step, Stage.current?, hwrite, Nat.zero_add]
    rw [if_pos ⟨List.length_pos_iff.mpr hne, le_rfl⟩, hput]
  have hclose : Call.step ⟨request, output, .writing execution done write.content.length⟩
      (shared.put write.path (some write.content)) .close =
      some (.closed execution output done, shared.put write.path (some write.content)) := by
    simp only [Call.step, Stage.current?, hwrite, if_true]
  exact .cons hcreate (.cons hbytes (.cons hclose .nil))

/-- The files of a phase without external evidence are written one after the other. -/
theorem runs_files (output : Path) (shared : Shared) (hexternal : execution.external = none)
    (houtput : output.name ≠ "coordinator-output.json" ∧ output.name ≠ "artifact-manifest.json")
    (hfiles : shared.files = fun _ => none)
    (hverified : execution.verifiedOutput ≠ [] ∧
      execution.verifiedOutput.length ≤ PhaseProtocol.maxExternalBytes)
    (hmanifest : (lineOf (artifactsJson execution.result.artifacts)).length ≤
      PhaseProtocol.maxExternalBytes)
    (hresult : (lineOf (.obj execution.result.fields)).length ≤ PhaseProtocol.maxExternalBytes) :
    ∃ final, Runs ⟨request, output, .persisting execution 0⟩ shared
      (persistEvents execution.verifiedOutput ++
        (persistEvents (lineOf (artifactsJson execution.result.artifacts)) ++
          persistEvents (lineOf (.obj execution.result.fields))))
      ⟨request, output, .committing execution⟩ final ∧ final.ledger = shared.ledger := by
  have hwrites : execution.writes output =
      [⟨output.withName "coordinator-output.json", execution.verifiedOutput,
          execution.result.coordinatorOutputSha256⟩,
        ⟨output.withName "artifact-manifest.json",
          lineOf (artifactsJson execution.result.artifacts),
          execution.result.outputArtifactsSha256⟩,
        ⟨output, lineOf (.obj execution.result.fields),
          H (lineOf (.obj execution.result.fields))⟩] := by
    rw [Execution.writes, hexternal]
    rfl
  have hmanifestLine := canonicalLine?_lineOf (encodes_artifacts execution.result.artifacts)
  have hresultLine := canonicalLine?_lineOf execution.result.encodes
  have hclosed : ∀ done, done + 1 < 3 →
      Stage.closed execution output done = .persisting execution (done + 1) := by
    intro done hlt
    exact if_pos (by rw [hwrites]; exact hlt)
  have hlast : Stage.closed execution output 2 = .committing execution :=
    if_neg (by rw [hwrites]; exact lt_irrefl 3)
  have hfirst := runs_persist execution output 0 shared (by rw [hwrites]; rfl) hverified.1
    hverified.2 execution.output.symm (by rw [hfiles])
  have hsecond := runs_persist execution output 1
    (shared.put (output.withName "coordinator-output.json") (some execution.verifiedOutput))
    (by rw [hwrites]; rfl) (Json.canonicalLine_ne_nil hmanifestLine) hmanifest (digest_manifest _)
    (by simp [Shared.put, hfiles, Path.withName])
  have hthird := runs_persist execution output 2
    ((shared.put (output.withName "coordinator-output.json") (some execution.verifiedOutput)).put
      (output.withName "artifact-manifest.json")
      (some (lineOf (artifactsJson execution.result.artifacts))))
    (by rw [hwrites]; rfl) (Json.canonicalLine_ne_nil hresultLine) hresult rfl (by
      have hmanifestPath : output ≠ output.withName "artifact-manifest.json" := fun hsame =>
        houtput.2 (congrArg Path.name hsame)
      have hverifiedPath : output ≠ output.withName "coordinator-output.json" := fun hsame =>
        houtput.1 (congrArg Path.name hsame)
      simp [Shared.put, hfiles, hmanifestPath, hverifiedPath])
  rw [hclosed 0 (by decide)] at hfirst
  rw [hclosed 1 (by decide)] at hsecond
  rw [hlast] at hthird
  exact ⟨_, hfirst.append (hsecond.append hthird), rfl⟩

end Persist

/-! ## The next phase after a committed call died -/

def never : Statement → Bool := fun _ => false

theorem claim_of_claims {ledger next : Ledger} {request : PhaseRequest H}
    (h : Claims ledger next request) : claim never request ledger = (.ok (), next) :=
  transaction_ok_iff.mpr (claimBody_of (fun _ => rfl) h)

theorem commit_of_commits {ledger next : Ledger} {result : PhaseResult H}
    (hledger : Constraints ledger) (h : Commits ledger next result) :
    commit never result ledger = (.ok (), next) :=
  transaction_ok_iff.mpr (commitBody_of (fun _ => rfl) hledger h)

/-- The first phase is claimed and committed on an empty ledger, and the second claimed after
it. -/
theorem ledger_of_chain (result : PhaseResult H) (next : PhaseRequest H)
    (hfirst : PhaseChain.Next ([] : PhaseChain H) result.phaseRequest.toRequest)
    (hnext : PhaseChain.Next [result] next.toRequest)
    (hworkflow : next.workflowId = result.phaseRequest.workflowId)
    (hfresh : next.requestSha256 ≠ result.phaseRequest.requestSha256) :
    claim never result.phaseRequest [] = (.ok (), [waitingRow result.phaseRequest]) ∧
      commit never result [waitingRow result.phaseRequest] = (.ok (), [resultRow result]) ∧
      claim never next [resultRow result] = (.ok (), [resultRow result, waitingRow next]) := by
  have hempty : Constraints ([] : Ledger) := by simp [Constraints]
  have hclaims : Claims [] [waitingRow result.phaseRequest] result.phaseRequest :=
    (represents_nil (H := H)).claims_of hempty rfl hfirst (by simp)
  have hclaimed := (represents_nil (H := H)).claimed hclaims rfl hfirst
  have hcommits : Commits [waitingRow result.phaseRequest] [resultRow result] result :=
    hclaimed.commits_of hclaims.constraints (by rw [Function.update_self]; rfl)
      (by simp [waitingRow, pendingRow])
  have hcommitted := hclaimed.committed hcommits (by rw [Function.update_self]; rfl)
  have hclaims' : Claims [resultRow result] [resultRow result, waitingRow next] next := by
    refine hcommitted.claims_of hcommits.constraints ?_ ?_ ?_
    · rw [hworkflow, Function.update_self]
      rfl
    · rw [hworkflow, Function.update_self]
      simp only [Workflow.commit, Function.update_self]
      exact hnext
    · intro row hrow
      rw [List.mem_singleton.mp hrow, resultRow, completeRow_requestSha256]
      exact hfresh.symm
  exact ⟨claim_of_claims hclaims, commit_of_commits hclaims.constraints hcommits,
    claim_of_claims hclaims'⟩

section Run

variable (request : PhaseRequest H) (work : PhaseWork)

/-- A call goes through everything up to its commit, and dies before it returns. -/
def lateFailureEvents : List (CallEvent H) :=
  [.claim never, .enter, .prepared (makePhaseAction request work) (some work.payload), .enter,
    .finalized (some (outputRaw H request.toRequest work))] ++
  ((persistEvents (outputRaw H request.toRequest work) ++
    (persistEvents (lineOf (artifactsJson work.semantic)) ++
      persistEvents (lineOf (.obj (makeResult H request.toRequest work).fields)))) ++
  [.commit never, .crashed])

def lateFailureOps (output : Path) : List (SystemOp H) :=
  .begins request output :: (lateFailureEvents request work).map (.happens 0)

/-- A second call claims the next phase and enters its first callback. -/
def nextCallOps (output : Path) : List (SystemOp H) :=
  [.begins request output, .happens 1 (.claim never), .happens 1 .enter]

variable {request work}

/-- The call of a coordinator that follows the protocol dies with its result committed. -/
theorem runs_lateFailure (output : Path) (h : work.Valid H request.phase)
    (hkind : request.phase.externalKind = .none)
    (hpacket : ∀ artifact ∈ work.artifacts, artifact.name ≠ "review-packet")
    (houtput : output.name ≠ "coordinator-output.json" ∧ output.name ≠ "artifact-manifest.json")
    (hverified : (outputRaw H request.toRequest work).length ≤ PhaseProtocol.maxExternalBytes)
    (hmanifest : (lineOf (artifactsJson work.semantic)).length ≤ PhaseProtocol.maxExternalBytes)
    (hresult : (lineOf (.obj (makeResult H request.toRequest work).fields)).length ≤
      PhaseProtocol.maxExternalBytes)
    (hclaim : claim never request [] = (.ok (), [waitingRow request]))
    (hcommit : commit never (makePhaseResult request work h) [waitingRow request] =
      (.ok (), [resultRow (makePhaseResult request work h)])) :
    ∃ final, Runs ⟨request, output, .starting⟩ ⟨[], fun _ => none⟩
      (lateFailureEvents request work) ⟨request, output, .failed .committed⟩ final ∧
        final.ledger = [resultRow (makePhaseResult request work h)] := by
  obtain ⟨prepared, -, hprepare⟩ := afterPrepare_makeAction h hkind
  obtain ⟨execution, hexecution, hexternal, hraw, hfinalize⟩ :=
    afterFinalize_makeOutput h hkind hpacket hverified prepared
  obtain ⟨written, hwritten, hledger⟩ := runs_files output
    ⟨[waitingRow request], fun _ => none⟩ hexternal houtput rfl
    (by
      rw [hraw]
      exact ⟨Json.canonicalLine_ne_nil (canonicalLine?_lineOf (encodes_output _)), hverified⟩)
    (by rw [hexecution]; exact hmanifest) (by rw [hexecution]; exact hresult)
  rw [hraw, hexecution] at hwritten
  have hstart : Runs ⟨request, output, .starting⟩ ⟨[], fun _ => none⟩
      [.claim never, .enter, .prepared (makePhaseAction request work) (some work.payload), .enter,
        .finalized (some (outputRaw H request.toRequest work))]
      ⟨request, output, .persisting execution 0⟩ ⟨[waitingRow request], fun _ => none⟩ := by
    have hclaimed : Call.step ⟨request, output, .starting⟩ ⟨[], fun _ => none⟩ (.claim never) =
        some (.entering .prepare, ⟨[waitingRow request], fun _ => none⟩) := by
      simp only [Call.step, hclaim]
    have hprepared : Call.step ⟨request, output, .inside .prepare⟩
        ⟨[waitingRow request], fun _ => none⟩
        (.prepared (makePhaseAction request work) (some work.payload)) =
        some (.entering (.finalize prepared none), ⟨[waitingRow request], fun _ => none⟩) := by
      simp only [Call.step, hprepare, Stage.proceed]
    have hfinalized : Call.step ⟨request, output, .inside (.finalize prepared none)⟩
        ⟨[waitingRow request], fun _ => none⟩
        (.finalized (some (outputRaw H request.toRequest work))) =
        some (.persisting execution 0, ⟨[waitingRow request], fun _ => none⟩) := by
      simp only [Call.step, hfinalize, Stage.proceed, Stage.executed]
    exact .cons hclaimed (.cons rfl (.cons hprepared (.cons rfl (.cons hfinalized .nil))))
  have hend : Runs ⟨request, output, .committing execution⟩ written [.commit never, .crashed]
      ⟨request, output, .failed .committed⟩
      ⟨[resultRow (makePhaseResult request work h)], written.files⟩ := by
    have hcommitted : Call.step ⟨request, output, .committing execution⟩ written
        (.commit never) = some (.committed execution,
          ⟨[resultRow (makePhaseResult request work h)], written.files⟩) := by
      simp only [Call.step, hledger, hexecution, hcommit]
    exact .cons hcommitted (.cons rfl .nil)
  exact ⟨_, hstart.append (hwritten.append hend), rfl⟩

/-- The next phase of the workflow enters a callback after that. -/
theorem not_quiet_of_lateFailure {next : PhaseRequest H} {output : Path} {final : Shared}
    {result : PhaseResult H}
    (hruns : Runs ⟨request, output, .starting⟩ ⟨[], fun _ => none⟩
      (lateFailureEvents request work) ⟨request, output, .failed .committed⟩ final)
    (hledger : final.ledger = [resultRow result]) (hworkflow : next.workflowId = request.workflowId)
    (hclaim : claim never next [resultRow result] =
      (.ok (), [resultRow result, waitingRow next])) :
    ¬ QuietAfterFailure .committed (fun _ => none) (lateFailureOps request work output) := by
  obtain ⟨entered, hrun⟩ := hruns.system []
  have hbefore : System.run (fun _ => none) (lateFailureOps request work output) =
      ⟨final, [⟨request, output, .failed .committed⟩], entered⟩ := by
    have hbegins : (System.initial fun _ => none).step (.begins request output) =
        ⟨⟨[], fun _ => none⟩, [⟨request, output, .starting⟩], []⟩ := rfl
    rw [System.run, lateFailureOps, List.foldl_cons, hbegins, hrun]
  have hafter : System.run (fun _ => none)
      (lateFailureOps request work output ++ nextCallOps next output) =
      ⟨{ final with ledger := [resultRow result, waitingRow next] },
        [⟨request, output, .failed .committed⟩, ⟨next, output, .inside .prepare⟩],
        entered ++ [⟨1, next.workflowId, next.phase.sequence, .prepare⟩]⟩ := by
    rw [System.run, List.foldl_append, ← System.run, hbefore]
    simp [nextCallOps, System.step, Call.step, Call.enters, hledger, hclaim, Task.callback]
  intro hquiet
  have hcall : (System.run (fun _ => none) (lateFailureOps request work output)).calls[0]? =
      some ⟨request, output, .failed .committed⟩ := by
    rw [hbefore]
    exact List.getElem?_cons_zero
  have hsince := hquiet 0 _ hcall rfl (nextCallOps next output)
  rw [QuietSince, hbefore, hafter, List.drop_left] at hsince
  exact hsince _ (List.mem_singleton_self _) hworkflow

end Run

/-! ### The sample workflow -/

/-- A first request over the empty artifact set. -/
def sampleRequest : PhaseRequest phaseDigest where
  toRequest := sampleFirst phaseDigest (phaseDigest (lineOf (artifactsJson [])))
  bound := sampleFirst_bound _
  initialInputs := fun _ => by
    rw [emptyInitialArtifactsSha256?, artifactSetSha256?, canonicalLine?_lineOf (encodes_artifacts _)]
    rfl

def sampleResult : PhaseResult phaseDigest :=
  makePhaseResult sampleRequest (sampleWork phaseDigest .snapshot) (sampleWork_valid .snapshot)

/-- The second request of the workflow. -/
def sampleNext : PhaseRequest phaseDigest where
  toRequest :=
    let body : RequestBody :=
      { sampleRequest.toRequestBody with
        phase := .redSnapshot
        previousPhaseSha256 := some sampleResult.phaseSha256
        candidateSnapshotSha256 := sampleResult.candidateSnapshotSha256
        reviewPacketSha256 := sampleResult.reviewPacketSha256
        inputArtifactsSha256 := sampleResult.outputArtifactsSha256 }
    { toRequestBody := body, requestSha256 := domainSha256 phaseDigest requestDomain body.fields }
  bound := (makeNext_bound (sampleFirst_bound _) (sampleWork_valid .snapshot) rfl).1
  initialInputs := by intro h; cases h

def sampleOutput : Path := ⟨"phase", "result.json"⟩

theorem sampleNext_next : PhaseChain.Next [sampleResult] sampleNext.toRequest where
  sequence := rfl
  anchors := by
    intro previous hprevious
    rw [List.getLast?_singleton, Option.mem_some_iff] at hprevious
    subst hprevious
    exact ⟨rfl, rfl, rfl, rfl, rfl, rfl, rfl, rfl, rfl, rfl⟩

theorem sampleNext_fresh : sampleNext.requestSha256 ≠ sampleRequest.requestSha256 := by
  have hmark := fun request : PhaseRequest phaseDigest =>
    (makeStep_marks (sampleWork phaseDigest request.phase) request.bound).1
  rw [hmark sampleNext, hmark sampleRequest]
  change phaseMark .redSnapshot ≠ phaseMark .snapshot
  decide

/-- What the coordinator of a sample phase writes stays small. -/
theorem lengths_of_sampleWork (request : PhaseRequest H) :
    (outputRaw H request.toRequest (sampleWork H request.phase)).length ≤
        PhaseProtocol.maxExternalBytes ∧
      (lineOf (artifactsJson (sampleWork H request.phase).semantic)).length ≤
        PhaseProtocol.maxExternalBytes ∧
      (lineOf (.obj (makeResult H request.toRequest (sampleWork H request.phase)).fields)).length ≤
        PhaseProtocol.maxExternalBytes := by
  have hartifacts := itemsSize_sampleArtifacts (H := H) request.phase
  have hsemantic := itemsSize_sampleSemantic (H := H) request.phase
  have hmax : PhaseProtocol.maxExternalBytes = 6000000 := rfl
  generalize sampleWork H request.phase = work at *
  constructor
  · have hline := lineOf_length_le (isPlain_output (makeOutput H request.toRequest work))
      (encodes_output _)
    have hsize := textSize_output (makeOutput H request.toRequest work)
    have hsame : (makeOutput H request.toRequest work).artifacts = work.artifacts := rfl
    rw [hsame] at hsize
    rw [outputRaw]
    omega
  constructor
  · have hline := lineOf_length_le (isPlain_artifactsJson work.semantic) (encodes_artifacts _)
    rw [artifactsJson, Json.textSize] at hline
    rw [artifactsJson]
    omega
  · have hplain : (Json.obj (makeResult H request.toRequest work).fields).IsPlain :=
      isPlain_result (isPlain_request request.toRequest)
    have hencodes : (Json.obj (makeResult H request.toRequest work).fields).Encodes :=
      encodes_result (encodes_request request.toRequest)
    have hline := lineOf_length_le hplain hencodes
    have hsize := textSize_result (makeResult H request.toRequest work)
    have hrequest := textSize_request request.toRequest
    have hsame : (makeResult H request.toRequest work).artifacts = work.semantic := rfl
    have hembeds : (makeResult H request.toRequest work).request =
      .obj request.toRequest.fields := rfl
    rw [hsame, hembeds] at hsize
    omega

/-- A call that dies after its commit does not keep the next phase from running: taken to the
letter, silence after every failure of a call that has claimed is too much to ask. -/
theorem late_failure :
    ¬ ∀ progress, progress ≠ Progress.unclaimed →
      QuietAfterFailure progress (fun _ => none)
        (lateFailureOps sampleRequest (sampleWork phaseDigest .snapshot) sampleOutput) := by
  intro hquiet
  have hpacket : ∀ artifact ∈ (sampleWork phaseDigest .snapshot).artifacts,
      artifact.name ≠ "review-packet" := by
    simp [sampleWork, sampleNames]
  obtain ⟨hverified, hmanifest, hresult⟩ := lengths_of_sampleWork sampleRequest
  obtain ⟨hclaim, hcommit, hnext⟩ := ledger_of_chain sampleResult sampleNext
    ⟨rfl, by simp⟩ sampleNext_next rfl sampleNext_fresh
  obtain ⟨final, hruns, hledger⟩ := runs_lateFailure sampleOutput (sampleWork_valid .snapshot) rfl
    hpacket ⟨by decide, by decide⟩ hverified hmanifest hresult hclaim hcommit
  have hworkflow : sampleNext.workflowId = sampleRequest.workflowId := rfl
  exact not_quiet_of_lateFailure hruns hledger hworkflow hnext (hquiet .committed (by decide))

end AmazonSimilarSearch.OuterWorkflow
