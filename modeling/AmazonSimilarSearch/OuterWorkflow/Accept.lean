import AmazonSimilarSearch.OuterWorkflow.Run

/-!
# The outer verifier accepts every bound document

The converse of `Spec.lean`: a document that is bound, is written as its
canonical line and keeps the byte limits is read back as its own record. So the
verifier's rules are exactly the bindings and the limits, and a driver that is
answered with bound documents runs to its end.
-/
namespace AmazonSimilarSearch.OuterWorkflow
open Foundation

variable {H : HashFunction}

theorem isPlain_prepared (prepared : PreparedTransition) :
    (Json.obj prepared.fields).IsPlain := by
  rw [Json.isPlain_obj]
  exact ⟨by simp only [PreparedTransition.fields, Fields.SortedKeys, Fields.keys, List.map]; decide,
    by simp [PreparedTransition.fields, isPlain_action]⟩

theorem isPlain_finalized (finalized : FinalizedTransition)
    (h : finalized.result.request.IsPlain) : (Json.obj finalized.fields).IsPlain := by
  have hnext : ((finalized.nextRequest.map fun raw => Json.str (b64encode raw)).getD
      .null).IsPlain := by
    cases finalized.nextRequest <;> simp
  rw [Json.isPlain_obj]
  exact ⟨by simp only [FinalizedTransition.fields, Fields.SortedKeys, Fields.keys, List.map]; decide,
    by simp [FinalizedTransition.fields, isPlain_result h, hnext]⟩

theorem sequence_bounds (phase : Phase) : (1 : ℤ) ≤ phase.sequence ∧ (phase.sequence : ℤ) ≤ 7 :=
  ⟨by exact_mod_cast phase.sequence_pos, by exact_mod_cast phase.sequence_le⟩

/-- Every bound request is accepted from its canonical line. -/
theorem validatePhaseRequestBytes_of_bound {request : Request} {raw : Bytes}
    (hbound : request.Bound H) (hline : Json.canonicalLine? (.obj request.fields) = some raw)
    (hlength : raw.length ≤ 128000) : validatePhaseRequestBytes H raw = .ok request := by
  simp only [validatePhaseRequestBytes, bind_eq_ok_iff, exactFields_eq_ok_iff,
    ensure_eq_ok_iff, exists_const, required_eq_ok_iff, sha_eq_ok_iff, optionalSha_eq_ok_iff,
    integer_eq_ok_iff, domain_eq_ok_iff, phaseIn?_eq_some_iff, pure_eq_ok_iff,
    Json.pyEq_str_right]
  have hprior : request.previousPhaseSha256 = none ↔ (request.phase.sequence : ℤ) = 1 := by
    rw [hbound.prior, ← Phase.sequence_eq_one_iff]
    norm_cast
  have hsnapshot : request.candidateSnapshotSha256 = none ↔
      (request.phase.sequence : ℤ) = 1 := by
    rw [hbound.snapshot, ← Phase.sequence_eq_one_iff]
    norm_cast
  have hpacket : request.reviewPacketSha256 ≠ none ↔
      (Phase.broker.sequence : ℤ) ≤ (request.phase.sequence : ℤ) := by
    rw [hbound.packet]
    norm_cast
  have hdigest := hbound.digest
  rw [← Request.fields_without] at hdigest
  exact ⟨request.fields, strictJson_of_plain (isPlain_request request) hline hlength,
    request.fields, ⟨Fields.hasExactKeys_self _, rfl⟩, rfl, request.phase, rfl, _,
    ⟨rfl, sequence_bounds _⟩, rfl, _, rfl, _, rfl, _, rfl, _, rfl, _, rfl, _, rfl, _, rfl, _, rfl,
    _, rfl, _, rfl, _, rfl, hprior, hsnapshot, hpacket, _, hdigest, rfl, rfl⟩

theorem validateAction_of_bound {action : Action} {request : Request} {payload : Bytes}
    (h : action.Bound H request payload) :
    validateAction H (.obj action.fields) request payload = .ok action := by
  simp only [validateAction, bind_eq_ok_iff, exact_eq_ok_iff, ensure_eq_ok_iff, exists_const,
    sha_eq_ok_iff, integer_eq_ok_iff, domain_eq_ok_iff, pure_eq_ok_iff, Json.pyEq_str_right,
    pyEq_shaJson]
  have hdigest := h.digest
  rw [← Action.fields_without] at hdigest
  obtain ⟨⟨workflow, phase, answers, kind, payloadDigest⟩, digest⟩ := action
  obtain ⟨rfl, rfl, rfl, rfl, rfl, -⟩ := h
  exact ⟨_, ⟨Fields.hasExactKeys_self _, rfl⟩, rfl, rfl, rfl, _, ⟨rfl, sequence_bounds _⟩, rfl, rfl,
    rfl, rfl, _, rfl, _, hdigest, rfl, rfl⟩

/-- Every bound prepared transition is accepted from its canonical line. -/
theorem parsePreparedTransition_of_bound {prepared : PreparedTransition} {request : Request}
    {raw : Bytes} (hbound : prepared.action.Bound H request prepared.payload)
    (hnonempty : prepared.payload ≠ []) (hpayload : prepared.payload.length ≤ 2000000)
    (hdigest : domainSha256? H preparedDomain
      (.obj (PreparedTransition.body prepared.action prepared.payload)) =
        some prepared.preparedSha256)
    (hline : Json.canonicalLine? (.obj prepared.fields) = some raw)
    (hlength : raw.length ≤ maxPreparedBytes) :
    parsePreparedTransition H (some raw) request = .ok prepared := by
  simp only [parsePreparedTransition, bind_eq_ok_iff, exactFields_eq_ok_iff, ensure_eq_ok_iff,
    exists_const, sha_eq_ok_iff, domain_eq_ok_iff, pure_eq_ok_iff, Json.pyEq_str_right]
  exact ⟨prepared.fields, strictJson_of_plain (isPlain_prepared prepared) hline hlength,
    prepared.fields, ⟨Fields.hasExactKeys_self _, rfl⟩, rfl, prepared.payload,
    decodeBase64_b64encode hnonempty hpayload (by decide), prepared.action,
    validateAction_of_bound hbound, _, rfl, _, hdigest, rfl, rfl⟩

theorem readArtifact_of_measures {artifact : OutputArtifact} {semantic : Artifact}
    (h : Measures H artifact semantic) :
    readArtifact H (.obj artifact.fields) = .ok (artifact, semantic) := by
  have hfields : exact (.obj artifact.fields) ["content_base64", "name"]
      "coordinator output artifact" = .ok artifact.fields :=
    exact_eq_ok_iff.mpr ⟨Fields.hasExactKeys_self _, rfl⟩
  have hname : artifact.fields.get "name" = .str artifact.name := rfl
  have hcontent : artifact.fields.get "content_base64" = .str (b64encode artifact.content) := rfl
  have hsemantic : semantic = ⟨artifact.name, semantic.sha256⟩ := by
    rw [← h.name]
  simp only [readArtifact, hfields, ok_bind, hname, hcontent, ensure_of _ h.matched,
    decodeBase64_b64encode h.nonempty h.bounded (by decide), h.digest]
  rw [hsemantic]
  rfl

theorem readArtifacts_of_measures {artifacts : List OutputArtifact} {semantic : List Artifact}
    (h : List.Forall₂ (Measures H) artifacts semantic) :
    (artifacts.map fun a => Json.obj a.fields).mapM (readArtifact H) =
      .ok (artifacts.zip semantic) := by
  induction h with
  | nil => rfl
  | cons hmeasures _ ih =>
      rw [List.map_cons, List.mapM_cons, readArtifact_of_measures hmeasures, ok_bind, ih, ok_bind]
      rfl

/-- Every bound coordinator output is accepted from its canonical line. -/
theorem validateCoordinatorOutput_of_bound {output : Output} {request : Request}
    {semantic : List Artifact} {raw : Bytes} (h : OutputBound H output request semantic)
    (hline : Json.canonicalLine? (.obj output.fields) = some raw)
    (hlength : raw.length ≤ 8000000) :
    validateCoordinatorOutput H raw request = .ok (output, semantic) := by
  simp only [validateCoordinatorOutput, bind_eq_ok_iff, exactFields_eq_ok_iff, ensure_eq_ok_iff,
    exists_const, required_eq_ok_iff, sha_eq_ok_iff, integer_eq_ok_iff, domain_eq_ok_iff,
    canonical_eq_ok_iff, validateCompleteness, listItems?_eq_some_iff, pure_eq_ok_iff,
    Json.pyEq_str_right, pyEq_shaJson, pyEq_optionalShaJson]
  have hsame := h.measured.length_eq
  have hfirst : (output.artifacts.zip semantic).map Prod.fst = output.artifacts :=
    List.map_fst_zip hsame.le
  have hsecond : (output.artifacts.zip semantic).map Prod.snd = semantic :=
    List.map_snd_zip hsame.ge
  have hitems : 1 ≤ (output.artifacts.map fun a => Json.obj a.fields).length ∧
      (output.artifacts.map fun a => Json.obj a.fields).length ≤ 512 := by
    rw [List.length_map, hsame]
    exact ⟨h.nonempty, h.bounded⟩
  have hdigest := h.digest
  rw [← Output.fields_without] at hdigest
  obtain ⟨line, hset, hmanifest⟩ := Option.map_eq_some_iff.mp h.set
  obtain ⟨hworkflow, hphase, hanswers, -, -, hmeasured, hsorted, hnodup, hcomplete, -, hcandidate,
    hpacket, -⟩ := h
  obtain ⟨⟨workflow, phase, answers, artifacts, candidate, packet, manifest⟩, digest⟩ := output
  subst hworkflow hphase hanswers hmanifest
  refine ⟨_, strictJson_of_plain (isPlain_output _) hline hlength, _,
    ⟨Fields.hasExactKeys_self _, rfl⟩, rfl, rfl, rfl, _, ⟨rfl, sequence_bounds _⟩, rfl, rfl, _, rfl,
    hitems, _, readArtifacts_of_measures hmeasured, ?_⟩
  rw [hfirst, hsecond]
  exact ⟨⟨hsorted, hnodup⟩, hcomplete, line, hset, rfl, _, hcandidate, _, hpacket, ⟨rfl, rfl⟩, _,
    rfl, _, hdigest, rfl, rfl⟩

theorem validatePhaseResult_of_bound {result : Result} {request : Request} {output : Output}
    {semantic : List Artifact} {outputRaw : Bytes} {externalRaw : Option Bytes}
    (h : ResultBound H result request output semantic outputRaw externalRaw) :
    validatePhaseResult H (.obj result.fields) request output semantic outputRaw externalRaw =
      .ok result := by
  simp only [validatePhaseResult, bind_eq_ok_iff, exact_eq_ok_iff, ensure_eq_ok_iff, exists_const,
    sha_eq_ok_iff, domain_eq_ok_iff, pure_eq_ok_iff, Json.pyEq_str_right, pyEq_shaJson,
    pyEq_optionalShaJson, pyEq_artifactsJson]
  have hdigest := h.digest
  rw [← Result.fields_without] at hdigest
  obtain ⟨⟨embedded, manifest, artifacts, candidate, packet, external, written⟩, digest⟩ := result
  obtain ⟨hrequest, rfl, rfl, rfl, rfl, rfl, rfl, -⟩ := h
  exact ⟨_, ⟨Fields.hasExactKeys_self _, rfl⟩, ⟨rfl, hrequest, rfl, rfl, rfl, rfl, rfl, rfl⟩, _, rfl,
    _, hdigest, rfl, rfl⟩

theorem validateNextRequest_of_bound {request : Request} {output : Output} {result : Result}
    {nextRaw : Option Bytes} (h : NextRequestBound H request output result nextRaw) :
    validateNextRequest H request output result nextRaw = .ok () := by
  unfold validateNextRequest
  rcases h with ⟨hlast, hnone⟩ | ⟨raw, next, rfl, hnext, hchained⟩
  · rw [if_pos hlast, ensure_of _ hnone]
  · have hlast : request.phase.sequence ≠ phaseOrder.length := by
      intro hlast
      have hnextSequence := next.phase.sequence_le
      rw [hchained.1, hlast] at hnextSequence
      exact absurd hnextSequence (by decide)
    rw [if_neg hlast, required_some, ok_bind, hnext, ok_bind, ensure_of _ hchained]

theorem decodeNextRequest_of_bounds {nextRaw : Option Bytes}
    (h : ∀ raw ∈ nextRaw, raw ≠ [] ∧ raw.length ≤ 128000) :
    decodeNextRequest ((nextRaw.map fun raw => Json.str (b64encode raw)).getD .null) =
      .ok nextRaw := by
  cases nextRaw with
  | none => rfl
  | some raw =>
      obtain ⟨hnonempty, hlength⟩ := h raw rfl
      simp only [Option.map_some, Option.getD_some, decodeNextRequest,
        decodeBase64_b64encode hnonempty hlength (by decide), ok_bind]
      rfl

def FinalizedTransition.body (result : Result) (outputRaw : Bytes) (nextRaw : Option Bytes) :
    Fields := [
  ("coordinator_output_base64", .str (b64encode outputRaw)),
  ("next_request_base64", (nextRaw.map fun raw => Json.str (b64encode raw)).getD .null),
  ("phase_result", .obj result.fields),
  ("schema_version", .str "1.0")]

/-- Every bound finalized transition is accepted from its canonical line. -/
theorem parseFinalizedTransition_of_bound {finalized : FinalizedTransition} {request : Request}
    {externalRaw : Option Bytes} {output : Output} {semantic : List Artifact} {raw : Bytes}
    (h : FinalizedBound H finalized request externalRaw output semantic)
    (hreadable : (Json.obj finalized.fields).IsReadable)
    (hsorted : (Json.obj finalized.fields).sortKeys = .obj finalized.fields)
    (houtput : finalized.coordinatorOutput.length ≤ 8000000)
    (hnext : ∀ raw ∈ finalized.nextRequest, raw ≠ [] ∧ raw.length ≤ 128000)
    (hdigest : domainSha256? H finalizedDomain (.obj (FinalizedTransition.body finalized.result
      finalized.coordinatorOutput finalized.nextRequest)) = some finalized.finalizedSha256)
    (hline : Json.canonicalLine? (.obj finalized.fields) = some raw)
    (hlength : raw.length ≤ maxFinalizedBytes) :
    parseFinalizedTransition H (some raw) request externalRaw = .ok finalized := by
  simp only [parseFinalizedTransition, bind_eq_ok_iff, exactFields_eq_ok_iff, ensure_eq_ok_iff,
    exists_const, sha_eq_ok_iff, domain_eq_ok_iff, pure_eq_ok_iff, Json.pyEq_str_right]
  exact ⟨finalized.fields, strictJson_of_readable hreadable hsorted hline hlength,
    finalized.fields, ⟨Fields.hasExactKeys_self _, rfl⟩, rfl, finalized.coordinatorOutput,
    decodeBase64_b64encode (Json.canonicalLine_ne_nil h.line) houtput (by decide),
    (output, semantic), validateCoordinatorOutput_of_bound h.measured h.line houtput,
    finalized.result, validatePhaseResult_of_bound h.result, finalized.nextRequest,
    decodeNextRequest_of_bounds hnext, (), validateNextRequest_of_bound h.next, _, rfl, _, hdigest,
    rfl, rfl⟩

end AmazonSimilarSearch.OuterWorkflow
