import AmazonSimilarSearch.Foundation.JsonSize
import AmazonSimilarSearch.OuterWorkflow.HonestRun
import AmazonSimilarSearch.OuterWorkflow.Refinement

/-!
# Where the two verifiers differ

A coordinator that follows the protocol in everything but the inputs named by
its first request takes the driver to the end of a run that the typed protocol
rejects. The documents of such a run are small, so the byte limits play no part.
-/
namespace AmazonSimilarSearch.OuterWorkflow
open Foundation PhaseProtocol

variable {H : HashFunction}

/-! ## Small documents keep the byte limits -/

theorem length_text (digest : Sha256) : digest.text.toList.length = 64 := digest.length_toList

theorem textSize_shaJson (digest : Sha256) : (shaJson digest).textSize = 386 := by
  rw [shaJson, Json.textSize, Json.stringSize, length_text]

theorem textSize_optionalShaJson (digest : Option Sha256) :
    (optionalShaJson digest).textSize ≤ 386 := by
  cases digest with
  | none => simp [optionalShaJson, Json.textSize]
  | some digest => exact (textSize_shaJson digest).le

theorem textSize_sequenceJson (phase : Phase) : (sequenceJson phase).textSize ≤ 9 := by
  have := phase.sequence_le
  rw [sequenceJson, Json.textSize, Int.natAbs_natCast]
  omega

theorem stringSize_phase (phase : Phase) : Json.stringSize phase.name ≤ 86 := by
  cases phase <;> simp [Phase.name, Json.stringSize]

theorem stringSize_kind (kind : ExternalKind) : Json.stringSize kind.name ≤ 44 := by
  cases kind <;> simp [ExternalKind.name, Json.stringSize]

theorem stringSize_b64encode (raw : Bytes) :
    Json.stringSize (b64encode raw) = 6 * ((raw.length + 2) / 3 * 4) + 2 := by
  rw [Json.stringSize, String.length_toList, b64encode_length]

theorem lineOf_length_le {value : Json} (hplain : value.IsPlain) (hencodes : value.Encodes) :
    (lineOf value).length ≤ 4 * value.textSize + 1 :=
  Json.canonicalLine?_length_le hplain (canonicalLine?_lineOf hencodes)

theorem textSize_request (request : Request) : (Json.obj request.fields).textSize ≤ 7000 := by
  have hsnapshot := textSize_optionalShaJson request.candidateSnapshotSha256
  have hprevious := textSize_optionalShaJson request.previousPhaseSha256
  have hpacket := textSize_optionalShaJson request.reviewPacketSha256
  have hsequence := textSize_sequenceJson request.phase
  have hphase := stringSize_phase request.phase
  simp only [Json.textSize, Request.fields, Json.fieldsSize, textSize_shaJson] at *
  simp [Json.stringSize] at *
  omega

theorem requestLine_length_le (request : Request) : (requestLine request).length ≤ 28001 := by
  have := lineOf_length_le (isPlain_request request) (encodes_request request)
  have := textSize_request request
  rw [requestLine]
  omega

theorem textSize_action (action : Action) : (Json.obj action.fields).textSize ≤ 3000 := by
  have hsequence := textSize_sequenceJson action.phase
  have hphase := stringSize_phase action.phase
  have hkind := stringSize_kind action.externalKind
  simp only [Json.textSize, Action.fields, Json.fieldsSize, textSize_shaJson] at *
  simp [Json.stringSize] at *
  omega

theorem textSize_prepared (prepared : PreparedTransition) :
    (Json.obj prepared.fields).textSize ≤ 4000 + 6 * ((prepared.payload.length + 2) / 3 * 4) := by
  have haction := textSize_action prepared.action
  have hpayload := stringSize_b64encode prepared.payload
  simp only [Json.textSize, PreparedTransition.fields, Json.fieldsSize, textSize_shaJson] at *
  simp [Json.stringSize] at *
  omega

theorem textSize_output (output : Output) : (Json.obj output.fields).textSize ≤
    5000 + Json.itemsSize (output.artifacts.map fun a => .obj a.fields) := by
  have hsnapshot := textSize_optionalShaJson output.candidateSnapshotSha256
  have hpacket := textSize_optionalShaJson output.reviewPacketSha256
  have hsequence := textSize_sequenceJson output.phase
  have hphase := stringSize_phase output.phase
  simp only [Json.textSize, Output.fields, Json.fieldsSize, textSize_shaJson] at *
  simp [Json.stringSize] at *
  omega

theorem textSize_result (result : Result) : (Json.obj result.fields).textSize ≤
    5000 + result.request.textSize +
      Json.itemsSize (result.artifacts.map fun a => .obj a.fields) := by
  have hsnapshot := textSize_optionalShaJson result.candidateSnapshotSha256
  have hpacket := textSize_optionalShaJson result.reviewPacketSha256
  have hexternal := textSize_optionalShaJson result.externalExecutionSha256
  simp only [Json.textSize, Result.fields, Json.fieldsSize, textSize_shaJson, artifactsJson] at *
  simp [Json.stringSize] at *
  omega

theorem textSize_finalized (finalized : FinalizedTransition)
    (hnext : ∀ raw ∈ finalized.nextRequest, raw.length ≤ 28001) :
    (Json.obj finalized.fields).textSize ≤ 230000 + (Json.obj finalized.result.fields).textSize +
      6 * ((finalized.coordinatorOutput.length + 2) / 3 * 4) := by
  have houtput := stringSize_b64encode finalized.coordinatorOutput
  have hfield : ((finalized.nextRequest.map fun raw => Json.str (b64encode raw)).getD
      .null).textSize ≤ 224018 := by
    cases hsome : finalized.nextRequest with
    | none => simp [Json.textSize]
    | some raw =>
        have hlength := hnext raw hsome
        have hsize := stringSize_b64encode raw
        simp only [Option.map_some, Option.getD_some, Json.textSize]
        omega
  rw [Json.textSize, FinalizedTransition.fields]
  simp only [Json.fieldsSize, textSize_shaJson, Json.textSize.eq_5]
  rw [houtput]
  simp only [Json.stringSize]
  simp
  omega

/-- A round fits when its payload and its artifacts are small. -/
theorem makeStep_fits (request : Request) {work : PhaseWork}
    (hpayload : work.payload.length ≤ 1000)
    (hartifacts : Json.itemsSize (work.artifacts.map fun a => .obj a.fields) ≤ 20000)
    (hsemantic : Json.itemsSize (work.semantic.map fun a => .obj a.fields) ≤ 8000) :
    (makeStep H request work).Fits := by
  have hprepared := lineOf_length_le (isPlain_prepared (makePrepared H request work))
    (by simp [PreparedTransition.fields, Action.fields])
  have hpreparedSize := textSize_prepared (makePrepared H request work)
  have houtput := lineOf_length_le (isPlain_output (makeOutput H request work)) (encodes_output _)
  have houtputSize := textSize_output (makeOutput H request work)
  have hresultSize := textSize_result (makeResult H request work)
  have hrequestSize := textSize_request request
  have hnext : ∀ raw ∈ (makeFinalized H request work).nextRequest, raw.length ≤ 28001 := by
    intro raw hraw
    obtain ⟨next, -, rfl⟩ := Option.map_eq_some_iff.mp hraw
    exact requestLine_length_le next
  have hfinalized := lineOf_length_le
    (isPlain_finalized (makeFinalized H request work) (isPlain_request request))
    (encodes_finalized _ (encodes_result (encodes_request request)))
  have hfinalizedSize := textSize_finalized (makeFinalized H request work) hnext
  have hpreparedPayload : (makePrepared H request work).payload = work.payload := rfl
  have houtputArtifacts : (makeOutput H request work).artifacts = work.artifacts := rfl
  have hresultArtifacts : (makeResult H request work).artifacts = work.semantic := rfl
  have hresultRequest : (makeResult H request work).request = .obj request.fields := rfl
  have hresult : (makeFinalized H request work).result = makeResult H request work := rfl
  have hraw : (makeFinalized H request work).coordinatorOutput =
      lineOf (.obj (makeOutput H request work).fields) := rfl
  rw [hpreparedPayload] at hpreparedSize
  rw [houtputArtifacts] at houtputSize
  rw [hresultArtifacts, hresultRequest] at hresultSize
  rw [hresult, hraw] at hfinalizedSize
  exact {
    request := (requestLine_length_le request).trans (by decide)
    prepared := by
      change (lineOf (.obj (makePrepared H request work).fields)).length ≤ 3000000
      omega
    output := by
      change (lineOf (.obj (makeOutput H request work).fields)).length ≤ 8000000
      omega
    next := fun raw hmem => (hnext raw hmem).trans (by decide)
    finalized := by
      change (lineOf (.obj (makeFinalized H request work).fields)).length ≤ 10000000
      omega }

/-! ## A first request with other inputs -/

/-- A run from a first request that does not name the empty artifact set returns, and no typed
reading of it exists. -/
theorem forged_inputs_run {works : Phase → PhaseWork} {first : Request} (hfirst : first.Bound H)
    (hphase : first.phase = .snapshot) (hworks : ∀ phase, (works phase).Valid H phase)
    (hfits : ∀ step ∈ makeSteps H works 7 first, step.Fits)
    (hfresh : FreshRounds (State.initial (requestLine first)) (makeSteps H works 7 first))
    (hforged : emptyInitialArtifactsSha256? H ≠ some first.inputArtifactsSha256) :
    ¬ Returned (fun result => Refines H result.1 result.2)
      (runFixedWorkflow H (replay (makeSteps H works 7 first)) (requestLine first)) := by
  have hrun := runFixedWorkflow_of_works hfirst hphase hworks hfits hfresh
  obtain ⟨state, steps, hsteps, hresult⟩ := runFixedWorkflow_ok hrun
  rw [hrun, returned_ok, hresult]
  intro hrefines
  have hstrict := hsteps.strict_of_refines hrefines
  obtain ⟨step, hmem, hsnapshot⟩ := hsteps.exists_snapshot
  have hraw := hsteps.initial_of_snapshot step hmem hsnapshot
  have hchecked := hsteps.checked step hmem
  have hline := hchecked.line
  rw [hraw] at hline
  have hsame : step.request = first := by
    have hrequest := hchecked.request
    rw [hraw, validatePhaseRequestBytes_of_bound hfirst (requestLine_eq first)
      ((requestLine_length_le first).trans (by decide)), Except.ok.injEq] at hrequest
    exact hrequest.symm
  have hinputs := (hstrict step hmem).initialInputs hsnapshot
  rw [hsame] at hinputs
  exact hforged hinputs

/-- The phase a document names, at its top or in the request of its result. -/
def phaseOf? (value : Json) : Option Phase :=
  match valueAt? value ["phase"] with
  | some (.str name) => Phase.ofName? name
  | _ => match valueAt? value ["phase_result", "request", "phase"] with
      | some (.str name) => Phase.ofName? name
      | _ => none

/-- A digest function that sees the phase of a document and nothing else of it. -/
def phaseDigest : HashFunction := fun raw =>
  let phase := (document? ((raw.dropWhile (· ≠ 0)).drop 1)).bind phaseOf?
  LowerHex.ofNat 64 ((phase.map Phase.sequence).getD 0)

/-- A domain tag ends at its only zero octet. -/
def EndsAtZero (tag : Bytes) : Prop := ∃ name, tag = name ++ [0] ∧ ∀ b ∈ name, b ≠ 0

theorem phaseDigest_document {tag : Bytes} {fields : Fields} (htag : EndsAtZero tag)
    (hplain : (Json.obj fields).IsPlain) (hencodes : (Json.obj fields).Encodes) :
    domainSha256 phaseDigest tag fields =
      LowerHex.ofNat 64 (((phaseOf? (.obj fields)).map Phase.sequence).getD 0) := by
  obtain ⟨name, rfl, hname⟩ := htag
  obtain ⟨text, htext, hloads⟩ :=
    Json.loads_of_canonicalLine hooks hplain (canonicalLine?_lineOf hencodes)
  have hdrop : ((name ++ [0] ++ lineOf (.obj fields)).dropWhile (· ≠ 0)).drop 1 =
      lineOf (.obj fields) := by
    rw [List.append_assoc, List.dropWhile_append_of_pos (by simpa using hname)]
    rfl
  have hdocument : document? (lineOf (.obj fields)) = some (.obj fields) := by
    rw [document?, htext, Option.bind_some, hloads]
    rfl
  rw [domainSha256, phaseDigest, hdrop, hdocument, Option.bind_some]

theorem endsAtZero_of {tag : Bytes} (hlast : tag.dropLast ++ [0] = tag)
    (hname : tag.dropLast.all (· != 0) = true) : EndsAtZero tag :=
  ⟨tag.dropLast, hlast.symm, by simpa using hname⟩

theorem endsAtZero_request : EndsAtZero requestDomain := endsAtZero_of rfl rfl
theorem endsAtZero_action : EndsAtZero actionDomain := endsAtZero_of rfl rfl
theorem endsAtZero_finalized : EndsAtZero finalizedDomain := endsAtZero_of rfl rfl

theorem isPlain_requestBody (body : RequestBody) : (Json.obj body.fields).IsPlain := by
  rw [Json.isPlain_obj]
  exact ⟨by simp only [RequestBody.fields, Fields.SortedKeys, Fields.keys, List.map]; decide,
    by simp [RequestBody.fields]⟩

theorem isPlain_actionBody (body : ActionBody) : (Json.obj body.fields).IsPlain := by
  rw [Json.isPlain_obj]
  exact ⟨by simp only [ActionBody.fields, Fields.SortedKeys, Fields.keys, List.map]; decide,
    by simp [ActionBody.fields]⟩

theorem isPlain_finalizedBody {result : Result} (h : result.request.IsPlain) (outputRaw : Bytes)
    (nextRaw : Option Bytes) :
    (Json.obj (FinalizedTransition.body result outputRaw nextRaw)).IsPlain := by
  have hnext : ((nextRaw.map fun raw => Json.str (b64encode raw)).getD .null).IsPlain := by
    cases nextRaw <;> simp
  rw [Json.isPlain_obj]
  exact ⟨by simp only [FinalizedTransition.body, Fields.SortedKeys, Fields.keys, List.map]; decide,
    by simp [FinalizedTransition.body, isPlain_result h, hnext]⟩

/-- What `phaseDigest` makes of every document of a phase. -/
def phaseMark (phase : Phase) : Sha256 := LowerHex.ofNat 64 phase.sequence

theorem phaseMark_injective : Function.Injective phaseMark := by
  intro phase other heq
  have hmod := LowerHex.mod_eq_of_ofNat (by decide) heq
  have hphase := phase.sequence_le
  have hother := other.sequence_le
  exact Phase.sequence_injective (by omega)

theorem phaseMark_nodup : (phaseOrder.map phaseMark).Nodup :=
  List.Nodup.map phaseMark_injective (by decide)

theorem makeStep_marks {request : Request} (work : PhaseWork)
    (hrequest : request.Bound phaseDigest) :
    request.requestSha256 = phaseMark request.phase ∧
      (makeAction phaseDigest request work).actionSha256 = phaseMark request.phase ∧
      (makeFinalized phaseDigest request work).finalizedSha256 = phaseMark request.phase := by
  have hname : Phase.ofName? request.phase.name = some request.phase :=
    Phase.ofName?_eq_some_iff.mpr rfl
  refine ⟨?_, ?_, ?_⟩
  · have hdigest := hrequest.digest
    rw [domainSha256?_eq (encodes_requestBody _), phaseDigest_document endsAtZero_request
      (isPlain_requestBody _) (encodes_requestBody _), Option.some.injEq] at hdigest
    have hphase : phaseOf? (.obj request.toRequestBody.fields) =
        Phase.ofName? request.phase.name := rfl
    rw [← hdigest, hphase, hname]
    rfl
  · have hphase : ∀ body : ActionBody, phaseOf? (.obj body.fields) =
        Phase.ofName? body.phase.name := fun _ => rfl
    rw [makeAction, phaseDigest_document endsAtZero_action (isPlain_actionBody _)
      (encodes_action _), hphase, hname]
    rfl
  · have hphase : ∀ outputRaw nextRaw, phaseOf? (.obj (FinalizedTransition.body
        (makeResult phaseDigest request work) outputRaw nextRaw)) =
          Phase.ofName? request.phase.name := fun _ _ => rfl
    rw [makeFinalized, phaseDigest_document endsAtZero_finalized
      (isPlain_finalizedBody (isPlain_request request) _ _)
      (encodes_finalizedBody (encodes_result (encodes_request request)) _ _), hphase, hname]
    rfl

/-- The phases alone keep the digests of a run apart. -/
theorem makeSteps_fresh {works : Phase → PhaseWork} {first : Request}
    (hfirst : first.Bound phaseDigest) (hphase : first.phase = .snapshot)
    (hworks : ∀ phase, (works phase).Valid phaseDigest phase) :
    FreshRounds (State.initial (requestLine first)) (makeSteps phaseDigest works 7 first) := by
  have hphases : (makeSteps phaseDigest works 7 first).map PhaseStep.phase = phaseOrder := by
    have h := makeSteps_phases (H := phaseDigest) works 7 first (by rw [hphase]; rfl)
    rwa [hphase] at h
  have hmarks : (makeSteps phaseDigest works 7 first).map (fun s => phaseMark s.phase) =
      phaseOrder.map phaseMark := by
    rw [← hphases, List.map_map]
    rfl
  have hbound := makeSteps_bound hworks 7 first hfirst
  have nodup_of : ∀ digest : PhaseStep → Sha256,
      (∀ step ∈ makeSteps phaseDigest works 7 first, digest step = phaseMark step.phase) →
      ((makeSteps phaseDigest works 7 first).map digest ++ []).Nodup := by
    intro digest h
    rw [List.append_nil, List.map_congr_left h, hmarks]
    exact phaseMark_nodup
  refine ⟨nodup_of _ ?_, nodup_of _ ?_, nodup_of _ ?_⟩ <;> intro step hmem <;>
    obtain ⟨request, hrequest, rfl⟩ := hbound step hmem <;>
    obtain ⟨hr, ha, hf⟩ := makeStep_marks (works request.phase) hrequest
  · exact hr
  · exact ha
  · exact hf

/-! ### Sample work for every phase -/

section Sample

variable (sha256 : HashFunction)

def sampleNames : Phase → List String
  | .snapshot => ["base-snapshot", "candidate-snapshot", "policy"]
  | .redSnapshot => ["red-snapshot:A"]
  | .offline => ["gate:A", "tdd-green:A", "tdd-red:A"]
  | .reviewPacket => ["review-packet"]
  | .broker => ["adversary", "reviewer"]
  | .sign => ["adversary", "gate:A", "policy", "reviewer", "task", "tdd-green:A", "tdd-red:A"]
  | .attestedJudge => ["verdict"]

def sampleSnapshot : Sha256 := LowerHex.ofNat 64 1

/-- A review packet that says nothing but its own digest. -/
def samplePacket : Fields :=
  [("packet_sha256", shaJson (sha256 (encodeUtf8 "\x7b\x7d")))]

def sampleContent (name : String) : Bytes :=
  if isSnapshotName name then encodeUtf8 sampleSnapshot.text
  else if name = "review-packet" then lineOf (.obj (samplePacket sha256))
  else [49]

def sampleMeasured (name : String) : Sha256 :=
  if isSnapshotName name then sampleSnapshot
  else if name = "review-packet" then sha256 (encodeUtf8 "\x7b\x7d")
  else sha256 [49]

def sampleWork (phase : Phase) : PhaseWork :=
  { payload := [49], external := [49]
    artifacts := (sampleNames phase).map fun name => ⟨name, sampleContent sha256 name⟩
    semantic := (sampleNames phase).map fun name => ⟨name, sampleMeasured sha256 name⟩ }

/-- A bound first request, with the given input artifacts. -/
def sampleFirst (inputs : Sha256) : Request :=
  let body : RequestBody :=
    { workflowId := LowerHex.ofNat 64 2, phase := .snapshot, previousPhaseSha256 := none,
      taskSha256 := LowerHex.ofNat 64 3, runtimeManifestSha256 := LowerHex.ofNat 64 4,
      coordinatorKeyId := LowerHex.ofNat 64 5, coordinatorPublicKeySha256 := LowerHex.ofNat 64 6,
      candidateSha256 := LowerHex.ofNat 64 7, candidateSnapshotSha256 := none,
      reviewPacketSha256 := none, inputArtifactsSha256 := inputs }
  { toRequestBody := body, requestSha256 := domainSha256 sha256 requestDomain body.fields }

end Sample

theorem sampleFirst_bound (inputs : Sha256) : (sampleFirst H inputs).Bound H where
  prior := iff_of_true rfl rfl
  snapshot := iff_of_true rfl rfl
  packet := iff_of_false (not_not.mpr rfl)
    (show ¬ Phase.broker.sequence ≤ Phase.snapshot.sequence by decide)
  digest := domainSha256?_eq (encodes_requestBody _)

theorem isPlain_samplePacket : (Json.obj (samplePacket H)).IsPlain := by
  rw [Json.isPlain_obj]
  exact ⟨by simp only [samplePacket, Fields.SortedKeys, Fields.keys, List.map]; decide,
    by simp [samplePacket]⟩

theorem encodes_samplePacket : (Json.obj (samplePacket H)).Encodes := by
  simp [samplePacket]

theorem samplePacket_length : (lineOf (.obj (samplePacket H))).length ≤ 2000 := by
  have h := lineOf_length_le (isPlain_samplePacket (H := H)) encodes_samplePacket
  rw [Json.textSize, samplePacket] at h
  simp only [Json.fieldsSize, textSize_shaJson] at h
  simp [Json.stringSize] at h
  rw [samplePacket]
  omega

theorem sampleMeasures {name : String} (h : matchesArtifactName name = true) :
    Measures H ⟨name, sampleContent H name⟩ ⟨name, sampleMeasured H name⟩ := by
  have hascii : decodeAscii (encodeUtf8 sampleSnapshot.text) = some sampleSnapshot.text := by
    decide
  have hlength : (encodeUtf8 sampleSnapshot.text).length = 64 := by
    decide
  unfold sampleContent sampleMeasured
  split_ifs with hsnapshot hpacket
  · refine ⟨rfl, h, ?_, ?_, ?_⟩
    · exact List.ne_nil_of_length_eq_add_one hlength
    · exact hlength.le.trans (by decide)
    · simp only [artifactSemantic, hsnapshot, if_true, hascii, required_some, ok_bind]
      exact sha_eq_ok_iff.mpr rfl
  · refine ⟨rfl, h, ?_, ?_, ?_⟩
    · exact Json.canonicalLine_ne_nil (canonicalLine?_lineOf encodes_samplePacket)
    · exact samplePacket_length.trans (by decide)
    · have hread : strictJson (some (lineOf (.obj (samplePacket H)))) "review packet" 6000000 =
          .ok (samplePacket H) := strictJson_of_plain isPlain_samplePacket
        (canonicalLine?_lineOf encodes_samplePacket) (samplePacket_length.trans (by decide))
      have hdigest : sha ((samplePacket H).get "packet_sha256") "review packet SHA-256" =
          .ok (H (encodeUtf8 "\x7b\x7d")) := sha_eq_ok_iff.mpr rfl
      have hbody : Json.dumps (.obj ((samplePacket H).without "packet_sha256")) =
          some "\x7b\x7d" := rfl
      have hplain : isSnapshotName "review-packet" = false := by decide
      simp only [artifactSemantic, hpacket, hplain, if_true, hread, ok_bind, hdigest, hbody,
        required_some, Bool.false_eq_true, if_false]
      rw [ensure_of _ trivial]
      rfl
  · refine ⟨rfl, h, by simp, by simp, ?_⟩
    simp only [artifactSemantic, hsnapshot, hpacket, if_false]
    rfl

theorem sampleWork_valid (phase : Phase) : (sampleWork H phase).Valid H phase where
  payload := ⟨by simp [sampleWork], by simp [sampleWork]⟩
  external := ⟨by simp [sampleWork], by simp [sampleWork, maxExternalBytes]⟩
  kept := fun _ => rfl
  nonempty := by cases phase <;> simp [sampleWork, sampleNames]
  bounded := by cases phase <;> simp [sampleWork, sampleNames]
  measured := by
    rw [sampleWork, List.forall₂_map_left_iff, List.forall₂_map_right_iff, List.forall₂_same]
    have hmatched : ∀ name ∈ sampleNames phase, matchesArtifactName name = true := by
      cases phase <;> decide
    exact fun name hmem => sampleMeasures (hmatched name hmem)
  sorted := by
    have hnames : (sampleWork H phase).semantic.map Artifact.name = sampleNames phase := by
      simp [sampleWork, Function.comp_def]
    rw [hnames]
    cases phase <;> decide
  nodup := by
    have hnames : (sampleWork H phase).semantic.map Artifact.name = sampleNames phase := by
      simp [sampleWork, Function.comp_def]
    rw [hnames]
    cases phase <;> decide
  complete := by
    have hnames : (sampleWork H phase).semantic.map Artifact.name = sampleNames phase := by
      simp [sampleWork, Function.comp_def]
    rw [hnames]
    cases phase <;> decide

theorem sampleContent_length (name : String) :
    (sampleContent H name).length ≤ if name = "review-packet" then 2000 else 64 := by
  have hlength : (encodeUtf8 sampleSnapshot.text).length = 64 := by
    decide
  unfold sampleContent
  split_ifs with hsnapshot hpacket hpacket
  · omega
  · omega
  · exact samplePacket_length
  · simp

theorem itemsSize_map_le {α : Type} (xs : List α) (f : α → Json) (bound : ℕ)
    (h : ∀ x ∈ xs, (f x).textSize ≤ bound) :
    Json.itemsSize (xs.map f) ≤ xs.length * (bound + 1) := by
  induction xs with
  | nil => simp [Json.itemsSize]
  | cons x xs ih =>
      obtain ⟨hx, hxs⟩ := List.forall_mem_cons.mp h
      have hrest := ih hxs
      rw [List.map_cons, Json.itemsSize, List.length_cons, Nat.succ_mul]
      omega

theorem sampleNames_bounds (phase : Phase) :
    (∀ name ∈ sampleNames phase, name.toList.length ≤ 18) ∧ (sampleNames phase).length ≤ 7 := by
  cases phase <;> decide

theorem itemsSize_sampleArtifacts (phase : Phase) :
    Json.itemsSize ((sampleWork H phase).artifacts.map fun a => .obj a.fields) ≤ 20000 := by
  have hartifact : ∀ artifact : OutputArtifact, (Json.obj artifact.fields).textSize =
      6 * ((artifact.content.length + 2) / 3 * 4) + 6 * artifact.name.toList.length + 122 := by
    intro artifact
    rw [Json.textSize, OutputArtifact.fields]
    simp only [Json.fieldsSize, Json.textSize, stringSize_b64encode]
    simp [Json.stringSize]
    omega
  obtain ⟨hnames, hcount⟩ := sampleNames_bounds phase
  rw [sampleWork, List.map_map]
  by_cases hphase : phase = .reviewPacket
  · have hcontent := sampleContent_length (H := H) "review-packet"
    rw [if_pos rfl] at hcontent
    simp only [hphase, sampleNames, List.map_cons, List.map_nil, Json.itemsSize,
      Function.comp_apply, hartifact]
    simp
    omega
  · have hplain : ∀ name ∈ sampleNames phase, name ≠ "review-packet" := by
      cases hp : phase <;> first | decide | exact absurd hp hphase
    have hsize := itemsSize_map_le (sampleNames phase)
      (fun name => .obj (OutputArtifact.fields ⟨name, sampleContent H name⟩)) 758 (by
        intro name hmem
        have hcontent := sampleContent_length (H := H) name
        have hlength := hnames name hmem
        rw [if_neg (hplain name hmem)] at hcontent
        rw [hartifact]
        dsimp only
        omega)
    exact hsize.trans (by omega)

theorem itemsSize_sampleSemantic (phase : Phase) :
    Json.itemsSize ((sampleWork H phase).semantic.map fun a => .obj a.fields) ≤ 8000 := by
  have hsemantic : ∀ artifact : Artifact, (Json.obj artifact.fields).textSize =
      6 * artifact.name.toList.length + 458 := by
    intro artifact
    rw [Json.textSize, Artifact.fields]
    simp only [Json.fieldsSize, Json.textSize, textSize_shaJson]
    simp [Json.stringSize]
    omega
  obtain ⟨hnames, hcount⟩ := sampleNames_bounds phase
  rw [sampleWork, List.map_map]
  have hsize := itemsSize_map_le (sampleNames phase)
    (fun name => .obj (Artifact.fields ⟨name, sampleMeasured H name⟩)) 566 (by
      intro name hmem
      have hlength := hnames name hmem
      rw [hsemantic]
      dsimp only
      omega)
  exact hsize.trans (by omega)

theorem sampleWork_fits (request : Request) :
    (makeStep H request (sampleWork H request.phase)).Fits :=
  makeStep_fits request (by simp [sampleWork]) (itemsSize_sampleArtifacts request.phase)
    (itemsSize_sampleSemantic request.phase)

/-- A first request that names other inputs than the empty artifact set. -/
def forgedFirst : Request := sampleFirst phaseDigest (LowerHex.ofNat 64 8)

/-- The driver accepts a first request that the typed protocol refuses. -/
theorem refinement_fails :
    ¬ Returned (fun result => Refines phaseDigest result.1 result.2)
      (runFixedWorkflow phaseDigest
        (replay (makeSteps phaseDigest (sampleWork phaseDigest) 7 forgedFirst))
        (requestLine forgedFirst)) := by
  have hbound : forgedFirst.Bound phaseDigest := sampleFirst_bound _
  refine forged_inputs_run hbound rfl sampleWork_valid ?_
    (makeSteps_fresh hbound rfl sampleWork_valid) ?_
  · intro step hmem
    obtain ⟨request, -, rfl⟩ := makeSteps_bound sampleWork_valid 7 _ hbound step hmem
    exact sampleWork_fits request
  · decide

end AmazonSimilarSearch.OuterWorkflow
