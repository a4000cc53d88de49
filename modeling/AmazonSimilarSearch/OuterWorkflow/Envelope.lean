import AmazonSimilarSearch.Foundation.JsonLength
import AmazonSimilarSearch.Foundation.SmallFloats
import AmazonSimilarSearch.OuterWorkflow.Divergence

/-!
# Envelopes and their byte limits

A coordinator hands its documents over in two envelopes. Each carries octet
strings in base64, and its reader puts a limit on the whole line before it looks
inside. Whatever the parts of a prepared transition are, its envelope keeps the
limit. The limit of the finalized envelope is smaller than the base64 text of
the largest coordinator output, so a large output that every check accepts can
not be handed over.
-/
namespace AmazonSimilarSearch.OuterWorkflow
open Foundation PhaseProtocol

/-- `encode_prepared_transition` -/
def encodePreparedTransition (sha256 : HashFunction) (action : Json) (payload : Bytes) :
    Except Raised Bytes := do
  let body : Fields := [("action", action), ("payload_base64", .str (b64encode payload)),
    ("schema_version", .str "1.0")]
  let preparedSha256 ← domain sha256 preparedDomain (.obj body)
  canonical (.obj (body.insert "prepared_sha256" (shaJson preparedSha256)))

/-- `encode_finalized_transition` -/
def encodeFinalizedTransition (sha256 : HashFunction) (result : Json) (coordinatorOutput : Bytes)
    (nextRequest : Option Bytes) : Except Raised Bytes := do
  let body : Fields := [
    ("coordinator_output_base64", .str (b64encode coordinatorOutput)),
    ("next_request_base64", match nextRequest with
      | none => .null
      | some raw => .str (b64encode raw)),
    ("phase_result", result),
    ("schema_version", .str "1.0")]
  let finalizedSha256 ← domain sha256 finalizedDomain (.obj body)
  canonical (.obj (body.insert "finalized_sha256" (shaJson finalizedSha256)))

/-! ## Parts that keep their own limits -/

/-- An action that `_validate_action` accepts, as a dict, with its payload. -/
structure PreparedParts (sha256 : HashFunction) (request : Request) where
  value : Json
  payload : Bytes
  action : Action
  ordered : value.IsOrdered
  accepted : validateAction sha256 value request payload = .ok action
  nonempty : payload ≠ []
  bounded : payload.length ≤ 2000000

/-- A coordinator output that `_validate_coordinator_output` accepts, a phase result, as a dict,
that matches it, and a next request that continues the chain. A float in the dict is held as a
double. -/
structure FinalizedParts (sha256 : HashFunction) (request : Request)
    (externalRaw : Option Bytes) where
  output : Bytes
  measured : Output × List Artifact
  value : Json
  result : Result
  next : Option Bytes
  accepted : validateCoordinatorOutput sha256 output request = .ok measured
  ordered : value.IsOrdered
  matching : validatePhaseResult sha256 value request measured.1 measured.2 output externalRaw =
    .ok result
  doubles : ∀ fields f, result.request = .obj fields → ("sequence", Json.float f) ∈ fields →
    f.IsDouble
  chained : validateNextRequest sha256 request measured.1 result next = .ok ()

variable {H : HashFunction} {request : Request} {externalRaw : Option Bytes}

/-- What was encoded is parsed, and its parts are found again. -/
def PreparedParts.RoundTrips (parts : PreparedParts H request) : Prop :=
  ∃ raw prepared, encodePreparedTransition H parts.value parts.payload = .ok raw ∧
    parsePreparedTransition H (some raw) request = .ok prepared ∧
    prepared.action = parts.action ∧ prepared.payload = parts.payload

def FinalizedParts.RoundTrips (parts : FinalizedParts H request externalRaw) : Prop :=
  ∃ raw finalized, encodeFinalizedTransition H parts.value parts.output parts.next = .ok raw ∧
    parseFinalizedTransition H (some raw) request externalRaw = .ok finalized ∧
    finalized.result = parts.result ∧ finalized.coordinatorOutput = parts.output ∧
    finalized.nextRequest = parts.next

/-- The characters of an octet string in base64. -/
def base64Length (raw : Bytes) : ℕ := (raw.length + 2) / 3 * 4

def nextRequestLength : Option Bytes → ℕ
  | none => 4
  | some raw => base64Length raw + 2

/-- The output and the next request in base64, the canonical line of the result and the 180 bytes
around them are within the limit of the envelope. -/
def FinalizedParts.Fits (parts : FinalizedParts H request externalRaw) : Prop :=
  base64Length parts.output + nextRequestLength parts.next + (lineOf parts.value).length + 180 ≤
    maxFinalizedBytes

/-! ## The prepared envelope -/

theorem isVerbatim_of_isLowerHexChar {c : Char} (h : isLowerHexChar c = true) :
    Json.isVerbatim c = true := by
  simp only [isLowerHexChar, Bool.or_eq_true, Bool.and_eq_true, decide_eq_true_eq] at h
  rw [Json.isVerbatim_iff]
  have hne : ∀ d : Char, isLowerHexChar d = false → c ≠ d := by
    rintro d hd rfl
    simp only [isLowerHexChar, Bool.or_eq_false_iff, Bool.and_eq_false_imp, decide_eq_true_eq,
      decide_eq_false_iff_not] at hd
    rcases h with h | h
    · exact hd.1 h.1 h.2
    · exact hd.2 h.1 h.2
  have hrange : 48 ≤ c.toNat ∧ c.toNat ≤ 102 := by
    rcases h with ⟨hlow, hhigh⟩ | ⟨hlow, hhigh⟩
    · exact ⟨hlow, le_trans (show c.toNat ≤ 57 from hhigh) (by decide)⟩
    · exact ⟨le_trans (by decide) (show 97 ≤ c.toNat from hlow), hhigh⟩
  exact ⟨⟨⟨by omega, by omega⟩, hne _ rfl⟩, hne _ rfl⟩

theorem textLength_shaJson (digest : Sha256) : (shaJson digest).textLength = 66 := by
  have hverbatim : digest.text.toList.all Json.isVerbatim = true := by
    refine List.all_eq_true.mpr ?_
    intro c hc
    exact isVerbatim_of_isLowerHexChar (LowerHex.isLowerHexChar_of_mem digest hc)
  rw [shaJson, Json.textLength_str, Json.stringLength_of_isVerbatim hverbatim, length_text]

theorem prepared_length (prepared : PreparedTransition) :
    (lineOf (.obj prepared.fields)).length =
      base64Length prepared.payload + (lineOf (.obj prepared.action.fields)).length + 139 := by
  have haction : (Json.obj prepared.action.fields).Encodes := encodes_actionFields prepared.action
  have hencodes : (Json.obj prepared.fields).Encodes := by
    simp [PreparedTransition.fields, haction]
  have hkey : Json.stringLength "action" = 8 ∧ Json.stringLength "payload_base64" = 16 ∧
      Json.stringLength "prepared_sha256" = 17 ∧ Json.stringLength "schema_version" = 16 ∧
      Json.stringLength "1.0" = 5 := by
    decide
  rw [Json.lineOf_length hencodes, Json.lineOf_length haction, Json.textLength_obj hencodes,
    PreparedTransition.fields]
  simp only [List.map_cons, List.map_nil, Json.fieldLength, List.sum_cons, List.sum_nil,
    List.length_cons, List.length_nil, Json.textLength_str, stringLength_b64encode,
    textLength_shaJson, hkey, base64Length]
  omega

/-- No payload within its limit makes the prepared envelope too long. -/
theorem prepared_fits (prepared : PreparedTransition) (h : prepared.payload.length ≤ 2000000) :
    (lineOf (.obj prepared.fields)).length ≤ maxPreparedBytes := by
  have haction := lineOf_length_le (isPlain_action prepared.action)
    (encodes_actionFields prepared.action)
  have hsize := textSize_action prepared.action
  rw [prepared_length, base64Length, maxPreparedBytes]
  omega

theorem PreparedParts.roundTrips (parts : PreparedParts H request) : parts.RoundTrips := by
  obtain ⟨hvalue, hbound⟩ := validateAction_ok parts.ordered parts.accepted
  let prepared : PreparedTransition := ⟨parts.action, parts.payload,
    domainSha256 H preparedDomain (PreparedTransition.body parts.action parts.payload)⟩
  have hbody : domainSha256? H preparedDomain
      (.obj (PreparedTransition.body parts.action parts.payload)) =
        some prepared.preparedSha256 := by
    apply domainSha256?_eq
    simp [PreparedTransition.body, Action.fields]
  have hline : Json.canonicalLine? (.obj prepared.fields) = some (lineOf (.obj prepared.fields)) := by
    apply canonicalLine?_lineOf
    simp [PreparedTransition.fields, Action.fields]
  refine ⟨lineOf (.obj prepared.fields), prepared, ?_, ?_, rfl, rfl⟩
  · simp only [encodePreparedTransition, hvalue, bind_eq_ok_iff, domain_eq_ok_iff,
      canonical_eq_ok_iff]
    exact ⟨prepared.preparedSha256, hbody, hline⟩
  · exact parsePreparedTransition_of_bound hbound parts.nonempty parts.bounded hbody hline
      (prepared_fits prepared parts.bounded)

/-! ## The finalized envelope -/

/-- A sequence that Python finds equal to a phase's is read back. -/
theorem readable_sequence {sequence : Json} {phase : Phase}
    (hdouble : ∀ f, sequence = .float f → f.IsDouble)
    (h : sequence.pyEq (sequenceJson phase) = true) :
    sequence.IsReadable ∧ sequence.Encodes := by
  have hpos := phase.sequence_pos
  have hle := phase.sequence_le
  cases sequence with
  | int i =>
      rw [pyEq_int rfl h]
      exact ⟨by simp [sequenceJson, Json.IsReadable], encodes_sequenceJson phase⟩
  | bool b => simp [Json.IsReadable]
  | float f =>
      have hvalue : f.eqInt phase.sequence = true := h
      have hsmall : phase.sequence < 2 ^ 52 := by omega
      rw [PyFloat.eq_ofSmall (hdouble f rfl) hpos hsmall hvalue]
      have hreads := Json.floatReads_ofSmall hpos (by omega)
      refine ⟨Json.isReadable_float.mpr hreads, ?_⟩
      obtain ⟨c, cs, hrepr, -⟩ := hreads
      simp [Json.Encodes, Json.dumpValue, hrepr]
  | _ => cases h

theorem isPlain_shaJson (digest : Sha256) : (shaJson digest).IsPlain := by simp [shaJson]

theorem isReadable_optionalShaJson (digest : Option Sha256) :
    (optionalShaJson digest).IsReadable := by
  cases digest <;> simp [optionalShaJson, shaJson, Json.IsReadable]

theorem isReadable_shaJson (digest : Sha256) : (shaJson digest).IsReadable :=
  (isPlain_shaJson digest).isReadable

/-- The request in a matching result is read back. -/
theorem FinalizedParts.readable_request (parts : FinalizedParts H request externalRaw) :
    parts.result.request.IsReadable ∧ parts.result.request.Encodes := by
  obtain ⟨-, -, hbound⟩ := validatePhaseResult_ok parts.ordered parts.matching
  obtain ⟨sequence, hrequest, hsequence⟩ := pyEq_request hbound.request
  have hdouble : ∀ f, sequence = .float f → f.IsDouble := by
    rintro f rfl
    exact parts.doubles _ f hrequest (by simp [fieldsWith])
  obtain ⟨hreadable, hencodes⟩ := readable_sequence hdouble hsequence
  rw [hrequest]
  constructor
  · rw [Json.isReadable_obj]
    refine ⟨by simp only [fieldsWith, Fields.keys, List.map]; decide, ?_⟩
    simp [fieldsWith, Json.ReadableFields, Json.IsReadable, isReadable_optionalShaJson, isReadable_shaJson, hreadable]
  · simp [fieldsWith, hencodes]

def FinalizedParts.finalized (parts : FinalizedParts H request externalRaw) :
    FinalizedTransition where
  result := parts.result
  coordinatorOutput := parts.output
  nextRequest := parts.next
  finalizedSha256 := domainSha256 H finalizedDomain
    (FinalizedTransition.body parts.result parts.output parts.next)

theorem isReadable_result {result : Result} (h : result.request.IsReadable) :
    (Json.obj result.fields).IsReadable := by
  rw [Json.isReadable_obj]
  refine ⟨by simp only [Result.fields, Fields.keys, List.map]; decide, ?_⟩
  simp [Result.fields, Json.ReadableFields, Json.IsReadable, isReadable_optionalShaJson,
    isReadable_shaJson, (isPlain_artifactsJson result.artifacts).isReadable, h]

theorem isReadable_finalized {finalized : FinalizedTransition}
    (h : finalized.result.request.IsReadable) : (Json.obj finalized.fields).IsReadable := by
  have hnext : ((finalized.nextRequest.map fun raw => Json.str (b64encode raw)).getD
      .null).IsReadable := by
    cases finalized.nextRequest <;> simp [Json.IsReadable]
  rw [Json.isReadable_obj]
  refine ⟨by simp only [FinalizedTransition.fields, Fields.keys, List.map]; decide, ?_⟩
  simp only [FinalizedTransition.fields, Json.readableFields_cons]
  exact ⟨(Json.isPlain_str _).isReadable, isReadable_shaJson _, hnext, isReadable_result h,
    (Json.isPlain_str _).isReadable, by simp [Json.ReadableFields]⟩

theorem isOrdered_finalized {finalized : FinalizedTransition}
    (h : (Json.obj finalized.result.fields).IsOrdered) :
    (Json.obj finalized.fields).IsOrdered := by
  have hnext : ((finalized.nextRequest.map fun raw => Json.str (b64encode raw)).getD
      .null).IsOrdered := by
    cases finalized.nextRequest <;> simp
  rw [Json.isOrdered_obj]
  refine ⟨by simp only [FinalizedTransition.fields, Fields.SortedKeys, Fields.keys, List.map]; decide, ?_⟩
  simp only [FinalizedTransition.fields, List.forall_mem_cons]
  exact ⟨Json.isOrdered_str _, Json.isOrdered_str _, hnext, h, Json.isOrdered_str _,
    List.forall_mem_nil _⟩

theorem textLength_nextRequest (next : Option Bytes) :
    ((next.map fun raw => Json.str (b64encode raw)).getD .null).textLength =
      nextRequestLength next := by
  cases next with
  | none => exact Json.textLength_null
  | some raw =>
      rw [Option.map_some, Option.getD_some, Json.textLength_str, stringLength_b64encode,
        nextRequestLength, base64Length]

theorem finalized_length {finalized : FinalizedTransition}
    (h : (Json.obj finalized.result.fields).Encodes) :
    (lineOf (.obj finalized.fields)).length = base64Length finalized.coordinatorOutput +
      nextRequestLength finalized.nextRequest + (lineOf (.obj finalized.result.fields)).length +
        180 := by
  have hencodes := encodes_finalized finalized h
  have hkey : Json.stringLength "coordinator_output_base64" = 27 ∧
      Json.stringLength "finalized_sha256" = 18 ∧ Json.stringLength "next_request_base64" = 21 ∧
      Json.stringLength "phase_result" = 14 ∧ Json.stringLength "schema_version" = 16 ∧
      Json.stringLength "1.0" = 5 := by
    decide
  rw [Json.lineOf_length hencodes, Json.lineOf_length h, Json.textLength_obj hencodes,
    FinalizedTransition.fields]
  simp only [List.map_cons, List.map_nil, Json.fieldLength, List.sum_cons, List.sum_nil,
    List.length_cons, List.length_nil, Json.textLength_str, stringLength_b64encode,
    textLength_shaJson, textLength_nextRequest, hkey, base64Length]
  omega

theorem coordinatorOutput_length_le {raw : Bytes} {measured : Output × List Artifact}
    (h : validateCoordinatorOutput H raw request = .ok measured) : raw.length ≤ 8000000 := by
  simp only [validateCoordinatorOutput, bind_eq_ok_iff] at h
  obtain ⟨document, hdocument, -⟩ := h
  obtain ⟨bytes, hbytes, hlength, -⟩ := strictJson_ok hdocument
  cases hbytes
  exact hlength

namespace FinalizedParts

variable (parts : FinalizedParts H request externalRaw)

/-- The one envelope that encoding gives. -/
theorem encode_eq :
    encodeFinalizedTransition H parts.value parts.output parts.next =
      .ok (lineOf (.obj parts.finalized.fields)) := by
  obtain ⟨hvalue, -, -⟩ := validatePhaseResult_ok parts.ordered parts.matching
  have hresult := encodes_result parts.readable_request.2
  have hbody : domainSha256? H finalizedDomain
      (.obj (FinalizedTransition.body parts.result parts.output parts.next)) =
        some parts.finalized.finalizedSha256 :=
    domainSha256?_eq (encodes_finalizedBody hresult parts.output parts.next)
  have hline := canonicalLine?_lineOf (encodes_finalized parts.finalized hresult)
  have hnext : (match parts.next with
      | none => .null
      | some raw => Json.str (b64encode raw)) =
        (parts.next.map fun raw => Json.str (b64encode raw)).getD .null := by
    cases parts.next <;> rfl
  simp only [encodeFinalizedTransition, hvalue, hnext, bind_eq_ok_iff, domain_eq_ok_iff,
    canonical_eq_ok_iff]
  exact ⟨parts.finalized.finalizedSha256, hbody, hline⟩

theorem fits_iff :
    parts.Fits ↔ (lineOf (.obj parts.finalized.fields)).length ≤ maxFinalizedBytes := by
  obtain ⟨hvalue, -, -⟩ := validatePhaseResult_ok parts.ordered parts.matching
  rw [Fits, hvalue, finalized_length (encodes_result parts.readable_request.2)]
  rfl

theorem next_bounds : ∀ raw ∈ parts.next, raw ≠ [] ∧ raw.length ≤ 128000 := by
  intro raw hraw
  rcases validateNextRequest_ok parts.chained with ⟨-, hnone⟩ | ⟨raw', next, hsome, hnext, -⟩
  · rw [hnone] at hraw
    cases hraw
  · rw [hsome] at hraw
    cases hraw
    obtain ⟨hline, -, hlength⟩ := validatePhaseRequestBytes_ok hnext
    exact ⟨Json.canonicalLine_ne_nil hline, hlength⟩

/-- An envelope within the limit is parsed to its parts. -/
theorem parse_eq (h : parts.Fits) :
    parseFinalizedTransition H (some (lineOf (.obj parts.finalized.fields))) request externalRaw =
      .ok parts.finalized := by
  obtain ⟨hvalue, hrequest, hresult⟩ := validatePhaseResult_ok parts.ordered parts.matching
  obtain ⟨houtput, hmeasured⟩ := validateCoordinatorOutput_ok parts.accepted
  obtain ⟨hreadable, hencodes⟩ := parts.readable_request
  have hlength := coordinatorOutput_length_le parts.accepted
  have hordered : (Json.obj parts.result.fields).IsOrdered := hvalue ▸ parts.ordered
  exact parseFinalizedTransition_of_bound
    ⟨houtput, hmeasured, hresult, hrequest, validateNextRequest_ok parts.chained⟩
    (isReadable_finalized hreadable) (isOrdered_finalized hordered).sortKeys_eq hlength
    parts.next_bounds (domainSha256?_eq (encodes_finalizedBody (encodes_result hencodes) _ _))
    (canonicalLine?_lineOf (encodes_finalized parts.finalized (encodes_result hencodes)))
    (parts.fits_iff.mp h)

theorem roundTrips_iff : parts.RoundTrips ↔ parts.Fits := by
  constructor
  · rintro ⟨raw, finalized, hencode, hparse, -⟩
    rw [parts.encode_eq] at hencode
    cases hencode
    simp only [parseFinalizedTransition, bind_eq_ok_iff] at hparse
    obtain ⟨document, hdocument, -⟩ := hparse
    obtain ⟨bytes, hbytes, hlength, -⟩ := strictJson_ok hdocument
    cases hbytes
    exact parts.fits_iff.mpr hlength
  · intro hfits
    exact ⟨_, parts.finalized, parts.encode_eq, parts.parse_eq hfits, rfl, rfl, rfl⟩

/-- An output of 7.5 MB keeps its own limit, and its envelope does not. -/
theorem not_fits_of_length (h : 7500000 ≤ parts.output.length) : ¬ parts.Fits := by
  rw [Fits, base64Length, maxFinalizedBytes]
  omega

end FinalizedParts

/-- Every prepared transition comes through its envelope; a finalized transition does exactly when
its envelope is within the limit. -/
theorem envelopes_roundTrip_iff (sha256 : HashFunction) (request : Request)
    (externalRaw : Option Bytes) (prepared : PreparedParts sha256 request)
    (finalized : FinalizedParts sha256 request externalRaw) :
    prepared.RoundTrips ∧ (finalized.RoundTrips ↔ finalized.Fits) :=
  ⟨prepared.roundTrips, finalized.roundTrips_iff⟩

/-! ## A policy artifact that is too long -/

section Large

variable (sha256 : HashFunction)

/-- A policy artifact of 5,700,000 bytes. -/
def largePolicy : Bytes := List.replicate 5700000 49

def largeWork : PhaseWork where
  payload := [49]
  external := [49]
  artifacts := [⟨"base-snapshot", sampleContent sha256 "base-snapshot"⟩,
    ⟨"candidate-snapshot", sampleContent sha256 "candidate-snapshot"⟩, ⟨"policy", largePolicy⟩]
  semantic := [⟨"base-snapshot", sampleMeasured sha256 "base-snapshot"⟩,
    ⟨"candidate-snapshot", sampleMeasured sha256 "candidate-snapshot"⟩,
    ⟨"policy", sha256 largePolicy⟩]

/-- The first request of a workflow. -/
def largeRequest : Request := sampleFirst sha256 (sha256 (lineOf (artifactsJson [])))

end Large

theorem largePolicy_length : largePolicy.length = 5700000 := by
  rw [largePolicy, List.length_replicate]

theorem measures_largePolicy : Measures H ⟨"policy", largePolicy⟩ ⟨"policy", H largePolicy⟩ where
  name := rfl
  matched := by decide
  nonempty := by
    apply List.ne_nil_of_length_pos
    rw [largePolicy_length]
    decide
  bounded := by
    rw [largePolicy_length]
    decide
  digest := by
    have hname : isSnapshotName "policy" = false := by decide
    simp only [artifactSemantic, hname, Bool.false_eq_true, if_false]
    rfl

theorem largeNames : (largeWork H).semantic.map Artifact.name = sampleNames .snapshot := rfl

theorem largeWork_valid : (largeWork H).Valid H .snapshot where
  payload := ⟨List.cons_ne_nil _ _, by simp [largeWork]⟩
  external := ⟨List.cons_ne_nil _ _, by simp [largeWork, maxExternalBytes]⟩
  kept := fun _ => rfl
  nonempty := by simp [largeWork]
  bounded := by simp [largeWork]
  measured := .cons (sampleMeasures (by decide)) (.cons (sampleMeasures (by decide))
    (.cons measures_largePolicy .nil))
  sorted := by
    rw [largeNames]
    decide
  nodup := by
    rw [largeNames]
    decide
  complete := by
    rw [largeNames]
    decide

theorem textLength_artifact (artifact : OutputArtifact)
    (h : artifact.name.toList.all Json.isVerbatim = true) :
    (Json.obj artifact.fields).textLength =
      base64Length artifact.content + artifact.name.toList.length + 31 := by
  have hencodes : (Json.obj artifact.fields).Encodes := by simp [OutputArtifact.fields]
  have hkey : Json.stringLength "content_base64" = 16 ∧ Json.stringLength "name" = 6 := by
    decide
  rw [Json.textLength_obj hencodes, OutputArtifact.fields]
  simp only [List.map_cons, List.map_nil, Json.fieldLength, List.sum_cons, List.sum_nil,
    List.length_cons, List.length_nil, Json.textLength_str, stringLength_b64encode,
    Json.stringLength_of_isVerbatim h, hkey, base64Length]
  omega

theorem textLength_optionalShaJson_le (digest : Option Sha256) :
    (optionalShaJson digest).textLength ≤ 66 := by
  cases digest with
  | none => rw [optionalShaJson, Json.textLength_null]; decide
  | some digest => exact (textLength_shaJson digest).le

theorem output_length (output : Output) :
    (lineOf (.obj output.fields)).length =
      (Json.arr (output.artifacts.map fun a => .obj a.fields)).textLength +
        (optionalShaJson output.candidateSnapshotSha256).textLength +
        (optionalShaJson output.reviewPacketSha256).textLength +
        Json.stringLength output.phase.name + (sequenceJson output.phase).textLength + 453 := by
  have hkey : Json.stringLength "artifacts" = 11 ∧
      Json.stringLength "candidate_snapshot_sha256" = 27 ∧
      Json.stringLength "output_artifacts_sha256" = 25 ∧ Json.stringLength "output_sha256" = 15 ∧
      Json.stringLength "phase" = 7 ∧ Json.stringLength "request_sha256" = 16 ∧
      Json.stringLength "review_packet_sha256" = 22 ∧ Json.stringLength "schema_version" = 16 ∧
      Json.stringLength "sequence" = 10 ∧ Json.stringLength "workflow_id" = 13 ∧
      Json.stringLength "1.0" = 5 := by
    decide
  rw [Json.lineOf_length (encodes_output output), Json.textLength_obj (encodes_output output),
    Output.fields]
  simp only [List.map_cons, List.map_nil, Json.fieldLength, List.sum_cons, List.sum_nil,
    List.length_cons, List.length_nil, Json.textLength_str, textLength_shaJson, hkey]
  omega

theorem largeArtifacts_length :
    (Json.arr ((largeWork H).artifacts.map fun a => .obj a.fields)).textLength =
      base64Length (sampleContent H "base-snapshot") +
        base64Length (sampleContent H "candidate-snapshot") + 7600134 := by
  have hpolicy : base64Length largePolicy = 7600000 := by rw [base64Length, largePolicy_length]
  have hbase := textLength_artifact ⟨"base-snapshot", sampleContent H "base-snapshot"⟩
    (show "base-snapshot".toList.all Json.isVerbatim = true by decide)
  have hcandidate := textLength_artifact
    ⟨"candidate-snapshot", sampleContent H "candidate-snapshot"⟩
    (show "candidate-snapshot".toList.all Json.isVerbatim = true by decide)
  have hlarge := textLength_artifact ⟨"policy", largePolicy⟩ (by decide)
  have hnames : "base-snapshot".toList.length = 13 ∧ "candidate-snapshot".toList.length = 18 ∧
      "policy".toList.length = 6 := by decide
  rw [Json.textLength_arr (encodes_outputArtifacts (largeWork H).artifacts), largeWork]
  simp only [List.map_cons, List.map_nil, List.sum_cons, List.sum_nil, List.length_cons,
    List.length_nil, hbase, hcandidate, hlarge, hnames, hpolicy]
  omega

/-- The output is as long as its policy artifact in base64, give or take 2000 bytes. -/
theorem largeOutput_length :
    7600000 ≤ (outputRaw H (largeRequest H) (largeWork H)).length ∧
      (outputRaw H (largeRequest H) (largeWork H)).length ≤ 7602000 := by
  have hsample : ∀ name, name ≠ "review-packet" → base64Length (sampleContent H name) ≤ 88 := by
    intro name hname
    have hcontent := sampleContent_length (H := H) name
    rw [if_neg hname] at hcontent
    rw [base64Length]
    omega
  have hbase := hsample "base-snapshot" (by decide)
  have hcandidate := hsample "candidate-snapshot" (by decide)
  have hsnapshot := textLength_optionalShaJson_le (candidateDigest (largeRequest H) (largeWork H))
  have hpacket := textLength_optionalShaJson_le (packetDigest (largeRequest H) (largeWork H))
  have hphase : Json.stringLength Phase.snapshot.name + (sequenceJson .snapshot).textLength = 11 := by
    decide
  have hlength : (outputRaw H (largeRequest H) (largeWork H)).length =
      (Json.arr ((largeWork H).artifacts.map fun a => .obj a.fields)).textLength +
        (optionalShaJson (candidateDigest (largeRequest H) (largeWork H))).textLength +
        (optionalShaJson (packetDigest (largeRequest H) (largeWork H))).textLength +
        Json.stringLength Phase.snapshot.name + (sequenceJson .snapshot).textLength + 453 :=
    output_length (makeOutput H (largeRequest H) (largeWork H))
  rw [largeArtifacts_length] at hlength
  omega

/-- The parts of a snapshot phase with the large policy artifact: every one keeps its limit. -/
def largeParts (sha256 : HashFunction) : FinalizedParts sha256 (largeRequest sha256) none where
  output := outputRaw sha256 (largeRequest sha256) (largeWork sha256)
  measured := (makeOutput sha256 (largeRequest sha256) (largeWork sha256),
    (largeWork sha256).semantic)
  value := .obj (makeResult sha256 (largeRequest sha256) (largeWork sha256)).fields
  result := makeResult sha256 (largeRequest sha256) (largeWork sha256)
  next := (makeNext sha256 (largeRequest sha256) (largeWork sha256)).map requestLine
  accepted := validateCoordinatorOutput_of_bound (makeOutput_bound largeWork_valid)
    (canonicalLine?_lineOf (encodes_output _)) (largeOutput_length.2.trans (by decide))
  ordered := (isPlain_result (isPlain_request _)).isOrdered
  matching := validatePhaseResult_of_bound (makeResult_bound _ _)
  doubles := by
    intro fields f hfields hmem
    cases hfields
    simp [Request.fields, shaJson, sequenceJson] at hmem
  chained := by
    refine validateNextRequest_of_bound (makeNext_nextBound (sampleFirst_bound _) largeWork_valid ?_)
    intro raw hraw
    obtain ⟨next, -, rfl⟩ := Option.map_eq_some_iff.mp hraw
    exact (requestLine_length_le next).trans (by decide)

/-- The output has 7.6 MB and its base64 text more than 10 MB. -/
theorem largePolicy_lost : ¬ (largeParts sha256).RoundTrips := by
  rw [FinalizedParts.roundTrips_iff]
  apply FinalizedParts.not_fits_of_length
  exact le_trans (by decide) (largeOutput_length (H := sha256)).1

end AmazonSimilarSearch.OuterWorkflow
