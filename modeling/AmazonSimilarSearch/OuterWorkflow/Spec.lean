import AmazonSimilarSearch.OuterWorkflow.Validate

/-!
# What the outer verifier accepts

One lemma for each reader says exactly which values it lets through; from these,
one lemma for each document says which bytes it accepts and what the record it
returns satisfies. In particular the object of a record is the dict that was
read, so nothing is lost by holding the record.
-/
namespace AmazonSimilarSearch
open Foundation

theorem pyEq_shaJson {x : Json} {d : Sha256} : x.pyEq (shaJson d) = true ↔ x = shaJson d :=
  Json.pyEq_str_right x d.text

theorem pyEq_optionalShaJson {x : Json} {d : Option Sha256} :
    x.pyEq (optionalShaJson d) = true ↔ x = optionalShaJson d := by
  cases d with
  | none => exact Json.pyEq_null_right x
  | some d => exact pyEq_shaJson

theorem pyEq_artifact {x : Json} {artifact : Artifact} :
    x.pyEq (.obj artifact.fields) = true ↔ x = .obj artifact.fields := by
  rw [Json.pyEq_obj_iff]
  simp only [Artifact.fields, Json.pyEqFields_cons_iff, Json.pyEqFields_nil_iff,
    Json.pyEq_str_right, pyEq_shaJson]
  constructor
  · rintro ⟨fs, rfl, _, _, rfl, rfl, _, _, rfl, rfl, rfl⟩
    rfl
  · rintro rfl
    exact ⟨_, rfl, _, _, rfl, rfl, _, _, rfl, rfl, rfl⟩

theorem pyEq_artifactsJson {x : Json} {artifacts : List Artifact} :
    x.pyEq (artifactsJson artifacts) = true ↔ x = artifactsJson artifacts := by
  have hitems : ∀ xs : List Json,
      Json.pyEqItems xs (artifacts.map fun a => .obj a.fields) = true ↔
        xs = artifacts.map fun a => .obj a.fields := by
    induction artifacts with
    | nil => simp
    | cons a artifacts ih =>
        intro xs
        rw [List.map_cons, Json.pyEqItems_cons_iff]
        constructor
        · rintro ⟨x, xs', rfl, hx, hxs⟩
          rw [pyEq_artifact.mp hx, (ih xs').mp hxs]
        · rintro rfl
          exact ⟨_, _, rfl, pyEq_artifact.mpr rfl, (ih _).mpr rfl⟩
  rw [artifactsJson, Json.pyEq_arr_iff]
  constructor
  · rintro ⟨xs, rfl, hxs⟩
    rw [(hitems xs).mp hxs]
  · rintro rfl
    exact ⟨_, rfl, (hitems _).mpr rfl⟩

namespace OuterWorkflow

/-! ## Readers -/

@[simp] theorem canonical_eq_ok_iff {v : Json} {line : Bytes} :
    canonical v = .ok line ↔ Json.canonicalLine? v = some line := by
  simp [canonical]

@[simp] theorem domain_eq_ok_iff {H : HashFunction} {tag : Bytes} {v : Json} {d : Sha256} :
    domain H tag v = .ok d ↔ domainSha256? H tag v = some d := by
  simp only [domain, domainSha256?, bind_eq_ok_iff, canonical_eq_ok_iff, pure_eq_ok_iff,
    Option.map_eq_some_iff]

@[simp] theorem exactFields_eq_ok_iff {gs fs : Fields} {names : List String} {label : String} :
    exactFields gs names label = .ok fs ↔ fs.hasExactKeys names = true ∧ gs = fs := by
  simp only [exactFields, bind_eq_ok_iff, ensure_eq_ok_iff, exists_const, pure_eq_ok_iff]
  constructor
  · rintro ⟨h, rfl⟩
    exact ⟨h, rfl⟩
  · rintro ⟨h, rfl⟩
    exact ⟨h, rfl⟩

@[simp] theorem exact_eq_ok_iff {v : Json} {names : List String} {label : String} {fs : Fields} :
    exact v names label = .ok fs ↔ fs.hasExactKeys names = true ∧ v = .obj fs := by
  cases v with
  | obj gs => simp only [exact, exactFields_eq_ok_iff, Json.obj.injEq]
  | _ => simp only [exact, fail, reduceCtorEq, and_false]

@[simp] theorem sha_eq_ok_iff {v : Json} {label : String} {d : Sha256} :
    sha v label = .ok d ↔ v = shaJson d := by
  cases v with
  | str text =>
      simp only [sha, required_eq_ok_iff, LowerHex.ofText?_eq_some_iff, shaJson, Json.str.injEq]
      exact eq_comm
  | _ => simp only [sha, fail, shaJson, reduceCtorEq]

@[simp] theorem optionalSha_eq_ok_iff {v : Json} {label : String} {d : Option Sha256} :
    optionalSha v label = .ok d ↔ v = optionalShaJson d := by
  unfold optionalSha
  split
  · cases d <;> simp [pure_eq_ok_iff, optionalShaJson, shaJson]
  · next hv =>
    simp only [bind_eq_ok_iff, sha_eq_ok_iff, pure_eq_ok_iff]
    cases d with
    | none => simpa [optionalShaJson] using hv
    | some d => simp [optionalShaJson]

@[simp] theorem integer_eq_ok_iff {v : Json} {label : String} {a b i : ℤ} :
    integer v label a b = .ok i ↔ v = .int i ∧ a ≤ i ∧ i ≤ b := by
  cases v with
  | int j =>
      simp only [integer, bind_eq_ok_iff, ensure_eq_ok_iff, exists_const, pure_eq_ok_iff, Json.int.injEq]
      constructor
      · rintro ⟨h, rfl⟩
        exact ⟨rfl, h⟩
      · rintro ⟨rfl, h⟩
        exact ⟨h, rfl⟩
  | _ => simp only [integer, fail, reduceCtorEq, false_and]

@[simp] theorem phaseIn?_eq_some_iff {v : Json} {phase : Phase} :
    phaseIn? v = some phase ↔ v = .str phase.name := by
  cases v with
  | str text =>
      simp only [phaseIn?, Phase.ofName?_eq_some_iff, Json.str.injEq]
      exact eq_comm
  | _ => simp only [phaseIn?, reduceCtorEq]

theorem listItems?_eq_some_iff {v : Json} {items : List Json} :
    listItems? v = some items ↔ v = .arr items := by
  cases v <;> simp [listItems?]

theorem decodeBase64_ok {v : Json} {label : String} {maximum : ℕ} {raw : Bytes}
    (h : decodeBase64 v label maximum = .ok raw) :
    v = .str (b64encode raw) ∧ raw ≠ [] ∧ raw.length ≤ maximum := by
  cases v with
  | str text =>
      simp only [decodeBase64, bind_eq_ok_iff, ensure_eq_ok_iff, exists_const, required_eq_ok_iff,
        pure_eq_ok_iff] at h
      obtain ⟨-, raw', -, ⟨hne, hlength, rfl⟩, rfl⟩ := h
      exact ⟨rfl, hne, hlength⟩
  | _ => cases h

/-- Every octet string within the limit is read back from its own encoding. -/
theorem decodeBase64_b64encode {raw : Bytes} {label : String} {maximum : ℕ} (hne : raw ≠ [])
    (hlength : raw.length ≤ maximum) (hmaximum : 2 ≤ maximum) :
    decodeBase64 (.str (b64encode raw)) label maximum = .ok raw := by
  have hpos : 0 < raw.length := List.length_pos_iff.mpr hne
  have htext : (b64encode raw).length ≤ maximum * 2 := by
    rw [b64encode_length]
    omega
  have hok : raw ≠ [] ∧ raw.length ≤ maximum ∧ b64encode raw = b64encode raw := ⟨hne, hlength, rfl⟩
  rw [decodeBase64, ensure_of _ htext, ok_bind, b64decode_b64encode, required_some, ok_bind,
    ensure_of _ hok]
  rfl

/-- The JSON value of a document, as the strict reader sees it. -/
def document? (bytes : Bytes) : Option Json :=
  (decodeUtf8 bytes).bind fun text => (Json.loads hooks text).toOption

theorem strictJson_ok {raw : Untrusted} {label : String} {maximum : ℕ} {fs : Fields}
    (h : strictJson raw label maximum = .ok fs) :
    ∃ bytes, raw = some bytes ∧ bytes.length ≤ maximum ∧
      Json.canonicalLine? (.obj fs) = some bytes ∧ Json.IsOrdered (.obj fs) ∧
      document? bytes = some (.obj fs) := by
  simp only [strictJson, bind_eq_ok_iff, required_eq_ok_iff, ensure_eq_ok_iff,
    exists_const] at h
  obtain ⟨bytes, rfl, ⟨-, hlength⟩, text, htext, value, hvalue, h⟩ := h
  cases hloads : Json.loads hooks text with
  | error e => simp [hloads, Except.mapError] at hvalue
  | ok v =>
      simp only [hloads, Except.mapError, Except.ok.injEq] at hvalue
      subst hvalue
      cases v with
      | obj gs =>
          simp only [bind_eq_ok_iff, canonical_eq_ok_iff, ensure_eq_ok_iff, exists_const,
            pure_eq_ok_iff] at h
          obtain ⟨line, hline, rfl, rfl⟩ := h
          refine ⟨line, rfl, hlength, hline, Json.isOrdered_of_loads hloads, ?_⟩
          rw [document?, htext, Option.bind_some, hloads]
          rfl
      | _ => simp [fail] at h

/-- A document that is readable and has its keys in order is read as it is. -/
theorem strictJson_of_readable {fs : Fields} {bytes : Bytes} {label : String} {maximum : ℕ}
    (hreadable : Json.IsReadable (.obj fs)) (hsorted : Json.sortKeys (.obj fs) = .obj fs)
    (hline : Json.canonicalLine? (.obj fs) = some bytes) (hlength : bytes.length ≤ maximum) :
    strictJson (some bytes) label maximum = .ok fs := by
  obtain ⟨text, htext, hloads⟩ := Json.loads_of_line hooks hreadable hline
  rw [hsorted] at hloads
  have hbytes : bytes ≠ [] ∧ bytes.length ≤ maximum := ⟨Json.canonicalLine_ne_nil hline, hlength⟩
  have hcanonical : canonical (.obj fs) = .ok bytes := canonical_eq_ok_iff.mpr hline
  simp only [strictJson, required_some, ok_bind, ensure_of _ hbytes, htext, hloads,
    Except.mapError, hcanonical]
  rfl

theorem strictJson_of_plain {fs : Fields} {bytes : Bytes} {label : String} {maximum : ℕ}
    (hplain : Json.IsPlain (.obj fs)) (hline : Json.canonicalLine? (.obj fs) = some bytes)
    (hlength : bytes.length ≤ maximum) : strictJson (some bytes) label maximum = .ok fs :=
  strictJson_of_readable hplain.isReadable hplain.sortKeys_eq hline hlength

/-! ## Requests -/

variable {H : HashFunction}

theorem dict_eq {fs : Fields} {names : List String} (hfs : Json.IsOrdered (.obj fs))
    (hnames : names.Pairwise (· < ·)) (hkeys : fs.hasExactKeys names = true) :
    names.map (fun k => (k, fs.get k)) = fs :=
  (Fields.eq_of_hasExactKeys (Json.isOrdered_obj.mp hfs).1 hnames hkeys).symm

/-- The verifier accepts only the canonical line of a bound request, and returns that
request. -/
theorem validatePhaseRequestBytes_ok {raw : Bytes} {request : Request}
    (h : validatePhaseRequestBytes H raw = .ok request) :
    Json.canonicalLine? (.obj request.fields) = some raw ∧ request.Bound H ∧
      raw.length ≤ 128000 := by
  simp only [validatePhaseRequestBytes, bind_eq_ok_iff, exactFields_eq_ok_iff,
    ensure_eq_ok_iff, exists_const, required_eq_ok_iff, sha_eq_ok_iff, optionalSha_eq_ok_iff,
    integer_eq_ok_iff, domain_eq_ok_iff, phaseIn?_eq_some_iff, pure_eq_ok_iff,
    Json.pyEq_str_right] at h
  obtain ⟨document, hdocument, fs, ⟨hkeys, rfl⟩, hversion, phase, hphase, sequence,
    ⟨hsequence, -⟩, rfl, workflow, hworkflow, task, htask, runtime, hruntime, key, hkey, publicKey,
    hpublicKey, candidate, hcandidate, input, hinput, digest, hdigest, prior, hprior, snapshot,
    hsnapshot, packet, hpacket, hpriorBound, hsnapshotBound, hpacketBound, measured, hmeasured,
    rfl, hrequest⟩ := h
  obtain ⟨bytes, hraw, hlength, hline, hordered, -⟩ := strictJson_ok hdocument
  cases hraw
  have hfields : request.fields = document := by
    rw [← dict_eq hordered (by decide) hkeys, ← hrequest]
    simp only [requestFields, Request.fields, List.map_cons, List.map_nil, hversion, hphase,
      hsequence, hworkflow, htask, hruntime, hkey, hpublicKey, hcandidate, hinput, hdigest, hprior,
      hsnapshot, hpacket, sequenceJson]
  rw [← hfields] at hline hmeasured
  rw [Request.fields_without] at hmeasured
  subst hrequest
  refine ⟨hline, ⟨?_, ?_, ?_, hmeasured⟩, hlength⟩
  · rw [← Phase.sequence_eq_one_iff]
    exact_mod_cast hpriorBound
  · rw [← Phase.sequence_eq_one_iff]
    exact_mod_cast hsnapshotBound
  · exact_mod_cast hpacketBound

/-- An object read with exactly some keys is ordered where it is read. -/
theorem isOrdered_get {fs : Fields} (h : Json.IsOrdered (.obj fs)) {key : String}
    (hkey : key ∈ fs.keys) : Json.IsOrdered (fs.get key) := by
  obtain ⟨hsorted, hvalues⟩ := Json.isOrdered_obj.mp h
  have hmem : (key, fs.get key) ∈ fs.keys.map fun k => (k, fs.get k) :=
    List.mem_map.mpr ⟨key, hkey, rfl⟩
  rw [← Fields.eq_map_get (Fields.nodup_keys hsorted)] at hmem
  exact hvalues _ hmem

theorem mem_keys_of_exact {fs : Fields} {names : List String}
    (h : fs.hasExactKeys names = true) {key : String} (hkey : key ∈ names) : key ∈ fs.keys := by
  simp only [Fields.hasExactKeys, Bool.and_eq_true, List.all_eq_true, List.contains_eq_mem,
    decide_eq_true_eq] at h
  exact h.2 key hkey

end OuterWorkflow

/-! ## Prepared transitions -/

/-- An action is bound to the request it answers and to the payload it releases. -/
structure Action.Bound (sha256 : HashFunction) (action : Action) (request : Request)
    (payload : Bytes) : Prop where
  workflow : action.workflowId = request.workflowId
  phase : action.phase = request.phase
  answers : action.requestSha256 = request.requestSha256
  kind : action.externalKind = request.phase.externalKind
  payload : action.payloadSha256 = sha256 payload
  digest : domainSha256? sha256 actionDomain (.obj action.toActionBody.fields) =
    some action.actionSha256

namespace OuterWorkflow
variable {H : HashFunction}

def PreparedTransition.body (action : Action) (payload : Bytes) : Fields := [
  ("action", .obj action.fields),
  ("payload_base64", .str (b64encode payload)),
  ("schema_version", .str "1.0")]

def PreparedTransition.fields (prepared : PreparedTransition) : Fields := [
  ("action", .obj prepared.action.fields),
  ("payload_base64", .str (b64encode prepared.payload)),
  ("prepared_sha256", shaJson prepared.preparedSha256),
  ("schema_version", .str "1.0")]

theorem validateAction_ok {value : Json} {request : Request} {payload : Bytes} {action : Action}
    (hvalue : Json.IsOrdered value)
    (h : validateAction H value request payload = .ok action) :
    value = .obj action.fields ∧ action.Bound H request payload := by
  simp only [validateAction, bind_eq_ok_iff, exact_eq_ok_iff, ensure_eq_ok_iff, exists_const,
    sha_eq_ok_iff, integer_eq_ok_iff, domain_eq_ok_iff, pure_eq_ok_iff, Json.pyEq_str_right,
    pyEq_shaJson] at h
  obtain ⟨fs, ⟨hkeys, rfl⟩, hversion, hworkflow, hphase, sequence, ⟨hsequence, -⟩, rfl, hrequest,
    hkind, hpayload, digest, hdigest, measured, hmeasured, rfl, haction⟩ := h
  have hfields : action.fields = fs := by
    rw [← dict_eq hvalue (by decide) hkeys, ← haction]
    simp only [actionFields, Action.fields, List.map_cons, List.map_nil, hversion, hphase,
      hsequence, hworkflow, hrequest, hkind, hpayload, hdigest, sequenceJson]
  rw [← hfields, Action.fields_without] at hmeasured
  subst haction
  exact ⟨by rw [hfields], rfl, rfl, rfl, rfl, rfl, hmeasured⟩

/-- A prepared transition that was read is the canonical line of its record, its action is
bound to the request, and its payload is not empty. -/
theorem parsePreparedTransition_ok {raw : Untrusted} {request : Request}
    {prepared : PreparedTransition} (h : parsePreparedTransition H raw request = .ok prepared) :
    (∃ bytes, raw = some bytes ∧ Json.canonicalLine? (.obj prepared.fields) = some bytes) ∧
      prepared.action.Bound H request prepared.payload ∧ prepared.payload ≠ [] := by
  simp only [parsePreparedTransition, bind_eq_ok_iff, exactFields_eq_ok_iff, ensure_eq_ok_iff,
    exists_const, sha_eq_ok_iff, domain_eq_ok_iff, pure_eq_ok_iff, Json.pyEq_str_right] at h
  obtain ⟨document, hdocument, fs, ⟨hkeys, rfl⟩, hversion, payload, hpayload, action, haction,
    digest, hdigest, measured, -, rfl, hprepared⟩ := h
  obtain ⟨bytes, rfl, -, hline, hordered, -⟩ := strictJson_ok hdocument
  obtain ⟨hencoded, hne, -⟩ := decodeBase64_ok hpayload
  have hactionOrdered := isOrdered_get hordered
    (mem_keys_of_exact hkeys (by decide : "action" ∈ preparedFields))
  obtain ⟨hvalue, hbound⟩ := validateAction_ok hactionOrdered haction
  have hfields : prepared.fields = document := by
    rw [← dict_eq hordered (by decide) hkeys, ← hprepared]
    simp only [preparedFields, PreparedTransition.fields, List.map_cons, List.map_nil, hversion,
      hencoded, hvalue, hdigest]
  subst hprepared
  exact ⟨⟨bytes, rfl, by rw [hfields, hline]⟩, hbound, hne⟩

end OuterWorkflow

/-! ## Coordinator output -/

namespace OuterWorkflow
variable {H : HashFunction}

/-- The artifact was measured from its content by `artifactSemantic`. -/
structure Measures (sha256 : HashFunction) (artifact : OutputArtifact) (semantic : Artifact) :
    Prop where
  name : semantic.name = artifact.name
  matched : matchesArtifactName artifact.name = true
  nonempty : artifact.content ≠ []
  bounded : artifact.content.length ≤ 6000000
  digest : artifactSemantic sha256 artifact.name artifact.content = .ok semantic.sha256

/-- A coordinator output is bound to its request and to what its artifacts measure. -/
structure OutputBound (sha256 : HashFunction) (output : Output) (request : Request)
    (semantic : List Artifact) : Prop where
  workflow : output.workflowId = request.workflowId
  phase : output.phase = request.phase
  answers : output.requestSha256 = request.requestSha256
  nonempty : 1 ≤ semantic.length
  bounded : semantic.length ≤ 512
  measured : List.Forall₂ (Measures sha256) output.artifacts semantic
  sorted : (semantic.map Artifact.name).Pairwise (· ≤ ·)
  nodup : (semantic.map Artifact.name).Nodup
  complete : completeArtifacts (semantic.map Artifact.name) request.phase = true
  set : artifactSetSha256? sha256 semantic = some output.outputArtifactsSha256
  candidate : candidateAnchor request semantic = .ok output.candidateSnapshotSha256
  packet : packetAnchor request semantic = .ok output.reviewPacketSha256
  digest : domainSha256? sha256 outputDomain (.obj output.toOutputBody.fields) =
    some output.outputSha256

theorem readArtifact_ok {value : Json} {read : OutputArtifact × Artifact}
    (hvalue : Json.IsOrdered value) (h : readArtifact H value = .ok read) :
    value = .obj read.1.fields ∧ Measures H read.1 read.2 := by
  simp only [readArtifact, bind_eq_ok_iff, exact_eq_ok_iff] at h
  obtain ⟨fs, ⟨hkeys, rfl⟩, h⟩ := h
  split at h
  · next name hname =>
    simp only [bind_eq_ok_iff, ensure_eq_ok_iff, exists_const, pure_eq_ok_iff] at h
    obtain ⟨hmatched, content, hcontent, digest, hdigest, rfl⟩ := h
    obtain ⟨hencoded, hnonempty, hbounded⟩ := decodeBase64_ok hcontent
    have hfields : OutputArtifact.fields ⟨name, content⟩ = fs := by
      rw [← dict_eq hvalue (by decide) hkeys]
      simp only [OutputArtifact.fields, List.map_cons, List.map_nil, hencoded, hname]
    exact ⟨by rw [hfields], rfl, hmatched, hnonempty, hbounded, hdigest⟩
  · cases h

theorem readArtifacts_ok {items : List Json} {read : List (OutputArtifact × Artifact)}
    (hitems : ∀ item ∈ items, Json.IsOrdered item)
    (h : items.mapM (readArtifact H) = .ok read) :
    items = read.map (fun p => .obj p.1.fields) ∧
      List.Forall₂ (Measures H) (read.map Prod.fst) (read.map Prod.snd) := by
  induction items generalizing read with
  | nil =>
      simp only [List.mapM_nil, pure_eq_ok_iff] at h
      subst h
      exact ⟨rfl, .nil⟩
  | cons item items ih =>
      simp only [List.mapM_cons, bind_eq_ok_iff, pure_eq_ok_iff] at h
      obtain ⟨first, hfirst, rest, hrest, rfl⟩ := h
      obtain ⟨hitem, hmeasures⟩ := readArtifact_ok (hitems item (by simp)) hfirst
      obtain ⟨hrestItems, hrestMeasures⟩ := ih (fun x hx => hitems x (by simp [hx])) hrest
      constructor
      · rw [List.map_cons, ← hitem, ← hrestItems]
      · exact .cons hmeasures hrestMeasures

/-- A coordinator output that was read is the canonical line of its record, and is bound. -/
theorem validateCoordinatorOutput_ok {raw : Bytes} {request : Request}
    {measured : Output × List Artifact}
    (h : validateCoordinatorOutput H raw request = .ok measured) :
    Json.canonicalLine? (.obj measured.1.fields) = some raw ∧
      OutputBound H measured.1 request measured.2 := by
  simp only [validateCoordinatorOutput, bind_eq_ok_iff, exactFields_eq_ok_iff, ensure_eq_ok_iff,
    exists_const, required_eq_ok_iff, sha_eq_ok_iff, integer_eq_ok_iff, domain_eq_ok_iff,
    canonical_eq_ok_iff, validateCompleteness, listItems?_eq_some_iff, pure_eq_ok_iff,
    Json.pyEq_str_right, pyEq_shaJson, pyEq_optionalShaJson] at h
  obtain ⟨document, hdocument, fs, ⟨hkeys, rfl⟩, hversion, hworkflow, hphase, sequence,
    ⟨hsequence, -⟩, rfl, hrequest, items, hitems, ⟨hnonempty, hbounded⟩, read, hread,
    ⟨hsorted, hnodup⟩, hcomplete, line, hset, hartifacts, candidate, hcandidate, packet, hpacket,
    ⟨hcandidateField, hpacketField⟩, digest, hdigest, computed, hcomputed, rfl, rfl⟩ := h
  obtain ⟨bytes, hraw, -, hline, hordered, -⟩ := strictJson_ok hdocument
  cases hraw
  have hitemsOrdered : ∀ item ∈ items, Json.IsOrdered item := by
    have harr := isOrdered_get hordered
      (mem_keys_of_exact hkeys (by decide : "artifacts" ∈ outputFields))
    rw [hitems] at harr
    exact Json.isOrdered_arr.mp harr
  obtain ⟨hread', hmeasures⟩ := readArtifacts_ok hitemsOrdered hread
  have hlength : items.length = (read.map Prod.snd).length := by
    rw [hread', List.length_map, List.length_map]
  have hfields : Output.fields
      { workflowId := request.workflowId, phase := request.phase,
        requestSha256 := request.requestSha256, artifacts := read.map Prod.fst,
        candidateSnapshotSha256 := candidate, reviewPacketSha256 := packet,
        outputArtifactsSha256 := H line, outputSha256 := digest } = document := by
    rw [← dict_eq hordered (by decide) hkeys]
    simp only [outputFields, Output.fields, List.map_cons, List.map_nil, List.map_map, hversion,
      hworkflow, hphase, hsequence, hrequest, hitems, hread', hartifacts, hcandidateField,
      hpacketField, hdigest, sequenceJson]
    rfl
  rw [← hfields] at hline hcomputed
  rw [Output.fields_without] at hcomputed
  refine ⟨hline, ?_⟩
  exact {
    workflow := rfl
    phase := rfl
    answers := rfl
    nonempty := hlength ▸ hnonempty
    bounded := hlength ▸ hbounded
    measured := hmeasures
    sorted := hsorted
    nodup := hnodup
    complete := hcomplete
    set := by rw [artifactSetSha256?, hset, Option.map_some]
    candidate := hcandidate
    packet := hpacket
    digest := hcomputed }

/-! ## Results and finalized transitions -/

/-- A phase result repeats what was measured, and its digest binds it. -/
structure ResultBound (sha256 : HashFunction) (result : Result) (request : Request)
    (output : Output) (semantic : List Artifact) (outputRaw : Bytes) (externalRaw : Option Bytes) :
    Prop where
  request : result.request.pyEq (.obj request.fields) = true
  artifacts : result.artifacts = semantic
  set : result.outputArtifactsSha256 = output.outputArtifactsSha256
  candidate : result.candidateSnapshotSha256 = output.candidateSnapshotSha256
  packet : result.reviewPacketSha256 = output.reviewPacketSha256
  external : result.externalExecutionSha256 = externalRaw.map sha256
  output : result.coordinatorOutputSha256 = sha256 outputRaw
  digest : domainSha256? sha256 resultDomain (.obj result.toResultBody.fields) =
    some result.phaseSha256

theorem validatePhaseResult_ok {value : Json} {request : Request} {output : Output}
    {semantic : List Artifact} {outputRaw : Bytes} {externalRaw : Option Bytes} {result : Result}
    (hvalue : Json.IsOrdered value)
    (h : validatePhaseResult H value request output semantic outputRaw externalRaw = .ok result) :
    value = .obj result.fields ∧ Json.IsOrdered result.request ∧
      ResultBound H result request output semantic outputRaw externalRaw := by
  simp only [validatePhaseResult, bind_eq_ok_iff, exact_eq_ok_iff, ensure_eq_ok_iff, exists_const,
    sha_eq_ok_iff, domain_eq_ok_iff, pure_eq_ok_iff, Json.pyEq_str_right, pyEq_shaJson,
    pyEq_optionalShaJson, pyEq_artifactsJson] at h
  obtain ⟨fs, ⟨hkeys, rfl⟩, ⟨hversion, hrequest, hartifacts, hset, hcandidate, hpacket, hexternal,
    houtput⟩, digest, hdigest, measured, hmeasured, rfl, hresult⟩ := h
  have hrequestOrdered := isOrdered_get hvalue
    (mem_keys_of_exact hkeys (by decide : "request" ∈ resultFields))
  have hfields : result.fields = fs := by
    rw [← dict_eq hvalue (by decide) hkeys, ← hresult]
    simp only [resultFields, Result.fields, List.map_cons, List.map_nil, hversion, hartifacts, hset,
      hcandidate, hpacket, hexternal, houtput, hdigest]
  rw [← hfields, Result.fields_without] at hmeasured
  subst hresult
  exact ⟨by rw [hfields], hrequestOrdered, ⟨hrequest, rfl, rfl, rfl, rfl, rfl, rfl, hmeasured⟩⟩

theorem decodeNextRequest_ok {value : Json} {nextRaw : Option Bytes}
    (h : decodeNextRequest value = .ok nextRaw) :
    value = (nextRaw.map fun raw => Json.str (b64encode raw)).getD .null := by
  unfold decodeNextRequest at h
  split at h
  · simp only [pure_eq_ok_iff] at h
    subst h
    rfl
  · simp only [bind_eq_ok_iff, pure_eq_ok_iff] at h
    obtain ⟨raw, hraw, rfl⟩ := h
    exact (decodeBase64_ok hraw).1

/-- What `validateNextRequest` lets through. -/
def NextRequestBound (sha256 : HashFunction) (request : Request) (output : Output)
    (result : Result) (nextRaw : Option Bytes) : Prop :=
  (request.phase.sequence = phaseOrder.length ∧ nextRaw = none) ∨
    ∃ raw next, nextRaw = some raw ∧ validatePhaseRequestBytes sha256 raw = .ok next ∧
      chained request next output result

theorem validateNextRequest_ok {request : Request} {output : Output} {result : Result}
    {nextRaw : Option Bytes} {u : Unit}
    (h : validateNextRequest H request output result nextRaw = .ok u) :
    NextRequestBound H request output result nextRaw := by
  unfold validateNextRequest at h
  split_ifs at h with hlast
  · rw [ensure_eq_ok_iff] at h
    exact Or.inl ⟨hlast, h⟩
  · simp only [bind_eq_ok_iff, required_eq_ok_iff, ensure_eq_ok_iff] at h
    obtain ⟨raw, hraw, next, hnext, hchained⟩ := h
    exact Or.inr ⟨raw, next, hraw, hnext, hchained⟩

def FinalizedTransition.fields (finalized : FinalizedTransition) : Fields := [
  ("coordinator_output_base64", .str (b64encode finalized.coordinatorOutput)),
  ("finalized_sha256", shaJson finalized.finalizedSha256),
  ("next_request_base64",
    (finalized.nextRequest.map fun raw => Json.str (b64encode raw)).getD .null),
  ("phase_result", .obj finalized.result.fields),
  ("schema_version", .str "1.0")]

/-- A finalized transition is bound to its request and to the evidence of the executor. -/
structure FinalizedBound (sha256 : HashFunction) (finalized : FinalizedTransition)
    (request : Request) (externalRaw : Option Bytes) (output : Output) (semantic : List Artifact) :
    Prop where
  line : Json.canonicalLine? (.obj output.fields) = some finalized.coordinatorOutput
  measured : OutputBound sha256 output request semantic
  result : ResultBound sha256 finalized.result request output semantic finalized.coordinatorOutput
    externalRaw
  ordered : Json.IsOrdered finalized.result.request
  next : NextRequestBound sha256 request output finalized.result finalized.nextRequest

theorem parseFinalizedTransition_ok {raw : Untrusted} {request : Request}
    {externalRaw : Option Bytes} {finalized : FinalizedTransition}
    (h : parseFinalizedTransition H raw request externalRaw = .ok finalized) :
    (∃ bytes, raw = some bytes ∧ Json.canonicalLine? (.obj finalized.fields) = some bytes ∧
        document? bytes = some (.obj finalized.fields)) ∧
      ∃ output semantic, FinalizedBound H finalized request externalRaw output semantic := by
  simp only [parseFinalizedTransition, bind_eq_ok_iff, exactFields_eq_ok_iff, ensure_eq_ok_iff,
    exists_const, sha_eq_ok_iff, domain_eq_ok_iff, pure_eq_ok_iff, Json.pyEq_str_right] at h
  obtain ⟨document, hdocument, fs, ⟨hkeys, rfl⟩, hversion, outputRaw, houtputRaw, measured,
    hmeasured, result, hresult, nextRaw, hnextRaw, u, hnext, digest, hdigest, computed, -, rfl,
    hfinalized⟩ := h
  obtain ⟨bytes, rfl, -, hline, hordered, hread⟩ := strictJson_ok hdocument
  obtain ⟨hencoded, -, -⟩ := decodeBase64_ok houtputRaw
  obtain ⟨houtput, hbound⟩ := validateCoordinatorOutput_ok hmeasured
  have hresultOrdered := isOrdered_get hordered
    (mem_keys_of_exact hkeys (by decide : "phase_result" ∈ finalizedFields))
  obtain ⟨hvalue, hrequestOrdered, hresultBound⟩ := validatePhaseResult_ok hresultOrdered hresult
  have hnextField := decodeNextRequest_ok hnextRaw
  have hfields : finalized.fields = document := by
    rw [← dict_eq hordered (by decide) hkeys, ← hfinalized]
    simp only [finalizedFields, FinalizedTransition.fields, List.map_cons, List.map_nil, hversion,
      hencoded, hvalue, hnextField, hdigest]
  subst hfinalized
  refine ⟨⟨bytes, rfl, by rw [hfields, hline], by rw [hfields, hread]⟩, measured.1, measured.2, ?_⟩
  exact ⟨houtput, hbound, hresultBound, hrequestOrdered, validateNextRequest_ok hnext⟩

end OuterWorkflow
end AmazonSimilarSearch
