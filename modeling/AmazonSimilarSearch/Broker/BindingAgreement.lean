import AmazonSimilarSearch.Broker.RuntimeBinding

/-!
# No reader accepts the measured binding

The bytes that the measurement returns end in a closing brace, and both readers
compare what they read with a canonical form that ends in a line feed. The
values themselves agree: the probe of an unchanged runtime finds them again, and
bytes that both readers accept hold one binding.
-/
namespace AmazonSimilarSearch.Broker
open Foundation Interaction

section
variable {H : HashFunction} {loads : InfoReader} {answers answers' : Host}
  {history history' after : History}

/-! ## The last octet -/

theorem getLast?_canonicalLine {value : Json} {raw : Bytes}
    (h : Json.canonicalLine? value = some raw) : raw.getLast? = some 10 := by
  obtain ⟨text, -, rfl⟩ := Option.map_eq_some_iff.mp h
  rw [getLast?_encodeUtf8, String.toList_append]
  simp

theorem getLast?_dumpValue_obj {fields : Fields} {text : List Char}
    (h : Json.dumpValue (.obj fields) = some text) : text.getLast? = some '\x7d' := by
  rw [Json.dumpValue] at h
  obtain ⟨body, -, rfl⟩ := Option.map_eq_some_iff.mp h
  rw [← List.cons_append, List.getLast?_concat]

theorem getLast?_canonical_obj {fields : Fields} {raw : Bytes}
    (h : canonical (.obj fields) = .ok raw) : raw.getLast? ≠ some 10 := by
  simp only [canonical, required_eq_ok_iff, Option.map_eq_some_iff, Json.dumps] at h
  obtain ⟨_, ⟨text, htext, rfl⟩, rfl⟩ := h
  rw [ne_eq, getLast?_encodeUtf8, String.toList_ofList, getLast?_dumpValue_obj htext]
  decide

/-! ## What the measurement returns -/

/-- The command that asks the runtime for its security settings. -/
def infoCommand (path name : String) (environment : Environment) : Command where
  argv := probeArgv path name
  stdin := []
  environment := environment
  timeoutSeconds := 10
  maxStdinBytes := 2
  maxStdoutBytes := maxInspectBytes
  maxStderrBytes := maxCommandStderrBytes

/-- The runtime is as it was when the values were measured: its executable has the measured
digest, and it reports what it reported then. -/
structure UnchangedRuntime (answers : Host) (path : String) (values : RuntimeValues)
    (environment : Environment) (info : Bytes) : Prop where
  executable : ∀ history, ∃ metadata,
    answers history (.measureRuntime path) = .ok (values.executableSha256, metadata)
  reports : ∀ history, ∃ result : CommandResult,
    answers history (.command (infoCommand path values.name environment)) = .ok result ∧
      result.exitCode = 0 ∧ result.stdout = info ∧
      result.stderr.length ≤ maxCommandStderrBytes ∧ result.durationMs ≤ 10 * 1000

/-- What is known of the values that a measurement returns. -/
structure MeasuredValues (H : HashFunction) (loads : InfoReader) (path : String)
    (values : RuntimeValues) (info : Bytes) : Prop where
  argv : validArgv (probeArgv path values.name) = true
  info_length : info.length ≤ maxInspectBytes
  security : ∀ record : CommandRecord, record.result.stdout = info →
    decodeRuntimeSecurity loads values.name record = .ok values.security
  evidence : securityEvidenceSha256 H values.name values.security =
    .ok values.securityEvidenceSha256

theorem run_issue_of_ok {command : Command} {result : CommandResult}
    (h : answers history (.command command) = .ok result) :
    ∃ after, (issue command).run answers history = (.ok result, after) := by
  have hrun : (issue command).run answers history = (answers history (.command command), _) :=
    run_ofExcept _
  rw [h] at hrun
  exact ⟨_, hrun⟩

theorem run_measureRuntime_of_ok {path : String} {measured : Sha256 × RuntimeStat}
    (h : answers history (.measureRuntime path) = .ok measured) :
    ∃ after, (measureRuntime path).run answers history = (.ok measured, after) := by
  have hrun : (measureRuntime path).run answers history =
    (answers history (.measureRuntime path), _) := run_ofExcept _
  rw [h] at hrun
  exact ⟨_, hrun⟩

theorem record_of_run {path name : String} {environment : Environment} {record : CommandRecord}
    (h : (runtimeProbeRecord path name environment).run answers history = (.ok record, after)) :
    validArgv (probeArgv path name) = true ∧ record.result.stdout.length ≤ maxInspectBytes := by
  obtain ⟨made, between, hmade, h⟩ := run_bind_eq_ok.mp h
  obtain ⟨_, -, h⟩ := run_ofExcept_bind_eq_ok.mp h
  obtain ⟨rfl, -⟩ := run_done_eq_ok.mp h
  obtain ⟨result, between', hresult, hmade⟩ := run_bind_eq_ok.mp hmade
  obtain ⟨rfl, -⟩ := run_done_eq_ok.mp hmade
  obtain ⟨_, hargv, hresult⟩ := run_ofExcept_bind_eq_ok.mp hresult
  obtain ⟨_, -, hresult⟩ := run_ofExcept_bind_eq_ok.mp hresult
  obtain ⟨issued, _, -, hresult⟩ := run_bind_eq_ok.mp hresult
  obtain ⟨_, hlimits, hresult⟩ := run_ofExcept_bind_eq_ok.mp hresult
  obtain ⟨rfl, -⟩ := run_done_eq_ok.mp hresult
  exact ⟨ensure_eq_ok_iff.mp hargv, (ensure_eq_ok_iff.mp hlimits).1⟩

theorem decodeRuntimeSecurity_congr {name : String} {record record' : CommandRecord}
    (h : record'.result.stdout = record.result.stdout) :
    decodeRuntimeSecurity loads name record' = decodeRuntimeSecurity loads name record := by
  simp only [decodeRuntimeSecurity, h]

theorem measured_of_run {effectiveUid candidateUid : ℕ} {path : String} {values : RuntimeValues}
    (h : (measureRuntimeValues H loads effectiveUid candidateUid path).run answers history =
      (.ok values, after)) : ∃ info, MeasuredValues H loads path values info := by
  obtain ⟨_, -, h⟩ := run_ofExcept_bind_eq_ok.mp h
  obtain ⟨_, -, h⟩ := run_ofExcept_bind_eq_ok.mp h
  obtain ⟨environment, _, -, h⟩ := run_bind_eq_ok.mp h
  obtain ⟨before, _, -, h⟩ := run_bind_eq_ok.mp h
  obtain ⟨record, _, hrecord, h⟩ := run_bind_eq_ok.mp h
  obtain ⟨security, hsecurity, h⟩ := run_ofExcept_bind_eq_ok.mp h
  obtain ⟨afterwards, _, -, h⟩ := run_bind_eq_ok.mp h
  obtain ⟨_, -, h⟩ := run_ofExcept_bind_eq_ok.mp h
  obtain ⟨evidence, hevidence, h⟩ := run_ofExcept_bind_eq_ok.mp h
  obtain ⟨environmentBytes, -, h⟩ := run_ofExcept_bind_eq_ok.mp h
  obtain ⟨rfl, -⟩ := run_done_eq_ok.mp h
  obtain ⟨hargv, hlength⟩ := record_of_run hrecord
  refine ⟨record.result.stdout, hargv, hlength, fun record' hstdout => ?_, hevidence⟩
  rw [decodeRuntimeSecurity_congr hstdout]
  exact hsecurity

theorem record_of_unchanged {path : String} {values : RuntimeValues} {environment : Environment}
    {info : Bytes} (hvalues : MeasuredValues H loads path values info)
    (hruntime : UnchangedRuntime answers path values environment info) (history : History) :
    ∃ record after, (runtimeProbeRecord path values.name environment).run answers history =
      (.ok record, after) ∧ record.result.stdout = info := by
  obtain ⟨result, hanswer, hexit, hstdout, hstderr, hduration⟩ := hruntime.reports history
  obtain ⟨after, hissue⟩ := run_issue_of_ok hanswer
  have hrun : (run (infoCommand path values.name environment)).run answers history =
      (.ok result, after) := by
    refine (run_ofExcept_bind_of_ok (ensure_of _ hvalues.argv)).trans ?_
    refine (run_ofExcept_bind_of_ok (ensure_of _ (Nat.zero_le _))).trans ?_
    refine (run_bind_of_ok hissue).trans ?_
    refine run_ofExcept_bind_of_ok (ensure_of _ ⟨?_, hstderr, hduration⟩)
    rw [hstdout]
    exact hvalues.info_length
  have hrecord : (runRecord (infoCommand path values.name environment)).run answers history =
      (.ok ⟨probeArgv path values.name, result⟩, after) := run_bind_of_ok hrun
  exact ⟨_, after, (run_bind_of_ok hrecord).trans (run_ofExcept_bind_of_ok (ensure_of _ hexit)),
    hstdout⟩

/-- The probe of an unchanged runtime accepts the values again. -/
theorem probe_of_unchanged {path : String} {values : RuntimeValues} {environment : Environment}
    {info : Bytes} (hvalues : MeasuredValues H loads path values info)
    (hruntime : UnchangedRuntime answers path values environment info) :
    ∃ probe, ((probeRuntime H loads path values environment).run answers history).1 = .ok probe ∧
      probe.runtimeSha256 = values.executableSha256 ∧
      probe.securityEvidenceSha256 = values.securityEvidenceSha256 := by
  obtain ⟨metadata, hexecutable⟩ := hruntime.executable history
  obtain ⟨between, hmeasure⟩ := run_measureRuntime_of_ok hexecutable
  obtain ⟨record, after, hrecord, hstdout⟩ := record_of_unchanged hvalues hruntime between
  have hrun : (probeRuntime H loads path values environment).run answers history =
      (.ok ⟨record, metadata.device, metadata.inode, values.executableSha256,
        values.securityEvidenceSha256⟩, after) := by
    refine (run_bind_of_ok hmeasure).trans ?_
    refine (run_ofExcept_bind_of_ok (ensure_of _ rfl)).trans ?_
    refine (run_bind_of_ok hrecord).trans ?_
    refine (run_ofExcept_bind_of_ok (hvalues.security _ hstdout)).trans ?_
    refine (run_ofExcept_bind_of_ok hvalues.evidence).trans ?_
    exact run_ofExcept_bind_of_ok (ensure_of _ ⟨rfl, rfl⟩)
  exact ⟨_, congrArg Prod.fst hrun, rfl, rfl⟩

/-- On a host that stays as it is the measurement returns. -/
theorem measure_of_unchanged {effectiveUid candidateUid : ℕ} {path : String}
    {values : RuntimeValues} {environment : Environment} {info : Bytes}
    (huid : 0 < candidateUid ∧ candidateUid ≠ effectiveUid) (hname : pathName path = values.name)
    (hknown : values.name = "podman" ∨ values.name = "docker")
    (hvalues : MeasuredValues H loads path values info)
    (hruntime : UnchangedRuntime answers path values environment info) {metadata : RuntimeStat}
    (hmetadata : ∀ history,
      answers history (.measureRuntime path) = .ok (values.executableSha256, metadata))
    (henvironment : ∀ history, answers history (.baseEnvironment values.name) = environment)
    (hdigest : ∃ bytes, canonical (environmentJson environment) = .ok bytes ∧
      H bytes = values.environmentSha256) :
    ∃ after, (measureRuntimeValues H loads effectiveUid candidateUid path).run answers history =
      (.ok values, after) := by
  obtain ⟨bytes, hbytes, hdigest⟩ := hdigest
  have hbase : (baseEnvironment values.name).run answers history =
      (.ok (answers history (.baseEnvironment values.name)), _) := rfl
  rw [henvironment] at hbase
  obtain ⟨first, hfirst⟩ := run_measureRuntime_of_ok
    (hmetadata (history ++ [⟨.baseEnvironment values.name, environment⟩]))
  obtain ⟨record, second, hrecord, hstdout⟩ := record_of_unchanged hvalues hruntime first
  obtain ⟨third, hthird⟩ := run_measureRuntime_of_ok (hmetadata second)
  refine ⟨third, ?_⟩
  simp only [measureRuntimeValues, hname]
  refine (run_ofExcept_bind_of_ok (ensure_of _ huid)).trans ?_
  refine (run_ofExcept_bind_of_ok (ensure_of _ hknown)).trans ?_
  refine (run_bind_of_ok hbase).trans ?_
  refine (run_bind_of_ok hfirst).trans ?_
  refine (run_bind_of_ok hrecord).trans ?_
  refine (run_ofExcept_bind_of_ok (hvalues.security record hstdout)).trans ?_
  refine (run_bind_of_ok hthird).trans ?_
  refine (run_ofExcept_bind_of_ok (ensure_of _ ⟨rfl, rfl⟩)).trans ?_
  refine (run_ofExcept_bind_of_ok hvalues.evidence).trans ?_
  refine (run_ofExcept_bind_of_ok hbytes).trans ?_
  rw [hdigest]
  rfl

/-! ## The readers -/

theorem loadBinding_congr {label : String} {raw : Bytes} {value value' : Json}
    (h : loadBinding label raw = .ok value) (h' : loadBinding label raw = .ok value') :
    value = value' := by
  rw [h] at h'
  exact Except.ok.inj h'

/-- What the driver reads is a dict with the canonical line that it read. -/
theorem validated_fields {raw : Bytes} {fields : Fields}
    (h : validateBrokerRuntimeBinding H raw = .ok fields) :
    loadBinding "broker runtime binding" raw = .ok (.obj fields) ∧
      Json.canonicalLine? (.obj fields) = some raw := by
  simp only [validateBrokerRuntimeBinding, bind_eq_ok_iff] at h
  obtain ⟨_, -, value, hvalue, h⟩ := h
  cases value with
  | obj held =>
      simp only [validateBindingFields, bind_eq_ok_iff, ensure_eq_ok_iff] at h
      obtain ⟨_, ⟨-, hline⟩, expected, -, h⟩ := h
      split at h
      · simp only [bind_eq_ok_iff, pure_eq_ok_iff] at h
        obtain ⟨_, -, rfl⟩ := h
        exact ⟨hvalue, hline⟩
      · cases h
  | null => cases h
  | bool b => cases h
  | int i => cases h
  | float f => cases h
  | str s => cases h
  | arr items => cases h

/-- What the coordinator reads are the values of a dict, and it has their canonical line. -/
theorem bound_fields {raw : Bytes} {expected : Sha256} {binding : BrokerRuntimeBinding H}
    (h : runtimeBinding H raw expected = .ok binding) :
    ∃ fields, loadBinding "broker runtime binding" raw = .ok (.obj fields) ∧
      valuesOf fields = some binding.toRuntimeValues ∧
      Json.canonicalLine? binding.toJson = some raw := by
  simp only [runtimeBinding, bind_eq_ok_iff] at h
  obtain ⟨_, -, value, hvalue, h⟩ := h
  cases value with
  | obj fields =>
      simp only [bind_eq_ok_iff, ensure_eq_ok_iff, pure_eq_ok_iff] at h
      obtain ⟨built, hbuilt, _, hline, rfl⟩ := h
      refine ⟨fields, hvalue, ?_, hline⟩
      simp only [BrokerRuntimeBinding.build, bind_eq_ok_iff, required_eq_ok_iff] at hbuilt
      obtain ⟨_, -, values, hvalues, hbuilt⟩ := hbuilt
      split at hbuilt
      · rw [pure_eq_ok_iff] at hbuilt
        rw [hvalues, ← hbuilt]
      · cases hbuilt
  | null => cases h
  | bool b => cases h
  | int i => cases h
  | float f => cases h
  | str s => cases h
  | arr items => cases h

theorem validate_rejects {fields : Fields} {raw : Bytes} (h : canonical (.obj fields) = .ok raw)
    (read : Fields) : validateBrokerRuntimeBinding H raw ≠ .ok read := by
  intro hread
  exact getLast?_canonical_obj h (getLast?_canonicalLine (validated_fields hread).2)

theorem runtimeBinding_rejects {fields : Fields} {raw : Bytes}
    (h : canonical (.obj fields) = .ok raw) (expected : Sha256) (binding : BrokerRuntimeBinding H) :
    runtimeBinding H raw expected ≠ .ok binding := by
  intro hread
  obtain ⟨_, -, -, hline⟩ := bound_fields hread
  exact getLast?_canonical_obj h (getLast?_canonicalLine hline)

end

/-- What becomes of measured bytes: neither reader accepts them, and the probe of an unchanged
runtime accepts their values. -/
structure Disagrees (H : HashFunction) (loads : InfoReader) (path : String) (raw : Bytes) : Prop where
  driver : ∀ fields, validateBrokerRuntimeBinding H raw ≠ .ok fields
  coordinator : ∀ binding, runtimeBinding H raw (H raw) ≠ .ok binding
  probe : ∃ values info, canonical values.toJson = .ok raw ∧ ∀ answers history environment,
    UnchangedRuntime answers path values environment info → ∃ probe,
      ((probeRuntime H loads path values environment).run answers history).1 = .ok probe ∧
        probe.runtimeSha256 = values.executableSha256 ∧
        probe.securityEvidenceSha256 = values.securityEvidenceSha256

/-- Bytes that both readers accept hold one binding, and its security digest is the digest of
its own fields. -/
structure ReadersAgree (H : HashFunction) (raw : Bytes) (fields : Fields)
    (binding : BrokerRuntimeBinding H) : Prop where
  values : valuesOf fields = some binding.toRuntimeValues
  line : Json.canonicalLine? binding.toJson = some raw
  evidence : securityEvidenceSha256 H binding.name binding.security =
    .ok binding.securityEvidenceSha256

/-- No measured binding is accepted by the driver or by the coordinator. -/
theorem measureBrokerOuterRuntime_disagrees (H : HashFunction) (loads : InfoReader) :
    (∀ (answers : Host) (history : History) (effectiveUid candidateUid : ℕ) (path : String),
      Returned (Disagrees H loads path)
        ((measureBrokerOuterRuntime H loads effectiveUid candidateUid path).run answers history).1) ∧
    ∀ (raw : Bytes) (expected : Sha256),
      Returned (fun fields => Returned (ReadersAgree H raw fields) (runtimeBinding H raw expected))
        (validateBrokerRuntimeBinding H raw) := by
  constructor
  · intro answers history effectiveUid candidateUid path
    rw [returned_iff]
    intro raw hraw
    obtain ⟨values, between, hvalues, hencoded⟩ := run_bind_eq_ok.mp (Prod.ext hraw rfl)
    obtain ⟨hencoded, -⟩ := run_ofExcept_eq_ok.mp hencoded
    obtain ⟨info, hmeasured⟩ := measured_of_run hvalues
    exact {
      driver := validate_rejects hencoded
      coordinator := runtimeBinding_rejects hencoded (H raw)
      probe := ⟨values, info, hencoded, fun _ _ _ => probe_of_unchanged hmeasured⟩ }
  · intro raw expected
    rw [returned_iff]
    intro fields hfields
    rw [returned_iff]
    intro binding hbinding
    obtain ⟨hloaded, -⟩ := validated_fields hfields
    obtain ⟨held, hheld, hvalues, hline⟩ := bound_fields hbinding
    have hsame := Json.obj.inj (loadBinding_congr hloaded hheld)
    rw [← hsame] at hvalues
    exact ⟨hvalues, hline, binding.evidence⟩

/-! ## A rootless Podman -/

def podmanInfo : String :=
  "\x7b\"host\":\x7b\"security\":\x7b\"rootless\":true,\"seccompEnabled\":true," ++
    "\"seccompProfilePath\":\"/usr/share/containers/seccomp.json\"\x7d\x7d\x7d"

/-- `json.loads` of the output, without hooks. -/
def infoReader : InfoReader := fun raw => do
  let text ← required (.outerBroker "outer runtime security probe failed") (decodeUtf8 raw)
  (Json.loads ⟨false, false⟩ text).mapError fun error =>
    if error = .malformed then .outerBroker "outer runtime security probe failed" else .exception

def executableSha256 : Sha256 :=
  ⟨"eeeeeeeeeeeeeeeeeeeeeeeeeeeeeeeeeeeeeeeeeeeeeeeeeeeeeeeeeeeeeeee", by decide⟩

/-- A host whose Podman reports `podmanInfo`, and whose executable does not change. -/
def podmanHost : Host := fun _ query =>
  match query with
  | .command _ => .ok ⟨0, encodeUtf8 podmanInfo, [], 20⟩
  | .measureRuntime _ => .ok (executableSha256, ⟨1, 2, 0o755, 0, 0, 4096, 0⟩)
  | .baseEnvironment _ => [("LC_ALL", "C"), ("PATH", "/bin:/usr/bin")]
  | .urandom => []
  | .reserve => .error .exception
  | .clock => (1 : ℤ)

theorem canonical_of_encodes {value : Json} (h : value.Encodes) :
    ∃ raw, canonical value = .ok raw := by
  obtain ⟨text, htext⟩ := Option.isSome_iff_exists.mp h
  refine ⟨encodeUtf8 (String.ofList text), ?_⟩
  simp [canonical, Json.dumps, htext]

theorem podmanInfo_length : (encodeUtf8 podmanInfo).length ≤ maxInspectBytes := by
  decide

theorem podman_argv : validArgv (probeArgv "/usr/bin/podman" "podman") = true := by
  decide

/-- What `podmanInfo` encodes. -/
def podmanReport : Json :=
  .obj [("host", .obj [("security", .obj [("rootless", .bool true), ("seccompEnabled", .bool true),
    ("seccompProfilePath", .str "/usr/share/containers/seccomp.json")])])]

theorem compact_podmanReport : Json.compact? podmanReport = some (encodeUtf8 podmanInfo) := by
  decide

theorem isPlain_podmanReport : podmanReport.IsPlain := by
  refine Json.isPlain_obj.mpr ⟨by decide, ?_, trivial⟩
  refine Json.isPlain_obj.mpr ⟨by decide, ?_, trivial⟩
  refine Json.isPlain_obj.mpr ⟨by decide, ?_⟩
  simp [Json.PlainFields]

theorem confined_podmanReport :
    contains "unconfined" (casefold "/usr/share/containers/seccomp.json") = false := by
  rw [contains_casefold_of_ascii (by decide)]
  decide

theorem decode_podmanInfo :
    decodeRuntimeSecurity infoReader "podman" ⟨[], 0, encodeUtf8 podmanInfo, [], 20⟩ =
      .ok ⟨true, true, "/usr/share/containers/seccomp.json"⟩ := by
  obtain ⟨text, htext, hloads⟩ :=
    Json.loads_of_compact ⟨false, false⟩ isPlain_podmanReport compact_podmanReport
  have hread : infoReader (encodeUtf8 podmanInfo) = .ok podmanReport := by
    rw [infoReader, htext, required_some, ok_bind, hloads]
    rfl
  have hreported : podmanSecurity podmanReport = some (.bool true, true, .bool true,
      .str "/usr/share/containers/seccomp.json") := by
    rfl
  have hprofile : "/usr/share/containers/seccomp.json" ≠ "" := by decide
  rw [decodeRuntimeSecurity, hread, ok_bind]
  simp [hreported, required, ensure, confined_podmanReport, hprofile]

def podmanSecurityValues : RuntimeSecurity := ⟨true, true, "/usr/share/containers/seccomp.json"⟩

def podmanEnvironment : Environment := [("LC_ALL", "C"), ("PATH", "/bin:/usr/bin")]

/-- The measurement succeeds, and the workflow cannot start with what it returns. -/
theorem podman_binding_rejected :
    ∃ raw, ((measureBrokerOuterRuntime sha256 infoReader 0 1000 "/usr/bin/podman").run
        podmanHost []).1 = .ok raw ∧
      ∀ fields, validateBrokerRuntimeBinding sha256 raw ≠ .ok fields := by
  obtain ⟨payload, hpayload⟩ : ∃ payload,
      canonical (securityPayload "podman" podmanSecurityValues) = .ok payload :=
    canonical_of_encodes (by simp [securityPayload])
  obtain ⟨environmentBytes, henvironment⟩ : ∃ bytes,
      canonical (environmentJson podmanEnvironment) = .ok bytes :=
    canonical_of_encodes (by rfl)
  have hevidence : securityEvidenceSha256 sha256 "podman" podmanSecurityValues =
      .ok (sha256 (payload ++ [10])) := by
    rw [securityEvidenceSha256, hpayload]
    rfl
  generalize hvaluesDef : (⟨sha256 environmentBytes, executableSha256, "podman",
    podmanSecurityValues, sha256 (payload ++ [10])⟩ : RuntimeValues) = values
  have hname : values.name = "podman" := by rw [← hvaluesDef]
  have hexecutable : values.executableSha256 = executableSha256 := by rw [← hvaluesDef]
  have hvalues : MeasuredValues sha256 infoReader "/usr/bin/podman" values
      (encodeUtf8 podmanInfo) := {
    argv := by
      rw [hname]
      exact podman_argv
    info_length := podmanInfo_length
    security := fun record hstdout => by
      rw [← hvaluesDef]
      exact (decodeRuntimeSecurity_congr hstdout).trans decode_podmanInfo
    evidence := by
      rw [← hvaluesDef]
      exact hevidence }
  have hmetadata : ∀ history, podmanHost history (.measureRuntime "/usr/bin/podman") =
      .ok (values.executableSha256, ⟨1, 2, 0o755, 0, 0, 4096, 0⟩) := by
    intro history
    rw [hexecutable]
    rfl
  have hruntime : UnchangedRuntime podmanHost "/usr/bin/podman" values podmanEnvironment
      (encodeUtf8 podmanInfo) := {
    executable := fun history => ⟨_, hmetadata history⟩
    reports := fun history =>
      ⟨⟨0, encodeUtf8 podmanInfo, [], 20⟩, rfl, rfl, rfl, Nat.zero_le _, by decide⟩ }
  obtain ⟨raw, hraw⟩ : ∃ raw, canonical values.toJson = .ok raw :=
    canonical_of_encodes (by simp [RuntimeValues.toJson])
  have hpath : pathName "/usr/bin/podman" = values.name := by
    rw [hname]
    decide
  obtain ⟨after, hrun⟩ : ∃ after, (measureRuntimeValues sha256 infoReader 0 1000
      "/usr/bin/podman").run podmanHost [] = (.ok values, after) := by
    refine measure_of_unchanged (by decide) hpath (.inl hname) hvalues hruntime hmetadata
      (fun _ => rfl) ⟨environmentBytes, henvironment, ?_⟩
    rw [← hvaluesDef]
  have hbytes : (measureBrokerOuterRuntime sha256 infoReader 0 1000 "/usr/bin/podman").run
      podmanHost [] = (.ok raw, after) := by
    refine (run_bind_of_ok hrun).trans ?_
    rw [hraw]
    rfl
  exact ⟨raw, congrArg Prod.fst hbytes, validate_rejects hraw⟩

end AmazonSimilarSearch.Broker
