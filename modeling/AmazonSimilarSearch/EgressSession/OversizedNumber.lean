import AmazonSimilarSearch.EgressSession.WithStatement
import AmazonSimilarSearch.Foundation.JsonRoundTrip

/-!
# An inspection that prints one large number

The first network cannot be created, and its inspection in the cleanup prints a
number of 4301 digits. `int()` raises a plain `ValueError` there, which is none of
the errors that `_parse_one_inspect` and `_cleanup` expect.
-/
namespace AmazonSimilarSearch.EgressSession
open Foundation Interaction
open Broker (Target)

/-- `json.loads` with the hook of `_parse_one_inspect`. -/
def inspectReader : InspectReader := fun raw => do
  let text ← required invalidInspect (decodeUtf8 raw)
  (Json.loads ⟨true, false⟩ text).mapError fun error => match error with
    | .duplicateKey => invalidInspect
    | .malformed => invalidInspect
    | _ => .exception

def largeNumber : List Char := List.replicate (maxIntegerDigits + 1) '1'

def largeNumberOutput : Bytes := encodeUtf8 (String.ofList largeNumber)

theorem length_encodeUtf8_ones (n : ℕ) :
    (encodeUtf8 (String.ofList (List.replicate n '1'))).length = n := by
  induction n with
  | zero => rw [List.replicate_zero, encodeUtf8_nil, List.length_nil]
  | succ n ih =>
      rw [List.replicate_succ, encodeUtf8_ofList_cons, List.length_append, ih,
        String.length_utf8EncodeChar]
      exact Nat.add_comm 1 n

theorem length_largeNumberOutput : largeNumberOutput.length = maxIntegerDigits + 1 :=
  length_encodeUtf8_ones _

/-- A number with too many digits is no number to Python. -/
theorem parseNumber_largeNumber : Json.parseNumber false largeNumber = .error .integerTooLong := by
  have hwhole : Json.wholePart largeNumber = (largeNumber, []) := by
    have hhead : ¬ largeNumber.head? = some '0' := by
      rw [largeNumber, List.replicate_succ, List.head?_cons]
      decide
    have hdigit : Char.isDigit '1' = true := rfl
    rw [Json.wholePart, if_neg hhead, largeNumber, List.takeWhile_replicate,
      List.dropWhile_replicate, if_pos hdigit, if_pos hdigit]
  have hne : largeNumber ≠ [] := by
    rw [largeNumber, List.replicate_succ]
    exact List.cons_ne_nil _ _
  have hlong : maxIntegerDigits < largeNumber.length := by
    rw [largeNumber, List.length_replicate]
    exact Nat.lt_succ_self _
  rw [Json.parseNumber, hwhole]
  simp [hne, hlong, Json.fractionPart, Json.exponentPart]

theorem loads_largeNumber (h : Json.Hooks) :
    Json.loads h (String.ofList largeNumber) = .error .integerTooLong := by
  have hcons : largeNumber = '1' :: List.replicate maxIntegerDigits '1' := List.replicate_succ
  have hspace : Json.skipSpace largeNumber = largeNumber := by
    rw [hcons]
    rfl
  have hvalue : ∀ fuel, Json.parseValue h (fuel + 1) largeNumber = .error .integerTooLong := by
    intro fuel
    rw [hcons, Json.parseValue_of_isDigit h fuel rfl, ← hcons]
    exact parseNumber_largeNumber
  have hmark : ¬ largeNumber.head? = some (Char.ofNat 0xFEFF) := by
    rw [hcons, List.head?_cons]
    decide
  rw [Json.loads, String.toList_ofList]
  simp only [hmark, if_false, hspace, hvalue]
  rfl

/-- The number leaves the check as Python's own exception. -/
theorem parseOneInspect_largeNumber :
    parseOneInspect inspectReader largeNumberOutput = .error .exception := by
  have hlength : 2 ≤ largeNumberOutput.length ∧
      largeNumberOutput.length ≤ maxRuntimeInspectBytes := by
    rw [length_largeNumberOutput]
    decide
  rw [parseOneInspect, ensure_of _ hlength, ok_bind, inspectReader, largeNumberOutput,
    decodeUtf8_encodeUtf8, required_some, ok_bind, loads_largeNumber]
  rfl

/-! ## The host -/

def hostSha256 : Sha256 :=
  ⟨"dddddddddddddddddddddddddddddddddddddddddddddddddddddddddddddddd", by decide⟩

def rootlessPodman : ContainerBackend where
  name := "podman"
  executable := "/usr/bin/podman"
  rootless := true
  userNamespace := true
  seccompEnabled := true
  seccompProfile := "/usr/share/containers/seccomp.json"
  sha256 := hostSha256
  securityEvidenceSha256 := hostSha256

def reviewerInvocation : Invocation where
  packetSha256 := hostSha256
  requestSha256 := hostSha256
  role := .reviewer
  attempt := 1
  containerRuntime := "podman"
  runtimeRootless := true
  runtimeUserNamespace := true
  attempt_within := by decide
  runtime_known := .inl rfl

/-- A session whose policy and gateway image are the expected ones. -/
def refusedSession : Session where
  H := sha256
  invocation := reviewerInvocation
  gatewayImage := "registry.example/gateway@sha256:" ++ hostSha256.text
  expectedGatewayDigest := "sha256:" ++ hostSha256.text
  policySha256 := some hostSha256
  expectedPolicySha256 := hostSha256.text
  token := List.replicate 32 7
  boundarySha256 := fun _ => some hostSha256

def replyOf (exitCode : ℤ) (stdout : Bytes) : Reply where
  result :=
    { exitCode := exitCode
      stdout := stdout
      stderr := []
      durationMs := 20
      stdoutSha256 := (sha256 stdout).text
      stderrSha256 := (sha256 []).text }
  observedNs := 20000000

theorem epoch_within : Int.natAbs 0 < 2 ^ 63 := by decide

/-- Nothing can be created, and what is inspected prints the number. -/
def refusingHost : Runtime := fun _ query =>
  match query with
  | .detect _ => .ok rootlessPodman
  | .baseEnvironment _ => .ok []
  | .clock => ⟨0, epoch_within⟩
  | .command _ (.create _) => .ok (replyOf 125 [])
  | .command _ (.inspect _) => .ok (replyOf 0 largeNumberOutput)
  | .command _ _ => .ok (replyOf 0 [])
  | .body => .ok ()

theorem validExecutable_podman : ValidExecutable rootlessPodman where
  absolute := by decide
  argument := by decide

/-- A command whose answer is within the limits has a record. -/
theorem run_command {ε : Type} {session : Session} {backend : ContainerBackend} {stage : Stage}
    {act : Act} {answers : Runtime} {reply : Reply}
    (hargv : validArgv (session.argv backend act) = true)
    (hanswer : ∀ history, answers history (.command stage act) = .ok reply)
    (hwithin : reply.Within session.H) (hexit : Json.Encodes (.int reply.result.exitCode)) :
    ∃ record : RuntimeCommandEvidence session.H,
      (∀ history, (session.command backend stage act : Interaction Query Answer ε _).run answers
        history = (.ok (some record), history ++ [⟨.command stage act, .ok reply⟩])) ∧
      record.exitCode = reply.result.exitCode ∧ record.stdout = reply.result.stdout := by
  obtain ⟨evidence, hevidence⟩ : ∃ evidence, commandEvidenceSha256 session.H
      (session.argv backend act) reply.result.exitCode reply.result.stdout reply.result.stderr
      reply.measuredDuration = .ok evidence := by
    obtain ⟨payload, hpayload⟩ := Option.isSome_iff_exists.mp (Json.compact?_isSome_iff.mpr
      ((encodes_commandPayload_iff (Reply.measuredDuration_within hwithin)).mpr hexit))
    exact ⟨_, by rw [commandEvidenceSha256, canonicalJson, hpayload, required_some, ok_bind]; rfl⟩
  cases hmeasured : measureCommandResult session.H (session.argv backend act) hargv reply with
  | error error =>
      rw [measureCommandResult, dif_pos hwithin] at hmeasured
      split at hmeasured
      · next herror =>
          rw [hevidence] at herror
          cases herror
      · cases hmeasured
  | ok record =>
      refine ⟨record, fun history => ?_, (measureCommandResult_ok hmeasured).2⟩
      rw [Session.command, dif_pos hargv, run_bind_of_ok (run_query _), hanswer]
      simp only [hmeasured]
      rfl

/-- An option that starts with two dashes and the letter of a label. -/
theorem validArgument_label {stem text : String} (hstem : stem.toList.take 3 = ['-', '-', 'l'])
    (hsafe : stem.toList.all (fun c =>
      c ≠ '\x00' && c ≠ '\r' && c ≠ '\n' && c ≠ 'O') = true)
    (hplain : Broker.IsPlain text) : validArgument (stem ++ text) = true := by
  obtain ⟨rest, hrest⟩ : ∃ rest, (stem ++ text).toList = '-' :: '-' :: 'l' :: rest := by
    refine ⟨stem.toList.drop 3 ++ text.toList, ?_⟩
    rw [String.toList_append]
    calc stem.toList ++ text.toList
        = (stem.toList.take 3 ++ stem.toList.drop 3) ++ text.toList := by rw [List.take_append_drop]
      _ = '-' :: '-' :: 'l' :: (stem.toList.drop 3 ++ text.toList) := by rw [hstem]; rfl
  have hchars : ∀ c ∈ (stem ++ text).toList, c ≠ '\x00' ∧ c ≠ '\r' ∧ c ≠ '\n' ∧ c ≠ 'O' := by
    intro c hc
    rw [String.toList_append] at hc
    rcases List.mem_append.mp hc with hc | hc
    · simpa [and_assoc] using List.all_eq_true.mp hsafe c hc
    · exact ⟨hplain.char hc (by decide), hplain.char hc (by decide), hplain.char hc (by decide),
        hplain.char hc (by decide)⟩
  have hne : ∀ word : String, word.toList.take 3 ≠ ['-', '-', 'l'] → stem ++ text ≠ word := by
    rintro word hword rfl
    exact hword (by rw [hrest]; rfl)
  have hword : ["--mount", "--volume", "-v"].contains (stem ++ text) = false := by
    rw [List.contains_eq_mem, decide_eq_false_iff_not]
    simp only [List.mem_cons, List.not_mem_nil, or_false]
    rintro (h | h | h)
    · exact hne _ (by decide) h
    · exact hne _ (by decide) h
    · exact hne _ (by decide) h
  have hcredential : Broker.contains credentialEnv (stem ++ text) = false :=
    decide_eq_false fun hinside => (hchars 'O' (hinside.subset (by decide))).2.2.2 rfl
  have hmount : "--mount=".toList.isPrefixOf (stem ++ text).toList = false := by
    rw [hrest]
    rfl
  have hvolume : "--volume=".toList.isPrefixOf (stem ++ text).toList = false := by
    rw [hrest]
    rfl
  simp only [validArgument, Bool.and_eq_true, decide_eq_true_eq, Bool.not_eq_true', hword, hmount,
    hvolume, hcredential, List.all_eq_true, and_true]
  refine ⟨hne "" (by decide), fun c hc => ?_⟩
  exact ⟨⟨(hchars c hc).1, (hchars c hc).2.1⟩, (hchars c hc).2.2.1⟩

theorem isPlain_digest (digest : Sha256) : Broker.IsPlain digest.text := fun _ hc =>
  Broker.isPlainChar_of_isLowerHexChar (digest.isLowerHexChar_of_mem hc)

theorem validArgv_createInternal {session : Session} {backend : ContainerBackend}
    (h : ValidExecutable backend) :
    validArgv (session.argv backend (.create .internal)) = true := by
  have hkind : Broker.IsPlain "broker-internal" := Broker.isPlain_of_all (by decide)
  have hlabels : ∀ argument ∈ Broker.labelArguments (session.labels .internal),
      validArgument argument = true := by
    simp only [Broker.labelArguments, List.forall_mem_cons]
    exact ⟨validArgument_label (by decide) (by decide) (isPlain_digest _),
      validArgument_label (by decide) (by decide) (isPlain_digest _),
      validArgument_label (by decide) (by decide) hkind, List.forall_mem_nil _⟩
  have hwords : ∀ word ∈ ["network", "create", "--driver=bridge", "--internal"],
      validArgument word = true := by
    decide
  simp only [validArgv, Session.argv, Broker.networkCreate, if_true, List.cons_append,
    List.nil_append, List.all_cons, List.all_append, List.all_nil, Bool.and_eq_true,
    decide_eq_true_eq, Bool.and_true]
  refine ⟨h.absolute, h.argument, hwords _ (by decide), hwords _ (by decide), hwords _ (by decide),
    hwords _ (by decide), List.all_eq_true.mpr hlabels, session.validArgument_name .internal⟩

/-! ## The run -/

theorem replyOf_within {exitCode : ℤ} {stdout : Bytes}
    (h : stdout.length ≤ maxRuntimeInspectBytes) : (replyOf exitCode stdout).Within sha256 :=
  ⟨h, Nat.zero_le _, show (0 : ℤ) ≤ 20 ∧ (20 : ℤ) ≤ 30 * 1000 by decide,
    show max 0 ((20000000 : ℤ) / 1000000) ≤ 30 * 1000 by decide, rfl, rfl⟩

theorem run_refusingHost (ε : Type) (stage : Stage) (act : Act) {exitCode : ℤ} {stdout : Bytes}
    (hargv : validArgv (refusedSession.argv rootlessPodman act) = true)
    (hanswer : ∀ history, refusingHost history (.command stage act) =
      .ok (replyOf exitCode stdout))
    (hstdout : stdout.length ≤ maxRuntimeInspectBytes) (hexit : exitCode.natAbs < 10 ^ 20) :
    ∃ record : RuntimeCommandEvidence sha256,
      (∀ history, (refusedSession.command rootlessPodman stage act :
        Interaction Query Answer ε _).run refusingHost history =
          (.ok (some record), history ++ [⟨.command stage act, .ok (replyOf exitCode stdout)⟩])) ∧
      record.exitCode = exitCode ∧ record.stdout = stdout :=
  run_command hargv hanswer (replyOf_within hstdout) (Session.encodes_small hexit)

section Steps

variable {session : Session} {backend : ContainerBackend} {act : Act} {answers : Runtime}
  {state : State session.H} {record : RuntimeCommandEvidence session.H} {history after : History}
  {loads : InspectReader}

theorem run_required (h : (session.command backend .provisioning act :
      session.Running _).run answers history = (.ok (some record), after)) :
    (session.required backend state act).run answers history = (.ok record, after) := by
  rw [Session.required, run_bind_of_ok h]
  rfl

theorem run_succeed_error (h : (session.command backend .provisioning act :
      session.Running _).run answers history = (.ok (some record), after))
    (hcode : ¬ record.exitCode = 0) :
    (session.succeed backend state act).run answers history =
      (.error ⟨provisioningFailed, state⟩, after) := by
  rw [Session.succeed, run_bind_of_ok (run_required h), run_bind, ensure, if_neg hcode]
  rfl

theorem run_detectExactBackend (h : answers history (.detect false) = .ok backend)
    (hexact : session.exactBackend true backend = .ok backend) :
    (session.detectExactBackend false : session.Running _).run answers history =
      (.ok (.ok backend), history ++ [⟨.detect false, .ok backend⟩]) := by
  rw [Session.detectExactBackend, run_bind_of_ok (run_query _), h]
  simp only [Bool.not_false, hexact]
  rfl

/-- The three absence commands find nothing. -/
theorem run_preflight {records : Target → RuntimeCommandEvidence session.H}
    {answer : Target → Except Unit Reply}
    (h : ∀ target history, (session.command backend .provisioning (.absence target) :
      session.Running _).run answers history = (.ok (some (records target)),
        history ++ [⟨.command .provisioning (.absence target), answer target⟩]))
    (hnothing : ∀ target, (records target).exitCode = 0 ∧ (records target).stdout = []) :
    (session.preflight backend state).run answers history =
      (.ok { state with provisioningCommands := state.provisioningCommands ++
          [records .gateway, records .internal, records .external] },
        history ++ [⟨.command .provisioning (.absence .gateway), answer .gateway⟩] ++
          [⟨.command .provisioning (.absence .internal), answer .internal⟩] ++
            [⟨.command .provisioning (.absence .external), answer .external⟩]) := by
  have hall : ∀ record ∈ [records .gateway, records .internal, records .external],
      record.exitCode = 0 ∧ record.stdout = [] := by
    simp [hnothing]
  rw [Session.preflight, run_bind_of_ok (run_required (h .gateway _)),
    run_bind_of_ok (run_required (h .internal _)), run_bind_of_ok (run_required (h .external _))]
  simp only
  rw [ensure_of _ hall]
  rfl

/-- The provisioning ends with the creation of the first network. -/
theorem run_provision_refused (loads : InspectReader) (answers : Runtime)
    {records : Target → RuntimeCommandEvidence session.H}
    {answer : Target → Except Unit Reply} {refusal : Except Unit Reply}
    {time : Nanoseconds} (hdetect : ∀ history, answers history (.detect false) = .ok backend)
    (hexact : session.exactBackend true backend = .ok backend)
    (hpolicy : session.checkPolicy = .ok ())
    (henvironment : ∀ history, answers history (.baseEnvironment backend.name) = .ok [])
    (hclock : ∀ history, answers history .clock = time)
    (habsent : ∀ target history, (session.command backend .provisioning (.absence target) :
      session.Running _).run answers history = (.ok (some (records target)),
        history ++ [⟨.command .provisioning (.absence target), answer target⟩]))
    (hnothing : ∀ target, (records target).exitCode = 0 ∧ (records target).stdout = [])
    (hrefused : ∀ history, (session.command backend .provisioning (.create .internal) :
      session.Running _).run answers history =
        (.ok (some record), history ++ [⟨.command .provisioning (.create .internal), refusal⟩]))
    (hcode : ¬ record.exitCode = 0) :
    (session.provision loads { entered := true }).run answers [] =
      (.error ⟨provisioningFailed,
        { entered := true
          backend := some backend
          environment := some []
          startedUnixNs := time
          startedMonotonicNs := time
          createdInternal := true
          provisioningCommands := [records .gateway, records .internal, records .external] }⟩,
        [⟨.detect false, .ok backend⟩, ⟨.baseEnvironment backend.name, .ok []⟩, ⟨.clock, time⟩,
          ⟨.clock, time⟩, ⟨.command .provisioning (.absence .gateway), answer .gateway⟩,
          ⟨.command .provisioning (.absence .internal), answer .internal⟩,
          ⟨.command .provisioning (.absence .external), answer .external⟩,
          ⟨.command .provisioning (.create .internal), refusal⟩]) := by
  rw [Session.provision, run_bind_of_ok (run_detectExactBackend (hdetect _) hexact)]
  simp only [Session.during, hpolicy, pure_eq_done, done_bind]
  rw [run_bind_of_ok (run_query _), henvironment]
  simp only [Except.mapError, done_bind]
  rw [run_bind_of_ok (run_query _), run_bind_of_ok (run_query _), hclock, hclock,
    run_bind_of_ok (run_preflight habsent hnothing), run_bind, Session.create, run_bind,
    Session.recorded, run_bind, run_succeed_error (hrefused _) hcode]
  rfl

/-- The cleanup ends with the inspection that cannot be read. -/
theorem run_leave_unreadable {environment : Broker.Environment} {inspected : Except Unit Reply}
    (hbackend : state.backend = some backend) (henvironment : state.environment = some environment)
    (hgateway : state.createdGateway = false) (hinternal : state.createdInternal = true)
    (hinspect : (session.command backend .cleanup (.inspect .internal) :
      session.Running _).run answers history = (.ok (some record),
        history ++ [⟨.command .cleanup (.inspect .internal), inspected⟩]))
    (hcode : record.exitCode = 0)
    (hparse : parseOneInspect loads record.stdout = .error .exception) :
    (session.leave loads false state).run answers history =
      (.error ⟨.exception, { state with cleanupCommands := state.cleanupCommands ++ [record] }⟩,
        history ++ [⟨.command .cleanup (.inspect .internal), inspected⟩]) := by
  have hclean : (session.cleanTarget loads backend state .internal).run answers history =
      (.error ⟨.exception, { state with cleanupCommands := state.cleanupCommands ++ [record] }⟩,
        history ++ [⟨.command .cleanup (.inspect .internal), inspected⟩]) := by
    rw [Session.cleanTarget, run_bind_of_ok hinspect]
    simp only [hcode, ne_eq, not_true_eq_false, if_false, validateOwnedResourceInspect, hparse,
      error_bind]
    rfl
  have hcleanup : session.cleanup loads false state =
      session.cleanTargetsAndConclude loads backend environment true state := by
    rw [Session.cleanup, hbackend, henvironment]
    rfl
  have hskip : ¬ state.created .gateway = true := by simp [State.created, hgateway]
  have hdue : state.created .internal = true := hinternal
  have htargets : (session.cleanTargets loads backend true state Target.all).run answers history =
      (.error ⟨.exception, { state with cleanupCommands := state.cleanupCommands ++ [record] }⟩,
        history ++ [⟨.command .cleanup (.inspect .internal), inspected⟩]) := by
    rw [Target.all, Session.cleanTargets, if_neg hskip, Session.cleanTargets, if_pos hdue, run_bind,
      hclean]
  rw [Session.leave, run_bind, hcleanup, Session.cleanTargetsAndConclude, run_bind, htargets]

/-- What leaves the cleanup of a provisioning that has failed leaves the `with` statement. -/
theorem run_withSession_of_leave {stopped last : Stopped session.H} {between : History}
    (hprovision : (session.provision loads { entered := true }).run answers [] =
      (.error stopped, between))
    (hleave : (session.leave loads false stopped.state).run answers between =
      (.error last, after)) :
    (session.withSession loads).run answers [] = (.ok (.raised last.error, last.state), after) := by
  have henter : (session.enter loads {}).run answers [] = (.error last, after) := by
    rw [Session.enter_fresh, run_bind, run_attempt, hprovision]
    simp only
    rw [run_bind, hleave]
  rw [Session.withSession, run_bind, run_attempt, henter]
  rfl

end Steps

/-- Where the network is not created and its inspection prints the number, it is neither removed
nor looked for, and the session is not closed. -/
theorem refusingHost_not_cleanedUp :
    let run := (refusedSession.withSession inspectReader).run refusingHost []
    ∃ result, run.1 = .ok result ∧
      Issued .provisioning (.create .internal) run.2 ∧
      (∀ exchange ∈ run.2, ¬ ChecksAbsence .internal exchange) ∧ result.2.closed = false ∧
      ¬ refusedSession.CleanedUp inspectReader result.2 run.2 := by
  have habsent : ∀ target : Target, ∃ record : RuntimeCommandEvidence sha256,
      (∀ history, (refusedSession.command rootlessPodman .provisioning (.absence target) :
        Interaction Query Answer (Stopped sha256) _).run refusingHost history =
          (.ok (some record),
            history ++ [⟨.command .provisioning (.absence target), .ok (replyOf 0 [])⟩])) ∧
        record.exitCode = 0 ∧ record.stdout = [] := fun target =>
    run_refusingHost _ .provisioning (.absence target)
      (Session.validArgv_absence validExecutable_podman target) (fun _ => rfl) (Nat.zero_le _)
      (by decide)
  choose records habsent hnothing using habsent
  obtain ⟨refused, hrefused, hrefusedCode, -⟩ := run_refusingHost (Stopped sha256)
    .provisioning (.create .internal) (validArgv_createInternal validExecutable_podman)
    (fun _ => rfl) (Nat.zero_le _) (by decide)
  obtain ⟨inspected, hinspected, hcode, hstdout⟩ := run_refusingHost (Stopped sha256)
    .cleanup (.inspect .internal)
    (Session.validArgv_inspect validExecutable_podman .internal) (fun _ => rfl)
    (by rw [length_largeNumberOutput]; decide) (by decide)
  have hexact : refusedSession.exactBackend true rootlessPodman = .ok rootlessPodman := by
    have hconfined : Broker.contains "unconfined"
        (casefold "/usr/share/containers/seccomp.json") = false := by
      rw [Broker.contains_casefold_of_ascii (by decide)]
      decide
    rw [Session.exactBackend, ensure_of _ ⟨rfl, fun _ => ⟨rfl, rfl⟩, rfl, by decide, hconfined⟩]
    rfl
  have hpolicy : refusedSession.checkPolicy = .ok () := by
    have hpinned : pinnedDigest refusedSession.gatewayImage =
        some refusedSession.expectedGatewayDigest := by
      decide +kernel
    have hdigest : refusedSession.policySha256 = some hostSha256 := rfl
    rw [Session.checkPolicy, hdigest, required_some, ok_bind, ensure_of _ ⟨hpinned, rfl⟩]
  have hprovision := run_provision_refused inspectReader refusingHost
    (fun _ => rfl) hexact hpolicy (fun _ => rfl) (fun _ => rfl) habsent hnothing hrefused
    (by rw [hrefusedCode]; decide)
  have hparse : parseOneInspect inspectReader inspected.stdout = .error .exception := by
    rw [hstdout]
    exact parseOneInspect_largeNumber
  have hrun := run_withSession_of_leave hprovision
    (run_leave_unreadable rfl rfl rfl rfl (hinspected _) hcode hparse)
  intro run
  rw [show run = _ from hrun]
  refine ⟨_, rfl, ⟨⟨.command .provisioning (.create .internal), .ok (replyOf 125 [])⟩, by simp,
    rfl⟩, ?_, rfl, fun hcleaned => ?_⟩
  · simp [ChecksAbsence]
  · cases hcleaned.closed

end AmazonSimilarSearch.EgressSession
