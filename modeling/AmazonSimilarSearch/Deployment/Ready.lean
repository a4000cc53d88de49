import AmazonSimilarSearch.Deployment.Images

/-!
# When a deployment check returns

With a runner for which everything is as the contracts of the images say, the check returns
exactly when its inputs are valid and its command lines can be issued.
-/
namespace AmazonSimilarSearch.Deployment
open Foundation Interaction
open Broker (contains)
open BrokerLedger (isAbsolute)
open Review (pathParts)

namespace Setup

variable (setup : Setup)

/-- Images, containers and tokens are as they should be, whatever was asked before. -/
structure Honest (runner : Runner) : Prop where
  token : ∀ history role, ∃ token : LowerHex 16, runner history (.token role) = .ok token.text
  inspect : ∀ history role, ∃ result, runner history (.command (.inspect role)) = .ok result ∧
    result.Within setup.H (.inspect role) ∧ (result.exitCode = 0 ∧ result.stderr = []) ∧
    ∃ digests, setup.inspectImage role result.stdout = .ok digests
  absence : ∀ history name, ∃ result, runner history (.command (.absence name)) = .ok result ∧
    result.Within setup.H (.absence name) ∧ ShowsAbsent result
  run : ∀ history role name, ∃ result, runner history (.command (.run role name)) = .ok result ∧
    result.Within setup.H (.run role name) ∧
    result.exitCode = role.contract.smokeExitCode ∧ validOutput role result = true

/-- The command lines that name the runtime and the images can be issued. -/
structure Issuable (setup : Setup) : Prop where
  absolute : isAbsolute setup.backend.executable = true
  executable : validArgument setup.backend.executable = true
  image : ∀ role, validArgument (setup.images role) = true

variable {setup} {runner : Runner} {role : Role} {name : String}

/-! ## Command lines -/

theorem Issuable.inspect (h : setup.Issuable) :
    validArgv (setup.argv (.inspect role)) = true := by
  have hwords : validArgument "image" = true ∧ validArgument "inspect" = true := by
    decide
  simp [argv, validArgv, h.absolute, h.executable, h.image, hwords]

theorem validArgument_name (h : matchesContainer name = true) :
    validArgument ("--name=" ++ name) = true := by
  obtain ⟨-, hchars⟩ := isNameChar_of_matchesContainer h
  refine validArgument_of_ne (by simp [String.ext_iff]) fun c hc => ?_
  rw [String.toList_append, List.mem_append] at hc
  rcases hc with hc | hc
  · have hstem : "--name=".toList.all fun c =>
        c ≠ '.' ∧ c ≠ '\x00' ∧ c ≠ '\r' ∧ c ≠ '\n' := by decide
    simpa using List.all_eq_true.mp hstem c hc
  · exact ne_of_isNameChar (hchars c hc)

/-- The arguments of a smoke test that depend on the image only through its contract. -/
theorem validArgument_contract (role : Role) :
    validArgument ("--userns=keep-id:uid=" ++ toString role.contract.uid ++ ",gid=" ++
      toString role.contract.uid) = true ∧
    validArgument ("--user=" ++ role.contract.user) = true ∧
    role.contract.smokeTail.all validArgument = true := by
  cases role <;> decide

theorem Issuable.run (h : setup.Issuable) (hname : matchesContainer name = true) :
    validArgv (setup.argv (.run role name)) = true := by
  have hwords : ["run", "--rm", "--pull=never", "--network=none", "--read-only",
      "--cap-drop=ALL", "--security-opt=no-new-privileges", "--ipc=none", "--workdir=/",
      "--pids-limit=16", "--memory=128m", "--cpus=0.5",
      "--tmpfs=/tmp:rw,noexec,nosuid,nodev,size=4m,mode=1777"].all validArgument = true := by
    decide
  obtain ⟨huserns, huser, htail⟩ := validArgument_contract role
  simp only [List.all_cons, List.all_nil, Bool.and_true, Bool.and_eq_true] at hwords
  simp only [argv, smokeArgv, validArgv, List.cons_append, List.head?_cons, Option.any_some,
    List.nil_append, List.all_cons, hwords, huserns, huser, htail, h.absolute, h.executable,
    h.image, validArgument_name hname, Bool.and_true]

theorem Issuable.nameable (h : setup.Issuable) (hname : matchesContainer name = true) :
    setup.Nameable name :=
  ⟨h.absolute, h.executable, validArgument_of_matchesContainer hname⟩

theorem matchesContainer_containerName (role : Role) (token : LowerHex 16) :
    matchesContainer (containerName role token.text) = true := by
  have htext : (containerName role token.text).toList =
      containerStem.toList ++ (role.text.toList ++ '-' :: token.text.toList) := by
    simp [containerName, String.toList_append]
  have hlength : (role.text.toList ++ '-' :: token.text.toList).length =
      role.text.toList.length + 17 := by
    rw [List.length_append, List.length_cons, token.length_toList]
  have hmiddle : role.text.toList.all isNameChar = true := by cases role <;> decide
  have hrole : 1 ≤ role.text.toList.length := by cases role <;> decide
  have htoken : token.text.toList.all isLowerHexChar = true :=
    List.all_eq_true.mpr fun c hc => token.isLowerHexChar_of_mem hc
  have hlast : role.text.toList.length + 17 - 16 = role.text.toList.length + 1 := by omega
  have hafter : (role.text.toList ++ '-' :: token.text.toList).drop
      (role.text.toList.length + 1) = token.text.toList := by
    rw [← List.drop_drop, List.drop_left]
    rfl
  simp only [matchesContainer, htext, List.drop_left, hlength, Nat.add_sub_cancel, List.take_left,
    hlast, hafter, hmiddle, htoken, Bool.and_true, List.head?_cons, Bool.and_eq_true,
    decide_eq_true_eq, and_true]
  exact ⟨List.isPrefixOf_iff_prefix.mpr (List.prefix_append _ _), by omega⟩

/-! ## Commands -/

theorem reaches_command {act : Act} {P : ProcessResult → Prop}
    (hvalid : validArgv (setup.argv act) = true)
    (h : ∀ history, ∃ result, runner history (.command act) = .ok result ∧
      result.Within setup.H act ∧ P result) :
    Reaches runner (setup.command act) P := by
  unfold command
  refine (reaches_ensure _ hvalid).bind fun _ _ => ?_
  refine (reaches_query (P := fun answer => ∃ result, answer = .ok result ∧
    result.Within setup.H act ∧ P result) h).bind fun answer hanswer => ?_
  obtain ⟨result, rfl, hwithin, hP⟩ := hanswer
  exact (reaches_ensure _ hwithin).bind fun _ _ => reaches_pure hP

section Smoke

variable (honest : setup.Honest runner) (issuable : setup.Issuable)
include honest issuable

theorem reaches_assertAbsent (hname : matchesContainer name = true) :
    Reaches runner (setup.assertAbsent name) fun _ => True := by
  unfold assertAbsent
  exact (reaches_command (issuable.nameable hname).absence fun history =>
    honest.absence history name).bind fun result hresult => reaches_ensure _ hresult

theorem reaches_cleanupIfPresent (hname : matchesContainer name = true) :
    Reaches runner (setup.cleanupIfPresent name) fun _ => True := by
  unfold cleanupIfPresent
  refine (reaches_command (issuable.nameable hname).absence fun history =>
    honest.absence history name).bind fun result hresult => ?_
  obtain ⟨hexit, hstdout, hstderr⟩ := hresult
  refine (reaches_ensure _ ⟨hstdout, hstderr, .inr hexit⟩).bind fun _ _ => ?_
  have hgone : result.exitCode ≠ 0 := by rw [hexit]; decide
  rw [if_neg hgone]
  exact reaches_assertAbsent honest issuable hname

theorem reaches_smokeImage (role : Role) :
    Reaches runner (setup.smokeImage role) fun _ => True := by
  unfold smokeImage
  refine (reaches_query (P := fun answer => ∃ token : LowerHex 16, answer = .ok token.text)
    fun history => honest.token history role).bind fun answer hanswer => ?_
  obtain ⟨token, rfl⟩ := hanswer
  have hname := matchesContainer_containerName role token
  refine (reaches_ensure _ hname).bind fun _ _ => ?_
  refine (reaches_assertAbsent honest issuable hname).bind fun _ _ => ?_
  unfold smokeContainer
  refine (reaches_command (issuable.run hname) fun history =>
    honest.run history role _).attempt.bind fun result hresult => ?_
  obtain ⟨result, rfl, hexpected⟩ := hresult
  unfold concludeSmoke
  refine (reaches_cleanupIfPresent honest issuable hname).attempt.bind fun outcome houtcome => ?_
  obtain ⟨_, rfl, -⟩ := houtcome
  refine (reaches_ofExcept (P := fun value => value = result) rfl rfl).bind fun value hvalue => ?_
  subst hvalue
  exact (reaches_ensure _ hexpected).bind fun _ _ => reaches_pure trivial

theorem reaches_checkRole (role : Role) :
    Reaches runner (setup.checkRole role) fun _ => True := by
  unfold checkRole
  refine (reaches_command issuable.inspect fun history =>
    honest.inspect history role).bind fun result hresult => ?_
  obtain ⟨hexit, digests, hdigests⟩ := hresult
  refine (reaches_ensure _ hexit).bind fun _ _ => ?_
  refine (reaches_ofExcept (P := fun _ => True) hdigests trivial).bind fun found _ => ?_
  exact (reaches_smokeImage honest issuable role).bind fun _ _ => reaches_pure trivial

theorem reaches_checkRoles (roles : List Role) :
    Reaches runner (setup.checkRoles roles) fun _ => True := by
  induction roles with
  | nil => exact reaches_pure trivial
  | cons role roles ih =>
      rw [checkRoles]
      exact (reaches_checkRole honest issuable role).bind fun _ _ =>
        ih.bind fun _ _ => reaches_pure trivial

end Smoke

/-! ## The evidence -/

theorem exists_canonical {value : Json} (h : value.Encodes) : ∃ line, canonical value = .ok line := by
  obtain ⟨line, hline⟩ := Option.isSome_iff_exists.mp (Json.canonicalLine?_isSome_iff.mpr h)
  exact ⟨line, required_eq_ok_iff.mpr hline⟩

section Evidence

variable {backendEvidence digest : Sha256} {images : Role → ImageEvidence}

theorem sha_text (digest : Sha256) (label : String) : sha (.str digest.text) label = .ok digest :=
  sha_eq_ok_iff.mpr rfl

theorem digest_of_entryFields {role : Role} {image : ImageEvidence} :
    ∀ field ∈ imageDigestFields, ∃ digest : Sha256,
      (setup.entryFields role image).get field = .str digest.text := by
  simp only [imageDigestFields, List.forall_mem_cons]
  exact ⟨⟨image.inspectSha256, rfl⟩, ⟨image.metadataSha256, rfl⟩, ⟨image.argvSha256, rfl⟩,
    ⟨image.stderrSha256, rfl⟩, ⟨image.stdoutSha256, rfl⟩, by simp⟩

theorem checkImage_entry (h : setup.Pinned) (role : Role) (image : ImageEvidence) :
    checkImage (.obj (setup.entryFields role image)) = .ok role := by
  have hkeys : (setup.entryFields role image).hasExactKeys imageFields = true :=
    Fields.hasExactKeys_self (setup.entryFields role image)
  have hrole : readRole ((setup.entryFields role image).get "role") = .ok role := by
    show required _ (Role.ofText? role.text) = .ok role
    rw [Role.ofText?_text, required_some]
  have hdigest : (setup.entryFields role image).get "digest" =
      .str (setup.approvedDigests role) := rfl
  have hexit : ((setup.entryFields role image).get "smoke_exit_code").pyEq
      (.int role.contract.smokeExitCode) = true := by
    show (Json.int role.contract.smokeExitCode).pyEq (.int role.contract.smokeExitCode) = true
    simp [Json.pyEq, Json.integer?]
  unfold checkImage
  simp only [asObject, ok_bind]
  rw [ensure_of _ hkeys, ok_bind, hrole, ok_bind, hdigest, ensure_of _ (h.approved role), ok_bind,
    ensure_of _ hexit, ok_bind, bind_eq_ok_iff]
  refine ⟨⟨⟩, forM_eq_ok_iff.mpr fun field hfield => ?_, rfl⟩
  obtain ⟨digest, hget⟩ := @digest_of_entryFields setup role image field hfield
  rw [hget, sha_text]
  rfl

theorem validateResultShape_signedEvidence (h : setup.Pinned)
    (hdigest : domainSha256 setup.H
      (.obj (setup.unsignedEvidence backendEvidence (setup.entries images))) = .ok digest) :
    validateResultShape setup.H
      (.obj (setup.signedEvidence backendEvidence digest (setup.entries images))) true =
      .ok (setup.signedEvidence backendEvidence digest (setup.entries images)) := by
  obtain ⟨manifest, hmanifest⟩ := h.manifest
  have hroles : (setup.entries images).mapM checkImage = .ok Role.all := by
    rw [mapM_eq_ok_iff, entries, List.forall₂_map_left_iff, List.forall₂_same]
    exact fun role _ => checkImage_entry h role (images role)
  generalize hfields : setup.signedEvidence backendEvidence digest (setup.entries images) = fields
  have hkeys : fields.hasExactKeys resultFields = true := by
    rw [← hfields]
    exact Fields.hasExactKeys_self (setup.signedEvidence backendEvidence digest _)
  have hnonlive : (fields.get "schema_version").pyEq (.str "1.0") = true ∧
      (fields.get "status").pyEq (.str "nonlive_ready") = true ∧
      isFalse (fields.get "credentials_read") = true ∧
      isFalse (fields.get "external_api_called") = true ∧
      isFalse (fields.get "external_network_created") = true ∧
      isFalse (fields.get "production_e2e_complete") = true := by
    rw [← hfields, Json.pyEq_str_right, Json.pyEq_str_right]
    exact ⟨rfl, rfl, rfl, rfl, rfl, rfl⟩
  have hmanifestField : fields.get "manifest_sha256" = .str manifest.text := by
    rw [← hfields, ← hmanifest]
    rfl
  have hbackendField : fields.get "backend_evidence_sha256" = .str backendEvidence.text := by
    rw [← hfields]
    rfl
  have hdigestField : fields.get "deployment_evidence_sha256" = .str digest.text := by
    rw [← hfields]
    rfl
  have himages : fields.get "images" = .arr (setup.entries images) := by
    rw [← hfields]
    rfl
  have hunsigned : fields.without "deployment_evidence_sha256" =
      setup.unsignedEvidence backendEvidence (setup.entries images) := by
    rw [← hfields]
    rfl
  unfold validateResultShape
  simp only [asObject, ok_bind]
  rw [ensure_of _ hkeys, ok_bind, ensure_of _ hnonlive, ok_bind, hmanifestField, sha_text, ok_bind,
    hbackendField, sha_text, ok_bind, hdigestField, sha_text, ok_bind, himages]
  simp only [asItems, ok_bind, if_true]
  rw [hroles, ok_bind, ensure_of _ ⟨rfl, by decide⟩, ok_bind, hunsigned, hdigest, ok_bind,
    ensure_of _ rfl]
  rfl

theorem encodes_entries : (Json.arr (setup.entries images)).Encodes := by
  rw [Json.encodes_arr]
  intro entry hmem
  obtain ⟨role, -, rfl⟩ := List.mem_map.mp hmem
  have hexit : (Json.int role.contract.smokeExitCode).Encodes := by cases role <;> rfl
  simp [entryFields, hexit]

/-- The entries of the four images make evidence. -/
theorem canonicalDeploymentCheckBytes_of_entries (h : setup.Pinned) (backendEvidence : Sha256)
    (images : Role → ImageEvidence) :
    ∃ digest raw, domainSha256 setup.H
        (.obj (setup.unsignedEvidence backendEvidence (setup.entries images))) = .ok digest ∧
      canonicalDeploymentCheckBytes setup.H
        (.obj (setup.signedEvidence backendEvidence digest (setup.entries images))) = .ok raw := by
  have hentries : (Json.arr (setup.entries images)).Encodes := encodes_entries
  have hunsigned : (Json.obj (setup.unsignedEvidence backendEvidence
      (setup.entries images))).Encodes := by
    simpa [unsignedEvidence] using hentries
  obtain ⟨line, hline⟩ := exists_canonical hunsigned
  have hdigest : domainSha256 setup.H
      (.obj (setup.unsignedEvidence backendEvidence (setup.entries images))) =
      .ok (setup.H (evidenceDomain ++ line)) := by
    rw [domainSha256, hline]
    rfl
  have hsigned : (Json.obj (setup.signedEvidence backendEvidence
      (setup.H (evidenceDomain ++ line)) (setup.entries images))).Encodes := by
    rw [signedEvidence_eq]
    simpa using hentries
  obtain ⟨raw, hraw⟩ := exists_canonical hsigned
  refine ⟨_, raw, hdigest, ?_⟩
  rw [canonicalDeploymentCheckBytes, validateResultShape_signedEvidence h hdigest, ok_bind, hraw]

end Evidence

end Setup

/-! ## A runner whose images are as their contracts say -/

/-- What the image prints in its smoke test. -/
def Role.printed : Role → Bytes × Bytes
  | .coordinator => (encodeUtf8 "usage: coordinator_main.py snapshot attested-judge\n", [])
  | .offlineRunner => (encodeUtf8 "Python 3.13.7\n", [])
  | .broker => ([], encodeUtf8 "ai-review-broker: request is empty or exceeds the byte limit\n")
  | .brokerGateway => ([], encodeUtf8 "egress gateway error: egress gateway accepts no arguments\n")

/-- `Config` in the inspection of the image. -/
def Role.shownConfig (role : Role) : Fields := [
  ("Cmd", Setup.optionalTexts role.contract.cmd),
  ("Entrypoint", Setup.optionalTexts role.contract.entrypoint),
  ("Env", .arr ((Setup.baseEnvironment ++ role.contract.environment).map fun setting =>
    .str (setting.1 ++ "=" ++ setting.2))),
  ("User", .str role.contract.user)]

namespace Setup

variable (setup : Setup)

def shownFields (role : Role) : Fields := [
  ("Config", .obj role.shownConfig),
  ("Digest", .str (setup.approvedDigests role)),
  ("RepoDigests", .arr [.str (setup.images role)])]

/-- The inspection of the image. -/
def shownImage (role : Role) : Json := .arr [.obj (setup.shownFields role)]

def answered (exitCode : ℤ) (stdout stderr : Bytes) : ProcessResult :=
  ⟨exitCode, stdout, stderr, 0, (setup.H stdout).text, (setup.H stderr).text⟩

def shownRunner : Runner := fun _ query => match query with
  | .token _ => .ok "0123456789abcdef"
  | .command (.inspect role) => .ok (setup.answered 0 (lineOf (setup.shownImage role)) [])
  | .command (.absence _) => .ok (setup.answered 1 [] [])
  | .command (.run role _) =>
    .ok (setup.answered role.contract.smokeExitCode role.printed.1 role.printed.2)
  | .command (.remove _) => .ok (setup.answered 0 [] [])

variable {setup} {role : Role}

theorem isPlain_optionalTexts (texts : Option (List String)) : (optionalTexts texts).IsPlain := by
  cases texts with
  | none => exact Json.isPlain_null
  | some texts =>
      refine Json.isPlain_arr.mpr (Json.plainItems_iff.mpr fun item hitem => ?_)
      obtain ⟨text, -, rfl⟩ := List.mem_map.mp hitem
      exact Json.isPlain_str text

theorem encodes_optionalTexts (texts : Option (List String)) : (optionalTexts texts).Encodes := by
  cases texts with
  | none => exact Json.encodes_null
  | some texts =>
      refine Json.encodes_arr.mpr fun item hitem => ?_
      obtain ⟨text, -, rfl⟩ := List.mem_map.mp hitem
      exact Json.encodes_str text

theorem isPlain_shownImage : (setup.shownImage role).IsPlain := by
  have hconfig : (Json.obj role.shownConfig).IsPlain := by
    refine Json.isPlain_obj.mpr
      ⟨show ["Cmd", "Entrypoint", "Env", "User"].Pairwise (· < ·) by decide, ?_⟩
    simp only [Role.shownConfig, Json.plainFields_cons, Json.isPlain_arr, Json.plainItems_iff,
      Json.isPlain_str, Json.plainFields_nil, and_true, isPlain_optionalTexts, true_and]
    intro item hitem
    obtain ⟨setting, -, rfl⟩ := List.mem_map.mp hitem
    exact Json.isPlain_str _
  have himage : (setup.shownFields role).SortedKeys :=
    show ["Config", "Digest", "RepoDigests"].Pairwise (· < ·) by decide
  simp only [shownImage, shownFields, Json.isPlain_arr, Json.plainItems_cons, Json.plainItems_nil,
    and_true, Json.isPlain_obj, Json.plainFields_cons, Json.plainFields_nil, Json.isPlain_str]
  exact ⟨himage, Json.isPlain_obj.mp hconfig⟩

theorem encodes_shownImage : (setup.shownImage role).Encodes := by
  simp only [shownImage, shownFields, Role.shownConfig, Json.encodes_arr, Json.encodes_obj,
    List.forall_mem_cons, encodes_optionalTexts, Json.encodes_str, true_and]
  refine ⟨⟨⟨fun item hitem => ?_, by simp⟩, by simp⟩, by simp⟩
  obtain ⟨setting, -, rfl⟩ := List.mem_map.mp hitem
  exact Json.encodes_str _

theorem exists_ok_of_isOk {α : Type} {result : Except Raised α} (h : result.isOk = true) :
    ∃ value, result = .ok value := by
  cases result with
  | ok value => exact ⟨value, rfl⟩
  | error error => cases h

theorem environmentMap_shownConfig (role : Role) :
    ∃ environment, environmentMap (role.shownConfig.get "Env") role.contract = .ok environment := by
  have hnodup : ((baseEnvironment ++ role.contract.environment).map Prod.fst).Nodup := by
    cases role <;> decide
  exact ⟨_, environmentMap_of_admissible rfl (admissible_of_mem role) hnodup⟩

theorem canonicalLine?_shownImage :
    Json.canonicalLine? (setup.shownImage role) = some (lineOf (setup.shownImage role)) :=
  canonicalLine?_lineOf encodes_shownImage

theorem textSize_shownConfig (role : Role) : Json.textSize (.obj role.shownConfig) ≤ 20000 := by
  have hcmd : Json.textSize (optionalTexts role.contract.cmd) ≤ 1000 := by
    cases role <;> decide
  have hentrypoint : Json.textSize (optionalTexts role.contract.entrypoint) ≤ 1000 := by
    cases role <;> decide
  have huser : role.contract.user.toList.length ≤ 20 := by cases role <;> decide
  have hsettings : (baseEnvironment ++ role.contract.environment).length ≤ 14 := by
    cases role <;> decide
  have hitem : ∀ item ∈ (baseEnvironment ++ role.contract.environment).map fun setting =>
      Json.str (setting.1 ++ "=" ++ setting.2), item.textSize ≤ 608 := by
    intro item hitem
    obtain ⟨setting, hsetting, rfl⟩ := List.mem_map.mp hitem
    have hlength := (admissible_of_mem role setting hsetting).length_le
    have hequals : "=".toList.length = 1 := rfl
    simp only [Json.textSize, Json.stringSize, String.toList_append, List.length_append]
    omega
  have hitems := Json.itemsSize_le hitem
  rw [List.length_map] at hitems
  simp [Role.shownConfig, Json.textSize, Json.fieldsSize, Json.stringSize] at *
  omega

theorem length_shownImage (happroved : (setup.approvedDigests role).toList.length = 71)
    (himage : (setup.images role).toList.length ≤ 512) :
    (lineOf (setup.shownImage role)).length ≤ 256000 := by
  have hlength := Json.canonicalLine?_length_le isPlain_shownImage
    (@canonicalLine?_shownImage setup role)
  have hconfig := textSize_shownConfig role
  simp [shownImage, shownFields, Json.textSize, Json.itemsSize, Json.fieldsSize,
    Json.stringSize] at *
  omega

/-- Such an inspection is accepted. -/
theorem inspectImage_shownImage (happroved : (setup.approvedDigests role).toList.length = 71)
    (himage : (setup.images role).toList.length ≤ 512) :
    ∃ digests, setup.inspectImage role (lineOf (setup.shownImage role)) = .ok digests := by
  have hstrict : strictJson (lineOf (setup.shownImage role)) "deployment image inspection" 256000 =
      .ok (setup.shownImage role) := by
    refine strictJson_of_canonical isPlain_shownImage ?_ (length_shownImage happroved himage)
    rw [canonical, canonicalLine?_shownImage, required_some]
  obtain ⟨environment, henvironment⟩ := environmentMap_shownConfig role
  have hentrypoint : commandSequence (role.shownConfig.get "Entrypoint") =
      .ok role.contract.entrypoint := by
    cases role <;> rfl
  have hcmd : commandSequence (role.shownConfig.get "Cmd") = .ok role.contract.cmd := by
    cases role <;> rfl
  have hencodes : (Json.obj [
      ("cmd", optionalTexts role.contract.cmd),
      ("digest", .str (setup.approvedDigests role)),
      ("entrypoint", optionalTexts role.contract.entrypoint),
      ("environment", sortedSettings environment),
      ("role", .str role.text),
      ("user", .str role.contract.user)]).Encodes := by
    simp only [sortedSettings, Json.encodes_obj, List.forall_mem_cons, encodes_optionalTexts,
      Json.encodes_str, Json.encodes_arr, true_and]
    refine ⟨fun item hitem => ?_, by simp⟩
    obtain ⟨setting, -, rfl⟩ := List.mem_map.mp hitem
    simp
  obtain ⟨line, hline⟩ := exists_canonical hencodes
  have hdigest : ((setup.shownFields role).get "Digest").pyEq
      (.str (setup.approvedDigests role)) = true := (Json.pyEq_str_right _ _).mpr rfl
  have himages : ([Json.str (setup.images role)].any fun item =>
      item.pyEq (.str (setup.images role))) = true := by
    rw [List.any_cons, (Json.pyEq_str_right _ _).mpr rfl, Bool.true_or]
  have huser : (role.shownConfig.get "User").pyEq (.str role.contract.user) = true :=
    (Json.pyEq_str_right _ _).mpr rfl
  have hconfig : (setup.shownFields role).get "Config" = .obj role.shownConfig := rfl
  have hrepository : (setup.shownFields role).get "RepoDigests" =
      .arr [.str (setup.images role)] := rfl
  refine ⟨(setup.H (lineOf (setup.shownImage role)), setup.H line), ?_⟩
  unfold inspectImage
  rw [hstrict, ok_bind, shownImage]
  simp only [asItems, asObject, ok_bind, List.headD_cons, hconfig, hrepository]
  rw [ensure_of _ List.length_singleton, ok_bind, ensure_of _ ⟨hdigest, himages, huser⟩, ok_bind,
    hentrypoint, ok_bind, hcmd, ok_bind, ensure_of _ ⟨rfl, rfl⟩, ok_bind, henvironment, ok_bind,
    hline]
  rfl

theorem within_answered {act : Act} {exitCode : ℤ} {stdout stderr : Bytes}
    (h : stdout.length + stderr.length ≤ act.maxOutputBytes) :
    (setup.answered exitCode stdout stderr).Within setup.H act :=
  ⟨h, ⟨le_refl 0, Int.mul_nonneg (Int.natCast_nonneg _) (by decide)⟩, rfl, rfl⟩

theorem validOutput_printed (role : Role) {result : ProcessResult}
    (hstdout : result.stdout = role.printed.1) (hstderr : result.stderr = role.printed.2) :
    validOutput role result = true := by
  unfold validOutput
  rw [hstdout, hstderr]
  cases role <;> decide

theorem honest_shownRunner (happroved : ∀ role, (setup.approvedDigests role).toList.length = 71)
    (himage : ∀ role, (setup.images role).toList.length ≤ 512) :
    setup.Honest setup.shownRunner := by
  constructor
  · exact fun _ _ => ⟨⟨"0123456789abcdef", by decide⟩, rfl⟩
  · intro _ role
    exact ⟨_, rfl, within_answered (length_shownImage (happroved role) (himage role)), ⟨rfl, rfl⟩,
      inspectImage_shownImage (happroved role) (himage role)⟩
  · exact fun _ name => ⟨_, rfl, within_answered (Nat.zero_le _), rfl, rfl, rfl⟩
  · intro _ role name
    have hlength : role.printed.1.length + role.printed.2.length ≤ 64000 := by
      cases role <;> decide
    exact ⟨_, rfl, within_answered hlength, rfl, validOutput_printed role rfl rfl⟩

/-! ## The whole check -/

theorem issuable_of_validate {backendEvidence : Sha256} (h : setup.validate = .ok backendEvidence)
    (hexecutable : validArgument setup.backend.executable = true)
    (himage : ∀ role, validArgument (setup.images role) = true) : setup.Issuable := by
  simp only [validate, bind_eq_ok_iff, ensure_eq_ok_iff] at h
  obtain ⟨_, -, _, -, _, habsolute, -⟩ := h
  exact ⟨habsolute.1, hexecutable, himage⟩

theorem validArgument_of_run_checkRoles {roles : List Role} {entries : List Json}
    {history after : History}
    (h : (setup.checkRoles roles).run runner history = (.ok entries, after)) :
    ∀ role ∈ roles, validArgument setup.backend.executable = true ∧
      validArgument (setup.images role) = true := by
  induction roles generalizing history after entries with
  | nil => exact fun role hrole => absurd hrole List.not_mem_nil
  | cons role roles ih =>
      rw [checkRoles] at h
      obtain ⟨entry, between, hentry, h⟩ := run_bind_eq_ok.mp h
      obtain ⟨rest, between, hrest, h⟩ := run_bind_eq_ok.mp h
      rw [List.forall_mem_cons]
      refine ⟨?_, ih hrest⟩
      unfold checkRole at hentry
      obtain ⟨result, between, hcommand, -⟩ := run_bind_eq_ok.mp hentry
      unfold command at hcommand
      simp only [liftM_eq_ofExcept] at hcommand
      obtain ⟨_, hvalid, -⟩ := run_ofExcept_bind_eq_ok.mp hcommand
      have hargv := ensure_eq_ok_iff.mp hvalid
      simp only [argv, validArgv, List.all_cons, Bool.and_eq_true] at hargv
      exact ⟨hargv.2.1, hargv.2.2.2.2.1⟩

/-- With an honest runner the check returns exactly when its inputs are valid and the names of the
runtime and of the images can stand on a command line. -/
theorem runDeploymentCheck_returns_iff (honest : setup.Honest runner) :
    (∃ raw, (setup.runDeploymentCheck.run runner []).1 = .ok raw) ↔
      (∃ backendEvidence, setup.validate = .ok backendEvidence) ∧
        validArgument setup.backend.executable = true ∧
        ∀ role, validArgument (setup.images role) = true := by
  constructor
  · rintro ⟨raw, hraw⟩
    obtain ⟨after, hrun⟩ : ∃ after, setup.runDeploymentCheck.run runner [] = (.ok raw, after) :=
      ⟨_, Prod.ext hraw rfl⟩
    unfold runDeploymentCheck at hrun
    simp only [liftM_eq_ofExcept] at hrun
    obtain ⟨backendEvidence, hvalidate, hrun⟩ := run_ofExcept_bind_eq_ok.mp hrun
    obtain ⟨items, between, hitems, -⟩ := run_bind_eq_ok.mp hrun
    have hvalid := validArgument_of_run_checkRoles hitems
    exact ⟨⟨backendEvidence, hvalidate⟩, (hvalid .broker (by decide)).1,
      fun role => (hvalid role role.mem_all).2⟩
  · rintro ⟨⟨backendEvidence, hvalidate⟩, hexecutable, himage⟩
    have issuable := issuable_of_validate hvalidate hexecutable himage
    obtain ⟨items, between, hitems, -⟩ := reaches_checkRoles honest issuable Role.all []
    obtain ⟨images, rfl⟩ : ∃ images, items = setup.entries images :=
      entries_of_checkRoles (by decide) hitems
    obtain ⟨digest, raw, hdigest, hraw⟩ := canonicalDeploymentCheckBytes_of_entries
      (pinned_of_validate hvalidate).1 backendEvidence images
    refine ⟨raw, ?_⟩
    unfold runDeploymentCheck
    simp only [liftM_eq_ofExcept]
    rw [run_ofExcept_bind_of_ok hvalidate, run_bind_of_ok hitems, run_ofExcept_bind_of_ok hdigest,
      run_ofExcept]
    exact hraw

/-- A release of four images on one registry. -/
def release : Setup where
  H := fun _ => LowerHex.ofNat 64 0
  manifestSha256 := (LowerHex.ofNat 64 0).text
  backend := {
    name := "podman", executable := "/bin/podman", rootless := true, userNamespace := true
    seccompEnabled := true, seccompProfile := "/seccomp.json"
    sha256 := (LowerHex.ofNat 64 0).text, securityEvidenceSha256 := (LowerHex.ofNat 64 0).text
    deploymentEnvironmentSha256 := (LowerHex.ofNat 64 0).text
    configPathSha256 := (LowerHex.ofNat 64 0).text
    graphRootPathSha256 := (LowerHex.ofNat 64 0).text
    runRootPathSha256 := (LowerHex.ofNat 64 0).text
    seccompPathSha256 := (LowerHex.ofNat 64 0).text
    podmanInfoSha256 := (LowerHex.ofNat 64 0).text
    environment := [
      ("CONTAINERS_STORAGE_CONF", "/etc/containers/storage.conf"), ("HOME", "/root"),
      ("LC_ALL", "C"), ("PATH", "/bin:/usr/bin"), ("XDG_CONFIG_HOME", "/etc"),
      ("XDG_DATA_HOME", "/var"), ("XDG_RUNTIME_DIR", "/run")] }
  images role := "r/" ++ role.text ++ "@sha256:" ++ (LowerHex.ofNat 64 (Role.all.idxOf role)).text
  approvedDigests role := "sha256:" ++ (LowerHex.ofNat 64 (Role.all.idxOf role)).text

theorem isReference_release (role : Role) : IsReference (release.images role) ['r']
    role.text.toList (LowerHex.ofNat 64 (Role.all.idxOf role)) where
  text := by simp [release, String.toList_append]
  registry_valid := by decide
  component_matches := by cases role <;> decide
  names := by cases role <;> decide
  length_le := by cases role <;> decide

theorem isOk_bind {α β : Type} {x : Except Raised α} {f : α → Except Raised β} {a : α}
    (hx : x = .ok a) (hf : (f a).isOk = true) : (x >>= f).isOk = true := by
  rw [hx, ok_bind, hf]

theorem confined_release :
    contains "unconfined" (casefold release.backend.seccompProfile) = false := by
  rw [Broker.contains_casefold_of_ascii (by decide)]
  decide

theorem canonicalBackendEvidenceSha256_release :
    (canonicalBackendEvidenceSha256 release.H release.backend).isOk = true := by
  have hvalid : environmentValid release.backend.environment = true := by decide
  obtain ⟨config, hconfig⟩ : ∃ config,
      explicitStorageConfigPath release.backend.environment = .ok config :=
    exists_ok_of_isOk (by decide)
  have hcontrol : hasControl release.backend.seccompProfile = false := by decide
  unfold canonicalBackendEvidenceSha256
  iterate 8 refine isOk_bind (sha_text (LowerHex.ofNat 64 0) _) ?_
  refine isOk_bind (ensure_of _ hvalid) (isOk_bind hconfig ?_)
  refine isOk_bind (ensure_of _ ⟨rfl, rfl, rfl, rfl, by decide, confined_release, hcontrol⟩) ?_
  refine isOk_bind (exists_canonical ?_).choose_spec rfl
  simp only [Json.encodes_obj, Json.encodes_arr, List.forall_mem_cons, Json.encodes_str,
    Json.encodes_bool, List.forall_mem_map, List.not_mem_nil, false_implies, implies_true, and_true]

theorem validate_release : ∃ digest, release.validate = .ok digest := by
  have himage : ∀ role, imageDigest (release.images role) = .ok (release.approvedDigests role) :=
    fun role => (isReference_release role).imageDigest_eq
  have happroved : ∀ role, matchesDigest (release.approvedDigests role) = true :=
    fun role => matchesDigest_text _
  have hroles : (Role.all.forM fun role => do
      ensure (matchesDigest (release.approvedDigests role) = true)
        (Raised.deployment "deployment image is not manifest-pinned")
      let digest ← imageDigest (release.images role)
      ensure (digest = release.approvedDigests role)
        (Raised.deployment "deployment image is not manifest-pinned")) = .ok ⟨⟩ := by
    refine forM_eq_ok_iff.mpr fun role _ => ?_
    rw [ensure_of _ (happroved role), ok_bind, himage, ok_bind, ensure_of _ rfl]
  have hexecutable : isAbsolute release.backend.executable = true ∧
      (pathParts release.backend.executable).getLast? = some "podman" := by decide
  have hnodup : (Role.all.map release.approvedDigests).Nodup := by decide
  have hsorted : (release.backend.environment.map Prod.fst).Pairwise (· < ·) := by decide
  obtain ⟨digest, hbackend⟩ := exists_ok_of_isOk canonicalBackendEvidenceSha256_release
  refine ⟨digest, ?_⟩
  unfold validate
  rw [show sha (.str release.manifestSha256) "deployment manifest digest" =
    .ok (LowerHex.ofNat 64 0) from sha_text _ _, ok_bind,
    ensure_of _ ⟨rfl, rfl, rfl, rfl, by decide, confined_release⟩, ok_bind, ensure_of _ hexecutable,
    ok_bind, hbackend, ok_bind, hroles, ok_bind, ensure_of _ hnodup, ok_bind,
    ensure_of _ hsorted]
  rfl

theorem runDeploymentCheck_release :
    ∃ raw, (release.runDeploymentCheck.run release.shownRunner []).1 = .ok raw := by
  have honest : release.Honest release.shownRunner := by
    refine honest_shownRunner (fun role => length_of_matchesDigest (matchesDigest_text _))
      fun role => ?_
    have hreference := isReference_release role
    have hsize := hreference.length_le
    rw [hreference.length]
    omega
  exact (runDeploymentCheck_returns_iff honest).mpr ⟨validate_release, by decide,
    fun role => (isReference_release role).validArgument⟩

end Setup

end AmazonSimilarSearch.Deployment
