import AmazonSimilarSearch.Deployment.SmokeTest
import AmazonSimilarSearch.Foundation.JsonFields
import AmazonSimilarSearch.Foundation.JsonSize

/-!
# Accepting the evidence of a check

What `run_deployment_check` returns passes `validate_deployment_check_bytes`, and it passes only
against the digests that the check was given.
-/
namespace AmazonSimilarSearch.Deployment
open Foundation Interaction

/-- What the evidence says of an image, beside its role, its digest and the exit code. -/
structure ImageEvidence where
  inspectSha256 : Sha256
  metadataSha256 : Sha256
  argvSha256 : Sha256
  stderrSha256 : Sha256
  stdoutSha256 : Sha256

namespace Setup

variable (setup : Setup)

/-- The entry of an image that has passed. -/
def entryFields (role : Role) (image : ImageEvidence) : Fields := [
  ("digest", .str (setup.approvedDigests role)),
  ("inspect_sha256", .str image.inspectSha256.text),
  ("metadata_sha256", .str image.metadataSha256.text),
  ("role", .str role.text),
  ("smoke_argv_sha256", .str image.argvSha256.text),
  ("smoke_exit_code", .int role.contract.smokeExitCode),
  ("smoke_stderr_sha256", .str image.stderrSha256.text),
  ("smoke_stdout_sha256", .str image.stdoutSha256.text)]

/-- The evidence with its digest. -/
def signedEvidence (backendEvidence digest : Sha256) (images : List Json) : Fields :=
  (setup.unsignedEvidence backendEvidence images).insert "deployment_evidence_sha256"
    (.str digest.text)

variable {setup}

/-! ## The entries of the evidence -/

section Entries

variable {runner : Runner} {history after : History} {role : Role}

theorem exitCode_of_concludeSmoke {name : String} {result : Except Raised ProcessResult}
    {smoke : SmokeEvidence}
    (h : (setup.concludeSmoke role name result).run runner history = (.ok smoke, after)) :
    smoke.exitCode = role.contract.smokeExitCode := by
  unfold concludeSmoke at h
  obtain ⟨outcome, between, -, h⟩ := run_bind_eq_ok.mp h
  cases outcome with
  | error error => cases h
  | ok value =>
      simp only [liftM_eq_ofExcept] at h
      obtain ⟨value, -, h⟩ := run_ofExcept_bind_eq_ok.mp h
      obtain ⟨_, hexpected, h⟩ := run_ofExcept_bind_eq_ok.mp h
      obtain ⟨rfl, -⟩ := run_done_eq_ok.mp h
      exact (ensure_eq_ok_iff.mp hexpected).1

theorem exitCode_of_smokeImage {smoke : SmokeEvidence}
    (h : (setup.smokeImage role).run runner history = (.ok smoke, after)) :
    smoke.exitCode = role.contract.smokeExitCode := by
  unfold smokeImage at h
  obtain ⟨token, between, -, h⟩ := run_bind_eq_ok.mp h
  cases token with
  | error error => cases h
  | ok token =>
      obtain ⟨_, between, -, h⟩ := run_bind_eq_ok.mp h
      obtain ⟨_, between, -, h⟩ := run_bind_eq_ok.mp h
      unfold smokeContainer at h
      obtain ⟨result, between, -, h⟩ := run_bind_eq_ok.mp h
      exact exitCode_of_concludeSmoke h

theorem entry_of_checkRole {entry : Json}
    (h : (setup.checkRole role).run runner history = (.ok entry, after)) :
    ∃ image, entry = .obj (setup.entryFields role image) := by
  unfold checkRole at h
  obtain ⟨result, between, -, h⟩ := run_bind_eq_ok.mp h
  obtain ⟨_, between, -, h⟩ := run_bind_eq_ok.mp h
  obtain ⟨digests, between, -, h⟩ := run_bind_eq_ok.mp h
  obtain ⟨smoke, between, hsmoke, h⟩ := run_bind_eq_ok.mp h
  obtain ⟨rfl, -⟩ := run_done_eq_ok.mp h
  refine ⟨⟨digests.1, digests.2, smoke.argvSha256, smoke.stderrSha256, smoke.stdoutSha256⟩, ?_⟩
  rw [exitCode_of_smokeImage hsmoke]
  rfl

theorem entries_of_checkRoles {roles : List Role} {entries : List Json} (hroles : roles.Nodup)
    (h : (setup.checkRoles roles).run runner history = (.ok entries, after)) :
    ∃ images : Role → ImageEvidence,
      entries = roles.map fun role => .obj (setup.entryFields role (images role)) := by
  induction roles generalizing history after entries with
  | nil =>
      obtain ⟨rfl, -⟩ := run_done_eq_ok.mp h
      exact ⟨fun _ => ⟨setup.H [], setup.H [], setup.H [], setup.H [], setup.H []⟩, rfl⟩
  | cons role roles ih =>
      obtain ⟨hrole, hroles⟩ := List.nodup_cons.mp hroles
      rw [checkRoles] at h
      obtain ⟨entry, between, hentry, h⟩ := run_bind_eq_ok.mp h
      obtain ⟨rest, between, hrest, h⟩ := run_bind_eq_ok.mp h
      obtain ⟨rfl, -⟩ := run_done_eq_ok.mp h
      obtain ⟨image, rfl⟩ := entry_of_checkRole hentry
      obtain ⟨images, rfl⟩ := ih hroles hrest
      refine ⟨Function.update images role image, ?_⟩
      rw [List.map_cons, Function.update_self]
      refine congrArg₂ List.cons rfl (List.map_congr_left fun other hother => ?_)
      rw [Function.update_of_ne (ne_of_mem_of_not_mem hother hrole)]

end Entries

/-! ## Reading the evidence back -/

section Reading

variable {H : HashFunction}

theorem sha_eq_ok_iff {value : Json} {label : String} {digest : Sha256} :
    sha value label = .ok digest ↔ value = .str digest.text := by
  unfold sha
  rw [required_eq_ok_iff]
  cases value with
  | str text => rw [LowerHex.ofText?_eq_some_iff, Json.str.injEq, eq_comm]
  | _ => simp

theorem length_of_matchesDigest {text : String} (h : matchesDigest text = true) :
    text.toList.length = 71 := by
  simp only [matchesDigest, matchesLowerHex, Bool.and_eq_true, decide_eq_true_eq, beq_iff_eq,
    String.toList_ofList] at h
  have htake := congrArg List.length h.1
  have hdrop := h.2.1
  rw [List.length_take] at htake
  rw [List.length_drop] at hdrop
  have hstem : "sha256:".toList.length = 7 := by decide
  omega

/-- The fields that are returned are those of the value. -/
theorem eq_obj_of_validateResultShape {value : Json} {fields : Fields}
    (h : validateResultShape H value true = .ok fields) : value = .obj fields := by
  simp only [validateResultShape, bind_eq_ok_iff, if_true, pure_eq_ok_iff] at h
  obtain ⟨read, hread, _, -, _, -, _, -, _, -, _, -, _, -, _, -, _, -, _, -, _, -, rfl⟩ := h
  cases value with
  | obj fs => cases hread; rfl
  | _ => cases hread

theorem strictJson_of_canonical {value : Json} {raw : Bytes} {label : String} {maximum : ℕ}
    (hvalue : value.IsPlain) (hraw : canonical value = .ok raw) (hsize : raw.length ≤ maximum) :
    strictJson raw label maximum = .ok value := by
  have hline := required_eq_ok_iff.mp hraw
  obtain ⟨text, htext, hloads⟩ := Json.loads_of_canonicalLine ⟨true, true⟩ hvalue hline
  unfold strictJson
  rw [ensure_of _ ⟨Json.canonicalLine_ne_nil hline, hsize⟩, ok_bind, htext, required_some, ok_bind,
    hloads]
  rfl

end Reading

section Evidence

variable {backendEvidence digest : Sha256} {images : Role → ImageEvidence}

/-- The entries of all images. -/
def entries (setup : Setup) (images : Role → ImageEvidence) : List Json :=
  Role.all.map fun role => .obj (setup.entryFields role (images role))

theorem sortedKeys_entryFields (role : Role) :
    (setup.entryFields role (images role)).SortedKeys :=
  show imageFields.Pairwise (· < ·) by decide

theorem sortedKeys_signedEvidence {items : List Json} :
    (setup.signedEvidence backendEvidence digest items).SortedKeys :=
  show resultFields.Pairwise (· < ·) by decide

theorem isPlain_entries : Json.PlainItems (setup.entries images) := by
  rw [Json.plainItems_iff]
  intro entry hmem
  obtain ⟨role, -, rfl⟩ := List.mem_map.mp hmem
  refine Json.isPlain_obj.mpr ⟨sortedKeys_entryFields role, ?_⟩
  simp only [entryFields, Json.plainFields_cons, Json.isPlain_str, Json.isPlain_int,
    Json.plainFields_nil, and_true]

/-- The digest stands among the other fields. -/
theorem signedEvidence_eq (items : List Json) :
    setup.signedEvidence backendEvidence digest items = [
      ("backend_evidence_sha256", .str backendEvidence.text),
      ("credentials_read", .bool false),
      ("deployment_evidence_sha256", .str digest.text),
      ("external_api_called", .bool false),
      ("external_network_created", .bool false),
      ("images", .arr items),
      ("manifest_sha256", .str setup.manifestSha256),
      ("production_e2e_complete", .bool false),
      ("schema_version", .str "1.0"),
      ("status", .str "nonlive_ready")] := rfl

theorem isPlain_signedEvidence :
    (Json.obj (setup.signedEvidence backendEvidence digest (setup.entries images))).IsPlain := by
  refine Json.isPlain_obj.mpr ⟨sortedKeys_signedEvidence, ?_⟩
  rw [signedEvidence_eq]
  simp only [Json.plainFields_cons, Json.isPlain_str, Json.isPlain_bool, Json.isPlain_arr,
    Json.plainFields_nil, and_true, true_and]
  exact isPlain_entries

/-- The digests that were checked before the first command. -/
structure Pinned (setup : Setup) : Prop where
  manifest : ∃ digest : Sha256, setup.manifestSha256 = digest.text
  approved : ∀ role, matchesDigest (setup.approvedDigests role) = true

theorem pinned_of_validate {backendEvidence : Sha256}
    (h : setup.validate = .ok backendEvidence) :
    setup.Pinned ∧ canonicalBackendEvidenceSha256 setup.H setup.backend = .ok backendEvidence := by
  simp only [validate, bind_eq_ok_iff, ensure_eq_ok_iff, pure_eq_ok_iff, sha_eq_ok_iff] at h
  obtain ⟨manifest, hmanifest, _, -, _, -, _, hbackend, _, happroved, _, -, _, -, rfl⟩ := h
  refine ⟨⟨⟨manifest, Json.str.inj hmanifest⟩, fun role => ?_⟩, hbackend⟩
  · have hrole := forM_eq_ok_iff.mp happroved role role.mem_all
    simp only [bind_eq_ok_iff, ensure_eq_ok_iff] at hrole
    obtain ⟨_, hdigest, -⟩ := hrole
    exact hdigest

theorem textSize_entry (h : setup.Pinned) (role : Role) (image : ImageEvidence) :
    Json.textSize (.obj (setup.entryFields role image)) ≤ 4000 := by
  have hrole : role.text.toList.length ≤ 14 := by cases role <;> decide
  have hexit : role.contract.smokeExitCode.natAbs ≤ 2 := by cases role <;> decide
  have happroved := length_of_matchesDigest (h.approved role)
  simp [entryFields, Json.textSize, Json.fieldsSize, Json.stringSize, LowerHex.length_toList] at *
  omega

theorem textSize_signedEvidence (h : setup.Pinned) :
    Json.textSize (.obj (setup.signedEvidence backendEvidence digest (setup.entries images))) ≤
      20000 := by
  have hbroker := textSize_entry h .broker (images .broker)
  have hgateway := textSize_entry h .brokerGateway (images .brokerGateway)
  have hcoordinator := textSize_entry h .coordinator (images .coordinator)
  have hrunner := textSize_entry h .offlineRunner (images .offlineRunner)
  obtain ⟨manifest, hmanifest⟩ := h.manifest
  have hlength : setup.manifestSha256.toList.length = 64 := hmanifest ▸ manifest.length_toList
  have hdigest := digest.length_toList
  have hbackend := backendEvidence.length_toList
  rw [signedEvidence_eq]
  simp only [Json.textSize, Json.fieldsSize, Json.itemsSize, Json.stringSize, entries, Role.all,
    List.map_cons, List.map_nil] at *
  simp at *
  omega

theorem digestsByRole_entries :
    digestsByRole (.arr (setup.entries images)) =
      Role.all.map fun role => (role.text, .str (setup.approvedDigests role)) := by
  have hsorted : Fields.SortedKeys
      (Role.all.map fun role => (role.text, Json.str (setup.approvedDigests role))) :=
    show ["broker", "broker-gateway", "coordinator", "offline-runner"].Pairwise (· < ·) by decide
  exact Fields.ofPairs_sorted hsorted

theorem pyEqFields_digests {digests digests' : Role → String} :
    Json.pyEqFields (Role.all.map fun role => (role.text, .str (digests role)))
      (Fields.ofPairs (Role.all.map fun role => (role.text, .str (digests' role)))) = true ↔
      digests = digests' := by
  have hsorted : Fields.SortedKeys
      (Role.all.map fun role => (role.text, Json.str (digests' role))) :=
    show ["broker", "broker-gateway", "coordinator", "offline-runner"].Pairwise (· < ·) by decide
  rw [Fields.ofPairs_sorted hsorted]
  simp only [Role.all, List.map_cons, List.map_nil, Json.pyEqFields, Json.pyEq, beq_self_eq_true,
    Bool.true_and, Bool.and_true, Bool.and_eq_true, beq_iff_eq]
  constructor
  · rintro ⟨hbroker, hgateway, hcoordinator, hrunner⟩
    funext role
    cases role with
    | broker => exact hbroker
    | brokerGateway => exact hgateway
    | coordinator => exact hcoordinator
    | offlineRunner => exact hrunner
  · rintro rfl
    exact ⟨rfl, rfl, rfl, rfl⟩

/-- Evidence that was validated where it was made is read back against the same digests only. -/
theorem validateDeploymentCheckBytes_eq_ok (hpinned : setup.Pinned) {raw : Bytes} {fields : Fields}
    (hfields : fields = setup.signedEvidence backendEvidence digest (setup.entries images))
    (hshape : validateResultShape setup.H (.obj fields) true = .ok fields)
    (hraw : canonical (.obj fields) = .ok raw) {manifest backend : String}
    {digests : Role → String} {parsed : Fields} :
    validateDeploymentCheckBytes setup.H raw manifest backend digests = .ok parsed ↔
      parsed = fields ∧ manifest = setup.manifestSha256 ∧ backend = backendEvidence.text ∧
        digests = setup.approvedDigests := by
  have hplain : (Json.obj fields).IsPlain := hfields ▸ isPlain_signedEvidence
  have hsize : raw.length ≤ 128000 := by
    have hlength := Json.canonicalLine?_length_le hplain (required_eq_ok_iff.mp hraw)
    have htext : Json.textSize (.obj fields) ≤ 20000 := hfields ▸ textSize_signedEvidence hpinned
    omega
  unfold validateDeploymentCheckBytes
  rw [strictJson_of_canonical hplain hraw hsize, ok_bind, hshape, ok_bind, hraw, ok_bind,
    ensure_of _ rfl, ok_bind]
  simp only [bind_eq_ok_iff, ensure_eq_ok_iff, pure_eq_ok_iff, Json.pyEq_str_right]
  have himages : digestsByRole (fields.get "images") =
      Role.all.map fun role => (role.text, .str (setup.approvedDigests role)) := by
    rw [hfields]
    exact digestsByRole_entries
  have hmanifest : fields.get "manifest_sha256" = .str setup.manifestSha256 := by
    rw [hfields]
    rfl
  have hbackend : fields.get "backend_evidence_sha256" = .str backendEvidence.text := by
    rw [hfields]
    rfl
  rw [himages, hmanifest, hbackend, pyEqFields_digests, Json.str.injEq, Json.str.injEq]
  constructor
  · rintro ⟨_, ⟨rfl, rfl, rfl⟩, rfl⟩
    exact ⟨rfl, rfl, rfl, rfl⟩
  · rintro ⟨rfl, rfl, rfl, rfl⟩
    exact ⟨⟨⟩, ⟨rfl, rfl, rfl⟩, rfl⟩

end Evidence

/-! ## The whole check -/

/-- A returned line is accepted against the inputs of its own check, and against no others. -/
theorem runDeploymentCheck_accepted (runner : Runner) :
    Returned (fun raw => ∀ (manifest backend : String) (digests : Role → String),
        (∃ fields, validateDeploymentCheckBytes setup.H raw manifest backend digests = .ok fields) ↔
          manifest = setup.manifestSha256 ∧
            (canonicalBackendEvidenceSha256 setup.H setup.backend).map (·.text) = .ok backend ∧
            digests = setup.approvedDigests)
      (setup.runDeploymentCheck.run runner []).1 := by
  rw [returned_iff]
  intro raw hraw manifest backend digests
  obtain ⟨after, hrun⟩ : ∃ after, setup.runDeploymentCheck.run runner [] = (.ok raw, after) :=
    ⟨_, Prod.ext hraw rfl⟩
  unfold runDeploymentCheck at hrun
  simp only [liftM_eq_ofExcept] at hrun
  obtain ⟨backendEvidence, hvalidate, hrun⟩ := run_ofExcept_bind_eq_ok.mp hrun
  obtain ⟨items, between, hitems, hrun⟩ := run_bind_eq_ok.mp hrun
  obtain ⟨digest, -, hrun⟩ := run_ofExcept_bind_eq_ok.mp hrun
  obtain ⟨hbytes, -⟩ := run_ofExcept_eq_ok.mp hrun
  obtain ⟨images, rfl⟩ := entries_of_checkRoles (by decide) hitems
  obtain ⟨hpinned, hbackend⟩ := pinned_of_validate hvalidate
  obtain ⟨fields, hshape, hcanonical⟩ := bind_eq_ok_iff.mp hbytes
  have hfields := Json.obj.inj (eq_obj_of_validateResultShape hshape)
  subst hfields
  rw [exists_congr fun _ =>
    validateDeploymentCheckBytes_eq_ok hpinned rfl hshape hcanonical, exists_eq_left, hbackend]
  simp only [Except.map, Except.ok.injEq]
  rw [eq_comm (a := backend)]

end Setup

end AmazonSimilarSearch.Deployment
