import AmazonSimilarSearch.Foundation.JsonFields
import AmazonSimilarSearch.Snapshot.Verify

/-!
# The manifest of a snapshot

What the loader and the checks of an entry establish, and that what was stored is loaded.
-/
namespace AmazonSimilarSearch.Snapshot
open Foundation
open Packet (SnapshotFile)
open Review (pathParts pathRoot sensitivePathReason)

/-! ## The entries of the manifest -/

/-- The entry that lists a file. -/
def entryJson (file : SnapshotFile) : Json := .obj [
  ("mode", .str file.mode), ("path", .str file.path), ("sha256", .str file.sha256),
  ("size", .int file.size)]

/-- What the checks of an entry establish. -/
structure Listed (file : SnapshotFile) : Prop where
  mode : file.mode = "100644" ∨ file.mode = "100755"
  relative : pathRoot file.path.toList = []
  normal : ∀ part ∈ pathParts file.path, part ≠ ".."
  digest : matchesLowerHex 64 file.sha256 = true
  sensitive : sensitivePathReason file.path = none

theorem readMode_eq_ok {value : Json} {mode : String} (h : readMode value = .ok mode) :
    value = .str mode ∧ (mode = "100644" ∨ mode = "100755") := by
  cases value with
  | str text =>
      simp only [readMode, bind_eq_ok_iff, ensure_eq_ok_iff, pure_eq_ok_iff] at h
      obtain ⟨_, hmode, rfl⟩ := h
      exact ⟨rfl, hmode⟩
  | _ => cases h

theorem asText_eq_some {value : Json} {text : String} (h : asText value = some text) :
    value = .str text := by
  cases value with
  | str other => cases h; rfl
  | _ => cases h

theorem readSize_eq_some {value : Json} {size : ℕ} (h : readSize value = some size) :
    value = .int size := by
  cases value with
  | int i =>
      rw [readSize] at h
      split_ifs at h with hi
      cases h
      rw [Int.toNat_of_nonneg hi]
  | _ => cases h

theorem listed_of_readEntry {previousPath : String} {entry : Json} {file : SnapshotFile}
    (hordered : entry.IsOrdered) (h : readEntry previousPath entry = .ok file) :
    entry = entryJson file ∧ previousPath < file.path ∧ Listed file := by
  simp only [readEntry, bind_eq_ok_iff, required_eq_ok_iff, ensure_eq_ok_iff] at h
  obtain ⟨fields, hfields, _, hkeys, mode, hmode, path, hpath, _, ⟨hless, hrelative, hparts⟩, size,
    hsize, sha256, hsha, _, hdigest, h⟩ := h
  cases hsensitive : sensitivePathReason path with
  | some reason => rw [hsensitive] at h; cases h
  | none =>
      rw [hsensitive] at h
      simp only [pure_eq_ok_iff] at h
      subst h
      obtain ⟨hmodeField, hallowed⟩ := readMode_eq_ok hmode
      have hentry : entry = .obj fields := by
        cases entry with
        | obj fs => cases hfields; rfl
        | _ => cases hfields
      subst hentry
      have hfieldsEq := Fields.eq_of_hasExactKeys (Json.isOrdered_obj.mp hordered).1
        (show entryFields.Pairwise (· < ·) by decide) hkeys
      refine ⟨?_, hless, hallowed, hrelative, fun part hpart => ?_, hdigest, hsensitive⟩
      · rw [hfieldsEq, entryJson]
        simp only [entryFields, List.map_cons, List.map_nil, hmodeField, asText_eq_some hpath,
          readSize_eq_some hsize, asText_eq_some hsha]
      · have hnot := List.any_eq_false.mp hparts part hpart
        simp only [List.contains_cons, List.contains_nil, Bool.or_false, Bool.or_eq_true,
          beq_iff_eq, not_or] at hnot
        exact hnot.2.2

/-! ## The manifest -/

theorem excludedPaths_of_read {value : Json} {paths : List String}
    (h : readExcludedPaths value = .ok paths) : paths = [] ∨ paths = [".env.example"] := by
  unfold readExcludedPaths at h
  split_ifs at h with hnone hexample
  · cases h; exact .inl rfl
  · cases h; exact .inr rfl

theorem isOrdered_get {fields : Fields} (h : Json.IsOrdered (.obj fields)) (key : String) :
    (fields.get key).IsOrdered := by
  by_cases hnull : fields.get key = .null
  · rw [hnull]
    exact Json.isOrdered_null
  · exact (Json.isOrdered_obj.mp h).2 _ (Fields.mem_of_get hnull)

theorem loadManifest_eq_ok {raw : Bytes} {manifest : Manifest}
    (h : loadManifest raw = .ok manifest) :
    (manifest.excludedPaths = [] ∨ manifest.excludedPaths = [".env.example"]) ∧
      ∀ item ∈ manifest.files, item.IsOrdered := by
  simp only [loadManifest, bind_eq_ok_iff, required_eq_ok_iff, mapError_eq_ok_iff,
    ensure_eq_ok_iff, pure_eq_ok_iff] at h
  obtain ⟨text, -, payload, hpayload, fields, hfields, _, -, _, -, commit, -, tree, -, _, -, digest,
    -, _, -, files, hfiles, excluded, hexcluded, rfl⟩ := h
  have hordered := Json.isOrdered_of_loads hpayload
  have hget : fields.get "files" = .arr files := by
    cases hitems : fields.get "files" with
    | arr items => rw [hitems] at hfiles; cases hfiles; rfl
    | _ => rw [hitems] at hfiles; cases hfiles
  cases payload with
  | obj entries =>
      cases hfields
      refine ⟨excludedPaths_of_read hexcluded, fun item hitem => ?_⟩
      have hfilesOrdered := isOrdered_get hordered "files"
      rw [hget] at hfilesOrdered
      exact Json.isOrdered_arr.mp hfilesOrdered item hitem
  | _ => cases hfields

/-! ## What is stored -/

theorem isPlain_entryJson (file : SnapshotFile) : (entryJson file).IsPlain := by
  rw [entryJson, Json.isPlain_obj]
  exact ⟨by simp only [Fields.SortedKeys, Fields.keys, List.map]; decide, by simp⟩

theorem encodes_entryJson {file : SnapshotFile} (h : file.size ≤ maxFileBytes) :
    (entryJson file).Encodes := by
  have hsize : (file.size : ℤ).natAbs < 10 ^ maxIntegerDigits := by
    have hten : 10 ^ 7 ≤ 10 ^ maxIntegerDigits := Nat.pow_le_pow_right (by decide) (by decide)
    have hseven : maxFileBytes < 10 ^ 7 := by decide
    rw [Int.natAbs_natCast]
    exact (Nat.lt_of_le_of_lt h hseven).trans_le hten
  rw [entryJson, Json.encodes_obj]
  simp only [List.forall_mem_cons, Json.encodes_str, Json.encodes_int hsize, true_and]
  exact List.forall_mem_nil _

theorem plainItems_texts (texts : List String) : Json.PlainItems (texts.map .str) := by
  rw [Json.plainItems_iff]
  intro item hitem
  obtain ⟨text, -, rfl⟩ := List.mem_map.mp hitem
  exact Json.isPlain_str text

section Stored

variable {manifest : Manifest}

/-- What the loader accepts, with entries that can be written. -/
structure Manifest.Valid (manifest : Manifest) : Prop where
  commit : matchesCommit manifest.commitSha = true ∧ matchesCommit manifest.commitTreeSha = true
  digest : matchesLowerHex 64 manifest.snapshotSha256 = true
  excluded : manifest.excludedPaths = [] ∨ manifest.excludedPaths = [".env.example"]
  plain : ∀ item ∈ manifest.files, item.IsPlain
  encodes : ∀ item ∈ manifest.files, item.Encodes

theorem isPlain_digestPayload (h : ∀ item ∈ manifest.files, item.IsPlain) :
    manifest.digestPayload.IsPlain := by
  rw [Manifest.digestPayload, Json.isPlain_obj]
  refine ⟨by simp only [Fields.SortedKeys, Fields.keys, List.map]; decide, ?_⟩
  simp [Json.isPlain_arr, plainItems_texts, Json.plainItems_iff.mpr h]

theorem encodes_digestPayload (h : ∀ item ∈ manifest.files, item.Encodes) :
    manifest.digestPayload.Encodes := by
  simpa [Manifest.digestPayload] using h

theorem isPlain_storedManifest (h : ∀ item ∈ manifest.files, item.IsPlain) :
    manifest.storedManifest.IsPlain := by
  rw [Manifest.storedManifest, Json.isPlain_obj]
  refine ⟨by simp only [Fields.SortedKeys, Fields.keys, List.map]; decide, ?_⟩
  simp [Json.isPlain_arr, plainItems_texts, Json.plainItems_iff.mpr h]

theorem encodes_storedManifest (h : ∀ item ∈ manifest.files, item.Encodes) :
    manifest.storedManifest.Encodes := by
  simpa [Manifest.storedManifest] using h

/-- What was stored is loaded. -/
theorem loadManifest_stored (h : manifest.Valid) :
    loadManifest (lineOf manifest.storedManifest) = .ok manifest := by
  obtain ⟨text, htext, hloads⟩ := Json.loads_of_canonicalLine ⟨true, false⟩
    (isPlain_storedManifest h.plain) (canonicalLine?_lineOf (encodes_storedManifest h.encodes))
  have hexcluded : readExcludedPaths (.arr (manifest.excludedPaths.map .str)) =
      .ok manifest.excludedPaths := by
    rcases h.excluded with hpaths | hpaths
    · rw [hpaths]
      rfl
    · rw [hpaths]
      rfl
  rw [loadManifest]
  simp only [bind_eq_ok_iff, required_eq_ok_iff, mapError_eq_ok_iff, ensure_eq_ok_iff,
    pure_eq_ok_iff]
  exact ⟨text, htext, _, hloads, _, rfl, ⟨⟩, by rfl, ⟨⟩, by rfl, _, rfl, _, rfl, ⟨⟩, h.commit, _,
    rfl, ⟨⟩, h.digest, _, rfl, _, hexcluded, rfl⟩

end Stored

end AmazonSimilarSearch.Snapshot
