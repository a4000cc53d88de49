import AmazonSimilarSearch.Deployment.Acceptance
import AmazonSimilarSearch.Deployment.Containment
import AmazonSimilarSearch.Foundation.JoinedFields
import Mathlib.Tactic.MkIffOfInductiveProp

/-!
# Settings and names of images

Settings with plain names are read back from the inspection of an image, and the digest is read
from the reference to an image in a registry.
-/
namespace AmazonSimilarSearch.Deployment
open Foundation
open Broker (contains)

namespace Setup

/-! ## Settings -/

theorem hasControl_append (s t : String) : hasControl (s ++ t) = (hasControl s || hasControl t) := by
  rw [hasControl, String.toList_append, List.any_append, hasControl, hasControl]

/-- A setting that is read back from its text and has an ASCII name that an image may set. -/
@[mk_iff]
structure Admissible (setting : String × String) : Prop where
  name_ne : setting.1 ≠ ""
  name_equals : '=' ∉ setting.1.toList
  name_ascii : setting.1.toList.all fun c => c.toNat < 128
  name_control : hasControl setting.1 = false
  value_control : hasControl setting.2 = false
  allowed : (String.ofList (setting.1.toList.map Char.toLower)) ∉ forbiddenEnvironmentNames
  length_le : setting.1.toList.length + setting.2.toList.length ≤ 100

instance (setting : String × String) : Decidable (Admissible setting) :=
  decidable_of_iff _ (admissible_iff setting).symm

theorem addSetting_of_admissible {environment : List (String × String)}
    {setting : String × String} (h : Admissible setting)
    (hfresh : setting.1 ∉ environment.map Prod.fst) :
    addSetting environment (.str (setting.1 ++ "=" ++ setting.2)) =
      .ok (environment ++ [setting]) := by
  have htext : (setting.1 ++ "=" ++ setting.2).toList =
      setting.1.toList ++ '=' :: setting.2.toList := by
    simp [String.toList_append]
  have hcontrol : hasControl (setting.1 ++ "=" ++ setting.2) = false := by
    rw [hasControl_append, hasControl_append, h.name_control, h.value_control]
    decide
  have hlookup : environment.lookup setting.1 = none := by
    rw [List.lookup_eq_none_iff]
    intro other hother
    rw [bne_iff_ne]
    exact fun heq => hfresh (heq ▸ List.mem_map_of_mem hother)
  unfold addSetting
  rw [required_some, ok_bind, ensure_of _ hcontrol, ok_bind, pyPartition?_eq htext h.name_equals,
    required_some, ok_bind, ensure_of _ ⟨h.name_ne, hlookup⟩]
  rfl

theorem foldlM_addSetting {settings environment : List (String × String)}
    (h : ∀ setting ∈ settings, Admissible setting)
    (hnodup : ((environment ++ settings).map Prod.fst).Nodup) :
    (settings.map fun setting => Json.str (setting.1 ++ "=" ++ setting.2)).foldlM addSetting
      environment = .ok (environment ++ settings) := by
  induction settings generalizing environment with
  | nil =>
      rw [List.map_nil, List.foldlM_nil, List.append_nil]
      rfl
  | cons setting settings ih =>
      obtain ⟨hsetting, hsettings⟩ := List.forall_mem_cons.mp h
      have hfresh : setting.1 ∉ environment.map Prod.fst := by
        rw [List.map_append, List.nodup_append] at hnodup
        exact fun hmem => hnodup.2.2 _ hmem _ List.mem_cons_self rfl
      rw [List.append_cons] at hnodup
      rw [List.map_cons, List.foldlM_cons, addSetting_of_admissible hsetting hfresh, ok_bind,
        ih hsettings hnodup, ← List.append_cons]

theorem sameSettings_self {settings : List (String × String)}
    (hnodup : (settings.map Prod.fst).Nodup) : sameSettings settings settings = true := by
  have hlookup : ∀ setting ∈ settings, settings.lookup setting.1 = some setting.2 := by
    intro setting hsetting
    obtain ⟨before, after, rfl⟩ := List.append_of_mem hsetting
    rw [List.map_append, List.map_cons, List.nodup_append] at hnodup
    refine List.lookup_eq_some_iff.mpr ⟨before, after, rfl, fun other hother => ?_⟩
    rw [bne_iff_ne]
    exact (hnodup.2.2 _ (List.mem_map_of_mem hother) _ List.mem_cons_self).symm
  rw [sameSettings, Bool.and_eq_true, List.all_eq_true, and_self]
  exact fun setting hsetting => decide_eq_true (hlookup setting hsetting)

theorem environmentMap_of_admissible {contract : ImageContract} {settings : List (String × String)}
    (hsettings : baseEnvironment ++ contract.environment = settings)
    (h : ∀ setting ∈ settings, Admissible setting) (hnodup : (settings.map Prod.fst).Nodup) :
    environmentMap (.arr (settings.map fun setting => .str (setting.1 ++ "=" ++ setting.2)))
      contract = .ok settings := by
  have hread : (settings.map fun setting => Json.str (setting.1 ++ "=" ++ setting.2)).foldlM
      addSetting [] = .ok settings := foldlM_addSetting h hnodup
  have hallowed : (settings.any fun setting =>
      forbiddenEnvironmentNames.contains (casefold setting.1)) = false := by
    rw [List.any_eq_false]
    intro setting hsetting
    have hadmissible := h setting hsetting
    rw [casefold_of_ascii hadmissible.name_ascii, List.contains_iff_mem]
    exact hadmissible.allowed
  unfold environmentMap
  simp only [asItems, ok_bind]
  rw [hread, ok_bind, ensure_of _ hallowed, ok_bind, hsettings,
    ensure_of _ (sameSettings_self hnodup)]
  rfl

theorem admissible_of_mem (role : Role) :
    ∀ setting ∈ baseEnvironment ++ role.contract.environment, Admissible setting := by
  rw [List.forall_mem_append]
  constructor
  · decide +kernel
  · cases role <;> decide +kernel

/-! ## References -/

theorem matchesDigest_text (digest : Sha256) : matchesDigest ("sha256:" ++ digest.text) = true := by
  have hstem : "sha256:".toList.length = 7 := by decide
  rw [matchesDigest, String.toList_append, ← hstem, List.take_left, List.drop_left,
    String.ofList_toList, digest.matches_text]
  rfl

/-- The text is a reference by digest to one component of a registry. -/
structure IsReference (value : String) (registry component : List Char) (digest : Sha256) :
    Prop where
  text : value.toList = registry ++ '/' :: (component ++ '@' :: ("sha256:" ++ digest.text).toList)
  registry_valid : registryValid registry = true
  component_matches : matchesComponent component = true
  names : (registry ++ component).all isNameChar = true
  length_le : (registry ++ component).length ≤ 400

section References

variable {value : String} {registry component : List Char} {digest : Sha256}

theorem isNameChar_of_mem_digest {c : Char} (hc : c ∈ ("sha256:" ++ digest.text).toList) :
    isNameChar c = true ∨ c = ':' := by
  rw [String.toList_append, List.mem_append] at hc
  rcases hc with hc | hc
  · have hstem : "sha256:".toList.all fun c => isNameChar c || c = ':' := by decide
    simpa using List.all_eq_true.mp hstem c hc
  · exact .inl (isNameChar_of_isLowerHexChar (digest.isLowerHexChar_of_mem hc))

theorem IsReference.isNameChar_of_mem (h : IsReference value registry component digest) {c : Char}
    (hc : c ∈ value.toList) : isNameChar c = true ∨ c = '/' ∨ c = '@' ∨ c = ':' := by
  rw [h.text] at hc
  rw [List.mem_append, List.mem_cons, List.mem_append, List.mem_cons] at hc
  rcases hc with hc | rfl | hc | rfl | hc
  · exact .inl (List.all_eq_true.mp h.names c (List.mem_append_left _ hc))
  · exact .inr (.inl rfl)
  · exact .inl (List.all_eq_true.mp h.names c (List.mem_append_right _ hc))
  · exact .inr (.inr (.inl rfl))
  · rcases isNameChar_of_mem_digest hc with hc | rfl
    · exact .inl hc
    · exact .inr (.inr (.inr rfl))

/-- What separates the parts of a reference is in none of them. -/
theorem IsReference.not_mem (h : IsReference value registry component digest) {c : Char}
    (hc : isNameChar c = false) : c ∉ registry ∧ c ∉ component := by
  have hnames : c ∉ registry ++ component := fun hmem => by
    rw [List.all_eq_true.mp h.names c hmem] at hc
    cases hc
  rwa [List.mem_append, not_or] at hnames

theorem IsReference.count_slash (h : IsReference value registry component digest) :
    value.toList.count '/' = 1 := by
  obtain ⟨hregistry, hcomponent⟩ := h.not_mem (show isNameChar '/' = false by decide)
  have hdigest : '/' ∉ ("sha256:" ++ digest.text).toList := fun hmem => by
    rcases isNameChar_of_mem_digest hmem with hname | hcolon
    · exact absurd hname (by decide)
    · exact absurd hcolon (by decide)
  rw [h.text, List.count_append, List.count_cons_self, List.count_append,
    List.count_eq_zero.mpr hregistry, List.count_eq_zero.mpr hcomponent, List.count_cons_of_ne
      (by decide), List.count_eq_zero.mpr hdigest]

theorem IsReference.contains_imageTokens (h : IsReference value registry component digest) :
    (imageTokens.any fun token => contains token value) = false := by
  have hnone : ∀ c, isNameChar c = false ∧ c ≠ '/' ∧ c ≠ '@' ∧ c ≠ ':' →
      value.toList.count c = 0 := by
    rintro c ⟨hname, hslash, hat, hcolon⟩
    refine List.count_eq_zero.mpr fun hmem => ?_
    rcases h.isNameChar_of_mem hmem with hc | hc | hc | hc
    · rw [hname] at hc
      cases hc
    · exact hslash hc
    · exact hat hc
    · exact hcolon hc
  have hslash := h.count_slash
  have hdot := hnone '.' (by decide)
  have hbackslash := hnone '\\' (by decide)
  have hnul := hnone '\x00' (by decide)
  have hreturn := hnone '\r' (by decide)
  have hfeed := hnone '\n' (by decide)
  simp only [imageTokens, List.any_cons, List.any_nil, Bool.or_false, Bool.or_eq_false_iff]
  exact ⟨contains_of_count '/' (hslash ▸ by decide), contains_of_count '.' (hdot ▸ by decide),
    contains_of_count '/' (hslash ▸ by decide), contains_of_count '\\' (hbackslash ▸ by decide),
    contains_of_count '\x00' (hnul ▸ by decide), contains_of_count '\r' (hreturn ▸ by decide),
    contains_of_count '\n' (hfeed ▸ by decide)⟩

theorem IsReference.length (h : IsReference value registry component digest) :
    value.toList.length = (registry ++ component).length + 73 := by
  have hstem : "sha256:".toList.length = 7 := by decide
  rw [h.text]
  simp only [List.length_append, List.length_cons, String.toList_append, hstem,
    digest.length_toList]
  omega

theorem IsReference.imageDigest_eq (h : IsReference value registry component digest) :
    imageDigest value = .ok ("sha256:" ++ digest.text) := by
  have hlength := h.length
  have hsize := h.length_le
  obtain ⟨hregistrySlash, hcomponentSlash⟩ := h.not_mem (show isNameChar '/' = false by decide)
  obtain ⟨hregistryAt, hcomponentAt⟩ := h.not_mem (show isNameChar '@' = false by decide)
  have hparts : pyPartition? '@' value =
      some (.ofList (registry ++ '/' :: component), "sha256:" ++ digest.text) := by
    refine pyPartition?_eq ?_ ?_
    · rw [h.text, String.toList_ofList, List.append_assoc, List.cons_append]
    · rw [String.toList_ofList, List.mem_append, List.mem_cons, not_or, not_or]
      exact ⟨hregistryAt, by decide, hcomponentAt⟩
  unfold imageDigest
  dsimp only
  rw [ensure_of _ ⟨by omega, by omega, h.contains_imageTokens⟩, ok_bind, hparts, required_some,
    ok_bind, String.toList_ofList, splitAt_append_cons hregistrySlash,
    splitAt_single hcomponentSlash]
  have hcomponents : [component].all matchesComponent = true := by
    rw [List.all_cons, h.component_matches, List.all_nil, Bool.and_true]
  exact bind_eq_ok_iff.mpr ⟨⟨⟩, ensure_of _ ⟨h.registry_valid, List.cons_ne_nil _ _, hcomponents,
    matchesDigest_text digest⟩, rfl⟩

theorem IsReference.validArgument (h : IsReference value registry component digest) :
    validArgument value = true := by
  refine validArgument_of_ne ?_ fun c hc => ?_
  · rintro rfl
    exact absurd h.length (by simp)
  · rcases h.isNameChar_of_mem hc with hc | rfl | rfl | rfl
    · exact ne_of_isNameChar hc
    all_goals decide

end References

end Setup

end AmazonSimilarSearch.Deployment
