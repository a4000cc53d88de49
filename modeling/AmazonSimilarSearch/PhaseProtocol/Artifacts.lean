import AmazonSimilarSearch.PhaseProtocol.Documents

/-!
# Artifact names and complete artifact sets

The name pattern and the set of names each phase must hand over. The outer
verifier and the typed protocol state these rules separately, with messages of
their own; the rules themselves are the same.
-/
namespace AmazonSimilarSearch
open Foundation

def isLowerLetter (c : Char) : Bool := 'a' ≤ c && c ≤ 'z'
def isUpperLetter (c : Char) : Bool := 'A' ≤ c && c ≤ 'Z'
def isDecimalDigit (c : Char) : Bool := '0' ≤ c && c ≤ '9'

def isKindChar (c : Char) : Bool := isLowerLetter c || isDecimalDigit c || c == '-'
def isItemChar (c : Char) : Bool := isUpperLetter c || isDecimalDigit c || c == '_' || c == '-'

/-- `[A-Z][A-Z0-9_-]{0,63}` -/
def matchesItem : List Char → Bool
  | [] => false
  | c :: cs => isUpperLetter c && cs.all isItemChar && decide (cs.length ≤ 63)

/-- `^[a-z][a-z0-9-]*(?::[A-Z][A-Z0-9_-]{0,63})?$` -/
def matchesArtifactName (name : String) : Bool :=
  match name.toList with
  | [] => false
  | c :: cs => isLowerLetter c &&
      match cs.dropWhile isKindChar with
      | [] => true
      | mark :: item => mark == ':' && matchesItem item

/-- What follows `kind + ":"` in a name that starts so. -/
def itemOf? (kind name : String) : Option String :=
  let mark := kind.toList ++ [':']
  if mark.isPrefixOf name.toList then some (String.ofList (name.toList.drop mark.length)) else none

def suffixes (names : List String) (kind : String) : List String := names.filterMap (itemOf? kind)

/-- Two lists of names are equal as sets. -/
def sameSet (xs ys : List String) : Bool := xs.all (ys.contains ·) && ys.all (xs.contains ·)

/-- The rule of the offline and sign phases: paired RED and GREEN runs within the gates, and
nothing beside them but the fixed names. -/
def pairedRuns (fixed names : List String) : Bool :=
  let gates := suffixes names "gate"
  let red := suffixes names "tdd-red"
  let green := suffixes names "tdd-green"
  let expected := fixed ++ gates.map ("gate:" ++ ·) ++ red.map ("tdd-red:" ++ ·) ++
    green.map ("tdd-green:" ++ ·)
  !gates.isEmpty && !red.isEmpty && sameSet red green && red.all (gates.contains ·) &&
    sameSet names expected

/-- The artifact names a phase hands over are the ones it must. -/
def completeArtifacts (names : List String) : Phase → Bool
  | .snapshot => sameSet names ["base-snapshot", "candidate-snapshot", "policy"]
  | .redSnapshot => !names.isEmpty && names.all fun name => (itemOf? "red-snapshot" name).isSome
  | .offline => pairedRuns [] names
  | .reviewPacket => sameSet names ["review-packet"]
  | .broker => sameSet names ["reviewer", "adversary"]
  | .sign => pairedRuns ["task", "policy", "reviewer", "adversary"] names
  | .attestedJudge => sameSet names ["verdict"]

/-- The artifact carries a digest as its text. -/
def isSnapshotName (name : String) : Bool :=
  name == "base-snapshot" || name == "candidate-snapshot" || (itemOf? "red-snapshot" name).isSome

/-- The digest of the first artifact of a name. -/
def digestOf? (artifacts : List Artifact) (name : String) : Option Sha256 :=
  (artifacts.find? fun artifact => artifact.name = name).map Artifact.sha256

theorem digestOf?_isSome {artifacts : List Artifact} {name : String}
    (h : name ∈ artifacts.map Artifact.name) : (digestOf? artifacts name).isSome := by
  obtain ⟨artifact, hmem, rfl⟩ := List.mem_map.mp h
  rw [digestOf?, Option.isSome_map, List.find?_isSome]
  exact ⟨artifact, hmem, by simp⟩

theorem mem_of_sameSet {xs ys : List String} (h : sameSet xs ys = true) {y : String} (hy : y ∈ ys) :
    y ∈ xs := by
  simp only [sameSet, Bool.and_eq_true, List.all_eq_true, List.contains_eq_mem,
    decide_eq_true_eq] at h
  exact h.2 y hy

theorem candidateSnapshot_mem {names : List String}
    (h : completeArtifacts names .snapshot = true) : "candidate-snapshot" ∈ names :=
  mem_of_sameSet h (by simp)

theorem reviewPacket_mem {names : List String}
    (h : completeArtifacts names .reviewPacket = true) : "review-packet" ∈ names :=
  mem_of_sameSet h (by simp)

end AmazonSimilarSearch
