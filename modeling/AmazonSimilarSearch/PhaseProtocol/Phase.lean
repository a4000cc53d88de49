import AmazonSimilarSearch.Foundation.JsonCanonical

/-!
# Phases of the review workflow

The closed production order and the executor each phase is bound to. Both the
coordinator's typed protocol and the outer verifier use these tables.
-/
namespace AmazonSimilarSearch

inductive Phase where
  | snapshot
  | redSnapshot
  | offline
  | reviewPacket
  | broker
  | sign
  | attestedJudge
  deriving DecidableEq, Repr

inductive ExternalKind where
  | none
  | offline
  | broker
  deriving DecidableEq, Repr

/-- `PHASE_ORDER`. -/
def phaseOrder : List Phase :=
  [.snapshot, .redSnapshot, .offline, .reviewPacket, .broker, .sign, .attestedJudge]

namespace Phase

def name : Phase → String
  | snapshot => "snapshot"
  | redSnapshot => "red-snapshot"
  | offline => "offline"
  | reviewPacket => "review-packet"
  | broker => "broker"
  | sign => "sign"
  | attestedJudge => "attested-judge"

/-- `PHASE_ORDER.index(phase) + 1`. -/
def sequence (phase : Phase) : ℕ := phaseOrder.idxOf phase + 1

/-- The phase with the given name, when the name is in `PHASE_ORDER`. -/
def ofName? (text : String) : Option Phase := phaseOrder.find? fun phase => phase.name = text

/-- `_EXTERNAL.get(phase, "none")`. -/
def externalKind : Phase → ExternalKind
  | offline => .offline
  | broker => .broker
  | _ => .none

theorem mem_phaseOrder (phase : Phase) : phase ∈ phaseOrder := by
  cases phase <;> decide

theorem name_injective : Function.Injective name := by
  intro a b h
  cases a <;> cases b <;> first | rfl | exact absurd h (by decide)

@[simp] theorem ofName?_eq_some_iff {text : String} {phase : Phase} :
    ofName? text = some phase ↔ phase.name = text := by
  constructor
  · intro h
    simpa using List.find?_some h
  · rintro rfl
    cases phase <;> decide

theorem sequence_pos (phase : Phase) : 1 ≤ phase.sequence := by
  simp [sequence]

theorem sequence_le (phase : Phase) : phase.sequence ≤ 7 := by
  cases phase <;> decide

theorem sequence_injective : Function.Injective sequence := by
  intro a b h
  cases a <;> cases b <;> first | rfl | exact absurd h (by decide)

theorem sequence_eq_one_iff {phase : Phase} : phase.sequence = 1 ↔ phase = .snapshot := by
  cases phase <;> decide

@[simp] theorem phaseOrder_sequence (phase : Phase) :
    phaseOrder[phase.sequence - 1]? = some phase := by
  cases phase <;> rfl

end Phase

namespace ExternalKind

def name : ExternalKind → String
  | none => "none"
  | offline => "offline"
  | broker => "broker"

theorem name_injective : Function.Injective name := by
  intro a b h
  cases a <;> cases b <;> first | rfl | exact absurd h (by decide)

end ExternalKind
end AmazonSimilarSearch
