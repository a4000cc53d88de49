import AmazonSimilarSearch.PhaseProtocol.Output
import Mathlib.Data.List.Chain
import Mathlib.Data.List.Induction

/-!
# Chains of phase results

`PhaseChain` accepts a result when its request is the next one of the workflow
and carries over every anchor of the result before it. A chain it builds is
valid, and it builds every valid chain.
-/
namespace AmazonSimilarSearch.PhaseProtocol
open Foundation

variable {H : HashFunction}

/-- The results a `PhaseChain` has accepted, first first. -/
abbrev PhaseChain (sha256 : HashFunction) := List (PhaseResult sha256)

/-- One anchor of the loop in `validate_request`. -/
def anchor {α : Type} [DecidableEq α] (label : String) (actual expected : α) :
    Except ProtocolError Unit :=
  ensure (actual = expected) ⟨s!"{label} changed across phase boundary"⟩

/-- `PhaseChain.validate_request` -/
def PhaseChain.validateRequest {sha256 : HashFunction} (chain : PhaseChain sha256)
    (request : Request) : Except ProtocolError Unit := do
  let expectedSequence := chain.length + 1
  ensure (request.phase.sequence = expectedSequence)
    ⟨"request is not the next phase in the workflow"⟩
  ensure (phaseOrder[expectedSequence - 1]? = some request.phase)
    ⟨"request is not the next phase in the workflow"⟩
  match chain.getLast? with
  | none =>
      ensure (request.previousPhaseSha256 = none)
        ⟨"first phase must not reference prior evidence"⟩
  | some previous => do
      ensure (request.previousPhaseSha256 = some previous.phaseSha256)
        ⟨"previous phase SHA-256 does not match the committed result"⟩
      let before := previous.phaseRequest.toRequest
      anchor "workflow id" request.workflowId before.workflowId
      anchor "task SHA-256" request.taskSha256 before.taskSha256
      anchor "runtime manifest SHA-256" request.runtimeManifestSha256 before.runtimeManifestSha256
      anchor "coordinator key id" request.coordinatorKeyId before.coordinatorKeyId
      anchor "coordinator public key SHA-256" request.coordinatorPublicKeySha256
        before.coordinatorPublicKeySha256
      anchor "candidate SHA-256" request.candidateSha256 before.candidateSha256
      anchor "candidate snapshot SHA-256" request.candidateSnapshotSha256
        previous.candidateSnapshotSha256
      anchor "review packet SHA-256" request.reviewPacketSha256 previous.reviewPacketSha256
      ensure (request.inputArtifactsSha256 = previous.outputArtifactsSha256)
        ⟨"phase input artifacts SHA-256 does not match the prior committed output"⟩

/-- `PhaseChain.accept` -/
def PhaseChain.accept {sha256 : HashFunction} (chain : PhaseChain sha256)
    (result : PhaseResult sha256) : Except ProtocolError (PhaseChain sha256) := do
  chain.validateRequest result.phaseRequest.toRequest
  pure (chain ++ [result])

/-- `PhaseChain(results)` -/
def PhaseChain.build {sha256 : HashFunction} (results : List (PhaseResult sha256)) :
    Except ProtocolError (PhaseChain sha256) :=
  results.foldlM PhaseChain.accept []

/-! ## What a chain accepts -/

/-- The request carries over the anchors of the result. -/
structure Extends (previous : PhaseResult H) (request : Request) : Prop where
  prior : request.previousPhaseSha256 = some previous.phaseSha256
  workflow : request.workflowId = previous.phaseRequest.workflowId
  task : request.taskSha256 = previous.phaseRequest.taskSha256
  runtimeManifest : request.runtimeManifestSha256 = previous.phaseRequest.runtimeManifestSha256
  coordinatorKey : request.coordinatorKeyId = previous.phaseRequest.coordinatorKeyId
  coordinatorPublicKey : request.coordinatorPublicKeySha256 =
    previous.phaseRequest.coordinatorPublicKeySha256
  candidate : request.candidateSha256 = previous.phaseRequest.candidateSha256
  snapshot : request.candidateSnapshotSha256 = previous.candidateSnapshotSha256
  packet : request.reviewPacketSha256 = previous.reviewPacketSha256
  inputs : request.inputArtifactsSha256 = previous.outputArtifactsSha256

namespace PhaseChain

/-- The request is the next one of the chain. -/
structure Next (chain : PhaseChain H) (request : Request) : Prop where
  sequence : request.phase.sequence = chain.length + 1
  anchors : ∀ previous ∈ chain.getLast?, Extends previous request

/-- A valid chain: its sequences are 1, 2, … and each request carries over the result before
it. -/
structure Valid (chain : PhaseChain H) : Prop where
  sequences : chain.map (fun result => result.phaseRequest.phase.sequence) =
    List.range' 1 chain.length
  chained : List.IsChain (fun a b => Extends a b.phaseRequest.toRequest) chain

theorem validateRequest_ok_iff {chain : PhaseChain H} {request : PhaseRequest H} {u : Unit} :
    chain.validateRequest request.toRequest = .ok u ↔ chain.Next request.toRequest := by
  simp only [validateRequest, anchor, bind_eq_ok_iff, ensure_eq_ok_iff, exists_const]
  cases hlast : chain.getLast? with
  | none =>
      have hempty : chain = [] := List.getLast?_eq_none_iff.mp hlast
      subst hempty
      simp only [ensure_eq_ok_iff]
      constructor
      · rintro ⟨hsequence, -, -⟩
        exact ⟨hsequence, by simp⟩
      · intro h
        have hfirst := Phase.sequence_eq_one_iff.mp h.sequence
        refine ⟨h.sequence, ?_, request.bound.prior.mpr hfirst⟩
        rw [← h.sequence, Phase.phaseOrder_sequence]
  | some previous =>
      simp only [bind_eq_ok_iff, ensure_eq_ok_iff, exists_const]
      constructor
      · rintro ⟨hsequence, -, hprior, hworkflow, htask, hruntime, hkey, hpublicKey, hcandidate,
          hsnapshot, hpacket, hinputs⟩
        refine ⟨hsequence, fun p hp => ?_⟩
        rw [hlast, Option.mem_some_iff] at hp
        subst hp
        exact ⟨hprior, hworkflow, htask, hruntime, hkey, hpublicKey, hcandidate, hsnapshot,
          hpacket, hinputs⟩
      · intro h
        obtain ⟨hprior, hworkflow, htask, hruntime, hkey, hpublicKey, hcandidate, hsnapshot,
          hpacket, hinputs⟩ := h.anchors previous hlast
        refine ⟨h.sequence, ?_, hprior, hworkflow, htask, hruntime, hkey, hpublicKey, hcandidate,
          hsnapshot, hpacket, hinputs⟩
        rw [← h.sequence, Phase.phaseOrder_sequence]

theorem accept_ok_iff {chain next : PhaseChain H} {result : PhaseResult H} :
    chain.accept result = .ok next ↔
      chain.Next result.phaseRequest.toRequest ∧ next = chain ++ [result] := by
  simp only [accept, bind_eq_ok_iff, validateRequest_ok_iff, exists_const, pure_eq_ok_iff]
  exact and_congr_right fun _ => eq_comm

theorem Valid.nil : Valid ([] : PhaseChain H) := ⟨rfl, .nil⟩

/-- A valid chain grows by exactly the results whose request is next. -/
theorem valid_append_iff {chain : PhaseChain H} {result : PhaseResult H} :
    Valid (chain ++ [result]) ↔ chain.Valid ∧ chain.Next result.phaseRequest.toRequest := by
  have hsequences : (chain ++ [result]).map (fun r => r.phaseRequest.phase.sequence) =
      List.range' 1 (chain ++ [result]).length ↔
      chain.map (fun r => r.phaseRequest.phase.sequence) = List.range' 1 chain.length ∧
        result.phaseRequest.phase.sequence = chain.length + 1 := by
    rw [List.map_append, List.length_append, List.length_singleton, List.range'_concat]
    constructor
    · intro h
      obtain ⟨hinit, hlast⟩ := List.append_inj h (by simp)
      exact ⟨hinit, by simpa [Nat.add_comm] using hlast⟩
    · rintro ⟨hinit, hlast⟩
      simp [hinit, hlast, Nat.add_comm]
  have hchained : List.IsChain (fun a b => Extends a b.phaseRequest.toRequest) (chain ++ [result]) ↔
      List.IsChain (fun a b => Extends a b.phaseRequest.toRequest) chain ∧
        ∀ previous ∈ chain.getLast?, Extends previous result.phaseRequest.toRequest := by
    rw [List.isChain_append]
    simp
  constructor
  · intro h
    obtain ⟨hseq, hnext⟩ := hsequences.mp h.sequences
    obtain ⟨hchain, hlast⟩ := hchained.mp h.chained
    exact ⟨⟨hseq, hchain⟩, hnext, hlast⟩
  · rintro ⟨hvalid, hnext⟩
    exact ⟨hsequences.mpr ⟨hvalid.sequences, hnext.sequence⟩,
      hchained.mpr ⟨hvalid.chained, hnext.anchors⟩⟩

/-- `PhaseChain(results)` raises nothing exactly when the results are a valid chain. -/
theorem build_ok_iff {results chain : List (PhaseResult H)} :
    build results = .ok chain ↔ Valid results ∧ chain = results := by
  induction results using List.reverseRecOn generalizing chain with
  | nil =>
      simp only [build, List.foldlM_nil, pure_eq_ok_iff, Valid.nil, true_and]
      exact eq_comm
  | append_singleton results result ih =>
      have hfold : build (results ++ [result]) = build results >>= fun c => c.accept result := by
        simp [build, List.foldlM_append]
      rw [hfold, bind_eq_ok_iff, valid_append_iff]
      simp only [ih, accept_ok_iff]
      constructor
      · rintro ⟨_, ⟨hvalid, rfl⟩, hnext, rfl⟩
        exact ⟨⟨hvalid, hnext⟩, rfl⟩
      · rintro ⟨⟨hvalid, hnext⟩, rfl⟩
        exact ⟨results, ⟨hvalid, rfl⟩, hnext, rfl⟩

end PhaseChain
end AmazonSimilarSearch.PhaseProtocol
