import AmazonSimilarSearch.OuterWorkflow.Run

/-!
# Safety of the outer driver

Whatever the callbacks do, a run that returns went through the seven phases in
order, kept every anchor of its first request, and let the payload of a phase
reach the executor of that phase alone.
-/
namespace AmazonSimilarSearch.OuterWorkflow
open Foundation

/-- The digests that no phase may change. -/
structure SameAnchors (first later : Request) : Prop where
  workflow : later.workflowId = first.workflowId
  task : later.taskSha256 = first.taskSha256
  runtimeManifest : later.runtimeManifestSha256 = first.runtimeManifestSha256
  coordinatorKey : later.coordinatorKeyId = first.coordinatorKeyId
  coordinatorPublicKey : later.coordinatorPublicKeySha256 = first.coordinatorPublicKeySha256
  candidate : later.candidateSha256 = first.candidateSha256

/-- A round starts from what the round before it committed. -/
structure Continues (step next : PhaseStep) : Prop where
  requestRaw : step.finalized.nextRequest = some next.requestRaw
  sequence : next.phase.sequence = step.phase.sequence + 1
  anchors : SameAnchors step.request next.request
  previous : next.request.previousPhaseSha256 = some step.finalized.result.phaseSha256
  inputs : next.request.inputArtifactsSha256 = step.finalized.result.outputArtifactsSha256
  snapshot : next.request.candidateSnapshotSha256 = step.finalized.result.candidateSnapshotSha256
  packet : next.request.reviewPacketSha256 = step.finalized.result.reviewPacketSha256

def offlineCalls (history : History) : List (Bytes × Reply) :=
  history.filterMap fun
    | .offline payload reply => some (payload, reply)
    | _ => none

def brokerCalls (history : History) : List (Bytes × Reply) :=
  history.filterMap fun
    | .broker payload reply => some (payload, reply)
    | _ => none

def finalizeCalls (history : History) : List (Phase × Untrusted × Bytes) :=
  history.filterMap fun
    | .finalize phase preparedRaw external _ => some (phase, preparedRaw, external)
    | _ => none

/-- Safety of a run that returned these transitions after these calls. -/
structure Safe (sha256 : HashFunction) (initialRequest : Bytes)
    (transitions : List FinalizedTransition) (history : History) (steps : List PhaseStep) :
    Prop where
  /-- one transition for each phase, in the order of the phases -/
  order : steps.map PhaseStep.phase = phaseOrder
  transitions : transitions = steps.map PhaseStep.finalized
  /-- the first request is the initial one, and every request is read from its bytes -/
  initial : ∀ step ∈ steps.head?, step.requestRaw = initialRequest
  requests : ∀ step ∈ steps, Json.canonicalLine? (.obj step.request.fields) = some step.requestRaw
  sequence : ∀ i (h : i < steps.length),
    (steps[i].request.fields.get "sequence") = .int (i + 1)
  /-- the chain -/
  anchors : ∀ first ∈ steps.head?, ∀ step ∈ steps, SameAnchors first.request step.request
  chain : List.IsChain Continues steps
  snapshot : ∃ digest, ∀ step ∈ steps, step.request.candidateSnapshotSha256 =
    if step.phase = .snapshot then none else some digest
  packet : ∃ digest, ∀ step ∈ steps, step.request.reviewPacketSha256 =
    if Phase.broker.sequence ≤ step.phase.sequence then some digest else none
  /-- the executors -/
  bound : ∀ step ∈ steps, step.prepared.action.Bound sha256 step.request step.prepared.payload
  offline : ∃ step ∈ steps, step.phase = .offline ∧
    offlineCalls history = [(step.prepared.payload, .bytes step.external)]
  broker : ∃ step ∈ steps, step.phase = .broker ∧
    brokerCalls history = [(step.prepared.payload, .bytes step.external)]
  /-- the evidence of an external phase is the executor's bytes, and the coordinator finalizes
  the phase on those bytes -/
  evidence : ∀ step ∈ steps, step.finalized.result.externalExecutionSha256 =
    if step.phase.externalKind = .none then none else some (sha256 step.external)
  finalized : finalizeCalls history =
    steps.map fun step => (step.phase, some step.preparedRaw, step.external)

variable {H : HashFunction}

namespace PhaseStep

theorem Checked.bound {step : PhaseStep} (h : step.Checked H) :
    step.prepared.action.Bound H step.request step.prepared.payload :=
  (parsePreparedTransition_ok h.prepared).2.1

theorem Checked.evidence {step : PhaseStep} (h : step.Checked H) :
    step.finalized.result.externalExecutionSha256 =
      if step.phase.externalKind = .none then none else some (H step.external) := by
  obtain ⟨-, output, semantic, hfinalized⟩ := parseFinalizedTransition_ok h.finalized
  rw [hfinalized.result.external, PhaseStep.externalRaw]
  by_cases hkind : step.phase.externalKind = .none <;> simp [hkind]

/-- A phase that does not measure the snapshot keeps it. -/
theorem Checked.snapshot_kept {step : PhaseStep} (h : step.Checked H)
    (hphase : step.phase ≠ .snapshot) :
    step.finalized.result.candidateSnapshotSha256 = step.request.candidateSnapshotSha256 := by
  obtain ⟨-, output, semantic, hfinalized⟩ := parseFinalizedTransition_ok h.finalized
  have hanchor := hfinalized.measured.candidate
  rw [candidateAnchor, if_neg (show ¬ step.request.phase = _ from hphase), pure_eq_ok_iff]
    at hanchor
  rw [hfinalized.result.candidate, hanchor]

theorem Checked.packet_kept {step : PhaseStep} (h : step.Checked H)
    (hphase : step.phase ≠ .reviewPacket) :
    step.finalized.result.reviewPacketSha256 = step.request.reviewPacketSha256 := by
  obtain ⟨-, output, semantic, hfinalized⟩ := parseFinalizedTransition_ok h.finalized
  have hanchor := hfinalized.measured.packet
  rw [packetAnchor, if_neg (show ¬ step.request.phase = _ from hphase), pure_eq_ok_iff] at hanchor
  rw [hfinalized.result.packet, hanchor]

theorem Checked.requestBound {step : PhaseStep} (h : step.Checked H) :
    step.request.Bound H :=
  (validatePhaseRequestBytes_ok h.request).2.1

/-- Two rounds that follow each other are chained by the next request of the first. -/
theorem Checked.continues {step next : PhaseStep} (h : step.Checked H) (hnext : next.Checked H)
    (hraw : next.requestRaw = step.finalized.nextRequest.getD step.requestRaw)
    (hlast : step.phase.sequence ≠ phaseOrder.length) : Continues step next := by
  obtain ⟨-, output, semantic, hfinalized⟩ := parseFinalizedTransition_ok h.finalized
  rcases hfinalized.next with ⟨hend, -⟩ | ⟨raw, request, hsome, hrequest, hchained⟩
  · exact absurd hend hlast
  · rw [hsome, Option.getD_some] at hraw
    have hsame := hnext.request
    rw [hraw, hrequest, Except.ok.injEq] at hsame
    subst hsame
    obtain ⟨hsequence, -, hworkflow, htask, hruntime, hkey, hpublicKey, hcandidate, hsnapshot,
      hpacket, hprevious, hinputs⟩ := hchained
    exact {
      requestRaw := by rw [hsome, hraw]
      sequence := hsequence
      anchors := ⟨hworkflow, htask, hruntime, hkey, hpublicKey, hcandidate⟩
      previous := hprevious
      inputs := hinputs
      snapshot := by rw [hsnapshot, hfinalized.result.candidate]
      packet := by rw [hpacket, hfinalized.result.packet] }

end PhaseStep

theorem SameAnchors.refl (request : Request) : SameAnchors request request :=
  ⟨rfl, rfl, rfl, rfl, rfl, rfl⟩

theorem SameAnchors.trans {a b c : Request} (hab : SameAnchors a b) (hbc : SameAnchors b c) :
    SameAnchors a c where
  workflow := hbc.workflow.trans hab.workflow
  task := hbc.task.trans hab.task
  runtimeManifest := hbc.runtimeManifest.trans hab.runtimeManifest
  coordinatorKey := hbc.coordinatorKey.trans hab.coordinatorKey
  coordinatorPublicKey := hbc.coordinatorPublicKey.trans hab.coordinatorPublicKey
  candidate := hbc.candidate.trans hab.candidate

/-- Anchors are kept along a chain of rounds. -/
theorem sameAnchors_of_chain {first : PhaseStep} {steps : List PhaseStep}
    (h : List.IsChain Continues (first :: steps)) :
    ∀ step ∈ first :: steps, SameAnchors first.request step.request := by
  induction steps generalizing first with
  | nil => simp [SameAnchors.refl]
  | cons next steps ih =>
      obtain ⟨hstep, hchain⟩ := List.isChain_cons_cons.mp h
      intro step hmem
      rcases List.mem_cons.mp hmem with rfl | hmem
      · exact SameAnchors.refl _
      · exact hstep.anchors.trans (ih hchain step hmem)

namespace Run

variable {announced : Bool} {initialRequest : Bytes} {state : State} {steps : List PhaseStep}

/-- The rounds of a whole run are chained: only the last phase may end without a next
request. -/
theorem continues (h : Run H announced initialRequest phaseOrder state steps) :
    List.IsChain Continues steps := by
  have hphases := h.phases
  have key : ∀ (phases : List Phase) (steps : List PhaseStep), steps.map PhaseStep.phase = phases →
      phases.dropLast.all (fun phase => phase.sequence != phaseOrder.length) = true →
      (∀ step ∈ steps, step.Checked H) →
      List.IsChain (fun a b => b.requestRaw = a.finalized.nextRequest.getD a.requestRaw) steps →
      List.IsChain Continues steps := by
    intro phases steps
    induction steps generalizing phases with
    | nil => exact fun _ _ _ _ => .nil
    | cons a steps ih =>
        intro hmap hlast hchecked hchain
        cases steps with
        | nil => exact .singleton a
        | cons b steps =>
            obtain ⟨hab, hrest⟩ := List.isChain_cons_cons.mp hchain
            subst hmap
            simp only [List.map_cons, List.dropLast_cons_cons, List.all_cons, Bool.and_eq_true,
              bne_iff_ne, ne_eq] at hlast
            have hstep := (hchecked a (by simp)).continues (hchecked b (by simp)) hab hlast.1
            refine List.isChain_cons_cons.mpr ⟨hstep, ih _ rfl ?_ ?_ hrest⟩
            · exact hlast.2
            · exact fun step hmem => hchecked step (List.mem_cons_of_mem a hmem)
  exact key phaseOrder steps hphases (by decide) h.checked h.chain

/-- A list of rounds for the whole order has seven rounds, one for each phase. -/
theorem exists_rounds (h : steps.map PhaseStep.phase = phaseOrder) :
    ∃ a b c d e f g, steps = [a, b, c, d, e, f, g] ∧ a.phase = .snapshot ∧ b.phase = .redSnapshot ∧
      c.phase = .offline ∧ d.phase = .reviewPacket ∧ e.phase = .broker ∧ f.phase = .sign ∧
      g.phase = .attestedJudge := by
  simp only [phaseOrder, List.map_eq_cons_iff, List.map_eq_nil_iff] at h
  obtain ⟨a, _, rfl, ha, b, _, rfl, hb, c, _, rfl, hc, d, _, rfl, hd, e, _, rfl, he, f, _, rfl, hf,
    g, _, rfl, hg, rfl⟩ := h
  exact ⟨a, b, c, d, e, f, g, rfl, ha, hb, hc, hd, he, hf, hg⟩

/-- The snapshot anchor is absent from the first request and fixed afterwards. -/
theorem snapshot_fixed {a b c d e f g : PhaseStep}
    (h : Run H announced initialRequest phaseOrder state [a, b, c, d, e, f, g]) :
    ∃ digest, ∀ step ∈ [a, b, c, d, e, f, g], step.request.candidateSnapshotSha256 =
      if step.phase = .snapshot then none else some digest := by
  obtain ⟨a', b', c', d', e', f', g', hsteps, ha, hb, hc, hd, he, hf, hg⟩ := exists_rounds h.phases
  cases hsteps
  have hchecked := h.checked
  simp only [List.forall_mem_cons] at hchecked
  obtain ⟨hca, hcb, hcc, hcd, hce, hcf, -⟩ := hchecked
  have hchain := h.continues
  simp only [List.isChain_cons_cons] at hchain
  obtain ⟨-, hbc, hcd', hde, hef, hfg, -⟩ := hchain
  have hnone := hca.requestBound.snapshot.mpr ha
  have hsome : b.request.candidateSnapshotSha256 ≠ none := by
    rw [ne_eq, hcb.requestBound.snapshot]
    exact fun hphase => by simp [PhaseStep.phase, hphase] at hb
  obtain ⟨digest, hdigest⟩ := Option.ne_none_iff_exists'.mp hsome
  have kc := hbc.snapshot.trans (hcb.snapshot_kept (by simp [hb]))
  have kd := hcd'.snapshot.trans (hcc.snapshot_kept (by simp [hc]))
  have ke := hde.snapshot.trans (hcd.snapshot_kept (by simp [hd]))
  have kf := hef.snapshot.trans (hce.snapshot_kept (by simp [he]))
  have kg := hfg.snapshot.trans (hcf.snapshot_kept (by simp [hf]))
  refine ⟨digest, ?_⟩
  simp [ha, hb, hc, hd, he, hf, hg, hnone, kg, kf, ke, kd, kc, hdigest]

/-- The packet anchor is absent up to the review packet and fixed afterwards. -/
theorem packet_fixed {a b c d e f g : PhaseStep}
    (h : Run H announced initialRequest phaseOrder state [a, b, c, d, e, f, g]) :
    ∃ digest, ∀ step ∈ [a, b, c, d, e, f, g], step.request.reviewPacketSha256 =
      if Phase.broker.sequence ≤ step.phase.sequence then some digest else none := by
  obtain ⟨a', b', c', d', e', f', g', hsteps, ha, hb, hc, hd, he, hf, hg⟩ := exists_rounds h.phases
  cases hsteps
  have hbound : ∀ step ∈ [a, b, c, d, e, f, g], step.request.reviewPacketSha256 ≠ none ↔
      Phase.broker.sequence ≤ step.phase.sequence :=
    fun step hmem => (h.checked step hmem).requestBound.packet
  have hchecked := h.checked
  simp only [List.forall_mem_cons] at hchecked hbound
  obtain ⟨-, -, -, -, hce, hcf, -⟩ := hchecked
  obtain ⟨hba, hbb, hbc, hbd, hbe, -⟩ := hbound
  have hchain := h.continues
  simp only [List.isChain_cons_cons] at hchain
  obtain ⟨-, -, -, -, hef, hfg, -⟩ := hchain
  rw [ha] at hba
  rw [hb] at hbb
  rw [hc] at hbc
  rw [hd] at hbd
  rw [he] at hbe
  have hna := not_not.mp (mt hba.mp (by decide))
  have hnb := not_not.mp (mt hbb.mp (by decide))
  have hnc := not_not.mp (mt hbc.mp (by decide))
  have hnd := not_not.mp (mt hbd.mp (by decide))
  obtain ⟨digest, hdigest⟩ := Option.ne_none_iff_exists'.mp (hbe.mpr (by decide))
  have kf := hef.packet.trans (hce.packet_kept (by simp [he]))
  have kg := hfg.packet.trans (hcf.packet_kept (by simp [hf]))
  refine ⟨digest, ?_⟩
  have low : ∀ phase ∈ [Phase.snapshot, .redSnapshot, .offline, .reviewPacket],
      ¬ Phase.broker.sequence ≤ phase.sequence := by decide
  have high : ∀ phase ∈ [Phase.broker, .sign, .attestedJudge],
      Phase.broker.sequence ≤ phase.sequence := by decide
  simp only [List.forall_mem_cons, ha, hb, hc, hd, he, hf, hg, hna, hnb, hnc, hnd, kg, kf, hdigest,
    low _ (by simp : Phase.snapshot ∈ _), low _ (by simp : Phase.redSnapshot ∈ _),
    low _ (by simp : Phase.offline ∈ _), low _ (by simp : Phase.reviewPacket ∈ _),
    high _ (by simp : Phase.broker ∈ _), high _ (by simp : Phase.sign ∈ _),
    high _ (by simp : Phase.attestedJudge ∈ _), if_true, if_false]
  simp

theorem events_calls (announced : Bool) (step : PhaseStep) :
    offlineCalls (step.events announced) =
        (if step.phase = .offline then [(step.prepared.payload, .bytes step.external)] else []) ∧
      brokerCalls (step.events announced) =
        (if step.phase = .broker then [(step.prepared.payload, .bytes step.external)] else []) ∧
      finalizeCalls (step.events announced) =
        [(step.phase, some step.preparedRaw, step.external)] := by
  cases hphase : step.phase <;> cases announced <;>
    simp [offlineCalls, brokerCalls, finalizeCalls, PhaseStep.events, PhaseStep.committedEvents,
      executorEvents, Phase.externalKind, hphase]

theorem phaseOrder_sequence_getElem :
    ∀ i (h : i < phaseOrder.length), (phaseOrder[i]).sequence = i + 1 := by
  decide

theorem sequence_at {steps : List PhaseStep} (h : steps.map PhaseStep.phase = phaseOrder) (i : ℕ)
    (hi : i < steps.length) : steps[i].request.fields.get "sequence" = .int (i + 1) := by
  have hlength : i < phaseOrder.length := by
    rw [← h, List.length_map]
    exact hi
  have hphase : steps[i].request.phase = phaseOrder[i] := by
    simp only [← h, List.getElem_map]
    rfl
  have hget : steps[i].request.fields.get "sequence" = sequenceJson steps[i].request.phase := rfl
  rw [hget, hphase, sequenceJson, phaseOrder_sequence_getElem i hlength]
  rfl

theorem safe (h : Run H announced initialRequest phaseOrder state steps) :
    Safe H initialRequest state.transitions state.history steps := by
  obtain ⟨a, b, c, d, e, f, g, rfl, ha, hb, hc, hd, he, hf, hg⟩ := exists_rounds h.phases
  have hhistory := h.history
  simp only [List.flatMap_cons, List.flatMap_nil, List.append_nil] at hhistory
  exact {
    order := h.phases
    transitions := h.transitions
    initial := h.first
    requests := fun step hmem => (validatePhaseRequestBytes_ok (h.checked step hmem).request).1
    sequence := sequence_at h.phases
    anchors := fun first hfirst step hmem => by
      cases hfirst
      exact sameAnchors_of_chain h.continues step hmem
    chain := h.continues
    snapshot := h.snapshot_fixed
    packet := h.packet_fixed
    bound := fun step hmem => (h.checked step hmem).bound
    offline := ⟨c, by simp, hc, by
      have hcalls := fun step => (events_calls announced step).1
      simp only [offlineCalls] at hcalls
      simp [offlineCalls, hhistory, hcalls, ha, hb, hc, hd, he, hf, hg]⟩
    broker := ⟨e, by simp, he, by
      have hcalls := fun step => (events_calls announced step).2.1
      simp only [brokerCalls] at hcalls
      simp [brokerCalls, hhistory, hcalls, ha, hb, hc, hd, he, hf, hg]⟩
    evidence := fun step hmem => (h.checked step hmem).evidence
    finalized := by
      have hcalls := fun step => (events_calls announced step).2.2
      simp only [finalizeCalls] at hcalls
      simp [finalizeCalls, hhistory, hcalls] }

end Run

end AmazonSimilarSearch.OuterWorkflow
