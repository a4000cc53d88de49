import AmazonSimilarSearch.EgressSession.Cleanup

/-!
# A session in a `with` statement

The evidence of a session can be made exactly when no output on record names the
credential. Together with the loops of the cleanup this settles every run: the
resources are cleaned up and the session is closed exactly when nothing of what
the environment answers raises on the way.
-/
namespace AmazonSimilarSearch.EgressSession
open Foundation Interaction
open Broker (Target)

namespace Session

variable {session : Session} {loads : InspectReader} {history : History}
  {cleaned checked : Target → Prop} {state : State session.H}

/-! ## The absence checks -/

/-- An exchange of another kind keeps what is known of the targets. -/
theorem Leaving.concat (h : Leaving session loads cleaned checked state history)
    (last : Exchange Query Answer)
    (hstage : ∀ stage act, last.1 = .command stage act → stage = .absence)
    (hdetect : last.1 ≠ .detect true) :
    Leaving session loads cleaned checked state (history ++ [last]) where
  entered := h.entered
  is_open := h.is_open
  created target hissued := by
    rcases issued_append.mp hissued with hbefore | hlast
    · exact h.created target hbefore
    · cases hstage _ _ (issued_singleton.mp hlast)
  ready := h.ready
  removes target hcleaned hcreated := by
    refine (h.removes target hcleaned hcreated).append fun hissued => ?_
    cases hstage _ _ (issued_singleton.mp hissued)
  untouched target hnot exchange hmem := by
    rcases List.mem_append.mp hmem with hmem | hmem
    · exact h.untouched target hnot exchange hmem
    · rw [List.mem_singleton.mp hmem]
      rintro (heq | heq) <;> cases hstage _ _ heq
  absent target hchecked := by
    refine (h.absent target hchecked).append fun exchange hmem => ?_
    rw [List.mem_singleton.mp hmem]
    rintro (heq | heq) <;> cases hstage _ _ heq
  compared := h.compared.append fun exchange hmem target heq => by
    rw [List.mem_singleton.mp hmem] at heq
    cases hstage _ _ heq
  readable := h.readable.append fun exchange hmem target heq => by
    rw [List.mem_singleton.mp hmem] at heq
    cases hstage _ _ heq
  undetected exchange hmem := by
    rcases List.mem_append.mp hmem with hmem | hmem
    · exact h.undetected exchange hmem
    · rw [List.mem_singleton.mp hmem]
      exact hdetect

theorem Leaving.check (h : Leaving session loads cleaned checked state history)
    (target : Target) (answer : Except Unit Reply) :
    Leaving session loads cleaned (fun other => other = target ∨ checked other) state
      (history ++ [⟨.command .absence (.absence target), answer⟩]) := by
  have hkeep := h.concat ⟨.command .absence (.absence target), answer⟩
    (fun stage act heq => (Query.command.inj heq).1.symm) (fun heq => by cases heq)
  refine { hkeep with absent := ?_ }
  rintro other (rfl | hchecked)
  · refine followed_concat rfl ?_
    rintro (heq | heq) <;> cases heq
  · exact hkeep.absent other hchecked

/-- The second loop looks for all its targets. -/
theorem meets_checkAbsences {backend : ContainerBackend} (targets : List Target) (cleanupOk : Bool)
    (h : Leaving session loads cleaned checked state history)
    (hbackend : state.backend = some backend) :
    (session.checkAbsences backend cleanupOk state targets).Meets anyQuery
      (fun result after => Leaving session loads cleaned
        (fun other => other ∈ targets ∨ checked other) result.2 after)
      (fun _ _ => False) history := by
  induction targets generalizing cleanupOk state history checked with
  | nil => exact h.congr (fun _ => Iff.rfl) (fun _ => by simp)
  | cons target targets ih =>
      have hsame : ∀ other, (other ∈ target :: targets ∨ checked other) ↔
          (other ∈ targets ∨ (other = target ∨ checked other)) := by
        intro other
        rw [List.mem_cons]
        tauto
      rw [checkAbsences]
      by_cases hcreated : state.created target = true
      · obtain ⟨ready, _, hready, _, hvalid⟩ := h.ready target hcreated
        rw [hbackend] at hready
        cases hready
        rw [if_pos hcreated, meets_bind]
        refine meets_command (validArgv_absence hvalid target) trivial (fun answer _ => ?_)
          fun reply record _ _ _ => ?_
        · exact (ih false (h.check target answer) hbackend).imp
            (fun _ _ hall => hall.congr (fun _ => Iff.rfl) hsame) fun _ _ hfalse => hfalse
        · have hsame' : SameTargets state
              { state with absenceCommands := state.absenceCommands ++ [record] } :=
            ⟨rfl, rfl, rfl, rfl, rfl, rfl, rfl⟩
          exact (ih _ ((h.check target (.ok reply)).update hsame') hbackend).imp
            (fun _ _ hall => hall.congr (fun _ => Iff.rfl) hsame) fun _ _ hfalse => hfalse
      · rw [if_neg hcreated]
        have hskip := h.skipCheck (Bool.not_eq_true _ ▸ hcreated)
        exact (ih cleanupOk hskip hbackend).imp
          (fun _ _ hall => hall.congr (fun _ => Iff.rfl) hsame) fun _ _ hfalse => hfalse

/-! ## The evidence -/

theorem encodes_exitCode {H : HashFunction} (record : RuntimeCommandEvidence H) :
    Json.Encodes (.int record.exitCode) := by
  obtain ⟨payload, hpayload, -⟩ := bind_eq_ok_iff.mp record.evidence_measured
  rw [canonicalJson, required_eq_ok_iff] at hpayload
  have hencodes := Json.compact?_isSome_iff.mp (by rw [hpayload]; rfl)
  exact (encodes_commandPayload_iff record.duration_within).mp hencodes

theorem encodes_small {i : ℤ} (h : i.natAbs < 10 ^ 20) : Json.Encodes (.int i) :=
  Json.encodes_int (h.trans_le (Nat.pow_le_pow_right (by decide) (by decide)))

/-- A record is refused only where its output names the credential. -/
theorem validateCommandRecord_eq_ok_iff {record : RuntimeCommandEvidence session.H} :
    session.validateCommandRecord record = .ok () ↔ session.namesCredential record = false := by
  have hhead : (record.argv.head?.any fun executable => executable.toList.head? = some '/') =
      true := by
    have hvalid := record.argv_valid
    cases hargv : record.argv with
    | nil =>
        rw [hargv] at hvalid
        cases hvalid
    | cons executable rest =>
        rw [hargv, validArgv, Bool.and_eq_true] at hvalid
        exact hvalid.1
  simp only [validateCommandRecord, bind_eq_ok_iff, ensure_eq_ok_iff, record.evidence_measured]
  constructor
  · rintro ⟨_, hfields, _⟩
    exact hfields.2.2.2.1
  · intro hnames
    exact ⟨⟨⟩, ⟨hhead, record.stdout_measured, record.stderr_measured, hnames,
      record.duration_within⟩, _, rfl, rfl⟩

theorem forM_eq_ok_iff {α : Type} {f : α → Except Raised Unit} {items : List α} :
    items.forM f = .ok () ↔ ∀ item ∈ items, f item = .ok () := by
  induction items with
  | nil => exact iff_of_true rfl fun _ hmem => absurd hmem List.not_mem_nil
  | cons item items ih =>
      have hcons : (item :: items).forM f = (f item >>= fun _ => items.forM f) := rfl
      rw [hcons, bind_eq_ok_iff, List.forall_mem_cons, ← ih]
      constructor
      · rintro ⟨_, hitem, hitems⟩
        exact ⟨hitem, hitems⟩
      · rintro ⟨hitem, hitems⟩
        exact ⟨_, hitem, hitems⟩

theorem encodes_recordPayloads (records : List (RuntimeCommandEvidence session.H)) :
    Json.Encodes (session.recordPayloads records) := by
  have hrecord : ∀ record, Json.Encodes (session.recordPayload record) := by
    intro record
    have hduration : Json.Encodes (.int record.durationMs) := by
      apply encodes_small
      have hwithin := record.duration_within
      simp only [maxRuntimeCommandSeconds] at hwithin
      omega
    simp [recordPayload, hduration, encodes_exitCode record]
  simp [recordPayloads, hrecord]

/-- The evidence has a digest exactly when no output on record names the credential. -/
theorem lifecycleSha256_isOk_iff (evidence : LifecycleEvidence session.H)
    (hduration : Json.Encodes (.int evidence.durationMs)) :
    (∃ sha256, session.lifecycleSha256 evidence = .ok sha256) ↔
      ∀ record ∈ evidence.records, session.namesCredential record = false := by
  have hstarted : Json.Encodes (.int evidence.startedUnixNs) := by
    apply encodes_small
    have hsmall := evidence.startedUnixNs.2
    omega
  have hencodes : Json.Encodes (session.lifecyclePayload evidence) := by
    simp [lifecyclePayload, encodes_recordPayloads, hduration, hstarted]
  obtain ⟨payload, hpayload⟩ := Option.isSome_iff_exists.mp
    (Json.compact?_isSome_iff.mpr hencodes)
  have hrecords : evidence.records.forM session.validateCommandRecord = .ok () ↔
      ∀ record ∈ evidence.records, session.namesCredential record = false := by
    simp only [forM_eq_ok_iff, validateCommandRecord_eq_ok_iff]
  rw [← hrecords]
  simp only [lifecycleSha256, canonicalJson, hpayload, required_some, bind_eq_ok_iff,
    Except.ok.injEq, exists_eq_left', pure_eq_ok_iff]
  constructor
  · rintro ⟨_, _, hvalid, _⟩
    exact hvalid
  · intro hvalid
    exact ⟨_, ⟨⟩, hvalid, rfl⟩

/-- Texts have canonical JSON. -/
theorem environmentSha256_ok (environment : Broker.Environment) :
    ∃ sha256, session.environmentSha256 environment = .ok sha256 := by
  have hencodes : Json.Encodes (Broker.environmentJson environment) := by
    refine Json.encodes_obj.mpr fun field hfield => ?_
    obtain ⟨entry, -, rfl⟩ := List.mem_map.mp (Json.mem_ofPairs hfield)
    exact Json.encodes_str entry.2
  obtain ⟨canonical, hcanonical⟩ := Option.isSome_iff_exists.mp
    (Json.compact?_isSome_iff.mpr hencodes)
  exact ⟨session.H canonical, by
    rw [environmentSha256, canonicalJson, hcanonical, required_some, ok_bind]; rfl⟩

/-! ## Leaving -/

/-- How a session is left: cleaned up, or stuck where something was not regular. -/
def Settled (session : Session) (loads : InspectReader) (state : State session.H)
    (history : History) : Prop :=
  (session.CleanedUp loads state history ∧ session.Regular loads state history) ∨
    (state.closed = false ∧ ¬ session.Regular loads state history)

theorem not_provisioning_exception : ¬ Raised.exception.IsProvisioning := by
  rintro ⟨_, h⟩
  cases h

/-- What is known of all targets is what the claim about a session asks for. -/
theorem Leaving.settled {rest : History} {after : State session.H}
    (h : Leaving session loads (fun _ => True) (fun _ => True) state history)
    (hcommands : ∀ exchange ∈ rest, ∀ stage act, exchange.1 ≠ .command stage act)
    (hdetected : (⟨.detect true, .error .other⟩ : Exchange Query Answer) ∉ rest)
    (hsame : after.boundary = state.boundary ∧ after.externalInspect = state.externalInspect)
    (hclosed : after.closed = true)
    (hunnamed : after.boundary.isSome = true → session.FoundAgain (history ++ rest) →
      ∀ record ∈ after.records, session.namesCredential record = false) :
    Settled session loads after (history ++ rest) := by
  refine Or.inl ⟨⟨fun target hissued => ?_, fun target => ?_, hclosed, ?_, ?_⟩, ?_, ?_, ?_,
    hunnamed⟩
  · have hcreated : state.created target = true := by
      rcases issued_append.mp hissued with hbefore | ⟨exchange, hmem, heq⟩
      · exact h.created target hbefore
      · exact absurd heq (hcommands exchange hmem _ _)
    refine (h.removes target trivial hcreated).append ?_
    rintro ⟨exchange, hmem, heq⟩
    exact hcommands exchange hmem _ _ heq
  · refine (h.absent target trivial).append fun exchange hmem => ?_
    rintro (heq | heq) <;> exact hcommands exchange hmem _ _ heq
  · rw [enter, hclosed, Bool.or_true, if_pos rfl]
  · have hshut : ¬ (after.entered = true ∧ after.closed = false) := by simp [hclosed]
    exact bind_eq_error_iff.mpr (Or.inl (ensure_eq_error_iff.mpr ⟨hshut, rfl⟩))
  · rw [hsame.1, hsame.2]
    exact h.compared.append fun exchange hmem target => hcommands exchange hmem _ _
  · exact h.readable.append fun exchange hmem target => hcommands exchange hmem _ _
  · intro hmem
    rcases List.mem_append.mp hmem with hmem | hmem
    · exact h.undetected _ hmem rfl
    · exact hdetected hmem

/-- The end of the cleanup. -/
theorem meets_attest {before after : ContainerBackend} (environment : Broker.Environment)
    (succeeded : Bool)
    (h : Leaving session loads (fun _ => True) (fun _ => True) state history)
    (hafter : session.exactBackend false after = .ok after) :
    (session.attest before after environment succeeded state).Meets anyQuery
      (fun next => Settled session loads { next with closed := true })
      (fun stopped => Settled session loads stopped.state)
      (history ++ [⟨.detect true, .ok after⟩]) := by
  have hfound : ∀ rest, session.FoundAgain
      (history ++ ⟨.detect true, .ok after⟩ :: rest) := fun rest => ⟨after, by simp, hafter⟩
  have hcommands : ∀ (clocks : List (Answer .clock)),
      ∀ exchange ∈ (⟨.detect true, .ok after⟩ : Exchange Query Answer) ::
        clocks.map (fun time => ⟨.clock, time⟩), ∀ stage act, exchange.1 ≠ .command stage act := by
    intro clocks exchange hmem stage act heq
    rcases List.mem_cons.mp hmem with rfl | hmem
    · cases heq
    · obtain ⟨time, -, rfl⟩ := List.mem_map.mp hmem
      cases heq
  have hdetected : ∀ (clocks : List (Answer .clock)),
      (⟨.detect true, .error .other⟩ : Exchange Query Answer) ∉
        (⟨.detect true, .ok after⟩ : Exchange Query Answer) ::
          clocks.map (fun time => ⟨.clock, time⟩) := by
    intro clocks hmem
    rcases List.mem_cons.mp hmem with heq | hmem
    · cases heq
    · obtain ⟨time, -, heq⟩ := List.mem_map.mp hmem
      cases heq
  rw [attest]
  cases hboundary : state.boundary with
  | none =>
      refine h.settled (hcommands []) (hdetected []) ⟨rfl, rfl⟩ rfl fun hsome => ?_
      rw [show ({ state with closed := true } : State session.H).boundary = state.boundary from rfl,
        hboundary] at hsome
      cases hsome
  | some measured =>
      obtain ⟨boundary, boundarySha256⟩ := measured
      simp only
      rw [meets_bind, meets_query]
      refine ⟨trivial, fun now => ?_⟩
      obtain ⟨environmentDigest, henvironment⟩ := session.environmentSha256_ok environment
      rw [henvironment, List.append_assoc]
      simp only [during, List.singleton_append]
      rw [meets_bind, meets_pure, meets_bind]
      have hduration : Json.Encodes
          (.int (max 0 ((now.1 - state.startedMonotonicNs.1) / 1000000))) := by
        apply encodes_small
        have hnow := now.2
        have hstarted := state.startedMonotonicNs.2
        omega
      have hdigest := lifecycleSha256_isOk_iff
        { before := before
          after := after
          environmentSha256 := environmentDigest
          boundarySha256 := boundarySha256
          externalInspect := state.externalInspect
          provisioningCommands := state.provisioningCommands
          postCommands := state.postCommands
          cleanupCommands := state.cleanupCommands
          absenceCommands := state.absenceCommands
          startedUnixNs := state.startedUnixNs
          durationMs := max 0 ((now.1 - state.startedMonotonicNs.1) / 1000000)
          cleanupSucceeded := succeeded } hduration
      generalize session.lifecycleSha256 _ = digest at hdigest ⊢
      cases digest with
      | error error =>
          refine Or.inr ⟨h.is_open, fun hregular => ?_⟩
          have hnames := hregular.unnamed (by rw [hboundary]; rfl) (hfound _)
          obtain ⟨_, hok⟩ := hdigest.mpr hnames
          cases hok
      | ok sha256 =>
          refine h.settled (hcommands [now]) (hdetected [now]) ⟨hboundary.symm, rfl⟩ rfl
            fun _ _ => ?_
          exact hdigest.mp ⟨sha256, rfl⟩

/-- What the cleanup ends with, once the attribute `_closed` is set. -/
abbrev Closes (session : Session) (loads : InspectReader) (result : Bool × State session.H) :
    History → Prop :=
  Settled session loads { result.2 with closed := true }

/-- The end of the cleanup: the backend is looked for again. -/
theorem meets_conclude (backend : ContainerBackend) (environment : Broker.Environment) (ok : Bool)
    (h : Leaving session loads (fun _ => True) (fun _ => True) state history) :
    (session.conclude backend environment ok state).Meets anyQuery (Closes session loads)
      (fun stopped => Settled session loads stopped.state) history := by
  have hnothing : ∀ answer : Except DetectionError ContainerBackend,
      (⟨.detect true, .error .other⟩ : Exchange Query Answer) ∉
        [(⟨.detect true, answer⟩ : Exchange Query Answer)] →
      (∀ after, answer = .ok after → session.exactBackend false after ≠ .ok after) →
      Closes session loads (false, state) (history ++ [⟨.detect true, answer⟩]) := by
    intro answer hother hinexact
    refine h.settled (fun exchange hmem _ _ heq => ?_) hother ⟨rfl, rfl⟩ rfl fun _ hfound => ?_
    · rw [List.mem_singleton.mp hmem] at heq
      cases heq
    · obtain ⟨after, hmem, hexact⟩ := hfound
      rcases List.mem_append.mp hmem with hmem | hmem
      · exact absurd rfl (h.undetected _ hmem)
      · cases List.mem_singleton.mp hmem
        exact absurd hexact (hinexact after rfl)
  rw [conclude, meets_bind, detectExactBackend, meets_bind, meets_query]
  refine ⟨trivial, fun answer => ?_⟩
  rcases answer with (_ | _) | after
  · refine hnothing (.error .expected) (fun hmem => ?_) fun _ heq => ?_
    · cases List.mem_singleton.mp hmem
    · cases heq
  · refine Or.inr ⟨h.is_open, fun hregular => hregular.detected ?_⟩
    exact List.mem_append_right _ (List.mem_singleton_self _)
  · simp only [Bool.not_true]
    cases hexact : session.exactBackend false after with
    | error error =>
        have hclass : error = isolationFailed := by
          rw [exactBackend] at hexact
          rcases bind_eq_error_iff.mp hexact with hensure | ⟨_, _, hpure⟩
          · exact (ensure_eq_error_iff.mp hensure).2.symm
          · cases hpure
        subst hclass
        refine hnothing (.ok after) (fun hmem => by cases List.mem_singleton.mp hmem) ?_
        intro other heq hok
        cases heq
        rw [hexact] at hok
        cases hok
    | ok found =>
        have hsame : found = after := by
          obtain ⟨_, _, hpure⟩ := bind_eq_ok_iff.mp hexact
          exact (pure_eq_ok_iff.mp hpure).symm
        subst hsame
        rw [meets_pure, meets_bind]
        exact (meets_attest environment _ h hexact).imp (fun _ _ hnext => hnext)
          fun _ _ hstopped => hstopped

theorem Stuck.settled {stopped : Stopped session.H} (h : Stuck session loads stopped history) :
    Settled session loads stopped.state history :=
  Or.inr h

/-- The loops and what follows them. -/
theorem meets_cleanTargetsAndConclude {backend : ContainerBackend}
    (environment : Broker.Environment) (postOk : Bool)
    (h : Leaving session loads (fun _ => False) (fun _ => False) state history)
    (hbackend : state.backend = some backend) :
    (session.cleanTargetsAndConclude loads backend environment postOk state).Meets anyQuery
      (Closes session loads) (fun stopped => Settled session loads stopped.state) history := by
  have hall : ∀ target : Target, (target ∈ Target.all ∨ False) ↔ True := fun target =>
    iff_true_intro (Or.inl (Target.mem_all target))
  rw [cleanTargetsAndConclude, meets_bind]
  refine (meets_cleanTargets Target.all true h hbackend (by decide) fun _ _ hfalse => hfalse).imp
    (fun cleaned after hcleaned => ?_) fun _ _ hstuck => hstuck.settled
  rw [meets_bind]
  refine (meets_checkAbsences Target.all cleaned.1 hcleaned.2 hcleaned.1).imp
    (fun checked after hchecked => ?_) fun _ _ hfalse => hfalse.elim
  have heverything := hchecked.congr (fun target => (hall target).symm) fun target =>
    (hall target).symm
  exact meets_conclude backend environment (postOk && checked.1) heverything

/-- A session that may be left is cleaned up, or stuck where something is not regular. -/
theorem meets_cleanup (requirePostInspect : Bool) (h : Leavable session state history) :
    (session.cleanup loads requirePostInspect state).Meets anyQuery (Closes session loads)
      (fun stopped => Settled session loads stopped.state) history := by
  have hfresh : Leaving session loads (fun _ => False) (fun _ => False) state history := by
    have hleaving : Leaving session loads (fun _ => False) (fun _ => False) state
        (history ++ []) := h.leaving
      ⟨rfl, rfl, rfl, rfl, rfl, rfl, rfl⟩ (fun _ hmem => absurd hmem List.not_mem_nil)
      (compared_of_not .internal fun reply hinspects => ?_)
    · rwa [List.append_nil] at hleaving
    · rw [List.append_nil] at hinspects
      exact h.not_inspects (by decide) _ _ hinspects
  rw [cleanup]
  split
  · next backend environment hbackend henvironment =>
      cases requirePostInspect with
      | true =>
          simp only [if_true]
          rw [meets_bind]
          refine (meets_postExecutionInspect backend h).imp (fun post after hpost => ?_)
            fun _ _ hstuck => hstuck.settled
          exact meets_cleanTargetsAndConclude environment post.1 hpost.2 (hpost.1.trans hbackend)
      | false => exact meets_cleanTargetsAndConclude environment true hfresh hbackend
  · next hnothing =>
      have hcreated : ∀ target, state.created target ≠ true := by
        intro target htarget
        obtain ⟨backend, environment, hbackend, henvironment, -⟩ := h.ready target htarget
        exact hnothing backend environment hbackend henvironment
      have heverything : Leaving session loads (fun _ => True) (fun _ => True) state history :=
        { hfresh with
          removes := fun target _ htarget => absurd htarget (hcreated target)
          untouched := fun target _ => hfresh.untouched target fun _ hfalse => hfalse
          absent := fun target _ =>
            followed_of_forall_not (hfresh.untouched target fun _ hfalse => hfalse) }
      have hsettled : Closes session loads (true, state) (history ++ []) := by
        refine heverything.settled (fun _ hmem => absurd hmem List.not_mem_nil) List.not_mem_nil
          ⟨rfl, rfl⟩ rfl fun _ hfound => ?_
        obtain ⟨backend, hmem, -⟩ := hfound
        rw [List.append_nil] at hmem
        exact absurd rfl (h.undetected _ hmem)
      rw [List.append_nil] at hsettled
      exact hsettled

theorem meets_leave (requirePostInspect : Bool) (h : Leavable session state history) :
    (session.leave loads requirePostInspect state).Meets anyQuery
      (fun result => Settled session loads result.2)
      (fun stopped => Settled session loads stopped.state) history := by
  rw [leave, meets_bind]
  exact (meets_cleanup requirePostInspect h).imp (fun _ _ hcloses => hcloses)
    fun _ _ hstopped => hstopped

theorem enter_fresh : session.enter loads {} = (do
    match ← (session.provision loads { entered := true }).attempt with
    | .ok state => pure state
    | .error stopped => do
        let (cleanupOk, state) ← session.leave loads false stopped.state
        .raise ⟨if cleanupOk then provisioningFailed else cleanupFailed, state⟩) := rfl

/-- Either the session is entered, or it has been left again. -/
theorem meets_enter :
    (session.enter loads {}).Meets anyQuery (fun next => Leavable session next)
      (fun stopped => Settled session loads stopped.state) [] := by
  have hfresh : Leavable session { entered := true } [] :=
    { entered := rfl
      is_open := rfl
      created := by
        rintro _ ⟨_, hmem, _⟩
        exact absurd hmem List.not_mem_nil
      ready := fun target hcreated => by cases target <;> cases hcreated
      provisions := fun _ hmem => absurd hmem List.not_mem_nil
      undetected := fun _ hmem => absurd hmem List.not_mem_nil
      no_post := rfl }
  have hprovision : (session.provision loads { entered := true }).Meets anyQuery
      (fun next => Leavable session next) (StopsLeavable session) [] :=
    meets_provision hfresh fun target => by cases target <;> rfl
  rw [enter_fresh, meets_bind, meets_attempt]
  refine hprovision.imp (fun next after hnext => hnext) fun stopped after hstopped => ?_
  simp only
  rw [meets_bind]
  exact (meets_leave false hstopped).imp (fun _ _ hsettled => hsettled) fun _ _ hsettled => hsettled

theorem meets_exit (h : Leavable session state history) :
    (session.exit loads state).Meets anyQuery (fun next => Settled session loads next)
      (fun stopped => Settled session loads stopped.state) history := by
  have hopen : ¬ state.closed = true := by simp [h.is_open]
  rw [exit, if_neg hopen, meets_bind]
  refine (meets_leave true h).imp (fun left after hsettled => ?_) fun _ _ hsettled => hsettled
  by_cases hok : left.1 = true
  · simp only [hok, if_true]
    exact hsettled
  · simp only [hok]
    exact hsettled

/-- However a `with` statement ends, the session has been left. -/
theorem meets_withSession :
    (session.withSession loads).Meets anyQuery (fun result => Settled session loads result.2)
      (fun _ _ => False) [] := by
  rw [withSession, meets_bind, meets_attempt]
  refine meets_enter.imp (fun next after hnext => ?_) fun _ _ hsettled => hsettled
  simp only
  rw [meets_bind, meets_query]
  refine ⟨trivial, fun body => ?_⟩
  have hbody := hnext.other ⟨.body, body⟩ (fun _ _ h => nomatch h) (fun h => nomatch h)
  rw [meets_bind, meets_attempt]
  refine (meets_exit hbody).imp (fun left after hsettled => ?_) fun _ _ hsettled => hsettled
  cases body with
  | ok _ => exact hsettled
  | error _ => exact hsettled

/-- A `with` statement cleans up after itself exactly when nothing raises on the way: whatever the
commands print, return or raise, and however the body ends. -/
theorem withSession_cleanedUp_iff (session : Session) (loads : InspectReader) (answers : Runtime) :
    let run := (session.withSession loads).run answers []
    ∃ result, run.1 = .ok result ∧
      (session.CleanedUp loads result.2 run.2 ↔ session.Regular loads result.2 run.2) := by
  intro run
  have hmeets : (session.withSession loads).Meets anyQuery
      (fun result => Settled session loads result.2) (fun _ _ => False) [] := meets_withSession
  have houtcome := hmeets.outcome answers
  cases hrun : run.1 with
  | error error => exact (houtcome.2 error hrun).elim
  | ok result =>
      refine ⟨result, rfl, ?_⟩
      rcases houtcome.1 result hrun with hsettled | hstuck
      · exact iff_of_true hsettled.1 hsettled.2
      · refine iff_of_false (fun hcleaned => ?_) hstuck.2
        rw [hcleaned.closed] at hstuck
        cases hstuck.1

end Session
end AmazonSimilarSearch.EgressSession
