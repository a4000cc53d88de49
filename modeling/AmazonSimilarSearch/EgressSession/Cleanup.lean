import AmazonSimilarSearch.EgressSession.Leaving

/-!
# The cleanup of a session

Three inspections after the body, one loop that removes and one that looks for
what is left, the last probe and the evidence. Each part either keeps what is
known of the targets or raises because of what the environment has answered.
-/
namespace AmazonSimilarSearch.EgressSession
open Foundation Interaction
open Broker (Target)

namespace Session

variable {session : Session} {loads : InspectReader} {history : History}

/-- What is known of a session while it is left: some targets have been cleaned, and for some it
was checked that they are gone. -/
structure Leaving (session : Session) (loads : InspectReader) (cleaned checked : Target → Prop)
    (state : State session.H) (history : History) : Prop where
  entered : state.entered = true
  is_open : state.closed = false
  created : ∀ target, Issued .provisioning (.create target) history → state.created target = true
  ready : ∀ target, state.created target = true → Ready state
  removes : ∀ target, cleaned target → state.created target = true →
    session.RemovesOwned loads target history
  untouched : ∀ target, (state.created target = true → ¬ cleaned target) →
    ∀ exchange ∈ history, ¬ Touches target exchange
  absent : ∀ target, checked target → Followed (Touches target) (ChecksAbsence target) history
  compared : session.Compared loads state.boundary state.externalInspect history
  readable : session.Readable loads history
  undetected : ∀ exchange ∈ history, exchange.1 ≠ .detect true

/-- Where the cleanup raises, the session is open and something was not regular. -/
def Stuck (session : Session) (loads : InspectReader) (stopped : Stopped session.H)
    (history : History) : Prop :=
  stopped.state.closed = false ∧ ¬ session.Regular loads stopped.state history

variable {cleaned checked : Target → Prop} {state : State session.H}

/-- The attributes that the targets depend on. -/
structure SameTargets (state after : State session.H) : Prop where
  entered : after.entered = state.entered
  closed : after.closed = state.closed
  created : after.created = state.created
  backend : after.backend = state.backend
  environment : after.environment = state.environment
  boundary : after.boundary = state.boundary
  externalInspect : after.externalInspect = state.externalInspect

theorem Ready.same {after : State session.H} (h : Ready state) (hsame : SameTargets state after) :
    Ready after := by
  obtain ⟨backend, environment, hbackend, henvironment, hvalid⟩ := h
  exact ⟨backend, environment, hsame.backend.trans hbackend,
    hsame.environment.trans henvironment, hvalid⟩

theorem Leaving.update {after : State session.H}
    (h : Leaving session loads cleaned checked state history) (hsame : SameTargets state after) :
    Leaving session loads cleaned checked after history where
  entered := hsame.entered.trans h.entered
  is_open := hsame.closed.trans h.is_open
  created target hissued := by
    rw [hsame.created]
    exact h.created target hissued
  ready target hcreated := by
    rw [hsame.created] at hcreated
    exact (h.ready target hcreated).same hsame
  removes target hcleaned hcreated := by
    rw [hsame.created] at hcreated
    exact h.removes target hcleaned hcreated
  untouched target hnot := by
    rw [hsame.created] at hnot
    exact h.untouched target hnot
  absent := h.absent
  compared := by
    rw [hsame.boundary, hsame.externalInspect]
    exact h.compared
  readable := h.readable
  undetected := h.undetected

/-- A target that was never created has nothing to be cleaned. -/
theorem Leaving.skip {target : Target} (h : Leaving session loads cleaned checked state history)
    (hcreated : state.created target = false) :
    Leaving session loads (fun other => other = target ∨ cleaned other) checked state history :=
  { h with
    removes := by
      rintro other (rfl | hcleaned) hother
      · rw [hcreated] at hother
        cases hother
      · exact h.removes other hcleaned hother
    untouched := by
      intro other hnot
      exact h.untouched other fun hother hcleaned => hnot hother (Or.inr hcleaned) }

theorem Leaving.skipCheck {target : Target}
    (h : Leaving session loads cleaned checked state history)
    (hcreated : state.created target = false) :
    Leaving session loads cleaned (fun other => other = target ∨ checked other) state history :=
  { h with
    absent := by
      rintro other (rfl | hchecked)
      · exact followed_of_forall_not (h.untouched other fun hother => by
          rw [hcreated] at hother
          cases hother)
      · exact h.absent other hchecked }

/-- Only the targets count, not the order in which they came. -/
theorem Leaving.congr {cleaned' checked' : Target → Prop}
    (h : Leaving session loads cleaned checked state history)
    (hcleaned : ∀ target, cleaned' target ↔ cleaned target)
    (hchecked : ∀ target, checked' target ↔ checked target) :
    Leaving session loads cleaned' checked' state history := by
  have hc : cleaned' = cleaned := funext fun target => propext (hcleaned target)
  have hk : checked' = checked := funext fun target => propext (hchecked target)
  rw [hc, hk]
  exact h

/-! ## After the body -/

theorem Leavable.not_inspects (h : Leavable session state history) {stage : Stage}
    (hstage : stage ≠ .provisioning) (target : Target) (reply : Reply) :
    ¬ session.Inspects stage target reply history :=
  fun hinspects => hstage (h.provisions _ hinspects.1 _ _ rfl)

/-- Nothing has been cleaned yet, and the exchanges since then are inspections after the body. -/
theorem Leavable.leaving {posts : History} {after : State session.H}
    (h : Leavable session state history) (hsame : SameTargets state after)
    (hposts : ∀ exchange ∈ posts, ∃ target, exchange.1 = .command .post (.inspect target))
    (hcompared : session.Compared loads state.boundary state.externalInspect (history ++ posts)) :
    Leaving session loads (fun _ => False) (fun _ => False) after (history ++ posts) := by
  have hquery : ∀ exchange ∈ history ++ posts, ∀ stage act,
      exchange.1 = .command stage act → stage = .provisioning ∨ stage = .post := by
    intro exchange hmem stage act heq
    rcases List.mem_append.mp hmem with hmem | hmem
    · exact Or.inl (h.provisions exchange hmem stage act heq)
    · obtain ⟨target, hpost⟩ := hposts exchange hmem
      exact Or.inr (Query.command.inj (heq.symm.trans hpost)).1
  have hcleanup : ∀ exchange ∈ history ++ posts, ∀ act, exchange.1 ≠ .command .cleanup act := by
    intro exchange hmem act heq
    rcases hquery exchange hmem _ _ heq with hstage | hstage <;> cases hstage
  have hleaving : Leaving session loads (fun _ => False) (fun _ => False) state
      (history ++ posts) :=
    { entered := h.entered
      is_open := h.is_open
      created := by
        intro target hissued
        rcases issued_append.mp hissued with hbefore | ⟨exchange, hmem, heq⟩
        · exact h.created target hbefore
        · obtain ⟨other, hpost⟩ := hposts exchange hmem
          cases heq.symm.trans hpost
      ready := h.ready
      removes := fun _ hfalse => hfalse.elim
      untouched := fun target _ exchange hmem htouches =>
        htouches.elim (hcleanup exchange hmem _) (hcleanup exchange hmem _)
      absent := fun _ hfalse => hfalse.elim
      compared := hcompared
      readable := fun target reply hinspects => absurd rfl (hcleanup _ hinspects.1 _)
      undetected := by
        intro exchange hmem heq
        rcases List.mem_append.mp hmem with hmem | hmem
        · exact h.undetected exchange hmem heq
        · obtain ⟨other, hpost⟩ := hposts exchange hmem
          cases heq.symm.trans hpost }
  exact hleaving.update hsame

theorem inspects_concat {stage : Stage} {target other : Target} {answer : Except Unit Reply}
    {reply : Reply}
    (h : session.Inspects stage target reply
      (history ++ [⟨.command stage (.inspect other), answer⟩])) :
    session.Inspects stage target reply history ∨
      (target = other ∧ answer = .ok reply ∧ reply.Within session.H ∧
        reply.result.exitCode = 0) := by
  rcases inspects_append.mp h with hbefore | ⟨hmem, hwithin, hexit⟩
  · exact Or.inl hbefore
  · cases List.mem_singleton.mp hmem
    exact Or.inr ⟨rfl, rfl, hwithin, hexit⟩

/-- With a target that no successful inspection shows there is nothing to compare. -/
theorem compared_of_not {boundary : Option (Boundary × Sha256)} {externalInspect : Bytes}
    (target : Target) (h : ∀ reply, ¬ session.Inspects .post target reply history) :
    session.Compared loads boundary externalInspect history := by
  intro _ _ internal external gateway _ hinternal hexternal hgateway
  cases target with
  | internal => exact absurd hinternal (h internal)
  | external => exact absurd hexternal (h external)
  | gateway => exact absurd hgateway (h gateway)

/-- The records of three inspections with the replies they come from. -/
structure Inspected (session : Session) (before after : History)
    (records : List (RuntimeCommandEvidence session.H)) (internal external gateway : Reply) :
    Prop where
  history_eq : after = before ++ [⟨.command .post (.inspect .internal), .ok internal⟩,
    ⟨.command .post (.inspect .external), .ok external⟩,
    ⟨.command .post (.inspect .gateway), .ok gateway⟩]
  within : internal.Within session.H ∧ external.Within session.H ∧ gateway.Within session.H
  exitCodes : records.map (·.exitCode) =
    [internal.result.exitCode, external.result.exitCode, gateway.result.exitCode]

/-- Without all three records there is nothing to compare; with them they come from replies. -/
theorem meets_inspectAgain (backend : ContainerBackend) (h : Leavable session state history) :
    (session.inspectAgain backend).Meets anyQuery
      (fun inspected after => ∃ posts, after = history ++ posts ∧
        (∀ exchange ∈ posts, ∃ target, exchange.1 = .command .post (.inspect target)) ∧
        match inspected with
        | none => ∃ target, ∀ reply, ¬ session.Inspects .post target reply after
        | some (records, internal, external, gateway) => ∃ a b c,
            Inspected session history after records a b c ∧ internal = a.result.stdout ∧
              external = b.result.stdout ∧ gateway = c.result.stdout)
      (fun _ _ => False) history := by
  have hfresh : ∀ target reply, ¬ session.Inspects .post target reply history :=
    fun target reply => h.not_inspects (by decide) target reply
  have hsingle : ∀ (other : Target) (answer : Except Unit Reply) (before : History)
      (target : Target), target ≠ other →
      (∀ reply, ¬ session.Inspects .post target reply before) →
      ∀ reply, ¬ session.Inspects .post target reply
        (before ++ [⟨.command .post (.inspect other), answer⟩]) := by
    intro other answer before target hne hbefore reply hinspects
    rcases inspects_concat hinspects with hinspects | ⟨hsame, -⟩
    · exact hbefore reply hinspects
    · exact hne hsame
  rw [inspectAgain, meets_bind]
  refine meets_command_or trivial ⟨[], by simp, fun _ hmem => absurd hmem List.not_mem_nil,
    .external, hfresh _⟩ (fun answer _ => ?_) fun internal internalRecord _ hi hiexit histdout => ?_
  · refine ⟨[_], rfl, fun exchange hmem => ?_, .external, ?_⟩
    · rw [List.mem_singleton.mp hmem]
      exact ⟨.internal, rfl⟩
    · exact hsingle .internal answer history .external (fun h => nomatch h) (hfresh _)
  simp only
  rw [meets_bind]
  have hfirst : ∀ target : Target, target ≠ .internal → ∀ reply, ¬ session.Inspects .post target
      reply (history ++ [⟨.command .post (.inspect .internal), .ok internal⟩]) :=
    fun target hne => hsingle .internal (.ok internal) history target hne (hfresh _)
  refine meets_command_or trivial ⟨[_], rfl, fun exchange hmem => ?_, .external,
    hfirst _ (fun h => nomatch h)⟩ (fun answer _ => ?_)
    fun external externalRecord _ he heexit hestdout => ?_
  · rw [List.mem_singleton.mp hmem]
    exact ⟨.internal, rfl⟩
  · refine ⟨[_, _], by rw [List.append_assoc]; rfl, fun exchange hmem => ?_, .gateway, ?_⟩
    · rcases List.mem_pair.mp hmem with rfl | rfl
      · exact ⟨.internal, rfl⟩
      · exact ⟨.external, rfl⟩
    · exact hsingle .external answer _ .gateway (fun h => nomatch h)
        (hfirst _ (fun h => nomatch h))
  simp only
  rw [meets_bind]
  have hsecond := hsingle .external (.ok external) _ .gateway (fun h => nomatch h)
    (hfirst _ (fun h => nomatch h))
  refine meets_command_or trivial ⟨[_, _], by rw [List.append_assoc]; rfl, fun exchange hmem => ?_,
    .gateway, hsecond⟩ (fun answer hfailed => ?_)
    fun gateway gatewayRecord _ hg hgexit hgstdout => ?_
  · rcases List.mem_pair.mp hmem with rfl | rfl
    · exact ⟨.internal, rfl⟩
    · exact ⟨.external, rfl⟩
  · refine ⟨[_, _, _], by rw [List.append_assoc, List.append_assoc]; rfl,
      fun exchange hmem => ?_, .gateway, fun reply hinspects => ?_⟩
    · simp only [List.mem_cons, List.not_mem_nil, or_false] at hmem
      rcases hmem with rfl | rfl | rfl
      · exact ⟨.internal, rfl⟩
      · exact ⟨.external, rfl⟩
      · exact ⟨.gateway, rfl⟩
    · rcases inspects_concat hinspects with hinspects | ⟨-, hanswer, hwithin, hexit⟩
      · exact hsecond reply hinspects
      · exact hfailed reply hanswer hwithin hexit
  · refine ⟨[_, _, _], by rw [List.append_assoc, List.append_assoc]; rfl,
      fun exchange hmem => ?_, internal, external, gateway, ⟨?_, ⟨hi, he, hg⟩, ?_⟩, histdout,
        hestdout, hgstdout⟩
    · simp only [List.mem_cons, List.not_mem_nil, or_false] at hmem
      rcases hmem with rfl | rfl | rfl
      · exact ⟨.internal, rfl⟩
      · exact ⟨.external, rfl⟩
      · exact ⟨.gateway, rfl⟩
    · rw [List.append_assoc, List.append_assoc]
      rfl
    · simp [hiexit, heexit, hgexit]

theorem command_eq_iff {stage stage' : Stage} {act act' : Act}
    {answer answer' : Except Unit Reply} :
    (⟨.command stage act, answer⟩ : Exchange Query Answer) = ⟨.command stage' act', answer'⟩ ↔
      stage = stage' ∧ act = act' ∧ answer = answer' := by
  constructor
  · intro h
    cases h
    exact ⟨rfl, rfl, rfl⟩
  · rintro ⟨rfl, rfl, rfl⟩
    rfl

theorem Inspected.inspects_iff {before after : History}
    {records : List (RuntimeCommandEvidence session.H)} {internal external gateway : Reply}
    (h : Inspected session before after records internal external gateway)
    (hbefore : Leavable session state before) {target : Target} {reply : Reply} :
    session.Inspects .post target reply after ↔
      reply.Within session.H ∧ reply.result.exitCode = 0 ∧ match target with
        | .internal => reply = internal
        | .external => reply = external
        | .gateway => reply = gateway := by
  have hfresh : ¬ session.Inspects .post target reply before :=
    hbefore.not_inspects (by decide) target reply
  rw [h.history_eq, inspects_append, or_iff_right hfresh, Inspects]
  simp only [List.mem_cons, List.not_mem_nil, or_false, command_eq_iff, Act.inspect.injEq,
    Except.ok.injEq, true_and]
  cases target <;> simp [and_comm, and_assoc]

/-- The inspections after the body touch nothing. -/
theorem meets_postExecutionInspect (backend : ContainerBackend)
    (h : Leavable session state history) :
    (session.postExecutionInspect loads backend state).Meets anyQuery
      (fun result after => result.2.backend = state.backend ∧
        Leaving session loads (fun _ => False) (fun _ => False) result.2 after)
      (Stuck session loads) history := by
  rw [postExecutionInspect]
  cases hboundary : state.boundary with
  | none =>
      have hnothing : Leaving session loads (fun _ => False) (fun _ => False) state
          (history ++ []) := h.leaving
        ⟨rfl, rfl, rfl, rfl, rfl, rfl, rfl⟩ (fun _ hmem => absurd hmem List.not_mem_nil)
        (fun _ _ _ _ _ hsome => by rw [hboundary] at hsome; cases hsome)
      rw [List.append_nil] at hnothing
      exact ⟨rfl, hnothing⟩
  | some measured =>
      obtain ⟨boundary, sha256⟩ := measured
      simp only
      rw [meets_bind]
      refine (meets_inspectAgain backend h).imp (fun inspected after hafter => ?_)
        fun _ _ hfalse => hfalse.elim
      obtain ⟨posts, rfl, hposts, hinspected⟩ := hafter
      cases inspected with
      | none =>
          obtain ⟨target, hnone⟩ := hinspected
          exact ⟨rfl, h.leaving ⟨rfl, rfl, rfl, rfl, rfl, rfl, rfl⟩ hposts
            (compared_of_not target hnone)⟩
      | some inspected =>
          obtain ⟨records, internal, external, gateway⟩ := inspected
          obtain ⟨a, b, c, hreplies, rfl, rfl, rfl⟩ := hinspected
          have hexit : ∀ reply : Reply, (∃ record ∈ records, record.exitCode ≠ 0) ↔
              a.result.exitCode ≠ 0 ∨ b.result.exitCode ≠ 0 ∨ c.result.exitCode ≠ 0 := by
            intro _
            have hmap : (∃ record ∈ records, record.exitCode ≠ 0) ↔
                ∃ code ∈ records.map (·.exitCode), code ≠ 0 := by simp
            rw [hmap, hreplies.exitCodes]
            simp
          simp only [h.no_post, List.nil_append]
          by_cases hfailed : ∃ record ∈ records, record.exitCode ≠ 0
          · rw [if_pos hfailed]
            refine ⟨rfl, h.leaving ⟨rfl, rfl, rfl, rfl, rfl, hboundary.symm, rfl⟩ hposts ?_⟩
            rcases (hexit a).mp hfailed with hcode | hcode | hcode
            · refine compared_of_not .internal fun reply hinspects => ?_
              obtain ⟨-, hzero, rfl⟩ := (hreplies.inspects_iff h).mp hinspects
              exact hcode hzero
            · refine compared_of_not .external fun reply hinspects => ?_
              obtain ⟨-, hzero, rfl⟩ := (hreplies.inspects_iff h).mp hinspects
              exact hcode hzero
            · refine compared_of_not .gateway fun reply hinspects => ?_
              obtain ⟨-, hzero, rfl⟩ := (hreplies.inspects_iff h).mp hinspects
              exact hcode hzero
          · rw [if_neg hfailed]
            rw [hexit a, not_or, not_or, not_not, not_not, not_not] at hfailed
            obtain ⟨ha, hb, hc⟩ := hfailed
            obtain ⟨hwa, hwb, hwc⟩ := hreplies.within
            have hcompared : ∀ {x : Except Raised Bool},
                session.compareBoundary loads boundary state.externalInspect a.result.stdout
                  b.result.stdout c.result.stdout = x →
                (∀ error, x = .error error → error.IsProvisioning) →
                session.Compared loads state.boundary state.externalInspect
                  (history ++ posts) := by
              intro x hx herrors evidence digest internal external gateway hevidence hinternal
                hexternal hgateway error herror
              obtain ⟨-, -, rfl⟩ := (hreplies.inspects_iff h).mp hinternal
              obtain ⟨-, -, rfl⟩ := (hreplies.inspects_iff h).mp hexternal
              obtain ⟨-, -, rfl⟩ := (hreplies.inspects_iff h).mp hgateway
              rw [hboundary] at hevidence
              cases hevidence
              exact herrors error (hx.symm.trans herror)
            generalize hx : session.compareBoundary loads boundary state.externalInspect
              a.result.stdout b.result.stdout c.result.stdout = x
            cases x with
            | ok same =>
                exact ⟨rfl, h.leaving ⟨rfl, rfl, rfl, rfl, rfl, hboundary.symm, rfl⟩ hposts
                  (hcompared hx fun _ herror => nomatch herror)⟩
            | error error =>
                have hstuck : ∀ after : State session.H, after.closed = state.closed →
                    after.boundary = some (boundary, sha256) →
                    after.externalInspect = state.externalInspect → ¬ error.IsProvisioning →
                    Stuck session loads ⟨error, after⟩ (history ++ posts) := by
                  intro after hclosed hmeasured hexternal hforeign
                  refine ⟨hclosed.trans h.is_open, fun hregular => hforeign ?_⟩
                  have hcomparison := hregular.compared
                  rw [hexternal] at hcomparison
                  exact hcomparison boundary sha256 a b c hmeasured
                    ((hreplies.inspects_iff h).mpr ⟨hwa, ha, rfl⟩)
                    ((hreplies.inspects_iff h).mpr ⟨hwb, hb, rfl⟩)
                    ((hreplies.inspects_iff h).mpr ⟨hwc, hc, rfl⟩) error hx
                cases error with
                | provisioning message =>
                    refine ⟨rfl, h.leaving ⟨rfl, rfl, rfl, rfl, rfl, hboundary.symm, rfl⟩ hposts
                      (hcompared hx fun other hother => ?_)⟩
                    cases hother
                    exact ⟨message, rfl⟩
                | execution message =>
                    exact hstuck _ rfl rfl rfl fun hprovisioning => by
                      obtain ⟨_, h⟩ := hprovisioning
                      cases h
                | exception =>
                    exact hstuck _ rfl rfl rfl fun hprovisioning => by
                      obtain ⟨_, h⟩ := hprovisioning
                      cases h

/-! ## The loops -/

/-- The exchanges of one target keep what is known of the others. -/
theorem Leaving.clean {target : Target} {more : History}
    (h : Leaving session loads cleaned (fun _ => False) state history)
    (htarget : state.created target = true)
    (hmore : ∀ exchange ∈ more, Touches target exchange)
    (hremoves : session.RemovesOwned loads target (history ++ more))
    (hreadable : session.Readable loads (history ++ more)) :
    Leaving session loads (fun other => other = target ∨ cleaned other) (fun _ => False) state
      (history ++ more) where
  entered := h.entered
  is_open := h.is_open
  created other hissued := by
    rcases issued_append.mp hissued with hbefore | ⟨exchange, hmem, heq⟩
    · exact h.created other hbefore
    · rcases hmore exchange hmem with htouches | htouches <;> cases heq.symm.trans htouches
  ready := h.ready
  removes := by
    rintro other hcleaned hcreated
    by_cases hsame : other = target
    · rw [hsame]
      exact hremoves
    · have hother := hcleaned.resolve_left hsame
      refine (h.removes other hother hcreated).append ?_
      rintro ⟨exchange, hmem, heq⟩
      rcases hmore exchange hmem with htouches | htouches
      · cases heq.symm.trans htouches
      · cases heq.symm.trans htouches
        exact hsame rfl
  untouched := by
    intro other hnot exchange hmem htouches
    rcases List.mem_append.mp hmem with hmem | hmem
    · exact h.untouched other (fun hcreated hcleaned => hnot hcreated (Or.inr hcleaned)) exchange
        hmem htouches
    · have hsame : other = target := by
        rcases hmore exchange hmem with hquery | hquery <;>
          rcases htouches with htouches | htouches <;> cases htouches.symm.trans hquery <;> rfl
      subst hsame
      exact hnot htarget (Or.inl rfl)
  absent := fun _ hfalse => hfalse.elim
  compared := h.compared.append fun exchange hmem other heq => by
    rcases hmore exchange hmem with htouches | htouches <;> cases heq.symm.trans htouches
  readable := hreadable
  undetected := by
    intro exchange hmem heq
    rcases List.mem_append.mp hmem with hmem | hmem
    · exact h.undetected exchange hmem heq
    · rcases hmore exchange hmem with htouches | htouches <;> cases heq.symm.trans htouches

/-- The inspection of a target is read, unless it is one of those that `Readable` excludes. -/
theorem Leaving.readable_concat {target : Target} {answer : Except Unit Reply}
    (h : Leaving session loads cleaned (fun _ => False) state history)
    (hanswer : ∀ reply, answer = .ok reply → reply.Within session.H →
      reply.result.exitCode = 0 →
      ∀ error, parseOneInspect loads reply.result.stdout = .error error →
        error.IsProvisioning) :
    session.Readable loads (history ++ [⟨.command .cleanup (.inspect target), answer⟩]) := by
  intro other reply hinspects error herror
  rcases inspects_concat hinspects with hbefore | ⟨-, heq, hwithin, hexit⟩
  · exact h.readable other reply hbefore error herror
  · exact hanswer reply heq hwithin hexit error herror

/-- One target: inspected, and removed when the inspection shows that it is the session's own. -/
theorem meets_cleanTarget {backend : ContainerBackend} {target : Target}
    (h : Leaving session loads cleaned (fun _ => False) state history)
    (htarget : state.created target = true) (hfresh : ¬ cleaned target)
    (hvalid : ValidExecutable backend) :
    (session.cleanTarget loads backend state target).Meets anyQuery
      (fun result after => SameTargets state result.2 ∧ Leaving session loads
        (fun other => other = target ∨ cleaned other) (fun _ => False) result.2 after)
      (Stuck session loads) history := by
  have hbefore : ¬ Issued .cleanup (.remove target) history := by
    rintro ⟨exchange, hmem, heq⟩
    exact h.untouched target (fun _ => hfresh) exchange hmem (Or.inr heq)
  -- the inspection alone, when it does not show the session's own resource
  have hleft : ∀ answer : Except Unit Reply, ¬ session.ShownOwned loads target answer →
      session.RemovesOwned loads target
        (history ++ [⟨.command .cleanup (.inspect target), answer⟩]) := by
    intro answer hnot
    refine ⟨history, answer, [], rfl, hbefore, iff_of_false ?_ hnot⟩
    rintro ⟨exchange, hmem, -⟩
    exact absurd hmem List.not_mem_nil
  have htouches : ∀ answer : Except Unit Reply,
      ∀ exchange ∈ [(⟨.command .cleanup (.inspect target), answer⟩ : Exchange Query Answer)],
        Touches target exchange := by
    intro answer exchange hmem
    rw [List.mem_singleton.mp hmem]
    exact Or.inl rfl
  have keep : ∀ {after : History} (next : State session.H),
      Leaving session loads (fun other => other = target ∨ cleaned other) (fun _ => False) state
        after → SameTargets state next → SameTargets state next ∧ Leaving session loads
          (fun other => other = target ∨ cleaned other) (fun _ => False) next after :=
    fun _ hleaving hsame => ⟨hsame, hleaving.update hsame⟩
  rw [cleanTarget, meets_bind]
  refine meets_command (validArgv_inspect hvalid target) trivial (fun answer hfailed => ?_)
    fun reply inspected hwithin hexit hstdout => ?_
  · refine ⟨⟨rfl, rfl, rfl, rfl, rfl, rfl, rfl⟩, h.clean htarget (htouches answer)
      (hleft answer fun hshown => ?_) (h.readable_concat fun reply heq hwithin hzero =>
        absurd hzero (hfailed reply heq hwithin))⟩
    cases answer with
    | error error => exact hshown
    | ok reply => exact hfailed reply rfl hshown.1 hshown.2.1
  · simp only
    by_cases hzero : inspected.exitCode ≠ 0
    · rw [if_pos hzero]
      have hcode : reply.result.exitCode ≠ 0 := hexit ▸ hzero
      have hcleaned := h.clean htarget (htouches (.ok reply))
        (hleft (.ok reply) fun hshown => hcode hshown.2.1)
        (h.readable_concat fun other heq _ hother => by
          cases heq
          exact absurd hother hcode)
      exact keep _ hcleaned ⟨rfl, rfl, rfl, rfl, rfl, rfl, rfl⟩
    · rw [if_neg hzero]
      have hcode : reply.result.exitCode = 0 := hexit ▸ not_not.mp hzero
      have hreadable : (∀ error, parseOneInspect loads reply.result.stdout = .error error →
          error.IsProvisioning) → session.Readable loads
            (history ++ [⟨.command .cleanup (.inspect target), .ok reply⟩]) := fun hread =>
        h.readable_concat fun other heq _ _ => by
          cases heq
          exact hread
      rw [hstdout]
      generalize howned : validateOwnedResourceInspect loads reply.result.stdout target
        (session.name target) (session.labels target) = owned
      cases owned with
      | error error =>
          have hnot : ¬ session.ShownOwned loads target (.ok reply) := by
            intro hshown
            have hok := validateOwnedResourceInspect_eq_ok_iff.mpr hshown.2.2
            rw [howned] at hok
            cases hok
          have hread : error.IsProvisioning → ∀ other,
              parseOneInspect loads reply.result.stdout = .error other → other.IsProvisioning := by
            intro herror other hother
            have hsame : validateOwnedResourceInspect loads reply.result.stdout target
                (session.name target) (session.labels target) = .error other := by
              rw [validateOwnedResourceInspect, hother, error_bind]
            rw [howned] at hsame
            cases hsame
            exact herror
          have hstuck : ∀ after : State session.H, after.closed = state.closed →
              ¬ error.IsProvisioning → Stuck session loads ⟨error, after⟩
                (history ++ [⟨.command .cleanup (.inspect target), .ok reply⟩]) := by
            intro after hclosed hforeign
            refine ⟨hclosed.trans h.is_open, fun hregular => hforeign ?_⟩
            have hparse := (validateOwnedResourceInspect_error howned).resolve_right hforeign
            exact hregular.readable target reply
              ⟨List.mem_append_right _ (List.mem_singleton_self _), hwithin, hcode⟩ error hparse
          cases error with
          | provisioning message =>
              have hcleaned := h.clean htarget (htouches (.ok reply)) (hleft (.ok reply) hnot)
                (hreadable (hread ⟨message, rfl⟩))
              exact keep _ hcleaned ⟨rfl, rfl, rfl, rfl, rfl, rfl, rfl⟩
          | execution message =>
              exact hstuck _ rfl fun hprovisioning => by
                obtain ⟨_, h⟩ := hprovisioning
                cases h
          | exception =>
              exact hstuck _ rfl fun hprovisioning => by
                obtain ⟨_, h⟩ := hprovisioning
                cases h
      | ok _ =>
          have hshown : session.ShownOwned loads target (.ok reply) :=
            ⟨hwithin, hcode, validateOwnedResourceInspect_eq_ok_iff.mp howned⟩
          have hread : ∀ error, parseOneInspect loads reply.result.stdout = .error error →
              error.IsProvisioning := by
            intro error herror
            rw [validateOwnedResourceInspect, herror, error_bind] at howned
            cases howned
          have hremoved : ∀ (after : State session.H) (answer : Except Unit Reply),
              SameTargets state after →
              SameTargets state after ∧ Leaving session loads
                (fun other => other = target ∨ cleaned other) (fun _ => False) after
                (history ++ [⟨.command .cleanup (.inspect target), .ok reply⟩] ++
                  [⟨.command .cleanup (.remove target), answer⟩]) := by
            intro after answer hsame
            rw [List.append_assoc]
            refine ⟨hsame, (h.clean htarget (fun exchange hmem => ?_) ?_ ?_).update hsame⟩
            · rcases List.mem_pair.mp hmem with rfl | rfl
              · exact Or.inl rfl
              · exact Or.inr rfl
            · refine ⟨history, .ok reply, [⟨.command .cleanup (.remove target), answer⟩], rfl,
                hbefore, iff_of_true ?_ hshown⟩
              exact ⟨_, List.mem_singleton_self _, rfl⟩
            · rw [← List.append_assoc]
              refine (hreadable hread).append fun exchange hmem other heq => ?_
              rw [List.mem_singleton.mp hmem] at heq
              cases heq
          simp only
          rw [meets_bind]
          refine meets_command (validArgv_remove hvalid target) trivial (fun answer _ => ?_)
            fun removal removed _ _ _ => ?_
          · exact hremoved _ answer ⟨rfl, rfl, rfl, rfl, rfl, rfl, rfl⟩
          · exact hremoved _ (.ok removal) ⟨rfl, rfl, rfl, rfl, rfl, rfl, rfl⟩

/-- The first loop cleans all its targets. -/
theorem meets_cleanTargets {backend : ContainerBackend} (targets : List Target) (cleanupOk : Bool)
    (h : Leaving session loads cleaned (fun _ => False) state history)
    (hbackend : state.backend = some backend) (hnodup : targets.Nodup)
    (hfresh : ∀ target ∈ targets, ¬ cleaned target) :
    (session.cleanTargets loads backend cleanupOk state targets).Meets anyQuery
      (fun result after => result.2.backend = some backend ∧ Leaving session loads
        (fun other => other ∈ targets ∨ cleaned other) (fun _ => False) result.2 after)
      (Stuck session loads) history := by
  induction targets generalizing cleanupOk state history cleaned with
  | nil => exact ⟨hbackend, h.congr (fun _ => by simp) (fun _ => Iff.rfl)⟩
  | cons target targets ih =>
      obtain ⟨hnot, hrest⟩ := List.nodup_cons.mp hnodup
      have hnext : ∀ other ∈ targets, ¬ (other = target ∨ cleaned other) := by
        rintro other hmem (rfl | hother)
        · exact hnot hmem
        · exact hfresh other (List.mem_cons_of_mem _ hmem) hother
      have hsame : ∀ other, (other ∈ target :: targets ∨ cleaned other) ↔
          (other ∈ targets ∨ (other = target ∨ cleaned other)) := by
        intro other
        rw [List.mem_cons]
        tauto
      rw [cleanTargets]
      by_cases hcreated : state.created target = true
      · obtain ⟨ready, _, hready, _, hvalid⟩ := h.ready target hcreated
        rw [hbackend] at hready
        cases hready
        rw [if_pos hcreated, meets_bind]
        refine (meets_cleanTarget h hcreated (hfresh target List.mem_cons_self) hvalid).imp
          (fun result after hresult => ?_) fun _ _ hstuck => hstuck
        obtain ⟨cleanedOk, next⟩ := result
        obtain ⟨hsame', hcleaned⟩ := hresult
        exact (ih (cleanupOk && cleanedOk) hcleaned (hsame'.backend.trans hbackend) hrest
          hnext).imp (fun _ _ hall => ⟨hall.1, hall.2.congr hsame fun _ => Iff.rfl⟩)
          fun _ _ hstuck => hstuck
      · rw [if_neg hcreated]
        have hskip := h.skip (Bool.not_eq_true _ ▸ hcreated)
        exact (ih cleanupOk hskip hbackend hrest hnext).imp
          (fun _ _ hall => ⟨hall.1, hall.2.congr hsame fun _ => Iff.rfl⟩) fun _ _ hstuck => hstuck

end Session
end AmazonSimilarSearch.EgressSession
