import AmazonSimilarSearch.Broker.LifecycleRuns

/-!
# Lifecycle safety

Whatever the container runtime, the ledger and the clocks answer, a run of
`_execute_one` creates nothing before the names are free, starts the broker once
and behind the inspected boundary, removes only what is its own, and cleans up
whatever it may have created. Every error of its body becomes an
`OuterBrokerExecutionError`; the probe after the cleanup is not wrapped, so an
exception that the probe raises leaves the function as it is.
-/
namespace AmazonSimilarSearch.Broker
open Foundation Interaction

/-- `isinstance(e, OuterBrokerExecutionError)` -/
def Raised.IsOuter : Raised → Prop
  | .outerBroker _ => True
  | .exception => False

theorem isOuter_of_canonical {value : Json} {e : Raised} (h : canonical value = .error e) :
    e.IsOuter := by
  obtain ⟨-, rfl⟩ := required_eq_error_iff.mp h
  trivial

namespace Session

variable (session : Session) (readers : Readers)

/-! ## Regular answers -/

/-- The probe command raises nothing of another class, and its output, if it is read, is read
without an exception of another class. -/
def RegularProbe : Except Raised CommandResult → Prop
  | .error e => e.IsOuter
  | .ok result => Within (session.command .probe) result → result.exitCode = 0 →
      readers.info result.stdout ≠ .error .exception

/-- An answer about the runtime that is no exception of another class. -/
def RegularExchange : Exchange Query Answer → Prop
  | ⟨.measureRuntime _, .error e⟩ => e.IsOuter
  | ⟨.command command, answer⟩ => command = session.command .probe →
      session.RegularProbe readers answer
  | _ => True

/-- Every answer about the runtime was regular. -/
def RuntimeRegular (history : History) : Prop :=
  ∀ exchange ∈ history, session.RegularExchange readers exchange

variable {session readers} {progress : Progress} {history before after more : History}
  {records : List CommandRecord}

theorem runtimeRegular_concat {exchange : Exchange Query Answer} :
    session.RuntimeRegular readers (history ++ [exchange]) ↔
      session.RuntimeRegular readers history ∧ session.RegularExchange readers exchange := by
  simp only [RuntimeRegular, List.forall_mem_append, List.forall_mem_singleton]

/-- A security record is refused with the executor's own error, unless reading it raised
something else. -/
theorem isOuter_of_decode {loads : InfoReader} {name : String} {record : CommandRecord}
    {e : Raised} (h : decodeRuntimeSecurity loads name record = .error e) :
    e.IsOuter ↔ loads record.result.stdout ≠ .error .exception := by
  unfold decodeRuntimeSecurity at h
  cases hloads : loads record.result.stdout with
  | error raised =>
      rw [hloads] at h
      obtain rfl := Except.error.inj h
      cases raised <;> simp [Raised.IsOuter]
  | ok info =>
      rw [hloads, ok_bind] at h
      have houter : e.IsOuter := by
        rcases bind_eq_error_iff.mp h with hreported | ⟨values, -, hvalues⟩
        · obtain ⟨-, rfl⟩ := required_eq_error_iff.mp hreported
          trivial
        · obtain ⟨rootless, userNamespace, seccompEnabled, seccompProfile⟩ := values
          dsimp only at hvalues
          split at hvalues
          · rcases bind_eq_error_iff.mp hvalues with hensure | ⟨_, -, hpure⟩
            · obtain ⟨-, rfl⟩ := ensure_eq_error_iff.mp hensure
              trivial
            · cases hpure
          · obtain rfl := Except.error.inj hvalues
            trivial
      simp [houter]

theorem readable_of_decode {loads : InfoReader} {name : String} {record : CommandRecord}
    {security : RuntimeSecurity} (h : decodeRuntimeSecurity loads name record = .ok security) :
    loads record.result.stdout ≠ .error .exception := by
  unfold decodeRuntimeSecurity at h
  obtain ⟨info, hinfo, -⟩ := bind_eq_ok_iff.mp h
  rw [hinfo]
  exact nofun

theorem isOuter_of_evidence {H : HashFunction} {name : String} {security : RuntimeSecurity}
    {e : Raised} (h : securityEvidenceSha256 H name security = .error e) : e.IsOuter := by
  rcases bind_eq_error_iff.mp h with hcanonical | ⟨_, -, hpure⟩
  · exact isOuter_of_canonical hcanonical
  · cases hpure

/-- Only the runtime was measured and probed, and the clock read. -/
def OnlyProbes (session : Session) (history : History) : Prop :=
  ∀ exchange ∈ history, ∀ act, exchange.1 = .command (session.command act) → act = .probe

theorem onlyProbes_nil : session.OnlyProbes [] := nofun

theorem OnlyProbes.append (h : session.OnlyProbes history) (hmore : session.OnlyProbes more) :
    session.OnlyProbes (history ++ more) :=
  fun exchange hexchange => (List.mem_append.mp hexchange).elim (h exchange) (hmore exchange)

theorem onlyProbes_other {exchange : Exchange Query Answer}
    (hcommand : ∀ command, exchange.1 ≠ .command command) : session.OnlyProbes [exchange] := by
  intro other hother act heq
  rw [List.mem_singleton.mp hother] at heq
  exact absurd heq (hcommand _)

theorem onlyProbes_probe (answer : Except Raised CommandResult) :
    session.OnlyProbes [session.asks .probe answer] := by
  intro exchange hexchange act heq
  rw [List.mem_singleton.mp hexchange] at heq
  exact (session.command_injective (Query.command.inj heq)).symm

/-- What is known after a part of the last probe: it is regular exactly when `expected` says so. -/
structure ProbedSince (session : Session) (readers : Readers) (before after : History)
    (expected : Prop) : Prop where
  extension : ∃ more, after = before ++ more ∧ session.OnlyProbes more
  regular : expected ↔ session.RuntimeRegular readers after

theorem ProbedSince.outer {e : Raised} (h : session.ProbedSince readers before after True)
    (he : e.IsOuter) : session.ProbedSince readers before after e.IsOuter :=
  ⟨h.extension, ⟨fun _ => h.regular.mp trivial, fun _ => he⟩⟩

theorem ProbedSince.other (h : session.ProbedSince readers before after True)
    (exchange : Exchange Query Answer) (hcommand : ∀ command, exchange.1 ≠ .command command)
    (hregular : session.RegularExchange readers exchange) :
    session.ProbedSince readers before (after ++ [exchange]) True where
  extension := by
    obtain ⟨more, rfl, honly⟩ := h.extension
    exact ⟨_, List.append_assoc _ _ _, honly.append (onlyProbes_other hcommand)⟩
  regular := by
    rw [runtimeRegular_concat, ← h.regular]
    simp [hregular]

theorem regularExchange_probe {answer : Except Raised CommandResult} :
    session.RegularExchange readers (session.asks .probe answer) ↔
      session.RegularProbe readers answer :=
  ⟨fun h => h rfl, fun h _ => h⟩

theorem ProbedSince.probe {answer : Except Raised CommandResult} {expected : Prop}
    (h : session.ProbedSince readers before after True)
    (hexpected : expected ↔ session.RegularProbe readers answer) :
    session.ProbedSince readers before (after ++ [session.asks .probe answer]) expected where
  extension := by
    obtain ⟨more, rfl, honly⟩ := h.extension
    exact ⟨_, List.append_assoc _ _ _, honly.append (onlyProbes_probe answer)⟩
  regular := by
    rw [runtimeRegular_concat, ← h.regular, regularExchange_probe, hexpected, true_and]

theorem meets_runtimeProbeRecord {returns : CommandRecord → History → Prop}
    {raises : Raised → History → Prop} (h : session.ProbedSince readers before history True)
    (hreturns : ∀ result, Within (session.command .probe) result → result.exitCode = 0 →
      returns ⟨session.argv .probe, result⟩ (history ++ [session.asks .probe (.ok result)]))
    (hraises : ∀ e after, session.ProbedSince readers before after e.IsOuter → raises e after) :
    (runtimeProbeRecord session.call.runtimeText session.call.batch.runtime.name
      session.call.environment.entries).Meets (session.Allowed readers) returns raises history := by
  change Meets _ _ _ (session.record .probe >>= fun record => _) _
  rw [meets_bind]
  refine meets_record_exact trivial (fun result _ hwithin => ?_)
    (fun _ _ => hraises _ _ (h.outer trivial)) (fun e _ => hraises _ _ (h.probe Iff.rfl))
    fun result _ _ hexceeded => hraises _ _
      (h.probe ⟨fun _ hwithin => absurd hwithin hexceeded, fun _ => trivial⟩)
  rw [liftM_eq_ofExcept, meets_bind, meets_ensure]
  exact ⟨fun hexit => hreturns result hwithin hexit, fun hexit => hraises _ _
    (h.probe ⟨fun _ _ hzero => absurd hzero hexit, fun _ => trivial⟩)⟩

/-- The probe of the runtime: its record is the only one, and an exception of another class is one
that the runtime's answers caused. -/
theorem meets_probeRuntime (hregular : session.RuntimeRegular readers history) :
    (probeRuntime session.H readers.info session.call.runtimeText session.call.batch.runtime
      session.call.environment.entries).Meets (session.Allowed readers)
      (fun probe after => session.ProbedSince readers history after True ∧
        ∀ records, session.Clean records history →
          session.Clean (records ++ [probe.command]) after)
      (fun e after => session.ProbedSince readers history after e.IsOuter) history := by
  have hstart : session.ProbedSince readers history history True :=
    ⟨⟨[], by simp, onlyProbes_nil⟩, by simp [hregular]⟩
  rw [probeRuntime, meets_bind]
  refine ⟨trivial, fun answer => Iff.mpr meets_ofExcept ⟨?_, ?_⟩⟩
  · rintro ⟨digest, metadata⟩ rfl
    have hmeasured := hstart.other
      ⟨.measureRuntime session.call.runtimeText, .ok (digest, metadata)⟩ nofun trivial
    change Meets _ _ _ (ofExcept (ensure _ _) >>= _) _
    rw [meets_bind, meets_ensure]
    refine ⟨fun _ => ?_, fun _ => hmeasured.outer trivial⟩
    rw [meets_bind]
    refine meets_runtimeProbeRecord hmeasured (fun result hwithin hexit => ?_) fun _ _ h => h
    have hread : session.RegularProbe readers (.ok result) ↔
        readers.info result.stdout ≠ .error .exception :=
      ⟨fun h => h hwithin hexit, fun h _ _ => h⟩
    rw [meets_bind]
    refine Iff.mpr meets_ofExcept ⟨fun security hsecurity => ?_, fun e he =>
      hmeasured.probe ((isOuter_of_decode he).trans hread.symm)⟩
    have hprobed : session.ProbedSince readers history _ True := hmeasured.probe
      (iff_of_true trivial (hread.mpr (readable_of_decode hsecurity)))
    rw [meets_bind]
    refine Iff.mpr meets_ofExcept ⟨fun evidence _ => ?_, fun e he =>
      hprobed.outer (isOuter_of_evidence he)⟩
    rw [liftM_eq_ofExcept, meets_bind, meets_ensure]
    refine ⟨fun _ => ⟨hprobed, fun records hclean => ?_⟩, fun _ => hprobed.outer trivial⟩
    have hclean := hclean.other
      ⟨.measureRuntime session.call.runtimeText, .ok (digest, metadata)⟩ nofun
    exact hclean.concat .probe hexit nofun
  · rintro e rfl
    refine ⟨⟨_, rfl, onlyProbes_other nofun⟩, ?_⟩
    rw [runtimeRegular_concat]
    exact ⟨fun h => ⟨hregular, h⟩, fun h => h.2⟩

/-! ## The evidence -/

/-- What evidence says: it lists the commands that ran, all of them succeeded, every absence command
printed nothing, and neither the boundary nor the runtime changed. -/
structure Attested (session : Session) (readers : Readers) (evidence : RunEvidence)
    (history : History) : Prop where
  clean : session.Clean evidence.records history
  boundary : ∃ start inspected boundary,
    evidence.settled.body.provisioning = start ++ inspected.records ∧
    session.validateBoundary readers.inspect inspected = .ok boundary ∧
    session.validateBoundary readers.inspect evidence.settled.body.post = .ok boundary
  runtimePre : evidence.runtimePre = session.call.runtimePre
  unchanged : evidence.runtimePre.Unchanged evidence.runtimePost

/-- The records of a lifecycle that succeeded, before the last probe. -/
structure SettledClean (session : Session) (readers : Readers) (settled : Settled)
    (history : History) : Prop where
  clean : session.Clean (settled.body.records ++ settled.cleanup ++ settled.absence) history
  boundary : ∃ start inspected boundary, settled.body.provisioning = start ++ inspected.records ∧
    session.validateBoundary readers.inspect inspected = .ok boundary ∧
    session.validateBoundary readers.inspect settled.body.post = .ok boundary

theorem meets_conclude {settled : Settled} (hsettled : session.SettledClean readers settled history)
    (hregular : session.RuntimeRegular readers history) (startedUnixNs started : ℤ) :
    (session.conclude readers startedUnixNs started settled).Meets (session.Allowed readers)
      (fun result after => session.ProbedSince readers history after True ∧
        session.Attested readers result.1 after)
      (fun e after => session.ProbedSince readers history after e.IsOuter) history := by
  rw [conclude, meets_bind]
  refine (meets_probeRuntime hregular).imp (fun probe after hprobe => ?_) fun _ _ h => h
  obtain ⟨hprobed, hrecords⟩ := hprobe
  rw [liftM_eq_ofExcept, meets_bind, meets_ensure]
  refine ⟨fun hunchanged => ?_, fun _ => hprobed.outer trivial⟩
  rw [meets_bind]
  refine ⟨trivial, fun now => ?_⟩
  have hprobed := hprobed.other ⟨.clock, now⟩ nofun trivial
  change Meets _ _ _ (ofExcept _ >>= _) _
  rw [meets_bind]
  refine Iff.mpr meets_ofExcept ⟨fun environment _ => ?_, fun e he =>
    hprobed.outer (isOuter_of_canonical he)⟩
  rw [meets_bind]
  refine Iff.mpr meets_ofExcept ⟨fun payload _ => ⟨hprobed, ?_⟩, fun e he =>
    hprobed.outer (isOuter_of_canonical he)⟩
  exact
    { clean := (hrecords _ hsettled.clean).other ⟨.clock, now⟩ nofun
      boundary := hsettled.boundary
      runtimePre := rfl
      unchanged := hunchanged }

end Session
end AmazonSimilarSearch.Broker
