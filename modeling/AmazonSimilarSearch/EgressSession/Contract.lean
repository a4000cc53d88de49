import AmazonSimilarSearch.EgressSession.Lifecycle

/-!
# What leaving a session shows

`CleanedUp` states over the history of a whole `with` statement what becomes of
the resources whose creation was attempted, and what the session allows later;
`Regular` that no output and no probe makes the cleanup raise on its way.
-/
namespace AmazonSimilarSearch.EgressSession
open Foundation Interaction
open Broker (Target)

/-- The command was issued. -/
def Issued (stage : Stage) (act : Act) (history : History) : Prop :=
  ∃ exchange ∈ history, exchange.1 = .command stage act

/-- A command of the cleanup of the target. -/
def Touches (target : Target) (exchange : Exchange Query Answer) : Prop :=
  exchange.1 = .command .cleanup (.inspect target) ∨
    exchange.1 = .command .cleanup (.remove target)

def ChecksAbsence (target : Target) (exchange : Exchange Query Answer) : Prop :=
  exchange.1 = .command .absence (.absence target)

namespace Session

variable (session : Session) (loads : InspectReader)

/-- The inspection succeeded and shows the session's name and labels. -/
def ShownOwned (target : Target) : Except Unit Reply → Prop
  | .ok reply => reply.Within session.H ∧ reply.result.exitCode = 0 ∧
      ShowsOwned loads reply.result.stdout target (session.name target) (session.labels target)
  | .error _ => False

/-- The target was inspected, and removed after that exactly when it was the session's own. -/
def RemovesOwned (target : Target) (history : History) : Prop :=
  ∃ (before : History) (inspected : Except Unit Reply) (rest : History),
    history = before ++ ⟨.command .cleanup (.inspect target), inspected⟩ :: rest ∧
    ¬ Issued .cleanup (.remove target) before ∧
    (Issued .cleanup (.remove target) rest ↔ session.ShownOwned loads target inspected)

/-- Every resource whose creation was attempted was inspected, removed when it was the session's
own, and then looked for once more; the session is closed, and is of no further use. -/
structure CleanedUp (state : State session.H) (history : History) : Prop where
  removes : ∀ target, Issued .provisioning (.create target) history →
    session.RemovesOwned loads target history
  absent : ∀ target, Followed (Touches target) (ChecksAbsence target) history
  closed : state.closed = true
  not_reentered : session.enter loads state = .raise ⟨notReusable, state⟩
  not_asked : session.boundaryEvidence state = .error notActive

/-! ## When nothing raises on the way -/

/-- An inspection of this stage that succeeded. -/
def Inspects (stage : Stage) (target : Target) (reply : Reply) (history : History) : Prop :=
  (⟨.command stage (.inspect target), .ok reply⟩ : Exchange Query Answer) ∈ history ∧
    reply.Within session.H ∧ reply.result.exitCode = 0

/-- The comparison after the body raises nothing of Python's own. -/
def Compared (boundary : Option (Boundary × Sha256)) (externalInspect : Bytes)
    (history : History) : Prop :=
  ∀ evidence sha256 internal external gateway, boundary = some (evidence, sha256) →
    session.Inspects .post .internal internal history →
    session.Inspects .post .external external history →
    session.Inspects .post .gateway gateway history →
    ∀ error, session.compareBoundary loads evidence externalInspect internal.result.stdout
      external.result.stdout gateway.result.stdout = .error error → error.IsProvisioning

/-- Whatever the cleanup inspects is read, or refused in the expected way. -/
def Readable (history : History) : Prop :=
  ∀ target reply, session.Inspects .cleanup target reply history →
    ∀ error, parseOneInspect loads reply.result.stdout = .error error → error.IsProvisioning

/-- The backend is found to be right after the cleanup. -/
def FoundAgain (history : History) : Prop :=
  ∃ backend, (⟨.detect true, .ok backend⟩ : Exchange Query Answer) ∈ history ∧
    session.exactBackend false backend = .ok backend

/-- Nothing raises on the way: not what is read, not the last probe, and not the evidence, which
holds no output that names the credential. -/
structure Regular (state : State session.H) (history : History) : Prop where
  compared : session.Compared loads state.boundary state.externalInspect history
  readable : session.Readable loads history
  detected : (⟨.detect true, .error .other⟩ : Exchange Query Answer) ∉ history
  unnamed : state.boundary.isSome = true → session.FoundAgain history →
    ∀ record ∈ state.records, session.namesCredential record = false

end Session

/-! ## One more exchange -/

section Histories

variable {history more : History} {stage : Stage} {act : Act} {target : Target}

theorem issued_append :
    Issued stage act (history ++ more) ↔ Issued stage act history ∨ Issued stage act more := by
  simp only [Issued, List.mem_append, or_and_right, exists_or]

theorem issued_singleton {last : Exchange Query Answer} :
    Issued stage act [last] ↔ last.1 = .command stage act := by
  simp [Issued]

variable {session : Session} {loads : InspectReader}

/-- What follows without another removal changes nothing. -/
theorem Session.RemovesOwned.append (h : session.RemovesOwned loads target history)
    (hmore : ¬ Issued .cleanup (.remove target) more) :
    session.RemovesOwned loads target (history ++ more) := by
  obtain ⟨before, inspected, rest, heq, hbefore, hremoved⟩ := h
  refine ⟨before, inspected, rest ++ more, by rw [heq]; simp, hbefore, ?_⟩
  rw [issued_append, or_iff_left hmore]
  exact hremoved

theorem Session.inspects_append {reply : Reply} :
    session.Inspects stage target reply (history ++ more) ↔
      session.Inspects stage target reply history ∨ session.Inspects stage target reply more := by
  simp only [Inspects, List.mem_append, or_and_right]

/-- Without inspections of a stage there is nothing new to compare. -/
theorem Session.inspects_append_left {reply : Reply}
    (hmore : ∀ exchange ∈ more, exchange.1 ≠ .command stage (.inspect target)) :
    session.Inspects stage target reply (history ++ more) ↔
      session.Inspects stage target reply history := by
  rw [inspects_append, or_iff_left]
  exact fun h => hmore _ h.1 rfl

theorem Session.Compared.append {boundary : Option (Boundary × Sha256)} {externalInspect : Bytes}
    (h : session.Compared loads boundary externalInspect history)
    (hmore : ∀ exchange ∈ more, ∀ target, exchange.1 ≠ .command .post (.inspect target)) :
    session.Compared loads boundary externalInspect (history ++ more) := by
  intro evidence sha256 internal external gateway hboundary hinternal hexternal hgateway
  have hkeep : ∀ target reply, session.Inspects .post target reply (history ++ more) →
      session.Inspects .post target reply history := fun target reply =>
    (inspects_append_left fun exchange hmem => hmore exchange hmem target).mp
  exact h evidence sha256 internal external gateway hboundary (hkeep _ _ hinternal)
    (hkeep _ _ hexternal) (hkeep _ _ hgateway)

theorem Session.Readable.append (h : session.Readable loads history)
    (hmore : ∀ exchange ∈ more, ∀ target, exchange.1 ≠ .command .cleanup (.inspect target)) :
    session.Readable loads (history ++ more) := by
  intro target reply hreply
  exact h target reply
    ((inspects_append_left fun exchange hmem => hmore exchange hmem target).mp hreply)

end Histories

/-! ## Commands -/

section Commands

variable {session : Session} {backend : ContainerBackend} {stage : Stage} {act : Act}
  {history : History} {ε : Type} {allowed : History → Query → Prop}
  {returns : Option (RuntimeCommandEvidence session.H) → History → Prop}
  {raises : ε → History → Prop}

theorem measureCommandResult_ok {H : HashFunction} {argv : List String}
    {hargv : validArgv argv = true} {reply : Reply} {record : RuntimeCommandEvidence H}
    (h : measureCommandResult H argv hargv reply = .ok record) :
    reply.Within H ∧ record.exitCode = reply.result.exitCode ∧
      record.stdout = reply.result.stdout := by
  rw [measureCommandResult] at h
  split at h
  · next hwithin =>
      split at h
      · cases h
      · cases h
        exact ⟨hwithin, rfl, rfl⟩
  · cases h

/-- The record of a command has canonical JSON. -/
theorem encodes_commandPayload_iff {H : HashFunction} {argv : List String} {exitCode : ℤ}
    {stdout stderr : Bytes} {durationMs : ℤ}
    (hduration : 0 ≤ durationMs ∧ durationMs ≤ maxRuntimeCommandSeconds * 1000) :
    Json.Encodes (commandPayload H argv exitCode stdout stderr durationMs) ↔
      Json.Encodes (.int exitCode) := by
  have hencodes : Json.Encodes (.int durationMs) := by
    apply Json.encodes_int
    have hsmall : durationMs.natAbs < 10 ^ 5 := by
      simp only [maxRuntimeCommandSeconds] at hduration
      omega
    exact hsmall.trans_le (Nat.pow_le_pow_right (by decide) (by decide))
  simp [commandPayload, hencodes]

/-- A result within the limits is measured when its exit code is an ordinary number. -/
theorem measureCommandResult_error {H : HashFunction} {argv : List String}
    {hargv : validArgv argv = true} {reply : Reply} {error : Raised}
    (h : measureCommandResult H argv hargv reply = .error error) (hwithin : reply.Within H) :
    reply.result.exitCode ≠ 0 := by
  intro hzero
  rw [measureCommandResult, dif_pos hwithin] at h
  split at h
  · next hevidence =>
      have hencodes : Json.Encodes (commandPayload H argv reply.result.exitCode
          reply.result.stdout reply.result.stderr reply.measuredDuration) := by
        rw [encodes_commandPayload_iff (Reply.measuredDuration_within hwithin), hzero]
        exact Json.encodes_int (Nat.pow_pos (by decide))
      obtain ⟨payload, hpayload⟩ := Option.isSome_iff_exists.mp
        (Json.compact?_isSome_iff.mpr hencodes)
      rw [commandEvidenceSha256, canonicalJson, hpayload, required_some, ok_bind] at hevidence
      cases hevidence
  · cases h

/-- A command whose command line is valid is issued; it has a record when it succeeds. -/
theorem meets_command (hargv : validArgv (session.argv backend act) = true)
    (hallowed : allowed history (.command stage act))
    (hnone : ∀ answer : Except Unit Reply,
      (∀ reply, answer = .ok reply → reply.Within session.H → reply.result.exitCode ≠ 0) →
      returns none (history ++ [⟨.command stage act, answer⟩]))
    (hsome : ∀ (reply : Reply) (record : RuntimeCommandEvidence session.H),
      reply.Within session.H → record.exitCode = reply.result.exitCode →
      record.stdout = reply.result.stdout →
      returns (some record) (history ++ [⟨.command stage act, .ok reply⟩])) :
    (session.command backend stage act).Meets allowed returns raises history := by
  rw [Session.command, dif_pos hargv, meets_bind, meets_query]
  refine ⟨hallowed, fun answer => ?_⟩
  cases answer with
  | error error => exact hnone (.error error) fun reply h => nomatch h
  | ok reply =>
      simp only
      cases hmeasured : measureCommandResult session.H (session.argv backend act) hargv reply with
      | ok record =>
          obtain ⟨hwithin, hexit, hstdout⟩ := measureCommandResult_ok hmeasured
          exact hsome reply record hwithin hexit hstdout
      | error error =>
          refine hnone (.ok reply) fun other heq hwithin => ?_
          cases heq
          exact measureCommandResult_error hmeasured hwithin

/-- The same without knowing the command line; nothing is issued when it is invalid. -/
theorem meets_command_or (hallowed : allowed history (.command stage act))
    (hinvalid : returns none history)
    (hnone : ∀ answer : Except Unit Reply,
      (∀ reply, answer = .ok reply → reply.Within session.H → reply.result.exitCode ≠ 0) →
      returns none (history ++ [⟨.command stage act, answer⟩]))
    (hsome : ∀ (reply : Reply) (record : RuntimeCommandEvidence session.H),
      validArgv (session.argv backend act) = true → reply.Within session.H →
      record.exitCode = reply.result.exitCode → record.stdout = reply.result.stdout →
      returns (some record) (history ++ [⟨.command stage act, .ok reply⟩])) :
    (session.command backend stage act).Meets allowed returns raises history := by
  by_cases hargv : validArgv (session.argv backend act) = true
  · exact meets_command hargv hallowed hnone fun reply record => hsome reply record hargv
  · rw [Session.command, dif_neg hargv]
    exact hinvalid

end Commands

end AmazonSimilarSearch.EgressSession
