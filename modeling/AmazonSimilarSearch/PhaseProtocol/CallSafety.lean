import AmazonSimilarSearch.Foundation.Holdings
import AmazonSimilarSearch.PhaseProtocol.CallSteps
import AmazonSimilarSearch.PhaseProtocol.LedgerSafety

/-!
# A claimed phase runs at most once

A call that works on a phase holds the only pending row of its workflow, and
the files it has written stay as it wrote them. So no phase is worked on by two
calls, a commit finds every file of the result in place, and a call that fails
before its commit leaves its row pending for good.
-/
namespace AmazonSimilarSearch.PhaseProtocol
open Foundation

variable {H : HashFunction}

/-- No two calls enter a callback for one phase of one workflow. -/
def EnteredOnce (entered : List Entered) : Prop :=
  ∀ a ∈ entered, ∀ b ∈ entered, a.workflowId = b.workflowId → a.sequence = b.sequence →
    a.call = b.call

/-- The files of a result are in place, each with the digest the result or the action names. -/
structure Persisted (files : Path → Option Bytes) (output : Path) (request : PhaseRequest H)
    (result : PhaseResult H) : Prop where
  resultFile : files output = some (lineOf (.obj result.fields))
  coordinatorOutput : ∃ raw, files (output.withName "coordinator-output.json") = some raw ∧
    H raw = result.coordinatorOutputSha256
  manifest : ∃ raw, files (output.withName "artifact-manifest.json") = some raw ∧
    H raw = result.outputArtifactsSha256
  external : ∀ digest ∈ result.externalExecutionSha256, ∃ raw,
    files (output.withName "external-evidence.json") = some raw ∧ H raw = digest
  prepared : result.externalExecutionSha256 ≠ none → ∃ raw, ∃ action : PhaseAction H,
    files (output.withName "prepared-payload.json") = some raw ∧
      action.requestSha256 = request.requestSha256 ∧ H raw = action.payloadSha256

/-- From the later system's point of view, no callback was entered for the workflow since. -/
def QuietSince (earlier later : System H) (workflowId : Sha256) : Prop :=
  ∀ entered ∈ later.entered.drop earlier.entered.length, entered.workflowId ≠ workflowId

/-- Once a call has failed at the given point, its workflow enters no callback. -/
def QuietAfterFailure (progress : Progress) (files : Path → Option Bytes)
    (ops : List (SystemOp H)) : Prop :=
  ∀ (id : ℕ) (call : Call H), (System.run files ops).calls[id]? = some call →
    call.stage = .failed progress → ∀ more,
      QuietSince (System.run files ops) (System.run files (ops ++ more)) call.request.workflowId

/-! ## The invariant -/

/-- The files of the call with the given number. -/
def System.heldBy (system : System H) (id : ℕ) : List (Path × Bytes) :=
  match system.calls[id]? with
  | some call => call.stage.held call.output
  | none => []

/-- What holds of every reachable system. -/
structure Consistent (system : System H) : Prop where
  constraints : Constraints system.shared.ledger
  represents : ∃ workflows : Sha256 → Workflow H, Represents system.shared.ledger workflows
  rows : ∀ call ∈ system.calls, call.stage.progress ≠ .unclaimed →
    ∃ row ∈ system.shared.ledger, (row.workflowId, row.sequence) = call.key
  claimed : ∀ call ∈ system.calls, call.stage.progress = .claimed →
    waitingRow call.request ∈ system.shared.ledger
  apart : ∀ (i j : ℕ) (a b : Call H), system.calls[i]? = some a → system.calls[j]? = some b →
    a.stage.progress ≠ .unclaimed → b.stage.progress ≠ .unclaimed → a.key = b.key → i = j
  entered : ∀ entered ∈ system.entered, ∃ call, system.calls[entered.call]? = some call ∧
    call.stage.progress ≠ .unclaimed ∧ call.key = (entered.workflowId, entered.sequence)
  held : Held system.shared.files system.heldBy

namespace System

variable {system : System H}

/-- The system after a step of one of its calls. -/
def advance (system : System H) (id : ℕ) (call : Call H) (event : CallEvent H)
    (stage : Stage call.request) (shared : Shared) : System H :=
  { shared
    calls := system.calls.set id { call with stage }
    entered := system.entered ++ (call.enters event).toList.map fun callback =>
      ⟨id, call.request.workflowId, call.request.phase.sequence, callback⟩ }

theorem step_cases (system : System H) (op : SystemOp H) :
    system.step op = system ∨
      (∃ request output, system.step op =
        { system with calls := system.calls ++ [⟨request, output, .starting⟩] }) ∨
      ∃ id event call stage shared, system.calls[id]? = some call ∧
        call.step system.shared event = some (stage, shared) ∧
        system.step op = system.advance id call event stage shared := by
  cases op with
  | begins request output => exact .inr (.inl ⟨request, output, rfl⟩)
  | happens id event =>
      simp only [step]
      cases hcall : system.calls[id]? with
      | none => exact .inl rfl
      | some call =>
          cases hstep : call.step system.shared event with
          | none => exact .inl (by simp only [hstep])
          | some next => exact .inr (.inr ⟨id, event, call, next.1, next.2, hcall, hstep, by
              simp only [hstep, advance]⟩)

theorem getElem?_advance {id j : ℕ} {call : Call H} {event : CallEvent H} {stage : Stage call.request}
    {shared : Shared} {other : Call H}
    (h : (system.advance id call event stage shared).calls[j]? = some other) :
    (j = id ∧ other = { call with stage }) ∨ (j ≠ id ∧ system.calls[j]? = some other) := by
  rw [advance, List.getElem?_set] at h
  split_ifs at h with hid hlt
  · exact .inl ⟨hid.symm, (Option.some.inj h).symm⟩
  · exact .inr ⟨Ne.symm hid, h⟩

theorem heldBy_of {id : ℕ} {call : Call H} (hcall : system.calls[id]? = some call) :
    system.heldBy id = call.stage.held call.output := by
  simp only [heldBy, hcall]

theorem heldBy_advance {id : ℕ} {call : Call H} {event : CallEvent H} {stage : Stage call.request}
    {shared : Shared} (hcall : system.calls[id]? = some call) :
    (system.advance id call event stage shared).heldBy =
      Function.update system.heldBy id (stage.held call.output) := by
  funext j
  by_cases hj : j = id
  · subst hj
    have hset : (system.calls.set j { call with stage })[j]? = some { call with stage } := by
      rw [List.getElem?_set_self (List.getElem?_eq_some_iff.mp hcall).1]
    rw [Function.update_self]
    simp only [heldBy, advance, hset]
  · rw [Function.update_of_ne hj]
    simp only [heldBy, advance, List.getElem?_set_ne (Ne.symm hj)]

theorem heldBy_begins (request : PhaseRequest H) (output : Path) :
    ({ system with calls := system.calls ++ [⟨request, output, .starting⟩] } : System H).heldBy =
      system.heldBy := by
  funext j
  simp only [heldBy]
  rcases Nat.lt_trichotomy j system.calls.length with hlt | heq | hgt
  · rw [List.getElem?_append_left hlt]
  · subst heq
    simp [Stage.held]
  · rw [List.getElem?_eq_none (by simp; omega), List.getElem?_eq_none (by omega)]

end System

/-- What a step does to the files of one call, it does to the files of all. -/
theorem FilesMove.held {files files' : Path → Option Bytes} {holdings : ℕ → List (Path × Bytes)}
    {id : ℕ} {next : List (Path × Bytes)} (hmove : FilesMove files (holdings id) files' next)
    (h : Held files holdings) : Held files' (Function.update holdings id next) := by
  generalize hheld : holdings id = current at hmove
  cases hmove with
  | keep =>
      rw [← hheld, Function.update_eq_self]
      exact h
  | release => exact h.release id
  | create place hfree =>
      rw [← hheld]
      exact h.take hfree
  | extend kept place content next hlast => exact h.rewrite (hheld.trans hlast)
  | unlink kept place content hlast => exact h.remove (hheld.trans hlast)

/-! ## Steps keep the invariant -/

section Steps

variable {system : System H}

/-- Two pending rows of a workflow are one. -/
theorem key_of_pending {ledger : Ledger} {workflows : Sha256 → Workflow H}
    (h : Represents ledger workflows) {a b : PhaseRequest H} (ha : waitingRow a ∈ ledger)
    (hb : waitingRow b ∈ ledger) (hworkflow : a.workflowId = b.workflowId) :
    a.phase.sequence = b.phase.sequence := by
  have hmem : ∀ request : PhaseRequest H, waitingRow request ∈ ledger →
      request.workflowId = b.workflowId →
      ∃ waiting, (workflows b.workflowId).waiting = some waiting ∧
        waitingRow request = waitingRow waiting := by
    intro request hrequest hid
    have hrow : waitingRow request ∈ (workflows b.workflowId).rows := by
      rw [← h.rows]
      exact mem_rowsOf.mpr ⟨hrequest, hid⟩
    exact Workflow.waiting_of_mem _ hrow rfl
  obtain ⟨waiting, hwaiting, hsame⟩ := hmem a ha hworkflow
  obtain ⟨waiting', hwaiting', hsame'⟩ := hmem b hb rfl
  rw [hwaiting, Option.some.injEq] at hwaiting'
  subst hwaiting'
  exact congrArg Row.sequence (hsame.trans hsame'.symm)

theorem Consistent.begins (h : Consistent system) (request : PhaseRequest H) (output : Path) :
    Consistent { system with calls := system.calls ++ [⟨request, output, .starting⟩] } := by
  have hold : ∀ (j : ℕ) (call : Call H), (system.calls ++ [⟨request, output, .starting⟩])[j]? =
      some call → call.stage.progress ≠ .unclaimed → system.calls[j]? = some call := by
    intro j call hcall hprogress
    rcases Nat.lt_trichotomy j system.calls.length with hlt | heq | hgt
    · rwa [List.getElem?_append_left hlt] at hcall
    · subst heq
      simp only [List.getElem?_concat_length, Option.some.injEq] at hcall
      subst hcall
      exact absurd rfl hprogress
    · rw [List.getElem?_eq_none (by simp; omega)] at hcall
      cases hcall
  refine ⟨h.constraints, h.represents, ?_, ?_, ?_, ?_, ?_⟩
  · intro call hcall hprogress
    obtain ⟨j, hj⟩ := List.getElem?_of_mem hcall
    exact h.rows call (List.mem_of_getElem? (hold j call hj hprogress)) hprogress
  · intro call hcall hprogress
    obtain ⟨j, hj⟩ := List.getElem?_of_mem hcall
    have hmem := List.mem_of_getElem? (hold j call hj (by rw [hprogress]; decide))
    exact h.claimed call hmem hprogress
  · intro i j a b ha hb hpa hpb hkey
    exact h.apart i j a b (hold i a ha hpa) (hold j b hb hpb) hpa hpb hkey
  · intro entered hentered
    obtain ⟨call, hcall, hprogress, hkey⟩ := h.entered entered hentered
    have hlt := (List.getElem?_eq_some_iff.mp hcall).1
    exact ⟨call, by rw [List.getElem?_append_left hlt, hcall], hprogress, hkey⟩
  · rw [System.heldBy_begins]
    exact h.held

/-- What a step of a call leaves of the ledger, for the call and for the others. -/
structure LedgerMove (ledger next : Ledger) (call : Call H) (stage : Stage call.request) :
    Prop where
  constraints : Constraints next
  represents : ∃ workflows : Sha256 → Workflow H, Represents next workflows
  kept : ∀ row ∈ ledger, ∃ later ∈ next,
    (later.workflowId, later.sequence) = (row.workflowId, row.sequence)
  others : ∀ request : PhaseRequest H, waitingRow request ∈ ledger →
    (stage.progress ≠ .unclaimed → (request.workflowId, request.phase.sequence) ≠ call.key) →
      waitingRow request ∈ next
  row : stage.progress ≠ .unclaimed → ∃ row ∈ next, (row.workflowId, row.sequence) = call.key
  claimed : stage.progress = .claimed → waitingRow call.request ∈ next
  fresh : stage.progress ≠ .unclaimed → call.stage.progress = .unclaimed →
    ∀ row ∈ ledger, (row.workflowId, row.sequence) ≠ call.key
  advances : call.stage.progress ≠ .unclaimed → stage.progress ≠ .unclaimed

theorem LedgerMove.of_claims (h : Consistent system) {call : Call H} {stage : Stage call.request}
    {next : Ledger} (hstage : stage.progress = .claimed) (hclaims : Claims system.shared.ledger next call.request) :
    LedgerMove system.shared.ledger next call stage := by
  obtain ⟨workflows, hrepresents⟩ := h.represents
  obtain ⟨workflows', hrepresents', -⟩ := hrepresents.claim hclaims
  have happended : next = system.shared.ledger ++ [waitingRow call.request] := hclaims.appended
  have hmem : waitingRow call.request ∈ next := by simp [happended]
  constructor
  · exact hclaims.constraints
  · exact ⟨workflows', hrepresents'⟩
  · exact fun row hrow => ⟨row, by simp [happended, hrow], rfl⟩
  · exact fun request hrequest _ => by simp [happended, hrequest]
  · exact fun _ => ⟨_, hmem, rfl⟩
  · exact fun _ => hmem
  · intro _ _ row hrow hkey
    rw [Call.key, Prod.mk.injEq] at hkey
    exact hclaims.unclaimed row (mem_rowsOf.mpr ⟨hrow, hkey.1⟩) hkey.2
  · rw [hstage]
    exact fun _ => by decide

theorem LedgerMove.of_commits (h : Consistent system) {call : Call H} (hcall : call ∈ system.calls)
    {stage : Stage call.request} {next : Ledger} (hprogress : call.stage.progress = .claimed)
    (hstage : stage.progress = .committed) {result : PhaseResult H}
    (hanswers : result.phaseRequest = call.request)
    (hcommits : Commits system.shared.ledger next result) :
    LedgerMove system.shared.ledger next call stage := by
  obtain ⟨workflows, hrepresents⟩ := h.represents
  obtain ⟨workflows', hrepresents', -⟩ := hrepresents.commit hcommits
  have hkept : ∀ row ∈ system.shared.ledger, ∃ later ∈ next,
      (later.workflowId, later.sequence) = (row.workflowId, row.sequence) := by
    intro row hrow
    have hrowKept := rowKept_completeRow result (lineOf (.obj result.fields)) row
    refine ⟨_, ?_, Prod.ext hrowKept.workflow hrowKept.sequence⟩
    rw [hcommits.completed]
    exact List.mem_map_of_mem hrow
  constructor
  · exact hcommits.constraints
  · exact ⟨workflows', hrepresents'⟩
  · exact hkept
  · intro request hrequest hkey
    rw [hcommits.completed]
    refine List.mem_map.mpr ⟨_, hrequest, if_neg fun hrow => ?_⟩
    rw [hanswers] at hrow
    exact hkey (by rw [hstage]; decide) (Prod.ext hrow.1 hrow.2.1)
  · intro _
    obtain ⟨row, hrow, hrowKey⟩ := h.rows call hcall (by rw [hprogress]; decide)
    obtain ⟨later, hlater, hlaterKey⟩ := hkept row hrow
    exact ⟨later, hlater, hlaterKey.trans hrowKey⟩
  · rw [hstage]
    exact fun hclaimed => absurd hclaimed (by decide)
  · rw [hprogress]
    exact fun _ hunclaimed => absurd hunclaimed (by decide)
  · rw [hstage]
    exact fun _ => by decide

theorem LedgerMove.of_step (h : Consistent system) {call : Call H} (hcall : call ∈ system.calls)
    {event : CallEvent H} {stage : Stage call.request} {shared : Shared}
    (hstep : call.step system.shared event = some (stage, shared)) :
    LedgerMove system.shared.ledger shared.ledger call stage := by
  rcases Call.step_ledger hstep with ⟨hledger, hprogress⟩ | ⟨-, hstage, hclaims⟩ |
    ⟨hprogress, hstage, result, hanswers, hcommits⟩
  · rw [hledger]
    exact ⟨h.constraints, h.represents, fun row hrow => ⟨row, hrow, rfl⟩,
      fun _ hrequest _ => hrequest, fun hne => h.rows call hcall (hprogress ▸ hne),
      fun hclaimed => h.claimed call hcall (hprogress ▸ hclaimed),
      fun hne hunclaimed => absurd (hprogress.trans hunclaimed) hne, fun hne => hprogress ▸ hne⟩
  · exact LedgerMove.of_claims h hstage hclaims
  · exact LedgerMove.of_commits h hcall hprogress hstage hanswers hcommits

theorem Consistent.advance (h : Consistent system) {id : ℕ} {call : Call H} {event : CallEvent H}
    {stage : Stage call.request} {shared : Shared} (hcall : system.calls[id]? = some call)
    (hstep : call.step system.shared event = some (stage, shared)) :
    Consistent (system.advance id call event stage shared) := by
  have hmem := List.mem_of_getElem? hcall
  have hmove := LedgerMove.of_step h hmem hstep
  -- a call that has claimed keeps its key to itself, and the stepping call had it before or it
  -- is fresh
  have happart : ∀ (j : ℕ) (other : Call H), j ≠ id → system.calls[j]? = some other →
      other.stage.progress ≠ .unclaimed → stage.progress ≠ .unclaimed → other.key ≠ call.key := by
    intro j other hj hother hprogress hstage hkey
    by_cases hunclaimed : call.stage.progress = .unclaimed
    · obtain ⟨row, hrow, hrowKey⟩ := h.rows other (List.mem_of_getElem? hother) hprogress
      exact hmove.fresh hstage hunclaimed row hrow (hrowKey.trans hkey)
    · exact hj (h.apart j id other call hother hcall hprogress hunclaimed hkey)
  have hcases : ∀ other ∈ (system.advance id call event stage shared).calls,
      other = { call with stage } ∨ ∃ j, j ≠ id ∧ system.calls[j]? = some other := by
    intro other hother
    obtain ⟨j, hj⟩ := List.getElem?_of_mem hother
    rcases System.getElem?_advance hj with ⟨-, hsame⟩ | ⟨hne, hold⟩
    · exact .inl hsame
    · exact .inr ⟨j, hne, hold⟩
  refine ⟨hmove.constraints, hmove.represents, ?_, ?_, ?_, ?_, ?_⟩
  · intro other hother hprogress
    rcases hcases other hother with rfl | ⟨j, -, hold⟩
    · exact hmove.row hprogress
    · obtain ⟨row, hrow, hkey⟩ := h.rows other (List.mem_of_getElem? hold) hprogress
      obtain ⟨later, hlater, hsame⟩ := hmove.kept row hrow
      exact ⟨later, hlater, hsame.trans hkey⟩
  · intro other hother hprogress
    rcases hcases other hother with rfl | ⟨j, hj, hold⟩
    · exact hmove.claimed hprogress
    · have hwaiting := h.claimed other (List.mem_of_getElem? hold) hprogress
      exact hmove.others _ hwaiting (happart j other hj hold (by rw [hprogress]; decide))
  · intro i j a b ha hb hpa hpb hkey
    rcases System.getElem?_advance ha with ⟨rfl, rfl⟩ | ⟨hi, hia⟩ <;>
      rcases System.getElem?_advance hb with ⟨hj, rfl⟩ | ⟨hj, hjb⟩
    · exact hj.symm
    · exact absurd hkey.symm (happart j b hj hjb hpb hpa)
    · exact absurd hkey (happart i a (hj ▸ hi) hia hpa hpb)
    · exact h.apart i j a b hia hjb hpa hpb hkey
  · have hset : (system.calls.set id { call with stage })[id]? = some { call with stage } :=
      List.getElem?_set_self (List.getElem?_eq_some_iff.mp hcall).1
    intro entered hentered
    rcases List.mem_append.mp hentered with hold | hnew
    · obtain ⟨other, hother, hprogress, hkey⟩ := h.entered entered hold
      by_cases hid : entered.call = id
      · subst hid
        rw [hcall, Option.some.injEq] at hother
        subst hother
        exact ⟨_, hset, hmove.advances hprogress, hkey⟩
      · refine ⟨other, ?_, hprogress, hkey⟩
        rw [System.advance, List.getElem?_set_ne (Ne.symm hid), hother]
    · obtain ⟨callback, hcallback, rfl⟩ := List.mem_map.mp hnew
      have hclaimed := (Call.progress_of_enters (Option.mem_toList.mp hcallback)).1
      exact ⟨_, hset, hmove.advances (by rw [hclaimed]; decide), rfl⟩
  · rw [System.heldBy_advance hcall]
    apply FilesMove.held _ h.held
    rw [System.heldBy_of hcall]
    exact Call.step_files hstep

theorem Consistent.step (h : Consistent system) (op : SystemOp H) : Consistent (system.step op) := by
  rcases system.step_cases op with hsame | ⟨request, output, hbegins⟩ |
    ⟨id, event, call, stage, shared, hcall, hstep, hadvance⟩
  · rwa [hsame]
  · rw [hbegins]
    exact h.begins request output
  · rw [hadvance]
    exact h.advance hcall hstep

theorem Consistent.initial (files : Path → Option Bytes) : Consistent (System.initial files : System H) := by
  refine ⟨?_, ⟨_, represents_nil⟩, ?_, ?_, ?_, ?_, ?_⟩
  · simp [System.initial, Constraints]
  · simp [System.initial]
  · simp [System.initial]
  · simp [System.initial]
  · simp [System.initial]
  · exact Held.empty files

theorem Consistent.run (files : Path → Option Bytes) (ops : List (SystemOp H)) :
    Consistent (System.run files ops) :=
  foldl_invariant (I := Consistent) (fun _ op h => h.step op) ops _ (Consistent.initial files)

end Steps

/-! ## The results -/

section Results

variable {system : System H}

theorem Consistent.enteredOnce (h : Consistent system) : EnteredOnce system.entered := by
  intro a ha b hb hworkflow hsequence
  obtain ⟨call, hcall, hprogress, hkey⟩ := h.entered a ha
  obtain ⟨other, hother, hprogress', hkey'⟩ := h.entered b hb
  exact h.apart a.call b.call call other hcall hother hprogress hprogress'
    (by rw [hkey, hkey', hworkflow, hsequence])

theorem digest_manifest (result : PhaseResult H) :
    H (lineOf (artifactsJson result.artifacts)) = result.outputArtifactsSha256 := by
  have hset := result.contract.set
  rw [artifactSetSha256?, canonicalLine?_lineOf (encodes_artifacts _)] at hset
  exact Option.some.inj hset

/-- A call that is about to commit holds every file of its result. -/
theorem Consistent.persisted (h : Consistent system) {call : Call H} (hcall : call ∈ system.calls)
    {execution : Execution call.request} (hstage : call.stage = .committing execution) :
    Persisted system.shared.files call.output call.request execution.result := by
  obtain ⟨id, hid⟩ := List.getElem?_of_mem hcall
  have hfile : ∀ path content digest, ⟨path, content, digest⟩ ∈ execution.writes call.output →
      system.shared.files path = some content := by
    intro path content digest hwrite
    refine h.held.stored id (path, content) ?_
    rw [System.heldBy_of hid, hstage]
    exact List.mem_map.mpr ⟨_, hwrite, rfl⟩
  have hexternal : ∀ external, execution.external = some external →
      system.shared.files (call.output.withName "prepared-payload.json") =
        some execution.prepared.payload ∧
      system.shared.files (call.output.withName "external-evidence.json") = some external := by
    intro external hsome
    constructor
    · refine hfile _ _ execution.prepared.action.payloadSha256 ?_
      rw [Execution.writes, hsome]
      exact List.mem_append_left _ (List.mem_cons_self ..)
    · refine hfile _ _ (H external) ?_
      rw [Execution.writes, hsome]
      exact List.mem_append_left _ (List.mem_cons_of_mem _ (List.mem_cons_self ..))
  constructor
  · refine hfile _ _ (H (lineOf (.obj execution.result.fields))) ?_
    exact List.mem_append_right _ (List.mem_cons_of_mem _ (List.mem_cons_of_mem _
      (List.mem_cons_self ..)))
  · refine ⟨_, hfile _ execution.verifiedOutput execution.result.coordinatorOutputSha256 ?_,
      execution.output.symm⟩
    exact List.mem_append_right _ (List.mem_cons_self ..)
  · refine ⟨_, hfile _ (lineOf (artifactsJson execution.result.artifacts))
      execution.result.outputArtifactsSha256 ?_, digest_manifest _⟩
    exact List.mem_append_right _ (List.mem_cons_of_mem _ (List.mem_cons_self ..))
  · intro digest hdigest
    rw [execution.evidence, Option.mem_def, Option.map_eq_some_iff] at hdigest
    obtain ⟨external, hsome, rfl⟩ := hdigest
    exact ⟨external, (hexternal external hsome).2, rfl⟩
  · intro hne
    rw [execution.evidence, ne_eq, Option.map_eq_none_iff] at hne
    obtain ⟨external, hsome⟩ := Option.ne_none_iff_exists'.mp hne
    exact ⟨_, execution.prepared.action, (hexternal external hsome).1, execution.prepared.answers,
      execution.prepared.digest.symm⟩

/-- A failed call stays as it is. -/
theorem System.getElem?_step_failed {id : ℕ} {call : Call H} {progress : Progress}
    (hcall : system.calls[id]? = some call) (hfailed : call.stage = .failed progress)
    (op : SystemOp H) : (system.step op).calls[id]? = some call := by
  have hlt := (List.getElem?_eq_some_iff.mp hcall).1
  rcases system.step_cases op with hsame | ⟨request, output, hbegins⟩ |
    ⟨other, event, stepping, stage, shared, hstepping, hstep, hadvance⟩
  · rwa [hsame]
  · rw [hbegins, List.getElem?_append_left hlt, hcall]
  · have hne : other ≠ id := by
      rintro rfl
      rw [hcall, Option.some.injEq] at hstepping
      subst hstepping
      rw [Call.step_failed hfailed] at hstep
      cases hstep
    rw [hadvance, System.advance, List.getElem?_set_ne hne, hcall]

/-- After a failure between claim and commit, a step enters no callback of the workflow. -/
theorem Consistent.quiet_step (h : Consistent system) {id : ℕ} {call : Call H}
    (hcall : system.calls[id]? = some call) (hfailed : call.stage = .failed .claimed)
    (op : SystemOp H) :
    ∃ added, (system.step op).entered = system.entered ++ added ∧
      ∀ entered ∈ added, entered.workflowId ≠ call.request.workflowId := by
  rcases system.step_cases op with hsame | ⟨request, output, hbegins⟩ |
    ⟨other, event, stepping, stage, shared, hstepping, hstep, hadvance⟩
  · exact ⟨[], by rw [hsame, List.append_nil], by simp⟩
  · exact ⟨[], by rw [hbegins, List.append_nil], by simp⟩
  · refine ⟨_, by rw [hadvance]; rfl, ?_⟩
    intro entered hentered hworkflow
    obtain ⟨callback, hcallback, rfl⟩ := List.mem_map.mp hentered
    obtain ⟨hclaimed, hrunning⟩ := Call.progress_of_enters (Option.mem_toList.mp hcallback)
    have hprogress : call.stage.progress = .claimed := by rw [hfailed]; rfl
    obtain ⟨workflows, hrepresents⟩ := h.represents
    -- both calls hold a pending row of the workflow, so they are one call
    have hsequence := key_of_pending hrepresents
      (h.claimed stepping (List.mem_of_getElem? hstepping) hclaimed)
      (h.claimed call (List.mem_of_getElem? hcall) hprogress) hworkflow
    have hsame := h.apart other id stepping call hstepping hcall (by rw [hclaimed]; decide)
      (by rw [hprogress]; decide) (Prod.ext hworkflow hsequence)
    subst hsame
    rw [hcall, Option.some.injEq] at hstepping
    subst hstepping
    rw [hfailed] at hrunning
    cases hrunning

theorem Consistent.quiet_run (h : Consistent system) {id : ℕ} {call : Call H}
    (hcall : system.calls[id]? = some call) (hfailed : call.stage = .failed .claimed)
    (more : List (SystemOp H)) :
    QuietSince system (more.foldl System.step system) call.request.workflowId := by
  have hinvariant := @foldl_invariant _ _ System.step
    (fun later => Consistent later ∧ later.calls[id]? = some call ∧
      ∃ added, later.entered = system.entered ++ added ∧
        ∀ entered ∈ added, entered.workflowId ≠ call.request.workflowId)
    (fun later op hlater => by
      obtain ⟨hconsistent, hkept, added, hadded, hquiet⟩ := hlater
      obtain ⟨added', hadded', hquiet'⟩ := hconsistent.quiet_step hkept hfailed op
      refine ⟨hconsistent.step op, System.getElem?_step_failed hkept hfailed op,
        added ++ added', ?_, ?_⟩
      · rw [hadded', hadded, List.append_assoc]
      · exact List.forall_mem_append.mpr ⟨hquiet, hquiet'⟩)
    more system ⟨h, hcall, [], (List.append_nil _).symm, by simp⟩
  obtain ⟨-, -, added, hadded, hquiet⟩ := hinvariant
  rw [QuietSince, hadded, List.drop_left]
  exact hquiet

end Results

/-- Whatever happens to the calls that share a ledger: each phase is worked on by one call at
most, a commit is reached with every file in place, and a call that fails between its claim and
its commit is the last of its workflow to enter a callback. -/
theorem runClaimedPhase_once (sha256 : HashFunction) (files : Path → Option Bytes)
    (ops : List (SystemOp sha256)) :
    EnteredOnce (System.run files ops).entered ∧
      (∀ call ∈ (System.run files ops).calls, ∀ execution : Execution call.request,
        call.stage = .committing execution →
          Persisted (System.run files ops).shared.files call.output call.request
            execution.result) ∧
      QuietAfterFailure .claimed files ops := by
  have h := Consistent.run files ops
  refine ⟨h.enteredOnce, fun call hcall execution hstage => h.persisted hcall hstage, ?_⟩
  intro id call hcall hfailed more
  have hquiet := h.quiet_run hcall hfailed more
  rwa [System.run, ← List.foldl_append] at hquiet

end AmazonSimilarSearch.PhaseProtocol
