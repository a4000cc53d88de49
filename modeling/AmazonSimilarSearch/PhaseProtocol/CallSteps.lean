import AmazonSimilarSearch.PhaseProtocol.Calls

/-!
# What one step of a call does

To the ledger: nothing, or it claims the request of the call, or it commits a
result of it. To the files: nothing, or it creates, extends or unlinks a file
that the call itself is writing.
-/
namespace AmazonSimilarSearch.PhaseProtocol
open Foundation

variable {H : HashFunction}

/-! ## Steps on the ledger -/

namespace Call

variable {call : Call H} {shared shared' : Shared} {event : CallEvent H} {stage : Stage call.request}

/-- The phase a call is about. -/
def key (call : Call H) : Sha256 × ℕ := (call.request.workflowId, call.request.phase.sequence)

theorem proceed_progress {α : Type} {request : PhaseRequest H} {next : α → Stage request}
    (hnext : ∀ a, (next a).progress = .claimed) (x : Except CallError α) :
    (Stage.proceed next x).progress = .claimed := by
  cases x with
  | ok a => exact hnext a
  | error e => rfl

theorem closed_progress {request : PhaseRequest H} (execution : Execution request) (output : Path)
    (done : ℕ) : (Stage.closed execution output done).progress = .claimed := by
  unfold Stage.closed
  split_ifs <;> rfl

theorem cleanUp_ledger (call : Call H) (shared : Shared) :
    (call.cleanUp shared).ledger = shared.ledger := by
  unfold cleanUp
  split <;> rfl

theorem claim_cases (fails : Statement → Bool) (request : PhaseRequest H) (ledger : Ledger) :
    (∃ e, (claim fails request ledger) = (.error e, ledger)) ∨
      ∃ next, (claim fails request ledger) = (.ok (), next) ∧ Claims ledger next request := by
  unfold PhaseProtocol.claim transaction
  cases hbody : claimBody fails request ledger with
  | error e => exact .inl ⟨e, rfl⟩
  | ok next => exact .inr ⟨next, rfl, claimBody_ok hbody⟩

theorem commit_cases (fails : Statement → Bool) (result : PhaseResult H) (ledger : Ledger) :
    (∃ e, (commit fails result ledger) = (.error e, ledger)) ∨
      ∃ next, (commit fails result ledger) = (.ok (), next) ∧ Commits ledger next result := by
  unfold PhaseProtocol.commit transaction
  cases hbody : commitBody fails result ledger with
  | error e => exact .inl ⟨e, rfl⟩
  | ok next => exact .inr ⟨next, rfl, commitBody_ok hbody⟩

/-- A step leaves ledger and progress alone, or claims the request of the call, or commits a
result of it. -/
theorem step_ledger (h : call.step shared event = some (stage, shared')) :
    (shared'.ledger = shared.ledger ∧ stage.progress = call.stage.progress) ∨
      (call.stage.progress = .unclaimed ∧ stage.progress = .claimed ∧
        Claims shared.ledger shared'.ledger call.request) ∨
      (call.stage.progress = .claimed ∧ stage.progress = .committed ∧
        ∃ result : PhaseResult H, result.phaseRequest = call.request ∧
          Commits shared.ledger shared'.ledger result) := by
  cases event with
  | claim fails =>
      simp only [step] at h
      split at h
      · next hstage =>
        rcases claim_cases fails call.request shared.ledger with
          ⟨e, hclaim⟩ | ⟨next, hclaim, hclaims⟩
        · simp only [hclaim, Option.some.injEq, Prod.mk.injEq] at h
          obtain ⟨rfl, rfl⟩ := h
          exact .inl ⟨rfl, by rw [hstage]; rfl⟩
        · simp only [hclaim, Option.some.injEq, Prod.mk.injEq] at h
          obtain ⟨rfl, rfl⟩ := h
          exact .inr (.inl ⟨by rw [hstage]; rfl, rfl, hclaims⟩)
      · cases h
  | commit fails =>
      simp only [step] at h
      split at h
      · next execution hstage =>
        rcases commit_cases fails execution.result shared.ledger with
          ⟨e, hcommit⟩ | ⟨next, hcommit, hcommits⟩
        · simp only [hcommit, Option.some.injEq, Prod.mk.injEq] at h
          obtain ⟨rfl, rfl⟩ := h
          exact .inl ⟨rfl, by rw [hstage]; rfl⟩
        · simp only [hcommit, Option.some.injEq, Prod.mk.injEq] at h
          obtain ⟨rfl, rfl⟩ := h
          exact .inr (.inr ⟨by rw [hstage]; rfl, rfl, execution.result, execution.answers,
            hcommits⟩)
      · cases h
  | raised =>
      simp only [step] at h
      split at h
      · simp only [Option.some.injEq, Prod.mk.injEq] at h
        obtain ⟨rfl, rfl⟩ := h
        exact .inl ⟨cleanUp_ledger call shared, rfl⟩
      · cases h
  | crashed =>
      simp only [step] at h
      split at h
      · simp only [Option.some.injEq, Prod.mk.injEq] at h
        obtain ⟨rfl, rfl⟩ := h
        exact .inl ⟨rfl, rfl⟩
      · cases h
  | enter =>
      simp only [step] at h
      split at h
      · next task hstage =>
        simp only [Option.some.injEq, Prod.mk.injEq] at h
        obtain ⟨rfl, rfl⟩ := h
        exact .inl ⟨rfl, by rw [hstage]; rfl⟩
      · cases h
  | prepared action payload =>
      simp only [step] at h
      split at h
      · next hstage =>
        simp only [Option.some.injEq, Prod.mk.injEq] at h
        obtain ⟨rfl, rfl⟩ := h
        exact .inl ⟨rfl, by rw [hstage]; exact proceed_progress (fun _ => rfl) _⟩
      · cases h
  | external raw =>
      simp only [step] at h
      split at h
      · next prepared hstage =>
        simp only [Option.some.injEq, Prod.mk.injEq] at h
        obtain ⟨rfl, rfl⟩ := h
        exact .inl ⟨rfl, by rw [hstage]; exact proceed_progress (fun _ => rfl) _⟩
      · cases h
  | finalized raw =>
      simp only [step] at h
      split at h
      · next prepared external hstage =>
        simp only [Option.some.injEq, Prod.mk.injEq] at h
        obtain ⟨rfl, rfl⟩ := h
        exact .inl ⟨rfl, by rw [hstage]; exact proceed_progress (fun _ => rfl) _⟩
      · cases h
  | create =>
      simp only [step] at h
      split at h
      · next execution done write hstage _ =>
        split at h <;> simp only [Option.some.injEq, Prod.mk.injEq] at h <;>
          obtain ⟨rfl, rfl⟩ := h <;> exact .inl ⟨rfl, by rw [hstage]; rfl⟩
      · cases h
  | write count =>
      simp only [step] at h
      split at h
      · next execution done written write hstage _ =>
        split at h
        · simp only [Option.some.injEq, Prod.mk.injEq] at h
          obtain ⟨rfl, rfl⟩ := h
          exact .inl ⟨rfl, by rw [hstage]; rfl⟩
        · cases h
      · cases h
  | close =>
      simp only [step] at h
      split at h
      · next execution done written write hstage _ =>
        split at h
        · simp only [Option.some.injEq, Prod.mk.injEq] at h
          obtain ⟨rfl, rfl⟩ := h
          exact .inl ⟨rfl, by rw [hstage]; exact closed_progress _ _ _⟩
        · cases h
      · cases h
  | finish =>
      simp only [step] at h
      split at h
      · next execution hstage =>
        simp only [Option.some.injEq, Prod.mk.injEq] at h
        obtain ⟨rfl, rfl⟩ := h
        exact .inl ⟨rfl, by rw [hstage]; rfl⟩
      · cases h

end Call

/-! ## Steps on the files -/

namespace Stage

variable {request : PhaseRequest H} {output : Path} {execution : Execution request}
  {done written : ℕ} {write : Write}

def entries (writes : List Write) : List (Path × Bytes) :=
  writes.map fun write => (write.path, write.content)

/-- The files a call has written or is writing, with what it has put there. -/
def held (output : Path) : Stage request → List (Path × Bytes)
  | persisting execution done => entries ((execution.writes output).take done)
  | writing execution done written => entries ((execution.writes output).take done) ++
      ((execution.writes output)[done]?.toList.map fun write =>
        (write.path, write.content.take written))
  | committing execution | committed execution => entries (execution.writes output)
  | _ => []

theorem held_proceed (x : Except CallError (Task request)) :
    (proceed entering x).held output = [] := by
  cases x <;> rfl

theorem held_executed (x : Except CallError (Execution request)) :
    (proceed executed x).held output = [] := by
  cases x <;> rfl

theorem held_writing (hcurrent : (execution.writes output)[done]? = some write) :
    (writing execution done written).held output =
      entries ((execution.writes output).take done) ++
        [(write.path, write.content.take written)] := by
  simp [held, hcurrent]

theorem held_closed (hcurrent : (execution.writes output)[done]? = some write) :
    (closed execution output done).held output =
      entries ((execution.writes output).take done) ++ [(write.path, write.content)] := by
  have hentries : entries ((execution.writes output).take (done + 1)) =
      entries ((execution.writes output).take done) ++ [(write.path, write.content)] := by
    simp [entries, List.take_add_one, hcurrent]
  unfold closed
  split_ifs with hmore
  · exact hentries
  · rw [← hentries, List.take_of_length_le (by omega)]
    rfl

end Stage

/-- What a step does to the files: nothing, or it creates, extends or unlinks the call's own. -/
inductive FilesMove (files : Path → Option Bytes) (held : List (Path × Bytes)) :
    (Path → Option Bytes) → List (Path × Bytes) → Prop where
  | keep : FilesMove files held files held
  | release : FilesMove files held files []
  | create (place : Path) (hfree : files place = none) :
      FilesMove files held (Function.update files place (some [])) (held ++ [(place, [])])
  | extend (kept : List (Path × Bytes)) (place : Path) (content next : Bytes)
      (hlast : held = kept ++ [(place, content)]) :
      FilesMove files held (Function.update files place (some next)) (kept ++ [(place, next)])
  | unlink (kept : List (Path × Bytes)) (place : Path) (content : Bytes)
      (hlast : held = kept ++ [(place, content)]) :
      FilesMove files held (Function.update files place none) []

namespace Call

variable {call : Call H} {shared shared' : Shared} {event : CallEvent H} {stage : Stage call.request}

theorem step_files (h : call.step shared event = some (stage, shared')) :
    FilesMove shared.files (call.stage.held call.output) shared'.files
      (stage.held call.output) := by
  cases event with
  | claim fails =>
      simp only [step] at h
      split at h
      · split at h <;> simp only [Option.some.injEq, Prod.mk.injEq] at h <;>
          obtain ⟨rfl, rfl⟩ := h <;> exact .release
      · cases h
  | enter =>
      simp only [step] at h
      split at h
      · simp only [Option.some.injEq, Prod.mk.injEq] at h
        obtain ⟨rfl, rfl⟩ := h
        exact .release
      · cases h
  | prepared action payload =>
      simp only [step] at h
      split at h
      · simp only [Option.some.injEq, Prod.mk.injEq] at h
        obtain ⟨rfl, rfl⟩ := h
        rw [Stage.held_proceed]
        exact .release
      · cases h
  | external raw =>
      simp only [step] at h
      split at h
      · simp only [Option.some.injEq, Prod.mk.injEq] at h
        obtain ⟨rfl, rfl⟩ := h
        rw [Stage.held_proceed]
        exact .release
      · cases h
  | finalized raw =>
      simp only [step] at h
      split at h
      · simp only [Option.some.injEq, Prod.mk.injEq] at h
        obtain ⟨rfl, rfl⟩ := h
        rw [Stage.held_executed]
        exact .release
      · cases h
  | create =>
      simp only [step] at h
      split at h
      · next execution done write hstage hcurrent =>
        rw [hstage] at hcurrent
        split at h
        · next hfree =>
          simp only [Option.some.injEq, Prod.mk.injEq] at h
          obtain ⟨rfl, rfl⟩ := h
          rw [hstage, Stage.held_writing hcurrent]
          exact .create write.path hfree.2.2
        · simp only [Option.some.injEq, Prod.mk.injEq] at h
          obtain ⟨rfl, rfl⟩ := h
          exact .release
      · cases h
  | write count =>
      simp only [step] at h
      split at h
      · next execution done written write hstage hcurrent =>
        rw [hstage] at hcurrent
        split at h
        · simp only [Option.some.injEq, Prod.mk.injEq] at h
          obtain ⟨rfl, rfl⟩ := h
          rw [hstage, Stage.held_writing hcurrent, Stage.held_writing hcurrent]
          exact .extend _ write.path (write.content.take written) _ rfl
        · cases h
      · cases h
  | close =>
      simp only [step] at h
      split at h
      · next execution done written write hstage hcurrent =>
        rw [hstage] at hcurrent
        split at h
        · next hwritten =>
          simp only [Option.some.injEq, Prod.mk.injEq] at h
          obtain ⟨rfl, rfl⟩ := h
          rw [hstage, Stage.held_closed hcurrent, Stage.held_writing hcurrent, hwritten,
            List.take_length]
          exact .keep
        · cases h
      · cases h
  | commit fails =>
      simp only [step] at h
      split at h
      · next execution hstage =>
        split at h <;> simp only [Option.some.injEq, Prod.mk.injEq] at h <;>
          obtain ⟨rfl, rfl⟩ := h
        · rw [hstage]
          exact .keep
        · exact .release
      · cases h
  | finish =>
      simp only [step] at h
      split at h
      · simp only [Option.some.injEq, Prod.mk.injEq] at h
        obtain ⟨rfl, rfl⟩ := h
        exact .release
      · cases h
  | raised =>
      simp only [step] at h
      split at h
      · simp only [Option.some.injEq, Prod.mk.injEq] at h
        obtain ⟨rfl, rfl⟩ := h
        unfold cleanUp
        split
        · next execution done written write hstage hcurrent =>
          rw [hstage] at hcurrent ⊢
          exact .unlink _ write.path _ (Stage.held_writing hcurrent)
        · exact .release
      · cases h
  | crashed =>
      simp only [step] at h
      split at h
      · simp only [Option.some.injEq, Prod.mk.injEq] at h
        obtain ⟨rfl, rfl⟩ := h
        exact .release
      · cases h

/-- A call that enters a callback has its request claimed and is not committed. -/
theorem progress_of_enters {callback : Callback} (h : call.enters event = some callback) :
    call.stage.progress = .claimed ∧ call.stage.running = true := by
  unfold enters at h
  split at h
  · split at h
    · next task hstage =>
      rw [hstage]
      exact ⟨rfl, rfl⟩
    · cases h
  · cases h

/-- A failed call takes no step. -/
theorem step_failed {progress : Progress} (h : call.stage = .failed progress) (shared : Shared)
    (event : CallEvent H) : call.step shared event = none := by
  cases event <;> simp [step, h, Stage.running, Stage.current?]

end Call
end AmazonSimilarSearch.PhaseProtocol
