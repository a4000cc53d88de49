import AmazonSimilarSearch.Broker.LifecycleContract

/-!
# The parts of a lifecycle

What the setup, the broker's own run, the second inspection and the cleanup do,
from any history that is sound for the local variables they start with.
-/
namespace AmazonSimilarSearch.Broker
open Foundation Interaction

namespace Session

variable {session : Session} {readers : Readers} {progress : Progress} {history : History}
  {records : List CommandRecord}

/-! ## Inspecting -/

/-- The three inspections, each on record. -/
structure InspectedSince (session : Session) (records : List CommandRecord)
    (progress : Progress) (inspected : Inspected) (after : History) : Prop where
  sound : session.Sound progress after
  clean : session.Clean (records ++ inspected.records) after
  internal : session.Ended (.inspect .internal) inspected.internal after
  external : session.Ended (.inspect .external) inspected.external after
  gateway : session.Ended (.inspect .gateway) inspected.gateway after

theorem meets_inspectBoundary (hsound : session.Sound progress history)
    (hclean : session.Clean records history) :
    session.inspectBoundary.Meets (session.Allowed readers)
      (session.InspectedSince records progress)
      (fun _ after => session.Sound progress after) history := by
  rw [inspectBoundary, meets_bind]
  refine step_succeed hsound trivial trivial fun internal _ hinternal hsound => ?_
  have hclean := hclean.concat (.inspect .internal) hinternal nofun
  rw [meets_bind]
  refine step_succeed hsound trivial trivial fun external _ hexternal hsound => ?_
  have hclean := hclean.concat (.inspect .external) hexternal nofun
  rw [meets_bind]
  refine step_succeed hsound trivial trivial fun gateway _ hgateway hsound => ?_
  have hclean := hclean.concat (.inspect .gateway) hgateway nofun
  exact
    { sound := hsound
      clean := by simpa [Inspected.records] using hclean
      internal := ⟨by simp, hinternal⟩
      external := ⟨by simp, hexternal⟩
      gateway := ⟨by simp, hgateway⟩ }

/-! ## Setting up -/

theorem meets_preflight (hsound : session.Sound {} history) (hclean : session.Clean [] history) :
    session.preflight.Meets (session.Allowed readers)
      (fun records after => session.Sound {} after ∧ session.Clean records after ∧
        session.RuntimeValid ∧ ∀ target, session.ShownAbsent target after)
      session.StopsSound history := by
  rw [preflight, meets_bind, meets_during]
  refine step_absent hsound fun r₁ _ hexit₁ hempty₁ hsound => ?_
  have hclean := hclean.concat (.absence .gateway) hexit₁ fun _ _ => hempty₁
  rw [meets_bind, meets_during]
  refine step_absent hsound fun r₂ _ hexit₂ hempty₂ hsound => ?_
  have hclean := hclean.concat (.absence .internal) hexit₂ fun _ _ => hempty₂
  rw [meets_bind, meets_during]
  refine step_absent hsound fun r₃ hissuable hexit₃ hempty₃ hsound => ?_
  have hclean := hclean.concat (.absence .external) hexit₃ fun _ _ => hempty₃
  refine ⟨hsound, hclean, hissuable.runtimeValid, fun target => ?_⟩
  cases target with
  | gateway => exact ⟨r₁, by simp, hexit₁, hempty₁⟩
  | internal => exact ⟨r₂, by simp, hexit₂, hempty₂⟩
  | external => exact ⟨r₃, by simp, hexit₃, hempty₃⟩

/-- What was created stays known to the local variables from then on. -/
theorem Sound.created_more (h : session.Sound progress history) (next : Progress)
    (hvalid : session.RuntimeValid)
    (hcreated : ∀ target, progress.created target = true → next.created target = true)
    (hbroker : progress.brokerAttempted = next.brokerAttempted)
    (hcleaned : next.brokerCleaned = false) : session.Sound next history :=
  h.advance next hvalid hcreated (fun hstarted => hbroker ▸ hstarted) fun h => by
    rw [hcleaned] at h
    cases h

theorem meets_create (hsound : session.Sound {} history) (hclean : session.Clean records history)
    (hvalid : session.RuntimeValid) (habsent : ∀ target, session.ShownAbsent target history) :
    session.create.Meets (session.Allowed readers)
      (fun created after => session.Sound .gateway after ∧
        session.Clean (records ++ created) after)
      session.StopsSound history := by
  have hsound : session.Sound .internal history := hsound.created_more _ hvalid nofun rfl rfl
  rw [create, meets_bind, meets_during]
  refine step_succeed hsound rfl habsent fun internal _ hexit hsound => ?_
  have hclean := hclean.concat (.create .internal) hexit nofun
  have habsent := fun target =>
    (habsent target).append [session.asks (.create .internal) (.ok internal)]
  have hsound := hsound.created_more .external hvalid
    (by intro target; cases target <;> simp [Progress.created, Progress.external]) rfl rfl
  rw [meets_bind, meets_during]
  refine step_succeed hsound rfl habsent fun external _ hexit hsound => ?_
  have hclean := hclean.concat (.create .external) hexit nofun
  have habsent := fun target =>
    (habsent target).append [session.asks (.create .external) (.ok external)]
  have hsound := hsound.created_more .gateway hvalid
    (by intro target; cases target <;> simp [Progress.created, Progress.gateway]) rfl rfl
  rw [meets_bind, meets_during]
  refine step_succeed hsound rfl habsent fun gateway _ hexit hsound => ?_
  have hclean := hclean.concat (.create .gateway) hexit nofun
  rw [meets_bind, meets_during]
  refine step_succeed hsound trivial trivial fun connected _ hexit hsound => ?_
  have hclean := hclean.concat .connect hexit nofun
  exact ⟨hsound, by simpa using hclean⟩

/-- What the setup leaves when it returns. -/
structure ProvisionedSince (session : Session) (readers : Readers) (provisioned : Provisioned)
    (after : History) : Prop where
  sound : session.Sound .gateway after
  clean : session.Clean provisioned.commands after
  shown : session.BoundaryShown readers after
  inspected : ∃ start inspected, provisioned.commands = start ++ inspected.records ∧
    session.validateBoundary readers.inspect inspected = .ok provisioned.boundary

theorem meets_provision (hsound : session.Sound {} history) (hclean : session.Clean [] history) :
    (session.provision readers).Meets (session.Allowed readers)
      (session.ProvisionedSince readers) session.StopsSound history := by
  rw [provision, meets_bind]
  refine (meets_preflight hsound hclean).imp (fun absent history habsent => ?_) fun _ _ h => h
  obtain ⟨hsound, hclean, hvalid, hshown⟩ := habsent
  rw [meets_bind]
  refine (meets_create hsound hclean hvalid hshown).imp (fun created history hcreated => ?_)
    fun _ _ h => h
  obtain ⟨hsound, hclean⟩ := hcreated
  rw [meets_bind, meets_during]
  refine (meets_inspectBoundary hsound hclean).imp (fun inspected history h => ?_) fun _ _ h => h
  rw [meets_bind, meets_during]
  refine step_check h.sound fun boundary hboundary => ?_
  exact
    { sound := h.sound
      clean := h.clean
      shown := ⟨inspected, boundary, hboundary, h.internal, h.external, h.gateway⟩
      inspected := ⟨_, inspected, rfl, hboundary⟩ }

/-! ## The broker's own run -/

/-- The steps of the cleanup. -/
def CleansUp : Act → Prop
  | .inspect _ | .remove _ | .absence _ | .removeBroker => True
  | _ => False

/-- Only steps of the cleanup were taken. -/
def OnlyCleans (session : Session) (history : History) : Prop :=
  ∀ exchange ∈ history, ∃ act answer, CleansUp act ∧ exchange = session.asks act answer

theorem OnlyCleans.append {more : History} (h : session.OnlyCleans history)
    (hmore : session.OnlyCleans more) : session.OnlyCleans (history ++ more) :=
  fun exchange hexchange => (List.mem_append.mp hexchange).elim (h exchange) (hmore exchange)

theorem allOk_append_eq_some {α : Type} {results more : List (Except Raised α)} {all : List α}
    (h : allOk (results ++ more) = some all) :
    ∃ first rest, allOk results = some first ∧ allOk more = some rest ∧ all = first ++ rest := by
  induction results generalizing all with
  | nil => exact ⟨[], all, rfl, h, rfl⟩
  | cons result results ih =>
      cases result with
      | error e => cases h
      | ok a =>
          obtain ⟨tail, htail, rfl⟩ := Option.map_eq_some_iff.mp h
          obtain ⟨first, rest, hfirst, hrest, rfl⟩ := ih htail
          exact ⟨a :: first, rest, by simp [allOk, hfirst], hrest, rfl⟩

/-- What rounds of the cleanup do, whether they succeed or not: the step that every target is due
was taken, and the records of rounds that all succeed are those of their commands. -/
structure Cleaning {α : Type} (session : Session) (due : Target → Act)
    (shows : α → List CommandRecord) (before : History) (targets : List Target)
    (results : List (Except Raised α)) (after : History) : Prop where
  extension : ∃ more, after = before ++ more ∧ session.OnlyCleans more ∧
    ∀ target ∈ targets, session.Taken (due target) more
  clean : ∀ all, allOk results = some all → ∀ records, session.Clean records before →
    session.Clean (records ++ all.flatMap shows) after

section Cleaning

variable {α : Type} {due : Target → Act} {shows : α → List CommandRecord}
  {before middle after : History} {seen targets : List Target}
  {results more : List (Except Raised α)}

theorem Cleaning.trans (h : session.Cleaning due shows before seen results middle)
    (hmore : session.Cleaning due shows middle targets more after) :
    session.Cleaning due shows before (seen ++ targets) (results ++ more) after where
  extension := by
    obtain ⟨first, rfl, hfirst, hseen⟩ := h.extension
    obtain ⟨rest, rfl, hrest, htargets⟩ := hmore.extension
    refine ⟨first ++ rest, List.append_assoc _ _ _, hfirst.append hrest, fun target htarget => ?_⟩
    rw [Taken, asked_append]
    exact (List.mem_append.mp htarget).imp (hseen target) (htargets target)
  clean := by
    intro all hall records hclean
    obtain ⟨first, rest, hfirst, hrest, rfl⟩ := allOk_append_eq_some hall
    have hafter := hmore.clean rest hrest _ (h.clean first hfirst records hclean)
    simpa using hafter

end Cleaning

end Session
end AmazonSimilarSearch.Broker
