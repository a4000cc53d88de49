import AmazonSimilarSearch.EgressSession.Commands

/-!
# The command lines of a cleanup

The names of a session are plain text. So a command that inspects, removes or
looks for a resource is valid whenever the path of the runtime is, and that path
is valid once any command of the session has passed the check.
-/
namespace AmazonSimilarSearch.EgressSession
open Foundation
open Broker (Target IsPlain)

/-- The path of the runtime can stand at the head of a command. -/
structure ValidExecutable (backend : ContainerBackend) : Prop where
  absolute : backend.executable.toList.head? = some '/'
  argument : validArgument backend.executable = true

theorem head?_append_of {stem rest : String} {c : Char} (h : stem.toList.head? = some c) :
    (stem ++ rest).toList.head? = some c := by
  rw [String.toList_append, List.head?_append, h]
  rfl

/-- A text that starts with a letter, without control characters and without an O. -/
theorem validArgument_of {value : String} {c : Char} (hhead : value.toList.head? = some c)
    (hdash : c ≠ '-') (hchars : ∀ c ∈ value.toList, c ≠ '\x00' ∧ c ≠ '\r' ∧ c ≠ '\n')
    (hletter : 'O' ∉ value.toList) : validArgument value = true := by
  have hne : value ≠ "" := by
    rintro rfl
    cases hhead
  have hstart : ∀ stem : List Char, stem.head? = some '-' →
      stem.isPrefixOf value.toList = false := by
    intro stem hstem
    cases hstemList : stem with
    | nil =>
        rw [hstemList] at hstem
        cases hstem
    | cons d stem =>
        cases hvalue : value.toList with
        | nil => rfl
        | cons e rest =>
            rw [hstemList, List.head?_cons, Option.some.injEq] at hstem
            rw [hvalue, List.head?_cons, Option.some.injEq] at hhead
            have hde : (d == e) = false := by
              rw [hstem, hhead, beq_eq_false_iff_ne]
              exact hdash.symm
            rw [List.isPrefixOf_cons_cons, hde, Bool.false_and]
  have hword : ["--mount", "--volume", "-v"].contains value = false := by
    rw [List.contains_eq_mem, decide_eq_false_iff_not]
    intro hmem
    have hdashed : ∀ word ∈ ["--mount", "--volume", "-v"], word.toList.head? = some '-' := by
      decide
    rw [hdashed value hmem, Option.some.injEq] at hhead
    exact hdash hhead.symm
  have hcredential : Broker.contains credentialEnv value = false :=
    decide_eq_false fun hinside => hletter (hinside.subset (by decide))
  simp only [validArgument, Bool.and_eq_true, decide_eq_true_eq, Bool.not_eq_true', hword,
    hstart "--mount=".toList rfl, hstart "--volume=".toList rfl, hcredential, List.all_eq_true,
    and_true]
  exact ⟨hne, fun c hc => ⟨⟨(hchars c hc).1, (hchars c hc).2.1⟩, (hchars c hc).2.2⟩⟩

/-- The words of the commands that only name what they are about. -/
def cleanupWords : List String :=
  ["container", "network", "inspect", "ls", "--all", "--filter", "rm", "-f", "--",
    "--format=\x7b\x7b.Names\x7d\x7d", "--format=\x7b\x7b.Name\x7d\x7d"]

theorem validArgument_word {word : String} (h : word ∈ cleanupWords) :
    validArgument word = true := by
  have hall : ∀ word ∈ cleanupWords, validArgument word = true := by
    decide
  exact hall word h

/-- A command of such words, and of one more argument, is valid when the runtime is. -/
theorem ValidExecutable.words {backend : ContainerBackend} {rest : List String} {name : String}
    (h : ValidExecutable backend) (hname : validArgument name = true)
    (hrest : ∀ argument ∈ rest, argument ∈ cleanupWords ∨ argument = name) :
    validArgv (backend.executable :: rest) = true := by
  simp only [validArgv, Bool.and_eq_true, decide_eq_true_eq, List.all_cons, List.all_eq_true]
  refine ⟨h.absolute, h.argument, fun argument hargument => ?_⟩
  rcases hrest argument hargument with hword | rfl
  · exact validArgument_word hword
  · exact hname

namespace Session

variable (session : Session)

theorem isPlain_internalNetwork : IsPlain session.internalNetwork :=
  Broker.isPlain_domainName _ _ (Broker.isPlain_of_all (by decide))

theorem isPlain_name (target : Target) : IsPlain (session.name target) := by
  cases target with
  | gateway =>
      have hstem : IsPlain "ai-review-egress-gateway-" := Broker.isPlain_of_all (by decide)
      exact hstem.append (Broker.isPlain_networkSuffix session.isPlain_internalNetwork)
  | internal => exact session.isPlain_internalNetwork
  | external => exact Broker.isPlain_domainName _ _ (Broker.isPlain_of_all (by decide))

theorem head?_name (target : Target) : (session.name target).toList.head? = some 'a' := by
  cases target with
  | gateway => exact head?_append_of (by decide)
  | internal => exact head?_append_of (by decide)
  | external => exact head?_append_of (by decide)

theorem validArgument_name (target : Target) : validArgument (session.name target) = true := by
  have hplain := session.isPlain_name target
  refine validArgument_of (session.head?_name target) (by decide) (fun c hc => ?_) fun hletter =>
    hplain.char hletter (by decide) rfl
  exact ⟨hplain.char hc (by decide), hplain.char hc (by decide), hplain.char hc (by decide)⟩

/-- The same in the filter of an absence command. -/
theorem validArgument_filter (target : Target) :
    validArgument ("name=^" ++ session.name target ++ "$") = true := by
  have hplain := session.isPlain_name target
  have hchars : ∀ c ∈ ("name=^" ++ session.name target ++ "$").toList,
      c ∈ "name=^".toList ∨ c ∈ (session.name target).toList ∨ c ∈ "$".toList := by
    intro c hc
    simpa [or_assoc] using hc
  have hne : ∀ d, Broker.isPlainChar d = false → d ∉ "name=^".toList → d ∉ "$".toList →
      ∀ c ∈ ("name=^" ++ session.name target ++ "$").toList, c ≠ d := by
    rintro d hd hhead hlast c hc rfl
    exact (hchars c hc).elim hhead fun hc => hc.elim (fun hc => hplain.char hc hd rfl) hlast
  have hstart : ("name=^" ++ session.name target ++ "$").toList.head? = some 'n' :=
    head?_append_of (head?_append_of (by decide))
  refine validArgument_of hstart (by decide) (fun c hc => ⟨?_, ?_, ?_⟩) fun hletter => ?_
  · exact hne _ (by decide) (by decide) (by decide) c hc
  · exact hne _ (by decide) (by decide) (by decide) c hc
  · exact hne _ (by decide) (by decide) (by decide) c hc
  · exact hne 'O' (by decide) (by decide) (by decide) 'O' hletter rfl

theorem validExecutable_of_argv {backend : ContainerBackend} {act : Act}
    (h : validArgv (session.argv backend act) = true) : ValidExecutable backend := by
  obtain ⟨rest, hrest⟩ : ∃ rest, session.argv backend act = backend.executable :: rest := by
    cases act with
    | absence target => cases target <;> exact ⟨_, rfl⟩
    | create target => cases target <;> exact ⟨_, rfl⟩
    | connect => exact ⟨_, rfl⟩
    | inspect target => exact ⟨_, rfl⟩
    | remove target => cases target <;> exact ⟨_, rfl⟩
  rw [hrest] at h
  simp only [validArgv, Bool.and_eq_true, decide_eq_true_eq, List.all_cons] at h
  exact ⟨h.1, h.2.1⟩

variable {session} {backend : ContainerBackend} (h : ValidExecutable backend) (target : Target)

include h

theorem validArgv_inspect : validArgv (session.argv backend (.inspect target)) = true := by
  refine h.words (session.validArgument_name target) ?_
  cases target <;> simp [cleanupWords, Target.noun]

theorem validArgv_remove : validArgv (session.argv backend (.remove target)) = true := by
  have hname := session.validArgument_name target
  cases target with
  | gateway => exact h.words hname (by simp [cleanupWords, name])
  | internal => exact h.words hname (by simp [cleanupWords, name])
  | external => exact h.words hname (by simp [cleanupWords, name])

theorem validArgv_absence : validArgv (session.argv backend (.absence target)) = true := by
  have hfilter := session.validArgument_filter target
  cases target with
  | gateway => exact h.words hfilter (by simp [cleanupWords, name])
  | internal => exact h.words hfilter (by simp [cleanupWords, name])
  | external => exact h.words hfilter (by simp [cleanupWords, name])

end Session

end AmazonSimilarSearch.EgressSession
