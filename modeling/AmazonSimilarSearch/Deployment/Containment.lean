import AmazonSimilarSearch.Deployment.SmokeTest

/-!
# What a deployment check leaves behind

Whatever the runner answers, an image is run at most once, under a name that was just shown to be
free, and only after its own inspection was accepted and all images before it have passed. After a
run the container is shown to be gone or is removed, unless the question for it gets no clear
answer: then the check ends there.
-/
namespace AmazonSimilarSearch.Deployment
open Foundation Interaction
open Broker (contains)
open BrokerLedger (isAbsolute)

/-! ## Events of a history -/

def Issued (act : Act) (history : History) : Prop :=
  ∃ exchange ∈ history, exchange.1 = .command act

/-- No image is run. -/
def NoRun (history : History) : Prop := ∀ role name, ¬ Issued (.run role name) history

theorem issued_append {act : Act} {history more : History} :
    Issued act (history ++ more) ↔ Issued act history ∨ Issued act more := by
  simp only [Issued, List.mem_append, or_and_right, exists_or]

theorem issued_cons {act : Act} {exchange : Exchange Query Answer} {history : History} :
    Issued act (exchange :: history) ↔ exchange.1 = .command act ∨ Issued act history := by
  simp [Issued]

theorem not_issued_nil (act : Act) : ¬ Issued act [] := by simp [Issued]

theorem NoRun.append {history more : History} (hhistory : NoRun history) (hmore : NoRun more) :
    NoRun (history ++ more) := by
  intro role name h
  rcases issued_append.mp h with h | h
  · exact hhistory role name h
  · exact hmore role name h

theorem noRun_nil : NoRun [] := fun _ _ => not_issued_nil _

theorem noRun_singleton {exchange : Exchange Query Answer}
    (h : ∀ role name, exchange.1 ≠ .command (.run role name)) : NoRun [exchange] := by
  intro role name hissued
  rcases issued_cons.mp hissued with hissued | hissued
  · exact h role name hissued
  · exact not_issued_nil _ hissued

/-- The exchanges that are new. -/
def Since (before : History) (P : History → Prop) (after : History) : Prop :=
  ∃ more, after = before ++ more ∧ P more

theorem Since.shift {before first after : History} {P Q : History → Prop}
    (h : Since (before ++ first) P after) (hshift : ∀ more, P more → Q (first ++ more)) :
    Since before Q after := by
  obtain ⟨more, rfl, hmore⟩ := h
  exact ⟨first ++ more, List.append_assoc _ _ _, hshift more hmore⟩

/-- What is demanded of the exchanges after every run. -/
def EachRun (after : String → History → Prop) : History → Prop
  | [] => True
  | exchange :: rest =>
      (∀ role name, exchange.1 = .command (.run role name) → after name rest) ∧ EachRun after rest

section EachRun

variable {after after' : String → History → Prop} {history more : History}

theorem eachRun_of_noRun (h : NoRun history) : EachRun after history := by
  induction history with
  | nil => trivial
  | cons exchange rest ih =>
      refine ⟨fun role name heq => absurd (issued_cons.mpr (.inl heq)) (h role name), ih ?_⟩
      exact fun role name hrest => h role name (issued_cons.mpr (.inr hrest))

/-- What follows a run may go on. -/
theorem EachRun.append (hhistory : EachRun after history) (hmore : EachRun after' more)
    (hgrows : ∀ name rest, after name rest → after' name (rest ++ more)) :
    EachRun after' (history ++ more) := by
  induction history with
  | nil => exact hmore
  | cons exchange rest ih =>
      exact ⟨fun role name heq => hgrows name rest (hhistory.1 role name heq), ih hhistory.2⟩

end EachRun

namespace Setup

variable (setup : Setup)

/-- The act was answered by a result that the check accepts, with the property. -/
def Reports (act : Act) (P : ProcessResult → Prop) (history : History) : Prop :=
  ∃ result : ProcessResult,
    (⟨.command act, .ok result⟩ : Exchange Query Answer) ∈ history ∧ result.Within setup.H act ∧
      P result

variable {setup} in
theorem Reports.append_left {act : Act} {P : ProcessResult → Prop} {history : History}
    (h : setup.Reports act P history) (more : History) : setup.Reports act P (history ++ more) := by
  obtain ⟨result, hmem, hresult⟩ := h
  exact ⟨result, List.mem_append_left _ hmem, hresult⟩

variable {setup} in
theorem Reports.append_right {act : Act} {P : ProcessResult → Prop} {more : History}
    (h : setup.Reports act P more) (history : History) : setup.Reports act P (history ++ more) := by
  obtain ⟨result, hmem, hresult⟩ := h
  exact ⟨result, List.mem_append_right _ hmem, hresult⟩

/-- The container is shown to be gone. -/
def ProvenAbsent (name : String) (history : History) : Prop :=
  setup.Reports (.absence name) ShowsAbsent history

/-- The question for the container gets no clear answer, and is the last one. -/
def Unclear (name : String) (history : History) : Prop :=
  ∃ answer, history = [⟨.command (.absence name), answer⟩] ∧
    ¬ ∃ result, answer = .ok result ∧ result.Within setup.H (.absence name) ∧ ShowsState result

/-- What follows a run in a check that ends with an error. -/
def Released (error : Raised) (name : String) (history : History) : Prop :=
  setup.ProvenAbsent name history ∨ Issued (.remove name) history ∨
    (setup.Unclear name history ∧ error = cleanupFailed)

/-- The image was run with the expected result, and its container is gone. -/
def Passed (role : Role) (history : History) : Prop :=
  ∃ (before : History) (name : String) (result : ProcessResult) (rest : History),
    history = before ++ ⟨.command (.run role name), .ok result⟩ :: rest ∧
    result.Within setup.H (.run role name) ∧
    (result.exitCode = role.contract.smokeExitCode ∧ validOutput role result = true) ∧
    setup.ProvenAbsent name rest

/-- The images that are checked before. -/
def Role.earlier (role : Role) : List Role := Role.all.takeWhile (· ≠ role)

/-- The inspection was accepted, and the name is one that was just shown to be free. -/
def Cleared (role : Role) (name : String) (history : History) : Prop :=
  ∃ (before : History) (inspection : ProcessResult) (token : String) (absence : ProcessResult),
    history = before ++ [⟨.command (.inspect role), .ok inspection⟩, ⟨.token role, .ok token⟩,
      ⟨.command (.absence name), .ok absence⟩] ∧
    (inspection.exitCode = 0 ∧ inspection.stderr = [] ∧
      ∃ digests, setup.inspectImage role inspection.stdout = .ok digests) ∧
    (name = containerName role token ∧ matchesContainer name = true) ∧ ShowsAbsent absence

/-- When the check may inspect and run. -/
def Allowed (history : History) : Query → Prop
  | .command (.inspect role) => ∀ other ∈ Role.earlier role, setup.Passed other history
  | .command (.run role name) => setup.Cleared role name history ∧
      ∀ name, ¬ Issued (.run role name) history
  | _ => True

/-! ## Commands -/

section Commands

variable {setup} {act : Act} {history : History}
  {returns : ProcessResult → History → Prop} {raises : Raised → History → Prop}

theorem meets_command (hallowed : setup.Allowed history (.command act))
    (hinvalid : validArgv (setup.argv act) = false → ∀ message,
      raises (.deployment message) history)
    (hfault : ∀ answer message, (¬ ∃ result, answer = .ok result ∧ result.Within setup.H act) →
      raises (.deployment message) (history ++ [⟨.command act, answer⟩]))
    (hresult : ∀ result : ProcessResult, validArgv (setup.argv act) = true →
      result.Within setup.H act → returns result (history ++ [⟨.command act, .ok result⟩])) :
    (setup.command act).Meets setup.Allowed returns raises history := by
  unfold Setup.command
  rw [meets_bind, liftM_eq_ofExcept, meets_ensure]
  refine ⟨fun hvalid => ?_, fun hvalid => hinvalid (by simpa using hvalid) _⟩
  rw [meets_bind, meets_query]
  refine ⟨hallowed, fun answer => ?_⟩
  cases answer with
  | error fault =>
      have hnot : ¬ ∃ result,
          (Except.error fault : Except CommandFault ProcessResult) = .ok result ∧
            result.Within setup.H act := by
        rintro ⟨result, h, _⟩
        cases h
      cases fault with
      | raised => exact hfault _ _ hnot
      | malformed => exact hfault _ _ hnot
  | ok result =>
      dsimp only
      rw [meets_bind, liftM_eq_ofExcept, meets_ensure]
      refine ⟨fun hwithin => hresult result hvalid hwithin, fun hwithin => hfault _ _ ?_⟩
      rintro ⟨other, h, hother⟩
      cases h
      exact hwithin hother

/-- A command that may be issued at any time. -/
theorem meets_freeCommand (hfree : ∀ history, setup.Allowed history (.command act))
    (hvalid : validArgv (setup.argv act) = true)
    (hfault : ∀ answer message, (¬ ∃ result, answer = .ok result ∧ result.Within setup.H act) →
      raises (.deployment message) (history ++ [⟨.command act, answer⟩]))
    (hresult : ∀ result : ProcessResult, result.Within setup.H act →
      returns result (history ++ [⟨.command act, .ok result⟩])) :
    (setup.command act).Meets setup.Allowed returns raises history :=
  meets_command (hfree history) (fun hinvalid => by simp [hvalid] at hinvalid) hfault
    fun result _ => hresult result

end Commands

/-! ## Command lines -/

section CommandLines

variable {setup}

theorem validArgument_executable {act : Act} (h : validArgv (setup.argv act) = true) :
    isAbsolute setup.backend.executable = true ∧
      validArgument setup.backend.executable = true := by
  cases act <;>
    simp only [argv, smokeArgv, List.cons_append, validArgv, List.head?_cons, Option.any_some,
      List.all_cons, Bool.and_eq_true] at h <;>
    exact ⟨h.1, h.2.1⟩

theorem isNameChar_of_isLowerHexChar {c : Char} (h : isLowerHexChar c = true) :
    isNameChar c = true := by
  simp only [isLowerHexChar, isNameChar, isLowerAlphanumeric, Bool.or_eq_true, Bool.and_eq_true,
    decide_eq_true_eq] at h ⊢
  rcases h with ⟨hlow, hhigh⟩ | ⟨hlow, hhigh⟩
  · exact .inl (.inr ⟨hlow, hhigh⟩)
  · exact .inl (.inl ⟨hlow, hhigh.trans (by decide)⟩)

/-- The characters of a container's name. -/
theorem isNameChar_of_matchesContainer {name : String} (h : matchesContainer name = true) :
    name ≠ "" ∧ ∀ c ∈ name.toList, isNameChar c = true := by
  simp only [matchesContainer, Bool.and_eq_true, decide_eq_true_eq, List.all_eq_true] at h
  obtain ⟨⟨⟨⟨hstem, hlength⟩, hmiddle⟩, hdash⟩, htoken⟩ := h
  obtain ⟨rest, hrest⟩ := List.isPrefixOf_iff_prefix.mp hstem
  have hdrop : name.toList.drop containerStem.toList.length = rest := by
    rw [← hrest, List.drop_left]
  rw [hdrop] at hlength hmiddle hdash htoken
  have hsplit : rest.drop (rest.length - 17) = '-' :: rest.drop (rest.length - 16) := by
    obtain ⟨tail, htail⟩ := List.head?_eq_some_iff.mp hdash
    have hnext : rest.drop (rest.length - 16) = tail := by
      have hsucc : rest.length - 16 = rest.length - 17 + 1 := by omega
      rw [hsucc, ← List.drop_drop, htail, List.drop_one, List.tail_cons]
    rw [htail, hnext]
  constructor
  · rintro rfl
    simp [containerStem] at hrest
  · intro c hc
    rw [← hrest, List.mem_append] at hc
    rcases hc with hc | hc
    · exact List.all_eq_true.mp (show containerStem.toList.all isNameChar = true by decide) c hc
    · rw [← List.take_append_drop (rest.length - 17) rest, hsplit, List.mem_append,
        List.mem_cons] at hc
      rcases hc with hc | rfl | hc
      · exact hmiddle c hc
      · decide
      · exact isNameChar_of_isLowerHexChar (htoken c hc)

/-- A text has at least as many of a character as its parts. -/
theorem contains_of_count {part text : String} (c : Char)
    (h : text.toList.count c < part.toList.count c) : contains part text = false := by
  rw [contains, decide_eq_false_iff_not]
  exact fun hwithin => (hwithin.sublist.count_le c).not_gt h

/-- The sockets of the container engines are named with a full stop. -/
theorem validArgument_of_ne {text : String} (hne : text ≠ "")
    (h : ∀ c ∈ text.toList, c ≠ '.' ∧ c ≠ '\x00' ∧ c ≠ '\r' ∧ c ≠ '\n') :
    validArgument text = true := by
  have hcontrol : hasControl text = false := by
    rw [hasControl, List.any_eq_false]
    intro c hc
    simpa [or_assoc] using (h c hc).2
  have hdot : text.toList.count '.' = 0 := List.count_eq_zero.mpr fun hmem => (h '.' hmem).1 rfl
  have hdocker : contains "docker.sock" text = false :=
    contains_of_count '.' (hdot ▸ by decide)
  have hpodman : contains "podman.sock" text = false :=
    contains_of_count '.' (hdot ▸ by decide)
  simp only [validArgument, hcontrol, hdocker, hpodman, Bool.not_false, Bool.and_true,
    decide_eq_true_eq]
  exact hne

theorem ne_of_isNameChar {c : Char} (h : isNameChar c = true) :
    c ≠ '.' ∧ c ≠ '\x00' ∧ c ≠ '\r' ∧ c ≠ '\n' := by
  refine ⟨?_, ?_, ?_, ?_⟩ <;> (rintro rfl; cases h)

theorem validArgument_of_matchesContainer {name : String} (h : matchesContainer name = true) :
    validArgument name = true := by
  obtain ⟨hne, hchars⟩ := isNameChar_of_matchesContainer h
  exact validArgument_of_ne hne fun c hc => ne_of_isNameChar (hchars c hc)

/-- The commands about a container can be issued. -/
structure Nameable (setup : Setup) (name : String) : Prop where
  absolute : isAbsolute setup.backend.executable = true
  executable : validArgument setup.backend.executable = true
  name : validArgument name = true

theorem Nameable.absence {name : String} (h : setup.Nameable name) :
    validArgv (setup.argv (.absence name)) = true := by
  have hwords : validArgument "container" = true ∧ validArgument "exists" = true := by
    decide
  simp [argv, validArgv, h.absolute, h.executable, h.name, hwords]

theorem Nameable.remove {name : String} (h : setup.Nameable name) :
    validArgv (setup.argv (.remove name)) = true := by
  have hwords : validArgument "rm" = true ∧ validArgument "-f" = true ∧
      validArgument "--" = true := by
    decide
  simp [argv, validArgv, h.absolute, h.executable, h.name, hwords]

end CommandLines

/-! ## One smoke test -/

section SmokeTests

variable {setup} {history : History} {role : Role} {name : String}

theorem noRun_absence (answer : Answer (.command (.absence name))) :
    NoRun [⟨.command (.absence name), answer⟩] :=
  noRun_singleton fun _ _ h => by cases h

theorem noRun_remove (answer : Answer (.command (.remove name))) :
    NoRun [⟨.command (.remove name), answer⟩] :=
  noRun_singleton fun _ _ h => by cases h

theorem provenAbsent_singleton {result : ProcessResult}
    (hwithin : result.Within setup.H (.absence name)) (hshows : ShowsAbsent result) :
    setup.ProvenAbsent name [⟨.command (.absence name), .ok result⟩] :=
  ⟨result, List.mem_singleton.mpr rfl, hwithin, hshows⟩

theorem issued_singleton {exchange : Exchange Query Answer} {act : Act}
    (h : exchange.1 = .command act) : Issued act [exchange] := issued_cons.mpr (.inl h)

theorem meets_assertAbsent (hname : setup.Nameable name) :
    (setup.assertAbsent name).Meets setup.Allowed
      (fun _ => Since history fun more => NoRun more ∧ ∃ result : ProcessResult,
        more = [⟨.command (.absence name), .ok result⟩] ∧
          result.Within setup.H (.absence name) ∧ ShowsAbsent result)
      (fun _ => Since history NoRun) history := by
  unfold Setup.assertAbsent
  rw [meets_bind]
  refine meets_freeCommand (fun _ => trivial) hname.absence
    (fun answer _ _ => ⟨_, rfl, noRun_absence answer⟩) fun result hwithin => ?_
  rw [liftM_eq_ofExcept, meets_ensure]
  constructor
  · intro hshows
    exact ⟨_, rfl, noRun_absence _, result, rfl, hwithin, hshows⟩
  · intro _
    exact ⟨_, rfl, noRun_absence _⟩

/-- What a cleanup leaves when it fails. -/
def Interrupted (setup : Setup) (name : String) (more : History) : Prop :=
  setup.ProvenAbsent name more ∨ Issued (.remove name) more ∨ setup.Unclear name more

/-- A container that is there is removed. -/
theorem meets_removal (hname : setup.Nameable name) :
    (do
      let removed ← setup.command (.remove name)
      ensure (removed.exitCode = 0) (Raised.deployment "deployment smoke container cleanup failed")
      setup.assertAbsent name : Checking Unit).Meets setup.Allowed
      (fun _ => Since history fun more => NoRun more ∧ setup.ProvenAbsent name more)
      (fun _ => Since history fun more => NoRun more ∧ Issued (.remove name) more) history := by
  rw [meets_bind]
  refine meets_freeCommand (fun _ => trivial) hname.remove
    (fun answer _ _ => ⟨_, rfl, noRun_remove answer, issued_singleton rfl⟩) fun removal _ => ?_
  rw [meets_bind, liftM_eq_ofExcept, meets_ensure]
  constructor
  · intro _
    refine (meets_assertAbsent hname).imp (fun _ after h => h.shift ?_) fun _ after h => h.shift ?_
    · rintro more ⟨hmore, result, rfl, hwithin, hshows⟩
      exact ⟨(noRun_remove _).append hmore,
        Reports.append_right (provenAbsent_singleton hwithin hshows) _⟩
    · intro more hmore
      exact ⟨(noRun_remove _).append hmore, issued_append.mpr (.inl (issued_singleton rfl))⟩
  · intro _
    exact ⟨_, rfl, noRun_remove _, issued_singleton rfl⟩

/-- A cleanup shows that the container is gone, removes it, or gets no clear answer. -/
theorem meets_cleanupIfPresent (hname : setup.Nameable name) :
    (setup.cleanupIfPresent name).Meets setup.Allowed
      (fun _ => Since history fun more => NoRun more ∧ setup.ProvenAbsent name more)
      (fun _ => Since history fun more => NoRun more ∧ setup.Interrupted name more) history := by
  unfold Setup.cleanupIfPresent
  rw [meets_bind]
  refine meets_freeCommand (fun _ => trivial) hname.absence (fun answer _ hnot => ?_)
    fun result hwithin => ?_
  · refine ⟨_, rfl, noRun_absence answer, .inr (.inr ⟨answer, rfl, ?_⟩)⟩
    rintro ⟨result, hresult, hwithin, _⟩
    exact hnot ⟨result, hresult, hwithin⟩
  rw [meets_bind, liftM_eq_ofExcept, meets_ensure]
  constructor
  · intro hstate
    split_ifs with hpresent
    · refine (meets_removal hname).imp (fun _ after h => h.shift ?_) fun _ after h => h.shift ?_
      · rintro more ⟨hmore, habsent⟩
        exact ⟨(noRun_absence _).append hmore, Reports.append_right habsent _⟩
      · rintro more ⟨hmore, hremoved⟩
        exact ⟨(noRun_absence _).append hmore, .inr (.inl (issued_append.mpr (.inr hremoved)))⟩
    · -- the first answer shows already that the container is gone
      have habsent : setup.ProvenAbsent name [⟨.command (.absence name), .ok result⟩] :=
        provenAbsent_singleton hwithin
          ⟨hstate.2.2.resolve_left hpresent, hstate.1, hstate.2.1⟩
      refine (meets_assertAbsent hname).imp (fun _ after h => h.shift ?_)
        fun _ after h => h.shift ?_
      · rintro more ⟨hmore, _⟩
        exact ⟨(noRun_absence _).append hmore, habsent.append_left more⟩
      · intro more hmore
        exact ⟨(noRun_absence _).append hmore, .inl (habsent.append_left more)⟩
  · intro hstate
    refine ⟨_, rfl, noRun_absence _, .inr (.inr ⟨.ok result, rfl, ?_⟩)⟩
    rintro ⟨other, hother, _, hclear⟩
    cases hother
    exact hstate hclear

/-- A run, and what follows it. -/
def RunThen (role : Role) (name : String)
    (P : Answer (.command (.run role name)) → History → Prop) (more : History) : Prop :=
  ∃ answer rest, more = ⟨.command (.run role name), answer⟩ :: rest ∧ NoRun rest ∧ P answer rest

/-- The result of a run that was as expected. -/
def Expected (setup : Setup) (role : Role) (name : String)
    (answer : Answer (.command (.run role name))) : Prop :=
  ∃ result : ProcessResult, answer = .ok result ∧ result.Within setup.H (.run role name) ∧
    result.exitCode = role.contract.smokeExitCode ∧ validOutput role result = true

/-- The cleanup runs whatever the run has given. -/
theorem meets_concludeSmoke (hname : setup.Nameable name) (result : Except Raised ProcessResult) :
    (setup.concludeSmoke role name result).Meets setup.Allowed
      (fun _ after => Since history (fun more => NoRun more ∧ setup.ProvenAbsent name more) after ∧
        ∃ value, result = .ok value ∧ value.exitCode = role.contract.smokeExitCode ∧
          validOutput role value = true)
      (fun error => Since history fun more => NoRun more ∧ setup.Released error name more)
      history := by
  unfold Setup.concludeSmoke
  rw [meets_bind, meets_attempt]
  refine (meets_cleanupIfPresent hname).imp (fun _ after h => ?_) fun _ after h => ?_
  · -- the container is gone, whatever is raised from here on
    have hreleased : ∀ error, Since history
        (fun more => NoRun more ∧ setup.Released error name more) after := by
      obtain ⟨more, heq, hmore, habsent⟩ := h
      exact fun error => ⟨more, heq, hmore, .inl habsent⟩
    rw [meets_bind, liftM_eq_ofExcept, meets_ofExcept]
    refine ⟨fun value hvalue => ?_, fun error _ => hreleased error⟩
    rw [meets_bind, liftM_eq_ofExcept, meets_ensure]
    refine ⟨fun hexpected => ?_, fun _ => hreleased _⟩
    exact ⟨h, value, mapError_eq_ok_iff.mp hvalue, hexpected⟩
  · obtain ⟨more, heq, hmore, hinterrupted⟩ := h
    refine ⟨more, heq, hmore, ?_⟩
    rcases hinterrupted with habsent | hremoved | hunclear
    · exact .inl habsent
    · exact .inr (.inl hremoved)
    · exact .inr (.inr ⟨hunclear, rfl⟩)

theorem meets_smokeContainer (hname : setup.Nameable name)
    (hallowed : setup.Allowed history (.command (.run role name))) :
    (setup.smokeContainer role name).Meets setup.Allowed
      (fun _ => Since history (RunThen role name fun answer rest =>
        setup.Expected role name answer ∧ setup.ProvenAbsent name rest))
      (fun error => Since history fun more => NoRun more ∨
        RunThen role name (fun _ rest => setup.Released error name rest) more) history := by
  unfold Setup.smokeContainer
  rw [meets_bind, meets_attempt]
  refine meets_command hallowed (fun _ message => ?_) (fun answer message hnot => ?_)
    fun result _ hwithin => ?_
  · -- the command line is refused, and nothing is run
    refine (meets_concludeSmoke hname _).imp (fun _ after h => ?_) fun error after h => ?_
    · obtain ⟨value, hvalue, _⟩ := h.2
      cases hvalue
    · obtain ⟨more, heq, hmore, _⟩ := h
      exact ⟨more, heq, .inl hmore⟩
  · refine (meets_concludeSmoke hname _).imp (fun _ after h => ?_) fun error after h => ?_
    · obtain ⟨value, hvalue, _⟩ := h.2
      cases hvalue
    · refine h.shift fun more hmore => .inr ⟨answer, more, rfl, hmore⟩
  · refine (meets_concludeSmoke hname _).imp (fun _ after h => ?_) fun error after h => ?_
    · obtain ⟨value, hvalue, hexpected⟩ := h.2
      cases hvalue
      exact h.1.shift fun more hmore =>
        ⟨.ok result, more, rfl, hmore.1, ⟨result, rfl, hwithin, hexpected⟩, hmore.2⟩
    · exact h.shift fun more hmore => .inr ⟨.ok result, more, rfl, hmore⟩

/-- What a smoke test leaves: at most one run, which is settled in the one way or the other. -/
def Tested (setup : Setup) (error : Raised) (role : Role) (more : History) : Prop :=
  NoRun more ∨ ∃ before name after, more = before ++ after ∧ NoRun before ∧
    RunThen role name (fun _ rest => setup.Released error name rest) after

/-- The image has passed its smoke test, which is the end of the exchanges. -/
def TestPassed (setup : Setup) (role : Role) (more : History) : Prop :=
  ∃ before name after, more = before ++ after ∧ NoRun before ∧
    RunThen role name (fun answer rest =>
      setup.Expected role name answer ∧ setup.ProvenAbsent name rest) after

/-- An image whose inspection was accepted is run under a name that is free. -/
theorem meets_smokeImage {before : History} {inspection : ProcessResult}
    (hhistory : history = before ++ [⟨.command (.inspect role), .ok inspection⟩])
    (hinspection : inspection.exitCode = 0 ∧ inspection.stderr = [] ∧
      ∃ digests, setup.inspectImage role inspection.stdout = .ok digests)
    (hvalid : validArgv (setup.argv (.inspect role)) = true)
    (hfirst : ∀ name, ¬ Issued (.run role name) history) :
    (setup.smokeImage role).Meets setup.Allowed (fun _ => Since history (setup.TestPassed role))
      (fun error => Since history (setup.Tested error role)) history := by
  have htoken : ∀ answer, NoRun [(⟨.token role, answer⟩ : Exchange Query Answer)] := fun answer =>
    noRun_singleton fun _ _ h => by cases h
  unfold Setup.smokeImage
  rw [meets_bind, meets_query]
  refine ⟨trivial, fun answer => ?_⟩
  cases answer with
  | error error => exact ⟨_, rfl, .inl (htoken _)⟩
  | ok token =>
      dsimp only
      rw [meets_bind, liftM_eq_ofExcept, meets_ensure]
      refine ⟨fun hmatches => ?_, fun _ => ⟨_, rfl, .inl (htoken _)⟩⟩
      have hname : setup.Nameable (containerName role token) :=
        ⟨(validArgument_executable hvalid).1, (validArgument_executable hvalid).2,
          validArgument_of_matchesContainer hmatches⟩
      rw [meets_bind]
      refine (meets_assertAbsent hname).imp (fun _ after h => ?_) fun error after h => ?_
      · obtain ⟨more, rfl, hmore, absence, rfl, _, hshows⟩ := h
        have hallowed : setup.Allowed (history ++ [⟨.token role, .ok token⟩] ++
            [⟨.command (.absence (containerName role token)), .ok absence⟩])
            (.command (.run role (containerName role token))) := by
          refine ⟨⟨before, inspection, token, absence, ?_, hinspection, ⟨rfl, hmatches⟩, hshows⟩,
            fun name hissued => ?_⟩
          · rw [hhistory]
            simp
          · rcases issued_append.mp hissued with hissued | hissued
            · rcases issued_append.mp hissued with hissued | hissued
              · exact hfirst name hissued
              · exact htoken _ role name hissued
            · exact hmore role name hissued
        refine (meets_smokeContainer hname hallowed).imp (fun _ after h => ?_)
          fun error after h => ?_
        · rw [List.append_assoc] at h
          exact h.shift fun more hrun => ⟨_, _, more, rfl, (htoken _).append hmore, hrun⟩
        · rw [List.append_assoc] at h
          refine h.shift fun more hrun => ?_
          rcases hrun with hrun | hrun
          · exact .inl (((htoken _).append hmore).append hrun)
          · exact .inr ⟨_, _, more, rfl, (htoken _).append hmore, hrun⟩
      · exact h.shift fun more hmore => .inl ((htoken _).append hmore)

end SmokeTests

/-! ## The whole check -/

section Check

variable {setup} {history : History}

theorem Passed.append {role : Role} (h : setup.Passed role history) (more : History) :
    setup.Passed role (history ++ more) := by
  obtain ⟨before, name, result, rest, rfl, hwithin, hexpected, habsent⟩ := h
  exact ⟨before, name, result, rest ++ more, by simp, hwithin, hexpected, habsent.append_left more⟩

theorem TestPassed.passed {role : Role} {more : History} (h : setup.TestPassed role more)
    (history : History) : setup.Passed role (history ++ more) := by
  obtain ⟨before, name, after, rfl, -, answer, rest, rfl, -, hexpected, habsent⟩ := h
  obtain ⟨result, rfl, hwithin, hresult⟩ := hexpected
  exact ⟨history ++ before, name, result, rest, by simp, hwithin, hresult, habsent⟩

/-- What is known between two images: those before have passed, no other one was run, and every
container is gone. -/
structure Known (setup : Setup) (done : List Role) (history : History) : Prop where
  passed : ∀ role ∈ done, setup.Passed role history
  run : ∀ role name, Issued (.run role name) history → role ∈ done
  gone : EachRun setup.ProvenAbsent history

theorem known_nil : setup.Known [] [] :=
  ⟨fun _ h => absurd h List.not_mem_nil, fun _ _ h => absurd h (not_issued_nil _), trivial⟩

theorem eachRun_runThen {role : Role} {name : String} {after : String → History → Prop}
    {P : Answer (.command (.run role name)) → History → Prop} {more : History}
    (h : RunThen role name P more) (hP : ∀ answer rest, P answer rest → after name rest) :
    EachRun after more := by
  obtain ⟨answer, rest, rfl, hrest, hafter⟩ := h
  refine ⟨fun role' name' heq => ?_, eachRun_of_noRun hrest⟩
  cases heq
  exact hP answer rest hafter

theorem issued_runThen {role other : Role} {name name' : String}
    {P : Answer (.command (.run role name)) → History → Prop} {more : History}
    (h : RunThen role name P more) (hissued : Issued (.run other name') more) : other = role := by
  obtain ⟨answer, rest, rfl, hrest, -⟩ := h
  rcases issued_cons.mp hissued with heq | hissued
  · cases heq
    rfl
  · exact absurd hissued (hrest other name')

/-- A check that stops keeps what is known of the runs before. -/
theorem Known.eachRun {done : List Role} (h : setup.Known done history) {error : Raised}
    {more : History} (hmore : EachRun (setup.Released error) more) :
    EachRun (setup.Released error) (history ++ more) :=
  h.gone.append hmore fun _ _ habsent => .inl (habsent.append_left more)

theorem Known.released {done : List Role} (h : setup.Known done history) {error : Raised} :
    EachRun (setup.Released error) history := by
  have hnone : EachRun (setup.Released error) (history ++ []) := h.eachRun trivial
  rwa [List.append_nil] at hnone

theorem Tested.eachRun {error : Raised} {role : Role} {more : History}
    (h : setup.Tested error role more) : EachRun (setup.Released error) more := by
  rcases h with h | ⟨before, name, after, rfl, hbefore, hrun⟩
  · exact eachRun_of_noRun h
  · refine (@eachRun_of_noRun (fun _ _ => False) _ hbefore).append
      (eachRun_runThen hrun fun _ _ h => h) fun _ _ h => h.elim

theorem Known.concat {done : List Role} (h : setup.Known done history) {role : Role}
    {more : History} (hmore : setup.TestPassed role more) :
    setup.Known (done ++ [role]) (history ++ more) := by
  refine ⟨fun other hother => ?_, fun other name hissued => ?_, ?_⟩
  · rcases List.mem_append.mp hother with hother | hother
    · exact (h.passed other hother).append more
    · rw [List.mem_singleton.mp hother]
      exact hmore.passed history
  · obtain ⟨before, name', after, rfl, hbefore, hrun⟩ := hmore
    rcases issued_append.mp hissued with hissued | hissued
    · exact List.mem_append_left _ (h.run other name hissued)
    · rcases issued_append.mp hissued with hissued | hissued
      · exact absurd hissued (hbefore other name)
      · rw [issued_runThen hrun hissued]
        exact List.mem_append_right _ (List.mem_singleton.mpr rfl)
  · obtain ⟨before, name, after, rfl, hbefore, hrun⟩ := hmore
    have htail : EachRun setup.ProvenAbsent (before ++ after) :=
      (@eachRun_of_noRun (fun _ _ => False) _ hbefore).append
        (eachRun_runThen hrun fun _ _ h => h.2) fun _ _ h => h.elim
    exact h.gone.append htail fun _ _ habsent => habsent.append_left _

/-- One image. -/
theorem meets_checkRole {done : List Role} {role : Role} (hknown : setup.Known done history)
    (hearlier : Role.earlier role = done) (hnew : role ∉ done) :
    (setup.checkRole role).Meets setup.Allowed (fun _ => setup.Known (done ++ [role]))
      (fun error => EachRun (setup.Released error)) history := by
  have hinspect : ∀ answer, NoRun [(⟨.command (.inspect role), answer⟩ :
      Exchange Query Answer)] := fun answer => noRun_singleton fun _ _ h => by cases h
  have hstop : ∀ answer error, EachRun (setup.Released error)
      (history ++ [⟨.command (.inspect role), answer⟩]) := fun answer error =>
    hknown.eachRun (eachRun_of_noRun (hinspect answer))
  have hkept : ∀ answer, setup.Known done
      (history ++ [⟨.command (.inspect role), answer⟩]) := by
    intro answer
    refine ⟨fun other hother => (hknown.passed other hother).append _, fun other name hissued => ?_,
      hknown.gone.append (eachRun_of_noRun (hinspect answer)) fun _ _ h => h.append_left _⟩
    rcases issued_append.mp hissued with hissued | hissued
    · exact hknown.run other name hissued
    · exact absurd hissued (hinspect answer other name)
  unfold Setup.checkRole
  rw [meets_bind]
  refine meets_command (by rw [Allowed, hearlier]; exact hknown.passed) (fun _ _ => ?_)
    (fun answer _ _ => hstop answer _) fun inspection hvalid _ => ?_
  · exact hknown.released
  simp only [liftM_eq_ofExcept]
  rw [meets_bind, meets_ensure]
  refine ⟨fun hexit => ?_, fun _ => hstop _ _⟩
  rw [meets_bind, meets_ofExcept]
  refine ⟨fun digests hdigests => ?_, fun error _ => hstop _ error⟩
  rw [meets_bind]
  refine (meets_smokeImage rfl ⟨hexit.1, hexit.2, digests, hdigests⟩ hvalid ?_).imp
    (fun smoke after h => ?_) fun error after h => ?_
  · intro name hissued
    exact hnew ((hkept _).run role name hissued)
  · obtain ⟨more, rfl, hmore⟩ := h
    exact (hkept _).concat hmore
  · obtain ⟨more, rfl, hmore⟩ := h
    exact (hkept _).eachRun hmore.eachRun

theorem earlier_of_append {done roles : List Role} {role : Role}
    (h : done ++ role :: roles = Role.all) : Role.earlier role = done ∧ role ∉ done := by
  have hnodup : (done ++ role :: roles).Nodup := by
    rw [h]
    decide
  have hnew : role ∉ done := fun hmem =>
    (List.nodup_append.mp hnodup).2.2 role hmem role List.mem_cons_self rfl
  refine ⟨?_, hnew⟩
  rw [Role.earlier, ← h, List.takeWhile_append_of_pos, List.takeWhile_cons, if_neg (by simp),
    List.append_nil]
  intro other hother
  exact decide_eq_true (ne_of_mem_of_not_mem hother hnew)

/-- The images one after the other. -/
theorem meets_checkRoles {roles : List Role} :
    ∀ {done : List Role} {history : History}, setup.Known done history →
      done ++ roles = Role.all →
      (setup.checkRoles roles).Meets setup.Allowed (fun _ => setup.Known Role.all)
        (fun error => EachRun (setup.Released error)) history := by
  induction roles with
  | nil =>
      intro done history hknown hall
      rw [List.append_nil] at hall
      subst hall
      exact hknown
  | cons role roles ih =>
      intro done history hknown hall
      obtain ⟨hearlier, hnew⟩ := earlier_of_append hall
      rw [checkRoles, meets_bind]
      refine (meets_checkRole hknown hearlier hnew).imp (fun entry after h => ?_) fun _ _ h => h
      rw [meets_bind]
      refine (ih h (by rw [List.append_assoc]; exact hall)).imp (fun entries after h => ?_)
        fun _ _ h => h
      exact h

end Check

/-- What becomes of the containers of a check: it inspects and runs only when it may, a run is
followed by the proof that its container is gone or by its removal, and a check that returns has
passed all images. -/
structure Contained (outcome : Except Raised Bytes × History) : Prop where
  allowed : Respects setup.Allowed outcome.2
  passed : ∀ raw, outcome.1 = .ok raw →
    (∀ role, setup.Passed role outcome.2) ∧ EachRun setup.ProvenAbsent outcome.2
  released : ∀ error, outcome.1 = .error error → EachRun (setup.Released error) outcome.2

/-- Whatever the runner answers, no container is left behind unless the question for it gets no
clear answer. -/
theorem runDeploymentCheck_contained (runner : Runner) :
    setup.Contained (setup.runDeploymentCheck.run runner []) := by
  have hmeets : setup.runDeploymentCheck.Meets setup.Allowed (fun _ => setup.Known Role.all)
      (fun error => EachRun (setup.Released error)) [] := by
    unfold runDeploymentCheck
    rw [meets_bind, liftM_eq_ofExcept, meets_ofExcept]
    refine ⟨fun backendEvidence _ => ?_, fun _ _ => trivial⟩
    rw [meets_bind]
    refine (meets_checkRoles known_nil rfl).imp (fun images after h => ?_) fun _ _ h => h
    rw [meets_bind, liftM_eq_ofExcept, meets_ofExcept]
    refine ⟨fun digest _ => ?_, fun error _ => h.released⟩
    rw [liftM_eq_ofExcept, meets_ofExcept]
    exact ⟨fun _ _ => h, fun error _ => h.released⟩
  have houtcome := hmeets.outcome runner
  constructor
  · exact hmeets.respects respects_nil
  · intro raw hraw
    have hknown := houtcome.1 raw hraw
    exact ⟨fun role => hknown.passed role role.mem_all, hknown.gone⟩
  · exact houtcome.2

end Setup

end AmazonSimilarSearch.Deployment
