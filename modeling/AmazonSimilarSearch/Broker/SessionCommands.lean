import AmazonSimilarSearch.Broker.Execution

/-!
# The commands of a session, told apart

Every command names the verb of its step, and the names of the two networks start
differently: so the command line alone says which step of the session it is. The
names are plain text, so a command of the cleanup is valid whenever the path of
the runtime is.
-/
namespace AmazonSimilarSearch.Broker
open Foundation

/-! ## Names -/

def isPlainChar (c : Char) : Bool := c.isLower || c.isDigit || c == '-'

/-- Lower-case letters, digits and dashes. -/
def IsPlain (text : String) : Prop := ∀ c ∈ text.toList, isPlainChar c = true

theorem isPlain_of_all {text : String} (h : text.toList.all isPlainChar = true) : IsPlain text :=
  List.all_eq_true.mp h

theorem IsPlain.append {a b : String} (ha : IsPlain a) (hb : IsPlain b) : IsPlain (a ++ b) := by
  intro c hc
  rw [String.toList_append] at hc
  exact (List.mem_append.mp hc).elim (ha c) (hb c)

theorem isPlainChar_of_isLowerHexChar {c : Char} (h : isLowerHexChar c = true) :
    isPlainChar c = true := by
  simp only [isLowerHexChar, Bool.or_eq_true, Bool.and_eq_true, decide_eq_true_eq] at h
  have hlower : c.isLower = (decide (c.val ≥ 'a'.val) && decide (c.val ≤ 'z'.val)) := rfl
  simp only [isPlainChar, hlower, Char.isDigit, Bool.or_eq_true, Bool.and_eq_true,
    decide_eq_true_eq]
  rcases h with ⟨h₁, h₂⟩ | ⟨h₁, h₂⟩
  · exact .inl (.inr ⟨h₁, h₂⟩)
  · exact .inl (.inl ⟨h₁, le_trans h₂ (by decide)⟩)

theorem isLowerHexChar_of_mem_shortDigest {digest : Sha256} {c : Char}
    (hc : c ∈ (shortDigest digest).toList) : isLowerHexChar c = true := by
  rw [shortDigest, String.toList_ofList] at hc
  exact digest.isLowerHexChar_of_mem (List.mem_of_mem_take hc)

theorem isPlain_shortDigest (digest : Sha256) : IsPlain (shortDigest digest) :=
  fun _ hc => isPlainChar_of_isLowerHexChar (isLowerHexChar_of_mem_shortDigest hc)

theorem isPlain_domainName {H : HashFunction} {stem : String} (domain : Bytes)
    (values : List String) (hstem : IsPlain stem) : IsPlain (domainName H stem domain values) :=
  hstem.append (isPlain_shortDigest _)

theorem isPlain_networkSuffix {network : String} (h : IsPlain network) :
    IsPlain (networkSuffix network) := by
  intro c hc
  rw [networkSuffix, String.toList_ofList, List.mem_reverse] at hc
  exact h c (List.mem_reverse.mp (List.takeWhile_subset _ (List.mem_of_mem_take hc)))

theorem length_append_of_le {stem : String} (rest : String) {n : ℕ}
    (h : n ≤ stem.toList.length) : n ≤ (stem ++ rest).toList.length := by
  rw [String.toList_append, List.length_append]
  omega

/-- A long text without dots and control characters is no forbidden argument. -/
theorem validArgument_of {text : String} (hlength : 15 ≤ text.toList.length)
    (hchars : ∀ c ∈ text.toList, c ≠ '\x00' ∧ c ≠ '\r' ∧ c ≠ '\n')
    (hsocket : '.' ∉ text.toList ∨ 'k' ∉ text.toList) : validArgument text = true := by
  have hfree : ∀ part : String, '.' ∈ part.toList → 'k' ∈ part.toList →
      contains part text = false := by
    intro part hdot hk
    refine decide_eq_false fun hinside => ?_
    exact hsocket.elim (fun h => h (hinside.subset hdot)) fun h => h (hinside.subset hk)
  have hforbidden : forbiddenArguments.contains text = false := by
    rw [List.contains_eq_mem, decide_eq_false_iff_not]
    intro hmem
    have hshort : ∀ argument ∈ forbiddenArguments, argument.toList.length < 15 := by decide
    exact absurd hlength (Nat.not_le.mpr (hshort text hmem))
  have hne : text ≠ "" := by
    rintro rfl
    exact absurd hlength (by decide)
  simp only [validArgument, Bool.and_eq_true, decide_eq_true_eq, Bool.not_eq_true', hforbidden,
    List.all_eq_true, hfree "docker.sock" (by decide) (by decide),
    hfree "podman.sock" (by decide) (by decide), and_true, and_assoc]
  exact ⟨hne, hchars⟩

theorem IsPlain.char {text : String} (h : IsPlain text) {c d : Char} (hc : c ∈ text.toList)
    (hd : isPlainChar d = false) : c ≠ d := by
  rintro rfl
  rw [h c hc] at hd
  cases hd

theorem IsPlain.validArgument {text : String} (h : IsPlain text)
    (hlength : 15 ≤ text.toList.length) : validArgument text = true :=
  validArgument_of hlength
    (fun _ hc => ⟨h.char hc (by decide), h.char hc (by decide), h.char hc (by decide)⟩)
    (.inl fun hdot => h.char hdot (by decide) rfl)

/-- The same in the filter of an absence command. -/
theorem IsPlain.validFilter {text : String} (h : IsPlain text)
    (hlength : 15 ≤ text.toList.length) :
    Broker.validArgument ("name=^" ++ text ++ "$") = true := by
  have hchars : ∀ c ∈ ("name=^" ++ text ++ "$").toList,
      c ∈ "name=^".toList ∨ c ∈ text.toList ∨ c ∈ "$".toList := by
    intro c hc
    simpa [or_assoc] using hc
  have hne : ∀ d, isPlainChar d = false → d ∉ "name=^".toList → d ∉ "$".toList →
      ∀ c ∈ ("name=^" ++ text ++ "$").toList, c ≠ d := by
    rintro d hd hhead hlast c hc rfl
    exact (hchars c hc).elim hhead fun hc => hc.elim (fun hc => h.char hc hd rfl) hlast
  refine validArgument_of (by simp only [String.toList_append, List.length_append]; omega) ?_ ?_
  · exact fun c hc => ⟨hne _ (by decide) (by decide) (by decide) c hc,
      hne _ (by decide) (by decide) (by decide) c hc, hne _ (by decide) (by decide) (by decide) c hc⟩
  · exact .inl fun hdot => hne '.' (by decide) (by decide) (by decide) _ hdot rfl

namespace Session

variable (session : Session)

theorem isPlain_internalNetwork : IsPlain session.internalNetwork :=
  isPlain_domainName _ _ (isPlain_of_all (by decide))

theorem isPlain_externalNetwork : IsPlain session.externalNetwork :=
  isPlain_domainName _ _ (isPlain_of_all (by decide))

theorem isPlain_containerName : IsPlain session.containerName :=
  isPlain_domainName _ _ (isPlain_of_all (by decide))

theorem isPlain_gatewayName : IsPlain session.gatewayName :=
  IsPlain.append (isPlain_of_all (by decide)) (isPlain_networkSuffix session.isPlain_internalNetwork)

theorem isPlain_name (target : Target) : IsPlain (session.name target) := by
  cases target with
  | gateway => exact session.isPlain_gatewayName
  | internal => exact session.isPlain_internalNetwork
  | external => exact session.isPlain_externalNetwork

theorem length_name (target : Target) : 15 ≤ (session.name target).toList.length := by
  cases target with
  | gateway => exact length_append_of_le _ (by decide)
  | internal => exact length_append_of_le _ (by decide)
  | external => exact length_append_of_le _ (by decide)

theorem length_containerName : 15 ≤ session.containerName.toList.length :=
  length_append_of_le _ (by decide)

/-- The two networks have different names. -/
theorem networks_ne : session.internalNetwork ≠ session.externalNetwork := by
  intro h
  have htake : session.internalNetwork.toList.take 11 = session.externalNetwork.toList.take 11 := by
    rw [h]
  simp only [internalNetwork, externalNetwork, domainName, String.toList_append] at htake
  rw [List.take_append_of_le_length (by decide), List.take_append_of_le_length (by decide)] at htake
  exact absurd htake (by decide)

end Session

/-! ## Verbs -/

/-- The two words after the path of the runtime. -/
def Act.verbs : Act → List String
  | .absence target => [target.noun, "ls"]
  | .create .gateway => ["run", "--detach"]
  | .create _ => ["network", "create"]
  | .connect => ["network", "connect"]
  | .inspect target => [target.noun, "inspect"]
  | .remove target => [target.noun, "rm"]
  | .broker => ["run", "--pull=never"]
  | .removeBroker => ["rm", "-f"]
  | .probe => ["info", "--format"]

def Act.all : List Act :=
  Target.all.map .absence ++ Target.all.map .create ++ Target.all.map .inspect ++
    Target.all.map .remove ++ [.connect, .broker, .removeBroker, .probe]

theorem Act.mem_all (act : Act) : act ∈ Act.all := by
  cases act with
  | absence target => cases target <;> decide
  | create target => cases target <;> decide
  | inspect target => cases target <;> decide
  | remove target => cases target <;> decide
  | connect => decide
  | broker => decide
  | removeBroker => decide
  | probe => decide

/-- The steps that differ only in the network. -/
def Act.onNetworks : List (Act × Act) :=
  [(.absence .internal, .absence .external), (.create .internal, .create .external),
    (.inspect .internal, .inspect .external), (.remove .internal, .remove .external)]

/-- The verbs tell two steps apart, unless they differ only in the network. -/
theorem Act.eq_of_verbs {a b : Act} (h : a.verbs = b.verbs) :
    a = b ∨ (a, b) ∈ Act.onNetworks ∨ (b, a) ∈ Act.onNetworks := by
  have hall : ∀ a ∈ Act.all, ∀ b ∈ Act.all, a.verbs = b.verbs →
      a = b ∨ (a, b) ∈ Act.onNetworks ∨ (b, a) ∈ Act.onNetworks := by
    decide
  exact hall a a.mem_all b b.mem_all h

namespace Session

variable (session : Session)

theorem take_argv (act : Act) : (session.argv act).take 3 = session.call.runtimeText :: act.verbs := by
  cases act with
  | absence target => cases target <;> rfl
  | create target => cases target <;> rfl
  | inspect target => rfl
  | remove target => cases target <;> rfl
  | connect => rfl
  | broker => rfl
  | removeBroker => rfl
  | probe =>
      simp only [argv, probeArgv]
      split_ifs <;> rfl

/-- A step on the internal network has another command line than on the external one. -/
theorem argv_ne_of_networks {a b : Act} (h : (a, b) ∈ Act.onNetworks) :
    session.argv a ≠ session.argv b := by
  intro heq
  have hnames := session.networks_ne
  simp only [Act.onNetworks, List.mem_cons, Prod.mk.injEq, List.not_mem_nil, or_false] at h
  rcases h with ⟨rfl, rfl⟩ | ⟨rfl, rfl⟩ | ⟨rfl, rfl⟩ | ⟨rfl, rfl⟩
  · simp only [argv, absenceArgv, absenceOfNetwork, List.cons.injEq, true_and, and_true] at heq
    have hlist := congrArg String.toList heq
    simp only [String.toList_append, List.append_cancel_right_eq, List.append_cancel_left_eq]
      at hlist
    exact hnames (String.toList_injective hlist)
  · have hlength := congrArg List.length heq
    simp [argv, createArgv, networkCreate, labelArguments] at hlength
  · simp only [argv, inspectArgv, List.cons.injEq] at heq
    exact hnames heq.2.2.2.2.1
  · simp only [argv, removeArgv, Target.isContainer, Bool.false_eq_true, if_false,
      List.cons.injEq] at heq
    exact hnames heq.2.2.2.2.1

theorem argv_injective : Function.Injective session.argv := by
  intro a b h
  have hverbs : a.verbs = b.verbs := by
    have htake := session.take_argv a
    rw [h, session.take_argv b] at htake
    exact (List.cons.inj htake).2.symm
  rcases Act.eq_of_verbs hverbs with heq | hab | hba
  · exact heq
  · exact absurd h (session.argv_ne_of_networks hab)
  · exact absurd h.symm (session.argv_ne_of_networks hba)

@[simp] theorem command_argv (act : Act) : (session.command act).argv = session.argv act := by
  cases act <;> rfl

theorem command_injective : Function.Injective session.command := by
  intro a b h
  apply session.argv_injective
  rw [← session.command_argv a, h, session.command_argv b]

@[simp] theorem command_eq_iff {a b : Act} : session.command a = session.command b ↔ a = b :=
  session.command_injective.eq_iff

/-! ## Valid command lines -/

/-- The path of the runtime can stand at the head of a command. -/
structure RuntimeValid : Prop where
  absolute : session.call.runtimeText.toList.head? = some '/'
  argument : validArgument session.call.runtimeText = true

theorem runtimeValid_of_argv {act : Act} (h : validArgv (session.argv act) = true) :
    session.RuntimeValid := by
  obtain ⟨rest, hrest⟩ : ∃ rest, session.argv act = session.call.runtimeText :: rest := by
    have htake := session.take_argv act
    cases hargv : session.argv act with
    | nil => simp [hargv] at htake
    | cons head rest =>
        rw [hargv, List.take_succ_cons] at htake
        exact ⟨rest, by rw [(List.cons.inj htake).1]⟩
  rw [hrest] at h
  simp only [validArgv, Bool.and_eq_true, decide_eq_true_eq, List.all_cons] at h
  exact ⟨h.1, h.2.1⟩

theorem RuntimeValid.argv {rest : List String} (h : session.RuntimeValid)
    (hrest : ∀ argument ∈ rest, validArgument argument = true) :
    validArgv (session.call.runtimeText :: rest) = true := by
  simp only [validArgv, Bool.and_eq_true, decide_eq_true_eq, List.all_cons, List.all_eq_true]
  exact ⟨h.absolute, h.argument, hrest⟩

/-- The words of the commands that only name what they are about. -/
def cleanupWords : List String :=
  ["container", "network", "inspect", "ls", "--all", "--filter", "rm", "-f", "--",
    "--format=\x7b\x7b.Names\x7d\x7d", "--format=\x7b\x7b.Name\x7d\x7d"]

theorem validArgument_word {word : String} (h : word ∈ cleanupWords) :
    validArgument word = true := by
  have hall : ∀ word ∈ cleanupWords, validArgument word = true := by
    decide
  exact hall word h

theorem validArgument_name (target : Target) : validArgument (session.name target) = true :=
  (session.isPlain_name target).validArgument (session.length_name target)

/-- A command of such words, and of one more argument, is valid when the runtime is. -/
theorem RuntimeValid.words {rest : List String} {name : String} (h : session.RuntimeValid)
    (hname : validArgument name = true)
    (hrest : ∀ argument ∈ rest, argument ∈ cleanupWords ∨ argument = name) :
    validArgv (session.call.runtimeText :: rest) = true := by
  refine h.argv session fun argument hargument => ?_
  rcases hrest argument hargument with hword | rfl
  · exact validArgument_word hword
  · exact hname

theorem RuntimeValid.inspect (h : session.RuntimeValid) (target : Target) :
    validArgv (session.argv (.inspect target)) = true := by
  refine h.words session (session.validArgument_name target) ?_
  cases target <;> simp [cleanupWords, Target.noun]

theorem RuntimeValid.absence (h : session.RuntimeValid) (target : Target) :
    validArgv (session.argv (.absence target)) = true := by
  have hfilter := (session.isPlain_name target).validFilter (session.length_name target)
  cases target with
  | gateway => exact h.words session hfilter (by simp [cleanupWords, name])
  | internal => exact h.words session hfilter (by simp [cleanupWords, name])
  | external => exact h.words session hfilter (by simp [cleanupWords, name])

theorem RuntimeValid.removeBroker (h : session.RuntimeValid) :
    validArgv (session.argv .removeBroker) = true := by
  have hname : validArgument session.containerName = true :=
    session.isPlain_containerName.validArgument session.length_containerName
  exact h.words session hname (by simp [cleanupWords])

end Session
end AmazonSimilarSearch.Broker
