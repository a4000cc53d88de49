import AmazonSimilarSearch.Broker.BindingAgreement
import AmazonSimilarSearch.Broker.LifecycleExact
import AmazonSimilarSearch.Foundation.JsonSize

/-!
# A lifecycle up to its last probe

A Podman that does what every command of the session asks, until the `info`
command of the last probe runs into its time limit. `process.wait` then raises
`subprocess.TimeoutExpired`, which nothing wraps.
-/
namespace AmazonSimilarSearch.Broker
open Foundation Interaction

/-- `json.loads` with the hook of `_parse_one_inspect`. -/
def inspectReader : InspectReader := fun raw => do
  let text ← required invalidInspect (decodeUtf8 raw)
  (Json.loads ⟨true, false⟩ text).mapError fun error => match error with
    | .duplicateKey => .outerBroker "outer broker inspect has duplicate keys"
    | .malformed => invalidInspect
    | _ => .exception

/-! ## The inspected resources -/

def Labels.toJson (labels : Labels) : Json :=
  .obj [("ai-review.kind", .str labels.kind), ("ai-review.owner-sha256", .str labels.owner.text),
    ("ai-review.session-sha256", .str labels.session.text)]

def networkFields (name gatewayName : String) (isInternal : Bool) (labels : Labels) : Fields :=
  [("Containers", .obj [("gateway", .obj [("Name", .str gatewayName)])]),
    ("Internal", .bool isInternal), ("Labels", labels.toJson), ("Name", .str name)]

def gatewayConfig (image : String) (labels : Labels) : Fields :=
  [("Entrypoint", .arr [.str gatewayEntrypoint]),
    ("Env", .arr [.str "AI_REVIEW_EGRESS_GATEWAY=1"]), ("Image", .str image),
    ("Labels", labels.toJson), ("User", .str "65532:65532")]

def gatewayHostConfig : Fields :=
  [("CapDrop", .arr [.str "ALL"]), ("Privileged", .bool false), ("ReadonlyRootfs", .bool true),
    ("SecurityOpt", .arr [.str "no-new-privileges"])]

def gatewayNetworks (internalNetwork externalNetwork : String) : Fields :=
  [(internalNetwork, .obj [("Aliases", .arr [.str gatewayAlias])]), (externalNetwork, .obj [])]

def gatewayFields (name image internalNetwork externalNetwork : String) (labels : Labels) : Fields :=
  [("Config", .obj (gatewayConfig image labels)), ("HostConfig", .obj gatewayHostConfig),
    ("Mounts", .arr []), ("Name", .str name),
    ("NetworkSettings", .obj [("Networks", .obj (gatewayNetworks internalNetwork externalNetwork))]),
    ("State", .obj [("Running", .bool true)])]

namespace Session

variable (session : Session)

/-- What `inspect` shows of a resource. -/
def shownFields : Target → Fields
  | .internal => networkFields session.internalNetwork session.gatewayName true
      (session.labels .internal)
  | .external => networkFields session.externalNetwork session.gatewayName false
      (session.labels .external)
  | .gateway => gatewayFields session.gatewayName session.call.batch.gatewayImage.text
      session.internalNetwork session.externalNetwork (session.labels .gateway)

def shown (target : Target) : Bytes :=
  (Json.compact? (.arr [.obj (session.shownFields target)])).getD []

end Session

/-! ## Their text -/

namespace Session

variable (session : Session)

def outputOf : Act → Bytes
  | .inspect target => session.shown target
  | _ => []

variable {session}

/-- What a run of the session needs beyond this host. -/
structure Runnable (session : Session) : Prop where
  argv : ∀ act, validArgv (session.argv act) = true
  image : session.call.batch.gatewayImage.text.toList.length ≤ 200
  stdin : session.call.run.stdin.length ≤ session.call.batch.maxStdinBytes
  credential : session.call.credential ≠ ""

/-- The record of a command that succeeded. -/
def done (session : Session) (act : Act) : CommandRecord :=
  ⟨session.argv act, ⟨0, session.outputOf act, [], 0⟩⟩

theorem Runnable.leaksCredential (h : session.Runnable) :
    session.leaksCredential (session.done .broker) = false := by
  refine decide_eq_false fun hinside => h.credential ?_
  have hnil : encodeUtf8 session.call.credential = [] := List.eq_nil_of_infix_nil hinside
  exact encodeUtf8_injective (hnil.trans (by decide : [] = encodeUtf8 ""))

end Session
/-! ## A run under Podman -/

/-- No control character, and not the given one. -/
def avoids (other c : Char) : Bool := c ≠ '\x00' && c ≠ '\r' && c ≠ '\n' && c ≠ other

theorem validArgument_of_avoids {text : String} {other : Char} (hother : other ∈ ['.', 'k'])
    (hlength : 15 ≤ text.toList.length) (h : ∀ c ∈ text.toList, avoids other c = true) :
    validArgument text = true := by
  simp only [avoids, Bool.and_eq_true, decide_eq_true_eq, and_assoc] at h
  refine validArgument_of hlength (fun c hc => ⟨(h c hc).1, (h c hc).2.1, (h c hc).2.2.1⟩) ?_
  have hfree : other ∉ text.toList := fun hmem => (h other hmem).2.2.2 rfl
  simp only [List.mem_cons, List.not_mem_nil, or_false] at hother
  rcases hother with rfl | rfl
  · exact .inl hfree
  · exact .inr hfree

theorem avoids_append {a b : String} {other : Char} (ha : a.toList.all (avoids other) = true)
    (hb : ∀ c ∈ b.toList, avoids other c = true) :
    ∀ c ∈ (a ++ b).toList, avoids other c = true := by
  intro c hc
  rw [String.toList_append, List.mem_append] at hc
  exact hc.elim (List.all_eq_true.mp ha c) (hb c)

theorem IsPlain.avoids {text : String} (h : IsPlain text) {other : Char}
    (hother : other ∉ text.toList) : ∀ c ∈ text.toList, Broker.avoids other c = true := by
  intro c hc
  simp only [Broker.avoids, Bool.and_eq_true, decide_eq_true_eq]
  exact ⟨⟨⟨h.char hc (by decide), h.char hc (by decide)⟩, h.char hc (by decide)⟩,
    fun heq => hother (heq ▸ hc)⟩

/-- A digest after the name of its label. -/
theorem validArgument_label {option : String} (digest : Sha256)
    (hoption : option.toList.all (avoids 'k') = true) :
    validArgument (option ++ digest.text) = true := by
  have htext : IsPlain digest.text :=
    fun _ hc => isPlainChar_of_isLowerHexChar (digest.isLowerHexChar_of_mem hc)
  have hhex : 'k' ∉ digest.text.toList :=
    fun hmem => absurd (digest.isLowerHexChar_of_mem hmem) (by decide)
  refine validArgument_of_avoids (by decide) ?_ (avoids_append hoption (htext.avoids hhex))
  rw [String.toList_append, List.length_append, digest.length_toList]
  omega

namespace Session

variable (random : Bytes)

end Session

end AmazonSimilarSearch.Broker
