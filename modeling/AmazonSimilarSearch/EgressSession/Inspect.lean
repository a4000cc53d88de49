import AmazonSimilarSearch.EgressSession.Commands

/-!
# Inspecting the resources of a session

The checks of `broker_egress_provisioner.py` on the output of `inspect`. Where a
value has another type than a check expects, Python's own exception leaves it; so
does every exception of `json.loads` but those of malformed text.
-/
namespace AmazonSimilarSearch.EgressSession
open Foundation
open Broker (Labels Target getEither withoutSlashes asBool gatewayAlias gatewayEntrypoint
  forbiddenGatewayEnv)

/-- `json.loads` with the hook that refuses repeated keys; the errors that `_parse_one_inspect`
expects are `BrokerEgressProvisioningError`. -/
abbrev InspectReader := Bytes → Except Raised Json

def invalidInspect : Raised := .provisioning "broker egress inspect validation failed"

/-! ## Reading fields -/

/-- The only element of the list, when it is a dict. -/
def onlyObject : Json → Except Raised Fields
  | .arr [.obj fields] => .ok fields
  | _ => .error invalidInspect

/-- `_dict_field` -/
def dictField (value : Fields) : List String → Except Raised Fields
  | [] => .error invalidInspect
  | name :: names => match value.lookup name with
      | some (.obj fields) => .ok fields
      | _ => dictField value names

/-- `_value_field` -/
def valueField (value : Fields) : List String → Except Raised Json
  | [] => .error invalidInspect
  | name :: names => match value.lookup name with
      | some item => .ok item
      | none => valueField value names

/-- `value.lstrip("/")`, which only a text has. -/
def strippedText : Json → Except Raised String
  | .str text => .ok (withoutSlashes text)
  | _ => .error .exception

/-- `item.casefold()`, which only a text has. -/
def casefolded : Json → Except Raised String
  | .str text => .ok (casefold text)
  | _ => .error .exception

def asItems : Json → Option (List Json)
  | .arr items => some items
  | _ => none

section Checks

variable (loads : InspectReader)

/-- `_parse_one_inspect`: the only dict of the list, and the canonical form of the list. -/
def parseOneInspect (raw : Bytes) : Except Raised (Fields × Bytes) := do
  ensure (2 ≤ raw.length ∧ raw.length ≤ maxRuntimeInspectBytes) invalidInspect
  let value ← loads raw
  let fields ← onlyObject value
  let canonical ← canonicalJson value
  pure (fields, canonical)

/-! ## Networks -/

/-- One entry of `Containers`, added to the names before it. -/
def addMember (names : List String) : Json → Except Raised (List String)
  | .obj item => match getEither item "Name" "name" with
      | .str name =>
          if name = "" ∨ name ∈ names then .error invalidInspect
          else .ok (names ++ [withoutSlashes name])
      | _ => .error invalidInspect
  | _ => .error invalidInspect

/-- `_network_member_names` -/
def networkMemberNames (payload : Fields) : Except Raised (List String) := do
  let containers ← valueField payload ["Containers", "containers"]
  match containers with
  | .obj items => (items.map Prod.snd).foldlM addMember []
  | _ => .error invalidInspect

/-- `_validate_network_inspect` -/
def validateNetworkInspect (raw : Bytes) (expectedName : String) (expectedInternal : Bool)
    (expectedGatewayName : String) (expected : Labels) : Except Raised Bytes := do
  let (payload, canonical) ← parseOneInspect loads raw
  let name ← valueField payload ["Name", "name"]
  let reach ← valueField payload ["Internal", "internal"]
  let labels ← dictField payload ["Labels", "labels"]
  ensure (name.pyEq (.str expectedName) = true ∧ asBool reach = some expectedInternal ∧
    expected.shownBy labels = true) invalidInspect
  let members ← networkMemberNames payload
  ensure (members ≠ [] ∧ ∀ member ∈ members, member = expectedGatewayName) invalidInspect
  pure canonical

/-! ## The gateway -/

/-- The fields of a container that `_validate_gateway_inspect` reads first. -/
structure GatewayFields where
  name : Json
  mounts : Json
  entrypoint : Json
  image : Json
  user : Json
  running : Bool
  env : List Json
  environmentNames : List String
  labels : Fields
  binds : Json
  capDrop : List Json
  securityOpt : List Json
  readOnly : Json
  privileged : Json
  networks : Fields
  aliases : Json

/-- The part of `_validate_gateway_inspect` that reads the fields. -/
def readGateway (payload : Fields) (internalNetwork : String) : Except Raised GatewayFields := do
  let config ← dictField payload ["Config", "config"]
  let hostConfig ← dictField payload ["HostConfig", "hostConfig"]
  let state ← dictField payload ["State", "state"]
  let settings ← dictField payload ["NetworkSettings"]
  let networks ← dictField settings ["Networks", "networks"]
  let name ← valueField payload ["Name", "name"]
  let mounts ← valueField payload ["Mounts", "mounts"]
  let env ← valueField config ["Env", "env"]
  let labels ← dictField config ["Labels", "labels"]
  let entrypoint ← valueField config ["Entrypoint", "entrypoint"]
  let image ← valueField config ["Image", "image"]
  let user ← valueField config ["User", "user"]
  let running ← valueField state ["Running", "running"]
  let assignments ← required invalidInspect (asItems env)
  let environmentNames ← required invalidInspect (assignments.mapM Broker.environmentName)
  let capDrop ← required invalidInspect (asItems (getEither hostConfig "CapDrop" "capDrop"))
  let securityOpt ←
    required invalidInspect (asItems (getEither hostConfig "SecurityOpt" "securityOpt"))
  let isRunning ← required invalidInspect (asBool running)
  let attachment ← dictField networks [internalNetwork]
  pure
    { name := name
      mounts := mounts
      entrypoint := entrypoint
      image := image
      user := user
      running := isRunning
      env := assignments
      environmentNames := environmentNames
      labels := labels
      binds := getEither hostConfig "Binds" "binds"
      capDrop := capDrop
      securityOpt := securityOpt
      readOnly := getEither hostConfig "ReadonlyRootfs" "readOnly"
      privileged := getEither hostConfig "Privileged" "privileged"
      networks := networks
      aliases := getEither attachment "Aliases" "aliases" }

/-- The long condition of `_validate_gateway_inspect`, whose operands are evaluated in order. -/
def checkGateway (fields : GatewayFields) (gatewayName gatewayImage internalNetwork
    externalNetwork : String) (expected : Labels) (requireRunning : Bool) : Except Raised Unit := do
  let shownName ← strippedText fields.name
  ensure (shownName = gatewayName ∧ fields.image.pyEq (.str gatewayImage) = true ∧
    fields.entrypoint.pyEq (.arr [.str gatewayEntrypoint]) = true ∧
    fields.user.pyEq (.str "65532:65532") = true ∧ fields.mounts.pyEq (.arr []) = true ∧
    (fields.binds.pyEq .null = true ∨ fields.binds.pyEq (.arr []) = true)) invalidInspect
  let dropped ← fields.capDrop.mapM casefolded
  ensure (dropped ≠ [] ∧ ∀ item ∈ dropped, item = "all") invalidInspect
  let options ← fields.securityOpt.mapM casefolded
  ensure ("no-new-privileges" ∈ options ∧ asBool fields.readOnly = some true ∧
    asBool fields.privileged = some false ∧
    (∀ key ∈ fields.networks.keys, key = internalNetwork ∨ key = externalNetwork) ∧
    internalNetwork ∈ fields.networks.keys ∧ externalNetwork ∈ fields.networks.keys ∧
    (asItems fields.aliases).any (fun items => items.any fun item =>
      item.pyEq (.str gatewayAlias)) = true ∧
    fields.env.any (fun item => item.pyEq (.str "AI_REVIEW_EGRESS_GATEWAY=1")) = true ∧
    (∀ name ∈ fields.environmentNames, name ∉ forbiddenGatewayEnv) ∧
    expected.shownBy fields.labels = true ∧ (requireRunning = true → fields.running = true))
    invalidInspect

/-- `_validate_gateway_inspect` -/
def validateGatewayInspect (raw : Bytes) (gatewayName gatewayImage internalNetwork
    externalNetwork : String) (expected : Labels) (requireRunning : Bool) :
    Except Raised Bytes := do
  let (payload, canonical) ← parseOneInspect loads raw
  let fields ← readGateway payload internalNetwork
  checkGateway fields gatewayName gatewayImage internalNetwork externalNetwork expected
    requireRunning
  pure canonical

/-! ## Ownership -/

/-- Where a container, and where a network, has its labels. -/
def labelsOf (payload : Fields) : Target → Except Raised Fields
  | .gateway => do
      let config ← dictField payload ["Config", "config"]
      dictField config ["Labels", "labels"]
  | _ => dictField payload ["Labels", "labels"]

/-- `_validate_owned_resource_inspect` -/
def validateOwnedResourceInspect (raw : Bytes) (target : Target) (expectedName : String)
    (expected : Labels) : Except Raised Unit := do
  let (payload, _) ← parseOneInspect loads raw
  let name ← valueField payload ["Name", "name"]
  let labels ← labelsOf payload target
  let text ← required invalidInspect (match name with
    | .str text => some text
    | _ => none)
  ensure (withoutSlashes text = expectedName ∧ expected.shownBy labels = true) invalidInspect

end Checks

/-! ## What ownership shows -/

/-- The inspected output shows one resource with the name and the labels. -/
def ShowsOwned (loads : InspectReader) (raw : Bytes) (target : Target) (name : String)
    (expected : Labels) : Prop :=
  ∃ payload canonical labels shown, parseOneInspect loads raw = .ok (payload, canonical) ∧
    labelsOf payload target = .ok labels ∧
    valueField payload ["Name", "name"] = .ok (.str shown) ∧ withoutSlashes shown = name ∧
    expected.on labels

/-- An owned resource is one whose inspection shows the name and the labels of the session. -/
theorem validateOwnedResourceInspect_eq_ok_iff {loads : InspectReader} {raw : Bytes}
    {target : Target} {name : String} {expected : Labels} :
    validateOwnedResourceInspect loads raw target name expected = .ok () ↔
      ShowsOwned loads raw target name expected := by
  simp only [validateOwnedResourceInspect, ShowsOwned, bind_eq_ok_iff, ensure_eq_ok_iff,
    required_eq_ok_iff, Labels.shownBy_iff]
  constructor
  · rintro ⟨⟨payload, canonical⟩, hpayload, value, hvalue, labels, hlabels, text, htext, hname⟩
    cases value with
    | str shown =>
        cases htext
        exact ⟨payload, canonical, labels, text, hpayload, hlabels, hvalue, hname⟩
    | _ => cases htext
  · rintro ⟨payload, canonical, labels, shown, hpayload, hlabels, hvalue, hname⟩
    exact ⟨(payload, canonical), hpayload, .str shown, hvalue, labels, hlabels, shown, rfl, hname⟩

/-- The errors of a check that its caller expects. -/
def Raised.IsProvisioning (error : Raised) : Prop := ∃ message, error = .provisioning message

theorem dictField_error {value : Fields} {names : List String} {error : Raised}
    (h : dictField value names = .error error) : error.IsProvisioning := by
  induction names with
  | nil =>
      cases h
      exact ⟨_, rfl⟩
  | cons name names ih =>
      rw [dictField] at h
      split at h
      · cases h
      · exact ih h

theorem valueField_error {value : Fields} {names : List String} {error : Raised}
    (h : valueField value names = .error error) : error.IsProvisioning := by
  induction names with
  | nil =>
      cases h
      exact ⟨_, rfl⟩
  | cons name names ih =>
      rw [valueField] at h
      split at h
      · cases h
      · exact ih h

theorem labelsOf_error {payload : Fields} {target : Target} {error : Raised}
    (h : labelsOf payload target = .error error) : error.IsProvisioning := by
  cases target with
  | gateway =>
      rcases bind_eq_error_iff.mp h with hconfig | ⟨_, _, hlabels⟩
      · exact dictField_error hconfig
      · exact dictField_error hlabels
  | internal => exact dictField_error h
  | external => exact dictField_error h

/-- Once the output has been read, the check of ownership raises nothing of Python's own. -/
theorem validateOwnedResourceInspect_error {loads : InspectReader} {raw : Bytes} {target : Target}
    {name : String} {expected : Labels} {error : Raised}
    (h : validateOwnedResourceInspect loads raw target name expected = .error error) :
    parseOneInspect loads raw = .error error ∨ error.IsProvisioning := by
  rcases bind_eq_error_iff.mp h with hparse | ⟨payload, _, h⟩
  · exact Or.inl hparse
  right
  rcases bind_eq_error_iff.mp h with hname | ⟨value, _, h⟩
  · exact valueField_error hname
  rcases bind_eq_error_iff.mp h with hlabels | ⟨labels, _, h⟩
  · exact labelsOf_error hlabels
  rcases bind_eq_error_iff.mp h with htext | ⟨text, _, hensure⟩
  · exact ⟨_, (required_eq_error_iff.mp htext).2.symm⟩
  · exact ⟨_, (ensure_eq_error_iff.mp hensure).2.symm⟩

end AmazonSimilarSearch.EgressSession
