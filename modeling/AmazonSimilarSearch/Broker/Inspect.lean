import AmazonSimilarSearch.Broker.RuntimeBinding

/-!
# Inspecting networks and containers

What the outer executor asks of the output of `inspect`: that a network joins the
gateway alone, that the gateway is confined, and, before anything is removed,
that the resource carries the labels of this session. A value of another type
than expected may also end a check with an exception of Python's own.
-/
namespace AmazonSimilarSearch.Broker
open Foundation

/-- What `json.loads` makes of the output of `inspect`, with a hook that refuses repeated keys. -/
abbrev InspectReader := Bytes → Except Raised Json

def invalidInspect : Raised := .outerBroker "outer broker inspect is invalid"
def invalidMembers : Raised := .outerBroker "outer broker network inspect is invalid"
def invalidNetwork : Raised := .outerBroker "outer broker network boundary is invalid"
def invalidGateway : Raised := .outerBroker "outer broker gateway boundary is invalid"
def invalidOwnership : Raised := .outerBroker "outer broker cleanup ownership is invalid"

/-- `text.lstrip("/")` -/
def withoutSlashes (text : String) : String := String.ofList (text.toList.dropWhile (· = '/'))

/-! ## Reading fields -/

/-- The only element of the list, when it is a dict. -/
def onlyObject : Json → Except Raised Fields
  | .arr [.obj fields] => .ok fields
  | _ => .error invalidInspect

/-- `_parse_one_inspect` -/
def parseOneInspect (loads : InspectReader) (raw : Bytes) : Except Raised Fields := do
  let value ← loads raw
  onlyObject value

/-- `_dict_field` -/
def dictField (value : Fields) : List String → Except Raised Fields
  | [] => .error invalidInspect
  | name :: names => match value.lookup name with
      | some (.obj fields) => .ok fields
      | _ => dictField value names

/-- `_value_field` -/
def valueField (value : Fields) : List String → Except Raised Json
  | [] => .error invalidInspect
  | name :: names => match value.lookup name with
      | some item => .ok item
      | none => valueField value names

/-- `value.get(name, value.get(other))` -/
def getEither (value : Fields) (name other : String) : Json :=
  ((value.lookup name).or (value.lookup other)).getD .null

/-- A text whose leading slashes are stripped; another type has no `lstrip`. -/
def strippedText : Json → Except Raised String
  | .str text => .ok (withoutSlashes text)
  | _ => .error .exception

/-- The elements of an iterable. -/
def iterated : Json → Except Raised (List Json)
  | .arr items => .ok items
  | .str text => .ok (text.toList.map fun c => .str (String.ofList [c]))
  | .obj fields => .ok ((Fields.keys fields).map .str)
  | _ => .error .exception

def casefolded : Json → Except Raised String
  | .str text => .ok (casefold text)
  | _ => .error .exception

/-- `{item.casefold() for item in value}` -/
def casefoldedItems (value : Json) : Except Raised (List String) := do
  let items ← iterated value
  items.mapM casefolded

/-- `text in value` -/
def textIn (text : String) : Json → Except Raised Bool
  | .arr items => .ok (items.any fun item => item.pyEq (.str text))
  | .str whole => .ok (contains text whole)
  | .obj fields => .ok ((Fields.keys fields).contains text)
  | _ => .error .exception

/-! ## Networks -/

/-- One entry of `Containers`, added to the names before it. -/
def addMember (names : List String) : Json → Except Raised (List String)
  | .obj item => match getEither item "Name" "name" with
      | .str name =>
          if name = "" ∨ withoutSlashes name ∈ names then .error invalidMembers
          else .ok (names ++ [withoutSlashes name])
      | _ => .error invalidMembers
  | _ => .error invalidMembers

/-- `_network_members` -/
def networkMembers (payload : Fields) : Except Raised (List String) := do
  let containers ← valueField payload ["Containers", "containers"]
  match containers with
  | .obj items => (items.map Prod.snd).foldlM addMember []
  | _ => .error invalidMembers

/-- The labels that a session puts on what it creates. -/
structure Labels where
  owner : Sha256
  session : Sha256
  kind : String

def Labels.on (labels : Labels) (fields : Fields) : Prop :=
  fields.lookup "ai-review.owner-sha256" = some (.str labels.owner.text) ∧
    fields.lookup "ai-review.session-sha256" = some (.str labels.session.text) ∧
      fields.lookup "ai-review.kind" = some (.str labels.kind)

/-- `labels.get(key) == text` -/
def hasText (fields : Fields) (key text : String) : Bool :=
  (fields.lookup key).any fun value => value.pyEq (.str text)

theorem hasText_iff {fields : Fields} {key text : String} :
    hasText fields key text = true ↔ fields.lookup key = some (.str text) := by
  unfold hasText
  cases fields.lookup key <;> simp

def Labels.shownBy (labels : Labels) (fields : Fields) : Bool :=
  hasText fields "ai-review.owner-sha256" labels.owner.text &&
    hasText fields "ai-review.session-sha256" labels.session.text &&
      hasText fields "ai-review.kind" labels.kind

theorem Labels.shownBy_iff {labels : Labels} {fields : Fields} :
    labels.shownBy fields = true ↔ labels.on fields := by
  simp only [Labels.shownBy, Bool.and_eq_true, hasText_iff, Labels.on, and_assoc]

section Checks

variable (loads : InspectReader)

/-- `_validate_network` -/
def validateNetwork (raw : Bytes) (name : String) (isInternal : Bool) (gatewayName : String)
    (expected : Labels) : Except Raised Bytes := do
  let payload ← parseOneInspect loads raw
  let labels ← dictField payload ["Labels", "labels"]
  let shown ← valueField payload ["Name", "name"]
  ensure (shown.pyEq (.str name) = true) invalidNetwork
  let reach ← valueField payload ["Internal", "internal"]
  ensure (asBool reach = some isInternal ∧ expected.shownBy labels = true) invalidNetwork
  let members ← networkMembers payload
  ensure (members = [gatewayName]) invalidNetwork
  canonical (.arr [.obj payload])

def gatewayEntrypoint : String := "/opt/ai-review/bin/egress-gateway"
def gatewayAlias : String := "ai-review-egress-gateway"

def forbiddenGatewayEnv : List String :=
  ["all_proxy", "aws_ca_bundle", "curl_ca_bundle", "http_proxy", "https_proxy", "ld_audit",
    "ld_library_path", "ld_preload", "netrc", "no_proxy", "openai_api_key", "openai_base_url",
    "pythonhome", "pythonpath", "requests_ca_bundle", "ssl_cert_dir", "ssl_cert_file"]

/-- `item.split("=", 1)[0].casefold()` of an item with an equals sign. -/
def environmentName : Json → Option String
  | .str text => if '=' ∈ text.toList then
      some (casefold (String.ofList (text.toList.takeWhile (· ≠ '=')))) else none
  | _ => none

/-- The names in `Env`; what is not a list of assignments counts as every forbidden name. -/
def environmentNames : Json → List String
  | .arr items => (items.mapM environmentName).getD forbiddenGatewayEnv
  | _ => forbiddenGatewayEnv

/-- `networks.get(network, {}).get("Aliases")` -/
def aliasesOn (networks : Fields) (network : String) : Except Raised Json :=
  match networks.lookup network with
  | none => .ok .null
  | some (.obj endpoint) => .ok (Fields.get endpoint "Aliases")
  | some _ => .error .exception

/-- The part of `_validate_gateway` that reads `HostConfig`. -/
def validateHostConfig (hostConfig : Fields) : Except Raised Unit := do
  let binds := getEither hostConfig "Binds" "binds"
  ensure (binds.pyEq .null = true ∨ binds.pyEq (.arr []) = true) invalidGateway
  let dropped ← casefoldedItems ((hostConfig.lookup "CapDrop").getD (.arr []))
  ensure (dropped ≠ [] ∧ ∀ item ∈ dropped, item = "all") invalidGateway
  let options ← casefoldedItems ((hostConfig.lookup "SecurityOpt").getD (.arr []))
  ensure ("no-new-privileges" ∈ options) invalidGateway
  ensure (asBool (hostConfig.get "ReadonlyRootfs") = some true ∧
    asBool (hostConfig.get "Privileged") = some false) invalidGateway

/-- The part of `_validate_gateway` that reads `Networks` and `Env`. -/
def validateAttachment (networks : Fields) (aliases env : Json)
    (internalNetwork externalNetwork : String) : Except Raised Unit := do
  ensure ((∀ key ∈ networks.keys, key = internalNetwork ∨ key = externalNetwork) ∧
    internalNetwork ∈ networks.keys ∧ externalNetwork ∈ networks.keys) invalidGateway
  match aliases with
  | .arr items =>
      ensure (items.any (fun item => item.pyEq (.str gatewayAlias)) = true) invalidGateway
  | _ => .error invalidGateway
  let isGateway ← textIn "AI_REVIEW_EGRESS_GATEWAY=1" env
  ensure (isGateway = true) invalidGateway
  ensure (∀ name ∈ environmentNames env, name ∉ forbiddenGatewayEnv) invalidGateway

/-- `_validate_gateway` -/
def validateGateway (raw : Bytes) (name image internalNetwork externalNetwork : String)
    (expected : Labels) : Except Raised Bytes := do
  let payload ← parseOneInspect loads raw
  let config ← dictField payload ["Config", "config"]
  let hostConfig ← dictField payload ["HostConfig", "hostConfig"]
  let state ← dictField payload ["State", "state"]
  let settings ← dictField payload ["NetworkSettings"]
  let networks ← dictField settings ["Networks", "networks"]
  let labels ← dictField config ["Labels", "labels"]
  let env ← valueField config ["Env", "env"]
  let aliases ← aliasesOn networks internalNetwork
  let shown ← valueField payload ["Name", "name"]
  let shownName ← strippedText shown
  ensure (shownName = name) invalidGateway
  let shownImage ← valueField config ["Image", "image"]
  ensure (shownImage.pyEq (.str image) = true) invalidGateway
  let entrypoint ← valueField config ["Entrypoint", "entrypoint"]
  ensure (entrypoint.pyEq (.arr [.str gatewayEntrypoint]) = true) invalidGateway
  let user ← valueField config ["User", "user"]
  ensure (user.pyEq (.str "65532:65532") = true) invalidGateway
  let mounts ← valueField payload ["Mounts", "mounts"]
  ensure (mounts.pyEq (.arr []) = true) invalidGateway
  validateHostConfig hostConfig
  validateAttachment networks aliases env internalNetwork externalNetwork
  ensure (expected.shownBy labels = true) invalidGateway
  let running ← valueField state ["Running", "running"]
  ensure ((asBool running).isSome = true) invalidGateway
  canonical (.arr [.obj payload])

/-- Where a container, and where a network, has its labels. -/
def labelsOf (payload : Fields) : Bool → Except Raised Fields
  | true => do
      let config ← dictField payload ["Config", "config"]
      dictField config ["Labels", "labels"]
  | false => dictField payload ["Labels", "labels"]

/-- `_validate_owned` -/
def validateOwned (raw : Bytes) (isContainer : Bool) (name : String) (expected : Labels) :
    Except Raised Unit := do
  let payload ← parseOneInspect loads raw
  let labels ← labelsOf payload isContainer
  let shown ← valueField payload ["Name", "name"]
  let shownName ← strippedText shown
  ensure (shownName = name ∧ expected.shownBy labels = true) invalidOwnership

end Checks

/-! ## What ownership shows -/

/-- The inspected output shows one resource with the name and the labels. -/
def ShowsOwned (loads : InspectReader) (raw : Bytes) (isContainer : Bool) (name : String)
    (expected : Labels) : Prop :=
  ∃ payload labels shown, parseOneInspect loads raw = .ok payload ∧
    labelsOf payload isContainer = .ok labels ∧
    valueField payload ["Name", "name"] = .ok (.str shown) ∧ withoutSlashes shown = name ∧
    expected.on labels

end AmazonSimilarSearch.Broker
