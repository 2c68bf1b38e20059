import FastVoice.Configuration.Masking

/-! # Masked configurations and their merge with what is stored

A stored model is held as its dump without the fields that are `None`. The field checks of a model accept
a merged dump whose settings they have accepted before; its own validator is modelled.
-/
namespace FastVoice.Configuration
open Python Json

def maskSecret (_ : String) (raw : Json) : Option Json :=
  if raw.truthy then some (maskSecretValue raw) else none

def maskService (service : Json) : Json := overwrite maskSecret serviceSecretFields service

def sameProvider (incoming existing : Json) : Bool :=
  match (existing.get "provider").text?, (incoming.get "provider").text? with
  | some existingProvider, some incomingProvider => incomingProvider = existingProvider
  | _, _ => true

def mergeServiceSecretFields (preserveMissing maskedValuePreservesFullSecret : Bool)
    (incoming existing : Json) : Json :=
  if sameProvider incoming existing then
    overwrite (fun field incomingSecret =>
      if has existing field then
        match incomingSecret with
        | .null => if preserveMissing then some (existing.get field) else none
        | _ =>
          if containsMaskedKey incomingSecret then
            some (if maskedValuePreservesFullSecret then existing.get field
              else resolveMaskedApiKeys incomingSecret (existing.get field))
          else
            none
      else
        none) serviceSecretFields incoming
  else
    incoming

def serviceFields : List String := ["llm", "tts", "stt", "embeddings", "realtime"]

def maskUserConfig (config : Json) : Json :=
  .obj [("llm", maskService (config.get "llm")), ("tts", maskService (config.get "tts")),
    ("stt", maskService (config.get "stt")), ("embeddings", maskService (config.get "embeddings")),
    ("realtime", maskService (config.get "realtime")), ("is_realtime", config.get "is_realtime"),
    ("test_phone_number", config.get "test_phone_number"), ("timezone", config.get "timezone")]

def incompleteRealtime (data : Json) : Bool :=
  !(data.get "is_realtime").truthy && (data.get "realtime").isDict &&
    !((data.get "realtime").get "api_key").truthy

/-- `EffectiveAIModelConfiguration.model_validate`, with the validator
`strip_incomplete_realtime_when_disabled`. -/
def validateEffective (data : Json) : Json :=
  if incompleteRealtime data then data.pop "realtime" else data

def mergeServiceBlock (incomingPartial : Json) (service : String) (old : Json) : Option Json :=
  match incomingPartial.get service with
  | .null => none
  | incoming => some (if old.truthy then mergeServiceSecretFields true false incoming old else incoming)

def plainFields : List String := ["is_realtime", "test_phone_number", "timezone"]

def mergeBlocks (existing incomingPartial : Json) : Json :=
  overwrite (fun field _ =>
      if has incomingPartial field then some (incomingPartial.get field) else none)
    plainFields (overwrite (mergeServiceBlock incomingPartial) serviceFields existing)

def mergeUserConfigurations (existing incomingPartial : Json) : Json :=
  validateEffective (mergeBlocks existing incomingPartial)

mutual

def maskSecretFields : Json → Json
  | .obj entries => .obj (maskEntries entries)
  | .arr items => .arr (maskItems items)
  | value => value

def maskEntries : List (String × Json) → List (String × Json)
  | [] => []
  | (key, nested) :: entries =>
    (key, if serviceSecretFields.contains key && nested.truthy then maskSecretValue nested
      else maskSecretFields nested) :: maskEntries entries

def maskItems : List Json → List Json
  | [] => []
  | item :: items => maskSecretFields item :: maskItems items

end

def maskAiModelConfigurationV2 (configuration : Json) : Json := maskSecretFields configuration

def mergeDograhKey (incoming existing : Json) : Option Json :=
  if incoming.isDict then
    some (overwrite (fun field incomingKey =>
      if incomingKey.truthy && (existing.get field).truthy && containsMaskedKey incomingKey then
        some (resolveMaskedApiKeys incomingKey (existing.get field))
      else
        none) ["api_key"] incoming)
  else
    none

def sectionNames (mode : String) : List String :=
  if mode = "pipeline" then ["llm", "tts", "stt", "embeddings"] else ["realtime", "llm", "embeddings"]

/-- The loop over the sections of the container that the mode selects. -/
def mergeSections (mode : String) (incoming existing : Json) : Option Json :=
  if incoming.isDict && existing.isDict then
    some (overwrite (fun name incomingSection =>
      if incomingSection.isDict && (existing.get name).isDict then
        some (mergeServiceSecretFields true false incomingSection (existing.get name))
      else
        none) (sectionNames mode) incoming)
  else
    none

def mergeByokSecretFields (incoming existing : Json) : Option Json :=
  match (incoming.get "mode").text?, (existing.get "mode").text? with
  | some incomingMode, some existingMode =>
    if incomingMode = existingMode then
      some (overwrite (fun mode container => mergeSections mode container (existing.get mode))
        [incomingMode] incoming)
    else
      none
  | _, _ => none

def inMode (configuration : Json) (mode : String) : Bool :=
  (configuration.get "mode").text? = some mode

def mergeAiModelConfigurationV2Secrets (incoming existing : Json) : Json :=
  let withDograh :=
    if inMode incoming "dograh" && inMode existing "dograh" then
      overwrite (fun field dograh => mergeDograhKey dograh (existing.get field)) ["dograh"] incoming
    else
      incoming
  if inMode withDograh "byok" && inMode existing "byok" then
    overwrite (fun field byok => mergeByokSecretFields byok (existing.get field)) ["byok"] withDograh
  else
    withDograh

def v2OverrideKey : String := "model_configuration_v2_override"

def maskNestedServiceSecrets (value : Json) : Json := maskSecretFields value

def maskModelOverrides (overrides : Json) : Json :=
  overwrite (fun _ override => if override.isDict then some (maskService override) else none)
    modelOverrideFields overrides

def maskWorkflowConfigurations (config : Json) : Json :=
  if config.truthy then
    let masked := overwrite (fun _ overrides =>
      if overrides.isDict then some (maskModelOverrides overrides) else none) ["model_overrides"] config
    overwrite (fun _ v2Override =>
      if v2Override.isDict then some (maskNestedServiceSecrets v2Override) else none) [v2OverrideKey] masked
  else
    config

def mergeModelOverrides (existing incoming : Json) : Json :=
  overwrite (fun name incomingSection =>
    if incomingSection.isDict && (existing.get name).isDict then
      some (mergeServiceSecretFields false true incomingSection (existing.get name))
    else
      none) modelOverrideFields incoming

def mergeWorkflowConfigurationSecrets (incoming existing : Json) : Json :=
  if incoming.truthy && existing.truthy then
    overwrite (fun field overrides =>
      if overrides.isDict && (existing.get field).isDict then
        some (mergeModelOverrides (existing.get field) overrides)
      else
        none) ["model_overrides"] incoming
  else
    incoming

/-- What `update_workflow` merges: a complete model configuration of the workflow goes before the
overrides. `organization` is the stored configuration of the organization. -/
def mergeWorkflowConfigurations (organization : Option Json) (incoming existing : Json) : Json :=
  if (incoming.get v2OverrideKey).truthy then
    let v2Override :=
      if (existing.get v2OverrideKey).truthy then
        mergeAiModelConfigurationV2Secrets (incoming.get v2OverrideKey) (existing.get v2OverrideKey)
      else
        (organization.map (mergeAiModelConfigurationV2Secrets (incoming.get v2OverrideKey))).getD
          (incoming.get v2OverrideKey)
    (incoming.set v2OverrideKey v2Override).pop "model_overrides"
  else if (incoming.get "model_overrides").truthy then
    mergeWorkflowConfigurationSecrets incoming existing
  else
    incoming

structure Node where
  id : String
  type : Option String
  data : Json

/-- The secret fields of the built-in nodes, then those of the integrations. -/
def secretFieldsForNodeType : Option String → List String
  | some "qa" => ["qa_api_key"]
  | some "noveum" => ["noveum_api_key"]
  | some "paygent" => ["paygent_api_key"]
  | some "tuner" => ["tuner_api_key"]
  | _ => []

def Node.secretFields (node : Node) : List String := secretFieldsForNodeType node.type

section

-- How a format string writes a list.
variable (showList : List String → String)

def maskRawKey : Json → String
  | .str k => maskKey k
  | .arr items =>
    if items.length ≤ visibleChars then
      String.ofList (List.replicate items.length maskChar)
    else
      String.ofList (List.replicate (items.length - visibleChars) maskChar) ++
        showList (keyList (.arr (items.drop (items.length - visibleChars))))
  | _ => ""

def maskRawSecret (_ : String) (raw : Json) : Option Json :=
  if raw.truthy then some (.str (maskRawKey showList raw)) else none

def maskNode (node : Node) : Node :=
  { node with data := overwrite (maskRawSecret showList) node.secretFields node.data }

def maskWorkflowDefinition (nodes : List Node) : List Node := nodes.map (maskNode showList)

/-- The data stored for a node, which are those of the last node with its id that has secret fields. -/
def storedData (existing : List Node) (id : String) : Json :=
  ((existing.reverse.find? fun node => !node.secretFields.isEmpty && node.id = id).map Node.data).getD .null

def mergeNodeData (old : Json) (node : Node) : Json :=
  if old.truthy then
    overwrite (fun field incomingKey =>
      match incomingKey with
      | .str masked =>
        if masked ≠ "" ∧ (old.get field).truthy ∧ maskRawKey showList (old.get field) = masked then
          some (old.get field)
        else
          none
      | _ => none) node.secretFields node.data
  else
    node.data

def mergeWorkflowApiKeys (incoming existing : List Node) : List Node :=
  incoming.map fun node =>
    { node with data := mergeNodeData showList (storedData existing node.id) node }

end

end FastVoice.Configuration
