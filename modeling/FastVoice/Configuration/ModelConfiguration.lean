import FastVoice.Configuration.Registry
import FastVoice.Configuration.OverrideMigration

/-! # Model configurations of both generations

A legacy configuration has a section for each kind of service, and a workflow overrides single fields of it. A
configuration of version 2 is complete, either with the keys of the user or managed.
-/
namespace FastVoice.Configuration
open Python Registry

structure EffectiveAIModelConfiguration where
  llm : Option Instance
  stt : Option Instance
  tts : Option Instance
  embeddings : Option Instance
  realtime : Option Instance
  isRealtime : Json

section Resolve

variable (c : Conversions)

def validationError : MigrationError := .valueError c.message

def orValidationError {α : Type} : Option α → Except MigrationError α
  | some value => .ok value
  | none => .error (validationError c)

def buildSectionFromOverride (serviceType : ServiceType) (override : Json) :
    Except MigrationError (Option Instance) :=
  let provider := override.get "provider"
  if !provider.truthy then .ok none
  else
    match provider with
    | .str tag =>
      match (registry serviceType).find? fun cls => cls.tag = tag with
      | none => .ok none
      | some configCls => (orValidationError c (configCls.build c override)).map some
    -- a list or a dictionary is no key
    | .arr _ | .obj _ => .error .exception
    | _ => .ok none

def resolveSection (serviceType : ServiceType) (base : Option Instance) (override : Json) :
    Except MigrationError (Option Instance) :=
  match base, override with
  | none, .obj _ => buildSectionFromOverride c serviceType override
  | some base, .obj entries =>
    if override.has "provider" && override.get "provider" ≠ base.get "provider" then
      buildSectionFromOverride c serviceType override
    else .ok (some (base.modelCopy entries))
  -- nothing to copy from
  | some base, .str "" | some base, .arr [] => .ok (some base)
  | _, _ => .error .exception

namespace EffectiveAIModelConfiguration

def getattr (configuration : EffectiveAIModelConfiguration) : ServiceType → Option Instance
  | .llm => configuration.llm
  | .tts => configuration.tts
  | .stt => configuration.stt
  | .embeddings => configuration.embeddings
  | .realtime => configuration.realtime

def setattr (configuration : EffectiveAIModelConfiguration) (value : Option Instance) :
    ServiceType → EffectiveAIModelConfiguration
  | .llm => { configuration with llm := value }
  | .tts => { configuration with tts := value }
  | .stt => { configuration with stt := value }
  | .embeddings => { configuration with embeddings := value }
  | .realtime => { configuration with realtime := value }

end EffectiveAIModelConfiguration

def sectionMap : List (String × ServiceType) :=
  [("llm", .llm), ("tts", .tts), ("stt", .stt), ("realtime", .realtime)]

def overrideSection (modelOverrides : Json) (effective : EffectiveAIModelConfiguration)
    (entry : String × ServiceType) : Except MigrationError EffectiveAIModelConfiguration :=
  if modelOverrides.has entry.1 then
    (resolveSection c entry.2 (effective.getattr entry.2) (modelOverrides.get entry.1)).map fun value =>
      effective.setattr value entry.2
  else .ok effective

/-- What is not a dictionary never comes here from the migration. -/
def resolveEffectiveConfig (userConfig : EffectiveAIModelConfiguration) (modelOverrides : Json) :
    Except MigrationError EffectiveAIModelConfiguration :=
  if !modelOverrides.truthy then .ok userConfig
  else if !modelOverrides.isDict then .error .exception
  else
    let effective := { userConfig with
      isRealtime :=
        if modelOverrides.has "is_realtime" then modelOverrides.get "is_realtime" else userConfig.isRealtime }
    sectionMap.foldlM (overrideSection c modelOverrides) effective

end Resolve

inductive ByokMode where
  | pipeline
  | realtime
  deriving DecidableEq

def ByokMode.text : ByokMode → String
  | .pipeline => "pipeline"
  | .realtime => "realtime"

structure BYOKPipelineAIModelConfiguration where
  llm : Instance
  tts : Instance
  stt : Instance
  embeddings : Option Instance

structure BYOKRealtimeAIModelConfiguration where
  realtime : Instance
  llm : Instance
  embeddings : Option Instance

structure BYOKAIModelConfiguration where
  mode : ByokMode
  pipeline : Option BYOKPipelineAIModelConfiguration
  realtime : Option BYOKRealtimeAIModelConfiguration

inductive ConfigurationMode where
  | dograh
  | byok
  deriving DecidableEq

def ConfigurationMode.text : ConfigurationMode → String
  | .dograh => "dograh"
  | .byok => "byok"

structure OrganizationAIModelConfigurationV2 where
  mode : ConfigurationMode
  dograh : Option Instance
  byok : Option BYOKAIModelConfiguration

def dograhManagedAIModelConfiguration : ModelClass :=
  ⟨"DograhManagedAIModelConfiguration", "dograh", [required "api_key", text "voice" "default",
    float "speed" "1.0" ⟨1 / 2, false, 2⟩, text "language" "multi"], []⟩

def isByok (service : Instance) : Bool := service.get "provider" ≠ .str "dograh"

/-- Sections that are instances already are only checked for their class. -/
def BYOKPipelineAIModelConfiguration.accepted (configuration : BYOKPipelineAIModelConfiguration) : Bool :=
  acceptsInstance llmConfig configuration.llm && acceptsInstance ttsConfig configuration.tts &&
    acceptsInstance sttConfig configuration.stt && configuration.embeddings.all (acceptsInstance embeddingsConfig)

def BYOKPipelineAIModelConfiguration.rejectDograhProviders (configuration : BYOKPipelineAIModelConfiguration) :
    Option BYOKPipelineAIModelConfiguration :=
  if isByok configuration.llm && isByok configuration.tts && isByok configuration.stt &&
    configuration.embeddings.all isByok then some configuration else none

def BYOKRealtimeAIModelConfiguration.accepted (configuration : BYOKRealtimeAIModelConfiguration) : Bool :=
  acceptsInstance realtimeConfig configuration.realtime && acceptsInstance llmConfig configuration.llm &&
    configuration.embeddings.all (acceptsInstance embeddingsConfig)

def BYOKRealtimeAIModelConfiguration.rejectDograhProviders (configuration : BYOKRealtimeAIModelConfiguration) :
    Option BYOKRealtimeAIModelConfiguration :=
  if isByok configuration.llm && configuration.embeddings.all isByok then some configuration else none

def BYOKAIModelConfiguration.validateSelectedMode (configuration : BYOKAIModelConfiguration) :
    Option BYOKAIModelConfiguration :=
  match configuration.mode with
  | .pipeline => if configuration.pipeline.isSome then some configuration else none
  | .realtime => if configuration.realtime.isSome then some configuration else none

def OrganizationAIModelConfigurationV2.validateSelectedMode (configuration : OrganizationAIModelConfigurationV2) :
    Option OrganizationAIModelConfigurationV2 :=
  match configuration.mode with
  | .dograh => if configuration.dograh.isSome then some configuration else none
  | .byok => if configuration.byok.isSome then some configuration else none

def dumped {α : Type} (key : String) (dump : α → Json) : Option α → List (String × Json)
  | some value => [(key, dump value)]
  | none => []

def BYOKPipelineAIModelConfiguration.modelDump (configuration : BYOKPipelineAIModelConfiguration) : Json :=
  .obj ([("llm", configuration.llm.modelDump), ("tts", configuration.tts.modelDump),
    ("stt", configuration.stt.modelDump)] ++ dumped "embeddings" Instance.modelDump configuration.embeddings)

def BYOKRealtimeAIModelConfiguration.modelDump (configuration : BYOKRealtimeAIModelConfiguration) : Json :=
  .obj ([("realtime", configuration.realtime.modelDump), ("llm", configuration.llm.modelDump)] ++
    dumped "embeddings" Instance.modelDump configuration.embeddings)

def BYOKAIModelConfiguration.modelDump (configuration : BYOKAIModelConfiguration) : Json :=
  .obj (("mode", .str configuration.mode.text) ::
    (dumped "pipeline" BYOKPipelineAIModelConfiguration.modelDump configuration.pipeline ++
      dumped "realtime" BYOKRealtimeAIModelConfiguration.modelDump configuration.realtime))

def versionTwo : Json := .number ⟨['2'], Text.forall_of_all (by decide), by decide⟩

def OrganizationAIModelConfigurationV2.modelDump (configuration : OrganizationAIModelConfigurationV2) : Json :=
  .obj (("version", versionTwo) :: ("mode", .str configuration.mode.text) ::
    (dumped "dograh" Instance.modelDump configuration.dograh ++
      dumped "byok" BYOKAIModelConfiguration.modelDump configuration.byok))

section Validate

variable (c : Conversions)

/-- A value that may be `None`. -/
def validateOptional {α : Type} (validate : Json → Option α) : Json → Option (Option α)
  | .null => some none
  | data => (validate data).map some

def BYOKPipelineAIModelConfiguration.modelValidate (data : Json) : Option BYOKPipelineAIModelConfiguration := do
  let llm ← validateUnion llmConfig c (data.get "llm")
  let tts ← validateUnion ttsConfig c (data.get "tts")
  let stt ← validateUnion sttConfig c (data.get "stt")
  let embeddings ← validateOptional (validateUnion embeddingsConfig c) (data.get "embeddings")
  rejectDograhProviders ⟨llm, tts, stt, embeddings⟩

def BYOKRealtimeAIModelConfiguration.modelValidate (data : Json) : Option BYOKRealtimeAIModelConfiguration := do
  let realtime ← validateUnion realtimeConfig c (data.get "realtime")
  let llm ← validateUnion llmConfig c (data.get "llm")
  let embeddings ← validateOptional (validateUnion embeddingsConfig c) (data.get "embeddings")
  rejectDograhProviders ⟨realtime, llm, embeddings⟩

def ByokMode.modelValidate : Json → Option ByokMode
  | .str "pipeline" => some .pipeline
  | .str "realtime" => some .realtime
  | _ => none

def BYOKAIModelConfiguration.modelValidate (data : Json) : Option BYOKAIModelConfiguration := do
  let mode ← ByokMode.modelValidate (data.get "mode")
  let pipeline ← validateOptional (BYOKPipelineAIModelConfiguration.modelValidate c) (data.get "pipeline")
  let realtime ← validateOptional (BYOKRealtimeAIModelConfiguration.modelValidate c) (data.get "realtime")
  validateSelectedMode ⟨mode, pipeline, realtime⟩

def ConfigurationMode.modelValidate : Json → Option ConfigurationMode
  | .str "dograh" => some .dograh
  | .str "byok" => some .byok
  | _ => none

def isVersionTwo (data : Json) : Bool := !data.has "version" || data.get "version" = versionTwo

def OrganizationAIModelConfigurationV2.modelValidate (data : Json) : Option OrganizationAIModelConfigurationV2 :=
  if isVersionTwo data then do
    let mode ← ConfigurationMode.modelValidate (data.get "mode")
    let dograh ← validateOptional (dograhManagedAIModelConfiguration.build c) (data.get "dograh")
    let byok ← validateOptional (BYOKAIModelConfiguration.modelValidate c) (data.get "byok")
    validateSelectedMode ⟨mode, dograh, byok⟩
  else none

end Validate

section Convert

variable (c : Conversions)

def allApiKeys (service : Instance) : List Json :=
  match service.get "api_key" with
  | .null => []
  | .arr items => items
  | key => [key]

def singleApiKey (service : Instance) : Option Json :=
  match allApiKeys service with
  | [key] => some key
  | _ => none

def EffectiveAIModelConfiguration.services (configuration : EffectiveAIModelConfiguration) : List Instance :=
  [configuration.llm, configuration.tts, configuration.stt, configuration.embeddings,
    configuration.realtime].reduceOption

def firstDograhApiKey (configuration : EffectiveAIModelConfiguration) : Option Json :=
  configuration.services.findSome? fun service => if isByok service then none else singleApiKey service

def serviceAttribute (service : Option Instance) (name : String) (default : Json) : Json :=
  match service with
  | some service => if service.values.has name then service.get name else default
  | none => default

def orDefault (value default : Json) : Json := if value.truthy then value else default

def floatOf : Json → Option JsonNumber
  | .number n => some n.toFloat
  | .str text => c.parseFloat text
  | .bool b => some (if b then ⟨['1', '.', '0'], Text.forall_of_all (by decide), by decide⟩
    else ⟨['0', '.', '0'], Text.forall_of_all (by decide), by decide⟩)
  | _ => none

def defaultSpeed : JsonNumber := ⟨['1', '.', '0'], Text.forall_of_all (by decide), by decide⟩

def dograhSpeed (speed : Json) : JsonNumber :=
  let speed := (floatOf c speed).getD defaultSpeed
  if 1 / 2 ≤ speed.value ∧ speed.value ≤ 2 then speed else defaultSpeed

def convertAnyDograhLegacyConfiguration (configuration : EffectiveAIModelConfiguration) (dograhKey : Json) :
    Except MigrationError OrganizationAIModelConfigurationV2 :=
  let data : Json := .obj [("api_key", dograhKey),
    ("voice", orDefault (serviceAttribute configuration.tts "voice" (.str "default")) (.str "default")),
    ("speed", .number (dograhSpeed c (serviceAttribute configuration.tts "speed" (.number defaultSpeed)))),
    ("language", orDefault (serviceAttribute configuration.stt "language" (.str "multi")) (.str "multi"))]
  (orValidationError c (dograhManagedAIModelConfiguration.build c data)).map fun dograh => ⟨.dograh, some dograh, none⟩

def byokConfiguration (byok : BYOKAIModelConfiguration) : OrganizationAIModelConfigurationV2 := ⟨.byok, none, some byok⟩

def convertLegacyAiModelConfigurationToV2 (configuration : EffectiveAIModelConfiguration) :
    Except MigrationError OrganizationAIModelConfigurationV2 :=
  match (firstDograhApiKey configuration).filter Json.truthy with
  | some dograhKey => convertAnyDograhLegacyConfiguration c configuration dograhKey
  | none =>
    if configuration.isRealtime.truthy then
      match configuration.realtime, configuration.llm with
      | some realtime, some llm =>
        let sections : BYOKRealtimeAIModelConfiguration := ⟨realtime, llm, configuration.embeddings⟩
        if sections.accepted then
          (orValidationError c sections.rejectDograhProviders).map fun sections =>
            byokConfiguration ⟨.realtime, none, some sections⟩
        else .error (validationError c)
      | _, _ => .error (.valueError "Realtime legacy configuration is incomplete")
    else
      match configuration.llm, configuration.tts, configuration.stt with
      | some llm, some tts, some stt =>
        let sections : BYOKPipelineAIModelConfiguration := ⟨llm, tts, stt, configuration.embeddings⟩
        if sections.accepted then
          (orValidationError c sections.rejectDograhProviders).map fun sections =>
            byokConfiguration ⟨.pipeline, some sections, none⟩
        else .error (validationError c)
      | _, _, _ => .error (.valueError "Pipeline legacy configuration is incomplete")

def compileDograhConfiguration (configuration : Instance) : Option EffectiveAIModelConfiguration := do
  let key := ("api_key", configuration.get "api_key")
  let model := ("model", Json.str "default")
  let provider := ("provider", Json.str "dograh")
  let llm ← dograhLLMService.build c (.obj [provider, key, model])
  let tts ← dograhTTSService.build c (.obj [provider, key, model, ("voice", configuration.get "voice"),
    ("speed", configuration.get "speed")])
  let stt ← dograhSTTService.build c (.obj [provider, key, model, ("language", configuration.get "language")])
  let embeddings ← dograhEmbeddingsConfiguration.build c (.obj [provider, key, ("model", .str "dograh_embedding_v1")])
  return ⟨some llm, some stt, some tts, some embeddings, none, .bool false⟩

def compileAiModelConfigurationV2 (configuration : OrganizationAIModelConfigurationV2) :
    Except MigrationError EffectiveAIModelConfiguration :=
  match configuration.mode with
  | .dograh =>
    match configuration.dograh with
    | none => .error (.valueError "dograh configuration is required")
    | some dograh => orValidationError c (compileDograhConfiguration c dograh)
  | .byok =>
    match configuration.byok with
    | none => .error (.valueError "byok configuration is required")
    | some byok =>
      match byok.mode with
      | .pipeline =>
        match byok.pipeline with
        | none => .error (.valueError "byok.pipeline is required")
        | some pipeline =>
          .ok ⟨some pipeline.llm, some pipeline.stt, some pipeline.tts, pipeline.embeddings, none, .bool false⟩
      | .realtime =>
        match byok.realtime with
        | none => .error (.valueError "byok.realtime is required")
        | some realtime =>
          .ok ⟨some realtime.llm, none, none, realtime.embeddings, some realtime.realtime, .bool true⟩

def modelConversion : ModelConversion EffectiveAIModelConfiguration where
  resolveEffectiveConfig := resolveEffectiveConfig c
  convertLegacyAiModelConfigurationToV2 configuration :=
    (convertLegacyAiModelConfigurationToV2 c configuration).map OrganizationAIModelConfigurationV2.modelDump

end Convert

end FastVoice.Configuration
