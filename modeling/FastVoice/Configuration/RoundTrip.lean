import FastVoice.Configuration.WorkflowRoundTrip

/-! # The masked configuration of a user comes back

It is sent back as it was shown. The merge looks at the secret fields of each service and at nothing else
that is masked.
-/
namespace FastVoice.Configuration
open Python Json

variable {config value : Json} {path : List Step} {service field : String}

theorem get_maskUserConfig (h : service ∈ serviceFields) :
    (maskUserConfig config).get service = maskService (config.get service) := by
  simp only [serviceFields, List.mem_cons, List.not_mem_nil, or_false] at h
  obtain rfl | rfl | rfl | rfl | rfl := h <;> rfl

theorem get_maskUserConfig_plain (h : field ∈ plainFields) :
    (maskUserConfig config).get field = config.get field := by
  simp only [plainFields, List.mem_cons, List.not_mem_nil, or_false] at h
  obtain rfl | rfl | rfl := h <;> rfl

theorem get_mergeBlocks (hDict : config.isDict = true) (hService : service ∈ serviceFields) :
    (mergeBlocks config (maskUserConfig config)).get service =
      (mergeServiceBlock (maskUserConfig config) service (config.get service)).getD (config.get service) := by
  have hPlain : service ∉ plainFields := by
    simp only [serviceFields, List.mem_cons, List.not_mem_nil, or_false] at hService
    obtain rfl | rfl | rfl | rfl | rfl := hService <;> decide
  rw [mergeBlocks, get_overwrite_of_notMem hPlain, get_overwrite (by decide) hService hDict]

theorem get_mergeBlocks_service (hService : service ∈ serviceFields)
    (hTruthy : (config.get service).truthy = true) :
    (mergeBlocks config (maskUserConfig config)).get service =
      mergeServiceSecretFields true false (maskService (config.get service)) (config.get service) := by
  have hDict := isDict_of_get_ne_null (truthy_ne_null hTruthy)
  rw [get_mergeBlocks hDict hService, mergeServiceBlock, get_maskUserConfig hService]
  split
  · exact absurd ‹_› (maskService_ne_null hTruthy)
  · simp [hTruthy]

theorem get_mergeBlocks_of_notMem {name : String} (hName : name ∉ serviceFields) :
    (mergeBlocks config (maskUserConfig config)).get name = config.get name := by
  have hServices : (overwrite (mergeServiceBlock (maskUserConfig config)) serviceFields config).get name =
      config.get name := get_overwrite_of_notMem hName config
  rw [mergeBlocks]
  by_cases hPlain : name ∈ plainFields
  · by_cases hDict : config.isDict = true
    · rw [get_overwrite (by decide) hPlain (by simpa using hDict), hServices]
      split
      · exact get_maskUserConfig_plain hPlain
      · rfl
    · have hNot : config.isDict = false := Bool.eq_false_iff.mpr hDict
      rw [get_of_not_isDict hNot, get_of_not_isDict (by simpa using hNot)]
  · rw [get_overwrite_of_notMem hPlain, hServices]

theorem get_mergeBlocks_secret (hTexts : SecretsAreTexts config) (hService : service ∈ serviceFields)
    (h : SecretAt (config.get service) [] field value) :
    ((mergeBlocks config (maskUserConfig config)).get service).get field = restoredValue value := by
  obtain ⟨hField, rfl, hTruthy⟩ := secretAt_nil.mp h
  have hProvider : (maskService (config.get service)).get "provider" =
      (config.get service).get "provider" := get_maskService_of_notMem (by decide) _
  rw [get_mergeBlocks_service hService h.truthy]
  exact get_mergeService (sameProvider_of_eq (by rw [hProvider])) hField
    (hTexts [.key service] field _ (secretAt_cons.mpr h)) hTruthy rfl (get_maskService hField hTruthy)

theorem read_mergeBlocks_secret (hTexts : SecretsAreTexts config) (hService : service ∈ serviceFields)
    (h : SecretAt config [.key service] field value) :
    (mergeBlocks config (maskUserConfig config)).read [.key service, .key field] =
      some (restoredValue value) := by
  have hTruthy := truthy_restoredValue (hTexts _ _ _ h) h.2.2
  have hInner := secretAt_cons.mp h
  rw [read_key_cons, read_key_iff (truthy_ne_null hTruthy)]
  exact get_mergeBlocks_secret hTexts hService hInner

theorem read_serviceBlock {step : Step} (hTexts : SecretsAreTexts config) (hService : service ∈ serviceFields)
    (h : SecretAt (config.get service) (step :: path) field value) :
    ((mergeBlocks config (maskUserConfig config)).get service).read (step :: path ++ [.key field]) =
      some value := by
  rw [get_mergeBlocks_service hService h.truthy]
  by_cases hDict : (config.get service).isDict = true
  · cases step with
    | item index =>
      cases hBlock : config.get service with
      | obj entries =>
        rw [hBlock] at h
        cases h.2.1
      | _ =>
        rw [hBlock] at hDict
        cases hDict
    | key name =>
      have hInner := secretAt_cons.mp h
      have hName := hInner.name_notMem (hTexts.get service)
      rw [read_below, get_mergeService_of_notMem hName, get_maskService_of_notMem hName]
      exact hInner.2.1
  · have hNot : (config.get service).isDict = false := Bool.eq_false_iff.mpr hDict
    have hSame : maskService (config.get service) = config.get service := overwrite_of_not_isDict hNot _
    rw [hSame, mergeServiceSecretFields_of_not_isDict hNot]
    exact h.2.1

theorem read_mergeBlocks_other (hTexts : SecretsAreTexts config)
    (hPath : ∀ service ∈ serviceFields, path ≠ [.key service]) (h : SecretAt config path field value) :
    (mergeBlocks config (maskUserConfig config)).read (path ++ [.key field]) = some value := by
  cases path with
  | nil =>
    obtain ⟨hField, rfl, hTruthy⟩ := secretAt_nil.mp h
    have hName : field ∉ serviceFields := by
      simp only [serviceSecretFields, List.mem_cons, List.not_mem_nil, or_false] at hField
      obtain rfl | rfl | rfl | rfl := hField <;> decide
    exact (read_key_iff (truthy_ne_null hTruthy)).mpr (get_mergeBlocks_of_notMem hName)
  | cons step path =>
    cases step with
    | item index =>
      have hNot : config.isDict = false := by
        cases config with
        | obj entries => cases h.2.1
        | _ => rfl
      rw [mergeBlocks, overwrite_of_not_isDict hNot, overwrite_of_not_isDict (by simpa using hNot)]
      exact h.2.1
    | key name =>
      have hInner := secretAt_cons.mp h
      rw [read_below]
      by_cases hService : name ∈ serviceFields
      · cases path with
        | nil => exact absurd rfl (hPath name hService)
        | cons step path => exact read_serviceBlock hTexts hService hInner
      · rw [get_mergeBlocks_of_notMem hService]
        exact hInner.2.1

theorem incompleteRealtime_iff {data : Json} :
    incompleteRealtime data = false ↔ (data.get "is_realtime").truthy = true ∨
      (data.get "realtime").isDict = false ∨ ((data.get "realtime").get "api_key").truthy = true := by
  unfold incompleteRealtime
  cases (data.get "is_realtime").truthy <;> cases (data.get "realtime").isDict <;> simp

theorem isDict_mergeServiceBlock (hFalsy : (config.get service).truthy = false)
    (hService : service ∈ serviceFields) (hNot : (config.get service).isDict = false) :
    ((mergeServiceBlock (maskUserConfig config) service (config.get service)).getD
      (config.get service)).isDict = false := by
  have hSame : maskService (config.get service) = config.get service := overwrite_of_not_isDict hNot _
  rw [mergeServiceBlock, get_maskUserConfig hService, hSame]
  split
  · exact hNot
  · simp [hFalsy, hNot]

theorem incompleteRealtime_mergeBlocks (hTexts : SecretsAreTexts config)
    (h : incompleteRealtime config = false) :
    incompleteRealtime (mergeBlocks config (maskUserConfig config)) = false := by
  have hRealtime : "realtime" ∈ serviceFields := by decide
  rw [incompleteRealtime_iff] at h ⊢
  rw [get_mergeBlocks_of_notMem (by decide)]
  obtain hOn | hNot | hKey := h
  · exact .inl hOn
  · right
    left
    cases hTruthy : (config.get "realtime").truthy with
    | true =>
      rw [get_mergeBlocks_service hRealtime hTruthy]
      simpa using hNot
    | false =>
      by_cases hDict : config.isDict = true
      · rw [get_mergeBlocks hDict hRealtime]
        exact isDict_mergeServiceBlock hTruthy hRealtime hNot
      · have hOuter : config.isDict = false := Bool.eq_false_iff.mpr hDict
        have hMerged : (mergeBlocks config (maskUserConfig config)).isDict = false := by
          simpa [mergeBlocks] using hOuter
        rw [get_of_not_isDict hMerged]
        rfl
  · right
    right
    have hSecret : SecretAt (config.get "realtime") [] "api_key" ((config.get "realtime").get "api_key") :=
      secretAt_nil.mpr ⟨by decide, rfl, hKey⟩
    rw [get_mergeBlocks_secret hTexts hRealtime hSecret]
    exact truthy_restoredValue (hTexts [.key "realtime"] _ _ (secretAt_cons.mpr hSecret)) hKey

theorem mergeUserConfigurations_eq (hTexts : SecretsAreTexts config) (h : incompleteRealtime config = false) :
    mergeUserConfigurations config (maskUserConfig config) = mergeBlocks config (maskUserConfig config) := by
  rw [mergeUserConfigurations, validateEffective, incompleteRealtime_mergeBlocks hTexts h]
  rfl

theorem user_restored_iff (hTexts : SecretsAreTexts config) (hValid : incompleteRealtime config = false) :
    Restored (mergeUserConfigurations config (maskUserConfig config)) config ↔
      ∀ service ∈ serviceFields, ∀ field value, SecretAt config [.key service] field value →
        Recovers value := by
  rw [mergeUserConfigurations_eq hTexts hValid]
  constructor
  · intro h service hService field value hSecret
    have hRead := h _ field value hSecret
    rw [List.singleton_append, read_mergeBlocks_secret hTexts hService hSecret] at hRead
    exact (restoredValue_eq_iff value).mp (Option.some.inj hRead)
  · intro h path field value hSecret
    by_cases hPath : ∀ service ∈ serviceFields, path ≠ [.key service]
    · exact read_mergeBlocks_other hTexts hPath hSecret
    · simp only [not_forall, not_not] at hPath
      obtain ⟨service, hService, rfl⟩ := hPath
      rw [List.singleton_append, read_mergeBlocks_secret hTexts hService hSecret,
        (restoredValue_eq_iff value).mpr (h service hService field value hSecret)]

end FastVoice.Configuration

/-! # Masked configurations come back

What is stored is shown with its secrets masked, sent back as it was shown and merged with what is stored.
A merge that tests for the marker does not know the masks of the short secrets, in which fewer than three
characters are hidden.
-/
namespace FastVoice.Configuration
open Python Json

/-- What the API shows with masked secrets. The configuration of a workflow may be merged with that of
its organization. -/
inductive Stored where
  | user (config : Json)
  | organization (config : Json)
  | workflow (ofOrganization : Option Json) (config : Json)
  | definition (nodes : List Node)

namespace Stored

/-- The secrets are strings or lists of strings; a user's configuration has been validated. -/
def WellFormed : Stored → Prop
  | .user config => SecretsAreTexts config ∧ incompleteRealtime config = false
  | .organization config => SecretsAreTexts config
  | .workflow _ config => SecretsAreTexts config
  | .definition nodes => NodeSecretsAreTexts nodes

/-- The merge of what was shown with what is stored restores every secret. -/
def RoundTrips (showList : List String → String) : Stored → Prop
  | .user config => Restored (mergeUserConfigurations config (maskUserConfig config)) config
  | .organization config =>
    Restored (mergeAiModelConfigurationV2Secrets (maskAiModelConfigurationV2 config) config) config
  | .workflow ofOrganization config =>
    Restored (mergeWorkflowConfigurations ofOrganization (maskWorkflowConfigurations config) config) config
  | .definition nodes =>
    NodesRestored (mergeWorkflowApiKeys showList (maskWorkflowDefinition showList nodes) nodes) nodes

/-- Each secret that is masked stands where its merge looks for it, and its mask is recognised. -/
def Recoverable (showList : List String → String) : Stored → Prop
  | .user config =>
    ∀ service ∈ serviceFields, ∀ field value, SecretAt config [.key service] field value → Recovers value
  | .organization config =>
    ∀ path field value, SecretAt config path field value →
      Recovers value ∧ (Merged config path field ∨ maskSecretValue value = value)
  | .workflow _ config =>
    if (config.get v2OverrideKey).truthy then WorkflowV2Recovers config
    else WorkflowOverridesRecover config
  | .definition nodes =>
    ∀ node ∈ nodes, ∀ field ∈ node.secretFields, (node.data.get field).truthy = true →
      NodeRecovers showList ((storedData nodes node.id).get field) (node.data.get field)

/-- A masked configuration comes back with its secrets exactly if all of its masks can be resolved. -/
theorem roundTrips_iff (showList : List String → String) (stored : Stored) (h : stored.WellFormed) :
    stored.RoundTrips showList ↔ stored.Recoverable showList := by
  cases stored with
  | user config => exact user_restored_iff h.1 h.2
  | organization config => exact organization_restored_iff h
  | workflow ofOrganization config =>
    simp only [RoundTrips, Recoverable]
    split
    · exact workflow_v2_iff h ‹_›
    · exact workflow_overrides_iff h (Bool.eq_false_iff.mpr ‹_›)
  | definition nodes => exact nodes_restored_iff h

/-! A definition whose key comes back, and a user whose key has five characters. -/

def qaNode : Node :=
  ⟨"qa-1", some "qa", .obj [("name", .str "QA Analysis"), ("qa_api_key", .str "sk-proj-abcdefghijklmnop")]⟩

def shortKey : Json :=
  .obj [("llm", .obj [("provider", .str "openai"), ("api_key", .str "abcde"), ("model", .str "gpt-4.1")]),
    ("is_realtime", .bool false)]

theorem qaNode_comes_back : (Stored.definition [qaNode]).RoundTrips String.join := by
  refine (roundTrips_iff String.join (.definition [qaNode]) ?_).mpr ?_
  · intro node hNode field hField _
    obtain rfl := List.mem_singleton.mp hNode
    obtain rfl := List.mem_singleton.mp hField
    exact .inl ⟨"sk-proj-abcdefghijklmnop", rfl⟩
  · intro node hNode field hField _
    obtain rfl := List.mem_singleton.mp hNode
    obtain rfl := List.mem_singleton.mp hField
    exact if_pos (by decide +kernel) |>.mpr rfl

theorem shortKey_lost : marked "abcde" = false ∧
    (mergeUserConfigurations shortKey (maskUserConfig shortKey)).read [.key "llm", .key "api_key"] =
      some (.str "*bcde") ∧ ¬(Stored.user shortKey).RoundTrips String.join := by
  have hRead : (mergeUserConfigurations shortKey (maskUserConfig shortKey)).read
      [.key "llm", .key "api_key"] = some (.str "*bcde") := by rfl
  refine ⟨by decide +kernel, hRead, fun h => ?_⟩
  have hKept := h [.key "llm"] "api_key" (.str "abcde") ⟨by decide, rfl, rfl⟩
  have hSame := Option.some.inj (hRead.symm.trans hKept)
  exact absurd (Json.str.inj hSame) (by decide)

end Stored

end FastVoice.Configuration
