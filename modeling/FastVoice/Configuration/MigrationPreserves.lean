import Mathlib.Data.List.ReduceOption
import FastVoice.Configuration.ModelConfiguration

/-! # The migration preserves the effective configuration

A resolved section is a value of one of the classes of its union, and such a value survives its dump.
-/
namespace FastVoice.Configuration
open Python Json Registry

structure ValidSection (serviceType : ServiceType) (service : Instance) : Prop where
  cls : service.cls ∈ serviceConfig serviceType
  typed : service.Typed

structure EffectiveAIModelConfiguration.Valid (configuration : EffectiveAIModelConfiguration) : Prop where
  sections : ∀ serviceType, ∀ service ∈ configuration.getattr serviceType, ValidSection serviceType service
  isRealtime : ∃ b, configuration.isRealtime = .bool b

def LegacyConfiguration := {configuration : EffectiveAIModelConfiguration // configuration.Valid}

def ValidOverride (service : Instance) (override : Json) : Prop :=
  ∀ entries, override = .obj entries → ∀ entry ∈ entries, ∀ field ∈ service.cls.fields, field.name = entry.1 →
    field.type.admits entry.2 = true

/-- Where the provider changes, the class of the new provider validates the override. -/
structure ValidOverrides (base : EffectiveAIModelConfiguration) (modelOverrides : Json) : Prop where
  isRealtime : modelOverrides.has "is_realtime" = true → ∃ b, modelOverrides.get "is_realtime" = .bool b
  sections : ∀ entry ∈ sectionMap, ∀ service ∈ base.getattr entry.2,
    ((modelOverrides.get entry.1).has "provider" = true →
      (modelOverrides.get entry.1).get "provider" = service.get "provider") →
    ValidOverride service (modelOverrides.get entry.1)

structure SameEffect (a b : EffectiveAIModelConfiguration) : Prop where
  isRealtime : a.isRealtime = b.isRealtime
  llm : Option.Rel Instance.Same a.llm b.llm
  embeddings : Option.Rel Instance.Same a.embeddings b.embeddings
  realtime : a.isRealtime = .bool true → Option.Rel Instance.Same a.realtime b.realtime
  tts : a.isRealtime = .bool false → Option.Rel Instance.Same a.tts b.tts
  stt : a.isRealtime = .bool false → Option.Rel Instance.Same a.stt b.stt

section Resolve

variable {c : Conversions} {serviceType : ServiceType} {base effective : EffectiveAIModelConfiguration}
  {modelOverrides override : Json}

theorem orValidationError_eq_ok {α : Type} {value? : Option α} {value : α}
    (h : orValidationError c value? = .ok value) : value? = some value := by
  cases value? with
  | none => cases h
  | some found => exact congrArg some (Except.ok.inj h)

theorem valid_build {cls : ModelClass} {data : Json} {service : Instance} (hClass : cls ∈ serviceConfig serviceType)
    (h : cls.build c data = some service) : ValidSection serviceType service := by
  have hWellFormed := (discriminated_serviceConfig serviceType).wellFormed cls hClass
  obtain ⟨rfl, -, -⟩ := build_eq_some h hWellFormed.names
  exact ⟨hClass, typed_build h hWellFormed⟩

theorem valid_buildSection {service : Instance}
    (h : buildSectionFromOverride c serviceType override = .ok (some service)) : ValidSection serviceType service := by
  unfold buildSectionFromOverride at h
  dsimp only at h
  split at h
  · cases h
  · split at h
    · split at h
      · cases h
      · rename_i configCls hFound
        obtain ⟨built, hBuilt, hService⟩ := Outcome.map_eq_ok_iff.mp h
        obtain rfl := Option.some.inj hService
        exact valid_build (registry_subset serviceType (List.mem_of_find?_eq_some hFound))
          (orValidationError_eq_ok hBuilt)
    · cases h
    · cases h
    · cases h

theorem valid_resolveSection {before after : Option Instance}
    (hBefore : ∀ service ∈ before, ValidSection serviceType service) (hOverride : ∀ service ∈ before,
      (override.has "provider" = true → override.get "provider" = service.get "provider") →
      ValidOverride service override) (h : resolveSection c serviceType before override = .ok after) :
    ∀ service ∈ after, ValidSection serviceType service := by
  intro service hService
  obtain rfl : after = some service := hService
  unfold resolveSection at h
  split at h
  · exact valid_buildSection h
  · rename_i base entries
    split at h
    · exact valid_buildSection h
    · rename_i hProvider
      obtain rfl := Option.some.inj (Except.ok.inj h)
      have hBase := hBefore base rfl
      refine ⟨hBase.cls, hBase.typed.modelCopy (hOverride base rfl ?_ entries rfl)⟩
      intro hHas
      by_contra hNe
      simp [hHas, hNe] at hProvider
  · obtain rfl := Option.some.inj (Except.ok.inj h)
    exact hBefore _ rfl
  · obtain rfl := Option.some.inj (Except.ok.inj h)
    exact hBefore _ rfl
  · cases h

@[simp] theorem getattr_setattr (value : Option Instance) (serviceType other : ServiceType) :
    (effective.setattr value serviceType).getattr other =
      if other = serviceType then value else effective.getattr other := by
  cases serviceType <;> cases other <;> rfl

@[simp] theorem isRealtime_setattr (value : Option Instance) (serviceType : ServiceType) :
    (effective.setattr value serviceType).isRealtime = effective.isRealtime := by
  cases serviceType <;> rfl

@[simp] theorem getattr_isRealtime (isRealtime : Json) (serviceType : ServiceType) :
    ({ base with isRealtime := isRealtime }).getattr serviceType = base.getattr serviceType := by
  cases serviceType <;> rfl

theorem valid_overrideSections {entries : List (String × ServiceType)} (hEntries : entries ⊆ sectionMap)
    (hNodup : (entries.map Prod.snd).Nodup) (hOverrides : ValidOverrides base modelOverrides)
    (hSections : ∀ serviceType, ∀ service ∈ effective.getattr serviceType, ValidSection serviceType service)
    (hBase : ∀ entry ∈ entries, effective.getattr entry.2 = base.getattr entry.2)
    {after : EffectiveAIModelConfiguration}
    (h : entries.foldlM (overrideSection c modelOverrides) effective = .ok after) :
    (∀ serviceType, ∀ service ∈ after.getattr serviceType, ValidSection serviceType service) ∧
      after.isRealtime = effective.isRealtime := by
  induction entries generalizing effective with
  | nil =>
    obtain rfl := Except.ok.inj h
    exact ⟨hSections, rfl⟩
  | cons entry entries ih =>
    rw [List.foldlM_cons] at h
    obtain ⟨next, hNext, hRest⟩ := Outcome.bind_eq_ok_iff.mp h
    obtain ⟨hNotMem, hNodup⟩ := List.nodup_cons.mp hNodup
    have hMem : entry ∈ sectionMap := hEntries List.mem_cons_self
    unfold overrideSection at hNext
    split at hNext
    · obtain ⟨value, hValue, rfl⟩ := Outcome.map_eq_ok_iff.mp hNext
      have hSection : effective.getattr entry.2 = base.getattr entry.2 := hBase entry List.mem_cons_self
      have hValid := valid_resolveSection (hSections entry.2) (fun service hService hProvider =>
        hOverrides.sections entry hMem service (hSection ▸ hService) hProvider) hValue
      have hNextSections : ∀ serviceType, ∀ service ∈ (effective.setattr value entry.2).getattr serviceType,
          ValidSection serviceType service := by
        intro serviceType service hService
        rw [getattr_setattr] at hService
        split at hService
        · rename_i hEq
          subst hEq
          exact hValid service hService
        · exact hSections serviceType service hService
      have hNextBase : ∀ other ∈ entries, (effective.setattr value entry.2).getattr other.2 = base.getattr other.2 := by
        intro other hOther
        have hNe : other.2 ≠ entry.2 := fun hEq => hNotMem (hEq ▸ List.mem_map_of_mem hOther)
        rw [getattr_setattr, if_neg hNe]
        exact hBase other (List.mem_cons_of_mem _ hOther)
      obtain ⟨hAfter, hRealtime⟩ :=
        ih (fun other hOther => hEntries (List.mem_cons_of_mem _ hOther)) hNodup hNextSections hNextBase hRest
      exact ⟨hAfter, hRealtime.trans (isRealtime_setattr value entry.2)⟩
    · obtain rfl := Except.ok.inj hNext
      exact ih (fun other hOther => hEntries (List.mem_cons_of_mem _ hOther)) hNodup hSections
        (fun other hOther => hBase other (List.mem_cons_of_mem _ hOther)) hRest

theorem valid_resolveEffectiveConfig (hBase : base.Valid) (hOverrides : ValidOverrides base modelOverrides)
    (h : resolveEffectiveConfig c base modelOverrides = .ok effective) : effective.Valid := by
  unfold resolveEffectiveConfig at h
  split at h
  · obtain rfl := Except.ok.inj h
    exact hBase
  · split at h
    · cases h
    · obtain ⟨hSections, hRealtime⟩ := valid_overrideSections (fun _ hEntry => hEntry) (by decide) hOverrides
        (fun serviceType => by rw [getattr_isRealtime]; exact hBase.sections serviceType)
        (fun entry _ => getattr_isRealtime _ entry.2) h
      refine ⟨hSections, ?_⟩
      rw [hRealtime]
      dsimp only
      split
      · rename_i hHas
        exact hOverrides.isRealtime hHas
      · exact hBase.isRealtime

end Resolve

section Complete

variable (c : Conversions) {effective : EffectiveAIModelConfiguration}

structure Revalidated (service j : Instance) : Prop where
  same : service.Same j
  provider : j.get "provider" = service.get "provider"

theorem revalidated_section {serviceType : ServiceType} {service : Instance} (h : ValidSection serviceType service) :
    ∃ j, validateUnion (serviceConfig serviceType) c service.modelDump = some j ∧ Revalidated service j := by
  have hUnion := discriminated_serviceConfig serviceType
  obtain ⟨j, hValidated, hSame⟩ := validateUnion_modelDump (c := c) hUnion h.cls h.typed
  refine ⟨j, hValidated, hSame, ?_⟩
  obtain ⟨field, hField, hName, -⟩ := hUnion.tagged service.cls h.cls
  have hTag := hUnion.tag h.cls h.typed
  have hProvider := hSame.fields field hField
  rw [hName, hTag] at hProvider
  change j.get discriminator = service.get discriminator
  rw [hTag]
  generalize j.get discriminator = provider at hProvider
  cases provider with
  | number n => cases hProvider
  | _ => exact hProvider.symm

theorem revalidated_embeddings {embeddings : Option Instance} {dump : Json}
    (hDump : dump = (embeddings.map Instance.modelDump).getD .null)
    (h : ∀ service ∈ embeddings, ValidSection .embeddings service) :
    ∃ j, validateOptional (validateUnion embeddingsConfig c) dump = some j ∧ Option.Rel Revalidated embeddings j := by
  subst hDump
  cases embeddings with
  | none => exact ⟨none, rfl, .none⟩
  | some service =>
    obtain ⟨j, hValidated, hAgain⟩ := revalidated_section c (h service rfl)
    refine ⟨some j, ?_, .some hAgain⟩
    exact congrArg (Option.map some) hValidated

theorem Revalidated.isByok {service j : Instance} (h : Revalidated service j) : isByok j = isByok service := by
  simp only [Configuration.isByok, h.provider]

theorem all_isByok {embeddings j : Option Instance} (h : Option.Rel Revalidated embeddings j) :
    j.all isByok = embeddings.all isByok := by
  cases h with
  | none => rfl
  | some hSection => exact hSection.isByok

theorem same_of_revalidated {embeddings j : Option Instance} (h : Option.Rel Revalidated embeddings j) :
    Option.Rel Instance.Same embeddings j := by
  cases h with
  | none => exact .none
  | some hSection => exact .some hSection.same

def EffectiveAIModelConfiguration.WithoutDograh (configuration : EffectiveAIModelConfiguration) : Prop :=
  ∀ serviceType, ∀ service ∈ configuration.getattr serviceType, isByok service = true

theorem firstDograhApiKey_eq_none (h : effective.WithoutDograh) : firstDograhApiKey effective = none := by
  refine List.findSome?_eq_none_iff.mpr fun service hService => if_pos ?_
  simp only [EffectiveAIModelConfiguration.services, List.reduceOption, List.mem_filterMap, id_eq, exists_eq_right,
    List.mem_cons, List.not_mem_nil, or_false] at hService
  obtain hService | hService | hService | hService | hService := hService
  · exact h .llm service hService.symm
  · exact h .tts service hService.symm
  · exact h .stt service hService.symm
  · exact h .embeddings service hService.symm
  · exact h .realtime service hService.symm

def CompilesAlike (effective : EffectiveAIModelConfiguration) (stored : Json) : Prop :=
  ∃ v2 compiled, OrganizationAIModelConfigurationV2.modelValidate c stored = some v2 ∧
    compileAiModelConfigurationV2 c v2 = .ok compiled ∧ SameEffect effective compiled

theorem byok_modelValidate {byok again : BYOKAIModelConfiguration}
    (h : BYOKAIModelConfiguration.modelValidate c byok.modelDump = some again) :
    OrganizationAIModelConfigurationV2.modelValidate c (byokConfiguration byok).modelDump =
      some (byokConfiguration again) := by
  have hByok : validateOptional (BYOKAIModelConfiguration.modelValidate c) byok.modelDump = some (some again) :=
    congrArg (Option.map some) h
  have hVersion : isVersionTwo (byokConfiguration byok).modelDump = true := rfl
  rw [OrganizationAIModelConfigurationV2.modelValidate, if_pos hVersion]
  change (validateOptional (BYOKAIModelConfiguration.modelValidate c) byok.modelDump).bind _ = _
  rw [hByok]
  rfl

section Pipeline

variable {llm tts stt : Instance} {embeddings : Option Instance} {data : Json}

theorem pipeline_modelValidate (hLlm : validateUnion llmConfig c (data.get "llm") = some llm)
    (hTts : validateUnion ttsConfig c (data.get "tts") = some tts)
    (hStt : validateUnion sttConfig c (data.get "stt") = some stt)
    (hEmbeddings : validateOptional (validateUnion embeddingsConfig c) (data.get "embeddings") = some embeddings)
    (hByok : (isByok llm && isByok tts && isByok stt && embeddings.all isByok) = true) :
    BYOKPipelineAIModelConfiguration.modelValidate c data = some ⟨llm, tts, stt, embeddings⟩ := by
  simp only [BYOKPipelineAIModelConfiguration.modelValidate, hLlm, hTts, hStt, hEmbeddings,
    BYOKPipelineAIModelConfiguration.rejectDograhProviders, hByok, Option.bind_eq_bind, Option.bind_some, if_true]

theorem pipeline_embeddings (configuration : BYOKPipelineAIModelConfiguration) :
    configuration.modelDump.get "embeddings" = (configuration.embeddings.map Instance.modelDump).getD .null := by
  obtain ⟨llm, tts, stt, embeddings⟩ := configuration
  cases embeddings <;> rfl

theorem pipeline_compilesAlike {configuration : BYOKPipelineAIModelConfiguration}
    (hValid : effective.Valid) (hRealtime : effective.isRealtime = .bool false) (hLlm : effective.llm = some llm)
    (hTts : effective.tts = some tts) (hStt : effective.stt = some stt)
    (h : BYOKPipelineAIModelConfiguration.rejectDograhProviders ⟨llm, tts, stt, effective.embeddings⟩ =
      some configuration) :
    CompilesAlike c effective (byokConfiguration ⟨.pipeline, some configuration, none⟩).modelDump := by
  unfold BYOKPipelineAIModelConfiguration.rejectDograhProviders at h
  split at h
  · rename_i hByok
    obtain rfl := Option.some.inj h
    obtain ⟨newLlm, hNewLlm, hLlmAgain⟩ := revalidated_section c (hValid.sections .llm llm hLlm)
    obtain ⟨newTts, hNewTts, hTtsAgain⟩ := revalidated_section c (hValid.sections .tts tts hTts)
    obtain ⟨newStt, hNewStt, hSttAgain⟩ := revalidated_section c (hValid.sections .stt stt hStt)
    obtain ⟨newEmbeddings, hNewEmbeddings, hEmbeddingsAgain⟩ :=
      revalidated_embeddings c (pipeline_embeddings ⟨llm, tts, stt, effective.embeddings⟩)
        (hValid.sections .embeddings)
    have hAgain : (isByok newLlm && isByok newTts && isByok newStt && newEmbeddings.all isByok) = true := by
      rw [hLlmAgain.isByok, hTtsAgain.isByok, hSttAgain.isByok, all_isByok hEmbeddingsAgain]
      exact hByok
    have hPipeline : BYOKPipelineAIModelConfiguration.modelValidate c
        (BYOKPipelineAIModelConfiguration.modelDump ⟨llm, tts, stt, effective.embeddings⟩) =
          some ⟨newLlm, newTts, newStt, newEmbeddings⟩ :=
      pipeline_modelValidate c hNewLlm hNewTts hNewStt hNewEmbeddings hAgain
    refine ⟨byokConfiguration ⟨.pipeline, some ⟨newLlm, newTts, newStt, newEmbeddings⟩, none⟩, _, ?_, rfl, ?_⟩
    · apply byok_modelValidate
      change ((BYOKPipelineAIModelConfiguration.modelValidate c
        (BYOKPipelineAIModelConfiguration.modelDump ⟨llm, tts, stt, effective.embeddings⟩)).map some).bind _ = _
      rw [hPipeline]
      rfl
    · constructor
      · exact hRealtime
      · rw [hLlm]
        exact .some hLlmAgain.same
      · exact same_of_revalidated hEmbeddingsAgain
      · intro hTrue
        rw [hRealtime] at hTrue
        cases hTrue
      · intro _
        rw [hTts]
        exact .some hTtsAgain.same
      · intro _
        rw [hStt]
        exact .some hSttAgain.same
  · cases h

end Pipeline

section Realtime

variable {realtime llm : Instance} {embeddings : Option Instance} {data : Json}

theorem realtime_modelValidate (hRealtime : validateUnion realtimeConfig c (data.get "realtime") = some realtime)
    (hLlm : validateUnion llmConfig c (data.get "llm") = some llm)
    (hEmbeddings : validateOptional (validateUnion embeddingsConfig c) (data.get "embeddings") = some embeddings)
    (hByok : (isByok llm && embeddings.all isByok) = true) :
    BYOKRealtimeAIModelConfiguration.modelValidate c data = some ⟨realtime, llm, embeddings⟩ := by
  simp only [BYOKRealtimeAIModelConfiguration.modelValidate, hRealtime, hLlm, hEmbeddings,
    BYOKRealtimeAIModelConfiguration.rejectDograhProviders, hByok, Option.bind_eq_bind, Option.bind_some, if_true]

theorem realtime_embeddings (configuration : BYOKRealtimeAIModelConfiguration) :
    configuration.modelDump.get "embeddings" = (configuration.embeddings.map Instance.modelDump).getD .null := by
  obtain ⟨realtime, llm, embeddings⟩ := configuration
  cases embeddings <;> rfl

theorem realtime_compilesAlike {configuration : BYOKRealtimeAIModelConfiguration}
    (hValid : effective.Valid) (hMode : effective.isRealtime = .bool true)
    (hRealtime : effective.realtime = some realtime) (hLlm : effective.llm = some llm)
    (h : BYOKRealtimeAIModelConfiguration.rejectDograhProviders ⟨realtime, llm, effective.embeddings⟩ =
      some configuration) :
    CompilesAlike c effective (byokConfiguration ⟨.realtime, none, some configuration⟩).modelDump := by
  unfold BYOKRealtimeAIModelConfiguration.rejectDograhProviders at h
  split at h
  · rename_i hByok
    obtain rfl := Option.some.inj h
    obtain ⟨newRealtime, hNewRealtime, hRealtimeAgain⟩ :=
      revalidated_section c (hValid.sections .realtime realtime hRealtime)
    obtain ⟨newLlm, hNewLlm, hLlmAgain⟩ := revalidated_section c (hValid.sections .llm llm hLlm)
    obtain ⟨newEmbeddings, hNewEmbeddings, hEmbeddingsAgain⟩ :=
      revalidated_embeddings c (realtime_embeddings ⟨realtime, llm, effective.embeddings⟩)
        (hValid.sections .embeddings)
    have hAgain : (isByok newLlm && newEmbeddings.all isByok) = true := by
      rw [hLlmAgain.isByok, all_isByok hEmbeddingsAgain]
      exact hByok
    have hSections : BYOKRealtimeAIModelConfiguration.modelValidate c
        (BYOKRealtimeAIModelConfiguration.modelDump ⟨realtime, llm, effective.embeddings⟩) =
          some ⟨newRealtime, newLlm, newEmbeddings⟩ :=
      realtime_modelValidate c hNewRealtime hNewLlm hNewEmbeddings hAgain
    refine ⟨byokConfiguration ⟨.realtime, none, some ⟨newRealtime, newLlm, newEmbeddings⟩⟩, _, ?_, rfl, ?_⟩
    · apply byok_modelValidate
      change ((BYOKRealtimeAIModelConfiguration.modelValidate c
        (BYOKRealtimeAIModelConfiguration.modelDump ⟨realtime, llm, effective.embeddings⟩)).map some).bind _ = _
      rw [hSections]
      rfl
    · constructor
      · exact hMode
      · rw [hLlm]
        exact .some hLlmAgain.same
      · exact same_of_revalidated hEmbeddingsAgain
      · intro _
        rw [hRealtime]
        exact .some hRealtimeAgain.same
      · intro hFalse
        rw [hMode] at hFalse
        cases hFalse
      · intro hFalse
        rw [hMode] at hFalse
        cases hFalse
  · cases h

end Realtime

theorem converted_compilesAlike {v2 : OrganizationAIModelConfigurationV2} (hValid : effective.Valid)
    (hWithout : effective.WithoutDograh) (h : convertLegacyAiModelConfigurationToV2 c effective = .ok v2) :
    CompilesAlike c effective v2.modelDump := by
  unfold convertLegacyAiModelConfigurationToV2 at h
  rw [firstDograhApiKey_eq_none hWithout] at h
  simp only [Option.filter_none] at h
  split at h
  · rename_i hTruthy
    have hMode : effective.isRealtime = .bool true := by
      obtain ⟨isRealtime, hBool⟩ := hValid.isRealtime
      rw [hBool] at hTruthy ⊢
      exact congrArg Json.bool hTruthy
    split at h
    · rename_i realtime llm hRealtime hLlm
      split at h
      · obtain ⟨configuration, hConfiguration, rfl⟩ := Outcome.map_eq_ok_iff.mp h
        exact realtime_compilesAlike c hValid hMode hRealtime hLlm (orValidationError_eq_ok hConfiguration)
      · cases h
    · cases h
  · rename_i hTruthy
    have hMode : effective.isRealtime = .bool false := by
      obtain ⟨isRealtime, hBool⟩ := hValid.isRealtime
      rw [hBool] at hTruthy ⊢
      exact congrArg Json.bool (Bool.eq_false_iff.mpr hTruthy)
    split at h
    · rename_i llm tts stt hLlm hTts hStt
      split at h
      · obtain ⟨configuration, hConfiguration, rfl⟩ := Outcome.map_eq_ok_iff.mp h
        exact pipeline_compilesAlike c hValid hMode hLlm hTts hStt (orValidationError_eq_ok hConfiguration)
      · cases h
    · cases h

end Complete

/-- The stored override has the effect of the overrides, the other keys are unchanged, and nothing is left to
migrate. -/
structure MigratedAlike (c : Conversions) (configurations migrated : Json)
    (effective : EffectiveAIModelConfiguration) : Prop where
  compiles : CompilesAlike c effective (migrated.get v2OverrideKey)
  unchanged : ∀ key, key ≠ overridesKey → key ≠ v2OverrideKey →
    migrated.has key = configurations.has key ∧ migrated.get key = configurations.get key
  again : ∀ base, migrateWorkflowConfigurationModelOverrideToV2 (modelConversion c) migrated base =
    .ok (migrated, false)

theorem has_pop (j : Json) (key name : String) : (j.pop key).has name = (decide (name ≠ key) && j.has name) := by
  cases j with
  | obj entries =>
    simp only [Json.pop, Json.has, Json.lookup_filter_ne]
    split <;> simp [*]
  | _ => simp [Json.pop, Json.has]

theorem isDict_of_get_isDict {j : Json} {key : String} (h : (j.get key).isDict = true) : j.isDict = true := by
  apply Json.isDict_of_get_ne_null
  intro hNull
  rw [hNull] at h
  cases h

theorem migrate_unchanged {Effective : Type} (conversion : ModelConversion Effective) {migrated : Json}
    (hDict : migrated.isDict = true) (h : migrated.has overridesKey = false) (base : Effective) :
    migrateWorkflowConfigurationModelOverrideToV2 conversion migrated base = .ok (migrated, false) := by
  have hOverrides : (migrated.get overridesKey).isDict = false := by
    by_contra hIsDict
    rw [has_of_isDict_get (Bool.not_eq_false _ ▸ hIsDict)] at h
    cases h
  simp [migrateWorkflowConfigurationModelOverrideToV2, hDict, hOverrides, h]

/-- A workflow keeps the model configuration that its overrides give. -/
theorem migration_preserves (c : Conversions) (base : LegacyConfiguration) {configurations migrated : Json}
    {changed : Bool} {effective : EffectiveAIModelConfiguration}
    (hIsDict : (configurations.get overridesKey).isDict = true)
    (hOverrides : ValidOverrides base.1 (configurations.get overridesKey))
    (hNoOverride : (configurations.get v2OverrideKey).truthy = false)
    (hEffective : resolveEffectiveConfig c base.1 (configurations.get overridesKey) = .ok effective)
    (hWithout : effective.WithoutDograh)
    (h : migrateWorkflowConfigurationModelOverrideToV2 (modelConversion c) configurations base.1 =
      .ok (migrated, changed)) : MigratedAlike c configurations migrated effective := by
  have hDict := isDict_of_get_isDict hIsDict
  have hKeys : v2OverrideKey ≠ overridesKey := by decide
  simp only [migrateWorkflowConfigurationModelOverrideToV2, hDict, hIsDict, hNoOverride] at h
  obtain ⟨stored, hStored, hMigrated⟩ := Outcome.map_eq_ok_iff.mp h
  obtain ⟨rfl, rfl⟩ := Prod.mk.inj hMigrated
  obtain ⟨resolved, hResolved, hConverted⟩ := Outcome.bind_eq_ok_iff.mp hStored
  obtain rfl : effective = resolved := Except.ok.inj (hEffective.symm.trans hResolved)
  obtain ⟨v2, hV2, rfl⟩ := Outcome.map_eq_ok_iff.mp hConverted
  constructor
  · rw [Json.get_pop, if_neg hKeys, Json.get_set hDict, if_pos rfl]
    exact converted_compilesAlike c (valid_resolveEffectiveConfig base.2 hOverrides hEffective) hWithout hV2
  · intro key hOverridesKey hV2Key
    rw [has_pop, Json.has_set hDict, Json.get_pop, if_neg hOverridesKey, Json.get_set hDict, if_neg hV2Key]
    simp [hOverridesKey, hV2Key]
  · have hPopped : ((configurations.set v2OverrideKey v2.modelDump).pop overridesKey).isDict = true := by
      cases configurations with
      | obj entries => rfl
      | _ => cases hDict
    exact migrate_unchanged _ hPopped (has_pop_self _ _)

def noConversions : Conversions where
  convert _ _ := none
  admits_convert _ _ _ h := nomatch h
  parseFloat _ := none
  message := ""

def keyed (provider : String) : Json := .obj [("provider", .str provider), ("api_key", .str "key")]

def pipelineBase : EffectiveAIModelConfiguration where
  llm := openAILLMService.build noConversions (keyed "openai")
  stt := openAISTTConfiguration.build noConversions (keyed "openai")
  tts := openAITTSService.build noConversions (keyed "openai")
  embeddings := none
  realtime := none
  isRealtime := .bool false

theorem built_pipelineBase {serviceType : ServiceType} {service : Instance}
    (h : service ∈ pipelineBase.getattr serviceType) :
    ∃ cls ∈ serviceConfig serviceType, cls.build noConversions (keyed "openai") = some service := by
  cases serviceType with
  | llm => exact ⟨openAILLMService, by decide +kernel, h⟩
  | tts => exact ⟨openAITTSService, by decide +kernel, h⟩
  | stt => exact ⟨openAISTTConfiguration, by decide +kernel, h⟩
  | embeddings => cases h
  | realtime => cases h

theorem valid_pipelineBase : pipelineBase.Valid where
  sections serviceType service hService := by
    obtain ⟨cls, hClass, hBuilt⟩ := built_pipelineBase hService
    exact valid_build hClass hBuilt
  isRealtime := ⟨false, rfl⟩

def anotherModel : Json := .obj [("llm", .obj [("model", .str "gpt-4.1-mini")])]

theorem valid_anotherModel : ValidOverrides pipelineBase anotherModel where
  isRealtime h := by cases h
  sections entry hEntry service hService _ entries hEntries override hOverride field hField hName := by
    have hText : ∀ entry ∈ sectionMap, ∀ cls ∈ serviceConfig entry.2, ∀ field ∈ cls.fields, field.name = "model" →
        field.type.admits (.str "gpt-4.1-mini") = true := by decide +kernel
    have hModel : ∀ entry ∈ sectionMap, anotherModel.get entry.1 = .null ∨
        anotherModel.get entry.1 = .obj [("model", .str "gpt-4.1-mini")] := by decide +kernel
    obtain hNull | hEntry' := hModel entry hEntry
    · rw [hEntries] at hNull
      cases hNull
    obtain rfl := Json.obj.inj (hEntries.symm.trans hEntry')
    obtain rfl := List.mem_singleton.mp hOverride
    exact hText entry hEntry service.cls (valid_pipelineBase.sections entry.2 service hService).cls field hField hName

def withAnotherModel : Json := .obj [("language", .str "en"), (overridesKey, anotherModel)]

theorem another_model_preserved : ∃ migrated effective,
    migrateWorkflowConfigurationModelOverrideToV2 (modelConversion noConversions) withAnotherModel pipelineBase =
      .ok (migrated, true) ∧
    MigratedAlike noConversions withAnotherModel migrated effective := by
  refine ⟨_, _, rfl, migration_preserves noConversions ⟨pipelineBase, valid_pipelineBase⟩ rfl valid_anotherModel rfl
    rfl ?_ rfl⟩
  intro serviceType service hService
  cases serviceType with
  | llm => cases hService; rfl
  | tts => cases hService; rfl
  | stt => cases hService; rfl
  | embeddings => cases hService
  | realtime => cases hService

end FastVoice.Configuration
