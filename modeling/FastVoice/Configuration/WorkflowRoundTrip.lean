import FastVoice.Configuration.OrganizationRoundTrip

/-! # The masked configuration and definition of a workflow come back

The overrides of single services are merged, or a complete configuration of the workflow, as that of an
organization, in place of them. The nodes of a definition are found again by their ids.
-/
namespace FastVoice.Configuration
open Python Json

variable {config j value : Json} {path : List Step} {name field : String}

def overrides (j : Json) : Json :=
  overwrite (fun name incomingSection =>
    if incomingSection.isDict && (j.get name).isDict then
      some (mergeServiceSecretFields false true incomingSection (j.get name))
    else
      none) modelOverrideFields (maskModelOverrides j)

theorem overrideFields_nodup : modelOverrideFields.Nodup := by decide

theorem overrideFields_notMem (h : name ∈ modelOverrideFields) : name ∉ serviceSecretFields := by
  simp only [modelOverrideFields, List.mem_cons, List.not_mem_nil, or_false] at h
  obtain rfl | rfl | rfl | rfl := h <;> decide

theorem get_maskModelOverrides (hDict : j.isDict = true) (hName : name ∈ modelOverrideFields) :
    (maskModelOverrides j).get name = if (j.get name).isDict then maskService (j.get name) else j.get name := by
  rw [maskModelOverrides, get_overwrite overrideFields_nodup hName hDict]
  split <;> rfl

theorem get_overrides (hDict : j.isDict = true) (hName : name ∈ modelOverrideFields) :
    (overrides j).get name = if (j.get name).isDict then
        mergeServiceSecretFields false true (maskService (j.get name)) (j.get name) else j.get name := by
  have hMasked : (maskModelOverrides j).isDict = true := by simpa [maskModelOverrides] using hDict
  rw [overrides, get_overwrite overrideFields_nodup hName hMasked, get_maskModelOverrides hDict hName]
  cases hSection : (j.get name).isDict <;> simp [hSection]

theorem read_overrides_service (hTexts : SecretsAreTexts j) (hName : name ∈ modelOverrideFields)
    (h : SecretAt j [.key name] field value) :
    (overrides j).read [.key name, .key field] = some (restoredValue value) := by
  have hInner := secretAt_cons.mp h
  obtain ⟨hField, rfl, hTruthy⟩ := secretAt_nil.mp hInner
  have hText := hTexts _ _ _ h
  have hProvider : (maskService (j.get name)).get "provider" = (j.get name).get "provider" :=
    get_maskService_of_notMem (by decide) _
  rw [read_key_cons, read_key_iff (truthy_ne_null (truthy_restoredValue hText hTruthy)),
    get_overrides hInner.isDict_of_get hName, if_pos hInner.isDict]
  exact get_mergeService (sameProvider_of_eq (by rw [hProvider])) hField hText hTruthy rfl
    (get_maskService hField hTruthy)

theorem read_overrides_other (hTexts : SecretsAreTexts j)
    (hPath : ∀ name ∈ modelOverrideFields, path ≠ [.key name]) (h : SecretAt j path field value) :
    (overrides j).read (path ++ [.key field]) = some value := by
  have hOuter : ∀ {step : Step}, (∀ name ∈ modelOverrideFields, step ≠ .key name) → ∀ rest,
      (overrides j).read (step :: rest) = j.read (step :: rest) := by
    intro step hStep rest
    rw [overrides, read_overwrite_of_ne hStep, maskModelOverrides, read_overwrite_of_ne hStep]
  cases path with
  | nil =>
    refine (hOuter ?_ _).trans h.2.1
    rintro name hName hStep
    exact overrideFields_notMem hName (Step.key.inj hStep ▸ h.1)
  | cons step path =>
    by_cases hStep : ∃ name ∈ modelOverrideFields, step = .key name
    · obtain ⟨name, hName, rfl⟩ := hStep
      have hInner := secretAt_cons.mp h
      rw [read_below, get_overrides hInner.isDict_of_get hName]
      split
      · cases path with
        | nil => exact absurd rfl (hPath name hName)
        | cons step path =>
          have hBelow : ∀ field ∈ serviceSecretFields, step ≠ .key field := by
            rintro field hField rfl
            exact (secretAt_cons.mp hInner).name_notMem (hTexts.get name) hField
          unfold mergeServiceSecretFields
          split
          · rw [List.cons_append, read_overwrite_of_ne hBelow, maskService, read_overwrite_of_ne hBelow]
            exact hInner.2.1
          · rw [List.cons_append, maskService, read_overwrite_of_ne hBelow]
            exact hInner.2.1
      · exact hInner.2.1
    · exact (hOuter (fun name hName hEq => hStep ⟨name, hName, hEq⟩) _).trans h.2.1

theorem read_maskWorkflow_other {step : Step} (hOverrides : step ≠ .key "model_overrides")
    (hV2 : step ≠ .key v2OverrideKey) (path : List Step) :
    (maskWorkflowConfigurations config).read (step :: path) = config.read (step :: path) := by
  unfold maskWorkflowConfigurations
  split
  · rw [read_overwrite_of_ne, read_overwrite_of_ne]
    · rintro name hName
      rwa [List.mem_singleton.mp hName]
    · rintro name hName
      rwa [List.mem_singleton.mp hName]
  · rfl

theorem get_maskWorkflow_overrides (hTruthy : (config.get "model_overrides").truthy = true) :
    (maskWorkflowConfigurations config).get "model_overrides" =
      if (config.get "model_overrides").isDict then maskModelOverrides (config.get "model_overrides")
      else config.get "model_overrides" := by
  have hConfig := isDict_of_get_ne_null (truthy_ne_null hTruthy)
  have hTrue : config.truthy = true := truthy_of_get hTruthy
  rw [maskWorkflowConfigurations, if_pos hTrue, get_overwrite_of_notMem (by decide),
    get_overwrite (by simp) List.mem_cons_self hConfig]
  split <;> rfl

theorem get_maskWorkflow_v2 (hTruthy : (config.get v2OverrideKey).truthy = true) :
    (maskWorkflowConfigurations config).get v2OverrideKey =
      if (config.get v2OverrideKey).isDict then maskSecretFields (config.get v2OverrideKey)
      else config.get v2OverrideKey := by
  have hConfig := isDict_of_get_ne_null (truthy_ne_null hTruthy)
  have hTrue : config.truthy = true := truthy_of_get hTruthy
  rw [maskWorkflowConfigurations, if_pos hTrue,
    get_overwrite (by simp) List.mem_cons_self (by simpa using hConfig),
    get_overwrite_of_notMem (by decide)]
  split <;> rfl

theorem truthy_maskSecretFields (hDict : j.isDict = true) : (maskSecretFields j).truthy = j.truthy := by
  cases j with
  | obj entries => cases entries <;> rfl
  | _ => cases hDict

theorem truthy_maskWorkflow_v2 : ((maskWorkflowConfigurations config).get v2OverrideKey).truthy =
      (config.get v2OverrideKey).truthy := by
  by_cases hConfig : config.isDict = true
  · unfold maskWorkflowConfigurations
    split
    · rw [get_overwrite (by simp) List.mem_cons_self (by simpa using hConfig),
        get_overwrite_of_notMem (by decide)]
      split
      · rename_i hDict
        exact truthy_maskSecretFields hDict
      · rfl
    · rfl
  · have hNot : config.isDict = false := Bool.eq_false_iff.mpr hConfig
    have hSame : maskWorkflowConfigurations config = config := by
      unfold maskWorkflowConfigurations
      split
      · rw [overwrite_of_not_isDict hNot, overwrite_of_not_isDict hNot]
      · rfl
    rw [hSame]

/-- The merge of a workflow that has no complete configuration. -/
def WorkflowOverridesRecover (config : Json) : Prop :=
  ∀ name ∈ modelOverrideFields, ∀ field value,
    SecretAt config [.key "model_overrides", .key name] field value → Recovers value

/-- The merge of a workflow that has one. -/
def WorkflowV2Recovers (config : Json) : Prop :=
  (∀ path field value, ¬SecretAt (config.get "model_overrides") path field value) ∧
    ((config.get v2OverrideKey).isDict = true →
      ∀ path field value, SecretAt (config.get v2OverrideKey) path field value →
        Recovers value ∧ (Merged (config.get v2OverrideKey) path field ∨ maskSecretValue value = value))

section Saved

variable {organization : Option Json}

theorem saved_v2 (hV2 : (config.get v2OverrideKey).truthy = true) :
    mergeWorkflowConfigurations organization (maskWorkflowConfigurations config) config =
      ((maskWorkflowConfigurations config).set v2OverrideKey (if (config.get v2OverrideKey).isDict then
          mergeAiModelConfigurationV2Secrets (maskAiModelConfigurationV2 (config.get v2OverrideKey))
            (config.get v2OverrideKey) else config.get v2OverrideKey)).pop "model_overrides" := by
  have hMasked : ((maskWorkflowConfigurations config).get v2OverrideKey).truthy =
      (config.get v2OverrideKey).truthy := truthy_maskWorkflow_v2
  rw [mergeWorkflowConfigurations, if_pos (hMasked.trans hV2), if_pos hV2, get_maskWorkflow_v2 hV2]
  split
  · rfl
  · rename_i hDict
    have hNot : (config.get v2OverrideKey).isDict = false := Bool.eq_false_iff.mpr hDict
    have hMode : ∀ mode, inMode (config.get v2OverrideKey) mode = false := by
      intro mode
      simp [inMode, get_of_not_isDict hNot, text?]
    simp [mergeAiModelConfigurationV2Secrets, hMode]

theorem isDict_maskWorkflow : (maskWorkflowConfigurations config).isDict = config.isDict := by
  unfold maskWorkflowConfigurations
  split <;> simp

theorem workflow_v2_iff (hTexts : SecretsAreTexts config) (hV2 : (config.get v2OverrideKey).truthy = true) :
    Restored (mergeWorkflowConfigurations organization (maskWorkflowConfigurations config) config) config ↔
      WorkflowV2Recovers config := by
  have hConfig := isDict_of_get_ne_null (truthy_ne_null hV2)
  rw [saved_v2 hV2]
  constructor
  · intro h
    constructor
    · intro path field value hSecret
      have hRead := h _ field value (secretAt_cons.mpr hSecret)
      rw [List.cons_append, read_pop] at hRead
      cases hRead
    · intro hDict
      refine (organization_restored_iff (hTexts.get v2OverrideKey)).mp ?_
      intro path field value hSecret
      have hRead := h _ field value (secretAt_cons.mpr hSecret)
      rw [List.cons_append, read_pop_of_ne (by decide), ← List.cons_append, read_below,
        get_set (isDict_maskWorkflow.trans hConfig), if_pos rfl, if_pos hDict] at hRead
      exact hRead
  · rintro ⟨hNone, hOverride⟩ path field value hSecret
    cases path with
    | nil =>
      have hOther : ∀ name, name ∉ serviceSecretFields → Step.key field ≠ .key name := by
        rintro name hName hStep
        exact hName (Step.key.inj hStep ▸ hSecret.1)
      rw [List.nil_append, read_pop_of_ne (hOther _ (by decide)), read_set_of_ne (hOther _ (by decide)),
        read_maskWorkflow_other (hOther _ (by decide)) (hOther _ (by decide))]
      exact hSecret.2.1
    | cons step path =>
      by_cases hOwn : step = .key v2OverrideKey
      · subst hOwn
        have hInner := secretAt_cons.mp hSecret
        rw [List.cons_append, read_pop_of_ne (by decide), ← List.cons_append, read_below,
          get_set (isDict_maskWorkflow.trans hConfig), if_pos rfl]
        split
        · rename_i hDict
          exact (organization_restored_iff (hTexts.get v2OverrideKey)).mpr (hOverride hDict) _ _ _ hInner
        · exact hInner.2.1
      · by_cases hPlain : step = .key "model_overrides"
        · subst hPlain
          exact absurd (secretAt_cons.mp hSecret) (hNone path field value)
        · rw [List.cons_append, read_pop_of_ne hPlain, read_set_of_ne hOwn,
            read_maskWorkflow_other hPlain hOwn]
          exact hSecret.2.1

theorem truthy_maskWorkflow_overrides (hTruthy : (config.get "model_overrides").truthy = true) :
    ((maskWorkflowConfigurations config).get "model_overrides").truthy = true := by
  rw [get_maskWorkflow_overrides hTruthy]
  split
  · exact truthy_overwrite hTruthy
  · exact hTruthy

theorem truthy_maskWorkflow (h : config.truthy = true) :
    (maskWorkflowConfigurations config).truthy = true := by
  rw [maskWorkflowConfigurations, if_pos h]
  exact truthy_overwrite (truthy_overwrite h)

theorem read_saved_overrides (hV2 : (config.get v2OverrideKey).truthy = false)
    (h : SecretAt (config.get "model_overrides") path field value) :
    (mergeWorkflowConfigurations organization (maskWorkflowConfigurations config) config).read
        (.key "model_overrides" :: path ++ [.key field]) =
      (if (config.get "model_overrides").isDict then overrides (config.get "model_overrides")
        else config.get "model_overrides").read (path ++ [.key field]) := by
  have hConfig := truthy_of_get h.truthy
  have hDict : (maskWorkflowConfigurations config).isDict = true :=
    isDict_maskWorkflow.trans (isDict_of_get_ne_null (truthy_ne_null h.truthy))
  have hNone : ¬((maskWorkflowConfigurations config).get v2OverrideKey).truthy = true := by
    rw [truthy_maskWorkflow_v2, hV2]
    decide
  rw [mergeWorkflowConfigurations, if_neg hNone, if_pos (truthy_maskWorkflow_overrides h.truthy),
    mergeWorkflowConfigurationSecrets, if_pos (by simp [truthy_maskWorkflow hConfig, hConfig]),
    read_overwrite_key (by simp) List.mem_cons_self hDict, get_maskWorkflow_overrides h.truthy]
  cases hOwn : (config.get "model_overrides").isDict with
  | false => simp
  | true =>
    have hMasked : (maskModelOverrides (config.get "model_overrides")).isDict = true := by
      simpa [maskModelOverrides] using hOwn
    simp only [if_true, hMasked, Bool.and_self]
    rfl

theorem read_saved_other {step : Step} (hV2 : (config.get v2OverrideKey).truthy = false)
    (hOverrides : step ≠ .key "model_overrides") (hOwn : step ≠ .key v2OverrideKey) (path : List Step) :
    (mergeWorkflowConfigurations organization (maskWorkflowConfigurations config) config).read
      (step :: path) = config.read (step :: path) := by
  have hNone : ¬((maskWorkflowConfigurations config).get v2OverrideKey).truthy = true := by
    rw [truthy_maskWorkflow_v2, hV2]
    decide
  rw [mergeWorkflowConfigurations, if_neg hNone]
  split
  · unfold mergeWorkflowConfigurationSecrets
    split
    · rw [read_overwrite_of_ne]
      · exact read_maskWorkflow_other hOverrides hOwn path
      · intro name hName
        rwa [List.mem_singleton.mp hName]
    · exact read_maskWorkflow_other hOverrides hOwn path
  · exact read_maskWorkflow_other hOverrides hOwn path

theorem workflow_overrides_iff (hTexts : SecretsAreTexts config)
    (hV2 : (config.get v2OverrideKey).truthy = false) :
    Restored (mergeWorkflowConfigurations organization (maskWorkflowConfigurations config) config) config ↔
      WorkflowOverridesRecover config := by
  constructor
  · intro h name hName field value hSecret
    have hRead := h _ field value hSecret
    have hBlock := secretAt_cons.mp hSecret
    have hDict := (secretAt_cons.mp hBlock).isDict_of_get
    rw [read_saved_overrides hV2 hBlock, if_pos hDict, List.singleton_append,
      read_overrides_service (hTexts.get "model_overrides") hName hBlock] at hRead
    exact (restoredValue_eq_iff value).mp (Option.some.inj hRead)
  · intro h path field value hSecret
    have hPlain : ∀ {step : Step} {rest : List Step}, step ≠ .key "model_overrides" →
        step ≠ .key v2OverrideKey → path ++ [.key field] = step :: rest →
        (mergeWorkflowConfigurations organization (maskWorkflowConfigurations config) config).read
          (path ++ [.key field]) = some value := by
      intro step rest hOverrides hOwn hPath
      have hRead := hSecret.2.1
      rw [hPath] at hRead ⊢
      rw [read_saved_other hV2 hOverrides hOwn]
      exact hRead
    cases path with
    | nil =>
      have hOther : ∀ name, name ∉ serviceSecretFields → Step.key field ≠ .key name := by
        rintro name hName hStep
        exact hName (Step.key.inj hStep ▸ hSecret.1)
      exact hPlain (hOther _ (by decide)) (hOther _ (by decide)) rfl
    | cons step path =>
      by_cases hOverrides : step = .key "model_overrides"
      · subst hOverrides
        have hBlock := secretAt_cons.mp hSecret
        rw [read_saved_overrides hV2 hBlock]
        split
        · by_cases hPath : ∀ name ∈ modelOverrideFields, path ≠ [.key name]
          · exact read_overrides_other (hTexts.get "model_overrides") hPath hBlock
          · simp only [not_forall, not_not] at hPath
            obtain ⟨name, hName, rfl⟩ := hPath
            rw [List.singleton_append, read_overrides_service (hTexts.get "model_overrides") hName hBlock,
              (restoredValue_eq_iff value).mpr (h name hName field value hSecret)]
        · exact hBlock.2.1
      · by_cases hOwn : step = .key v2OverrideKey
        · subst hOwn
          have hTruthy := (secretAt_cons.mp hSecret).truthy
          rw [hV2] at hTruthy
          cases hTruthy
        · exact hPlain hOverrides hOwn rfl

end Saved

section Nodes

variable {showList : List String → String} {nodes : List Node}

def NodesRestored (saved stored : List Node) : Prop :=
  ∀ (i : Nat) (node : Node) (field : String) (value : Json), stored[i]? = some node → field ∈ node.secretFields →
    node.data.get field = value → value.truthy = true →
    ∃ savedNode : Node, saved[i]? = some savedNode ∧ savedNode.data.get field = value

def NodeSecretsAreTexts (nodes : List Node) : Prop :=
  ∀ node ∈ nodes, ∀ field ∈ node.secretFields, (node.data.get field).truthy = true →
    IsText (node.data.get field)

/-- What the node that is found by the id stores makes of the mask: it comes back if the masks agree. -/
def NodeRecovers (showList : List String → String) (found value : Json) : Prop :=
  if found.truthy = true ∧ maskRawKey showList found = maskRawKey showList value then found = value
  else .str (maskRawKey showList value) = value

theorem secretFieldsForNodeType_nodup (type : Option String) : (secretFieldsForNodeType type).Nodup := by
  unfold secretFieldsForNodeType
  split <;> decide

theorem maskRawKey_ne_empty {value : Json} (hText : IsText value) (h : value.truthy = true) :
    maskRawKey showList value ≠ "" := by
  obtain ⟨k, rfl⟩ | ⟨ks, rfl⟩ := hText
  · exact maskKey_ne_empty (by simpa [truthy] using h)
  · have hItems : ks ≠ [] := by simpa [truthy] using h
    have hLength : 0 < ks.length := List.length_pos_iff.mpr hItems
    intro hMask
    have hNil := congrArg (fun s => s.toList.length) hMask
    simp only [maskRawKey, List.length_map] at hNil
    split at hNil
    · simp at hNil
      exact hItems hNil
    · rename_i hLong
      simp at hNil
      omega

theorem get_merged_node {node : Node} {field : String} (old : Json) (hField : field ∈ node.secretFields)
    (hText : IsText (node.data.get field)) (hTruthy : (node.data.get field).truthy = true) :
    (mergeNodeData showList old (maskNode showList node)).get field = if (old.get field).truthy = true ∧
          maskRawKey showList (old.get field) = maskRawKey showList (node.data.get field) then old.get field
      else .str (maskRawKey showList (node.data.get field)) := by
  have hNodup : node.secretFields.Nodup := secretFieldsForNodeType_nodup node.type
  have hDict := isDict_of_get_ne_null (truthy_ne_null hTruthy)
  have hMasked : (maskNode showList node).data.get field =
      .str (maskRawKey showList (node.data.get field)) := by
    rw [maskNode, get_overwrite hNodup hField hDict, maskRawSecret, if_pos hTruthy]
    rfl
  have hShown : (maskNode showList node).data.isDict = true := (isDict_overwrite _ _).trans hDict
  have hNonempty : maskRawKey showList (node.data.get field) ≠ "" := maskRawKey_ne_empty hText hTruthy
  by_cases hOld : old.truthy = true
  · have hSame : (maskNode showList node).secretFields = node.secretFields := rfl
    rw [mergeNodeData, if_pos hOld, hSame, get_overwrite hNodup hField hShown, hMasked]
    by_cases hFound : (old.get field).truthy = true ∧
        maskRawKey showList (old.get field) = maskRawKey showList (node.data.get field)
    · simp [hFound, hNonempty]
    · have hNot : ¬(maskRawKey showList (node.data.get field) ≠ "" ∧ (old.get field).truthy = true ∧
          maskRawKey showList (old.get field) = maskRawKey showList (node.data.get field)) :=
        fun h => hFound h.2
      rw [if_neg hFound]
      simp only [if_neg hNot, Option.getD_none]
  · have hNone : ¬(old.get field).truthy = true := fun h => hOld (truthy_of_get h)
    rw [mergeNodeData, if_neg hOld, if_neg (fun h => hNone h.1)]
    exact hMasked

theorem nodes_restored_iff (hTexts : NodeSecretsAreTexts nodes) :
    NodesRestored (mergeWorkflowApiKeys showList (maskWorkflowDefinition showList nodes) nodes) nodes ↔
      ∀ node ∈ nodes, ∀ field ∈ node.secretFields, (node.data.get field).truthy = true →
        NodeRecovers showList ((storedData nodes node.id).get field) (node.data.get field) := by
  have hMerged : ∀ {i : Nat} {node : Node}, nodes[i]? = some node →
      (mergeWorkflowApiKeys showList (maskWorkflowDefinition showList nodes) nodes)[i]? =
        some { node with
          data := mergeNodeData showList (storedData nodes node.id) (maskNode showList node) } := by
    intro i node hNode
    simp [mergeWorkflowApiKeys, maskWorkflowDefinition, hNode, maskNode]
  constructor
  · intro h node hNode field hField hTruthy
    obtain ⟨i, hIndex⟩ := List.mem_iff_getElem?.mp hNode
    obtain ⟨saved, hSaved, hValue⟩ := h i node field _ hIndex hField rfl hTruthy
    rw [hMerged hIndex] at hSaved
    obtain rfl := Option.some.inj hSaved
    rw [NodeRecovers]
    rw [get_merged_node _ hField (hTexts node hNode field hField hTruthy) hTruthy] at hValue
    split at hValue
    · rename_i hFound
      rw [if_pos hFound]
      exact hValue
    · rename_i hFound
      rw [if_neg hFound]
      exact hValue
  · rintro h i node field _ hIndex hField rfl hTruthy
    have hNode : node ∈ nodes := List.mem_of_getElem? hIndex
    have hRecovers := h node hNode field hField hTruthy
    refine ⟨_, hMerged hIndex, ?_⟩
    show (mergeNodeData showList (storedData nodes node.id) (maskNode showList node)).get field = _
    rw [get_merged_node _ hField (hTexts node hNode field hField hTruthy) hTruthy]
    rw [NodeRecovers] at hRecovers
    split at hRecovers
    · rename_i hFound
      rw [if_pos hFound]
      exact hRecovers
    · rename_i hFound
      rw [if_neg hFound]
      exact hRecovers

end Nodes

end FastVoice.Configuration
