import FastVoice.Configuration.Secrets

/-! # The masked configuration of an organization comes back

Every secret is masked, wherever it stands; the merge follows the mode of the configuration and looks at
the sections of that mode only.
-/
namespace FastVoice.Configuration
open Python Json

variable {j value : Json} {path : List Step} {mode name field : String}

theorem sectionNames_nodup (mode : String) : (sectionNames mode).Nodup := by
  unfold sectionNames
  split <;> decide

theorem sectionNames_notMem (h : name ∈ sectionNames mode) : name ∉ serviceSecretFields := by
  unfold sectionNames at h
  split at h
  · simp only [List.mem_cons, List.not_mem_nil, or_false] at h
    obtain rfl | rfl | rfl | rfl := h <;> decide
  · simp only [List.mem_cons, List.not_mem_nil, or_false] at h
    obtain rfl | rfl | rfl := h <;> decide

theorem sameProvider_mask (j : Json) : sameProvider (maskSecretFields j) j = true := by
  apply sameProvider_of_eq
  rw [get_maskSecretFields_of_notMem (by decide), text_maskSecretFields]

theorem get_section (hTexts : SecretsAreTexts j) (h : SecretAt j [] field value) :
    (mergeServiceSecretFields true false (maskSecretFields j) j).get field = restoredValue value := by
  obtain ⟨hField, rfl, hTruthy⟩ := secretAt_nil.mp h
  refine get_mergeService (sameProvider_mask j) hField (hTexts [] field _ h) hTruthy rfl ?_
  rw [get_maskSecretFields, if_pos (by simp [hField, hTruthy])]

theorem read_section {step : Step} (hTexts : SecretsAreTexts j) (h : SecretAt j (step :: path) field value) :
    (mergeServiceSecretFields true false (maskSecretFields j) j).read (step :: path ++ [.key field]) =
      some (maskSecretValue value) := by
  rw [← read_maskSecretFields hTexts h, mergeServiceSecretFields, if_pos (sameProvider_mask j)]
  refine read_overwrite_of_ne ?_ _ _
  rintro name hName rfl
  exact (secretAt_cons.mp h).name_notMem hTexts hName

def container (mode : String) (j : Json) : Json :=
  (mergeSections mode (maskSecretFields j) j).getD (maskSecretFields j)

theorem container_eq (hDict : j.isDict = true) : container mode j = overwrite (fun name incomingSection =>
      if incomingSection.isDict && (j.get name).isDict then
        some (mergeServiceSecretFields true false incomingSection (j.get name)) else
        none) (sectionNames mode) (maskSecretFields j) := by
  simp [container, mergeSections, hDict]

theorem container_of_not_isDict (hNot : j.isDict = false) : container mode j = maskSecretFields j := by
  simp [container, mergeSections, hNot]

theorem read_container_section (hTexts : SecretsAreTexts j) (hName : name ∈ sectionNames mode)
    (h : SecretAt j [.key name] field value) :
    (container mode j).read [.key name, .key field] = some (restoredValue value) := by
  have hInner := secretAt_cons.mp h
  have hDict := hInner.isDict_of_get
  have hTruthy := truthy_restoredValue (hTexts _ _ _ h) h.2.2
  rw [read_key_cons, read_key_iff (truthy_ne_null hTruthy), container_eq hDict,
    get_overwrite (sectionNames_nodup mode) hName (by simpa using hDict),
    get_maskSecretFields_of_notMem (sectionNames_notMem hName)]
  simp [hInner.isDict, get_section (hTexts.get name) hInner]

theorem read_container_other (hTexts : SecretsAreTexts j)
    (hPath : ∀ name ∈ sectionNames mode, path ≠ [.key name]) (h : SecretAt j path field value) :
    (container mode j).read (path ++ [.key field]) = some (maskSecretValue value) := by
  have hMasked := read_maskSecretFields hTexts h
  by_cases hDict : j.isDict = true
  · rw [container_eq hDict]
    cases path with
    | nil =>
      refine (read_overwrite_of_ne ?_ _ _).trans hMasked
      rintro name hName hStep
      obtain rfl : field = name := Step.key.inj hStep
      exact sectionNames_notMem hName h.1
    | cons step path =>
      by_cases hHead : ∃ name ∈ sectionNames mode, step = .key name
      · obtain ⟨name, hName, rfl⟩ := hHead
        have hInner := secretAt_cons.mp h
        rw [read_overwrite_key (sectionNames_nodup mode) hName (by simpa using hDict),
          get_maskSecretFields_of_notMem (sectionNames_notMem hName)]
        split
        · cases path with
          | nil => exact absurd rfl (hPath name hName)
          | cons step path => exact read_section (hTexts.get name) hInner
        · exact read_maskSecretFields (hTexts.get name) hInner
      · refine (read_overwrite_of_ne ?_ _ _).trans hMasked
        exact fun name hName hStep => hHead ⟨name, hName, hStep⟩
  · rw [container_of_not_isDict (Bool.eq_false_iff.mpr hDict)]
    exact hMasked

def byok (j : Json) : Json := (mergeByokSecretFields (maskSecretFields j) j).getD (maskSecretFields j)

theorem byok_eq (hMode : (j.get "mode").text? = some mode) :
    byok j = overwrite (fun mode container => mergeSections mode container (j.get mode)) [mode]
      (maskSecretFields j) := by
  have hMasked : ((maskSecretFields j).get "mode").text? = some mode := by
    rw [get_maskSecretFields_of_notMem (by decide), text_maskSecretFields, hMode]
  simp [byok, mergeByokSecretFields, hMasked, hMode]

theorem byok_of_none (hMode : (j.get "mode").text? = none) : byok j = maskSecretFields j := by
  simp [byok, mergeByokSecretFields, hMode]

theorem read_byok_mode (hTexts : SecretsAreTexts j) (hMode : (j.get "mode").text? = some mode)
    (h : SecretAt (j.get mode) path field value) : (byok j).read (.key mode :: path ++ [.key field]) =
      (container mode (j.get mode)).read (path ++ [.key field]) := by
  rw [byok_eq hMode, read_overwrite_key (by simp) List.mem_cons_self
    (by simpa using h.isDict_of_get), get_maskSecretFields_of_notMem (h.name_notMem hTexts)]
  rfl

theorem isDict_text (h : IsText j) : j.isDict = false := by
  obtain ⟨k, rfl⟩ | ⟨ks, rfl⟩ := h <;> rfl

theorem read_byok_other (hTexts : SecretsAreTexts j)
    (hPath : ∀ mode rest, (j.get "mode").text? = some mode → path ≠ .key mode :: rest)
    (h : SecretAt j path field value) :
    (byok j).read (path ++ [.key field]) = some (maskSecretValue value) := by
  have hMasked := read_maskSecretFields hTexts h
  cases hMode : (j.get "mode").text? with
  | none =>
    rw [byok_of_none hMode]
    exact hMasked
  | some mode =>
    rw [byok_eq hMode]
    cases path with
    | nil =>
      by_cases hField : field = mode
      · subst hField
        obtain ⟨-, rfl, hTruthy⟩ := secretAt_nil.mp h
        have hText := hTexts [] field _ h
        have hNot := isDict_text hText
        have hGet : (overwrite (fun mode container => mergeSections mode container (j.get mode)) [field]
            (maskSecretFields j)).get field = (maskSecretFields j).get field := by
          rw [get_overwrite (by simp) List.mem_cons_self (by simpa using h.isDict)]
          simp [mergeSections, hNot]
        have hNull := truthy_ne_null (truthy_maskSecretValue hText hTruthy)
        rw [List.nil_append, read_key_iff hNull, hGet]
        exact (read_key_iff hNull).mp hMasked
      · refine (read_overwrite_of_ne ?_ _ _).trans hMasked
        rintro name hName hStep
        exact hField ((Step.key.inj hStep).trans (List.mem_singleton.mp hName))
    | cons step path =>
      refine (read_overwrite_of_ne ?_ _ _).trans hMasked
      rintro name hName rfl
      obtain rfl := List.mem_singleton.mp hName
      exact hPath _ path hMode rfl

def dograh (j : Json) : Json := (mergeDograhKey (maskSecretFields j) j).getD (maskSecretFields j)

theorem dograh_eq (hDict : j.isDict = true) : dograh j = overwrite (fun field incomingKey =>
      if incomingKey.truthy && (j.get field).truthy && containsMaskedKey incomingKey then
        some (resolveMaskedApiKeys incomingKey (j.get field)) else
        none) ["api_key"] (maskSecretFields j) := by
  simp [dograh, mergeDograhKey, hDict]

theorem get_dograh (hTexts : SecretsAreTexts j) (h : SecretAt j [] "api_key" value) :
    (dograh j).get "api_key" = restoredValue value := by
  obtain ⟨hField, rfl, hTruthy⟩ := secretAt_nil.mp h
  have hText := hTexts [] _ _ h
  have hMasked : (maskSecretFields j).get "api_key" = maskSecretValue (j.get "api_key") := by
    rw [get_maskSecretFields, if_pos (by simp [hField, hTruthy])]
  rw [dograh_eq h.isDict, get_overwrite (by decide) List.mem_cons_self (by simpa using h.isDict), hMasked,
    restoredValue, truthy_maskSecretValue hText hTruthy, hTruthy]
  split
  · rename_i hMarked
    have hShown : containsMaskedKey (maskSecretValue (j.get "api_key")) = true := by simpa using hMarked
    rw [if_pos hShown]
    exact resolveMaskedApiKeys_mask hText
  · rename_i hMarked
    have hShown : ¬containsMaskedKey (maskSecretValue (j.get "api_key")) = true := by simpa using hMarked
    rw [if_neg hShown]
    rfl

theorem read_dograh_other (hTexts : SecretsAreTexts j) (hPlace : path ≠ [] ∨ field ≠ "api_key")
    (h : SecretAt j path field value) :
    (dograh j).read (path ++ [.key field]) = some (maskSecretValue value) := by
  have hMasked := read_maskSecretFields hTexts h
  by_cases hDict : j.isDict = true
  · rw [dograh_eq hDict]
    cases path with
    | nil =>
      refine (read_overwrite_of_ne ?_ _ _).trans hMasked
      rintro name hName hStep
      have hField := hPlace.resolve_left fun hNe => hNe rfl
      exact hField ((Step.key.inj hStep).trans (List.mem_singleton.mp hName))
    | cons step path =>
      refine (read_overwrite_of_ne ?_ _ _).trans hMasked
      rintro name hName rfl
      obtain rfl := List.mem_singleton.mp hName
      exact (secretAt_cons.mp h).name_notMem hTexts (by decide)
  · have hNot : j.isDict = false := Bool.eq_false_iff.mpr hDict
    have hSame : dograh j = maskSecretFields j := by simp [dograh, mergeDograhKey, hNot]
    rw [hSame]
    exact hMasked

@[simp] theorem inMode_mask (j : Json) (mode : String) : inMode (maskSecretFields j) mode = inMode j mode := by
  simp only [inMode]
  rw [get_maskSecretFields_of_notMem (by decide), text_maskSecretFields]

theorem inMode_unique {other : String} (h : inMode j mode = true) (hNe : other ≠ mode) :
    inMode j other = false := by
  have hMode : (j.get "mode").text? = some mode := by simpa [inMode] using h
  simp [inMode, hMode, Ne.symm hNe]

theorem merge_dograh (h : inMode j "dograh" = true) :
    mergeAiModelConfigurationV2Secrets (maskAiModelConfigurationV2 j) j =
      overwrite (fun field block => mergeDograhKey block (j.get field)) ["dograh"] (maskSecretFields j) := by
  have hNot : inMode j "byok" = false := inMode_unique h (by decide)
  simp [mergeAiModelConfigurationV2Secrets, maskAiModelConfigurationV2, h, hNot]

theorem merge_byok (h : inMode j "byok" = true) :
    mergeAiModelConfigurationV2Secrets (maskAiModelConfigurationV2 j) j =
      overwrite (fun field block => mergeByokSecretFields block (j.get field)) ["byok"]
        (maskSecretFields j) := by
  have hNot : inMode j "dograh" = false := inMode_unique h (by decide)
  simp [mergeAiModelConfigurationV2Secrets, maskAiModelConfigurationV2, h, hNot]

theorem merge_other (hDograh : inMode j "dograh" = false) (hByok : inMode j "byok" = false) :
    mergeAiModelConfigurationV2Secrets (maskAiModelConfigurationV2 j) j = maskSecretFields j := by
  simp [mergeAiModelConfigurationV2Secrets, maskAiModelConfigurationV2, hDograh, hByok]

/-- The places that the merge looks at. -/
def Merged (j : Json) (path : List Step) (field : String) : Prop :=
  (inMode j "dograh" = true ∧ path = [.key "dograh"] ∧ field = "api_key") ∨
    inMode j "byok" = true ∧ ∃ mode name, ((j.get "byok").get "mode").text? = some mode ∧
      name ∈ sectionNames mode ∧ path = [.key "byok", .key mode, .key name]

theorem read_block {new : String → Json → Option Json} {block : String}
    (hTexts : SecretsAreTexts j) (h : SecretAt (j.get block) path field value) :
    (overwrite new [block] (maskSecretFields j)).read (.key block :: path ++ [.key field]) =
      ((new block (maskSecretFields (j.get block))).getD (maskSecretFields (j.get block))).read
        (path ++ [.key field]) := by
  rw [read_overwrite_key (by simp) List.mem_cons_self
    (by simpa using h.isDict_of_get), get_maskSecretFields_of_notMem (h.name_notMem hTexts)]

theorem read_merge_merged (hTexts : SecretsAreTexts j) (hMerged : Merged j path field)
    (h : SecretAt j path field value) :
    (mergeAiModelConfigurationV2Secrets (maskAiModelConfigurationV2 j) j).read (path ++ [.key field]) =
      some (restoredValue value) := by
  have hTruthy := truthy_restoredValue (hTexts _ _ _ h) h.2.2
  obtain ⟨hMode, rfl, rfl⟩ | ⟨hMode, mode, name, hOwn, hName, rfl⟩ := hMerged
  · have hInner := secretAt_cons.mp h
    rw [merge_dograh hMode, read_block hTexts hInner]
    exact (read_key_iff (truthy_ne_null hTruthy)).mpr (get_dograh (hTexts.get "dograh") hInner)
  · have hBlock := secretAt_cons.mp h
    have hContainer := secretAt_cons.mp hBlock
    rw [merge_byok hMode, read_block hTexts hBlock]
    exact (read_byok_mode (hTexts.get "byok") hOwn hContainer).trans
      (read_container_section ((hTexts.get "byok").get mode) hName hContainer)

theorem read_byokBlock_other (hTexts : SecretsAreTexts j) (h : SecretAt j path field value)
    (hNot : ∀ mode name, (j.get "mode").text? = some mode → name ∈ sectionNames mode →
      path ≠ [.key mode, .key name]) :
    (byok j).read (path ++ [.key field]) = some (maskSecretValue value) := by
  by_cases hPath : ∃ mode rest, (j.get "mode").text? = some mode ∧ path = .key mode :: rest
  · obtain ⟨mode, rest, hMode, rfl⟩ := hPath
    have hInner := secretAt_cons.mp h
    rw [read_byok_mode hTexts hMode hInner]
    refine read_container_other (hTexts.get mode) ?_ hInner
    rintro name hName rfl
    exact hNot mode name hMode hName rfl
  · refine read_byok_other hTexts ?_ h
    exact fun mode rest hMode hEq => hPath ⟨mode, rest, hMode, hEq⟩

theorem read_overwrite_block {new : String → Json → Option Json} {block : String}
    (hTexts : SecretsAreTexts j) (hBlock : block ∉ serviceSecretFields) (h : SecretAt j path field value)
    (hInner : ∀ rest, path = .key block :: rest → SecretAt (j.get block) rest field value →
      ((new block (maskSecretFields (j.get block))).getD (maskSecretFields (j.get block))).read
        (rest ++ [.key field]) = some (maskSecretValue value)) :
    (overwrite new [block] (maskSecretFields j)).read (path ++ [.key field]) =
      some (maskSecretValue value) := by
  have hMasked := read_maskSecretFields hTexts h
  cases path with
  | nil =>
    refine (read_overwrite_of_ne ?_ _ _).trans hMasked
    rintro name hName hStep
    obtain rfl := List.mem_singleton.mp hName
    exact hBlock (Step.key.inj hStep ▸ h.1)
  | cons step rest =>
    by_cases hStep : step = .key block
    · subst hStep
      have hSecret := secretAt_cons.mp h
      rw [read_block hTexts hSecret]
      exact hInner rest rfl hSecret
    · refine (read_overwrite_of_ne ?_ _ _).trans hMasked
      intro name hName
      rw [List.mem_singleton.mp hName]
      exact hStep

theorem read_merge_other (hTexts : SecretsAreTexts j) (hNot : ¬Merged j path field)
    (h : SecretAt j path field value) :
    (mergeAiModelConfigurationV2Secrets (maskAiModelConfigurationV2 j) j).read (path ++ [.key field]) =
      some (maskSecretValue value) := by
  cases hDograh : inMode j "dograh" with
  | true =>
    rw [merge_dograh hDograh]
    refine read_overwrite_block hTexts (by decide) h ?_
    rintro rest rfl hInner
    refine read_dograh_other (hTexts.get "dograh") ?_ hInner
    by_contra hPlace
    obtain ⟨rfl, rfl⟩ : rest = [] ∧ field = "api_key" := by simpa [not_or] using hPlace
    exact hNot (.inl ⟨hDograh, rfl, rfl⟩)
  | false =>
    cases hByok : inMode j "byok" with
    | true =>
      rw [merge_byok hByok]
      refine read_overwrite_block hTexts (by decide) h ?_
      rintro rest rfl hInner
      refine read_byokBlock_other (hTexts.get "byok") hInner ?_
      rintro mode name hMode hName rfl
      exact hNot (.inr ⟨hByok, mode, name, hMode, hName, rfl⟩)
    | false =>
      rw [merge_other hDograh hByok]
      exact read_maskSecretFields hTexts h

theorem organization_restored_iff (hTexts : SecretsAreTexts j) :
    Restored (mergeAiModelConfigurationV2Secrets (maskAiModelConfigurationV2 j) j) j ↔
      ∀ path field value, SecretAt j path field value →
        Recovers value ∧ (Merged j path field ∨ maskSecretValue value = value) := by
  refine forall_congr' fun path => forall_congr' fun field => forall_congr' fun value =>
    imp_congr_right fun hSecret => ?_
  by_cases hMerged : Merged j path field
  · rw [read_merge_merged hTexts hMerged hSecret, Option.some.injEq, restoredValue_eq_iff]
    exact ⟨fun h => ⟨h, .inl hMerged⟩, And.left⟩
  · rw [read_merge_other hTexts hMerged hSecret, Option.some.injEq]
    exact ⟨fun h => ⟨.inr h, .inr h⟩, fun h => h.2.resolve_left hMerged⟩

end FastVoice.Configuration
