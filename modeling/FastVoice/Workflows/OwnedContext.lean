import FastVoice.Workflows.ContextOwnership

/-! # Two runs agree on what they own -/

namespace FastVoice.Workflows
open Python

theorem correlationIdKey_reserved : mpsCorrelationIdContextKey ∈ reservedInitialContextKeys := by decide

theorem telephonyKey_not_reserved : telephonyConfigurationIdKey ∉ reservedInitialContextKeys := by decide

variable {str : Json → String} {a b : RunContext}

/-! ## Correlation ids -/

theorem ensure_congr (managed : Bool) {c d : Context}
    (h : c.lookup mpsCorrelationIdContextKey = d.lookup mpsCorrelationIdContextKey) :
    ensureMpsCorrelationId str managed c = ensureMpsCorrelationId str managed d := by
  simp only [ensureMpsCorrelationId, getMpsCorrelationId, h]

theorem ensure_of_none {managed : Bool} {context : Context} {correlationId : Option String}
    (hNone : context.lookup mpsCorrelationIdContextKey = none)
    (h : ensureMpsCorrelationId str managed context = some correlationId) : correlationId = none := by
  simp only [ensureMpsCorrelationId, getMpsCorrelationId, hNone, Option.filter_none] at h
  cases managed with
  | true => cases h
  | false => exact (Option.some.inj h).symm

theorem lookup_withCorrelationId (correlationId : Option String) (context : Context) (key : String) :
    (withCorrelationId correlationId context).lookup key =
      if key = mpsCorrelationIdContextKey then (correlationId.map Json.str).or (context.lookup key)
      else context.lookup key := by
  cases correlationId with
  | none => simp [withCorrelationId]
  | some correlationId => rw [withCorrelationId, Dict.lookup_insert_if, Option.map_some, Option.some_or]

/-! ## What the events write -/

theorem lookup_storeRunCorrelationId (run : RunContext) (correlationId key : String) :
    (run.storeRunCorrelationId correlationId).initialContext.lookup key =
      if key = mpsCorrelationIdContextKey then some (.str correlationId) else run.initialContext.lookup key := by
  simp only [RunContext.storeRunCorrelationId, RunContext.patch, Dict.lookup_update, Dict.lookup_insert_if]
  split <;> simp

theorem lookup_patch (run : RunContext) (vars : Context) (key : String) :
    (run.patch vars).initialContext.lookup key = (vars.lookup key).or (run.initialContext.lookup key) := by
  simp only [RunContext.patch, Dict.lookup_update]

def pipelineVars (run : RunContext) (callContextVars : Context) (runtimeConfiguration : Json)
    (correlationId : Option String) : Context :=
  (withCorrelationId correlationId (mergeExternalInitialContext run.initialContext callContextVars)).insert
    "runtime_configuration" runtimeConfiguration

theorem runPipeline_eq (run : RunContext) (callContextVars : Context) (runtimeConfiguration : Json)
    (managed : Bool) :
    run.runPipeline str callContextVars runtimeConfiguration managed =
      match ensureMpsCorrelationId str managed run.initialContext with
      | none => run
      | some correlationId =>
        { run.patch (pipelineVars run callContextVars runtimeConfiguration correlationId) with
          callContextVars := some (pipelineVars run callContextVars runtimeConfiguration correlationId) } := by
  rw [RunContext.runPipeline,
    ensure_congr managed (lookup_merge_reserved run.initialContext callContextVars correlationIdKey_reserved)]
  rfl

theorem lookup_pipelineVars_reserved (run : RunContext) (callContextVars : Context)
    (runtimeConfiguration : Json) (correlationId : Option String) {key : String}
    (h : key ∈ reservedInitialContextKeys) :
    (pipelineVars run callContextVars runtimeConfiguration correlationId).lookup key =
      if key = "runtime_configuration" then some runtimeConfiguration
      else if key = mpsCorrelationIdContextKey then
        (correlationId.map Json.str).or (run.initialContext.lookup key)
      else run.initialContext.lookup key := by
  rw [pipelineVars, Dict.lookup_insert_if, lookup_withCorrelationId,
    lookup_merge_reserved run.initialContext callContextVars h]

theorem lookup_pipelineVars_telephony (run : RunContext) (callContextVars : Context)
    (runtimeConfiguration : Json) (correlationId : Option String) :
    (pipelineVars run callContextVars runtimeConfiguration correlationId).lookup telephonyConfigurationIdKey =
      (callContextVars.lookup telephonyConfigurationIdKey).or
        (run.initialContext.lookup telephonyConfigurationIdKey) := by
  rw [pipelineVars, Dict.lookup_insert_if, if_neg (by decide), lookup_withCorrelationId, if_neg (by decide),
    lookup_merge_accepted _ _ telephonyKey_not_reserved]

theorem varsAgree_pipelineVars (hOwned : OwnedAgree a b) {managed : Bool} {correlationId : Option String}
    (hId : ensureMpsCorrelationId str managed a.initialContext = some correlationId)
    (callContextVars : Context × Context) (runtimeConfiguration : Json) :
    VarsAgree a.minted (pipelineVars a callContextVars.1 runtimeConfiguration correlationId)
      (pipelineVars b callContextVars.2 runtimeConfiguration correlationId) where
  reserved key hKey := by
    rw [lookup_pipelineVars_reserved _ _ _ _ hKey, lookup_pipelineVars_reserved _ _ _ _ hKey,
      hOwned.reserved key hKey]
  noCorrelationId hMinted := by
    have hNone := hOwned.noCorrelationId hMinted
    rw [lookup_pipelineVars_reserved _ _ _ _ correlationIdKey_reserved, if_neg (by decide), if_pos rfl, hNone,
      ensure_of_none hNone hId]
    rfl

def textTurnContext (run : RunContext) (runtimeConfiguration : Json) (correlationId : Option String)
    (fetched : Option Context) : Context :=
  let initialContext :=
    withCorrelationId correlationId (run.initialContext.insert "runtime_configuration" runtimeConfiguration)
  match fetched with
  | some response => mergeExternalInitialContext initialContext (acceptedExternal response)
  | none => initialContext

theorem lookup_textTurnContext_reserved (run : RunContext) (runtimeConfiguration : Json)
    (correlationId : Option String) (fetched : Option Context) {key : String}
    (h : key ∈ reservedInitialContextKeys) :
    (textTurnContext run runtimeConfiguration correlationId fetched).lookup key =
      if key = mpsCorrelationIdContextKey then (correlationId.map Json.str).or (run.initialContext.lookup key)
      else if key = "runtime_configuration" then some runtimeConfiguration
      else run.initialContext.lookup key := by
  have hBase : (withCorrelationId correlationId
      (run.initialContext.insert "runtime_configuration" runtimeConfiguration)).lookup key =
      if key = mpsCorrelationIdContextKey then (correlationId.map Json.str).or (run.initialContext.lookup key)
      else if key = "runtime_configuration" then some runtimeConfiguration
      else run.initialContext.lookup key := by
    rw [lookup_withCorrelationId, Dict.lookup_insert_if]
    split
    case isTrue hKey => rw [if_neg (by rw [hKey]; decide)]
    case isFalse => rfl
  cases fetched with
  | none => exact hBase
  | some response => rw [← hBase, textTurnContext, lookup_merge_reserved _ _ h]

theorem lookup_textTurnContext_telephony (run : RunContext) (runtimeConfiguration : Json)
    (correlationId : Option String) (fetched : Option Context) :
    (textTurnContext run runtimeConfiguration correlationId fetched).lookup telephonyConfigurationIdKey =
      ((fetched.getD ∅).lookup telephonyConfigurationIdKey).or
        (run.initialContext.lookup telephonyConfigurationIdKey) := by
  have hBase : (withCorrelationId correlationId
      (run.initialContext.insert "runtime_configuration" runtimeConfiguration)).lookup
        telephonyConfigurationIdKey = run.initialContext.lookup telephonyConfigurationIdKey := by
    rw [lookup_withCorrelationId, if_neg (by decide), Dict.lookup_insert_if, if_neg (by decide)]
  cases fetched with
  | none => simpa [textTurnContext] using hBase
  | some response =>
    rw [textTurnContext, lookup_merge_accepted _ _ telephonyKey_not_reserved, hBase, lookup_acceptedExternal,
      if_neg telephonyKey_not_reserved]
    rfl

theorem varsAgree_textTurnContext (hOwned : OwnedAgree a b) {managed : Bool} {correlationId : Option String}
    (hId : ensureMpsCorrelationId str managed a.initialContext = some correlationId)
    (runtimeConfiguration : Json) (fetched : Option (Context × Context)) :
    VarsAgree a.minted (textTurnContext a runtimeConfiguration correlationId (fetched.map Prod.fst))
      (textTurnContext b runtimeConfiguration correlationId (fetched.map Prod.snd)) where
  reserved key hKey := by
    rw [lookup_textTurnContext_reserved _ _ _ _ hKey, lookup_textTurnContext_reserved _ _ _ _ hKey,
      hOwned.reserved key hKey]
  noCorrelationId hMinted := by
    have hNone := hOwned.noCorrelationId hMinted
    rw [lookup_textTurnContext_reserved _ _ _ _ correlationIdKey_reserved, if_pos rfl, hNone,
      ensure_of_none hNone hId]
    rfl

def fetchPatch (vars response : Context) : Context :=
  if (acceptedExternal response).entries.isEmpty then ∅
  else mergeExternalInitialContext vars (acceptedExternal response)

theorem lookup_fetchPatch_reserved (vars response : Context) {key : String}
    (h : key ∈ reservedInitialContextKeys) : (fetchPatch vars response).lookup key =
      if (acceptedExternal response).entries.isEmpty then none else vars.lookup key := by
  rw [fetchPatch]
  split
  · rfl
  · exact lookup_merge_reserved _ _ h

theorem lookup_fetchPatch_telephony (run : RunContext) (vars response : Context) :
    ((fetchPatch vars response).lookup telephonyConfigurationIdKey).or
        (run.initialContext.lookup telephonyConfigurationIdKey) = fetchedTelephony response vars run := by
  rw [fetchPatch, fetchedTelephony]
  split
  · rfl
  · rw [lookup_merge_accepted _ _ telephonyKey_not_reserved, lookup_acceptedExternal,
      if_neg telephonyKey_not_reserved, Option.or_assoc]

/-! ## Two rows that are patched -/

theorem ownedAgree_vars (a b : RunContext) (varsA varsB : Option Context) :
    OwnedAgree { a with callContextVars := varsA } { b with callContextVars := varsB } ↔ OwnedAgree a b := by
  constructor
  · rintro ⟨hReserved, hNone, hTelephony⟩
    exact ⟨hReserved, hNone, hTelephony⟩
  · rintro ⟨hReserved, hNone, hTelephony⟩
    exact ⟨hReserved, hNone, hTelephony⟩

theorem ownedAgree_patch_iff (hOwned : OwnedAgree a b) {patchA patchB : Context}
    (hNone : a.minted = false → patchA.lookup mpsCorrelationIdContextKey = none) :
    OwnedAgree (a.patch patchA) (b.patch patchB) ↔
      (∀ key ∈ reservedInitialContextKeys, (patchA.lookup key).or (a.initialContext.lookup key) =
        (patchB.lookup key).or (b.initialContext.lookup key)) ∧
      (a.placed = true → (patchA.lookup telephonyConfigurationIdKey).or
          (a.initialContext.lookup telephonyConfigurationIdKey) =
        (patchB.lookup telephonyConfigurationIdKey).or
          (b.initialContext.lookup telephonyConfigurationIdKey)) := by
  constructor
  · rintro ⟨hReserved, -, hTelephony⟩
    simp only [lookup_patch] at hReserved hTelephony
    exact ⟨hReserved, hTelephony⟩
  · rintro ⟨hReserved, hTelephony⟩
    refine ⟨fun key hKey => ?_, fun hMinted => ?_, fun hPlaced => ?_⟩
    · rw [lookup_patch, lookup_patch, hReserved key hKey]
    · rw [lookup_patch, hNone hMinted, hOwned.noCorrelationId hMinted, Option.none_or]
    · rw [lookup_patch, lookup_patch, hTelephony hPlaced]

theorem ownedAgree_patch (hOwned : OwnedAgree a b) {patchA patchB : Context}
    (hVars : VarsAgree a.minted patchA patchB) : OwnedAgree (a.patch patchA) (b.patch patchB) ↔
      (a.placed = true → (patchA.lookup telephonyConfigurationIdKey).or
          (a.initialContext.lookup telephonyConfigurationIdKey) =
        (patchB.lookup telephonyConfigurationIdKey).or
          (b.initialContext.lookup telephonyConfigurationIdKey)) := by
  rw [ownedAgree_patch_iff hOwned hVars.noCorrelationId, and_iff_right]
  intro key hKey
  rw [hVars.reserved key hKey, hOwned.reserved key hKey]

/-! ## One event -/

theorem varsRel_imp {R S : Context → Context → Prop} (h : ∀ c d, R c d → S c d) {varsA varsB : Option Context}
    (hRel : Option.Rel R varsA varsB) : Option.Rel S varsA varsB := by
  cases hRel with
  | none => exact .none
  | some hVars => exact .some (h _ _ hVars)

theorem ensure_alike (hOwned : OwnedAgree a b) (managed : Bool) :
    ensureMpsCorrelationId str managed b.initialContext = ensureMpsCorrelationId str managed a.initialContext :=
  ensure_congr managed (hOwned.reserved _ correlationIdKey_reserved).symm

theorem storeRunCorrelationId_step (hOwned : OwnedAgree a b) (hAlike : Alike a b) (correlationId : String) :
    OwnedAgree (a.storeRunCorrelationId correlationId) (b.storeRunCorrelationId correlationId) ∧
      Alike (a.storeRunCorrelationId correlationId) (b.storeRunCorrelationId correlationId) := by
  constructor
  · refine ⟨fun key hKey => ?_, fun hMinted => (Bool.noConfusion hMinted), fun hPlaced => ?_⟩
    · rw [lookup_storeRunCorrelationId, lookup_storeRunCorrelationId, hOwned.reserved key hKey]
    · rw [lookup_storeRunCorrelationId, lookup_storeRunCorrelationId, if_neg (by decide), if_neg (by decide),
        hOwned.telephony hPlaced]
  · refine ⟨hAlike.placed, rfl, ?_⟩
    exact varsRel_imp (fun _ _ hVars => ⟨hVars.reserved, fun hMinted => Bool.noConfusion hMinted⟩) hAlike.vars

theorem runPipeline_step (hOwned : OwnedAgree a b) (hAlike : Alike a b) (callContextVars : Context × Context)
    (runtimeConfiguration : Json) (managed : Bool) :
    (OwnedAgree (a.runPipeline str callContextVars.1 runtimeConfiguration managed)
        (b.runPipeline str callContextVars.2 runtimeConfiguration managed) ↔
      ((ensureMpsCorrelationId str managed a.initialContext).isSome = true →
        TelephonyAgrees a b callContextVars)) ∧
    Alike (a.runPipeline str callContextVars.1 runtimeConfiguration managed)
      (b.runPipeline str callContextVars.2 runtimeConfiguration managed) := by
  rw [runPipeline_eq, runPipeline_eq, ensure_alike hOwned]
  cases hId : ensureMpsCorrelationId str managed a.initialContext with
  | none => exact ⟨by simp [hOwned], hAlike⟩
  | some correlationId =>
    have hVars := varsAgree_pipelineVars hOwned hId callContextVars runtimeConfiguration
    constructor
    · have hTelephony := ownedAgree_patch hOwned hVars
      simp only [lookup_pipelineVars_telephony, Option.or_assoc, Option.or_self] at hTelephony
      refine (ownedAgree_vars (a.patch _) (b.patch _) _ _).trans ?_
      simpa [TelephonyAgrees] using hTelephony
    · exact ⟨hAlike.placed, hAlike.minted, .some hVars⟩

theorem executeTextTurn_step (hOwned : OwnedAgree a b) (hAlike : Alike a b) (runtimeConfiguration : Json)
    (managed : Bool) (fetched : Option (Context × Context)) :
    (OwnedAgree (a.executeTextTurn str runtimeConfiguration managed (fetched.map Prod.fst))
        (b.executeTextTurn str runtimeConfiguration managed (fetched.map Prod.snd)) ↔
      ((ensureMpsCorrelationId str managed a.initialContext).isSome = true →
        TelephonyAgrees a b (fetched.getD (∅, ∅)))) ∧
    Alike (a.executeTextTurn str runtimeConfiguration managed (fetched.map Prod.fst))
      (b.executeTextTurn str runtimeConfiguration managed (fetched.map Prod.snd)) := by
  have hEnsure := @ensure_alike str a b hOwned managed
  unfold RunContext.executeTextTurn
  rw [hEnsure]
  cases hId : ensureMpsCorrelationId str managed a.initialContext with
  | none => exact ⟨by simp [hOwned], hAlike⟩
  | some correlationId =>
    constructor
    · have hVars := varsAgree_textTurnContext hOwned hId runtimeConfiguration fetched
      have hTelephony := ownedAgree_patch hOwned hVars
      simp only [lookup_textTurnContext_telephony, Option.or_assoc, Option.or_self] at hTelephony
      cases fetched with
      | none => simpa [TelephonyAgrees, textTurnContext] using hTelephony
      | some responses => simpa [TelephonyAgrees, textTurnContext] using hTelephony
    · exact ⟨hAlike.placed, hAlike.minted, hAlike.vars⟩

theorem preCallFetch_eq (run : RunContext) (response vars : Context) (h : run.callContextVars = some vars) :
    ∃ after, run.preCallFetch response =
      { run.patch (fetchPatch vars response) with callContextVars := some after } ∧
      ∀ key ∈ reservedInitialContextKeys, after.lookup key = vars.lookup key := by
  unfold RunContext.preCallFetch fetchPatch
  rw [h]
  cases hEmpty : (acceptedExternal response).entries.isEmpty with
  | true =>
    refine ⟨vars, ?_, fun _ _ => rfl⟩
    simp [hEmpty, RunContext.patch, Dict.update, ← h]
  | false =>
    refine ⟨_, ?_, fun key hKey => lookup_merge_reserved vars (acceptedExternal response) hKey⟩
    simp [hEmpty]

theorem fetchPatch_reserved_iff (hOwned : OwnedAgree a b) {varsA varsB : Context}
    (hVars : VarsAgree a.minted varsA varsB) (response : Context × Context) :
    (∀ key ∈ reservedInitialContextKeys,
      ((fetchPatch varsA response.1).lookup key).or (a.initialContext.lookup key) =
        ((fetchPatch varsB response.2).lookup key).or (b.initialContext.lookup key)) ↔
    ((Stored response.1 ↔ Stored response.2) ∨ ∀ key ∈ reservedInitialContextKeys,
      (varsA.lookup key).or (a.initialContext.lookup key) = a.initialContext.lookup key) := by
  have hKeys : ∀ key ∈ reservedInitialContextKeys,
      (((fetchPatch varsA response.1).lookup key).or (a.initialContext.lookup key) =
        ((fetchPatch varsB response.2).lookup key).or (b.initialContext.lookup key) ↔
      ((Stored response.1 ↔ Stored response.2) ∨
        (varsA.lookup key).or (a.initialContext.lookup key) = a.initialContext.lookup key)) := by
    intro key hKey
    rw [lookup_fetchPatch_reserved _ _ hKey, lookup_fetchPatch_reserved _ _ hKey, ← hVars.reserved key hKey,
      ← hOwned.reserved key hKey]
    unfold Stored
    cases (acceptedExternal response.1).entries.isEmpty <;>
      cases (acceptedExternal response.2).entries.isEmpty <;> simp [eq_comm]
  constructor
  · intro hAll
    by_cases hSame : Stored response.1 ↔ Stored response.2
    · exact .inl hSame
    · exact .inr fun key hKey => ((hKeys key hKey).mp (hAll key hKey)).resolve_left hSame
  · intro hEither key hKey
    exact (hKeys key hKey).mpr (hEither.imp_right fun hAll => hAll key hKey)

theorem preCallFetch_step (hOwned : OwnedAgree a b) (hAlike : Alike a b) (response : Context × Context) :
    (OwnedAgree (a.preCallFetch response.1) (b.preCallFetch response.2) ↔ FetchAgrees a b response) ∧
      Alike (a.preCallFetch response.1) (b.preCallFetch response.2) := by
  have hRel := hAlike.vars
  cases hA : a.callContextVars with
  | none =>
    cases hB : b.callContextVars with
    | none =>
      simp only [RunContext.preCallFetch, hA, hB]
      exact ⟨⟨fun _ varsA _ hVars => by simp [hA] at hVars, fun _ => hOwned⟩, hAlike⟩
    | some varsB =>
      rw [hA, hB] at hRel
      cases hRel
  | some varsA =>
    cases hB : b.callContextVars with
    | none =>
      rw [hA, hB] at hRel
      cases hRel
    | some varsB =>
      rw [hA, hB] at hRel
      cases hRel with
      | some hVars =>
        obtain ⟨afterA, hEqA, hSameA⟩ := preCallFetch_eq a response.1 varsA hA
        obtain ⟨afterB, hEqB, hSameB⟩ := preCallFetch_eq b response.2 varsB hB
        rw [hEqA, hEqB]
        constructor
        · have hNone : a.minted = false →
              (fetchPatch varsA response.1).lookup mpsCorrelationIdContextKey = none := by
            intro hMinted
            rw [lookup_fetchPatch_reserved _ _ correlationIdKey_reserved, hVars.noCorrelationId hMinted, ite_self]
          rw [ownedAgree_vars, ownedAgree_patch_iff hOwned hNone, fetchPatch_reserved_iff hOwned hVars response,
            lookup_fetchPatch_telephony, lookup_fetchPatch_telephony]
          simp [FetchAgrees, hA, hB]
        · refine ⟨hAlike.placed, hAlike.minted, .some ⟨fun key hKey => ?_, fun hMinted => ?_⟩⟩
          · rw [hSameA key hKey, hSameB key hKey, hVars.reserved key hKey]
          · rw [hSameA _ correlationIdKey_reserved, hVars.noCorrelationId hMinted]

theorem pairs_step (hOwned : OwnedAgree a b) (hAlike : Alike a b) (event : ContextEvent (Context × Context)) :
    (OwnedAgree (a.apply str (event.map Prod.fst)) (b.apply str (event.map Prod.snd)) ↔
      EventAgrees str (a, b) event) ∧
    Alike (a.apply str (event.map Prod.fst)) (b.apply str (event.map Prod.snd)) := by
  cases event with
  | storeRunCorrelationId correlationId =>
    obtain ⟨hOwned', hAlike'⟩ := storeRunCorrelationId_step hOwned hAlike correlationId
    exact ⟨iff_of_true hOwned' trivial, hAlike'⟩
  | runPipeline callContextVars runtimeConfiguration managed =>
    exact runPipeline_step hOwned hAlike callContextVars runtimeConfiguration managed
  | pipelineEnds => exact ⟨iff_of_true ((ownedAgree_vars a b none none).mpr hOwned) trivial,
      hAlike.placed, hAlike.minted, .none⟩
  | preCallFetch response => exact preCallFetch_step hOwned hAlike response
  | executeTextTurn runtimeConfiguration managed fetched =>
    exact executeTextTurn_step hOwned hAlike runtimeConfiguration managed fetched
  | placeCall =>
    refine ⟨⟨fun hAgree => hAgree.telephony rfl, fun hTelephony => ?_⟩, rfl, hAlike.minted, hAlike.vars⟩
    exact ⟨hOwned.reserved, hOwned.noCorrelationId, fun _ => hTelephony⟩

/-! ## The start -/

theorem lookup_prepare (templates : TemplateContextVariables Context) (initialContext : Context)
    (includeTemplateContext : Bool) (key : String) :
    (prepareWorkflowRunInputs templates initialContext includeTemplateContext).lookup key =
      (initialContext.lookup key).or (if includeTemplateContext then templates.default.lookup key else none) := by
  rw [prepareWorkflowRunInputs, Dict.lookup_update]
  cases includeTemplateContext <;> rfl

theorem fst_of_mem_optionalEntries {call : PublicAgentCall} {pair : String × Json}
    (h : pair ∈ call.optionalEntries) :
    pair.1 ∈ ["from_phone_number_id", "agent_uuid", "api_key_id", "api_key_created_by"] := by
  have hEntry : ∀ (key : String) (value : Option Json), pair ∈ entryIf key value → pair.1 = key := by
    rintro key (- | value) hPair
    · cases hPair
    · rw [List.mem_singleton.mp hPair]
  rw [PublicAgentCall.optionalEntries, List.mem_append, List.mem_append, List.mem_append] at h
  rcases h with ((hPhone | hAgent) | hKey) | hCreator
  · simp [hEntry _ _ hPhone]
  · split at hAgent
    · simp [List.mem_singleton.mp hAgent]
    · cases hAgent
  · simp [hEntry _ _ hKey]
  · simp [hEntry _ _ hCreator]

theorem lookup_publicAgentContext (call : PublicAgentCall) {key : String}
    (h : key ∈ telephonyConfigurationIdKey :: reservedInitialContextKeys) : call.context.lookup key =
      if key = "provider" then some (.str call.provider)
      else if key = telephonyConfigurationIdKey then some call.resolvedCfgId else none := by
  have hOther : ∀ pair ∈ call.optionalEntries, key ≠ pair.1 := by
    have hDistinct : ∀ name ∈ telephonyConfigurationIdKey :: reservedInitialContextKeys,
        name ∉ ["from_phone_number_id", "agent_uuid", "api_key_id", "api_key_created_by"] := by decide
    exact fun pair hPair hSame => hDistinct key h (hSame ▸ fst_of_mem_optionalEntries hPair)
  rw [PublicAgentCall.context, Dict.lookup_extend_of_forall_ne hOther]
  simp only [reservedInitialContextKeys, List.mem_cons, List.not_mem_nil, or_false] at h
  rcases h with rfl | rfl | rfl | rfl <;> rfl

theorem lookup_executeResolvedTarget_reserved (call : PublicAgentCall) (requestContext : Context)
    (templates : TemplateContextVariables Context) {key : String} (h : key ∈ reservedInitialContextKeys) :
    (executeResolvedTarget call requestContext templates).lookup key =
      if key = "provider" then some (.str call.provider)
      else if call.useDraft then templates.default.lookup key else none := by
  have hCalled : key ≠ "called_number" := by
    rintro rfl
    exact absurd h (by decide)
  have hTelephony : key ≠ telephonyConfigurationIdKey := by
    rintro rfl
    exact telephonyKey_not_reserved h
  rw [executeResolvedTarget, lookup_prepare, Dict.lookup_insert_if, if_neg hCalled, lookup_merge_reserved _ _ h,
    lookup_publicAgentContext call (List.mem_cons_of_mem _ h), if_neg hTelephony]
  split <;> simp

theorem lookup_executeResolvedTarget_telephony (call : PublicAgentCall) (requestContext : Context)
    (templates : TemplateContextVariables Context) :
    (executeResolvedTarget call requestContext templates).lookup telephonyConfigurationIdKey =
      some ((requestContext.lookup telephonyConfigurationIdKey).getD call.resolvedCfgId) := by
  rw [executeResolvedTarget, lookup_prepare, Dict.lookup_insert_if, if_neg (by decide),
    lookup_merge_accepted _ _ telephonyKey_not_reserved, lookup_publicAgentContext call List.mem_cons_self,
    if_neg (by decide), if_pos rfl]
  cases requestContext.lookup telephonyConfigurationIdKey <;> rfl

theorem ownedAgree_created_iff (placed : Bool) (contextA contextB : Context) :
    OwnedAgree (.created placed contextA) (.created placed contextB) ↔
      (∀ key ∈ reservedInitialContextKeys, contextA.lookup key = contextB.lookup key) ∧
        contextA.lookup mpsCorrelationIdContextKey = none ∧ (placed = true →
          contextA.lookup telephonyConfigurationIdKey = contextB.lookup telephonyConfigurationIdKey) := by
  constructor
  · rintro ⟨hReserved, hNone, hTelephony⟩
    exact ⟨hReserved, hNone rfl, hTelephony⟩
  · rintro ⟨hReserved, hNone, hTelephony⟩
    exact ⟨hReserved, fun _ => hNone, hTelephony⟩

theorem forall_reserved_iff (p : String → Prop) : (∀ key ∈ reservedInitialContextKeys, p key) ↔
      p "provider" ∧ p "runtime_configuration" ∧ p mpsCorrelationIdContextKey := by
  simp [reservedInitialContextKeys]

theorem templatesAgree_iff (keys : List String) (templates : TemplateContextVariables (Context × Context)) :
    TemplatesAgree keys templates ↔
      (∀ key ∈ keys, (templates.map Prod.fst).default.lookup key = (templates.map Prod.snd).default.lookup key) ∧
        (templates.map Prod.fst).default.lookup mpsCorrelationIdContextKey =
          (templates.map Prod.snd).default.lookup mpsCorrelationIdContextKey ∧
        (templates.map Prod.fst).default.lookup mpsCorrelationIdContextKey = none := by
  constructor
  · rintro ⟨hKeys, hA, hB⟩
    exact ⟨hKeys, hA.trans hB.symm, hA⟩
  · rintro ⟨hKeys, hSame, hNone⟩
    exact ⟨hKeys, hNone, hSame ▸ hNone⟩

theorem lookup_dispatchCall {call : CampaignCall} {contextVariables context : Context}
    (h : dispatchCall call contextVariables = some context) {key : String}
    (hKey : key ∈ telephonyConfigurationIdKey :: reservedInitialContextKeys) : context.lookup key =
      if key = "provider" then some (.str call.provider)
      else if key = telephonyConfigurationIdKey then some call.telephonyConfigurationId else none := by
  unfold dispatchCall at h
  split at h
  case h_1 => cases h
  case h_2 phoneNumber _ =>
    obtain rfl := Option.some.inj h
    rw [Dict.lookup_update]
    simp only [reservedInitialContextKeys, List.mem_cons, List.not_mem_nil, or_false] at hKey
    rcases hKey with rfl | rfl | rfl | rfl
    · rfl
    · rfl
    · rw [lookup_merge_reserved _ _ (by decide)]
      rfl
    · rw [lookup_merge_reserved _ _ (by decide)]
      rfl

theorem lookup_initiateCall (call : OutboundCall) (templates : TemplateContextVariables Context) {key : String}
    (hKey : key ∈ telephonyConfigurationIdKey :: reservedInitialContextKeys) :
    (initiateCall call templates).lookup key = if key = "provider" then some (.str call.provider)
      else if key = telephonyConfigurationIdKey then some call.telephonyConfigurationId
      else templates.default.lookup key := by
  rw [initiateCall, lookup_prepare, if_pos rfl]
  simp only [reservedInitialContextKeys, List.mem_cons, List.not_mem_nil, or_false] at hKey
  rcases hKey with rfl | rfl | rfl | rfl <;> rfl

theorem lookup_createWorkflowRun (smallwebrtc : Bool) (templates : TemplateContextVariables Context)
    {key : String} (hKey : key ∈ reservedInitialContextKeys) :
    (createWorkflowRun smallwebrtc templates).lookup key = templates.default.lookup key := by
  have hDirection : key ≠ "direction" := by
    rintro rfl
    exact absurd hKey (by decide)
  cases smallwebrtc with
  | false => exact lookup_prepare templates ∅ true key
  | true =>
    rw [createWorkflowRun, if_pos rfl, AList.lookup_insert_ne hDirection]
    exact lookup_prepare templates ∅ true key

theorem lookup_createTextChatSession (requestContext : Context) (templates : TemplateContextVariables Context)
    {key : String} (hKey : key ∈ reservedInitialContextKeys) :
    (createTextChatSession requestContext templates).lookup key = templates.default.lookup key := by
  rw [createTextChatSession, lookup_prepare, lookup_merge_reserved _ _ hKey]
  rfl

theorem ownedAgree_of_templates {templates : TemplateContextVariables (Context × Context)}
    {contextA contextB : Context} (hA : ∀ key ∈ reservedInitialContextKeys,
      contextA.lookup key = (templates.map Prod.fst).default.lookup key)
    (hB : ∀ key ∈ reservedInitialContextKeys,
      contextB.lookup key = (templates.map Prod.snd).default.lookup key) :
    OwnedAgree (.created false contextA) (.created false contextB) ↔
      TemplatesAgree ["provider", "runtime_configuration"] templates := by
  rw [ownedAgree_created_iff, templatesAgree_iff, hA _ correlationIdKey_reserved]
  constructor
  · rintro ⟨hSame, hNone, -⟩
    have hTemplates : ∀ key ∈ reservedInitialContextKeys,
        (templates.map Prod.fst).default.lookup key = (templates.map Prod.snd).default.lookup key :=
      fun key hKey => by rw [← hA key hKey, ← hB key hKey, hSame key hKey]
    rw [forall_reserved_iff] at hTemplates
    obtain ⟨hProvider, hRuntime, hId⟩ := hTemplates
    exact ⟨by simp [hProvider, hRuntime], hId, hNone⟩
  · rintro ⟨hKeys, hId, hNone⟩
    refine ⟨fun key hKey => ?_, hNone, fun hPlaced => Bool.noConfusion hPlaced⟩
    rw [hA key hKey, hB key hKey]
    simp only [reservedInitialContextKeys, List.mem_cons, List.not_mem_nil, or_false] at hKey
    rcases hKey with rfl | rfl | rfl
    · exact hKeys _ (by simp)
    · exact hKeys _ (by simp)
    · exact hId

theorem ownedAgree_of_placed {templates : TemplateContextVariables (Context × Context)}
    {contextA contextB : Context} {provider : Json}
    (hA : ∀ key ∈ reservedInitialContextKeys, contextA.lookup key =
      if key = "provider" then some provider else (templates.map Prod.fst).default.lookup key)
    (hB : ∀ key ∈ reservedInitialContextKeys, contextB.lookup key =
      if key = "provider" then some provider else (templates.map Prod.snd).default.lookup key) :
    OwnedAgree (.created true contextA) (.created true contextB) ↔
      contextA.lookup telephonyConfigurationIdKey = contextB.lookup telephonyConfigurationIdKey ∧
        TemplatesAgree ["runtime_configuration"] templates := by
  rw [ownedAgree_created_iff, templatesAgree_iff, forall_reserved_iff, hA _ correlationIdKey_reserved,
    hB _ correlationIdKey_reserved, hA _ (by decide), hB _ (by decide), hA "runtime_configuration" (by decide),
    hB "runtime_configuration" (by decide)]
  have hId : mpsCorrelationIdContextKey ≠ "provider" := by decide
  simp only [hId, if_false, if_true, forall_const, List.mem_singleton, forall_eq]
  have hRuntime : "runtime_configuration" ≠ "provider" := by decide
  simp only [hRuntime, if_false, true_and]
  constructor
  · rintro ⟨⟨hSame, hIds⟩, hNone, hTelephony⟩
    exact ⟨hTelephony, hSame, hIds, hNone⟩
  · rintro ⟨hTelephony, hSame, hIds, hNone⟩
    exact ⟨⟨hSame, hIds⟩, hNone, hTelephony⟩

theorem resolved_start_iff (call : PublicAgentCall) (requestContext : Context × Context)
    (templates : TemplateContextVariables (Context × Context)) :
    OwnedAgree (.created true (executeResolvedTarget call requestContext.1 (templates.map Prod.fst)))
        (.created true (executeResolvedTarget call requestContext.2 (templates.map Prod.snd))) ↔
      StartAgrees (.executeResolvedTarget call requestContext templates) := by
  rw [StartAgrees, ← @Option.some.injEq Json, ← lookup_executeResolvedTarget_telephony call requestContext.1
    (templates.map Prod.fst), ← lookup_executeResolvedTarget_telephony call requestContext.2
    (templates.map Prod.snd)]
  cases hDraft : call.useDraft with
  | true =>
    have hIff := @ownedAgree_of_placed templates
      (executeResolvedTarget call requestContext.1 (templates.map Prod.fst))
      (executeResolvedTarget call requestContext.2 (templates.map Prod.snd)) (.str call.provider)
      (fun key hKey => (lookup_executeResolvedTarget_reserved _ _ _ hKey).trans (by rw [if_pos hDraft]))
      (fun key hKey => (lookup_executeResolvedTarget_reserved _ _ _ hKey).trans (by rw [if_pos hDraft]))
    simpa using hIff
  | false =>
    -- Without a draft no template variables are taken, which is as if there were none.
    have hNone : TemplatesAgree ["runtime_configuration"] ⟨none, none⟩ := ⟨fun _ _ => rfl, rfl, rfl⟩
    have hUndrafted : call.useDraft ≠ true := by rw [hDraft]; decide
    have hIff := @ownedAgree_of_placed ⟨none, none⟩
      (executeResolvedTarget call requestContext.1 (templates.map Prod.fst))
      (executeResolvedTarget call requestContext.2 (templates.map Prod.snd)) (.str call.provider)
      (fun key hKey => (lookup_executeResolvedTarget_reserved _ _ _ hKey).trans (by rw [if_neg hUndrafted]; rfl))
      (fun key hKey => (lookup_executeResolvedTarget_reserved _ _ _ hKey).trans (by rw [if_neg hUndrafted]; rfl))
    simpa [hNone] using hIff

theorem initiate_start_iff (call : OutboundCall) (templates : TemplateContextVariables (Context × Context)) :
    OwnedAgree (.created true (initiateCall call (templates.map Prod.fst)))
        (.created true (initiateCall call (templates.map Prod.snd))) ↔
      StartAgrees (.initiateCall call templates) := by
  have hReserved : ∀ (templates : TemplateContextVariables Context), ∀ key ∈ reservedInitialContextKeys,
      (initiateCall call templates).lookup key =
        if key = "provider" then some (.str call.provider) else templates.default.lookup key := by
    intro templates key hKey
    have hTelephony : key ≠ telephonyConfigurationIdKey := by
      rintro rfl
      exact telephonyKey_not_reserved hKey
    rw [lookup_initiateCall call templates (List.mem_cons_of_mem _ hKey), if_neg hTelephony]
  rw [ownedAgree_of_placed (hReserved (templates.map Prod.fst)) (hReserved (templates.map Prod.snd)),
    lookup_initiateCall call _ List.mem_cons_self, lookup_initiateCall call _ List.mem_cons_self]
  simp [StartAgrees]

theorem start_agrees_iff (start : Start (Context × Context)) (hA : (start.map Prod.fst).create = some a)
    (hB : (start.map Prod.snd).create = some b) : OwnedAgree a b ↔ StartAgrees start := by
  cases start with
  | executeResolvedTarget call requestContext templates =>
    cases hA
    cases hB
    exact resolved_start_iff call requestContext templates
  | dispatchCall call contextVariables =>
    obtain ⟨contextA, hCallA, rfl⟩ := Option.map_eq_some_iff.mp hA
    obtain ⟨contextB, hCallB, rfl⟩ := Option.map_eq_some_iff.mp hB
    refine iff_of_true ((ownedAgree_created_iff true contextA contextB).mpr ⟨fun key hKey => ?_, ?_, fun _ => ?_⟩)
      trivial
    · rw [lookup_dispatchCall hCallA (List.mem_cons_of_mem _ hKey),
        lookup_dispatchCall hCallB (List.mem_cons_of_mem _ hKey)]
    · rw [lookup_dispatchCall hCallA (by decide)]
      rfl
    · rw [lookup_dispatchCall hCallA List.mem_cons_self, lookup_dispatchCall hCallB List.mem_cons_self]
  | initiateCall call templates =>
    cases hA
    cases hB
    exact initiate_start_iff call templates
  | createWorkflowRun smallwebrtc templates =>
    cases hA
    cases hB
    exact ownedAgree_of_templates (fun key hKey => lookup_createWorkflowRun smallwebrtc _ hKey)
      (fun key hKey => lookup_createWorkflowRun smallwebrtc _ hKey)
  | createTextChatSession requestContext templates =>
    cases hA
    cases hB
    exact ownedAgree_of_templates (fun key hKey => lookup_createTextChatSession requestContext.1 _ hKey)
      (fun key hKey => lookup_createTextChatSession requestContext.2 _ hKey)
  | serve server =>
    cases hA
    cases hB
    refine iff_of_true ((ownedAgree_created_iff false _ _).mpr ⟨fun _ _ => rfl, ?_, fun _ => rfl⟩) trivial
    exact AList.lookup_eq_none.mpr server.noCorrelationId

theorem alike_start (start : Start (Context × Context)) (hA : (start.map Prod.fst).create = some a)
    (hB : (start.map Prod.snd).create = some b) : Alike a b := by
  cases start with
  | dispatchCall call contextVariables =>
    obtain ⟨contextA, -, rfl⟩ := Option.map_eq_some_iff.mp hA
    obtain ⟨contextB, -, rfl⟩ := Option.map_eq_some_iff.mp hB
    exact ⟨rfl, rfl, .none⟩
  | executeResolvedTarget | initiateCall | createWorkflowRun | createTextChatSession | serve =>
    cases hA
    cases hB
    exact ⟨rfl, rfl, .none⟩

/-! ## Whole runs -/

def strOfText (value : Json) : String := value.text?.getD ""

def apiCall : PublicAgentCall where
  provider := "twilio"
  phoneNumber := "+15550100"
  resolvedCfgId := .str "1"
  identifierValue := "agent"
  identifierType := "workflow_uuid"
  workflowUuid := "agent"
  fromPhoneNumberId := none
  apiKeyId := none
  apiKeyCreatedBy := none
  useDraft := false

def browserEvents : List (ContextEvent (Context × Context)) :=
  [.storeRunCorrelationId "c1", .runPipeline (∅, Dict.ofPairs [("name", .str "Ada")]) .null true,
    .preCallFetch (∅, ∅)]

def browserRun : RunContext := .created false (createWorkflowRun true ⟨none, none⟩)

end FastVoice.Workflows
