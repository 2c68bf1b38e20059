import FastVoice.Quota.KeyChecks

/-! # A managed run

The ways in which a run of the managed services is granted, each with the correlation id it stores.
-/
namespace FastVoice.Quota

section

variable {C : Type} {p : Platform C} {iteration : IterationOrder} {workflowRunId : Option Nat}
  {config : UserConfig}

variable (p) in
def Stores (workflowRunId : Option Nat) (correlationId : Option String) : Prop :=
  ∃ id ∈ requiredCorrelationId correlationId,
    (storeRunCorrelationId p workflowRunId (some id)).isOk = true

theorem hasQuota_settleAuthorization {denied : QuotaCheckResult} (hDenied : denied.hasQuota = false)
    {authorization : Authorization} :
    (settleAuthorization p workflowRunId true denied authorization).result.hasQuota = true ↔
      (∃ remaining ∈ authorization.remainingCredits.safeFloat, remaining.isLow = false) ∧
        authorization.allowed = true ∧ Stores p workflowRunId authorization.correlationId := by
  unfold settleAuthorization Stores
  cases authorization.remainingCredits.safeFloat with
  | none => simp [Decision.of, quotaCheckFailed]
  | some remaining =>
    cases hLow : remaining.isLow with
    | true => simp [Decision.of, hDenied, hLow]
    | false =>
      cases authorization.allowed with
      | false => simp [Decision.of, hDenied]
      | true =>
        cases requiredCorrelationId authorization.correlationId with
        | none => simp [Decision.of, quotaCheckFailed, hLow]
        | some id =>
          cases hStore : storeRunCorrelationId p workflowRunId (some id) with
          | error error => simp [Decision.of, quotaCheckFailed, hLow, hStore, Except.isOk, Except.toBool]
          | ok stored => simp [QuotaCheckResult.granted, hLow, hStore, Except.isOk, Except.toBool]

theorem ne_zero_of_run {runId : Nat} (hRun : ∃ run ∈ p.runs, run.id = runId) : runId ≠ 0 := by
  obtain ⟨run, -, rfl⟩ := hRun
  exact Nat.ne_of_gt run.positive

theorem stored_isSome {runId : Nat} {id : String} {stored : Option String}
    (hRun : ∃ run ∈ p.runs, run.id = runId)
    (h : storeRunCorrelationId p (some runId) (some id) = .ok stored) : stored.isSome = true := by
  obtain ⟨run, hRow, rfl⟩ := hRun
  have hFilter : (some run.id).filter (· ≠ 0) = some run.id := by
    simp [Option.filter, Nat.ne_of_gt run.positive]
  unfold storeRunCorrelationId at h
  rw [hFilter] at h
  simp only at h
  split at h
  · cases h
  · split at h
    · rename_i hNone
      exact absurd (List.find?_eq_none.mp hNone run hRow) (by simp)
    · split at h
      · cases h
        rfl
      · split at h
        · cases h
        · cases h
          rfl

theorem correlationId_settleAuthorization {runId : Nat} {denied : QuotaCheckResult}
    (hDenied : denied.hasQuota = false) {authorization : Authorization}
    (hRun : ∃ run ∈ p.runs, run.id = runId)
    (h : (settleAuthorization p (some runId) true denied authorization).result.hasQuota = true) :
    (settleAuthorization p (some runId) true denied authorization).correlationId.isSome = true := by
  obtain ⟨⟨remaining, hRemaining, hLow⟩, hAllowed, id, hId, hStores⟩ :=
    (hasQuota_settleAuthorization hDenied).mp h
  rw [Option.mem_def] at hRemaining hId
  cases hStore : storeRunCorrelationId p (some runId) (some id) with
  | error error =>
    rw [hStore] at hStores
    cases hStores
  | ok stored =>
    simp only [settleAuthorization, hRemaining, hAllowed, hLow, hId, hStore]
    exact stored_isSome hRun hStore

def FallsBack (p : Platform C) (serviceKey : String) : Prop :=
  ∃ response message, p.mps.authorizeServiceKeyRunStart serviceKey = .error (.httpStatus response message) ∧
    response.statusCode ∈ [404, 405]

section Correlation

variable {runId : Nat} {serviceKey : String}

theorem hasQuota_correlation (hRunId : runId ≠ 0) (hManaged : config.usesManagedModelServicesV2 = true)
    (hKey : config.dograhServiceApiKey = some serviceKey) :
    (authorizeOssManagedV2Correlation p (some runId) config).result.hasQuota = true ↔
      ∃ correlationId, p.mps.createCorrelationId serviceKey = .ok (some correlationId) ∧
        Stores p (some runId) correlationId := by
  have hFilter : (some runId).filter (· ≠ 0) = some runId := by simp [Option.filter, hRunId]
  unfold authorizeOssManagedV2Correlation Stores
  simp only [hFilter, hManaged, hKey, Option.isNone_some, Bool.not_true, Bool.or_self, if_false,
    Bool.false_eq_true]
  split
  · rename_i correlationId hCorrelation
    simp only [hCorrelation, Except.ok.injEq, Option.some.injEq, exists_eq_left']
    split
    · rename_i hNone
      simp [Decision.of, quotaCheckFailed, hNone]
    · rename_i id hId
      cases hStore : storeRunCorrelationId p (some runId) (some id) with
      | error error => simp [Decision.of, quotaCheckFailed, hId, hStore, Except.isOk, Except.toBool]
      | ok stored => simp [QuotaCheckResult.granted, hId, hStore, Except.isOk, Except.toBool]
  · rename_i hOther
    refine iff_of_false (by simp [Decision.of, quotaCheckFailed]) ?_
    rintro ⟨correlationId, hCorrelation, -⟩
    exact hOther correlationId hCorrelation

theorem correlationId_correlation (hRun : ∃ run ∈ p.runs, run.id = runId)
    (hManaged : config.usesManagedModelServicesV2 = true)
    (h : (authorizeOssManagedV2Correlation p (some runId) config).result.hasQuota = true) :
    (authorizeOssManagedV2Correlation p (some runId) config).correlationId.isSome = true := by
  have hRunId := ne_zero_of_run hRun
  have hFilter : (some runId).filter (· ≠ 0) = some runId := by simp [Option.filter, hRunId]
  unfold authorizeOssManagedV2Correlation at h ⊢
  simp only [hFilter, hManaged, Option.isNone_some, Bool.not_true, Bool.or_self, if_false,
    Bool.false_eq_true] at h ⊢
  split at h
  · cases h
  · split at h
    · split at h
      · cases h
      · split at h
        · cases h
        · rename_i stored hStore
          simp only
          exact stored_isSome hRun hStore
    · cases h

theorem hasQuota_ossRunAuthorizationDeniedResult (authorization : Authorization) :
    (ossRunAuthorizationDeniedResult authorization).hasQuota = false := by
  unfold ossRunAuthorizationDeniedResult
  split <;> rfl

theorem hasQuota_managed (hRunId : runId ≠ 0) (hManaged : config.usesManagedModelServicesV2 = true)
    (hKey : config.dograhServiceApiKey = some serviceKey) :
    (authorizeOssManagedV2Run p iteration runId serviceKey config).result.hasQuota = true ↔
      (∃ authorization, p.mps.authorizeServiceKeyRunStart serviceKey = .ok (some authorization) ∧
        (∃ remaining ∈ authorization.remainingCredits.safeFloat, remaining.isLow = false) ∧
        authorization.allowed = true ∧ Stores p (some runId) authorization.correlationId) ∨
      FallsBack p serviceKey ∧ ((checkDograhKey p serviceKey).getD .granted).hasQuota = true ∧
        ∃ correlationId, p.mps.createCorrelationId serviceKey = .ok (some correlationId) ∧
          Stores p (some runId) correlationId := by
  unfold authorizeOssManagedV2Run FallsBack
  split
  · rename_i response message hAnswer
    simp only [hAnswer, reduceCtorEq, false_and, exists_false, false_or, Except.error.injEq,
      MpsError.httpStatus.injEq]
    by_cases hStatus : response.statusCode ∈ [404, 405]
    · rw [if_neg (not_not.mpr hStatus), authorizeOssDograhKeys_singleton]
      have hMissing : response.statusCode = 404 ∨ response.statusCode = 405 := by simpa using hStatus
      cases hQuota : ((checkDograhKey p serviceKey).getD .granted).hasQuota with
      | false => simp [Decision.of, hQuota]
      | true => simp [hMissing, hasQuota_correlation hRunId hManaged hKey]
    · rw [if_pos hStatus]
      refine iff_of_false (by simp [Decision.of, quotaCheckFailed]) ?_
      rintro ⟨⟨r, m, ⟨rfl, rfl⟩, hIn⟩, -⟩
      exact hStatus hIn
  · rename_i error hOther hAnswer
    refine iff_of_false (by simp [Decision.of, quotaCheckFailed]) ?_
    rintro (⟨authorization, hOk, -⟩ | ⟨⟨response, message, hStatus, -⟩, -⟩)
    · rw [hAnswer] at hOk
      cases hOk
    · rw [hAnswer] at hStatus
      exact hOther response message (Except.error.inj hStatus)
  · rename_i hAnswer
    refine iff_of_false (by simp [Decision.of, quotaCheckFailed]) ?_
    simp [hAnswer]
  · rename_i authorization hAnswer
    rw [hasQuota_settleAuthorization (hasQuota_ossRunAuthorizationDeniedResult authorization)]
    simp [hAnswer]

end Correlation

end

end FastVoice.Quota

/-! # Fail-closed authorization

The result does not depend on the order in which keys are checked, a key without credits denies the run, and
a managed run is granted only on a confirmed credit and with a correlation id stored, exactly if the keys
that end the check agree, and the answers that grant a managed run are confirmations.
-/
namespace FastVoice.Quota
open FirstFound

section

variable {C : Type} {p : Platform C} {iteration : IterationOrder} {workflowRunId : Option Nat}
  {config : UserConfig}

/-! ## The claim and its condition -/

inductive Reports (p : Platform C) (config : UserConfig) : Credits → Prop where
  | hosted (serviceKey : String) (authorization : Authorization) (hHosted : p.isOss = false)
      (hKey : config.dograhServiceApiKey = some serviceKey)
      (hAnswer : p.mps.authorizeWorkflowRunStart (some serviceKey) = .ok (some authorization)) :
      Reports p config authorization.remainingCredits
  | key (serviceKey : String) (authorization : Authorization) (hOss : p.isOss = true)
      (hKey : config.dograhServiceApiKey = some serviceKey)
      (hAnswer : p.mps.authorizeServiceKeyRunStart serviceKey = .ok (some authorization)) :
      Reports p config authorization.remainingCredits
  | legacy (serviceKey : String) (credits : Credits) (hOss : p.isOss = true)
      (hKey : config.dograhServiceApiKey = some serviceKey) (hFallsBack : FallsBack p serviceKey)
      (hAnswer : p.mps.checkServiceKeyUsage serviceKey = .ok (some credits)) :
      Reports p config credits

def IsManaged (workflowRunId : Option Nat) (config : UserConfig) : Prop :=
  workflowRunId.isSome = true ∧ config.usesManagedModelServicesV2 = true

/-- The claim about a request. What it says of keys and of managed runs concerns those that are not denied
before a configuration is known. -/
structure FailClosed (p : Platform C) (request : StartRequest) : Prop where
  sameInEachOrder : ∀ iteration iteration' : IterationOrder,
    authorizeWorkflowRunStart p iteration request = authorizeWorkflowRunStart p iteration' request
  checkedKeys : ∀ config, authorizedConfig p request = .ok config → p.isOss = true →
    ∀ key ∈ checkedKeys request.workflowRunId config, ∀ credits,
      p.mps.checkServiceKeyUsage key = .ok (some credits) → credits.ReportsLow →
        ∀ iteration, (authorizeWorkflowRunStart p iteration request).result.hasQuota = false
  serviceKey : ∀ config, authorizedConfig p request = .ok config → IsManaged request.workflowRunId config →
    ∀ credits, Reports p config credits → credits.ReportsLow →
      ∀ iteration, (authorizeWorkflowRunStart p iteration request).result.hasQuota = false
  confirmed : ∀ config, authorizedConfig p request = .ok config → IsManaged request.workflowRunId config →
    ∀ iteration, (authorizeWorkflowRunStart p iteration request).result.hasQuota = true →
      (∃ credits, Reports p config credits ∧ credits.Confirms) ∧
        (authorizeWorkflowRunStart p iteration request).correlationId.isSome = true

structure Confirmable (p : Platform C) (workflowRunId : Option Nat) (config : UserConfig) : Prop where
  hosted : p.isOss = false → ∀ serviceKey ∈ config.dograhServiceApiKey, ∀ authorization,
    p.mps.authorizeWorkflowRunStart (some serviceKey) = .ok (some authorization) →
      authorization.allowed = true → Stores p workflowRunId authorization.correlationId →
        authorization.remainingCredits.safeFloat ≠ some .nan
  key : p.isOss = true → ∀ serviceKey ∈ config.dograhServiceApiKey, ∀ authorization,
    p.mps.authorizeServiceKeyRunStart serviceKey = .ok (some authorization) →
      authorization.allowed = true → Stores p workflowRunId authorization.correlationId →
        authorization.remainingCredits.safeFloat ≠ some .nan
  legacy : p.isOss = true → ∀ serviceKey ∈ config.dograhServiceApiKey, FallsBack p serviceKey →
    ∀ correlationId, p.mps.createCorrelationId serviceKey = .ok (some correlationId) →
      Stores p workflowRunId correlationId →
        p.mps.checkServiceKeyUsage serviceKey ≠ .error .unreachable ∧
          p.mps.checkServiceKeyUsage serviceKey ≠ .ok (some (.number .nan))

def SomeKeyDenies (p : Platform C) (workflowRunId : Option Nat) (config : UserConfig) : Prop :=
  p.isOss = true ∧ ∃ key ∈ checkedKeys workflowRunId config, ∃ result,
    checkDograhKey p key = some result ∧ result.hasQuota = false

/-- The keys that end the check come to the same decision, and an answer that would grant a managed run
confirms the credit, unless a key denies the run. -/
structure QuotaCondition (p : Platform C) (workflowRunId : Option Nat) (config : UserConfig) : Prop where
  agree : p.isOss = true → Agree (outcome p workflowRunId config) (checkedKeys workflowRunId config)
  confirmable : IsManaged workflowRunId config →
    SomeKeyDenies p workflowRunId config ∨ Confirmable p workflowRunId config

/-! ## Both directions -/

section Directions

variable {request : StartRequest}

theorem authorize_of_config (hConfig : authorizedConfig p request = .ok config) :
    authorizeWorkflowRunStart p iteration request =
      if p.isOss then authorizeOssRun p iteration request.workflowRunId config
      else authorizeHostedWorkflowRunStart p request.workflowRunId config := by
  rw [authorizeWorkflowRunStart, hConfig]

theorem run_of_runConfigurations {workflow : WorkflowRow C} {organizationId runId : Nat} {configurations : C}
    (h : runConfigurations p workflow organizationId (some runId) = .ok configurations) :
    ∃ run ∈ p.runs, run.id = runId := by
  simp only [runConfigurations] at h
  split at h
  · cases h
  · split at h
    · cases h
    · rename_i run hRun
      have hFound := List.find?_some hRun
      simp only [decide_eq_true_eq] at hFound
      exact ⟨run, List.mem_of_find?_eq_some hRun, hFound.1⟩

theorem run_of_config (hConfig : authorizedConfig p request = .ok config) {runId : Nat}
    (hRunId : request.workflowRunId = some runId) : ∃ run ∈ p.runs, run.id = runId := by
  unfold authorizedConfig at hConfig
  split at hConfig
  · cases hConfig
  · split at hConfig
    · cases hConfig
    · split at hConfig
      · cases hConfig
      · split at hConfig
        · cases hConfig
        · split at hConfig
          · cases hConfig
          · split at hConfig
            · cases hConfig
            · split at hConfig
              · cases hConfig
              · rename_i configurations hConfigurations
                rw [hRunId] at hConfigurations
                exact run_of_runConfigurations hConfigurations

theorem authorizeOssRun_of_hasQuota
    (h : (authorizeOssRun p iteration workflowRunId config).result.hasQuota = true) :
    authorizeOssRun p iteration workflowRunId config = afterChecks p workflowRunId config := by
  rw [authorizeOssRun_eq, findSome?_outcome] at h ⊢
  split at h
  · rename_i hQuota
    rw [if_pos hQuota]
  · rename_i hDenied
    exact absurd h hDenied

theorem sameInEachOrder_ossRun : (∀ iteration iteration' : IterationOrder,
      authorizeOssRun p iteration workflowRunId config = authorizeOssRun p iteration' workflowRunId config) ↔
    Agree (outcome p workflowRunId config) (checkedKeys workflowRunId config) := by
  rw [← sameInEachOrder_iff (afterChecks p workflowRunId config)]
  constructor
  · intro h first second hFirst hSecond
    have hPut : ∀ (keys : List String), keys.Perm (checkedKeys workflowRunId config) →
        ∃ iteration : IterationOrder, authorizeOssRun p iteration workflowRunId config =
          (keys.findSome? (outcome p workflowRunId config)).getD (afterChecks p workflowRunId config) := by
      intro keys hKeys
      refine ⟨⟨fun other => if other = checkedKeys workflowRunId config then keys else other, ?_⟩, ?_⟩
      · intro other
        split
        · rename_i hSame
          rw [hSame]
          exact hKeys
        · exact List.Perm.refl other
      · rw [authorizeOssRun_eq]
        simp only [if_pos]
    obtain ⟨iteration, hIteration⟩ := hPut first hFirst
    obtain ⟨iteration', hIteration'⟩ := hPut second hSecond
    rw [← hIteration, ← hIteration', h iteration iteration']
  · intro h iteration iteration'
    rw [authorizeOssRun_eq, authorizeOssRun_eq]
    exact h _ _ (iteration.perm _) (iteration'.perm _)

theorem denied_of_agree (hAgree : Agree (outcome p workflowRunId config) (checkedKeys workflowRunId config))
    {key : String} (hKey : key ∈ checkedKeys workflowRunId config) {result : QuotaCheckResult}
    (hCheck : checkDograhKey p key = some result) (hDenied : result.hasQuota = false) :
    authorizeOssRun p iteration workflowRunId config = .of result := by
  have hOutcome : outcome p workflowRunId config key = some (.of result) := by
    simp [outcome, hCheck, hDenied]
  rw [authorizeOssRun_eq, findSome?_perm hAgree (iteration.perm _), findSome?_of_agree hAgree hKey hOutcome]
  rfl

theorem hasQuota_hosted {runId : Nat} (hRunId : runId ≠ 0) (hManaged : config.usesManagedModelServicesV2 = true) :
    (authorizeHostedWorkflowRunStart p (some runId) config).result.hasQuota = true ↔
      ∃ serviceKey authorization, config.dograhServiceApiKey = some serviceKey ∧
        p.mps.authorizeWorkflowRunStart (some serviceKey) = .ok (some authorization) ∧
        (∃ remaining ∈ authorization.remainingCredits.safeFloat, remaining.isLow = false) ∧
        authorization.allowed = true ∧ Stores p (some runId) authorization.correlationId := by
  have hFilter : ((some runId).filter (· ≠ 0)).isSome = true := by simp [Option.filter, hRunId]
  simp only [authorizeHostedWorkflowRunStart, hFilter, hManaged, Bool.and_self, if_true, Bool.true_and]
  cases hKey : config.dograhServiceApiKey with
  | none => simp [Decision.of, invalidServiceKey]
  | some serviceKey =>
    simp only [Option.isNone_some, Bool.false_eq_true, if_false]
    split
    · rename_i hAnswer
      simp [Decision.of, quotaCheckFailed, hAnswer]
    · rename_i hAnswer
      refine iff_of_false ?_ (by simp [hAnswer])
      split <;> simp [Decision.of, quotaCheckFailed, serviceKeyOrgMismatch]
    · rename_i hAnswer
      simp [Decision.of, quotaCheckFailed, hAnswer]
    · rename_i authorization hAnswer
      rw [hasQuota_settleAuthorization (show insufficientHostedQuota.hasQuota = false from rfl)]
      simp [hAnswer]

theorem correlationId_hosted {runId : Nat} (hRun : ∃ run ∈ p.runs, run.id = runId)
    (hManaged : config.usesManagedModelServicesV2 = true)
    (h : (authorizeHostedWorkflowRunStart p (some runId) config).result.hasQuota = true) :
    (authorizeHostedWorkflowRunStart p (some runId) config).correlationId.isSome = true := by
  have hRunId := ne_zero_of_run hRun
  obtain ⟨serviceKey, authorization, hKey, hAnswer, hGrants⟩ := (hasQuota_hosted hRunId hManaged).mp h
  have hFilter : ((some runId).filter (· ≠ 0)).isSome = true := by simp [Option.filter, hRunId]
  simp only [authorizeHostedWorkflowRunStart, hFilter, hManaged, hKey, hAnswer, Bool.and_self, if_true,
    Bool.true_and, Option.isNone_some, Bool.false_eq_true, if_false]
  exact correlationId_settleAuthorization rfl hRun ((hasQuota_settleAuthorization rfl).mpr hGrants)

theorem correlationId_managed {runId : Nat} {serviceKey : String} (hRun : ∃ run ∈ p.runs, run.id = runId)
    (hManaged : config.usesManagedModelServicesV2 = true)
    (h : (authorizeOssManagedV2Run p iteration runId serviceKey config).result.hasQuota = true) :
    (authorizeOssManagedV2Run p iteration runId serviceKey config).correlationId.isSome = true := by
  unfold authorizeOssManagedV2Run at h ⊢
  split at h
  · split at h
    · cases h
    · rename_i hStatus
      rw [if_neg hStatus]
      dsimp only at h ⊢
      split at h
      · rename_i hDenied
        exact absurd h (by simpa [Decision.of] using hDenied)
      · rename_i hQuota
        rw [if_neg hQuota]
        exact correlationId_correlation hRun hManaged h
  · cases h
  · cases h
  · exact correlationId_settleAuthorization (hasQuota_ossRunAuthorizationDeniedResult _) hRun h

/-! ### Managed runs -/

section Managed

variable {runId : Nat} (hRun : ∃ run ∈ p.runs, run.id = runId)
  (hManaged : config.usesManagedModelServicesV2 = true)
include hRun hManaged

omit hRun in
theorem afterChecks_managed : afterChecks p (some runId) config =
    match config.dograhServiceApiKey with
    | none => .of invalidServiceKey
    | some serviceKey => authorizeOssManagedV2Run p keptOrder runId serviceKey config := by
  have hFilter : (some runId).filter (fun _ => config.usesManagedModelServicesV2) = some runId := by
    simp [Option.filter, hManaged]
  cases hKey : config.dograhServiceApiKey with
  | none => simp only [afterChecks, hFilter, hKey]
  | some serviceKey => simp only [afterChecks, hFilter, hKey]

theorem hasQuota_afterChecks : (afterChecks p (some runId) config).result.hasQuota = true ↔
    ∃ serviceKey, config.dograhServiceApiKey = some serviceKey ∧
      ((∃ authorization, p.mps.authorizeServiceKeyRunStart serviceKey = .ok (some authorization) ∧
        (∃ remaining ∈ authorization.remainingCredits.safeFloat, remaining.isLow = false) ∧
        authorization.allowed = true ∧ Stores p (some runId) authorization.correlationId) ∨
      FallsBack p serviceKey ∧ ((checkDograhKey p serviceKey).getD .granted).hasQuota = true ∧
        ∃ correlationId, p.mps.createCorrelationId serviceKey = .ok (some correlationId) ∧
          Stores p (some runId) correlationId) := by
  rw [afterChecks_managed hManaged]
  cases hKey : config.dograhServiceApiKey with
  | none => simp [Decision.of, invalidServiceKey]
  | some serviceKey =>
    simp only [Option.some.injEq, exists_eq_left']
    exact hasQuota_managed (ne_zero_of_run hRun) hManaged hKey

theorem correlationId_afterChecks (h : (afterChecks p (some runId) config).result.hasQuota = true) :
    (afterChecks p (some runId) config).correlationId.isSome = true := by
  rw [afterChecks_managed hManaged] at h ⊢
  cases hKey : config.dograhServiceApiKey with
  | none =>
    rw [hKey] at h
    cases h
  | some serviceKey =>
    rw [hKey] at h
    exact correlationId_managed hRun hManaged h

theorem confirmed_hosted_iff (hHosted : p.isOss = false) :
    ((authorizeHostedWorkflowRunStart p (some runId) config).result.hasQuota = true →
      ∃ credits, Reports p config credits ∧ credits.Confirms) ↔ Confirmable p (some runId) config := by
  have hNotOss : p.isOss = true → False := by simp [hHosted]
  rw [hasQuota_hosted (ne_zero_of_run hRun) hManaged]
  constructor
  · intro h
    refine ⟨?_, fun hOss => (hNotOss hOss).elim, fun hOss => (hNotOss hOss).elim⟩
    intro _ serviceKey hKey authorization hAnswer hAllowed hStores hNan
    obtain ⟨credits, hReports, hConfirms⟩ :=
      h ⟨serviceKey, authorization, hKey, hAnswer, ⟨.nan, hNan, rfl⟩, hAllowed, hStores⟩
    cases hReports with
    | hosted key other _ hOwn hOther =>
      obtain rfl := Option.some.inj (hOwn.symm.trans hKey)
      obtain rfl := Option.some.inj (Except.ok.inj (hOther.symm.trans hAnswer))
      exact hConfirms.isNumber hNan
    | key _ _ hOss => exact hNotOss hOss
    | legacy _ _ hOss => exact hNotOss hOss
  · rintro h ⟨serviceKey, authorization, hKey, hAnswer, ⟨remaining, hRemaining, hLow⟩, hAllowed, hStores⟩
    have hNumber := h.hosted hHosted serviceKey hKey authorization hAnswer hAllowed hStores
    refine ⟨_, .hosted serviceKey authorization hHosted hKey hAnswer, ?_⟩
    obtain hEnough | rfl := Amount.isLow_eq_false.mp hLow
    · exact Credits.confirms_of_safeFloat hRemaining hEnough
    · exact absurd hRemaining hNumber

theorem confirmed_afterChecks_iff (hOss : p.isOss = true) :
    ((afterChecks p (some runId) config).result.hasQuota = true →
      ∃ credits, Reports p config credits ∧ credits.Confirms) ↔ Confirmable p (some runId) config := by
  have hNotHosted : p.isOss = false → False := by simp [hOss]
  rw [hasQuota_afterChecks hRun hManaged]
  constructor
  · intro h
    refine ⟨fun hHosted => (hNotHosted hHosted).elim, ?_, ?_⟩
    · intro _ serviceKey hKey authorization hAnswer hAllowed hStores hNan
      obtain ⟨credits, hReports, hConfirms⟩ := h ⟨serviceKey, hKey,
        .inl ⟨authorization, hAnswer, ⟨.nan, hNan, rfl⟩, hAllowed, hStores⟩⟩
      cases hReports with
      | hosted _ _ hHosted => exact hNotHosted hHosted
      | key key other _ hOwn hOther =>
        obtain rfl := Option.some.inj (hOwn.symm.trans hKey)
        obtain rfl := Option.some.inj (Except.ok.inj (hOther.symm.trans hAnswer))
        exact hConfirms.isNumber hNan
      | legacy key _ _ hOwn hFallsBack =>
        obtain rfl := Option.some.inj (hOwn.symm.trans hKey)
        obtain ⟨response, message, hError, -⟩ := hFallsBack
        rw [hAnswer] at hError
        cases hError
    · intro _ serviceKey hKey hFallsBack correlationId hCorrelation hStores
      have hUsage : ((checkDograhKey p serviceKey).getD .granted).hasQuota = true →
          ∃ credits, p.mps.checkServiceKeyUsage serviceKey = .ok (some credits) ∧ credits.Confirms := by
        intro hQuota
        obtain ⟨credits, hReports, hConfirms⟩ := h ⟨serviceKey, hKey,
          .inr ⟨hFallsBack, hQuota, correlationId, hCorrelation, hStores⟩⟩
        obtain ⟨response, message, hError, -⟩ := hFallsBack
        cases hReports with
        | hosted _ _ hHosted => exact (hNotHosted hHosted).elim
        | key key other _ hOwn hOther =>
          obtain rfl := Option.some.inj (hOwn.symm.trans hKey)
          rw [hOther] at hError
          cases hError
        | legacy key _ _ hOwn _ hAnswer =>
          obtain rfl := Option.some.inj (hOwn.symm.trans hKey)
          exact ⟨credits, hAnswer, hConfirms⟩
      constructor
      · intro hUnreachable
        obtain ⟨credits, hAnswer, -⟩ := hUsage (by simp [checkDograhKey, hUnreachable, QuotaCheckResult.granted])
        rw [hUnreachable] at hAnswer
        cases hAnswer
      · intro hNan
        obtain ⟨credits, hAnswer, hConfirms⟩ := hUsage (by
          simp [checkDograhKey, hNan, Credits.isLow, Amount.isLow, Credits.safeFloat, QuotaCheckResult.granted])
        rw [hNan] at hAnswer
        obtain rfl := Option.some.inj (Except.ok.inj hAnswer)
        cases hConfirms
  · rintro h ⟨serviceKey, hKey, hGranted⟩
    obtain ⟨authorization, hAnswer, ⟨remaining, hRemaining, hLow⟩, hAllowed, hStores⟩ |
      ⟨hFallsBack, hQuota, correlationId, hCorrelation, hStores⟩ := hGranted
    · have hNumber := h.key hOss serviceKey hKey authorization hAnswer hAllowed hStores
      refine ⟨_, .key serviceKey authorization hOss hKey hAnswer, ?_⟩
      obtain hEnough | rfl := Amount.isLow_eq_false.mp hLow
      · exact Credits.confirms_of_safeFloat hRemaining hEnough
      · exact absurd hRemaining hNumber
    · obtain ⟨hReached, hNumber⟩ := h.legacy hOss serviceKey hKey hFallsBack correlationId hCorrelation hStores
      cases hCheck : checkDograhKey p serviceKey with
      | some result =>
        rw [hCheck] at hQuota
        exact absurd (granted_of_checkDograhKey hCheck hQuota).2 hReached
      | none =>
        obtain ⟨credits, hAnswer, hPasses⟩ := passes_checkDograhKey hCheck
        refine ⟨credits, .legacy serviceKey credits hOss hKey hFallsBack hAnswer, ?_⟩
        obtain hConfirms | rfl := Credits.confirms_of_isLow hPasses
        · exact hConfirms
        · exact absurd hAnswer hNumber

theorem denied_hosted {credits : Credits} (hHosted : p.isOss = false) (hReports : Reports p config credits)
    (hLow : credits.ReportsLow) :
    (authorizeHostedWorkflowRunStart p (some runId) config).result.hasQuota = false := by
  rw [← Bool.not_eq_true, hasQuota_hosted (ne_zero_of_run hRun) hManaged]
  rintro ⟨serviceKey, authorization, hKey, hAnswer, ⟨remaining, hRemaining, hEnough⟩, -⟩
  cases hReports with
  | hosted key other _ hOwn hOther =>
    obtain rfl := Option.some.inj (hOwn.symm.trans hKey)
    obtain rfl := Option.some.inj (Except.ok.inj (hOther.symm.trans hAnswer))
    rw [hLow.safeFloat remaining hRemaining] at hEnough
    cases hEnough
  | key _ _ hOss => simp [hHosted] at hOss
  | legacy _ _ hOss => simp [hHosted] at hOss

theorem denied_afterChecks {credits : Credits} (hOss : p.isOss = true) (hReports : Reports p config credits)
    (hLow : credits.ReportsLow) : (afterChecks p (some runId) config).result.hasQuota = false := by
  rw [← Bool.not_eq_true, hasQuota_afterChecks hRun hManaged]
  rintro ⟨serviceKey, hKey, hGranted⟩
  cases hReports with
  | hosted _ _ hHosted => simp [hOss] at hHosted
  | key key other _ hOwn hOther =>
    obtain rfl := Option.some.inj (hOwn.symm.trans hKey)
    obtain ⟨authorization, hAnswer, ⟨remaining, hRemaining, hEnough⟩, -⟩ | ⟨⟨_, _, hError, -⟩, -⟩ := hGranted
    · obtain rfl := Option.some.inj (Except.ok.inj (hOther.symm.trans hAnswer))
      rw [hLow.safeFloat remaining hRemaining] at hEnough
      cases hEnough
    · rw [hOther] at hError
      cases hError
  | legacy key _ _ hOwn hFallsBack hAnswer =>
    obtain rfl := Option.some.inj (hOwn.symm.trans hKey)
    obtain ⟨authorization, hOk, -⟩ | ⟨-, hQuota, -⟩ := hGranted
    · obtain ⟨_, _, hError, -⟩ := hFallsBack
      rw [hOk] at hError
      cases hError
    · obtain ⟨result, hCheck, hDenied⟩ := denied_checkDograhKey hAnswer hLow
      rw [hCheck, Option.getD_some, hDenied] at hQuota
      cases hQuota

end Managed

/-! ### The claim -/

theorem managed_run (hConfig : authorizedConfig p request = .ok config)
    (hManaged : IsManaged request.workflowRunId config) :
    ∃ runId, request.workflowRunId = some runId ∧ (∃ run ∈ p.runs, run.id = runId) ∧
      config.usesManagedModelServicesV2 = true := by
  obtain ⟨runId, hRunId⟩ := Option.isSome_iff_exists.mp hManaged.1
  exact ⟨runId, hRunId, run_of_config hConfig hRunId, hManaged.2⟩

theorem failClosed_hosted (hConfig : authorizedConfig p request = .ok config) (hHosted : p.isOss = false) :
    FailClosed p request ↔ QuotaCondition p request.workflowRunId config := by
  have hAuthorize : ∀ iteration, authorizeWorkflowRunStart p iteration request =
      authorizeHostedWorkflowRunStart p request.workflowRunId config := by
    intro iteration
    rw [authorize_of_config hConfig, hHosted]
    rfl
  have hNotOss : p.isOss = true → False := by simp [hHosted]
  constructor
  · intro h
    refine ⟨fun hOss => (hNotOss hOss).elim, fun hManaged => .inr ?_⟩
    obtain ⟨runId, hRunId, hRun, hUses⟩ := managed_run hConfig hManaged
    rw [hRunId]
    refine (confirmed_hosted_iff hRun hUses hHosted).mp fun hQuota => ?_
    have hConfirmed := h.confirmed config hConfig hManaged keptOrder
    rw [hAuthorize, hRunId] at hConfirmed
    exact (hConfirmed hQuota).1
  · intro h
    refine ⟨fun _ _ => by rw [hAuthorize, hAuthorize], fun _ _ hOss => (hNotOss hOss).elim, ?_, ?_⟩
    · intro other hOther hManaged credits hReports hLow iteration
      obtain rfl := Except.ok.inj (hConfig.symm.trans hOther)
      obtain ⟨runId, hRunId, hRun, hUses⟩ := managed_run hConfig hManaged
      rw [hAuthorize, hRunId]
      exact denied_hosted hRun hUses hHosted hReports hLow
    · intro other hOther hManaged iteration
      obtain rfl := Except.ok.inj (hConfig.symm.trans hOther)
      obtain ⟨runId, hRunId, hRun, hUses⟩ := managed_run hConfig hManaged
      have hConfirmable := (h.confirmable hManaged).resolve_left fun hDenies => hNotOss hDenies.1
      rw [hRunId] at hConfirmable
      rw [hAuthorize, hRunId]
      exact fun hQuota => ⟨(confirmed_hosted_iff hRun hUses hHosted).mpr hConfirmable hQuota,
        correlationId_hosted hRun hUses hQuota⟩

theorem quotaCondition_of_failClosed (hConfig : authorizedConfig p request = .ok config) (hOss : p.isOss = true)
    (hAuthorize : ∀ iteration, authorizeWorkflowRunStart p iteration request =
      authorizeOssRun p iteration request.workflowRunId config)
    (h : FailClosed p request) : QuotaCondition p request.workflowRunId config := by
  have hAgree : Agree (outcome p request.workflowRunId config) (checkedKeys request.workflowRunId config) := by
    rw [← sameInEachOrder_ossRun]
    intro iteration iteration'
    rw [← hAuthorize, ← hAuthorize]
    exact h.sameInEachOrder iteration iteration'
  refine ⟨fun _ => hAgree, fun hManaged => ?_⟩
  obtain ⟨runId, hRunId, hRun, hUses⟩ := managed_run hConfig hManaged
  by_cases hDenies : SomeKeyDenies p request.workflowRunId config
  · exact .inl hDenies
  · right
    -- No key denies the run, so that it comes to what follows the checks.
    have hAfter : authorizeOssRun p keptOrder request.workflowRunId config =
        afterChecks p request.workflowRunId config := by
      rw [authorizeOssRun_eq, findSome?_outcome, if_pos]
      cases hFound : (keptOrder.order (checkedKeys request.workflowRunId config)).findSome?
          (checkDograhKey p) with
      | none => rfl
      | some result =>
        obtain ⟨key, hKey, hCheck⟩ := List.exists_of_findSome?_eq_some hFound
        cases hQuota : result.hasQuota with
        | true => exact hQuota
        | false => exact (hDenies ⟨hOss, key, hKey, result, hCheck, hQuota⟩).elim
    have hConfirmed := h.confirmed config hConfig hManaged keptOrder
    rw [hAuthorize, hAfter] at hConfirmed
    rw [hRunId] at hConfirmed ⊢
    exact (confirmed_afterChecks_iff hRun hUses hOss).mp fun hQuota => (hConfirmed hQuota).1

theorem failClosed_of_quotaCondition (hConfig : authorizedConfig p request = .ok config) (hOss : p.isOss = true)
    (hAuthorize : ∀ iteration, authorizeWorkflowRunStart p iteration request =
      authorizeOssRun p iteration request.workflowRunId config)
    (h : QuotaCondition p request.workflowRunId config) : FailClosed p request := by
  have hAgree := h.agree hOss
  have hEnd : ∀ iteration, (authorizeOssRun p iteration request.workflowRunId config).result.hasQuota = true →
      authorizeOssRun p iteration request.workflowRunId config = afterChecks p request.workflowRunId config :=
    fun _ => authorizeOssRun_of_hasQuota
  refine ⟨?_, ?_, ?_, ?_⟩
  · intro iteration iteration'
    rw [hAuthorize, hAuthorize]
    exact sameInEachOrder_ossRun.mpr hAgree iteration iteration'
  · intro other hOther _ key hKey credits hUsage hLow iteration
    obtain rfl := Except.ok.inj (hConfig.symm.trans hOther)
    obtain ⟨result, hCheck, hDenied⟩ := denied_checkDograhKey hUsage hLow
    rw [hAuthorize, denied_of_agree hAgree hKey hCheck hDenied]
    exact hDenied
  · intro other hOther hManaged credits hReports hLow iteration
    obtain rfl := Except.ok.inj (hConfig.symm.trans hOther)
    obtain ⟨runId, hRunId, hRun, hUses⟩ := managed_run hConfig hManaged
    rw [hAuthorize, ← Bool.not_eq_true]
    intro hQuota
    have hAfter := hEnd iteration hQuota
    rw [hAfter, hRunId, denied_afterChecks hRun hUses hOss hReports hLow] at hQuota
    cases hQuota
  · intro other hOther hManaged iteration hQuota
    obtain rfl := Except.ok.inj (hConfig.symm.trans hOther)
    obtain ⟨runId, hRunId, hRun, hUses⟩ := managed_run hConfig hManaged
    rw [hAuthorize] at hQuota ⊢
    obtain ⟨-, key, hKey, result, hCheck, hDenied⟩ | hConfirmable := h.confirmable hManaged
    · rw [denied_of_agree hAgree hKey hCheck hDenied] at hQuota
      rw [show (Decision.of result).result.hasQuota = result.hasQuota from rfl, hDenied] at hQuota
      cases hQuota
    · have hAfter := hEnd iteration hQuota
      rw [hAfter, hRunId] at hQuota ⊢
      rw [hRunId] at hConfirmable
      exact ⟨(confirmed_afterChecks_iff hRun hUses hOss).mpr hConfirmable hQuota,
        correlationId_afterChecks hRun hUses hQuota⟩

/-- The authorization is fail-closed exactly if all keys whose check ends the loop come to one decision, and
an answer that would grant a managed run confirms its credit. -/
theorem fail_closed_iff (p : Platform C) (request : StartRequest) : FailClosed p request ↔
    ∀ config, authorizedConfig p request = .ok config → QuotaCondition p request.workflowRunId config := by
  cases hConfig : authorizedConfig p request with
  | error denied =>
    have hNone : ∀ config, authorizedConfig p request ≠ .ok config := by simp [hConfig]
    refine iff_of_true ⟨?_, fun config hOk => (hNone config hOk).elim, fun config hOk => (hNone config hOk).elim,
      fun config hOk => (hNone config hOk).elim⟩ nofun
    intro iteration iteration'
    rw [authorizeWorkflowRunStart, authorizeWorkflowRunStart, hConfig]
  | ok config =>
    have hOnly : (∀ other, Except.ok config = .ok (ε := QuotaCheckResult) other →
        QuotaCondition p request.workflowRunId other) ↔ QuotaCondition p request.workflowRunId config := by
      simp
    rw [hOnly]
    cases hMode : p.isOss with
    | false => exact failClosed_hosted hConfig hMode
    | true =>
      have hAuthorize : ∀ iteration, authorizeWorkflowRunStart p iteration request =
          authorizeOssRun p iteration request.workflowRunId config := by
        intro iteration
        rw [authorize_of_config hConfig, hMode]
        rfl
      exact ⟨quotaCondition_of_failClosed hConfig hMode hAuthorize,
        failClosed_of_quotaCondition hConfig hMode hAuthorize⟩

end Directions

end

/-! ## A key that cannot be checked -/

def twoKeys : UserConfig where
  managedServiceVersion := none
  llm := some ⟨true, ["empty"]⟩
  stt := some ⟨true, ["away"]⟩
  tts := none
  embeddings := none

def halfReachable : Platform Unit where
  isOss := true
  lower := id
  workflows := [⟨1, 1, 1, ()⟩]
  users := [1]
  memberships := []
  runs := []
  configurationOf _ _ := some twoKeys
  raises _ := false
  mps :=
    { checkServiceKeyUsage := fun key =>
        if key = "empty" then .ok (some (.number (.finite 0))) else .error .unreachable
      authorizeServiceKeyRunStart := fun _ => .error .unreachable
      authorizeWorkflowRunStart := fun _ => .error .unreachable
      createCorrelationId := fun _ => .error .unreachable }

def backwards : IterationOrder := ⟨List.reverse, List.reverse_perm⟩

theorem unreachable_key_first_grants : ¬ ∀ (p : Platform Unit) (request : StartRequest),
    FailClosed p request := by
  intro h
  have hSame := (h halfReachable ⟨1, some 1, none, none⟩).sameInEachOrder keptOrder backwards
  exact absurd hSame (by decide +kernel)

end FastVoice.Quota
