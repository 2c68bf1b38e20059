import FastVoice.Quota.Authorization
import FastVoice.Runtime.Grouping

/-! # The loop over the keys

What one answer decides, and what is left of the loop when the order of the set is left out: the first
outcome among the checked keys, else what follows the loop.
-/
namespace FastVoice.Quota
open FirstFound

namespace Credits

theorem ReportsLow.safeFloat {credits : Credits} (h : credits.ReportsLow) :
    ∀ remaining ∈ credits.safeFloat, remaining.isLow = true := by
  intro remaining hRemaining
  cases credits with
  | flag value =>
    obtain rfl : value = false := h
    obtain rfl := Option.some.inj hRemaining
    exact decide_eq_true (by norm_num [minimumDograhCreditsForCall])
  | integer value =>
    simp only [Credits.safeFloat, Option.mem_def, Option.ite_none_left_eq_some, Option.some.injEq] at hRemaining
    obtain ⟨-, rfl⟩ := hRemaining
    have hLe : (value : ℚ) ≤ 0 := by exact_mod_cast (show value ≤ 0 from h)
    refine decide_eq_true (lt_of_le_of_lt hLe ?_)
    norm_num [minimumDograhCreditsForCall]
  | number value =>
    obtain rfl := Option.some.inj hRemaining
    exact h
  | text read =>
    cases read with
    | none => cases h
    | some value =>
      obtain rfl := Option.some.inj hRemaining
      exact h
  | _ => cases h

theorem confirms_of_safeFloat {credits : Credits} {remaining : Amount}
    (h : credits.safeFloat = some remaining) (hEnough : remaining.isEnough = true) : credits.Confirms := by
  have hPositive : 0 < minimumDograhCreditsForCall := by norm_num [minimumDograhCreditsForCall]
  have hZero : (Amount.finite 0).isEnough = false := decide_eq_false hPositive.not_ge
  cases credits with
  | flag value =>
    obtain rfl := Option.some.inj h
    cases value with
    | false => exact absurd (hZero.symm.trans hEnough) (by decide)
    | true => rfl
  | integer value =>
    simp only [Credits.safeFloat, Option.ite_none_left_eq_some, Option.some.injEq] at h
    obtain ⟨-, rfl⟩ := h
    have hLe : minimumDograhCreditsForCall ≤ (value : ℚ) := of_decide_eq_true hEnough
    have hLt : (0 : ℚ) < value := lt_of_lt_of_le hPositive hLe
    exact_mod_cast hLt
  | number value =>
    obtain rfl := Option.some.inj h
    exact hEnough
  | text read =>
    cases read with
    | none =>
      obtain rfl := Option.some.inj h
      exact absurd (hZero.symm.trans hEnough) (by decide)
    | some value =>
      obtain rfl := Option.some.inj h
      exact hEnough
  | _ =>
    obtain rfl := Option.some.inj h
    exact absurd (hZero.symm.trans hEnough) (by decide)

theorem Confirms.isNumber {credits : Credits} (h : credits.Confirms) : credits.safeFloat ≠ some .nan := by
  intro hNan
  cases credits with
  | flag value => cases hNan
  | integer value => simp [Credits.safeFloat] at hNan
  | number value =>
    obtain rfl := Option.some.inj hNan
    cases h
  | text read =>
    cases read with
    | none => cases h
    | some value =>
      obtain rfl := Option.some.inj hNan
      cases h
  | _ => cases h

theorem confirms_of_isLow {credits : Credits} (h : credits.isLow = some false) :
    credits.Confirms ∨ credits = .number .nan := by
  cases credits with
  | flag value =>
    have hValue : value = true := by simpa [Credits.isLow] using h
    exact .inl hValue
  | integer value =>
    left
    simpa [Credits.isLow, Credits.Confirms] using h
  | number value =>
    obtain hEnough | rfl := Amount.isLow_eq_false.mp (Option.some.inj h)
    · exact .inl hEnough
    · exact .inr rfl
  | _ => simp [Credits.isLow] at h

theorem ReportsLow.not_passes {credits : Credits} (h : credits.ReportsLow) : credits.isLow ≠ some false := by
  cases credits with
  | flag value =>
    obtain rfl : value = false := h
    decide
  | integer value => simpa [Credits.isLow] using (show value ≤ 0 from h)
  | number value => simp [Credits.isLow, show value.isLow = true from h]
  | text read => simp [Credits.isLow]
  | _ => cases h

end Credits

section

variable {C : Type} {p : Platform C} {iteration : IterationOrder} {workflowRunId : Option Nat}
  {config : UserConfig}

theorem hasQuota_keyErrorResult (message : String) : (keyErrorResult p message).hasQuota = false := by
  unfold keyErrorResult
  split <;> rfl

theorem granted_of_checkDograhKey {apiKey : String} {result : QuotaCheckResult}
    (h : checkDograhKey p apiKey = some result) (hQuota : result.hasQuota = true) :
    result = .granted ∧ p.mps.checkServiceKeyUsage apiKey = .error .unreachable := by
  unfold checkDograhKey at h
  split at h
  · rename_i hUsage
    exact ⟨(Option.some.inj h).symm, hUsage⟩
  · obtain rfl := Option.some.inj h
    rw [hasQuota_keyErrorResult] at hQuota
    cases hQuota
  · obtain rfl := Option.some.inj h
    rw [hasQuota_keyErrorResult] at hQuota
    cases hQuota
  · obtain rfl := Option.some.inj h
    cases hQuota
  · split at h
    · obtain rfl := Option.some.inj h
      cases hQuota
    · obtain rfl := Option.some.inj h
      cases hQuota
    · split at h
      · obtain rfl := Option.some.inj h
        cases hQuota
      · cases h

theorem passes_checkDograhKey {apiKey : String} (h : checkDograhKey p apiKey = none) :
    ∃ credits, p.mps.checkServiceKeyUsage apiKey = .ok (some credits) ∧ credits.isLow = some false := by
  unfold checkDograhKey at h
  split at h
  · cases h
  · cases h
  · cases h
  · cases h
  · rename_i credits hUsage
    split at h
    · cases h
    · cases h
    · rename_i hLow
      exact ⟨credits, hUsage, hLow⟩

theorem denied_checkDograhKey {apiKey : String} {credits : Credits}
    (hUsage : p.mps.checkServiceKeyUsage apiKey = .ok (some credits)) (hLow : credits.ReportsLow) :
    ∃ result, checkDograhKey p apiKey = some result ∧ result.hasQuota = false := by
  cases hCheck : checkDograhKey p apiKey with
  | none =>
    obtain ⟨found, hFound, hPasses⟩ := passes_checkDograhKey hCheck
    rw [hUsage] at hFound
    cases hFound
    exact absurd hPasses hLow.not_passes
  | some result =>
    refine ⟨result, rfl, ?_⟩
    cases hQuota : result.hasQuota with
    | false => rfl
    | true =>
      obtain ⟨-, hUnreachable⟩ := granted_of_checkDograhKey hCheck hQuota
      rw [hUsage] at hUnreachable
      cases hUnreachable

theorem authorizeOssDograhKeys_singleton (apiKey : String) :
    authorizeOssDograhKeys p iteration [apiKey] = (checkDograhKey p apiKey).getD .granted := by
  rw [authorizeOssDograhKeys, List.perm_singleton.mp (iteration.perm [apiKey]), List.findSome?_cons]
  cases checkDograhKey p apiKey <;> rfl

def checkedKeys (workflowRunId : Option Nat) (config : UserConfig) : List String :=
  match workflowRunId.filter fun _ => config.usesManagedModelServicesV2 with
  | none => config.dograhApiKeys
  | some _ =>
    match config.dograhServiceApiKey with
    | none => []
    | some correlationServiceKey => config.dograhApiKeys.filter fun key => key ≠ correlationServiceKey

def keptOrder : IterationOrder := ⟨id, fun keys => List.Perm.refl keys⟩

variable (p) in
def afterChecks (workflowRunId : Option Nat) (config : UserConfig) : Decision :=
  match workflowRunId.filter fun _ => config.usesManagedModelServicesV2 with
  | none => .of .granted
  | some workflowRunId =>
    match config.dograhServiceApiKey with
    | none => .of invalidServiceKey
    | some correlationServiceKey =>
      authorizeOssManagedV2Run p keptOrder workflowRunId correlationServiceKey config

variable (p) in
def outcome (workflowRunId : Option Nat) (config : UserConfig) (apiKey : String) : Option Decision :=
  (checkDograhKey p apiKey).map fun result =>
    if result.hasQuota then afterChecks p workflowRunId config else .of result

theorem authorizeOssManagedV2Run_order (workflowRunId : Nat) (serviceKey : String) :
    authorizeOssManagedV2Run p iteration workflowRunId serviceKey config =
      authorizeOssManagedV2Run p keptOrder workflowRunId serviceKey config := by
  simp only [authorizeOssManagedV2Run, authorizeOssDograhKeys_singleton]

theorem findSome?_outcome (keys : List String) :
    (keys.findSome? (outcome p workflowRunId config)).getD (afterChecks p workflowRunId config) =
      if ((keys.findSome? (checkDograhKey p)).getD .granted).hasQuota then afterChecks p workflowRunId config
      else .of ((keys.findSome? (checkDograhKey p)).getD .granted) := by
  have hLoop : keys.findSome? (outcome p workflowRunId config) =
      (keys.findSome? (checkDograhKey p)).map fun result =>
        if result.hasQuota then afterChecks p workflowRunId config else .of result := by
    rw [List.map_findSome?]
    rfl
  rw [hLoop]
  cases keys.findSome? (checkDograhKey p) with
  | none => rfl
  | some result => rfl

theorem granted_of_loop {keys : List String}
    (h : ((keys.findSome? (checkDograhKey p)).getD .granted).hasQuota = true) :
    (keys.findSome? (checkDograhKey p)).getD .granted = .granted := by
  cases hFound : keys.findSome? (checkDograhKey p) with
  | none => rfl
  | some result =>
    rw [hFound] at h
    obtain ⟨key, -, hKey⟩ := List.exists_of_findSome?_eq_some hFound
    exact (granted_of_checkDograhKey hKey h).1

theorem loop_of_ne_nil (keys : List String) :
    (if keys ≠ [] then authorizeOssDograhKeys p iteration keys else .granted) =
      ((iteration.order keys).findSome? (checkDograhKey p)).getD .granted := by
  split
  · rfl
  · rename_i hKeys
    rw [not_not.mp hKeys, List.perm_nil.mp (iteration.perm [])]
    rfl

theorem authorizeOssRun_eq : authorizeOssRun p iteration workflowRunId config =
    ((iteration.order (checkedKeys workflowRunId config)).findSome? (outcome p workflowRunId config)).getD
      (afterChecks p workflowRunId config) := by
  rw [findSome?_outcome]
  cases hManaged : workflowRunId.filter fun _ => config.usesManagedModelServicesV2 with
  | none =>
    have hKeys : checkedKeys workflowRunId config = config.dograhApiKeys := by
      simp only [checkedKeys, hManaged]
    have hAfter : afterChecks p workflowRunId config = .of .granted := by simp only [afterChecks, hManaged]
    have hRun : authorizeOssRun p iteration workflowRunId config =
        .of (if config.dograhApiKeys ≠ [] then authorizeOssDograhKeys p iteration config.dograhApiKeys
          else .granted) := by
      simp only [authorizeOssRun, hManaged]
      split <;> rfl
    rw [hRun, hKeys, hAfter, loop_of_ne_nil]
    split
    · rename_i hQuota
      rw [granted_of_loop hQuota]
    · rfl
  | some runId =>
    cases hService : config.dograhServiceApiKey with
    | none =>
      have hKeys : checkedKeys workflowRunId config = [] := by simp only [checkedKeys, hManaged, hService]
      rw [hKeys, List.perm_nil.mp (iteration.perm [])]
      simp only [authorizeOssRun, afterChecks, hManaged, hService]
      rfl
    | some serviceKey =>
      have hKeys : checkedKeys workflowRunId config = config.dograhApiKeys.filter fun key =>
          key ≠ serviceKey := by
        simp only [checkedKeys, hManaged, hService]
      rw [hKeys, ← loop_of_ne_nil]
      simp only [authorizeOssRun, afterChecks, hManaged, hService]
      rw [authorizeOssManagedV2Run_order]
      cases (if (config.dograhApiKeys.filter fun key => key ≠ serviceKey) ≠ [] then
        authorizeOssDograhKeys p iteration (config.dograhApiKeys.filter fun key => key ≠ serviceKey)
        else QuotaCheckResult.granted).hasQuota <;> rfl

end

end FastVoice.Quota
