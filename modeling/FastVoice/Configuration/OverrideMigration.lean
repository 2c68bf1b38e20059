import FastVoice.Configuration.Merge
import FastVoice.Runtime.Outcome

/-! # The model overrides of a workflow

A workflow that overrides sections of the model configuration is migrated to one with a complete
configuration of its own. How the sections are resolved and completed is left open here.
-/
namespace FastVoice.Configuration
open Python

inductive MigrationError where
  | httpException (statusCode : Nat) (detail : String)
  | valueError (message : String)
  /-- Any other subclass of `Exception`. -/
  | exception
  deriving DecidableEq

/-- The functions on configurations that the migration uses. A configuration of version 2 is what
`model_dump` makes of it. -/
structure ModelConversion (Effective : Type) where
  resolveEffectiveConfig : Effective → Json → Except MigrationError Effective
  convertLegacyAiModelConfigurationToV2 : Effective → Except MigrationError Json

def overridesKey : String := "model_overrides"

section

variable {Effective : Type} (c : ModelConversion Effective)

def v2Override (baseConfig : Effective) (modelOverrides : Json) : Except MigrationError Json := do
  let effective ← c.resolveEffectiveConfig baseConfig modelOverrides
  c.convertLegacyAiModelConfigurationToV2 effective

def migrateWorkflowConfigurationModelOverrideToV2 (workflowConfigurations : Json) (baseConfig : Effective) :
    Except MigrationError (Json × Bool) :=
  if workflowConfigurations.isDict = false then .ok (.obj [], false)
  else if (workflowConfigurations.get overridesKey).isDict = false then
    if workflowConfigurations.has overridesKey then .ok (workflowConfigurations.pop overridesKey, true)
    else .ok (workflowConfigurations, false)
  else if (workflowConfigurations.get v2OverrideKey).truthy then
    .ok (workflowConfigurations.pop overridesKey, true)
  else
    (v2Override c baseConfig (workflowConfigurations.get overridesKey)).map fun v2 =>
      ((workflowConfigurations.set v2OverrideKey v2).pop overridesKey, true)

end

section

variable {Effective : Type} {c : ModelConversion Effective} {configurations migrated : Json}
  {baseConfig : Effective} {changed : Bool}

theorem has_pop_self (j : Json) (key : String) : (j.pop key).has key = false := by
  cases j with
  | obj entries =>
    simp only [Json.pop, Json.has, Json.lookup_filter_ne, if_true]
    rfl
  | _ => rfl

theorem has_eq_false_of_not_isDict {j : Json} (h : j.isDict = false) (key : String) : j.has key = false := by
  cases j with
  | obj entries => cases h
  | _ => rfl

theorem has_of_isDict_get {j : Json} {key : String} (h : (j.get key).isDict = true) : j.has key = true := by
  cases j with
  | obj entries =>
    rw [Json.has]
    cases hEntry : entries.lookup key with
    | some value => rfl
    | none => simp [Json.get, hEntry, Json.isDict] at h
  | _ => cases h

theorem migrate_spec
    (h : migrateWorkflowConfigurationModelOverrideToV2 c configurations baseConfig = .ok (migrated, changed)) :
    changed = configurations.has overridesKey ∧ migrated.has overridesKey = false := by
  unfold migrateWorkflowConfigurationModelOverrideToV2 at h
  split at h
  · rename_i hDict
    cases h
    exact ⟨(has_eq_false_of_not_isDict hDict _).symm, rfl⟩
  · split at h
    · split at h
      · rename_i hHas
        cases h
        exact ⟨hHas.symm, has_pop_self _ _⟩
      · rename_i hHas
        cases h
        exact ⟨(Bool.eq_false_iff.mpr hHas).symm, Bool.eq_false_iff.mpr hHas⟩
    · rename_i hOverrides
      have hHas := has_of_isDict_get (Bool.not_eq_false _ ▸ hOverrides)
      split at h
      · cases h
        exact ⟨hHas.symm, has_pop_self _ _⟩
      · obtain ⟨v2, -, hMigrated⟩ := Outcome.map_eq_ok_iff.mp h
        cases hMigrated
        exact ⟨hHas.symm, has_pop_self _ _⟩

end

end FastVoice.Configuration
