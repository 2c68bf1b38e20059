import FastVoice.Async.System
import FastVoice.Configuration.OverrideMigration

/-! # The request that migrates the model configuration of an organization

It writes the organization's row in one transaction and the rows of the workflows in another. Any await may
fail, with what it has written or without.
-/
namespace FastVoice.Configuration
open Python Async

structure ModelDefinition where
  id : Nat
  workflowConfigurations : Json

structure ModelWorkflow where
  id : Nat
  workflowConfigurations : Json
  definitions : List ModelDefinition

structure ModelStore where
  configuration : Option Json
  workflows : List ModelWorkflow

inductive MigrationStep where
  | getOrganizationConfiguration
  | getUserConfigurations
  | validate
  | ensureHostedBillingAccount
  | upsertOrganizationConfiguration
  | listWorkflows
  | bulkUpdateWorkflows
  | resolveResponse
  deriving DecidableEq

structure MigrationRequest (Effective : Type) where
  conversion : ModelConversion Effective
  force : Bool
  isOss : Bool
  legacy : Effective
  isValid : Json → Bool
  outcomes : MigrationStep → Outcome MigrationError

namespace MigrationRequest

variable {Effective : Type} (r : MigrationRequest Effective)

def await (step : MigrationStep) : Except MigrationError Unit :=
  match (r.outcomes step).raised with
  | none => .ok ()
  | some error => .error error

def unprocessable : MigrationError → MigrationError
  | .valueError message => .httpException 422 message
  | error => error

def prepare (s : ModelStore) : Except MigrationError Json := do
  r.await .getOrganizationConfiguration
  if (s.configuration.filter fun row => row.truthy && r.isValid row).isSome && !r.force then
    throw (.httpException 409 "Organization already has a v2 model configuration")
  r.await .getUserConfigurations
  let configuration ←
    (r.conversion.convertLegacyAiModelConfigurationToV2 r.legacy).mapError unprocessable
  (r.await .validate).mapError unprocessable
  unless r.isOss do
    (r.await .ensureHostedBillingAccount).mapError fun _ =>
      .httpException 502 "Failed to initialize MPS billing account"
  return configuration

def rowUpdate (id : Nat) (workflowConfigurations : Json) : Except MigrationError (Option (Nat × Json)) :=
  (migrateWorkflowConfigurationModelOverrideToV2 r.conversion workflowConfigurations r.legacy).map
    fun (migrated, changed) => if changed then some (id, migrated) else none

def workflowUpdate (workflow : ModelWorkflow) :
    Except MigrationError (Option (Nat × Json) × List (Nat × Json)) := do
  let own ← r.rowUpdate workflow.id workflow.workflowConfigurations
  let definitions ← workflow.definitions.mapM fun definition =>
    r.rowUpdate definition.id definition.workflowConfigurations
  return (own, definitions.filterMap id)

def updates (s : ModelStore) : Except MigrationError (List (Nat × Json) × List (Nat × Json)) := do
  let updates ← s.workflows.mapM r.workflowUpdate
  return (updates.filterMap Prod.fst, updates.flatMap Prod.snd)

end MigrationRequest

def afterUpdates (updates : List (Nat × Json)) (id : Nat) (workflowConfigurations : Json) : Json :=
  updates.foldl (fun stored update => if update.1 = id then update.2 else stored) workflowConfigurations

def ModelDefinition.update (updates : List (Nat × Json)) (definition : ModelDefinition) : ModelDefinition :=
  ⟨definition.id, afterUpdates updates definition.id definition.workflowConfigurations⟩

def ModelWorkflow.update (workflowUpdates definitionUpdates : List (Nat × Json)) (workflow : ModelWorkflow) :
    ModelWorkflow where
  id := workflow.id
  workflowConfigurations := afterUpdates workflowUpdates workflow.id workflow.workflowConfigurations
  definitions := workflow.definitions.map (ModelDefinition.update definitionUpdates)

def ModelStore.bulkUpdate (s : ModelStore) (workflowUpdates definitionUpdates : List (Nat × Json)) :
    ModelStore :=
  { s with workflows := s.workflows.map (ModelWorkflow.update workflowUpdates definitionUpdates) }

namespace MigrationRequest

variable {Effective : Type} (r : MigrationRequest Effective)

def write (step : MigrationStep) (written : ModelStore) (s : ModelStore) :
    Except MigrationError Unit × ModelStore :=
  (r.await step, if (r.outcomes step).executed then written else s)

def migrateWorkflows (s : ModelStore) : Except MigrationError Unit × ModelStore :=
  match r.await .listWorkflows with
  | .error error => (.error error, s)
  | .ok () =>
    match r.updates s with
    | .error error => (.error error, s)
    | .ok (workflowUpdates, definitionUpdates) =>
      if workflowUpdates = [] ∧ definitionUpdates = [] then (.ok (), s)
      else r.write .bulkUpdateWorkflows (s.bulkUpdate workflowUpdates definitionUpdates) s

def run (s : ModelStore) : Except MigrationError Unit × ModelStore :=
  match r.prepare s with
  | .error error => (.error error, s)
  | .ok configuration =>
    match r.write .upsertOrganizationConfiguration { s with configuration := some configuration } s with
    | (.error error, written) => (.error error, written)
    | (.ok (), written) =>
      match r.migrateWorkflows written with
      | (.error error, migrated) => (.error error, migrated)
      | (.ok (), migrated) => (r.await .resolveResponse, migrated)

end MigrationRequest

def ModelStore.NoOverrides (s : ModelStore) : Prop :=
  ∀ workflow ∈ s.workflows, workflow.workflowConfigurations.has overridesKey = false ∧
    ∀ definition ∈ workflow.definitions, definition.workflowConfigurations.has overridesKey = false

/-- A request that raises changes nothing, and one that succeeds migrates everything. -/
structure AllOrNothing (s : ModelStore) (result : Except MigrationError Unit × ModelStore) : Prop where
  raised : ∀ error, result.1 = .error error → result.2 = s
  succeeded : result.1 = .ok () → result.2.configuration.isSome = true ∧ result.2.NoOverrides

namespace MigrationRequest

variable {Effective : Type} (r : MigrationRequest Effective)

def Completable (s : ModelStore) : Prop := ∃ updates, r.updates s = .ok updates

def ReplacesOverrides (s : ModelStore) : Prop :=
  r.await .upsertOrganizationConfiguration = .ok () ∧ r.await .listWorkflows = .ok () ∧ r.Completable s ∧
    ¬s.NoOverrides ∧ (r.outcomes .bulkUpdateWorkflows).executed = true

/-- Once the organization's row is written, nothing fails. -/
def NothingFails (s : ModelStore) : Prop :=
  r.await .upsertOrganizationConfiguration = .ok () ∧ r.await .listWorkflows = .ok () ∧ r.Completable s ∧
    (s.NoOverrides ∨ r.await .bulkUpdateWorkflows = .ok ()) ∧ r.await .resolveResponse = .ok ()

/-- Where the organization's row is written, nothing fails afterwards, or the row and the workflows are what
they were. -/
def KeepsOrMigrates (s : ModelStore) : Prop :=
  ∀ configuration, r.prepare s = .ok configuration →
    (r.outcomes .upsertOrganizationConfiguration).executed = true →
      r.NothingFails s ∨ s.configuration = some configuration ∧ ¬r.ReplacesOverrides s

end MigrationRequest

section Updates

variable {Effective : Type} {r : MigrationRequest Effective} {s : ModelStore}

theorem rowUpdate_spec {rowId : Nat} {configurations : Json} {update : Option (Nat × Json)}
    (h : r.rowUpdate rowId configurations = .ok update) :
    (update = none ↔ configurations.has overridesKey = false) ∧
      ∀ row ∈ update, row.1 = rowId ∧ row.2.has overridesKey = false := by
  obtain ⟨⟨migrated, changed⟩, hMigrated, rfl⟩ := Outcome.map_eq_ok_iff.mp h
  obtain ⟨hChanged, hNone⟩ := migrate_spec hMigrated
  cases changed with
  | true => simpa [← hChanged] using hNone
  | false => simpa using hChanged.symm

theorem has_afterUpdates {updates : List (Nat × Json)} {rowId : Nat} {configurations : Json}
    (hUpdates : ∀ update ∈ updates, update.2.has overridesKey = false)
    (h : configurations.has overridesKey = false ∨ ∃ update ∈ updates, update.1 = rowId) :
    (afterUpdates updates rowId configurations).has overridesKey = false := by
  induction updates generalizing configurations with
  | nil =>
    obtain h | ⟨_, hMem, -⟩ := h
    · exact h
    · cases hMem
  | cons update updates ih =>
    obtain ⟨hFirst, hRest⟩ := List.forall_mem_cons.mp hUpdates
    apply ih hRest
    obtain h | ⟨own, hOwn, hId⟩ := h
    · left
      dsimp only
      split
      · exact hFirst
      · exact h
    · obtain rfl | hOwn := List.mem_cons.mp hOwn
      · left
        dsimp only
        rw [if_pos hId]
        exact hFirst
      · exact .inr ⟨own, hOwn, hId⟩

structure Covers (rows : List (Nat × Json)) (updates : List (Nat × Json)) : Prop where
  migrated : ∀ update ∈ updates, update.2.has overridesKey = false
  covered : ∀ row ∈ rows, row.2.has overridesKey = true → ∃ update ∈ updates, update.1 = row.1
  needed : ∀ update ∈ updates, ∃ row ∈ rows, row.2.has overridesKey = true

theorem Covers.append {rows rows' updates updates' : List (Nat × Json)} (h : Covers rows updates)
    (h' : Covers rows' updates') : Covers (rows ++ rows') (updates ++ updates') where
  migrated := List.forall_mem_append.mpr ⟨h.migrated, h'.migrated⟩
  covered := by
    refine List.forall_mem_append.mpr ⟨fun row hRow hHas => ?_, fun row hRow hHas => ?_⟩
    · obtain ⟨update, hUpdate, hId⟩ := h.covered row hRow hHas
      exact ⟨update, List.mem_append_left _ hUpdate, hId⟩
    · obtain ⟨update, hUpdate, hId⟩ := h'.covered row hRow hHas
      exact ⟨update, List.mem_append_right _ hUpdate, hId⟩
  needed := by
    refine List.forall_mem_append.mpr ⟨fun update hUpdate => ?_, fun update hUpdate => ?_⟩
    · obtain ⟨row, hRow, hHas⟩ := h.needed update hUpdate
      exact ⟨row, List.mem_append_left _ hRow, hHas⟩
    · obtain ⟨row, hRow, hHas⟩ := h'.needed update hUpdate
      exact ⟨row, List.mem_append_right _ hRow, hHas⟩

theorem covers_row {rowId : Nat} {configurations : Json} {update : Option (Nat × Json)}
    (h : r.rowUpdate rowId configurations = .ok update) : Covers [(rowId, configurations)] update.toList := by
  obtain ⟨hNone, hSome⟩ := rowUpdate_spec h
  cases update with
  | none =>
    have hClean := hNone.mp rfl
    constructor <;> simp [hClean]
  | some update =>
    obtain ⟨hId, hMigrated⟩ := hSome update rfl
    have hHas : configurations.has overridesKey = true := by
      rw [← Bool.not_eq_false]
      exact fun hClean => nomatch hNone.mpr hClean
    constructor <;> simp [hId, hMigrated, hHas]

theorem covers_definitions {definitions : List ModelDefinition} {updates : List (Option (Nat × Json))}
    (h : definitions.mapM (fun definition => r.rowUpdate definition.id definition.workflowConfigurations) =
      .ok updates) :
    Covers (definitions.map fun definition => (definition.id, definition.workflowConfigurations))
      (updates.filterMap id) := by
  have hRows := Outcome.mapM_eq_ok_iff.mp h
  clear h
  induction hRows with
  | nil => constructor <;> simp
  | cons hRow _ ih =>
    rename_i update _ updates _
    have hAll := (covers_row hRow).append ih
    have hUpdates : (update :: updates).filterMap id = update.toList ++ updates.filterMap id := by
      cases update <;> rfl
    rw [hUpdates]
    exact hAll

def workflowRows (s : ModelStore) : List (Nat × Json) :=
  s.workflows.map fun workflow => (workflow.id, workflow.workflowConfigurations)

def definitionRows (s : ModelStore) : List (Nat × Json) :=
  s.workflows.flatMap fun workflow =>
    workflow.definitions.map fun definition => (definition.id, definition.workflowConfigurations)

theorem noOverrides_iff : s.NoOverrides ↔ (∀ row ∈ workflowRows s, row.2.has overridesKey = false) ∧
    ∀ row ∈ definitionRows s, row.2.has overridesKey = false := by
  simp only [ModelStore.NoOverrides, workflowRows, definitionRows, List.forall_mem_map, List.mem_flatMap]
  constructor
  · intro h
    refine ⟨fun workflow hWorkflow => (h workflow hWorkflow).1, ?_⟩
    rintro row ⟨workflow, hWorkflow, hRow⟩
    obtain ⟨definition, hDefinition, rfl⟩ := List.mem_map.mp hRow
    exact (h workflow hWorkflow).2 definition hDefinition
  · rintro ⟨hOwn, hDefinitions⟩ workflow hWorkflow
    refine ⟨hOwn workflow hWorkflow, fun definition hDefinition => ?_⟩
    exact hDefinitions _ ⟨workflow, hWorkflow, List.mem_map_of_mem hDefinition⟩

theorem covers_updates {workflowUpdates definitionUpdates : List (Nat × Json)}
    (h : r.updates s = .ok (workflowUpdates, definitionUpdates)) :
    Covers (workflowRows s) workflowUpdates ∧ Covers (definitionRows s) definitionUpdates := by
  obtain ⟨updates, hUpdates, hSame⟩ := Outcome.bind_eq_ok_iff.mp h
  cases hSame
  have hRows := Outcome.mapM_eq_ok_iff.mp hUpdates
  rw [workflowRows, definitionRows]
  clear h hUpdates
  generalize s.workflows = workflows at hRows
  induction hRows with
  | nil =>
    constructor
    · constructor <;> simp
    · constructor <;> simp
  | cons hRow _ ih =>
    rename_i workflow _ _ updates _
    obtain ⟨own, hOwn, hRest⟩ := Outcome.bind_eq_ok_iff.mp hRow
    obtain ⟨definitions, hDefinitions, hSame⟩ := Outcome.bind_eq_ok_iff.mp hRest
    cases hSame
    constructor
    · have hOwnUpdates : ((own, definitions.filterMap id) :: updates).filterMap Prod.fst =
          own.toList ++ updates.filterMap Prod.fst := by
        cases own <;> rfl
      rw [hOwnUpdates]
      exact (covers_row hOwn).append ih.1
    · exact (covers_definitions hDefinitions).append ih.2

theorem updates_eq_nil_iff {workflowUpdates definitionUpdates : List (Nat × Json)}
    (h : r.updates s = .ok (workflowUpdates, definitionUpdates)) :
    workflowUpdates = [] ∧ definitionUpdates = [] ↔ s.NoOverrides := by
  obtain ⟨hWorkflows, hDefinitions⟩ := covers_updates h
  have hEmpty : ∀ {rows updates : List (Nat × Json)}, Covers rows updates →
      (updates = [] ↔ ∀ row ∈ rows, row.2.has overridesKey = false) := by
    intro rows updates hCovers
    constructor
    · rintro rfl row hRow
      by_contra hHas
      obtain ⟨_, hNone, -⟩ := hCovers.covered row hRow (Bool.not_eq_false _ ▸ hHas)
      cases hNone
    · intro hClean
      refine List.eq_nil_iff_forall_not_mem.mpr fun update hUpdate => ?_
      obtain ⟨row, hRow, hHas⟩ := hCovers.needed update hUpdate
      rw [hClean row hRow] at hHas
      cases hHas
  rw [noOverrides_iff, hEmpty hWorkflows, hEmpty hDefinitions]

theorem noOverrides_bulkUpdate {workflowUpdates definitionUpdates : List (Nat × Json)}
    (h : r.updates s = .ok (workflowUpdates, definitionUpdates)) :
    (s.bulkUpdate workflowUpdates definitionUpdates).NoOverrides := by
  obtain ⟨hWorkflows, hDefinitions⟩ := covers_updates h
  have hClean : ∀ {rows updates : List (Nat × Json)}, Covers rows updates → ∀ row ∈ rows,
      (afterUpdates updates row.1 row.2).has overridesKey = false := by
    intro rows updates hCovers row hRow
    refine has_afterUpdates hCovers.migrated ?_
    cases hHas : row.2.has overridesKey with
    | false => exact .inl rfl
    | true => exact .inr (hCovers.covered row hRow hHas)
  refine List.forall_mem_map.mpr fun workflow hWorkflow => ⟨?_, ?_⟩
  · exact hClean hWorkflows _ (List.mem_map_of_mem hWorkflow)
  · refine List.forall_mem_map.mpr fun definition hDefinition => ?_
    exact hClean hDefinitions _
      (List.mem_flatMap.mpr ⟨workflow, hWorkflow, List.mem_map_of_mem hDefinition⟩)

end Updates

section Request

variable {Effective : Type} {r : MigrationRequest Effective} {s : ModelStore}

theorem allOrNothing_error {error : MigrationError} {s' : ModelStore} :
    AllOrNothing s (.error error, s') ↔ s' = s := by
  constructor
  · intro h
    exact h.raised error rfl
  · intro h
    exact ⟨fun _ _ => h, nofun⟩

theorem allOrNothing_ok {s' : ModelStore} :
    AllOrNothing s (.ok (), s') ↔ s'.configuration.isSome = true ∧ s'.NoOverrides := by
  constructor
  · intro h
    exact h.succeeded rfl
  · intro h
    exact ⟨nofun, fun _ => h⟩

theorem await_reply {step : MigrationStep} (h : r.outcomes step = .reply) : r.await step = .ok () := by
  rw [MigrationRequest.await, h]
  rfl

theorem await_fail {step : MigrationStep} {error : MigrationError} {applied : Bool}
    (h : r.outcomes step = .fail error applied) : r.await step = .error error := by
  rw [MigrationRequest.await, h]
  rfl

theorem configured_eq_iff (configuration : Json) :
    { s with configuration := some configuration } = s ↔ s.configuration = some configuration := by
  constructor
  · intro h
    exact (congrArg ModelStore.configuration h).symm
  · intro h
    rw [← h]

variable (configuration : Json)

theorem migrateWorkflows_iff (hUpsert : r.await .upsertOrganizationConfiguration = .ok ()) :
    AllOrNothing s
        (match r.migrateWorkflows { s with configuration := some configuration } with
        | (.error error, migrated) => (.error error, migrated)
        | (.ok (), migrated) => (r.await .resolveResponse, migrated)) ↔
      r.NothingFails s ∨ s.configuration = some configuration ∧ ¬r.ReplacesOverrides s := by
  have hSame : r.updates { s with configuration := some configuration } = r.updates s := rfl
  unfold MigrationRequest.migrateWorkflows MigrationRequest.NothingFails MigrationRequest.ReplacesOverrides
    MigrationRequest.Completable
  rw [hSame]
  cases hList : r.outcomes .listWorkflows with
  | fail error applied => simp [await_fail hList, allOrNothing_error, configured_eq_iff]
  | reply =>
    cases hUpdates : r.updates s with
    | error error => simp [await_reply hList, allOrNothing_error, configured_eq_iff]
    | ok updates =>
      obtain ⟨workflowUpdates, definitionUpdates⟩ := updates
      have hNil := updates_eq_nil_iff hUpdates
      have hClean := noOverrides_bulkUpdate hUpdates
      simp only [await_reply hList]
      by_cases hNone : s.NoOverrides
      · simp only [if_pos (hNil.mpr hNone)]
        cases hResponse : r.outcomes .resolveResponse with
        | fail error applied => simp [await_fail hResponse, allOrNothing_error, configured_eq_iff, hNone]
        | reply =>
          simp only [await_reply hResponse, allOrNothing_ok, hUpsert]
          exact iff_of_true ⟨rfl, hNone⟩ (.inl ⟨trivial, trivial, ⟨_, rfl⟩, .inl hNone, trivial⟩)
      · simp only [if_neg (mt hNil.mp hNone), MigrationRequest.write]
        have hChanged : ModelStore.bulkUpdate { s with configuration := some configuration } workflowUpdates
            definitionUpdates ≠ s := by
          intro hSame
          exact hNone (hSame ▸ hClean)
        cases hBulk : r.outcomes .bulkUpdateWorkflows with
        | fail error applied =>
          cases applied with
          | true => simpa [await_fail hBulk, allOrNothing_error, Outcome.executed, hUpsert, hNone] using hChanged
          | false =>
            simp [await_fail hBulk, allOrNothing_error, Outcome.executed, hUpsert, hNone, configured_eq_iff]
        | reply =>
          cases hResponse : r.outcomes .resolveResponse with
          | fail error applied =>
            simpa [await_reply hBulk, await_fail hResponse, allOrNothing_error, Outcome.executed, hUpsert,
              hNone] using hChanged
          | reply =>
            simp only [await_reply hBulk, await_reply hResponse, allOrNothing_ok, Outcome.executed, if_true, hUpsert]
            exact iff_of_true ⟨rfl, hClean⟩ (.inl ⟨trivial, trivial, ⟨_, rfl⟩, .inr trivial, trivial⟩)

/-- A request changes nothing if it raises and migrates everything if it succeeds, exactly if nothing fails once
the organization's row is written, or what was written was there before. -/
theorem all_or_nothing_iff (r : MigrationRequest Effective) (s : ModelStore) :
    AllOrNothing s (r.run s) ↔ r.KeepsOrMigrates s := by
  unfold MigrationRequest.run MigrationRequest.KeepsOrMigrates
  cases hPrepare : r.prepare s with
  | error error => exact iff_of_true (allOrNothing_error.mpr rfl) nofun
  | ok configuration =>
    simp only [Except.ok.injEq, forall_eq', MigrationRequest.write]
    cases hUpsert : r.outcomes .upsertOrganizationConfiguration with
    | fail error applied =>
      cases applied with
      | false => simp [await_fail hUpsert, allOrNothing_error, Outcome.executed]
      | true =>
        simp [await_fail hUpsert, allOrNothing_error, Outcome.executed, configured_eq_iff,
          MigrationRequest.NothingFails, MigrationRequest.ReplacesOverrides]
    | reply =>
      have hReply := await_reply hUpsert
      simp only [hReply, Outcome.executed, if_true, forall_const]
      exact migrateWorkflows_iff configuration hReply

end Request

def modeConversion : ModelConversion Json where
  resolveEffectiveConfig base overrides := .ok <|
    if overrides.has "is_realtime" then base.set "is_realtime" (overrides.get "is_realtime") else base
  convertLegacyAiModelConfigurationToV2 effective :=
    if (effective.get "is_realtime").truthy then
      if effective.get "realtime" = .null ∨ effective.get "llm" = .null then
        .error (.valueError "Realtime legacy configuration is incomplete")
      else .ok (.obj [("mode", .str "byok"), ("byok", .obj [("mode", .str "realtime"), ("realtime", effective)])])
    else if effective.get "llm" = .null ∨ effective.get "tts" = .null ∨ effective.get "stt" = .null then
      .error (.valueError "Pipeline legacy configuration is incomplete")
    else .ok (.obj [("mode", .str "byok"), ("byok", .obj [("mode", .str "pipeline"), ("pipeline", effective)])])

def pipelineRequest : MigrationRequest Json where
  conversion := modeConversion
  force := false
  isOss := true
  legacy := .obj [("llm", .obj [("provider", .str "openai")]), ("tts", .obj [("provider", .str "openai")]),
    ("stt", .obj [("provider", .str "openai")])]
  isValid _ := true
  outcomes _ := .reply

def realtimeOverride : ModelStore where
  configuration := none
  workflows := [⟨7, .obj [("model_overrides", .obj [("is_realtime", .bool true)])], []⟩]

theorem failed_migration_keeps_configuration :
    ¬ ∀ (r : MigrationRequest Json) (s : ModelStore), AllOrNothing s (r.run s) := by
  intro h
  have hFails : (pipelineRequest.run realtimeOverride).1 =
      .error (.valueError "Realtime legacy configuration is incomplete") := by
    decide +kernel
  have hWritten : (pipelineRequest.run realtimeOverride).2.configuration.isSome = true := by decide +kernel
  rw [(h pipelineRequest realtimeOverride).raised _ hFails] at hWritten
  cases hWritten

end FastVoice.Configuration
