import FastVoice.Runtime.Outcome
import FastVoice.Workflows.TriggerSync

/-! # Duplicates of a workflow

A duplicate is created with the definition of the source's working copy, and its configurations are saved
afterwards, in a draft. What is published of it stays as it was created.
-/
namespace FastVoice.Workflows
open Async Python

/-- One request, with what it finds and what it is given from outside. -/
structure Duplication where
  source : Versions Json
  sourceId : Nat
  organizationId : Nat
  triggers : AgentTriggers
  newId : Nat
  definitionId : Nat
  fresh : ∀ row ∈ triggers, row.workflowId ≠ newId
  uuids : Nat → String
  /-- Whether the storage copies the file. -/
  copies : Bool

structure Duplicate where
  versions : VersionStore Unit Json
  triggers : AgentTriggers

/-- The draft, or the released version without one. -/
def Versions.workingCopy (v : Versions Json) : Option (WorkflowDefinition Json) :=
  v.definitions.draft?.or (v.workflow.releasedDefinitionId.bind v.definitions.lookup)

def isTrigger (node : Json) : Bool := node.get "type" = .str "trigger"

def dataOf (node : Json) : Json := if node.has "data" then node.get "data" else .obj []

def regenerateTriggerUuid (uuid : String) (node : Json) : Option Json :=
  if node.isDict = false then none
  else if isTrigger node then
    if (dataOf node).isDict then
      some (node.set "data" ((dataOf node).set "trigger_path" (.str uuid)))
    else none
  else some node

/-- None where an exception is raised. -/
def regenerateTriggerUuids (uuids : Nat → String) (workflowDefinition : Json) : Option Json :=
  if workflowDefinition.truthy = false then some workflowDefinition
  else if workflowDefinition.isDict = false then none
  else if workflowDefinition.has "nodes" = false then some workflowDefinition
  else
    match workflowDefinition.get "nodes" with
    | .arr nodes => (nodes.zipIdx.mapM fun (node, i) => regenerateTriggerUuid (uuids i) node).map
        fun nodes => workflowDefinition.set "nodes" (.arr nodes)
    -- A loop over a string or a dictionary ends at its first item, if there is one.
    | .str text => if text = "" then some workflowDefinition else none
    | .obj entries => if entries.isEmpty then some workflowDefinition else none
    | _ => none

/-- The path of a node in the duplicate. The outer `none` stands for an exception. -/
def duplicateTriggerPath (node : Json) : Option (Option String) :=
  if node.isDict = false then none
  else if isTrigger node = false then some none
  else if (dataOf node).isDict = false then none
  else
    match (dataOf node).get "trigger_path" with
    | .str path => some (some path |>.filter fun path => path ≠ "")
    | path => if path.truthy then none else some none

def duplicateTriggerPaths (workflowDefinition : Json) : Option (List String) :=
  if workflowDefinition.truthy = false then some []
  else if workflowDefinition.isDict = false then none
  else if workflowDefinition.has "nodes" = false then some []
  else
    match workflowDefinition.get "nodes" with
    | .arr nodes => (nodes.mapM duplicateTriggerPath).map fun paths => paths.filterMap id
    | .str text => if text = "" then some [] else none
    | .obj entries => if entries.isEmpty then some [] else none
    | _ => none

def basename (path : String) : String :=
  String.ofList (path.toList.reverse.takeWhile fun c => c ≠ '/').reverse

namespace Duplication

variable (d : Duplication)

def newKey (oldKey : String) : String :=
  "ambient-noise/" ++ toString d.organizationId ++ "/" ++ toString d.newId ++ "/" ++ basename oldKey

/-- The configurations with the storage key of the copied file. A failed copy keeps the key. -/
def copyAmbientNoise (configurations : Json) : Option Json :=
  let ambient := configurations.get "ambient_noise_configuration"
  if configurations.isDict = false then none
  else if ambient.truthy = false then some configurations
  else if ambient.isDict = false then none
  else if (ambient.get "storage_key").truthy = false then some configurations
  else
    match ambient.get "storage_key" with
    | .str oldKey => some <|
        if d.copies then
          configurations.set "ambient_noise_configuration"
            (ambient.set "storage_key" (.str (d.newKey oldKey)))
        else configurations
    | _ => none

/-- The configurations to save, none of them where the source has none. -/
def copiedConfigurations (configurations : Json) : Option (Option Json) :=
  if configurations.truthy then (d.copyAmbientNoise configurations).map some else some none

def versionsOf (definition templateContextVariables : Json) (configurations : Option Json) :
    VersionStore Unit Json :=
  if templateContextVariables.truthy || configurations.isSome then
    (VersionStore.created Unit d.definitionId definition).after d.newId <| .save
      { workflowConfigurations := configurations
        templateContextVariables := if templateContextVariables = .null then none
          else some templateContextVariables }
  else .created Unit d.definitionId definition

def triggersOf (definition : Json) : Option AgentTriggers :=
  (duplicateTriggerPaths definition).bind fun paths =>
    if paths = [] then some d.triggers else d.triggers.syncTriggersForWorkflow d.newId paths

end Duplication

/-- `duplicate_workflow`, none where it raises. -/
def duplicateWorkflow (d : Duplication) : Option Duplicate :=
  d.source.workingCopy.bind fun source =>
  (regenerateTriggerUuids d.uuids source.snapshot.workflowJson).bind fun definition =>
  (d.copiedConfigurations source.snapshot.workflowConfigurations).bind fun configurations =>
  (d.triggersOf definition).map fun triggers =>
    { versions := d.versionsOf definition source.snapshot.templateContextVariables configurations
      triggers := triggers }

def withoutTriggerPath (node : Json) : Json :=
  if isTrigger node && (dataOf node).isDict then node.set "data" ((dataOf node).pop "trigger_path")
  else node

def withoutTriggerPaths (definition : Json) : Json :=
  match definition.get "nodes" with
  | .arr nodes => definition.set "nodes" (.arr (nodes.map withoutTriggerPath))
  | _ => definition

def withoutStorageKey (configurations : Json) : Json :=
  let ambient := configurations.get "ambient_noise_configuration"
  if ambient.isDict then
    configurations.set "ambient_noise_configuration" (ambient.pop "storage_key")
  else configurations

def Duplicate.published? (copy : Duplicate) : Option (Snapshot Json) :=
  copy.versions.committed.definitions.published?.map WorkflowDefinition.snapshot

/-- The published version of the duplicate is the working copy of the source. -/
structure BehavesLike (d : Duplication) (source : Snapshot Json) (copy : Duplicate)
    (published : Snapshot Json) : Prop where
  definition : withoutTriggerPaths published.workflowJson = withoutTriggerPaths source.workflowJson
  templateContextVariables : published.templateContextVariables = source.templateContextVariables
  configurations : withoutStorageKey published.workflowConfigurations =
    withoutStorageKey source.workflowConfigurations
  triggers : ∀ path, path ∈ copy.triggers.activePaths d.newId ↔ path ∈ pathsOf published.workflowJson
  disjoint : ∀ path ∈ copy.triggers.activePaths d.newId, path ∉ d.triggers.existingPaths d.sourceId

def BehavesLikeSource (d : Duplication) (copy : Duplicate) : Prop :=
  ∃ source, d.source.workingCopy = some source ∧
    ∃ published, copy.published? = some published ∧ BehavesLike d source.snapshot copy published

def Unconfigured (v : Versions Json) : Prop :=
  ∀ source ∈ v.workingCopy, source.snapshot.templateContextVariables = ∅ ∧
    source.snapshot.workflowConfigurations = ∅

instance (v : Versions Json) : Decidable (Unconfigured v) :=
  inferInstanceAs (Decidable (∀ source ∈ v.workingCopy, _ ∧ _))

section Definitions

variable {uuid : String} {node copied : Json}

theorem isTrigger_set (h : node.isDict = true) (data : Json) :
    isTrigger (node.set "data" data) = isTrigger node := by
  unfold isTrigger
  rw [Json.get_set h]
  rfl

theorem dataOf_set (h : node.isDict = true) (data : Json) : dataOf (node.set "data" data) = data := by
  unfold dataOf
  rw [Json.has_set h, Json.get_set h]
  rfl

theorem isTrigger_iff : isTrigger node = true ↔ (node.get "type").text? = some "trigger" := by
  unfold isTrigger
  cases node.get "type" <;> simp [Json.text?]

theorem regenerateTriggerUuid_cases (h : regenerateTriggerUuid uuid node = some copied) :
    node.isDict = true ∧ (isTrigger node = false ∧ copied = node ∨ isTrigger node = true ∧
      (dataOf node).isDict = true ∧
      copied = node.set "data" ((dataOf node).set "trigger_path" (.str uuid))) := by
  unfold regenerateTriggerUuid at h
  split at h
  · cases h
  · rename_i hDict
    refine ⟨Bool.not_eq_false _ ▸ hDict, ?_⟩
    split at h
    · rename_i hTrigger
      split at h
      · rename_i hData
        exact .inr ⟨hTrigger, hData, (Option.some.inj h).symm⟩
      · cases h
    · rename_i hOther
      exact .inl ⟨Bool.eq_false_iff.mpr hOther, (Option.some.inj h).symm⟩

theorem withoutTriggerPath_regenerate (h : regenerateTriggerUuid uuid node = some copied) :
    withoutTriggerPath copied = withoutTriggerPath node := by
  obtain ⟨hDict, ⟨-, rfl⟩ | ⟨hTrigger, hData, rfl⟩⟩ := regenerateTriggerUuid_cases h
  · rfl
  · simp only [withoutTriggerPath, isTrigger_set hDict, dataOf_set hDict, Json.isDict_set, hTrigger, hData,
      Bool.and_self, if_true, Json.set_set, Json.pop_set]

theorem triggerPath_regenerate (h : regenerateTriggerUuid uuid node = some copied) :
    triggerPath copied = duplicateTriggerPath copied := by
  obtain ⟨hDict, ⟨hTrigger, rfl⟩ | ⟨hTrigger, hData, rfl⟩⟩ := regenerateTriggerUuid_cases h
  · have hType : (copied.get "type").text? ≠ some "trigger" := by
      rw [Ne, ← isTrigger_iff, hTrigger]
      exact Bool.false_ne_true
    simp [triggerPath, duplicateTriggerPath, hDict, hTrigger, hType]
  · have hType : node.get "type" = .str "trigger" := of_decide_eq_true hTrigger
    have hPath : ((dataOf node).set "trigger_path" (.str uuid)).get "trigger_path" = .str uuid := by
      rw [Json.get_set hData, if_pos rfl]
    simp only [triggerPath, duplicateTriggerPath, Json.isDict_set, hDict, isTrigger_set hDict, hTrigger,
      dataOf_set hDict, hData, hPath, Json.get_set hDict]
    simp [hType, hPath, hData, Json.text?]

variable {uuids : Nat → String} {definition regenerated : Json}

theorem regenerateTriggerUuids_cases (h : regenerateTriggerUuids uuids definition = some regenerated) :
    regenerated = definition ∧ (definition.truthy = false ∨ definition.isDict = true ∧
        ((definition.has "nodes" = false) ∨ definition.get "nodes" = .str "" ∨ definition.get "nodes" = .obj [])) ∨
      definition.isDict = true ∧ ∃ nodes copies, definition.get "nodes" = .arr nodes ∧
        List.Forall₂ (fun node copied => regenerateTriggerUuid (uuids node.2) node.1 = some copied)
          nodes.zipIdx copies ∧ regenerated = definition.set "nodes" (.arr copies) := by
  unfold regenerateTriggerUuids at h
  split at h
  · rename_i hEmpty
    exact .inl ⟨(Option.some.inj h).symm, .inl hEmpty⟩
  · split at h
    · cases h
    · rename_i hDict
      have hIsDict : definition.isDict = true := Bool.not_eq_false _ ▸ hDict
      split at h
      · rename_i hNone
        exact .inl ⟨(Option.some.inj h).symm, .inr ⟨hIsDict, .inl hNone⟩⟩
      · split at h
        · rename_i nodes hNodes
          obtain ⟨copies, hCopies, rfl⟩ := Option.map_eq_some_iff.mp h
          exact .inr ⟨hIsDict, nodes, copies, hNodes, FastVoice.Outcome.mapM_eq_some_iff.mp hCopies, rfl⟩
        · rename_i text hNodes
          obtain ⟨rfl, hSame⟩ := Option.ite_none_right_eq_some.mp h
          exact .inl ⟨(Option.some.inj hSame).symm, .inr ⟨hIsDict, .inr (.inl hNodes)⟩⟩
        · rename_i entries hNodes
          obtain ⟨hEmpty, hSame⟩ := Option.ite_none_right_eq_some.mp h
          rw [List.isEmpty_iff.mp hEmpty] at hNodes
          exact .inl ⟨(Option.some.inj hSame).symm, .inr ⟨hIsDict, .inr (.inr hNodes)⟩⟩
        · cases h

theorem withoutTriggerPaths_regenerate (h : regenerateTriggerUuids uuids definition = some regenerated) :
    withoutTriggerPaths regenerated = withoutTriggerPaths definition := by
  obtain ⟨rfl, -⟩ | ⟨hDict, nodes, copies, hNodes, hCopies, rfl⟩ := regenerateTriggerUuids_cases h
  · rfl
  · have hSame : copies.map withoutTriggerPath = nodes.map withoutTriggerPath := by
      have hEach : List.Forall₂ (fun node copied => withoutTriggerPath node.1 = withoutTriggerPath copied)
          nodes.zipIdx copies := hCopies.imp fun _ _ hCopy => (withoutTriggerPath_regenerate hCopy).symm
      have hMapped : nodes.zipIdx.map (fun node => withoutTriggerPath node.1) = copies.map withoutTriggerPath := by
        rw [← List.forall₂_eq_eq_eq, List.forall₂_map_left_iff, List.forall₂_map_right_iff]
        exact hEach
      have hNodes : (nodes.zipIdx.map Prod.fst).map withoutTriggerPath = nodes.map withoutTriggerPath := by
        rw [List.zipIdx_map_fst]
      rw [← hMapped, ← hNodes, List.map_map]
      rfl
    have hSet : (definition.set "nodes" (.arr copies)).get "nodes" = .arr copies := by
      rw [Json.get_set hDict, if_pos rfl]
    simp only [withoutTriggerPaths, hSet, hNodes, hSame, Json.set_set]

theorem duplicateTriggerPaths_regenerate (h : regenerateTriggerUuids uuids definition = some regenerated) :
    duplicateTriggerPaths regenerated = extractTriggerPaths regenerated := by
  obtain ⟨rfl, hEmpty | ⟨hDict, hNodes⟩⟩ | ⟨hDict, nodes, copies, -, hCopies, rfl⟩ :=
    regenerateTriggerUuids_cases h
  · simp [duplicateTriggerPaths, extractTriggerPaths, hEmpty]
  · obtain hNone | hNodes | hNodes := hNodes
    · have hNull : regenerated.get "nodes" = .null := by
        cases regenerated with
        | obj entries =>
          simp only [Json.has, Option.isSome_eq_false_iff, Option.isNone_iff_eq_none] at hNone
          simp [Json.get, hNone]
        | _ => rfl
      simp [duplicateTriggerPaths, extractTriggerPaths, hDict, hNone, hNull, Json.truthy]
    · simp [duplicateTriggerPaths, extractTriggerPaths, hDict, hNodes, Json.truthy]
    · simp [duplicateTriggerPaths, extractTriggerPaths, hDict, hNodes, Json.truthy]
  · have hSet : (definition.set "nodes" (.arr copies)).get "nodes" = .arr copies := by
      rw [Json.get_set hDict, if_pos rfl]
    have hHas : (definition.set "nodes" (.arr copies)).has "nodes" = true := by
      rw [Json.has_set hDict]
      simp
    have hPaths : copies.mapM duplicateTriggerPath = copies.mapM triggerPath := by
      apply FastVoice.Outcome.mapM_congr
      clear h hSet hHas
      generalize nodes.zipIdx = numbered at hCopies
      induction hCopies with
      | nil => exact fun _ hMem => absurd hMem List.not_mem_nil
      | cons hCopy _ ih => exact List.forall_mem_cons.mpr ⟨(triggerPath_regenerate hCopy).symm, ih⟩
    simp only [duplicateTriggerPaths, extractTriggerPaths, Json.truthy_set hDict, Json.isDict_set, hDict, hSet, hHas,
      hPaths]
    cases copies with
    | nil => simp [Json.truthy]
    | cons copied copies => simp [Json.truthy]

end Definitions

section Claim

variable {d : Duplication} {copy : Duplicate}

theorem published_versionsOf (definition templateContextVariables : Json) (configurations : Option Json) :
    ((d.versionsOf definition templateContextVariables configurations).committed.definitions.published?.map
      WorkflowDefinition.snapshot) = some ⟨definition, ∅, ∅⟩ := by
  have hCreated : (VersionStore.created Unit d.definitionId definition).committed.definitions.published?.map
      WorkflowDefinition.snapshot = some ⟨definition, ∅, ∅⟩ := by
    simp [VersionStore.created, createWorkflow, Definitions.published?, Sql.Table.insert, Sql.Table.empty]
  unfold Duplication.versionsOf
  split
  · rw [((versionsSettled_created d.definitionId definition).leaves_save d.newId _).published]
    exact hCreated
  · exact hCreated

theorem activePaths_triggersOf {definition : Json} {triggers : AgentTriggers}
    (h : d.triggersOf definition = some triggers) (path : String) :
    path ∈ triggers.activePaths d.newId ↔ ∃ paths, duplicateTriggerPaths definition = some paths ∧ path ∈ paths := by
  obtain ⟨paths, hPaths, hTriggers⟩ := Option.bind_eq_some_iff.mp h
  simp only [hPaths, Option.some.injEq, exists_eq_left']
  split at hTriggers
  · rename_i hNone
    cases hTriggers
    rw [hNone, AgentTriggers.mem_activePaths]
    exact iff_of_false (fun hRow => d.fresh _ hRow rfl) List.not_mem_nil
  · exact AgentTriggers.mem_activePaths_sync hTriggers

theorem disjoint_triggersOf {definition : Json} {triggers : AgentTriggers}
    (h : d.triggersOf definition = some triggers) {path : String} (hPath : path ∈ triggers.activePaths d.newId) :
    path ∉ d.triggers.existingPaths d.sourceId := by
  intro hSource
  obtain ⟨paths, hPaths, hMem⟩ := (activePaths_triggersOf h path).mp hPath
  obtain ⟨state, hRow⟩ := AgentTriggers.mem_existingPaths.mp hSource
  obtain ⟨_, hSame, hTriggers⟩ := Option.bind_eq_some_iff.mp h
  cases hPaths.symm.trans hSame
  split at hTriggers
  · rename_i hNone
    rw [hNone] at hMem
    cases hMem
  · unfold AgentTriggers.syncTriggersForWorkflow at hTriggers
    obtain ⟨hConflicts, -⟩ := Option.ite_none_right_eq_some.mp hTriggers
    have hNew : path ∉ d.triggers.existingPaths d.newId := by
      intro hExists
      obtain ⟨_, hOwn⟩ := AgentTriggers.mem_existingPaths.mp hExists
      exact d.fresh _ hOwn rfl
    have hTaken : path ∈ d.triggers.conflicts d.newId
        (paths.dedup.filter fun path => path ∉ d.triggers.existingPaths d.newId) := by
      refine List.mem_map.mpr ⟨_, List.mem_filter.mpr ⟨hRow, decide_eq_true ⟨?_, d.fresh _ hRow⟩⟩, rfl⟩
      exact List.mem_filter.mpr ⟨List.mem_dedup.mpr hMem, decide_eq_true hNew⟩
    rw [hConflicts] at hTaken
    cases hTaken

theorem withoutStorageKey_eq_empty_iff (configurations : Json) :
    withoutStorageKey ∅ = withoutStorageKey configurations ↔ configurations = ∅ := by
  constructor
  · intro h
    have hEmpty : withoutStorageKey configurations = .obj [] := h.symm
    unfold withoutStorageKey at hEmpty
    dsimp only at hEmpty
    split at hEmpty
    · cases configurations with
      | obj entries =>
        have hTruthy := Json.truthy_set (j := .obj entries) rfl "ambient_noise_configuration"
          (((Json.obj entries).get "ambient_noise_configuration").pop "storage_key")
        rw [hEmpty] at hTruthy
        cases hTruthy
      | _ => exact hEmpty
    · exact hEmpty
  · rintro rfl
    rfl

/-- A duplicate behaves like its source exactly if the working copy of the source has neither template context
variables nor configurations. -/
theorem duplicate_behaves_iff (h : duplicateWorkflow d = some copy) :
    BehavesLikeSource d copy ↔ Unconfigured d.source := by
  obtain ⟨source, hSource, hDefinition⟩ := Option.bind_eq_some_iff.mp h
  obtain ⟨definition, hRegenerated, hConfigurations⟩ := Option.bind_eq_some_iff.mp hDefinition
  obtain ⟨configurations, -, hCopy⟩ := Option.bind_eq_some_iff.mp hConfigurations
  obtain ⟨triggers, hTriggers, rfl⟩ := Option.map_eq_some_iff.mp hCopy
  have hPublished := published_versionsOf (d := d) definition source.snapshot.templateContextVariables
    configurations
  have hPaths : ∀ path, path ∈ triggers.activePaths d.newId ↔ path ∈ pathsOf definition := by
    intro path
    rw [activePaths_triggersOf hTriggers, pathsOf, duplicateTriggerPaths_regenerate hRegenerated]
    cases extractTriggerPaths definition <;> simp
  simp only [Unconfigured, hSource, Option.mem_def, Option.some.injEq, forall_eq']
  constructor
  · rintro ⟨_, hSame, published, hIs, hBehaves⟩
    cases hSource.symm.trans hSame
    obtain rfl : ⟨definition, ∅, ∅⟩ = published := Option.some.inj (hPublished.symm.trans hIs)
    exact ⟨hBehaves.templateContextVariables.symm, (withoutStorageKey_eq_empty_iff _).mp hBehaves.configurations⟩
  · rintro ⟨hVariables, hEmpty⟩
    refine ⟨source, hSource, _, hPublished, ?_⟩
    constructor
    · exact withoutTriggerPaths_regenerate hRegenerated
    · exact hVariables.symm
    · exact (withoutStorageKey_eq_empty_iff _).mpr hEmpty
    · exact hPaths
    · exact fun path hPath => disjoint_triggersOf hTriggers hPath

end Claim

def leadForm : AgentTriggers := [⟨"lead-form", 7, .active⟩]

def leadFormDuplication (templateContextVariables : Json) : Duplication where
  source := (((VersionStore.created Unit 1 withTrigger).after 7
    (.save { templateContextVariables := some templateContextVariables })).after 7 .publish).committed
  sourceId := 7
  organizationId := 1
  triggers := leadForm
  newId := 8
  definitionId := 3
  fresh := by decide
  uuids i := "copy-" ++ toString i
  copies := true

theorem plain_duplicate_behaves : ∃ copy, duplicateWorkflow (leadFormDuplication ∅) = some copy ∧
    BehavesLikeSource (leadFormDuplication ∅) copy := by
  have hSucceeds : (duplicateWorkflow (leadFormDuplication ∅)).isSome = true := by decide +kernel
  obtain ⟨copy, hCopy⟩ := Option.isSome_iff_exists.mp hSucceeds
  refine ⟨copy, hCopy, (duplicate_behaves_iff hCopy).mpr ?_⟩
  decide +kernel

def greetingVariables : Json := .obj [("company", .str "Example")]

theorem configured_duplicate_differs : ¬ ∀ (d : Duplication) (copy : Duplicate),
    duplicateWorkflow d = some copy → BehavesLikeSource d copy := by
  intro h
  have hSucceeds : (duplicateWorkflow (leadFormDuplication greetingVariables)).any (fun copy =>
      copy.published?.map Snapshot.templateContextVariables = some ∅) = true := by
    decide +kernel
  obtain ⟨copy, hCopy, hEmpty⟩ := (Option.any_eq_true _ _).mp hSucceeds
  obtain ⟨source, hSource, published, hPublished, hBehaves⟩ := h _ copy hCopy
  have hVariables : (leadFormDuplication greetingVariables).source.workingCopy.map (fun row =>
      row.snapshot.templateContextVariables) = some greetingVariables := by
    decide +kernel
  rw [hSource] at hVariables
  have hNone := of_decide_eq_true hEmpty
  rw [hPublished] at hNone
  have hSame := hBehaves.templateContextVariables
  rw [Option.some.inj hNone, show source.snapshot.templateContextVariables = greetingVariables from
    Option.some.inj hVariables] at hSame
  cases hSame

end FastVoice.Workflows
