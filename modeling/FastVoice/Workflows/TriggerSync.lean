import FastVoice.Workflows.Triggers

/-! # The published version, one operation after the other

A publish puts the draft in its place; the other operations leave it alone.
-/
namespace FastVoice.Workflows
open Async Sql

variable {J : Type} {s s' : VersionStore Unit J}

namespace VersionsSettled

theorem published?_of_spares {writes : List (VersionWrite J)} (h : VersionsSettled s)
    (hCommits : s.Commits s' writes)
    (hSpares : ∀ write ∈ writes, write.Spares s.committed.workflow.releasedDefinitionId)
    (hSettled : VersionsSettled s') (hKept : ∀ row ∈ s.committed.definitions.rows, row.status = .published →
      row ∈ s'.committed.definitions.rows) :
    s'.committed.definitions.published? = s.committed.definitions.published? := by
  obtain ⟨published, hPublished, hPointer⟩ := h.released.found
  obtain ⟨hPointerAfter, -⟩ := h.released.writes hSpares
  have hStatus := (h.released.published published hPublished).mpr hPointer
  have hAfter : s'.committed.workflow.releasedDefinitionId = some published.id := by
    rw [hCommits.committed, hPointerAfter, hPointer]
  rw [h.released.published?_eq hPublished hPointer,
    hSettled.released.published?_eq (hKept published hPublished hStatus) hAfter]

structure Leaves (s' : VersionStore Unit J) (published : Option (WorkflowDefinition J)) : Prop where
  settled : VersionsSettled s'
  published : s'.committed.definitions.published? = published

section Operations

variable [DecidableEq J] [EmptyCollection J] (workflowId : Nat)

theorem leaves_save (h : VersionsSettled s) (changes : SnapshotChanges J) :
    Leaves (s.after workflowId (.save changes)) s.committed.definitions.published? := by
  have hAfter : s.after workflowId (.save changes) =
      ((saveWorkflowDraft changes).eval (VersionStore.execute ()) s).2 := VersionStore.eval_unit _ s
  rw [hAfter]
  cases hDraft : s.committed.definitions.draft? with
  | some draft =>
    obtain ⟨hRow, hStatus⟩ := draft_found hDraft
    have hCommits := VersionStore.commits_save_draft h.pending changes hDraft (lookup_isSome hRow)
    obtain ⟨hSettled, -⟩ := h.save_draft hDraft hCommits
    refine ⟨hSettled, h.published?_of_spares hCommits ?_ hSettled ?_⟩
    · exact List.forall_mem_cons.mpr ⟨trivial, List.forall_mem_singleton.mpr rfl⟩
    · intro row hMem hPublished
      rw [hCommits.committed]
      refine (mem_updateAt (WorkflowDefinition.edit_id _)).mpr ⟨row, hMem, if_neg fun hId => ?_⟩
      have hSame := List.inj_on_of_nodup_map s.committed.definitions.distinct hMem hRow hId
      rw [hSame, hStatus] at hPublished
      cases hPublished
  | none =>
    have hCommits := VersionStore.commits_save_new h.pending changes hDraft
    obtain ⟨hSettled, -⟩ := h.save_new hDraft hCommits
    refine ⟨hSettled, h.published?_of_spares hCommits ?_ hSettled ?_⟩
    · exact List.forall_mem_cons.mpr ⟨rfl, List.forall_mem_singleton.mpr rfl⟩
    · intro row hMem _
      rw [hCommits.committed]
      exact subset_insert hMem

theorem leaves_publish (h : VersionsSettled s) {draft : WorkflowDefinition J}
    (hDraft : s.committed.definitions.draft? = some draft) :
    Leaves (s.after workflowId .publish) (some draft.publish) := by
  have hAfter : s.after workflowId .publish =
      ((publishWorkflowDraft workflowId).eval (VersionStore.execute ()) s).2 :=
    VersionStore.eval_unit _ s
  rw [hAfter]
  obtain ⟨hSettled, -, hPublished⟩ := h.settled_publish hDraft
    (VersionStore.commits_publish h.pending workflowId hDraft (lookup_isSome (draft_found hDraft).1))
  exact ⟨hSettled, hPublished⟩

theorem leaves_discard (h : VersionsSettled s) {draft : WorkflowDefinition J}
    (hDraft : s.committed.definitions.draft? = some draft) :
    Leaves (s.after workflowId .discard) s.committed.definitions.published? := by
  obtain ⟨hRow, hStatus⟩ := draft_found hDraft
  have hReleased := h.draft_not_released hDraft
  have hCommits : s.Commits (s.after workflowId .discard) [.delete draft.id] :=
    VersionStore.commits_discard h.pending workflowId hDraft hReleased (lookup_isSome hRow)
  have hSettled := h.settled_discard hDraft hCommits
  refine ⟨hSettled, h.published?_of_spares hCommits (List.forall_mem_singleton.mpr hReleased) hSettled ?_⟩
  intro row hMem hPublished
  rw [hCommits.committed]
  refine List.mem_filter.mpr ⟨hMem, decide_eq_true fun hId => ?_⟩
  have hSame := List.inj_on_of_nodup_map s.committed.definitions.distinct hMem hRow hId
  rw [hSame, hStatus] at hPublished
  cases hPublished

theorem leaves_revert (h : VersionsSettled s) {definitionId : Nat} {source : WorkflowDefinition J}
    (hDraft : s.committed.definitions.draft? = none)
    (hSource : s.committed.definitions.lookup definitionId = some source) :
    Leaves (s.after workflowId (.revert definitionId)) s.committed.definitions.published? := by
  have hAfter : s.after workflowId (.revert definitionId) =
      ((revertToVersion workflowId definitionId).eval (VersionStore.execute ()) s).2 :=
    VersionStore.eval_unit _ s
  rw [hAfter]
  have hCommits := VersionStore.commits_revert h.pending workflowId definitionId hDraft hSource
  have hSettled := h.settled_revert hDraft hCommits
  refine ⟨hSettled, h.published?_of_spares hCommits (List.forall_mem_singleton.mpr rfl) hSettled ?_⟩
  intro row hMem _
  rw [hCommits.committed]
  exact subset_insert hMem

end Operations

end VersionsSettled

end FastVoice.Workflows

/-! # Triggers and the published version

The active triggers are those of the definition that the editor saved last. They are those of the published
version after each publish, and none of its paths is archived by another request, exactly in the runs in
which the drafts that are published have the paths of that definition and the definitions that are saved
keep the paths of the published one.
-/
namespace FastVoice.Workflows
open Async Python

namespace AgentTriggers

variable {triggers synced : AgentTriggers} {workflowId : Nat} {newPaths : List String} {path : String}

theorem mem_activePaths : path ∈ triggers.activePaths workflowId ↔
    ⟨path, workflowId, .active⟩ ∈ triggers := by
  simp only [activePaths, List.mem_map, List.mem_filter, decide_eq_true_eq]
  constructor
  · rintro ⟨⟨own, owner, state⟩, ⟨hRow, rfl, rfl⟩, rfl⟩
    exact hRow
  · intro hRow
    exact ⟨_, ⟨hRow, rfl, rfl⟩, rfl⟩

theorem mem_existingPaths : path ∈ triggers.existingPaths workflowId ↔
    ∃ state, ⟨path, workflowId, state⟩ ∈ triggers := by
  simp only [existingPaths, List.mem_map, List.mem_filter, decide_eq_true_eq]
  constructor
  · rintro ⟨⟨own, owner, state⟩, ⟨hRow, rfl⟩, rfl⟩
    exact ⟨state, hRow⟩
  · rintro ⟨state, hRow⟩
    exact ⟨_, ⟨hRow, rfl⟩, rfl⟩

theorem mem_activePaths_sync (h : triggers.syncTriggersForWorkflow workflowId newPaths = some synced) :
    path ∈ synced.activePaths workflowId ↔ path ∈ newPaths := by
  unfold syncTriggersForWorkflow at h
  simp only [Option.ite_none_right_eq_some, Option.some.injEq] at h
  obtain ⟨-, rfl⟩ := h
  rw [mem_activePaths, List.mem_append]
  constructor
  · rintro (hOld | hAdded)
    · obtain ⟨⟨own, owner, state⟩, -, hRow⟩ := List.mem_map.mp hOld
      unfold AgentTriggers.synced at hRow
      split at hRow
      · simp only [AgentTrigger.mk.injEq] at hRow
        obtain ⟨rfl, -, hState⟩ := hRow
        by_contra hNot
        rw [if_neg hNot] at hState
        cases hState
      · rename_i hOther
        cases hRow
        exact absurd rfl hOther
    · obtain ⟨added, hMem, hRow⟩ := List.mem_map.mp hAdded
      cases hRow
      exact List.mem_dedup.mp (List.mem_filter.mp hMem).1
  · intro hPath
    by_cases hExists : path ∈ triggers.existingPaths workflowId
    · obtain ⟨state, hRow⟩ := mem_existingPaths.mp hExists
      refine .inl (List.mem_map.mpr ⟨_, hRow, ?_⟩)
      simp [AgentTriggers.synced, hPath]
    · refine .inr (List.mem_map.mpr ⟨path, ?_, rfl⟩)
      exact List.mem_filter.mpr ⟨List.mem_dedup.mpr hPath, decide_eq_true hExists⟩

variable (triggers path) in
theorem mem_activePaths_elsewhere {rows : AgentTriggers} (hRows : ∀ row ∈ rows, row.workflowId ≠ workflowId) :
    path ∈ activePaths ((triggers.filter fun row => row.workflowId = workflowId) ++ rows) workflowId ↔
      path ∈ triggers.activePaths workflowId := by
  rw [mem_activePaths, mem_activePaths, List.mem_append, List.mem_filter]
  constructor
  · rintro (⟨hRow, -⟩ | hOther)
    · exact hRow
    · exact absurd rfl (hRows _ hOther)
  · exact fun hRow => .inl ⟨hRow, decide_eq_true rfl⟩

end AgentTriggers

section Requests

variable {accepts : Json → Bool} {workflowId : Nat} {s next : TriggeredWorkflow}

def pathsOf (definition : Json) : List String := (extractTriggerPaths definition).getD []

variable (workflowId) in
structure FollowsPublished (s : TriggeredWorkflow) (request : WorkflowRequest) (next : TriggeredWorkflow) :
    Prop where
  published : request = .publish → ∃ definition paths, next.publishedJson = some definition ∧
    extractTriggerPaths definition = some paths ∧
    ∀ path, path ∈ next.triggers.activePaths workflowId ↔ path ∈ paths
  keeps : next.publishedJson = s.publishedJson → ∀ definition ∈ s.publishedJson,
    ∀ path ∈ pathsOf definition, path ∈ s.triggers.activePaths workflowId →
      path ∈ next.triggers.activePaths workflowId

/-- What a request must find, in terms of the definitions alone. -/
def KeepsPublished (s : TriggeredWorkflow) : WorkflowRequest → Prop
  | .publish => ∀ draft ∈ s.draftJson, ∀ path, path ∈ pathsOf draft ↔ path ∈ pathsOf s.syncedWith
  | .updateWorkflow changes => ∀ definition ∈ changes.definition?, ∀ published ∈ s.publishedJson,
      ∀ path ∈ pathsOf published, path ∈ pathsOf s.syncedWith → path ∈ pathsOf definition
  | _ => True

variable (workflowId) in
structure TriggersSynced (s : TriggeredWorkflow) : Prop where
  settled : VersionsSettled s.versions
  synced : ∀ path, path ∈ s.triggers.activePaths workflowId ↔ path ∈ pathsOf s.syncedWith

structure Untouched (s next : TriggeredWorkflow) : Prop where
  settled : VersionsSettled next.versions
  triggers : next.triggers = s.triggers
  syncedWith : next.syncedWith = s.syncedWith
  published : next.publishedJson = s.publishedJson

theorem TriggersSynced.untouched (h : TriggersSynced workflowId s) (hNext : Untouched s next) :
    TriggersSynced workflowId next := by
  refine ⟨hNext.settled, ?_⟩
  rw [hNext.triggers, hNext.syncedWith]
  exact h.synced

theorem Untouched.followsPublished (hNext : Untouched s next) {request : WorkflowRequest}
    (hRequest : request ≠ .publish) : FollowsPublished workflowId s request next := by
  refine ⟨fun hPublish => absurd hPublish hRequest, ?_⟩
  rw [hNext.triggers]
  exact fun _ _ _ _ _ hActive => hActive

theorem untouched_after (operation : VersionOperation Json)
    (h : VersionsSettled.Leaves (s.versions.after workflowId operation)
      s.versions.committed.definitions.published?) : Untouched s (s.after workflowId operation) := by
  refine ⟨h.settled, rfl, rfl, ?_⟩
  exact congrArg (Option.map fun row => row.snapshot.workflowJson) h.published

variable (workflowId) in
theorem untouched_save (h : VersionsSettled s.versions) (changes : SnapshotChanges Json) :
    Untouched s (s.save workflowId changes) := by
  unfold TriggeredWorkflow.save
  split
  · exact ⟨h, rfl, rfl, rfl⟩
  · exact untouched_after _ (h.leaves_save workflowId changes)

theorem updateWorkflow_cases {changes : SnapshotChanges Json}
    (h : updateWorkflow workflowId changes s = some next) :
    changes.definition? = none ∧ next = s.save workflowId changes ∨
      ∃ definition paths triggers, changes.definition? = some definition ∧
        extractTriggerPaths definition = some paths ∧
        s.triggers.syncTriggersForWorkflow workflowId paths = some triggers ∧
        next = { s.save workflowId changes with triggers := triggers, syncedWith := definition } := by
  unfold updateWorkflow at h
  split at h
  · rename_i hNone
    exact .inl ⟨hNone, (Option.some.inj h).symm⟩
  · rename_i definition hSome
    obtain ⟨paths, hPaths, hSync⟩ := Option.bind_eq_some_iff.mp h
    split at hSync
    · obtain ⟨triggers, hTriggers, rfl⟩ := Option.map_eq_some_iff.mp hSync
      exact .inr ⟨definition, paths, triggers, hSome, hPaths, hTriggers, rfl⟩
    · cases hSync

theorem step_updateWorkflow (h : TriggersSynced workflowId s) {changes : SnapshotChanges Json}
    (hStep : updateWorkflow workflowId changes s = some next) : TriggersSynced workflowId next ∧
      (FollowsPublished workflowId s (.updateWorkflow changes) next ↔
        KeepsPublished s (.updateWorkflow changes)) := by
  have hSave := untouched_save workflowId h.settled changes
  obtain ⟨hNone, rfl⟩ | ⟨definition, paths, triggers, hDefinition, hPaths, hSync, rfl⟩ :=
    updateWorkflow_cases hStep
  · refine ⟨h.untouched hSave, iff_of_true (hSave.followsPublished nofun) ?_⟩
    rw [KeepsPublished, hNone]
    exact nofun
  · have hOwn : pathsOf definition = paths := by rw [pathsOf, hPaths, Option.getD_some]
    have hActive : ∀ path, path ∈ AgentTriggers.activePaths triggers workflowId ↔
        path ∈ pathsOf definition := by
      intro path
      rw [hOwn]
      exact AgentTriggers.mem_activePaths_sync hSync
    refine ⟨⟨hSave.settled, hActive⟩, ?_⟩
    simp only [KeepsPublished, hDefinition, Option.mem_def, Option.some.injEq, forall_eq']
    constructor
    · rintro ⟨-, hKeeps⟩ published hPublished path hPath hSynced
      have hStays := hKeeps hSave.published published hPublished path hPath ((h.synced path).mpr hSynced)
      exact (hActive path).mp hStays
    · intro hKeeps
      refine ⟨nofun, fun _ published hPublished path hPath hWas => ?_⟩
      exact (hActive path).mpr (hKeeps published hPublished path hPath ((h.synced path).mp hWas))

theorem isValidDefinition_extracts {triggers : AgentTriggers} {definition : Json}
    (h : isValidDefinition accepts workflowId triggers definition = true) :
    ∃ paths, extractTriggerPaths definition = some paths := by
  unfold isValidDefinition at h
  cases hTruthy : definition.truthy with
  | false => exact ⟨[], by rw [extractTriggerPaths, if_pos hTruthy]⟩
  | true =>
    rw [hTruthy, Bool.not_true, Bool.false_or, Bool.and_eq_true] at h
    obtain ⟨paths, hPaths, -⟩ := (Option.any_eq_true _ _).mp h.2
    exact ⟨paths, hPaths⟩

theorem step_publish (h : TriggersSynced workflowId s)
    (hValid : s.draftJson.any (isValidDefinition accepts workflowId s.triggers) = true) :
    TriggersSynced workflowId (s.after workflowId .publish) ∧
      (FollowsPublished workflowId s .publish (s.after workflowId .publish) ↔ KeepsPublished s .publish) := by
  obtain ⟨definition, hDraftJson, hDefinition⟩ := (Option.any_eq_true _ _).mp hValid
  obtain ⟨draft, hDraft, rfl⟩ := Option.map_eq_some_iff.mp hDraftJson
  obtain ⟨paths, hPaths⟩ := isValidDefinition_extracts hDefinition
  obtain ⟨hSettled, hPublished⟩ := h.settled.leaves_publish workflowId hDraft
  have hAfter : (s.after workflowId .publish).publishedJson = some draft.snapshot.workflowJson :=
    congrArg (Option.map fun row : WorkflowDefinition Json => row.snapshot.workflowJson) hPublished
  have hOwn : pathsOf draft.snapshot.workflowJson = paths := by rw [pathsOf, hPaths, Option.getD_some]
  refine ⟨⟨hSettled, h.synced⟩, ?_⟩
  simp only [KeepsPublished, hDraftJson, Option.mem_def, Option.some.injEq, forall_eq', hOwn]
  constructor
  · rintro ⟨hFollows, -⟩ path
    obtain ⟨published, found, hFound, hExtracts, hActive⟩ := hFollows rfl
    obtain rfl := Option.some.inj (hAfter.symm.trans hFound)
    obtain rfl := Option.some.inj (hPaths.symm.trans hExtracts)
    exact (hActive path).symm.trans (h.synced path)
  · intro hSame
    refine ⟨fun _ => ⟨_, paths, hAfter, hPaths, fun path => ?_⟩, fun _ _ _ _ _ hActive => hActive⟩
    exact (h.synced path).trans (hSame path).symm

theorem triggersSynced_step {request : WorkflowRequest} (h : TriggersSynced workflowId s)
    (hStep : (workflowRequests accepts workflowId).step s request = some next) :
    TriggersSynced workflowId next ∧
      (FollowsPublished workflowId s request next ↔ KeepsPublished s request) := by
  have hUntouched : ∀ {other : TriggeredWorkflow}, Untouched s other → request ≠ .publish →
      KeepsPublished s request → TriggersSynced workflowId other ∧
        (FollowsPublished workflowId s request other ↔ KeepsPublished s request) :=
    fun hNext hRequest hKeeps => ⟨h.untouched hNext, iff_of_true (hNext.followsPublished hRequest) hKeeps⟩
  cases request with
  | updateWorkflow changes => exact step_updateWorkflow h hStep
  | saveWorkflow payload =>
    obtain rfl := Option.some.inj hStep
    exact hUntouched (untouched_after _ (h.settled.leaves_save workflowId _)) nofun trivial
  | createDraft =>
    obtain rfl := Option.some.inj hStep
    exact hUntouched (untouched_after _ (h.settled.leaves_save workflowId _)) nofun trivial
  | publish =>
    simp only [workflowRequests, Option.ite_none_right_eq_some, Option.some.injEq] at hStep
    obtain ⟨hValid, rfl⟩ := hStep
    exact step_publish h hValid
  | discard =>
    simp only [workflowRequests, Option.ite_none_right_eq_some, Option.some.injEq] at hStep
    obtain ⟨hDraft, rfl⟩ := hStep
    obtain ⟨json, hJson⟩ := Option.isSome_iff_exists.mp hDraft
    obtain ⟨draft, hDraft, -⟩ := Option.map_eq_some_iff.mp hJson
    exact hUntouched (untouched_after _ (h.settled.leaves_discard workflowId hDraft)) nofun trivial
  | revert definitionId =>
    simp only [workflowRequests, Option.ite_none_right_eq_some, Option.some.injEq] at hStep
    obtain ⟨⟨hDraft, hSource⟩, rfl⟩ := hStep
    obtain ⟨source, hSource⟩ := Option.isSome_iff_exists.mp hSource
    have hNone := Option.map_eq_none_iff.mp hDraft
    exact hUntouched (untouched_after _ (h.settled.leaves_revert workflowId hNone hSource)) nofun trivial
  | elsewhere rows =>
    simp only [workflowRequests, Option.ite_none_right_eq_some, Option.some.injEq] at hStep
    obtain ⟨hRows, rfl⟩ := hStep
    have hSame := fun path => AgentTriggers.mem_activePaths_elsewhere s.triggers path hRows
    refine ⟨⟨h.settled, fun path => (hSame path).trans (h.synced path)⟩, iff_of_true ⟨nofun, ?_⟩ trivial⟩
    exact fun _ _ _ path _ hActive => (hSame path).mpr hActive

/-- In every sequence of requests that succeed, the triggers follow the published version exactly if each
published draft has the paths of the definition that the editor saved last, and each definition that the
editor saves has the paths of the published version that the one before had. -/
theorem triggers_follow_iff (accepts : Json → Bool) {definitionId : Nat} {definition : Json}
    {others : AgentTriggers} {start last : TriggeredWorkflow} {requests : List WorkflowRequest}
    (hStart : createTriggered workflowId definitionId definition others = some start)
    (hRun : (workflowRequests accepts workflowId).run start requests = some last) :
    (workflowRequests accepts workflowId).EachStep (FollowsPublished workflowId) start requests ↔
      (workflowRequests accepts workflowId).Follows KeepsPublished start requests := by
  refine Machine.eachStep_iff (K := TriggersSynced workflowId)
    (fun _ _ _ => triggersSynced_step) hRun ?_
  simp only [createTriggered, Option.ite_none_right_eq_some] at hStart
  obtain ⟨-, hCreated⟩ := hStart
  obtain ⟨paths, hPaths, hSync⟩ := Option.bind_eq_some_iff.mp hCreated
  obtain ⟨triggers, hTriggers, rfl⟩ := Option.map_eq_some_iff.mp hSync
  refine ⟨versionsSettled_created definitionId definition, fun path => ?_⟩
  rw [AgentTriggers.mem_activePaths_sync hTriggers, pathsOf, hPaths, Option.getD_some]

end Requests

instance (s : TriggeredWorkflow) (request : WorkflowRequest) : Decidable (KeepsPublished s request) :=
  match request with
  | .publish =>
    decidable_of_iff (∀ draft ∈ s.draftJson, (∀ path ∈ pathsOf draft, path ∈ pathsOf s.syncedWith) ∧
      ∀ path ∈ pathsOf s.syncedWith, path ∈ pathsOf draft)
      (forall₂_congr fun _ _ => forall_and.symm.trans (forall_congr' fun _ => iff_def.symm))
  | .updateWorkflow changes =>
    inferInstanceAs (Decidable (∀ definition ∈ changes.definition?, ∀ published ∈ s.publishedJson,
      ∀ path ∈ pathsOf published, path ∈ pathsOf s.syncedWith → path ∈ pathsOf definition))
  | .saveWorkflow _ => isTrue trivial
  | .createDraft => isTrue trivial
  | .discard => isTrue trivial
  | .revert _ => isTrue trivial
  | .elsewhere _ => isTrue trivial

def node (id type : String) (data : List (String × Json)) : Json :=
  .obj [("id", .str id), ("type", .str type), ("data", .obj data)]

def startOnly : Json := .obj [("nodes", .arr [node "1" "startCall" [("name", .str "Start")]]), ("edges", .arr [])]

def withTrigger : Json :=
  .obj [("nodes", .arr [node "1" "startCall" [("name", .str "Start")],
    node "2" "trigger" [("name", .str "API"), ("trigger_path", .str "lead-form")]]), ("edges", .arr [])]

def firstVersion : TriggeredWorkflow where
  versions := .created Unit 1 startOnly
  triggers := []
  syncedWith := startOnly

theorem triggers_follow_edited : (workflowRequests (fun _ => true) 7).EachStep (FollowsPublished 7)
    firstVersion [.updateWorkflow { workflowJson := some withTrigger }, .publish] := by
  have hSucceeds : ((workflowRequests (fun _ => true) 7).run firstVersion
      [.updateWorkflow { workflowJson := some withTrigger }, .publish]).isSome = true := by
    decide +kernel
  have hCreated : createTriggered 7 1 startOnly [] = some firstVersion := rfl
  obtain ⟨last, hLast⟩ := Option.isSome_iff_exists.mp hSucceeds
  exact (triggers_follow_iff (fun _ => true) hCreated hLast).mpr (by decide +kernel)

theorem published_trigger_is_missing : ¬ ∀ (accepts : Json → Bool) (workflowId definitionId : Nat)
    (definition : Json) (others : AgentTriggers) (start last : TriggeredWorkflow)
    (requests : List WorkflowRequest),
    createTriggered workflowId definitionId definition others = some start →
    (workflowRequests accepts workflowId).run start requests = some last →
      (workflowRequests accepts workflowId).EachStep (FollowsPublished workflowId) start requests := by
  intro h
  obtain ⟨draft, hSave⟩ : ∃ draft, firstVersion.after 7 (.save { workflowJson := some withTrigger }) = draft :=
    ⟨_, rfl⟩
  have hPublish : (workflowRequests (fun _ => true) 7).step draft .publish = some (draft.after 7 .publish) := by
    have hValid : draft.draftJson.any (isValidDefinition (fun _ => true) 7 draft.triggers) = true := by
      rw [← hSave]
      decide +kernel
    exact if_pos hValid
  have hSaves : (workflowRequests (fun _ => true) 7).step firstVersion (.saveWorkflow withTrigger) =
      some draft := congrArg some hSave
  have hRun : (workflowRequests (fun _ => true) 7).run firstVersion [.saveWorkflow withTrigger, .publish] =
      some (draft.after 7 .publish) := by
    simp only [Machine.run, hSaves, hPublish, Option.bind_some]
  obtain ⟨-, hRest⟩ := h (fun _ => true) 7 1 startOnly [] firstVersion _ _ rfl hRun draft hSaves
  obtain ⟨⟨hPublished, -⟩, -⟩ := hRest _ hPublish
  obtain ⟨definition, paths, hDefinition, hPaths, hActive⟩ := hPublished rfl
  have hJson : (draft.after 7 .publish).publishedJson = some withTrigger := by
    rw [← hSave]
    decide +kernel
  have hNone : (draft.after 7 .publish).triggers.activePaths 7 = [] := by
    rw [← hSave]
    decide +kernel
  obtain rfl := Option.some.inj (hJson.symm.trans hDefinition)
  have hOwn : extractTriggerPaths withTrigger = some ["lead-form"] := by decide +kernel
  obtain rfl := Option.some.inj (hOwn.symm.trans hPaths)
  have hMem := (hActive "lead-form").mpr List.mem_cons_self
  rw [hNone] at hMem
  cases hMem

end FastVoice.Workflows
