import FastVoice.Campaign.Services

/-! # The status of a queued run

Its state and whether a workflow run was created for it, and what each command does to both. A claim
takes queued rows only; every other command names the rows it changes.
-/
namespace FastVoice.Campaign
open Sql

structure RunStatus where
  state : Option QueuedRunState
  linked : Bool
  deriving DecidableEq

namespace CampaignStore

def status (s : CampaignStore) (id : Nat) : RunStatus :=
  ⟨(s.queuedRuns.lookup id).map QueuedRun.state, s.workflowRuns.linked id⟩

def claimed (s : CampaignStore) (scheduledBefore : UnixTime) (limit : Nat) : List Nat :=
  (s.queuedRuns.claimable s.random s.locked scheduledBefore limit).map QueuedRun.id

end CampaignStore

def CampaignCommand.targets : CampaignCommand → List Nat
  | .updateQueuedRun id _ => [id]
  | .returnProcessingQueuedRuns ids => ids
  | .createWorkflowRun queuedRunId => [queuedRunId]
  | _ => []

section Status

variable {s : CampaignStore} {id : Nat}

theorem state_setState (t : QueuedRuns) (ids : List Nat) (state : QueuedRunState) (id : Nat) :
    ((t.setState ids state).lookup id).map QueuedRun.state =
      if id ∈ ids then ((t.lookup id).map QueuedRun.state).map fun _ => state
      else (t.lookup id).map QueuedRun.state := by
  rw [QueuedRuns.lookup_setState]
  split
  · simp only [Option.map_map]
    rfl
  · rfl

theorem linked_insert (t : WorkflowRuns) (queuedRunId id : Nat) :
    WorkflowRuns.linked (t.insert ⟨t.nextKey, queuedRunId⟩) id =
      (decide (queuedRunId = id) || t.linked id) := by
  have hRows : (t.insert ⟨t.nextKey, queuedRunId⟩).rows = ⟨t.nextKey, queuedRunId⟩ :: t.rows :=
    Table.rows_insert t.nextKey_free
  rw [WorkflowRuns.linked, hRows]
  rfl

theorem queued_of_mem_claimed {scheduledBefore : UnixTime} {limit : Nat}
    (h : id ∈ s.claimed scheduledBefore limit) : (s.status id).state = some .queued := by
  obtain ⟨run, hRun, rfl⟩ := List.mem_map.mp h
  obtain ⟨hLookup, hState⟩ := QueuedRuns.queued_of_mem_claimable hRun
  simp only [CampaignStore.status, hLookup, Option.map_some, hState]

theorem status_claim (s : CampaignStore) (scheduledBefore : UnixTime) (limit id : Nat) :
    (s.execute (.claimQueuedRuns scheduledBefore limit)).2.status id =
      if id ∈ s.claimed scheduledBefore limit then ⟨some .processing, (s.status id).linked⟩
      else s.status id := by
  have hState := state_setState s.queuedRuns (s.claimed scheduledBefore limit) .processing id
  split
  · rename_i hClaimed
    have hQueued : (s.queuedRuns.lookup id).map QueuedRun.state = some .queued :=
      queued_of_mem_claimed hClaimed
    rw [if_pos hClaimed, hQueued] at hState
    exact congrArg (RunStatus.mk · _) hState
  · rename_i hClaimed
    rw [if_neg hClaimed] at hState
    exact congrArg (RunStatus.mk · _) hState

theorem status_updateQueuedRun (s : CampaignStore) (target : Nat) (state : QueuedRunState)
    (id : Nat) : (s.execute (.updateQueuedRun target state)).2.status id =
      if id = target then ⟨(s.status id).state.map fun _ => state, (s.status id).linked⟩
      else s.status id := by
  have hState := state_setState s.queuedRuns [target] state id
  simp only [List.mem_singleton] at hState
  split
  · rename_i hTarget
    rw [if_pos hTarget] at hState
    exact congrArg (RunStatus.mk · _) hState
  · rename_i hTarget
    rw [if_neg hTarget] at hState
    exact congrArg (RunStatus.mk · _) hState

theorem mem_returnable {ids : List Nat} :
    id ∈ s.returnable ids ↔ id ∈ ids ∧ s.status id = ⟨some .processing, false⟩ := by
  have hStatus : s.status id = ⟨some .processing, false⟩ ↔
      (s.queuedRuns.lookup id).map QueuedRun.state = some .processing ∧
        s.workflowRuns.linked id = false := by
    rw [CampaignStore.status, RunStatus.mk.injEq]
  rw [hStatus, CampaignStore.returnable, List.mem_filter, Bool.and_eq_true, Option.any_eq_true]
  simp only [Bool.not_eq_true', Option.map_eq_some_iff, decide_eq_true_eq]
  exact and_congr_right fun _ => and_comm

theorem status_return (s : CampaignStore) (ids : List Nat) (id : Nat) :
    (s.execute (.returnProcessingQueuedRuns ids)).2.status id =
      if id ∈ ids ∧ s.status id = ⟨some .processing, false⟩ then ⟨some .queued, false⟩ else s.status id := by
  have hState := state_setState s.queuedRuns (s.returnable ids) .queued id
  split
  · rename_i hReturned
    have hStatus := (RunStatus.mk.injEq _ _ _ _).mp hReturned.2
    rw [if_pos (mem_returnable.mpr hReturned), hStatus.1] at hState
    exact congrArg₂ RunStatus.mk hState hStatus.2
  · rename_i hReturned
    rw [if_neg (mem_returnable.not.mpr hReturned)] at hState
    exact congrArg (RunStatus.mk · _) hState

theorem status_createWorkflowRun (s : CampaignStore) (queuedRunId id : Nat) :
    (s.execute (.createWorkflowRun queuedRunId)).2.status id =
      ⟨(s.status id).state, decide (queuedRunId = id) || (s.status id).linked⟩ :=
  congrArg (RunStatus.mk _) (linked_insert s.workflowRuns queuedRunId id)

theorem status_createQueuedRun (s : CampaignStore) (run : QueuedRun)
    (h : (s.status id).state ≠ none) : (s.createQueuedRun run).2.status id = s.status id := by
  obtain ⟨found, hFound⟩ : ∃ found, s.queuedRuns.lookup id = some found :=
    Option.ne_none_iff_exists'.mp fun hNone => h (by rw [CampaignStore.status, hNone]; rfl)
  rw [CampaignStore.createQueuedRun]
  split
  · rfl
  · refine congrArg (RunStatus.mk · _) ?_
    exact congrArg (Option.map QueuedRun.state)
      ((Table.lookup_insert_of_some hFound).trans hFound.symm)

theorem status_execute {command : CampaignCommand} (hTarget : id ∉ command.targets)
    (hExists : (s.status id).state ≠ none) (hQueued : (s.status id).state ≠ some .queued) :
    (s.execute command).2.status id = s.status id := by
  cases command with
  | claimQueuedRuns scheduledBefore limit =>
    rw [status_claim, if_neg fun hClaimed => hQueued (queued_of_mem_claimed hClaimed)]
  | updateQueuedRun target state =>
    rw [status_updateQueuedRun, if_neg fun hId => hTarget (List.mem_singleton.mpr hId)]
  | returnProcessingQueuedRuns ids =>
    rw [status_return, if_neg fun hReturned => hTarget hReturned.1]
  | createWorkflowRun queuedRunId =>
    have hOther : queuedRunId ≠ id := fun hId => hTarget (List.mem_singleton.mpr hId.symm)
    rw [status_createWorkflowRun, decide_eq_false hOther, Bool.false_or]
  | createQueuedRun run => exact status_createQueuedRun s run hExists
  | _ => rfl

theorem status_environment {s' : CampaignStore} {move : CampaignMove}
    (hMove : s.environment move = some s') (hExists : (s.status id).state ≠ none) :
    s'.status id = s.status id := by
  cases move with
  | redis move =>
    obtain ⟨keyspace, -, rfl⟩ := Option.map_eq_some_iff.mp hMove
    rfl
  | insertQueuedRun run =>
    obtain ⟨-, hMove⟩ := Option.ite_none_right_eq_some.mp hMove
    cases hMove
    exact status_createQueuedRun s run hExists
  | answer answers =>
    cases hMove
    rfl
  | draw random locked =>
    cases hMove
    rfl
  | edit settings =>
    cases hMove
    rfl

end Status

end FastVoice.Campaign
