import FastVoice.Campaign.DispatcherCommands
import FastVoice.Campaign.Orchestrator

/-! # The operations on one campaign

Everything that API, worker and orchestrator processes run on a campaign, and which of the commands
that change the campaign's state or its queued runs each operation can issue.
-/
namespace FastVoice.Campaign
open Async

inductive Operation where
  | startCampaign
  | pauseCampaign
  | resumeCampaign
  | syncCampaignSource
  | processCampaignBatch (batchSize : Nat) (polls : Nat → Polls)
  | processBatch (batchSize : Nat) (polls : Nat → Polls)
  | recordAndEvaluate (isFailure : Bool) (workflowRunId : Option Nat)
  | handleEvent (event : CampaignEvent)
  | releaseLockAfterDelay
  | checkStaleCampaigns

def Operation.method : Operation → CampaignMethod Unit
  | .startCampaign => Campaign.startCampaign
  | .pauseCampaign => Campaign.pauseCampaign
  | .resumeCampaign => Campaign.resumeCampaign
  | .syncCampaignSource => Campaign.syncCampaignSource
  | .processCampaignBatch batchSize polls => Campaign.processCampaignBatch batchSize polls
  | .processBatch batchSize polls => do
    let _ ← Campaign.processBatch batchSize polls
    return ()
  | .recordAndEvaluate isFailure workflowRunId => Campaign.recordAndEvaluate isFailure workflowRunId
  | .handleEvent event => Campaign.handleEvent event
  | .releaseLockAfterDelay => Campaign.releaseLockAfterDelay
  | .checkStaleCampaigns => Campaign.checkStaleCampaigns

abbrev CampaignEntry (ι : Type) := Entry ι CampaignCommand Error CampaignStore CampaignMove
abbrev CampaignTrace (ι : Type) := Recorded ι CampaignCommand Error CampaignStore CampaignMove

def CampaignCommand.placesCall : CampaignCommand → Bool
  | .service (.initiateCall _ _ _) => true
  | _ => false

section After

variable {ι : Type} {trace : CampaignTrace ι} {proc : ι} {command : CampaignCommand}
  {outcome : Outcome Error}

def CampaignTrace.after (trace : CampaignTrace ι) (proc : ι) (command : CampaignCommand)
    (outcome : Outcome Error) : CampaignTrace ι :=
  ((campaignServices ι).recorded.perform proc command outcome trace).2

theorem state_after : (trace.after proc command outcome).state =
    if outcome.executed then (trace.state.execute command).2 else trace.state :=
  perform_executed proc command outcome trace.state

end After

namespace Operation

def writes : Operation → CampaignState → Bool
  | .startCampaign, state => state = .syncing || state = .running
  | .pauseCampaign, state => state = .paused
  | .resumeCampaign, state => state = .running
  | .syncCampaignSource, state => state = .completed || state = .running || state = .failed
  | .processCampaignBatch _ _, state => state = .failed || state = .paused
  | .processBatch _ _, state => state = .paused
  | .recordAndEvaluate _ _, state => state = .paused
  | .handleEvent _, state => state = .paused
  | .releaseLockAfterDelay, _ => false
  | .checkStaleCampaigns, state => state = .completed || state = .paused

def isBatch : Operation → Bool
  | .processCampaignBatch _ _ => true
  | .processBatch _ _ => true
  | _ => false

def isProcessBatch : Operation → Bool
  | .processBatch _ _ => true
  | _ => false

def Allowed (operation : Operation) : CampaignCommand → Prop
  | .commitCampaign _ changes => ∀ state ∈ changes.state, operation.writes state = true
  | .updateQueuedRun _ state => operation.isBatch = true ∧ (state = .processed ∨ state = .failed)
  | .claimQueuedRuns _ _ => operation.isBatch = true
  | .returnProcessingQueuedRuns _ => operation.isBatch = true
  | .createWorkflowRun _ => operation.isBatch = true
  | _ => True

end Operation

section Issues

variable {op : Operation}

instance : Serves op.Allowed where
  redis _ := trivial
  breaker _ := trivial
  service _ := trivial
  now := trivial
  getCampaignById := trivial
  loadCampaign := trivial
  refreshCampaign := trivial

theorem updateCampaign_issues_state {changes : CampaignChanges} {state : CampaignState}
    (hState : changes.state = some state) (h : op.writes state = true) :
    (updateCampaign changes).Issues op.Allowed := by
  refine updateCampaign_issues fun _ other hOther => ?_
  rw [hState] at hOther
  exact Option.some.inj hOther ▸ h

theorem writes_paused_of_isBatch (h : op.isBatch = true) : op.writes .paused = true := by
  cases op <;> first | rfl | cases h

theorem batches_allowed (h : op.isBatch = true) : Batches op.Allowed where
  pauses := by
    rintro _ _ ⟨⟩
    exact writes_paused_of_isBatch h
  creates _ := h
  fails _ := ⟨h, .inr rfl⟩
  returns _ := h
  claims _ _ := h
  processes _ := ⟨h, .inl rfl⟩
  counts := by rintro _ _ _ ⟨⟩

theorem failBatch_issues (h : op.writes .failed = true) (event : String) (error : Error) :
    (failBatch event error).Issues op.Allowed :=
  (service_issues _).bind fun _ => (updateCampaign_issues_state rfl h).bind fun _ =>
    (service_issues _).bind fun _ => trivial

theorem handleBatchError_issues (h : op.writes .failed = true) (batchSize : Nat) (error : Error) :
    (handleBatchError batchSize error).Issues op.Allowed := by
  have hFail : ∀ error, (do
      service .getCampaignEventPublisher
      failBatch "batch_failed" error : CampaignMethod Unit).Issues op.Allowed := fun error =>
    (service_issues _).bind fun _ => failBatch_issues h _ _
  cases error with
  | cancelledError => trivial
  | phoneNumberPoolExhaustedError organizationId =>
    refine (Program.issues_call trivial).bind fun attempt => (service_issues _).bind fun _ => ?_
    split
    · exact (service_issues _).bind fun _ => service_issues _
    · exact failBatch_issues h _ _
  | _ => exact hFail _

theorem startCampaign_issues : startCampaign.Issues Operation.startCampaign.Allowed := by
  refine (Program.issues_call trivial).bind fun campaign => ?_
  cases campaign with
  | none => trivial
  | some campaign =>
    dsimp only
    split
    · refine (Program.issues_call trivial).bind fun now => ?_
      split
      · exact (updateCampaign_issues_state rfl rfl).bind fun _ => publish_issues _
      · exact (updateCampaign_issues_state rfl rfl).bind fun _ => service_issues _
    · trivial

theorem pauseCampaign_issues : pauseCampaign.Issues Operation.pauseCampaign.Allowed := by
  refine (Program.issues_call trivial).bind fun campaign => ?_
  cases campaign with
  | none => trivial
  | some campaign =>
    dsimp only
    split
    · exact updateCampaign_issues_state rfl rfl
    · trivial

theorem resumeCampaign_issues : resumeCampaign.Issues Operation.resumeCampaign.Allowed := by
  refine (Program.issues_call trivial).bind fun campaign => ?_
  cases campaign with
  | none => trivial
  | some campaign =>
    dsimp only
    split
    · exact (updateCampaign_issues_state rfl rfl).bind fun _ =>
        (breaker_issues _).bind fun _ => trivial
    · trivial

theorem syncSource_issues : syncSource.Issues Operation.syncCampaignSource.Allowed := by
  refine (Program.issues_call trivial).bind fun campaign => ?_
  cases campaign with
  | none => trivial
  | some campaign =>
    refine (service_issues _).bind fun rowsSynced => (Program.issues_call trivial).bind fun now => ?_
    split
    · exact updateCampaign_issues_state rfl rfl
    · exact (updateCampaign_issues_state rfl rfl).bind fun _ => publish_issues _

theorem syncCampaignSource_issues : syncCampaignSource.Issues Operation.syncCampaignSource.Allowed := by
  refine syncSource_issues.tryCatch fun error => ?_
  split
  · exact (updateCampaign_issues_state rfl rfl).bind fun _ => (service_issues _).bind fun _ => trivial
  · trivial

theorem processCampaignBatch_issues (batchSize : Nat) (polls : Nat → Polls) :
    (processCampaignBatch batchSize polls).Issues
      (Operation.processCampaignBatch batchSize polls).Allowed := by
  have hBatches : Batches (Operation.processCampaignBatch batchSize polls).Allowed :=
    batches_allowed rfl
  have hReset : ∀ count, (resetCounter count).Issues
      (Operation.processCampaignBatch batchSize polls).Allowed := by
    intro count
    unfold resetCounter
    split
    · exact Program.issues_call trivial
    · trivial
  exact ((processBatch_issues batchSize polls).bind fun _ => (hReset _).bind fun _ =>
    publish_issues _).tryCatch (handleBatchError_issues rfl batchSize)

theorem remember_issues (update : UnixTime → OrchestratorMemory → OrchestratorMemory) :
    (remember update).Issues op.Allowed := Program.issues_call trivial

theorem clearCampaignState_issues : clearCampaignState.Issues op.Allowed :=
  (remember_issues _).bind fun _ => trivial

theorem clearBatchInProgress_issues : clearBatchInProgress.Issues op.Allowed :=
  (remember_issues _).bind fun _ => trivial

theorem touchLastActivity_issues : touchLastActivity.Issues op.Allowed :=
  (remember_issues _).bind fun _ => trivial

theorem isWithinSchedule_issues (campaign : CampaignRow) : (isWithinSchedule campaign).Issues op.Allowed := by
  unfold isWithinSchedule
  split
  · trivial
  · split
    · trivial
    · refine (service_issues _).bind fun now => ?_
      split <;> trivial

theorem hasPendingWork_issues : hasPendingWork.Issues op.Allowed := by
  refine (Program.issues_call trivial).bind fun queuedCount => ?_
  split
  · trivial
  · exact (Program.issues_call trivial).bind fun now => (Program.issues_call trivial).bind fun _ => trivial

theorem scheduleNextBatch_issues (h : op.writes .paused = true) : scheduleNextBatch.Issues op.Allowed := by
  refine (remember_issues _).bind fun found => ?_
  obtain ⟨now, memory⟩ := found
  dsimp only
  split
  · trivial
  refine orElse_issues ((Program.issues_call trivial).bind fun campaign => ?_)
  split
  · trivial
  split
  · refine (isWithinSchedule_issues _).bind fun withinSchedule => ?_
    split
    · refine (breaker_issues _).bind fun report => ?_
      split
      · exact (updateCampaign_issues_state rfl h).bind fun _ => (service_issues _).bind fun _ =>
          (service_issues _).bind fun _ => clearCampaignState_issues
      · refine hasPendingWork_issues.bind fun hasWork => ?_
        split
        · refine (service_issues _).bind fun _ => (remember_issues _).bind fun _ =>
            updateCampaign_issues ?_
          rintro _ state ⟨⟩
        · trivial
    · trivial
  · trivial

theorem handleRetryEvent_issues (queuedRunId : Nat) (reason : RetryReason) :
    (handleRetryEvent queuedRunId reason).Issues op.Allowed := by
  refine (Program.issues_call trivial).bind fun campaign => ?_
  split
  · trivial
  split
  · refine (Program.issues_call trivial).bind fun queuedRun => ?_
    split
    · trivial
    split
    · refine (Program.issues_call trivial).bind fun campaign => ?_
      split
      · trivial
      · refine updateCampaign_issues ?_
        rintro _ state ⟨⟩
    · have hSchedule : ∀ original reason delay,
          (scheduleRetry original reason delay).Issues op.Allowed := by
        intro original reason delay
        refine (Program.issues_call trivial).bind fun now => (Program.issues_call trivial).bind fun created => ?_
        split <;> trivial
      exact (hSchedule _ _ _).bind fun _ => touchLastActivity_issues
  · trivial

theorem handleEvent_issues (event : CampaignEvent) :
    (handleEvent event).Issues (Operation.handleEvent event).Allowed := by
  have hSchedule : (do
      scheduleNextBatch
      touchLastActivity : CampaignMethod Unit).Issues (Operation.handleEvent event).Allowed :=
    (scheduleNextBatch_issues rfl).bind fun _ => touchLastActivity_issues
  cases event with
  | retryNeeded queuedRunId reason => exact orElse_issues (handleRetryEvent_issues _ _)
  | batchCompleted processedCount batchSize =>
    refine orElse_issues (clearBatchInProgress_issues.bind fun _ =>
      (Program.issues_call trivial).bind fun campaign => ?_)
    split
    · exact clearCampaignState_issues
    split
    · exact hSchedule
    · exact clearCampaignState_issues
  | batchFailed =>
    exact orElse_issues (clearBatchInProgress_issues.bind fun _ => touchLastActivity_issues)
  | syncCompleted totalRows => exact orElse_issues hSchedule
  | circuitBreakerTripped => exact orElse_issues clearCampaignState_issues
  | campaignCompleted => trivial

theorem recoverStuckBatch_issues (h : op.writes .paused = true) : recoverStuckBatch.Issues op.Allowed := by
  refine (remember_issues _).bind fun found => ?_
  obtain ⟨now, memory⟩ := found
  dsimp only
  split
  · refine hasPendingWork_issues.bind fun hasWork => ?_
    split
    · exact (scheduleNextBatch_issues h).bind fun _ => trivial
    · trivial
  · trivial

theorem scheduleOrphanedWork_issues (h : op.writes .paused = true) (campaign : CampaignRow) :
    (scheduleOrphanedWork campaign).Issues op.Allowed := by
  refine (remember_issues _).bind fun found => ?_
  obtain ⟨now, memory⟩ := found
  dsimp only
  split
  · trivial
  refine hasPendingWork_issues.bind fun hasWork => ?_
  split
  · refine (isWithinSchedule_issues _).bind fun withinSchedule => ?_
    split
    · exact (scheduleNextBatch_issues h).bind fun _ => trivial
    · trivial
  · trivial

theorem shouldMarkComplete_issues (campaign : CampaignRow) :
    (shouldMarkComplete campaign).Issues op.Allowed := by
  refine (remember_issues _).bind fun found => ?_
  obtain ⟨now, memory⟩ := found
  dsimp only
  split
  · trivial
  refine hasPendingWork_issues.bind fun hasWork => ?_
  split
  · exact (isWithinSchedule_issues _).bind fun _ => trivial
  · exact (remember_issues _).bind fun _ => trivial

theorem checkStaleCampaigns_issues : checkStaleCampaigns.Issues Operation.checkStaleCampaigns.Allowed := by
  have hComplete : completeCampaign.Issues Operation.checkStaleCampaigns.Allowed := by
    refine orElse_issues (hasPendingWork_issues.bind fun hasWork => ?_)
    split
    · trivial
    · exact (Program.issues_call trivial).bind fun now => (updateCampaign_issues_state rfl rfl).bind fun _ =>
        (service_issues _).bind fun _ => clearCampaignState_issues
  have hOne : ∀ campaign, (checkStaleCampaign campaign).Issues
      Operation.checkStaleCampaigns.Allowed := by
    intro campaign
    refine orElse_issues ((recoverStuckBatch_issues rfl).bind fun recovered => ?_)
    split
    · trivial
    refine (scheduleOrphanedWork_issues rfl campaign).bind fun orphaned => ?_
    split
    · trivial
    refine (shouldMarkComplete_issues campaign).bind fun complete => ?_
    split
    · exact hComplete
    · trivial
  have hAll : ∀ campaigns, (checkStaleCampaignsOf campaigns).Issues
      Operation.checkStaleCampaigns.Allowed := by
    intro campaigns
    induction campaigns with
    | nil => trivial
    | cons campaign campaigns ih => exact (hOne campaign).bind fun _ => ih
  exact orElse_issues ((Program.issues_call trivial).bind fun campaigns => hAll campaigns)

theorem operation_issues (op : Operation) : op.method.Issues op.Allowed := by
  cases op with
  | startCampaign => exact startCampaign_issues
  | pauseCampaign => exact pauseCampaign_issues
  | resumeCampaign => exact resumeCampaign_issues
  | syncCampaignSource => exact syncCampaignSource_issues
  | processCampaignBatch batchSize polls => exact processCampaignBatch_issues batchSize polls
  | processBatch batchSize polls =>
    have hBatches : Batches (Operation.processBatch batchSize polls).Allowed := batches_allowed rfl
    exact (processBatch_issues batchSize polls).bind fun _ => trivial
  | recordAndEvaluate isFailure workflowRunId =>
    have hPauses : Pauses (Operation.recordAndEvaluate isFailure workflowRunId).Allowed := by
      constructor
      rintro _ _ ⟨⟩
      rfl
    exact recordAndEvaluate_issues _ _
  | handleEvent event => exact handleEvent_issues event
  | releaseLockAfterDelay =>
    exact (service_issues _).bind fun _ => (remember_issues _).bind fun _ => trivial
  | checkStaleCampaigns => exact checkStaleCampaigns_issues

end Issues

end FastVoice.Campaign
