import FastVoice.Campaign.Dispatcher

/-! # The commands of the dispatcher

Which commands `process_batch` and its parts can issue, for any property of commands that holds of
the requests to Redis and the other services, and of the statements that the part contains.
-/
namespace FastVoice.Campaign
open Async

def Service.reports : Service → Bool
  | .pushRecentFailure _ => true
  | .getRecentFailures => true
  | .appendCampaignLog _ => true
  | .getCampaignEventPublisher => true
  | .publish _ => true
  | _ => false

class Reads (P : CampaignCommand → Prop) : Prop where
  breaker : ∀ command, P (.breaker command)
  getCampaignById : P .getCampaignById
  loadCampaign : P .loadCampaign
  refreshCampaign : P .refreshCampaign

class Serves (P : CampaignCommand → Prop) : Prop extends Reads P where
  redis : ∀ command, P (.redis command)
  service : ∀ request, P (.service request)
  now : P .now

class Evaluates (P : CampaignCommand → Prop) : Prop extends Reads P where
  reports : ∀ request, request.reports = true → P (.service request)
  pauses : ∀ loaded, P (.commitCampaign loaded { state := some .paused })

class Pauses (P : CampaignCommand → Prop) : Prop extends Serves P where
  pauses : ∀ loaded, P (.commitCampaign loaded { state := some .paused })

instance {P : CampaignCommand → Prop} [Pauses P] : Evaluates P where
  reports request _ := Serves.service request
  pauses := Pauses.pauses

class Dispatches (P : CampaignCommand → Prop) : Prop extends Pauses P where
  creates : ∀ id, P (.createWorkflowRun id)

class Recovers (P : CampaignCommand → Prop) : Prop where
  fails : ∀ id, P (.updateQueuedRun id .failed)
  returns : ∀ ids, P (.returnProcessingQueuedRuns ids)

class Batches (P : CampaignCommand → Prop) : Prop extends Dispatches P, Recovers P where
  claims : ∀ scheduledBefore limit, P (.claimQueuedRuns scheduledBefore limit)
  processes : ∀ id, P (.updateQueuedRun id .processed)
  counts : ∀ loaded processedRows,
    P (.commitCampaign loaded { processedRows := some processedRows })

section Reads

variable {P : CampaignCommand → Prop} [Reads P]

theorem breaker_issues {α : Type} (method : BreakerMethod α) : (breaker method).Issues P :=
  Program.embed_issues Reads.breaker method

theorem getCampaignById_issues : getCampaignById.Issues P :=
  Program.issues_call Reads.getCampaignById

theorem updateCampaign_issues {changes : CampaignChanges}
    (h : ∀ loaded, P (.commitCampaign loaded changes)) : (updateCampaign changes).Issues P := by
  refine (Program.issues_call Reads.loadCampaign).bind fun campaign => ?_
  cases campaign with
  | none => trivial
  | some campaign =>
    exact (Program.issues_call (h campaign)).bind fun _ => Program.issues_call Reads.refreshCampaign

end Reads

section Evaluates

variable {P : CampaignCommand → Prop} [Evaluates P]

theorem recordAndEvaluate_issues (isFailure : Bool) (workflowRunId : Option Nat) :
    (recordAndEvaluate isFailure workflowRunId).Issues P := by
  have hReport : ∀ request : Service, request.reports = true → (service request).Issues P :=
    fun request hReports => Program.issues_call (Evaluates.reports request hReports)
  refine orElse_issues (getCampaignById_issues.bind fun campaign => ?_)
  cases campaign with
  | none => trivial
  | some campaign =>
    dsimp only
    split
    · have hPush : (pushRecentFailure isFailure workflowRunId).Issues P := by
        cases workflowRunId with
        | none => trivial
        | some workflowRunId => cases isFailure <;> first | trivial | exact hReport _ rfl
      refine hPush.bind fun _ => (breaker_issues _).bind fun report => ?_
      split
      · exact (hReport _ rfl).bind fun _ => (updateCampaign_issues Evaluates.pauses).bind fun _ =>
          (hReport _ rfl).bind fun _ => (hReport _ rfl).bind fun _ => hReport _ rfl
      · trivial
    · trivial

end Evaluates

section Serves

variable {P : CampaignCommand → Prop} [Serves P]

theorem redis_issues {α : Type} (method : CallConcurrency.Method α) : (redis method).Issues P :=
  Program.embed_issues Serves.redis method

theorem service_issues (request : Service) : (service request).Issues P :=
  Program.issues_call (Serves.service request)

theorem publish_issues (event : CampaignEvent) : (publish event).Issues P :=
  (service_issues _).bind fun _ => service_issues _

theorem releaseAndRaise_issues {α : Type} (release : CallConcurrency.Method Bool)
    (campaign : CampaignRow) (fromNumber : Option String) (error : Error) :
    (releaseAndRaise release campaign fromNumber error : CampaignMethod α).Issues P := by
  unfold releaseAndRaise
  split
  · refine (redis_issues _).bind fun _ => ?_
    cases fromNumber with
    | none => trivial
    | some fromNumber => exact (redis_issues _).bind fun _ => trivial
  · trivial

theorem applyRateLimit_issues (organizationId rateLimit retries : Nat) :
    (applyRateLimit organizationId rateLimit retries).Issues P := by
  induction retries with
  | zero =>
    refine (redis_issues _).bind fun acquired => ?_
    split
    · trivial
    · exact (redis_issues _).bind fun _ => trivial
  | succ retries ih =>
    refine (redis_issues _).bind fun acquired => ?_
    split
    · trivial
    · exact (redis_issues _).bind fun _ => (redis_issues _).bind fun _ => ih

theorem acquireConcurrentSlot_issues (campaign : CampaignRow) (retries : Nat) :
    (acquireConcurrentSlot campaign retries).Issues P := by
  refine (redis_issues _).tryCatch fun error => ?_
  split <;> trivial

theorem acquireForDispatch_issues (run : QueuedRun) (campaign : CampaignRow) (retries : Nat) :
    (acquireForDispatch run campaign retries).Issues P := by
  refine (service_issues _).bind fun found => ?_
  split
  · split
    · trivial
    · refine (service_issues _).bind fun provider => (redis_issues _).bind fun fromNumber => ?_
      split <;> trivial
  · trivial

theorem authorizeStart_issues (workflowRunId : Nat) : (authorizeStart workflowRunId).Issues P := by
  refine (service_issues _).bind fun quotaResult => ?_
  split
  · trivial
  · exact (service_issues _).bind fun _ => (redis_issues _).bind fun _ => trivial

theorem addRetryTag_issues (run : QueuedRun) (workflowRunId : Nat) :
    (addRetryTag run workflowRunId).Issues P := by
  unfold addRetryTag
  split
  · exact service_issues _
  · trivial

theorem initializePool_issues (campaign : CampaignRow) : (initializePool campaign).Issues P := by
  refine orElse_issues ((service_issues _).bind fun provider => ?_)
  split
  · trivial
  · exact (redis_issues _).bind fun _ => trivial

end Serves

section Pauses

variable {P : CampaignCommand → Prop} [Pauses P]

theorem initiateCall_issues (phoneNumber : String) (provider : Provider) (fromNumber : String)
    (workflowRunId : Nat) : (initiateCall phoneNumber provider fromNumber workflowRunId).Issues P := by
  have hTry : (do
      service .getBackendEndpoints
      service (.initiateCall workflowRunId phoneNumber fromNumber)
      service (.updateWorkflowRun workflowRunId (.initiated provider.providerName)) :
        CampaignMethod Unit).Issues P :=
    (service_issues _).bind fun _ => (service_issues _).bind fun _ => service_issues _
  refine hTry.tryCatch fun error => ?_
  unfold initiationFailed
  split
  · exact (service_issues _).bind fun _ =>
      (recordAndEvaluate_issues _ _).bind fun _ =>
        (redis_issues _).bind fun _ => trivial
  · trivial

end Pauses

section Dispatches

variable {P : CampaignCommand → Prop} [Dispatches P]

theorem createAndBind_issues (run : QueuedRun) (slot : CallConcurrency.CallConcurrencySlot) :
    (createAndBind run slot).Issues P :=
  (service_issues _).bind fun _ => (Program.issues_call (Dispatches.creates run.id)).bind fun _ =>
    (redis_issues _).bind fun _ => trivial

theorem prepareDispatch_issues (run : QueuedRun) (campaign : CampaignRow)
    (slot : CallConcurrency.CallConcurrencySlot) (retries : Nat) :
    (prepareDispatch run campaign slot retries).Issues P := by
  refine ((acquireForDispatch_issues run campaign retries).tryCatch
    (releaseAndRaise_issues _ _ _)).bind fun acquired => ?_
  obtain ⟨phoneNumber, provider, fromNumber⟩ := acquired
  refine ((createAndBind_issues run slot).tryCatch
    (releaseAndRaise_issues _ _ _)).bind fun workflowRunId => ?_
  exact ((redis_issues _).tryCatch (releaseAndRaise_issues _ _ _)).bind fun _ => trivial

theorem dispatchCall_issues (run : QueuedRun) (campaign : CampaignRow)
    (slot : CallConcurrency.CallConcurrencySlot) (retries : Nat) :
    (dispatchCall run campaign slot retries).Issues P :=
  (prepareDispatch_issues run campaign slot retries).bind fun _ =>
    (addRetryTag_issues run _).bind fun _ => (authorizeStart_issues _).bind fun _ =>
      (initiateCall_issues _ _ _ _).bind fun _ => trivial

end Dispatches

section Batches

variable {P : CampaignCommand → Prop}

theorem updateQueuedRun_issues {id : Nat} {state : QueuedRunState}
    (h : P (.updateQueuedRun id state)) : (updateQueuedRun id state).Issues P := by
  refine (Program.issues_call h).bind fun found => ?_
  split <;> trivial

theorem returnUnprocessedClaims_issues [Recovers P] (queuedRuns : List QueuedRun)
    (processedRunIds : List Nat) : (returnUnprocessedClaims queuedRuns processedRunIds).Issues P := by
  refine orElse_issues ?_
  have hReturn : ∀ ids, (returnProcessingQueuedRunsWithoutWorkflow ids).Issues P := by
    intro ids
    unfold returnProcessingQueuedRunsWithoutWorkflow
    split
    · trivial
    · exact Program.issues_call (Recovers.returns ids)
  exact (hReturn _).bind fun _ => trivial

theorem handleRunError_issues [Recovers P] (queuedRuns : List QueuedRun) (processedRunIds : List Nat)
    (run : QueuedRun) (error : Error) : (handleRunError queuedRuns processedRunIds run error).Issues P := by
  have hReturn : ∀ error, (do
      returnUnprocessedClaims queuedRuns processedRunIds
      .raise error : CampaignMethod Unit).Issues P := fun error =>
    (returnUnprocessedClaims_issues queuedRuns processedRunIds).bind fun _ => trivial
  have hFail : (orElse (updateQueuedRun run.id .failed) ()).Issues P :=
    orElse_issues (updateQueuedRun_issues (Recovers.fails run.id))
  cases error with
  | cancelledError => exact hReturn _
  | phoneNumberPoolExhaustedError organizationId => exact hReturn _
  | concurrentSlotAcquisitionError organizationId campaignId => exact hReturn _
  | _ => exact hFail

variable [Batches P]

theorem processRun_issues (campaign : CampaignRow) (polls : Polls) (run : QueuedRun) :
    (processRun campaign polls run).Issues P :=
  (applyRateLimit_issues _ _ _).bind fun _ => (acquireConcurrentSlot_issues _ _).bind fun _ =>
    (dispatchCall_issues _ _ _ _).bind fun _ =>
      (updateQueuedRun_issues (Batches.processes run.id)).bind fun _ => trivial

theorem processRuns_issues (campaign : CampaignRow) (polls : Nat → Polls)
    (queuedRuns runs : List QueuedRun) (processedRunIds : List Nat) :
    (processRuns campaign polls queuedRuns runs processedRunIds).Issues P := by
  induction runs generalizing processedRunIds with
  | nil => trivial
  | cons run runs ih =>
    have hHandler : ∀ error, (do
        handleRunError queuedRuns processedRunIds run error
        return false : CampaignMethod Bool).Issues P := fun error =>
      (handleRunError_issues queuedRuns processedRunIds run error).bind fun _ => trivial
    refine ((processRun_issues campaign _ run).tryCatch hHandler).bind fun processed => ?_
    split
    · exact ((updateCampaign_issues fun loaded => Batches.counts loaded _).tryCatch
        (handleRunError_issues queuedRuns _ run)).bind fun _ => ih _
    · exact ih _

theorem processBatch_issues (batchSize : Nat) (polls : Nat → Polls) :
    (processBatch batchSize polls).Issues P := by
  refine getCampaignById_issues.bind fun campaign => ?_
  cases campaign with
  | none => trivial
  | some campaign =>
    dsimp only
    split
    · refine (Program.issues_call Serves.now).bind fun now => ?_
      refine (Program.issues_call (Batches.claims now batchSize)).bind fun queuedRuns => ?_
      split
      · trivial
      · exact (initializePool_issues campaign).bind fun _ => processRuns_issues _ _ _ _ _
    · trivial

end Batches

end FastVoice.Campaign
