import FastVoice.Campaign.Services

/-! # The call dispatcher

`process_batch` and `dispatch_call`. Every `except` clause is a handler around the awaits of its
`try` block; the variables that a clause reads decide between the handlers of one block.
-/
namespace FastVoice.Campaign
open Async CallConcurrency

structure Polls where
  rateLimit : Nat
  concurrentSlot : Nat
  fromNumber : Nat

def CampaignRow.poolKey (campaign : CampaignRow) : PoolKey :=
  ⟨campaign.organizationId, campaign.telephonyConfigurationId⟩

def getProviderForCampaign (campaign : CampaignRow) : CampaignMethod Provider :=
  service (.getProvider campaign.telephonyConfigurationId campaign.organizationId)

/-- The wait time that `get_next_available_slot` computes is left to the number of polls. -/
def getNextAvailableSlot (organizationId : Nat) : Method Unit :=
  orElse (do
    let _ ← CallConcurrency.call (.zrangeTokens (.organization organizationId))
    return ()) ()

def applyRateLimit (organizationId rateLimit : Nat) : (retries : Nat) → CampaignMethod Unit
  | 0 => do
    let acquired ← redis (acquireToken organizationId rateLimit none)
    if acquired then return ()
    else
      redis (getNextAvailableSlot organizationId)
      .raise (.timeoutError "Rate limit timeout - try again later")
  | retries + 1 => do
    let acquired ← redis (acquireToken organizationId rateLimit none)
    if acquired then return ()
    else
      redis (getNextAvailableSlot organizationId)
      redis (CallConcurrency.call .sleep)
      applyRateLimit organizationId rateLimit retries

def campaignScope (campaign : CampaignRow) : String := s!"campaign:{campaign.id}"

def acquireConcurrentSlot (campaign : CampaignRow) (retries : Nat) :
    CampaignMethod CallConcurrencySlot :=
  (redis (acquireOrgSlot campaign.organizationId (campaignScope campaign)
    (campaign.maxConcurrency.map fun _ => campaignScope campaign) campaign.maxConcurrency
    retries)).tryCatch fun
    | .callConcurrencyLimitError _ _ _ =>
      .raise (.concurrentSlotAcquisitionError campaign.organizationId campaign.id)
    | error => .raise error

/-- What the first handler of `dispatch_call` does: the slot is released by its mapping or by its
id, then the number if one was acquired. -/
def releaseAndRaise {α : Type} (release : Method Bool) (campaign : CampaignRow)
    (fromNumber : Option String) (error : Error) : CampaignMethod α :=
  if error.isException then do
    let _ ← redis release
    match fromNumber with
    | none => .raise error
    | some fromNumber =>
      let _ ← redis (releaseFromNumber campaign.poolKey fromNumber)
      .raise error
  else .raise error

/-- Up to the acquisition of the number. -/
def acquireForDispatch (run : QueuedRun) (campaign : CampaignRow) (retries : Nat) :
    CampaignMethod (String × Provider × String) := do
  let found ← service (.getWorkflow campaign.workflowId campaign.organizationId)
  if found then
    match run.contextVariables.phoneNumber.filter (· ≠ "") with
    | none => .raise (.valueError "No phone number in queued run")
    | some phoneNumber =>
      let provider ← getProviderForCampaign campaign
      let fromNumber ← redis (acquireFromNumber campaign.poolKey retries)
      match fromNumber with
      | none => .raise (.phoneNumberPoolExhaustedError campaign.organizationId)
      | some fromNumber => return (phoneNumber, provider, fromNumber)
  else .raise (.valueError "Workflow not found")

def createAndBind (run : QueuedRun) (slot : CallConcurrencySlot) : CampaignMethod Nat := do
  service .prepareWorkflowRunInputs
  let workflowRunId ← Program.call (CampaignCommand.createWorkflowRun run.id)
  redis (bindWorkflowRun slot workflowRunId)
  return workflowRunId

/-- The `try` block of `dispatch_call` that holds the slot and the number. -/
def prepareDispatch (run : QueuedRun) (campaign : CampaignRow) (slot : CallConcurrencySlot)
    (retries : Nat) : CampaignMethod (String × Provider × String × Nat) := do
  let (phoneNumber, provider, fromNumber) ←
    (acquireForDispatch run campaign retries).tryCatch
      (releaseAndRaise (releaseSlot slot) campaign none)
  let workflowRunId ← (createAndBind run slot).tryCatch
    (releaseAndRaise (releaseSlot slot) campaign (some fromNumber))
  let _ ← (redis (storeWorkflowFromNumberMapping workflowRunId campaign.poolKey fromNumber)).tryCatch
    (releaseAndRaise (releaseWorkflowRunSlot workflowRunId) campaign (some fromNumber))
  return (phoneNumber, provider, fromNumber, workflowRunId)

def addRetryTag (run : QueuedRun) (workflowRunId : Nat) : CampaignMethod Unit :=
  if run.contextVariables.isRetry then
    service (.updateWorkflowRun workflowRunId
      (.retryTags (run.contextVariables.retryReason.getD "unknown")))
  else return ()

def authorizeStart (workflowRunId : Nat) : CampaignMethod Unit := do
  let quotaResult ← service (.authorizeWorkflowRunStart workflowRunId)
  if quotaResult.hasQuota then return ()
  else
    let errorMessage := (quotaResult.errorMessage.filter (· ≠ "")).getD "Quota exceeded"
    service (.updateWorkflowRun workflowRunId (.quotaDenied errorMessage))
    let _ ← redis (releaseCallSlot workflowRunId)
    .raise (.valueError errorMessage)

def initiationFailed (workflowRunId : Nat) (error : Error) : CampaignMethod Unit :=
  if error.isException then do
    service (.updateWorkflowRun workflowRunId (.initiationFailed error))
    recordAndEvaluate true (some workflowRunId)
    let _ ← redis (releaseCallSlot workflowRunId)
    .raise error
  else .raise error

def initiateCall (phoneNumber : String) (provider : Provider) (fromNumber : String)
    (workflowRunId : Nat) : CampaignMethod Unit :=
  Program.tryCatch (do
    service .getBackendEndpoints
    service (.initiateCall workflowRunId phoneNumber fromNumber)
    service (.updateWorkflowRun workflowRunId (.initiated provider.providerName)))
    (initiationFailed workflowRunId)

/-- Returns the workflow run, by its id. -/
def dispatchCall (run : QueuedRun) (campaign : CampaignRow) (slot : CallConcurrencySlot)
    (retries : Nat) : CampaignMethod Nat := do
  let (phoneNumber, provider, fromNumber, workflowRunId) ← prepareDispatch run campaign slot retries
  addRetryTag run workflowRunId
  authorizeStart workflowRunId
  initiateCall phoneNumber provider fromNumber workflowRunId
  return workflowRunId

def initializePool (campaign : CampaignRow) : CampaignMethod Unit :=
  orElse (do
    let provider ← getProviderForCampaign campaign
    if provider.fromNumbers = [] then return ()
    else
      let _ ← redis (initializeFromNumberPool campaign.poolKey provider.fromNumbers)
      return ()) ()

def returnUnprocessedClaims (queuedRuns : List QueuedRun) (processedRunIds : List Nat) :
    CampaignMethod Unit :=
  orElse (do
    let _ ← returnProcessingQueuedRunsWithoutWorkflow
      ((queuedRuns.map QueuedRun.id).filter fun id => id ∉ processedRunIds)
    return ()) ()

/-- The `except` clauses of the loop. Three of them return the claims and raise; any other
exception marks the run as failed and lets the loop go on. -/
def handleRunError (queuedRuns : List QueuedRun) (processedRunIds : List Nat) (run : QueuedRun) :
    Error → CampaignMethod Unit
  | .cancelledError => do
    returnUnprocessedClaims queuedRuns processedRunIds
    .raise .cancelledError
  | .phoneNumberPoolExhaustedError organizationId => do
    returnUnprocessedClaims queuedRuns processedRunIds
    .raise (.phoneNumberPoolExhaustedError organizationId)
  | .concurrentSlotAcquisitionError organizationId campaignId => do
    returnUnprocessedClaims queuedRuns processedRunIds
    .raise (.concurrentSlotAcquisitionError organizationId campaignId)
  | _ => orElse (updateQueuedRun run.id .failed) ()

def processRun (campaign : CampaignRow) (polls : Polls) (run : QueuedRun) : CampaignMethod Bool := do
  applyRateLimit campaign.organizationId campaign.rateLimitPerSecond polls.rateLimit
  let concurrencySlot ← acquireConcurrentSlot campaign polls.concurrentSlot
  let _ ← dispatchCall run campaign concurrencySlot polls.fromNumber
  updateQueuedRun run.id .processed
  return true

/-- The loop over the claimed runs that are still to be processed. -/
def processRuns (campaign : CampaignRow) (polls : Nat → Polls) (queuedRuns : List QueuedRun) :
    List QueuedRun → (processedRunIds : List Nat) → CampaignMethod Nat
  | [], processedRunIds => return processedRunIds.length
  | run :: runs, processedRunIds => do
    let processed ← (processRun campaign (polls run.id) run).tryCatch fun error => do
      handleRunError queuedRuns processedRunIds run error
      return false
    if processed then
      (updateCampaign { processedRows := some (campaign.processedRows + 1) }).tryCatch
        (handleRunError queuedRuns (run.id :: processedRunIds) run)
      processRuns campaign polls queuedRuns runs (run.id :: processedRunIds)
    else processRuns campaign polls queuedRuns runs processedRunIds

def processBatch (batchSize : Nat) (polls : Nat → Polls) : CampaignMethod Nat := do
  let campaign ← getCampaignById
  match campaign with
  | none => .raise campaignNotFound
  | some campaign =>
    if campaign.state = .running then
      let now ← Program.call CampaignCommand.now
      let queuedRuns ← Program.call (CampaignCommand.claimQueuedRuns now batchSize)
      if queuedRuns = [] then return 0
      else
        initializePool campaign
        processRuns campaign polls queuedRuns queuedRuns []
    else return 0

end FastVoice.Campaign

/-! # The campaign runner and its tasks

Starting, pausing and resuming a campaign, and the two background tasks: the source sync and the
batch with its error handlers.
-/
namespace FastVoice.Campaign
open Async

def publish (event : CampaignEvent) : CampaignMethod Unit := do
  service .getCampaignEventPublisher
  service (.publish event)

def CampaignRow.isRedial (campaign : CampaignRow) : Bool := campaign.parentCampaignId.any (· ≠ 0)

def startCampaign : CampaignMethod Unit := do
  let campaign ← getCampaignById
  match campaign with
  | none => .raise campaignNotFound
  | some campaign =>
    if campaign.state = .created then
      let now ← Program.call CampaignCommand.now
      if campaign.isRedial then
        updateCampaign { state := some .running, startedAt := some now }
        publish (.syncCompleted (campaign.totalRows.getD 0))
      else
        updateCampaign { state := some .syncing, startedAt := some now }
        service (.enqueueJob .syncCampaignSource)
    else .raise (.valueError "Campaign must be in 'created' state to start")

def pauseCampaign : CampaignMethod Unit := do
  let campaign ← getCampaignById
  match campaign with
  | none => .raise campaignNotFound
  | some campaign =>
    if campaign.state = .running ∨ campaign.state = .syncing then
      updateCampaign { state := some .paused }
    else .raise (.valueError "Campaign must be in 'running' or 'syncing' state to pause")

def resumeCampaign : CampaignMethod Unit := do
  let campaign ← getCampaignById
  match campaign with
  | none => .raise campaignNotFound
  | some campaign =>
    if campaign.state = .paused then
      updateCampaign { state := some .running }
      let _ ← breaker (reset campaign.id)
      return ()
    else .raise (.valueError "Campaign must be in 'paused' state to resume")

def syncSource : CampaignMethod Unit := do
  let campaign ← getCampaignById
  match campaign with
  | none => .raise campaignNotFound
  | some _ =>
    let rowsSynced ← service .syncSourceData
    let now ← Program.call CampaignCommand.now
    if rowsSynced = 0 then updateCampaign { state := some .completed, completedAt := some now }
    else
      updateCampaign { state := some .running }
      publish (.syncCompleted rowsSynced)

def syncCampaignSource : CampaignMethod Unit :=
  syncSource.tryCatch fun error =>
    if error.isException then do
      updateCampaign { state := some .failed }
      service (.appendCampaignLog "source_sync_failed")
      .raise error
    else .raise error

def maxPhoneNumberPoolExhaustedAttempts : Nat := 3

def failBatch (event : String) (error : Error) : CampaignMethod Unit := do
  service (.publish .batchFailed)
  updateCampaign { state := some .failed }
  service (.appendCampaignLog event)
  .raise error

def handleBatchError (batchSize : Nat) : Error → CampaignMethod Unit
  | .cancelledError => .raise .cancelledError
  | .phoneNumberPoolExhaustedError organizationId => do
    let attempt ← Program.call CampaignCommand.incrementPoolExhausted
    service .getCampaignEventPublisher
    if attempt < maxPhoneNumberPoolExhaustedAttempts then
      service (.appendCampaignLog "phone_number_pool_exhausted_retry")
      service (.publish (.batchCompleted 0 batchSize))
    else failBatch "phone_number_pool_exhausted" (.phoneNumberPoolExhaustedError organizationId)
  | error => do
    service .getCampaignEventPublisher
    failBatch "batch_failed" error

def resetCounter (processedCount : Nat) : CampaignMethod Unit :=
  if 0 < processedCount then Program.call CampaignCommand.resetPoolExhausted else return ()

def processCampaignBatch (batchSize : Nat) (polls : Nat → Polls) : CampaignMethod Unit :=
  Program.tryCatch (do
    let processedCount ← processBatch batchSize polls
    resetCounter processedCount
    publish (.batchCompleted processedCount batchSize)) (handleBatchError batchSize)

end FastVoice.Campaign
