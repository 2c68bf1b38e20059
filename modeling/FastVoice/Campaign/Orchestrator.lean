import Mathlib.Data.Nat.Cast.Order.Ring
import FastVoice.Campaign.Dispatcher

/-! # The campaign orchestrator

Event handling, batch scheduling and completion checks. The delayed release of a processing lock is
a task of its own.
-/
namespace FastVoice.Campaign
open Async

def remember (update : UnixTime → OrchestratorMemory → OrchestratorMemory) :
    CampaignMethod (UnixTime × OrchestratorMemory) :=
  Program.call (CampaignCommand.memory update)

def clearCampaignState : CampaignMethod Unit := do
  let _ ← remember fun _ _ => .cleared
  return ()

def clearBatchInProgress : CampaignMethod Unit := do
  let _ ← remember fun _ memory => { memory with batchInProgress := none }
  return ()

def touchLastActivity : CampaignMethod Unit := do
  let _ ← remember fun now memory => { memory with lastActivity := some now }
  return ()

def ScheduleSlot.contains (slot : ScheduleSlot) (currentDay : Nat) (currentTime : String) : Bool :=
  slot.dayOfWeek = currentDay && decide (slot.startTime ≤ currentTime) &&
    decide (currentTime < slot.endTime)

def isWithinSchedule (campaign : CampaignRow) : CampaignMethod Bool :=
  match campaign.scheduleConfig with
  | none => return true
  | some scheduleConfig =>
    if scheduleConfig.enabled = false ∨ scheduleConfig.slots = [] then return true
    else do
      let now ← service (.localTime scheduleConfig.timezone)
      match now with
      | none => return true
      | some (currentDay, currentTime) =>
        return scheduleConfig.slots.any (·.contains currentDay currentTime)

def hasPendingWork : CampaignMethod Bool := do
  let queuedCount ← Program.call (CampaignCommand.getQueuedRunsCount [.queued])
  if 0 < queuedCount then return true
  else
    let now ← Program.call CampaignCommand.now
    let scheduledCount ← Program.call (CampaignCommand.getScheduledRunsCount now)
    return decide (0 < scheduledCount)

def OrchestratorMemory.recentlyLocked (memory : OrchestratorMemory) (now : UnixTime) : Bool :=
  memory.processingLock.any fun lockTime => decide (now.val - lockTime.val < 5)

def takeProcessingLock (now : UnixTime) (memory : OrchestratorMemory) : OrchestratorMemory :=
  if memory.recentlyLocked now then memory else { memory with processingLock := some now }

def pauseTripped : CampaignMethod Unit := do
  updateCampaign { state := some .paused }
  service (.appendCampaignLog "circuit_breaker_tripped")
  service (.publish .circuitBreakerTripped)
  clearCampaignState

def enqueueBatch : CampaignMethod Unit := do
  service (.enqueueJob (.processCampaignBatch 10))
  let (now, _) ← remember fun now memory => { memory with batchInProgress := some now }
  updateCampaign { lastBatchScheduledAt := some now, lastActivityAt := some now }

def scheduleNextBatch : CampaignMethod Unit := do
  let (now, memory) ← remember takeProcessingLock
  if memory.recentlyLocked now then return ()
  else orElse (do
    let campaign ← getCampaignById
    match campaign with
    | none => return ()
    | some campaign =>
      if campaign.state = .running ∨ campaign.state = .syncing then
        let withinSchedule ← isWithinSchedule campaign
        if withinSchedule then
          let report ← breaker (isCircuitOpen campaign.id campaign.circuitBreaker)
          match report with
          | (true, some _) => pauseTripped
          | _ =>
            let hasWork ← hasPendingWork
            if hasWork then enqueueBatch else return ()
        else return ()
      else return ()) ()

def releaseLockAfterDelay : CampaignMethod Unit := do
  service .sleep
  let _ ← remember fun _ memory => { memory with processingLock := none }
  return ()

def RetryConfig.retries (config : RetryConfig) : RetryReason → Bool
  | .busy => config.retryOnBusy.getD true
  | .noAnswer => config.retryOnNoAnswer.getD true
  | .voicemail => config.retryOnVoicemail.getD true
  | _ => true

def UnixTime.plus (time : UnixTime) (seconds : Nat) : UnixTime :=
  ⟨time.val + seconds, UnixTime.add_pos time seconds⟩

def retryRun (original : QueuedRun) (reason : RetryReason) (scheduledFor : UnixTime) : QueuedRun where
  id := 0
  sourceUuid := s!"{original.sourceUuid}_retry_{original.retryCount + 1}"
  contextVariables := { original.contextVariables with
    isRetry := true
    retryAttempt := some (original.retryCount + 1)
    retryReason := some reason.value }
  state := .queued
  retryCount := original.retryCount + 1
  parentQueuedRunId := some original.id
  scheduledFor := some scheduledFor
  retryReason := some reason.value

def scheduleRetry (original : QueuedRun) (reason : RetryReason) (delaySeconds : Nat) :
    CampaignMethod Unit := do
  let now ← Program.call CampaignCommand.now
  let created ← Program.call (CampaignCommand.createQueuedRun
    (retryRun original reason (UnixTime.plus now delaySeconds)))
  if created.isSome then return () else .raise .exception

def markFinalFailure : CampaignMethod Unit := do
  let campaign ← getCampaignById
  match campaign with
  | none => return ()
  | some campaign => updateCampaign { failedRows := some (campaign.failedRows + 1) }

def handleRetryEvent (queuedRunId : Nat) (reason : RetryReason) : CampaignMethod Unit := do
  let campaign ← getCampaignById
  match campaign with
  | none => return ()
  | some campaign =>
    if campaign.retryConfig.enabled.getD true ∧ campaign.retryConfig.retries reason then
      let queuedRun ← Program.call (CampaignCommand.getQueuedRunById queuedRunId)
      match queuedRun with
      | none => return ()
      | some queuedRun =>
        if campaign.retryConfig.maxRetries.getD 1 ≤ queuedRun.retryCount then markFinalFailure
        else
          scheduleRetry queuedRun reason (campaign.retryConfig.retryDelaySeconds.getD 120)
          touchLastActivity
    else return ()

def handleBatchCompleted : CampaignMethod Unit := do
  clearBatchInProgress
  let campaign ← getCampaignById
  match campaign with
  | none => clearCampaignState
  | some campaign =>
    if campaign.state = .running then
      scheduleNextBatch
      touchLastActivity
    else clearCampaignState

/-- An exception is logged by the listener. -/
def handleEvent : CampaignEvent → CampaignMethod Unit
  | .retryNeeded queuedRunId reason => orElse (handleRetryEvent queuedRunId reason) ()
  | .batchCompleted _ _ => orElse handleBatchCompleted ()
  | .batchFailed => orElse (do
    clearBatchInProgress
    touchLastActivity) ()
  | .syncCompleted _ => orElse (do
    scheduleNextBatch
    touchLastActivity) ()
  | .circuitBreakerTripped => orElse clearCampaignState ()
  | .campaignCompleted => return ()

def completionTimeout : ℚ := 3600

def lastActivity (memory : OrchestratorMemory) (campaign : CampaignRow) : Option UnixTime :=
  memory.lastActivity <|> campaign.lastActivityAt <|> campaign.lastBatchScheduledAt <|>
    campaign.startedAt

def isInactive (memory : OrchestratorMemory) (campaign : CampaignRow) (now : UnixTime) : Bool :=
  (lastActivity memory campaign).all fun last => decide (completionTimeout ≤ now.val - last.val)

def shouldMarkComplete (campaign : CampaignRow) : CampaignMethod Bool := do
  let (_, memory) ← remember fun _ memory => memory
  if memory.batchInProgress.isSome then return false
  else
    let hasWork ← hasPendingWork
    if hasWork then
      let _ ← isWithinSchedule campaign
      return false
    else
      let (now, memory) ← remember fun _ memory => memory
      return isInactive memory campaign now

def completeCampaign : CampaignMethod Unit :=
  orElse (do
    let hasWork ← hasPendingWork
    if hasWork then return ()
    else
      let now ← Program.call CampaignCommand.now
      updateCampaign { state := some .completed, completedAt := some now }
      service (.publish .campaignCompleted)
      clearCampaignState) ()

/-- Whether a batch was scheduled more than five minutes ago and has not reported back. -/
def OrchestratorMemory.stuck (memory : OrchestratorMemory) (now : UnixTime) : Bool :=
  memory.batchInProgress.any fun start => decide (300 < now.val - start.val)

def dropStuckBatch (now : UnixTime) (memory : OrchestratorMemory) : OrchestratorMemory :=
  if memory.stuck now then { memory with batchInProgress := none } else memory

def recoverStuckBatch : CampaignMethod Bool := do
  let (now, memory) ← remember dropStuckBatch
  if memory.stuck now then
    let hasWork ← hasPendingWork
    if hasWork then
      scheduleNextBatch
      return true
    else return false
  else return false

def scheduleOrphanedWork (campaign : CampaignRow) : CampaignMethod Bool := do
  let (_, memory) ← remember fun _ memory => memory
  if memory.batchInProgress.isSome then return false
  else
    let hasWork ← hasPendingWork
    if hasWork then
      let withinSchedule ← isWithinSchedule campaign
      if withinSchedule then
        scheduleNextBatch
        return true
      else return true
    else return false

def checkStaleCampaign (campaign : CampaignRow) : CampaignMethod Unit :=
  orElse (do
    let recovered ← recoverStuckBatch
    if recovered then return ()
    else
      let orphaned ← scheduleOrphanedWork campaign
      if orphaned then return ()
      else
        let complete ← shouldMarkComplete campaign
        if complete then completeCampaign else return ()) ()

def checkStaleCampaignsOf : List CampaignRow → CampaignMethod Unit
  | [] => return ()
  | campaign :: campaigns => do
    checkStaleCampaign campaign
    checkStaleCampaignsOf campaigns

/-- An exception is logged by the monitor. -/
def checkStaleCampaigns : CampaignMethod Unit :=
  orElse (do
    let campaigns ← Program.call (CampaignCommand.getCampaignsByStatus [.running])
    checkStaleCampaignsOf campaigns) ()

end FastVoice.Campaign
