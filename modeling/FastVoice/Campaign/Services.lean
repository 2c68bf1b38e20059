import FastVoice.CallConcurrency.Service
import FastVoice.Campaign.Database

/-! # What the call dispatcher asks of Redis

How often a loop can poll before its timeout depends on the clock alone and is a parameter.
-/
namespace FastVoice.Campaign
open Async CallConcurrency

/-- Polls until the pool returns a number, which is empty for no provider. -/
def acquireFromNumber (key : PoolKey) : (retries : Nat) → Method (Option String)
  | 0 => do
    let fromNumber ← CallConcurrency.acquireFromNumber key
    return fromNumber.filter (· ≠ "")
  | retries + 1 => do
    let fromNumber ← CallConcurrency.acquireFromNumber key
    match fromNumber.filter (· ≠ "") with
    | some fromNumber => return some fromNumber
    | none =>
      call .sleep
      acquireFromNumber key retries

def releaseCallSlot (workflowRunId : Nat) : Method Bool := do
  let slotReleased ← releaseWorkflowRunSlot workflowRunId
  let fromNumberMapping ← getWorkflowFromNumberMapping workflowRunId
  match fromNumberMapping with
  | none => return slotReleased
  | some mapping =>
    let success ← releaseFromNumber mapping.pool mapping.fromNumber
    if success then
      let _ ← deleteWorkflowFromNumberMapping workflowRunId
      return slotReleased
    else return slotReleased

end FastVoice.Campaign

/-! # What the campaign services share

The database of one campaign, Redis, the breaker's keys, the orchestrator's memory, and the other
services, whose replies come from a register that may change at any time. A statement with its
commit is one step, but `update_campaign` reads, commits and refreshes in three. The orchestrator's
accesses to its own memory are steps of their own, which admits more interleavings than its event
loop does.
-/
namespace FastVoice.Campaign
open Async Sql

structure OrchestratorMemory where
  processingLock : Option UnixTime
  lastActivity : Option UnixTime
  batchInProgress : Option UnixTime
  deriving DecidableEq

def OrchestratorMemory.cleared : OrchestratorMemory := ⟨none, none, none⟩

inductive RetryReason where
  | busy
  | noAnswer
  | voicemail
  | failed
  | error
  deriving DecidableEq

def RetryReason.value : RetryReason → String
  | .busy => "busy"
  | .noAnswer => "no_answer"
  | .voicemail => "voicemail"
  | .failed => "failed"
  | .error => "error"

inductive CampaignEvent where
  | retryNeeded (queuedRunId : Nat) (reason : RetryReason)
  | batchCompleted (processedCount batchSize : Nat)
  | batchFailed
  | syncCompleted (totalRows : Nat)
  | circuitBreakerTripped
  | campaignCompleted

inductive Job where
  | syncCampaignSource
  | processCampaignBatch (batchSize : Nat)

structure Provider where
  providerName : String
  fromNumbers : List String

structure QuotaResult where
  hasQuota : Bool
  errorMessage : Option String

inductive WorkflowRunUpdate where
  | retryTags (retryReason : String)
  | quotaDenied (errorMessage : String)
  | initiated (provider : String)
  | initiationFailed (error : Error)

inductive Service where
  | getWorkflow (workflowId organizationId : Nat)
  | getProvider (telephonyConfigurationId : Option Nat) (organizationId : Nat)
  | prepareWorkflowRunInputs
  | updateWorkflowRun (workflowRunId : Nat) (update : WorkflowRunUpdate)
  | authorizeWorkflowRunStart (workflowRunId : Nat)
  | getBackendEndpoints
  | initiateCall (workflowRunId : Nat) (toNumber fromNumber : String)
  | syncSourceData
  | getCampaignEventPublisher
  | publish (event : CampaignEvent)
  | enqueueJob (job : Job)
  | appendCampaignLog (event : String)
  | pushRecentFailure (workflowRunId : Nat)
  | getRecentFailures
  | localTime (timezone : String)
  | sleep

abbrev Service.Reply : Service → Type
  | .getWorkflow _ _ => Bool
  | .getProvider _ _ => Provider
  | .authorizeWorkflowRunStart _ => QuotaResult
  | .syncSourceData => Nat
  /- The weekday and the time as `%H:%M`, unless the time zone is invalid. -/
  | .localTime _ => Option (Nat × String)
  | .prepareWorkflowRunInputs => Unit
  | .updateWorkflowRun _ _ => Unit
  | .getBackendEndpoints => Unit
  | .initiateCall _ _ _ => Unit
  | .getCampaignEventPublisher => Unit
  | .publish _ => Unit
  | .enqueueJob _ => Unit
  | .appendCampaignLog _ => Unit
  | .pushRecentFailure _ => Unit
  | .getRecentFailures => Unit
  | .sleep => Unit

structure CampaignStore where
  keyspace : CallConcurrency.Keyspace
  breaker : BreakerKeys
  campaign : Option CampaignRow
  queuedRuns : QueuedRuns
  workflowRuns : WorkflowRuns
  memory : OrchestratorMemory
  answers : (service : Service) → service.Reply
  random : Nat → Nat
  /-- The queued runs that some other transaction has locked. -/
  locked : Nat → Bool

def plainAnswers (rowsSynced : Nat) : (request : Service) → request.Reply
  | .getWorkflow _ _ => true
  | .getProvider _ _ => ⟨"twilio", []⟩
  | .authorizeWorkflowRunStart _ => ⟨true, none⟩
  | .syncSourceData => rowsSynced
  | .localTime _ => none
  | .prepareWorkflowRunInputs => ()
  | .updateWorkflowRun _ _ => ()
  | .getBackendEndpoints => ()
  | .initiateCall _ _ _ => ()
  | .getCampaignEventPublisher => ()
  | .publish _ => ()
  | .enqueueJob _ => ()
  | .appendCampaignLog _ => ()
  | .pushRecentFailure _ => ()
  | .getRecentFailures => ()
  | .sleep => ()

def CampaignRow.plain (state : CampaignState) : CampaignRow where
  id := 3
  organizationId := 7
  workflowId := 1
  telephonyConfigurationId := none
  state := state
  totalRows := none
  processedRows := 0
  failedRows := 0
  rateLimitPerSecond := 1
  retryConfig := ⟨none, none, none, none, none, none⟩
  lastBatchScheduledAt := none
  lastActivityAt := none
  startedAt := none
  completedAt := none
  parentCampaignId := none
  maxConcurrency := none
  circuitBreaker := none
  scheduleConfig := none
  phoneNumberPoolExhaustedAttempts := 0

def dialledRun : QueuedRun where
  id := 1
  sourceUuid := "csv_1"
  contextVariables := ⟨some "+15550123", false, none, none⟩
  state := .queued
  retryCount := 0
  parentQueuedRunId := none
  scheduledFor := none
  retryReason := none

def CampaignStore.fresh (clock : UnixTime) (campaign : CampaignRow) (runs : List QueuedRun)
    (rowsSynced : Nat) : CampaignStore where
  keyspace := .fresh clock
  breaker := ⟨clock, fun _ _ => default⟩
  campaign := some campaign
  queuedRuns := runs.foldl Table.insert .empty
  workflowRuns := .empty
  memory := .cleared
  answers := plainAnswers rowsSynced
  random := fun _ => 0
  locked := fun _ => false

inductive CampaignCommand where
  | redis (command : CallConcurrency.Command)
  | breaker (command : BreakerCommand)
  | service (request : Service)
  | now
  | memory (update : UnixTime → OrchestratorMemory → OrchestratorMemory)
  | getCampaignById
  | getCampaignsByStatus (statuses : List CampaignState)
  | loadCampaign
  | commitCampaign (loaded : CampaignRow) (changes : CampaignChanges)
  | refreshCampaign
  | incrementPoolExhausted
  | resetPoolExhausted
  | claimQueuedRuns (scheduledBefore : UnixTime) (limit : Nat)
  | updateQueuedRun (id : Nat) (state : QueuedRunState)
  | returnProcessingQueuedRuns (ids : List Nat)
  | getQueuedRunById (id : Nat)
  | createQueuedRun (run : QueuedRun)
  | getQueuedRunsCount (states : List QueuedRunState)
  | getScheduledRunsCount (scheduledBefore : UnixTime)
  | createWorkflowRun (queuedRunId : Nat)

abbrev CampaignCommand.Reply : CampaignCommand → Type
  | .redis command => command.Reply
  | .breaker command => command.Reply
  | .service request => request.Reply
  | .now => UnixTime
  /- The memory before the update, with the time of the update. -/
  | .memory _ => UnixTime × OrchestratorMemory
  | .getCampaignById => Option CampaignRow
  | .getCampaignsByStatus _ => List CampaignRow
  | .loadCampaign => Option CampaignRow
  | .incrementPoolExhausted => Nat
  | .claimQueuedRuns _ _ => List QueuedRun
  | .updateQueuedRun _ _ => Bool
  | .returnProcessingQueuedRuns _ => Nat
  | .getQueuedRunById _ => Option QueuedRun
  | .createQueuedRun _ => Option QueuedRun
  | .getQueuedRunsCount _ => Nat
  | .getScheduledRunsCount _ => Nat
  | .createWorkflowRun _ => Nat
  | .commitCampaign _ _ => Unit
  | .refreshCampaign => Unit
  | .resetPoolExhausted => Unit

namespace CampaignStore

def claim (s : CampaignStore) (scheduledBefore : UnixTime) (limit : Nat) :
    List QueuedRun × CampaignStore :=
  let claimed := s.queuedRuns.claimable s.random s.locked scheduledBefore limit
  (claimed.map fun run => { run with state := .processing },
    { s with queuedRuns := s.queuedRuns.setState (claimed.map QueuedRun.id) .processing })

/-- The bulk update of `return_processing_queued_runs_without_workflow`. -/
def returnable (s : CampaignStore) (ids : List Nat) : List Nat :=
  ids.filter fun id => !s.workflowRuns.linked id &&
    (s.queuedRuns.lookup id).any fun run => run.state = .processing

/-- A row is created with the next id unless it violates `unique_campaign_source_retry`. -/
def createQueuedRun (s : CampaignStore) (run : QueuedRun) : Option QueuedRun × CampaignStore :=
  if s.queuedRuns.rows.any fun other =>
      other.sourceUuid = run.sourceUuid ∧ other.retryCount = run.retryCount then (none, s)
  else
    let created := { run with id := s.queuedRuns.nextKey }
    (some created, { s with queuedRuns := s.queuedRuns.insert created })

def execute : (command : CampaignCommand) → CampaignStore → command.Reply × CampaignStore
  | .redis command, s =>
    let after := CallConcurrency.execute command s.keyspace
    (after.1, { s with keyspace := after.2 })
  | .breaker command, s =>
    let after := s.breaker.execute command
    (after.1, { s with breaker := after.2 })
  | .service request, s => (s.answers request, s)
  | .now, s => (s.keyspace.clock, s)
  | .memory update, s =>
    ((s.keyspace.clock, s.memory), { s with memory := update s.keyspace.clock s.memory })
  | .getCampaignById, s => (s.campaign, s)
  | .getCampaignsByStatus statuses, s =>
    (s.campaign.toList.filter fun campaign => campaign.state ∈ statuses, s)
  | .loadCampaign, s => (s.campaign, s)
  | .commitCampaign loaded changes, s =>
    ((), { s with campaign := s.campaign.map fun row => row.write loaded changes })
  | .refreshCampaign, s => ((), s)
  | .incrementPoolExhausted, s =>
    let attempt := s.campaign.elim 0 CampaignRow.phoneNumberPoolExhaustedAttempts + 1
    (attempt, { s with
      campaign := s.campaign.map fun row => { row with phoneNumberPoolExhaustedAttempts := attempt } })
  | .resetPoolExhausted, s =>
    ((), { s with
      campaign := s.campaign.map fun row => { row with phoneNumberPoolExhaustedAttempts := 0 } })
  | .claimQueuedRuns scheduledBefore limit, s => s.claim scheduledBefore limit
  | .updateQueuedRun id state, s =>
    ((s.queuedRuns.lookup id).isSome, { s with queuedRuns := s.queuedRuns.setState [id] state })
  | .returnProcessingQueuedRuns ids, s =>
    ((s.returnable ids).length,
      { s with queuedRuns := s.queuedRuns.setState (s.returnable ids) .queued })
  | .getQueuedRunById id, s => (s.queuedRuns.lookup id, s)
  | .createQueuedRun run, s => s.createQueuedRun run
  | .getQueuedRunsCount states, s => (s.queuedRuns.count fun run => run.state ∈ states, s)
  | .getScheduledRunsCount scheduledBefore, s =>
    (s.queuedRuns.count (·.isDue scheduledBefore), s)
  | .createWorkflowRun queuedRunId, s =>
    let id := s.workflowRuns.nextKey
    (id, { s with workflowRuns := s.workflowRuns.insert ⟨id, queuedRunId⟩ })

end CampaignStore

theorem campaign_createQueuedRun (s : CampaignStore) (run : QueuedRun) :
    (s.createQueuedRun run).2.campaign = s.campaign := by
  unfold CampaignStore.createQueuedRun
  split <;> rfl

/-- What happens between the commands: the clock moves on, other services change their replies,
settings of the campaign are edited, rows of the source are inserted. -/
inductive CampaignMove where
  | redis (move : CallConcurrency.Move)
  | answer (answers : (service : Service) → service.Reply)
  | draw (random : Nat → Nat) (locked : Nat → Bool)
  | edit (settings : CampaignRow)
  | insertQueuedRun (run : QueuedRun)

namespace CampaignStore

/-- An edit leaves the state and the counters as they are. -/
def edit (s : CampaignStore) (settings : CampaignRow) : CampaignStore :=
  { s with
    campaign := s.campaign.map fun row => { settings with
      id := row.id
      state := row.state
      processedRows := row.processedRows
      failedRows := row.failedRows
      phoneNumberPoolExhaustedAttempts := row.phoneNumberPoolExhaustedAttempts } }

def environment : CampaignMove → CampaignStore → Option CampaignStore
  | .redis move, s => (CallConcurrency.environment move s.keyspace).map fun keyspace =>
    { s with keyspace, breaker := s.breaker.advance keyspace.clock }
  | .answer answers, s => some { s with answers }
  | .draw random locked, s => some { s with random, locked }
  | .edit settings, s => some (s.edit settings)
  | .insertQueuedRun run, s =>
    if run.state = .queued then some (s.createQueuedRun run).2 else none

end CampaignStore

def campaignServices (ι : Type) : System ι CampaignCommand.Reply Error CampaignStore CampaignMove :=
  .ofServer CampaignStore.execute CampaignStore.environment

theorem perform_executed {ι : Type} (proc : ι) (command : CampaignCommand) (outcome : Outcome Error)
    (s : CampaignStore) : ((campaignServices ι).perform proc command outcome s).2 =
      if outcome.executed then (s.execute command).2 else s := by
  cases outcome with
  | reply => rfl
  | fail error applied => cases applied <;> rfl

abbrev CampaignMethod := Program CampaignCommand.Reply Error

def redis {α : Type} (method : CallConcurrency.Method α) : CampaignMethod α :=
  method.embed .redis fun _ => id

theorem redis_call (command : CallConcurrency.Command) :
    redis (Program.call command) = Program.call (CampaignCommand.redis command) := by
  refine congrArg (Program.await (CampaignCommand.redis command)) (funext fun result => ?_)
  cases result <;> rfl

theorem redis_bind {α β : Type} (method : CallConcurrency.Method α) (next : α → CallConcurrency.Method β) :
    redis (method >>= next) = redis method >>= fun value => redis (next value) :=
  Program.embed_bind method next

theorem redis_orElse {α : Type} (method : CallConcurrency.Method α) (fallback : α) :
    redis (orElse method fallback) = orElse (redis method) fallback := by
  refine (Program.embed_tryCatch method _).trans (congrArg _ (funext fun error => ?_))
  split <;> rfl

def breaker {α : Type} (method : BreakerMethod α) : CampaignMethod α :=
  method.embed .breaker fun _ => id

def service (request : Service) : CampaignMethod request.Reply :=
  Program.call (CampaignCommand.service request)

def getCampaignById : CampaignMethod (Option CampaignRow) :=
  Program.call CampaignCommand.getCampaignById

def campaignNotFound : Error := .valueError "Campaign not found"

def updateCampaign (changes : CampaignChanges) : CampaignMethod Unit := do
  let campaign ← Program.call CampaignCommand.loadCampaign
  match campaign with
  | none => .raise campaignNotFound
  | some campaign =>
    Program.call (CampaignCommand.commitCampaign campaign changes)
    Program.call CampaignCommand.refreshCampaign

theorem eval_updateCampaign {s : CampaignStore} {row : CampaignRow} (h : s.campaign = some row)
    (changes : CampaignChanges) : (updateCampaign changes).eval CampaignStore.execute s =
      (.ok (), { s with campaign := some (row.write row changes) }) := by
  simp only [updateCampaign, Program.call_bind, Program.eval_await, Program.proceed_ok,
    CampaignStore.execute, h]
  rfl

def updateQueuedRun (id : Nat) (state : QueuedRunState) : CampaignMethod Unit := do
  let found ← Program.call (CampaignCommand.updateQueuedRun id state)
  if found then return () else .raise (.valueError "QueuedRun not found")

def returnProcessingQueuedRunsWithoutWorkflow (queuedRunIds : List Nat) : CampaignMethod Nat :=
  if queuedRunIds = [] then return 0
  else Program.call (CampaignCommand.returnProcessingQueuedRuns queuedRunIds)

/-- Failures are kept for the log entry of a trip. -/
def pushRecentFailure (isFailure : Bool) : Option Nat → CampaignMethod Unit
  | some workflowRunId => if isFailure then service (.pushRecentFailure workflowRunId) else return ()
  | none => return ()

def recordAndEvaluate (isFailure : Bool) (workflowRunId : Option Nat) : CampaignMethod Unit :=
  orElse (do
    let campaign ← getCampaignById
    match campaign with
    | none => return ()
    | some campaign =>
      if campaign.state = .running then
        pushRecentFailure isFailure workflowRunId
        let report ← breaker (recordCallOutcome campaign.id isFailure campaign.circuitBreaker)
        match report with
        | (true, some _) =>
          service .getRecentFailures
          updateCampaign { state := some .paused }
          service (.appendCampaignLog "circuit_breaker_tripped")
          service .getCampaignEventPublisher
          service (.publish .circuitBreakerTripped)
        | _ => return ()
      else return ()) ()

end FastVoice.Campaign
