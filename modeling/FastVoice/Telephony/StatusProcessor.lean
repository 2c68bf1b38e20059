import FastVoice.Campaign.Services
import FastVoice.Runtime.Dict

/-! # Telephony status callbacks

One workflow run, the services that its campaign shares, and what was published and enqueued for it.
A read of the row carries the time at which the callback is logged. `str.lower` is a parameter; the
`usage_info` of a run, which nothing here reads, is left out.
-/
namespace FastVoice.Telephony
open Async Campaign

inductive TelephonyCallStatus where
  | initiated
  | ringing
  | inProgress
  | answered
  | completed
  | failed
  | busy
  | noAnswer
  | canceled
  | error
  deriving DecidableEq

namespace TelephonyCallStatus

def value : TelephonyCallStatus → String
  | .initiated => "initiated"
  | .ringing => "ringing"
  | .inProgress => "in-progress"
  | .answered => "answered"
  | .completed => "completed"
  | .failed => "failed"
  | .busy => "busy"
  | .noAnswer => "no-answer"
  | .canceled => "canceled"
  | .error => "error"

def all : List TelephonyCallStatus :=
  [.initiated, .ringing, .inProgress, .answered, .completed, .failed, .busy, .noAnswer, .canceled,
    .error]

def fromRaw (lower : String → String) (raw : String) : Option TelephonyCallStatus :=
  if raw = "" then none else all.find? fun status => status.value = lower raw

end TelephonyCallStatus

open TelephonyCallStatus

def terminalNotConnectedStatuses : List TelephonyCallStatus :=
  [.failed, .busy, .noAnswer, .canceled, .error]

def retryableNotConnectedStatuses : List TelephonyCallStatus := [.busy, .noAnswer]

def failureNotConnectedStatuses : List TelephonyCallStatus := [.error, .failed]

def statusValue (lower : String → String) (raw : String) : String :=
  ((fromRaw lower raw).map value).getD (lower raw)

def retryReason : TelephonyCallStatus → RetryReason
  | .busy => .busy
  | _ => .noAnswer

/-- A JSON value of the run log. -/
inductive LogValue where
  | null
  | text (value : String)
  | timestamp (time : UnixTime)
  deriving DecidableEq

abbrev CallbackLog := Dict String LogValue

structure StatusCallbackRequest where
  callId : String
  status : String
  duration : Option String
  extra : List (String × LogValue)

inductive WorkflowRunState where
  | initialized
  | running
  | completed
  deriving DecidableEq

/-- An absent `telephony_status_callbacks` is empty; `call_tags` that are absent or not a list are
`none`. -/
structure WorkflowRunRow where
  campaignId : Option Nat
  queuedRunId : Option Nat
  state : WorkflowRunState
  isCompleted : Bool
  telephonyStatusCallbacks : List CallbackLog
  callTags : Option (List String)
  callDisposition : Option String
  mappedCallDisposition : Option String
  callId : Option String

/-- The keys that one `update_workflow_run` merges into the row. -/
structure WorkflowRunPatch where
  isCompleted : Bool := false
  state : Option WorkflowRunState := none
  telephonyStatusCallbacks : Option (List CallbackLog) := none
  callTags : Option (List String) := none
  callDisposition : Option String := none
  mappedCallDisposition : Option String := none
  callId : Option String := none

def WorkflowRunRow.patch (row : WorkflowRunRow) (patch : WorkflowRunPatch) : WorkflowRunRow where
  campaignId := row.campaignId
  queuedRunId := row.queuedRunId
  state := patch.state.getD row.state
  isCompleted := patch.isCompleted || row.isCompleted
  telephonyStatusCallbacks := patch.telephonyStatusCallbacks.getD row.telephonyStatusCallbacks
  callTags := patch.callTags.or row.callTags
  callDisposition := patch.callDisposition.or row.callDisposition
  mappedCallDisposition := patch.mappedCallDisposition.or row.mappedCallDisposition
  callId := patch.callId.or row.callId

structure TelephonyStore where
  services : CampaignStore
  run : Option WorkflowRunRow
  /-- The retry-needed events that were published for the run's queued run. -/
  retryEvents : List RetryReason
  integrationJobs : Nat

inductive TelephonyCommand where
  | campaign (command : CampaignCommand)
  | getWorkflowRunById
  | updateWorkflowRun (patch : WorkflowRunPatch)
  | publishRetryNeeded (reason : RetryReason)
  | enqueueIntegrations

abbrev TelephonyCommand.Reply : TelephonyCommand → Type
  | .campaign command => command.Reply
  | .getWorkflowRunById => UnixTime × Option WorkflowRunRow
  /- Whether the row was found. -/
  | .updateWorkflowRun _ => Bool
  | .publishRetryNeeded _ => Unit
  | .enqueueIntegrations => Unit

/-- What happens between the commands: everything but the run may change, and other writers of the
run leave its callback log alone. -/
inductive TelephonyMove where
  | services (services : CampaignStore)
  | writeRun (patch : WorkflowRunPatch)

namespace TelephonyStore

def patchRun (s : TelephonyStore) (patch : WorkflowRunPatch) : TelephonyStore :=
  { s with run := s.run.map fun row => row.patch patch }

def execute : (command : TelephonyCommand) → TelephonyStore → command.Reply × TelephonyStore
  | .campaign command, s =>
    let after := s.services.execute command
    (after.1, { s with services := after.2 })
  | .getWorkflowRunById, s => ((s.services.keyspace.clock, s.run), s)
  | .updateWorkflowRun patch, s => (s.run.isSome, s.patchRun patch)
  | .publishRetryNeeded reason, s => ((), { s with retryEvents := s.retryEvents ++ [reason] })
  | .enqueueIntegrations, s => ((), { s with integrationJobs := s.integrationJobs + 1 })

def environment : TelephonyMove → TelephonyStore → Option TelephonyStore
  | .services services, s => some { s with services }
  | .writeRun patch, s => if patch.telephonyStatusCallbacks.isNone then some (s.patchRun patch) else none

end TelephonyStore

def telephonyServices (ι : Type) :
    System ι TelephonyCommand.Reply Error TelephonyStore TelephonyMove :=
  .ofServer TelephonyStore.execute TelephonyStore.environment

abbrev TelephonyMethod := Program TelephonyCommand.Reply Error

def campaign {α : Type} (method : CampaignMethod α) : TelephonyMethod α :=
  method.embed .campaign fun _ => id

def updateWorkflowRun (patch : WorkflowRunPatch) : TelephonyMethod Unit := do
  let found ← Program.call (TelephonyCommand.updateWorkflowRun patch)
  if found then return () else .raise (.valueError "Workflow run not found")

def appendUniqueTags (existingTags : Option (List String)) (newTags : List String) : List String :=
  newTags.foldl (fun merged tag => if tag ∈ merged then merged else merged ++ [tag])
    (existingTags.getD [])

def callbackLog (lower : String → String) (status : StatusCallbackRequest) (timestamp : UnixTime) :
    CallbackLog :=
  Dict.extend
    (Dict.ofPairs
      [("status", .text (statusValue lower status.status)), ("timestamp", .timestamp timestamp),
        ("call_id", .text status.callId), ("duration", status.duration.elim .null .text)])
    status.extra

/-- The breaker is told of the calls of campaigns only. -/
def recordOutcome (campaignId : Option Nat) (isFailure : Bool) (workflowRunId : Nat) :
    TelephonyMethod Unit :=
  match campaignId with
  | some _ => campaign (recordAndEvaluate isFailure (if isFailure then some workflowRunId else none))
  | none => return ()

def processCompleted (workflowRunId : Nat) (workflowRun : WorkflowRunRow) : TelephonyMethod Unit := do
  let _ ← campaign (redis (releaseCallSlot workflowRunId))
  recordOutcome workflowRun.campaignId false workflowRunId
  if workflowRun.state = .completed then return ()
  else updateWorkflowRun { isCompleted := true, state := some .completed }

def publishRetryNeeded (normalizedStatus : TelephonyCallStatus) (campaignId : Option Nat) :
    TelephonyMethod Unit :=
  if normalizedStatus ∈ retryableNotConnectedStatuses ∧ campaignId.isSome then do
    campaign (service .getCampaignEventPublisher)
    Program.call (TelephonyCommand.publishRetryNeeded (retryReason normalizedStatus))
  else return ()

def notConnectedPatch (workflowRun : WorkflowRunRow) (status : StatusCallbackRequest)
    (normalizedStatus : TelephonyCallStatus) : WorkflowRunPatch where
  isCompleted := true
  state := some .completed
  callTags := some (appendUniqueTags workflowRun.callTags
    ["not_connected", "telephony_" ++ normalizedStatus.value])
  callDisposition := some normalizedStatus.value
  mappedCallDisposition := some normalizedStatus.value
  callId := if status.callId = "" then none else some status.callId

def shouldRunPostCallIntegrations (workflowRun : WorkflowRunRow) : Bool :=
  workflowRun.state = .initialized && !workflowRun.isCompleted

def processNotConnected (workflowRunId : Nat) (workflowRun : WorkflowRunRow)
    (status : StatusCallbackRequest) (normalizedStatus : TelephonyCallStatus) :
    TelephonyMethod Unit := do
  let _ ← campaign (redis (releaseCallSlot workflowRunId))
  recordOutcome workflowRun.campaignId (normalizedStatus ∈ failureNotConnectedStatuses) workflowRunId
  publishRetryNeeded normalizedStatus workflowRun.campaignId
  updateWorkflowRun (notConnectedPatch workflowRun status normalizedStatus)
  if shouldRunPostCallIntegrations workflowRun then
    Program.call TelephonyCommand.enqueueIntegrations
  else return ()

def processNormalized (workflowRunId : Nat) (workflowRun : WorkflowRunRow)
    (status : StatusCallbackRequest) : Option TelephonyCallStatus → TelephonyMethod Unit
  | none => return ()
  | some normalizedStatus =>
    if normalizedStatus = .completed then processCompleted workflowRunId workflowRun
    else if normalizedStatus ∈ terminalNotConnectedStatuses then
      processNotConnected workflowRunId workflowRun status normalizedStatus
    else return ()

def processStatusUpdate (lower : String → String) (workflowRunId : Nat)
    (status : StatusCallbackRequest) : TelephonyMethod Unit := do
  let (timestamp, workflowRun) ← Program.call TelephonyCommand.getWorkflowRunById
  match workflowRun with
  | none => return ()
  | some workflowRun =>
    updateWorkflowRun
      { telephonyStatusCallbacks :=
          some (workflowRun.telephonyStatusCallbacks ++ [callbackLog lower status timestamp]) }
    processNormalized workflowRunId workflowRun status (fromRaw lower status.status)

end FastVoice.Telephony
