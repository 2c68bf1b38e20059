import FastVoice.CallConcurrency.SlotSets
import FastVoice.CallConcurrency.Service

/-! # The requests that start a call

Each of them acquires a slot, binds it to its run and starts a call, a stream or a pipeline. What can go wrong
in between is an exception at any await.
-/
namespace FastVoice.CallStart
open Async CallConcurrency

structure StartStore where
  redis : Keyspace
  nextRunId : Nat
  hasQuota : Bool

inductive StartCommand where
  | redis (command : Command)
  | createWorkflowRun
  | authorizeWorkflowRunStart
  /-- The provider places the call or streams, or the task of the pipeline is created. -/
  | startCall
  | other
  deriving DecidableEq

abbrev StartCommand.Reply : StartCommand → Type
  | .redis command => command.Reply
  | .createWorkflowRun => Nat
  | .authorizeWorkflowRunStart => Bool
  | .startCall | .other => Unit

def StartStore.execute (s : StartStore) : (command : StartCommand) → command.Reply × StartStore
  | .redis command =>
    ((CallConcurrency.execute command s.redis).1, { s with redis := (CallConcurrency.execute command s.redis).2 })
  | .createWorkflowRun => (s.nextRunId, { s with nextRunId := s.nextRunId + 1 })
  | .authorizeWorkflowRunStart => (s.hasQuota, s)
  | .startCall | .other => ((), s)

/-- What an await of another service may raise: not the exceptions of the call concurrency service. -/
def foreignError : Error → Error
  | .cancelledError => .cancelledError
  | .valueError message => .valueError message
  | .timeoutError message => .timeoutError message
  | _ => .exception

theorem isException_foreignError (error : Error) : (foreignError error).isException = error.isException := by
  cases error <;> rfl

def startServices : System Unit StartCommand.Reply Error StartStore Empty where
  perform _ command outcome s :=
    (match outcome.raised with
      | none => .ok (s.execute command).1
      | some error => .error (foreignError error),
      if outcome.executed then (s.execute command).2 else s)
  environment move _ := nomatch move

abbrev StartMethod := Program StartCommand.Reply Error

def other : StartMethod Unit := Program.call StartCommand.other

def onRedis {α : Type} (method : Method α) : StartMethod α := method.embed StartCommand.redis fun _ reply => reply

/-- `timeout=0`: one attempt. -/
def acquireOrgSlot (organizationId : Nat) (source : String) : StartMethod CallConcurrencySlot :=
  onRedis (CallConcurrency.acquireOrgSlot organizationId source none none 0)

def bindWorkflowRun (slot : CallConcurrencySlot) (workflowRunId : Nat) : StartMethod Unit :=
  onRedis (CallConcurrency.bindWorkflowRun slot workflowRunId)

def releaseSlot (slot : CallConcurrencySlot) : StartMethod Unit := do
  let _ ← onRedis (CallConcurrency.releaseSlot slot)
  return ()

def releaseWorkflowRunSlot (workflowRunId : Nat) : StartMethod Unit := do
  let _ ← onRedis (CallConcurrency.releaseWorkflowRunSlot workflowRunId)
  return ()

def markWorkflowRunFailed : StartMethod Unit := do
  let recorded ← orElse (do
    other
    return true) false
  if recorded then orElse other () else return ()

def onException {α : Type} (program : StartMethod α) (cleanup : StartMethod Unit) : StartMethod α :=
  program.tryCatch fun error =>
    if error.isException then do
      cleanup
      .raise error
    else .raise error

def failAndRelease (workflowRunId : Nat) : StartMethod Unit := do
  markWorkflowRunFailed
  releaseWorkflowRunSlot workflowRunId

/-- The run of a new call, or the one that the request names, which must be of the workflow. -/
def prepareRun : Option (Nat × Bool) → StartMethod Nat
  | none => do
    other
    Program.call StartCommand.createWorkflowRun
  | some (workflowRunId, belongs) => do
    other
    if belongs then return workflowRunId else .raise .exception

def initiateCall (organizationId : Nat) (named : Option (Nat × Bool)) : StartMethod Unit := do
  let slot ← acquireOrgSlot organizationId "telephony_outbound"
  let workflowRunId ← Program.tryCatch (do
      let workflowRunId ← prepareRun named
      bindWorkflowRun slot workflowRunId
      return workflowRunId) fun error =>
    match error with
    | .workflowRunSlotAlreadyBoundError _ => .raise .exception
    | error =>
      if error.isException then do
        releaseSlot slot
        .raise error
      else .raise error
  let hasQuota ← Program.call StartCommand.authorizeWorkflowRunStart
  if !hasQuota then
    failAndRelease workflowRunId
    .raise .exception
  else
    onException (do
      other
      Program.call StartCommand.startCall) (failAndRelease workflowRunId)
    other

def inboundFailure (slot : CallConcurrencySlot) : Option Nat → StartMethod Unit
  | some workflowRunId => failAndRelease workflowRunId
  | none => releaseSlot slot

def startInbound (slot : CallConcurrencySlot) (workflowRunId : Nat) : StartMethod Unit := do
  bindWorkflowRun slot workflowRunId
  let hasQuota ← Program.call StartCommand.authorizeWorkflowRunStart
  if !hasQuota then failAndRelease workflowRunId
  else
    other
    Program.call StartCommand.startCall

/-- A run that is bound already is answered like a full organization. -/
def onInboundError (slot : CallConcurrencySlot) (workflowRunId : Option Nat) (error : Error) : StartMethod Unit :=
  match error with
  | .workflowRunSlotAlreadyBoundError _ => return ()
  | error =>
    if error.isException then do
      inboundFailure slot workflowRunId
      .raise error
    else .raise error

/-- A full organization is answered, and an exception is logged. -/
def inboundCall (organizationId : Nat) (source : String) : StartMethod Unit :=
  orElse (do
    let slot ← acquireOrgSlot organizationId source
    let created ← Program.tryCatch (do
        other
        let workflowRunId ← Program.call StartCommand.createWorkflowRun
        return some workflowRunId) fun error => do
      onInboundError slot none error
      return none
    match created with
    | some workflowRunId => (startInbound slot workflowRunId).tryCatch (onInboundError slot (some workflowRunId))
    | none => return ()) ()

def handleInboundRun (organizationId : Nat) (provider : String) : StartMethod Unit :=
  inboundCall organizationId ("inbound:" ++ provider)

def handleInboundTelephony (organizationId : Nat) (provider : String) : StartMethod Unit :=
  inboundCall organizationId ("inbound_legacy:" ++ provider)

def executeResolvedTarget (organizationId : Nat) : StartMethod Unit := do
  let slot ← acquireOrgSlot organizationId "public_agent"
  let workflowRunId ← onException (do
    let workflowRunId ← prepareRun none
    bindWorkflowRun slot workflowRunId
    return workflowRunId) (releaseSlot slot)
  let hasQuota ← Program.call StartCommand.authorizeWorkflowRunStart
  if !hasQuota then
    failAndRelease workflowRunId
    .raise .exception
  else
    onException other (releaseWorkflowRunSlot workflowRunId)
    onException (Program.call StartCommand.startCall) (failAndRelease workflowRunId)
    other

/-- Where the offer is refused, the client is told. -/
def admitOffer (organizationId workflowRunId : Nat) : StartMethod Bool :=
  Program.tryCatch (do
      let slot ← acquireOrgSlot organizationId "webrtc"
      bindWorkflowRun slot workflowRunId
      return true) fun error =>
    match error with
    | .callConcurrencyLimitError _ _ _ | .workflowRunSlotAlreadyBoundError _ => do
      other
      return false
    | error => .raise error

/-- An offer for a new peer connection. Making the connection, before it is initialized, is `prepares`: it may
raise too. -/
def handleOffer (organizationId workflowRunId : Nat) (prepares : Bool) : StartMethod Unit := do
  let hasQuota ← Program.call StartCommand.authorizeWorkflowRunStart
  if !hasQuota then other
  else
    let admitted ← admitOffer organizationId workflowRunId
    if !admitted then return ()
    else
      onException (do
        if prepares then
          other
          Program.call StartCommand.startCall
        else .raise .exception) (releaseWorkflowRunSlot workflowRunId)
      other

inductive EntryPoint where
  | initiateCall (named : Option (Nat × Bool))
  | handleInboundRun (provider : String)
  | handleInboundTelephony (provider : String)
  | executeResolvedTarget
  | handleOffer (workflowRunId : Nat) (prepares : Bool)

def EntryPoint.method (organizationId : Nat) : EntryPoint → StartMethod Unit
  | .initiateCall named => CallStart.initiateCall organizationId named
  | .handleInboundRun provider => CallStart.handleInboundRun organizationId provider
  | .handleInboundTelephony provider => CallStart.handleInboundTelephony organizationId provider
  | .executeResolvedTarget => CallStart.executeResolvedTarget organizationId
  | .handleOffer workflowRunId prepares => CallStart.handleOffer organizationId workflowRunId prepares

end FastVoice.CallStart
