import FastVoice.CallConcurrency.RateLimiter

/-! # The call concurrency service

Acquiring a slot polls until its timeout; how often it can poll before `wait_time >= timeout`
depends on the clock alone and is a parameter here.
-/
namespace FastVoice.CallConcurrency
open Async

structure CallConcurrencySlot where
  organizationId : Nat
  slotId : SlotId
  maxConcurrent : Nat
  source : String
  scopeKey : Option String
  deriving DecidableEq

/-- `DEFAULT_ORG_CONCURRENCY_LIMIT` when the environment does not set it. -/
def defaultConcurrentLimit : Nat := 10

def getOrgConcurrentLimit (organizationId : Nat) : Method Nat :=
  orElse (do
    let configured ← call (.getConfiguration organizationId)
    return configured.getD defaultConcurrentLimit) defaultConcurrentLimit

/-- Never raises an `Exception`. -/
def notifyLimitReached (organizationId : Nat) : Method Unit :=
  orElse (call (.getOrganizationUsers organizationId)) ()

def pollOrgSlot (organizationId maxConcurrent : Nat) (source : String) (scopeKey : Option String)
    (scopeMaxConcurrent : Option Nat) : (retries : Nat) → Method CallConcurrencySlot
  | 0 => do
    let acquisition ←
      tryAcquireConcurrentSlotDetails organizationId maxConcurrent scopeKey scopeMaxConcurrent
    match acquisition with
    | some (slotId, _) => return ⟨organizationId, slotId, maxConcurrent, source, scopeKey⟩
    | none =>
      let _ ← getConcurrentCount organizationId
      notifyLimitReached organizationId
      .raise (.callConcurrencyLimitError organizationId source maxConcurrent)
  | retries + 1 => do
    let acquisition ←
      tryAcquireConcurrentSlotDetails organizationId maxConcurrent scopeKey scopeMaxConcurrent
    match acquisition with
    | some (slotId, _) => return ⟨organizationId, slotId, maxConcurrent, source, scopeKey⟩
    | none =>
      call .sleep
      pollOrgSlot organizationId maxConcurrent source scopeKey scopeMaxConcurrent retries

def acquireOrgSlot (organizationId : Nat) (source : String) (scopeKey : Option String)
    (scopeMaxConcurrent : Option Nat) (retries : Nat) : Method CallConcurrencySlot := do
  let maxConcurrent ← getOrgConcurrentLimit organizationId
  pollOrgSlot organizationId maxConcurrent source scopeKey scopeMaxConcurrent retries

def releaseSlot (slot : CallConcurrencySlot) : Method Bool := do
  let released ← releaseConcurrentSlot slot.organizationId slot.slotId slot.scopeKey
  return released.getD false

def bindWorkflowRun (slot : CallConcurrencySlot) (workflowRunId : Nat) : Method Unit := do
  let stored ← storeWorkflowSlotMappingIfAbsent workflowRunId slot.organizationId slot.slotId
    slot.scopeKey
  if stored then return ()
  let _ ← releaseSlot slot
  .raise (.workflowRunSlotAlreadyBoundError workflowRunId)

def registerActiveCall (organizationId workflowRunId : Nat) (source : String)
    (scopeKey : Option String) (scopeMaxConcurrent : Option Nat) (retries : Nat) :
    Method CallConcurrencySlot := do
  let slot ← acquireOrgSlot organizationId source scopeKey scopeMaxConcurrent retries
  bindWorkflowRun slot workflowRunId
  return slot

def releaseWorkflowRunSlot (workflowRunId : Nat) : Method Bool := do
  let mapping ← getWorkflowSlotMapping workflowRunId
  match mapping with
  | none => return false
  | some mapping =>
    let released ← releaseConcurrentSlot mapping.organizationId mapping.slotId mapping.scopeKey
    match released with
    | none => return false
    | some released =>
      let _ ← deleteWorkflowSlotMapping workflowRunId
      return released

/-- Only a cancellation escapes. -/
def unregisterActiveCall (workflowRunId : Nat) : Method Bool :=
  orElse (releaseWorkflowRunSlot workflowRunId) false

end FastVoice.CallConcurrency
