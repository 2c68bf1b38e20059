import FastVoice.Campaign.Dispatcher

/-! # Cancellation passes through the dispatcher

Whatever a queued run's step awaits, a cancellation delivered there ends the step at once: every
handler on the way catches subclasses of `Exception` only. Other exceptions may be replaced, but
only by exceptions that the caller's loop treats as the failure of one run.
-/
namespace FastVoice.Campaign
open Async CallConcurrency

/-- Caught by the last `except` clause of the batch loop, and by no other. -/
def failsRun : Error → Bool
  | .cancelledError => false
  | .phoneNumberPoolExhaustedError _ => false
  | .concurrentSlotAcquisitionError _ _ => false
  | _ => true

section Passes

variable {Cmd : Type} {Reply : Cmd → Type} {α : Type} {R : Error → Prop}

abbrev Passes (R : Error → Prop) (program : Program Reply Error α) : Prop :=
  program.Transparent .cancelledError R

theorem orElse_passes {program : Program Reply Error α} {fallback : α} (h : Passes R program) :
    Passes R (orElse program fallback) := by
  refine Program.Transparent.tryCatch h rfl fun other hOther => ?_
  split
  · trivial
  · exact hOther

end Passes

section Redis

variable {R : Error → Prop} (hR : ∀ error, failsRun error = true → R error)

theorem acquireToken_passes (organizationId rateLimit : Nat) (scopeKey : Option String) :
    Passes R (acquireToken organizationId rateLimit scopeKey) :=
  orElse_passes (Program.transparent_call _)

theorem getNextAvailableSlot_passes (organizationId : Nat) : Passes R (getNextAvailableSlot organizationId) :=
  orElse_passes ((Program.transparent_call _).bind fun _ => trivial)

theorem releaseConcurrentSlot_passes (organizationId : Nat) (slotId : SlotId)
    (scopeKey : Option String) : Passes R (releaseConcurrentSlot organizationId slotId scopeKey) := by
  refine orElse_passes ((Program.transparent_call _).bind fun removed =>
    (Program.transparent_call _).bind fun _ => ?_)
  split
  · exact (Program.transparent_call _).bind fun _ => trivial
  · trivial

theorem releaseSlot_passes (slot : CallConcurrencySlot) : Passes R (releaseSlot slot) :=
  (releaseConcurrentSlot_passes _ _ _).bind fun _ => trivial

include hR in
theorem pollOrgSlot_passes (organizationId maxConcurrent : Nat) (source : String)
    (scopeKey : Option String) (scopeMaxConcurrent : Option Nat) (retries : Nat) : Passes R
    (pollOrgSlot organizationId maxConcurrent source scopeKey scopeMaxConcurrent retries) := by
  have hTry : Passes R (tryAcquireConcurrentSlotDetails organizationId maxConcurrent scopeKey
      scopeMaxConcurrent) := orElse_passes (Program.transparent_call _)
  have hCount : Passes R (getConcurrentCount organizationId) :=
    orElse_passes ((Program.transparent_call _).bind fun _ => Program.transparent_call _)
  have hNotify : Passes R (notifyLimitReached organizationId) :=
    orElse_passes (Program.transparent_call _)
  induction retries with
  | zero =>
    refine hTry.bind fun acquisition => ?_
    split
    · trivial
    · exact hCount.bind fun _ => hNotify.bind fun _ => hR _ rfl
  | succ retries ih =>
    refine hTry.bind fun acquisition => ?_
    split
    · trivial
    · exact (Program.transparent_call _).bind fun _ => ih

include hR in
theorem acquireOrgSlot_passes (organizationId : Nat) (source : String) (scopeKey : Option String)
    (scopeMaxConcurrent : Option Nat) (retries : Nat) :
    Passes R (acquireOrgSlot organizationId source scopeKey scopeMaxConcurrent retries) :=
  Program.Transparent.bind (orElse_passes ((Program.transparent_call _).bind fun _ => trivial))
    fun _ => pollOrgSlot_passes hR _ _ _ _ _ _

include hR in
theorem bindWorkflowRun_passes (slot : CallConcurrencySlot) (workflowRunId : Nat) :
    Passes R (bindWorkflowRun slot workflowRunId) := by
  have hStore : Passes R (storeWorkflowSlotMappingIfAbsent workflowRunId slot.organizationId
      slot.slotId slot.scopeKey) := orElse_passes (Program.transparent_call _)
  refine hStore.bind fun stored => ?_
  split
  · trivial
  · exact (releaseSlot_passes slot).bind fun _ => hR _ rfl

theorem acquireFromNumber_passes (key : PoolKey) (retries : Nat) :
    Passes R (acquireFromNumber key retries) := by
  have hAcquire : Passes R (CallConcurrency.acquireFromNumber key) :=
    orElse_passes (Program.transparent_call _)
  induction retries with
  | zero => exact hAcquire.bind fun _ => trivial
  | succ retries ih =>
    refine hAcquire.bind fun fromNumber => ?_
    split
    · trivial
    · exact (Program.transparent_call _).bind fun _ => ih

theorem storeWorkflowFromNumberMapping_passes (workflowRunId : Nat) (key : PoolKey)
    (fromNumber : String) : Passes R (storeWorkflowFromNumberMapping workflowRunId key fromNumber) :=
  orElse_passes ((Program.transparent_call _).bind fun _ =>
    (Program.transparent_call _).bind fun _ => trivial)

theorem releaseFromNumber_passes (key : PoolKey) (fromNumber : String) :
    Passes R (releaseFromNumber key fromNumber) := by
  unfold releaseFromNumber
  split
  · trivial
  · exact orElse_passes (Program.transparent_call _)

theorem releaseWorkflowRunSlot_passes (workflowRunId : Nat) :
    Passes R (releaseWorkflowRunSlot workflowRunId) := by
  refine Program.Transparent.bind (orElse_passes (Program.transparent_call _)) fun mapping => ?_
  split
  · trivial
  · refine (releaseConcurrentSlot_passes _ _ _).bind fun released => ?_
    split
    · trivial
    · exact Program.Transparent.bind (orElse_passes (Program.transparent_call _)) fun _ => trivial

theorem releaseCallSlot_passes (workflowRunId : Nat) : Passes R (releaseCallSlot workflowRunId) := by
  refine (releaseWorkflowRunSlot_passes workflowRunId).bind fun slotReleased =>
    Program.Transparent.bind (orElse_passes (Program.transparent_call _)) fun mapping => ?_
  split
  · trivial
  · refine (releaseFromNumber_passes _ _).bind fun success => ?_
    split
    · exact Program.Transparent.bind (orElse_passes (Program.transparent_call _)) fun _ => trivial
    · trivial

end Redis

section Dispatch

variable {R : Error → Prop} (hR : ∀ error, failsRun error = true → R error)

theorem service_passes (request : Service) : Passes R (service request) :=
  Program.transparent_call _

theorem redis_passes {α : Type} {method : CallConcurrency.Method α} (h : Passes R method) :
    Passes R (redis method) := h.embed

theorem breaker_passes {α : Type} {method : BreakerMethod α} (h : Passes R method) :
    Passes R (breaker method) := h.embed

include hR in
theorem updateCampaign_passes (changes : CampaignChanges) : Passes R (updateCampaign changes) := by
  refine (Program.transparent_call _).bind fun campaign => ?_
  split
  · exact hR _ rfl
  · exact (Program.transparent_call _).bind fun _ => Program.transparent_call _

include hR in
theorem recordAndEvaluate_passes (isFailure : Bool) (workflowRunId : Option Nat) :
    Passes R (recordAndEvaluate isFailure workflowRunId) := by
  have hPush : Passes R (pushRecentFailure isFailure workflowRunId) := by
    cases workflowRunId with
    | none => trivial
    | some workflowRunId => cases isFailure <;> first | trivial | exact service_passes _
  have hRecord : ∀ campaignId config, Passes R (recordCallOutcome campaignId isFailure config) := by
    intro campaignId config
    unfold recordCallOutcome
    dsimp only
    split
    · exact orElse_passes ((Program.transparent_call _).bind fun _ => trivial)
    · trivial
  refine orElse_passes ((Program.transparent_call _).bind fun campaign => ?_)
  split
  · trivial
  split
  · refine hPush.bind fun _ => (breaker_passes (hRecord _ _)).bind fun report => ?_
    split
    · exact (service_passes _).bind fun _ => (updateCampaign_passes hR _).bind fun _ =>
        (service_passes _).bind fun _ => (service_passes _).bind fun _ => service_passes _
    · trivial
  · trivial

include hR in
theorem applyRateLimit_passes (organizationId rateLimit retries : Nat) :
    Passes R (applyRateLimit organizationId rateLimit retries) := by
  have hAcquire : Passes R (redis (acquireToken organizationId rateLimit none)) :=
    redis_passes (acquireToken_passes _ _ _)
  have hNext : Passes R (redis (getNextAvailableSlot organizationId)) :=
    redis_passes (getNextAvailableSlot_passes _)
  induction retries with
  | zero =>
    refine hAcquire.bind fun acquired => ?_
    split
    · trivial
    · exact hNext.bind fun _ => hR _ rfl
  | succ retries ih =>
    refine hAcquire.bind fun acquired => ?_
    split
    · trivial
    · exact hNext.bind fun _ => (redis_passes (Program.transparent_call _)).bind fun _ => ih

theorem releaseAndRaise_passes {α : Type} {release : CallConcurrency.Method Bool}
    (h : Passes R release) (campaign : CampaignRow) (fromNumber : Option String) {error : Error}
    (hError : R error) : Passes R (releaseAndRaise release campaign fromNumber error : CampaignMethod α) := by
  unfold releaseAndRaise
  split
  · refine (redis_passes h).bind fun _ => ?_
    split
    · exact hError
    · exact (redis_passes (releaseFromNumber_passes _ _)).bind fun _ => hError
  · exact hError

theorem addRetryTag_passes (run : QueuedRun) (workflowRunId : Nat) :
    Passes R (addRetryTag run workflowRunId) := by
  unfold addRetryTag
  split
  · exact service_passes _
  · trivial

include hR in
theorem authorizeStart_passes (workflowRunId : Nat) : Passes R (authorizeStart workflowRunId) := by
  refine (service_passes _).bind fun quotaResult => ?_
  split
  · trivial
  · exact (service_passes _).bind fun _ => (redis_passes (releaseCallSlot_passes _)).bind fun _ =>
      hR _ rfl

include hR in
theorem initiateCall_passes (phoneNumber : String) (provider : Provider) (fromNumber : String)
    (workflowRunId : Nat) : Passes R (initiateCall phoneNumber provider fromNumber workflowRunId) := by
  have hTry : Passes R (do
      service .getBackendEndpoints
      service (.initiateCall workflowRunId phoneNumber fromNumber)
      service (.updateWorkflowRun workflowRunId (.initiated provider.providerName)) :
        CampaignMethod Unit) :=
    (service_passes _).bind fun _ => (service_passes _).bind fun _ => service_passes _
  refine hTry.tryCatch rfl fun error hError => ?_
  unfold initiationFailed
  split
  · exact (service_passes _).bind fun _ => (recordAndEvaluate_passes hR _ _).bind fun _ =>
      (redis_passes (releaseCallSlot_passes _)).bind fun _ => hError
  · exact hError

end Dispatch

theorem acquireConcurrentSlot_passes (campaign : CampaignRow) (retries : Nat) :
    Passes (· ≠ .cancelledError) (acquireConcurrentSlot campaign retries) := by
  have hAcquire : Passes (· ≠ .cancelledError) (acquireOrgSlot campaign.organizationId
      (campaignScope campaign) (campaign.maxConcurrency.map fun _ => campaignScope campaign)
      campaign.maxConcurrency retries) := by
    refine acquireOrgSlot_passes ?_ _ _ _ _ _
    rintro _ hFails rfl
    cases hFails
  refine (redis_passes hAcquire).tryCatch rfl fun error hError => ?_
  split
  · rintro ⟨⟩
  · exact hError

theorem acquireForDispatch_passes (run : QueuedRun) (campaign : CampaignRow)
    (slot : CallConcurrencySlot) (retries : Nat) : Passes (· ≠ .cancelledError)
      ((acquireForDispatch run campaign retries).tryCatch
        (releaseAndRaise (releaseSlot slot) campaign none)) := by
  refine Program.Transparent.tryCatch ?_ rfl fun error hError =>
    releaseAndRaise_passes (releaseSlot_passes slot) campaign none hError
  refine (service_passes _).bind fun found => ?_
  split
  · split
    · rintro ⟨⟩
    · refine (service_passes _).bind fun provider =>
        (redis_passes (acquireFromNumber_passes _ _)).bind fun fromNumber => ?_
      split
      · rintro ⟨⟩
      · trivial
  · rintro ⟨⟩

end FastVoice.Campaign
