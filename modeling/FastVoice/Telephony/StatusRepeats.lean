import FastVoice.Telephony.StatusProcessor

/-! # Repeated status callbacks

Callbacks for the run of a campaign that are handled one after the other. A terminal callback that
arrives again changes nothing exactly when its status is not one that is retried and the breaker
records nothing new for it.
-/
namespace FastVoice.Telephony
open Async Campaign Redis TelephonyCallStatus

/-! ## The breaker -/

def recordCommand (campaign : CampaignRow) (isFailure : Bool) : BreakerCommand :=
  let config := mergedConfig campaign.circuitBreaker
  .record campaign.id isFailure config.windowSeconds config.failureThreshold config.minCallsInWindow

def Records (campaign : CampaignRow) : Prop :=
  campaign.state = .running ∧ (mergedConfig campaign.circuitBreaker).enabled = true

instance (campaign : CampaignRow) : Decidable (Records campaign) :=
  inferInstanceAs (Decidable (_ ∧ _))

def afterOutcome (isFailure : Bool) (s : CampaignStore) : CampaignStore :=
  match s.campaign with
  | none => s
  | some row =>
    if Records row then
      let after := s.breaker.execute (recordCommand row isFailure)
      { s with
        breaker := after.2
        campaign := some (if after.1.tripped then row.write row { state := some .paused } else row) }
    else s

section Evaluations

theorem eval_pushRecentFailure (isFailure : Bool) (workflowRunId : Option Nat) (s : CampaignStore) :
    (pushRecentFailure isFailure workflowRunId).eval CampaignStore.execute s = (.ok (), s) := by
  cases workflowRunId with
  | none => rfl
  | some workflowRunId => cases isFailure <;> rfl

theorem eval_recordCallOutcome (row : CampaignRow) (isFailure : Bool) (s : CampaignStore)
    (h : (mergedConfig row.circuitBreaker).enabled = true) :
    (breaker (recordCallOutcome row.id isFailure row.circuitBreaker)).eval CampaignStore.execute s =
      (.ok ((s.breaker.execute (recordCommand row isFailure)).1.tripped,
          some (breakerStats (mergedConfig row.circuitBreaker)
            (s.breaker.execute (recordCommand row isFailure)).1)),
        { s with breaker := (s.breaker.execute (recordCommand row isFailure)).2 }) := by
  simp only [recordCallOutcome, h, if_true, breaker, orElse, Program.call_bind,
    Program.tryCatch_await]
  rfl

theorem eval_recordCallOutcome_disabled (row : CampaignRow) (isFailure : Bool) (s : CampaignStore)
    (h : ¬(mergedConfig row.circuitBreaker).enabled = true) :
    (breaker (recordCallOutcome row.id isFailure row.circuitBreaker)).eval CampaignStore.execute s =
      (.ok (false, none), s) := by
  simp only [recordCallOutcome, h, breaker]
  rfl

theorem eval_recordAndEvaluate (isFailure : Bool) (workflowRunId : Option Nat) (s : CampaignStore) :
    (recordAndEvaluate isFailure workflowRunId).eval CampaignStore.execute s =
      (.ok (), afterOutcome isFailure s) := by
  apply Program.eval_tryCatch
  have hLoad : getCampaignById.eval CampaignStore.execute s = (.ok s.campaign, s) := rfl
  rw [Program.eval_bind hLoad, afterOutcome]
  cases hRow : s.campaign with
  | none => rfl
  | some row =>
    simp only
    by_cases hRunning : row.state = .running
    · rw [if_pos hRunning, Program.eval_bind (eval_pushRecentFailure isFailure workflowRunId s)]
      by_cases hEnabled : (mergedConfig row.circuitBreaker).enabled = true
      · rw [Program.eval_bind (eval_recordCallOutcome row isFailure s hEnabled),
          if_pos (show Records row from ⟨hRunning, hEnabled⟩)]
        cases hTripped : (s.breaker.execute (recordCommand row isFailure)).1.tripped with
        | false => simp [← hRow]
        | true =>
          have hFailures : (service .getRecentFailures).eval CampaignStore.execute
              { s with breaker := (s.breaker.execute (recordCommand row isFailure)).2 } =
              (.ok (s.answers .getRecentFailures),
                { s with breaker := (s.breaker.execute (recordCommand row isFailure)).2 }) := rfl
          have hPaused := eval_updateCampaign
            (s := { s with breaker := (s.breaker.execute (recordCommand row isFailure)).2 }) hRow
            { state := some .paused }
          simp only
          rw [Program.eval_bind hFailures, Program.eval_bind hPaused]
          rfl
      · rw [Program.eval_bind (eval_recordCallOutcome_disabled row isFailure s hEnabled),
          if_neg (fun hRecords : Records row => hEnabled hRecords.2)]
        rfl
    · rw [if_neg hRunning, if_neg (fun hRecords : Records row => hRunning hRecords.1)]
      rfl

end Evaluations

section Totals

def windowSets (campaign : CampaignRow) (s : BreakerKeys) : Bool → Outcomes :=
  trimOutcomes (s.clock - (mergedConfig campaign.circuitBreaker).windowSeconds)
    (s.outcomes campaign.id)

def breakerTotals (s : CampaignStore) : Option (Nat × Nat) :=
  s.campaign.map fun row =>
    let config := mergedConfig row.circuitBreaker
    let report := (s.breaker.execute
      (.check row.id config.windowSeconds config.failureThreshold config.minCallsInWindow)).1
    (report.failures, report.successes)

theorem breakerTotals_of_campaign {s : CampaignStore} {row : CampaignRow}
    (h : s.campaign = some row) : breakerTotals s = some ((windowSets row s.breaker true).value.zcard,
        (windowSets row s.breaker false).value.zcard) := by
  rw [breakerTotals, h]
  rfl

/-- What a call would record now is recorded already, or is not recorded at all. -/
def RecordsNothing (isFailure : Bool) (s : CampaignStore) : Prop :=
  ∀ row ∈ s.campaign, Records row →
    (windowSets row s.breaker isFailure).value.Member s.breaker.clock

variable {row : CampaignRow} {isFailure : Bool} {s : BreakerKeys}

theorem outside_window {e : ℚ × ℚ} {kind : Bool} (h : e ∈ (windowSets row s kind).value.entries) :
    ¬((0 : ℚ) ≤ e.2 ∧ e.2 ≤ s.clock - (mergedConfig row.circuitBreaker).windowSeconds) := by
  rw [windowSets, trimOutcomes, Volatile.value_put, SortedSet.mem_zremrangebyscore] at h
  exact h.2

theorem value_recorded (kind : Bool) :
    ((s.execute (recordCommand row isFailure)).2.outcomes row.id kind).value =
      if kind = isFailure then (windowSets row s isFailure).value.zadd s.clock s.clock
      else (windowSets row s kind).value := by
  have hSets : (s.execute (recordCommand row isFailure)).2.outcomes row.id = fun kind =>
      (addOutcome s.clock isFailure (windowSets row s) kind).expire
        (s.clock + ((mergedConfig row.circuitBreaker).windowSeconds + 60)) :=
    Function.update_self _ _ _
  rw [hSets]
  simp only [Volatile.value_expire, addOutcome]
  by_cases hKind : kind = isFailure
  · subst hKind
    rw [Function.update_self, if_pos rfl, Volatile.value_put]
  · rw [Function.update_of_ne hKind, if_neg hKind]

theorem windowSets_recorded (kind : Bool) :
    (windowSets row (s.execute (recordCommand row isFailure)).2 kind).value =
      if kind = isFailure then (windowSets row s isFailure).value.zadd s.clock s.clock
      else (windowSets row s kind).value := by
  have hWindow := (mergedConfig row.circuitBreaker).window_pos
  rw [windowSets, trimOutcomes, Volatile.value_put, value_recorded]
  apply SortedSet.zremrangebyscore_of_outside
  intro e he
  show ¬((0 : ℚ) ≤ e.2 ∧ e.2 ≤ s.clock - (mergedConfig row.circuitBreaker).windowSeconds)
  split at he
  · obtain rfl | ⟨he, -⟩ := SortedSet.mem_zadd.mp he
    · intro hRange
      have hLater : s.clock.val - (mergedConfig row.circuitBreaker).windowSeconds < s.clock.val :=
        sub_lt_self _ hWindow
      exact absurd hRange.2 (not_le.mpr hLater)
    · exact outside_window he
  · exact outside_window he

theorem windowSets_congr {other : CampaignRow} (hId : other.id = row.id)
    (hConfig : other.circuitBreaker = row.circuitBreaker) : windowSets other s = windowSets row s := by
  rw [windowSets, windowSets, hId, hConfig]

theorem member_recorded :
    (windowSets row (s.execute (recordCommand row isFailure)).2 isFailure).value.Member s.clock := by
  rw [windowSets_recorded, if_pos rfl]
  exact SortedSet.member_zadd.mpr (.inl rfl)

theorem campaign_afterOutcome (isFailure : Bool) {s : CampaignStore} {row : CampaignRow}
    (hRow : s.campaign = some row) (h : Records row) :
    ∃ after, (afterOutcome isFailure s).campaign = some after ∧ after.id = row.id ∧
      after.circuitBreaker = row.circuitBreaker ∧
      (afterOutcome isFailure s).breaker = (s.breaker.execute (recordCommand row isFailure)).2 := by
  simp only [afterOutcome, hRow, if_pos h]
  refine ⟨_, rfl, ?_, ?_, trivial⟩
  · split <;> rfl
  · split <;> rfl

theorem breakerTotals_afterOutcome_iff (isFailure : Bool) (s : CampaignStore) :
    breakerTotals (afterOutcome isFailure s) = breakerTotals s ↔ RecordsNothing isFailure s := by
  cases hRow : s.campaign with
  | none =>
    have hSame : afterOutcome isFailure s = s := by rw [afterOutcome, hRow]
    simp [hSame, RecordsNothing, hRow]
  | some row =>
    by_cases h : Records row
    · obtain ⟨after, hAfter, hId, hConfig, hBreaker⟩ := campaign_afterOutcome isFailure hRow h
      rw [breakerTotals_of_campaign hAfter, breakerTotals_of_campaign hRow,
        windowSets_congr hId hConfig, hBreaker, windowSets_recorded, windowSets_recorded]
      have hNothing : RecordsNothing isFailure s ↔
          (windowSets row s.breaker isFailure).value.Member s.breaker.clock := by
        simp [RecordsNothing, hRow, h]
      rw [hNothing, ← SortedSet.zcard_zadd_eq_iff (s := s.breaker.clock.val)]
      cases isFailure <;> simp
    · have hSame : afterOutcome isFailure s = s := by simp only [afterOutcome, hRow, if_neg h]
      simp [hSame, RecordsNothing, hRow, h]

theorem recordsNothing_afterOutcome (isFailure : Bool) (s : CampaignStore) :
    RecordsNothing isFailure (afterOutcome isFailure s) := by
  cases hRow : s.campaign with
  | none =>
    have hSame : afterOutcome isFailure s = s := by rw [afterOutcome, hRow]
    simp [hSame, RecordsNothing, hRow]
  | some row =>
    by_cases h : Records row
    · obtain ⟨after, hAfter, hId, hConfig, hBreaker⟩ := campaign_afterOutcome isFailure hRow h
      intro other hOther _
      obtain rfl : after = other := Option.some.inj (hAfter.symm.trans hOther)
      rw [windowSets_congr hId hConfig, hBreaker]
      exact member_recorded
    · have hSame : afterOutcome isFailure s = s := by simp only [afterOutcome, hRow, if_neg h]
      rw [hSame, RecordsNothing, hRow]
      intro other hOther hRecords
      cases hOther
      exact absurd hRecords h

end Totals

/-! ## One callback -/

section Handling

variable (lower : String → String) (workflowRunId : Nat)

theorem eval_redis {α : Type} (method : CallConcurrency.Method α) (s : CampaignStore) :
    (redis method).eval CampaignStore.execute s = ((method.eval CallConcurrency.execute s.keyspace).1,
        { s with keyspace := (method.eval CallConcurrency.execute s.keyspace).2 }) :=
  Program.eval_embed CampaignStore.keyspace
    (fun keyspace (s : CampaignStore) => { s with keyspace })
    (fun _ _ => rfl) (fun _ => rfl) (fun _ _ _ => rfl) (fun _ _ => ⟨rfl, rfl⟩) method s

theorem eval_campaign {α : Type} (method : CampaignMethod α) (s : TelephonyStore) :
    (campaign method).eval TelephonyStore.execute s = ((method.eval CampaignStore.execute s.services).1,
        { s with services := (method.eval CampaignStore.execute s.services).2 }) :=
  Program.eval_embed TelephonyStore.services
    (fun services (s : TelephonyStore) => { s with services })
    (fun _ _ => rfl) (fun _ => rfl) (fun _ _ _ => rfl) (fun _ _ => ⟨rfl, rfl⟩) method s

theorem orElse_smooth {Cmd α : Type} {Reply : Cmd → Type} {program : Program Reply Error α}
    {fallback : α} (h : program.Smooth) : (orElse program fallback).Smooth := h.tryCatch

theorem releaseConcurrentSlot_smooth (organizationId : Nat) (slotId : CallConcurrency.SlotId)
    (scopeKey : Option String) :
    (CallConcurrency.releaseConcurrentSlot organizationId slotId scopeKey).Smooth := by
  refine orElse_smooth ((Program.smooth_call _).bind fun removed =>
    (Program.smooth_call _).bind fun _ => ?_)
  split
  · exact (Program.smooth_call _).bind fun _ => trivial
  · trivial

theorem releaseWorkflowRunSlot_smooth : (CallConcurrency.releaseWorkflowRunSlot workflowRunId).Smooth := by
  refine (orElse_smooth (Program.smooth_call _)).bind fun mapping => ?_
  cases mapping with
  | none => trivial
  | some mapping =>
    refine (releaseConcurrentSlot_smooth _ _ _).bind fun released => ?_
    cases released with
    | none => trivial
    | some released => exact (orElse_smooth (Program.smooth_call _)).bind fun _ => trivial

theorem releaseFromNumber_smooth (key : CallConcurrency.PoolKey) (fromNumber : String) :
    (CallConcurrency.releaseFromNumber key fromNumber).Smooth := by
  rw [CallConcurrency.releaseFromNumber]
  split
  · trivial
  · exact orElse_smooth (Program.smooth_call _)

theorem releaseCallSlot_smooth : (releaseCallSlot workflowRunId).Smooth := by
  refine (releaseWorkflowRunSlot_smooth workflowRunId).bind fun _ =>
    (orElse_smooth (Program.smooth_call _)).bind fun mapping => ?_
  cases mapping with
  | none => trivial
  | some mapping =>
    refine (releaseFromNumber_smooth _ _).bind fun success => ?_
    split
    · exact (orElse_smooth (Program.smooth_call _)).bind fun _ => trivial
    · trivial

theorem eval_releaseCallSlot (s : TelephonyStore) : ∃ released keyspace,
    (campaign (redis (releaseCallSlot workflowRunId))).eval TelephonyStore.execute s =
      (.ok released, { s with services := { s.services with keyspace } }) := by
  obtain ⟨released, hReleased⟩ := (releaseCallSlot_smooth workflowRunId).eval s.services.keyspace
  rw [eval_campaign, eval_redis, hReleased]
  exact ⟨released, _, rfl⟩

theorem eval_recordOutcome {campaignId : Option Nat} (h : campaignId.isSome) (isFailure : Bool)
    (s : TelephonyStore) : (recordOutcome campaignId isFailure workflowRunId).eval TelephonyStore.execute s =
      (.ok (), { s with services := afterOutcome isFailure s.services }) := by
  obtain ⟨id, rfl⟩ := Option.isSome_iff_exists.mp h
  rw [recordOutcome, eval_campaign, eval_recordAndEvaluate]

theorem eval_updateWorkflowRun {s : TelephonyStore} (h : s.run.isSome) (patch : WorkflowRunPatch) :
    (updateWorkflowRun patch).eval TelephonyStore.execute s = (.ok (), s.patchRun patch) := by
  have hFound : (Program.call (TelephonyCommand.updateWorkflowRun patch) :
      TelephonyMethod Bool).eval TelephonyStore.execute s = (.ok true, s.patchRun patch) := by
    rw [← h]
    rfl
  rw [updateWorkflowRun, Program.eval_bind hFound]
  rfl

theorem eval_publishRetryNeeded {campaignId : Option Nat} (h : campaignId.isSome)
    (status : TelephonyCallStatus) (s : TelephonyStore) :
    (publishRetryNeeded status campaignId).eval TelephonyStore.execute s =
      (.ok (), { s with retryEvents := s.retryEvents ++
        if status ∈ retryableNotConnectedStatuses then [retryReason status] else [] }) := by
  rw [publishRetryNeeded]
  by_cases hRetryable : status ∈ retryableNotConnectedStatuses
  · rw [if_pos ⟨hRetryable, h⟩, if_pos hRetryable]
    rfl
  · rw [if_neg fun hBoth => hRetryable hBoth.1, if_neg hRetryable, List.append_nil]
    rfl

def handle (status : StatusCallbackRequest) (s : TelephonyStore) : TelephonyStore :=
  ((processStatusUpdate lower workflowRunId status).eval TelephonyStore.execute s).2

def logPatch (status : StatusCallbackRequest) (s : TelephonyStore) (row : WorkflowRunRow) :
    WorkflowRunPatch :=
  { telephonyStatusCallbacks := some (row.telephonyStatusCallbacks ++
      [callbackLog lower status s.services.keyspace.clock]) }

theorem handle_eq {status : StatusCallbackRequest} {s : TelephonyStore} {row : WorkflowRunRow}
    (h : s.run = some row) : handle lower workflowRunId status s =
      ((processNormalized workflowRunId row status (fromRaw lower status.status)).eval
        TelephonyStore.execute (s.patchRun (logPatch lower status s row))).2 := by
  have hRead : (Program.call TelephonyCommand.getWorkflowRunById :
      TelephonyMethod (UnixTime × Option WorkflowRunRow)).eval TelephonyStore.execute s =
        (.ok (s.services.keyspace.clock, some row), s) := by
    rw [← h]
    rfl
  rw [handle, processStatusUpdate, Program.eval_bind hRead]
  exact congrArg Prod.snd (Program.eval_bind
    (eval_updateWorkflowRun (Option.isSome_iff_exists.mpr ⟨row, h⟩) (logPatch lower status s row)))

theorem patchRun_of_run {s : TelephonyStore} {row : WorkflowRunRow} (h : s.run = some row)
    (patch : WorkflowRunPatch) : s.patchRun patch = { s with run := some (row.patch patch) } := by
  rw [TelephonyStore.patchRun, h]
  rfl

section Campaign

variable {status : StatusCallbackRequest} {s : TelephonyStore} {row : WorkflowRunRow}
  (hRow : s.run = some row) (hCampaign : row.campaignId.isSome)

include hRow hCampaign

theorem handle_completed (hStatus : fromRaw lower status.status = some .completed) :
    ∃ keyspace, handle lower workflowRunId status s = { s with
        services := afterOutcome false { s.services with keyspace }
        run := some (if row.state = .completed then row.patch (logPatch lower status s row)
          else (row.patch (logPatch lower status s row)).patch
            { isCompleted := true, state := some .completed }) } := by
  rw [handle_eq lower workflowRunId hRow, hStatus, patchRun_of_run hRow]
  obtain ⟨released, keyspace, hReleased⟩ := eval_releaseCallSlot workflowRunId
    { s with run := some (row.patch (logPatch lower status s row)) }
  refine ⟨keyspace, ?_⟩
  rw [processNormalized, if_pos rfl, processCompleted, Program.eval_bind hReleased,
    Program.eval_bind (eval_recordOutcome workflowRunId hCampaign false _)]
  by_cases hState : row.state = .completed
  · rw [if_pos hState, if_pos hState]
    rfl
  · rw [if_neg hState, if_neg hState, eval_updateWorkflowRun rfl]
    rfl

theorem handle_notConnected {normalizedStatus : TelephonyCallStatus}
    (hStatus : fromRaw lower status.status = some normalizedStatus)
    (hTerminal : normalizedStatus ∈ terminalNotConnectedStatuses) :
    ∃ keyspace, handle lower workflowRunId status s =
      { services := afterOutcome (normalizedStatus ∈ failureNotConnectedStatuses)
          { s.services with keyspace }
        run := some ((row.patch (logPatch lower status s row)).patch
          (notConnectedPatch row status normalizedStatus))
        retryEvents := s.retryEvents ++
          if normalizedStatus ∈ retryableNotConnectedStatuses then [retryReason normalizedStatus]
          else []
        integrationJobs := s.integrationJobs +
          if shouldRunPostCallIntegrations row then 1 else 0 } := by
  rw [handle_eq lower workflowRunId hRow, hStatus, patchRun_of_run hRow]
  obtain ⟨released, keyspace, hReleased⟩ := eval_releaseCallSlot workflowRunId
    { s with run := some (row.patch (logPatch lower status s row)) }
  have hNotCompleted : normalizedStatus ≠ .completed := by
    rintro rfl
    exact absurd hTerminal (by decide)
  refine ⟨keyspace, ?_⟩
  rw [processNormalized, if_neg hNotCompleted, if_pos hTerminal, processNotConnected,
    Program.eval_bind hReleased, Program.eval_bind (eval_recordOutcome workflowRunId hCampaign _ _),
    Program.eval_bind (eval_publishRetryNeeded hCampaign normalizedStatus _),
    Program.eval_bind (eval_updateWorkflowRun rfl _)]
  split
  · rfl
  · rfl

omit hCampaign in
theorem handle_logged (hCompleted : fromRaw lower status.status ≠ some .completed)
    (hTerminal : ∀ normalizedStatus ∈ fromRaw lower status.status,
      normalizedStatus ∉ terminalNotConnectedStatuses) : handle lower workflowRunId status s =
      { s with run := some (row.patch (logPatch lower status s row)) } := by
  rw [handle_eq lower workflowRunId hRow, patchRun_of_run hRow]
  cases hStatus : fromRaw lower status.status with
  | none => rfl
  | some normalizedStatus =>
    rw [hStatus] at hCompleted
    rw [processNormalized, if_neg fun hEq => hCompleted (congrArg some hEq),
      if_neg (hTerminal normalizedStatus hStatus)]
    rfl

end Campaign

end Handling

/-! ## Sequences of callbacks -/

/-- A callback for the run, or anything that happens to its campaign. -/
inductive Delivery where
  | callback (status : StatusCallbackRequest)
  | elsewhere (services : CampaignStore)

def deliver (lower : String → String) (workflowRunId : Nat) (s : TelephonyStore) :
    Delivery → TelephonyStore
  | .callback status => handle lower workflowRunId status s
  | .elsewhere services => { s with services }

def deliverAll (lower : String → String) (workflowRunId : Nat) (s : TelephonyStore)
    (deliveries : List Delivery) : TelephonyStore :=
  deliveries.foldl (deliver lower workflowRunId) s

structure Observation where
  breakerTotals : Option (Nat × Nat)
  retryEvents : Nat
  integrationJobs : Nat
  callTags : Option (Option (List String))
  state : Option WorkflowRunState

def TelephonyStore.observation (s : TelephonyStore) : Observation where
  breakerTotals := Telephony.breakerTotals s.services
  retryEvents := s.retryEvents.length
  integrationJobs := s.integrationJobs
  callTags := s.run.map WorkflowRunRow.callTags
  state := s.run.map WorkflowRunRow.state

def isTerminal (status : TelephonyCallStatus) : Prop :=
  status = .completed ∨ status ∈ terminalNotConnectedStatuses

def newTags (status : TelephonyCallStatus) : List String :=
  ["not_connected", "telephony_" ++ status.value]

structure Delivered (status : TelephonyCallStatus) (row : WorkflowRunRow) : Prop where
  state : row.state = .completed
  tags : status ≠ .completed → ∃ tags, row.callTags = some tags ∧ ∀ tag ∈ newTags status, tag ∈ tags

section Tags

theorem mem_appendUniqueTags (existing : Option (List String)) (tags : List String) (tag : String) :
    tag ∈ appendUniqueTags existing tags ↔ tag ∈ existing.getD [] ∨ tag ∈ tags := by
  rw [appendUniqueTags]
  induction tags generalizing existing with
  | nil => simp
  | cons first tags ih =>
    rw [List.foldl_cons]
    have hRest := ih (some (if first ∈ existing.getD [] then existing.getD []
      else existing.getD [] ++ [first]))
    rw [Option.getD_some] at hRest
    rw [hRest]
    by_cases hFirst : first ∈ existing.getD []
    · rw [if_pos hFirst, List.mem_cons]
      constructor
      · rintro (hOld | hNew)
        · exact .inl hOld
        · exact .inr (.inr hNew)
      · rintro (hOld | rfl | hNew)
        · exact .inl hOld
        · exact .inl hFirst
        · exact .inr hNew
    · rw [if_neg hFirst]
      simp [or_assoc]

theorem appendUniqueTags_of_subset {existing tags : List String} (h : ∀ tag ∈ tags, tag ∈ existing) :
    appendUniqueTags (some existing) tags = existing := by
  rw [appendUniqueTags, Option.getD_some]
  induction tags with
  | nil => rfl
  | cons first tags ih =>
    obtain ⟨hFirst, hRest⟩ := List.forall_mem_cons.mp h
    rw [List.foldl_cons, if_pos hFirst, ih hRest]

end Tags

section Repeats

variable {lower : String → String} {workflowRunId : Nat} {s : TelephonyStore} {row : WorkflowRunRow}
  {status : StatusCallbackRequest} {normalizedStatus : TelephonyCallStatus}

theorem handle_run (hRow : s.run = some row) (hCampaign : row.campaignId.isSome) :
    ∃ after, (handle lower workflowRunId status s).run = some after ∧
      (after = row.patch (logPatch lower status s row) ∨
        after = (row.patch (logPatch lower status s row)).patch
          { isCompleted := true, state := some .completed } ∨
        ∃ normalizedStatus, after = (row.patch (logPatch lower status s row)).patch
          (notConnectedPatch row status normalizedStatus)) := by
  by_cases hCompleted : fromRaw lower status.status = some .completed
  · obtain ⟨keyspace, hHandle⟩ := handle_completed lower workflowRunId hRow hCampaign hCompleted
    rw [hHandle]
    refine ⟨_, rfl, ?_⟩
    split
    · exact .inl rfl
    · exact .inr (.inl rfl)
  · by_cases hTerminal : ∃ normalizedStatus ∈ fromRaw lower status.status,
        normalizedStatus ∈ terminalNotConnectedStatuses
    · obtain ⟨normalizedStatus, hStatus, hTerminal⟩ := hTerminal
      obtain ⟨keyspace, hHandle⟩ :=
        handle_notConnected lower workflowRunId hRow hCampaign hStatus hTerminal
      rw [hHandle]
      exact ⟨_, rfl, .inr (.inr ⟨normalizedStatus, rfl⟩)⟩
    · rw [handle_logged lower workflowRunId hRow hCompleted fun other hOther hMem =>
        hTerminal ⟨other, hOther, hMem⟩]
      exact ⟨_, rfl, .inl rfl⟩

theorem handle_campaignId (hRow : s.run = some row) (hCampaign : row.campaignId.isSome) :
    ∃ after, (handle lower workflowRunId status s).run = some after ∧ after.campaignId.isSome := by
  obtain ⟨after, hAfter, rfl | rfl | ⟨normalizedStatus, rfl⟩⟩ :=
    @handle_run lower workflowRunId s row status hRow hCampaign
  · exact ⟨_, hAfter, hCampaign⟩
  · exact ⟨_, hAfter, hCampaign⟩
  · exact ⟨_, hAfter, hCampaign⟩

theorem Delivered.handle (h : Delivered normalizedStatus row) (hRow : s.run = some row)
    (hCampaign : row.campaignId.isSome) : ∃ after,
      (handle lower workflowRunId status s).run = some after ∧ Delivered normalizedStatus after := by
  obtain ⟨after, hAfter, rfl | rfl | ⟨other, rfl⟩⟩ :=
    @handle_run lower workflowRunId s row status hRow hCampaign
  · exact ⟨_, hAfter, h.state, h.tags⟩
  · exact ⟨_, hAfter, rfl, h.tags⟩
  · refine ⟨_, hAfter, rfl, fun hStatus => ?_⟩
    obtain ⟨tags, hTags, hAll⟩ := h.tags hStatus
    refine ⟨_, rfl, fun tag hTag => (mem_appendUniqueTags _ _ _).mpr (.inl ?_)⟩
    rw [hTags]
    exact hAll tag hTag

theorem delivered_handle_self (hRow : s.run = some row) (hCampaign : row.campaignId.isSome)
    (hStatus : fromRaw lower status.status = some normalizedStatus)
    (hTerminal : isTerminal normalizedStatus) : ∃ after,
      (handle lower workflowRunId status s).run = some after ∧ Delivered normalizedStatus after := by
  obtain rfl | hTerminal := hTerminal
  · obtain ⟨keyspace, hHandle⟩ := handle_completed lower workflowRunId hRow hCampaign hStatus
    rw [hHandle]
    refine ⟨_, rfl, ?_, fun hNot => absurd rfl hNot⟩
    split
    · assumption
    · rfl
  · obtain ⟨keyspace, hHandle⟩ :=
      handle_notConnected lower workflowRunId hRow hCampaign hStatus hTerminal
    rw [hHandle]
    refine ⟨_, rfl, rfl, fun _ => ⟨_, rfl, fun tag hTag => ?_⟩⟩
    exact (mem_appendUniqueTags _ _ _).mpr (.inr hTag)

theorem delivered_deliverAll (deliveries : List Delivery) (hRow : s.run = some row)
    (hCampaign : row.campaignId.isSome) (hStatus : fromRaw lower status.status = some normalizedStatus)
    (hTerminal : isTerminal normalizedStatus) :
    ∃ after, (deliverAll lower workflowRunId s deliveries).run = some after ∧ after.campaignId.isSome ∧
      (.callback status ∈ deliveries ∨ Delivered normalizedStatus row →
        Delivered normalizedStatus after) := by
  induction deliveries generalizing s row with
  | nil => exact ⟨row, hRow, hCampaign, fun h => h.resolve_left List.not_mem_nil⟩
  | cons delivery deliveries ih =>
    cases delivery with
    | elsewhere services =>
      have hSame : (deliver lower workflowRunId s (.elsewhere services)).run = some row := hRow
      obtain ⟨after, hAfter, hAfterCampaign, hDelivered⟩ := ih hSame hCampaign
      refine ⟨after, hAfter, hAfterCampaign, fun h => hDelivered (h.imp_left fun hMem => ?_)⟩
      exact (List.mem_cons.mp hMem).resolve_left Delivery.noConfusion
    | callback other =>
      obtain ⟨next, hNext, hNextCampaign⟩ :=
        @handle_campaignId lower workflowRunId s row other hRow hCampaign
      have hSame : (deliver lower workflowRunId s (.callback other)).run = some next := hNext
      obtain ⟨after, hAfter, hAfterCampaign, hDelivered⟩ := ih hSame hNextCampaign
      refine ⟨after, hAfter, hAfterCampaign, ?_⟩
      rintro (hMem | hAlready)
      · obtain hSelf | hLater := List.mem_cons.mp hMem
        · cases hSelf
          obtain ⟨own, hOwn, hOwnDelivered⟩ :=
            @delivered_handle_self lower workflowRunId s row status normalizedStatus hRow hCampaign
              hStatus hTerminal
          obtain rfl : own = next := Option.some.inj (hOwn.symm.trans hNext)
          exact hDelivered (.inr hOwnDelivered)
        · exact hDelivered (.inl hLater)
      · obtain ⟨own, hOwn, hOwnDelivered⟩ :=
          @Delivered.handle lower workflowRunId s row other normalizedStatus hAlready hRow hCampaign
        obtain rfl : own = next := Option.some.inj (hOwn.symm.trans hNext)
        exact hDelivered (.inr hOwnDelivered)

/-- A status that is not retried, and that the breaker has nothing new to record for. -/
def Harmless (normalizedStatus : TelephonyCallStatus) (s : TelephonyStore) : Prop :=
  normalizedStatus ∉ retryableNotConnectedStatuses ∧
    RecordsNothing (normalizedStatus ∈ failureNotConnectedStatuses) s.services

theorem observation_handle_iff (hRow : s.run = some row) (hCampaign : row.campaignId.isSome)
    (hStatus : fromRaw lower status.status = some normalizedStatus)
    (hTerminal : isTerminal normalizedStatus) (hDelivered : Delivered normalizedStatus row) :
    (handle lower workflowRunId status s).observation = s.observation ↔ Harmless normalizedStatus s := by
  have hState := hDelivered.state
  obtain rfl | hTerminal := hTerminal
  · obtain ⟨keyspace, hHandle⟩ := handle_completed lower workflowRunId hRow hCampaign hStatus
    have hTotals := breakerTotals_afterOutcome_iff false { s.services with keyspace }
    rw [hHandle, if_pos hState, Harmless, and_iff_right (by decide)]
    refine Iff.trans ?_ hTotals
    simp [TelephonyStore.observation, hRow, WorkflowRunRow.patch, logPatch]
    rfl
  · obtain ⟨keyspace, hHandle⟩ :=
      handle_notConnected lower workflowRunId hRow hCampaign hStatus hTerminal
    have hTotals := breakerTotals_afterOutcome_iff (normalizedStatus ∈ failureNotConnectedStatuses)
      { s.services with keyspace }
    have hNotCompleted : normalizedStatus ≠ .completed := by
      rintro rfl
      exact absurd hTerminal (by decide)
    obtain ⟨tags, hTags, hAll⟩ := hDelivered.tags hNotCompleted
    have hSameTags : some (appendUniqueTags row.callTags
        ["not_connected", "telephony_" ++ normalizedStatus.value]) = row.callTags := by
      rw [hTags]
      exact congrArg some (appendUniqueTags_of_subset hAll)
    have hNoJob : shouldRunPostCallIntegrations row = false := by
      simp [shouldRunPostCallIntegrations, hState]
    rw [hHandle, Harmless, and_comm]
    refine Iff.trans ?_ (and_congr hTotals Iff.rfl)
    simp [TelephonyStore.observation, hRow, WorkflowRunRow.patch, logPatch, notConnectedPatch,
      hNoJob, hState, hSameTags]
    exact fun _ => Iff.rfl

theorem recordsNothing_handle (hRow : s.run = some row) (hCampaign : row.campaignId.isSome)
    (hStatus : fromRaw lower status.status = some normalizedStatus)
    (hTerminal : isTerminal normalizedStatus) :
    RecordsNothing (normalizedStatus ∈ failureNotConnectedStatuses)
      (handle lower workflowRunId status s).services := by
  obtain rfl | hTerminal := hTerminal
  · obtain ⟨keyspace, hHandle⟩ := handle_completed lower workflowRunId hRow hCampaign hStatus
    rw [hHandle]
    exact recordsNothing_afterOutcome false _
  · obtain ⟨keyspace, hHandle⟩ :=
      handle_notConnected lower workflowRunId hRow hCampaign hStatus hTerminal
    rw [hHandle]
    exact recordsNothing_afterOutcome _ _

/-- A callback that was delivered once changes nothing when it is delivered again, however often,
exactly when it is harmless. -/
theorem repeated_callback_iff (deliveries : List Delivery) (hRow : s.run = some row)
    (hCampaign : row.campaignId.isSome)
    (hStatus : fromRaw lower status.status = some normalizedStatus)
    (hTerminal : isTerminal normalizedStatus) (hDelivered : .callback status ∈ deliveries) :
    (∀ times, (deliverAll lower workflowRunId (deliverAll lower workflowRunId s deliveries)
        (List.replicate times (.callback status))).observation =
          (deliverAll lower workflowRunId s deliveries).observation) ↔
      Harmless normalizedStatus (deliverAll lower workflowRunId s deliveries) := by
  obtain ⟨after, hAfter, hAfterCampaign, hShown⟩ :=
    @delivered_deliverAll lower workflowRunId s row status normalizedStatus deliveries hRow hCampaign
      hStatus hTerminal
  replace hShown := hShown (.inl hDelivered)
  revert hAfter
  generalize deliverAll lower workflowRunId s deliveries = s'
  intro hAfter
  constructor
  · intro h
    exact (observation_handle_iff hAfter hAfterCampaign hStatus hTerminal hShown).mp (h 1)
  · intro hHarmless times
    induction times generalizing s' after with
    | zero => rfl
    | succ times ih =>
      have hOnce : (handle lower workflowRunId status s').observation = s'.observation :=
        (observation_handle_iff hAfter hAfterCampaign hStatus hTerminal hShown).mpr hHarmless
      obtain ⟨next, hNext, hNextCampaign, hNextShown⟩ :=
        @delivered_deliverAll lower workflowRunId s' after status normalizedStatus
          [.callback status] hAfter hAfterCampaign hStatus hTerminal
      have hStill : Harmless normalizedStatus (handle lower workflowRunId status s') :=
        ⟨hHarmless.1, recordsNothing_handle hAfter hAfterCampaign hStatus hTerminal⟩
      exact (ih next hNextCampaign (hNextShown (.inr hShown)) _ hNext hStill).trans hOnce

end Repeats

/-! ## A run of a campaign -/

def WorkflowRunRow.dialled : WorkflowRunRow :=
  ⟨some 3, some 1, .initialized, false, [], none, none, none, none⟩

def TelephonyStore.dialled (state : CampaignState) : TelephonyStore :=
  ⟨.fresh ⟨1, UnixTime.one_pos⟩ (.plain state) [dialledRun] 0, some .dialled, [], 0⟩

def callbackOf (status : TelephonyCallStatus) : StatusCallbackRequest := ⟨"CA1", status.value, none, []⟩

theorem repeated_callback_paused :
    (deliverAll id 5 (deliverAll id 5 (.dialled .paused) [.callback (callbackOf .failed)])
      (List.replicate 2 (.callback (callbackOf .failed)))).observation =
    (deliverAll id 5 (.dialled .paused) [.callback (callbackOf .failed)]).observation := by
  have hPaused : (deliverAll id 5 (.dialled .paused)
      [.callback (callbackOf .failed)]).services.campaign.map CampaignRow.state = some .paused := by
    decide +kernel
  have hStatus : fromRaw id (callbackOf .failed).status = some .failed := by decide +kernel
  have hHarmless : Harmless .failed
      (deliverAll id 5 (.dialled .paused) [.callback (callbackOf .failed)]) := by
    refine ⟨by decide, fun row hRow hRecords => ?_⟩
    rw [Option.mem_def.mp hRow, Option.map_some, hRecords.1] at hPaused
    cases hPaused
  exact (repeated_callback_iff [.callback (callbackOf .failed)] rfl rfl hStatus (.inr (by decide))
    List.mem_cons_self).mpr hHarmless 2

theorem repeated_callback_busy : ¬ ∀ (s : TelephonyStore) (row : WorkflowRunRow)
    (deliveries : List Delivery) (status : StatusCallbackRequest)
    (normalizedStatus : TelephonyCallStatus), s.run = some row → row.campaignId.isSome →
    fromRaw id status.status = some normalizedStatus → isTerminal normalizedStatus →
    .callback status ∈ deliveries → ∀ times,
      (deliverAll id 5 (deliverAll id 5 s deliveries)
        (List.replicate times (.callback status))).observation =
      (deliverAll id 5 s deliveries).observation := by
  intro h
  have hSame := h (.dialled .running) .dialled [.callback (callbackOf .busy)] (callbackOf .busy) .busy
    rfl rfl (by decide +kernel) (.inr (by decide)) List.mem_cons_self 1
  have hEvents := congrArg Observation.retryEvents hSame
  revert hEvents
  decide +kernel

end FastVoice.Telephony
