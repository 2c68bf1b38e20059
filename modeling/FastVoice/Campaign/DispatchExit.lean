import FastVoice.Campaign.BatchExit
import FastVoice.Campaign.DispatchRelease

/-! # A failed dispatch releases what it holds

Every way through `dispatch_call` that ends with an exception before a call was placed. What it holds
is released exactly if none of its awaits ended in one of the ways that leak.
-/
namespace FastVoice.Campaign
open Async CallConcurrency

section

variable {ι : Type} [DecidableEq ι] {me : ι} {slot : CallConcurrencySlot} {campaign : CampaignRow}
  {trace : CampaignTrace ι} {fromNumber : String} {id : Nat}

def holdings (slot : CallConcurrencySlot) (number : Option String) (run : Option Nat)
    (bound mapped leaked : Bool) : Holdings :=
  ⟨slotKeys slot, true, number, false, run, bound, mapped, leaked⟩

theorem organization_mem_slotKeys :
    ConcurrentKey.organization slot.organizationId ∈ slotKeys slot := List.mem_cons_self

def Accounts {α : Type} (me : ι) (slot : CallConcurrencySlot) (pool : PoolKey)
    (post : α → CampaignTrace ι → Prop) : Except Error α → CampaignTrace ι → Prop
  | .ok value, after => post value after
  | .error _, after => Accounted me slot pool after

theorem Accounts.of_never {α : Type} {pool : PoolKey} {post : α → CampaignTrace ι → Prop}
    {result : Except Error α} (h : Accounts me slot pool (fun _ _ => False) result trace) :
    Accounts me slot pool post result trace := by
  cases result with
  | ok value => exact h.elim
  | error error => exact h

structure Abandoned (slot : CallConcurrencySlot) (number : Option String) (held : Holdings) :
    Prop where
  keys : held.keys ⊆ slotKeys slot
  number : held.number = number
  mapped : held.mapped = false
  leaked : held.leaked = held.bound
  run : held.bound = true → held.run ≠ none

theorem releaseAndRaise_ensures {α : Type} {error : Error} {number : Option String}
    {held : Holdings} (h : Escapes me slot campaign.poolKey held error trace)
    (hAbandoned : Abandoned slot number held) (hNonempty : ∀ fromNumber ∈ number, fromNumber ≠ "") :
    (releaseAndRaise (releaseSlot slot) campaign number error : CampaignMethod α).Ensures
      (dispatchParty me slot campaign.poolKey)
      (Accounts me slot campaign.poolKey fun _ _ => False) trace := by
  obtain ⟨rfl, hLost⟩ | ⟨hOther, hHolds⟩ := h
  · exact hLost.accounted
  · unfold releaseAndRaise
    rw [if_pos (error.isException_iff.mpr hOther)]
    refine (releaseSlot_ensures hHolds hAbandoned.keys).bind ?_ ?_
    · rintro released after ⟨-, hFreed⟩
      cases number with
      | none =>
        have hNone : held.number = none := hAbandoned.number
        cases hBound : held.bound with
        | false =>
          refine hFreed.accounted (hFreed.store.released rfl rfl (fun hSome => absurd hNone hSome)
            fun _ => ⟨hBound, hAbandoned.mapped⟩) ?_
          exact hAbandoned.leaked.trans hBound
        | true =>
          obtain ⟨id, hRun⟩ := Option.ne_none_iff_exists'.mp (hAbandoned.run hBound)
          exact hFreed.accounted_of_leaked (hFreed.store.not_released_of_bound hRun hBound)
            (hAbandoned.leaked.trans hBound)
      | some fromNumber =>
        have hNumber : held.number = some fromNumber := hAbandoned.number
        refine (releaseFromNumber_ensures hFreed hNumber (hNonempty fromNumber rfl)).bind ?_ ?_
        · rintro success after ⟨-, hReturned⟩
          cases hBound : held.bound with
          | false =>
            refine hReturned.accounted (hReturned.store.released rfl rfl (fun _ => rfl)
              fun _ => ⟨hBound, hAbandoned.mapped⟩) ?_
            exact hAbandoned.leaked.trans hBound
          | true =>
            obtain ⟨id, hRun⟩ := Option.ne_none_iff_exists'.mp (hAbandoned.run hBound)
            exact hReturned.accounted_of_leaked (hReturned.store.not_released_of_bound hRun hBound)
              (hAbandoned.leaked.trans hBound)
        · rintro error after ⟨hResult, -⟩
          cases hResult
    · rintro error after ⟨⟨released, hResult⟩, -⟩
      cases hResult

/-! ## Up to the number -/

theorem service_ensures {held : Holdings} {request : Service}
    (hGuarded : (CampaignCommand.service request).leaks (.fail .exception false) = false)
    (h : Holding me slot campaign.poolKey held trace) (hKey : .organization slot.organizationId ∈ held.keys) :
    (service request).Ensures (dispatchParty me slot campaign.poolKey)
      (Guarded me slot campaign.poolKey held) trace := by
  have hCalm : Calm (.service request) := by
    refine ⟨trivial, fun error applied hError => ?_⟩
    cases request <;> first | (cases hGuarded; done) | simp [CampaignCommand.leaks, hError]
  exact calm_ensures (service_passes request) (Program.issues_call hCalm) h hKey

theorem acquireForDispatch_ensures (run : QueuedRun) (retries : Nat)
    (h : Holding me slot campaign.poolKey (holdings slot none none false false false) trace) :
    (acquireForDispatch run campaign retries).Ensures (dispatchParty me slot campaign.poolKey)
      (fun result after => match result with
        | .ok (_, _, fromNumber) => fromNumber ≠ "" ∧ Holding me slot campaign.poolKey
          (holdings slot (some fromNumber) none false false false) after
        | .error error => Escapes me slot campaign.poolKey
          (holdings slot none none false false false) error after) trace := by
  refine (service_ensures rfl h organization_mem_slotKeys).bind ?_ fun _ _ hEscapes => hEscapes
  intro found after hHolds
  cases found with
  | false => exact .inr ⟨nofun, hHolds⟩
  | true =>
    rw [if_pos rfl]
    split
    · exact .inr ⟨nofun, hHolds⟩
    · refine (service_ensures rfl hHolds organization_mem_slotKeys).bind ?_
        fun _ _ hEscapes => hEscapes
      intro provider after hHolds
      refine (acquireFromNumber_ensures retries hHolds organization_mem_slotKeys rfl rfl).bind ?_
        fun _ _ hEscapes => hEscapes
      intro acquired after hHands
      cases acquired with
      | none => exact .inr ⟨nofun, hHands⟩
      | some fromNumber => exact hHands

/-! ## Up to the mappings -/

theorem createWorkflowRun_ensures (queuedRunId : Nat)
    (h : Holding me slot campaign.poolKey (holdings slot (some fromNumber) none false false false)
      trace) :
    (Program.call (CampaignCommand.createWorkflowRun queuedRunId) : CampaignMethod Nat).Ensures
      (dispatchParty me slot campaign.poolKey) (fun result after => match result with
        | .ok id => Holding me slot campaign.poolKey
          (holdings slot (some fromNumber) (some id) false false false) after
        | .error error => Escapes me slot campaign.poolKey
          (holdings slot (some fromNumber) none false false false) error after) trace := by
  apply ensures_command h
  · intro before hBefore
    exact hBefore.after .reply (hBefore.store.create rfl queuedRunId) rfl rfl rfl
  · intro _ before hBefore error applied
    have hStore : HoldsIn slot campaign.poolKey (holdings slot (some fromNumber) none false false false)
        (before.after me (.createWorkflowRun queuedRunId) (.fail error applied)).state := by
      rw [state_after]
      split
      · exact hBefore.store.createUnknown queuedRunId
      · exact hBefore.store
    by_cases hError : error = .cancelledError
    · exact .inl ⟨hError,
        hBefore.lost_of_cancelled organization_mem_slotKeys hError hStore rfl rfl⟩
    · refine .inr ⟨hError, hBefore.after (.fail error applied) hStore rfl rfl ?_⟩
      simp [CampaignCommand.leaks, hError, holdings]

abbrev Either {α : Type} (returned : α → CampaignTrace ι → Prop) (raised : Error → CampaignTrace ι → Prop) :
    Except Error α → CampaignTrace ι → Prop
  | .ok value, trace => returned value trace
  | .error error, trace => raised error trace

theorem storeSlotMapping_ensures
    (h : Holding me slot campaign.poolKey
      (holdings slot (some fromNumber) (some id) false false false) trace) :
    (redis (storeWorkflowSlotMappingIfAbsent id slot.organizationId slot.slotId
      slot.scopeKey)).Ensures (dispatchParty me slot campaign.poolKey) (fun result after =>
        match result with
        | .ok true => Holding me slot campaign.poolKey
          (holdings slot (some fromNumber) (some id) true false false) after
        | .ok false => ∃ bound, Holding me slot campaign.poolKey
          (holdings slot (some fromNumber) (some id) bound false bound) after
        | .error error => error = .cancelledError ∧ Lost me slot campaign.poolKey after) trace := by
  rw [storeWorkflowSlotMappingIfAbsent, redis_orElse, CallConcurrency.call, redis_call]
  have hCall : (Program.call (CampaignCommand.redis
      (.storeSlotMappingIfAbsent id (slotMappingOf slot))) : CampaignMethod Bool).Ensures
      (dispatchParty me slot campaign.poolKey) (Either
        (fun stored after => stored = true ∧ Holding me slot campaign.poolKey
          (holdings slot (some fromNumber) (some id) true false false) after)
        fun error after => error = .cancelledError ∧ Lost me slot campaign.poolKey after ∨
          error ≠ .cancelledError ∧ ∃ bound, Holding me slot campaign.poolKey
            (holdings slot (some fromNumber) (some id) bound false bound) after) trace := by
    apply ensures_command h
    · intro before hBefore
      obtain ⟨hStored, hStore⟩ := hBefore.store.bind rfl rfl
      exact ⟨hStored, hBefore.after .reply hStore rfl rfl rfl⟩
    · intro _ before hBefore error applied
      have hStore : HoldsIn slot campaign.poolKey
          (holdings slot (some fromNumber) (some id) applied false applied)
          (before.after me (.redis (.storeSlotMappingIfAbsent id (slotMappingOf slot)))
            (.fail error applied)).state := by
        rw [state_after]
        have hBind := (hBefore.store.bind rfl rfl).2
        cases applied with
        | true => exact ⟨hBind.slots, hBind.member, hBind.fleet, hBind.score, hBind.unmapped,
            hBind.slotMapping, hBind.numberMapping⟩
        | false => exact hBefore.store
      by_cases hError : error = .cancelledError
      · exact .inl ⟨hError,
          hBefore.lost_of_cancelled organization_mem_slotKeys hError hStore rfl rfl⟩
      · refine .inr ⟨hError, applied, hBefore.after (.fail error applied) hStore rfl rfl ?_⟩
        simp [CampaignCommand.leaks, hError, holdings]
  refine hCall.tryCatch ?_ ?_
  · rintro stored after ⟨rfl, hHolds⟩
    exact hHolds
  · rintro error after (⟨rfl, hLost⟩ | ⟨hError, hHolds⟩)
    · exact ⟨rfl, hLost⟩
    · rw [if_pos (error.isException_iff.mpr hError)]
      exact hHolds

theorem createAndBind_ensures (run : QueuedRun)
    (h : Holding me slot campaign.poolKey (holdings slot (some fromNumber) none false false false)
      trace) :
    (createAndBind run slot).Ensures (dispatchParty me slot campaign.poolKey)
      (fun result after => match result with
        | .ok id => Holding me slot campaign.poolKey
          (holdings slot (some fromNumber) (some id) true false false) after
        | .error error => ∃ held, Escapes me slot campaign.poolKey held error after ∧
          Abandoned slot (some fromNumber) held) trace := by
  have hHeld : Abandoned slot (some fromNumber)
      (holdings slot (some fromNumber) none false false false) :=
    ⟨List.Subset.refl _, rfl, rfl, rfl, nofun⟩
  refine (service_ensures rfl h organization_mem_slotKeys).bind ?_
    fun error after hEscapes => ⟨_, hEscapes, hHeld⟩
  intro _ after hHolds
  refine (createWorkflowRun_ensures run.id hHolds).bind ?_
    fun error after hEscapes => ⟨_, hEscapes, hHeld⟩
  intro id after hHolds
  have hBind : (redis (bindWorkflowRun slot id)).Ensures (dispatchParty me slot campaign.poolKey)
      (Either
        (fun _ after => Holding me slot campaign.poolKey
          (holdings slot (some fromNumber) (some id) true false false) after)
        fun error after => ∃ held, Escapes me slot campaign.poolKey held error after ∧
          Abandoned slot (some fromNumber) held) after := by
    rw [bindWorkflowRun, redis_bind]
    refine (storeSlotMapping_ensures hHolds).bind ?_
      fun error after hLost => ⟨_, .inl hLost, hHeld⟩
    intro stored after hStored
    cases stored with
    | true => exact hStored
    | false =>
      obtain ⟨bound, hHolds⟩ := hStored
      rw [if_neg Bool.false_ne_true, redis_bind]
      refine (releaseSlot_ensures hHolds (List.Subset.refl _)).bind ?_ ?_
      · rintro released after ⟨-, hFreed⟩
        refine ⟨_, .inr ⟨nofun, hFreed⟩, List.nil_subset _, rfl, rfl, rfl, fun _ => ?_⟩
        exact Option.some_ne_none id
      · rintro error after ⟨⟨released, hResult⟩, -⟩
        cases hResult
  exact hBind.bind (fun _ _ hPost => hPost) fun _ _ hPost => hPost

theorem storeNumberMapping_ensures
    (h : Holding me slot campaign.poolKey
      (holdings slot (some fromNumber) (some id) true false false) trace) :
    (redis (storeWorkflowFromNumberMapping id campaign.poolKey fromNumber)).Ensures
      (dispatchParty me slot campaign.poolKey) (fun result after => match result with
        | .ok _ => ∃ mapped, Holding me slot campaign.poolKey
          (holdings slot (some fromNumber) (some id) true mapped (!mapped)) after
        | .error error => error = .cancelledError ∧ Lost me slot campaign.poolKey after) trace := by
  rw [storeWorkflowFromNumberMapping, redis_orElse]
  have hTry : (redis (do
      CallConcurrency.call (.setNumberMapping id ⟨campaign.poolKey, fromNumber⟩)
      CallConcurrency.call (.expireNumberMapping id)
      return true)).Ensures (dispatchParty me slot campaign.poolKey) (Either
        (fun _ after => ∃ mapped, Holding me slot campaign.poolKey
          (holdings slot (some fromNumber) (some id) true mapped (!mapped)) after)
        fun error after => error = .cancelledError ∧ Lost me slot campaign.poolKey after ∨
          error ≠ .cancelledError ∧ ∃ mapped, Holding me slot campaign.poolKey
            (holdings slot (some fromNumber) (some id) true mapped (!mapped)) after) trace := by
    rw [redis_bind, CallConcurrency.call, redis_call]
    have hSet : (Program.call (CampaignCommand.redis
        (.setNumberMapping id ⟨campaign.poolKey, fromNumber⟩)) : CampaignMethod Unit).Ensures
        (dispatchParty me slot campaign.poolKey) (Either
          (fun _ after => Holding me slot campaign.poolKey
            (holdings slot (some fromNumber) (some id) true true false) after)
          fun error after => error = .cancelledError ∧ Lost me slot campaign.poolKey after ∨
            error ≠ .cancelledError ∧ ∃ mapped, Holding me slot campaign.poolKey
              (holdings slot (some fromNumber) (some id) true mapped (!mapped)) after) trace := by
      apply ensures_command h
      · intro before hBefore
        exact hBefore.after .reply (hBefore.store.map rfl rfl) rfl rfl rfl
      · intro _ before hBefore error applied
        have hStore : HoldsIn slot campaign.poolKey
            (holdings slot (some fromNumber) (some id) true applied (!applied))
            (before.after me (.redis (.setNumberMapping id ⟨campaign.poolKey, fromNumber⟩))
              (.fail error applied)).state := by
          rw [state_after]
          cases applied with
          | true => exact hBefore.store.map rfl rfl
          | false =>
            have hSame := hBefore.store
            exact ⟨hSame.slots, hSame.member, hSame.fleet, hSame.score, hSame.unmapped,
              hSame.slotMapping, hSame.numberMapping⟩
        by_cases hError : error = .cancelledError
        · exact .inl ⟨hError,
            hBefore.lost_of_cancelled organization_mem_slotKeys hError hStore rfl rfl⟩
        · refine .inr ⟨hError, applied, hBefore.after (.fail error applied) hStore rfl rfl ?_⟩
          simp [CampaignCommand.leaks, hError, holdings]
    refine hSet.bind ?_ fun _ _ hPost => hPost
    intro _ after hHolds
    rw [redis_bind, CallConcurrency.call, redis_call]
    have hCalm : Calm (.redis (.expireNumberMapping id)) :=
      ⟨trivial, fun _ _ hError => by simp [CampaignCommand.leaks, hError]⟩
    refine (calm_ensures (Program.transparent_call _) (Program.issues_call hCalm) hHolds
      organization_mem_slotKeys).bind ?_ ?_
    · intro _ after hHolds
      exact ⟨true, hHolds⟩
    · rintro error after (hLost | ⟨hError, hHolds⟩)
      · exact .inl hLost
      · exact .inr ⟨hError, true, hHolds⟩
  refine hTry.tryCatch (fun _ _ hPost => hPost) ?_
  rintro error after (⟨rfl, hLost⟩ | ⟨hError, hHolds⟩)
  · exact ⟨rfl, hLost⟩
  · rw [if_pos (error.isException_iff.mpr hError)]
    exact hHolds

theorem prepareDispatch_ensures (run : QueuedRun) (retries : Nat)
    (h : Holding me slot campaign.poolKey (holdings slot none none false false false) trace) :
    (prepareDispatch run campaign slot retries).Ensures (dispatchParty me slot campaign.poolKey)
      (Accounts me slot campaign.poolKey fun (_, _, fromNumber, id) after => fromNumber ≠ "" ∧
        ∃ mapped, Holding me slot campaign.poolKey
          (holdings slot (some fromNumber) (some id) true mapped (!mapped)) after) trace := by
  have hNothing : Abandoned slot none (holdings slot none none false false false) :=
    ⟨List.Subset.refl _, rfl, rfl, rfl, fun h => by cases h⟩
  have hAcquire : ((acquireForDispatch run campaign retries).tryCatch
      (releaseAndRaise (releaseSlot slot) campaign none)).Ensures
      (dispatchParty me slot campaign.poolKey)
      (Accounts me slot campaign.poolKey fun acquired after => acquired.2.2 ≠ "" ∧
        Holding me slot campaign.poolKey (holdings slot (some acquired.2.2) none false false false)
          after) trace := by
    refine (acquireForDispatch_ensures run retries h).tryCatch (fun _ _ hPost => hPost) ?_
    intro error after hEscapes
    exact (releaseAndRaise_ensures hEscapes hNothing fun _ h => by cases h).weaken fun _ _ hNever => hNever.of_never
  refine hAcquire.bind ?_ fun _ _ hPost => hPost
  rintro ⟨phoneNumber, provider, fromNumber⟩ after ⟨hNonempty, hHolds⟩
  have hCreate : ((createAndBind run slot).tryCatch
      (releaseAndRaise (releaseSlot slot) campaign (some fromNumber))).Ensures
      (dispatchParty me slot campaign.poolKey) (Accounts me slot campaign.poolKey fun id after =>
        Holding me slot campaign.poolKey
          (holdings slot (some fromNumber) (some id) true false false) after) after := by
    refine (createAndBind_ensures run hHolds).tryCatch (fun _ _ hPost => hPost) ?_
    rintro error after ⟨held, hEscapes, hAbandoned⟩
    refine (releaseAndRaise_ensures hEscapes hAbandoned ?_).weaken
      fun _ _ hNever => hNever.of_never
    rintro _ ⟨⟩
    exact hNonempty
  refine hCreate.bind ?_ fun _ _ hPost => hPost
  intro id after hHolds
  have hStore : ((redis (storeWorkflowFromNumberMapping id campaign.poolKey fromNumber)).tryCatch
      (releaseAndRaise (releaseWorkflowRunSlot id) campaign (some fromNumber))).Ensures
      (dispatchParty me slot campaign.poolKey) (Accounts me slot campaign.poolKey fun _ after =>
        ∃ mapped, Holding me slot campaign.poolKey
          (holdings slot (some fromNumber) (some id) true mapped (!mapped)) after) after := by
    refine (storeNumberMapping_ensures hHolds).tryCatch (fun _ _ hPost => hPost) ?_
    rintro error after ⟨rfl, hLost⟩
    exact hLost.accounted
  refine hStore.bind ?_ fun _ _ hPost => hPost
  intro _ after hMapped
  exact ⟨hNonempty, hMapped⟩

/-! ## From the mappings on -/

section Mapped

variable {mapped : Bool}

def Exposed {α : Type} (me : ι) (slot : CallConcurrencySlot) (pool : PoolKey) (held : Holdings) :
    Except Error α → CampaignTrace ι → Prop
  | .ok _, after => Holding me slot pool held after
  | .error _, after => Lost me slot pool after

theorem unguarded_ensures {held : Holdings} {request : Service}
    (hLeaks : ∀ error applied, (CampaignCommand.service request).leaks (.fail error applied) = true)
    (h : Holding me slot campaign.poolKey held trace) (hKey : .organization slot.organizationId ∈ held.keys) :
    (service request).Ensures (dispatchParty me slot campaign.poolKey)
      (Exposed me slot campaign.poolKey held) trace := by
  have hHarmless : Harmless (.service request) := trivial
  apply ensures_command h
  · intro before hBefore
    exact hHarmless.holding hBefore .reply
  · intro _ before hBefore error applied
    refine (hHarmless.holding hBefore (.fail error applied)).lost hKey ?_
    rw [hLeaks]
    rfl

theorem leaks_updateWorkflowRun (update : WorkflowRunUpdate) (error : Error) (applied : Bool) :
    (CampaignCommand.service (.updateWorkflowRun id update)).leaks (.fail error applied) = true :=
  Bool.or_true _

theorem addRetryTag_ensures {held : Holdings} (run : QueuedRun)
    (h : Holding me slot campaign.poolKey held trace) (hKey : .organization slot.organizationId ∈ held.keys) :
    (addRetryTag run id).Ensures (dispatchParty me slot campaign.poolKey)
      (Exposed me slot campaign.poolKey held) trace := by
  rw [addRetryTag]
  split
  · exact unguarded_ensures (leaks_updateWorkflowRun _) h hKey
  · exact h

theorem releaseCallSlot_raise {α : Type} (error : Error) (hNonempty : fromNumber ≠ "")
    (h : Holding me slot campaign.poolKey
      (holdings slot (some fromNumber) (some id) true mapped (!mapped)) trace) :
    (do
      let _ ← redis (releaseCallSlot id)
      Program.raise error : CampaignMethod α).Ensures (dispatchParty me slot campaign.poolKey)
        (Accounts me slot campaign.poolKey fun _ _ => False) trace := by
  refine (releaseCallSlot_ensures h (List.Subset.refl _) rfl rfl rfl hNonempty).bind ?_ ?_
  · rintro released after ⟨-, hHolds⟩
    cases mapped with
    | true =>
      have hReleased := hHolds.store.released rfl rfl (fun _ => rfl) fun _ => ⟨rfl, rfl⟩
      exact hHolds.accounted hReleased rfl
    | false =>
      have hKept := hHolds.store.not_released_of_number rfl rfl
      exact hHolds.accounted_of_leaked hKept rfl
  · rintro other after ⟨⟨released, hResult⟩, -⟩
    cases hResult

theorem authorizeStart_ensures (hNonempty : fromNumber ≠ "") (h : Holding me slot campaign.poolKey
      (holdings slot (some fromNumber) (some id) true mapped (!mapped)) trace) :
    (authorizeStart id).Ensures (dispatchParty me slot campaign.poolKey)
      (Accounts me slot campaign.poolKey fun _ after => Holding me slot campaign.poolKey
        (holdings slot (some fromNumber) (some id) true mapped (!mapped)) after) trace := by
  have hLeaks : ∀ error applied, (CampaignCommand.service (.authorizeWorkflowRunStart id)).leaks
      (.fail error applied) = true := fun _ _ => Bool.or_true _
  refine (unguarded_ensures hLeaks h organization_mem_slotKeys).bind ?_
    fun _ _ hLost => hLost.accounted
  intro quotaResult after hHolds
  dsimp only
  split
  · exact hHolds
  · refine (unguarded_ensures (leaks_updateWorkflowRun _) hHolds organization_mem_slotKeys).bind ?_
      fun _ _ hLost => hLost.accounted
    intro _ after hHolds
    exact (releaseCallSlot_raise _ hNonempty hHolds).weaken fun _ _ hNever => hNever.of_never

theorem placed_ensures {α : Type} (program : CampaignMethod α)
    (h : OwnCalls.placedCall (trace.own me) = true) : program.Ensures (dispatchParty me slot campaign.poolKey)
      (fun _ after => OwnCalls.placedCall (after.own me) = true) trace := by
  refine Program.ensures_invariant program ?_ ?_ h
  · rintro before after hPlaced ⟨hOwn, -⟩
    rw [hOwn]
    exact hPlaced
  · intro command outcome before hPlaced
    show OwnCalls.placedCall ((before.after me command outcome).own me) = true
    rw [CampaignTrace.after, own_perform, OwnCalls.placedCall, List.any_cons, Bool.or_eq_true]
    exact .inr hPlaced

theorem recordAndEvaluate_ensures {held : Holdings} (isFailure : Bool) (workflowRunId : Option Nat)
    (h : Holding me slot campaign.poolKey held trace) (hKey : .organization slot.organizationId ∈ held.keys) :
    (recordAndEvaluate isFailure workflowRunId).Ensures (dispatchParty me slot campaign.poolKey)
      (Exposed me slot campaign.poolKey held) trace := by
  have hPasses : Passes (· ≠ .cancelledError) (recordAndEvaluate isFailure workflowRunId) := by
    refine recordAndEvaluate_passes ?_ isFailure workflowRunId
    rintro _ hFails rfl
    cases hFails
  have hRaises : (recordAndEvaluate isFailure workflowRunId).Raises (· = .cancelledError) :=
    orElse_raises _ ()
  refine ((calm_ensures hPasses (recordAndEvaluate_issues isFailure workflowRunId) h
    hKey).raises hRaises).weaken ?_
  rintro result after ⟨hGuarded, hCancelled⟩
  cases result with
  | ok value => exact hGuarded
  | error error =>
    obtain ⟨-, hLost⟩ | ⟨hOther, -⟩ := hGuarded
    · exact hLost
    · exact absurd (hCancelled error rfl) hOther

theorem initiationFailed_ensures (error : Error) (hNonempty : fromNumber ≠ "")
    (h : Escapes me slot campaign.poolKey
      (holdings slot (some fromNumber) (some id) true mapped (!mapped)) error trace) :
    (initiationFailed id error).Ensures (dispatchParty me slot campaign.poolKey)
      (Accounts me slot campaign.poolKey fun _ _ => False) trace := by
  obtain ⟨rfl, hLost⟩ | ⟨hOther, hHolds⟩ := h
  · exact hLost.accounted
  · unfold initiationFailed
    rw [if_pos (error.isException_iff.mpr hOther)]
    refine (unguarded_ensures (leaks_updateWorkflowRun _) hHolds organization_mem_slotKeys).bind ?_
      fun _ _ hLost => hLost.accounted
    intro _ after hHolds
    refine (recordAndEvaluate_ensures true (some id) hHolds organization_mem_slotKeys).bind ?_
      fun _ _ hLost => hLost.accounted
    intro _ after hHolds
    exact releaseCallSlot_raise error hNonempty hHolds

theorem placeCall_ensures {held : Holdings} (phoneNumber : String)
    (h : Holding me slot campaign.poolKey held trace) (hKey : .organization slot.organizationId ∈ held.keys) :
    (service (.initiateCall id phoneNumber fromNumber)).Ensures
      (dispatchParty me slot campaign.poolKey) (fun result after =>
        OwnCalls.placedCall (after.own me) = true ∨
          ∃ error, result = .error error ∧ Escapes me slot campaign.poolKey held error after) trace := by
  have hPlaces : ∀ (before : CampaignTrace ι) (outcome : Outcome Error), outcome.executed = true →
      OwnCalls.placedCall ((before.after me (.service
        (.initiateCall id phoneNumber fromNumber)) outcome).own me) = true := by
    intro before outcome hExecuted
    rw [CampaignTrace.after, own_perform, OwnCalls.placedCall, List.any_cons, Bool.or_eq_true]
    exact .inl (Bool.and_eq_true_iff.mpr ⟨rfl, hExecuted⟩)
  have hHarmless : Harmless (.service (.initiateCall id phoneNumber fromNumber)) := trivial
  apply ensures_command h
  · intro before _
    exact .inl (hPlaces before .reply rfl)
  · intro _ before hBefore error applied
    cases applied with
    | true => exact .inl (hPlaces before (.fail error true) rfl)
    | false =>
      have hAfter := hHarmless.holding hBefore (.fail error false)
      refine .inr ⟨error, rfl, ?_⟩
      by_cases hError : error = .cancelledError
      · refine .inl ⟨hError, hAfter.lost hKey ?_⟩
        simp [CampaignCommand.leaks, hError]
      · have hNoLeak : (CampaignCommand.service (.initiateCall id phoneNumber fromNumber)).leaks
            (.fail error false) = false := by
          simp [CampaignCommand.leaks, hError]
        rw [hNoLeak] at hAfter
        exact .inr ⟨hError, hAfter⟩

theorem initiateCall_ensures (phoneNumber : String) (provider : Provider) (hNonempty : fromNumber ≠ "")
    (h : Holding me slot campaign.poolKey
      (holdings slot (some fromNumber) (some id) true mapped (!mapped)) trace) :
    (initiateCall phoneNumber provider fromNumber id).Ensures (dispatchParty me slot campaign.poolKey)
      (Accounts me slot campaign.poolKey fun _ _ => True) trace := by
  have hTry : (do
      service .getBackendEndpoints
      service (.initiateCall id phoneNumber fromNumber)
      service (.updateWorkflowRun id (.initiated provider.providerName)) :
        CampaignMethod Unit).Ensures (dispatchParty me slot campaign.poolKey) (fun result after =>
          OwnCalls.placedCall (after.own me) = true ∨
            ∃ error, result = .error error ∧ Escapes me slot campaign.poolKey
              (holdings slot (some fromNumber) (some id) true mapped (!mapped)) error after) trace := by
    refine (service_ensures rfl h organization_mem_slotKeys).bind ?_
      fun error after hEscapes => .inr ⟨error, rfl, hEscapes⟩
    intro _ after hHolds
    refine (placeCall_ensures phoneNumber hHolds organization_mem_slotKeys).bind ?_ ?_
    · rintro _ after (hPlaced | ⟨error, hResult, -⟩)
      · exact (placed_ensures _ hPlaced).weaken fun _ _ hPlaced => .inl hPlaced
      · cases hResult
    · rintro error after (hPlaced | ⟨other, hResult, hEscapes⟩)
      · exact .inl hPlaced
      · obtain rfl := Except.error.inj hResult
        exact .inr ⟨error, rfl, hEscapes⟩
  refine hTry.tryCatch (fun _ _ _ => trivial) ?_
  rintro error after (hPlaced | ⟨other, hResult, hEscapes⟩)
  · refine (placed_ensures _ hPlaced).weaken fun result after hPlaced => ?_
    cases result with
    | ok value => trivial
    | error error => exact .inl hPlaced
  · obtain rfl := Except.error.inj hResult
    exact (initiationFailed_ensures error hNonempty hEscapes).weaken
      fun _ _ hNever => hNever.of_never

end Mapped

theorem dispatchCall_ensures (run : QueuedRun) (retries : Nat)
    (h : Holding me slot campaign.poolKey (holdings slot none none false false false) trace) :
    (dispatchCall run campaign slot retries).Ensures (dispatchParty me slot campaign.poolKey)
      (Accounts me slot campaign.poolKey fun _ _ => True) trace := by
  refine (prepareDispatch_ensures run retries h).bind ?_ fun _ _ hPost => hPost
  rintro ⟨phoneNumber, provider, fromNumber, id⟩ after ⟨hNonempty, mapped, hHolds⟩
  refine (addRetryTag_ensures run hHolds organization_mem_slotKeys).bind ?_
    fun _ _ hLost => hLost.accounted
  intro _ after hHolds
  refine (authorizeStart_ensures hNonempty hHolds).bind ?_ fun _ _ hPost => hPost
  intro _ after hHolds
  exact (initiateCall_ensures phoneNumber provider hNonempty hHolds).bind
    (fun _ _ _ => trivial) fun _ _ hPost => hPost

theorem holds_start {start : CampaignStore} (hSlot : Acquired slot start)
    (hUnmapped : start.Unmapped) : Holding me slot campaign.poolKey
      (holdings slot none none false false false) (⟨start, []⟩ : CampaignTrace ι) := by
  refine ⟨?_, rfl, rfl, rfl⟩
  exact {
    slots := by
      intro key hKey
      obtain hOrg | hScope := hSlot.slots key hKey
      · exact List.mem_cons.mpr (.inl hOrg)
      · exact List.mem_cons_of_mem _ (Option.mem_toList.mpr hScope)
    member := fun _ => hSlot.held
    fleet := fun organizationId hFleet => ⟨rfl, hSlot.fleet organizationId hFleet⟩
    score := nofun
    unmapped := fun _ => hUnmapped
    slotMapping := nofun
    numberMapping := nofun }

end

/-- A dispatch that ends with an exception before a call was placed has released its slot, its number
and its mappings if and only if none of its awaits leaked. -/
theorem dispatch_released_iff {ι : Type} [DecidableEq ι] (me : ι) (run : QueuedRun)
    (campaign : CampaignRow) (slot : CallConcurrencySlot) (retries : Nat)
    {procs : ι → CampaignMethod Nat} (hProc : procs me = dispatchCall run campaign slot retries)
    {start : CampaignStore} (hSlot : Acquired slot start) (hUnmapped : start.Unmapped)
    {last : Config ι CampaignCommand.Reply Error Nat (CampaignTrace ι)}
    {events : List (Event ι Error CampaignMove)}
    (hFollows : (campaignServices ι).recorded.Follows
      (dispatchParty me slot campaign.poolKey).discipline ⟨⟨start, []⟩, procs⟩ events)
    (hRun : (campaignServices ι).recorded.run ⟨⟨start, []⟩, procs⟩ events = some last)
    {error : Error} (hExit : (last.procs me).result? = some (.error error))
    (hPlaced : OwnCalls.placedCall (last.shared.own me) = false) :
    Released slot campaign.poolKey (OwnCalls.fromNumber (last.shared.own me))
        (OwnCalls.workflowRun (last.shared.own me)) last.shared.state ↔
      OwnCalls.leaked (last.shared.own me) = false := by
  have hEnsures : (procs me).Ensures (dispatchParty me slot campaign.poolKey)
      (Accounts me slot campaign.poolKey fun _ _ => True) ⟨start, []⟩ := by
    rw [hProc]
    exact dispatchCall_ensures run retries (holds_start hSlot hUnmapped)
  have hAccounts := Party.run_ensures (P := dispatchParty me slot campaign.poolKey)
    (fun result before after hPost hRelies => by
      cases result with
      | ok value => trivial
      | error error => exact Accounted.relies hPost hRelies)
    hFollows hRun hEnsures hExit
  obtain hCalled | hIff := hAccounts
  · rw [hCalled] at hPlaced
    cases hPlaced
  · exact hIff

/-! ### A dispatch that runs alone -/

def dispatchAlone :
    System.Discipline Unit CampaignCommand.Reply Error (CampaignTrace Unit) CampaignMove where
  call _ command outcome _ := command.releases = true → outcome = .reply
  environment _ _ := False

instance (proc : Unit) (command : CampaignCommand) (outcome : Outcome Error)
    (trace : CampaignTrace Unit) : Decidable (dispatchAlone.call proc command outcome trace) :=
  inferInstanceAs (Decidable (_ → _))

instance (move : CampaignMove) (trace : CampaignTrace Unit) :
    Decidable (dispatchAlone.environment move trace) := isFalse not_false

theorem follows_dispatchAlone {slot : CallConcurrencySlot} {pool : PoolKey}
    {cfg : Config Unit CampaignCommand.Reply Error Nat (CampaignTrace Unit)}
    {events : List (Event Unit Error CampaignMove)}
    (h : (campaignServices Unit).recorded.Follows dispatchAlone cfg events) :
    (campaignServices Unit).recorded.Follows (dispatchParty () slot pool).discipline cfg events := by
  refine System.Follows.mono ?_ ?_ h
  · intro proc command outcome trace hCall
    exact (dispatchParty () slot pool).discipline_own.mpr hCall
  · intro move trace hNever
    exact hNever.elim

def firstSlot : CallConcurrencySlot := ⟨7, ⟨1000, 0⟩, 10, "campaign:3", none⟩

def slotStore : CampaignStore :=
  { dialledStore with
    keyspace := ((dialledStore.keyspace.addConcurrent (.organization 7) ⟨1000, 0⟩).mirrorFleet 7
      ⟨1000, 0⟩).putNumbers ⟨7, none⟩ (Redis.SortedSet.empty.zadd 0 "+15550100") }

theorem acquired_slotStore : Acquired firstSlot slotStore where
  held := by decide +kernel
  slots key hKey := by
    obtain ⟨e, hMem, -⟩ := hKey
    obtain ⟨rfl, -⟩ | ⟨hBefore, -⟩ :=
      (dialledStore.keyspace.mem_addConcurrent (.organization 7) key ⟨1000, 0⟩).mp hMem
    · exact .inl rfl
    · cases hBefore
  fleet organizationId hFleet := by
    obtain ⟨e, hMem, hSlot⟩ := hFleet
    obtain rfl | ⟨hBefore, -, -⟩ :=
      ((dialledStore.keyspace.addConcurrent (.organization 7) ⟨1000, 0⟩).mem_mirrorFleet
        ⟨1000, 0⟩ 7).mp hMem
    · exact (congrArg Prod.fst hSlot).symm
    · cases hBefore

theorem unmapped_slotStore : slotStore.Unmapped := fun _ _ => ⟨rfl, rfl⟩

def firstDispatch : Config Unit CampaignCommand.Reply Error Nat (CampaignTrace Unit) :=
  ⟨⟨slotStore, []⟩, fun _ => dispatchCall dialledRun (.plain .running) firstSlot 0⟩

def failedInitiation : List (Event Unit Error CampaignMove) :=
  List.replicate 9 (.resume () .reply) ++ .resume () (.fail .exception false) ::
    List.replicate 11 (.resume () .reply)

theorem dispatch_released_initiation :
    ∃ last, (campaignServices Unit).recorded.run firstDispatch failedInitiation = some last ∧
      (last.procs ()).result? = some (.error .exception) ∧
      Released firstSlot ⟨7, none⟩ (some "+15550100") (some 1) last.shared.state := by
  have hEnds : ((campaignServices Unit).recorded.run firstDispatch failedInitiation).any
      (fun last => decide ((last.procs ()).result? = some (.error .exception)) &&
        (!OwnCalls.placedCall (last.shared.own ()) && !OwnCalls.leaked (last.shared.own ())) &&
        (decide (OwnCalls.fromNumber (last.shared.own ()) = some "+15550100") &&
          decide (OwnCalls.workflowRun (last.shared.own ()) = some 1))) = true := by decide +kernel
  obtain ⟨last, hRun, hLast⟩ := (Option.any_eq_true _ _).mp hEnds
  obtain ⟨hFailed, hHeld⟩ := Bool.and_eq_true_iff.mp hLast
  obtain ⟨hExit, hCalm⟩ := Bool.and_eq_true_iff.mp hFailed
  obtain ⟨hPlaced, hLeaked⟩ := Bool.and_eq_true_iff.mp hCalm
  obtain ⟨hNumber, hWorkflowRun⟩ := Bool.and_eq_true_iff.mp hHeld
  have hReleased := (dispatch_released_iff () dialledRun (.plain .running) firstSlot 0 rfl
    acquired_slotStore unmapped_slotStore (follows_dispatchAlone (by decide +kernel)) hRun
    (of_decide_eq_true hExit) ((Bool.not_eq_true' _).mp hPlaced)).mpr
      ((Bool.not_eq_true' _).mp hLeaked)
  rw [of_decide_eq_true hNumber, of_decide_eq_true hWorkflowRun] at hReleased
  exact ⟨last, hRun, of_decide_eq_true hExit, hReleased⟩

def failedAuthorization : List (Event Unit Error CampaignMove) :=
  List.replicate 8 (.resume () .reply) ++ [.resume () (.fail .exception false)]

/-- A failed authorization leaves the slot in the set of its organization. -/
theorem dispatch_not_released :
    ¬∀ (run : QueuedRun) (campaign : CampaignRow) (slot : CallConcurrencySlot) (retries : Nat)
      (start : CampaignStore), Acquired slot start → start.Unmapped →
      ∀ (last : Config Unit CampaignCommand.Reply Error Nat (CampaignTrace Unit))
        (events : List (Event Unit Error CampaignMove)),
      (campaignServices Unit).recorded.Follows (dispatchParty () slot campaign.poolKey).discipline
        ⟨⟨start, []⟩, fun _ => dispatchCall run campaign slot retries⟩ events →
      (campaignServices Unit).recorded.run
        ⟨⟨start, []⟩, fun _ => dispatchCall run campaign slot retries⟩ events = some last →
      ∀ error, (last.procs ()).result? = some (.error error) →
        OwnCalls.placedCall (last.shared.own ()) = false →
        Released slot campaign.poolKey (OwnCalls.fromNumber (last.shared.own ()))
          (OwnCalls.workflowRun (last.shared.own ())) last.shared.state := by
  intro hAll
  have hEnds : ((campaignServices Unit).recorded.run firstDispatch failedAuthorization).any
      (fun last => decide ((last.procs ()).result? = some (.error .exception)) &&
        !OwnCalls.placedCall (last.shared.own ()) &&
        decide (last.shared.state.InSlots (.organization 7) firstSlot.slotId)) = true := by
    decide +kernel
  obtain ⟨last, hRun, hLast⟩ := (Option.any_eq_true _ _).mp hEnds
  obtain ⟨hFailed, hInSlots⟩ := Bool.and_eq_true_iff.mp hLast
  obtain ⟨hExit, hPlaced⟩ := Bool.and_eq_true_iff.mp hFailed
  have hReleased := hAll dialledRun (.plain .running) firstSlot 0 slotStore acquired_slotStore
    unmapped_slotStore last failedAuthorization (follows_dispatchAlone (by decide +kernel)) hRun
    .exception (of_decide_eq_true hExit) ((Bool.not_eq_true' _).mp hPlaced)
  exact hReleased.slots _ (of_decide_eq_true hInSlots)

end FastVoice.Campaign
