import FastVoice.Campaign.Cancellation
import FastVoice.Campaign.DispatchHoldings

/-! # The releasing methods

What each method that releases or acquires something for a dispatch ensures about its holdings, with
others at work between its steps.
-/
namespace FastVoice.Campaign
open Async CallConcurrency

section

variable {ι : Type} [DecidableEq ι] {me : ι} {slot : CallConcurrencySlot} {pool : PoolKey}
  {held held' : Holdings} {trace trace' : CampaignTrace ι} {command : CampaignCommand}

structure Holding (me : ι) (slot : CallConcurrencySlot) (pool : PoolKey) (held : Holdings)
    (trace : CampaignTrace ι) : Prop where
  store : HoldsIn slot pool held trace.state
  number : OwnCalls.fromNumber (trace.own me) = held.number
  run : OwnCalls.workflowRun (trace.own me) = held.run
  leaked : OwnCalls.leaked (trace.own me) = held.leaked

theorem Holding.relies (h : Holding me slot pool held trace)
    (hRelies : (dispatchParty me slot pool).relies trace trace') : Holding me slot pool held trace' := by
  obtain ⟨hOwn, hUntouched⟩ := hRelies
  rw [h.number, h.run] at hUntouched
  exact ⟨h.store.untouched hUntouched, by rw [hOwn]; exact h.number, by rw [hOwn]; exact h.run,
    by rw [hOwn]; exact h.leaked⟩

theorem Holding.after (h : Holding me slot pool held trace) (outcome : Outcome Error)
    (hStore : HoldsIn slot pool held' (trace.after me command outcome).state) (hNumber : held'.number =
      (OwnCalls.handedOut (command, outcome, trace.state)).or held.number)
    (hRun : held'.run = (OwnCalls.created (command, outcome, trace.state)).or held.run)
    (hLeaked : held'.leaked = (command.leaks outcome || held.leaked)) :
    Holding me slot pool held' (trace.after me command outcome) := by
  have hOwn : (trace.after me command outcome).own me =
      (command, outcome, trace.state) :: trace.own me := own_perform command outcome
  refine ⟨hStore, ?_, ?_, ?_⟩
  · rw [hOwn, OwnCalls.fromNumber, List.findSome?_cons, hNumber, ← h.number]
    cases OwnCalls.handedOut (command, outcome, trace.state) <;> rfl
  · rw [hOwn, OwnCalls.workflowRun, List.findSome?_cons, hRun, ← h.run]
    cases OwnCalls.created (command, outcome, trace.state) <;> rfl
  · rw [hOwn, OwnCalls.leaked, List.any_cons, hLeaked, ← h.leaked]
    rfl

def Lost (me : ι) (slot : CallConcurrencySlot) (pool : PoolKey) (trace : CampaignTrace ι) : Prop :=
  ∃ held, Holding me slot pool held trace ∧ held.leaked = true ∧
    .organization slot.organizationId ∈ held.keys

def Accounted (me : ι) (slot : CallConcurrencySlot) (pool : PoolKey) (trace : CampaignTrace ι) :
    Prop :=
  OwnCalls.placedCall (trace.own me) = true ∨
    (Released slot pool (OwnCalls.fromNumber (trace.own me)) (OwnCalls.workflowRun (trace.own me))
      trace.state ↔ OwnCalls.leaked (trace.own me) = false)

theorem Accounted.relies (h : Accounted me slot pool trace)
    (hRelies : (dispatchParty me slot pool).relies trace trace') : Accounted me slot pool trace' := by
  obtain ⟨hOwn, hUntouched⟩ := hRelies
  rw [Accounted, hOwn, hUntouched.released_iff]
  exact h

theorem Holding.accounted (h : Holding me slot pool held trace)
    (hReleased : Released slot pool held.number held.run trace.state)
    (hLeaked : held.leaked = false) : Accounted me slot pool trace := by
  right
  rw [h.number, h.run, h.leaked]
  exact iff_of_true hReleased hLeaked

theorem Holding.accounted_of_leaked (h : Holding me slot pool held trace)
    (hReleased : ¬Released slot pool held.number held.run trace.state)
    (hLeaked : held.leaked = true) : Accounted me slot pool trace := by
  right
  rw [h.number, h.run, h.leaked, hLeaked]
  exact iff_of_false hReleased (by decide)

theorem Lost.accounted (h : Lost me slot pool trace) : Accounted me slot pool trace := by
  obtain ⟨held, hHolds, hLeaked, hKey⟩ := h
  exact hHolds.accounted_of_leaked (hHolds.store.not_released_of_member hKey) hLeaked

theorem ensures_command {post : Except Error command.Reply → CampaignTrace ι → Prop}
    (h : Holding me slot pool held trace) (hReply : ∀ trace, Holding me slot pool held trace →
      post (.ok (trace.state.execute command).1) (trace.after me command .reply))
    (hFail : command.releases = false → ∀ trace, Holding me slot pool held trace →
      ∀ error applied, post (.error error) (trace.after me command (.fail error applied))) :
    (Program.call command : CampaignMethod command.Reply).Ensures (dispatchParty me slot pool)
      post trace := by
  apply Program.ensures_call
  intro before hRelies outcome hAllows
  have hBefore := h.relies hRelies
  cases outcome with
  | reply => exact hReply before hBefore
  | fail error applied =>
    refine hFail ?_ before hBefore error applied
    by_contra hReleases
    cases hAllows ((Bool.not_eq_false _).mp hReleases)

theorem ensures_release (command : CampaignCommand) (held' : Holdings)
    (hReleases : command.releases = true) (h : Holding me slot pool held trace)
    (hStore : ∀ s, HoldsIn slot pool held s → HoldsIn slot pool held' (s.execute command).2)
    (hNumber : held'.number = held.number) (hRun : held'.run = held.run)
    (hLeaked : held'.leaked = held.leaked) :
    (Program.call command : CampaignMethod command.Reply).Ensures (dispatchParty me slot pool)
      (fun result after => (∃ s, HoldsIn slot pool held s ∧ result = .ok (s.execute command).1) ∧
        Holding me slot pool held' after) trace := by
  apply ensures_command h
  · intro before hBefore
    refine ⟨⟨before.state, hBefore.store, rfl⟩, ?_⟩
    refine hBefore.after .reply (hStore before.state hBefore.store) ?_ ?_ ?_
    · rw [hNumber]
      cases command with
      | redis command => cases command <;> first | rfl | cases hReleases
      | _ => cases hReleases
    · rw [hRun]
      cases command with
      | redis command => rfl
      | _ => cases hReleases
    · rw [hLeaked]
      rfl
  · intro hNot
    rw [hReleases] at hNot
    cases hNot

def Escapes (me : ι) (slot : CallConcurrencySlot) (pool : PoolKey) (held : Holdings)
    (error : Error) (after : CampaignTrace ι) : Prop :=
  error = .cancelledError ∧ Lost me slot pool after ∨
    error ≠ .cancelledError ∧ Holding me slot pool held after

def Guarded {α : Type} (me : ι) (slot : CallConcurrencySlot) (pool : PoolKey) (held : Holdings) :
    Except Error α → CampaignTrace ι → Prop
  | .ok _, after => Holding me slot pool held after
  | .error error, after => Escapes me slot pool held error after

def Calm (command : CampaignCommand) : Prop :=
  Harmless command ∧ ∀ error applied, error ≠ Error.cancelledError →
    command.leaks (.fail error applied) = false

theorem Harmless.holding (hHarmless : Harmless command) (h : Holding me slot pool held trace)
    (outcome : Outcome Error) :
    Holding me slot pool { held with leaked := command.leaks outcome || held.leaked }
      (trace.after me command outcome) := by
  have hStore : HoldsIn slot pool held (trace.after me command outcome).state := by
    rw [state_after]
    split
    · exact h.store.untouched (hHarmless.untouched trace.state)
    · exact h.store
  refine h.after outcome ⟨hStore.slots, hStore.member, hStore.fleet, hStore.score, hStore.unmapped,
    hStore.slotMapping, hStore.numberMapping⟩ ?_ ?_ rfl
  · cases command with
    | redis command => cases command <;> first | rfl | exact hHarmless.elim
    | _ => rfl
  · cases command with
    | createWorkflowRun queuedRunId => exact hHarmless.elim
    | _ => rfl

instance : Evaluates Calm where
  breaker _ := ⟨trivial, fun _ _ hError => by simp [CampaignCommand.leaks, hError]⟩
  getCampaignById := ⟨trivial, fun _ _ hError => by simp [CampaignCommand.leaks, hError]⟩
  loadCampaign := ⟨trivial, fun _ _ hError => by simp [CampaignCommand.leaks, hError]⟩
  refreshCampaign := ⟨trivial, fun _ _ hError => by simp [CampaignCommand.leaks, hError]⟩
  reports request hReports := by
    refine ⟨trivial, fun error applied hError => ?_⟩
    cases request <;> first | (cases hReports; done) | simp [CampaignCommand.leaks, hError]
  pauses _ := ⟨trivial, fun _ _ hError => by simp [CampaignCommand.leaks, hError]⟩

theorem Holding.lost (h : Holding me slot pool held trace)
    (hKey : .organization slot.organizationId ∈ held.keys) (hLeaked : held.leaked = true) :
    Lost me slot pool trace := ⟨held, h, hLeaked, hKey⟩

theorem Holding.lost_of_cancelled (h : Holding me slot pool held trace)
    (hKey : .organization slot.organizationId ∈ held'.keys) {error : Error} {applied : Bool}
    (hError : error = .cancelledError)
    (hStore : HoldsIn slot pool held' (trace.after me command (.fail error applied)).state)
    (hNumber : held'.number = held.number) (hRun : held'.run = held.run) :
    Lost me slot pool (trace.after me command (.fail error applied)) := by
  subst hError
  refine ⟨{ held' with leaked := true }, h.after (.fail .cancelledError applied)
    ⟨hStore.slots, hStore.member, hStore.fleet, hStore.score, hStore.unmapped, hStore.slotMapping,
      hStore.numberMapping⟩ ?_ ?_ rfl, rfl, hKey⟩
  · rw [hNumber]
    cases command with
    | redis command => cases command <;> rfl
    | _ => rfl
  · rw [hRun]
    cases command <;> rfl

omit [DecidableEq ι] in
theorem raised_perform (command : CampaignCommand) (outcome : Outcome Error)
    (trace : CampaignTrace ι) (error : Error) :
    ((campaignServices ι).recorded.perform me command outcome trace).1 = .error error ↔
      outcome.raised = some error := by
  cases outcome <;> simp [System.recorded, campaignServices, System.ofServer, Outcome.raised]

theorem calm_ensures {α : Type} {program : CampaignMethod α}
    (hPasses : Passes (· ≠ .cancelledError) program) (hIssues : program.Issues Calm)
    (h : Holding me slot pool held trace) (hKey : .organization slot.organizationId ∈ held.keys) :
    program.Ensures (dispatchParty me slot pool) (Guarded me slot pool held) trace := by
  have hEnsures : program.Ensures (dispatchParty me slot pool) (fun result after =>
      result = .error .cancelledError ∧ Lost me slot pool after ∨
        result ≠ .error .cancelledError ∧ Holding me slot pool held after) trace := by
    refine Program.Transparent.ensures hPasses hIssues
      (fun _ _ hHolds hRelies => hHolds.relies hRelies) ?_ ?_ ?_ h
    · exact raised_perform
    · intro command outcome before hCalm hHolds hOther
      have hAfter := hCalm.1.holding hHolds outcome
      have hNoLeak : command.leaks outcome = false := by
        cases outcome with
        | reply => rfl
        | fail error applied => exact hCalm.2 error applied fun hEq => hOther (congrArg some hEq)
      rw [hNoLeak] at hAfter
      exact hAfter
    · intro command outcome before hCalm hHolds hCancelled
      refine (hCalm.1.holding hHolds outcome).lost hKey ?_
      cases outcome with
      | reply => cases hCancelled
      | fail error applied =>
        obtain rfl : error = .cancelledError := Option.some.inj hCancelled
        rfl
  refine hEnsures.weaken fun result after hPost => ?_
  cases result with
  | ok value =>
    obtain ⟨hResult, -⟩ | ⟨-, hHolds⟩ := hPost
    · cases hResult
    · exact hHolds
  | error error =>
    obtain ⟨hResult, hLost⟩ | ⟨hOther, hHolds⟩ := hPost
    · exact .inl ⟨Except.error.inj hResult, hLost⟩
    · exact .inr ⟨fun hEq => hOther (congrArg Except.error hEq), hHolds⟩

theorem ensures_release_orElse (command : Command) (held' : Holdings)
    (hReleases : (CampaignCommand.redis command).releases = true) (h : Holding me slot pool held trace)
    (hStore : ∀ s, HoldsIn slot pool held s → HoldsIn slot pool held' (s.execute (.redis command)).2)
    (hNumber : held'.number = held.number) (hRun : held'.run = held.run)
    (hLeaked : held'.leaked = held.leaked) (fallback : command.Reply) :
    (redis (orElse (CallConcurrency.call command) fallback)).Ensures (dispatchParty me slot pool)
      (fun result after => (∃ s, HoldsIn slot pool held s ∧
        result = .ok (s.execute (.redis command)).1) ∧ Holding me slot pool held' after) trace := by
  rw [redis_orElse, CallConcurrency.call, redis_call]
  refine (ensures_release (.redis command) held' hReleases h hStore hNumber hRun hLeaked).tryCatch
    (fun _ _ hPost => hPost) ?_
  rintro error after ⟨⟨s, -, hResult⟩, -⟩
  cases hResult

def slotKeys (slot : CallConcurrencySlot) : List ConcurrentKey :=
  .organization slot.organizationId :: (scopeConcurrentKey slot.scopeKey).toList

def Holdings.freed (held : Holdings) : Holdings := { held with keys := [], inFleet := false }

theorem releaseConcurrentSlot_ensures (h : Holding me slot pool held trace)
    (hKeys : held.keys ⊆ slotKeys slot) {scopeKey : Option String}
    (hScope : scopeConcurrentKey scopeKey = scopeConcurrentKey slot.scopeKey) :
    (redis (releaseConcurrentSlot slot.organizationId slot.slotId scopeKey)).Ensures
      (dispatchParty me slot pool) (fun result after =>
        (∃ removed, result = .ok (some removed)) ∧ Holding me slot pool held.freed after) trace := by
  have hOrg : ∀ key ∈ held.keys.filter (· ≠ .organization slot.organizationId),
      scopeConcurrentKey slot.scopeKey = some key := by
    intro key hKey
    obtain ⟨hMem, hNe⟩ := List.mem_filter.mp hKey
    obtain hEq | hScopeKey := List.mem_cons.mp (hKeys hMem)
    · exact absurd hEq (of_decide_eq_true hNe)
    · exact Option.mem_toList.mp hScopeKey
  rw [releaseConcurrentSlot, redis_orElse]
  refine Program.Ensures.tryCatch (?_ : Program.Ensures _ (fun result after =>
    (∃ removed, result = .ok (some removed)) ∧ Holding me slot pool held.freed after) _ _)
    (fun _ _ hPost => hPost) ?_
  · rw [redis_bind, CallConcurrency.call, redis_call]
    refine (ensures_release _ _ rfl h (fun s hStore => hStore.zremConcurrent _) rfl rfl rfl).bind
      ?_ ?_
    · rintro removed after ⟨-, hHolds⟩
      rw [redis_bind, CallConcurrency.call, redis_call]
      refine (ensures_release _ _ rfl hHolds (fun s hStore => hStore.zremFleet) rfl rfl rfl).bind ?_ ?_
      · rintro _ after ⟨-, hHolds⟩
        rw [hScope]
        cases hKey : scopeConcurrentKey slot.scopeKey with
        | none =>
          refine ⟨⟨removed, rfl⟩, ?_⟩
          have hEmpty : held.keys.filter (· ≠ .organization slot.organizationId) = [] := by
            apply List.eq_nil_iff_forall_not_mem.mpr
            intro key hMem
            have hSome := hOrg key hMem
            rw [hKey] at hSome
            cases hSome
          rw [hEmpty] at hHolds
          exact hHolds
        | some scope =>
          rw [redis_bind, CallConcurrency.call, redis_call]
          refine (ensures_release _ _ rfl hHolds (fun s hStore => hStore.zremConcurrent scope)
            rfl rfl rfl).bind ?_ ?_
          · rintro _ after ⟨-, hHolds⟩
            refine ⟨⟨removed, rfl⟩, ?_⟩
            have hEmpty : (held.keys.filter (· ≠ .organization slot.organizationId)).filter
                (· ≠ scope) = [] := by
              apply List.eq_nil_iff_forall_not_mem.mpr
              intro key hMem
              obtain ⟨hMem, hNe⟩ := List.mem_filter.mp hMem
              have hSame := hOrg key hMem
              rw [hKey] at hSame
              exact of_decide_eq_true hNe (Option.some.inj hSame).symm
            rw [hEmpty] at hHolds
            exact hHolds
          · rintro error after ⟨⟨s, -, hResult⟩, -⟩
            cases hResult
      · rintro error after ⟨⟨s, -, hResult⟩, -⟩
        cases hResult
    · rintro error after ⟨⟨s, -, hResult⟩, -⟩
      cases hResult
  · rintro error after ⟨⟨removed, hResult⟩, -⟩
    cases hResult

theorem releaseSlot_ensures (h : Holding me slot pool held trace) (hKeys : held.keys ⊆ slotKeys slot) :
    (redis (releaseSlot slot)).Ensures (dispatchParty me slot pool) (fun result after =>
      (∃ released, result = .ok released) ∧ Holding me slot pool held.freed after) trace := by
  rw [releaseSlot, redis_bind]
  refine (releaseConcurrentSlot_ensures h hKeys rfl).bind ?_ ?_
  · rintro released after ⟨-, hHolds⟩
    exact ⟨⟨_, rfl⟩, hHolds⟩
  · rintro error after ⟨⟨removed, hResult⟩, -⟩
    cases hResult

theorem releaseFromNumber_ensures (h : Holding me slot pool held trace) {fromNumber : String}
    (hNumber : held.number = some fromNumber) (hNonempty : fromNumber ≠ "") :
    (redis (CallConcurrency.releaseFromNumber pool fromNumber)).Ensures (dispatchParty me slot pool)
      (fun result after => result = .ok true ∧
        Holding me slot pool { held with returned := true } after) trace := by
  rw [CallConcurrency.releaseFromNumber, if_neg hNonempty]
  refine (ensures_release_orElse (.releaseNumber pool fromNumber) { held with returned := true } rfl h
    (fun s hStore => (hStore.releaseNumber hNumber).2) rfl rfl rfl false).weaken ?_
  rintro result after ⟨⟨s, hStore, hResult⟩, hHolds⟩
  refine ⟨?_, hHolds⟩
  rw [hResult]
  exact congrArg Except.ok (hStore.releaseNumber hNumber).1

theorem releaseWorkflowRunSlot_ensures (h : Holding me slot pool held trace)
    (hKeys : held.keys ⊆ slotKeys slot) {id : Nat} (hRun : held.run = some id) (hBound : held.bound = true) :
    (redis (releaseWorkflowRunSlot id)).Ensures (dispatchParty me slot pool) (fun result after =>
      (∃ released, result = .ok released) ∧
        Holding me slot pool { held.freed with bound := false } after) trace := by
  have hScope : scopeConcurrentKey (slotMappingOf slot).scopeKey =
      scopeConcurrentKey slot.scopeKey := by
    rw [slotMappingOf]
    dsimp only
    split
    · rename_i hEmpty
      rw [hEmpty]
      rfl
    · rfl
  have hRead : (redis (getWorkflowSlotMapping id)).Ensures (dispatchParty me slot pool)
      (fun result after => result = .ok (some (slotMappingOf slot)) ∧
        Holding me slot pool held after) trace := by
    refine (ensures_release_orElse (.getSlotMapping id) held rfl h (fun s hStore => hStore) rfl rfl
      rfl none).weaken ?_
    rintro result after ⟨⟨s, hStore, hResult⟩, hHolds⟩
    refine ⟨?_, hHolds⟩
    have hMapping := hStore.slotMapping id hRun
    rw [hBound] at hMapping
    rw [hResult]
    exact congrArg Except.ok hMapping
  rw [releaseWorkflowRunSlot, redis_bind]
  refine hRead.bind ?_ ?_
  · rintro mapping after ⟨hResult, hHolds⟩
    obtain rfl : mapping = some (slotMappingOf slot) := Except.ok.inj hResult
    dsimp only
    rw [redis_bind]
    refine (releaseConcurrentSlot_ensures hHolds hKeys hScope).bind ?_ ?_
    · rintro released after ⟨⟨removed, hResult⟩, hHolds⟩
      obtain rfl : released = some removed := Except.ok.inj hResult
      dsimp only
      rw [redis_bind]
      refine (ensures_release_orElse (.deleteSlotMapping id) { held.freed with bound := false } rfl
        hHolds (fun s hStore => hStore.deleteSlotMapping hRun) rfl rfl rfl false).bind ?_ ?_
      · rintro deleted after ⟨-, hHolds⟩
        exact ⟨⟨removed, rfl⟩, hHolds⟩
      · rintro error after ⟨⟨s, -, hResult⟩, -⟩
        cases hResult
    · rintro error after ⟨⟨removed, hResult⟩, -⟩
      cases hResult
  · rintro error after ⟨hResult, -⟩
    cases hResult

theorem releaseCallSlot_ensures (h : Holding me slot pool held trace)
    (hKeys : held.keys ⊆ slotKeys slot) {id : Nat} (hRun : held.run = some id)
    (hBound : held.bound = true) {fromNumber : String} (hNumber : held.number = some fromNumber)
    (hNonempty : fromNumber ≠ "") :
    (redis (releaseCallSlot id)).Ensures (dispatchParty me slot pool) (fun result after =>
      (∃ released, result = .ok released) ∧ Holding me slot pool { held.freed with
        bound := false
        mapped := false
        returned := held.mapped || held.returned } after) trace := by
  rw [releaseCallSlot, redis_bind]
  refine (releaseWorkflowRunSlot_ensures h hKeys hRun hBound).bind ?_ ?_
  · rintro slotReleased after ⟨-, hHolds⟩
    rw [redis_bind]
    refine (ensures_release_orElse (.getNumberMapping id) { held.freed with bound := false } rfl
      hHolds (fun s hStore => hStore) rfl rfl rfl none).bind ?_ ?_
    · rintro mapping after ⟨⟨s, hStore, hResult⟩, hHolds⟩
      have hMapping : mapping = if held.mapped then some ⟨pool, fromNumber⟩ else none := by
        have hValue := hStore.numberMapping id hRun
        have hSame : held.freed.number = some fromNumber := hNumber
        simp only [hSame, Option.map_some] at hValue
        exact (Except.ok.inj hResult).trans hValue
      cases hMapped : held.mapped with
      | false =>
        rw [hMapped] at hMapping
        obtain rfl : mapping = none := hMapping
        refine ⟨⟨slotReleased, rfl⟩, ?_⟩
        have hSame : ({ held.freed with bound := false } : Holdings) = { held.freed with
            bound := false
            mapped := false
            returned := false || held.returned } := by
          simp [Holdings.freed, hMapped]
        rw [hSame] at hHolds
        exact hHolds
      | true =>
        rw [hMapped] at hMapping
        obtain rfl : mapping = some ⟨pool, fromNumber⟩ := hMapping
        dsimp only
        rw [redis_bind]
        refine (releaseFromNumber_ensures hHolds hNumber hNonempty).bind ?_ ?_
        · rintro success after ⟨hResult, hHolds⟩
          obtain rfl : success = true := Except.ok.inj hResult
          rw [if_pos rfl, redis_bind]
          refine (ensures_release_orElse (.deleteNumberMapping id) _ rfl hHolds
            (fun s hStore => hStore.deleteNumberMapping hRun) rfl rfl rfl false).bind ?_ ?_
          · rintro deleted after ⟨-, hHolds⟩
            exact ⟨⟨slotReleased, rfl⟩, hHolds⟩
          · rintro error after ⟨⟨s, -, hResult⟩, -⟩
            cases hResult
        · rintro error after ⟨hResult, -⟩
          cases hResult
    · rintro error after ⟨⟨s, -, hResult⟩, -⟩
      cases hResult
  · rintro error after ⟨⟨released, hResult⟩, -⟩
    cases hResult

def Hands (me : ι) (slot : CallConcurrencySlot) (pool : PoolKey) (held : Holdings) :
    Except Error (Option String) → CampaignTrace ι → Prop
  | .ok (some fromNumber), after => fromNumber ≠ "" ∧
      Holding me slot pool { held with number := some fromNumber, returned := false } after
  | .ok none, after => Holding me slot pool held after
  | .error error, after => Escapes me slot pool held error after

theorem acquireNumber_ensures (h : Holding me slot pool held trace)
    (hKey : .organization slot.organizationId ∈ held.keys) (hNumber : held.number = none)
    (hMapped : held.mapped = false) :
    (redis (CallConcurrency.acquireFromNumber pool)).Ensures (dispatchParty me slot pool)
      (fun result after => Hands me slot pool held
        (result.map fun fromNumber => fromNumber.filter (· ≠ "")) after) trace := by
  rw [CallConcurrency.acquireFromNumber, redis_orElse, CallConcurrency.call, redis_call]
  have hCall : (Program.call (CampaignCommand.redis (.acquireNumber pool)) :
      CampaignMethod (Option String)).Ensures (dispatchParty me slot pool)
        (fun result after => Hands me slot pool held
          (result.map fun fromNumber => fromNumber.filter (· ≠ "")) after) trace := by
    apply ensures_command h
    · intro before hBefore
      show Hands me slot pool held (.ok ((before.state.keyspace.acquireNumber pool).1.filter
        (· ≠ ""))) _
      cases hReply : (before.state.keyspace.acquireNumber pool).1.filter (· ≠ "") with
      | none =>
        refine hBefore.after .reply (hBefore.store.acquireNone hNumber) ?_ rfl rfl
        rw [OwnCalls.handedOut, hReply, hNumber]
        rfl
      | some fromNumber =>
        obtain ⟨hGiven, hNonempty⟩ := Option.filter_eq_some_iff.mp hReply
        refine ⟨of_decide_eq_true hNonempty, ?_⟩
        refine hBefore.after .reply (hBefore.store.acquireSome hMapped hGiven) ?_ rfl rfl
        rw [OwnCalls.handedOut, hReply]
        rfl
    · intro _ before hBefore error applied
      have hStore : HoldsIn slot pool held (before.after me (.redis (.acquireNumber pool))
          (.fail error applied)).state := by
        rw [state_after]
        split
        · exact hBefore.store.acquireNone hNumber
        · exact hBefore.store
      by_cases hError : error = .cancelledError
      · refine .inl ⟨hError, ?_⟩
        exact hBefore.lost_of_cancelled hKey hError hStore rfl rfl
      · refine .inr ⟨hError, hBefore.after (.fail error applied) hStore rfl rfl ?_⟩
        simp [CampaignCommand.leaks, hError]
  refine hCall.tryCatch (fun _ _ hPost => hPost) ?_
  intro error after hEscapes
  by_cases hError : error = .cancelledError
  · subst hError
    exact hEscapes
  · rw [if_pos (error.isException_iff.mpr hError)]
    obtain ⟨hEq, -⟩ | ⟨-, hHolds⟩ := hEscapes
    · exact absurd hEq hError
    · exact hHolds

theorem acquireFromNumber_ensures (retries : Nat) (h : Holding me slot pool held trace)
    (hKey : .organization slot.organizationId ∈ held.keys) (hNumber : held.number = none)
    (hMapped : held.mapped = false) :
    (redis (acquireFromNumber pool retries)).Ensures (dispatchParty me slot pool)
      (Hands me slot pool held) trace := by
  induction retries generalizing trace with
  | zero =>
    rw [acquireFromNumber, redis_bind]
    refine (acquireNumber_ensures h hKey hNumber hMapped).bind ?_ ?_
    · intro fromNumber after hHands
      exact hHands
    · intro error after hEscapes
      exact hEscapes
  | succ retries ih =>
    rw [acquireFromNumber, redis_bind]
    refine (acquireNumber_ensures h hKey hNumber hMapped).bind ?_ ?_
    · intro fromNumber after hHands
      change Hands me slot pool held (.ok (fromNumber.filter (· ≠ ""))) after at hHands
      cases hFilter : fromNumber.filter (· ≠ "") with
      | some fromNumber =>
        rw [hFilter] at hHands
        exact hHands
      | none =>
        rw [hFilter] at hHands
        dsimp only
        rw [redis_bind, CallConcurrency.call, redis_call]
        have hCalm : Calm (.redis .sleep) :=
          ⟨trivial, fun _ _ hError => by simp [CampaignCommand.leaks, hError]⟩
        refine (calm_ensures (Program.transparent_call _) (Program.issues_call hCalm) hHands
          hKey).bind ?_ ?_
        · intro _ after hHolds
          exact ih hHolds
        · intro error after hEscapes
          exact hEscapes
    · intro error after hEscapes
      exact hEscapes

end

end FastVoice.Campaign
