import FastVoice.Campaign.Cancellation
import FastVoice.Campaign.Operations

/-! # The stages of a batch

What a batch has still to settle at each of its awaits. Only a cancellation leaves the loop of
`process_batch` with a run whose workflow run may exist; every other exception either fails the run
or comes before the workflow run is created.
-/
namespace FastVoice.Campaign
open Async CallConcurrency

inductive RunPhase where
  | unlinked
  | unsure
  | linked

inductive BatchStage where
  | before
  | claimed (ids : List Nat)
  | running (done pending : List Nat) (phase : RunPhase)
  | cancelled (done pending : List Nat)
  | exited
  | void

def CampaignCommand.writesRuns : CampaignCommand → Bool
  | .claimQueuedRuns _ _ => true
  | .updateQueuedRun _ _ => true
  | .returnProcessingQueuedRuns _ => true
  | .createWorkflowRun _ => true
  | _ => false

def CampaignCommand.entersLoop : CampaignCommand → Bool
  | .redis (.acquireToken _ _) => true
  | _ => false

def errorOf {α : Type} : Except Error α → Option Error
  | .ok _ => none
  | .error error => some error

namespace BatchStage

def enter : BatchStage → BatchStage
  | .claimed ids => .running [] ids .unlinked
  | stage => stage

def proceed : BatchStage → Option Error → BatchStage
  | .claimed _, some .cancelledError => .exited
  | .running done pending _, some .cancelledError => .cancelled done pending
  | .running done pending phase, some error =>
    if failsRun error then .running done pending phase else .void
  | stage, _ => stage

def claim : BatchStage → Except Error (List QueuedRun) → BatchStage
  | .before, .ok runs =>
    if (runs.map QueuedRun.id).Nodup then .claimed (runs.map QueuedRun.id) else .void
  | .before, .error _ => .exited
  | stage, _ => stage

def create : BatchStage → Except Error Nat → BatchStage
  | .running done pending _, .ok _ => .running done pending .linked
  | .running done pending _, .error error => (BatchStage.running done pending .unsure).proceed error
  | stage, _ => stage

def mark (id : Nat) (state : QueuedRunState) : BatchStage → Except Error Bool → BatchStage
  | .running done pending phase, .ok true =>
    if pending.head? = some id then .running (id :: done) pending.tail .unlinked
    else .running done pending phase
  | .running done pending _, .error .cancelledError =>
    if state = .failed then .exited else .cancelled done pending
  | .running _ _ _, _ => .void
  | stage, _ => stage

def giveUp : BatchStage → BatchStage
  | .running _ _ _ => .exited
  | .cancelled _ _ => .exited
  | stage => stage

def next (stage : BatchStage) : (command : CampaignCommand) → Except Error command.Reply → BatchStage
  | .claimQueuedRuns _ _, result => stage.claim result
  | .updateQueuedRun id state, result => stage.mark id state result
  | .returnProcessingQueuedRuns _, _ => stage.giveUp
  | .createWorkflowRun _, result => stage.create result
  | command, result =>
    if command.entersLoop then stage.enter.proceed (errorOf result)
    else stage.proceed (errorOf result)

end BatchStage

def Operation.admits (op : Operation) (stage : BatchStage) : CampaignCommand → Prop
  | .claimQueuedRuns _ _ => op.isBatch = true ∧ stage = .before
  | .updateQueuedRun id .processed => ∃ done pending, stage = .running done (id :: pending) .linked
  | .updateQueuedRun id .failed => ∃ done pending phase, stage = .running done pending phase ∧
      (pending.head? = some id ∨ done.head? = some id ∧ phase = .unlinked ∧ id ∉ pending)
  | .updateQueuedRun _ _ => False
  | .returnProcessingQueuedRuns ids => ∃ done pending,
      (stage = .running done pending .unlinked ∨ stage = .cancelled done pending) ∧
      pending ⊆ ids ∧ ids ⊆ done ++ pending
  | .createWorkflowRun id => ∃ done pending, stage = .running done (id :: pending) .unlinked
  | command => op.isProcessBatch = true →
      stage ≠ .exited ∧ (command.entersLoop = true → stage ≠ .before)

def batchProtocol (op : Operation) : Protocol CampaignCommand.Reply Error BatchStage where
  permits stage command := stage = .void ∨ op.admits stage command
  next := BatchStage.next

section Obeys

variable {op : Operation} {α : Type} {done pending : List Nat} {phase : RunPhase}

theorem next_of_keeps {command : CampaignCommand} (h : command.writesRuns = false)
    (stage : BatchStage) (result : Except Error command.Reply) : stage.next command result =
      if command.entersLoop then stage.enter.proceed (errorOf result)
      else stage.proceed (errorOf result) := by
  cases command <;> first
    | rfl
    | cases h

theorem admits_of_keeps {command : CampaignCommand} (h : command.writesRuns = false)
    (stage : BatchStage) : op.admits stage command ↔ (op.isProcessBatch = true →
      stage ≠ .exited ∧ (command.entersLoop = true → stage ≠ .before)) := by
  cases command <;> first
    | exact Iff.rfl
    | cases h

theorem next_void (command : CampaignCommand) (result : Except Error command.Reply) :
    BatchStage.void.next command result = .void := by
  cases h : command.writesRuns with
  | false => rw [next_of_keeps h]; split <;> rfl
  | true =>
    cases command <;> first
      | rfl
      | cases h

theorem obeys_void (program : CampaignMethod α) :
    program.Obeys (batchProtocol op) (fun _ stage => stage = .void) .void := by
  induction program with
  | ret value => rfl
  | raise error => rfl
  | await command resume ih =>
    refine ⟨.inl rfl, fun result => ?_⟩
    show (resume result).Obeys _ _ (BatchStage.void.next command result)
    rw [next_void]
    exact ih result

theorem next_running {command : CampaignCommand} (h : command.writesRuns = false)
    (result : Except Error command.Reply) : (BatchStage.running done pending phase).next command result =
      (BatchStage.running done pending phase).proceed (errorOf result) := by
  rw [next_of_keeps h]
  split <;> rfl

theorem proceed_running {error : Error} (h : error ≠ .cancelledError) :
    (BatchStage.running done pending phase).proceed (some error) =
      if failsRun error then .running done pending phase else .void := by
  cases error <;> first
    | rfl
    | exact absurd rfl h

/-! ### The step of one run -/

theorem passes_obeys {R : Error → Prop} {program : CampaignMethod α}
    (hR : ∀ error, failsRun error = true → R error) (hNot : ¬R .cancelledError)
    (h : Passes R program) (hKeeps : program.Issues fun command => command.writesRuns = false) :
    program.Obeys (batchProtocol op) (fun result stage =>
      result = .error .cancelledError ∧ stage = .cancelled done pending ∨
      (∀ error, result = .error error → R error) ∧ stage = .running done pending phase ∨
      stage = .void) (.running done pending phase) := by
  refine Program.Transparent.obeys h hKeeps ?_ ?_ ?_ ?_ fun command => ⟨.inl rfl, next_void command⟩
  · intro command hCommand
    refine .inr ((admits_of_keeps hCommand _).mpr fun _ => ⟨?_, fun _ => ?_⟩) <;> rintro ⟨⟩
  · intro command result hCommand hResult
    show BatchStage.next _ command result = _ ∨ BatchStage.next _ command result = _
    rw [next_running hCommand]
    cases result with
    | ok value => exact .inl rfl
    | error error =>
      have hError : error ≠ .cancelledError := fun hEq => hNot (hEq ▸ hResult error rfl)
      rw [errorOf, proceed_running hError]
      split
      · exact .inl rfl
      · exact .inr rfl
  · intro command hCommand
    exact next_running hCommand _
  · intro command other hCommand hOther hOutside
    refine (next_running hCommand _).trans ?_
    rw [errorOf, proceed_running hOther, if_neg fun hFails => hOutside (hR other hFails)]

def Raised (done pending : List Nat) (error : Error) (stage : BatchStage) : Prop :=
  error = .cancelledError ∧ stage = .cancelled done pending ∨
  error ≠ .cancelledError ∧ stage = .running done pending .unlinked ∨
  failsRun error = true ∧ (∃ phase, stage = .running done pending phase) ∨ stage = .void

def Ends (done pending : List Nat) (finish : BatchStage) : Except Error α → BatchStage → Prop
  | .ok _, stage => stage = finish ∨ stage = .void
  | .error error, stage => Raised done pending error stage

theorem ends_void {finish : BatchStage} {result : Except Error α} {stage : BatchStage}
    (h : stage = .void) : Ends done pending finish result stage := by
  cases result with
  | ok value => exact .inr h
  | error error => exact .inr (.inr (.inr h))

theorem ends_bind {β : Type} {program : CampaignMethod α} {next : α → CampaignMethod β}
    {stage mid finish : BatchStage} (h : program.Obeys (batchProtocol op) (Ends done pending mid) stage)
    (hNext : ∀ value, (next value).Obeys (batchProtocol op) (Ends done pending finish) mid) :
    (program >>= next).Obeys (batchProtocol op) (Ends done pending finish) stage := by
  refine h.bind (fun value stage hMid => ?_) fun error stage hRaised => hRaised
  obtain rfl | rfl := hMid
  · exact hNext value
  · exact (obeys_void _).weaken fun _ _ => ends_void

theorem fails_ends {program : CampaignMethod α} (h : Passes (failsRun · = true) program)
    (hKeeps : program.Issues fun command => command.writesRuns = false) :
    program.Obeys (batchProtocol op) (Ends done pending (.running done pending phase))
      (.running done pending phase) := by
  refine (passes_obeys (fun _ => id) (by rintro ⟨⟩) h hKeeps).weaken fun result stage hPost => ?_
  obtain ⟨rfl, rfl⟩ | ⟨hFails, rfl⟩ | rfl := hPost
  · exact .inl ⟨rfl, rfl⟩
  · cases result with
    | ok value => exact .inl rfl
    | error error => exact .inr (.inr (.inl ⟨hFails error rfl, phase, rfl⟩))
  · exact ends_void rfl

theorem unlinked_ends {program : CampaignMethod α} (h : Passes (· ≠ .cancelledError) program)
    (hKeeps : program.Issues fun command => command.writesRuns = false) :
    program.Obeys (batchProtocol op) (Ends done pending (.running done pending .unlinked))
      (.running done pending .unlinked) := by
  refine (passes_obeys ?_ (fun hNot => hNot rfl) h hKeeps).weaken fun result stage hPost => ?_
  · rintro _ hFails rfl
    cases hFails
  obtain ⟨rfl, rfl⟩ | ⟨hOther, rfl⟩ | rfl := hPost
  · exact .inl ⟨rfl, rfl⟩
  · cases result with
    | ok value => exact .inl rfl
    | error error => exact .inr (.inl ⟨hOther error rfl, rfl⟩)
  · exact ends_void rfl

theorem keeps_of_allowed {other : Operation} {program : CampaignMethod α}
    (hOther : other.isBatch = false) (h : program.Issues other.Allowed) :
    program.Issues fun command => command.writesRuns = false := by
  refine h.mono fun command hAllowed => ?_
  cases command <;> first
    | rfl
    | exact hAllowed.1.symm.trans hOther
    | exact (Eq.symm hAllowed).trans hOther

instance : Pauses fun command => command.writesRuns = false where
  redis _ := rfl
  breaker _ := rfl
  service _ := rfl
  now := rfl
  getCampaignById := rfl
  loadCampaign := rfl
  refreshCampaign := rfl
  pauses _ := rfl

theorem releaseAndRaise_ends {release : CallConcurrency.Method Bool} {error : Error}
    {stage finish : BatchStage} (hRelease : Passes (failsRun · = true) release)
    (campaign : CampaignRow) (fromNumber : Option String) (h : Raised done pending error stage) :
    (releaseAndRaise release campaign fromNumber error : CampaignMethod α).Obeys (batchProtocol op)
      (Ends done pending finish) stage := by
  have hRaises : ∀ {phase}, Raised done pending error (.running done pending phase) →
      (releaseAndRaise release campaign fromNumber error : CampaignMethod α).Obeys (batchProtocol op)
        (Ends done pending finish) (.running done pending phase) := by
    intro phase hRaised
    unfold releaseAndRaise
    split
    · refine ends_bind (fails_ends (redis_passes hRelease) (redis_issues _))
        fun _ => ?_
      split
      · exact hRaised
      · exact ends_bind (fails_ends (redis_passes (releaseFromNumber_passes _ _))
          (redis_issues _)) fun _ => hRaised
    · exact hRaised
  obtain ⟨rfl, rfl⟩ | ⟨hError, rfl⟩ | ⟨hFails, phase, rfl⟩ | rfl := h
  · exact .inl ⟨rfl, rfl⟩
  · exact hRaises (.inr (.inl ⟨hError, rfl⟩))
  · exact hRaises (.inr (.inr (.inl ⟨hFails, phase, rfl⟩)))
  · exact (obeys_void _).weaken fun _ _ => ends_void

theorem createWorkflowRun_ends (id : Nat) :
    (Program.call (CampaignCommand.createWorkflowRun id) : CampaignMethod Nat).Obeys
      (batchProtocol op) (Ends done (id :: pending) (.running done (id :: pending) .linked))
      (.running done (id :: pending) .unlinked) := by
  refine Program.obeys_call (.inr ⟨done, pending, rfl⟩) fun result => ?_
  show Ends _ _ _ result ((BatchStage.running done (id :: pending) .unlinked).create result)
  cases result with
  | ok value => exact .inl rfl
  | error error =>
    by_cases hCancelled : error = .cancelledError
    · subst hCancelled
      exact .inl ⟨rfl, rfl⟩
    · rw [BatchStage.create]
      show Raised _ _ error (BatchStage.proceed _ (some error))
      rw [proceed_running hCancelled]
      split
      · rename_i hFails
        exact .inr (.inr (.inl ⟨hFails, .unsure, rfl⟩))
      · exact .inr (.inr (.inr rfl))

theorem prepareDispatch_ends (run : QueuedRun) (campaign : CampaignRow) (slot : CallConcurrencySlot)
    (retries : Nat) : (prepareDispatch run campaign slot retries).Obeys (batchProtocol op)
      (Ends done (run.id :: pending) (.running done (run.id :: pending) .linked))
      (.running done (run.id :: pending) .unlinked) := by
  refine ends_bind (unlinked_ends (acquireForDispatch_passes run campaign slot retries)
    ((acquireForDispatch_issues run campaign retries).tryCatch
      (releaseAndRaise_issues _ _ _))) fun acquired => ?_
  obtain ⟨phoneNumber, provider, fromNumber⟩ := acquired
  have hCreate : (createAndBind run slot).Obeys (batchProtocol op)
      (Ends done (run.id :: pending) (.running done (run.id :: pending) .linked))
      (.running done (run.id :: pending) .unlinked) := by
    refine ends_bind (fails_ends (service_passes _) (service_issues _)) fun _ => ?_
    refine ends_bind (createWorkflowRun_ends run.id) fun workflowRunId => ?_
    exact ends_bind (fails_ends (redis_passes (bindWorkflowRun_passes (fun _ => id) _ _))
      (redis_issues _)) fun _ => .inl rfl
  refine ends_bind (hCreate.tryCatch (fun _ _ hOk => hOk) fun error stage hRaised =>
    releaseAndRaise_ends (releaseSlot_passes slot) _ _ hRaised) fun workflowRunId => ?_
  have hStore : (redis (storeWorkflowFromNumberMapping workflowRunId campaign.poolKey
      fromNumber)).Obeys (batchProtocol op)
      (Ends done (run.id :: pending) (.running done (run.id :: pending) .linked))
      (.running done (run.id :: pending) .linked) :=
    fails_ends (redis_passes (storeWorkflowFromNumberMapping_passes _ _ _))
      (redis_issues _)
  exact ends_bind (hStore.tryCatch (fun _ _ hOk => hOk) fun error stage hRaised =>
    releaseAndRaise_ends (releaseWorkflowRunSlot_passes _) _ _ hRaised) fun _ => .inl rfl

theorem dispatchCall_ends (run : QueuedRun) (campaign : CampaignRow) (slot : CallConcurrencySlot)
    (retries : Nat) : (dispatchCall run campaign slot retries).Obeys (batchProtocol op)
      (Ends done (run.id :: pending) (.running done (run.id :: pending) .linked))
      (.running done (run.id :: pending) .unlinked) := by
  refine ends_bind (prepareDispatch_ends run campaign slot retries) fun prepared => ?_
  obtain ⟨phoneNumber, provider, fromNumber, workflowRunId⟩ := prepared
  refine ends_bind (fails_ends (addRetryTag_passes _ _) (addRetryTag_issues _ _))
    fun _ => ?_
  refine ends_bind (fails_ends (authorizeStart_passes (fun _ => id) _)
    (authorizeStart_issues _)) fun _ => ?_
  exact ends_bind (fails_ends (initiateCall_passes (fun _ => id) _ _ _ _)
    (initiateCall_issues _ _ _ _)) fun _ => .inl rfl

theorem mark_error {id : Nat} {state : QueuedRunState} {error : Error} (h : error ≠ .cancelledError) :
    (BatchStage.running done pending phase).mark id state (.error error) = .void := by
  cases error <;> first
    | rfl
    | exact absurd rfl h

theorem markProcessed_ends (id : Nat) : (updateQueuedRun id .processed).Obeys (batchProtocol op)
      (Ends done (id :: pending) (.running (id :: done) pending .unlinked))
      (.running done (id :: pending) .linked) := by
  simp only [updateQueuedRun, Program.call_bind]
  refine ⟨.inr ⟨done, pending, rfl⟩, fun result => ?_⟩
  cases result with
  | ok found =>
    cases found with
    | false => exact .inr (.inr (.inr rfl))
    | true => exact .inl (if_pos rfl)
  | error error =>
    by_cases hCancelled : error = .cancelledError
    · subst hCancelled
      exact .inl ⟨rfl, rfl⟩
    · exact .inr (.inr (.inr (mark_error hCancelled)))

theorem processRun_ends (campaign : CampaignRow) (polls : Polls) (run : QueuedRun) :
    (processRun campaign polls run).Obeys (batchProtocol op)
      (Ends done (run.id :: pending) (.running (run.id :: done) pending .unlinked))
      (.running done (run.id :: pending) .unlinked) := by
  refine ends_bind (fails_ends (applyRateLimit_passes (fun _ => id) _ _ _)
    (applyRateLimit_issues _ _ _)) fun _ => ?_
  refine ends_bind (unlinked_ends (acquireConcurrentSlot_passes _ _)
    (acquireConcurrentSlot_issues _ _)) fun slot => ?_
  refine ends_bind (dispatchCall_ends run campaign slot _) fun _ => ?_
  exact ends_bind (markProcessed_ends run.id) fun _ => .inl rfl

/-! ### The handlers of the loop -/

def BatchStage.Final : BatchStage → Prop
  | .claimed ids => ids = []
  | .running _ pending _ => pending = []
  | .cancelled _ pending => pending = []
  | _ => True

def Leaves (finish : BatchStage) : Except Error α → BatchStage → Prop
  | .ok _, stage => stage = finish ∨ stage = .void
  | .error _, stage => stage.Final

theorem leaves_void {finish : BatchStage} (program : CampaignMethod α) :
    program.Obeys (batchProtocol op) (Leaves finish) .void := by
  refine (obeys_void program).weaken fun result stage hVoid => ?_
  subst hVoid
  cases result with
  | ok value => exact .inr rfl
  | error error => trivial

theorem returned_ids {all processedRunIds : List Nat}
    (hAll : ∀ id, id ∈ all ↔ id ∈ done ++ pending) (hNodup : (done ++ pending).Nodup)
    (hProcessed : processedRunIds ⊆ done) : pending ⊆ all.filter (fun id => id ∉ processedRunIds) ∧
      all.filter (fun id => id ∉ processedRunIds) ⊆ done ++ pending := by
  constructor
  · intro id hId
    have hNot : id ∉ processedRunIds := fun hIn =>
      (List.nodup_append'.mp hNodup).2.2 (hProcessed hIn) hId
    exact List.mem_filter.mpr ⟨(hAll id).mpr (List.mem_append_right _ hId), decide_eq_true hNot⟩
  · intro id hId
    exact (hAll id).mp (List.mem_of_mem_filter hId)

theorem returnUnprocessedClaims_obeys {queuedRuns : List QueuedRun} {processedRunIds : List Nat}
    {stage : BatchStage} (error : Error)
    (hStage : stage = .running done pending .unlinked ∨ stage = .cancelled done pending)
    (hAll : ∀ id, id ∈ queuedRuns.map QueuedRun.id ↔ id ∈ done ++ pending)
    (hNodup : (done ++ pending).Nodup) (hProcessed : processedRunIds ⊆ done) :
    (do
      returnUnprocessedClaims queuedRuns processedRunIds
      .raise error : CampaignMethod α).Obeys (batchProtocol op)
        (fun result stage => (∃ error, result = .error error) ∧ stage.Final) stage := by
  obtain ⟨hPending, hOwn⟩ := returned_ids hAll hNodup hProcessed
  have hReturn : (returnUnprocessedClaims queuedRuns processedRunIds).Obeys (batchProtocol op)
      (fun _ stage => stage.Final) stage := by
    unfold returnUnprocessedClaims returnProcessingQueuedRunsWithoutWorkflow
    split
    · rename_i hNone
      rw [hNone] at hPending
      obtain rfl := List.eq_nil_of_subset_nil hPending
      obtain rfl | rfl := hStage <;> exact rfl
    · have hCall : (Program.call (CampaignCommand.returnProcessingQueuedRuns
          ((queuedRuns.map QueuedRun.id).filter fun id => id ∉ processedRunIds)) :
          CampaignMethod Nat).Obeys (batchProtocol op) (fun _ stage => stage.Final) stage := by
        refine Program.obeys_call (.inr ⟨done, pending, hStage, hPending, hOwn⟩) fun _ => ?_
        obtain rfl | rfl := hStage <;> trivial
      exact orElse_obeys (hCall.bind (fun _ _ hFinal => hFinal) fun _ _ hFinal => hFinal)
        fun _ _ hFinal => hFinal
  exact hReturn.bind (fun _ _ hFinal => ⟨⟨error, rfl⟩, hFinal⟩) fun error _ hFinal =>
    ⟨⟨error, rfl⟩, hFinal⟩

theorem markFailed_leaves {id : Nat}
    (h : pending.head? = some id ∨ done.head? = some id ∧ phase = .unlinked ∧ id ∉ pending) :
    (orElse (updateQueuedRun id .failed) ()).Obeys (batchProtocol op)
      (Leaves (if pending.head? = some id then .running (id :: done) pending.tail .unlinked
        else .running done pending phase)) (.running done pending phase) := by
  have hUpdate : (updateQueuedRun id .failed).Obeys (batchProtocol op) (fun result stage =>
      stage = .void ∨ result = .error .cancelledError ∧ stage = .exited ∨
      (∃ value, result = .ok value) ∧ stage = if pending.head? = some id then
        .running (id :: done) pending.tail .unlinked else .running done pending phase)
      (.running done pending phase) := by
    simp only [updateQueuedRun, Program.call_bind]
    refine ⟨.inr ⟨done, pending, phase, rfl, h⟩, fun result => ?_⟩
    cases result with
    | ok found =>
      cases found with
      | false => exact .inl rfl
      | true => exact .inr (.inr ⟨⟨_, rfl⟩, rfl⟩)
    | error error =>
      by_cases hCancelled : error = .cancelledError
      · subst hCancelled
        exact .inr (.inl ⟨rfl, rfl⟩)
      · exact .inl (mark_error hCancelled)
  refine hUpdate.tryCatch (fun value stage hOk => ?_) fun error stage hError => ?_
  · obtain rfl | ⟨hEq, -⟩ | ⟨-, rfl⟩ := hOk
    · exact .inr rfl
    · cases hEq
    · exact .inl rfl
  · obtain rfl | ⟨hEq, rfl⟩ | ⟨⟨value, hEq⟩, -⟩ := hError
    · exact leaves_void _
    · cases hEq
      trivial
    · cases hEq

end Obeys

/-! ### The loop -/

section Loop

variable {op : Operation} {done pending processedRunIds : List Nat} {queuedRuns : List QueuedRun}

theorem handleRunError_fails {error : Error} (h : failsRun error = true) (run : QueuedRun) :
    handleRunError queuedRuns processedRunIds run error = orElse (updateQueuedRun run.id .failed) () := by
  cases error <;> first
    | rfl
    | cases h

theorem handleRunError_returns {error : Error} (h : failsRun error = false) (run : QueuedRun) :
    handleRunError queuedRuns processedRunIds run error = (do
      returnUnprocessedClaims queuedRuns processedRunIds
      .raise error) := by
  cases error <;> first
    | rfl
    | cases h

theorem returns_leaves {run : QueuedRun} {error : Error} {stage finish : BatchStage}
    (hReturns : failsRun error = false)
    (hStage : stage = .running done pending .unlinked ∨ stage = .cancelled done pending)
    (hAll : ∀ id, id ∈ queuedRuns.map QueuedRun.id ↔ id ∈ done ++ pending)
    (hNodup : (done ++ pending).Nodup) (hProcessed : processedRunIds ⊆ done) :
    (handleRunError queuedRuns processedRunIds run error).Obeys (batchProtocol op) (Leaves finish) stage := by
  rw [handleRunError_returns hReturns]
  refine (returnUnprocessedClaims_obeys error hStage hAll hNodup hProcessed).weaken ?_
  rintro _ stage ⟨⟨error, rfl⟩, hFinal⟩
  exact hFinal

theorem handlePending_leaves {run : QueuedRun} {error : Error} {stage : BatchStage}
    (h : Raised done (run.id :: pending) error stage)
    (hAll : ∀ id, id ∈ queuedRuns.map QueuedRun.id ↔ id ∈ done ++ run.id :: pending)
    (hNodup : (done ++ run.id :: pending).Nodup) (hProcessed : processedRunIds ⊆ done) :
    (handleRunError queuedRuns processedRunIds run error).Obeys (batchProtocol op)
      (Leaves (.running (run.id :: done) pending .unlinked)) stage := by
  have hMark : ∀ phase, failsRun error = true →
      (handleRunError queuedRuns processedRunIds run error).Obeys (batchProtocol op)
        (Leaves (.running (run.id :: done) pending .unlinked))
        (.running done (run.id :: pending) phase) := by
    intro phase hFails
    rw [handleRunError_fails hFails]
    have hMarked := @markFailed_leaves op done (run.id :: pending) phase _ (.inl List.head?_cons)
    rw [if_pos List.head?_cons] at hMarked
    exact hMarked
  obtain ⟨rfl, rfl⟩ | ⟨hError, rfl⟩ | ⟨hFails, phase, rfl⟩ | rfl := h
  · exact returns_leaves rfl (.inr rfl) hAll hNodup hProcessed
  · cases hFails : failsRun error with
    | false => exact returns_leaves hFails (.inl rfl) hAll hNodup hProcessed
    | true => exact hMark .unlinked hFails
  · exact hMark phase hFails
  · exact leaves_void _

theorem countProcessed_leaves (changes : CampaignChanges) {run : QueuedRun} (hRun : run.id ∉ pending)
    (hAll : ∀ id, id ∈ queuedRuns.map QueuedRun.id ↔ id ∈ run.id :: done ++ pending)
    (hNodup : (run.id :: done ++ pending).Nodup) (hProcessed : processedRunIds ⊆ run.id :: done) :
    ((updateCampaign changes).tryCatch (handleRunError queuedRuns processedRunIds run)).Obeys
      (batchProtocol op) (Leaves (.running (run.id :: done) pending .unlinked))
      (.running (run.id :: done) pending .unlinked) := by
  have hFails : ∀ error, failsRun error = true → error ≠ .cancelledError := by
    rintro _ hFails rfl
    cases hFails
  refine Program.Obeys.tryCatch (passes_obeys hFails (fun hNot => hNot rfl)
    (updateCampaign_passes hFails changes) (updateCampaign_issues fun _ => rfl))
    (fun value stage hOk => ?_) fun error stage hError => ?_
  · obtain ⟨hEq, -⟩ | ⟨-, rfl⟩ | rfl := hOk
    · cases hEq
    · exact .inl rfl
    · exact .inr rfl
  · obtain ⟨hEq, rfl⟩ | ⟨-, rfl⟩ | rfl := hError
    · cases hEq
      exact returns_leaves rfl (.inr rfl) hAll hNodup hProcessed
    · cases hFails : failsRun error with
      | false => exact returns_leaves hFails (.inl rfl) hAll hNodup hProcessed
      | true =>
        rw [handleRunError_fails hFails]
        have hMarked := @markFailed_leaves op (run.id :: done) pending _ _
          (.inr ⟨List.head?_cons, rfl, hRun⟩)
        rwa [if_neg fun hHead : pending.head? = some run.id =>
          hRun (List.mem_of_mem_head? hHead)] at hMarked
    · exact leaves_void _

theorem processRuns_obeys (campaign : CampaignRow) (polls : Nat → Polls)
    (queuedRuns runs : List QueuedRun) {done processedRunIds : List Nat}
    (hAll : ∀ id, id ∈ queuedRuns.map QueuedRun.id ↔ id ∈ done ++ runs.map QueuedRun.id)
    (hNodup : (done ++ runs.map QueuedRun.id).Nodup) (hProcessed : processedRunIds ⊆ done) :
    (processRuns campaign polls queuedRuns runs processedRunIds).Obeys (batchProtocol op)
      (fun _ stage => stage.Final) (.running done (runs.map QueuedRun.id) .unlinked) := by
  induction runs generalizing done processedRunIds with
  | nil => exact rfl
  | cons run runs ih =>
    have hAll' : ∀ id, id ∈ queuedRuns.map QueuedRun.id ↔
        id ∈ run.id :: done ++ runs.map QueuedRun.id := fun id =>
      (hAll id).trans List.perm_middle.mem_iff
    have hNodup' : (run.id :: done ++ runs.map QueuedRun.id).Nodup :=
      List.perm_middle.nodup_iff.mp hNodup
    have hRun : run.id ∉ runs.map QueuedRun.id := fun hIn =>
      (List.nodup_append'.mp hNodup').2.2 List.mem_cons_self hIn
    have hStep : ((processRun campaign (polls run.id) run).tryCatch fun error => do
        handleRunError queuedRuns processedRunIds run error
        return false).Obeys (batchProtocol op)
          (Leaves (.running (run.id :: done) (runs.map QueuedRun.id) .unlinked))
          (.running done ((run :: runs).map QueuedRun.id) .unlinked) :=
      (processRun_ends campaign (polls run.id) run).tryCatch (fun _ _ hOk => hOk)
        fun error stage hRaised =>
          (handlePending_leaves hRaised hAll hNodup hProcessed).bind
            (fun _ _ hLeaves => hLeaves) fun _ _ hFinal => hFinal
    have hVoid : ∀ program : CampaignMethod Nat,
        program.Obeys (batchProtocol op) (fun _ stage => stage.Final) .void := fun program =>
      (obeys_void program).weaken fun _ stage hStage => hStage ▸ trivial
    refine hStep.bind (fun processed stage hLeaves => ?_) fun _ _ hFinal => hFinal
    obtain rfl | rfl := hLeaves
    · cases processed with
      | false => exact ih hAll' hNodup' (List.Subset.trans hProcessed (List.subset_cons_self _ _))
      | true =>
        have hProcessed' : run.id :: processedRunIds ⊆ run.id :: done :=
          List.cons_subset_cons run.id hProcessed
        refine (countProcessed_leaves _ hRun hAll' hNodup' hProcessed').bind
          (fun _ stage hLeaves => ?_) fun _ _ hFinal => hFinal
        obtain rfl | rfl := hLeaves
        · exact ih hAll' hNodup' hProcessed'
        · exact hVoid _
    · exact hVoid _

theorem obeys_claimed {α : Type} {ids : List Nat} {program : CampaignMethod α}
    {post : Except Error α → BatchStage → Prop}
    (h : program.Obeys (batchProtocol op) post (.running [] ids .unlinked)) (hEnters : ∃ key rateLimit resume,
      program = .await (.redis (.acquireToken key rateLimit)) resume) :
    program.Obeys (batchProtocol op) post (.claimed ids) := by
  obtain ⟨key, rateLimit, resume, rfl⟩ := hEnters
  refine ⟨.inr fun _ => ⟨?_, fun _ => ?_⟩, h.2⟩ <;> rintro ⟨⟩

theorem next_claimed {command : CampaignCommand} {ids : List Nat} (hWrites : command.writesRuns = false)
    (hEnters : command.entersLoop = false) (result : Except Error command.Reply) :
    (BatchStage.claimed ids).next command result = (BatchStage.claimed ids).proceed (errorOf result) := by
  rw [next_of_keeps hWrites, hEnters]
  rfl

theorem proceed_claimed {ids : List Nat} {error : Error} (h : error ≠ .cancelledError) :
    (BatchStage.claimed ids).proceed (some error) = .claimed ids := by
  cases error <;> first
    | rfl
    | exact absurd rfl h

theorem claimed_obeys {α : Type} {ids : List Nat} {program : CampaignMethod α}
    (h : Passes (· ≠ .cancelledError) program)
    (hKeeps : program.Issues fun command => command.writesRuns = false ∧ command.entersLoop = false) :
    program.Obeys (batchProtocol op) (fun result stage => result = .error .cancelledError ∧ stage = .exited ∨
      (∀ error, result = .error error → error ≠ .cancelledError) ∧ stage = .claimed ids ∨
      stage = .void) (.claimed ids) := by
  refine Program.Transparent.obeys h hKeeps ?_ ?_ ?_ ?_ fun command => ⟨.inl rfl, next_void command⟩
  · intro command hCommand
    refine .inr ((admits_of_keeps hCommand.1 _).mpr fun _ => ⟨?_, fun _ => ?_⟩) <;> rintro ⟨⟩
  · intro command result hCommand hResult
    refine .inl ((next_claimed hCommand.1 hCommand.2 result).trans ?_)
    cases result with
    | ok value => rfl
    | error error => exact proceed_claimed (hResult error rfl)
  · intro command hCommand
    exact next_claimed hCommand.1 hCommand.2 _
  · intro command other _ hOther hOutside
    exact absurd hOther hOutside

theorem initializePool_obeys (campaign : CampaignRow) (ids : List Nat) :
    (initializePool campaign).Obeys (batchProtocol op) (fun result stage =>
      (∃ value, result = .ok value) ∧ stage = .claimed ids ∨
      result = .error .cancelledError ∧ stage = .exited ∨ stage = .void) (.claimed ids) := by
  have hPool : ∀ key fromNumbers,
      Passes (· ≠ .cancelledError) (initializeFromNumberPool key fromNumbers) ∧
      (initializeFromNumberPool key fromNumbers).Issues fun command =>
        (CampaignCommand.redis command).writesRuns = false ∧
          (CampaignCommand.redis command).entersLoop = false := by
    intro key fromNumbers
    unfold initializeFromNumberPool
    split
    · exact ⟨trivial, trivial⟩
    · exact ⟨orElse_passes ((Program.transparent_call _).bind fun _ =>
        (Program.transparent_call _).bind fun _ => trivial),
        orElse_issues ((Program.issues_call ⟨rfl, rfl⟩).bind fun _ =>
          (Program.issues_call ⟨rfl, rfl⟩).bind fun _ => trivial)⟩
  refine Program.Obeys.tryCatch (claimed_obeys ?_ ?_) ?_ ?_
  · refine (service_passes _).bind fun provider => ?_
    split
    · trivial
    · exact (redis_passes (hPool _ _).1).bind fun _ => trivial
  · refine Program.Issues.bind (Program.issues_call ⟨rfl, rfl⟩) fun provider => ?_
    split
    · trivial
    · exact Program.Issues.bind (Program.Issues.embed (hPool _ _).2) fun _ => trivial
  · rintro value stage (⟨hEq, -⟩ | ⟨-, rfl⟩ | rfl)
    · cases hEq
    · exact .inl ⟨⟨value, rfl⟩, rfl⟩
    · exact .inr (.inr rfl)
  · rintro error stage (⟨hEq, rfl⟩ | ⟨hOther, rfl⟩ | rfl)
    · cases hEq
      exact .inr (.inl ⟨rfl, rfl⟩)
    · rw [if_pos ((Error.isException_iff error).mpr (hOther error rfl))]
      exact .inl ⟨⟨(), rfl⟩, rfl⟩
    · exact (obeys_void _).weaken fun _ _ hVoid => .inr (.inr hVoid)

theorem processRuns_enters (campaign : CampaignRow) (polls : Nat → Polls) {queuedRuns : List QueuedRun}
    (h : queuedRuns ≠ []) : ∃ key rateLimit resume, processRuns campaign polls queuedRuns queuedRuns [] =
        .await (.redis (.acquireToken key rateLimit)) resume := by
  cases queuedRuns with
  | nil => exact absurd rfl h
  | cons run runs =>
    simp only [processRuns, processRun]
    cases (polls run.id).rateLimit with
    | zero => exact ⟨_, _, _, rfl⟩
    | succ retries => exact ⟨_, _, _, rfl⟩

theorem before_obeys {α : Type} {program : CampaignMethod α}
    (h : program.Issues fun command => command.writesRuns = false ∧
      (command.entersLoop = true → op.isProcessBatch = false)) :
    program.Obeys (batchProtocol op) (fun _ stage => stage = .before) .before := by
  refine Program.Issues.obeys (T := fun stage : BatchStage => stage = .before) h ?_ rfl
  rintro _ command rfl ⟨hWrites, hEnters⟩
  refine ⟨.inr ((admits_of_keeps hWrites _).mpr fun hProcess => ⟨?_, fun hEnter => ?_⟩), fun result => ?_⟩
  · rintro ⟨⟩
  · rw [hEnters hEnter] at hProcess
    cases hProcess
  · show BatchStage.next _ command result = _
    rw [next_of_keeps hWrites]
    split <;> cases result <;> rfl

theorem processBatch_obeys (hBatch : op.isBatch = true) (batchSize : Nat) (polls : Nat → Polls) :
    (processBatch batchSize polls).Obeys (batchProtocol op) (fun _ stage => stage.Final) .before := by
  have hVoid : ∀ program : CampaignMethod Nat,
      program.Obeys (batchProtocol op) (fun _ stage => stage.Final) .void := fun program =>
    (obeys_void program).weaken fun _ stage hStage => hStage ▸ trivial
  have hBefore : ∀ {stage : BatchStage}, stage = .before → stage.Final := by
    rintro _ rfl
    trivial
  refine (before_obeys (Program.issues_call ⟨rfl, by rintro ⟨⟩⟩)).bind (fun campaign stage hStage => ?_)
    fun _ _ hStage => hBefore hStage
  subst hStage
  split
  · trivial
  split
  · refine (before_obeys (Program.issues_call ⟨rfl, by rintro ⟨⟩⟩)).bind (fun now stage hStage => ?_)
      fun _ _ hStage => hBefore hStage
    subst hStage
    have hClaim : (Program.call (CampaignCommand.claimQueuedRuns now batchSize) :
        CampaignMethod (List QueuedRun)).Obeys (batchProtocol op)
        (fun result stage => BatchStage.before.claim result = stage) .before :=
      Program.obeys_call (.inr ⟨hBatch, rfl⟩) fun result => rfl
    refine hClaim.bind (fun queuedRuns stage hStage => ?_) fun error stage hStage => ?_
    · subst hStage
      by_cases hNodup : (queuedRuns.map QueuedRun.id).Nodup
      · rw [BatchStage.claim, if_pos hNodup]
        split
        · rename_i hNone
          subst hNone
          exact rfl
        · rename_i hSome
          refine (initializePool_obeys _ _).bind (fun value stage hPool => ?_)
            fun error stage hPool => ?_
          · obtain ⟨-, rfl⟩ | ⟨hEq, -⟩ | rfl := hPool
            · exact obeys_claimed (processRuns_obeys _ polls queuedRuns queuedRuns
                (fun _ => Iff.rfl) hNodup (List.nil_subset _)) (processRuns_enters _ polls hSome)
            · cases hEq
            · exact hVoid _
          · obtain ⟨⟨value, hEq⟩, -⟩ | ⟨-, rfl⟩ | rfl := hPool
            · cases hEq
            · trivial
            · trivial
      · rw [BatchStage.claim, if_neg hNodup]
        exact hVoid _
    · subst hStage
      trivial
  · trivial

theorem afterBatch_obeys {α : Type} {program : CampaignMethod α} (h : op.isProcessBatch = false)
    (hKeeps : program.Issues fun command => command.writesRuns = false) (stage : BatchStage) :
    program.Obeys (batchProtocol op) (fun _ _ => True) stage := by
  refine Program.Issues.obeys (T := fun _ => True) hKeeps
    (fun _ _ _ hCommand => ⟨.inr ((admits_of_keeps hCommand _).mpr fun hProcess => ?_), fun _ => trivial⟩)
    trivial
  rw [h] at hProcess
  cases hProcess

theorem operation_stages (op : Operation) : op.method.Obeys (batchProtocol op)
    (fun _ stage => op.isProcessBatch = true → stage.Final) .before := by
  have hOther : op.isBatch = false → op.method.Obeys (batchProtocol op)
      (fun _ stage => op.isProcessBatch = true → stage.Final) .before := by
    intro hBatch
    refine (before_obeys ((keeps_of_allowed hBatch (operation_issues op)).mono fun command hKeeps =>
      ⟨hKeeps, fun _ => ?_⟩)).weaken fun _ stage hStage _ => hStage ▸ trivial
    cases op <;> first
      | rfl
      | cases hBatch
  cases op with
  | processBatch batchSize polls =>
    exact (processBatch_obeys rfl batchSize polls).bind (fun _ _ hFinal _ => hFinal)
      fun _ _ hFinal _ => hFinal
  | processCampaignBatch batchSize polls =>
    have hAfter : ∀ {α : Type} {program : CampaignMethod α} stage,
        program.Issues (Operation.syncCampaignSource.Allowed) →
        program.Obeys (batchProtocol (.processCampaignBatch batchSize polls)) (fun _ _ => True)
          stage := fun stage hIssues => afterBatch_obeys rfl (keeps_of_allowed rfl hIssues) stage
    have hReset : ∀ count, (resetCounter count).Issues Operation.syncCampaignSource.Allowed := by
      intro count
      unfold resetCounter
      split
      · exact Program.issues_call trivial
      · trivial
    refine ((((processBatch_obeys rfl batchSize polls).bind (fun count stage _ =>
      hAfter stage ((hReset count).bind fun _ => publish_issues _)) fun _ _ _ => trivial).tryCatch
      (fun _ _ _ => trivial) fun error stage _ =>
        hAfter stage (handleBatchError_issues rfl batchSize error)).weaken fun _ _ _ hProcess => ?_)
    cases hProcess
  | _ => exact hOther rfl

end Loop

end FastVoice.Campaign
