import FastVoice.Campaign.BatchClaims

/-! # What a batch leaves behind

When `process_batch` returns or raises, its claims are settled unless its task was cancelled at a
bad moment: while a claimed run has its workflow run and is still marked as being processed, or at an
await that the loop's handlers do not cover.
-/
namespace FastVoice.Campaign
open Async

section Others

variable {ι : Type} {op : Operation} {proc : ι} {trace : CampaignTrace ι} {stage : BatchStage}
  {command : CampaignCommand} {outcome : Outcome Error}

theorem linked_createQueuedRun {s : CampaignStore} (h : WellLinked s) (run : QueuedRun) :
    WellLinked (s.createQueuedRun run).2 := by
  intro id hLinked
  have hBefore : (s.status id).linked = true := by
    rw [← hLinked, CampaignStore.createQueuedRun]
    split <;> rfl
  obtain ⟨state, hState, hNot⟩ := h id hBefore
  refine ⟨state, ?_, hNot⟩
  rw [status_createQueuedRun s run fun hNone => by rw [hNone] at hState; cases hState]
  exact hState

theorem WellLinked.execute {s : CampaignStore} (h : WellLinked s)
    (hTargets : ∀ id ∈ command.targets, (s.status id).state ≠ none ∧ (s.status id).state ≠ some .queued)
    (hMarks : ∀ id state, command = .updateQueuedRun id state → state ≠ .queued) :
    WellLinked (s.execute command).2 := by
  intro id hLinked
  cases command with
  | claimQueuedRuns scheduledBefore limit =>
    rw [status_claim] at hLinked ⊢
    split
    · exact ⟨.processing, rfl, by rintro ⟨⟩⟩
    · rename_i hNot
      rw [if_neg hNot] at hLinked
      exact h id hLinked
  | updateQueuedRun target state =>
    rw [status_updateQueuedRun] at hLinked ⊢
    split
    · rename_i hId
      rw [if_pos hId] at hLinked
      obtain ⟨old, hOld, -⟩ := h id hLinked
      refine ⟨state, ?_, hMarks target state rfl⟩
      rw [Option.mem_def.mp hOld]
      rfl
    · rename_i hNot
      rw [if_neg hNot] at hLinked
      exact h id hLinked
  | returnProcessingQueuedRuns ids =>
    rw [status_return] at hLinked ⊢
    split
    · rename_i hReturned
      rw [if_pos hReturned] at hLinked
      cases hLinked
    · rename_i hNot
      rw [if_neg hNot] at hLinked
      exact h id hLinked
  | createWorkflowRun queuedRunId =>
    rw [status_createWorkflowRun] at hLinked ⊢
    obtain hTarget | hBefore := (Bool.or_eq_true _ _).mp hLinked
    · obtain rfl := of_decide_eq_true hTarget
      obtain ⟨hExists, hNot⟩ := hTargets queuedRunId (List.mem_singleton.mpr rfl)
      obtain ⟨state, hState⟩ := Option.ne_none_iff_exists'.mp hExists
      exact ⟨state, hState, fun hQueued => hNot (hQueued ▸ hState)⟩
    · exact h id hBefore
  | createQueuedRun run => exact linked_createQueuedRun h run id hLinked
  | _ => exact h id hLinked

theorem targets_owned (hAdmits : op.admits stage command) {id : Nat} (hId : id ∈ command.targets) :
    id ∈ stage.owned := by
  cases command with
  | updateQueuedRun target state =>
    obtain rfl := List.mem_singleton.mp hId
    cases state with
    | processed =>
      obtain ⟨done, pending, rfl⟩ := hAdmits
      exact List.mem_append_right _ List.mem_cons_self
    | failed =>
      obtain ⟨done, pending, phase, rfl, hHead | hHead⟩ := hAdmits
      · exact List.mem_append_right _ (List.mem_of_mem_head? hHead)
      · exact List.mem_append_left _ (List.mem_of_mem_head? hHead.1)
    | queued => exact hAdmits.elim
    | processing => exact hAdmits.elim
  | returnProcessingQueuedRuns ids =>
    obtain ⟨done, pending, rfl | rfl, -, hOwn⟩ := hAdmits <;> exact hOwn hId
  | createWorkflowRun queuedRunId =>
    obtain rfl := List.mem_singleton.mp hId
    obtain ⟨done, pending, rfl⟩ := hAdmits
    exact List.mem_append_right _ List.mem_cons_self
  | _ => cases hId

theorem owned_proceed (stage : BatchStage) (error : Option Error) :
    (stage.proceed error).owned ⊆ stage.owned := by
  intro id hId
  cases error with
  | none => cases stage <;> exact hId
  | some error =>
    cases stage with
    | running done pending phase =>
      by_cases hCancelled : error = .cancelledError
      · subst hCancelled
        exact hId
      · rw [proceed_running hCancelled] at hId
        split at hId
        · exact hId
        · cases hId
    | claimed ids =>
      by_cases hCancelled : error = .cancelledError
      · subst hCancelled
        cases hId
      · rw [proceed_claimed hCancelled] at hId
        exact hId
    | _ => exact hId

theorem owned_next (hAdmits : op.admits stage command) {id : Nat}
    (hId : id ∈ (stage.next command (trace.reply proc command outcome)).owned) :
    id ∈ stage.owned ∨ id ∈ command.claims trace.state := by
  cases command with
  | claimQueuedRuns scheduledBefore limit =>
    obtain ⟨-, rfl⟩ := hAdmits
    cases outcome with
    | fail error applied => cases hId
    | reply =>
      right
      have hIds : id ∈ (if ((trace.state.claim scheduledBefore limit).1.map QueuedRun.id).Nodup then
          BatchStage.claimed ((trace.state.claim scheduledBefore limit).1.map QueuedRun.id)
          else .void).owned := hId
      split at hIds
      · obtain ⟨run, hRun, rfl⟩ := List.mem_map.mp hIds
        obtain ⟨found, hFound, rfl⟩ := List.mem_map.mp hRun
        exact List.mem_map.mpr ⟨found, hFound, rfl⟩
      · cases hIds
  | updateQueuedRun target state =>
    left
    have hMark : ∀ done pending phase,
        id ∈ ((BatchStage.running done pending phase).mark target state
          (trace.reply proc (.updateQueuedRun target state) outcome)).owned → id ∈ done ++ pending := by
      intro done pending phase hIn
      cases hReply : trace.reply proc (.updateQueuedRun target state) outcome with
      | ok found =>
        rw [hReply] at hIn
        cases found with
        | false => cases hIn
        | true =>
          rw [BatchStage.mark] at hIn
          split at hIn
          · rename_i hHead
            obtain ⟨rest, rfl⟩ := List.head?_eq_some_iff.mp hHead
            exact List.perm_middle.mem_iff.mpr hIn
          · exact hIn
      | error error =>
        rw [hReply] at hIn
        by_cases hCancelled : error = .cancelledError
        · subst hCancelled
          rw [BatchStage.mark] at hIn
          split at hIn
          · cases hIn
          · exact hIn
        · rw [mark_error hCancelled] at hIn
          cases hIn
    cases stage with
    | running done pending phase => exact hMark done pending phase hId
    | _ => exact hId
  | returnProcessingQueuedRuns ids =>
    left
    cases stage with
    | running done pending phase => cases hId
    | cancelled done pending => cases hId
    | _ => exact hId
  | createWorkflowRun queuedRunId =>
    left
    obtain ⟨done, pending, rfl⟩ := hAdmits
    cases outcome with
    | reply => exact hId
    | fail error applied =>
      exact owned_proceed (.running done (queuedRunId :: pending) .unsure) (some error) hId
  | _ =>
    left
    rw [next_of_keeps rfl] at hId
    split at hId
    · have hEnter : stage.enter.owned = stage.owned := by cases stage <;> rfl
      rw [← hEnter]
      exact owned_proceed _ _ hId
    · exact owned_proceed _ _ hId

end Others

section Invariant

variable {ι : Type} [DecidableEq ι] {calls : ι → Operation} {trace trace' : CampaignTrace ι}
  {stage : ι → BatchStage}

structure BatchInvariant (calls : ι → Operation) (trace : CampaignTrace ι) (stage : ι → BatchStage) :
    Prop where
  linked : WellLinked trace.state
  holds : ∀ proc, BatchHolds (calls proc) proc trace (stage proc)
  apart : ∀ first second, first ≠ second → ∀ id ∈ (stage first).owned, id ∉ (stage second).owned

theorem BatchHolds.frame {op : Operation} {proc : ι} {stage : BatchStage} (h : BatchHolds op proc trace stage)
    (hSame : ∀ id ∈ stage.owned, trace'.state.status id = trace.state.status id)
    (hClaimed : claimedIds proc trace'.history = claimedIds proc trace.history)
    (hInterrupted : interrupted proc trace'.history = interrupted proc trace.history)
    (hReached : reachedLoop proc trace'.history = reachedLoop proc trace.history) :
    BatchHolds op proc trace' stage := by
  refine ⟨h.rows.frame hSame, ?_⟩
  have hHistory := h.history
  cases stage with
  | cancelled done pending =>
    refine ⟨by rw [hClaimed]; exact hHistory.1, ?_, hReached.trans hHistory.2.2⟩
    rw [hInterrupted, hHistory.2.1]
    refine exists_congr fun id => and_congr_right fun hId => ?_
    rw [hSame id (List.mem_append_right _ hId)]
  | before => exact ⟨hClaimed.trans hHistory.1, hInterrupted.trans hHistory.2.1,
      fun hProcess => hReached.trans (hHistory.2.2 hProcess)⟩
  | claimed ids => exact ⟨by rw [hClaimed]; exact hHistory.1, hInterrupted.trans hHistory.2.1,
      fun hProcess => hReached.trans (hHistory.2.2 hProcess)⟩
  | running done pending phase => exact ⟨by rw [hClaimed]; exact hHistory.1,
      hInterrupted.trans hHistory.2.1, hReached.trans hHistory.2.2⟩
  | exited => trivial
  | void => trivial

theorem BatchInvariant.call (h : BatchInvariant calls trace stage) {proc : ι}
    {command : CampaignCommand} {outcome : Outcome Error}
    (hPermits : (batchProtocol (calls proc)).permits (stage proc) command)
    (hAllowed : updatesSucceed.call proc command outcome trace) :
    BatchInvariant calls (trace.after proc command outcome) (Function.update stage proc
        ((stage proc).next command (trace.reply proc command outcome))) := by
  have hAdmits : (calls proc).admits (stage proc) command := hPermits.resolve_left fun hVoid => by
    have hRows := (h.holds proc).rows
    rw [hVoid] at hRows
    exact hRows.elim
  have hNot : ∀ other, other ≠ proc → ∀ id ∈ (stage other).owned, id ∉ command.targets :=
    fun other hOther id hId hTarget => h.apart other proc hOther id hId (targets_owned hAdmits hTarget)
  have hQueued : ∀ {id}, id ∈ command.claims trace.state →
      (trace.state.status id).state = some .queued := by
    intro id hId
    cases command with
    | claimQueuedRuns scheduledBefore limit => exact queued_of_mem_claimed hId
    | _ => cases hId
  have hFree : ∀ other, other ≠ proc → ∀ id ∈ (stage other).owned,
      id ∉ ((stage proc).next command (trace.reply proc command outcome)).owned := by
    intro other hOther id hId hNext
    obtain hOwn | hClaims := owned_next hAdmits hNext
    · exact h.apart other proc hOther id hId hOwn
    · exact ((h.holds other).rows.claimed hId).2 (hQueued hClaims)
  refine ⟨?_, fun other => ?_, fun first second hNe id hFirst hSecond => ?_⟩
  · rw [state_after]
    split
    · refine h.linked.execute (fun id hId => (h.holds proc).rows.claimed (targets_owned hAdmits hId)) ?_
      rintro id state rfl rfl
      exact hAdmits
    · exact h.linked
  · by_cases hOther : other = proc
    · subst hOther
      rw [Function.update_self]
      exact (own_after h.linked (h.holds other) hPermits hAllowed).1
    · rw [Function.update_of_ne hOther]
      have hCaller : decide (proc = other) = false := decide_eq_false (Ne.symm hOther)
      refine (h.holds other).frame (fun id hId => status_after (hNot other hOther id hId)
        ((h.holds other).rows.claimed hId)) ?_ ?_ ?_
      · exact congrArg (· ++ _) (if_neg fun hOwn => hOther hOwn.1.symm)
      · show (interrupted other trace.history || decide (proc = other) && _) = _
        rw [hCaller, Bool.false_and, Bool.or_false]
      · show (decide (proc = other) && _ || reachedLoop other trace.history) = _
        rw [hCaller, Bool.false_and, Bool.false_or]
  · by_cases hFirstOwn : first = proc
    · have hSecondOther : second ≠ proc := fun hEq => hNe (hFirstOwn.trans hEq.symm)
      rw [Function.update_of_ne hSecondOther] at hSecond
      rw [hFirstOwn, Function.update_self] at hFirst
      exact hFree second hSecondOther id hSecond hFirst
    · rw [Function.update_of_ne hFirstOwn] at hFirst
      by_cases hSecondOwn : second = proc
      · rw [hSecondOwn, Function.update_self] at hSecond
        exact hFree first hFirstOwn id hFirst hSecond
      · rw [Function.update_of_ne hSecondOwn] at hSecond
        exact h.apart first second hNe id hFirst hSecond

theorem WellLinked.environment {s s' : CampaignStore} {move : CampaignMove} (h : WellLinked s)
    (hMove : s.environment move = some s') : WellLinked s' := by
  cases move with
  | redis move =>
    obtain ⟨keyspace, -, rfl⟩ := Option.map_eq_some_iff.mp hMove
    exact h
  | insertQueuedRun run =>
    obtain ⟨-, hMove⟩ := Option.ite_none_right_eq_some.mp hMove
    cases hMove
    exact linked_createQueuedRun h run
  | answer answers =>
    cases hMove
    exact h
  | draw random locked =>
    cases hMove
    exact h
  | edit settings =>
    cases hMove
    exact h

theorem BatchInvariant.environment (h : BatchInvariant calls trace stage) {move : CampaignMove}
    (hMove : (campaignServices ι).recorded.environment move trace = some trace') :
    BatchInvariant calls trace' stage := by
  have hState := environment_recorded hMove
  obtain ⟨state, -, rfl⟩ := Option.map_eq_some_iff.mp hMove
  exact ⟨h.linked.environment hState, fun proc => (h.holds proc).frame (fun id hId =>
    status_environment hState ((h.holds proc).rows.claimed hId).1) rfl rfl rfl, h.apart⟩

theorem batchInvariant_start (calls : ι → Operation) {start : CampaignStore} (h : WellLinked start) :
    BatchInvariant calls ⟨start, []⟩ fun _ => .before where
  linked := h
  holds _ := ⟨trivial, rfl, rfl, fun _ => rfl⟩
  apart _ _ _ _ hId := by cases hId

end Invariant

/-- In the step with which a batch returns or raises, after any run with other operations, all its
claims are settled exactly if it was never interrupted when a claim would be left to nobody. -/
theorem batch_exit {ι : Type} [DecidableEq ι] (calls : ι → Operation) (start : CampaignStore)
    (hStart : WellLinked start)
    {last next : Config ι CampaignCommand.Reply Error Unit (CampaignTrace ι)}
    {events : List (Event ι Error CampaignMove)}
    (hFollows : (campaignServices ι).recorded.Follows updatesSucceed
      ⟨⟨start, []⟩, fun proc => (calls proc).method⟩ events)
    (hRun : (campaignServices ι).recorded.run ⟨⟨start, []⟩, fun proc => (calls proc).method⟩
      events = some last)
    {proc : ι} (hBatch : (calls proc).isProcessBatch = true) {outcome : Outcome Error}
    (hAllows : (updatesSucceed (ι := ι)).Allows last (.resume proc outcome))
    (hStep : (campaignServices ι).recorded.step last (.resume proc outcome) = some next)
    (hExit : (next.procs proc).finished = true) :
    (∀ id ∈ claimedIds proc next.shared.history, (next.shared.state.status id).Settled) ↔
      interrupted proc next.shared.history = false := by
  obtain ⟨stage, hInvariant, hObeys⟩ := System.ghost_invariant
    (P := fun proc => batchProtocol (calls proc)) (J := BatchInvariant calls)
    (fun proc command outcome trace stage h hPermits hAllowed => h.call hPermits hAllowed)
    (fun move trace trace' stage h _ hMove => h.environment hMove)
    hFollows hRun (fun proc => operation_stages (calls proc)) (batchInvariant_start calls hStart)
  obtain ⟨caller, outcome', command, resume, hEvent, hProc, rfl⟩ | ⟨move, shared, hEvent, -, -⟩ :=
    System.step_cases hStep
  · cases hEvent
    have hOwn := hObeys proc
    rw [hProc] at hOwn
    have hAfter := own_after hInvariant.linked (hInvariant.holds proc) hOwn.1
      (hAllows command (by rw [hProc]; rfl))
    simp only [Function.update_self] at hExit
    obtain ⟨result, hResult⟩ := Program.result_of_finished hExit
    have hFinal := (hOwn.2 _).result hResult hBatch
    by_cases hExited : (stage proc).next command (last.shared.reply proc command outcome) = .exited
    · exact hAfter.2 hBatch hExited
    · exact hAfter.1.exitsSettled hFinal hExited
  · cases hEvent

def dialledStore : CampaignStore :=
  { CampaignStore.fresh ⟨1, UnixTime.one_pos⟩ (.plain .running) [dialledRun] 0 with
    answers := fun
      | .getProvider _ _ => ⟨"twilio", ["+15550100"]⟩
      | request => plainAnswers 0 request }

theorem wellLinked_dialledStore : WellLinked dialledStore := by
  rintro id ⟨⟩

def oneBatch : Unit → Operation := fun _ => .processBatch 10 fun _ => ⟨0, 0, 0⟩

theorem batch_exit_undisturbed :
    ∃ last next : Config Unit CampaignCommand.Reply Error Unit (CampaignTrace Unit),
      (campaignServices Unit).recorded.run
        ⟨⟨dialledStore, []⟩, fun proc => (oneBatch proc).method⟩
        (List.replicate 24 (.resume () .reply)) = some last ∧
      (campaignServices Unit).recorded.step last (.resume () .reply) = some next ∧
      claimedIds () next.shared.history = [1] ∧ (next.shared.state.status 1).Settled := by
  have hEnds : ((campaignServices Unit).recorded.run
      ⟨⟨dialledStore, []⟩, fun proc => (oneBatch proc).method⟩
      (List.replicate 24 (.resume () .reply))).any (fun last =>
        ((campaignServices Unit).recorded.step last (.resume () .reply)).any fun next =>
          (next.procs ()).finished && decide (claimedIds () next.shared.history = [1]) &&
            !interrupted () next.shared.history) = true := by decide +kernel
  obtain ⟨last, hRun, hLast⟩ := (Option.any_eq_true _ _).mp hEnds
  obtain ⟨next, hStep, hNext⟩ := (Option.any_eq_true _ _).mp hLast
  obtain ⟨hExits, hCalm⟩ := Bool.and_eq_true_iff.mp hNext
  obtain ⟨hFinished, hClaimed⟩ := Bool.and_eq_true_iff.mp hExits
  have hIds := of_decide_eq_true hClaimed
  refine ⟨last, next, hRun, hStep, hIds, ?_⟩
  refine (batch_exit oneBatch dialledStore wellLinked_dialledStore (by decide +kernel) hRun rfl
    (by rintro command - error ⟨⟩) hStep hFinished).mpr ((Bool.not_eq_true' _).mp hCalm) 1 ?_
  rw [hIds]
  exact List.mem_singleton.mpr rfl

def cancelledBinding : List (Event Unit Error CampaignMove) :=
  List.replicate 14 (.resume () .reply) ++ [.resume () (.fail .cancelledError false)]

/-- A cancelled batch leaves a run in processing that has its workflow run. -/
theorem batch_exit_stranded :
    ¬∀ (calls : Unit → Operation) (start : CampaignStore), WellLinked start →
      ∀ (last next : Config Unit CampaignCommand.Reply Error Unit (CampaignTrace Unit))
        (events : List (Event Unit Error CampaignMove)) (outcome : Outcome Error),
      (campaignServices Unit).recorded.Follows updatesSucceed
        ⟨⟨start, []⟩, fun proc => (calls proc).method⟩ events →
      (campaignServices Unit).recorded.run ⟨⟨start, []⟩, fun proc => (calls proc).method⟩ events =
        some last →
      (calls ()).isProcessBatch = true →
      (updatesSucceed (ι := Unit)).Allows last (.resume () outcome) →
      (campaignServices Unit).recorded.step last (.resume () outcome) = some next →
      (next.procs ()).finished = true →
      ∀ id ∈ claimedIds () next.shared.history, (next.shared.state.status id).Settled := by
  intro h
  have hEnds : ((campaignServices Unit).recorded.run
      ⟨⟨dialledStore, []⟩, fun proc => (oneBatch proc).method⟩ cancelledBinding).any (fun last =>
        ((campaignServices Unit).recorded.step last (.resume () .reply)).any fun next =>
          (next.procs ()).finished && decide (1 ∈ claimedIds () next.shared.history) &&
            !decide (next.shared.state.status 1).Settled) = true := by decide +kernel
  obtain ⟨last, hRun, hLast⟩ := (Option.any_eq_true _ _).mp hEnds
  obtain ⟨next, hStep, hNext⟩ := (Option.any_eq_true _ _).mp hLast
  obtain ⟨hExits, hStranded⟩ := Bool.and_eq_true_iff.mp hNext
  obtain ⟨hFinished, hClaimed⟩ := Bool.and_eq_true_iff.mp hExits
  exact of_decide_eq_false ((Bool.not_eq_true' _).mp hStranded)
    (h oneBatch dialledStore wellLinked_dialledStore last next cancelledBinding .reply
      (by decide +kernel) hRun rfl (by rintro command - error ⟨⟩) hStep hFinished 1
      (of_decide_eq_true hClaimed))

end FastVoice.Campaign
