import FastVoice.Campaign.BatchExit

/-! # The progress counter

Batches of one campaign on any number of workers. Each batch computes the counter from the campaign
that it has read before its loop, so the counter is exact as long as each batch that counts a run
finds the value it has read.
-/
namespace FastVoice.Campaign
open Async

section Statements

variable {ι : Type}

def movedBy : CampaignEntry ι → Finset Nat
  | .call _ (.updateQueuedRun id .processed) outcome found =>
    if outcome.executed && (found.status id).state.isSome then {id} else ∅
  | _ => ∅

def movedRuns (history : List (CampaignEntry ι)) : Finset Nat :=
  history.foldr (fun entry moved => movedBy entry ∪ moved) ∅

def justMarked : List (CampaignCommand × Outcome Error × CampaignStore) → Bool
  | (.updateQueuedRun _ .processed, .reply, _) :: _ => true
  | _ => false

def justLoaded : List (CampaignCommand × Outcome Error × CampaignStore) → Bool
  | (.loadCampaign, .reply, _) :: earlier => justMarked earlier
  | _ => false

def counting (own : List (CampaignCommand × Outcome Error × CampaignStore)) : Bool :=
  justMarked own || justLoaded own

def campaignRead (own : List (CampaignCommand × Outcome Error × CampaignStore)) :
    Option CampaignRow :=
  own.getLast?.bind fun first => first.2.2.campaign

/-- A run that is marked is being processed, and the marking does not fail behind its commit. -/
def MarksRun (s : CampaignStore) : CampaignCommand → Outcome Error → Prop
  | .updateQueuedRun id .processed, outcome =>
    outcome.executed = true → outcome = .reply ∧ (s.status id).state = some .processing
  | _, _ => True

instance (s : CampaignStore) (command : CampaignCommand) (outcome : Outcome Error) :
    Decidable (MarksRun s command outcome) := by
  unfold MarksRun
  split <;> infer_instance

/-- While a batch counts a run, none of its calls fails and each finds the counter that the batch has
read before its loop. -/
def countsEachRun (ι : Type) [DecidableEq ι] :
    System.Discipline ι CampaignCommand.Reply Error (CampaignTrace ι) CampaignMove where
  call proc command outcome trace := MarksRun trace.state command outcome ∧
    (counting (trace.own proc) = true → outcome = .reply ∧
      trace.state.campaign.map CampaignRow.processedRows =
        (campaignRead (trace.own proc)).map CampaignRow.processedRows)
  environment _ _ := True

instance [DecidableEq ι] (proc : ι) (command : CampaignCommand) (outcome : Outcome Error)
    (trace : CampaignTrace ι) : Decidable ((countsEachRun ι).call proc command outcome trace) :=
  inferInstanceAs (Decidable (_ ∧ _))

instance [DecidableEq ι] (move : CampaignMove) (trace : CampaignTrace ι) :
    Decidable ((countsEachRun ι).environment move trace) := isTrue trivial

end Statements

/-! ## The stages of a batch -/

inductive CountStage where
  | start
  | done
  | idle (read : CampaignRow)
  | marked (read : CampaignRow)
  | loaded (read row : CampaignRow)

namespace CountStage

def isCounting : CountStage → Bool
  | .marked _ => true
  | .loaded _ _ => true
  | _ => false

def Follows (own : List (CampaignCommand × Outcome Error × CampaignStore)) : CountStage → Prop
  | .start => own = []
  | .done => True
  | .idle read => campaignRead own = some read
  | .marked read => campaignRead own = some read ∧ justMarked own = true
  | .loaded read row => campaignRead own = some read ∧ justLoaded own = true ∧
      row.processedRows = read.processedRows

end CountStage

def LeavesCount : CampaignCommand → Prop
  | .commitCampaign _ changes => changes.processedRows = none
  | .updateQueuedRun _ state => state = .failed
  | _ => True

instance : Dispatches LeavesCount where
  redis _ := trivial
  breaker _ := trivial
  service _ := trivial
  now := trivial
  getCampaignById := trivial
  loadCampaign := trivial
  refreshCampaign := trivial
  pauses _ := rfl
  creates _ := trivial

instance : Recovers LeavesCount := ⟨fun _ => rfl, fun _ => trivial⟩

def countProtocol : Protocol CampaignCommand.Reply Error CountStage where
  permits stage command :=
    match stage with
    | .start => command = .getCampaignById
    | .done => False
    | .idle _ => LeavesCount command ∨ ∃ id, command = .updateQueuedRun id .processed
    | .marked _ => command = .loadCampaign
    | .loaded read row => command =
      .commitCampaign row { processedRows := some (read.processedRows + 1) }
  next stage command result :=
    match stage, command, result with
    | .start, .getCampaignById, .ok (some read) => .idle read
    | .idle read, .updateQueuedRun _ .processed, .ok true => .marked read
    | .idle read, _, _ => .idle read
    | .marked read, .loadCampaign, .ok (some row) => .loaded read row
    | .marked read, _, _ => .idle read
    | .loaded read _, _, _ => .idle read
    | _, _, _ => .done

theorem next_leavesCount {command : CampaignCommand} (h : LeavesCount command) (read : CampaignRow)
    (result : Except Error command.Reply) : countProtocol.next (.idle read) command result = .idle read := by
  cases command with
  | updateQueuedRun id state =>
    obtain rfl : state = .failed := h
    rfl
  | _ => rfl

theorem idle_obeys {α : Type} {program : CampaignMethod α} (h : program.Issues LeavesCount)
    (read : CampaignRow) : program.Obeys countProtocol (fun _ stage => stage = .idle read) (.idle read) := by
  have hObeys := h.obeys (P := countProtocol) (T := fun stage => stage = .idle read)
    (t := .idle read) (fun stage command hStage hLeaves => by
      rw [hStage]
      exact ⟨.inl hLeaves, next_leavesCount hLeaves read⟩) rfl
  exact hObeys

section Obeys

variable (campaign : CampaignRow)

def EndsMarked : Except Error Bool → CountStage → Prop
  | .ok true, stage => stage = .marked campaign
  | _, stage => stage = .idle campaign

theorem processRun_counts (polls : Polls) (run : QueuedRun) :
    (processRun campaign polls run).Obeys countProtocol (EndsMarked campaign) (.idle campaign) := by
  refine (idle_obeys (applyRateLimit_issues _ _ _) campaign).bind ?_ fun _ _ hIdle => hIdle
  intro _ stage hStage
  rw [hStage]
  refine (idle_obeys (acquireConcurrentSlot_issues _ _) campaign).bind ?_ fun _ _ hIdle => hIdle
  intro slot stage hStage
  rw [hStage]
  refine (idle_obeys (dispatchCall_issues _ _ _ _) campaign).bind ?_ fun _ _ hIdle => hIdle
  intro _ stage hStage
  rw [hStage, updateQueuedRun, Program.call_bind]
  refine ⟨.inr ⟨run.id, rfl⟩, fun result => ?_⟩
  cases result with
  | error error => rfl
  | ok found => cases found <;> rfl

theorem countRun_obeys :
    (updateCampaign { processedRows := some (campaign.processedRows + 1) }).Obeys countProtocol
      (fun _ stage => stage = .idle campaign) (.marked campaign) := by
  rw [updateCampaign, Program.call_bind]
  refine ⟨rfl, fun result => ?_⟩
  cases result with
  | error error => rfl
  | ok loaded =>
    cases loaded with
    | none => rfl
    | some row =>
      simp only [Program.proceed_ok]
      rw [Program.call_bind]
      refine ⟨rfl, fun result => ?_⟩
      cases result with
      | error error => rfl
      | ok _ =>
        have hRefresh : LeavesCount .refreshCampaign := trivial
        exact idle_obeys (Program.issues_call hRefresh) campaign

theorem processRuns_counts (polls : Nat → Polls) (queuedRuns runs : List QueuedRun)
    (processedRunIds : List Nat) :
    (processRuns campaign polls queuedRuns runs processedRunIds).Obeys countProtocol
      (fun _ stage => stage = .idle campaign) (.idle campaign) := by
  induction runs generalizing processedRunIds with
  | nil => rfl
  | cons run runs ih =>
    have hRun : ((processRun campaign (polls run.id) run).tryCatch fun error => do
        handleRunError queuedRuns processedRunIds run error
        return false).Obeys countProtocol (EndsMarked campaign) (.idle campaign) := by
      refine (processRun_counts campaign (polls run.id) run).tryCatch
        (fun _ _ hEnds => hEnds) fun error stage hIdle => ?_
      obtain rfl : stage = .idle campaign := hIdle
      exact (idle_obeys (handleRunError_issues queuedRuns processedRunIds run error) campaign).bind
        (fun _ _ hIdle => hIdle) fun _ _ hIdle => hIdle
    refine hRun.bind (fun processed stage hStage => ?_) fun error stage hStage => hStage
    cases processed with
    | true =>
      obtain rfl : stage = .marked campaign := hStage
      have hCount : ((updateCampaign { processedRows := some (campaign.processedRows + 1) }).tryCatch
          (handleRunError queuedRuns (run.id :: processedRunIds) run)).Obeys countProtocol
            (fun _ stage => stage = .idle campaign) (.marked campaign) := by
        refine (countRun_obeys campaign).tryCatch (fun _ _ hIdle => hIdle) ?_
        intro error stage hIdle
        rw [hIdle]
        exact idle_obeys (handleRunError_issues queuedRuns (run.id :: processedRunIds) run error)
          campaign
      refine hCount.bind ?_ fun _ _ hIdle => hIdle
      intro _ stage hIdle
      rw [hIdle]
      exact ih (run.id :: processedRunIds)
    | false =>
      obtain rfl : stage = .idle campaign := hStage
      exact ih processedRunIds

end Obeys

theorem processBatch_counts (batchSize : Nat) (polls : Nat → Polls) :
    (processBatch batchSize polls).Obeys countProtocol (fun _ _ => True) .start := by
  have hNow : LeavesCount .now := trivial
  have hClaim : ∀ now, LeavesCount (.claimQueuedRuns now batchSize) := fun _ => trivial
  rw [processBatch, getCampaignById, Program.call_bind]
  refine ⟨rfl, fun result => ?_⟩
  cases result with
  | error error => trivial
  | ok campaign =>
    cases campaign with
    | none => trivial
    | some campaign =>
      simp only [Program.proceed_ok]
      show Program.Obeys countProtocol _ _ (.idle campaign)
      split
      · refine (idle_obeys (Program.issues_call hNow) campaign).bind ?_ fun _ _ _ => trivial
        intro now stage hStage
        rw [hStage]
        refine (idle_obeys (Program.issues_call (hClaim now)) campaign).bind ?_ fun _ _ _ => trivial
        intro queuedRuns stage hStage
        rw [hStage]
        split
        · trivial
        · refine (idle_obeys (initializePool_issues campaign) campaign).bind ?_ fun _ _ _ => trivial
          intro _ stage hStage
          rw [hStage]
          exact (processRuns_counts campaign polls queuedRuns queuedRuns []).weaken
            fun _ _ _ => trivial
      · trivial

/-! ## The invariant -/

section Invariant

variable {ι : Type} {initial : Nat} {trace : CampaignTrace ι} {stages : ι → CountStage} {proc : ι}
  {command : CampaignCommand} {outcome : Outcome Error}

structure CountHolds [DecidableEq ι] (initial : Nat) (trace : CampaignTrace ι)
    (stages : ι → CountStage) : Prop where
  exact : ∃ (row : CampaignRow) (busy : Finset ι), trace.state.campaign = some row ∧
    (∀ proc, proc ∈ busy ↔ (stages proc).isCounting = true) ∧
    row.processedRows + busy.card = initial + (movedRuns trace.history).card
  settled : ∀ id ∈ movedRuns trace.history, (trace.state.status id).state = some .processed ∨
    (trace.state.status id).state = some .failed
  follows : ∀ proc, (stages proc).Follows (trace.own proc)

theorem movedRuns_after : movedRuns (trace.after proc command outcome).history =
    movedBy (.call proc command outcome trace.state) ∪ movedRuns trace.history := rfl

theorem movedRuns_after_of_ne (h : ∀ id, command ≠ .updateQueuedRun id .processed) :
    movedRuns (trace.after proc command outcome).history = movedRuns trace.history := by
  have hNone : movedBy (.call proc command outcome trace.state) = ∅ := by
    cases command with
    | updateQueuedRun id state =>
      cases state with
      | processed => exact absurd rfl (h id)
      | _ => rfl
    | _ => rfl
  rw [movedRuns_after, hNone, Finset.empty_union]

theorem ne_processed_of_leaves (h : LeavesCount command) (id : Nat) :
    command ≠ .updateQueuedRun id .processed := by
  rintro rfl
  cases h

theorem settled_execute {s : CampaignStore} {id : Nat}
    (hState : ∀ target state, command = .updateQueuedRun target state → state = .processed ∨ state = .failed)
    (h : (s.status id).state = some .processed ∨ (s.status id).state = some .failed) :
    ((s.execute command).2.status id).state = some .processed ∨
      ((s.execute command).2.status id).state = some .failed := by
  by_cases hTarget : id ∈ command.targets
  · cases command with
    | updateQueuedRun target state =>
      obtain rfl := List.mem_singleton.mp hTarget
      obtain ⟨found, hFound⟩ : ∃ found, (s.status id).state = some found := by
        obtain hEq | hEq := h <;> exact ⟨_, hEq⟩
      rw [status_updateQueuedRun, if_pos rfl]
      obtain rfl | rfl := hState id state rfl
      · exact .inl (by rw [hFound]; rfl)
      · exact .inr (by rw [hFound]; rfl)
    | returnProcessingQueuedRuns ids =>
      rw [status_return, if_neg]
      · exact h
      · rintro ⟨-, hProcessing⟩
        rw [hProcessing] at h
        simp at h
    | createWorkflowRun queuedRunId =>
      rw [status_createWorkflowRun]
      exact h
    | _ => cases hTarget
  · rw [status_execute hTarget]
    · exact h
    · obtain hEq | hEq := h <;> simp [hEq]
    · obtain hEq | hEq := h <;> simp [hEq]

theorem settles_of_permits {stage : CountStage} (h : countProtocol.permits stage command)
    (target : Nat) (state : QueuedRunState) (hCommand : command = .updateQueuedRun target state) :
    state = .processed ∨ state = .failed := by
  subst hCommand
  cases stage with
  | idle read =>
    obtain hLeaves | ⟨id, hEq⟩ := h
    · exact .inr hLeaves
    · exact .inl (CampaignCommand.updateQueuedRun.inj hEq).2
  | done => exact h.elim
  | _ => cases h

theorem settled_after (hPermits : countProtocol.permits (stages proc) command)
    (h : ∀ id ∈ movedRuns trace.history, (trace.state.status id).state = some .processed ∨
      (trace.state.status id).state = some .failed) : ∀ id ∈ movedRuns trace.history,
      ((trace.after proc command outcome).state.status id).state = some .processed ∨
        ((trace.after proc command outcome).state.status id).state = some .failed := by
  intro id hMoved
  rw [state_after]
  split
  · exact settled_execute (settles_of_permits hPermits) (h id hMoved)
  · exact h id hMoved

theorem campaign_leaves {row : CampaignRow} (hRow : trace.state.campaign = some row)
    (h : ∀ loaded changes, command = .commitCampaign loaded changes → changes.processedRows = none) :
    ∃ after, (trace.after proc command outcome).state.campaign = some after ∧
      after.processedRows = row.processedRows := by
  rw [state_after]
  split
  · cases command with
    | commitCampaign loaded changes =>
      have hNone := h loaded changes rfl
      exact ⟨row.write loaded changes, by simp [CampaignStore.execute, hRow],
        by simp [CampaignRow.write, hNone, written]⟩
    | incrementPoolExhausted =>
      exact ⟨{ row with
        phoneNumberPoolExhaustedAttempts := row.phoneNumberPoolExhaustedAttempts + 1 },
        by simp [CampaignStore.execute, hRow], rfl⟩
    | resetPoolExhausted =>
      exact ⟨{ row with phoneNumberPoolExhaustedAttempts := 0 },
        by simp only [CampaignStore.execute, hRow, Option.map_some], rfl⟩
    | createQueuedRun run => exact ⟨row, (campaign_createQueuedRun _ run).trans hRow, rfl⟩
    | _ => exact ⟨row, hRow, rfl⟩
  · exact ⟨row, hRow, rfl⟩

theorem campaign_environment {s s' : CampaignStore} {move : CampaignMove}
    (hMove : s.environment move = some s') {row : CampaignRow} (hRow : s.campaign = some row) :
    ∃ after, s'.campaign = some after ∧ after.processedRows = row.processedRows := by
  cases move with
  | redis move =>
    obtain ⟨keyspace, -, rfl⟩ := Option.map_eq_some_iff.mp hMove
    exact ⟨row, hRow, rfl⟩
  | answer answers =>
    cases hMove
    exact ⟨row, hRow, rfl⟩
  | draw random locked =>
    cases hMove
    exact ⟨row, hRow, rfl⟩
  | edit settings =>
    cases hMove
    simp only [CampaignStore.edit, hRow, Option.map_some]
    exact ⟨_, rfl, rfl⟩
  | insertQueuedRun run =>
    obtain ⟨-, hMove⟩ := Option.ite_none_right_eq_some.mp hMove
    cases hMove
    exact ⟨row, (campaign_createQueuedRun s run).trans hRow, rfl⟩

variable [DecidableEq ι]

theorem follows_after (h : ∀ proc, (stages proc).Follows (trace.own proc)) {stage : CountStage}
    (hStage : stage.Follows ((command, outcome, trace.state) :: trace.own proc)) (other : ι) :
    (Function.update stages proc stage other).Follows ((trace.after proc command outcome).own other) := by
  by_cases hOther : other = proc
  · subst hOther
    rw [Function.update_self, CampaignTrace.after, own_perform]
    exact hStage
  · rw [Function.update_of_ne hOther, CampaignTrace.after, own_perform_of_ne hOther]
    exact h other

theorem busy_insert {busy : Finset ι} (h : ∀ proc, proc ∈ busy ↔ (stages proc).isCounting = true)
    {stage : CountStage} (hStage : stage.isCounting = true) (other : ι) :
    other ∈ insert proc busy ↔ (Function.update stages proc stage other).isCounting = true := by
  by_cases hOther : other = proc
  · subst hOther
    simp [hStage]
  · simp [hOther, h other]

theorem busy_erase {busy : Finset ι} (h : ∀ proc, proc ∈ busy ↔ (stages proc).isCounting = true)
    {stage : CountStage} (hStage : stage.isCounting = false) (other : ι) :
    other ∈ busy.erase proc ↔ (Function.update stages proc stage other).isCounting = true := by
  by_cases hOther : other = proc
  · subst hOther
    simp [hStage]
  · simp [hOther, h other]

theorem campaignRead_cons {own : List (CampaignCommand × Outcome Error × CampaignStore)}
    {read : CampaignRow} (h : campaignRead own = some read)
    (call : CampaignCommand × Outcome Error × CampaignStore) : campaignRead (call :: own) = some read := by
  cases own with
  | nil => cases h
  | cons first rest =>
    rw [campaignRead, List.getLast?_cons_cons]
    exact h

theorem counting_of_follows {own : List (CampaignCommand × Outcome Error × CampaignStore)}
    {stage : CountStage} (h : stage.Follows own) (hStage : stage.isCounting = true) :
    counting own = true := by
  cases stage with
  | marked read => rw [counting, h.2, Bool.true_or]
  | loaded read row => rw [counting, h.2.1, Bool.or_true]
  | _ => cases hStage

theorem CountHolds.keeps (h : CountHolds initial trace stages) {stage : CountStage}
    (hBefore : (stages proc).isCounting = false) (hAfter : stage.isCounting = false)
    (hFollows : stage.Follows ((command, outcome, trace.state) :: trace.own proc))
    (hMoved : movedRuns (trace.after proc command outcome).history = movedRuns trace.history)
    (hPermits : countProtocol.permits (stages proc) command)
    (hCommit : ∀ loaded changes, command = .commitCampaign loaded changes → changes.processedRows = none) :
    CountHolds initial (trace.after proc command outcome) (Function.update stages proc stage) := by
  obtain ⟨row, busy, hRow, hBusy, hExact⟩ := h.exact
  obtain ⟨after, hRow', hSame⟩ := campaign_leaves hRow hCommit
  have hNotBusy : proc ∉ busy := by
    rw [hBusy, hBefore]
    exact Bool.false_ne_true
  constructor
  · refine ⟨after, busy.erase proc, hRow', busy_erase hBusy hAfter, ?_⟩
    rw [Finset.erase_eq_of_notMem hNotBusy, hMoved, hSame]
    exact hExact
  · rw [hMoved]
    exact settled_after hPermits h.settled
  · exact follows_after h.follows hFollows

theorem CountHolds.marks (h : CountHolds initial trace stages) {read : CampaignRow}
    (hIdle : stages proc = .idle read) {id : Nat}
    (hCall : (countsEachRun ι).call proc (.updateQueuedRun id .processed) outcome trace) :
    CountHolds initial (trace.after proc (.updateQueuedRun id .processed) outcome)
      (Function.update stages proc (countProtocol.next (.idle read)
        (.updateQueuedRun id .processed) ((campaignServices ι).recorded.perform proc
          (.updateQueuedRun id .processed) outcome trace).1)) := by
  have hPermits : countProtocol.permits (stages proc) (.updateQueuedRun id .processed) := by
    rw [hIdle]
    exact .inr ⟨id, rfl⟩
  have hRead : campaignRead (trace.own proc) = some read := by
    have hFollows := h.follows proc
    rw [hIdle] at hFollows
    exact hFollows
  have hBefore : (stages proc).isCounting = false := by rw [hIdle]; rfl
  cases hExecuted : outcome.executed with
  | false =>
    cases outcome with
    | reply => cases hExecuted
    | fail error applied =>
      obtain rfl : applied = false := hExecuted
      exact h.keeps hBefore rfl (campaignRead_cons hRead _) (Finset.empty_union _) hPermits
        (by rintro _ _ ⟨⟩)
  | true =>
    obtain ⟨rfl, hProcessing⟩ := hCall.1 hExecuted
    obtain ⟨row, busy, hRow, hBusy, hExact⟩ := h.exact
    have hFound : (trace.state.queuedRuns.lookup id).isSome = true := by
      obtain ⟨run, hRun, -⟩ := Option.map_eq_some_iff.mp hProcessing
      rw [hRun]
      rfl
    have hNext : countProtocol.next (.idle read) (.updateQueuedRun id .processed)
        ((campaignServices ι).recorded.perform proc (.updateQueuedRun id .processed) .reply
          trace).1 = .marked read := by
      show countProtocol.next (.idle read) (.updateQueuedRun id .processed)
        (.ok (trace.state.queuedRuns.lookup id).isSome) = .marked read
      rw [hFound]
      rfl
    have hMoved : movedRuns (trace.after proc (.updateQueuedRun id .processed) .reply).history =
        insert id (movedRuns trace.history) := by
      rw [movedRuns_after, movedBy, hProcessing]
      rfl
    have hNew : id ∉ movedRuns trace.history := by
      intro hMem
      have hSettled := h.settled id hMem
      rw [hProcessing] at hSettled
      simp at hSettled
    have hNotBusy : proc ∉ busy := by
      rw [hBusy, hBefore]
      exact Bool.false_ne_true
    rw [hNext]
    constructor
    · refine ⟨row, insert proc busy, hRow, busy_insert hBusy rfl, ?_⟩
      rw [hMoved, Finset.card_insert_of_notMem hNew, Finset.card_insert_of_notMem hNotBusy]
      omega
    · rw [hMoved]
      intro other hOther
      obtain rfl | hEarlier := Finset.mem_insert.mp hOther
      · left
        show ((trace.state.execute (.updateQueuedRun other .processed)).2.status other).state = _
        rw [status_updateQueuedRun, if_pos rfl, hProcessing]
        rfl
      · exact settled_after hPermits h.settled other hEarlier
    · exact follows_after h.follows ⟨campaignRead_cons hRead _, rfl⟩

theorem CountHolds.loads (h : CountHolds initial trace stages) {read : CampaignRow}
    (hMarked : stages proc = .marked read) (hCall : (countsEachRun ι).call proc .loadCampaign outcome trace) :
    CountHolds initial (trace.after proc .loadCampaign outcome)
      (Function.update stages proc (countProtocol.next (.marked read) .loadCampaign
        ((campaignServices ι).recorded.perform proc .loadCampaign outcome trace).1)) := by
  obtain ⟨row, busy, hRow, hBusy, hExact⟩ := h.exact
  have hFollows := h.follows proc
  rw [hMarked] at hFollows
  obtain ⟨hRead, hJust⟩ := hFollows
  obtain ⟨rfl, hSame⟩ := hCall.2 (by rw [counting, hJust, Bool.true_or])
  rw [hRow, hRead] at hSame
  have hNext : countProtocol.next (.marked read) .loadCampaign
      ((campaignServices ι).recorded.perform proc .loadCampaign .reply trace).1 =
        .loaded read row := by
    show countProtocol.next (.marked read) .loadCampaign (.ok trace.state.campaign) = _
    rw [hRow]
    rfl
  have hBusyProc : proc ∈ busy := by
    rw [hBusy, hMarked]
    rfl
  have hMoved : movedRuns (trace.after proc .loadCampaign .reply).history =
      movedRuns trace.history := movedRuns_after_of_ne fun _ => CampaignCommand.noConfusion
  rw [hNext]
  constructor
  · refine ⟨row, insert proc busy, hRow, busy_insert hBusy rfl, ?_⟩
    rw [hMoved, Finset.insert_eq_of_mem hBusyProc]
    exact hExact
  · rw [hMoved]
    exact h.settled
  · exact follows_after h.follows
      ⟨campaignRead_cons hRead _, hJust, Option.some.inj hSame⟩

theorem CountHolds.counts (h : CountHolds initial trace stages) {read loaded : CampaignRow}
    (hLoaded : stages proc = .loaded read loaded) (hCall : (countsEachRun ι).call proc (.commitCampaign loaded
      { processedRows := some (read.processedRows + 1) }) outcome trace) :
    CountHolds initial (trace.after proc (.commitCampaign loaded
        { processedRows := some (read.processedRows + 1) }) outcome)
      (Function.update stages proc (.idle read)) := by
  obtain ⟨row, busy, hRow, hBusy, hExact⟩ := h.exact
  have hPermits : countProtocol.permits (stages proc)
      (.commitCampaign loaded { processedRows := some (read.processedRows + 1) }) := by
    rw [hLoaded]
    rfl
  have hFollows := h.follows proc
  rw [hLoaded] at hFollows
  obtain ⟨hRead, hJust, hUnchanged⟩ := hFollows
  obtain ⟨rfl, hSame⟩ := hCall.2 (by rw [counting, hJust, Bool.or_true])
  rw [hRow, hRead] at hSame
  have hStored : row.processedRows = read.processedRows := Option.some.inj hSame
  have hBusyProc : proc ∈ busy := by
    rw [hBusy, hLoaded]
    rfl
  have hMoved : movedRuns (trace.after proc (.commitCampaign loaded
      { processedRows := some (read.processedRows + 1) }) .reply).history =
        movedRuns trace.history := movedRuns_after_of_ne fun _ => CampaignCommand.noConfusion
  have hDiffers : read.processedRows + 1 ≠ loaded.processedRows := by omega
  have hWritten : (row.write loaded
      { processedRows := some (read.processedRows + 1) }).processedRows =
        row.processedRows + 1 := by
    show written row.processedRows loaded.processedRows (some (read.processedRows + 1)) = _
    rw [written, if_neg hDiffers, hStored]
  have hAfter : (trace.after proc (.commitCampaign loaded
      { processedRows := some (read.processedRows + 1) }) .reply).state.campaign =
        some (row.write loaded { processedRows := some (read.processedRows + 1) }) := by
    show trace.state.campaign.map _ = _
    rw [hRow]
    rfl
  constructor
  · refine ⟨_, busy.erase proc, hAfter, busy_erase hBusy rfl, ?_⟩
    have hCard : (busy.erase proc).card + 1 = busy.card := Finset.card_erase_add_one hBusyProc
    rw [hMoved, hWritten]
    omega
  · rw [hMoved]
    exact settled_after hPermits h.settled
  · exact follows_after h.follows (campaignRead_cons hRead _)

theorem CountHolds.reads (h : CountHolds initial trace stages) (hStart : stages proc = .start) :
    CountHolds initial (trace.after proc .getCampaignById outcome)
      (Function.update stages proc (countProtocol.next .start .getCampaignById
        ((campaignServices ι).recorded.perform proc .getCampaignById outcome trace).1)) := by
  have hMoved : movedRuns (trace.after proc .getCampaignById outcome).history =
      movedRuns trace.history := movedRuns_after_of_ne fun _ => CampaignCommand.noConfusion
  have hPermits : countProtocol.permits (stages proc) .getCampaignById := by
    rw [hStart]
    rfl
  have hBefore : (stages proc).isCounting = false := by rw [hStart]; rfl
  have hFollows := h.follows proc
  rw [hStart] at hFollows
  have hEmpty : trace.own proc = [] := hFollows
  cases outcome with
  | fail error applied =>
    exact h.keeps hBefore rfl trivial hMoved hPermits (by rintro _ _ ⟨⟩)
  | reply =>
    obtain ⟨row, -, hRow, -, -⟩ := h.exact
    have hNext : countProtocol.next .start .getCampaignById
        ((campaignServices ι).recorded.perform proc .getCampaignById .reply trace).1 =
          .idle row := by
      show countProtocol.next .start .getCampaignById (.ok trace.state.campaign) = _
      rw [hRow]
      rfl
    rw [hNext]
    refine h.keeps hBefore rfl ?_ hMoved hPermits (by rintro _ _ ⟨⟩)
    rw [hEmpty]
    exact hRow

theorem CountHolds.call (h : CountHolds initial trace stages)
    (hPermits : countProtocol.permits (stages proc) command)
    (hCall : (countsEachRun ι).call proc command outcome trace) :
    CountHolds initial (trace.after proc command outcome)
      (Function.update stages proc (countProtocol.next (stages proc) command
        ((campaignServices ι).recorded.perform proc command outcome trace).1)) := by
  have hStagePermits := hPermits
  cases hStage : stages proc with
  | start =>
    rw [hStage] at hPermits
    obtain rfl : command = .getCampaignById := hPermits
    exact h.reads hStage
  | done =>
    rw [hStage] at hPermits
    exact hPermits.elim
  | idle read =>
    rw [hStage] at hPermits
    obtain hLeaves | ⟨id, rfl⟩ := hPermits
    · have hFollows := h.follows proc
      rw [hStage] at hFollows
      rw [next_leavesCount hLeaves]
      refine h.keeps (by rw [hStage]; rfl) rfl (campaignRead_cons hFollows _)
        (movedRuns_after_of_ne (ne_processed_of_leaves hLeaves)) hStagePermits ?_
      rintro _ _ rfl
      exact hLeaves
    · exact h.marks hStage hCall
  | marked read =>
    rw [hStage] at hPermits
    obtain rfl : command = .loadCampaign := hPermits
    exact h.loads hStage hCall
  | loaded read row =>
    rw [hStage] at hPermits
    obtain rfl : command = .commitCampaign row
      { processedRows := some (read.processedRows + 1) } := hPermits
    exact h.counts hStage hCall

theorem CountHolds.environment (h : CountHolds initial trace stages) {move : CampaignMove}
    {after : CampaignTrace ι} (hMove : (campaignServices ι).recorded.environment move trace = some after) :
    CountHolds initial after stages := by
  obtain ⟨row, busy, hRow, hBusy, hExact⟩ := h.exact
  have hState := environment_recorded hMove
  have hMoved : movedRuns after.history = movedRuns trace.history := by
    obtain ⟨state, -, rfl⟩ := Option.map_eq_some_iff.mp hMove
    show ∅ ∪ movedRuns trace.history = movedRuns trace.history
    exact Finset.empty_union _
  constructor
  · obtain ⟨edited, hEdited, hSame⟩ := campaign_environment hState hRow
    refine ⟨edited, busy, hEdited, hBusy, ?_⟩
    rw [hMoved, hSame]
    exact hExact
  · rw [hMoved]
    intro id hMem
    have hSettled := h.settled id hMem
    rw [status_environment hState]
    · exact hSettled
    · obtain hEq | hEq := hSettled <;> simp [hEq]
  · intro proc
    rw [own_environment hMove]
    exact h.follows proc

end Invariant

/-- The counter is exact whenever no batch is between marking a run and counting it. -/
theorem processed_rows_exact {ι : Type} [DecidableEq ι] (batches : ι → Nat × (Nat → Polls))
    {start : CampaignStore} {row : CampaignRow} (hRow : start.campaign = some row)
    {last : Config ι CampaignCommand.Reply Error Nat (CampaignTrace ι)}
    {events : List (Event ι Error CampaignMove)}
    (hFollows : (campaignServices ι).recorded.Follows (countsEachRun ι)
      ⟨⟨start, []⟩, fun proc => processBatch (batches proc).1 (batches proc).2⟩ events)
    (hRun : (campaignServices ι).recorded.run
      ⟨⟨start, []⟩, fun proc => processBatch (batches proc).1 (batches proc).2⟩ events = some last)
    (hQuiet : ∀ proc, counting (last.shared.own proc) = false) :
    ∃ after, last.shared.state.campaign = some after ∧
      after.processedRows = row.processedRows + (movedRuns last.shared.history).card := by
  have hStart : CountHolds row.processedRows (⟨start, []⟩ : CampaignTrace ι) fun _ => .start := by
    constructor
    · exact ⟨row, ∅, hRow, by simp [CountStage.isCounting], rfl⟩
    · intro id hMem
      cases hMem
    · exact fun _ => rfl
  obtain ⟨stages, hHolds, -⟩ := System.ghost_invariant
    (P := fun _ => countProtocol) (J := CountHolds row.processedRows)
    (fun proc command outcome trace stages h hPermits hCall => h.call hPermits hCall)
    (fun move trace after stages h _ hMove => h.environment hMove) hFollows hRun
    (fun proc => processBatch_counts (batches proc).1 (batches proc).2) hStart
  obtain ⟨after, busy, hAfter, hBusy, hExact⟩ := hHolds.exact
  have hNone : busy = ∅ := by
    apply Finset.eq_empty_of_forall_notMem
    intro proc hMem
    have hCounting := counting_of_follows (hHolds.follows proc) ((hBusy proc).mp hMem)
    rw [hQuiet proc] at hCounting
    cases hCounting
  refine ⟨after, hAfter, ?_⟩
  rw [hNone, Finset.card_empty, Nat.add_zero] at hExact
  exact hExact

def twoRowsStore : CampaignStore :=
  { CampaignStore.fresh ⟨1, UnixTime.one_pos⟩ (.plain .running)
      [dialledRun, { dialledRun with id := 2, sourceUuid := "csv_2" }] 0 with
    answers := dialledStore.answers }

def fortyMinutesLater : Event Bool Error CampaignMove :=
  .environment (.redis (.advance ⟨2401, by decide⟩))

def batchesOf (batchSize : Nat) : Bool → Nat × (Nat → Polls) := fun _ =>
  (batchSize, fun _ => ⟨0, 0, 0⟩)

def oneAfterTheOther : List (Event Bool Error CampaignMove) :=
  List.replicate 25 (.resume true .reply) ++ fortyMinutesLater ::
    List.replicate 25 (.resume false .reply)

def oneBatchOfTwo : List (Event Bool Error CampaignMove) :=
  List.replicate 25 (.resume true .reply) ++ fortyMinutesLater ::
    List.replicate 19 (.resume true .reply)

theorem processed_rows_exact_twice :
    ∃ (last : Config Bool CampaignCommand.Reply Error Nat (CampaignTrace Bool))
      (after : CampaignRow),
      (campaignServices Bool).recorded.run ⟨⟨twoRowsStore, []⟩, fun proc =>
        processBatch (batchesOf 1 proc).1 (batchesOf 1 proc).2⟩ oneAfterTheOther = some last ∧
      last.shared.state.campaign = some after ∧ after.processedRows = 2 := by
  have hEnds : ((campaignServices Bool).recorded.run ⟨⟨twoRowsStore, []⟩, fun proc =>
      processBatch (batchesOf 1 proc).1 (batchesOf 1 proc).2⟩ oneAfterTheOther).any (fun last =>
        decide (∀ proc, counting (last.shared.own proc) = false) &&
          decide ((movedRuns last.shared.history).card = 2)) = true := by decide +kernel
  obtain ⟨last, hRun, hLast⟩ := (Option.any_eq_true _ _).mp hEnds
  obtain ⟨hQuiet, hMoved⟩ := Bool.and_eq_true_iff.mp hLast
  have hRow : twoRowsStore.campaign = some (.plain .running) := rfl
  obtain ⟨after, hAfter, hExact⟩ := processed_rows_exact (batchesOf 1) hRow (by decide +kernel)
    hRun (of_decide_eq_true hQuiet)
  rw [of_decide_eq_true hMoved] at hExact
  exact ⟨last, after, hRun, hAfter, hExact⟩

theorem processed_rows_lost :
    ¬∀ (batches : Bool → Nat × (Nat → Polls)) (start : CampaignStore) (row : CampaignRow),
      start.campaign = some row →
      ∀ (last : Config Bool CampaignCommand.Reply Error Nat (CampaignTrace Bool))
        (events : List (Event Bool Error CampaignMove)),
      (campaignServices Bool).recorded.Follows .reliable
        ⟨⟨start, []⟩, fun proc => processBatch (batches proc).1 (batches proc).2⟩ events →
      (campaignServices Bool).recorded.run
        ⟨⟨start, []⟩, fun proc => processBatch (batches proc).1 (batches proc).2⟩ events =
          some last →
      (∀ proc, counting (last.shared.own proc) = false) →
      ∃ after, last.shared.state.campaign = some after ∧
        after.processedRows = row.processedRows + (movedRuns last.shared.history).card := by
  intro hAll
  have hEnds : ((campaignServices Bool).recorded.run ⟨⟨twoRowsStore, []⟩, fun proc =>
      processBatch (batchesOf 2 proc).1 (batchesOf 2 proc).2⟩
        oneBatchOfTwo).any (fun last =>
          decide (∀ proc, counting (last.shared.own proc) = false) &&
            (decide ((movedRuns last.shared.history).card = 2) &&
              decide (last.shared.state.campaign.map CampaignRow.processedRows = some 1))) =
                true := by decide +kernel
  obtain ⟨last, hRun, hLast⟩ := (Option.any_eq_true _ _).mp hEnds
  obtain ⟨hQuiet, hCounts⟩ := Bool.and_eq_true_iff.mp hLast
  obtain ⟨hMoved, hStored⟩ := Bool.and_eq_true_iff.mp hCounts
  obtain ⟨after, hAfter, hExact⟩ := hAll (batchesOf 2) twoRowsStore _ rfl last
    oneBatchOfTwo (by decide +kernel) hRun (of_decide_eq_true hQuiet)
  have hOne := of_decide_eq_true hStored
  rw [of_decide_eq_true hMoved] at hExact
  rw [hAfter, Option.map_some, hExact] at hOne
  exact absurd (Option.some.inj hOne) (by decide)

end FastVoice.Campaign
