import Mathlib.Data.List.TakeWhile
import FastVoice.Campaign.BatchExit

/-! # When a campaign fails for its number pool

Batches of one campaign that run one after the other, each interrupted in any way. The counter of
attempts goes up with each batch that ends in pool exhaustion, and only a batch that processed a run
and returned sets it back.
-/
namespace FastVoice.Campaign
open Async

abbrev BatchTrace := CampaignTrace Unit

structure BatchRun where
  batchSize : Nat
  polls : Nat → Polls
  events : List (Event Unit Error CampaignMove)

def BatchRun.run (batch : BatchRun) (s : CampaignStore) : Option BatchTrace :=
  ((campaignServices Unit).recorded.run
    ⟨⟨s, []⟩, fun _ => processCampaignBatch batch.batchSize batch.polls⟩ batch.events).bind
      fun last => if (last.procs ()).finished then some last.shared else none

structure BatchReport where
  found : CampaignStore
  trace : BatchTrace

def storeAfter (start : CampaignStore) (reports : List BatchReport) : CampaignStore :=
  reports.head?.elim start fun report => report.trace.state

def runBatches (start : CampaignStore) : List BatchRun → Option (List BatchReport)
  | [] => some []
  | batch :: earlier =>
    (runBatches start earlier).bind fun reports =>
      (batch.run (storeAfter start reports)).map fun trace =>
        ⟨storeAfter start reports, trace⟩ :: reports

namespace CampaignCommand

def countsAttempt : CampaignCommand → Bool
  | .incrementPoolExhausted => true
  | _ => false

def resetsAttempts : CampaignCommand → Bool
  | .resetPoolExhausted => true
  | _ => false

def failsCampaign : CampaignCommand → Bool
  | .commitCampaign _ changes => changes.state = some .failed
  | _ => false

end CampaignCommand

def issuedIn (trace : BatchTrace) (kind : CampaignCommand → Bool) : Bool :=
  trace.history.any fun
    | .call _ command _ _ => kind command
    | .environment _ _ => false

def executedIn (trace : BatchTrace) (kind : CampaignCommand → Bool) : Bool :=
  trace.history.any fun
    | .call _ command outcome _ => kind command && outcome.executed
    | .environment _ _ => false

namespace BatchReport

def exhausted (report : BatchReport) : Bool := issuedIn report.trace CampaignCommand.countsAttempt

def placedCall (report : BatchReport) : Bool := executedIn report.trace CampaignCommand.placesCall

/-- The batch set the campaign to `failed` in the handler of pool exhaustion. -/
def failedForPool (report : BatchReport) : Bool :=
  report.exhausted && executedIn report.trace CampaignCommand.failsCampaign

def noProgress (report : BatchReport) : Bool := report.exhausted && !report.placedCall

end BatchReport

def CampaignStore.attempts (s : CampaignStore) : Nat :=
  s.campaign.elim 0 CampaignRow.phoneNumberPoolExhaustedAttempts

/-- An exhausted batch placed no call before, and any other batch that finds attempts resets them. -/
structure BatchReport.Consecutive (report : BatchReport) : Prop where
  exhausted : report.exhausted = true → report.placedCall = false
  other : report.exhausted = false → report.found.attempts ≠ 0 →
    executedIn report.trace CampaignCommand.resetsAttempts = true

instance (report : BatchReport) : Decidable report.Consecutive :=
  decidable_of_iff ((report.exhausted = true → report.placedCall = false) ∧
    (report.exhausted = false → report.found.attempts ≠ 0 →
      executedIn report.trace CampaignCommand.resetsAttempts = true))
    ⟨fun h => ⟨h.1, h.2⟩, fun h => ⟨h.exhausted, h.other⟩⟩

inductive AttemptStage where
  | working
  | counted (attempt : Option Nat)
  | failing

def attemptProtocol : Protocol CampaignCommand.Reply Error AttemptStage where
  permits stage command :=
    match stage with
    | .working => True
    | .counted attempt => command.countsAttempt = false ∧ command.resetsAttempts = false ∧
      (command.failsCampaign = true →
        ∃ number ∈ attempt, maxPhoneNumberPoolExhaustedAttempts ≤ number)
    | .failing => command.countsAttempt = false
  next stage command result :=
    match stage, command, result with
    | .working, .incrementPoolExhausted, .ok attempt => .counted (some attempt)
    | .working, .incrementPoolExhausted, .error _ => .counted none
    | .working, .commitCampaign _ changes, _ =>
      if changes.state = some .failed then .failing else .working
    | stage, _, _ => stage

def LeavesAttempts (command : CampaignCommand) : Prop :=
  command.countsAttempt = false ∧ command.resetsAttempts = false ∧ command.failsCampaign = false

instance : Batches LeavesAttempts where
  redis _ := ⟨rfl, rfl, rfl⟩
  breaker _ := ⟨rfl, rfl, rfl⟩
  service _ := ⟨rfl, rfl, rfl⟩
  now := ⟨rfl, rfl, rfl⟩
  getCampaignById := ⟨rfl, rfl, rfl⟩
  loadCampaign := ⟨rfl, rfl, rfl⟩
  refreshCampaign := ⟨rfl, rfl, rfl⟩
  pauses _ := ⟨rfl, rfl, rfl⟩
  creates _ := ⟨rfl, rfl, rfl⟩
  fails _ := ⟨rfl, rfl, rfl⟩
  returns _ := ⟨rfl, rfl, rfl⟩
  claims _ _ := ⟨rfl, rfl, rfl⟩
  processes _ := ⟨rfl, rfl, rfl⟩
  counts _ _ := ⟨rfl, rfl, rfl⟩

theorem next_stays {command : CampaignCommand} (hCounts : command.countsAttempt = false)
    (hFails : command.failsCampaign = false) (stage : AttemptStage)
    (result : Except Error command.Reply) : attemptProtocol.next stage command result = stage := by
  cases stage with
  | working =>
    cases command with
    | incrementPoolExhausted => cases hCounts
    | commitCampaign loaded changes => exact if_neg (of_decide_eq_false hFails)
    | _ => rfl
  | counted attempt => rfl
  | failing => rfl

theorem permits_leaves {command : CampaignCommand} (h : LeavesAttempts command)
    (stage : AttemptStage) : attemptProtocol.permits stage command := by
  obtain ⟨hCounts, hResets, hFails⟩ := h
  cases stage with
  | working => trivial
  | counted attempt => exact ⟨hCounts, hResets, fun hEq => absurd (hFails.symm.trans hEq) (by decide)⟩
  | failing => exact hCounts

theorem leaves_obeys {α : Type} {program : CampaignMethod α} (h : program.Issues LeavesAttempts)
    (stage : AttemptStage) : program.Obeys attemptProtocol (fun _ after => after = stage) stage := by
  have hObeys := h.obeys (P := attemptProtocol) (T := fun after => after = stage) (t := stage)
    (fun after command hAfter hLeaves => ⟨permits_leaves hLeaves after, fun result =>
      (next_stays hLeaves.1 hLeaves.2.2 after result).trans hAfter⟩) rfl
  exact hObeys

theorem updateFailed_obeys (stage : AttemptStage) (hPermits : ∀ loaded,
    attemptProtocol.permits stage (.commitCampaign loaded { state := some .failed })) :
    (updateCampaign { state := some .failed }).Obeys attemptProtocol (fun _ _ => True) stage := by
  have hLoad : LeavesAttempts .loadCampaign := Reads.loadCampaign
  refine (leaves_obeys (Program.issues_call hLoad) stage).bind ?_ fun _ _ _ => trivial
  intro loaded after hAfter
  rw [hAfter]
  cases loaded with
  | none => trivial
  | some loaded =>
    have hCommit : (Program.call (CampaignCommand.commitCampaign loaded
        { state := some .failed }) : CampaignMethod Unit).Obeys attemptProtocol
        (fun _ _ => True) stage := Program.obeys_call (hPermits loaded) fun _ => trivial
    refine hCommit.bind (fun _ after _ => ?_) fun _ _ _ => trivial
    have hRefresh : LeavesAttempts .refreshCampaign := Reads.refreshCampaign
    exact (leaves_obeys (Program.issues_call hRefresh) after).weaken fun _ _ _ => trivial

theorem failBatch_obeys (stage : AttemptStage) (hPermits : ∀ loaded,
    attemptProtocol.permits stage (.commitCampaign loaded { state := some .failed }))
    (event : String) (error : Error) :
    (failBatch event error).Obeys attemptProtocol (fun _ _ => True) stage := by
  refine (leaves_obeys (service_issues _) stage).bind ?_ fun _ _ _ => trivial
  intro _ after hAfter
  rw [hAfter]
  refine (updateFailed_obeys stage hPermits).bind (fun _ after _ => ?_) fun _ _ _ => trivial
  exact ((leaves_obeys (service_issues _) after).bind (fun _ _ _ => trivial) fun _ _ _ => trivial)

theorem handleBatchError_obeys (batchSize : Nat) (error : Error) :
    (handleBatchError batchSize error).Obeys attemptProtocol (fun _ _ => True) .working := by
  have hOther : ∀ error, (do
      service .getCampaignEventPublisher
      failBatch "batch_failed" error : CampaignMethod Unit).Obeys attemptProtocol
        (fun _ _ => True) .working := by
    intro error
    refine (leaves_obeys (service_issues _) .working).bind ?_ fun _ _ _ => trivial
    rintro _ _ rfl
    exact failBatch_obeys .working (fun _ => trivial) _ _
  cases error with
  | cancelledError => trivial
  | phoneNumberPoolExhaustedError organizationId =>
    rw [handleBatchError, Program.call_bind]
    refine ⟨trivial, fun result => ?_⟩
    cases result with
    | error error => trivial
    | ok attempt =>
      refine (leaves_obeys (service_issues _) (.counted (some attempt))).bind ?_ fun _ _ _ => trivial
      rintro _ _ rfl
      split
      · refine ((leaves_obeys ?_ _).weaken fun _ _ _ => trivial)
        exact (service_issues _).bind fun _ => service_issues _
      · rename_i hLimit
        exact failBatch_obeys (.counted (some attempt))
          (fun _ => ⟨rfl, rfl, fun _ => ⟨attempt, rfl, not_lt.mp hLimit⟩⟩) _ _
  | _ => exact hOther _

theorem processCampaignBatch_attempts (batchSize : Nat) (polls : Nat → Polls) :
    (processCampaignBatch batchSize polls).Obeys attemptProtocol (fun _ _ => True) .working := by
  have hReset : ∀ processedCount, (resetCounter processedCount).Obeys attemptProtocol
      (fun _ after => after = .working) .working := by
    intro processedCount
    rw [resetCounter]
    split
    · exact Program.obeys_call trivial fun _ => rfl
    · rfl
  have hTry : (do
      let processedCount ← processBatch batchSize polls
      resetCounter processedCount
      publish (.batchCompleted processedCount batchSize) : CampaignMethod Unit).Obeys
        attemptProtocol (fun _ after => after = .working) .working := by
    refine (leaves_obeys (processBatch_issues batchSize polls) .working).bind ?_ fun _ _ hSame => hSame
    rintro processedCount _ rfl
    refine (hReset processedCount).bind ?_ fun _ _ hSame => hSame
    rintro _ _ rfl
    exact leaves_obeys (publish_issues _) .working
  refine hTry.tryCatch (fun _ _ _ => trivial) ?_
  rintro error _ rfl
  exact handleBatchError_obeys batchSize error

section

variable {initial : Nat} {trace trace' : BatchTrace} {stage : AttemptStage}

def AttemptHolds (initial : Nat) (trace : BatchTrace) : AttemptStage → Prop
  | .working => issuedIn trace CampaignCommand.countsAttempt = false ∧
      executedIn trace CampaignCommand.failsCampaign = false ∧
      trace.state.attempts =
        if executedIn trace CampaignCommand.resetsAttempts then 0 else initial
  | .counted attempt => issuedIn trace CampaignCommand.countsAttempt = true ∧
      trace.state.attempts ≤ initial + 1 ∧ (∀ number ∈ attempt, number ≤ initial + 1) ∧
      (executedIn trace CampaignCommand.failsCampaign = true →
        ∃ number ∈ attempt, maxPhoneNumberPoolExhaustedAttempts ≤ number)
  | .failing => issuedIn trace CampaignCommand.countsAttempt = false ∧
      trace.state.attempts =
        if executedIn trace CampaignCommand.resetsAttempts then 0 else initial

theorem attempts_execute {command : CampaignCommand} (h : command.countsAttempt = false)
    (s : CampaignStore) : (s.execute command).2.attempts =
      if command.resetsAttempts then 0 else s.attempts := by
  cases command with
  | incrementPoolExhausted => cases h
  | resetPoolExhausted =>
    simp only [CampaignStore.execute, CampaignStore.attempts]
    cases s.campaign <;> rfl
  | commitCampaign loaded changes =>
    simp only [CampaignStore.execute, CampaignStore.attempts]
    cases s.campaign <;> rfl
  | createQueuedRun run =>
    exact congrArg (fun campaign : Option CampaignRow =>
      campaign.elim 0 CampaignRow.phoneNumberPoolExhaustedAttempts) (campaign_createQueuedRun s run)
  | _ => rfl

theorem attempts_increment (s : CampaignStore) : (s.execute .incrementPoolExhausted).1 = s.attempts + 1 ∧
      (s.execute .incrementPoolExhausted).2.attempts ≤ s.attempts + 1 := by
  refine ⟨rfl, ?_⟩
  simp only [CampaignStore.execute, CampaignStore.attempts]
  cases s.campaign with
  | none => exact Nat.zero_le _
  | some row => exact Nat.le_refl _

theorem attempts_environment {s s' : CampaignStore} {move : CampaignMove}
    (h : s.environment move = some s') : s'.attempts = s.attempts := by
  cases move with
  | redis move =>
    obtain ⟨keyspace, -, rfl⟩ := Option.map_eq_some_iff.mp h
    rfl
  | answer answers =>
    cases h
    rfl
  | draw random locked =>
    cases h
    rfl
  | edit settings =>
    cases h
    simp only [CampaignStore.edit, CampaignStore.attempts]
    cases s.campaign <;> rfl
  | insertQueuedRun run =>
    obtain ⟨-, hMove⟩ := Option.ite_none_right_eq_some.mp h
    cases hMove
    exact congrArg (fun campaign : Option CampaignRow =>
      campaign.elim 0 CampaignRow.phoneNumberPoolExhaustedAttempts) (campaign_createQueuedRun s run)

theorem issuedIn_after (kind : CampaignCommand → Bool) (command : CampaignCommand)
    (outcome : Outcome Error) : issuedIn (trace.after () command outcome) kind =
      (kind command || issuedIn trace kind) := rfl

theorem executedIn_after (kind : CampaignCommand → Bool) (command : CampaignCommand)
    (outcome : Outcome Error) : executedIn (trace.after () command outcome) kind =
      (kind command && outcome.executed || executedIn trace kind) := rfl

theorem attempts_after {command : CampaignCommand} (h : command.countsAttempt = false)
    (outcome : Outcome Error) : (trace.after () command outcome).state.attempts =
      if command.resetsAttempts && outcome.executed then 0 else trace.state.attempts := by
  rw [state_after]
  cases outcome.executed with
  | false => simp
  | true => simp [attempts_execute h]

theorem resets_after {command : CampaignCommand} (h : command.countsAttempt = false)
    (hAttempts : trace.state.attempts =
      if executedIn trace CampaignCommand.resetsAttempts then 0 else initial)
    (outcome : Outcome Error) : (trace.after () command outcome).state.attempts =
      if executedIn (trace.after () command outcome) CampaignCommand.resetsAttempts then 0 else initial := by
  rw [attempts_after h, hAttempts, executedIn_after]
  cases command.resetsAttempts && outcome.executed <;> rfl

theorem attempts_le_of_resets (h : trace.state.attempts =
    if executedIn trace CampaignCommand.resetsAttempts then 0 else initial) :
    trace.state.attempts ≤ initial := by
  rw [h]
  split
  · exact Nat.zero_le _
  · exact Nat.le_refl _

theorem attemptHolds_increment (h : AttemptHolds initial trace .working) (outcome : Outcome Error) :
    AttemptHolds initial (trace.after () .incrementPoolExhausted outcome)
      (attemptProtocol.next .working .incrementPoolExhausted
        ((campaignServices Unit).perform () .incrementPoolExhausted outcome trace.state).1) := by
  obtain ⟨-, hFails, hAttempts⟩ := h
  have hFound := attempts_le_of_resets hAttempts
  obtain ⟨hReply, hAfter⟩ := attempts_increment trace.state
  have hBound : (trace.after () .incrementPoolExhausted outcome).state.attempts ≤ initial + 1 := by
    rw [state_after]
    split <;> omega
  have hUnfailed : executedIn (trace.after () .incrementPoolExhausted outcome)
      CampaignCommand.failsCampaign = false := by
    rw [executedIn_after, hFails]
    rfl
  cases outcome with
  | reply =>
    refine ⟨rfl, hBound, ?_, fun hEq => absurd (hUnfailed.symm.trans hEq) (by decide)⟩
    intro number hNumber
    obtain rfl := Option.some.inj hNumber
    exact hReply.trans_le (Nat.succ_le_succ hFound)
  | fail error applied =>
    refine ⟨rfl, hBound, ?_, fun hEq => absurd (hUnfailed.symm.trans hEq) (by decide)⟩
    rintro number ⟨⟩

theorem attemptHolds_working (h : AttemptHolds initial trace .working) (command : CampaignCommand)
    (outcome : Outcome Error) : AttemptHolds initial (trace.after () command outcome)
      (attemptProtocol.next .working command
        ((campaignServices Unit).perform () command outcome trace.state).1) := by
  cases hCounts : command.countsAttempt with
  | true =>
    cases command with
    | incrementPoolExhausted => exact attemptHolds_increment h outcome
    | _ => cases hCounts
  | false =>
    obtain ⟨hIssued, hFails, hAttempts⟩ := h
    have hReset := resets_after hCounts hAttempts outcome
    have hUncounted : issuedIn (trace.after () command outcome)
        CampaignCommand.countsAttempt = false := by
      rw [issuedIn_after, hCounts, hIssued]
      rfl
    cases hFailing : command.failsCampaign with
    | true =>
      cases command with
      | commitCampaign loaded changes =>
        have hNext : attemptProtocol.next .working (.commitCampaign loaded changes)
            ((campaignServices Unit).perform () (.commitCampaign loaded changes) outcome
              trace.state).1 = .failing := if_pos (of_decide_eq_true hFailing)
        rw [hNext]
        exact ⟨hUncounted, hReset⟩
      | _ => cases hFailing
    | false =>
      rw [next_stays hCounts hFailing]
      refine ⟨hUncounted, ?_, hReset⟩
      rw [executedIn_after, hFailing, hFails]
      rfl

theorem attemptHolds_call (h : AttemptHolds initial trace stage) {command : CampaignCommand}
    (hPermits : attemptProtocol.permits stage command) (outcome : Outcome Error) :
    AttemptHolds initial (trace.after () command outcome) (attemptProtocol.next stage command
      ((campaignServices Unit).perform () command outcome trace.state).1) := by
  cases stage with
  | working => exact attemptHolds_working h command outcome
  | counted attempt =>
    obtain ⟨hIssued, hAttempts, hNumber, hFails⟩ := h
    obtain ⟨hCounts, hResets, hMay⟩ := hPermits
    refine ⟨?_, ?_, hNumber, ?_⟩
    · rw [issuedIn_after, hIssued, Bool.or_true]
    · rw [attempts_after hCounts, hResets]
      exact hAttempts
    · rw [executedIn_after, Bool.or_eq_true, Bool.and_eq_true]
      rintro (⟨hCommand, -⟩ | hBefore)
      · exact hMay hCommand
      · exact hFails hBefore
  | failing =>
    obtain ⟨hIssued, hAttempts⟩ := h
    refine ⟨?_, resets_after hPermits hAttempts outcome⟩
    rw [issuedIn_after, hIssued, Bool.or_false]
    exact hPermits

theorem attemptHolds_environment (h : AttemptHolds initial trace stage) {move : CampaignMove}
    (hMove : (campaignServices Unit).recorded.environment move trace = some trace') :
    AttemptHolds initial trace' stage := by
  have hSame := attempts_environment (environment_recorded hMove)
  obtain ⟨state, -, rfl⟩ := Option.map_eq_some_iff.mp hMove
  cases stage with
  | working => exact ⟨h.1, h.2.1, hSame.trans h.2.2⟩
  | counted attempt => exact ⟨h.1, hSame.trans_le h.2.1, h.2.2⟩
  | failing => exact ⟨h.1, hSame.trans h.2⟩

end

theorem batch_attempts {batch : BatchRun} {s : CampaignStore} {trace : BatchTrace}
    (h : batch.run s = some trace) :
    (issuedIn trace CampaignCommand.countsAttempt = false → trace.state.attempts =
      if executedIn trace CampaignCommand.resetsAttempts then 0 else s.attempts) ∧
    (issuedIn trace CampaignCommand.countsAttempt = true → trace.state.attempts ≤ s.attempts + 1 ∧
      (executedIn trace CampaignCommand.failsCampaign = true →
        maxPhoneNumberPoolExhaustedAttempts ≤ s.attempts + 1)) := by
  obtain ⟨last, hRun, hLast⟩ := Option.bind_eq_some_iff.mp h
  obtain ⟨-, hTrace⟩ := Option.ite_none_right_eq_some.mp hLast
  obtain ⟨stages, hHolds, -⟩ := System.ghost_invariant (D := .free) (P := fun _ => attemptProtocol)
    (J := fun trace stages => AttemptHolds s.attempts trace (stages ()))
    (fun proc command outcome trace stages h hPermits _ => by
      rw [Function.update_self]
      exact attemptHolds_call h hPermits outcome)
    (fun move trace trace' stages h _ hMove => attemptHolds_environment h hMove)
    (System.follows_free _ _ batch.events) hRun
    (fun _ => processCampaignBatch_attempts batch.batchSize batch.polls) ⟨rfl, rfl, rfl⟩
  rw [Option.some.inj hTrace] at hHolds
  cases hStage : stages () with
  | working =>
    rw [hStage] at hHolds
    exact ⟨fun _ => hHolds.2.2, fun hEq => absurd (hHolds.1.symm.trans hEq) (by decide)⟩
  | counted attempt =>
    rw [hStage] at hHolds
    obtain ⟨hIssued, hAttempts, hNumber, hFails⟩ := hHolds
    refine ⟨fun hEq => absurd (hIssued.symm.trans hEq) (by decide), fun _ => ⟨hAttempts, ?_⟩⟩
    intro hFailed
    obtain ⟨number, hMem, hMax⟩ := hFails hFailed
    exact hMax.trans (hNumber number hMem)
  | failing =>
    rw [hStage] at hHolds
    exact ⟨fun _ => hHolds.2, fun hEq => absurd (hHolds.1.symm.trans hEq) (by decide)⟩

theorem attempts_le_streak {start : CampaignStore} (hStart : start.attempts = 0)
    {batches : List BatchRun} {reports : List BatchReport} (hRun : runBatches start batches = some reports)
    (hReports : ∀ report ∈ reports, report.Consecutive) :
    (storeAfter start reports).attempts ≤ (reports.takeWhile BatchReport.noProgress).length := by
  induction batches generalizing reports with
  | nil =>
    obtain rfl := Option.some.inj hRun
    exact hStart.le
  | cons batch earlier ih =>
    obtain ⟨before, hBefore, hBatch⟩ := Option.bind_eq_some_iff.mp hRun
    obtain ⟨trace, hTrace, rfl⟩ := Option.map_eq_some_iff.mp hBatch
    have hStreak := ih hBefore fun report hReport => hReports report (List.mem_cons_of_mem _ hReport)
    obtain ⟨hOther, hCounted⟩ := batch_attempts hTrace
    have hOwn := hReports _ List.mem_cons_self
    show trace.state.attempts ≤ _
    cases hIssued : issuedIn trace CampaignCommand.countsAttempt with
    | true =>
      have hNo : BatchReport.noProgress ⟨storeAfter start before, trace⟩ = true := by
        have hPlaced := hOwn.exhausted hIssued
        rw [BatchReport.noProgress, hPlaced, BatchReport.exhausted, hIssued]
        rfl
      have hBound := (hCounted hIssued).1
      rw [List.takeWhile_cons_of_pos hNo, List.length_cons]
      omega
    | false =>
      have hZero : trace.state.attempts = 0 := by
        rw [hOther hIssued]
        split
        · rfl
        · rename_i hReset
          by_contra hFound
          exact hReset (hOwn.other hIssued hFound)
      omega

theorem forall_take_of_takeWhile {α : Type} {p : α → Bool} {l : List α} {n : Nat}
    (h : n ≤ (l.takeWhile p).length) : n ≤ l.length ∧ ∀ x ∈ l.take n, p x = true := by
  have hPrefix : l.takeWhile p <+: l := List.takeWhile_prefix p
  refine ⟨h.trans hPrefix.length_le, fun x hx => ?_⟩
  have hTake : l.take n <+: l.takeWhile p := by
    apply List.prefix_of_prefix_length_le (List.take_prefix n l) hPrefix
    rw [List.length_take]
    exact (Nat.min_le_left _ _).trans h
  exact List.mem_takeWhile_imp (hTake.subset hx)

/-- The latest batch fails the campaign for its pool only if it and the batches before it, as many as
attempts are allowed, ended in pool exhaustion without having placed a call. -/
theorem pool_failure_without_progress {start : CampaignStore} (hStart : start.attempts = 0)
    (batches : List BatchRun) {report : BatchReport} {earlier : List BatchReport}
    (hRun : runBatches start batches = some (report :: earlier))
    (hReports : ∀ other ∈ report :: earlier, other.Consecutive)
    (hFailed : report.failedForPool = true) :
    maxPhoneNumberPoolExhaustedAttempts ≤ (report :: earlier).length ∧
      ∀ other ∈ (report :: earlier).take maxPhoneNumberPoolExhaustedAttempts,
        other.noProgress = true := by
  apply forall_take_of_takeWhile
  obtain ⟨hExhausted, hFails⟩ := Bool.and_eq_true_iff.mp hFailed
  have hNo : report.noProgress = true := by
    have hPlaced := (hReports report List.mem_cons_self).exhausted hExhausted
    rw [BatchReport.noProgress, hExhausted, hPlaced]
    rfl
  cases batches with
  | nil => cases hRun
  | cons batch batches =>
    obtain ⟨before, hBefore, hBatch⟩ := Option.bind_eq_some_iff.mp hRun
    obtain ⟨trace, hTrace, hReport⟩ := Option.map_eq_some_iff.mp hBatch
    obtain ⟨rfl, rfl⟩ := List.cons.inj hReport
    have hStreak := attempts_le_streak hStart hBefore fun other hOther =>
      hReports other (List.mem_cons_of_mem _ hOther)
    have hLast := ((batch_attempts hTrace).2 hExhausted).2 hFails
    rw [List.takeWhile_cons_of_pos hNo, List.length_cons]
    omega

def fastCampaign : CampaignRow := { CampaignRow.plain .running with rateLimitPerSecond := 10 }

def undisturbedBatch (steps : Nat) : BatchRun :=
  ⟨10, fun _ => ⟨0, 0, 0⟩, List.replicate steps (.resume () .reply)⟩

def emptyPoolStore : CampaignStore := .fresh ⟨1, UnixTime.one_pos⟩ fastCampaign [dialledRun] 0

theorem pool_failure_without_numbers : ∃ report earlier,
    runBatches emptyPoolStore ([20, 17, 17].map undisturbedBatch) = some (report :: earlier) ∧
      report.failedForPool = true ∧ ∀ other ∈ (report :: earlier).take
        maxPhoneNumberPoolExhaustedAttempts, other.noProgress = true := by
  have hEnds : (runBatches emptyPoolStore ([20, 17, 17].map undisturbedBatch)).any
      (fun reports => match reports with
        | [] => false
        | report :: earlier => report.failedForPool &&
          decide (∀ other ∈ report :: earlier, other.Consecutive)) = true := by decide +kernel
  obtain ⟨reports, hRun, hReports⟩ := (Option.any_eq_true _ _).mp hEnds
  cases reports with
  | nil => cases hReports
  | cons report earlier =>
    obtain ⟨hFailed, hConsecutive⟩ := Bool.and_eq_true_iff.mp hReports
    exact ⟨report, earlier, hRun, hFailed, (pool_failure_without_progress rfl _ hRun
      (of_decide_eq_true hConsecutive) hFailed).2⟩

def oneNumberStore : CampaignStore :=
  { CampaignStore.fresh ⟨1, UnixTime.one_pos⟩ fastCampaign
      [dialledRun, { dialledRun with id := 2, sourceUuid := "csv_2" }] 0 with
    answers := dialledStore.answers }

theorem pool_failure_with_progress : ¬∀ (start : CampaignStore) (batches : List BatchRun)
    (report : BatchReport) (earlier : List BatchReport), start.attempts = 0 →
      runBatches start batches = some (report :: earlier) → report.failedForPool = true →
      ∀ other ∈ (report :: earlier).take maxPhoneNumberPoolExhaustedAttempts,
        other.noProgress = true := by
  intro h
  have hEnds : (runBatches oneNumberStore ([22, 19, 38].map undisturbedBatch)).any
      (fun reports => match reports with
        | [] => false
        | report :: earlier => report.failedForPool &&
          decide (¬∀ other ∈ (report :: earlier).take maxPhoneNumberPoolExhaustedAttempts,
            other.noProgress = true)) = true := by decide +kernel
  obtain ⟨reports, hRun, hReports⟩ := (Option.any_eq_true _ _).mp hEnds
  cases reports with
  | nil => cases hReports
  | cons report earlier =>
    obtain ⟨hFailed, hProgress⟩ := Bool.and_eq_true_iff.mp hReports
    exact of_decide_eq_true hProgress (h oneNumberStore _ report earlier rfl hRun hFailed)

end FastVoice.Campaign
