import FastVoice.Campaign.RetryLineage

/-! # Counting the runs that finally failed

One listener that handles a sequence of retry events, with commands of other services in between. The
counter is exact exactly as long as each event of an exhausted run is one that the configuration
retries if and only if it is the first for its run.
-/
namespace FastVoice.Campaign
open Async Sql

/-- What reaches the campaign: an event, a command of another service, or a move of the
environment. -/
inductive RetryMove where
  | event (queuedRunId : Nat) (reason : RetryReason)
  | command (issued : CampaignCommand)
  | environment (move : CampaignMove)

namespace CampaignStore

def failedRows (s : CampaignStore) : Option Nat := s.campaign.map CampaignRow.failedRows

def retryConfig (s : CampaignStore) : Option RetryConfig := s.campaign.map CampaignRow.retryConfig

def exhausted (s : CampaignStore) (queuedRunId : Nat) : Bool :=
  s.retryConfig.any fun config => (s.queuedRuns.lookup queuedRunId).any fun run =>
    config.maxRetries.getD 1 ≤ run.retryCount

def eligible (s : CampaignStore) (reason : RetryReason) : Bool :=
  s.retryConfig.any fun config => config.enabled.getD true && config.retries reason

end CampaignStore

namespace RetryMove

def apply : RetryMove → CampaignStore → CampaignStore
  | .event queuedRunId reason, s =>
    ((handleEvent (.retryNeeded queuedRunId reason)).eval CampaignStore.execute s).2
  | .command issued, s => (s.execute issued).2
  | .environment move, s => (CampaignStore.environment move s).getD s

/-- The other services leave the counter alone. -/
def Proper : RetryMove → Prop
  | .command (.commitCampaign _ changes) => changes.failedRows = none
  | _ => True

def exhaustedRun : RetryMove → CampaignStore → Option Nat
  | .event queuedRunId _, s => if s.exhausted queuedRunId then some queuedRunId else none
  | _, _ => none

/-- An event of an exhausted run is one that is retried if and only if the run was not seen before. -/
def CountsOnce : RetryMove → CampaignStore → Finset Nat → Prop
  | .event queuedRunId reason, s, seen =>
    s.exhausted queuedRunId = true → (s.eligible reason = true ↔ queuedRunId ∉ seen)
  | _, _, _ => True

instance (move : RetryMove) (s : CampaignStore) (seen : Finset Nat) :
    Decidable (move.CountsOnce s seen) :=
  match move with
  | .event queuedRunId reason => inferInstanceAs (Decidable
    (s.exhausted queuedRunId = true → (s.eligible reason = true ↔ queuedRunId ∉ seen)))
  | .command _ => isTrue trivial
  | .environment _ => isTrue trivial

end RetryMove

def applyMoves : List RetryMove → CampaignStore → CampaignStore
  | [], s => s
  | move :: moves, s => applyMoves moves (move.apply s)

def exhaustedRuns : List RetryMove → CampaignStore → Finset Nat → Finset Nat
  | [], _, seen => seen
  | move :: moves, s, seen =>
    exhaustedRuns moves (move.apply s) (seen ∪ (move.exhaustedRun s).toFinset)

def CountOnce : List RetryMove → CampaignStore → Finset Nat → Prop
  | [], _, _ => True
  | move :: moves, s, seen => move.CountsOnce s seen ∧
    CountOnce moves (move.apply s) (seen ∪ (move.exhaustedRun s).toFinset)

instance : (moves : List RetryMove) → (s : CampaignStore) → (seen : Finset Nat) →
    Decidable (CountOnce moves s seen)
  | [], _, _ => isTrue trivial
  | move :: moves, s, seen =>
    have := instDecidableCountOnce moves (move.apply s) (seen ∪ (move.exhaustedRun s).toFinset)
    inferInstanceAs (Decidable (_ ∧ _))

section

variable {s : CampaignStore} {row : CampaignRow}

theorem eval_markFinalFailure (h : s.campaign = some row) : markFinalFailure.eval CampaignStore.execute s =
      (.ok (), { s with campaign := some { row with failedRows := row.failedRows + 1 } }) := by
  rw [markFinalFailure, getCampaignById, Program.call_bind, Program.eval_await]
  simp only [CampaignStore.execute, h, Program.proceed_ok]
  rw [eval_updateCampaign h]
  simp [CampaignRow.write, written]

def KeepsCampaign : CampaignCommand → Prop
  | .commitCampaign _ _ => False
  | .incrementPoolExhausted => False
  | .resetPoolExhausted => False
  | _ => True

theorem campaign_execute {command : CampaignCommand} (h : KeepsCampaign command)
    (s : CampaignStore) : (s.execute command).2.campaign = s.campaign := by
  cases command with
  | createQueuedRun run => exact campaign_createQueuedRun s run
  | _ => first | rfl | exact h.elim

theorem scheduleRetry_keepsCampaign (original : QueuedRun) (reason : RetryReason)
    (delaySeconds : Nat) : (do
      scheduleRetry original reason delaySeconds
      touchLastActivity : CampaignMethod Unit).Issues KeepsCampaign := by
  have hNow : KeepsCampaign .now := trivial
  have hCreate : ∀ run, KeepsCampaign (.createQueuedRun run) := fun _ => trivial
  have hMemory : ∀ update, KeepsCampaign (.memory update) := fun _ => trivial
  have hSchedule : (scheduleRetry original reason delaySeconds).Issues KeepsCampaign := by
    refine (Program.issues_call hNow).bind fun now =>
      (Program.issues_call (hCreate _)).bind fun created => ?_
    split <;> trivial
  exact hSchedule.bind fun _ => (Program.issues_call (hMemory _)).bind fun _ => trivial

theorem campaign_event (h : s.campaign = some row) (queuedRunId : Nat) (reason : RetryReason) :
    ((RetryMove.event queuedRunId reason).apply s).campaign = some { row with
      failedRows := row.failedRows +
        if s.exhausted queuedRunId && s.eligible reason then 1 else 0 } := by
  have hConfig : s.retryConfig = some row.retryConfig := by rw [CampaignStore.retryConfig, h]; rfl
  have hExhausted : s.exhausted queuedRunId = (s.queuedRuns.lookup queuedRunId).any
      fun run => row.retryConfig.maxRetries.getD 1 ≤ run.retryCount := by
    rw [CampaignStore.exhausted, hConfig]
    rfl
  have hEligible : s.eligible reason =
      (row.retryConfig.enabled.getD true && row.retryConfig.retries reason) := by
    rw [CampaignStore.eligible, hConfig]
    rfl
  show ((orElse (handleRetryEvent queuedRunId reason) ()).eval CampaignStore.execute s).2.campaign = _
  rw [eval_orElse, handleRetryEvent, getCampaignById, Program.call_bind, Program.eval_await]
  simp only [CampaignStore.execute, h, Program.proceed_ok]
  rw [hExhausted, hEligible]
  split
  · rename_i hRetried
    rw [Program.call_bind, Program.eval_await]
    cases hRun : s.queuedRuns.lookup queuedRunId with
    | none => simp [CampaignStore.execute, hRun, h]
    | some run =>
      simp only [CampaignStore.execute, hRun, Program.proceed_ok]
      split
      · rename_i hLimit
        rw [eval_markFinalFailure h]
        simp [hLimit, hRetried]
      · rename_i hLimit
        have hKept := (scheduleRetry_keepsCampaign run reason
          (row.retryConfig.retryDelaySeconds.getD 120)).eval
            (I := fun after : CampaignStore => after.campaign = s.campaign)
            (fun command before hKeeps hSame => (campaign_execute hKeeps before).trans hSame) rfl
        rw [hKept, h]
        simp [hLimit]
  · rename_i hSkipped
    simp [hSkipped, h]

theorem failedRows_apply {move : RetryMove} (hProper : move.Proper)
    (hOther : ∀ queuedRunId reason, move ≠ .event queuedRunId reason) :
    (move.apply s).failedRows = s.failedRows := by
  cases move with
  | event queuedRunId reason => exact absurd rfl (hOther queuedRunId reason)
  | command issued =>
    cases issued with
    | commitCampaign loaded changes =>
      have hNone : changes.failedRows = none := hProper
      simp only [RetryMove.apply, CampaignStore.execute, CampaignStore.failedRows, Option.map_map]
      congr 1
      funext row
      simp [CampaignRow.write, hNone, written]
    | incrementPoolExhausted =>
      simp only [RetryMove.apply, CampaignStore.execute, CampaignStore.failedRows, Option.map_map]
      rfl
    | resetPoolExhausted =>
      simp only [RetryMove.apply, CampaignStore.execute, CampaignStore.failedRows, Option.map_map]
      rfl
    | createQueuedRun run =>
      exact congrArg (Option.map CampaignRow.failedRows) (campaign_createQueuedRun s run)
    | _ => rfl
  | environment move =>
    cases move with
    | redis move =>
      simp only [RetryMove.apply, CampaignStore.environment]
      cases CallConcurrency.environment move s.keyspace <;> rfl
    | edit settings =>
      simp only [RetryMove.apply, CampaignStore.environment, Option.getD_some, CampaignStore.edit,
        CampaignStore.failedRows, Option.map_map]
      rfl
    | insertQueuedRun run =>
      simp only [RetryMove.apply, CampaignStore.environment]
      split
      · exact congrArg (Option.map CampaignRow.failedRows) (campaign_createQueuedRun s run)
      · rfl
    | _ => rfl

theorem failedRows_event (h : s.campaign = some row) (queuedRunId : Nat) (reason : RetryReason) :
    ((RetryMove.event queuedRunId reason).apply s).failedRows =
      some (row.failedRows + if s.exhausted queuedRunId && s.eligible reason then 1 else 0) := by
  rw [CampaignStore.failedRows, campaign_event h]
  rfl

theorem counted_apply_iff {move : RetryMove} {seen : Finset Nat} {initial : Nat}
    (hProper : move.Proper) (h : s.failedRows = some (initial + seen.card)) : (move.apply s).failedRows =
      some (initial + (seen ∪ (move.exhaustedRun s).toFinset).card) ↔ move.CountsOnce s seen := by
  obtain ⟨row, hRow, hCount⟩ := Option.map_eq_some_iff.mp h
  cases move with
  | event queuedRunId reason =>
    rw [failedRows_event hRow, hCount, Option.some_inj]
    by_cases hExhausted : s.exhausted queuedRunId = true
    · have hNamed : seen ∪ ((RetryMove.event queuedRunId reason).exhaustedRun s).toFinset =
          insert queuedRunId seen := by
        rw [RetryMove.exhaustedRun, if_pos hExhausted, Option.toFinset_some, Finset.union_comm,
          Finset.insert_eq]
      rw [hNamed, RetryMove.CountsOnce, hExhausted, Finset.card_insert_eq_ite]
      by_cases hSeen : queuedRunId ∈ seen
      · cases s.eligible reason <;> simp [hSeen]
      · cases s.eligible reason <;> simp [hSeen, Nat.add_assoc]
    · simp [RetryMove.exhaustedRun, RetryMove.CountsOnce, hExhausted]
  | command issued =>
    have hKept : ((RetryMove.command issued).apply s).failedRows = s.failedRows :=
      failedRows_apply hProper fun _ _ => RetryMove.noConfusion
    rw [hKept, h]
    simp [RetryMove.exhaustedRun, RetryMove.CountsOnce]
  | environment move =>
    have hKept : ((RetryMove.environment move).apply s).failedRows = s.failedRows :=
      failedRows_apply hProper fun _ _ => RetryMove.noConfusion
    rw [hKept, h]
    simp [RetryMove.exhaustedRun, RetryMove.CountsOnce]

/-- From an exact counter on, the counter is exact after each move if and only if each move counts
once. -/
theorem counted_throughout_iff (moves : List RetryMove) {seen : Finset Nat} {initial : Nat}
    (hProper : ∀ move ∈ moves, move.Proper) (h : s.failedRows = some (initial + seen.card)) :
    (∀ n, (applyMoves (moves.take n) s).failedRows =
      some (initial + (exhaustedRuns (moves.take n) s seen).card)) ↔ CountOnce moves s seen := by
  induction moves generalizing s seen with
  | nil =>
    refine ⟨fun _ => trivial, fun _ n => ?_⟩
    rw [List.take_nil]
    exact h
  | cons move moves ih =>
    have hMove := counted_apply_iff (hProper move List.mem_cons_self) h
    have hRest : ∀ other ∈ moves, other.Proper := fun other hOther =>
      hProper other (List.mem_cons_of_mem move hOther)
    constructor
    · intro hAll
      have hNext := hAll 1
      rw [List.take_succ_cons, List.take_zero] at hNext
      exact ⟨hMove.mp hNext, (ih hRest hNext).mp fun n => hAll (n + 1)⟩
    · rintro ⟨hOnce, hLater⟩ n
      cases n with
      | zero => exact h
      | succ n => exact (ih hRest (hMove.mpr hOnce)).mpr hLater n

end

/-- The counter equals the number of distinct exhausted runs that received an event, after each move
of a sequence, if and only if each event of an exhausted run is one that the configuration retries
exactly when it is the first for its run. -/
theorem final_failures_counted_iff (moves : List RetryMove) {s : CampaignStore} {row : CampaignRow}
    (hRow : s.campaign = some row) (hProper : ∀ move ∈ moves, move.Proper) :
    (∀ n, (applyMoves (moves.take n) s).failedRows =
      some (row.failedRows + (exhaustedRuns (moves.take n) s ∅).card)) ↔ CountOnce moves s ∅ := by
  apply counted_throughout_iff moves hProper
  rw [CampaignStore.failedRows, hRow]
  rfl

theorem final_failure_counted :
    (applyMoves [.event 1 .busy, .event 2 .noAnswer] retriedStore).failedRows = some 1 := by
  have hProper : ∀ move ∈ [RetryMove.event 1 .busy, .event 2 .noAnswer], move.Proper := by
    simp [RetryMove.Proper]
  have hRow : retriedStore.campaign = some (.plain .running) := rfl
  exact (final_failures_counted_iff _ hRow hProper).mpr (by decide +kernel) 2

theorem final_failure_recounted : ¬ ∀ (s : CampaignStore) (row : CampaignRow)
    (moves : List RetryMove), s.campaign = some row → (∀ move ∈ moves, move.Proper) →
      (applyMoves moves s).failedRows =
        some (row.failedRows + (exhaustedRuns moves s ∅).card) := by
  intro hAll
  have hProper : ∀ move ∈ [RetryMove.event 1 .busy, .event 2 .busy, .event 2 .busy],
      move.Proper := by
    simp [RetryMove.Proper]
  have hCounted := hAll retriedStore _ _ rfl hProper
  revert hCounted
  decide +kernel

end FastVoice.Campaign
