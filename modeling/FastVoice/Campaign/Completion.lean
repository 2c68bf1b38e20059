import FastVoice.Campaign.Operations
import FastVoice.Campaign.RunStatus

/-! # Completing a campaign

The orchestrator counts the queued rows, and writes `completed` some awaits later. The count neither
includes rows that a batch holds nor stays true while retries are created. If no row was being
processed at the count and none was created since, no row is left when the write is executed.
-/
namespace FastVoice.Campaign
open Async Sql

def Idle (s : CampaignStore) : Prop :=
  ∀ id, (s.status id).state ≠ some .queued ∧ (s.status id).state ≠ some .processing

def Operation.isCheck : Operation → Bool
  | .checkStaleCampaigns => true
  | _ => false

namespace CampaignCommand

def completes : CampaignCommand → Bool
  | .commitCampaign _ changes => changes.state = some .completed
  | _ => false

def countsQueued : CampaignCommand → Bool
  | .getQueuedRunsCount states => states = [.queued]
  | _ => false

def createsRun : CampaignCommand → Bool
  | .createQueuedRun _ => true
  | _ => false

end CampaignCommand

def CampaignMove.createsRun : CampaignMove → Bool
  | .insertQueuedRun _ => true
  | _ => false

section Statement

variable {ι : Type} [DecidableEq ι] (calls : ι → Operation)

/-- No row was being processed when the process last counted the queued rows, and no row was created
since. -/
def quietSince (proc : ι) : List (CampaignEntry ι) → Bool
  | [] => false
  | .environment move _ :: older => !move.createsRun && quietSince proc older
  | .call caller command outcome found :: older =>
    if caller = proc ∧ command.countsQueued = true ∧ outcome = .reply then
      decide (found.queuedRuns.count (fun run => run.state = .processing) = 0)
    else !(command.createsRun && outcome.executed) && quietSince proc older

/-- The orchestrator writes `completed` in quiet times only. -/
def quietCompletions :
    System.Discipline ι CampaignCommand.Reply Error (CampaignTrace ι) CampaignMove where
  call proc command outcome trace := (calls proc).isCheck = true → command.completes = true →
    outcome.executed = true → quietSince proc trace.history = true
  environment _ _ := True

instance (proc : ι) (command : CampaignCommand) (outcome : Outcome Error) (trace : CampaignTrace ι) :
    Decidable ((quietCompletions calls).call proc command outcome trace) :=
  inferInstanceAs (Decidable (_ → _ → _ → _))

instance (move : CampaignMove) (trace : CampaignTrace ι) :
    Decidable ((quietCompletions calls).environment move trace) := isTrue trivial

end Statement

theorem idle_of_counts {s : CampaignStore}
    (hQueued : s.queuedRuns.count (fun run => run.state ∈ [QueuedRunState.queued]) = 0)
    (hProcessing : s.queuedRuns.count (fun run => run.state = .processing) = 0) : Idle s := by
  intro id
  cases hRun : s.queuedRuns.lookup id with
  | none => simp [CampaignStore.status, hRun]
  | some run =>
    have hNotQueued := Table.count_eq_zero.mp hQueued id run hRun
    have hNotProcessing := Table.count_eq_zero.mp hProcessing id run hRun
    simp only [List.mem_singleton, decide_eq_false_iff_not] at hNotQueued hNotProcessing
    simpa [CampaignStore.status, hRun] using ⟨hNotQueued, hNotProcessing⟩

theorem Idle.execute {s : CampaignStore} (h : Idle s) {op : Operation} {command : CampaignCommand}
    (hAllowed : op.Allowed command) (hCreates : command.createsRun = false) : Idle (s.execute command).2 := by
  intro id
  cases command with
  | claimQueuedRuns scheduledBefore limit =>
    rw [status_claim, if_neg fun hClaimed => (h id).1 (queued_of_mem_claimed hClaimed)]
    exact h id
  | updateQueuedRun target state =>
    rw [status_updateQueuedRun]
    split
    · cases hState : (s.status id).state with
      | none => exact ⟨by rintro ⟨⟩, by rintro ⟨⟩⟩
      | some found => obtain ⟨-, rfl | rfl⟩ := hAllowed <;> exact ⟨by rintro ⟨⟩, by rintro ⟨⟩⟩
    · exact h id
  | returnProcessingQueuedRuns ids =>
    rw [status_return, if_neg fun hReturned => (h id).2 (by rw [hReturned.2])]
    exact h id
  | createWorkflowRun queuedRunId =>
    rw [status_createWorkflowRun]
    exact h id
  | createQueuedRun run => cases hCreates
  | _ => exact h id

theorem Idle.environment {s s' : CampaignStore} (h : Idle s) {move : CampaignMove}
    (hMove : s.environment move = some s') (hCreates : move.createsRun = false) : Idle s' := by
  cases move with
  | redis move =>
    obtain ⟨keyspace, -, rfl⟩ := Option.map_eq_some_iff.mp hMove
    exact h
  | insertQueuedRun run => cases hCreates
  | _ =>
    cases hMove
    exact h

def countedNone (before : Bool) : (command : CampaignCommand) → Except Error command.Reply → Bool
  | .getQueuedRunsCount states, .ok count =>
    if states = [.queued] then decide (count = 0) else before
  | _, _ => before

def completionProtocol (op : Operation) : Protocol CampaignCommand.Reply Error Bool where
  permits counted command := op.Allowed command ∧
    (op.isCheck = true → command.completes = true → counted = true)
  next := countedNone

section Obeys

variable {α : Type}

theorem issues_obeys {op other : Operation} {program : CampaignMethod α}
    (h : program.Issues other.Allowed) (hOther : ∀ command, other.Allowed command → op.Allowed command)
    (hCompletes : other.writes .completed = false) (counted : Bool) :
    program.Obeys (completionProtocol op) (fun _ _ => True) counted := by
  refine Program.Issues.obeys (T := fun _ => True) h (fun _ command _ hAllowed =>
    ⟨⟨hOther command hAllowed, fun _ hCompleting => ?_⟩, fun _ => trivial⟩) trivial
  cases command with
  | commitCampaign loaded changes =>
    have hState : changes.state = some .completed := of_decide_eq_true hCompleting
    rw [hAllowed .completed hState] at hCompletes
    cases hCompletes
  | _ => cases hCompleting

theorem check_allows {event : CampaignEvent} {command : CampaignCommand}
    (h : (Operation.handleEvent event).Allowed command) : Operation.checkStaleCampaigns.Allowed command := by
  cases command with
  | commitCampaign loaded changes =>
    intro state hState
    have hWrites := h state hState
    cases state <;> first
      | rfl
      | cases hWrites
  | updateQueuedRun id state => cases h.1
  | claimQueuedRuns scheduledBefore limit => cases h
  | returnProcessingQueuedRuns ids => cases h
  | createWorkflowRun queuedRunId => cases h
  | _ => trivial

theorem hasPendingWork_obeys (counted : Bool) : hasPendingWork.Obeys (completionProtocol .checkStaleCampaigns)
      (fun result counted => result = .ok false → counted = true) counted := by
  simp only [hasPendingWork, Program.call_bind]
  refine ⟨⟨trivial, by rintro - ⟨⟩⟩, fun result => ?_⟩
  cases result with
  | error error => rintro ⟨⟩
  | ok queuedCount =>
    simp only [Program.proceed_ok]
    split
    · rintro ⟨⟩
    · rename_i hCount
      have hNone : queuedCount = 0 := Nat.eq_zero_of_not_pos hCount
      refine ⟨⟨trivial, by rintro - ⟨⟩⟩, fun result => ?_⟩
      cases result with
      | error error => rintro ⟨⟩
      | ok now =>
        refine ⟨⟨trivial, by rintro - ⟨⟩⟩, fun result => ?_⟩
        cases result with
        | error error => rintro ⟨⟩
        | ok scheduledCount => exact fun _ => decide_eq_true hNone

theorem completeCampaign_obeys (counted : Bool) :
    completeCampaign.Obeys (completionProtocol .checkStaleCampaigns) (fun _ _ => True) counted := by
  have hRest : ∀ {β : Type} {program : CampaignMethod β} counted,
      program.Issues (Operation.handleEvent .campaignCompleted).Allowed →
      program.Obeys (completionProtocol .checkStaleCampaigns) (fun _ _ => True) counted :=
    fun counted hIssues => issues_obeys hIssues (fun _ => check_allows) rfl counted
  refine orElse_obeys ((hasPendingWork_obeys counted).bind (fun hasWork counted hCounted => ?_)
    fun _ _ _ => trivial) fun _ _ _ => trivial
  split
  · trivial
  · rename_i hNone
    obtain rfl : counted = true := hCounted (by rw [Bool.eq_false_iff.mpr hNone])
    simp only [Program.call_bind, updateCampaign]
    refine ⟨⟨trivial, by rintro - ⟨⟩⟩, fun result => ?_⟩
    cases result with
    | error error => trivial
    | ok now =>
      refine ⟨⟨trivial, by rintro - ⟨⟩⟩, fun result => ?_⟩
      cases result with
      | error error => trivial
      | ok campaign =>
        cases campaign with
        | none => trivial
        | some campaign =>
          have hWrites : Operation.checkStaleCampaigns.Allowed (.commitCampaign campaign
              { state := some .completed, completedAt := some now }) := by
            rintro state ⟨⟩
            rfl
          refine ⟨⟨hWrites, fun _ _ => rfl⟩, fun result => ?_⟩
          cases result with
          | error error => trivial
          | ok _ => exact hRest _ ((Program.issues_call trivial).bind fun _ =>
              (service_issues _).bind fun _ => clearCampaignState_issues)

theorem checkStaleCampaign_obeys (campaign : CampaignRow) (counted : Bool) :
    (checkStaleCampaign campaign).Obeys (completionProtocol .checkStaleCampaigns) (fun _ _ => True)
      counted := by
  have hRest : ∀ {β : Type} {program : CampaignMethod β} counted,
      program.Issues (Operation.handleEvent .campaignCompleted).Allowed →
      program.Obeys (completionProtocol .checkStaleCampaigns) (fun _ _ => True) counted :=
    fun counted hIssues => issues_obeys hIssues (fun _ => check_allows) rfl counted
  refine orElse_obeys ((hRest counted (recoverStuckBatch_issues rfl)).bind
    (fun recovered counted _ => ?_) fun _ _ _ => trivial) fun _ _ _ => trivial
  split
  · trivial
  refine (hRest counted (scheduleOrphanedWork_issues rfl campaign)).bind
    (fun orphaned counted _ => ?_) fun _ _ _ => trivial
  split
  · trivial
  refine (hRest counted (shouldMarkComplete_issues campaign)).bind (fun complete counted _ => ?_)
    fun _ _ _ => trivial
  split
  · exact completeCampaign_obeys counted
  · trivial

theorem checkStaleCampaigns_obeys :
    checkStaleCampaigns.Obeys (completionProtocol .checkStaleCampaigns) (fun _ _ => True) false := by
  have hAll : ∀ campaigns counted, (checkStaleCampaignsOf campaigns).Obeys
      (completionProtocol .checkStaleCampaigns) (fun _ _ => True) counted := by
    intro campaigns
    induction campaigns with
    | nil => exact fun _ => trivial
    | cons campaign campaigns ih =>
      exact fun counted => (checkStaleCampaign_obeys campaign counted).bind
        (fun _ counted _ => ih counted) fun _ _ _ => trivial
  have hCampaigns : (Program.call (CampaignCommand.getCampaignsByStatus [.running]) :
      CampaignMethod (List CampaignRow)).Obeys (completionProtocol .checkStaleCampaigns)
      (fun _ _ => True) false :=
    Program.obeys_call ⟨trivial, by rintro - ⟨⟩⟩ fun _ => trivial
  exact orElse_obeys (hCampaigns.bind (fun campaigns counted _ => hAll campaigns counted)
    fun _ _ _ => trivial) fun _ _ _ => trivial

theorem completion_obeys (op : Operation) :
    op.method.Obeys (completionProtocol op) (fun _ _ => True) false := by
  have hOther : op.isCheck = false →
      op.method.Obeys (completionProtocol op) (fun _ _ => True) false := by
    intro hCheck
    refine Program.Issues.obeys (T := fun _ => True) (operation_issues op) (fun _ _ _ hAllowed =>
      ⟨⟨hAllowed, fun hIsCheck => ?_⟩, fun _ => trivial⟩) trivial
    rw [hCheck] at hIsCheck
    cases hIsCheck
  cases op with
  | checkStaleCampaigns => exact checkStaleCampaigns_obeys
  | _ => exact hOther rfl

end Obeys

section Invariant

variable {ι : Type} [DecidableEq ι] {calls : ι → Operation} {trace trace' : CampaignTrace ι}
  {counted : ι → Bool}

def CompletedIdle (calls : ι → Operation) (trace : CampaignTrace ι) : Prop :=
  ∀ proc command outcome found, .call proc command outcome found ∈ trace.history →
    (calls proc).isCheck = true → command.completes = true → outcome.executed = true → Idle found

structure CompletionInvariant (calls : ι → Operation) (trace : CampaignTrace ι) (counted : ι → Bool) :
    Prop where
  quiet : ∀ proc, counted proc = true → quietSince proc trace.history = true → Idle trace.state
  completed : CompletedIdle calls trace

theorem CompletionInvariant.call (h : CompletionInvariant calls trace counted) {proc : ι}
    {command : CampaignCommand} {outcome : Outcome Error}
    (hPermits : (completionProtocol (calls proc)).permits (counted proc) command)
    (hQuiet : (quietCompletions calls).call proc command outcome trace) :
    CompletionInvariant calls ((campaignServices ι).recorded.perform proc command outcome trace).2
      (Function.update counted proc (countedNone (counted proc) command
        ((campaignServices ι).recorded.perform proc command outcome trace).1)) := by
  have hKept : Idle trace.state → (command.createsRun && outcome.executed) = false →
      Idle ((campaignServices ι).perform proc command outcome trace.state).2 := by
    intro hIdle hCreates
    rw [perform_executed]
    split
    · rename_i hExecuted
      rw [hExecuted, Bool.and_true] at hCreates
      exact hIdle.execute hPermits.1 hCreates
    · exact hIdle
  refine ⟨fun other hCounted hSince => ?_, ?_⟩
  · have hCases : (if proc = other ∧ command.countsQueued = true ∧ outcome = .reply then
        decide (trace.state.queuedRuns.count (fun run => run.state = .processing) = 0)
        else !(command.createsRun && outcome.executed) && quietSince other trace.history) = true :=
      hSince
    split at hCases
    · rename_i hCount
      obtain ⟨rfl, hCounts, rfl⟩ := hCount
      rw [Function.update_self] at hCounted
      cases command with
      | getQueuedRunsCount states =>
        obtain rfl : states = [.queued] := of_decide_eq_true hCounts
        exact idle_of_counts (of_decide_eq_true hCounted) (of_decide_eq_true hCases)
      | _ => cases hCounts
    · rename_i hOther
      obtain ⟨hCreates, hOlder⟩ := Bool.and_eq_true_iff.mp hCases
      have hBefore : counted other = true := by
        by_cases hOwn : other = proc
        · subst hOwn
          rw [Function.update_self] at hCounted
          cases command with
          | getQueuedRunsCount states =>
            cases outcome with
            | fail error applied => exact hCounted
            | reply =>
              have hStates : states ≠ [.queued] := fun hEq =>
                hOther ⟨rfl, decide_eq_true hEq, rfl⟩
              have hSame : (if states = [.queued] then _ else counted other) = true := hCounted
              rwa [if_neg hStates] at hSame
          | _ => exact hCounted
        · rwa [Function.update_of_ne hOwn] at hCounted
      exact hKept (h.quiet other hBefore hOlder) ((Bool.not_eq_true' _).mp hCreates)
  · intro caller command' outcome' found hEntry hCheck hCompletes hExecuted
    obtain hNew | hOld := List.mem_cons.mp hEntry
    · cases hNew
      exact h.quiet proc (hPermits.2 hCheck hCompletes) (hQuiet hCheck hCompletes hExecuted)
    · exact h.completed caller command' outcome' found hOld hCheck hCompletes hExecuted

theorem CompletionInvariant.environment (h : CompletionInvariant calls trace counted) {move : CampaignMove}
    (hMove : (campaignServices ι).recorded.environment move trace = some trace') :
    CompletionInvariant calls trace' counted := by
  have hState := environment_recorded hMove
  obtain ⟨state, -, rfl⟩ := Option.map_eq_some_iff.mp hMove
  refine ⟨fun proc hCounted hSince => ?_, ?_⟩
  · obtain ⟨hCreates, hOlder⟩ := Bool.and_eq_true_iff.mp hSince
    exact (h.quiet proc hCounted hOlder).environment hState ((Bool.not_eq_true' _).mp hCreates)
  · intro caller command outcome found hEntry
    obtain hNew | hOld := List.mem_cons.mp hEntry
    · cases hNew
    · exact h.completed caller command outcome found hOld

end Invariant

/-- In a run of quiet completions, every executed write of `completed` by the orchestrator finds no row
that is queued or being processed. -/
theorem completion_idle {ι : Type} [DecidableEq ι] (calls : ι → Operation) (start : CampaignStore)
    {last : Config ι CampaignCommand.Reply Error Unit (CampaignTrace ι)}
    {events : List (Event ι Error CampaignMove)}
    (hFollows : (campaignServices ι).recorded.Follows (quietCompletions calls)
      ⟨⟨start, []⟩, fun proc => (calls proc).method⟩ events)
    (hRun : (campaignServices ι).recorded.run ⟨⟨start, []⟩, fun proc => (calls proc).method⟩
      events = some last) : CompletedIdle calls last.shared := by
  obtain ⟨counted, hInvariant, -⟩ := System.ghost_invariant
    (P := fun proc => completionProtocol (calls proc)) (J := CompletionInvariant calls)
    (fun proc command outcome trace counted h hPermits hQuiet => h.call hPermits hQuiet)
    (fun move trace trace' counted h _ hMove => h.environment hMove)
    hFollows hRun (fun proc => completion_obeys (calls proc))
    ⟨fun _ hCounted => (Bool.false_ne_true hCounted).elim, fun _ _ _ _ hEntry => by cases hEntry⟩
  exact hInvariant.completed

def endsIn {ι : Type} (check : ι → CampaignCommand → Outcome Error → CampaignStore → Bool) (trace : CampaignTrace ι) :
    Bool :=
  match trace.history with
  | .call proc command outcome found :: _ => check proc command outcome found
  | _ => false

theorem mem_of_endsIn {ι : Type} {check : ι → CampaignCommand → Outcome Error → CampaignStore → Bool}
    {trace : CampaignTrace ι} (h : endsIn check trace = true) : ∃ proc command outcome found,
      .call proc command outcome found ∈ trace.history ∧ check proc command outcome found = true := by
  rw [endsIn] at h
  split at h
  · rename_i proc command outcome found older hHistory
    exact ⟨proc, command, outcome, found, hHistory ▸ List.mem_cons_self, h⟩
  · cases h

def processedStore : CampaignStore :=
  .fresh ⟨1, UnixTime.one_pos⟩ (.plain .running) [{ dialledRun with state := .processed }] 0

theorem completion_idle_processed :
    ∃ last : Config Unit CampaignCommand.Reply Error Unit (CampaignTrace Unit),
      (campaignServices Unit).recorded.run
        ⟨⟨processedStore, []⟩, fun _ => Operation.checkStaleCampaigns.method⟩
        (List.replicate 17 (.resume () .reply)) = some last ∧
      ∃ command outcome found, .call () command outcome found ∈ last.shared.history ∧
        command.completes = true ∧ Idle found := by
  have hEnds : ((campaignServices Unit).recorded.run
      ⟨⟨processedStore, []⟩, fun _ => Operation.checkStaleCampaigns.method⟩
      (List.replicate 17 (.resume () .reply))).any (fun last =>
        endsIn (fun _ command outcome _ => command.completes && outcome.executed) last.shared) = true := by
    decide +kernel
  obtain ⟨last, hRun, hLast⟩ := (Option.any_eq_true _ _).mp hEnds
  have hIdle := completion_idle (fun _ => .checkStaleCampaigns) processedStore (by decide +kernel) hRun
  obtain ⟨caller, command, outcome, found, hEntry, hHolds⟩ := mem_of_endsIn hLast
  obtain ⟨hCompletes, hExecuted⟩ := Bool.and_eq_true_iff.mp hHolds
  exact ⟨last, hRun, command, outcome, found, hEntry, hCompletes,
    hIdle () command outcome found hEntry rfl hCompletes hExecuted⟩

def checkAndRetry : Fin 2 → Operation
  | 0 => .checkStaleCampaigns
  | 1 => .handleEvent (.retryNeeded 1 .busy)

def retryDuringCheck : List (Event (Fin 2) Error CampaignMove) :=
  haveI := neZero_two
  (List.replicate 16 (0 : Fin 2) ++ List.replicate 4 1 ++ [0]).map fun proc => .resume proc .reply

/-- A campaign is completed with a queued retry. -/
theorem completion_not_idle :
    ¬∀ (calls : Fin 2 → Operation) (start : CampaignStore)
      (last : Config (Fin 2) CampaignCommand.Reply Error Unit (CampaignTrace (Fin 2)))
      (events : List (Event (Fin 2) Error CampaignMove)),
      (campaignServices (Fin 2)).recorded.run ⟨⟨start, []⟩, fun proc => (calls proc).method⟩
        events = some last → CompletedIdle calls last.shared := by
  intro h
  have hEnds : ((campaignServices (Fin 2)).recorded.run
      ⟨⟨processedStore, []⟩, fun proc => (checkAndRetry proc).method⟩ retryDuringCheck).any (fun last =>
        endsIn (fun proc command outcome found => decide (proc = 0) && (command.completes && outcome.executed &&
          decide ((found.status 2).state = some .queued))) last.shared) = true := by decide +kernel
  obtain ⟨last, hRun, hLast⟩ := (Option.any_eq_true _ _).mp hEnds
  obtain ⟨proc, command, outcome, found, hEntry, hHolds⟩ := mem_of_endsIn hLast
  obtain ⟨hProc, hWrite⟩ := Bool.and_eq_true_iff.mp hHolds
  obtain rfl := of_decide_eq_true hProc
  obtain ⟨hWrite, hQueued⟩ := Bool.and_eq_true_iff.mp hWrite
  obtain ⟨hCompletes, hExecuted⟩ := Bool.and_eq_true_iff.mp hWrite
  exact (h checkAndRetry processedStore last retryDuringCheck hRun 0 command outcome found hEntry rfl
    hCompletes hExecuted 2).1 (of_decide_eq_true hQueued)

end FastVoice.Campaign
