import FastVoice.Campaign.CircuitBreaker
import FastVoice.Sql.Table

/-! # The rows of a campaign

The columns that the campaign services read or write, of one campaign. A workflow run names the
queued run it was created for; a queued run does not name its workflow run.
-/
namespace FastVoice.Campaign
open Sql

inductive CampaignState where
  | created
  | syncing
  | running
  | paused
  | completed
  | failed
  deriving DecidableEq

inductive QueuedRunState where
  | queued
  | processed
  | processing
  | failed
  deriving DecidableEq

/-- The entries of `context_variables` that are read. -/
structure ContextVariables where
  phoneNumber : Option String
  isRetry : Bool
  retryAttempt : Option Nat
  retryReason : Option String
  deriving DecidableEq

structure QueuedRun where
  id : Nat
  sourceUuid : String
  contextVariables : ContextVariables
  state : QueuedRunState
  retryCount : Nat
  parentQueuedRunId : Option Nat
  scheduledFor : Option UnixTime
  retryReason : Option String
  deriving DecidableEq

abbrev QueuedRuns := Table QueuedRun.id

namespace QueuedRun

def isDue (scheduledBefore : UnixTime) (run : QueuedRun) : Bool :=
  run.state = .queued && run.scheduledFor.any fun scheduledFor => scheduledFor ≤ scheduledBefore

def isRegular (run : QueuedRun) : Bool := run.state = .queued && run.scheduledFor.isNone

end QueuedRun

namespace QueuedRuns

def setState (t : QueuedRuns) (ids : List Nat) (state : QueuedRunState) : QueuedRuns :=
  t.update (fun run => if run.id ∈ ids then { run with state } else run) fun run => by
    split <;> rfl

theorem lookup_setState (t : QueuedRuns) (ids : List Nat) (state : QueuedRunState) (id : Nat) :
    Table.lookup (t.setState ids state) id =
      if id ∈ ids then (t.lookup id).map fun run => { run with state } else t.lookup id := by
  rw [setState, Table.lookup_update]
  cases hRun : t.lookup id with
  | none => simp
  | some run =>
    obtain rfl := Table.key_of_lookup hRun
    by_cases hId : run.id ∈ ids <;> simp [hId]

def shuffled (t : QueuedRuns) (random : Nat → Nat) : List QueuedRun :=
  t.rows.insertionSort fun first second => random first.id ≤ random second.id

def dueRetries (t : QueuedRuns) (random : Nat → Nat) (scheduledBefore : UnixTime) : List QueuedRun :=
  ((t.shuffled random).filter (·.isDue scheduledBefore)).insertionSort
    fun first second => first.scheduledFor.elim 0 (·.val) ≤ second.scheduledFor.elim 0 (·.val)

def regularRuns (t : QueuedRuns) (random : Nat → Nat) : List QueuedRun :=
  (t.shuffled random).filter (·.isRegular)

/-- The rows that a claim takes when it finds some rows locked: due retries by their time, then
regular rows in random order. -/
def claimable (t : QueuedRuns) (random : Nat → Nat) (locked : Nat → Bool)
    (scheduledBefore : UnixTime) (limit : Nat) : List QueuedRun :=
  let due := ((t.dueRetries random scheduledBefore).filter fun run => !locked run.id).take limit
  due ++ ((t.regularRuns random).filter fun run => !locked run.id).take (limit - due.length)

theorem mem_dueRetries {t : QueuedRuns} {random : Nat → Nat} {scheduledBefore : UnixTime}
    {run : QueuedRun} : run ∈ t.dueRetries random scheduledBefore ↔
      t.lookup run.id = some run ∧ run.isDue scheduledBefore = true := by
  simp [dueRetries, shuffled, Table.lookup_eq_some]

theorem mem_regularRuns {t : QueuedRuns} {random : Nat → Nat} {run : QueuedRun} :
    run ∈ t.regularRuns random ↔ t.lookup run.id = some run ∧ run.isRegular = true := by
  simp [regularRuns, shuffled, Table.lookup_eq_some]

theorem queued_of_mem_claimable {t : QueuedRuns} {random : Nat → Nat} {locked : Nat → Bool}
    {scheduledBefore : UnixTime} {limit : Nat} {run : QueuedRun}
    (h : run ∈ t.claimable random locked scheduledBefore limit) :
    t.lookup run.id = some run ∧ run.state = .queued := by
  obtain hDue | hRegular := List.mem_append.mp h
  · obtain ⟨hRun, hIsDue⟩ := mem_dueRetries.mp (List.mem_of_mem_filter (List.mem_of_mem_take hDue))
    exact ⟨hRun, of_decide_eq_true (Bool.and_eq_true_iff.mp hIsDue).1⟩
  · obtain ⟨hRun, hIsRegular⟩ :=
      mem_regularRuns.mp (List.mem_of_mem_filter (List.mem_of_mem_take hRegular))
    exact ⟨hRun, of_decide_eq_true (Bool.and_eq_true_iff.mp hIsRegular).1⟩

theorem nodup_claimable (t : QueuedRuns) (random : Nat → Nat) (locked : Nat → Bool)
    (scheduledBefore : UnixTime) (limit : Nat) :
    ((t.claimable random locked scheduledBefore limit).map QueuedRun.id).Nodup := by
  have hShuffled : ((t.shuffled random).map QueuedRun.id).Nodup :=
    ((List.perm_insertionSort _ _).map _).nodup_iff.mpr t.distinct
  have hDue : ((t.dueRetries random scheduledBefore).map QueuedRun.id).Nodup :=
    ((List.perm_insertionSort _ _).map _).nodup_iff.mpr
      (hShuffled.sublist ((List.filter_sublist).map _))
  have hRegular : ((t.regularRuns random).map QueuedRun.id).Nodup :=
    hShuffled.sublist ((List.filter_sublist).map _)
  rw [claimable, List.map_append, List.nodup_append']
  refine ⟨hDue.sublist (((List.take_sublist _ _).trans List.filter_sublist).map _),
    hRegular.sublist (((List.take_sublist _ _).trans List.filter_sublist).map _), ?_⟩
  intro id hInDue hInRegular
  obtain ⟨first, hFirst, rfl⟩ := List.mem_map.mp hInDue
  obtain ⟨second, hSecond, hId⟩ := List.mem_map.mp hInRegular
  obtain ⟨hLookup, hIsDue⟩ := mem_dueRetries.mp (List.mem_of_mem_filter (List.mem_of_mem_take hFirst))
  obtain ⟨hLookup', hIsRegular⟩ :=
    mem_regularRuns.mp (List.mem_of_mem_filter (List.mem_of_mem_take hSecond))
  rw [hId, hLookup] at hLookup'
  obtain rfl : first = second := Option.some.inj hLookup'
  have hNone := (Bool.and_eq_true_iff.mp hIsRegular).2
  have hAny := (Bool.and_eq_true_iff.mp hIsDue).2
  rw [Option.isNone_iff_eq_none.mp hNone] at hAny
  cases hAny

end QueuedRuns

/-- The `retry_config` of a campaign, whose keys may be absent. -/
structure RetryConfig where
  enabled : Option Bool
  maxRetries : Option Nat
  retryOnBusy : Option Bool
  retryOnNoAnswer : Option Bool
  retryOnVoicemail : Option Bool
  retryDelaySeconds : Option Nat
  deriving DecidableEq

structure ScheduleSlot where
  dayOfWeek : Nat
  startTime : String
  endTime : String
  deriving DecidableEq

structure ScheduleConfig where
  enabled : Bool
  timezone : String
  slots : List ScheduleSlot
  deriving DecidableEq

structure CampaignRow where
  id : Nat
  organizationId : Nat
  workflowId : Nat
  telephonyConfigurationId : Option Nat
  state : CampaignState
  totalRows : Option Nat
  processedRows : Nat
  failedRows : Nat
  rateLimitPerSecond : Nat
  retryConfig : RetryConfig
  lastBatchScheduledAt : Option UnixTime
  lastActivityAt : Option UnixTime
  startedAt : Option UnixTime
  completedAt : Option UnixTime
  parentCampaignId : Option Nat
  maxConcurrency : Option Nat
  circuitBreaker : Option CircuitBreakerConfig
  scheduleConfig : Option ScheduleConfig
  phoneNumberPoolExhaustedAttempts : Nat

structure CampaignChanges where
  state : Option CampaignState := none
  processedRows : Option Nat := none
  failedRows : Option Nat := none
  lastBatchScheduledAt : Option UnixTime := none
  lastActivityAt : Option UnixTime := none
  startedAt : Option UnixTime := none
  completedAt : Option UnixTime := none

/-- The mapper writes a column only if the new value differs from the value it has loaded. -/
def written {α : Type} [DecidableEq α] (stored loaded : α) : Option α → α
  | none => stored
  | some value => if value = loaded then stored else value

def CampaignRow.write (row loaded : CampaignRow) (changes : CampaignChanges) : CampaignRow :=
  { row with
    state := written row.state loaded.state changes.state
    processedRows := written row.processedRows loaded.processedRows changes.processedRows
    failedRows := written row.failedRows loaded.failedRows changes.failedRows
    lastBatchScheduledAt := written row.lastBatchScheduledAt loaded.lastBatchScheduledAt
      (changes.lastBatchScheduledAt.map some)
    lastActivityAt := written row.lastActivityAt loaded.lastActivityAt
      (changes.lastActivityAt.map some)
    startedAt := written row.startedAt loaded.startedAt (changes.startedAt.map some)
    completedAt := written row.completedAt loaded.completedAt (changes.completedAt.map some) }

structure WorkflowRun where
  id : Nat
  queuedRunId : Nat
  deriving DecidableEq

abbrev WorkflowRuns := Table WorkflowRun.id

def WorkflowRuns.linked (t : WorkflowRuns) (queuedRunId : Nat) : Bool :=
  t.rows.any fun run => run.queuedRunId = queuedRunId

end FastVoice.Campaign
