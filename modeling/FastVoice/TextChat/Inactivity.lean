import FastVoice.Python.Models
import FastVoice.Runtime.Machine
import FastVoice.Sql.Table

/-! # The sweep over inactive text chats

A sweep reads the incomplete sessions whose last activity is in a window, page by page from the first run on,
and enqueues a job for every session that has been inactive for as long as its workflow allows. Each page and
each job is awaited, and the sessions change in between.
-/
namespace FastVoice.TextChat.Inactivity
open Python

def minTimeoutSeconds : Int := 60

def timeoutSeconds : Int := 1800

def sweepIntervalMinutes : Int := 5

def sweepLookbackSeconds : Int := 3 * 60 * 60

def maxTimeoutSeconds : Int := sweepLookbackSeconds - sweepIntervalMinutes * 60

def sweepPageSize : Nat := 500

def sweepMaxPages : Nat := 10

def sweepEnqueueLimit : Nat := 500

/-- A row of the text sessions, joined to its run. Times are in seconds since the epoch. -/
structure TextSession where
  workflowRunId : Nat
  revision : Nat
  updatedAt : Option ℚ
  createdAt : Option ℚ
  runCreatedAt : Option ℚ
  mode : String
  isCompleted : Bool
  /-- The configurations of the run's definition, if it has one. -/
  definition : Option Json
  /-- The configurations of its workflow. -/
  workflow : Json

def parseDigits : Nat → List Char → Option Nat
  | value, [c] => if c.isDigit then some (10 * value + (c.toNat - '0'.toNat)) else none
  | value, c :: '_' :: rest =>
    if c.isDigit then parseDigits (10 * value + (c.toNat - '0'.toNat)) rest else none
  | value, c :: rest =>
    if c.isDigit then parseDigits (10 * value + (c.toNat - '0'.toNat)) rest else none
  | _, [] => none

def strip (text : List Char) : List Char :=
  ((text.dropWhile Char.isWhitespace).reverse.dropWhile Char.isWhitespace).reverse

def int : Json → Option Int
  | .number n => some (if 0 ≤ n.value then n.value.floor else n.value.ceil)
  | .bool b => some (if b then 1 else 0)
  | .str text =>
    match strip text.toList with
    | '-' :: digits => (parseDigits 0 digits).map fun n => -n
    | '+' :: digits => (parseDigits 0 digits).map fun n => n
    | digits => (parseDigits 0 digits).map fun n => n
  | _ => none

namespace TextSession

def inactivityTimeoutSeconds (session : TextSession) : Int :=
  let configurations := session.definition.getD session.workflow
  let key := "text_chat_inactivity_timeout_seconds"
  let configured := if configurations.has key then int (configurations.get key) else some timeoutSeconds
  min maxTimeoutSeconds (max minTimeoutSeconds (configured.getD timeoutSeconds))

def lastActivityAt (session : TextSession) : Option ℚ :=
  session.updatedAt <|> session.createdAt <|> session.runCreatedAt

def inactivityDeadline (session : TextSession) (now : ℚ) : ℚ :=
  match session.lastActivityAt with
  | none => now
  | some lastActivityAt => lastActivityAt + session.inactivityTimeoutSeconds

/-- A comparison with `NULL` is not true. -/
def within (activeSince inactiveBefore : ℚ) (time : Option ℚ) : Bool :=
  time.any fun time => activeSince ≤ time && time ≤ inactiveBefore

def isInactive (session : TextSession) (activeSince inactiveBefore : ℚ) : Bool :=
  session.mode = "textchat" && !session.isCompleted &&
    (within activeSince inactiveBefore session.updatedAt ||
      session.updatedAt.isNone && within activeSince inactiveBefore session.createdAt ||
      session.updatedAt.isNone && session.createdAt.isNone && within activeSince inactiveBefore session.runCreatedAt)

def isCandidate (session : TextSession) (completedAt : ℚ) : Bool :=
  session.isInactive (completedAt - sweepLookbackSeconds) (completedAt - minTimeoutSeconds)

def isDue (session : TextSession) (completedAt now : ℚ) : Bool := session.inactivityDeadline now ≤ completedAt

end TextSession

def getInactive (sessions : List TextSession) (completedAt : ℚ) (limit afterRunId : Nat) : List TextSession :=
  Sql.page TextSession.workflowRunId (sessions.filter fun session => session.isCandidate completedAt)
    (max 1 (min limit 500)) afterRunId

structure Job where
  runId : Nat
  expectedRevision : Nat
  completedAt : ℚ

/-- What a sweep awaits. `pages` is how many pages may be read after this one. -/
inductive Stage where
  | idle
  | reading (afterRunId enqueuedCount pages : Nat)
  | enqueueing (session : TextSession) (deadline : ℚ) (rest : List TextSession) (lastRunId : Nat) (isFull : Bool)
      (enqueuedCount pages : Nat)

def afterPage (lastRunId : Nat) (isFull : Bool) (enqueuedCount : Nat) : (pages : Nat) → Stage
  | 0 => .idle
  | pages + 1 =>
    if sweepEnqueueLimit ≤ enqueuedCount then .idle
    else if isFull then .reading lastRunId enqueuedCount pages
    else .idle

def nextSession (completedAt now : ℚ) (rows : List TextSession) (lastRunId : Nat) (isFull : Bool)
    (enqueuedCount pages : Nat) : Stage :=
  match rows.dropWhile fun session => !session.isDue completedAt now with
  | [] => afterPage lastRunId isFull enqueuedCount pages
  | session :: rest =>
    .enqueueing session (session.inactivityDeadline now) rest lastRunId isFull enqueuedCount pages

/-- The time of the last sweep, with the sessions that it started with and those that the pages have shown. -/
structure SweepRecord where
  lastSweep : ℚ
  started : List TextSession
  observed : List (TextSession × ℚ)

structure Service extends SweepRecord where
  now : ℚ
  sessions : List TextSession
  jobs : List Job
  stage : Stage

inductive ServiceEvent where
  | elapse (seconds : ℚ)
  | created (session : TextSession)
  | updated (runId : Nat)
  | completed (runId : Nat)
  | deleted (runId : Nat)
  | sweep
  | page
  | enqueue (succeeds : Bool)

namespace Service

def modify (s : Service) (runId : Nat) (f : TextSession → TextSession) : Service :=
  { s with sessions := s.sessions.map fun session => if session.workflowRunId = runId then f session else session }

/-- The ids of the runs are those of a sequence. -/
def Fresh (s : Service) (session : TextSession) : Prop :=
  0 < session.workflowRunId ∧ session.workflowRunId ∉ s.sessions.map TextSession.workflowRunId ∧
    session.lastActivityAt = some s.now

instance (s : Service) (session : TextSession) : Decidable (s.Fresh session) :=
  inferInstanceAs (Decidable (_ ∧ _ ∧ _))

def sweepStep (s : Service) : ServiceEvent → Option Service
  | .sweep =>
    match s.stage with
    | .idle => some { s with lastSweep := s.now, started := s.sessions, stage := .reading 0 0 (sweepMaxPages - 1) }
    | _ => none
  | .page =>
    match s.stage with
    | .reading afterRunId enqueuedCount pages =>
      let rows := getInactive s.sessions s.lastSweep sweepPageSize afterRunId
      let observed := rows.map (·, s.now) ++ s.observed
      match rows.getLast? with
      | none => some { s with stage := .idle, observed := observed }
      | some last =>
        some { s with
          stage :=
            nextSession s.lastSweep s.now rows last.workflowRunId (rows.length = sweepPageSize) enqueuedCount pages
          observed := observed }
    | _ => none
  | .enqueue succeeds =>
    match s.stage with
    | .enqueueing session deadline rest lastRunId isFull enqueuedCount pages =>
      let enqueuedCount := if succeeds then enqueuedCount + 1 else enqueuedCount
      some { s with
        jobs := if succeeds then ⟨session.workflowRunId, session.revision, deadline⟩ :: s.jobs else s.jobs
        stage := if sweepEnqueueLimit ≤ enqueuedCount then .idle
          else nextSession s.lastSweep s.now rest lastRunId isFull enqueuedCount pages }
    | _ => none
  | _ => none

def step (s : Service) : ServiceEvent → Option Service
  | .elapse seconds => if 0 ≤ seconds then some { s with now := s.now + seconds } else none
  | .created session => if s.Fresh session then some { s with sessions := session :: s.sessions } else none
  -- `onupdate` sets the time
  | .updated runId =>
    some (s.modify runId fun session => { session with revision := session.revision + 1, updatedAt := some s.now })
  | .completed runId => some (s.modify runId fun session => { session with isCompleted := true })
  | .deleted runId => some { s with sessions := s.sessions.filter fun session => session.workflowRunId ≠ runId }
  | event => s.sweepStep event

end Service

def service : Machine Service ServiceEvent := ⟨Service.step⟩

namespace Service

def HasJob (s : Service) (session : TextSession) : Prop :=
  ∃ job ∈ s.jobs, job.runId = session.workflowRunId ∧ job.expectedRevision = session.revision

def OlderThan (session : TextSession) (seconds : Int) (time : ℚ) : Prop :=
  session.mode = "textchat" ∧ session.isCompleted = false ∧
    ∃ lastActivityAt ∈ session.lastActivityAt, lastActivityAt + seconds < time

def ShownInactive (session : TextSession) (time : ℚ) : Prop :=
  ∃ lastActivityAt ∈ session.lastActivityAt, lastActivityAt + session.inactivityTimeoutSeconds ≤ time

structure NothingForgotten (s : Service) : Prop where
  /-- What the last sweep and all later ones cannot see has its job. -/
  kept : ∀ session ∈ s.sessions, OlderThan session sweepLookbackSeconds s.lastSweep → s.HasJob session
  inactive : ∀ job ∈ s.jobs, ∃ shown ∈ s.observed, shown.1.workflowRunId = job.runId ∧
    shown.1.revision = job.expectedRevision ∧ ShownInactive shown.1 shown.2

/-- Sweeps start in time, and jobs are enqueued. -/
def InTime (s : Service) : ServiceEvent → Prop
  | .sweep => s.now ≤ s.lastSweep + sweepIntervalMinutes * 60
  | .enqueue succeeds => succeeds = true
  | _ => True

def before (s : Service) (p : TextSession → Bool) (runId : Nat) : Nat :=
  ((s.sessions.filter p).map TextSession.workflowRunId).countP (· < runId)

/-- A session that leaves the window before the next sweep and has no job yet is behind fewer candidates than a
sweep reads, and behind fewer due ones than it enqueues. -/
def WithinReach (s : Service) : Prop :=
  ∀ session ∈ s.sessions, OlderThan session maxTimeoutSeconds s.now → session.isCandidate s.now = true →
    s.HasJob session ∨
      s.before (·.isCandidate s.now) session.workflowRunId < sweepPageSize * sweepMaxPages ∧
      s.before (fun session => session.isCandidate s.now && session.isDue s.now s.now) session.workflowRunId <
        sweepEnqueueLimit

def Reaches (s : Service) : ServiceEvent → Prop
  | .sweep => s.WithinReach
  | _ => True

/-- As the sweeps begin, no chat has been inactive for longer than the longest timeout. -/
structure Starts (s : Service) : Prop where
  stage : s.stage = .idle
  jobs : s.jobs = []
  lastSweep : s.lastSweep = s.now
  distinct : (s.sessions.map TextSession.workflowRunId).Nodup
  positive : ∀ session ∈ s.sessions, 0 < session.workflowRunId
  past : ∀ session ∈ s.sessions, ∀ lastActivityAt ∈ session.lastActivityAt, lastActivityAt ≤ s.now
  active : ∀ session ∈ s.sessions, ¬OlderThan session maxTimeoutSeconds s.now

end Service

end FastVoice.TextChat.Inactivity
