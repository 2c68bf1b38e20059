import FastVoice.Campaign.Database

/-! # Claiming queued runs

`claim_queued_runs_for_processing` as a transaction in small steps. A `SELECT ... FOR UPDATE SKIP
LOCKED` takes its snapshot and then tries one candidate after the other: it skips a row that is
locked or whose latest version no longer matches, and stops at the limit. The marked rows become
visible at the commit, which also releases the locks; any failure before it rolls back.
-/
namespace FastVoice.Campaign
open Async Sql

inductive Selection where
  | due (scheduledBefore : UnixTime)
  | regular
  deriving DecidableEq

namespace Selection

def accepts : Selection → QueuedRun → Bool
  | .due scheduledBefore, run => run.isDue scheduledBefore
  | .regular, run => run.isRegular

def candidates : Selection → (Nat → Nat) → QueuedRuns → List Nat
  | .due scheduledBefore, random, t => (t.dueRetries random scheduledBefore).map QueuedRun.id
  | .regular, random, t => (t.regularRuns random).map QueuedRun.id

end Selection

/-- Who has locked a row: a claim, or some other transaction. -/
inductive Holder (ι : Type) where
  | claim (txn : ι)
  | other
  deriving DecidableEq

structure ClaimStore (ι : Type) where
  runs : QueuedRuns
  locks : Nat → Option (Holder ι)
  random : Nat → Nat

inductive ClaimCommand where
  | select (selection : Selection)
  | lockRow (selection : Selection) (id : Nat)
  | commit (ids : List Nat)
  | refresh (id : Nat)
  deriving DecidableEq

abbrev ClaimCommand.Reply : ClaimCommand → Type
  | .select _ => List Nat
  | .lockRow _ _ => Bool
  | .commit _ => Unit
  | .refresh _ => Option QueuedRun

section

variable {ι : Type} [DecidableEq ι]

namespace ClaimStore

/-- `FOR UPDATE SKIP LOCKED` gets this row now. -/
def Lockable (s : ClaimStore ι) (selection : Selection) (id : Nat) : Prop :=
  s.locks id = none ∧ ∃ run ∈ s.runs.lookup id, selection.accepts run = true

instance (s : ClaimStore ι) (selection : Selection) (id : Nat) :
    Decidable (s.Lockable selection id) := inferInstanceAs (Decidable (_ ∧ ∃ run ∈ _, _))

def lock (s : ClaimStore ι) (holder : Holder ι) (id : Nat) : ClaimStore ι :=
  { s with locks := Function.update s.locks id (some holder) }

def release (s : ClaimStore ι) (holder : Holder ι) : ClaimStore ι :=
  { s with locks := fun id => if s.locks id = some holder then none else s.locks id }

def execute (txn : ι) : (command : ClaimCommand) → ClaimStore ι → command.Reply × ClaimStore ι
  | .select selection, s => (selection.candidates s.random s.runs, s)
  | .lockRow selection id, s =>
    if s.Lockable selection id then (true, s.lock (.claim txn) id) else (false, s)
  | .commit ids, s =>
    ((), { s with runs := s.runs.setState ids .processing }.release (.claim txn))
  | .refresh id, s => (s.runs.lookup id, s)

def perform (txn : ι) (command : ClaimCommand) (outcome : Outcome Error) (s : ClaimStore ι) :
    Except Error command.Reply × ClaimStore ι :=
  match outcome with
  | .reply => (.ok (execute txn command s).1, (execute txn command s).2)
  | .fail error applied =>
    (.error error, (if applied then (execute txn command s).2 else s).release (.claim txn))

end ClaimStore

/-- What other transactions do: they lock rows, commit a new version of a row that no claim has
locked, and insert rows. A row is put back by such a version in state `queued`. -/
inductive ClaimMove where
  | draw (random : Nat → Nat)
  | lock (id : Nat)
  | unlock (id : Nat)
  | write (run : QueuedRun)
  | insert (run : QueuedRun)

def ClaimStore.environment : ClaimMove → ClaimStore ι → Option (ClaimStore ι)
  | .draw random, s => some { s with random }
  | .lock id, s => if s.locks id = none then some (s.lock .other id) else none
  | .unlock id, s =>
    if s.locks id = some .other then some { s with locks := Function.update s.locks id none }
    else none
  | .write run, s =>
    match s.locks run.id with
    | some (.claim _) => none
    | _ =>
      let write := fun found : QueuedRun => if found.id = run.id then run else found
      some { s with
        runs := s.runs.update write fun found => by
          simp only [write]
          split
          · rename_i h
            exact h.symm
          · rfl }
  | .insert run, s => some { s with runs := s.runs.insert run }

def claiming (ι : Type) [DecidableEq ι] :
    System ι ClaimCommand.Reply Error (ClaimStore ι) ClaimMove where
  perform := ClaimStore.perform
  environment := ClaimStore.environment

end

/-! ## The method -/

abbrev ClaimMethod := Program ClaimCommand.Reply Error

def lockRows (selection : Selection) : List Nat → (limit : Nat) → ClaimMethod (List Nat)
  | [], _ => return []
  | _ :: _, 0 => return []
  | id :: candidates, limit + 1 => do
    let locked ← Program.call (ClaimCommand.lockRow selection id)
    if locked then
      let rest ← lockRows selection candidates limit
      return id :: rest
    else lockRows selection candidates (limit + 1)

def selectForUpdate (selection : Selection) (limit : Nat) : ClaimMethod (List Nat) := do
  let candidates ← Program.call (ClaimCommand.select selection)
  lockRows selection candidates limit

/-- Only if there are slots left after the retries. -/
def selectRegularRuns (remainingSlots : Nat) : ClaimMethod (List Nat) :=
  if 0 < remainingSlots then selectForUpdate .regular remainingSlots else return []

def refreshRuns : List Nat → ClaimMethod Unit
  | [] => return ()
  | id :: ids => do
    let run ← Program.call (ClaimCommand.refresh id)
    match run with
    | none => .raise .exception
    | some _ => refreshRuns ids

/-- The returned objects are named by their ids. -/
def claimQueuedRunsForProcessing (scheduledBefore : UnixTime) (limit : Nat) :
    ClaimMethod (List Nat) := do
  let scheduledRuns ← selectForUpdate (.due scheduledBefore) limit
  let regularRuns ← selectRegularRuns (limit - scheduledRuns.length)
  let claimedRuns := scheduledRuns ++ regularRuns
  Program.call (ClaimCommand.commit claimedRuns)
  refreshRuns claimedRuns
  return claimedRuns

end FastVoice.Campaign

/-! # Claims are exclusive

A row that a working claim has locked is still queued and matches the query it was locked for, and
nobody else can write it. So the rows that a commit marks were queued until then, and a row that
was claimed before must have been put back.
-/
namespace FastVoice.Campaign
open Async Sql

structure ClaimCall where
  scheduledBefore : UnixTime
  limit : Nat

def ClaimCall.method (c : ClaimCall) : ClaimMethod (List Nat) :=
  claimQueuedRunsForProcessing c.scheduledBefore c.limit

abbrev ClaimEntry (ι : Type) := Entry ι ClaimCommand Error (ClaimStore ι) ClaimMove
abbrev ClaimTrace (ι : Type) := Recorded ι ClaimCommand Error (ClaimStore ι) ClaimMove

section Statements

variable {ι : Type} [DecidableEq ι]

def ClaimedBy (txn : ι) (id : Nat) : ClaimEntry ι → Prop
  | .call caller (.commit ids) outcome _ => caller = txn ∧ outcome.executed = true ∧ id ∈ ids
  | _ => False

def PutsBack (id : Nat) : ClaimEntry ι → Prop
  | .environment (.write run) _ => run.id = id ∧ run.state = .queued
  | _ => False

/-- The transaction has committed the rows `due ++ regular`, which it found as the claim promises. -/
structure ValidClaim (c : ClaimCall) (history : List (ClaimEntry ι)) (txn : ι)
    (due regular : List Nat) (found : ClaimStore ι) : Prop where
  committed : .call txn (.commit (due ++ regular)) .reply found ∈ history
  distinct : (due ++ regular).Nodup
  atMost : (due ++ regular).length ≤ c.limit
  dueRetries : ∀ id ∈ due, ∃ run ∈ found.runs.lookup id, run.isDue c.scheduledBefore = true
  regularRuns : ∀ id ∈ regular, ∃ run ∈ found.runs.lookup id, run.isRegular = true
  /-- Every other due retry of the snapshot was locked or had changed when its turn came. -/
  retriesFirst : regular ≠ [] → due.length < c.limit ∧
    ∃ seen, .call txn (.select (.due c.scheduledBefore)) .reply seen ∈ history ∧
      ∀ id, ∀ run ∈ seen.runs.lookup id, run.isDue c.scheduledBefore = true → id ∈ due ∨
        ∃ tried, .call txn (.lockRow (.due c.scheduledBefore) id) .reply tried ∈ history ∧
          ¬tried.Lockable (.due c.scheduledBefore) id
  marked : ∀ id, (ClaimStore.execute txn (.commit (due ++ regular)) found).2.runs.lookup id =
    if id ∈ due ++ regular then (found.runs.lookup id).map fun run => { run with state := .processing }
    else found.runs.lookup id

/-- Both transactions have claimed the row, and in between it was put back. -/
def PutBackBetween (history : List (ClaimEntry ι)) (first second : ι) (id : Nat) : Prop :=
  ∃ newer mid older later earlier, history = newer ++ later :: (mid ++ earlier :: older) ∧
    (ClaimedBy first id earlier ∧ ClaimedBy second id later ∨
      ClaimedBy second id earlier ∧ ClaimedBy first id later) ∧
    ∃ entry ∈ mid, PutsBack id entry

end Statements

/-! ## The stages of a claim -/

structure ClaimLog where
  candidates : Option (List Nat)
  skipped : List Nat
  due : List Nat
  regular : List Nat

inductive ClaimStage where
  | working (log : ClaimLog)
  | committed (log : ClaimLog)
  | aborted

def ClaimStage.start : ClaimStage := .working ⟨none, [], [], []⟩

def ClaimLog.RetriesFirst (log : ClaimLog) (limit : Nat) : Prop :=
  log.due.length < limit ∧
    ∃ ids ∈ log.candidates, ∀ id ∈ ids, id ∈ log.due ∨ id ∈ log.skipped

namespace ClaimStage

def permits (c : ClaimCall) : ClaimStage → ClaimCommand → Prop
  | .working _, .select selection => selection = .due c.scheduledBefore ∨ selection = .regular
  | .working _, .lockRow selection _ => selection = .due c.scheduledBefore ∨ selection = .regular
  | .working log, .commit ids => ids = log.due ++ log.regular ∧ ids.length ≤ c.limit ∧
      (log.regular ≠ [] → log.RetriesFirst c.limit)
  | .committed _, .refresh _ => True
  | _, _ => False

def next : ClaimStage → (command : ClaimCommand) → Except Error command.Reply → ClaimStage
  | .working log, .select (.due _), .ok ids => .working { log with candidates := some ids }
  | .working log, .lockRow (.due _) id, .ok true => .working { log with due := log.due ++ [id] }
  | .working log, .lockRow (.due _) id, .ok false =>
    .working { log with skipped := id :: log.skipped }
  | .working log, .lockRow .regular id, .ok true =>
    .working { log with regular := log.regular ++ [id] }
  | .working log, .commit _, .ok _ => .committed log
  | .working _, _, .error _ => .aborted
  | stage, _, _ => stage

theorem next_error (log : ClaimLog) (command : ClaimCommand) (error : Error) :
    (ClaimStage.working log).next command (.error error) = .aborted := by
  cases command with
  | select selection => cases selection <;> rfl
  | lockRow selection id => cases selection <;> rfl
  | commit ids => rfl
  | refresh id => rfl

end ClaimStage

def claimProtocol (c : ClaimCall) : Protocol ClaimCommand.Reply Error ClaimStage where
  permits := ClaimStage.permits c
  next := ClaimStage.next

section Stages

variable {c : ClaimCall}

theorem lockRows_due_obeys (candidates : List Nat) (limit : Nat) (log : ClaimLog) :
    (lockRows (.due c.scheduledBefore) candidates limit).Obeys (claimProtocol c)
      (fun result stage => ∀ locked, result = .ok locked → ∃ skipped,
        stage = .working { log with due := log.due ++ locked, skipped := skipped ++ log.skipped } ∧
        locked.length ≤ limit ∧
        (locked.length < limit → ∀ id ∈ candidates, id ∈ locked ∨ id ∈ skipped))
      (.working log) := by
  induction candidates generalizing limit log with
  | nil =>
    rintro locked ⟨⟩
    exact ⟨[], by simp, Nat.zero_le _, fun _ id hId => absurd hId List.not_mem_nil⟩
  | cons id candidates ih =>
    cases limit with
    | zero =>
      rintro locked ⟨⟩
      exact ⟨[], by simp, le_rfl, fun hLess => absurd hLess (Nat.not_lt_zero _)⟩
    | succ limit =>
      simp only [lockRows, Program.call_bind]
      refine ⟨.inl rfl, fun result => ?_⟩
      cases result with
      | error error => rintro locked ⟨⟩
      | ok locked =>
        cases locked with
        | true =>
          have hRest := ih limit { log with due := log.due ++ [id] }
          refine hRest.bind (fun rest stage h => ?_) (fun error stage _ locked hEq => by cases hEq)
          obtain ⟨skipped, rfl, hLength, hTried⟩ := h rest rfl
          rintro locked ⟨⟩
          refine ⟨skipped, by simp, Nat.succ_le_succ hLength, fun hLess other hOther => ?_⟩
          obtain rfl | hOther := List.mem_cons.mp hOther
          · exact .inl List.mem_cons_self
          · exact (hTried (Nat.lt_of_succ_lt_succ hLess) other hOther).imp_left
              (List.mem_cons_of_mem _)
        | false =>
          have hRest := ih (limit + 1) { log with skipped := id :: log.skipped }
          refine hRest.weaken fun result stage h locked hEq => ?_
          obtain ⟨skipped, hStage, hLength, hTried⟩ := h locked hEq
          refine ⟨skipped ++ [id], by simpa using hStage, hLength, fun hLess other hOther => ?_⟩
          obtain rfl | hOther := List.mem_cons.mp hOther
          · exact .inr (List.mem_append_right _ List.mem_cons_self)
          · exact (hTried hLess other hOther).imp_right (List.mem_append_left _)

theorem lockRows_regular_obeys (candidates : List Nat) (limit : Nat) (log : ClaimLog) :
    (lockRows .regular candidates limit).Obeys (claimProtocol c)
      (fun result stage => ∀ locked, result = .ok locked →
        stage = .working { log with regular := log.regular ++ locked } ∧ locked.length ≤ limit)
      (.working log) := by
  induction candidates generalizing limit log with
  | nil =>
    rintro locked ⟨⟩
    exact ⟨by simp, Nat.zero_le _⟩
  | cons id candidates ih =>
    cases limit with
    | zero =>
      rintro locked ⟨⟩
      exact ⟨by simp, le_rfl⟩
    | succ limit =>
      simp only [lockRows, Program.call_bind]
      refine ⟨.inr rfl, fun result => ?_⟩
      cases result with
      | error error => rintro locked ⟨⟩
      | ok locked =>
        cases locked with
        | true =>
          have hRest := ih limit { log with regular := log.regular ++ [id] }
          refine hRest.bind (fun rest stage h => ?_) (fun error stage _ locked hEq => by cases hEq)
          obtain ⟨rfl, hLength⟩ := h rest rfl
          rintro locked ⟨⟩
          exact ⟨by simp, Nat.succ_le_succ hLength⟩
        | false => exact ih (limit + 1) log

theorem refreshRuns_obeys (ids : List Nat) (log : ClaimLog) :
    (refreshRuns ids).Obeys (claimProtocol c) (fun _ stage => stage = .committed log) (.committed log) := by
  induction ids with
  | nil => exact rfl
  | cons id ids ih =>
    simp only [refreshRuns, Program.call_bind]
    refine ⟨trivial, fun result => ?_⟩
    cases result with
    | error error => exact rfl
    | ok run =>
      cases run with
      | none => exact rfl
      | some run => exact ih

theorem claim_obeys (c : ClaimCall) :
    c.method.Obeys (claimProtocol c) (fun result stage => ∀ ids, result = .ok ids →
      ∃ log, stage = .committed log ∧ ids = log.due ++ log.regular) .start := by
  unfold ClaimCall.method claimQueuedRunsForProcessing
  have hDue : (selectForUpdate (.due c.scheduledBefore) c.limit).Obeys (claimProtocol c)
      (fun result stage => ∀ due, result = .ok due → ∃ candidates skipped,
        stage = .working ⟨some candidates, skipped, due, []⟩ ∧ due.length ≤ c.limit ∧
        (due.length < c.limit → ∀ id ∈ candidates, id ∈ due ∨ id ∈ skipped)) .start := by
    simp only [selectForUpdate, Program.call_bind]
    refine ⟨.inl rfl, fun result => ?_⟩
    cases result with
    | error error => exact fun due hEq => by cases hEq
    | ok candidates =>
      refine (lockRows_due_obeys candidates c.limit ⟨some candidates, [], [], []⟩).weaken
        fun result stage h due hEq => ?_
      obtain ⟨skipped, hStage, hLength, hTried⟩ := h due hEq
      exact ⟨candidates, skipped, by simpa using hStage, hLength, hTried⟩
  refine hDue.bind (fun due stage h => ?_) (fun error stage _ ids hEq => by cases hEq)
  obtain ⟨candidates, skipped, rfl, hLength, hTried⟩ := h due rfl
  have hRegular : (selectRegularRuns (c.limit - due.length)).Obeys (claimProtocol c)
      (fun result stage => ∀ regular, result = .ok regular →
        stage = .working ⟨some candidates, skipped, due, regular⟩ ∧
        regular.length ≤ c.limit - due.length) (.working ⟨some candidates, skipped, due, []⟩) := by
    unfold selectRegularRuns
    split
    · simp only [selectForUpdate, Program.call_bind]
      refine ⟨.inr rfl, fun result => ?_⟩
      cases result with
      | error error => exact fun regular hEq => by cases hEq
      | ok ids => exact lockRows_regular_obeys ids _ ⟨some candidates, skipped, due, []⟩
    · rintro regular ⟨⟩
      exact ⟨rfl, Nat.zero_le _⟩
  apply hRegular.bind
  · intro regular stage h
    obtain ⟨rfl, hRest⟩ := h regular rfl
    simp only [Program.call_bind]
    refine ⟨⟨rfl, by rw [List.length_append]; omega, fun hNe => ?_⟩, fun result => ?_⟩
    · have hLess : due.length < c.limit := by
        have hLength : 0 < regular.length := List.length_pos_iff.mpr hNe
        omega
      exact ⟨hLess, candidates, rfl, hTried hLess⟩
    cases result with
    | error error => exact fun ids hEq => by cases hEq
    | ok _ =>
      refine (refreshRuns_obeys (due ++ regular) _).bind (fun _ stage h => ?_)
        (fun error stage _ ids hEq => by cases hEq)
      rintro ids ⟨⟩
      exact ⟨_, h, rfl⟩
  · rintro error stage - ids ⟨⟩

end Stages

/-! ## The invariant -/

section Invariant

variable {ι : Type}

def Held (selection : Selection) (txn : ι) (s : ClaimStore ι) (id : Nat) : Prop :=
  s.locks id = some (.claim txn) ∧ ∃ run ∈ s.runs.lookup id, selection.accepts run = true

def Taken (s : ClaimStore ι) (id : Nat) : Prop := ∃ run ∈ s.runs.lookup id, run.state ≠ .queued

theorem queued_of_accepts {selection : Selection} {run : QueuedRun}
    (h : selection.accepts run = true) : run.state = .queued := by
  cases selection with
  | due scheduledBefore =>
    exact of_decide_eq_true (Bool.and_eq_true_iff.mp h).1
  | regular => exact of_decide_eq_true (Bool.and_eq_true_iff.mp h).1

theorem Held.not_taken {selection : Selection} {txn : ι} {s : ClaimStore ι} {id : Nat}
    (h : Held selection txn s id) : ¬Taken s id := by
  obtain ⟨-, run, hRun, hAccepts⟩ := h
  rintro ⟨other, hOther, hState⟩
  obtain rfl : run = other := Option.some.inj (hRun.symm.trans hOther)
  exact hState (queued_of_accepts hAccepts)

structure ClaimedOnce (history : List (ClaimEntry ι)) (s : ClaimStore ι) : Prop where
  taken : ∀ id txn newer older entry, history = newer ++ entry :: older → ClaimedBy txn id entry →
    (∀ other ∈ newer, ¬PutsBack id other) → Taken s id
  between : ∀ id first second newer mid older later earlier,
    history = newer ++ later :: (mid ++ earlier :: older) →
    ClaimedBy first id later → ClaimedBy second id earlier → ∃ entry ∈ mid, PutsBack id entry

theorem ClaimedOnce.push {history : List (ClaimEntry ι)} {s s' : ClaimStore ι}
    {entry : ClaimEntry ι} (h : ClaimedOnce history s)
    (hTaken : ∀ id, Taken s id → ¬PutsBack id entry → Taken s' id)
    (hClaim : ∀ id txn, ClaimedBy txn id entry → ¬Taken s id ∧ Taken s' id) :
    ClaimedOnce (entry :: history) s' := by
  constructor
  · intro id txn newer older claim hEq hClaimed hKept
    cases newer with
    | nil =>
      obtain ⟨rfl, -⟩ := List.cons.inj hEq
      exact (hClaim id txn hClaimed).2
    | cons first newer =>
      obtain ⟨rfl, hTail⟩ := List.cons.inj hEq
      have hOld := h.taken id txn newer older claim hTail hClaimed fun other hOther =>
        hKept other (List.mem_cons_of_mem _ hOther)
      exact hTaken id hOld (hKept entry List.mem_cons_self)
  · intro id first second newer mid older later earlier hEq hLater hEarlier
    cases newer with
    | nil =>
      obtain ⟨rfl, hTail⟩ := List.cons.inj hEq
      by_contra hNone
      have hOld := h.taken id second mid older earlier hTail hEarlier fun other hOther hBack =>
        hNone ⟨other, hOther, hBack⟩
      exact (hClaim id first hLater).1 hOld
    | cons first newer =>
      obtain ⟨rfl, hTail⟩ := List.cons.inj hEq
      exact h.between id _ _ newer mid older later earlier hTail hLater hEarlier

namespace ClaimLog

structure Locked (c : ClaimCall) (txn : ι) (s : ClaimStore ι) (log : ClaimLog) : Prop where
  distinct : (log.due ++ log.regular).Nodup
  due : ∀ id ∈ log.due, Held (.due c.scheduledBefore) txn s id
  regular : ∀ id ∈ log.regular, Held .regular txn s id

structure Tried (c : ClaimCall) (txn : ι) (history : List (ClaimEntry ι)) (log : ClaimLog) :
    Prop where
  seen : ∀ ids ∈ log.candidates,
    ∃ seen, .call txn (.select (.due c.scheduledBefore)) .reply seen ∈ history ∧
      ∀ id, ∀ run ∈ seen.runs.lookup id, run.isDue c.scheduledBefore = true → id ∈ ids
  skipped : ∀ id ∈ log.skipped,
    ∃ tried, .call txn (.lockRow (.due c.scheduledBefore) id) .reply tried ∈ history ∧
      ¬tried.Lockable (.due c.scheduledBefore) id

variable {c : ClaimCall} {txn : ι} {s s' : ClaimStore ι} {log : ClaimLog}
  {history : List (ClaimEntry ι)}

theorem Locked.held (h : log.Locked c txn s) {id : Nat} (hId : id ∈ log.due ++ log.regular) :
    ∃ selection, Held selection txn s id := by
  obtain hDue | hRegular := List.mem_append.mp hId
  · exact ⟨_, h.due id hDue⟩
  · exact ⟨_, h.regular id hRegular⟩

theorem Locked.keep (h : log.Locked c txn s) (hKeep : ∀ id ∈ log.due ++ log.regular,
    ∀ selection, Held selection txn s id → Held selection txn s' id) : log.Locked c txn s' where
  distinct := h.distinct
  due id hId := hKeep id (List.mem_append_left _ hId) _ (h.due id hId)
  regular id hId := hKeep id (List.mem_append_right _ hId) _ (h.regular id hId)

theorem Locked.lock (h : log.Locked c txn s) {id : Nat} (hFree : s.locks id = none) :
    id ∉ log.due ++ log.regular ∧ log.Locked c txn (s.lock (.claim txn) id) := by
  have hNe : ∀ other ∈ log.due ++ log.regular, other ≠ id := by
    rintro other hOther rfl
    obtain ⟨selection, hLock, -⟩ := h.held hOther
    rw [hFree] at hLock
    cases hLock
  refine ⟨fun hId => hNe id hId rfl, h.keep fun other hOther selection hHeld => ?_⟩
  refine ⟨?_, hHeld.2⟩
  simpa [ClaimStore.lock, hNe other hOther] using hHeld.1

theorem Locked.lockDue (h : log.Locked c txn s) {id : Nat}
    (hLockable : s.Lockable (.due c.scheduledBefore) id) :
    ({ log with due := log.due ++ [id] } : ClaimLog).Locked c txn (s.lock (.claim txn) id) := by
  obtain ⟨hNew, hOld⟩ := h.lock hLockable.1
  refine ⟨?_, fun other hOther => ?_, hOld.regular⟩
  · rw [List.append_assoc, List.singleton_append]
    exact List.nodup_middle.mpr (List.nodup_cons.mpr ⟨hNew, hOld.distinct⟩)
  · obtain hOther | hOther := List.mem_append.mp hOther
    · exact hOld.due other hOther
    · obtain rfl := List.mem_singleton.mp hOther
      exact ⟨Function.update_self _ _ _, hLockable.2⟩

theorem Locked.lockRegular (h : log.Locked c txn s) {id : Nat} (hLockable : s.Lockable .regular id) :
    ({ log with regular := log.regular ++ [id] } : ClaimLog).Locked c txn
      (s.lock (.claim txn) id) := by
  obtain ⟨hNew, hOld⟩ := h.lock hLockable.1
  refine ⟨?_, hOld.due, fun other hOther => ?_⟩
  · rw [← List.append_assoc]
    exact List.nodup_append.mpr ⟨hOld.distinct, List.nodup_singleton id, by
      rintro other hOther _ hEq rfl
      exact hNew (List.mem_singleton.mp hEq ▸ hOther)⟩
  · obtain hOther | hOther := List.mem_append.mp hOther
    · exact hOld.regular other hOther
    · obtain rfl := List.mem_singleton.mp hOther
      exact ⟨Function.update_self _ _ _, hLockable.2⟩

theorem Tried.grow (h : log.Tried c txn history) (entry : ClaimEntry ι) :
    log.Tried c txn (entry :: history) where
  seen ids hIds := by
    obtain ⟨seen, hSeen, hAll⟩ := h.seen ids hIds
    exact ⟨seen, List.mem_cons_of_mem _ hSeen, hAll⟩
  skipped id hId := by
    obtain ⟨tried, hTried, hFailed⟩ := h.skipped id hId
    exact ⟨tried, List.mem_cons_of_mem _ hTried, hFailed⟩

end ClaimLog

theorem mem_candidates_due {s : ClaimStore ι} {scheduledBefore : UnixTime} {id : Nat}
    {run : QueuedRun} (hRun : run ∈ s.runs.lookup id) (hDue : run.isDue scheduledBefore = true) :
    id ∈ (Selection.due scheduledBefore).candidates s.random s.runs := by
  have hId : run.id = id := Table.key_of_lookup hRun
  refine List.mem_map.mpr ⟨run, QueuedRuns.mem_dueRetries.mpr ⟨?_, hDue⟩, hId⟩
  rw [hId]
  exact hRun

variable [DecidableEq ι]

@[simp] theorem release_runs (s : ClaimStore ι) (holder : Holder ι) :
    (s.release holder).runs = s.runs := rfl

theorem release_locks {s : ClaimStore ι} {holder kept : Holder ι} {id : Nat}
    (h : s.locks id = some kept) (hNe : kept ≠ holder) : (s.release holder).locks id = some kept := by
  simp [ClaimStore.release, h, hNe]

theorem Held.perform {selection : Selection} {txn other : ι} {s : ClaimStore ι} {id : Nat}
    (h : Held selection other s id) (hNe : other ≠ txn) {command : ClaimCommand}
    (hCommit : ∀ ids, command = .commit ids → id ∉ ids) (outcome : Outcome Error) :
    Held selection other (ClaimStore.perform txn command outcome s).2 id := by
  obtain ⟨hLock, hRun⟩ := h
  have hHolder : (Holder.claim other : Holder ι) ≠ .claim txn := fun hEq => hNe (Holder.claim.inj hEq)
  have hExecute : Held selection other (ClaimStore.execute txn command s).2 id := by
    cases command with
    | select selection => exact ⟨hLock, hRun⟩
    | lockRow selection row =>
      simp only [ClaimStore.execute]
      split
      · rename_i hLockable
        have hRow : id ≠ row := by
          rintro rfl
          rw [hLockable.1] at hLock
          cases hLock
        exact ⟨by simpa [ClaimStore.lock, hRow] using hLock, hRun⟩
      · exact ⟨hLock, hRun⟩
    | commit ids =>
      refine ⟨release_locks hLock hHolder, ?_⟩
      simp only [ClaimStore.execute, release_runs, QueuedRuns.lookup_setState,
        if_neg (hCommit ids rfl)]
      exact hRun
    | refresh id => exact ⟨hLock, hRun⟩
  cases outcome with
  | reply => exact hExecute
  | fail error applied =>
    cases applied with
    | true => exact ⟨release_locks hExecute.1 hHolder, hExecute.2⟩
    | false => exact ⟨release_locks hLock hHolder, hRun⟩

theorem environment_lookup {s s' : ClaimStore ι} {move : ClaimMove}
    (h : s.environment move = some s') {id : Nat} {run : QueuedRun} (hRun : s.runs.lookup id = some run) :
    s'.runs.lookup id = some run ∨ ∃ version, move = .write version ∧ version.id = id ∧
      s'.runs.lookup id = some version ∧ ∀ txn, s.locks id ≠ some (.claim txn) := by
  cases move with
  | draw random =>
    cases h
    exact .inl hRun
  | lock row =>
    obtain ⟨-, h⟩ := Option.ite_none_right_eq_some.mp h
    cases h
    exact .inl hRun
  | unlock row =>
    obtain ⟨-, h⟩ := Option.ite_none_right_eq_some.mp h
    cases h
    exact .inl hRun
  | insert row =>
    cases h
    exact .inl (Table.lookup_insert_of_some hRun)
  | write version =>
    simp only [ClaimStore.environment] at h
    split at h
    · cases h
    · rename_i hLock
      cases h
      simp only [Table.lookup_update, hRun, Option.map_some]
      have hId := Table.key_of_lookup hRun
      by_cases hVersion : version.id = id
      · right
        refine ⟨version, rfl, hVersion, by rw [if_pos (hId.trans hVersion.symm)], ?_⟩
        exact fun txn hClaim => hLock txn (hVersion ▸ hClaim)
      · left
        rw [if_neg fun hEq => hVersion (hEq.symm.trans hId)]

theorem environment_locks {s s' : ClaimStore ι} {move : ClaimMove}
    (h : s.environment move = some s') {id : Nat} {txn : ι}
    (hLock : s.locks id = some (.claim txn)) : s'.locks id = some (.claim txn) := by
  cases move with
  | draw random =>
    cases h
    exact hLock
  | lock row =>
    obtain ⟨hFree, h⟩ := Option.ite_none_right_eq_some.mp h
    cases h
    have hRow : id ≠ row := by
      rintro rfl
      rw [hFree] at hLock
      cases hLock
    simpa [ClaimStore.lock, hRow] using hLock
  | unlock row =>
    obtain ⟨hOther, h⟩ := Option.ite_none_right_eq_some.mp h
    cases h
    have hRow : id ≠ row := by
      rintro rfl
      rw [hOther] at hLock
      cases hLock
    simpa [hRow] using hLock
  | insert row =>
    cases h
    exact hLock
  | write version =>
    simp only [ClaimStore.environment] at h
    split at h
    · cases h
    · cases h
      exact hLock

theorem Held.environment {selection : Selection} {txn : ι} {s s' : ClaimStore ι} {id : Nat}
    (h : Held selection txn s id) {move : ClaimMove} (hMove : s.environment move = some s') :
    Held selection txn s' id := by
  obtain ⟨hLock, run, hRun, hAccepts⟩ := h
  refine ⟨environment_locks hMove hLock, run, ?_, hAccepts⟩
  obtain hSame | ⟨-, -, -, -, hFree⟩ := environment_lookup hMove hRun
  · exact hSame
  · exact absurd hLock (hFree txn)

theorem Taken.environment {s s' : ClaimStore ι} {id : Nat} (h : Taken s id) {move : ClaimMove}
    (hMove : s.environment move = some s')
    (hKept : ¬PutsBack id (.environment move s : ClaimEntry ι)) : Taken s' id := by
  obtain ⟨run, hRun, hState⟩ := h
  obtain hSame | ⟨version, rfl, hId, hVersion, -⟩ := environment_lookup hMove hRun
  · exact ⟨run, hSame, hState⟩
  · exact ⟨version, hVersion, fun hQueued => hKept ⟨hId, hQueued⟩⟩

theorem lookup_perform (txn : ι) (command : ClaimCommand) (outcome : Outcome Error)
    (s : ClaimStore ι) (id : Nat) :
    (ClaimStore.perform txn command outcome s).2.runs.lookup id = s.runs.lookup id ∨
      ∃ ids, command = .commit ids ∧ outcome.executed = true ∧ id ∈ ids ∧
        (ClaimStore.perform txn command outcome s).2.runs.lookup id =
          (s.runs.lookup id).map fun run => { run with state := .processing } := by
  have hExecute : (ClaimStore.execute txn command s).2.runs.lookup id = s.runs.lookup id ∨
      ∃ ids, command = .commit ids ∧ id ∈ ids ∧
        (ClaimStore.execute txn command s).2.runs.lookup id =
          (s.runs.lookup id).map fun run => { run with state := .processing } := by
    cases command with
    | select selection => exact .inl rfl
    | lockRow selection row =>
      left
      simp only [ClaimStore.execute]
      split <;> rfl
    | commit ids =>
      simp only [ClaimStore.execute, release_runs, QueuedRuns.lookup_setState]
      by_cases hId : id ∈ ids
      · exact .inr ⟨ids, rfl, hId, if_pos hId⟩
      · exact .inl (if_neg hId)
    | refresh row => exact .inl rfl
  cases outcome with
  | reply => exact hExecute.imp_right fun ⟨ids, hIds, hId, hRun⟩ => ⟨ids, hIds, rfl, hId, hRun⟩
  | fail error applied =>
    cases applied with
    | true => exact hExecute.imp_right fun ⟨ids, hIds, hId, hRun⟩ => ⟨ids, hIds, rfl, hId, hRun⟩
    | false => exact .inl rfl

theorem Taken.perform {s : ClaimStore ι} {id : Nat} (h : Taken s id) (txn : ι)
    (command : ClaimCommand) (outcome : Outcome Error) :
    Taken (ClaimStore.perform txn command outcome s).2 id := by
  obtain ⟨run, hRun, hState⟩ := h
  obtain hSame | ⟨-, -, -, -, hMarked⟩ := lookup_perform txn command outcome s id
  · exact ⟨run, hSame.trans hRun, hState⟩
  · rw [hRun] at hMarked
    exact ⟨_, hMarked, by simp⟩

theorem ValidClaim.grow {c : ClaimCall} {history : List (ClaimEntry ι)} {txn : ι}
    {due regular : List Nat} {found : ClaimStore ι} (h : ValidClaim c history txn due regular found)
    (entry : ClaimEntry ι) : ValidClaim c (entry :: history) txn due regular found where
  committed := List.mem_cons_of_mem _ h.committed
  distinct := h.distinct
  atMost := h.atMost
  dueRetries := h.dueRetries
  regularRuns := h.regularRuns
  retriesFirst hNe := by
    obtain ⟨hLess, seen, hSeen, hAll⟩ := h.retriesFirst hNe
    refine ⟨hLess, seen, List.mem_cons_of_mem _ hSeen, fun id run hRun hDue => ?_⟩
    obtain hTaken | ⟨tried, hTried, hFailed⟩ := hAll id run hRun hDue
    · exact .inl hTaken
    · exact .inr ⟨tried, List.mem_cons_of_mem _ hTried, hFailed⟩
  marked := h.marked

theorem ClaimLog.valid {c : ClaimCall} {txn : ι} {s : ClaimStore ι} {log : ClaimLog}
    {history : List (ClaimEntry ι)} (hLocked : log.Locked c txn s)
    (hTried : log.Tried c txn history) (hLength : (log.due ++ log.regular).length ≤ c.limit)
    (hFirst : log.regular ≠ [] → log.RetriesFirst c.limit) :
    ValidClaim c (.call txn (.commit (log.due ++ log.regular)) .reply s :: history) txn log.due
      log.regular s where
  committed := List.mem_cons_self
  distinct := hLocked.distinct
  atMost := hLength
  dueRetries id hId := (hLocked.due id hId).2
  regularRuns id hId := (hLocked.regular id hId).2
  retriesFirst hNe := by
    obtain ⟨hLess, ids, hIds, hAll⟩ := hFirst hNe
    obtain ⟨seen, hSeen, hComplete⟩ := hTried.seen ids hIds
    refine ⟨hLess, seen, List.mem_cons_of_mem _ hSeen, fun id run hRun hDue => ?_⟩
    obtain hTaken | hSkipped := hAll id (hComplete id run hRun hDue)
    · exact .inl hTaken
    · obtain ⟨tried, hEntry, hFailed⟩ := hTried.skipped id hSkipped
      exact .inr ⟨tried, List.mem_cons_of_mem _ hEntry, hFailed⟩
  marked := QueuedRuns.lookup_setState s.runs _ _

structure ClaimInvariant (calls : ι → ClaimCall) (trace : ClaimTrace ι) (stages : ι → ClaimStage) :
    Prop where
  locked : ∀ txn log, stages txn = .working log → log.Locked (calls txn) txn trace.state
  tried : ∀ txn log, stages txn = .working log → log.Tried (calls txn) txn trace.history
  committed : ∀ txn log, stages txn = .committed log →
    ∃ found, ValidClaim (calls txn) trace.history txn log.due log.regular found
  once : ClaimedOnce trace.history trace.state

variable {calls : ι → ClaimCall} {trace trace' : ClaimTrace ι} {stages : ι → ClaimStage}

structure StageHolds (c : ClaimCall) (txn : ι) (trace : ClaimTrace ι) (stage : ClaimStage) : Prop where
  locked : ∀ log, stage = .working log → log.Locked c txn trace.state
  tried : ∀ log, stage = .working log → log.Tried c txn trace.history
  committed : ∀ log, stage = .committed log →
    ∃ found, ValidClaim c trace.history txn log.due log.regular found

theorem ClaimInvariant.step (h : ClaimInvariant calls trace stages) {txn : ι} {stage : ClaimStage}
    {entry : ClaimEntry ι} (hHistory : trace'.history = entry :: trace.history)
    (hOthers : ∀ other, other ≠ txn → ∀ id selection, Held selection other trace.state id →
      Held selection other trace'.state id) (hStage : StageHolds (calls txn) txn trace' stage)
    (hOnce : ClaimedOnce trace'.history trace'.state) :
    ClaimInvariant calls trace' (Function.update stages txn stage) := by
  refine ⟨fun other log hLog => ?_, fun other log hLog => ?_, fun other log hLog => ?_, hOnce⟩
  · by_cases hOther : other = txn
    · subst hOther
      exact hStage.locked log ((Function.update_self _ _ _).symm.trans hLog)
    · rw [Function.update_of_ne hOther] at hLog
      exact (h.locked other log hLog).keep fun id _ selection => hOthers other hOther id selection
  · by_cases hOther : other = txn
    · subst hOther
      exact hStage.tried log ((Function.update_self _ _ _).symm.trans hLog)
    · rw [Function.update_of_ne hOther] at hLog
      rw [hHistory]
      exact (h.tried other log hLog).grow entry
  · by_cases hOther : other = txn
    · subst hOther
      exact hStage.committed log ((Function.update_self _ _ _).symm.trans hLog)
    · rw [Function.update_of_ne hOther] at hLog
      obtain ⟨found, hFound⟩ := h.committed other log hLog
      rw [hHistory]
      exact ⟨found, hFound.grow entry⟩

theorem stageHolds_working {c : ClaimCall} {txn : ι} {log : ClaimLog}
    (hLocked : log.Locked c txn trace.state) (hTried : log.Tried c txn trace.history) :
    StageHolds c txn trace (.working log) where
  locked _ hEq := ClaimStage.working.inj hEq ▸ hLocked
  tried _ hEq := ClaimStage.working.inj hEq ▸ hTried
  committed _ hEq := by cases hEq

theorem stageHolds_aborted (c : ClaimCall) (txn : ι) : StageHolds c txn trace .aborted where
  locked _ hEq := by cases hEq
  tried _ hEq := by cases hEq
  committed _ hEq := by cases hEq

theorem stageHolds_committed {c : ClaimCall} {txn : ι} {log : ClaimLog} {found : ClaimStore ι}
    (h : ValidClaim c trace.history txn log.due log.regular found) :
    StageHolds c txn trace (.committed log) where
  locked _ hEq := by cases hEq
  tried _ hEq := by cases hEq
  committed _ hEq := ClaimStage.committed.inj hEq ▸ ⟨found, h⟩

theorem stageHolds_lockRow {c : ClaimCall} {txn : ι} {log : ClaimLog} {selection : Selection}
    {id : Nat} (hSelection : selection = .due c.scheduledBefore ∨ selection = .regular)
    (hLocked : log.Locked c txn trace.state) (hTried : log.Tried c txn trace.history) :
    StageHolds c txn ((claiming ι).recorded.perform txn (.lockRow selection id) .reply trace).2
      ((ClaimStage.working log).next (.lockRow selection id)
        ((claiming ι).recorded.perform txn (.lockRow selection id) .reply trace).1) := by
  have hGrown := hTried.grow (.call txn (.lockRow selection id) .reply trace.state)
  simp only [System.recorded, claiming, ClaimStore.perform, ClaimStore.execute]
  by_cases hLockable : trace.state.Lockable selection id
  · simp only [if_pos hLockable]
    obtain rfl | rfl := hSelection
    · exact stageHolds_working (hLocked.lockDue hLockable) ⟨hGrown.seen, hGrown.skipped⟩
    · exact stageHolds_working (hLocked.lockRegular hLockable) ⟨hGrown.seen, hGrown.skipped⟩
  · simp only [if_neg hLockable]
    obtain rfl | rfl := hSelection
    · refine stageHolds_working ⟨hLocked.distinct, hLocked.due, hLocked.regular⟩
        ⟨hGrown.seen, fun other hOther => ?_⟩
      obtain rfl | hOther := List.mem_cons.mp hOther
      · exact ⟨trace.state, List.mem_cons_self, hLockable⟩
      · exact hGrown.skipped other hOther
    · exact stageHolds_working hLocked hGrown

theorem ClaimInvariant.own (h : ClaimInvariant calls trace stages) {txn : ι} {command : ClaimCommand}
    (hPermits : (stages txn).permits (calls txn) command) (outcome : Outcome Error) :
    StageHolds (calls txn) txn ((claiming ι).recorded.perform txn command outcome trace).2
      ((stages txn).next command ((claiming ι).recorded.perform txn command outcome trace).1) := by
  cases hStage : stages txn with
  | working log =>
    rw [hStage] at hPermits
    have hLocked := h.locked txn log hStage
    have hTried := h.tried txn log hStage
    cases outcome with
    | fail error applied =>
      have hNext : (ClaimStage.working log).next command
          ((claiming ι).recorded.perform txn command (.fail error applied) trace).1 = .aborted :=
        ClaimStage.next_error log command error
      rw [hNext]
      exact stageHolds_aborted _ _
    | reply =>
      cases command with
      | select selection =>
        have hGrown := hTried.grow (.call txn (.select selection) .reply trace.state)
        obtain rfl | rfl := hPermits
        · refine stageHolds_working ⟨hLocked.distinct, hLocked.due, hLocked.regular⟩
            ⟨fun ids hIds => ?_, hGrown.skipped⟩
          obtain rfl := Option.some.inj hIds
          exact ⟨trace.state, List.mem_cons_self, fun id run hRun hDue =>
            mem_candidates_due hRun hDue⟩
        · exact stageHolds_working hLocked hGrown
      | lockRow selection id => exact stageHolds_lockRow hPermits hLocked hTried
      | commit ids =>
        obtain ⟨rfl, hLength, hFirst⟩ := hPermits
        exact stageHolds_committed (ClaimLog.valid hLocked hTried hLength hFirst)
      | refresh id => exact hPermits.elim
  | committed log =>
    rw [hStage] at hPermits
    cases command with
    | refresh id =>
      obtain ⟨found, hFound⟩ := h.committed txn log hStage
      have hNext : ∀ result, (ClaimStage.committed log).next (.refresh id) result = .committed log := by
        intro result
        cases result <;> rfl
      rw [hNext]
      exact stageHolds_committed (hFound.grow _)
    | _ => exact hPermits.elim
  | aborted =>
    rw [hStage] at hPermits
    exact hPermits.elim

theorem ClaimInvariant.held_of_commit (h : ClaimInvariant calls trace stages) {txn : ι}
    {ids : List Nat} (hPermits : (stages txn).permits (calls txn) (.commit ids)) {id : Nat}
    (hId : id ∈ ids) : ∃ selection, Held selection txn trace.state id := by
  cases hStage : stages txn with
  | working log =>
    rw [hStage] at hPermits
    obtain ⟨rfl, -, -⟩ := hPermits
    exact (h.locked txn log hStage).held hId
  | committed log =>
    rw [hStage] at hPermits
    exact hPermits.elim
  | aborted =>
    rw [hStage] at hPermits
    exact hPermits.elim

theorem taken_commit {s : ClaimStore ι} {txn : ι} {ids : List Nat} {outcome : Outcome Error}
    (hExecuted : outcome.executed = true) {id : Nat} (hId : id ∈ ids) {run : QueuedRun}
    (hRun : run ∈ s.runs.lookup id) : Taken (ClaimStore.perform txn (.commit ids) outcome s).2 id := by
  have hMarked : (ClaimStore.perform txn (.commit ids) outcome s).2.runs.lookup id =
      some { run with state := .processing } := by
    have hSet : (s.runs.setState ids .processing).lookup id =
        some { run with state := .processing } := by
      rw [QueuedRuns.lookup_setState, if_pos hId, Option.mem_def.mp hRun]
      rfl
    cases outcome with
    | reply => exact hSet
    | fail error applied =>
      cases hExecuted
      exact hSet
  exact ⟨_, hMarked, by simp⟩

theorem ClaimInvariant.call (h : ClaimInvariant calls trace stages) {txn : ι}
    {command : ClaimCommand} (hPermits : (stages txn).permits (calls txn) command) (outcome : Outcome Error) :
    ClaimInvariant calls ((claiming ι).recorded.perform txn command outcome trace).2
      (Function.update stages txn ((stages txn).next command
        ((claiming ι).recorded.perform txn command outcome trace).1)) := by
  refine h.step rfl (fun other hNe id selection hHeld => ?_) (h.own hPermits outcome)
    (h.once.push (fun id hTaken _ => hTaken.perform txn command outcome) fun id claimant hClaim => ?_)
  · refine hHeld.perform hNe ?_ outcome
    rintro ids rfl hId
    obtain ⟨-, hLock, -⟩ := h.held_of_commit hPermits hId
    exact hNe (Holder.claim.inj (Option.some.inj (hHeld.1.symm.trans hLock)))
  · cases command with
    | commit ids =>
      obtain ⟨-, hExecuted, hId⟩ := hClaim
      obtain ⟨selection, hHeld⟩ := h.held_of_commit hPermits hId
      obtain ⟨run, hRun, -⟩ := hHeld.2
      exact ⟨hHeld.not_taken, taken_commit hExecuted hId hRun⟩
    | _ => exact hClaim.elim

theorem ClaimInvariant.environment (h : ClaimInvariant calls trace stages) {move : ClaimMove}
    (hMove : (claiming ι).recorded.environment move trace = some trace') :
    ClaimInvariant calls trace' stages := by
  have hState : trace.state.environment move = some trace'.state := environment_recorded hMove
  have hHistory : trace'.history = .environment move trace.state :: trace.history := by
    obtain ⟨state, -, rfl⟩ := Option.map_eq_some_iff.mp hMove
    rfl
  refine ⟨fun txn log hLog => ?_, fun txn log hLog => ?_, fun txn log hLog => ?_, ?_⟩
  · exact (h.locked txn log hLog).keep fun id _ selection hHeld => hHeld.environment hState
  · rw [hHistory]
    exact (h.tried txn log hLog).grow _
  · obtain ⟨found, hFound⟩ := h.committed txn log hLog
    rw [hHistory]
    exact ⟨found, hFound.grow _⟩
  · rw [hHistory]
    exact h.once.push (fun id hTaken hKept => hTaken.environment hState hKept)
      fun id txn hClaim => hClaim.elim

theorem claimInvariant_start (calls : ι → ClaimCall) (start : ClaimStore ι) :
    ClaimInvariant calls ⟨start, []⟩ fun _ => .start where
  locked txn log hLog := by
    obtain rfl := ClaimStage.working.inj hLog
    exact ⟨List.nodup_nil, by simp, by simp⟩
  tried txn log hLog := by
    obtain rfl := ClaimStage.working.inj hLog
    exact ⟨by simp, by simp⟩
  committed txn log hLog := by cases hLog
  once := by
    refine ⟨fun id txn newer older entry hEq => ?_, fun id _ _ newer mid older later _ hEq => ?_⟩
    · simp at hEq
    · simp at hEq

end Invariant

theorem exists_split_of_mem {α : Type} {first second : α} {l : List α} (hFirst : first ∈ l)
    (hSecond : second ∈ l) (hNe : first ≠ second) :
    (∃ newer mid older, l = newer ++ second :: (mid ++ first :: older)) ∨
      ∃ newer mid older, l = newer ++ first :: (mid ++ second :: older) := by
  obtain ⟨newer, older, rfl⟩ := List.append_of_mem hFirst
  obtain hNewer | hOlder := List.mem_append.mp hSecond
  · obtain ⟨newer, mid, rfl⟩ := List.append_of_mem hNewer
    exact .inl ⟨newer, mid, older, by simp⟩
  · obtain rfl | hOlder := List.mem_cons.mp hOlder
    · exact absurd rfl hNe
    · obtain ⟨mid, older, rfl⟩ := List.append_of_mem hOlder
      exact .inr ⟨newer, mid, older, rfl⟩

/-- What a claim returns is a valid claim of it, and no row is returned by two claims unless it was
put back in between. -/
theorem claims_exclusive {ι : Type} [DecidableEq ι] (calls : ι → ClaimCall)
    (start : ClaimStore ι)
    {last : Config ι ClaimCommand.Reply Error (List Nat) (ClaimTrace ι)}
    {events : List (Event ι Error ClaimMove)}
    (hRun : (claiming ι).recorded.run ⟨⟨start, []⟩, fun txn => (calls txn).method⟩ events =
      some last) :
    (∀ txn ids, (last.procs txn).result? = some (.ok ids) → ∃ due regular found,
      ids = due ++ regular ∧ ValidClaim (calls txn) last.shared.history txn due regular found) ∧
    ∀ first second ids ids' id, first ≠ second → (last.procs first).result? = some (.ok ids) →
      (last.procs second).result? = some (.ok ids') → id ∈ ids → id ∈ ids' →
      PutBackBetween last.shared.history first second id := by
  obtain ⟨stages, hInvariant, hObeys⟩ := System.ghost_invariant
    (D := .free) (P := fun txn => claimProtocol (calls txn)) (J := ClaimInvariant calls)
    (fun txn command outcome trace stages h hPermits _ => h.call hPermits outcome)
    (fun move trace trace' stages h _ hMove => h.environment hMove)
    (System.follows_free _ _ events) hRun (fun txn => claim_obeys (calls txn))
    (claimInvariant_start calls start)
  have hReturned : ∀ txn ids, (last.procs txn).result? = some (.ok ids) → ∃ due regular found,
      ids = due ++ regular ∧ ValidClaim (calls txn) last.shared.history txn due regular found := by
    intro txn ids hResult
    obtain ⟨log, hStage, rfl⟩ := (hObeys txn).result hResult ids rfl
    obtain ⟨found, hValid⟩ := hInvariant.committed txn log hStage
    exact ⟨log.due, log.regular, found, rfl, hValid⟩
  refine ⟨hReturned, fun first second ids ids' id hNe hFirst hSecond hId hId' => ?_⟩
  obtain ⟨due, regular, found, rfl, hValid⟩ := hReturned first ids hFirst
  obtain ⟨due', regular', found', rfl, hValid'⟩ := hReturned second ids' hSecond
  have hClaimed : ClaimedBy first id (.call first (.commit (due ++ regular)) .reply found) :=
    ⟨rfl, rfl, hId⟩
  have hClaimed' : ClaimedBy second id (.call second (.commit (due' ++ regular')) .reply found') :=
    ⟨rfl, rfl, hId'⟩
  obtain ⟨newer, mid, older, hSplit⟩ | ⟨newer, mid, older, hSplit⟩ :=
    exists_split_of_mem hValid.committed hValid'.committed fun hEq => hNe (Entry.call.inj hEq).1
  · exact ⟨newer, mid, older, _, _, hSplit, .inl ⟨hClaimed, hClaimed'⟩,
      hInvariant.once.between id _ _ _ _ _ _ _ hSplit hClaimed' hClaimed⟩
  · exact ⟨newer, mid, older, _, _, hSplit, .inr ⟨hClaimed', hClaimed⟩,
      hInvariant.once.between id _ _ _ _ _ _ _ hSplit hClaimed hClaimed'⟩

def plainRun (id : Nat) : QueuedRun where
  id := id
  sourceUuid := "row"
  contextVariables := ⟨some "+15550100", false, none, none⟩
  state := .queued
  retryCount := 0
  parentQueuedRunId := none
  scheduledFor := none
  retryReason := none

def oneRow : ClaimStore Bool := ⟨Table.empty.insert (plainRun 1), fun _ => none, fun _ => 0⟩

def claimOne : Bool → ClaimCall := fun _ => ⟨⟨2, by decide⟩, 1⟩

def putBackSchedule : List (Event Bool Error ClaimMove) :=
  (List.replicate 5 (.resume false .reply)) ++
    .environment (.write (plainRun 1)) :: List.replicate 5 (.resume true .reply)

theorem claims_exclusive_put_back :
    ∃ last : Config Bool ClaimCommand.Reply Error (List Nat) (ClaimTrace Bool),
      (claiming Bool).recorded.run ⟨⟨oneRow, []⟩, fun txn => (claimOne txn).method⟩
        putBackSchedule = some last ∧ PutBackBetween last.shared.history false true 1 := by
  have hEnds : ((claiming Bool).recorded.run ⟨⟨oneRow, []⟩, fun txn => (claimOne txn).method⟩
      putBackSchedule).any (fun last => decide (∀ txn,
        ((last.procs txn).result?.any fun result => result.toOption = some [1]) = true)) = true := by
    decide +kernel
  obtain ⟨last, hRun, hLast⟩ := (Option.any_eq_true _ _).mp hEnds
  have hReturned : ∀ txn, (last.procs txn).result? = some (.ok [1]) := by
    intro txn
    obtain ⟨result, hResult, hOk⟩ := (Option.any_eq_true _ _).mp (of_decide_eq_true hLast txn)
    cases result with
    | error error => cases of_decide_eq_true hOk
    | ok ids =>
      obtain rfl := Option.some.inj (of_decide_eq_true hOk)
      exact hResult
  exact ⟨last, hRun, (claims_exclusive claimOne oneRow hRun).2 false true [1] [1] 1 (by decide)
    (hReturned false) (hReturned true) List.mem_cons_self List.mem_cons_self⟩

end FastVoice.Campaign
