import FastVoice.CallConcurrency.NumberPool
import FastVoice.CallConcurrency.SlotBound
import FastVoice.Campaign.Services

/-! # Caller ids of one pool

A number that a run acquired less than the stale call timeout ago keeps the score of that
acquisition, and so is neither reclaimed nor available, unless a release on behalf of another run
sets the score to zero. Releases name the number and not its holder.
-/
namespace FastVoice.Campaign
open Async CallConcurrency Redis

/-- A workflow run acquires and maps a number, or its call slot is released. -/
inductive NumberCall where
  | dispatch (workflowRunId : Nat) (key : PoolKey) (retries : Nat)
  | release (workflowRunId : Nat)

namespace NumberCall

def run : NumberCall → Nat
  | .dispatch workflowRunId _ _ => workflowRunId
  | .release workflowRunId => workflowRunId

def method : NumberCall → Method Unit
  | .dispatch workflowRunId key retries => do
    let fromNumber ← acquireFromNumber key retries
    match fromNumber with
    | some fromNumber =>
      let _ ← storeWorkflowFromNumberMapping workflowRunId key fromNumber
    | none => return ()
  | .release workflowRunId => do
    let _ ← releaseCallSlot workflowRunId

end NumberCall

section Holders

variable {ι : Type} (calls : ι → NumberCall) (pool : PoolKey)

def heldAfter (fromNumber : String) (found : Keyspace) (before : Option UnixTime) :
    Command → Outcome Error → Option UnixTime
  | .acquireNumber key, .reply =>
    if key = pool ∧ (found.acquireNumber key).1 = some fromNumber then some found.clock else before
  | .releaseNumber key number, outcome =>
    if key = pool ∧ number = fromNumber ∧ outcome.executed then none else before
  | _, _ => before

def heldSince (workflowRunId : Nat) (fromNumber : String) :
    List (Entry ι Command Error Keyspace Move) → Option UnixTime
  | [] => none
  | .environment _ _ :: history => heldSince workflowRunId fromNumber history
  | .call caller command outcome found :: history =>
    let before := heldSince workflowRunId fromNumber history
    if (calls caller).run = workflowRunId then heldAfter pool fromNumber found before command outcome
    else before

/-- The run acquired the number less than the stale call timeout ago and has not released it. -/
def Holds (trace : Recorded ι Command Error Keyspace Move) (workflowRunId : Nat)
    (fromNumber : String) : Prop :=
  ∃ since ∈ heldSince calls pool workflowRunId fromNumber trace.history,
    trace.state.clock - since.val < staleCallTimeout

instance (trace : Recorded ι Command Error Keyspace Move) (workflowRunId : Nat)
    (fromNumber : String) : Decidable (Holds calls pool trace workflowRunId fromNumber) :=
  inferInstanceAs (Decidable (∃ since ∈ heldSince calls pool workflowRunId fromNumber trace.history, _))

/-- No release on behalf of a run finds its number held by another run. -/
def ownReleases : System.Discipline ι Command.Reply Error (Recorded ι Command Error Keyspace Move)
    Move where
  call proc command _ trace := ∀ fromNumber, command = .releaseNumber pool fromNumber →
    ∀ other, other ≠ (calls proc).run → ¬Holds calls pool trace other fromNumber
  environment _ _ := True

end Holders

section Invariant

variable {ι : Type} {calls : ι → NumberCall} {pool : PoolKey}
  {trace trace' : Recorded ι Command Error Keyspace Move}

/-- Held numbers keep the score of their acquisition as long as the pool exists, and no number has
two holders. -/
structure Exclusive (calls : ι → NumberCall) (pool : PoolKey)
    (trace : Recorded ι Command Error Keyspace Move) : Prop where
  stamped : ∀ run fromNumber, ∀ since ∈ heldSince calls pool run fromNumber trace.history,
    trace.state.clock - since.val < staleCallTimeout →
    (fromNumber, since.val) ∈ trace.state.numbers pool ∨ trace.state.numbers pool = ∅
  exclusive : ∀ first second fromNumber, first ≠ second → Holds calls pool trace first fromNumber →
    ¬Holds calls pool trace second fromNumber

theorem young_of_held {s : Keyspace} {since : UnixTime}
    (h : s.clock - since.val < staleCallTimeout) : s.staleCutoff < since.val := by
  rw [Keyspace.staleCutoff, sub_lt_comm]
  exact h

theorem Exclusive.step (h : Exclusive calls pool trace) (hClock : trace.state.clock ≤ trace'.state.clock)
    (hHeld : ∀ run fromNumber, ∀ since ∈ heldSince calls pool run fromNumber trace'.history,
      since ∈ heldSince calls pool run fromNumber trace.history)
    (hKept : ∀ run fromNumber, ∀ since ∈ heldSince calls pool run fromNumber trace'.history,
      trace.state.clock - since.val < staleCallTimeout → (fromNumber, since.val) ∈ trace.state.numbers pool →
      (fromNumber, since.val) ∈ trace'.state.numbers pool ∨ trace'.state.numbers pool = ∅)
    (hEmpty : trace.state.numbers pool = ∅ → trace'.state.numbers pool = ∅) :
    Exclusive calls pool trace' := by
  have hYoung : ∀ since : UnixTime, trace'.state.clock - since.val < staleCallTimeout →
      trace.state.clock - since.val < staleCallTimeout :=
    fun since hSince => (sub_le_sub_right (show trace.state.clock.val ≤ trace'.state.clock.val from
      hClock) _).trans_lt hSince
  have hHolds : ∀ run fromNumber, Holds calls pool trace' run fromNumber →
      Holds calls pool trace run fromNumber := by
    rintro run fromNumber ⟨since, hSince, hAge⟩
    exact ⟨since, hHeld run fromNumber since hSince, hYoung since hAge⟩
  refine ⟨fun run fromNumber since hSince hAge => ?_, fun first second fromNumber hNe hFirst hSecond => ?_⟩
  · obtain hStamped | hGone :=
      h.stamped run fromNumber since (hHeld run fromNumber since hSince) (hYoung since hAge)
    · exact hKept run fromNumber since hSince (hYoung since hAge) hStamped
    · exact .inr (hEmpty hGone)
  · exact h.exclusive first second fromNumber hNe (hHolds first fromNumber hFirst)
      (hHolds second fromNumber hSecond)

theorem heldSince_call_of_ne {run : Nat} {fromNumber : String} {caller : ι} {command : Command}
    {outcome : Outcome Error} {found : Keyspace} {history : List (Entry ι Command Error Keyspace Move)}
    (h : command.writesNumbers ≠ some pool) :
    heldSince calls pool run fromNumber (.call caller command outcome found :: history) =
      heldSince calls pool run fromNumber history := by
  have hAfter : ∀ before, heldAfter pool fromNumber found before command outcome = before := by
    intro before
    cases command with
    | acquireNumber key =>
      have hKey : key ≠ pool := fun hEq => h (congrArg some hEq)
      cases outcome <;> simp [heldAfter, hKey]
    | releaseNumber key number =>
      have hKey : key ≠ pool := fun hEq => h (congrArg some hEq)
      simp [heldAfter, hKey]
    | _ => rfl
  simp only [heldSince, hAfter, ite_self]

theorem heldSince_acquire {run : Nat} {fromNumber : String} {caller : ι} {outcome : Outcome Error}
    {found : Keyspace} {history : List (Entry ι Command Error Keyspace Move)} :
    heldSince calls pool run fromNumber (.call caller (.acquireNumber pool) outcome found :: history) =
      if (calls caller).run = run ∧ outcome = .reply ∧ (found.acquireNumber pool).1 = some fromNumber then
        some found.clock else heldSince calls pool run fromNumber history := by
  by_cases hRun : (calls caller).run = run <;> cases outcome <;> simp [heldSince, heldAfter, hRun]

theorem heldSince_release {run : Nat} {fromNumber number : String} {caller : ι}
    {outcome : Outcome Error} {found : Keyspace} {history : List (Entry ι Command Error Keyspace Move)} :
    heldSince calls pool run fromNumber (.call caller (.releaseNumber pool number) outcome found :: history) =
      if (calls caller).run = run ∧ number = fromNumber ∧ outcome.executed = true then none
      else heldSince calls pool run fromNumber history := by
  by_cases hRun : (calls caller).run = run <;> simp [heldSince, heldAfter, hRun]

theorem Exclusive.not_held (h : Exclusive calls pool trace) {chosen : String}
    (hChosen : (trace.state.acquireNumber pool).1 = some chosen) (run : Nat) :
    ¬Holds calls pool trace run chosen := by
  rintro ⟨since, hSince, hAge⟩
  obtain hStamped | hEmpty := h.stamped run chosen since hSince hAge
  · exact (Keyspace.acquireNumber_young hStamped (young_of_held hAge) since.property).1 hChosen
  · rw [(Keyspace.acquireNumber_empty hEmpty).1] at hChosen
    cases hChosen

theorem Exclusive.grant (h : Exclusive calls pool trace) (caller : ι) {chosen : String}
    (hChosen : (trace.state.acquireNumber pool).1 = some chosen) :
    Exclusive calls pool ⟨(trace.state.acquireNumber pool).2,
      .call caller (.acquireNumber pool) .reply trace.state :: trace.history⟩ := by
  have hClock : (trace.state.acquireNumber pool).2.clock = trace.state.clock :=
    execute_clock (.acquireNumber pool) trace.state
  have hOld : ∀ run fromNumber since, since ∈ heldSince calls pool run fromNumber
      (.call caller (.acquireNumber pool) .reply trace.state :: trace.history) →
      fromNumber = chosen ∧ run = (calls caller).run ∧ since = trace.state.clock ∨
      since ∈ heldSince calls pool run fromNumber trace.history := by
    intro run fromNumber since hSince
    rw [heldSince_acquire] at hSince
    split at hSince
    · rename_i hOwn
      cases hSince
      exact .inl ⟨Option.some.inj (hOwn.2.2.symm.trans hChosen), hOwn.1.symm, rfl⟩
    · exact .inr hSince
  refine ⟨fun run fromNumber since hSince hAge => ?_, ?_⟩
  · rw [hClock] at hAge
    obtain ⟨rfl, -, rfl⟩ | hBefore := hOld run fromNumber since hSince
    · exact .inl (Keyspace.acquireNumber_stamped hChosen)
    · obtain hStamped | hEmpty := h.stamped run fromNumber since hBefore hAge
      · exact .inl (Keyspace.acquireNumber_young hStamped (young_of_held hAge) since.property).2
      · exact .inr (Keyspace.acquireNumber_empty hEmpty).2
  · rintro first second fromNumber hNe ⟨since, hSince, hAge⟩ ⟨since', hSince', hAge'⟩
    rw [hClock] at hAge hAge'
    obtain ⟨rfl, rfl, -⟩ | hFirst := hOld first fromNumber since hSince
    · obtain ⟨-, rfl, -⟩ | hSecond := hOld second fromNumber since' hSince'
      · exact hNe rfl
      · exact h.not_held hChosen second ⟨since', hSecond, hAge'⟩
    · obtain ⟨rfl, -, -⟩ | hSecond := hOld second fromNumber since' hSince'
      · exact h.not_held hChosen first ⟨since, hFirst, hAge⟩
      · exact h.exclusive first second fromNumber hNe ⟨since, hFirst, hAge⟩ ⟨since', hSecond, hAge'⟩

theorem perform_state (trace : Recorded ι Command Error Keyspace Move) (caller : ι)
    (command : Command) (outcome : Outcome Error) :
    ((CallConcurrency.redis ι).recorded.perform caller command outcome trace).2.state =
      if outcome.executed then (execute command trace.state).2 else trace.state := by
  cases outcome with
  | reply => rfl
  | fail error applied => cases applied <;> rfl

theorem perform_clock (trace : Recorded ι Command Error Keyspace Move) (caller : ι)
    (command : Command) (outcome : Outcome Error) :
    ((CallConcurrency.redis ι).recorded.perform caller command outcome trace).2.state.clock = trace.state.clock := by
  rw [perform_state]
  split
  · exact execute_clock command trace.state
  · rfl

theorem Exclusive.acquire (h : Exclusive calls pool trace) (caller : ι) {outcome : Outcome Error}
    (hNone : outcome = .reply → (trace.state.acquireNumber pool).1 = none) : Exclusive calls pool
      ((CallConcurrency.redis ι).recorded.perform caller (.acquireNumber pool) outcome trace).2 := by
  have hState := perform_state trace caller (.acquireNumber pool) outcome
  refine h.step (perform_clock trace caller _ outcome).ge ?_ ?_ ?_
  · intro run fromNumber since hSince
    have hHeld : since ∈ heldSince calls pool run fromNumber
        (.call caller (.acquireNumber pool) outcome trace.state :: trace.history) := hSince
    rw [heldSince_acquire, if_neg] at hHeld
    · exact hHeld
    · rintro ⟨-, hReply, hGranted⟩
      rw [hNone hReply] at hGranted
      cases hGranted
  · intro run fromNumber since _ hAge hStamped
    rw [hState]
    split
    · exact .inl (Keyspace.acquireNumber_young hStamped (young_of_held hAge) since.property).2
    · exact .inl hStamped
  · intro hEmpty
    rw [hState]
    split
    · exact (Keyspace.acquireNumber_empty hEmpty).2
    · exact hEmpty

theorem Exclusive.release (h : Exclusive calls pool trace) (caller : ι) {outcome : Outcome Error}
    {number : String} (hOwn : ∀ other, other ≠ (calls caller).run → ¬Holds calls pool trace other number) :
    Exclusive calls pool
      ((CallConcurrency.redis ι).recorded.perform caller (.releaseNumber pool number) outcome trace).2 := by
  have hState := perform_state trace caller (.releaseNumber pool number) outcome
  have hHeld : ∀ run fromNumber, ∀ since ∈ heldSince calls pool run fromNumber
      ((CallConcurrency.redis ι).recorded.perform caller (.releaseNumber pool number) outcome trace).2.history,
      since ∈ heldSince calls pool run fromNumber trace.history ∧
        ¬((calls caller).run = run ∧ number = fromNumber ∧ outcome.executed = true) := by
    intro run fromNumber since hSince
    have hHeld : since ∈ heldSince calls pool run fromNumber
        (.call caller (.releaseNumber pool number) outcome trace.state :: trace.history) := hSince
    rw [heldSince_release] at hHeld
    split at hHeld
    · cases hHeld
    · rename_i hKept
      exact ⟨hHeld, hKept⟩
  refine h.step (perform_clock trace caller _ outcome).ge ?_ ?_ ?_
  · exact fun run fromNumber since hSince => (hHeld run fromNumber since hSince).1
  · intro run fromNumber since hSince hAge hStamped
    obtain ⟨hBefore, hKept⟩ := hHeld run fromNumber since hSince
    rw [hState]
    split
    · rename_i hExecuted
      refine .inl (Keyspace.releaseNumber_other hStamped ?_)
      rintro rfl
      by_cases hRun : run = (calls caller).run
      · exact hKept ⟨hRun.symm, rfl, hExecuted⟩
      · exact hOwn run hRun ⟨since, hBefore, hAge⟩
    · exact .inl hStamped
  · intro hEmpty
    rw [hState]
    split
    · exact Keyspace.releaseNumber_empty hEmpty
    · exact hEmpty

theorem Exclusive.perform (h : Exclusive calls pool trace) {caller : ι} {command : Command}
    {outcome : Outcome Error} (hRefill : ∀ key fromNumbers, command ≠ .addNumbers key fromNumbers)
    (hOwn : (ownReleases calls pool).call caller command outcome trace) :
    Exclusive calls pool ((CallConcurrency.redis ι).recorded.perform caller command outcome trace).2 := by
  by_cases hWrites : command.writesNumbers = some pool
  · cases command with
    | addNumbers key fromNumbers => exact absurd rfl (hRefill key fromNumbers)
    | acquireNumber key =>
      cases hWrites
      cases hGranted : (trace.state.acquireNumber pool).1 with
      | some chosen =>
        cases outcome with
        | reply => exact h.grant caller hGranted
        | fail error applied =>
          exact h.acquire caller fun hReply => by cases hReply
      | none => exact h.acquire caller fun _ => hGranted
    | releaseNumber key number =>
      cases hWrites
      exact h.release caller (hOwn number rfl)
    | _ => cases hWrites
  · have hNumbers : ((CallConcurrency.redis ι).recorded.perform caller command outcome trace).2.state.numbers pool =
        trace.state.numbers pool := by
      rw [perform_state]
      split
      · exact execute_numbers hWrites trace.state
      · rfl
    refine h.step (perform_clock trace caller command outcome).ge ?_ ?_ ?_
    · intro run fromNumber since hSince
      exact (heldSince_call_of_ne hWrites) ▸ hSince
    · intro run fromNumber since _ _ hStamped
      exact .inl (hNumbers ▸ hStamped)
    · exact fun hEmpty => hNumbers.trans hEmpty

theorem Exclusive.environment [DecidableEq ι] (h : Exclusive calls pool trace) {move : Move}
    (hMove : (CallConcurrency.redis ι).recorded.environment move trace = some trace') :
    Exclusive calls pool trace' := by
  obtain ⟨state, hState, rfl⟩ := Option.map_eq_some_iff.mp hMove
  cases move with
  | advance now =>
    have hAdvance : CallConcurrency.environment (.advance now) trace.state = some state := hState
    rw [CallConcurrency.environment] at hAdvance
    split at hAdvance
    · rename_i hNow
      cases hAdvance
      refine h.step hNow (fun _ _ _ hSince => hSince) ?_ ?_
      · intro run fromNumber since _ _ hStamped
        obtain hSame | hGone := trace.state.advance_numbers pool now
        · exact .inl (hSame ▸ hStamped)
        · exact .inr hGone
      · intro hEmpty
        obtain hSame | hGone := trace.state.advance_numbers pool now
        · exact hSame.trans hEmpty
        · exact hGone
    · cases hAdvance
  | draw entropy =>
    cases hState
    exact h.step le_rfl (fun _ _ _ hSince => hSince) (fun _ _ _ _ _ hStamped => .inl hStamped) id
  | configure organizationId limit =>
    cases hState
    exact h.step le_rfl (fun _ _ _ hSince => hSince) (fun _ _ _ _ _ hStamped => .inl hStamped) id

theorem exclusive_nil (start : Keyspace) : Exclusive calls pool ⟨start, []⟩ where
  stamped _ _ _ hSince := by cases hSince
  exclusive := by
    rintro _ _ _ _ ⟨_, hSince, _⟩
    cases hSince

end Invariant

def NoRefill : Command → Prop
  | .addNumbers _ _ => False
  | _ => True

theorem acquireFromNumber_issues (key : PoolKey) (retries : Nat) :
    (acquireFromNumber key retries).Issues NoRefill := by
  have hAcquire : (CallConcurrency.acquireFromNumber key).Issues NoRefill :=
    orElse_issues (Program.issues_call trivial)
  induction retries with
  | zero => exact hAcquire.bind fun _ => trivial
  | succ retries ih =>
    refine hAcquire.bind fun fromNumber => ?_
    cases fromNumber.filter (· ≠ "") with
    | some fromNumber => trivial
    | none => exact (Program.issues_call trivial).bind fun _ => ih

theorem releaseWorkflowRunSlot_issues (workflowRunId : Nat) :
    (releaseWorkflowRunSlot workflowRunId).Issues NoRefill := by
  refine (orElse_issues (Program.issues_call trivial)).bind fun mapping => ?_
  cases mapping with
  | none => trivial
  | some mapping =>
    have hRelease : (releaseConcurrentSlot mapping.organizationId mapping.slotId
        mapping.scopeKey).Issues NoRefill := by
      refine (releaseConcurrentSlot_issues _ _ _).mono fun command h => ?_
      cases command <;> first | exact h.elim | trivial
    refine hRelease.bind fun released => ?_
    cases released with
    | none => trivial
    | some released => exact (orElse_issues (Program.issues_call trivial)).bind fun _ => trivial

theorem releaseFromNumber_issues (key : PoolKey) (fromNumber : String) :
    (releaseFromNumber key fromNumber).Issues NoRefill := by
  unfold releaseFromNumber
  split
  · trivial
  · exact orElse_issues (Program.issues_call trivial)

theorem releaseCallSlot_issues (workflowRunId : Nat) : (releaseCallSlot workflowRunId).Issues NoRefill := by
  refine (releaseWorkflowRunSlot_issues workflowRunId).bind fun slotReleased => ?_
  refine (orElse_issues (Program.issues_call trivial)).bind fun mapping => ?_
  cases mapping with
  | none => trivial
  | some mapping =>
    refine (releaseFromNumber_issues _ _).bind fun success => ?_
    cases success with
    | false => trivial
    | true => exact (orElse_issues (Program.issues_call trivial)).bind fun _ => trivial

theorem NumberCall.method_issues (numberCall : NumberCall) : numberCall.method.Issues NoRefill := by
  cases numberCall with
  | dispatch workflowRunId key retries =>
    refine (acquireFromNumber_issues key retries).bind fun fromNumber => ?_
    cases fromNumber with
    | none => trivial
    | some fromNumber =>
      have hStore : (storeWorkflowFromNumberMapping workflowRunId key fromNumber).Issues NoRefill :=
        orElse_issues ((Program.issues_call trivial).bind fun _ =>
          (Program.issues_call trivial).bind fun _ => trivial)
      exact hStore.bind fun _ => trivial
  | release workflowRunId => exact (releaseCallSlot_issues workflowRunId).bind fun _ => trivial

def onlyPool : PoolKey := ⟨7, some 1⟩

def onlyNumber : Keyspace :=
  ((initializeFromNumberPool onlyPool ["+15550100"]).eval execute (.fresh ⟨1, UnixTime.one_pos⟩)).2

variable {ι : Type} [DecidableEq ι]

/-- In every state of every run in which no release takes a number from another run, no number that
two runs acquired less than the stale call timeout ago is unreleased by both. -/
theorem caller_id_exclusive (pool : PoolKey) (calls : ι → NumberCall) (start : Keyspace)
    (events : List (Event ι Error Move))
    (last : Config ι Command.Reply Error Unit (Recorded ι Command Error Keyspace Move))
    (hFollows : (CallConcurrency.redis ι).recorded.Follows (ownReleases calls pool)
      ⟨⟨start, []⟩, fun proc => (calls proc).method⟩ events)
    (hRun : (CallConcurrency.redis ι).recorded.run ⟨⟨start, []⟩, fun proc => (calls proc).method⟩ events = some last)
    (first second : Nat) (fromNumber : String) (hNe : first ≠ second)
    (hFirst : Holds calls pool last.shared first fromNumber) :
    ¬Holds calls pool last.shared second fromNumber := by
  have hEnd : Exclusive calls pool last.shared ∧ ∀ proc, (last.procs proc).Issues NoRefill := by
    refine System.shared_invariant (P := fun _ => NoRefill) ?_ ?_ hFollows hRun
      (fun proc => (calls proc).method_issues) ?_
    · intro proc command outcome trace h hRefill hOwn
      refine h.perform ?_ hOwn
      rintro key fromNumbers rfl
      exact hRefill
    · intro move trace trace' h _ hMove
      exact h.environment hMove
    · exact exclusive_nil start
  exact hEnd.1.exclusive first second fromNumber hNe hFirst

theorem caller_id_exclusive_one_dispatch :
    ∃ last : Config Unit Command.Reply Error Unit (Recorded Unit Command Error Keyspace Move),
      (CallConcurrency.redis Unit).recorded.run ⟨⟨onlyNumber, []⟩, fun _ => (NumberCall.dispatch 1 onlyPool 0).method⟩
        [.resume () .reply] = some last ∧
      ∀ other ≠ 1, ¬Holds (fun _ => .dispatch 1 onlyPool 0) onlyPool last.shared other "+15550100" :=
  ⟨_, rfl, fun other hOther => caller_id_exclusive onlyPool (fun _ => .dispatch 1 onlyPool 0)
    onlyNumber [.resume () .reply] _
    ⟨by rintro _ ⟨⟩ _ ⟨⟩, fun _ _ => trivial⟩ rfl 1 other "+15550100" hOther.symm
    (by decide +kernel)⟩

def clashingCalls : Fin 4 → NumberCall
  | 0 => .dispatch 1 onlyPool 0
  | 1 => .dispatch 2 onlyPool 0
  | 2 => .release 1
  | 3 => .dispatch 3 onlyPool 0

def clashingSchedule : List (Event (Fin 4) Error Move) :=
  haveI := neZero_four
  [.resume 0 .reply, .resume 0 .reply, .resume 0 .reply, .environment (.advance ⟨1202, by decide⟩),
    .resume 1 .reply, .resume 2 .reply, .resume 2 .reply, .resume 2 .reply, .resume 2 .reply,
    .resume 3 .reply]

/-- A late release of an earlier holder lets two runs hold one number. -/
theorem caller_id_not_exclusive :
    ¬∀ (calls : Fin 4 → NumberCall) (start : Keyspace) (events : List (Event (Fin 4) Error Move))
      (last : Config (Fin 4) Command.Reply Error Unit
        (Recorded (Fin 4) Command Error Keyspace Move)),
      (CallConcurrency.redis (Fin 4)).recorded.Follows .reliable
        ⟨⟨start, []⟩, fun proc => (calls proc).method⟩ events →
      (CallConcurrency.redis (Fin 4)).recorded.run ⟨⟨start, []⟩, fun proc => (calls proc).method⟩ events =
        some last →
      ∀ first second fromNumber, first ≠ second →
        Holds calls onlyPool last.shared first fromNumber →
        ¬Holds calls onlyPool last.shared second fromNumber := by
  intro h
  have hEnds : ((CallConcurrency.redis (Fin 4)).recorded.run ⟨⟨onlyNumber, []⟩,
      fun proc => (clashingCalls proc).method⟩ clashingSchedule).any (fun last =>
        decide (Holds clashingCalls onlyPool last.shared 2 "+15550100" ∧
          Holds clashingCalls onlyPool last.shared 3 "+15550100")) = true := by decide +kernel
  obtain ⟨last, hRun, hLast⟩ := (Option.any_eq_true _ _).mp hEnds
  obtain ⟨hSecond, hThird⟩ := of_decide_eq_true hLast
  exact h clashingCalls onlyNumber clashingSchedule last (by decide +kernel) hRun 2 3 "+15550100"
    (by decide) hSecond hThird

end FastVoice.Campaign
