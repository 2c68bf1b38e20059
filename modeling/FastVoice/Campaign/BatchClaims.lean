import FastVoice.Campaign.BatchStages
import FastVoice.Campaign.RunStatus

/-! # The claims of a batch

Which rows a batch is responsible for at each stage, in which states they are, and when an exception
delivered to it leaves one of them to nobody. Each own step keeps these facts; the step with which
the batch exits settles its claims unless it was interrupted.
-/
namespace FastVoice.Campaign
open Async

namespace RunStatus

def Done (status : RunStatus) : Prop :=
  status = ⟨some .processed, true⟩ ∨ status.state = some .failed

def Settled (status : RunStatus) : Prop := status.Done ∨ status = ⟨some .queued, false⟩

instance (status : RunStatus) : Decidable status.Done :=
  inferInstanceAs (Decidable (_ ∨ _))

instance (status : RunStatus) : Decidable status.Settled :=
  inferInstanceAs (Decidable (_ ∨ _))

end RunStatus

namespace CampaignCommand

def marksRuns : CampaignCommand → Bool
  | .updateQueuedRun _ _ => true
  | .returnProcessingQueuedRuns _ => true
  | _ => false

def claims (found : CampaignStore) : CampaignCommand → List Nat
  | .claimQueuedRuns scheduledBefore limit => found.claimed scheduledBefore limit
  | _ => []

def takesRuns : CampaignCommand → Bool
  | .claimQueuedRuns _ _ => true
  | _ => false

def covered : CampaignCommand → Bool
  | .updateQueuedRun _ .failed => false
  | .returnProcessingQueuedRuns _ => false
  | _ => true

/-- Whether an exception delivered at the await leaves a run with this status to nobody. The loop's
handlers return the runs that have no workflow run, if they are reached. -/
def leavesBehind (reached : Bool) (error : Error) (status : RunStatus) (command : CampaignCommand) :
    Bool :=
  status.state = some .processing && (command.takesRuns ||
    error = .cancelledError && (status.linked || !(reached && command.covered)))

end CampaignCommand

section Statement

variable {ι : Type} [DecidableEq ι] (proc : ι)

def claimedIds : List (CampaignEntry ι) → List Nat
  | [] => []
  | .call caller command outcome found :: older =>
    (if caller = proc ∧ outcome.executed = true then command.claims found else []) ++ claimedIds older
  | .environment _ _ :: older => claimedIds older

def reachedLoop : List (CampaignEntry ι) → Bool
  | [] => false
  | .call caller command _ _ :: older =>
    decide (caller = proc) && command.entersLoop || reachedLoop older
  | .environment _ _ :: older => reachedLoop older

/-- An exception was delivered to the process when one of its claimed runs was left to nobody. -/
def interrupted : List (CampaignEntry ι) → Bool
  | [] => false
  | .call caller command outcome found :: older =>
    interrupted older || decide (caller = proc) && outcome.raised.any fun error =>
      (claimedIds proc (.call caller command outcome found :: older)).any fun id =>
        command.leavesBehind (reachedLoop proc (.call caller command outcome found :: older)) error
          (((campaignServices ι).perform caller command outcome found).2.status id)
  | .environment _ _ :: older => interrupted older

/-- State updates fail only by a cancellation, and the two exceptions with which a batch gives up
come from its own code. -/
def updatesSucceed :
    System.Discipline ι CampaignCommand.Reply Error (CampaignTrace ι) CampaignMove where
  call _ command outcome _ := ∀ error ∈ outcome.raised,
    error = .cancelledError ∨ failsRun error = true ∧ command.marksRuns = false
  environment _ _ := True

instance (proc : ι) (command : CampaignCommand) (outcome : Outcome Error) (trace : CampaignTrace ι) :
    Decidable ((updatesSucceed (ι := ι)).call proc command outcome trace) :=
  inferInstanceAs (Decidable (∀ error ∈ outcome.raised, _))

instance (move : CampaignMove) (trace : CampaignTrace ι) :
    Decidable ((updatesSucceed (ι := ι)).environment move trace) := isTrue trivial

end Statement

/-! ## The rows of a stage -/

def RunPhase.Holds : RunPhase → RunStatus → Prop
  | .unlinked, status => status = ⟨some .processing, false⟩
  | .unsure, status => status.state = some .processing
  | .linked, status => status = ⟨some .processing, true⟩

theorem RunPhase.Holds.processing {phase : RunPhase} {status : RunStatus} (h : phase.Holds status) :
    status.state = some .processing := by
  cases phase with
  | unsure => exact h
  | _ => exact congrArg RunStatus.state (show status = _ from h)

structure RunningRows (s : CampaignStore) (done pending : List Nat) (phase : RunPhase) : Prop where
  nodup : (done ++ pending).Nodup
  done : ∀ id ∈ done, (s.status id).Done
  head : ∀ id ∈ pending.head?, phase.Holds (s.status id)
  tail : ∀ id ∈ pending.tail, s.status id = ⟨some .processing, false⟩

structure CancelledRows (s : CampaignStore) (done pending : List Nat) : Prop where
  done : ∀ id ∈ done, (s.status id).Done
  pending : ∀ id ∈ pending, (s.status id).state = some .processing ∨
    s.status id = ⟨some .processed, true⟩

def BatchStage.owned : BatchStage → List Nat
  | .claimed ids => ids
  | .running done pending _ => done ++ pending
  | .cancelled done pending => done ++ pending
  | _ => []

def BatchRows (s : CampaignStore) : BatchStage → Prop
  | .claimed ids => ids.Nodup ∧ ∀ id ∈ ids, s.status id = ⟨some .processing, false⟩
  | .running done pending phase => RunningRows s done pending phase
  | .cancelled done pending => CancelledRows s done pending
  | .void => False
  | _ => True

section Rows

variable {s s' : CampaignStore} {done pending : List Nat} {phase : RunPhase} {stage : BatchStage}

theorem RunningRows.processing (h : RunningRows s done pending phase) :
    ∀ id ∈ pending, (s.status id).state = some .processing := by
  intro id hId
  cases pending with
  | nil => cases hId
  | cons first rest =>
    obtain rfl | hRest := List.mem_cons.mp hId
    · exact (h.head id rfl).processing
    · rw [h.tail id hRest]

theorem BatchRows.claimed (h : BatchRows s stage) {id : Nat} (hOwned : id ∈ stage.owned) :
    (s.status id).state ≠ none ∧ (s.status id).state ≠ some .queued := by
  have hDone : (s.status id).Done → (s.status id).state ≠ none ∧
      (s.status id).state ≠ some .queued := by
    rintro (hStatus | hStatus) <;> rw [hStatus] <;> exact ⟨by simp, by simp⟩
  have hProcessing : (s.status id).state = some .processing → (s.status id).state ≠ none ∧
      (s.status id).state ≠ some .queued := by
    intro hState
    rw [hState]
    exact ⟨by simp, by simp⟩
  cases stage with
  | claimed ids => exact hProcessing (by rw [h.2 id hOwned])
  | running done pending phase =>
    obtain hIn | hIn := List.mem_append.mp hOwned
    · exact hDone (h.done id hIn)
    · exact hProcessing (RunningRows.processing h id hIn)
  | cancelled done pending =>
    obtain hIn | hIn := List.mem_append.mp hOwned
    · exact hDone (h.done id hIn)
    · exact (h.pending id hIn).elim hProcessing fun hStatus => hDone (.inl hStatus)
  | _ => cases hOwned

theorem BatchRows.frame (h : BatchRows s stage) (hSame : ∀ id ∈ stage.owned, s'.status id = s.status id) :
    BatchRows s' stage := by
  cases stage with
  | claimed ids => exact ⟨h.1, fun id hId => (hSame id hId).trans (h.2 id hId)⟩
  | running done pending phase =>
    have hPending : ∀ id ∈ pending, s'.status id = s.status id := fun id hId =>
      hSame id (List.mem_append_right _ hId)
    refine ⟨h.nodup, fun id hId => ?_, fun id hId => ?_, fun id hId => ?_⟩
    · rw [hSame id (List.mem_append_left _ hId)]
      exact h.done id hId
    · rw [hPending id (List.mem_of_mem_head? hId)]
      exact h.head id hId
    · rw [hPending id (List.mem_of_mem_tail hId)]
      exact h.tail id hId
  | cancelled done pending =>
    refine ⟨fun id hId => ?_, fun id hId => ?_⟩
    · rw [hSame id (List.mem_append_left _ hId)]
      exact h.done id hId
    · rw [hSame id (List.mem_append_right _ hId)]
      exact h.pending id hId
  | _ => exact h

theorem RunningRows.cancel (h : RunningRows s done pending phase) : CancelledRows s done pending :=
  ⟨h.done, fun id hId => .inl (h.processing id hId)⟩

theorem BatchRows.enter {ids : List Nat} (h : BatchRows s (.claimed ids)) :
    RunningRows s [] ids .unlinked where
  nodup := h.1
  done _ hId := by cases hId
  head id hId := h.2 id (List.mem_of_mem_head? hId)
  tail id hId := h.2 id (List.mem_of_mem_tail hId)

theorem RunningRows.advance {id : Nat} (h : RunningRows s done (id :: pending) phase)
    (hDone : (s'.status id).Done)
    (hSame : ∀ other ∈ done ++ id :: pending, other ≠ id → s'.status other = s.status other) :
    RunningRows s' (id :: done) pending .unlinked := by
  have hNodup : (id :: done ++ pending).Nodup := List.perm_middle.nodup_iff.mp h.nodup
  have hFresh : ∀ other ∈ done ++ pending, other ≠ id := fun other hOther hEq =>
    (List.nodup_cons.mp hNodup).1 (hEq ▸ hOther)
  have hPending : ∀ other ∈ pending, s'.status other = ⟨some .processing, false⟩ := fun other hOther =>
    (hSame other (List.mem_append_right _ (List.mem_cons_of_mem _ hOther))
      (hFresh other (List.mem_append_right _ hOther))).trans (h.tail other hOther)
  refine ⟨hNodup, fun other hOther => ?_, fun other hOther => ?_, fun other hOther => ?_⟩
  · obtain rfl | hOther := List.mem_cons.mp hOther
    · exact hDone
    · rw [hSame other (List.mem_append_left _ hOther) (hFresh other (List.mem_append_left _ hOther))]
      exact h.done other hOther
  · exact hPending other (List.mem_of_mem_head? hOther)
  · exact hPending other (List.mem_of_mem_tail hOther)

end Rows

/-! ## The history of a stage -/

section History

variable {ι : Type} [DecidableEq ι] {op : Operation} {proc : ι} {trace : CampaignTrace ι}
  {stage : BatchStage} {done pending : List Nat} {phase : RunPhase} {command : CampaignCommand}
  {outcome : Outcome Error}

def BatchHistory (op : Operation) (proc : ι) (trace : CampaignTrace ι) : BatchStage → Prop
  | .before => claimedIds proc trace.history = [] ∧ interrupted proc trace.history = false ∧
      (op.isProcessBatch = true → reachedLoop proc trace.history = false)
  | .claimed ids => (∀ id, id ∈ claimedIds proc trace.history ↔ id ∈ ids) ∧
      interrupted proc trace.history = false ∧
      (op.isProcessBatch = true → reachedLoop proc trace.history = false)
  | .running done pending _ => (∀ id, id ∈ claimedIds proc trace.history ↔ id ∈ done ++ pending) ∧
      interrupted proc trace.history = false ∧ reachedLoop proc trace.history = true
  | .cancelled done pending => (∀ id, id ∈ claimedIds proc trace.history ↔ id ∈ done ++ pending) ∧
      (interrupted proc trace.history = true ↔
        ∃ id ∈ pending, trace.state.status id = ⟨some .processing, true⟩) ∧
      reachedLoop proc trace.history = true
  | _ => True

structure BatchHolds (op : Operation) (proc : ι) (trace : CampaignTrace ι) (stage : BatchStage) :
    Prop where
  rows : BatchRows trace.state stage
  history : BatchHistory op proc trace stage

def ExitsSettled (proc : ι) (trace : CampaignTrace ι) : Prop :=
  (∀ id ∈ claimedIds proc trace.history, (trace.state.status id).Settled) ↔
    interrupted proc trace.history = false

theorem claimedIds_after : claimedIds proc (trace.after proc command outcome).history =
    (if outcome.executed = true then command.claims trace.state else []) ++
      claimedIds proc trace.history := by
  show (if proc = proc ∧ outcome.executed = true then command.claims trace.state else []) ++ _ = _
  simp only [true_and]

theorem reachedLoop_after : reachedLoop proc (trace.after proc command outcome).history =
    (command.entersLoop || reachedLoop proc trace.history) := by
  show (decide (proc = proc) && command.entersLoop || _) = _
  simp only [decide_true, Bool.true_and]

theorem interrupted_after : interrupted proc (trace.after proc command outcome).history = true ↔
    interrupted proc trace.history = true ∨ ∃ error ∈ outcome.raised,
      ∃ id ∈ claimedIds proc (trace.after proc command outcome).history,
        command.leavesBehind (reachedLoop proc (trace.after proc command outcome).history) error
          ((trace.after proc command outcome).state.status id) = true := by
  show (interrupted proc trace.history || decide (proc = proc) && outcome.raised.any _) = true ↔ _
  simp only [decide_true, Bool.true_and, Bool.or_eq_true, Option.any_eq_true, List.any_eq_true]
  rfl

theorem interrupted_after_of_not (h : ∀ error ∈ outcome.raised, ∀ reached status,
    command.leavesBehind reached error status = false) :
    interrupted proc (trace.after proc command outcome).history = interrupted proc trace.history := by
  rw [Bool.eq_iff_iff, interrupted_after]
  refine ⟨fun hAfter => hAfter.resolve_right ?_, .inl⟩
  rintro ⟨error, hError, id, -, hLeaves⟩
  rw [h error hError] at hLeaves
  cases hLeaves

theorem leavesBehind_of_ne (hTakes : command.takesRuns = false) {error : Error}
    (hError : error ≠ .cancelledError) (reached : Bool) (status : RunStatus) :
    command.leavesBehind reached error status = false := by
  simp [CampaignCommand.leavesBehind, hTakes, hError]

theorem leavesBehind_covered (hTakes : command.takesRuns = false) (hCovered : command.covered = true)
    (status : RunStatus) : command.leavesBehind true .cancelledError status = true ↔
      status = ⟨some .processing, true⟩ := by
  obtain ⟨state, linked⟩ := status
  simp [CampaignCommand.leavesBehind, hTakes, hCovered]

theorem leavesBehind_uncovered {reached : Bool} (hReached : (reached && command.covered) = false)
    (status : RunStatus) : command.leavesBehind reached .cancelledError status = true ↔
      status.state = some .processing := by
  simp [CampaignCommand.leavesBehind, hReached]

theorem RunStatus.Done.not_processing {status : RunStatus} (h : status.Done) :
    status.state ≠ some .processing := by
  rintro hState
  obtain rfl | hFailed := h
  · cases hState
  · rw [hFailed] at hState
    cases hState

theorem RunStatus.Settled.not_processing {status : RunStatus} (h : status.Settled) :
    status.state ≠ some .processing := by
  obtain hDone | rfl := h
  · exact hDone.not_processing
  · rintro ⟨⟩

theorem exitsSettled_of (hSplit : ∀ id ∈ claimedIds proc trace.history,
      (trace.state.status id).Settled ∨ (trace.state.status id).state = some .processing)
    (hInterrupted : interrupted proc trace.history = true ↔ ∃ id ∈ claimedIds proc trace.history,
      (trace.state.status id).state = some .processing) : ExitsSettled proc trace := by
  rw [ExitsSettled, ← Bool.not_eq_true, hInterrupted]
  constructor
  · rintro hSettled ⟨id, hId, hProcessing⟩
    exact (hSettled id hId).not_processing hProcessing
  · intro hNone id hId
    exact (hSplit id hId).resolve_right fun hProcessing => hNone ⟨id, hId, hProcessing⟩

theorem BatchHolds.exitsSettled (h : BatchHolds op proc trace stage) (hFinal : stage.Final)
    (hOpen : stage ≠ .exited) : ExitsSettled proc trace := by
  have hDone : ∀ done, (∀ id, id ∈ claimedIds proc trace.history ↔ id ∈ done ++ []) →
      (∀ id ∈ done, (trace.state.status id).Done) → interrupted proc trace.history = false →
      ExitsSettled proc trace := by
    intro done hClaimed hDone hCalm
    refine ⟨fun _ => hCalm, fun _ id hId => .inl (hDone id ?_)⟩
    simpa using (hClaimed id).mp hId
  cases stage with
  | before => exact ⟨fun _ => h.history.2.1, fun _ id hId => by rw [h.history.1] at hId; cases hId⟩
  | claimed ids =>
    obtain rfl : ids = [] := hFinal
    exact ⟨fun _ => h.history.2.1, fun _ id hId => by cases (h.history.1 id).mp hId⟩
  | running done pending phase =>
    obtain rfl : pending = [] := hFinal
    exact hDone done h.history.1 h.rows.done h.history.2.1
  | cancelled done pending =>
    obtain rfl : pending = [] := hFinal
    refine hDone done h.history.1 h.rows.done (Bool.eq_false_iff.mpr fun hInterrupted => ?_)
    obtain ⟨id, hId, -⟩ := h.history.2.1.mp hInterrupted
    cases hId
  | exited => exact absurd rfl hOpen
  | void => exact h.rows.elim

/-! ### Own steps -/

def Afterwards (op : Operation) (proc : ι) (trace : CampaignTrace ι) (stage : BatchStage) : Prop :=
  BatchHolds op proc trace stage ∧
    (op.isProcessBatch = true → stage = .exited → ExitsSettled proc trace)

theorem BatchHolds.afterwards (h : BatchHolds op proc trace stage) (hOpen : stage ≠ .exited) :
    Afterwards op proc trace stage := ⟨h, fun _ hExited => absurd hExited hOpen⟩

theorem afterwards_exited (h : op.isProcessBatch = true → ExitsSettled proc trace) :
    Afterwards op proc trace .exited := ⟨⟨trivial, trivial⟩, fun hProcess _ => h hProcess⟩

omit [DecidableEq ι] in
theorem status_after {id : Nat} (hTarget : id ∉ command.targets)
    (hRow : (trace.state.status id).state ≠ none ∧ (trace.state.status id).state ≠ some .queued) :
    (trace.after proc command outcome).state.status id = trace.state.status id := by
  rw [state_after]
  split
  · exact status_execute hTarget hRow.1 hRow.2
  · rfl

theorem claimedIds_after_of_not (hTakes : command.takesRuns = false) :
    claimedIds proc (trace.after proc command outcome).history = claimedIds proc trace.history := by
  have hClaims : command.claims trace.state = [] := by
    cases command <;> first
      | rfl
      | cases hTakes
  rw [claimedIds_after, hClaims, ite_self, List.nil_append]

theorem interrupted_after_of_fails (hTakes : command.takesRuns = false)
    (h : ∀ error ∈ outcome.raised, error ≠ .cancelledError) :
    interrupted proc (trace.after proc command outcome).history = interrupted proc trace.history :=
  interrupted_after_of_not fun error hError => leavesBehind_of_ne hTakes (h error hError)

theorem cancelled_after (hRaised : outcome.raised = some .cancelledError)
    (hTakes : command.takesRuns = false) (hCovered : command.covered = true)
    (hCalm : interrupted proc trace.history = false)
    (hRows : CancelledRows (trace.after proc command outcome).state done pending)
    (hClaimed : ∀ id, id ∈ claimedIds proc (trace.after proc command outcome).history ↔ id ∈ done ++ pending)
    (hReached : reachedLoop proc (trace.after proc command outcome).history = true) :
    BatchHolds op proc (trace.after proc command outcome) (.cancelled done pending) := by
  refine ⟨hRows, hClaimed, ?_, hReached⟩
  rw [interrupted_after, hRaised, hReached, hCalm]
  constructor
  · rintro (hFalse | ⟨error, hError, id, hId, hLeaves⟩)
    · cases hFalse
    · obtain rfl : .cancelledError = error := Option.some.inj hError
      have hStatus := (leavesBehind_covered hTakes hCovered _).mp hLeaves
      obtain hIn | hIn := List.mem_append.mp ((hClaimed id).mp hId)
      · exact absurd (by rw [hStatus]) (hRows.done id hIn).not_processing
      · exact ⟨id, hIn, hStatus⟩
  · rintro ⟨id, hId, hStatus⟩
    exact .inr ⟨.cancelledError, rfl, id, (hClaimed id).mpr (List.mem_append_right _ hId),
      (leavesBehind_covered hTakes hCovered _).mpr hStatus⟩

theorem running_after (hRaised : ∀ error ∈ outcome.raised, error = .cancelledError ∨
      failsRun error = true) (hTakes : command.takesRuns = false) (hCovered : command.covered = true)
    (hCalm : interrupted proc trace.history = false)
    (hRows : RunningRows (trace.after proc command outcome).state done pending phase)
    (hClaimed : ∀ id, id ∈ claimedIds proc (trace.after proc command outcome).history ↔ id ∈ done ++ pending)
    (hReached : reachedLoop proc (trace.after proc command outcome).history = true) :
    Afterwards op proc (trace.after proc command outcome)
      ((BatchStage.running done pending phase).proceed outcome.raised) := by
  have hSame : (∀ error ∈ outcome.raised, error ≠ .cancelledError) →
      BatchHolds op proc (trace.after proc command outcome) (.running done pending phase) := by
    intro hFails
    exact ⟨hRows, hClaimed, (interrupted_after_of_fails hTakes hFails).trans hCalm, hReached⟩
  cases hError : outcome.raised with
  | none =>
    refine (hSame ?_).afterwards (by rintro ⟨⟩)
    rintro error hIn
    rw [hError] at hIn
    cases hIn
  | some error =>
    by_cases hCancelled : error = .cancelledError
    · subst hCancelled
      exact (cancelled_after hError hTakes hCovered hCalm hRows.cancel hClaimed hReached).afterwards
        (by rintro ⟨⟩)
    · rw [proceed_running hCancelled, if_pos ((hRaised error hError).resolve_left hCancelled)]
      refine (hSame ?_).afterwards (by rintro ⟨⟩)
      rintro other hIn rfl
      rw [hError] at hIn
      exact hCancelled (Option.some.inj hIn)

theorem claimed_cancelled {ids : List Nat} (h : BatchHolds op proc trace (.claimed ids))
    (hTakes : command.takesRuns = false) (hEnters : command.entersLoop = false)
    (hRaised : outcome.raised = some .cancelledError)
    (hSame : ∀ id ∈ ids, (trace.after proc command outcome).state.status id = trace.state.status id)
    (hProcess : op.isProcessBatch = true) : ExitsSettled proc (trace.after proc command outcome) := by
  have hClaimed : ∀ id, id ∈ claimedIds proc (trace.after proc command outcome).history ↔ id ∈ ids :=
    fun id => by rw [claimedIds_after_of_not hTakes]; exact h.history.1 id
  have hProcessing : ∀ id ∈ ids,
      ((trace.after proc command outcome).state.status id).state = some .processing :=
    fun id hId => by rw [hSame id hId, h.rows.2 id hId]
  have hReached : reachedLoop proc (trace.after proc command outcome).history = false := by
    rw [reachedLoop_after, hEnters, h.history.2.2 hProcess]
    rfl
  refine exitsSettled_of (fun id hId => .inr (hProcessing id ((hClaimed id).mp hId))) ?_
  rw [interrupted_after, h.history.2.1, hRaised, hReached]
  constructor
  · rintro (hFalse | ⟨error, -, id, hId, -⟩)
    · cases hFalse
    · exact ⟨id, hId, hProcessing id ((hClaimed id).mp hId)⟩
  · rintro ⟨id, hId, hState⟩
    exact .inr ⟨.cancelledError, rfl, id, hId, (leavesBehind_uncovered rfl _).mpr hState⟩

theorem cancelled_stays (h : BatchHolds op proc trace (.cancelled done pending))
    (hTakes : command.takesRuns = false) (hCovered : command.covered = true) (hSame : ∀ id ∈ done ++ pending,
      (trace.after proc command outcome).state.status id = trace.state.status id) :
    BatchHolds op proc (trace.after proc command outcome) (.cancelled done pending) := by
  have hClaimed : claimedIds proc (trace.after proc command outcome).history =
      claimedIds proc trace.history := claimedIds_after_of_not hTakes
  have hReached : reachedLoop proc (trace.after proc command outcome).history = true := by
    rw [reachedLoop_after, h.history.2.2, Bool.or_true]
  refine ⟨h.rows.frame hSame, fun id => by rw [hClaimed]; exact h.history.1 id, ?_, hReached⟩
  rw [interrupted_after, hReached, hClaimed]
  constructor
  · rintro (hOld | ⟨error, -, id, hId, hLeaves⟩)
    · obtain ⟨id, hId, hStatus⟩ := h.history.2.1.mp hOld
      exact ⟨id, hId, (hSame id (List.mem_append_right _ hId)).trans hStatus⟩
    · have hCancelled : error = .cancelledError := by
        by_contra hOther
        rw [leavesBehind_of_ne hTakes hOther] at hLeaves
        cases hLeaves
      subst hCancelled
      have hOwned := (h.history.1 id).mp hId
      have hStatus := (leavesBehind_covered hTakes hCovered _).mp hLeaves
      obtain hIn | hIn := List.mem_append.mp hOwned
      · rw [hSame id hOwned] at hStatus
        exact absurd (by rw [hStatus]) (h.rows.done id hIn).not_processing
      · exact ⟨id, hIn, hStatus⟩
  · rintro ⟨id, hId, hStatus⟩
    exact .inl (h.history.2.1.mpr
      ⟨id, hId, (hSame id (List.mem_append_right _ hId)).symm.trans hStatus⟩)

theorem keeps_after (h : BatchHolds op proc trace stage) (hKeeps : command.writesRuns = false)
    (hAdmits : op.admits stage command)
    (hRaised : ∀ error ∈ outcome.raised, error = .cancelledError ∨ failsRun error = true) :
    Afterwards op proc (trace.after proc command outcome)
      (if command.entersLoop then stage.enter.proceed outcome.raised else stage.proceed outcome.raised) := by
  have hTakes : command.takesRuns = false := by
    cases command <;> first
      | rfl
      | cases hKeeps
  have hCovered : command.covered = true := by
    cases command <;> first
      | rfl
      | cases hKeeps
  have hTargets : command.targets = [] := by
    cases command <;> first
      | rfl
      | cases hKeeps
  have hAdmits := (admits_of_keeps hKeeps stage).mp hAdmits
  have hSame : ∀ id ∈ stage.owned,
      (trace.after proc command outcome).state.status id = trace.state.status id :=
    fun id hId => status_after (by rw [hTargets]; exact List.not_mem_nil) (h.rows.claimed hId)
  have hRows : BatchRows (trace.after proc command outcome).state stage := h.rows.frame hSame
  have hClaimed : claimedIds proc (trace.after proc command outcome).history =
      claimedIds proc trace.history := claimedIds_after_of_not hTakes
  cases stage with
  | before =>
    have hBefore : BatchHolds op proc (trace.after proc command outcome) .before := by
      refine ⟨trivial, hClaimed.trans h.history.1, ?_, fun hProcess => ?_⟩
      · rw [← Bool.not_eq_true, interrupted_after, hClaimed, h.history.1, h.history.2.1]
        rintro (hFalse | ⟨error, -, id, hId, -⟩)
        · cases hFalse
        · cases hId
      · rw [reachedLoop_after, h.history.2.2 hProcess, Bool.or_false, ← Bool.not_eq_true]
        exact fun hEnters => (hAdmits hProcess).2 hEnters rfl
    have hNext : (if command.entersLoop then BatchStage.before.enter.proceed outcome.raised
        else BatchStage.before.proceed outcome.raised) = .before := by
      split <;> cases outcome.raised <;> rfl
    rw [hNext]
    exact hBefore.afterwards (by rintro ⟨⟩)
  | claimed ids =>
    have hIds : ∀ id, id ∈ claimedIds proc (trace.after proc command outcome).history ↔ id ∈ ids :=
      fun id => by rw [hClaimed]; exact h.history.1 id
    cases hEnters : command.entersLoop with
    | true =>
      refine running_after hRaised hTakes hCovered h.history.2.1 hRows.enter hIds ?_
      rw [reachedLoop_after, hEnters]
      rfl
    | false =>
      have hStays : (∀ error ∈ outcome.raised, error ≠ .cancelledError) →
          BatchHolds op proc (trace.after proc command outcome) (.claimed ids) := by
        intro hFails
        refine ⟨hRows, hIds, (interrupted_after_of_fails hTakes hFails).trans h.history.2.1,
          fun hProcess => ?_⟩
        rw [reachedLoop_after, hEnters, h.history.2.2 hProcess]
        rfl
      show Afterwards op proc _ ((BatchStage.claimed ids).proceed outcome.raised)
      cases hError : outcome.raised with
      | none =>
        refine (hStays ?_).afterwards (by rintro ⟨⟩)
        intro error hIn
        rw [hError] at hIn
        cases hIn
      | some error =>
        by_cases hCancelled : error = .cancelledError
        · subst hCancelled
          exact afterwards_exited (claimed_cancelled h hTakes hEnters hError hSame)
        · rw [proceed_claimed hCancelled]
          refine (hStays ?_).afterwards (by rintro ⟨⟩)
          rintro other hIn rfl
          rw [hError] at hIn
          exact hCancelled (Option.some.inj hIn)
  | running done pending phase =>
    rw [show (BatchStage.running done pending phase).enter = .running done pending phase from rfl,
      ite_self]
    refine running_after hRaised hTakes hCovered h.history.2.1 hRows
      (fun id => by rw [hClaimed]; exact h.history.1 id) ?_
    rw [reachedLoop_after, h.history.2.2, Bool.or_true]
  | cancelled done pending =>
    have hNext : (if command.entersLoop then
        (BatchStage.cancelled done pending).enter.proceed outcome.raised
        else (BatchStage.cancelled done pending).proceed outcome.raised) = .cancelled done pending := by
      split <;> cases outcome.raised <;> rfl
    rw [hNext]
    exact (cancelled_stays h hTakes hCovered hSame).afterwards (by rintro ⟨⟩)
  | exited =>
    have hNext : (if command.entersLoop then BatchStage.exited.enter.proceed outcome.raised
        else BatchStage.exited.proceed outcome.raised) = .exited := by
      split <;> cases outcome.raised <;> rfl
    rw [hNext]
    exact afterwards_exited fun hProcess => absurd rfl (hAdmits hProcess).1
  | void => exact h.rows.elim

/-- Workflow runs belong to rows that were claimed. -/
def WellLinked (s : CampaignStore) : Prop :=
  ∀ id, (s.status id).linked = true → ∃ state ∈ (s.status id).state, state ≠ .queued

abbrev CampaignTrace.reply (trace : CampaignTrace ι) (proc : ι) (command : CampaignCommand)
    (outcome : Outcome Error) : Except Error command.Reply :=
  ((campaignServices ι).perform proc command outcome trace.state).1

theorem claim_after (hLinked : WellLinked trace.state) (h : BatchHolds op proc trace .before)
    (scheduledBefore : UnixTime) (limit : Nat) :
    Afterwards op proc (trace.after proc (.claimQueuedRuns scheduledBefore limit) outcome)
      (BatchStage.before.claim (trace.reply proc (.claimQueuedRuns scheduledBefore limit) outcome)) := by
  have hClaimed : claimedIds proc
      (trace.after proc (.claimQueuedRuns scheduledBefore limit) outcome).history =
        if outcome.executed = true then trace.state.claimed scheduledBefore limit else [] := by
    rw [claimedIds_after, h.history.1, List.append_nil]
    rfl
  have hRow : outcome.executed = true → ∀ id ∈ trace.state.claimed scheduledBefore limit,
      (trace.after proc (.claimQueuedRuns scheduledBefore limit) outcome).state.status id =
        ⟨some .processing, false⟩ := by
    intro hExecuted id hId
    rw [state_after, if_pos hExecuted, status_claim, if_pos hId, RunStatus.mk.injEq, ← Bool.not_eq_true]
    refine ⟨rfl, fun hRun => ?_⟩
    obtain ⟨state, hState, hNot⟩ := hLinked id hRun
    exact hNot (Option.some.inj (hState.symm.trans (queued_of_mem_claimed hId)))
  cases outcome with
  | reply =>
    have hIds : (trace.state.execute (.claimQueuedRuns scheduledBefore limit)).1.map QueuedRun.id =
        trace.state.claimed scheduledBefore limit := by
      rw [CampaignStore.execute, CampaignStore.claim, CampaignStore.claimed, List.map_map]
      rfl
    have hNodup : (trace.state.claimed scheduledBefore limit).Nodup :=
      QueuedRuns.nodup_claimable _ _ _ _ _
    have hNext : BatchStage.before.claim (trace.reply proc (.claimQueuedRuns scheduledBefore limit)
        .reply) = .claimed (trace.state.claimed scheduledBefore limit) := by
      show (if _ then _ else _) = _
      rw [hIds, if_pos hNodup]
    rw [hNext]
    refine BatchHolds.afterwards ⟨⟨hNodup, hRow rfl⟩, fun id => ?_, ?_, fun hProcess => ?_⟩
      (by rintro ⟨⟩)
    · rw [hClaimed]
      rfl
    · rw [interrupted_after_of_not (by rintro error ⟨⟩), h.history.2.1]
    · rw [reachedLoop_after, h.history.2.2 hProcess]
      rfl
  | fail error applied =>
    refine afterwards_exited fun hProcess => exitsSettled_of (fun id hId => ?_) ?_
    · rw [hClaimed] at hId
      split at hId
      · rename_i hExecuted
        exact .inr (by rw [hRow hExecuted id hId])
      · cases hId
    · rw [interrupted_after, h.history.2.1]
      constructor
      · rintro (hFalse | ⟨error, -, id, hId, hLeaves⟩)
        · cases hFalse
        · exact ⟨id, hId, of_decide_eq_true (Bool.and_eq_true_iff.mp hLeaves).1⟩
      · rintro ⟨id, hId, hState⟩
        exact .inr ⟨error, rfl, id, hId, by simp [CampaignCommand.leavesBehind,
          CampaignCommand.takesRuns, hState]⟩

theorem create_after {id : Nat} (h : BatchHolds op proc trace (.running done (id :: pending) .unlinked))
    (hRaised : ∀ error ∈ outcome.raised, error = .cancelledError ∨ failsRun error = true) :
    Afterwards op proc (trace.after proc (.createWorkflowRun id) outcome)
      ((BatchStage.running done (id :: pending) .unlinked).create
        (trace.reply proc (.createWorkflowRun id) outcome)) := by
  have hFresh : ∀ other ∈ done ++ pending, other ≠ id := fun other hOther hEq =>
    (List.nodup_cons.mp (List.perm_middle.nodup_iff.mp h.rows.nodup)).1 (hEq ▸ hOther)
  have hSame : ∀ other ∈ done ++ pending,
      (trace.after proc (.createWorkflowRun id) outcome).state.status other =
        trace.state.status other := by
    intro other hOther
    refine status_after (fun hTarget => hFresh other hOther (List.mem_singleton.mp hTarget))
      (h.rows.claimed ?_)
    exact List.perm_middle.mem_iff.mpr (List.mem_cons_of_mem _ hOther)
  have hHead : (trace.state.status id) = ⟨some .processing, false⟩ := h.rows.head id rfl
  have hRows : ∀ phase : RunPhase,
      phase.Holds ((trace.after proc (.createWorkflowRun id) outcome).state.status id) →
      RunningRows (trace.after proc (.createWorkflowRun id) outcome).state done (id :: pending) phase := by
    intro phase hPhase
    refine ⟨h.rows.nodup, fun other hOther => ?_, fun other hOther => ?_, fun other hOther => ?_⟩
    · rw [hSame other (List.mem_append_left _ hOther)]
      exact h.rows.done other hOther
    · obtain rfl := Option.some.inj hOther
      exact hPhase
    · rw [hSame other (List.mem_append_right _ hOther)]
      exact h.rows.tail other hOther
  have hAfter : ∀ phase : RunPhase,
      phase.Holds ((trace.after proc (.createWorkflowRun id) outcome).state.status id) →
      Afterwards op proc (trace.after proc (.createWorkflowRun id) outcome)
        ((BatchStage.running done (id :: pending) phase).proceed outcome.raised) := by
    intro phase hPhase
    refine running_after hRaised rfl rfl h.history.2.1 (hRows phase hPhase) (fun other => ?_) ?_
    · rw [claimedIds_after_of_not rfl]
      exact h.history.1 other
    · rw [reachedLoop_after, h.history.2.2, Bool.or_true]
  cases outcome with
  | reply =>
    refine hAfter .linked ?_
    rw [state_after, if_pos (show (Outcome.reply : Outcome Error).executed = true from rfl),
      status_createWorkflowRun, hHead, decide_eq_true rfl]
    rfl
  | fail error applied =>
    refine hAfter .unsure ?_
    rw [state_after]
    split
    · rw [status_createWorkflowRun, hHead]
      rfl
    · rw [hHead]
      rfl

omit [DecidableEq ι] in
theorem status_mark {id : Nat} {state : QueuedRunState}
    (hExists : (trace.state.status id).state ≠ none) (hExecuted : outcome.executed = true) :
    (trace.after proc (.updateQueuedRun id state) outcome).state.status id =
      ⟨some state, (trace.state.status id).linked⟩ := by
  obtain ⟨found, hFound⟩ := Option.ne_none_iff_exists'.mp hExists
  rw [state_after, if_pos hExecuted, status_updateQueuedRun, if_pos rfl, hFound]
  rfl

omit [DecidableEq ι] in
theorem reply_mark {id : Nat} {state : QueuedRunState} (hExists : (trace.state.status id).state ≠ none) :
    trace.reply proc (.updateQueuedRun id state) .reply = .ok true := by
  have hFound : (trace.state.queuedRuns.lookup id).isSome = true := by
    rw [Option.isSome_iff_ne_none]
    exact fun hNone => hExists (by rw [CampaignStore.status, hNone]; rfl)
  exact congrArg Except.ok hFound

theorem claimed_rotate {id : Nat} {ids : List Nat}
    (h : ∀ other, other ∈ ids ↔ other ∈ done ++ id :: pending) :
    ∀ other, other ∈ ids ↔ other ∈ id :: done ++ pending :=
  fun other => (h other).trans List.perm_middle.mem_iff

theorem markProcessed_after {id : Nat} (h : BatchHolds op proc trace (.running done (id :: pending) .linked))
    (hRaised : ∀ error ∈ outcome.raised, error = .cancelledError) :
    Afterwards op proc (trace.after proc (.updateQueuedRun id .processed) outcome)
      ((BatchStage.running done (id :: pending) .linked).mark id .processed
        (trace.reply proc (.updateQueuedRun id .processed) outcome)) := by
  have hHead : trace.state.status id = ⟨some .processing, true⟩ := h.rows.head id rfl
  have hExists : (trace.state.status id).state ≠ none := by
    rw [hHead]
    rintro ⟨⟩
  have hMarked : outcome.executed = true →
      (trace.after proc (.updateQueuedRun id .processed) outcome).state.status id =
        ⟨some .processed, true⟩ := fun hExecuted => by rw [status_mark hExists hExecuted, hHead]
  have hSame : ∀ other ∈ done ++ id :: pending, other ≠ id →
      (trace.after proc (.updateQueuedRun id .processed) outcome).state.status other =
        trace.state.status other := fun other hOther hNe =>
    status_after (fun hTarget => hNe (List.mem_singleton.mp hTarget)) (h.rows.claimed hOther)
  have hClaimed : ∀ other, other ∈ claimedIds proc
      (trace.after proc (.updateQueuedRun id .processed) outcome).history ↔
        other ∈ done ++ id :: pending := fun other => by
    rw [claimedIds_after_of_not rfl]
    exact h.history.1 other
  have hReached : reachedLoop proc
      (trace.after proc (.updateQueuedRun id .processed) outcome).history = true := by
    rw [reachedLoop_after, h.history.2.2, Bool.or_true]
  cases outcome with
  | reply =>
    rw [reply_mark hExists, BatchStage.mark, if_pos List.head?_cons]
    refine BatchHolds.afterwards ⟨h.rows.advance (.inl (hMarked rfl)) hSame,
      claimed_rotate hClaimed, ?_, hReached⟩ (by rintro ⟨⟩)
    rw [interrupted_after_of_not (by rintro error ⟨⟩), h.history.2.1]
  | fail error applied =>
    obtain rfl := hRaised error rfl
    refine (cancelled_after rfl rfl rfl h.history.2.1 ⟨fun other hOther => ?_, fun other hOther => ?_⟩
      hClaimed hReached).afterwards (by rintro ⟨⟩)
    · have hNe : other ≠ id := fun hEq =>
        (List.nodup_append'.mp h.rows.nodup).2.2 hOther (hEq ▸ List.mem_cons_self)
      rw [hSame other (List.mem_append_left _ hOther) hNe]
      exact h.rows.done other hOther
    · by_cases hNe : other = id
      · subst hNe
        cases applied with
        | true => exact .inr (hMarked rfl)
        | false => exact .inl (by rw [state_after]; exact congrArg RunStatus.state hHead)
      · rw [hSame other (List.mem_append_right _ hOther) hNe]
        exact .inl (h.rows.processing other hOther)

theorem markFailed_after {id : Nat} (h : BatchHolds op proc trace (.running done pending phase))
    (hId : pending.head? = some id ∨ done.head? = some id ∧ phase = .unlinked ∧ id ∉ pending)
    (hRaised : ∀ error ∈ outcome.raised, error = .cancelledError) :
    Afterwards op proc (trace.after proc (.updateQueuedRun id .failed) outcome)
      ((BatchStage.running done pending phase).mark id .failed
        (trace.reply proc (.updateQueuedRun id .failed) outcome)) := by
  have hOwned : id ∈ done ++ pending := hId.elim
    (fun hHead => List.mem_append_right _ (List.mem_of_mem_head? hHead))
    fun hHead => List.mem_append_left _ (List.mem_of_mem_head? hHead.1)
  have hExists := (h.rows.claimed hOwned).1
  have hMarked : outcome.executed = true →
      ((trace.after proc (.updateQueuedRun id .failed) outcome).state.status id).Done :=
    fun hExecuted => .inr (by rw [status_mark hExists hExecuted])
  have hSame : ∀ other ∈ done ++ pending, other ≠ id →
      (trace.after proc (.updateQueuedRun id .failed) outcome).state.status other =
        trace.state.status other := fun other hOther hNe =>
    status_after (fun hTarget => hNe (List.mem_singleton.mp hTarget)) (h.rows.claimed hOther)
  have hClaimed : ∀ other, other ∈ claimedIds proc
      (trace.after proc (.updateQueuedRun id .failed) outcome).history ↔ other ∈ done ++ pending :=
    fun other => by
      rw [claimedIds_after_of_not rfl]
      exact h.history.1 other
  cases outcome with
  | reply =>
    have hReached : reachedLoop proc
        (trace.after proc (.updateQueuedRun id .failed) .reply).history = true := by
      rw [reachedLoop_after, h.history.2.2, Bool.or_true]
    have hCalm : interrupted proc (trace.after proc (.updateQueuedRun id .failed) .reply).history =
        false := by
      rw [interrupted_after_of_not (by rintro error ⟨⟩), h.history.2.1]
    rw [reply_mark hExists, BatchStage.mark]
    split
    · rename_i hHead
      obtain ⟨rest, rfl⟩ := List.head?_eq_some_iff.mp hHead
      exact BatchHolds.afterwards ⟨h.rows.advance (hMarked rfl) hSame, claimed_rotate hClaimed, hCalm,
        hReached⟩ (by rintro ⟨⟩)
    · rename_i hHead
      obtain ⟨-, -, hNot⟩ := hId.resolve_left hHead
      have hPending : ∀ other ∈ pending,
          (trace.after proc (.updateQueuedRun id .failed) .reply).state.status other =
            trace.state.status other := fun other hOther =>
        hSame other (List.mem_append_right _ hOther) fun hEq => hNot (hEq ▸ hOther)
      refine BatchHolds.afterwards ⟨⟨h.rows.nodup, fun other hOther => ?_, fun other hOther => ?_,
        fun other hOther => ?_⟩, hClaimed, hCalm, hReached⟩ (by rintro ⟨⟩)
      · by_cases hNe : other = id
        · exact hNe ▸ hMarked rfl
        · rw [hSame other (List.mem_append_left _ hOther) hNe]
          exact h.rows.done other hOther
      · rw [hPending other (List.mem_of_mem_head? hOther)]
        exact h.rows.head other hOther
      · rw [hPending other (List.mem_of_mem_tail hOther)]
        exact h.rows.tail other hOther
  | fail error applied =>
    obtain rfl := hRaised error rfl
    have hSplit : ∀ other ∈ done ++ pending,
        ((trace.after proc (.updateQueuedRun id .failed)
          (.fail .cancelledError applied)).state.status other).Done ∨
        ((trace.after proc (.updateQueuedRun id .failed)
          (.fail .cancelledError applied)).state.status other).state = some .processing := by
      intro other hOther
      have hOld : (trace.state.status other).Done ∨
          (trace.state.status other).state = some .processing :=
        (List.mem_append.mp hOther).imp (h.rows.done other) (h.rows.processing other)
      by_cases hNe : other = id
      · subst hNe
        cases applied with
        | true => exact .inl (hMarked rfl)
        | false =>
          rw [state_after]
          exact hOld
      · rw [hSame other hOther hNe]
        exact hOld
    refine afterwards_exited fun _ => exitsSettled_of (fun other hOther =>
      (hSplit other ((hClaimed other).mp hOther)).imp_left .inl) ?_
    rw [interrupted_after, h.history.2.1]
    constructor
    · rintro (hFalse | ⟨error, hError, other, hOther, hLeaves⟩)
      · cases hFalse
      · obtain rfl : .cancelledError = error := Option.some.inj hError
        exact ⟨other, hOther, (leavesBehind_uncovered (Bool.and_false _) _).mp hLeaves⟩
    · rintro ⟨other, hOther, hState⟩
      exact .inr ⟨.cancelledError, rfl, other, hOther,
        (leavesBehind_uncovered (Bool.and_false _) _).mpr hState⟩

theorem return_after {ids : List Nat} (hRows : CancelledRows trace.state done pending)
    (hClaimed : ∀ id, id ∈ claimedIds proc trace.history ↔ id ∈ done ++ pending)
    (hInterrupted : interrupted proc trace.history = true ↔
      ∃ id ∈ pending, trace.state.status id = ⟨some .processing, true⟩)
    (hPending : pending ⊆ ids) (hRaised : ∀ error ∈ outcome.raised, error = .cancelledError) :
    ExitsSettled proc (trace.after proc (.returnProcessingQueuedRuns ids) outcome) := by
  have hReturned : ∀ id, (trace.after proc (.returnProcessingQueuedRuns ids) outcome).state.status id =
      if outcome.executed = true ∧ id ∈ ids ∧ trace.state.status id = ⟨some .processing, false⟩ then
        ⟨some .queued, false⟩ else trace.state.status id := by
    intro id
    rw [state_after]
    by_cases hExecuted : outcome.executed = true
    · rw [if_pos hExecuted, status_return]
      simp only [hExecuted, true_and]
    · rw [if_neg hExecuted, if_neg fun hAll => hExecuted hAll.1]
  have hClaimed' : ∀ id, id ∈ claimedIds proc
      (trace.after proc (.returnProcessingQueuedRuns ids) outcome).history ↔ id ∈ done ++ pending :=
    fun id => by
      rw [claimedIds_after_of_not rfl]
      exact hClaimed id
  have hDone : ∀ id ∈ done,
      ((trace.after proc (.returnProcessingQueuedRuns ids) outcome).state.status id).Done := by
    intro id hId
    rw [hReturned, if_neg fun hAll => (hRows.done id hId).not_processing (by rw [hAll.2.2])]
    exact hRows.done id hId
  have hLinked : ∀ id, trace.state.status id = ⟨some .processing, true⟩ →
      ((trace.after proc (.returnProcessingQueuedRuns ids) outcome).state.status id).state =
        some .processing := by
    intro id hStatus
    rw [hReturned, hStatus, if_neg]
    rintro ⟨-, -, ⟨⟩⟩
  have hSplit : ∀ id ∈ pending,
      ((trace.after proc (.returnProcessingQueuedRuns ids) outcome).state.status id).Settled ∨
      ((trace.after proc (.returnProcessingQueuedRuns ids) outcome).state.status id).state =
        some .processing ∧
        (trace.state.status id = ⟨some .processing, true⟩ ∨ outcome.executed = false) := by
    intro id hId
    obtain hState | hStatus := hRows.pending id hId
    · cases hRun : (trace.state.status id).linked with
      | true =>
        have hStatus : trace.state.status id = ⟨some .processing, true⟩ :=
          congrArg₂ RunStatus.mk hState hRun
        exact .inr ⟨hLinked id hStatus, .inl hStatus⟩
      | false =>
        have hStatus : trace.state.status id = ⟨some .processing, false⟩ :=
          congrArg₂ RunStatus.mk hState hRun
        rw [hReturned, hStatus]
        cases hExecuted : outcome.executed with
        | true => exact .inl (.inr (if_pos ⟨rfl, hPending hId, rfl⟩))
        | false => exact .inr ⟨congrArg RunStatus.state (if_neg (by rintro ⟨⟨⟩, -⟩)), .inr rfl⟩
    · refine .inl (.inl (.inl ?_))
      rw [hReturned, hStatus, if_neg]
      rintro ⟨-, -, ⟨⟩⟩
  refine exitsSettled_of (fun id hId => ?_) ?_
  · obtain hIn | hIn := List.mem_append.mp ((hClaimed' id).mp hId)
    · exact .inl (.inl (hDone id hIn))
    · exact (hSplit id hIn).imp_right And.left
  · rw [interrupted_after, hInterrupted]
    constructor
    · rintro (⟨id, hId, hStatus⟩ | ⟨error, hError, id, hId, hLeaves⟩)
      · exact ⟨id, (hClaimed' id).mpr (List.mem_append_right _ hId), hLinked id hStatus⟩
      · obtain rfl := hRaised error hError
        exact ⟨id, hId, (leavesBehind_uncovered (Bool.and_false _) _).mp hLeaves⟩
    · rintro ⟨id, hId, hState⟩
      obtain hIn | hIn := List.mem_append.mp ((hClaimed' id).mp hId)
      · exact absurd hState (hDone id hIn).not_processing
      · obtain hSettled | ⟨-, hStatus | hFailed⟩ := hSplit id hIn
        · exact absurd hState hSettled.not_processing
        · exact .inl ⟨id, hIn, hStatus⟩
        · cases outcome with
          | reply => cases hFailed
          | fail error applied =>
            obtain rfl := hRaised error rfl
            exact .inr ⟨.cancelledError, rfl, id, hId,
              (leavesBehind_uncovered (Bool.and_false _) _).mpr hState⟩

theorem own_after (hLinked : WellLinked trace.state) (h : BatchHolds op proc trace stage)
    (hPermits : (batchProtocol op).permits stage command)
    (hAllowed : updatesSucceed.call proc command outcome trace) :
    Afterwards op proc (trace.after proc command outcome)
      (stage.next command (trace.reply proc command outcome)) := by
  have hAdmits : op.admits stage command := hPermits.resolve_left fun hVoid => by
    subst hVoid
    exact h.rows.elim
  have hRaised : ∀ error ∈ outcome.raised, error = .cancelledError ∨ failsRun error = true :=
    fun error hError => (hAllowed error hError).imp_right And.left
  cases hKeeps : command.writesRuns with
  | false =>
    have hError : errorOf (trace.reply proc command outcome) = outcome.raised := by
      cases outcome <;> rfl
    rw [next_of_keeps hKeeps, hError]
    exact keeps_after h hKeeps hAdmits hRaised
  | true =>
    have hMarks : command.marksRuns = true → ∀ error ∈ outcome.raised, error = .cancelledError := by
      intro hMarks error hError
      refine (hAllowed error hError).resolve_right fun hOther => ?_
      rw [hOther.2] at hMarks
      cases hMarks
    cases command with
    | claimQueuedRuns scheduledBefore limit =>
      obtain ⟨-, rfl⟩ := hAdmits
      exact claim_after hLinked h scheduledBefore limit
    | createWorkflowRun id =>
      obtain ⟨done, pending, rfl⟩ := hAdmits
      exact create_after h hRaised
    | updateQueuedRun id state =>
      cases state with
      | processed =>
        obtain ⟨done, pending, rfl⟩ := hAdmits
        exact markProcessed_after h (hMarks rfl)
      | failed =>
        obtain ⟨done, pending, phase, rfl, hId⟩ := hAdmits
        exact markFailed_after h hId (hMarks rfl)
      | queued => exact hAdmits.elim
      | processing => exact hAdmits.elim
    | returnProcessingQueuedRuns ids =>
      obtain ⟨done, pending, rfl | rfl, hPending, -⟩ := hAdmits
      · refine afterwards_exited fun _ => return_after h.rows.cancel h.history.1 ?_ hPending (hMarks rfl)
        rw [h.history.2.1]
        refine ⟨by rintro ⟨⟩, ?_⟩
        rintro ⟨id, hId, hStatus⟩
        cases pending with
        | nil => cases hId
        | cons first rest =>
          obtain rfl | hRest := List.mem_cons.mp hId
          · exact absurd ((h.rows.head id rfl).symm.trans hStatus) (by rintro ⟨⟩)
          · exact absurd ((h.rows.tail id hRest).symm.trans hStatus) (by rintro ⟨⟩)
      · exact afterwards_exited fun _ =>
          return_after h.rows h.history.1 h.history.2.1 hPending (hMarks rfl)
    | _ => cases hKeeps

end History

end FastVoice.Campaign
