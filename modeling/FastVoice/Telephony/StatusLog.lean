import FastVoice.Telephony.StatusProcessor

/-! # The log of status callbacks

A callback is appended to the list that its handler has read, and the whole list is written back.
The log keeps every entry exactly when each of these writes finds the list that was read.
-/
namespace FastVoice.Telephony
open Async Campaign

def writtenLog : TelephonyCommand → Option (List CallbackLog)
  | .updateWorkflowRun patch => patch.telephonyStatusCallbacks
  | _ => none

def loggedEntry (command : TelephonyCommand) (outcome : Outcome Error) : Option CallbackLog :=
  if outcome.executed then (writtenLog command).bind List.getLast? else none

namespace TelephonyStore

def callbacks (s : TelephonyStore) : List CallbackLog :=
  s.run.elim [] WorkflowRunRow.telephonyStatusCallbacks

theorem callbacks_patchRun (s : TelephonyStore) (patch : WorkflowRunPatch) (h : s.run.isSome) :
    (s.patchRun patch).callbacks = patch.telephonyStatusCallbacks.getD s.callbacks := by
  obtain ⟨row, hRow⟩ := Option.isSome_iff_exists.mp h
  simp [callbacks, patchRun, hRow, WorkflowRunRow.patch]

theorem run_isSome_patchRun (s : TelephonyStore) (patch : WorkflowRunPatch) :
    (s.patchRun patch).run.isSome = s.run.isSome := by
  rw [patchRun, Option.isSome_map]

theorem run_isSome_execute (s : TelephonyStore) (command : TelephonyCommand) :
    (s.execute command).2.run.isSome = s.run.isSome := by
  cases command with
  | updateWorkflowRun patch => exact run_isSome_patchRun s patch
  | _ => rfl

theorem callbacks_execute (s : TelephonyStore) (command : TelephonyCommand) (h : s.run.isSome) :
    (s.execute command).2.callbacks = (writtenLog command).getD s.callbacks := by
  cases command with
  | updateWorkflowRun patch => exact callbacks_patchRun s patch h
  | _ => rfl

theorem environment_frame {move : TelephonyMove} {s s' : TelephonyStore} (hRun : s.run.isSome)
    (h : environment move s = some s') : s'.run.isSome ∧ s'.callbacks = s.callbacks := by
  cases move with
  | services services =>
    cases h
    exact ⟨hRun, rfl⟩
  | writeRun patch =>
    rw [environment] at h
    split at h
    · rename_i hNone
      cases h
      rw [run_isSome_patchRun, callbacks_patchRun s patch hRun, Option.isNone_iff_eq_none.mp hNone]
      exact ⟨hRun, rfl⟩
    · cases h

end TelephonyStore

theorem telephony_perform {ι : Type} (proc : ι) (command : TelephonyCommand) (outcome : Outcome Error)
    (s : TelephonyStore) : ((telephonyServices ι).perform proc command outcome s).2 =
      if outcome.executed then (s.execute command).2 else s := by
  cases outcome with
  | reply => rfl
  | fail error applied => cases applied <;> rfl

section Histories

variable {ι : Type}

abbrev TelephonyHistory (ι : Type) :=
  List (Entry ι TelephonyCommand Error TelephonyStore TelephonyMove)

def loggedEntries (history : TelephonyHistory ι) : List CallbackLog :=
  history.filterMap fun
    | .call _ command outcome _ => loggedEntry command outcome
    | .environment _ _ => none

def readBy [DecidableEq ι] (proc : ι) :
    Entry ι TelephonyCommand Error TelephonyStore TelephonyMove → Option (List CallbackLog)
  | .call caller .getWorkflowRunById .reply found =>
    if caller = proc then some found.callbacks else none
  | _ => none

def readLog [DecidableEq ι] (proc : ι) (history : TelephonyHistory ι) : Option (List CallbackLog) :=
  history.findSome? (readBy proc)

/-- Whoever writes the log finds the log that it has read. -/
def WritesOnRead [DecidableEq ι] :
    Entry ι TelephonyCommand Error TelephonyStore TelephonyMove → TelephonyHistory ι → Prop
  | .call caller command outcome found, earlier => outcome.executed = true →
    (writtenLog command).isSome → ∀ log ∈ readLog caller earlier, found.callbacks = log
  | .environment _ _, _ => True

def AllOnRead [DecidableEq ι] : TelephonyHistory ι → Prop
  | [] => True
  | entry :: earlier => WritesOnRead entry earlier ∧ AllOnRead earlier

instance [DecidableEq ι] (entry : Entry ι TelephonyCommand Error TelephonyStore TelephonyMove)
    (earlier : TelephonyHistory ι) : Decidable (WritesOnRead entry earlier) :=
  match entry with
  | .call caller command outcome found => inferInstanceAs (Decidable (outcome.executed = true →
      (writtenLog command).isSome → ∀ log ∈ readLog caller earlier, found.callbacks = log))
  | .environment _ _ => isTrue trivial

def decidableAllOnRead [DecidableEq ι] : (history : TelephonyHistory ι) → Decidable (AllOnRead history)
  | [] => isTrue trivial
  | entry :: earlier =>
    have := decidableAllOnRead earlier
    inferInstanceAs (Decidable (WritesOnRead entry earlier ∧ AllOnRead earlier))

instance [DecidableEq ι] (history : TelephonyHistory ι) : Decidable (AllOnRead history) :=
  decidableAllOnRead history

def ownEntries [DecidableEq ι] (s : Recorded ι TelephonyCommand Error TelephonyStore TelephonyMove)
    (proc : ι) : List CallbackLog :=
  (s.own proc).filterMap fun call => loggedEntry call.1 call.2.1

end Histories

/-! ## What a handler does to the log -/

inductive LogStage where
  | start
  | absent
  | appending (log : List CallbackLog) (timestamp : UnixTime)
  | logged (timestamp : UnixTime)
  | failed

variable (lower : String → String)

def logProtocol (status : StatusCallbackRequest) : Protocol TelephonyCommand.Reply Error LogStage where
  permits
    | .start, command => command = .getWorkflowRunById
    | .appending log timestamp, command =>
      writtenLog command = some (log ++ [callbackLog lower status timestamp])
    | .absent, command => writtenLog command = none
    | .logged _, command => writtenLog command = none
    | .failed, command => writtenLog command = none
  next
    | .start, .getWorkflowRunById, .ok (timestamp, some row) =>
      .appending row.telephonyStatusCallbacks timestamp
    | .start, .getWorkflowRunById, .ok (_, none) => .absent
    | .appending _ timestamp, .updateWorkflowRun _, .ok true => .logged timestamp
    | .absent, _, _ => .absent
    | .logged timestamp, _, _ => .logged timestamp
    | _, _, _ => .failed

def KeepsLog (command : TelephonyCommand) : Prop := writtenLog command = none

def HasLogged (result : Except Error Unit) (stage : LogStage) : Prop :=
  result = .ok () → stage = .absent ∨ ∃ timestamp, stage = .logged timestamp

theorem campaign_issues {α : Type} (method : CampaignMethod α) : (campaign method).Issues KeepsLog := by
  apply Program.embed_issues
  intro command
  rfl

theorem updateWorkflowRun_issues {patch : WorkflowRunPatch} (h : patch.telephonyStatusCallbacks = none) :
    (updateWorkflowRun patch).Issues KeepsLog := by
  have hWrite : KeepsLog (.updateWorkflowRun patch) := h
  refine (Program.issues_call hWrite).bind fun found => ?_
  split <;> trivial

theorem recordOutcome_issues (campaignId : Option Nat) (isFailure : Bool) (workflowRunId : Nat) :
    (recordOutcome campaignId isFailure workflowRunId).Issues KeepsLog := by
  cases campaignId with
  | none => trivial
  | some campaignId => exact campaign_issues _

theorem processCompleted_issues (workflowRunId : Nat) (workflowRun : WorkflowRunRow) :
    (processCompleted workflowRunId workflowRun).Issues KeepsLog := by
  refine (campaign_issues _).bind fun _ => (recordOutcome_issues _ _ _).bind fun _ => ?_
  split
  · trivial
  · exact updateWorkflowRun_issues rfl

theorem publishRetryNeeded_issues (normalizedStatus : TelephonyCallStatus) (campaignId : Option Nat) :
    (publishRetryNeeded normalizedStatus campaignId).Issues KeepsLog := by
  rw [publishRetryNeeded]
  split
  · exact (campaign_issues _).bind fun _ => Program.issues_call rfl
  · trivial

theorem processNotConnected_issues (workflowRunId : Nat) (workflowRun : WorkflowRunRow)
    (status : StatusCallbackRequest) (normalizedStatus : TelephonyCallStatus) :
    (processNotConnected workflowRunId workflowRun status normalizedStatus).Issues KeepsLog := by
  refine (campaign_issues _).bind fun _ => (recordOutcome_issues _ _ _).bind fun _ =>
    (publishRetryNeeded_issues _ _).bind fun _ =>
      (updateWorkflowRun_issues rfl).bind fun _ => ?_
  split
  · exact Program.issues_call rfl
  · trivial

theorem processNormalized_issues (workflowRunId : Nat) (workflowRun : WorkflowRunRow)
    (status : StatusCallbackRequest) (normalizedStatus : Option TelephonyCallStatus) :
    (processNormalized workflowRunId workflowRun status normalizedStatus).Issues KeepsLog := by
  cases normalizedStatus with
  | none => trivial
  | some normalizedStatus =>
    rw [processNormalized]
    split
    · exact processCompleted_issues workflowRunId workflowRun
    · split
      · exact processNotConnected_issues workflowRunId workflowRun status normalizedStatus
      · trivial

theorem processStatusUpdate_obeys (workflowRunId : Nat) (status : StatusCallbackRequest) :
    (processStatusUpdate lower workflowRunId status).Obeys (logProtocol lower status) HasLogged .start := by
  rw [processStatusUpdate, Program.call_bind]
  refine ⟨rfl, fun result => ?_⟩
  cases result with
  | error error => exact fun h => by cases h
  | ok found =>
    obtain ⟨timestamp, _ | row⟩ := found
    · exact fun _ => .inl rfl
    simp only [Program.proceed_ok, updateWorkflowRun, Program.call_bind]
    refine ⟨rfl, fun result => ?_⟩
    cases result with
    | error error => exact fun h => by cases h
    | ok found =>
      cases found with
      | false => exact fun h => by cases h
      | true =>
        have hRest := (processNormalized_issues workflowRunId row status
          (TelephonyCallStatus.fromRaw lower status.status)).obeys
            (P := logProtocol lower status) (T := (· = .logged timestamp))
            (t := .logged timestamp)
            (by rintro _ command rfl hCommand; exact ⟨hCommand, fun _ => rfl⟩) rfl
        exact hRest.weaken fun result stage hStage _ => .inr ⟨timestamp, hStage⟩

/-! ## The invariant -/

section Invariant

variable {ι : Type} [DecidableEq ι]

abbrev TelephonyRecord (ι : Type) := Recorded ι TelephonyCommand Error TelephonyStore TelephonyMove

def capacity (initial : List CallbackLog) (s : TelephonyRecord ι) : Nat :=
  initial.length + (loggedEntries s.history).length

structure LogKept (initial : List CallbackLog) (s : TelephonyRecord ι) : Prop where
  present : s.state.run.isSome
  bounded : s.state.callbacks.length ≤ capacity initial s
  complete : AllOnRead s.history → s.state.callbacks = initial ++ (loggedEntries s.history).reverse
  short : ¬AllOnRead s.history → s.state.callbacks.length < capacity initial s

def Fits (initial log : List CallbackLog) (s : TelephonyRecord ι) : Prop :=
  log.length ≤ capacity initial s ∧ (s.state.callbacks ≠ log → log.length < capacity initial s)

def StageKnows (initial : List CallbackLog) (status : StatusCallbackRequest) (s : TelephonyRecord ι)
    (proc : ι) : LogStage → Prop
  | .start => ownEntries s proc = []
  | .absent => False
  | .appending log _ => ownEntries s proc = [] ∧ readLog proc s.history = some log ∧
    Fits initial log s
  | .logged timestamp => ownEntries s proc = [callbackLog lower status timestamp]
  | .failed => True

structure LogInvariant (initial : List CallbackLog) (requests : ι → StatusCallbackRequest)
    (s : TelephonyRecord ι) (t : ι → LogStage) : Prop where
  kept : LogKept initial s
  knows : ∀ proc, StageKnows lower initial (requests proc) s proc (t proc)

variable {lower} {initial : List CallbackLog} {s s' : TelephonyRecord ι} {proc other : ι}
  {command : TelephonyCommand} {outcome : Outcome Error}

abbrev afterCall (proc : ι) (command : TelephonyCommand) (outcome : Outcome Error)
    (s : TelephonyRecord ι) : TelephonyRecord ι :=
  ((telephonyServices ι).recorded.perform proc command outcome s).2

omit [DecidableEq ι] in
theorem loggedEntries_afterCall : loggedEntries (afterCall proc command outcome s).history =
    (loggedEntry command outcome).toList ++ loggedEntries s.history := by
  show loggedEntries (.call proc command outcome s.state :: s.history) = _
  rw [loggedEntries, List.filterMap_cons]
  cases hEntry : loggedEntry command outcome <;> simp [hEntry, loggedEntries]

theorem ownEntries_afterCall : ownEntries (afterCall proc command outcome s) proc =
    (loggedEntry command outcome).toList ++ ownEntries s proc := by
  rw [ownEntries, own_perform, List.filterMap_cons]
  cases loggedEntry command outcome <;> rfl

theorem ownEntries_afterCall_of_ne (h : other ≠ proc) :
    ownEntries (afterCall proc command outcome s) other = ownEntries s other := by
  rw [ownEntries, own_perform_of_ne h]
  rfl

theorem readLog_afterCall_of_ne (h : other ≠ proc) :
    readLog other (afterCall proc command outcome s).history = readLog other s.history := by
  have hNone : readBy other (.call proc command outcome s.state) = none := by
    cases command with
    | getWorkflowRunById =>
      cases outcome with
      | reply => exact if_neg h.symm
      | fail error applied => rfl
    | _ => rfl
  show readLog other (.call proc command outcome s.state :: s.history) = _
  rw [readLog, List.findSome?_cons, hNone]
  rfl

theorem readLog_afterCall_self : readLog proc (afterCall proc .getWorkflowRunById .reply s).history =
    some s.state.callbacks := by
  have hOwn : readBy proc (.call proc .getWorkflowRunById .reply s.state) = some s.state.callbacks :=
    if_pos rfl
  show readLog proc (.call proc .getWorkflowRunById .reply s.state :: s.history) = _
  rw [readLog, List.findSome?_cons, hOwn]

theorem allOnRead_afterCall : AllOnRead (afterCall proc command outcome s).history ↔
    WritesOnRead (.call proc command outcome s.state) s.history ∧ AllOnRead s.history :=
  Iff.rfl

section Unwritten

variable (hSilent : outcome.executed = true → writtenLog command = none)

include hSilent

omit [DecidableEq ι] in
theorem loggedEntry_of_silent : loggedEntry command outcome = none := by
  rw [loggedEntry]
  split
  · rename_i hExecuted
    rw [hSilent hExecuted]
    rfl
  · rfl

omit [DecidableEq ι] in
theorem callbacks_of_silent (h : s.state.run.isSome) :
    (afterCall proc command outcome s).state.callbacks = s.state.callbacks ∧
      (afterCall proc command outcome s).state.run.isSome := by
  show ((telephonyServices ι).perform proc command outcome s.state).2.callbacks = _ ∧
    ((telephonyServices ι).perform proc command outcome s.state).2.run.isSome
  rw [telephony_perform]
  split
  · rename_i hExecuted
    rw [TelephonyStore.callbacks_execute _ _ h, hSilent hExecuted,
      TelephonyStore.run_isSome_execute]
    exact ⟨rfl, h⟩
  · exact ⟨rfl, h⟩

theorem LogKept.silent (h : LogKept initial s) : LogKept initial (afterCall proc command outcome s) := by
  have hLogged : loggedEntries (afterCall proc command outcome s).history = loggedEntries s.history := by
    rw [loggedEntries_afterCall, loggedEntry_of_silent hSilent]
    rfl
  have hReads : AllOnRead (afterCall proc command outcome s).history ↔ AllOnRead s.history := by
    rw [allOnRead_afterCall, and_iff_right]
    intro hExecuted hWrites
    rw [hSilent hExecuted] at hWrites
    cases hWrites
  obtain ⟨hCallbacks, hRun⟩ :
      (afterCall proc command outcome s).state.callbacks = s.state.callbacks ∧
        (afterCall proc command outcome s).state.run.isSome :=
    callbacks_of_silent hSilent h.present
  refine ⟨hRun, ?_, ?_, ?_⟩
  · rw [hCallbacks, capacity, hLogged]
    exact h.bounded
  · rw [hCallbacks, hLogged, hReads]
    exact h.complete
  · rw [hCallbacks, capacity, hLogged, hReads]
    exact h.short

theorem StageKnows.silent {status : StatusCallbackRequest} {stage : LogStage} (hOther : other ≠ proc)
    (h : LogKept initial s) (hStage : StageKnows lower initial status s other stage) :
    StageKnows lower initial status (afterCall proc command outcome s) other stage := by
  have hNone := loggedEntry_of_silent hSilent
  have hOwn : ownEntries (afterCall proc command outcome s) other = ownEntries s other :=
    ownEntries_afterCall_of_ne hOther
  cases stage with
  | appending log timestamp =>
    refine ⟨hOwn.trans hStage.1, (readLog_afterCall_of_ne hOther).trans hStage.2.1, ?_⟩
    have hCallbacks : (afterCall proc command outcome s).state.callbacks = s.state.callbacks :=
      (callbacks_of_silent hSilent h.present).1
    rw [Fits, capacity, loggedEntries_afterCall, hNone, hCallbacks]
    exact hStage.2.2
  | start => exact hOwn.trans hStage
  | logged timestamp => exact hOwn.trans hStage
  | absent => exact hStage
  | failed => trivial

end Unwritten

section Written

variable {log : List CallbackLog} {entry : CallbackLog} (hExecuted : outcome.executed = true)
  (hWritten : writtenLog command = some (log ++ [entry]))

include hExecuted hWritten

omit [DecidableEq ι] in
theorem loggedEntry_of_written : loggedEntry command outcome = some entry := by
  rw [loggedEntry, if_pos hExecuted, hWritten, Option.bind_some, List.getLast?_concat]

omit [DecidableEq ι] in
theorem capacity_of_written :
    capacity initial (afterCall proc command outcome s) = capacity initial s + 1 := by
  rw [capacity, loggedEntries_afterCall, loggedEntry_of_written hExecuted hWritten, capacity]
  simp only [Option.toList_some, List.cons_append, List.nil_append, List.length_cons]
  omega

omit [DecidableEq ι] in
theorem callbacks_of_written (h : s.state.run.isSome) :
    (afterCall proc command outcome s).state.callbacks = log ++ [entry] ∧
      (afterCall proc command outcome s).state.run.isSome := by
  show ((telephonyServices ι).perform proc command outcome s.state).2.callbacks = _ ∧
    ((telephonyServices ι).perform proc command outcome s.state).2.run.isSome
  rw [telephony_perform, if_pos hExecuted, TelephonyStore.callbacks_execute _ _ h, hWritten,
    TelephonyStore.run_isSome_execute]
  exact ⟨rfl, h⟩

theorem LogKept.written (h : LogKept initial s) (hRead : readLog proc s.history = some log)
    (hFits : Fits initial log s) : LogKept initial (afterCall proc command outcome s) := by
  obtain ⟨hCallbacks, hRun⟩ :
      (afterCall proc command outcome s).state.callbacks = log ++ [entry] ∧
        (afterCall proc command outcome s).state.run.isSome :=
    callbacks_of_written hExecuted hWritten h.present
  have hCapacity :
      capacity initial (afterCall proc command outcome s) = capacity initial s + 1 :=
    capacity_of_written hExecuted hWritten
  have hOnReadIff : WritesOnRead (.call proc command outcome s.state) s.history ↔
      s.state.callbacks = log := by
    constructor
    · intro hOnRead
      exact hOnRead hExecuted (by rw [hWritten]; rfl) log hRead
    · intro hSame _ _ read hOther
      rw [hRead] at hOther
      exact hSame.trans (Option.some.inj hOther)
  refine ⟨hRun, ?_, ?_, ?_⟩
  · rw [hCallbacks, hCapacity, List.length_append]
    exact Nat.add_le_add_right hFits.1 1
  · intro hReads
    obtain ⟨hOnRead, hReads⟩ := allOnRead_afterCall.mp hReads
    rw [hCallbacks, loggedEntries_afterCall, loggedEntry_of_written hExecuted hWritten,
      ← hOnReadIff.mp hOnRead, h.complete hReads]
    simp
  · intro hReads
    rw [hCallbacks, hCapacity, List.length_append]
    apply Nat.add_lt_add_right
    by_cases hSame : s.state.callbacks = log
    · rw [← hSame]
      exact h.short fun hRest => hReads (allOnRead_afterCall.mpr ⟨hOnReadIff.mpr hSame, hRest⟩)
    · exact hFits.2 hSame

theorem StageKnows.written {status : StatusCallbackRequest} {stage : LogStage}
    (hOther : other ≠ proc) (hStage : StageKnows lower initial status s other stage) :
    StageKnows lower initial status (afterCall proc command outcome s) other stage := by
  have hOwn : ownEntries (afterCall proc command outcome s) other = ownEntries s other :=
    ownEntries_afterCall_of_ne hOther
  have hCapacity :
      capacity initial (afterCall proc command outcome s) = capacity initial s + 1 :=
    capacity_of_written hExecuted hWritten
  cases stage with
  | appending read timestamp =>
    obtain ⟨hNone, hRead, hLength, -⟩ := hStage
    refine ⟨hOwn.trans hNone, (readLog_afterCall_of_ne hOther).trans hRead, ?_⟩
    rw [Fits, hCapacity]
    exact ⟨by omega, fun _ => by omega⟩
  | start => exact hOwn.trans hStage
  | logged timestamp => exact hOwn.trans hStage
  | absent => exact hStage
  | failed => trivial

end Written

theorem logInvariant_silent {requests : ι → StatusCallbackRequest} {t : ι → LogStage}
    {stage : LogStage} (h : LogInvariant lower initial requests s t)
    (hSilent : outcome.executed = true → writtenLog command = none)
    (hStage : StageKnows lower initial (requests proc) (afterCall proc command outcome s) proc stage) :
    LogInvariant lower initial requests (afterCall proc command outcome s)
      (Function.update t proc stage) := by
  refine ⟨h.kept.silent hSilent, fun other => ?_⟩
  by_cases hOther : other = proc
  · subst hOther
    rw [Function.update_self]
    exact hStage
  · rw [Function.update_of_ne hOther]
    exact (h.knows other).silent hSilent hOther h.kept

theorem logInvariant_written {requests : ι → StatusCallbackRequest} {t : ι → LogStage}
    {stage : LogStage} {log : List CallbackLog} {entry : CallbackLog}
    (h : LogInvariant lower initial requests s t) (hExecuted : outcome.executed = true)
    (hWritten : writtenLog command = some (log ++ [entry]))
    (hRead : readLog proc s.history = some log) (hFits : Fits initial log s)
    (hStage : StageKnows lower initial (requests proc) (afterCall proc command outcome s) proc stage) :
    LogInvariant lower initial requests (afterCall proc command outcome s)
      (Function.update t proc stage) := by
  refine ⟨h.kept.written hExecuted hWritten hRead hFits, fun other => ?_⟩
  by_cases hOther : other = proc
  · subst hOther
    rw [Function.update_self]
    exact hStage
  · rw [Function.update_of_ne hOther]
    exact (h.knows other).written hExecuted hWritten hOther

theorem logInvariant_call {requests : ι → StatusCallbackRequest} {t : ι → LogStage}
    (h : LogInvariant lower initial requests s t)
    (hPermits : (logProtocol lower (requests proc)).permits (t proc) command) :
    LogInvariant lower initial requests (afterCall proc command outcome s)
      (Function.update t proc ((logProtocol lower (requests proc)).next (t proc) command
        ((telephonyServices ι).recorded.perform proc command outcome s).1)) := by
  have hKnows := h.knows proc
  cases hStage : t proc with
  | start =>
    rw [hStage] at hPermits hKnows
    obtain rfl : command = .getWorkflowRunById := hPermits
    refine logInvariant_silent h (fun _ => rfl) ?_
    obtain ⟨row, hRow⟩ := Option.isSome_iff_exists.mp h.kept.present
    cases outcome with
    | fail error applied => trivial
    | reply =>
      have hReply : ((telephonyServices ι).recorded.perform proc .getWorkflowRunById .reply s).1 =
          .ok (s.state.services.keyspace.clock, some row) := by
        rw [← hRow]
        rfl
      rw [hReply]
      have hSame : (afterCall proc .getWorkflowRunById .reply s).state.callbacks =
          s.state.callbacks := rfl
      have hRead : row.telephonyStatusCallbacks = s.state.callbacks := by
        rw [TelephonyStore.callbacks, hRow]
        rfl
      refine ⟨ownEntries_afterCall.trans hKnows, ?_, ?_, fun hOther => absurd ?_ hOther⟩
      · rw [hRead]
        exact readLog_afterCall_self
      · rw [hRead, ← hSame]
        exact (h.kept.silent fun _ => rfl).bounded
      · rw [hRead, hSame]
  | appending log timestamp =>
    rw [hStage] at hPermits hKnows
    cases command with
    | updateWorkflowRun patch =>
      cases outcome with
      | reply =>
        have hReply : ((telephonyServices ι).recorded.perform proc (.updateWorkflowRun patch) .reply
            s).1 = .ok true := by
          rw [← h.kept.present]
          rfl
        rw [hReply]
        refine logInvariant_written h rfl hPermits hKnows.2.1 hKnows.2.2 ?_
        show ownEntries (afterCall proc (.updateWorkflowRun patch) .reply s) proc = _
        rw [ownEntries_afterCall, loggedEntry_of_written rfl hPermits, hKnows.1]
        rfl
      | fail error applied =>
        cases applied with
        | false => exact logInvariant_silent h (fun hExecuted => by cases hExecuted) trivial
        | true => exact logInvariant_written h rfl hPermits hKnows.2.1 hKnows.2.2 trivial
    | _ => cases hPermits
  | absent =>
    rw [hStage] at hKnows
    exact hKnows.elim
  | logged timestamp =>
    rw [hStage] at hPermits hKnows
    refine logInvariant_silent h (fun _ => hPermits) ?_
    show ownEntries (afterCall proc command outcome s) proc = _
    rw [ownEntries_afterCall, loggedEntry_of_silent fun _ => hPermits]
    exact hKnows
  | failed =>
    rw [hStage] at hPermits
    exact logInvariant_silent h (fun _ => hPermits) trivial

theorem logInvariant_environment {requests : ι → StatusCallbackRequest} {t : ι → LogStage}
    {move : TelephonyMove} (h : LogInvariant lower initial requests s t)
    (hMove : (telephonyServices ι).recorded.environment move s = some s') :
    LogInvariant lower initial requests s' t := by
  have hOwn : ∀ proc, ownEntries s' proc = ownEntries s proc := fun proc => by
    rw [ownEntries, own_environment hMove, ownEntries]
  obtain ⟨hRun, hCallbacks⟩ :=
    TelephonyStore.environment_frame h.kept.present (environment_recorded hMove)
  obtain ⟨state, -, rfl⟩ := Option.map_eq_some_iff.mp hMove
  have hReads : AllOnRead (.environment move s.state :: s.history) ↔ AllOnRead s.history := by
    rw [AllOnRead]
    exact and_iff_right trivial
  refine ⟨⟨hRun, ?_, ?_, ?_⟩, fun proc => ?_⟩
  · rw [hCallbacks]
    exact h.kept.bounded
  · rw [hCallbacks, hReads]
    exact h.kept.complete
  · rw [hCallbacks, hReads]
    exact h.kept.short
  · have hKnows := h.knows proc
    cases hStage : t proc with
    | appending log timestamp =>
      rw [hStage] at hKnows
      refine ⟨(hOwn proc).trans hKnows.1, hKnows.2.1, ?_⟩
      rw [Fits, hCallbacks]
      exact hKnows.2.2
    | start =>
      rw [hStage] at hKnows
      exact (hOwn proc).trans hKnows
    | logged timestamp =>
      rw [hStage] at hKnows
      exact (hOwn proc).trans hKnows
    | absent =>
      rw [hStage] at hKnows
      exact hKnows
    | failed => trivial

def callbackHandlers (lower : String → String) (workflowRunId : Nat)
    (requests : ι → StatusCallbackRequest) (s : TelephonyStore) :
    Config ι TelephonyCommand.Reply Error Unit (TelephonyRecord ι) where
  shared := ⟨s, []⟩
  procs proc := processStatusUpdate lower workflowRunId (requests proc)

/-- Each handler that has returned logged its callback once, and the log holds what was there and what
was logged exactly when each write found the log that its handler had read. -/
theorem callbacks_logged_iff {workflowRunId : Nat} {requests : ι → StatusCallbackRequest}
    {s : TelephonyStore} (hRun : s.run.isSome) {events : List (Event ι Error TelephonyMove)}
    {last : Config ι TelephonyCommand.Reply Error Unit (TelephonyRecord ι)}
    (hEnds : (telephonyServices ι).recorded.run (callbackHandlers lower workflowRunId requests s)
      events = some last) :
    (∀ proc, (last.procs proc).result? = some (.ok ()) →
      ∃ timestamp, ownEntries last.shared proc = [callbackLog lower (requests proc) timestamp]) ∧
    ((s.callbacks ++ loggedEntries last.shared.history).Subperm last.shared.state.callbacks ↔
      AllOnRead last.shared.history) := by
  have hStart : LogInvariant lower s.callbacks requests
      (callbackHandlers lower workflowRunId requests s).shared fun _ => .start := by
    refine ⟨⟨hRun, Nat.le_refl _, fun _ => ?_, fun hNot => ?_⟩, fun _ => rfl⟩
    · exact (List.append_nil _).symm
    · exact absurd trivial hNot
  obtain ⟨t, hInvariant, hObeys⟩ := System.ghost_invariant
    (P := fun proc => logProtocol lower (requests proc))
    (fun proc command outcome s t h hPermits _ => logInvariant_call h hPermits)
    (fun move s s' t h _ hMove => logInvariant_environment h hMove)
    (System.follows_free _ _ events) hEnds
    (fun proc => processStatusUpdate_obeys lower workflowRunId (requests proc)) hStart
  refine ⟨fun proc hResult => ?_, fun hKept => ?_, fun hReads => ?_⟩
  · have hKnows := hInvariant.knows proc
    obtain hAbsent | ⟨timestamp, hLogged⟩ := (hObeys proc).result hResult rfl
    · rw [hAbsent] at hKnows
      exact hKnows.elim
    · rw [hLogged] at hKnows
      exact ⟨timestamp, hKnows⟩
  · by_contra hNot
    have hShort := hInvariant.kept.short hNot
    have hLength := hKept.length_le
    rw [List.length_append] at hLength
    exact absurd hLength (Nat.not_le.mpr hShort)
  · rw [hInvariant.kept.complete hReads]
    exact ((List.reverse_perm _).append_left _).symm.subperm

end Invariant

/-! ## Two callbacks -/

def ringing : StatusCallbackRequest := ⟨"CA1", "ringing", none, []⟩

def answered : StatusCallbackRequest := ⟨"CA1", "answered", none, []⟩

def WorkflowRunRow.plain : WorkflowRunRow := ⟨none, none, .initialized, false, [], none, none, none, none⟩

def TelephonyStore.plain : TelephonyStore :=
  ⟨.fresh ⟨1, UnixTime.one_pos⟩ (.plain .running) [] 0, some .plain, [], 0⟩

def twoCallbacks : Config Bool TelephonyCommand.Reply Error Unit (TelephonyRecord Bool) :=
  callbackHandlers id 5 (fun first => if first then ringing else answered) .plain

def resumed (first : Bool) : Event Bool Error TelephonyMove := .resume first .reply

theorem callbacks_logged_in_turn : ∃ last,
    (telephonyServices Bool).recorded.run twoCallbacks
      [resumed true, resumed true, resumed false, resumed false] = some last ∧
    (TelephonyStore.plain.callbacks ++ loggedEntries last.shared.history).Subperm
      last.shared.state.callbacks := by
  have hEnds : ((telephonyServices Bool).recorded.run twoCallbacks
      [resumed true, resumed true, resumed false, resumed false]).any (fun last =>
        decide (AllOnRead last.shared.history)) = true := by
    decide +kernel
  obtain ⟨last, hLast, hReads⟩ := (Option.any_eq_true _ _).mp hEnds
  exact ⟨last, hLast, (callbacks_logged_iff rfl hLast).2.mpr (of_decide_eq_true hReads)⟩

theorem callback_lost : ¬ ∀ (requests : Bool → StatusCallbackRequest) (s : TelephonyStore)
    (events : List (Event Bool Error TelephonyMove))
    (last : Config Bool TelephonyCommand.Reply Error Unit (TelephonyRecord Bool)),
    s.run.isSome → (telephonyServices Bool).recorded.run (callbackHandlers id 5 requests s) events =
      some last → (∀ proc, (last.procs proc).finished = true) →
    (s.callbacks ++ loggedEntries last.shared.history).Subperm last.shared.state.callbacks := by
  intro h
  have hEnds : ((telephonyServices Bool).recorded.run twoCallbacks
      [resumed true, resumed false, resumed true, resumed false]).any (fun last =>
        decide ((∀ proc, (last.procs proc).finished = true) ∧
          last.shared.state.callbacks.length < (loggedEntries last.shared.history).length)) = true := by
    decide +kernel
  obtain ⟨last, hLast, hShort⟩ := (Option.any_eq_true _ _).mp hEnds
  obtain ⟨hFinished, hLength⟩ := of_decide_eq_true hShort
  have hKept := h _ .plain _ last rfl hLast hFinished
  exact absurd hKept.length_le (Nat.not_le.mpr hLength)

end FastVoice.Telephony
