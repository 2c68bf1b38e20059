import FastVoice.Runtime

/-! # What starts and ends the pipeline of a run

One workflow run: its row, the mapping from the run to a concurrency slot, and the pipelines that execute for
it. A media socket is let in by the state of the row, an offer by the mapping, which expires.
-/
namespace FastVoice.Pipelines
open Async

inductive RunState where
  | initialized
  | running
  | completed
  deriving DecidableEq

structure RunRow where
  state : RunState
  isCompleted : Bool
  deriving DecidableEq

structure EntryStore (ι : Type) where
  row : RunRow
  bound : Bool
  executing : List ι

inductive EntryCommand where
  | getWorkflowRun
  | setRunning
  | completeRun
  | bindWorkflowRun
  | getWorkflowSlotMapping
  | deleteWorkflowSlotMapping
  | startPipeline
  | endPipeline
  | other
  deriving DecidableEq

abbrev EntryCommand.Reply : EntryCommand → Type
  | .getWorkflowRun => RunRow
  | .bindWorkflowRun => Bool
  | .getWorkflowSlotMapping => Bool
  | _ => Unit

/-- The mapping expires. -/
inductive EntryMove where
  | expire

namespace EntryStore

variable {ι : Type} [DecidableEq ι]

def reply (s : EntryStore ι) : (command : EntryCommand) → command.Reply
  | .getWorkflowRun => s.row
  | .bindWorkflowRun => !s.bound
  | .getWorkflowSlotMapping => s.bound
  | .setRunning | .completeRun | .deleteWorkflowSlotMapping | .startPipeline | .endPipeline | .other => ()

def after (s : EntryStore ι) (proc : ι) : EntryCommand → EntryStore ι
  | .setRunning => { s with row := { s.row with state := .running } }
  | .completeRun => { s with row := ⟨.completed, true⟩ }
  | .bindWorkflowRun => { s with bound := true }
  | .deleteWorkflowSlotMapping => { s with bound := false }
  | .startPipeline => { s with executing := proc :: s.executing }
  | .endPipeline => { s with executing := s.executing.filter (· ≠ proc) }
  | .getWorkflowRun | .getWorkflowSlotMapping | .other => s

def environment (s : EntryStore ι) : EntryMove → Option (EntryStore ι)
  | .expire => some { s with bound := false }

end EntryStore

/-- Whether a command has taken effect. The end of a pipeline cannot be prevented. -/
def applied (command : EntryCommand) (outcome : Outcome Error) : Bool :=
  outcome.executed || command = .endPipeline

def entryServices (ι : Type) [DecidableEq ι] : System ι EntryCommand.Reply Error (EntryStore ι) EntryMove where
  perform proc command outcome s :=
    (match outcome.raised with
      | none => .ok (s.reply command)
      | some error => .error error,
      if applied command outcome then s.after proc command else s)
  environment move s := s.environment move

abbrev EntryMethod := Program EntryCommand.Reply Error

def other : EntryMethod Unit := Program.call EntryCommand.other

def releaseWorkflowRunSlot : EntryMethod Unit := do
  let mapping ← Program.call EntryCommand.getWorkflowSlotMapping
  if mapping then
    let released ← orElse (do
      other
      return true) false
    if released then Program.call EntryCommand.deleteWorkflowSlotMapping else return ()
  else return ()

def unregisterActiveCall : EntryMethod Unit := orElse releaseWorkflowRunSlot ()

/-- The pipeline, until its worker is done. `on_pipeline_finished` is an event handler: what it raises stays
there, and a pipeline that is torn down may not reach it. -/
def runPipelineWorker (finishes : Bool) : EntryMethod Unit :=
  andFinally (do
    Program.call EntryCommand.startPipeline
    other
    if finishes then
      Program.tryCatch (do
        other
        Program.call EntryCommand.completeRun) fun _ => return ()
    else return ()) (Program.call EntryCommand.endPipeline)

def runPipelineImpl (workflowRun : RunRow) (finishes : Bool) : EntryMethod Unit := do
  if workflowRun.isCompleted then .raise .exception
  else
    other
    runPipelineWorker finishes
    other

/-- `run_pipeline_telephony` and `run_pipeline_smallwebrtc`: the row is read before the transport is made. -/
def runPipeline (finishes : Bool) : EntryMethod Unit :=
  andFinally (do
    other
    let workflowRun ← Program.call EntryCommand.getWorkflowRun
    other
    runPipelineImpl workflowRun finishes) unregisterActiveCall

/-- `_handle_telephony_websocket`, for a run with a provider or without. -/
def handleTelephonyWebsocket (hasProvider finishes : Bool) : EntryMethod Unit :=
  orElse (do
    let workflowRun ← Program.call EntryCommand.getWorkflowRun
    other
    if workflowRun.state ≠ .initialized then other
    else if !hasProvider then other
    else
      other
      Program.call EntryCommand.setRunning
      other
      runPipeline finishes) ()

/-- `pc.initialize`, with the handler that gives the slot of a failed offer back. -/
def initializePeerConnection : EntryMethod Unit :=
  other.tryCatch fun error =>
    if error.isException then do
      releaseWorkflowRunSlot
      .raise error
    else .raise error

/-- `_handle_offer`, for a peer connection that is known or a new one. -/
def handleOffer (hasQuota known finishes : Bool) : EntryMethod Unit := do
  other
  if !hasQuota then other
  else if known then other
  else
    other
    let stored ← Program.call EntryCommand.bindWorkflowRun
    if stored then
      initializePeerConnection
      runPipeline finishes
    else
      other
      other

inductive CallbackKind where
  | inFlight
  | completed
  | notConnected
  deriving DecidableEq

def processStatusUpdate (kind : CallbackKind) : EntryMethod Unit := do
  let workflowRun ← Program.call EntryCommand.getWorkflowRun
  other
  match kind with
  | .inFlight => return ()
  | .completed =>
    releaseWorkflowRunSlot
    other
    if workflowRun.state = .completed then return () else Program.call EntryCommand.completeRun
  | .notConnected =>
    releaseWorkflowRunSlot
    other
    Program.call EntryCommand.completeRun
    other

def markWorkflowRunFailed : EntryMethod Unit :=
  orElse (do
    Program.call EntryCommand.completeRun
    other) ()

inductive Handler where
  | mediaSocket (hasProvider finishes : Bool)
  | offer (hasQuota known finishes : Bool)
  | statusCallback (kind : CallbackKind)
  | markFailed

def Handler.method : Handler → EntryMethod Unit
  | .mediaSocket hasProvider finishes => handleTelephonyWebsocket hasProvider finishes
  | .offer hasQuota known finishes => handleOffer hasQuota known finishes
  | .statusCallback kind => processStatusUpdate kind
  | .markFailed => markWorkflowRunFailed

end FastVoice.Pipelines

/-! # How far the handlers of a run have come

How far each handler has come is a ghost state, read off the record of its awaits. A handler is active from the
moment the guard has let it in until its pipeline has ended or cannot start any more.
-/
namespace FastVoice.Pipelines
open Async

inductive Stage where
  | idle
  | seen
  | admitted
  | loaded
  | executing
  | ended
  deriving DecidableEq

namespace Stage

def active : Stage → Bool
  | .admitted | .loaded | .executing => true
  | .idle | .seen | .ended => false

def next : Stage → (command : EntryCommand) → Except Error command.Reply → Stage
  | .idle, .getWorkflowRun, .ok row => if row.state = .initialized then .seen else .idle
  | .idle, .bindWorkflowRun, .ok stored => if stored then .admitted else .ended
  | .idle, .bindWorkflowRun, .error _ => .ended
  | .seen, .setRunning, .ok _ => .admitted
  | .seen, .setRunning, .error _ => .ended
  | .admitted, .getWorkflowRun, .ok row => if row.isCompleted then .ended else .loaded
  | .admitted, .getWorkflowRun, .error _ => .ended
  | .admitted, .other, .error _ => .ended
  | .loaded, .other, .error _ => .ended
  | .loaded, .startPipeline, _ => .executing
  | .executing, .endPipeline, _ => .ended
  | stage, _, _ => stage

def permits : Stage → EntryCommand → Prop
  | stage, .setRunning => stage = .seen
  | stage, .bindWorkflowRun => stage = .idle
  | stage, .startPipeline => stage = .loaded
  | stage, .endPipeline => stage = .executing
  | _, _ => True

end Stage

def entryProtocol : Protocol EntryCommand.Reply Error Stage where
  permits := Stage.permits
  next := Stage.next

section Obeys

variable {body last : EntryMethod Unit} {stage : Stage}

abbrev Reaches (program : EntryMethod Unit) (T : Stage → Prop) (stage : Stage) : Prop :=
  program.Obeys entryProtocol (fun _ stage => T stage) stage

theorem reaches_call {command : EntryCommand} {α : Type} {post : Except Error α → Stage → Prop}
    {next : command.Reply → EntryMethod α} (hPermits : stage.permits command)
    (hNext : ∀ reply, (next reply).Obeys entryProtocol post (stage.next command (.ok reply)))
    (hRaise : ∀ error, post (.error error) (stage.next command (.error error))) :
    (Program.call command >>= next : EntryMethod α).Obeys entryProtocol post stage :=
  Program.obeys_call_bind hPermits hNext hRaise

theorem reaches_bind {S T : Stage → Prop} {next : EntryMethod Unit} (h : Reaches body S stage)
    (hNext : ∀ stage, S stage → Reaches next T stage) (hRaise : ∀ stage, S stage → T stage) :
    Reaches (body >>= fun _ => next) T stage :=
  Program.Obeys.bind h (fun _ stage hS => hNext stage hS) fun _ stage hS => hRaise stage hS

theorem reaches_orElse {T : Stage → Prop} (h : Reaches body T stage) : Reaches (orElse body ()) T stage := by
  refine Program.Obeys.tryCatch h (fun _ _ hT => hT) fun error stage hT => ?_
  split <;> exact hT

def Quiet : EntryCommand → Prop
  | .completeRun | .getWorkflowSlotMapping | .deleteWorkflowSlotMapping | .other => True
  | _ => False

def Stage.settled : Stage → Prop
  | .admitted | .loaded => False
  | _ => True

theorem quiet_reaches {T : Stage → Prop} (hSettled : stage.settled) (hT : T stage) {program : EntryMethod Unit}
    (h : program.Issues Quiet) : Reaches program T stage := by
  have hStay : program.Obeys entryProtocol (fun _ other => other = stage) stage := by
    refine Program.Issues.obeys h ?_ rfl
    rintro other command rfl hQuiet
    cases command <;> first | exact hQuiet.elim | skip
    all_goals
      refine ⟨trivial, fun result => ?_⟩
      cases other <;> first | exact hSettled.elim | (cases result <;> rfl)
  refine hStay.weaken ?_
  rintro result other rfl
  exact hT

theorem other_issues : other.Issues Quiet := Program.issues_call trivial

theorem releaseWorkflowRunSlot_issues : releaseWorkflowRunSlot.Issues Quiet := by
  refine (Program.issues_call trivial).bind fun mapping => ?_
  split
  · have hReleased : (orElse (do
        other
        return true) false).Issues Quiet := orElse_issues (other_issues.bind fun _ => trivial)
    refine hReleased.bind fun released => ?_
    split
    · exact Program.issues_call trivial
    · trivial
  · trivial

theorem unregisterActiveCall_issues : unregisterActiveCall.Issues Quiet :=
  orElse_issues releaseWorkflowRunSlot_issues

theorem markWorkflowRunFailed_issues : markWorkflowRunFailed.Issues Quiet :=
  orElse_issues ((Program.issues_call trivial).bind fun _ => other_issues)

theorem runPipelineWorker_reaches (finishes : Bool) :
    Reaches (runPipelineWorker finishes) (· = .ended) .loaded := by
  apply andFinally_obeys (S := (· = .executing))
  · refine reaches_call rfl (fun _ => ?_) fun _ => rfl
    refine @quiet_reaches .executing (· = .executing) trivial rfl _ ?_
    refine other_issues.bind fun _ => ?_
    split
    · exact Program.Issues.tryCatch (other_issues.bind fun _ => Program.issues_call trivial) fun _ => trivial
    · trivial
  · rintro _ rfl
    exact Program.obeys_call rfl fun _ => rfl

theorem runPipelineImpl_reaches (row : RunRow) (finishes : Bool) :
    Reaches (runPipelineImpl row finishes) (· = .ended) (if row.isCompleted then .ended else .loaded) := by
  unfold runPipelineImpl
  cases row.isCompleted with
  | true => exact rfl
  | false =>
    refine reaches_call trivial (fun _ => ?_) fun _ => rfl
    refine reaches_bind (runPipelineWorker_reaches finishes) ?_ fun _ h => h
    rintro _ rfl
    exact @quiet_reaches .ended (· = .ended) trivial rfl _ other_issues

theorem runPipeline_reaches (finishes : Bool) : Reaches (runPipeline finishes) (· = .ended) .admitted := by
  apply andFinally_obeys (S := (· = .ended))
  · refine reaches_call trivial (fun _ => ?_) fun _ => rfl
    refine reaches_call trivial (fun row => ?_) fun _ => rfl
    refine reaches_call trivial (fun _ => ?_) fun _ => ?_
    · have hSame : Stage.next (Stage.next .admitted .getWorkflowRun (.ok row)) .other (.ok ()) =
          if row.isCompleted then .ended else .loaded := by
        cases hCompleted : row.isCompleted <;> simp [Stage.next, hCompleted]
      exact hSame ▸ runPipelineImpl_reaches row finishes
    · cases hCompleted : row.isCompleted <;> simp [Stage.next, hCompleted]
  · rintro _ rfl
    exact @quiet_reaches .ended (· = .ended) trivial rfl _ unregisterActiveCall_issues

theorem handleTelephonyWebsocket_reaches (hasProvider finishes : Bool) :
    Reaches (handleTelephonyWebsocket hasProvider finishes) (fun _ => True) .idle := by
  apply reaches_orElse
  refine reaches_call trivial (fun row => ?_) fun _ => trivial
  have hFound : Stage.next .idle .getWorkflowRun (.ok row) =
      if row.state = .initialized then .seen else .idle := rfl
  by_cases hState : row.state = .initialized
  · rw [hFound, if_pos hState, hState]
    refine reaches_call trivial (fun _ => ?_) fun _ => trivial
    cases hasProvider with
    | false => exact @quiet_reaches .seen _ trivial trivial _ other_issues
    | true =>
      refine reaches_call trivial (fun _ => ?_) fun _ => trivial
      refine reaches_call rfl (fun _ => ?_) fun _ => trivial
      refine reaches_call trivial (fun _ => ?_) fun _ => trivial
      exact (runPipeline_reaches finishes).weaken fun _ _ _ => trivial
  · rw [hFound, if_neg hState]
    refine reaches_call trivial (fun _ => ?_) fun _ => trivial
    rw [if_pos hState]
    exact @quiet_reaches .idle _ trivial trivial _ other_issues

theorem initializePeerConnection_obeys : initializePeerConnection.Obeys entryProtocol
    (fun result stage => (∃ value, result = .ok value) → stage = .admitted) .admitted := by
  refine ⟨trivial, fun result => ?_⟩
  cases result with
  | ok value => exact fun _ => rfl
  | error error =>
    have hRaised {stage : Stage} :
        (∃ value, (Except.error error : Except Error Unit) = .ok value) → stage = .admitted := by
      rintro ⟨_, hValue⟩
      cases hValue
    change (if error.isException = true then _ else _ : EntryMethod Unit).Obeys entryProtocol _ .ended
    split
    · refine Program.Obeys.bind (@quiet_reaches .ended (fun _ => True) trivial trivial _
        releaseWorkflowRunSlot_issues) (fun _ _ _ => hRaised) ?_
      rintro other stage - ⟨_, hValue⟩
      cases hValue
    · exact hRaised

theorem handleOffer_reaches (hasQuota known finishes : Bool) :
    Reaches (handleOffer hasQuota known finishes) (fun _ => True) .idle := by
  refine reaches_call trivial (fun _ => ?_) fun _ => trivial
  cases hasQuota with
  | false => exact @quiet_reaches .idle _ trivial trivial _ other_issues
  | true =>
    cases known with
    | true => exact @quiet_reaches .idle _ trivial trivial _ other_issues
    | false =>
      refine reaches_call trivial (fun _ => ?_) fun _ => trivial
      refine reaches_call rfl (fun stored => ?_) fun _ => trivial
      cases stored with
      | false => exact @quiet_reaches .ended _ trivial trivial _ (other_issues.bind fun _ => other_issues)
      | true =>
        refine initializePeerConnection_obeys.bind (fun value stage hStage => ?_) fun _ _ _ => trivial
        rw [hStage ⟨value, rfl⟩]
        exact (runPipeline_reaches finishes).weaken fun _ _ _ => trivial

theorem processStatusUpdate_reaches (kind : CallbackKind) :
    Reaches (processStatusUpdate kind) (fun _ => True) .idle := by
  refine reaches_call trivial (fun row => ?_) fun _ => trivial
  have hSettled : (Stage.next .idle .getWorkflowRun (.ok row)).settled := by
    have hFound : Stage.next .idle .getWorkflowRun (.ok row) =
        if row.state = .initialized then .seen else .idle := rfl
    rw [hFound]
    split <;> trivial
  refine @quiet_reaches _ _ hSettled trivial _ ?_
  refine other_issues.bind fun _ => ?_
  cases kind with
  | inFlight => trivial
  | completed =>
    refine releaseWorkflowRunSlot_issues.bind fun _ => other_issues.bind fun _ => ?_
    split
    · trivial
    · exact Program.issues_call trivial
  | notConnected =>
    exact releaseWorkflowRunSlot_issues.bind fun _ => other_issues.bind fun _ =>
      (Program.issues_call trivial).bind fun _ => other_issues

theorem method_reaches (handler : Handler) : Reaches handler.method (fun _ => True) .idle := by
  cases handler with
  | mediaSocket hasProvider finishes => exact handleTelephonyWebsocket_reaches hasProvider finishes
  | offer hasQuota known finishes => exact handleOffer_reaches hasQuota known finishes
  | statusCallback kind => exact processStatusUpdate_reaches kind
  | markFailed => exact @quiet_reaches .idle _ trivial trivial _ markWorkflowRunFailed_issues

end Obeys

end FastVoice.Pipelines
