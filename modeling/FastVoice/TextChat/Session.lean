import FastVoice.Async.Protocol
import FastVoice.Runtime.Dict

/-! # Text-chat sessions

One session, its workflow run, and the requests on them. A request reads the session without a lock and
writes the whole document back later; the revision is looked at only if one is expected. Turns have the
identifiers that they draw. A run of the assistant is one step, whose result comes from outside. Sessions
are stored with all their keys, so that normalizing them changes nothing; timestamps, the simulator and
the initial context are left out.
-/
namespace FastVoice.TextChat
open Async

inductive TurnStatus where
  | pending
  | completed
  | failed
  deriving DecidableEq

structure Checkpoint (J : Type) where
  anchorTurnId : Option Nat
  currentNodeId : Option String
  messages : List J
  gatheredContext : Dict String J
  toolState : Dict String J
  deriving DecidableEq

inductive TurnEvent (J : Type) where
  | recorded (event : J)
  | executionError (message : String)
  deriving DecidableEq

structure Turn (J : Type) where
  id : Nat
  status : TurnStatus
  userMessage : Option String
  assistantMessage : Option String
  events : List (TurnEvent J)
  usage : Option J
  checkpointAfterTurn : Option (Checkpoint J)
  deriving DecidableEq

structure DiscardedFuture (J : Type) where
  rewoundFromTurnId : Nat
  turns : List (Turn J)

inductive SessionStatus where
  | idle
  | pendingAssistantTurn
  | rewound
  | completed
  | error
  deriving DecidableEq

structure SessionData (J : Type) where
  status : SessionStatus
  cursorTurnId : Option Nat
  turns : List (Turn J)
  discardedFuture : List (DiscardedFuture J)

structure TextSession (J : Type) where
  revision : Int
  sessionData : SessionData J
  checkpoint : Checkpoint J

inductive WorkflowRunState where
  | initialized
  | running
  | completed
  deriving DecidableEq

structure WorkflowRun (J : Type) where
  isCompleted : Bool
  state : WorkflowRunState
  usageInfo : Dict String J
  gatheredContext : Dict String J
  logs : Dict String J

/-- What `get_workflow_run_text_session` returns: the session with its run. -/
structure LoadedSession (J : Type) where
  session : TextSession J
  run : WorkflowRun J

structure TextChatTurnExecutionResult (J : Type) where
  assistantText : Option String
  events : List J
  usage : J
  checkpoint : Checkpoint J
  gatheredContext : Dict String J
  isCompleted : Bool

def TextChatTurnExecutionResult.state {J : Type} (execution : TextChatTurnExecutionResult J) :
    WorkflowRunState :=
  if execution.isCompleted then .completed else .running

/-- What the service takes from elsewhere: the projection into run logs, the sums of usage figures,
and JSON strings and tag lists. -/
structure ChatHelpers (J : Type) where
  buildRealtimeFeedbackEvents : SessionData J → J
  mergeUsageInfo : Dict String J → J → Dict String J
  text : String → J
  withTag : Option J → String → J

section Sessions

variable {J : Type}

def defaultTextChatSessionData : SessionData J := ⟨.idle, none, [], []⟩

def defaultTextChatCheckpoint : Checkpoint J := ⟨none, none, [], ∅, ∅⟩

def buildPendingTextChatTurn (id : Nat) (userText : Option String) : Turn J where
  id := id
  status := .pending
  userMessage := userText
  assistantMessage := none
  events := []
  usage := none
  checkpointAfterTurn := none

def latestCompletedTextChatTurnId (turns : List (Turn J)) : Option Nat :=
  (turns.reverse.find? fun turn => turn.status = .completed).map Turn.id

def validateTextChatTurnCursor (sessionData : SessionData J) (cursorTurnId : Option Nat) : Bool :=
  cursorTurnId.all fun id => sessionData.turns.any fun turn => turn.id = id

def splitAtTurn (id : Nat) : List (Turn J) → Option (List (Turn J) × List (Turn J))
  | [] => none
  | turn :: turns =>
    if turn.id = id then some ([turn], turns)
    else (splitAtTurn id turns).map fun parts => (turn :: parts.1, parts.2)

/-- `none` for a cursor that is not among the turns. -/
def truncateTextChatFutureTurns (sessionData : SessionData J) :
    Option (List (Turn J) × List (DiscardedFuture J)) :=
  match sessionData.cursorTurnId with
  | none => some (sessionData.turns, sessionData.discardedFuture)
  | some cursor => (splitAtTurn cursor sessionData.turns).map fun (activeTurns, futureTurns) =>
    (activeTurns, if futureTurns.isEmpty then sessionData.discardedFuture
      else sessionData.discardedFuture ++ [⟨cursor, futureTurns⟩])

def lastPending (turns : List (Turn J)) : Bool :=
  turns.getLast?.any fun turn => turn.status = .pending

/-- The checkpoint of the last completed turn before the pending one; without one, the session's. -/
def resolveCheckpointForPendingTurn (sessionData : SessionData J) (checkpoint : Checkpoint J) :
    Checkpoint J :=
  if lastPending sessionData.turns then
    ((sessionData.turns.dropLast.reverse.find? fun turn => turn.status = .completed).bind
      Turn.checkpointAfterTurn).getD checkpoint
  else checkpoint

def SessionData.mapLast (sessionData : SessionData J) (f : Turn J → Turn J)
    (status : SessionStatus) : SessionData J :=
  { sessionData with
    turns := sessionData.turns.dropLast ++ (sessionData.turns.getLast?.map f).toList
    status := status }

def Turn.complete (execution : TextChatTurnExecutionResult J) (turn : Turn J) : Turn J :=
  { turn with
    status := .completed
    assistantMessage := execution.assistantText.filter fun text => text ≠ ""
    events := execution.events.map TurnEvent.recorded
    usage := some execution.usage
    checkpointAfterTurn := some execution.checkpoint }

def Turn.fail (message : String) (turn : Turn J) : Turn J :=
  { turn with status := .failed, events := turn.events ++ [.executionError message] }

theorem Turn.complete_id (execution : TextChatTurnExecutionResult J) (turn : Turn J) :
    (turn.complete execution).id = turn.id := rfl

theorem Turn.fail_id (message : String) (turn : Turn J) : (turn.fail message).id = turn.id := rfl

end Sessions

inductive ChatError where
  | cancelledError
  | revisionConflict (expectedRevision : Option Int) (actualRevision : Int)
  | turnNotFound
  | pendingTurnLost
  | executionError (message : String)
  | httpException (statusCode : Nat) (detail : String)
  /-- Any other subclass of `Exception`, with its text. -/
  | exception (message : String)
  deriving DecidableEq

inductive ChatCommand (J : Type) where
  | getWorkflowRunTextSession
  | authorizeWorkflowRunStart
  | newTurnId
  | durationSeconds
  | updateWorkflowRunTextSession (sessionData : SessionData J) (checkpoint : Option (Checkpoint J))
      (expectedRevision : Option Int)
  | completeWorkflowRunTextSession (sessionData : SessionData J) (checkpoint : Option (Checkpoint J))
      (expectedRevision : Option Int) (usageInfo gatheredContext logs : Dict String J)
      (state : WorkflowRunState)
  | updateWorkflowRun (usageInfo gatheredContext logs : Dict String J)
      (state : Option WorkflowRunState) (isCompleted : Bool)
  | runPendingTurn (turn : Turn J) (checkpoint : Checkpoint J)
  | uploadTextChatTranscript
  | enqueueTextChatCompletion

inductive SaveResult where
  | saved
  | conflict (actualRevision : Int)
  deriving DecidableEq

abbrev ChatCommand.Reply {J : Type} : ChatCommand J → Type
  | .getWorkflowRunTextSession => LoadedSession J
  | .authorizeWorkflowRunStart => Option String
  | .newTurnId => Nat
  | .durationSeconds => J
  | .updateWorkflowRunTextSession _ _ _ => SaveResult
  | .completeWorkflowRunTextSession _ _ _ _ _ _ _ => SaveResult
  | .updateWorkflowRun _ _ _ _ _ => Unit
  | .runPendingTurn _ _ => TextChatTurnExecutionResult J
  | .uploadTextChatTranscript => Unit
  | .enqueueTextChatCompletion => Unit

structure Outside (J : Type) where
  execution : TextChatTurnExecutionResult J
  durationSeconds : J
  quotaError : Option String

structure ChatStore (J : Type) where
  session : TextSession J
  run : WorkflowRun J
  lastTurnId : Nat
  outside : Outside J

namespace ChatStore

variable {J : Type}

def Expected (s : ChatStore J) (expectedRevision : Option Int) : Bool :=
  expectedRevision.all fun revision => s.session.revision = revision

def saveSession (s : ChatStore J) (sessionData : SessionData J) (checkpoint : Option (Checkpoint J)) :
    ChatStore J :=
  { s with session :=
    { revision := s.session.revision + 1
      sessionData := sessionData
      checkpoint := checkpoint.getD s.session.checkpoint } }

def execute : (command : ChatCommand J) → ChatStore J → command.Reply × ChatStore J
  | .getWorkflowRunTextSession, s => (⟨s.session, s.run⟩, s)
  | .authorizeWorkflowRunStart, s => (s.outside.quotaError, s)
  | .newTurnId, s => (s.lastTurnId + 1, { s with lastTurnId := s.lastTurnId + 1 })
  | .durationSeconds, s => (s.outside.durationSeconds, s)
  | .updateWorkflowRunTextSession sessionData checkpoint expectedRevision, s =>
    if s.Expected expectedRevision then (.saved, s.saveSession sessionData checkpoint)
    else (.conflict s.session.revision, s)
  | .completeWorkflowRunTextSession sessionData checkpoint expectedRevision usageInfo gatheredContext
      logs state, s =>
    if s.Expected expectedRevision then
      (.saved, { s.saveSession sessionData checkpoint with run :=
        { isCompleted := true
          state := state
          usageInfo := usageInfo
          gatheredContext := gatheredContext ∪ s.run.gatheredContext
          logs := logs ∪ s.run.logs } })
    else (.conflict s.session.revision, s)
  | .updateWorkflowRun usageInfo gatheredContext logs state isCompleted, s =>
    ((), { s with run :=
      { isCompleted := isCompleted || s.run.isCompleted
        state := state.getD s.run.state
        usageInfo := if usageInfo.entries.isEmpty then s.run.usageInfo else usageInfo
        gatheredContext := gatheredContext ∪ s.run.gatheredContext
        logs := logs ∪ s.run.logs } })
  | .runPendingTurn _ _, s => (s.outside.execution, s)
  | .uploadTextChatTranscript, s => ((), s)
  | .enqueueTextChatCompletion, s => ((), s)

end ChatStore

def textChat (ι J : Type) :
    System ι (ChatCommand.Reply (J := J)) ChatError (ChatStore J) (Outside J) :=
  .ofServer ChatStore.execute fun outside s => some { s with outside := outside }

section Service

variable {J : Type}

abbrev ChatMethod (J : Type) := Program (ChatCommand.Reply (J := J)) ChatError

def loadSession : ChatMethod J (LoadedSession J) := Program.call ChatCommand.getWorkflowRunTextSession

/-- A conflict of the client is raised again as one of the service. -/
def orConflict (expectedRevision : Option Int) : SaveResult → ChatMethod J Unit
  | .saved => .ret ()
  | .conflict actualRevision => .raise (.revisionConflict expectedRevision actualRevision)

def initializeTextChatSession (loaded : LoadedSession J) : ChatMethod J (LoadedSession J) := do
  let id ← Program.call ChatCommand.newTurnId
  let turns := [buildPendingTextChatTurn id none]
  let expectedRevision := some loaded.session.revision
  let result ← Program.call (ChatCommand.updateWorkflowRunTextSession
    { loaded.session.sessionData with turns := turns, status := .pendingAssistantTurn }
    (some { loaded.session.checkpoint with anchorTurnId := latestCompletedTextChatTurnId turns })
    expectedRevision)
  orConflict expectedRevision result
  loadSession

def appendedSessionData (activeTurns : List (Turn J)) (discardedFuture : List (DiscardedFuture J))
    (turn : Turn J) : SessionData J where
  status := .pendingAssistantTurn
  cursorTurnId := none
  turns := activeTurns ++ [turn]
  discardedFuture := discardedFuture

def appendTextChatUserMessage (loaded : LoadedSession J) (userText : String)
    (expectedRevision : Option Int) : ChatMethod J (LoadedSession J) :=
  match truncateTextChatFutureTurns loaded.session.sessionData with
  | none => .raise .turnNotFound
  | some (activeTurns, discardedFuture) => do
    let id ← Program.call ChatCommand.newTurnId
    let sessionData := appendedSessionData activeTurns discardedFuture
      (buildPendingTextChatTurn id (some userText))
    let result ← Program.call (ChatCommand.updateWorkflowRunTextSession sessionData
      (some { loaded.session.checkpoint with
        anchorTurnId := latestCompletedTextChatTurnId sessionData.turns })
      expectedRevision)
    orConflict expectedRevision result
    loadSession

def SessionData.rewindTo (sessionData : SessionData J) (cursorTurnId : Option Nat) : SessionData J :=
  { sessionData with
    cursorTurnId := cursorTurnId
    status := if cursorTurnId.isSome then .rewound else .idle }

def feedbackLogs (helpers : ChatHelpers J) (sessionData : SessionData J) : Dict String J :=
  Dict.ofPairs [("realtime_feedback_events", helpers.buildRealtimeFeedbackEvents sessionData)]

def rewindTextChatSessionState (helpers : ChatHelpers J) (loaded : LoadedSession J)
    (cursorTurnId : Option Nat) (expectedRevision : Option Int) :
    ChatMethod J (LoadedSession J) := do
  let sessionData := loaded.session.sessionData
  if validateTextChatTurnCursor sessionData cursorTurnId then
    let result ← Program.call (ChatCommand.updateWorkflowRunTextSession (sessionData.rewindTo cursorTurnId) none
      expectedRevision)
    orConflict expectedRevision result
    Program.call (ChatCommand.updateWorkflowRun ∅ ∅ (feedbackLogs helpers (sessionData.rewindTo cursorTurnId))
      none false)
    loadSession
  else .raise .turnNotFound

def withDuration (usageInfo : Dict String J) (durationSeconds : J) : Dict String J :=
  usageInfo.insert "call_duration_seconds" durationSeconds

def completionContext (helpers : ChatHelpers J) (run : WorkflowRun J) (disposition : String) :
    Dict String J :=
  Dict.ofPairs
    [("call_disposition", helpers.text disposition),
      ("mapped_call_disposition", helpers.text disposition),
      ("call_tags", helpers.withTag (run.gatheredContext.lookup "call_tags") disposition)]

def afterCompletion : ChatMethod J (LoadedSession J) := do
  Program.call ChatCommand.uploadTextChatTranscript
  Program.call ChatCommand.enqueueTextChatCompletion
  loadSession

def completeTextChatSession (helpers : ChatHelpers J) (loaded : LoadedSession J)
    (expectedRevision : Option Int) (completionReason : String) : ChatMethod J (LoadedSession J) := do
  if loaded.run.isCompleted then
    Program.call ChatCommand.enqueueTextChatCompletion
    loadSession
  else
    let sessionData := { loaded.session.sessionData with status := .completed }
    let durationSeconds ← Program.call ChatCommand.durationSeconds
    let result ← Program.call (ChatCommand.completeWorkflowRunTextSession sessionData none expectedRevision
      (withDuration loaded.run.usageInfo durationSeconds)
      (completionContext helpers loaded.run completionReason) (feedbackLogs helpers sessionData)
      .completed)
    orConflict expectedRevision result
    afterCompletion

def executeTextChatPendingTurn (session : TextSession J) :
    ChatMethod J (TextChatTurnExecutionResult J) :=
  match session.sessionData.turns.getLast? with
  | some turn =>
    if turn.status = .pending then
      Program.call (ChatCommand.runPendingTurn turn
        (resolveCheckpointForPendingTurn session.sessionData session.checkpoint))
    else .raise (.exception "Text chat session has no pending turn to execute")
  | none => .raise (.exception "Text chat session has no pending turn to execute")

def ChatError.text : ChatError → String
  | .exception message => message
  | .executionError message => message
  | .httpException _ detail => detail
  | .revisionConflict _ _ => "Text chat session revision conflict"
  | .turnNotFound => "Turn not found in text chat session"
  | .pendingTurnLost => "Text chat session lost its pending turn before completion"
  | .cancelledError => ""

/-- A conflict leaves the turn as it is. -/
def markPendingTurnFailed (session : TextSession J) (errorMessage : String) : ChatMethod J Unit :=
  if lastPending session.sessionData.turns then do
    let _ ← Program.call (ChatCommand.updateWorkflowRunTextSession
      (session.sessionData.mapLast (Turn.fail errorMessage) .error) none (some session.revision))
  else .ret ()

/-- A cancellation is not caught. -/
def runFailed (session : TextSession J) : ChatError → ChatMethod J (TextChatTurnExecutionResult J)
  | .cancelledError => .raise .cancelledError
  | error => do
    markPendingTurnFailed session error.text
    .raise (.executionError s!"Failed to execute text chat assistant turn: {error.text}")

def executePendingTextChatTurn (helpers : ChatHelpers J) (loaded : LoadedSession J) :
    ChatMethod J (LoadedSession J) := do
  let session := loaded.session
  let execution ← (executeTextChatPendingTurn session).tryCatch (runFailed session)
  if lastPending session.sessionData.turns then
    let sessionData := session.sessionData.mapLast (Turn.complete execution)
      (if execution.isCompleted then .completed else .idle)
    let durationSeconds ← Program.call ChatCommand.durationSeconds
    let usageInfo :=
      withDuration (helpers.mergeUsageInfo loaded.run.usageInfo execution.usage) durationSeconds
    let logs := feedbackLogs helpers sessionData
    let expectedRevision := some session.revision
    if execution.isCompleted then
      let result ← Program.call (ChatCommand.completeWorkflowRunTextSession sessionData
        (some execution.checkpoint) expectedRevision usageInfo execution.gatheredContext logs
        execution.state)
      orConflict expectedRevision result
      afterCompletion
    else
      let result ← Program.call (ChatCommand.updateWorkflowRunTextSession sessionData (some execution.checkpoint)
        expectedRevision)
      orConflict expectedRevision result
      Program.call (ChatCommand.updateWorkflowRun usageInfo execution.gatheredContext logs
        (some execution.state) false)
      loadSession
  else .raise .pendingTurnLost

end Service

section Routes

variable {J : Type}

def LoadedSession.hasEnded (loaded : LoadedSession J) : Bool :=
  loaded.run.isCompleted || loaded.session.sessionData.status = .completed

def appendTextChatMessage (helpers : ChatHelpers J) (text : String) (expectedRevision : Option Int) :
    ChatMethod J (LoadedSession J) := do
  let loaded ← loadSession
  if loaded.hasEnded then .raise (.httpException 400 "Text chat session has ended")
  else
    let quotaError ← Program.call ChatCommand.authorizeWorkflowRunStart
    match quotaError with
    | some errorMessage => .raise (.httpException 402 errorMessage)
    | none =>
      let appended ← appendTextChatUserMessage loaded text expectedRevision
      executePendingTextChatTurn helpers appended

def rewindTextChatSession (helpers : ChatHelpers J) (cursorTurnId : Option Nat)
    (expectedRevision : Option Int) : ChatMethod J (LoadedSession J) := do
  let loaded ← loadSession
  if loaded.hasEnded then .raise (.httpException 400 "Text chat session has ended")
  else rewindTextChatSessionState helpers loaded cursorTurnId expectedRevision

def endTextChatSession (helpers : ChatHelpers J) (expectedRevision : Option Int)
    (completionReason : String) : ChatMethod J (LoadedSession J) := do
  let loaded ← loadSession
  completeTextChatSession helpers loaded expectedRevision completionReason

def executeTextChatTurn (helpers : ChatHelpers J) : ChatMethod J (LoadedSession J) := do
  let loaded ← loadSession
  executePendingTextChatTurn helpers loaded

inductive ChatRequest where
  | message (text : String) (expectedRevision : Option Int)
  | rewind (cursorTurnId : Option Nat) (expectedRevision : Option Int)
  | close (expectedRevision : Option Int) (completionReason : String)
  | execute

def ChatRequest.method (helpers : ChatHelpers J) : ChatRequest → ChatMethod J (LoadedSession J)
  | .message text expectedRevision => appendTextChatMessage helpers text expectedRevision
  | .rewind cursorTurnId expectedRevision =>
    rewindTextChatSession helpers cursorTurnId expectedRevision
  | .close expectedRevision completionReason =>
    endTextChatSession helpers expectedRevision completionReason
  | .execute => executeTextChatTurn helpers

end Routes

def ChatStore.created {J : Type} (outside : Outside J) : ChatStore J :=
  let s : ChatStore J :=
    { session := ⟨0, defaultTextChatSessionData, defaultTextChatCheckpoint⟩
      run := ⟨false, .initialized, ∅, ∅, ∅⟩
      lastTurnId := 0
      outside := outside }
  ((initializeTextChatSession ⟨s.session, s.run⟩).eval ChatStore.execute s).2

end FastVoice.TextChat
