import FastVoice.Runtime.Dict
import Mathlib.Data.List.Sort

/-! # The transcript log coordinator

The texts, the speech times and the turns of a call reach the coordinator in any order, one call at a
time because of its lock. A turn's state is stored under the turn's id. Each call comes with what
`_now_iso()` returns during it. The other events of the logs buffer are left out.
-/
namespace FastVoice.Transcripts

inductive Speaker where
  | user
  | assistant
  deriving DecidableEq

def truthy (s : Option String) : Bool := s.any (· ≠ "")

def orElse (first : Option String) (second : String) : String :=
  (first.filter (· ≠ "")).getD second

/-- `min` of two timestamps, which are compared as strings. -/
def earlier (first second : String) : String := if second < first then second else first

def later (first second : String) : String := if first < second then second else first

inductive EventType where
  | userTranscription
  | botText
  deriving DecidableEq

structure Payload where
  text : String
  final : Option Bool
  timestamp : Option String
  endTimestamp : Option String
  deriving DecidableEq

structure Event where
  type : EventType
  payload : Payload
  timestamp : String
  turn : Int
  nodeId : Option String
  nodeName : Option String
  deriving DecidableEq

structure LogsBuffer where
  events : List Event := []
  currentTurn : Option Int := none
  currentNodeId : Option String := none
  currentNodeName : Option String := none

structure TranscriptSide where
  text : Option String := none
  transcriptTimestamp : Option String := none
  eventTimestamp : Option String := none
  speechStartTimestamp : Option String := none
  speechEndTimestamp : Option String := none
  speaking : Bool := false
  emitted : Bool := false
  nodeId : Option String := none
  nodeName : Option String := none

structure TurnTranscriptState where
  ended : Bool := false
  interrupted : Bool := false
  user : TranscriptSide := {}
  assistant : TranscriptSide := {}

namespace TurnTranscriptState

def side (state : TurnTranscriptState) : Speaker → TranscriptSide
  | .user => state.user
  | .assistant => state.assistant

def setSide (state : TurnTranscriptState) (side : TranscriptSide) : Speaker → TurnTranscriptState
  | .user => { state with user := side }
  | .assistant => { state with assistant := side }

@[simp] theorem side_setSide (state : TurnTranscriptState) (side : TranscriptSide)
    (speaker : Speaker) : (state.setSide side speaker).side speaker = side := by
  cases speaker <;> rfl

theorem side_setSide_ne (state : TurnTranscriptState) (side : TranscriptSide)
    {speaker other : Speaker} (h : other ≠ speaker) :
    (state.setSide side speaker).side other = state.side other := by
  cases speaker <;> cases other <;> simp_all [setSide, TurnTranscriptState.side]

@[simp] theorem ended_setSide (state : TurnTranscriptState) (side : TranscriptSide)
    (speaker : Speaker) : (state.setSide side speaker).ended = state.ended := by
  cases speaker <;> rfl

end TurnTranscriptState

/-- The arguments of a call that records a text. -/
structure Transcript where
  text : String
  timestamp : Option String
  endTimestamp : Option String
  eventTimestamp : Option String

structure Coordinator where
  logsBuffer : LogsBuffer := {}
  states : Dict Int TurnTranscriptState := ∅
  activeTurnId : Option Int := none

namespace Coordinator

variable (c : Coordinator)

def state (turnId : Int) : TurnTranscriptState := (c.states.lookup turnId).getD {}

def modify (turnId : Int) (f : TurnTranscriptState → TurnTranscriptState) : Coordinator :=
  { c with states := c.states.insert turnId (f (c.state turnId)) }

@[simp] theorem state_modify (turnId : Int) (f : TurnTranscriptState → TurnTranscriptState) :
    (c.modify turnId f).state turnId = f (c.state turnId) := by
  simp [state, modify]

theorem state_modify_ne {turnId other : Int} (h : other ≠ turnId)
    (f : TurnTranscriptState → TurnTranscriptState) : (c.modify turnId f).state other = c.state other := by
  simp [state, modify, AList.lookup_insert_ne h]

def buildUserTranscriptionEvent (text : String) (timestamp endTimestamp : Option String) :
    EventType × Payload :=
  (.userTranscription, ⟨text, some true, timestamp, endTimestamp⟩)

def buildBotTextEvent (text : String) (timestamp endTimestamp : Option String) :
    EventType × Payload :=
  (.botText, ⟨text, none, timestamp, endTimestamp⟩)

def stampRealtimeFeedbackEvent (event : EventType × Payload) (now : String) (turnId : Int)
    (side : TranscriptSide) : Event where
  type := event.1
  payload := event.2
  timestamp := orElse side.eventTimestamp now
  turn := turnId
  nodeId := side.nodeId
  nodeName := side.nodeName

def append (now : String) (turnId : Int) (speaker : Speaker) (event : EventType × Payload) :
    Coordinator :=
  let side := (c.state turnId).side speaker
  let stamped := stampRealtimeFeedbackEvent event now turnId side
  { c.modify turnId (·.setSide { side with emitted := true } speaker) with
    logsBuffer := { c.logsBuffer with events := c.logsBuffer.events ++ [stamped] } }

/-- `_emit_user` and `_emit_assistant`, which differ in the event they build. -/
def emitSide (speaker : Speaker)
    (build : String → Option String → Option String → EventType × Payload) (now : String)
    (turnId : Int) : Coordinator :=
  let side := (c.state turnId).side speaker
  if side.emitted || !truthy side.text then
    c
  else
    let start := if truthy side.speechStartTimestamp then side.speechStartTimestamp
      else side.transcriptTimestamp
    c.append now turnId speaker (build (side.text.getD "") start side.speechEndTimestamp)

def emitUser (now : String) (turnId : Int) : Coordinator :=
  c.emitSide .user buildUserTranscriptionEvent now turnId

def emitAssistant (now : String) (turnId : Int) : Coordinator :=
  c.emitSide .assistant buildBotTextEvent now turnId

def emitReadySides (now : String) (turnId : Int) : Coordinator :=
  if (c.state turnId).ended then
    let c := c.emitUser now turnId
    if (c.state turnId).assistant.speaking then c else c.emitAssistant now turnId
  else
    c

def recordTurnStarted (turnId : Int) : Coordinator :=
  let c := c.modify turnId id
  if c.activeTurnId.all (· ≤ turnId) then
    { c with activeTurnId := some turnId
             logsBuffer := { c.logsBuffer with currentTurn := some turnId } }
  else
    c

def recordTurnEnded (now : String) (turnId : Int) (interrupted : Bool) : Coordinator :=
  let c := c.modify turnId ({ · with ended := true, interrupted })
  let c := if c.activeTurnId = some turnId then { c with activeTurnId := none } else c
  c.emitReadySides now turnId

def recordUserStartedSpeaking (now : String) (turnId : Int) (timestamp : Option String) :
    Coordinator :=
  c.modify turnId fun state =>
    let candidateStart := orElse timestamp now
    { state with user := { state.user with
      speechStartTimestamp := some (match state.user.speechStartTimestamp with
        | some previousStart => earlier previousStart candidateStart
        | none => candidateStart)
      speaking := true } }

def recordUserStoppedSpeaking (now : String) (turnId : Int) (timestamp : Option String) :
    Coordinator :=
  c.modify turnId fun state =>
    let candidateEnd := orElse timestamp now
    { state with user := { state.user with
      speechEndTimestamp := some (match state.user.speechEndTimestamp with
        | some previousEnd => later previousEnd candidateEnd
        | none => candidateEnd)
      speaking := false } }

def recordBotStartedSpeaking (now : String) (turnId : Int) (timestamp : Option String) :
    Coordinator :=
  c.modify turnId fun state =>
    { state with assistant := { state.assistant with
      speechStartTimestamp := some (state.assistant.speechStartTimestamp.getD (orElse timestamp now))
      speaking := true } }

def recordBotStoppedSpeaking (now : String) (turnId : Int) (timestamp : Option String) :
    Coordinator :=
  let c := c.modify turnId fun state =>
    { state with assistant := { state.assistant with
      speechEndTimestamp := some (orElse timestamp now)
      speaking := false } }
  c.emitReadySides now turnId

def turnsWhere (p : TurnTranscriptState → Bool) : List Int :=
  (c.states.entries.filter fun entry => p entry.2).map (·.1)

def latestTurn : Int := c.states.keys.max?.getD 1

def selectUserTurn : Int :=
  let candidates := c.turnsWhere fun state =>
    truthy state.user.speechStartTimestamp && state.user.text.isNone
  match c.activeTurnId.filter fun active => (c.state active).user.text.isNone with
  | some active => active
  | none => candidates.min?.getD c.latestTurn

def selectAssistantTurn : Int :=
  let candidate := fun (state : TurnTranscriptState) =>
    truthy state.assistant.speechStartTimestamp && state.assistant.text.isNone
  let interrupted := c.turnsWhere fun state => candidate state && state.ended && state.interrupted
  match interrupted.min? with
  | some turnId => turnId
  | none =>
    match c.activeTurnId.filter fun active => (c.state active).assistant.text.isNone with
    | some active => active
    | none => (c.turnsWhere candidate).min?.getD c.latestTurn

def selectTurn : Speaker → Int
  | .user => c.selectUserTurn
  | .assistant => c.selectAssistantTurn

def hear (now : String) (transcript : Transcript) (side : TranscriptSide) : TranscriptSide :=
  let side := match side.text with
    | none => { side with
        text := some transcript.text
        transcriptTimestamp := transcript.timestamp
        nodeId := c.logsBuffer.currentNodeId
        nodeName := c.logsBuffer.currentNodeName }
    | some text => { side with text := some (text ++ "\n" ++ transcript.text) }
  { side with
    eventTimestamp := some (orElse transcript.eventTimestamp now)
    speechEndTimestamp :=
      if truthy transcript.endTimestamp && !truthy side.speechEndTimestamp then
        transcript.endTimestamp
      else
        side.speechEndTimestamp }

/-- `record_user_transcript` and `record_assistant_transcript`, which differ in the turn they select. -/
def recordTranscript (speaker : Speaker) (turnId : Int) (now : String) (transcript : Transcript) :
    Coordinator :=
  let c := c.modify turnId fun state =>
    state.setSide (c.hear now transcript (state.side speaker)) speaker
  c.emitReadySides now turnId

def recordUserTranscript (now : String) (transcript : Transcript) : Coordinator :=
  c.recordTranscript .user c.selectUserTurn now transcript

def recordAssistantTranscript (now : String) (transcript : Transcript) : Coordinator :=
  c.recordTranscript .assistant c.selectAssistantTurn now transcript

def flushTurn (now : String) (turnId : Int) : Coordinator :=
  let c := c.modify turnId fun state =>
    { state with
      ended := true
      user := { state.user with speaking := false }
      assistant := { state.assistant with speaking := false } }
  c.emitReadySides now turnId

def flush (now : String) : Coordinator :=
  (c.states.keys.insertionSort (· ≤ ·)).foldl (fun c turnId => c.flushTurn now turnId) c

end Coordinator

inductive Call where
  | turnStarted (turnId : Int)
  | turnEnded (turnId : Int) (interrupted : Bool)
  | userStartedSpeaking (turnId : Int) (timestamp : Option String)
  | userStoppedSpeaking (turnId : Int) (timestamp : Option String)
  | botStartedSpeaking (turnId : Int) (timestamp : Option String)
  | botStoppedSpeaking (turnId : Int) (timestamp : Option String)
  | userTranscript (transcript : Transcript)
  | assistantTranscript (transcript : Transcript)
  | flush
  /-- `InMemoryLogsBuffer.set_current_node`, by the engine. -/
  | setCurrentNode (nodeId nodeName : String)

namespace Coordinator

def step (c : Coordinator) (now : String) : Call → Coordinator
  | .turnStarted turnId => c.recordTurnStarted turnId
  | .turnEnded turnId interrupted => c.recordTurnEnded now turnId interrupted
  | .userStartedSpeaking turnId timestamp => c.recordUserStartedSpeaking now turnId timestamp
  | .userStoppedSpeaking turnId timestamp => c.recordUserStoppedSpeaking now turnId timestamp
  | .botStartedSpeaking turnId timestamp => c.recordBotStartedSpeaking now turnId timestamp
  | .botStoppedSpeaking turnId timestamp => c.recordBotStoppedSpeaking now turnId timestamp
  | .userTranscript transcript => c.recordUserTranscript now transcript
  | .assistantTranscript transcript => c.recordAssistantTranscript now transcript
  | .flush => c.flush now
  | .setCurrentNode nodeId nodeName =>
    { c with logsBuffer := { c.logsBuffer with
      currentNodeId := some nodeId, currentNodeName := some nodeName } }

def run (c : Coordinator) (calls : List (String × Call)) : Coordinator :=
  calls.foldl (fun c entry => c.step entry.1 entry.2) c

end Coordinator

end FastVoice.Transcripts
