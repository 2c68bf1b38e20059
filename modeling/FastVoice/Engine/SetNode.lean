import FastVoice.Engine.Templates
import FastVoice.Engine.Tools

/-! # Entering a node

What `set_node` does to the engine and to the context of the model: the node becomes the current one, its
functions are registered, its prompt is composed, and its functions are offered if it has any.
-/
namespace FastVoice.Engine
open Python Workflows

inductive EngineError where
  | keyError (nodeId : String)
  | render (error : RenderError)
  | typeError
  deriving DecidableEq

/-- What does not change during a call. -/
structure PipecatEngine where
  host : Host
  definition : WorkflowDefinition
  callContextVars : Json
  hasRecordings : Bool

structure EngineState where
  currentNode : Option DefinitionNode := none
  nodesVisited : List String := []
  registered : List (String × Handler) := []
  tools : List FunctionSchema := []
  systemInstruction : Option String := none

namespace PipecatEngine

variable (engine : PipecatEngine)

def formatPrompt : Option String → Except EngineError (Option String)
  | none => .ok none
  | some prompt =>
    ((renderTemplate engine.host prompt engine.callContextVars).mapError .render).map some

def globalNode : Option DefinitionNode :=
  (engine.definition.nodes.find? (·.type = .globalNode)).bind fun node =>
    nodeById engine.definition.nodes node.id

def recordingResponseModeInstructions : String :=
  "".intercalate [
    "RESPONSE MODE INSTRUCTIONS - MANDATORY FORMAT:\n",
    "Every response you generate MUST begin with excatcly one response mode indicator.\n",
    "You have two modes for responding:\n",
    "\n",
    "1. DYNAMIC SPEECH (▸): Generate text that will be converted to speech by TTS.\n",
    "   Format: ▸ followed by a space and your full spoken response. Nothing else.\n",
    "   Example: ▸ Hello! How can I help you today?\n",
    "\n",
    "2. PRE-RECORDED AUDIO (●): Play a pre-recorded audio message.\n",
    "   Format: ● followed by a space followed by recording_id followed by provided ",
    "transcript. Nothing else.\n",
    "   Example: ● rec_greeting_01 [ Provided Transcript ]\n",
    "\n",
    "RULES:\n",
    "- Your response MUST start with either ▸ or ● as the very first character.\n",
    "- For ▸ (dynamic speech): Follow with a space and your response to be generated using ",
    "TTS engine. Dont mix with ●\n",
    "- For ● (pre-recorded audio): Follow with a space and recording_id of the audio clip ",
    "with its transcript. Dont mix with ▸\n",
    "- Use ● when a pre-recorded message matches the situation well.\n",
    "- Use ▸ when you need to generate a dynamic, contextual response.\n",
    "- *NEVER* mix modes in a single response, since we rely on the markers to decide ",
    "whether to play using TTS or Pre-recorded audio."]

def namesRecordings : Option String → Except EngineError Bool
  | none => .error .typeError
  | some prompt => .ok (decide ("RECORDING_ID:".toList <:+: prompt.toList))

def composeSystemPrompt (node : DefinitionNode) : Except EngineError String := do
  let globalPrompt ← match engine.globalNode with
    | some globalNode =>
      if node.data.addGlobalPrompt then engine.formatPrompt globalNode.data.prompt else .ok none
    | none => .ok none
  let prompt ← engine.formatPrompt node.data.prompt
  let parts := ([globalPrompt, prompt].filterMap id).filter (· ≠ "")
  let recordings ← if engine.hasRecordings then namesRecordings prompt else .ok false
  .ok ("\n\n".intercalate (if recordings then parts ++ [recordingResponseModeInstructions] else parts))

def setupLlmContext (box : ToolBox) (node : DefinitionNode) (s : EngineState) :
    Except EngineError Unit × EngineState :=
  let registered := s.registered ++ registrations engine.host.lower box engine.definition node
  match engine.composeSystemPrompt node with
  | .error error => (.error error, { s with registered := registered })
  | .ok prompt =>
    let functions := composeFunctionsForNode engine.host.lower box engine.definition node
    (.ok (), { s with
      registered := registered
      tools := if functions.isEmpty then s.tools else functions
      systemInstruction := some prompt })

def setNode (box : ToolBox) (nodeId : String) (s : EngineState) : Except EngineError Unit × EngineState :=
  match nodeById engine.definition.nodes nodeId with
  | none => (.error (.keyError nodeId), s)
  | some node =>
    engine.setupLlmContext box node { s with
      currentNode := some node
      nodesVisited :=
        if node.data.name ∈ s.nodesVisited then s.nodesVisited else s.nodesVisited ++ [node.data.name] }

end PipecatEngine

end FastVoice.Engine
