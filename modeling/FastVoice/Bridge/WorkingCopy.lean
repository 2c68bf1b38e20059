import FastVoice.Bridge.GenerateCode
import FastVoice.Configuration.Merge
import FastVoice.Recordings.Renaming

/-! # Reading the working copy

The responses of the REST routes and of the MCP tools that show a definition of a workflow. The routes mask
the secrets of its nodes, and the tools print it as source.
-/
namespace FastVoice.Bridge
open Python Configuration

structure DefinitionEdge where
  id : String
  source : String
  target : String
  data : Json

structure Definition where
  nodes : List Configuration.Node
  edges : List DefinitionEdge
  viewport : Json

structure DefinitionVersion where
  id : Nat
  versionNumber : Option Nat
  status : Recordings.DefinitionStatus
  createdAt : Nat
  publishedAt : Option Nat
  workflowJson : Option Definition
  workflowConfigurations : Json
  templateContextVariables : Json

/-- A workflow with its definitions, the greatest version number first. -/
structure WorkflowRow where
  id : Nat
  name : String
  status : String
  createdAt : Nat
  workflowUuid : String
  currentDefinitionId : Option Nat
  releasedDefinitionId : Option Nat
  callDispositionCodes : Json
  /-- The column from before there were versions. -/
  workflowDefinition : Option Definition
  definitions : List DefinitionVersion

namespace WorkflowRow

variable (workflow : WorkflowRow)

def getDraftVersion : Option DefinitionVersion := workflow.definitions.find? (·.status = .draft)

def releasedDefinition : Option DefinitionVersion :=
  workflow.definitions.find? fun version => workflow.releasedDefinitionId = some version.id

end WorkflowRow

section Routes

-- How a format string writes a list.
variable (showList : List String → String)

def Definition.masked (definition : Definition) : Definition :=
  { definition with nodes := maskWorkflowDefinition showList definition.nodes }

structure WorkflowResponse where
  id : Nat
  name : String
  status : String
  createdAt : Nat
  workflowDefinition : Option Definition
  currentDefinitionId : Option Nat
  templateContextVariables : Json
  callDispositionCodes : Json
  workflowConfigurations : Json
  versionNumber : Option Nat
  versionStatus : Recordings.DefinitionStatus
  workflowUuid : String

structure WorkflowVersionResponse where
  id : Nat
  versionNumber : Nat
  status : Recordings.DefinitionStatus
  createdAt : Nat
  publishedAt : Option Nat
  workflowJson : Option Definition
  workflowConfigurations : Json
  templateContextVariables : Json

def getWorkflow (workflow : WorkflowRow) : Option WorkflowResponse :=
  (workflow.getDraftVersion.or workflow.releasedDefinition).map fun active =>
    { id := workflow.id
      name := workflow.name
      status := workflow.status
      createdAt := workflow.createdAt
      workflowDefinition := active.workflowJson.map (Definition.masked showList)
      currentDefinitionId := workflow.currentDefinitionId
      templateContextVariables := active.templateContextVariables
      callDispositionCodes := workflow.callDispositionCodes
      workflowConfigurations := maskWorkflowConfigurations active.workflowConfigurations
      versionNumber := active.versionNumber
      versionStatus := active.status
      workflowUuid := workflow.workflowUuid }

def versionResponse (version : DefinitionVersion) : Option WorkflowVersionResponse :=
  version.versionNumber.map fun versionNumber =>
    { id := version.id
      versionNumber
      status := version.status
      createdAt := version.createdAt
      publishedAt := version.publishedAt
      workflowJson := version.workflowJson.map (Definition.masked showList)
      workflowConfigurations := maskWorkflowConfigurations version.workflowConfigurations
      templateContextVariables := version.templateContextVariables }

def WorkflowRow.getWorkflowVersions (workflow : WorkflowRow) (limit : Option Nat) (offset : Nat) :
    List DefinitionVersion :=
  let rows := (workflow.definitions.filter (·.status ≠ .legacy)).drop offset
  match limit with
  | none => rows
  | some limit => rows.take limit

def getWorkflowVersions (workflow : WorkflowRow) (limit : Option Nat) (offset : Nat) :
    List WorkflowVersionResponse :=
  (workflow.getWorkflowVersions limit offset).filterMap (versionResponse showList)

end Routes

section Source

variable {F : Type} (py : Interpreter F) (unicode : Unicode) (printer : Printer F)
  -- `json.loads` of a number.
  (loads : JsonNumber → Number F)

mutual

/-- A document as the values of literals. -/
def valueOf : Json → Value F
  | .null => .none
  | .bool b => .bool b
  | .number n => .number (loads n)
  | .str s => .str s
  | .arr items => .list (valuesOf items)
  | .obj entries => .dict (pairsOf entries)

def valuesOf : List Json → List (Value F)
  | [] => []
  | item :: items => valueOf item :: valuesOf items

def pairsOf : List (String × Json) → List (Value F × Value F)
  | [] => []
  | (key, value) :: entries => (.str key, valueOf value) :: pairsOf entries

end

def fieldsOf (entries : List (String × Json)) : Fields F := entries.map fun entry => (entry.1, valueOf loads entry.2)

def rawData : Json → Option (Fields F)
  | .obj entries => some (fieldsOf loads entries)
  | _ => none

def rawNode (node : Configuration.Node) : RawNode F := ⟨node.id, node.type.getD "None", rawData loads node.data⟩

def rawEdge (edge : DefinitionEdge) : RawEdge F := ⟨edge.id, edge.source, edge.target, rawData loads edge.data⟩

def rawWorkflow (payload : Option Definition) : RawWorkflow F :=
  match payload with
  | none => ⟨[], []⟩
  | some definition => ⟨definition.nodes.map (rawNode loads), definition.edges.map (rawEdge loads)⟩

inductive ProjectionVersion where
  | draft
  | published
  | legacy
  deriving DecidableEq

structure WorkflowProjectionSource where
  payload : Option Definition
  version : ProjectionVersion
  versionNumber : Option Nat

/-- A version whose definition is empty is passed over. -/
def selectWorkflowProjectionSource (workflow : WorkflowRow) : WorkflowProjectionSource :=
  match workflow.getDraftVersion.filter (·.workflowJson.isSome) with
  | some draft => ⟨draft.workflowJson, .draft, draft.versionNumber⟩
  | none =>
    match workflow.releasedDefinition.filter (·.workflowJson.isSome) with
    | some released => ⟨released.workflowJson, .published, released.versionNumber⟩
    | none => ⟨workflow.workflowDefinition, .legacy, none⟩

structure SdkView where
  name : String
  version : ProjectionVersion
  versionNumber : Option Nat
  code : String
  deriving DecidableEq

def projectWorkflowToSdkView (workflow : WorkflowRow) : Except PythonBridgeError SdkView :=
  let source := selectWorkflowProjectionSource workflow
  (generateCode py unicode printer (rawWorkflow loads source.payload) workflow.name).map fun code =>
    ⟨workflow.name, source.version, source.versionNumber, code⟩

structure WorkflowCode where
  workflowId : Nat
  name : String
  version : ProjectionVersion
  code : String
  deriving DecidableEq

def getWorkflowCode (workflow : WorkflowRow) : Except Recordings.HTTPException WorkflowCode :=
  match projectWorkflowToSdkView py unicode printer loads workflow with
  | .error error => .error ⟨500, "Failed to generate code: " ++ error.message⟩
  | .ok view => .ok ⟨workflow.id, view.name, view.version, view.code⟩

structure AgentWorkflow where
  id : Nat
  name : String
  status : String
  version : ProjectionVersion
  versionNumber : Option Nat
  code : String
  deriving DecidableEq

def getAgentWorkflow (workflow : WorkflowRow) : Except Recordings.HTTPException AgentWorkflow :=
  match projectWorkflowToSdkView py unicode printer loads workflow with
  | .error error => .error ⟨500, "Failed to generate code: " ++ error.message⟩
  | .ok view => .ok ⟨workflow.id, view.name, workflow.status, view.version, view.versionNumber, view.code⟩

end Source

end FastVoice.Bridge
