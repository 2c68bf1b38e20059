import FastVoice.Workflows.GraphSoundness
import FastVoice.Python.JsonPaths

/-! # Functions offered to the model

The schemas that a node's tools, documents and transitions are offered under, and the handlers that are
registered for them. A tool is read by its uuid; a server of the model context protocol brings a catalog of
its own.
-/
namespace FastVoice.Engine
open Python Workflows

inductive ToolCategory where
  | httpApi
  | endCall
  | transferCall
  | calculator
  | native
  | integration
  | mcp
  deriving DecidableEq

structure ToolParameter where
  name : String
  type : String
  description : String
  required : Bool := true

structure ToolConfig where
  parameters : List ToolParameter := []
  destinationSource : String := "static"
  resolverParameters : Option (List ToolParameter) := none
  endCallReason : Bool := false
  endCallReasonDescription : String := ""

structure ToolModel where
  toolUuid : String
  organizationId : Nat
  isActive : Bool
  name : String
  description : String
  category : ToolCategory
  definitionType : String
  config : ToolConfig

structure FunctionSchema where
  name : String
  description : String
  properties : Json := .obj []
  required : List String := []

section Names

variable (lower : String → String)

def collapseUnderscores : List Char → List Char
  | [] => []
  | c :: text =>
    if c = '_' ∧ text.head? = some '_' then collapseUnderscores text else c :: collapseUnderscores text

def stripUnderscores (text : List Char) : List Char :=
  (text.dropWhile (· = '_')).rdropWhile (· = '_')

def isNameChar (c : Char) : Bool := ('a' ≤ c ∧ c ≤ 'z') ∨ ('0' ≤ c ∧ c ≤ '9')

def underscored (text : List Char) : List Char := text.map fun c => if isNameChar c then c else '_'

def customToolFunctionName (name : String) : String :=
  String.ofList (stripUnderscores (collapseUnderscores (underscored (lower name).toList)))

/-- `_slugify`. A run of other characters becomes one underscore, as does a run of underscores. -/
def slugify (value : String) : String :=
  String.ofList (stripUnderscores (collapseUnderscores (underscored (lower (Text.strip value)).toList)))

def serverSlug (toolName fallback : String) : String :=
  if slugify lower toolName ≠ "" then slugify lower toolName
  else if slugify lower fallback ≠ "" then slugify lower fallback
  else "server"

def namespaceFunctionName (toolName mcpToolName fallback : String) : String :=
  "mcp__" ++ serverSlug lower toolName fallback ++ "__" ++ mcpToolName

end Names

def typeMap (type : String) : String :=
  if type ∈ ["string", "number", "boolean", "object", "array"] then type else "string"

def parameterSchema (parameter : ToolParameter) : Json :=
  match typeMap parameter.type with
  | "object" => .obj [("type", .str "object"), ("additionalProperties", .bool true),
      ("description", .str parameter.description)]
  | "array" => .obj [("type", .str "array"), ("items", .obj []),
      ("description", .str parameter.description)]
  | schemaType => .obj [("type", .str schemaType), ("description", .str parameter.description)]

def ToolModel.parameters (tool : ToolModel) : List ToolParameter :=
  if tool.definitionType = "transfer_call" then
    if tool.config.destinationSource = "dynamic" then tool.config.resolverParameters.getD [] else []
  else
    tool.config.parameters

def defaultReasonDescription : String :=
  "The reason for ending the call (e.g., 'voicemail_detected', 'issue_resolved', 'customer_requested')"

def reasonDescription (config : ToolConfig) : String :=
  if config.endCallReasonDescription = "" then defaultReasonDescription
  else config.endCallReasonDescription

def ToolModel.asksReason (tool : ToolModel) : Bool :=
  tool.definitionType = "end_call" && tool.config.endCallReason

def toolToFunctionSchema (lower : String → String) (tool : ToolModel) : FunctionSchema :=
  let named := tool.parameters.filter (·.name ≠ "")
  let properties := named.foldl (fun properties parameter =>
    properties.set parameter.name (parameterSchema parameter)) (.obj [])
  let required := (named.filter ToolParameter.required).map ToolParameter.name
  let reason : Json := .obj [("type", .str "string"), ("description", .str (reasonDescription tool.config))]
  { name := customToolFunctionName lower tool.name
    description := if tool.description = "" then "Execute " ++ tool.name ++ " tool" else tool.description
    properties := if tool.asksReason then properties.set "reason" reason else properties
    required := if tool.asksReason then required ++ ["reason"] else required }

def calculatorSchema : FunctionSchema where
  name := "safe_calculator"
  description := "Perform simple arithmetic calculations"
  properties := .obj [("expression", .obj [("type", .str "string"), ("description",
    .str ("Arithmetic expression to evaluate (supports +, -, *, /, **, %, and parentheses). " ++
      "Example: 2000 + 5000"))])]
  required := ["expression"]

def knowledgeBaseDescription (documents : Nat) : String :=
  "Retrieve relevant information from specific documents in the knowledge base. " ++
    "Use this tool when you need to look up facts, policies, procedures, or any information " ++
    "that might be stored in the available documents. The search will only look in the " ++
    "documents associated with this conversation step (" ++ toString documents ++ " document(s) available)."

/-- `get_knowledge_base_tool` for a node that has documents. -/
def knowledgeBaseSchema (documentUuids : List String) : FunctionSchema where
  name := "retrieve_from_knowledge_base"
  description := knowledgeBaseDescription documentUuids.length
  properties := .obj [("query", .obj [("type", .str "string"), ("description",
    .str ("The search query to find relevant information. Be specific and use natural language. " ++
      "Example: 'What is the refund policy for canceled orders?'"))])]
  required := ["query"]

/-- A session with a server, which offers each tool of its catalog under a name of its own namespace. -/
structure McpSession where
  toolUuid : String
  toolName : String
  available : Bool
  catalog : List FunctionSchema

def McpSession.namespaced (lower : String → String) (session : McpSession) (tool : FunctionSchema) :
    FunctionSchema :=
  { tool with
    name := namespaceFunctionName lower session.toolName tool.name
      (String.ofList (session.toolUuid.toList.take 8)) }

def McpSession.functionSchemas (lower : String → String) (session : McpSession)
    (allowed : Option (List String)) : List FunctionSchema :=
  (session.catalog.filter fun tool => allowed.all (tool.name ∈ ·)).map (session.namespaced lower)

structure ExtractionVariable where
  name : String
  prompt : Option String

structure NodeData where
  name : String := ""
  prompt : Option String := none
  addGlobalPrompt : Bool := true
  extractionEnabled : Bool := false
  extractionPrompt : Option String := none
  extractionVariables : List ExtractionVariable := []
  toolUuids : List String := []
  documentUuids : List String := []
  mcpToolFilters : Option (List (String × List String)) := none

structure DefinitionNode where
  id : String
  type : NodeType
  data : NodeData

/-- The node that the graph keeps under an id: the last one. -/
def nodeById (nodes : List DefinitionNode) (id : String) : Option DefinitionNode :=
  nodes.reverse.find? (·.id = id)

/-- A definition that the graph accepted: an end node has no transitions. -/
structure WorkflowDefinition where
  nodes : List DefinitionNode
  edges : List RFEdgeDTO
  endsClosed : ∀ id node, nodeById nodes id = some node → node.type = .endNode →
    ∀ edge ∈ edges, edge.source ≠ id

def WorkflowDefinition.outEdges (definition : WorkflowDefinition) (node : DefinitionNode) :
    List RFEdgeDTO :=
  definition.edges.filter (·.source = node.id)

/-- What the engine reads besides the definition: the tools, its organization and its open sessions. -/
structure ToolBox where
  tools : List ToolModel
  distinct : (tools.map ToolModel.toolUuid).Nodup
  organizationId : Option Nat
  mcpSessions : List McpSession

section

variable (lower : String → String) (box : ToolBox)

def ToolBox.getToolsByUuids (toolUuids : List String) (organizationId : Nat) : List ToolModel :=
  box.tools.filter fun tool =>
    tool.toolUuid ∈ toolUuids && tool.organizationId = organizationId && tool.isActive

def ToolBox.nodeTools (node : DefinitionNode) : List ToolModel :=
  (box.organizationId.map (box.getToolsByUuids node.data.toolUuids)).getD []

def ToolBox.session (tool : ToolModel) : Option McpSession :=
  (box.mcpSessions.find? (·.toolUuid = tool.toolUuid)).filter McpSession.available

def allowedNames (filters : Option (List (String × List String))) (toolUuid : String) :
    Option (List String) :=
  filters.map fun filters => (filters.lookup toolUuid).getD []

inductive Handler where
  | transition (edgeId target : String)
  | httpTool (toolUuid : String)
  | endCall (toolUuid : String)
  | transferCall (toolUuid : String)
  | calculator
  | mcp (toolUuid functionName : String)
  | knowledgeBase (documentUuids : List String)
  deriving DecidableEq

def createHandler (tool : ToolModel) : Handler :=
  match tool.category with
  | .endCall => .endCall tool.toolUuid
  | .transferCall => .transferCall tool.toolUuid
  | _ => .httpTool tool.toolUuid

def ToolBox.toolFunctions (node : DefinitionNode) (tool : ToolModel) : List (FunctionSchema × Handler) :=
  match tool.category with
  | .calculator => [(calculatorSchema, .calculator)]
  | .mcp =>
    match box.session tool with
    | none => []
    | some session =>
      (session.functionSchemas lower (allowedNames node.data.mcpToolFilters tool.toolUuid)).map
        fun schema => (schema, .mcp tool.toolUuid schema.name)
  | _ => [(toolToFunctionSchema lower tool, createHandler tool)]

def transitionFunction (edge : RFEdgeDTO) : FunctionSchema × Handler :=
  ({ name := edge.functionName lower, description := edge.data.condition },
    .transition edge.id edge.target)

def knowledgeBaseFunctions (node : DefinitionNode) : List (FunctionSchema × Handler) :=
  if node.data.documentUuids = [] then []
  else [(knowledgeBaseSchema node.data.documentUuids, .knowledgeBase node.data.documentUuids)]

/-- The schemas that `compose_functions_for_node` lists, each with the handler that belongs to it. -/
def composedFunctions (definition : WorkflowDefinition) (node : DefinitionNode) :
    List (FunctionSchema × Handler) :=
  knowledgeBaseFunctions node ++ (box.nodeTools node).flatMap (box.toolFunctions lower node) ++
    (definition.outEdges node).map (transitionFunction lower)

def composeFunctionsForNode (definition : WorkflowDefinition) (node : DefinitionNode) :
    List FunctionSchema :=
  (composedFunctions lower box definition node).map Prod.fst

def registrations (definition : WorkflowDefinition) (node : DefinitionNode) : List (String × Handler) :=
  ((if node.type = .endNode then [] else (definition.outEdges node).map (transitionFunction lower)) ++
    (box.nodeTools node).flatMap (box.toolFunctions lower node) ++ knowledgeBaseFunctions node).map
      fun entry => (entry.1.name, entry.2)

end

def handlerOf (registered : List (String × Handler)) (name : String) : Option Handler :=
  registered.reverse.lookup name

end FastVoice.Engine
