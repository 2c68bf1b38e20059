import Mathlib.Data.List.Nodup

/-! # The workflow graph

What `WorkflowGraph` checks of a validated definition: the number of nodes of each type, their degrees,
and the names of the transitions. Nodes are kept by their id, a later one in the place of an earlier one.
Positions and node data are left out; `str.lower` is a parameter.
-/
namespace FastVoice.Workflows

/-- The types with a registered data model: those of the core, and those of the integration packages. -/
inductive NodeType where
  | startNode
  | endNode
  | agentNode
  | globalNode
  | trigger
  | webhook
  | qa
  | noveum
  | paygent
  | tuner
  deriving DecidableEq

structure GraphConstraints where
  minIncoming : Option Nat := none
  maxIncoming : Option Nat := none
  minOutgoing : Option Nat := none
  maxOutgoing : Option Nat := none
  minInstances : Option Nat := none
  maxInstances : Option Nat := none

structure NodeSpec where
  name : NodeType
  displayName : String
  graphConstraints : Option GraphConstraints

def unconnected : GraphConstraints where
  minIncoming := some 0
  maxIncoming := some 0
  minOutgoing := some 0
  maxOutgoing := some 0

def startCallConstraints : GraphConstraints where
  minIncoming := some 0
  maxIncoming := some 0
  minInstances := some 1
  maxInstances := some 1

def endCallConstraints : GraphConstraints where
  minIncoming := some 1
  minOutgoing := some 0
  maxOutgoing := some 0

def triggerConstraints : GraphConstraints where
  minIncoming := some 0
  maxIncoming := some 0
  maxInstances := some 1

def onlyOne (gc : GraphConstraints) : GraphConstraints := { gc with maxInstances := some 1 }

def getSpec : NodeType → NodeSpec
  | .startNode => ⟨.startNode, "Start Call", some startCallConstraints⟩
  | .agentNode => ⟨.agentNode, "Agent Node", some { minIncoming := some 1 }⟩
  | .endNode => ⟨.endNode, "End Call", some endCallConstraints⟩
  | .globalNode => ⟨.globalNode, "Global Node", some (onlyOne unconnected)⟩
  | .trigger => ⟨.trigger, "API Trigger", some triggerConstraints⟩
  | .webhook => ⟨.webhook, "Webhook", some unconnected⟩
  | .qa => ⟨.qa, "QA Analysis", some unconnected⟩
  | .noveum => ⟨.noveum, "Noveum", some (onlyOne unconnected)⟩
  | .paygent => ⟨.paygent, "Paygent", some (onlyOne unconnected)⟩
  | .tuner => ⟨.tuner, "Tuner", some (onlyOne unconnected)⟩

/-- In the order of the types' names. -/
def allSpecs : List NodeSpec :=
  [.agentNode, .endNode, .globalNode, .noveum, .paygent, .qa, .startNode, .trigger, .tuner,
    .webhook].map getSpec

theorem getSpec_mem (nodeType : NodeType) : getSpec nodeType ∈ allSpecs := by
  cases nodeType <;> simp [allSpecs]

theorem getSpec_name (nodeType : NodeType) : (getSpec nodeType).name = nodeType := by
  cases nodeType <;> rfl

structure RFNodeDTO where
  id : String
  type : NodeType
  deriving DecidableEq

structure EdgeDataDTO where
  label : String
  condition : String
  labelNonempty : label ≠ ""
  conditionNonempty : condition ≠ ""
  deriving DecidableEq

structure RFEdgeDTO where
  id : String
  source : String
  target : String
  data : EdgeDataDTO
  deriving DecidableEq

structure WorkflowGraphDTO where
  nodes : List RFNodeDTO
  edges : List RFEdgeDTO
  referentialIntegrity : ∀ edge ∈ edges,
    edge.source ∈ nodes.map RFNodeDTO.id ∧ edge.target ∈ nodes.map RFNodeDTO.id

/-- The lines of `_referential_integrity`: the number of the edge, its id and the missing endpoint. -/
def missingNodes (nodes : List RFNodeDTO) (edges : List RFEdgeDTO) : List (Nat × String × String) :=
  edges.zipIdx.flatMap fun (edge, idx) =>
    ([edge.source, edge.target].filter (· ∉ nodes.map RFNodeDTO.id)).map (idx, edge.id, ·)

theorem missingNodes_eq_nil {nodes : List RFNodeDTO} {edges : List RFEdgeDTO} :
    missingNodes nodes edges = [] ↔ ∀ edge ∈ edges,
      edge.source ∈ nodes.map RFNodeDTO.id ∧ edge.target ∈ nodes.map RFNodeDTO.id := by
  have hLine : ∀ edge : RFEdgeDTO, [edge.source, edge.target].filter
      (· ∉ nodes.map RFNodeDTO.id) = [] ↔
        edge.source ∈ nodes.map RFNodeDTO.id ∧ edge.target ∈ nodes.map RFNodeDTO.id := by
    intro edge
    simp only [List.filter_eq_nil_iff, List.forall_mem_cons, decide_eq_true_eq, not_not,
      List.not_mem_nil, false_imp_iff, implies_true, and_true]
  rw [missingNodes, List.flatMap_eq_nil_iff]
  constructor
  · intro h edge hEdge
    obtain ⟨idx, hIdx⟩ := List.getElem?_of_mem hEdge
    exact (hLine edge).mp (List.map_eq_nil_iff.mp
      (h (edge, idx) (List.mem_zipIdx_iff_getElem?.mpr hIdx)))
  · rintro h ⟨edge, idx⟩ hMem
    exact List.map_eq_nil_iff.mpr
      ((hLine edge).mpr (h edge (List.fst_mem_of_mem_zipIdx hMem)))

def WorkflowGraphDTO.validate (nodes : List RFNodeDTO) (edges : List RFEdgeDTO) :
    Except (List (Nat × String × String)) WorkflowGraphDTO :=
  if h : missingNodes nodes edges = [] then .ok ⟨nodes, edges, missingNodes_eq_nil.mp h⟩
  else .error (missingNodes nodes edges)

inductive ItemKind where
  | node
  | edge
  | workflow
  deriving DecidableEq

structure WorkflowError where
  kind : ItemKind
  id : Option String
  field : Option String
  message : String
  deriving DecidableEq

def transitionToolName (lower : String → String) (label : String) : String :=
  (lower label).map fun c => if ('a' ≤ c ∧ c ≤ 'z') ∨ ('0' ≤ c ∧ c ≤ '9') then c else '_'

def RFEdgeDTO.functionName (lower : String → String) (edge : RFEdgeDTO) : String :=
  transitionToolName lower edge.data.label

def duplicateNameError (toolName edgeId : String) : WorkflowError where
  kind := .edge
  id := some edgeId
  field := some "data.label"
  message := s!"Transition tool name \"{toolName}\" is duplicated for this node. Use a unique edge label."

/-- Transitions are grouped by source and name, the groups in the order of their first transitions. -/
def validateUniqueTransitionToolNames (lower : String → String) (edges : List RFEdgeDTO) :
    List WorkflowError :=
  let group (edge : RFEdgeDTO) := (edge.source, transitionToolName lower edge.data.label)
  (edges.map group).eraseDups.flatMap fun key =>
    let edgeIds := (edges.filter (group · = key)).map RFEdgeDTO.id
    if edgeIds.length < 2 then [] else edgeIds.map (duplicateNameError key.2)

def maxInstancesMessage (label : String) (maxCount : Nat) : String :=
  if maxCount = 1 then s!"Workflow can have at most one {label}"
  else s!"Workflow can have at most {maxCount} {label} nodes"

def minInstancesMessage (label : String) (minCount : Nat) : String :=
  if minCount = 1 then s!"Workflow must have at least one {label}"
  else s!"Workflow must have at least {minCount} {label} nodes"

def instanceError (message : String) : WorkflowError := ⟨.workflow, none, none, message⟩

def validateNodeInstanceConstraints (nodeTypes : List NodeType) (enforceMinInstances : Bool)
    (skipTypes : List NodeType) : List WorkflowError :=
  allSpecs.flatMap fun spec =>
    if spec.name ∈ skipTypes then []
    else match spec.graphConstraints with
      | none => []
      | some gc =>
        let count := nodeTypes.count spec.name
        (gc.maxInstances.toList.filter (count > ·)).map
            (fun maxCount => instanceError (maxInstancesMessage spec.displayName maxCount)) ++
          (gc.minInstances.toList.filter (enforceMinInstances && count < ·)).map
            (fun minCount => instanceError (minInstancesMessage spec.displayName minCount))

structure Node where
  id : String
  nodeType : NodeType
  out : List String
  outEdges : List RFEdgeDTO

structure WorkflowGraph where
  nodes : List Node
  edges : List RFEdgeDTO
  startNodeId : String
  globalNodeId : Option String

/-- The nodes by id: where an id occurs first, with the type that it has last. -/
def nodesById (nodes : List RFNodeDTO) : List Node :=
  (nodes.map RFNodeDTO.id).eraseDups.filterMap fun id =>
    (nodes.reverse.find? (·.id = id)).map fun node => ⟨node.id, node.type, [], []⟩

def Node.addEdge (node : Node) (edge : RFEdgeDTO) : Node :=
  { node with
    out := if edge.target ∈ node.out then node.out else node.out ++ [edge.target]
    outEdges := node.outEdges ++ [edge] }

def addEdge (nodes : List Node) (edge : RFEdgeDTO) : List Node :=
  nodes.map fun node => if node.id = edge.source then node.addEdge edge else node

def WorkflowGraphDTO.graphNodes (dto : WorkflowGraphDTO) : List Node :=
  dto.edges.foldl addEdge (nodesById dto.nodes)

def inDegree (nodes : List Node) (id : String) : Nat := (nodes.flatMap Node.out).count id

def Node.outDegree (node : Node) : Nat := node.out.length

def degreeErrors (id label direction : String) (degree : Nat) (minDegree maxDegree : Option Nat) :
    List WorkflowError :=
  (maxDegree.toList.filter (degree > ·)).map (fun limit => ⟨.node, some id, none,
      if limit = 0 then s!"{label} cannot have {direction} edges"
      else s!"{label} can have at most {limit} {direction} edge(s)"⟩) ++
    (minDegree.toList.filter (degree < ·)).map (fun limit => ⟨.node, some id, none,
      s!"{label} must have at least {limit} {direction} edge(s)"⟩)

def connectionErrors (nodes : List Node) (node : Node) : List WorkflowError :=
  match (getSpec node.nodeType).graphConstraints with
  | none => []
  | some gc =>
    let label := (getSpec node.nodeType).displayName
    degreeErrors node.id label "incoming" (inDegree nodes node.id) gc.minIncoming gc.maxIncoming ++
      degreeErrors node.id label "outgoing" node.outDegree gc.minOutgoing gc.maxOutgoing

def assertConnectionCounts (nodes : List Node) : List WorkflowError :=
  nodes.flatMap (connectionErrors nodes)

/-- `_assert_node_configs` has nothing to say yet. -/
def validateGraph (lower : String → String) (nodes : List Node) (edges : List RFEdgeDTO)
    (skipInstanceConstraintsFor : List NodeType) : List WorkflowError :=
  validateNodeInstanceConstraints (nodes.map Node.nodeType) true skipInstanceConstraintsFor ++
    assertConnectionCounts nodes ++ validateUniqueTransitionToolNames lower edges

inductive GraphError where
  | valueError (errors : List WorkflowError)
  | indexError
  deriving DecidableEq

def WorkflowGraph.init (lower : String → String) (dto : WorkflowGraphDTO)
    (skipInstanceConstraintsFor : List NodeType) : Except GraphError WorkflowGraph :=
  let nodes := dto.graphNodes
  let errors := validateGraph lower nodes dto.edges skipInstanceConstraintsFor
  if errors.isEmpty then
    match dto.nodes.find? (·.type = .startNode) with
    | none => .error .indexError
    | some start => .ok
      { nodes := nodes
        edges := dto.edges
        startNodeId := start.id
        globalNodeId := (dto.nodes.find? (·.type = .globalNode)).map RFNodeDTO.id }
  else .error (.valueError errors)

end FastVoice.Workflows
