import FastVoice.Runtime.Machine
import FastVoice.Workflows.Graph

/-! # What a checked graph promises

The checks count the nodes that are left after repeated ids, and the edges of each node. They neither
see a repeated id nor a group of nodes that only has edges from itself.
-/
namespace FastVoice.Workflows
open Relation

section Statements

def WorkflowGraphDTO.outgoing (dto : WorkflowGraphDTO) (id : String) : List RFEdgeDTO :=
  dto.edges.filter (·.source = id)

def WorkflowGraphDTO.Transition (dto : WorkflowGraphDTO) (source target : String) : Prop :=
  ∃ edge ∈ dto.edges, edge.source = source ∧ edge.target = target

def NodeType.isVisited (nodeType : NodeType) : Prop := nodeType = .agentNode ∨ nodeType = .endNode

/-- What running a workflow takes for granted. -/
structure SufficientForExecution (lower : String → String) (dto : WorkflowGraphDTO) : Prop where
  distinctIds : (dto.nodes.map RFNodeDTO.id).Nodup
  oneStart : dto.nodes.countP (·.type = .startNode) = 1
  reachable : ∀ start ∈ dto.nodes, start.type = .startNode → ∀ node ∈ dto.nodes,
    node.type.isVisited → ReflTransGen dto.Transition start.id node.id
  nothingEntersStart : ∀ edge ∈ dto.edges, ∀ node ∈ dto.nodes, node.id = edge.target →
    node.type ≠ .startNode
  nothingLeaves : ∀ edge ∈ dto.edges, ∀ node ∈ dto.nodes, node.id = edge.source →
    node.type ∉ [NodeType.endNode, .globalNode, .webhook, .qa]
  distinctNames : ∀ node ∈ dto.nodes,
    ((dto.outgoing node.id).map (RFEdgeDTO.functionName lower)).Nodup
  /-- Each function that is offered leads to one node. -/
  leads : ∀ node ∈ dto.nodes, ∀ offered ∈ dto.outgoing node.id, ∃! target, target ∈ dto.nodes ∧
    ∃ edge ∈ dto.outgoing node.id,
      edge.functionName lower = offered.functionName lower ∧ edge.target = target.id

/-- Every group of agent and end nodes is entered from a node outside of it that is not a trigger. -/
def WorkflowGraphDTO.GroupsEntered (dto : WorkflowGraphDTO) : Prop :=
  ∀ group : Set String, group.Nonempty →
    (∀ id ∈ group, ∃ node ∈ dto.nodes, node.id = id ∧ node.type.isVisited) →
    ∃ edge ∈ dto.edges, edge.source ∉ group ∧ edge.target ∈ group ∧
      ∀ node ∈ dto.nodes, node.id = edge.source → node.type ≠ .trigger

end Statements

theorem eraseDups_of_nodup {α : Type} [DecidableEq α] {l : List α} (h : l.Nodup) : l.eraseDups = l := by
  induction l with
  | nil => rfl
  | cons a l ih =>
    obtain ⟨hNot, hRest⟩ := List.nodup_cons.mp h
    have hKept : (l.filter fun b => !b == a) = l := by
      refine List.filter_eq_self.mpr fun b hb => ?_
      simp only [Bool.not_eq_true', beq_eq_false_iff_ne]
      rintro rfl
      exact hNot hb
    rw [List.eraseDups_cons, hKept, ih hRest]

theorem nodesById_eq {nodes : List RFNodeDTO} (h : (nodes.map RFNodeDTO.id).Nodup) :
    nodesById nodes = nodes.map fun node => ⟨node.id, node.type, [], []⟩ := by
  rw [nodesById, eraseDups_of_nodup h, List.filterMap_map]
  refine List.filterMap_eq_map_iff_forall_eq_some.mpr fun node hNode => ?_
  have hSome : (nodes.reverse.find? (·.id = node.id)).isSome = true :=
    List.find?_isSome.mpr ⟨node, List.mem_reverse.mpr hNode, decide_eq_true rfl⟩
  obtain ⟨found, hFound⟩ := Option.isSome_iff_exists.mp hSome
  have hId : found.id = node.id := by simpa using List.find?_some hFound
  have hSame : found = node := List.inj_on_of_nodup_map h
    (List.mem_reverse.mp (List.mem_of_find?_eq_some hFound)) hNode hId
  rw [Function.comp_apply, hFound, hSame, Option.map_some]

@[simp] theorem Node.addEdge_id (node : Node) (edge : RFEdgeDTO) : (node.addEdge edge).id = node.id := rfl

theorem foldl_addEdge (nodes : List Node) (edges : List RFEdgeDTO) : edges.foldl addEdge nodes =
      nodes.map fun node => (edges.filter (·.source = node.id)).foldl Node.addEdge node := by
  induction edges generalizing nodes with
  | nil => exact (List.map_id nodes).symm
  | cons edge edges ih =>
    rw [List.foldl_cons, ih, addEdge, List.map_map]
    refine List.map_congr_left fun node _ => ?_
    rw [Function.comp_apply]
    by_cases hSource : node.id = edge.source
    · simp [hSource]
    · have hOther : edge.source ≠ node.id := fun hEq => hSource hEq.symm
      simp [hSource, hOther]

structure Node.Collects (node : Node) (id : String) (nodeType : NodeType) (edges : List RFEdgeDTO) :
    Prop where
  id_eq : node.id = id
  nodeType_eq : node.nodeType = nodeType
  mem_out : ∀ target, target ∈ node.out ↔ ∃ edge ∈ edges, edge.target = target

theorem Node.Collects.addEdge {node : Node} {id : String} {nodeType : NodeType}
    {edges : List RFEdgeDTO} (h : node.Collects id nodeType edges) (edge : RFEdgeDTO) :
    (node.addEdge edge).Collects id nodeType (edges ++ [edge]) where
  id_eq := h.id_eq
  nodeType_eq := h.nodeType_eq
  mem_out target := by
    have hOut : target ∈ (node.addEdge edge).out ↔ target ∈ node.out ∨ edge.target = target := by
      rw [Node.addEdge]
      split
      · rename_i hKnown
        constructor
        · exact .inl
        · rintro (hMem | rfl)
          · exact hMem
          · exact hKnown
      · rw [List.mem_append, List.mem_singleton, eq_comm (a := target)]
    rw [hOut, h.mem_out target]
    simp [or_and_right, exists_or]

theorem Node.Collects.foldl {node : Node} {id : String} {nodeType : NodeType}
    {edges : List RFEdgeDTO} (h : node.Collects id nodeType edges) (later : List RFEdgeDTO) :
    (later.foldl Node.addEdge node).Collects id nodeType (edges ++ later) := by
  induction later generalizing node edges with
  | nil => simpa using h
  | cons edge later ih => simpa using ih (h.addEdge edge)

theorem graphNodes_eq {dto : WorkflowGraphDTO} (h : (dto.nodes.map RFNodeDTO.id).Nodup) :
    dto.graphNodes = dto.nodes.map fun node =>
      (dto.outgoing node.id).foldl Node.addEdge ⟨node.id, node.type, [], []⟩ := by
  rw [WorkflowGraphDTO.graphNodes, nodesById_eq h, foldl_addEdge, List.map_map]
  rfl

theorem collects_graphNode (dto : WorkflowGraphDTO) (node : RFNodeDTO) :
    ((dto.outgoing node.id).foldl Node.addEdge ⟨node.id, node.type, [], []⟩).Collects node.id
      node.type (dto.outgoing node.id) := by
  have hEmpty : (⟨node.id, node.type, [], []⟩ : Node).Collects node.id node.type [] :=
    ⟨rfl, rfl, fun target => by simp⟩
  exact hEmpty.foldl (dto.outgoing node.id)

theorem degreeErrors_eq_nil {id label direction : String} {degree : Nat} {minDegree maxDegree : Option Nat}
    (h : degreeErrors id label direction degree minDegree maxDegree = []) :
    ∀ limit ∈ maxDegree, degree ≤ limit := by
  rintro limit rfl
  rw [degreeErrors] at h
  have hMax := List.map_eq_nil_iff.mp (List.append_eq_nil_iff.mp h).1
  simpa using hMax

theorem instances_within {nodeTypes skip : List NodeType} {nodeType : NodeType}
    {gc : GraphConstraints} (hErrors : validateNodeInstanceConstraints nodeTypes true skip = [])
    (hSkip : nodeType ∉ skip) (hSpec : (getSpec nodeType).graphConstraints = some gc) :
    (∀ limit ∈ gc.maxInstances, nodeTypes.count nodeType ≤ limit) ∧
      ∀ limit ∈ gc.minInstances, limit ≤ nodeTypes.count nodeType := by
  have hOne := List.flatMap_eq_nil_iff.mp hErrors _ (getSpec_mem nodeType)
  rw [getSpec_name, if_neg hSkip, hSpec] at hOne
  obtain ⟨hMax, hMin⟩ := List.append_eq_nil_iff.mp hOne
  constructor
  · simpa using List.map_eq_nil_iff.mp hMax
  · simpa using List.map_eq_nil_iff.mp hMin

theorem nodup_names {lower : String → String} {edges : List RFEdgeDTO}
    (h : validateUniqueTransitionToolNames lower edges = []) (source : String) :
    ((edges.filter (·.source = source)).map (RFEdgeDTO.functionName lower)).Nodup := by
  rw [List.nodup_iff_count_le_one]
  intro name
  have hGroup : ((edges.filter (·.source = source)).map (RFEdgeDTO.functionName lower)).count name =
      (edges.filter fun edge => (edge.source, edge.functionName lower) = (source, name)).length := by
    rw [List.count, List.countP_map, List.countP_filter, List.countP_eq_length_filter]
    refine congrArg List.length (List.filter_congr fun edge _ => ?_)
    rw [Bool.eq_iff_iff]
    simp [Prod.ext_iff, and_comm, Function.comp_apply]
  by_contra hMany
  have hTwo : 2 ≤ (edges.filter fun edge =>
      (edge.source, edge.functionName lower) = (source, name)).length := by omega
  obtain ⟨edge, hEdge⟩ := List.exists_mem_of_length_pos (Nat.lt_of_lt_of_le Nat.two_pos hTwo)
  obtain ⟨hMem, hKey⟩ := List.mem_filter.mp hEdge
  have hKeyEq : (edge.source, edge.functionName lower) = (source, name) := of_decide_eq_true hKey
  have hErrors := List.flatMap_eq_nil_iff.mp h (source, name)
    (List.mem_eraseDups.mpr (List.mem_map.mpr ⟨edge, hMem, hKeyEq⟩))
  have hShort : ¬((edges.filter fun edge =>
      (edge.source, edge.functionName lower) = (source, name)).map RFEdgeDTO.id).length < 2 := by
    rw [List.length_map]
    omega
  have hNone : (edges.filter fun edge =>
      (edge.source, edge.functionName lower) = (source, name)) = [] :=
    List.map_eq_nil_iff.mp (List.map_eq_nil_iff.mp ((if_neg hShort).symm.trans hErrors))
  rw [hNone] at hEdge
  exact List.not_mem_nil hEdge

structure Accepted (lower : String → String) (dto : WorkflowGraphDTO) (skip : List NodeType) :
    Prop where
  instances : validateNodeInstanceConstraints (dto.graphNodes.map Node.nodeType) true skip = []
  connections : assertConnectionCounts dto.graphNodes = []
  names : validateUniqueTransitionToolNames lower dto.edges = []

theorem accepted_of_init {lower : String → String} {dto : WorkflowGraphDTO} {skip : List NodeType}
    {graph : WorkflowGraph} (h : WorkflowGraph.init lower dto skip = .ok graph) :
    Accepted lower dto skip := by
  have hErrors : validateGraph lower dto.graphNodes dto.edges skip = [] := by
    by_contra hSome
    rw [WorkflowGraph.init, if_neg (by simpa using hSome)] at h
    cases h
  rw [validateGraph] at hErrors
  obtain ⟨hBoth, hNames⟩ := List.append_eq_nil_iff.mp hErrors
  obtain ⟨hInstances, hConnections⟩ := List.append_eq_nil_iff.mp hBoth
  exact ⟨hInstances, hConnections, hNames⟩

section Accepted

variable {lower : String → String} {dto : WorkflowGraphDTO} {skip : List NodeType}

theorem Accepted.countP_start (h : Accepted lower dto skip) (hSkip : .startNode ∉ skip)
    (hDistinct : (dto.nodes.map RFNodeDTO.id).Nodup) : dto.nodes.countP (·.type = .startNode) = 1 := by
  obtain ⟨hMax, hMin⟩ := instances_within h.instances hSkip rfl
  have hTypes : (dto.graphNodes.map Node.nodeType).count .startNode =
      dto.nodes.countP (·.type = .startNode) := by
    rw [graphNodes_eq hDistinct, List.map_map, List.count, List.countP_map]
    refine List.countP_congr fun node _ => ?_
    simp [(collects_graphNode dto node).nodeType_eq]
  rw [← hTypes]
  exact Nat.le_antisymm (hMax 1 rfl) (hMin 1 rfl)

theorem Accepted.degrees (h : Accepted lower dto skip)
    (hDistinct : (dto.nodes.map RFNodeDTO.id).Nodup) {node : RFNodeDTO} (hNode : node ∈ dto.nodes)
    {gc : GraphConstraints} (hSpec : (getSpec node.type).graphConstraints = some gc) :
    ∃ graphNode ∈ dto.graphNodes, graphNode.Collects node.id node.type (dto.outgoing node.id) ∧
      (∀ limit ∈ gc.maxIncoming, inDegree dto.graphNodes node.id ≤ limit) ∧
      ∀ limit ∈ gc.maxOutgoing, graphNode.outDegree ≤ limit := by
  have hCollects := collects_graphNode dto node
  have hMem : (dto.outgoing node.id).foldl Node.addEdge ⟨node.id, node.type, [], []⟩ ∈
      dto.graphNodes := by
    rw [graphNodes_eq hDistinct]
    exact List.mem_map_of_mem hNode
  have hErrors := List.flatMap_eq_nil_iff.mp h.connections _ hMem
  rw [connectionErrors, hCollects.nodeType_eq, hCollects.id_eq, hSpec] at hErrors
  obtain ⟨hIncoming, hOutgoing⟩ := List.append_eq_nil_iff.mp hErrors
  exact ⟨_, hMem, hCollects, degreeErrors_eq_nil hIncoming, degreeErrors_eq_nil hOutgoing⟩

theorem Accepted.not_source (h : Accepted lower dto skip)
    (hDistinct : (dto.nodes.map RFNodeDTO.id).Nodup) {node : RFNodeDTO} (hNode : node ∈ dto.nodes)
    {gc : GraphConstraints} (hSpec : (getSpec node.type).graphConstraints = some gc)
    (hNone : gc.maxOutgoing = some 0) {edge : RFEdgeDTO} (hEdge : edge ∈ dto.edges) :
    node.id ≠ edge.source := by
  intro hSource
  obtain ⟨graphNode, -, hCollects, -, hOutgoing⟩ := h.degrees hDistinct hNode hSpec
  have hEmpty : graphNode.out = [] := List.length_eq_zero_iff.mp (Nat.le_zero.mp (hOutgoing 0 hNone))
  have hTarget : edge.target ∈ graphNode.out := (hCollects.mem_out _).mpr
    ⟨edge, List.mem_filter.mpr ⟨hEdge, decide_eq_true hSource.symm⟩, rfl⟩
  rw [hEmpty] at hTarget
  exact List.not_mem_nil hTarget

theorem Accepted.not_target (h : Accepted lower dto skip)
    (hDistinct : (dto.nodes.map RFNodeDTO.id).Nodup) {node : RFNodeDTO} (hNode : node ∈ dto.nodes)
    {gc : GraphConstraints} (hSpec : (getSpec node.type).graphConstraints = some gc)
    (hNone : gc.maxIncoming = some 0) {edge : RFEdgeDTO} (hEdge : edge ∈ dto.edges) :
    node.id ≠ edge.target := by
  intro hTarget
  obtain ⟨-, -, -, hIncoming, -⟩ := h.degrees hDistinct hNode hSpec
  obtain ⟨source, hSource, hId⟩ := List.mem_map.mp (dto.referentialIntegrity edge hEdge).1
  have hCollects := collects_graphNode dto source
  have hOut : node.id ∈ dto.graphNodes.flatMap Node.out := by
    rw [graphNodes_eq hDistinct]
    exact List.mem_flatMap.mpr ⟨_, List.mem_map_of_mem hSource, (hCollects.mem_out _).mpr
      ⟨edge, List.mem_filter.mpr ⟨hEdge, decide_eq_true hId.symm⟩, hTarget.symm⟩⟩
  exact absurd (List.count_pos_iff.mpr hOut) (Nat.not_lt.mpr (hIncoming 0 hNone))

theorem Accepted.source_type (h : Accepted lower dto skip)
    (hDistinct : (dto.nodes.map RFNodeDTO.id).Nodup) {node : RFNodeDTO} (hNode : node ∈ dto.nodes)
    {edge : RFEdgeDTO} (hEdge : edge ∈ dto.edges) (hSource : node.id = edge.source) :
    node.type = .startNode ∨ node.type = .agentNode ∨ node.type = .trigger := by
  have hFree : ∀ gc, (getSpec node.type).graphConstraints = some gc → gc.maxOutgoing ≠ some 0 :=
    fun gc hSpec hNone => h.not_source hDistinct hNode hSpec hNone hEdge hSource
  cases hType : node.type with
  | startNode => exact .inl rfl
  | agentNode => exact .inr (.inl rfl)
  | trigger => exact .inr (.inr rfl)
  | _ => rw [hType] at hFree; exact absurd rfl (hFree _ rfl)

theorem node_eq_of_id (hDistinct : (dto.nodes.map RFNodeDTO.id).Nodup) {node other : RFNodeDTO}
    (hNode : node ∈ dto.nodes) (hOther : other ∈ dto.nodes) (hId : node.id = other.id) : node = other :=
  List.inj_on_of_nodup_map hDistinct hNode hOther hId

theorem start_eq (hOne : dto.nodes.countP (·.type = .startNode) = 1) {node other : RFNodeDTO}
    (hNode : node ∈ dto.nodes) (hOther : other ∈ dto.nodes) (hType : node.type = .startNode)
    (hOtherType : other.type = .startNode) : node = other := by
  rw [List.countP_eq_length_filter] at hOne
  obtain ⟨start, hStart⟩ := List.length_eq_one_iff.mp hOne
  have hAll : ∀ node ∈ dto.nodes, node.type = .startNode → node = start := by
    intro node hNode hType
    have hMem : node ∈ dto.nodes.filter (·.type = .startNode) :=
      List.mem_filter.mpr ⟨hNode, decide_eq_true hType⟩
    rw [hStart] at hMem
    exact List.mem_singleton.mp hMem
  rw [hAll node hNode hType, hAll other hOther hOtherType]

theorem Accepted.reachable_iff (h : Accepted lower dto skip) (hSkip : .startNode ∉ skip)
    (hDistinct : (dto.nodes.map RFNodeDTO.id).Nodup) {start : RFNodeDTO} (hStart : start ∈ dto.nodes)
    (hType : start.type = .startNode) :
    (∀ node ∈ dto.nodes, node.type.isVisited → ReflTransGen dto.Transition start.id node.id) ↔
      dto.GroupsEntered := by
  let targets : Set String := {id | ∃ node ∈ dto.nodes, node.id = id ∧ node.type.isVisited}
  let dead (id : String) : Prop := ∃ node ∈ dto.nodes, node.id = id ∧ node.type = .trigger
  have hRoot : start.id ∉ targets := by
    rintro ⟨node, hNode, hId, hVisited⟩
    rw [node_eq_of_id hDistinct hNode hStart hId, hType] at hVisited
    rcases hVisited with hEq | hEq <;> cases hEq
  have hDead : ∀ id, ReflTransGen dto.Transition start.id id → ¬dead id := by
    rintro id hReached ⟨node, hNode, rfl, hTrigger⟩
    cases hReached.cases_tail with
    | inl hEq =>
      rw [node_eq_of_id hDistinct hNode hStart hEq, hType] at hTrigger
      cases hTrigger
    | inr hLast =>
      obtain ⟨-, -, edge, hEdge, -, hTarget⟩ := hLast
      exact h.not_target hDistinct hNode (by rw [hTrigger]; rfl) rfl hEdge hTarget.symm
  have hSources : ∀ a, ∀ b ∈ targets, dto.Transition a b →
      a = start.id ∨ a ∈ targets ∨ dead a := by
    rintro a b - ⟨edge, hEdge, rfl, -⟩
    obtain ⟨node, hNode, hId⟩ := List.mem_map.mp (dto.referentialIntegrity edge hEdge).1
    rcases h.source_type hDistinct hNode hEdge hId with hFirst | hAgent | hTrigger
    · exact .inl (start_eq (h.countP_start hSkip hDistinct) hStart hNode hType hFirst ▸ hId.symm)
    · exact .inr (.inl ⟨node, hNode, hId, .inl hAgent⟩)
    · exact .inr (.inr ⟨node, hNode, hId, hTrigger⟩)
  have hReached := Reach.reached_iff_entered hRoot hDead hSources
  constructor
  · intro hAll group hNonempty hGroup
    obtain ⟨a, hOutside, hLive, b, hb, edge, hEdge, rfl, rfl⟩ :=
      hReached.mp (by rintro id ⟨node, hNode, rfl, hVisited⟩; exact hAll node hNode hVisited)
        group hGroup hNonempty
    exact ⟨edge, hEdge, hOutside, hb, fun node hNode hId hTrigger =>
      hLive ⟨node, hNode, hId, hTrigger⟩⟩
  · intro hEntered node hNode hVisited
    refine hReached.mpr ?_ node.id ⟨node, hNode, rfl, hVisited⟩
    intro group hGroup hNonempty
    obtain ⟨edge, hEdge, hOutside, hInside, hLive⟩ := hEntered group hNonempty hGroup
    exact ⟨edge.source, hOutside, fun ⟨other, hOther, hId, hTrigger⟩ =>
      hLive other hOther hId hTrigger, edge.target, hInside, edge, hEdge, rfl, rfl⟩

theorem Accepted.leads (h : Accepted lower dto skip)
    (hDistinct : (dto.nodes.map RFNodeDTO.id).Nodup) {node : RFNodeDTO} {offered : RFEdgeDTO}
    (hOffered : offered ∈ dto.outgoing node.id) :
    ∃! target, target ∈ dto.nodes ∧ ∃ edge ∈ dto.outgoing node.id,
      edge.functionName lower = offered.functionName lower ∧ edge.target = target.id := by
  obtain ⟨target, hTarget, hId⟩ := List.mem_map.mp
    (dto.referentialIntegrity offered (List.mem_filter.mp hOffered).1).2
  refine ⟨target, ⟨hTarget, offered, hOffered, rfl, hId.symm⟩, ?_⟩
  rintro other ⟨hOther, edge, hEdge, hName, hOtherId⟩
  have hSame : edge = offered :=
    List.inj_on_of_nodup_map (nodup_names h.names node.id) hEdge hOffered hName
  rw [hSame] at hOtherId
  exact node_eq_of_id hDistinct hOther hTarget (hOtherId.symm.trans hId.symm)

/-- A validated graph is sound for execution exactly if no id is repeated and every group of nodes can
be entered. -/
theorem sufficient_for_execution_iff (lower : String → String) (dto : WorkflowGraphDTO)
    (skip : List NodeType) (graph : WorkflowGraph) (hSkip : .startNode ∉ skip)
    (hInit : WorkflowGraph.init lower dto skip = .ok graph) :
    SufficientForExecution lower dto ↔ (dto.nodes.map RFNodeDTO.id).Nodup ∧ dto.GroupsEntered := by
  have h := accepted_of_init hInit
  constructor
  · intro hSound
    refine ⟨hSound.distinctIds, ?_⟩
    obtain ⟨start, hStart, hType⟩ := List.countP_pos_iff.mp
      (Nat.lt_of_lt_of_eq Nat.zero_lt_one (h.countP_start hSkip hSound.distinctIds).symm)
    have hType := of_decide_eq_true hType
    exact (h.reachable_iff hSkip hSound.distinctIds hStart hType).mp
      (hSound.reachable start hStart hType)
  · rintro ⟨hDistinct, hEntered⟩
    have hOne := h.countP_start hSkip hDistinct
    exact
      { distinctIds := hDistinct
        oneStart := hOne
        reachable := fun start hStart hType =>
          (h.reachable_iff hSkip hDistinct hStart hType).mpr hEntered
        nothingEntersStart := fun edge hEdge node hNode hTarget hType =>
          h.not_target hDistinct hNode (by rw [hType]; rfl) rfl hEdge hTarget
        nothingLeaves := fun edge hEdge node hNode hSource hType => by
          rcases h.source_type hDistinct hNode hEdge hSource with hEq | hEq | hEq <;>
            simp [hEq] at hType
        distinctNames := fun node _ => nodup_names h.names node.id
        leads := fun node _ offered hOffered => h.leads hDistinct hOffered }

end Accepted

def transition (label : String) (h : label ≠ "" := by decide) : EdgeDataDTO := ⟨label, label, h, h⟩

def shortCall : WorkflowGraphDTO where
  nodes := [⟨"1", .startNode⟩, ⟨"2", .agentNode⟩, ⟨"3", .endNode⟩]
  edges := [⟨"1-2", "1", "2", transition "ask"⟩, ⟨"2-2", "2", "2", transition "ask again"⟩,
    ⟨"2-3", "2", "3", transition "done"⟩]
  referentialIntegrity := by decide

theorem shortCall_entered : shortCall.GroupsEntered := by
  intro group hNonempty hGroup
  have hStart : "1" ∉ group := by
    intro hMem
    have hNot : ¬∃ node ∈ shortCall.nodes, node.id = "1" ∧
        (node.type = .agentNode ∨ node.type = .endNode) := by decide
    exact hNot (hGroup "1" hMem)
  by_cases hAgent : "2" ∈ group
  · exact ⟨⟨"1-2", "1", "2", transition "ask"⟩, by decide, hStart, hAgent, by decide⟩
  · obtain ⟨id, hId⟩ := hNonempty
    have hEnd : id = "3" := by
      obtain ⟨node, hNode, rfl, -⟩ := hGroup id hId
      have hIds : ∀ node ∈ shortCall.nodes, node.id = "1" ∨ node.id = "2" ∨ node.id = "3" := by
        decide
      rcases hIds node hNode with hEq | hEq | hEq
      · exact absurd (hEq ▸ hId) hStart
      · exact absurd (hEq ▸ hId) hAgent
      · exact hEq
    exact ⟨⟨"2-3", "2", "3", transition "done"⟩, by decide, hAgent, hEnd ▸ hId, by decide⟩

theorem shortCall_sufficient : SufficientForExecution id shortCall := by
  have hAccepts : (WorkflowGraph.init id shortCall []).toBool = true := by decide +kernel
  cases hInit : WorkflowGraph.init id shortCall [] with
  | error error =>
    rw [hInit] at hAccepts
    cases hAccepts
  | ok graph =>
    exact (sufficient_for_execution_iff id shortCall [] graph (by decide) hInit).mpr
      ⟨by decide, shortCall_entered⟩

def detachedAgent : WorkflowGraphDTO where
  nodes := [⟨"1", .startNode⟩, ⟨"2", .agentNode⟩]
  edges := [⟨"2-2", "2", "2", transition "again"⟩]
  referentialIntegrity := by decide

theorem detached_agent_accepted : ¬ ∀ (lower : String → String) (dto : WorkflowGraphDTO)
    (graph : WorkflowGraph), WorkflowGraph.init lower dto [] = .ok graph →
    SufficientForExecution lower dto := by
  intro h
  have hAccepts : (WorkflowGraph.init id detachedAgent []).toBool = true := by decide +kernel
  cases hInit : WorkflowGraph.init id detachedAgent [] with
  | error error =>
    rw [hInit] at hAccepts
    cases hAccepts
  | ok graph =>
    have hReached := (h id detachedAgent graph hInit).reachable ⟨"1", .startNode⟩ (by decide) rfl
      ⟨"2", .agentNode⟩ (by decide) (.inl rfl)
    rcases hReached.cases_head with hEq | ⟨next, ⟨edge, hEdge, hSource, -⟩, -⟩
    · exact absurd hEq (by decide)
    · exact absurd hSource ((by decide : ∀ edge ∈ detachedAgent.edges, edge.source ≠ "1") edge hEdge)

end FastVoice.Workflows
