import FastVoice.Engine.ToolNames

/-! # One handler for each name

A definition that passes the checks of names gives a node functions of different names, each answered by its
own handler, exactly if none of the names that the checks do not see is used twice: those of the knowledge
base, the calculator and the servers.
-/
namespace FastVoice.Engine
open Workflows

inductive NameSource where
  | calculator
  | mcp
  | custom
  deriving DecidableEq

def ToolModel.nameSource (tool : ToolModel) : NameSource :=
  match tool.category with
  | .calculator => .calculator
  | .mcp => .mcp
  | _ => .custom

section

variable (lower : String → String) (box : ToolBox) (definition : WorkflowDefinition)
  (node : DefinitionNode)

def ToolModel.functionName (tool : ToolModel) : String := customToolFunctionName lower tool.name

def McpSession.slug (session : McpSession) : String :=
  serverSlug lower session.toolName (String.ofList (session.toolUuid.toList.take 8))

def exposed (tool : ToolModel) : List String :=
  match box.session tool with
  | none => []
  | some session =>
    let allowed := allowedNames node.data.mcpToolFilters tool.toolUuid
    (session.catalog.filter fun entry => allowed.all (entry.name ∈ ·)).map FunctionSchema.name

def slugOf (tool : ToolModel) : Option String := (box.session tool).map (McpSession.slug lower)

def ToolsApart (a b : ToolModel) : Prop :=
  match a.nameSource, b.nameSource with
  | .calculator, .calculator => False
  | .calculator, .custom => b.functionName lower ≠ "safe_calculator"
  | .custom, .calculator => a.functionName lower ≠ "safe_calculator"
  | .mcp, .mcp => slugOf lower box a = slugOf lower box b →
      (exposed box node a).Disjoint (exposed box node b)
  | _, _ => True

structure TransitionApart (name : String) : Prop where
  knowledgeBase : node.data.documentUuids ≠ [] → name ≠ "retrieve_from_knowledge_base"
  calculator : ∀ tool ∈ box.nodeTools node, tool.nameSource = .calculator → name ≠ "safe_calculator"
  mcp : ∀ tool ∈ box.nodeTools node, tool.nameSource = .mcp → ∀ session ∈ box.session tool,
    ∀ entry ∈ exposed box node tool, name ≠ "mcp__" ++ session.slug lower ++ "__" ++ entry

structure NamesApart : Prop where
  tools : (box.nodeTools node).Pairwise (ToolsApart lower box node)
  catalogs : ∀ tool ∈ box.nodeTools node, tool.nameSource = .mcp → (exposed box node tool).Nodup
  knowledgeBase : node.data.documentUuids ≠ [] → ∀ tool ∈ box.nodeTools node,
    tool.nameSource = .custom → tool.functionName lower ≠ "retrieve_from_knowledge_base"
  transitions : ∀ edge ∈ definition.outEdges node, TransitionApart lower box node (edge.functionName lower)

/-- Names registered for the node differ, and each schema is answered by its own handler. -/
structure OneHandler : Prop where
  distinct : ((registrations lower box definition node).map Prod.fst).Nodup
  handled : ∀ entry ∈ composedFunctions lower box definition node,
    handlerOf (registrations lower box definition node) entry.1.name = some entry.2

end

/-! ## Registered names -/

section Registry

theorem lookup_reverse_of_nodup {registered : List (String × Handler)}
    (h : (registered.map Prod.fst).Nodup) {name : String} {handler : Handler}
    (hMem : (name, handler) ∈ registered) : handlerOf registered name = some handler := by
  have hReverse : (registered.reverse.map Prod.fst).Nodup := by
    rw [List.map_reverse]
    exact List.nodup_reverse.mpr h
  have hMem' : (name, handler) ∈ registered.reverse := List.mem_reverse.mpr hMem
  unfold handlerOf
  generalize registered.reverse = l at hReverse hMem'
  induction l with
  | nil => cases hMem'
  | cons entry l ih =>
    rw [List.map_cons, List.nodup_cons] at hReverse
    obtain rfl | hRest := List.mem_cons.mp hMem'
    · simp
    · have hNe : name ≠ entry.1 := by
        rintro rfl
        exact hReverse.1 (List.mem_map.mpr ⟨_, hRest, rfl⟩)
      have hBeq : (name == entry.1) = false := by simpa using hNe
      rw [List.lookup_cons, hBeq]
      exact ih hReverse.2 hRest

variable {lower : String → String} {box : ToolBox} {definition : WorkflowDefinition}
  {node : DefinitionNode}

theorem registrations_eq (hNode : nodeById definition.nodes node.id = some node) :
    registrations lower box definition node = ((definition.outEdges node).map (transitionFunction lower) ++
        (box.nodeTools node).flatMap (box.toolFunctions lower node) ++ knowledgeBaseFunctions node).map
          fun entry => (entry.1.name, entry.2) := by
  unfold registrations
  split
  · rename_i hEnd
    have hNone : definition.outEdges node = [] := by
      rw [WorkflowDefinition.outEdges, List.filter_eq_nil_iff]
      exact fun edge hEdge hSource =>
        definition.endsClosed _ _ hNode hEnd edge hEdge (of_decide_eq_true hSource)
    rw [hNone]
    rfl
  · rfl

theorem mem_registrations (hNode : nodeById definition.nodes node.id = some node)
    {entry : FunctionSchema × Handler} (h : entry ∈ composedFunctions lower box definition node) :
    (entry.1.name, entry.2) ∈ registrations lower box definition node := by
  rw [registrations_eq hNode]
  refine List.mem_map.mpr ⟨entry, ?_, rfl⟩
  simp only [composedFunctions, List.mem_append] at h ⊢
  tauto

theorem oneHandler_iff_nodup (hNode : nodeById definition.nodes node.id = some node) :
    OneHandler lower box definition node ↔
      ((registrations lower box definition node).map Prod.fst).Nodup := by
  refine ⟨fun h => h.distinct, fun h => ⟨h, fun entry hEntry => ?_⟩⟩
  exact lookup_reverse_of_nodup h (mem_registrations hNode hEntry)

end Registry

/-! ## What the checks rule out -/

section Checks

variable {lower : String → String} {box : ToolBox} {definition : WorkflowDefinition}
  {node : DefinitionNode} {organizationId : Nat}

theorem find?_filter_of_find? {α : Type} {p q : α → Bool} {l : List α} {a : α} (h : l.find? q = some a)
    (hp : p a = true) : (l.filter p).find? q = some a := by
  induction l with
  | nil => cases h
  | cons b l ih =>
    rw [List.find?_cons] at h
    cases hq : q b with
    | true =>
      rw [hq] at h
      obtain rfl : b = a := Option.some.inj h
      rw [List.filter_cons_of_pos hp, List.find?_cons, hq]
    | false =>
      rw [hq] at h
      cases hpb : p b with
      | true => rw [List.filter_cons_of_pos hpb, List.find?_cons, hq]; exact ih h
      | false => rw [List.filter_cons_of_neg (by simp [hpb])]; exact ih h

theorem mem_toolUuidsOf (hNode : nodeById definition.nodes node.id = some node) {uuid : String}
    (hUuid : uuid ∈ node.data.toolUuids) : uuid ∈ toolUuidsOf definition node.id := by
  have hNonempty : decide (node.data.toolUuids ≠ []) = true := decide_eq_true (List.ne_nil_of_mem hUuid)
  have hFound : (definition.nodes.filter (·.data.toolUuids ≠ [])).reverse.find? (·.id = node.id) =
      some node := by
    rw [← List.filter_reverse]
    exact find?_filter_of_find? hNode hNonempty
  rw [toolUuidsOf, hFound, List.mem_mergeSort, List.mem_dedup]
  exact hUuid

theorem node_mem (hNode : nodeById definition.nodes node.id = some node) : node ∈ definition.nodes :=
  List.mem_reverse.mp (List.mem_of_find?_eq_some hNode)

theorem mem_nodeTools {tool : ToolModel} (hOrg : box.organizationId = some organizationId) :
    tool ∈ box.nodeTools node ↔ tool ∈ box.tools ∧ tool.toolUuid ∈ node.data.toolUuids ∧
      tool.organizationId = organizationId ∧ tool.isActive = true := by
  simp [ToolBox.nodeTools, ToolBox.getToolsByUuids, hOrg, and_assoc]

theorem mem_customTools (hNode : nodeById definition.nodes node.id = some node)
    (hOrg : box.organizationId = some organizationId) {tool : ToolModel} (hTool : tool ∈ box.nodeTools node)
    (hCustom : tool.nameSource = .custom) : tool ∈ customTools box organizationId definition node.id := by
  obtain ⟨hMem, hUuid, hOwner, hActive⟩ := (mem_nodeTools hOrg).mp hTool
  have hAll : tool.toolUuid ∈ definition.nodes.flatMap (·.data.toolUuids) :=
    List.mem_flatMap.mpr ⟨node, node_mem hNode, hUuid⟩
  have hStatic : tool.isDynamic = false := by
    cases hCategory : tool.category <;>
      simp [ToolModel.isDynamic, hCategory, ToolModel.nameSource] at hCustom ⊢
  have hRead : tool ∈ box.getToolsByUuids (definition.nodes.flatMap (·.data.toolUuids)) organizationId := by
    simp only [ToolBox.getToolsByUuids, List.mem_filter, Bool.and_eq_true, decide_eq_true_eq]
    exact ⟨hMem, ⟨hAll, hOwner⟩, hActive⟩
  refine List.mem_filterMap.mpr ⟨tool.toolUuid, mem_toolUuidsOf hNode hUuid, ?_⟩
  have hSome : ((box.getToolsByUuids (definition.nodes.flatMap (·.data.toolUuids)) organizationId).find?
      fun other => decide (other.toolUuid = tool.toolUuid) && !other.isDynamic).isSome = true :=
    List.find?_isSome.mpr ⟨tool, hRead, by simp [hStatic]⟩
  obtain ⟨other, hOther⟩ := Option.isSome_iff_exists.mp hSome
  have hSame : other.toolUuid = tool.toolUuid := by
    have hWhere := List.find?_some hOther
    simp only [Bool.and_eq_true, decide_eq_true_eq] at hWhere
    exact hWhere.1
  have hOtherMem : other ∈ box.tools := List.mem_of_mem_filter (List.mem_of_find?_eq_some hOther)
  rw [hOther, List.inj_on_of_nodup_map box.distinct hOtherMem hMem hSame]

theorem two_le_length {α : Type} {l : List α} {a b : α} (ha : a ∈ l) (hb : b ∈ l) (hNe : a ≠ b) :
    2 ≤ l.length := by
  match l, ha, hb with
  | [_], ha, hb =>
    rw [List.mem_singleton] at ha hb
    exact absurd (ha.trans hb.symm) hNe
  | _ :: _ :: _, _, _ => simp

theorem mem_matchingTools {tool : ToolModel} {nodeId functionName : String}
    (hTool : tool ∈ customTools box organizationId definition nodeId)
    (hName : tool.functionName lower = functionName) :
    tool ∈ matchingTools lower box organizationId definition nodeId functionName :=
  List.mem_filter.mpr ⟨hTool, decide_eq_true hName⟩

theorem custom_apart (hNode : nodeById definition.nodes node.id = some node)
    (hOrg : box.organizationId = some organizationId)
    (hValid : validateWorkflowToolNameCollisions lower box organizationId definition = [])
    {a b : ToolModel} (ha : a ∈ box.nodeTools node) (hb : b ∈ box.nodeTools node)
    (hCustomA : a.nameSource = .custom) (hCustomB : b.nameSource = .custom) (hNe : a ≠ b) :
    a.functionName lower ≠ b.functionName lower := by
  intro hName
  have hMemA := mem_customTools hNode hOrg ha hCustomA
  have hMemB := mem_customTools hNode hOrg hb hCustomB
  have hIds : node.id ∈
      ((definition.nodes.filter (·.data.toolUuids ≠ [])).map DefinitionNode.id).eraseDups := by
    rw [List.mem_eraseDups]
    refine List.mem_map.mpr ⟨node, List.mem_filter.mpr ⟨node_mem hNode, ?_⟩, rfl⟩
    exact decide_eq_true (List.ne_nil_of_mem ((mem_nodeTools hOrg).mp ha).2.1)
  have hNone : duplicateErrors lower box organizationId definition node.id = [] :=
    List.flatMap_eq_nil_iff.mp (List.append_eq_nil_iff.mp hValid).1 _ hIds
  have hKey : a.functionName lower ∈ ((customTools box organizationId definition node.id).map
      fun tool => customToolFunctionName lower tool.name).eraseDups :=
    List.mem_eraseDups.mpr (List.mem_map.mpr ⟨a, hMemA, rfl⟩)
  have hTwo : 2 ≤ (matchingTools lower box organizationId definition node.id
      (a.functionName lower)).length :=
    two_le_length (mem_matchingTools hMemA rfl) (mem_matchingTools hMemB hName.symm) hNe
  simp only [duplicateErrors, List.flatMap_eq_nil_iff] at hNone
  have hErrors := hNone _ hKey
  rw [if_neg (Nat.not_lt.mpr hTwo)] at hErrors
  exact List.cons_ne_nil _ _ hErrors

theorem transition_custom_apart (hNode : nodeById definition.nodes node.id = some node)
    (hOrg : box.organizationId = some organizationId)
    (hValid : validateWorkflowToolNameCollisions lower box organizationId definition = [])
    {edge : RFEdgeDTO} (hEdge : edge ∈ definition.outEdges node) {tool : ToolModel}
    (hTool : tool ∈ box.nodeTools node) (hCustom : tool.nameSource = .custom) :
    edge.functionName lower ≠ tool.functionName lower := by
  intro hName
  obtain ⟨hMem, hSource⟩ := List.mem_filter.mp hEdge
  have hSourceEq : edge.source = node.id := of_decide_eq_true hSource
  have hErrors := List.flatMap_eq_nil_iff.mp (List.append_eq_nil_iff.mp hValid).2 _ hMem
  have hFound : tool ∈ matchingTools lower box organizationId definition edge.source
      (edge.functionName lower) := by
    rw [hSourceEq]
    exact mem_matchingTools (mem_customTools hNode hOrg hTool hCustom) hName.symm
  rw [conflictErrors, if_neg (List.ne_nil_of_mem hFound)] at hErrors
  cases hErrors

end Checks

/-! ## The names of one tool -/

section ToolNames

variable {lower : String → String} {box : ToolBox} {node : DefinitionNode} {tool a b : ToolModel}

variable (lower box node) in
def namesOf (tool : ToolModel) : List String :=
  (box.toolFunctions lower node tool).map fun entry => entry.1.name

theorem namesOf_calculator (h : tool.nameSource = .calculator) :
    namesOf lower box node tool = ["safe_calculator"] := by
  cases hCategory : tool.category <;> simp [ToolModel.nameSource, hCategory] at h
  simp [namesOf, ToolBox.toolFunctions, hCategory, calculatorSchema]

theorem namesOf_custom (h : tool.nameSource = .custom) :
    namesOf lower box node tool = [tool.functionName lower] := by
  cases hCategory : tool.category <;> simp [ToolModel.nameSource, hCategory] at h <;>
    simp [namesOf, ToolBox.toolFunctions, hCategory, toolToFunctionSchema, ToolModel.functionName]

theorem namesOf_mcp (h : tool.nameSource = .mcp) :
    namesOf lower box node tool = (box.session tool).toList.flatMap fun session =>
      (exposed box node tool).map fun entry => "mcp__" ++ session.slug lower ++ "__" ++ entry := by
  cases hCategory : tool.category <;> simp [ToolModel.nameSource, hCategory] at h
  cases hSession : box.session tool with
  | none => simp [namesOf, ToolBox.toolFunctions, hCategory, hSession]
  | some session =>
    simp [namesOf, ToolBox.toolFunctions, hCategory, hSession, McpSession.functionSchemas, exposed,
      McpSession.namespaced, namespaceFunctionName, McpSession.slug, Function.comp_def]

theorem mem_namesOf_mcp (h : tool.nameSource = .mcp) {name : String} :
    name ∈ namesOf lower box node tool ↔ ∃ session ∈ box.session tool,
      ∃ entry ∈ exposed box node tool, name = "mcp__" ++ session.slug lower ++ "__" ++ entry := by
  rw [namesOf_mcp h]
  simp [List.mem_flatMap, List.mem_map, eq_comm]

theorem double_of_mcp (session : McpSession) (entry : String) :
    ¬NoDouble ("mcp__" ++ session.slug lower ++ "__" ++ entry).toList :=
  double_namespaceFunctionName session.toolName entry _

theorem noDouble_safeCalculator : NoDouble "safe_calculator".toList := by
  show ¬_
  decide

theorem noDouble_retrieve : NoDouble "retrieve_from_knowledge_base".toList := by
  show ¬_
  decide

theorem notMem_namesOf_mcp (h : tool.nameSource = .mcp) {name : String} (hName : NoDouble name.toList) :
    name ∉ namesOf lower box node tool := by
  rw [mem_namesOf_mcp h]
  rintro ⟨session, -, entry, -, rfl⟩
  exact double_of_mcp session entry hName

theorem nodup_namesOf : (namesOf lower box node tool).Nodup ↔
    (tool.nameSource = .mcp → (exposed box node tool).Nodup) := by
  cases hSource : tool.nameSource with
  | calculator => simp [namesOf_calculator hSource]
  | custom => simp [namesOf_custom hSource]
  | mcp =>
    rw [namesOf_mcp hSource]
    cases hSession : box.session tool with
    | none => simp [exposed, hSession]
    | some session =>
      have hInj : Function.Injective fun entry => "mcp__" ++ session.slug lower ++ "__" ++ entry := by
        intro entry entry' hEq
        exact (namespaceFunctionName_inj.mp (show namespaceFunctionName lower session.toolName entry _ =
          namespaceFunctionName lower session.toolName entry' _ from hEq)).2
      simp [List.nodup_map_iff hInj]

theorem mcp_disjoint_iff (ha : a.nameSource = .mcp) (hb : b.nameSource = .mcp) :
    (namesOf lower box node a).Disjoint (namesOf lower box node b) ↔
      (slugOf lower box a = slugOf lower box b → (exposed box node a).Disjoint (exposed box node b)) := by
  constructor
  · intro hDisjoint hSlug entry hEntryA hEntryB
    cases hSession : box.session a with
    | none => simp [exposed, hSession] at hEntryA
    | some session =>
      cases hOther : box.session b with
      | none => simp [exposed, hOther] at hEntryB
      | some other =>
        simp only [slugOf, hSession, hOther, Option.map_some, Option.some.injEq] at hSlug
        exact hDisjoint ((mem_namesOf_mcp ha).mpr ⟨session, hSession, entry, hEntryA, rfl⟩)
          ((mem_namesOf_mcp hb).mpr ⟨other, hOther, entry, hEntryB, by rw [hSlug]⟩)
  · intro hApart name hNameA hNameB
    obtain ⟨session, hSession, entry, hEntry, rfl⟩ := (mem_namesOf_mcp ha).mp hNameA
    obtain ⟨other, hOther, entry', hEntry', hEq⟩ := (mem_namesOf_mcp hb).mp hNameB
    obtain ⟨hSlug, rfl⟩ := namespaceFunctionName_inj.mp
      (show namespaceFunctionName lower session.toolName entry _ =
        namespaceFunctionName lower other.toolName entry' _ from hEq)
    have hSession' : box.session a = some session := hSession
    have hOther' : box.session b = some other := hOther
    refine hApart ?_ hEntry hEntry'
    rw [slugOf, slugOf, hSession', hOther']
    exact congrArg some hSlug

theorem disjoint_namesOf_iff (hCustom : a.nameSource = .custom → b.nameSource = .custom →
      a.functionName lower ≠ b.functionName lower) :
    (namesOf lower box node a).Disjoint (namesOf lower box node b) ↔ ToolsApart lower box node a b := by
  unfold ToolsApart
  cases ha : a.nameSource <;> cases hb : b.nameSource <;> dsimp only
  · simp [namesOf_calculator ha, namesOf_calculator hb]
  · simp [namesOf_calculator ha, notMem_namesOf_mcp hb noDouble_safeCalculator]
  · simp [namesOf_calculator ha, namesOf_custom hb, eq_comm]
  · simp [namesOf_calculator hb, notMem_namesOf_mcp ha noDouble_safeCalculator]
  · exact mcp_disjoint_iff ha hb
  · simp [namesOf_custom hb, notMem_namesOf_mcp ha (noDouble_customToolFunctionName b.name),
      ToolModel.functionName]
  · simp [namesOf_custom ha, namesOf_calculator hb, eq_comm]
  · simp [namesOf_custom ha, notMem_namesOf_mcp hb (noDouble_customToolFunctionName a.name),
      ToolModel.functionName]
  · simp [namesOf_custom ha, namesOf_custom hb, (hCustom ha hb).symm]

end ToolNames

/-! ## All functions of a node -/

section Node

variable {lower : String → String} {box : ToolBox} {definition : WorkflowDefinition}
  {node : DefinitionNode}

theorem names_registrations (hNode : nodeById definition.nodes node.id = some node) :
    (registrations lower box definition node).map Prod.fst =
      (definition.outEdges node).map (RFEdgeDTO.functionName lower) ++
        (box.nodeTools node).flatMap (namesOf lower box node) ++
          (knowledgeBaseFunctions node).map fun entry => entry.1.name := by
  rw [registrations_eq hNode]
  simp only [List.map_map, List.map_append, List.map_flatMap]
  rfl

theorem mem_knowledgeBase {name : String} :
    name ∈ ((knowledgeBaseFunctions node).map fun entry => entry.1.name) ↔
      node.data.documentUuids ≠ [] ∧ name = "retrieve_from_knowledge_base" := by
  unfold knowledgeBaseFunctions
  split
  · rename_i hNone
    simp [hNone]
  · rename_i hSome
    simp [hSome, knowledgeBaseSchema]

theorem nodup_knowledgeBase : ((knowledgeBaseFunctions node).map fun entry => entry.1.name).Nodup := by
  unfold knowledgeBaseFunctions
  split <;> simp

theorem nodup_nodeTools : (box.nodeTools node).Nodup := by
  have hTools : box.tools.Nodup := List.Nodup.of_map _ box.distinct
  unfold ToolBox.nodeTools
  cases box.organizationId with
  | none => exact List.nodup_nil
  | some organizationId => exact hTools.filter _

theorem notMem_tools_iff {edge : RFEdgeDTO} (hCustom : ∀ tool ∈ box.nodeTools node,
      tool.nameSource = .custom → edge.functionName lower ≠ tool.functionName lower) :
    edge.functionName lower ∉ (box.nodeTools node).flatMap (namesOf lower box node) ↔
      (∀ tool ∈ box.nodeTools node, tool.nameSource = .calculator →
          edge.functionName lower ≠ "safe_calculator") ∧
        ∀ tool ∈ box.nodeTools node, tool.nameSource = .mcp → ∀ session ∈ box.session tool,
          ∀ entry ∈ exposed box node tool,
            edge.functionName lower ≠ "mcp__" ++ session.slug lower ++ "__" ++ entry := by
  constructor
  · intro hNot
    constructor
    · rintro tool hTool hSource hName
      exact hNot (List.mem_flatMap.mpr ⟨tool, hTool, by simp [namesOf_calculator hSource, hName]⟩)
    · rintro tool hTool hSource session hSession entry hEntry hName
      exact hNot (List.mem_flatMap.mpr
        ⟨tool, hTool, (mem_namesOf_mcp hSource).mpr ⟨session, hSession, entry, hEntry, hName⟩⟩)
  · rintro ⟨hCalculator, hMcp⟩ hMem
    obtain ⟨tool, hTool, hName⟩ := List.mem_flatMap.mp hMem
    cases hSource : tool.nameSource with
    | calculator =>
      rw [namesOf_calculator hSource] at hName
      exact hCalculator tool hTool hSource (List.mem_singleton.mp hName)
    | custom =>
      rw [namesOf_custom hSource] at hName
      exact hCustom tool hTool hSource (List.mem_singleton.mp hName)
    | mcp =>
      obtain ⟨session, hSession, entry, hEntry, hName⟩ := (mem_namesOf_mcp hSource).mp hName
      exact hMcp tool hTool hSource session hSession entry hEntry hName

theorem retrieve_notMem_tools_iff :
    "retrieve_from_knowledge_base" ∉ (box.nodeTools node).flatMap (namesOf lower box node) ↔
      ∀ tool ∈ box.nodeTools node, tool.nameSource = .custom →
        tool.functionName lower ≠ "retrieve_from_knowledge_base" := by
  rw [List.mem_flatMap]
  constructor
  · intro hNot tool hTool hSource hName
    exact hNot ⟨tool, hTool, by simp [namesOf_custom hSource, hName]⟩
  · rintro hCustom ⟨tool, hTool, hName⟩
    cases hSource : tool.nameSource with
    | calculator =>
      rw [namesOf_calculator hSource] at hName
      exact absurd (List.mem_singleton.mp hName) (by decide)
    | custom =>
      rw [namesOf_custom hSource] at hName
      exact hCustom tool hTool hSource (List.mem_singleton.mp hName).symm
    | mcp => exact notMem_namesOf_mcp hSource noDouble_retrieve hName

theorem nodup_tools_iff (hCustom : ∀ a ∈ box.nodeTools node, ∀ b ∈ box.nodeTools node,
      a.nameSource = .custom → b.nameSource = .custom → a ≠ b → a.functionName lower ≠ b.functionName lower) :
    ((box.nodeTools node).flatMap (namesOf lower box node)).Nodup ↔
      (∀ tool ∈ box.nodeTools node, tool.nameSource = .mcp → (exposed box node tool).Nodup) ∧
        (box.nodeTools node).Pairwise (ToolsApart lower box node) := by
  have hPair : ∀ a ∈ box.nodeTools node, ∀ b ∈ box.nodeTools node, a ≠ b →
      ((namesOf lower box node a).Disjoint (namesOf lower box node b) ↔ ToolsApart lower box node a b) :=
    fun a ha b hb hNe => disjoint_namesOf_iff fun hA hB => hCustom a ha b hb hA hB hNe
  have hNe : (box.nodeTools node).Pairwise (· ≠ ·) := nodup_nodeTools
  rw [List.nodup_flatMap]
  refine and_congr ⟨fun h tool hTool => nodup_namesOf.mp (h tool hTool),
    fun h tool hTool => nodup_namesOf.mpr (h tool hTool)⟩ ⟨fun h => ?_, fun h => ?_⟩
  · exact (h.and hNe).imp_of_mem fun ha hb hBoth => (hPair _ ha _ hb hBoth.2).mp hBoth.1
  · exact (h.and hNe).imp_of_mem fun ha hb hBoth => (hPair _ ha _ hb hBoth.2).mpr hBoth.1

end Node

/-! ## One node with documents -/

def httpTool (name : String) : ToolModel where
  toolUuid := "tool-1"
  organizationId := 1
  isActive := true
  name := name
  description := ""
  category := .httpApi
  definitionType := "http_api"
  config := {}

def oneTool (name : String) : ToolBox where
  tools := [httpTool name]
  distinct := List.nodup_singleton _
  organizationId := some 1
  mcpSessions := []

def documentNode : DefinitionNode := ⟨"1", .startNode, { toolUuids := ["tool-1"], documentUuids := ["doc-1"] }⟩

def endNode : DefinitionNode := ⟨"2", .endNode, {}⟩

def documentCall : WorkflowDefinition where
  nodes := [documentNode, endNode]
  edges := [⟨"e1", "1", "2", transition "goodbye"⟩]
  endsClosed := by
    intro id node hNode hEnd edge hEdge hSource
    rw [List.mem_singleton.mp hEdge] at hSource
    subst hSource
    have hStart : node = documentNode := (Option.some.inj hNode).symm
    rw [hStart] at hEnd
    cases hEnd

end FastVoice.Engine
