import Mathlib.Data.List.Dedup
import Mathlib.Data.List.Sort
import FastVoice.Engine.Tools

/-! # Names of functions

What `validate_workflow_tool_name_collisions` checks, and which names the five sources of functions can give.
-/
namespace FastVoice.Engine
open Workflows

def ToolModel.isDynamic (tool : ToolModel) : Bool := tool.category = .calculator || tool.category = .mcp

section Check

variable (lower : String → String) (box : ToolBox) (organizationId : Nat) (definition : WorkflowDefinition)

def toolUuidsOf (nodeId : String) : List String :=
  let node := (definition.nodes.filter (·.data.toolUuids ≠ [])).reverse.find? (·.id = nodeId)
  ((node.map (·.data.toolUuids)).getD []).dedup.mergeSort (· ≤ ·)

def customTools (nodeId : String) : List ToolModel :=
  let all := definition.nodes.flatMap (·.data.toolUuids)
  (toolUuidsOf definition nodeId).filterMap fun uuid =>
    (box.getToolsByUuids all organizationId).find? fun tool => tool.toolUuid = uuid && !tool.isDynamic

def toolNames (tools : List ToolModel) : String :=
  ", ".intercalate (tools.map fun tool => "\"" ++ tool.name ++ "\"")

def duplicateToolsError (nodeId functionName : String) (tools : List ToolModel) : WorkflowError where
  kind := .node
  id := some nodeId
  field := some "data.tool_uuids"
  message := "Custom tools " ++ toolNames tools ++ " generate duplicate LLM tool name \"" ++ functionName ++
    "\" on this node. Rename one of the tools."

def transitionConflictError (edgeId functionName : String) (tools : List ToolModel) : WorkflowError where
  kind := .edge
  id := some edgeId
  field := some "data.label"
  message := "Transition tool name \"" ++ functionName ++ "\" conflicts with custom tool " ++
    toolNames tools ++ " attached to this node. Use a unique edge label or rename the custom tool."

def matchingTools (nodeId functionName : String) : List ToolModel :=
  (customTools box organizationId definition nodeId).filter fun tool =>
    customToolFunctionName lower tool.name = functionName

def duplicateErrors (nodeId : String) : List WorkflowError :=
  let tools := customTools box organizationId definition nodeId
  (tools.map fun tool => customToolFunctionName lower tool.name).eraseDups.flatMap fun functionName =>
    let found := matchingTools lower box organizationId definition nodeId functionName
    if found.length < 2 then [] else [duplicateToolsError nodeId functionName found]

def conflictErrors (edge : RFEdgeDTO) : List WorkflowError :=
  let functionName := edge.functionName lower
  let found := matchingTools lower box organizationId definition edge.source functionName
  if found = [] then [] else [transitionConflictError edge.id functionName found]

def validateWorkflowToolNameCollisions : List WorkflowError :=
  ((definition.nodes.filter (·.data.toolUuids ≠ [])).map DefinitionNode.id).eraseDups.flatMap
      (duplicateErrors lower box organizationId definition) ++
    definition.edges.flatMap (conflictErrors lower box organizationId definition)

end Check

def NoDouble (text : List Char) : Prop := ¬['_', '_'] <:+: text

theorem NoDouble.part {text part : List Char} (h : NoDouble text) (hPart : part <:+: text) : NoDouble part :=
  fun hDouble => h (hDouble.trans hPart)

theorem noDouble_cons {c : Char} {text : List Char} (h : NoDouble text)
    (hHead : ¬(c = '_' ∧ text.head? = some '_')) : NoDouble (c :: text) := by
  intro hInfix
  obtain hPrefix | hRest := List.infix_cons_iff.mp hInfix
  · obtain ⟨hFirst, hPrefix⟩ := List.cons_prefix_cons.mp hPrefix
    cases text with
    | nil => simp at hPrefix
    | cons d text =>
      obtain ⟨hSecond, -⟩ := List.cons_prefix_cons.mp hPrefix
      exact hHead ⟨hFirst.symm, by rw [← hSecond]; rfl⟩
  · exact h hRest

theorem head_collapseUnderscores (text : List Char) (h : text.head? ≠ some '_') :
    (collapseUnderscores text).head? ≠ some '_' := by
  cases text with
  | nil => simp [collapseUnderscores]
  | cons c text =>
    have hFirst : c ≠ '_' := fun hEq => h (by rw [hEq]; rfl)
    rw [collapseUnderscores, if_neg fun hBoth => hFirst hBoth.1]
    exact fun hHead => hFirst (Option.some.inj hHead)

theorem noDouble_collapseUnderscores (text : List Char) : NoDouble (collapseUnderscores text) := by
  induction text with
  | nil => simp [NoDouble, collapseUnderscores]
  | cons c text ih =>
    rw [collapseUnderscores]
    split
    · exact ih
    · rename_i hNot
      apply noDouble_cons ih
      rintro ⟨hFirst, hHead⟩
      exact head_collapseUnderscores text (fun hEq => hNot ⟨hFirst, hEq⟩) hHead

theorem stripUnderscores_isPart (text : List Char) : stripUnderscores text <:+: text :=
  (List.rdropWhile_prefix _ _).isInfix.trans (List.dropWhile_suffix _).isInfix

theorem last_stripUnderscores (text : List Char) : (stripUnderscores text).getLast? ≠ some '_' := by
  intro hLast
  have hNonempty : stripUnderscores text ≠ [] := by
    intro hNil
    rw [hNil] at hLast
    cases hLast
  have hNot := List.rdropWhile_last_not (fun c : Char => decide (c = '_')) (text.dropWhile (· = '_'))
    hNonempty
  rw [List.getLast?_eq_some_getLast hNonempty, Option.some.injEq] at hLast
  simp only [stripUnderscores] at hLast
  simp [hLast] at hNot

theorem split_at_double {s s' t t' : List Char} (h : NoDouble s) (hLast : s.getLast? ≠ some '_')
    (h' : NoDouble s') (hLast' : s'.getLast? ≠ some '_')
    (hEq : s ++ '_' :: '_' :: t = s' ++ '_' :: '_' :: t') : s = s' ∧ t = t' := by
  have hBefore : ∀ {s t t' : List Char}, NoDouble s → s.getLast? ≠ some '_' → s ≠ [] →
      '_' :: '_' :: t ≠ s ++ '_' :: '_' :: t' := by
    intro s t t' hDouble hLast hNonempty hEq
    match s, hNonempty with
    | [c], _ =>
      injection hEq with hFirst
      exact hLast (by rw [← hFirst]; rfl)
    | c :: d :: s, _ =>
      injection hEq with hFirst hRest
      injection hRest with hSecond
      exact hDouble ⟨[], s, by rw [← hFirst, ← hSecond]; rfl⟩
  induction s generalizing s' with
  | nil =>
    cases s' with
    | nil => exact ⟨rfl, by simpa using hEq⟩
    | cons c s' => exact absurd hEq (hBefore h' hLast' (List.cons_ne_nil _ _))
  | cons c s ih =>
    cases s' with
    | nil => exact absurd hEq.symm (hBefore h hLast (List.cons_ne_nil _ _))
    | cons c' s' =>
      injection hEq with hFirst hRest
      have hTail : ∀ {c : Char} {s : List Char}, (c :: s).getLast? ≠ some '_' → s.getLast? ≠ some '_' := by
        intro c s hLast
        cases s with
        | nil => simp
        | cons d s => simpa [List.getLast?_cons_cons] using hLast
      obtain ⟨hSame, hRest⟩ := ih (h.part (List.suffix_cons c s).isInfix) (hTail hLast)
        (h'.part (List.suffix_cons c' s').isInfix) (hTail hLast') hRest
      exact ⟨by rw [hFirst, hSame], hRest⟩

section Names

variable {lower : String → String}

theorem noDouble_customToolFunctionName (name : String) :
    NoDouble (customToolFunctionName lower name).toList := by
  rw [customToolFunctionName, String.toList_ofList]
  exact (noDouble_collapseUnderscores _).part (stripUnderscores_isPart _)

variable (lower) in
theorem serverSlug_spec (toolName fallback : String) : NoDouble (serverSlug lower toolName fallback).toList ∧
      (serverSlug lower toolName fallback).toList.getLast? ≠ some '_' := by
  have hSlug : ∀ value, NoDouble (slugify lower value).toList ∧
      (slugify lower value).toList.getLast? ≠ some '_' := by
    intro value
    rw [slugify, String.toList_ofList]
    exact ⟨(noDouble_collapseUnderscores _).part (stripUnderscores_isPart _), last_stripUnderscores _⟩
  unfold serverSlug
  split
  · exact hSlug toolName
  · split
    · exact hSlug fallback
    · constructor
      · show ¬_
        decide
      · decide

theorem toList_namespaceFunctionName (toolName mcpToolName fallback : String) :
    (namespaceFunctionName lower toolName mcpToolName fallback).toList =
      "mcp__".toList ++ ((serverSlug lower toolName fallback).toList ++
        '_' :: '_' :: mcpToolName.toList) := by
  rw [namespaceFunctionName]
  simp only [String.toList_append, List.append_assoc]
  rfl

theorem namespaceFunctionName_inj {toolName toolName' name name' fallback fallback' : String} :
    namespaceFunctionName lower toolName name fallback =
        namespaceFunctionName lower toolName' name' fallback' ↔
      serverSlug lower toolName fallback = serverSlug lower toolName' fallback' ∧ name = name' := by
  constructor
  · intro hEq
    have hLists := congrArg String.toList hEq
    rw [toList_namespaceFunctionName, toList_namespaceFunctionName, List.append_cancel_left_eq] at hLists
    obtain ⟨hDouble, hLast⟩ := serverSlug_spec lower toolName fallback
    obtain ⟨hDouble', hLast'⟩ := serverSlug_spec lower toolName' fallback'
    obtain ⟨hSlug, hName⟩ := split_at_double hDouble hLast hDouble' hLast' hLists
    exact ⟨String.toList_inj.mp hSlug, String.toList_inj.mp hName⟩
  · rintro ⟨hSlug, rfl⟩
    rw [namespaceFunctionName, namespaceFunctionName, hSlug]

theorem double_namespaceFunctionName (toolName mcpToolName fallback : String) :
    ¬NoDouble (namespaceFunctionName lower toolName mcpToolName fallback).toList := by
  rw [toList_namespaceFunctionName]
  exact fun h => h ⟨"mcp".toList, _, rfl⟩

end Names

end FastVoice.Engine
