import FastVoice.Engine.SetNode

/-! # The offered tools

After each call of `set_node` the context offers the functions of the last node entered that had any. They
are those of the current node unless it has none and an earlier one did, or its prompt cannot be rendered.
-/
namespace FastVoice.Engine
open Workflows

/-- A call of `set_node` with a node of the graph, and what the tools are at that time. -/
structure SetNodeCall (engine : PipecatEngine) where
  node : DefinitionNode
  found : nodeById engine.definition.nodes node.id = some node
  box : ToolBox

namespace PipecatEngine

variable (engine : PipecatEngine)

def visit (s : EngineState) (call : SetNodeCall engine) : EngineState :=
  (engine.setNode call.box call.node.id s).2

def visits (calls : List (SetNodeCall engine)) : EngineState := calls.foldl engine.visit {}

def functionsAt (call : SetNodeCall engine) : List FunctionSchema :=
  composeFunctionsForNode engine.host.lower call.box engine.definition call.node

def Offers (s : EngineState) (call : SetNodeCall engine) : Prop :=
  s.currentNode = some call.node ∧ s.tools = engine.functionsAt call

def composes (call : SetNodeCall engine) : Bool := (engine.composeSystemPrompt call.node).isOk

def latestFunctions : List (SetNodeCall engine) → List FunctionSchema
  | [] => []
  | call :: calls =>
    if engine.composes call && !(engine.functionsAt call).isEmpty then engine.functionsAt call
    else latestFunctions calls

/-- When a call after the earlier ones, latest first, leaves the functions of its node offered. -/
def Settles (earlier : List (SetNodeCall engine)) (call : SetNodeCall engine) : Prop :=
  if engine.composes call then
    engine.functionsAt call = [] → engine.latestFunctions earlier = []
  else
    engine.latestFunctions earlier = engine.functionsAt call

variable {engine}

theorem visit_currentNode (s : EngineState) (call : SetNodeCall engine) :
    (engine.visit s call).currentNode = some call.node := by
  rw [visit, setNode, call.found]
  simp only [setupLlmContext]
  split <;> rfl

theorem visit_tools (s : EngineState) (call : SetNodeCall engine) : (engine.visit s call).tools =
      if engine.composes call && !(engine.functionsAt call).isEmpty then engine.functionsAt call
      else s.tools := by
  rw [visit, setNode, call.found]
  simp only [setupLlmContext]
  split
  · rename_i error hPrompt
    have hFails : engine.composes call = false := by rw [composes, hPrompt]; rfl
    simp [hFails]
  · rename_i prompt hPrompt
    have hComposes : engine.composes call = true := by rw [composes, hPrompt]; rfl
    rw [hComposes, functionsAt]
    cases (composeFunctionsForNode engine.host.lower call.box engine.definition call.node).isEmpty <;> simp

theorem visits_tools (calls : List (SetNodeCall engine)) :
    (engine.visits calls).tools = engine.latestFunctions calls.reverse := by
  induction calls using List.reverseRecOn with
  | nil => rfl
  | append_singleton calls call ih =>
    rw [visits, List.foldl_append, List.foldl_cons, List.foldl_nil, visit_tools, List.reverse_append,
      List.reverse_singleton, List.singleton_append, latestFunctions, ← ih]
    rfl

theorem offers_iff (calls : List (SetNodeCall engine)) (call : SetNodeCall engine) :
    engine.Offers (engine.visits (calls ++ [call])) call ↔ engine.Settles calls.reverse call := by
  have hLast : engine.visits (calls ++ [call]) = engine.visit (engine.visits calls) call := by
    rw [visits, List.foldl_append]
    rfl
  rw [Offers, hLast, visit_currentNode, visit_tools, visits_tools, Settles]
  cases engine.composes call with
  | false => simp
  | true =>
    cases hFunctions : engine.functionsAt call with
    | nil => simp
    | cons schema functions => simp

end PipecatEngine

/-- The functions of the current node are offered after every call, exactly if no call enters a node without
functions after others were offered, and none fails to compose its prompt while others are offered. -/
theorem offered_tools_iff (engine : PipecatEngine) (calls : List (SetNodeCall engine)) :
    (∀ k (h : k < calls.length), engine.Offers (engine.visits (calls.take (k + 1))) calls[k]) ↔
      ∀ k (h : k < calls.length), engine.Settles (calls.take k).reverse calls[k] := by
  have hStep : ∀ k (h : k < calls.length),
      engine.Offers (engine.visits (calls.take (k + 1))) calls[k] ↔
        engine.Settles (calls.take k).reverse calls[k] := by
    intro k h
    rw [List.take_succ_eq_append_getElem h]
    exact PipecatEngine.offers_iff (calls.take k) calls[k]
  exact forall_congr' fun k => forall_congr' (hStep k)

def greetingNode : DefinitionNode := ⟨"1", .startNode, { name := "Greeting", prompt := some "Greet the caller." }⟩

def farewellNode : DefinitionNode := ⟨"2", .endNode, { name := "Farewell", prompt := some "Say goodbye." }⟩

theorem done_nonempty : "done" ≠ "" := by decide

def farewell : PipecatEngine where
  host := ⟨id, id, fun _ => none⟩
  definition :=
    { nodes := [greetingNode, farewellNode]
      edges := [⟨"1-2", "1", "2", transition "done" done_nonempty⟩]
      endsClosed := by
        intro id node hNode hEnd edge hEdge hSource
        rw [List.mem_singleton.mp hEdge] at hSource
        subst hSource
        rw [show node = greetingNode from (Option.some.inj hNode).symm] at hEnd
        cases hEnd }
  callContextVars := .obj []
  hasRecordings := false

def noTools : ToolBox := ⟨[], List.nodup_nil, some 1, []⟩

def walk : List (SetNodeCall farewell) := [⟨greetingNode, rfl, noTools⟩, ⟨farewellNode, rfl, noTools⟩]

theorem end_node_offers_transition : ¬ ∀ (engine : PipecatEngine) (calls : List (SetNodeCall engine)) (k : Nat)
    (h : k < calls.length), engine.Offers (engine.visits (calls.take (k + 1))) calls[k] := by
  intro h
  have hOffers := (h farewell walk 1 (by decide)).2
  have hLengths : (farewell.visits walk).tools.length =
      (farewell.functionsAt ⟨farewellNode, rfl, noTools⟩).length := congrArg List.length hOffers
  exact absurd hLengths (by decide +kernel)

end FastVoice.Engine
