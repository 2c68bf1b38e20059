import FastVoice.Engine.SetNode

/-! # Variable extraction

What `_perform_variable_extraction_if_needed` asks of a node before it calls the model, and what it does with
the answer.
-/
namespace FastVoice.Engine
open Python

abbrev Gathered := List (String × Json)

def Gathered.set (gathered : Gathered) (key : String) (value : Json) : Gathered :=
  Json.setEntry key value gathered

def Gathered.update (gathered : Gathered) (entries : List (String × Json)) : Gathered :=
  entries.foldl (fun gathered entry => gathered.set entry.1 entry.2) gathered

/-- A request to the model, with its prompts rendered. -/
structure Extraction where
  prompt : Option String
  extractionVariables : List ExtractionVariable

section

variable (host : Host) (callContextVars : Json)

def DefinitionNode.extracts (node : DefinitionNode) : Bool :=
  node.data.extractionEnabled && !node.data.extractionVariables.isEmpty

def renderPrompt (prompt : Option String) : Except RenderError (Option String) :=
  match prompt with
  | none => .ok none
  | some prompt => (renderTemplate host prompt callContextVars).map some

def renderVariable (entry : ExtractionVariable) : Except RenderError ExtractionVariable :=
  if entry.prompt.getD "" = "" then .ok entry
  else (renderPrompt host callContextVars entry.prompt).map fun prompt => { entry with prompt := prompt }

/-- What is done before the model is called: nothing to extract, a request, or an exception. -/
def prepareExtraction (node : Option DefinitionNode) : Except RenderError (Option Extraction) :=
  match node.filter DefinitionNode.extracts with
  | none => .ok none
  | some node =>
    (renderPrompt host callContextVars node.data.extractionPrompt).bind fun prompt =>
      (node.data.extractionVariables.mapM (renderVariable host callContextVars)).map fun entries =>
        some ⟨prompt, entries⟩

end

/-- What is done with the model's answer; one that is not a dictionary is dropped. -/
def applyExtraction (extractedData : Json) (gathered : Gathered) : Gathered :=
  match extractedData with
  | .obj entries =>
    let gathered := gathered.update entries
    match gathered.lookup "extracted_variables" with
    | none => gathered.set "extracted_variables" (.obj (Gathered.update [] entries))
    | some (.obj extracted) => gathered.set "extracted_variables" (.obj (Gathered.update extracted entries))
    | some _ => gathered
  | _ => gathered

def DefinitionNode.extractionPrompts (node : DefinitionNode) : List String :=
  node.data.extractionPrompt.toList ++ node.data.extractionVariables.filterMap ExtractionVariable.prompt

/-- None of the node's prompts reads a clock in a zone that does not exist. -/
def ExtractionRenders (host : Host) (node : Option DefinitionNode) : Prop :=
  ∀ extracting, node.filter DefinitionNode.extracts = some extracting →
    ∀ prompt ∈ extracting.extractionPrompts, Renders host prompt

instance (host : Host) (node : Option DefinitionNode) : Decidable (ExtractionRenders host node) :=
  match h : node.filter DefinitionNode.extracts with
  | none => isTrue (by simp [ExtractionRenders, h])
  | some extracting =>
    decidable_of_iff (∀ prompt ∈ extracting.extractionPrompts, Renders host prompt)
      (by simp [ExtractionRenders, h])

variable {host : Host} {callContextVars : Json}

theorem isOk_renderPrompt {prompt : Option String} :
    (renderPrompt host callContextVars prompt).isOk = true ↔ ∀ text ∈ prompt, Renders host text := by
  cases prompt with
  | none => simp [renderPrompt, Except.isOk, Except.toBool]
  | some text => simp [renderPrompt, Outcome.isOk_map, isOk_renderTemplate]

theorem renders_empty (host : Host) : Renders host "" := by
  intro found hFound
  cases hFound

theorem isOk_renderVariable {entry : ExtractionVariable} :
    (renderVariable host callContextVars entry).isOk = true ↔ ∀ text ∈ entry.prompt, Renders host text := by
  unfold renderVariable
  split
  · rename_i hEmpty
    refine iff_of_true rfl fun text hText => ?_
    have hPrompt : entry.prompt = some text := hText
    rw [hPrompt] at hEmpty
    rw [show text = "" from hEmpty]
    exact renders_empty host
  · rw [Outcome.isOk_map, isOk_renderPrompt]

theorem isOk_prepareExtraction (node : Option DefinitionNode) :
    (prepareExtraction host callContextVars node).isOk = true ↔ ExtractionRenders host node := by
  unfold prepareExtraction ExtractionRenders
  cases node.filter DefinitionNode.extracts with
  | none => simp [Except.isOk, Except.toBool]
  | some extracting =>
    have hVariables : (extracting.data.extractionVariables.mapM
        (renderVariable host callContextVars)).isOk = true ↔
          ∀ entry ∈ extracting.data.extractionVariables, ∀ text ∈ entry.prompt, Renders host text := by
      rw [Outcome.isOk_mapM]
      simp only [isOk_renderVariable]
    simp only [Option.some.injEq, forall_eq', DefinitionNode.extractionPrompts, List.forall_mem_append]
    have hSplit : ∀ {α β : Type} {x : Except RenderError α} {y : Except RenderError β}
        {g : α → β → Option Extraction},
        (x.bind fun a => y.map fun b => g a b).isOk = true ↔ x.isOk = true ∧ y.isOk = true := by
      intro α β x y g
      cases x <;> cases y <;> simp [Except.bind, Except.map, Except.isOk, Except.toBool]
    rw [hSplit, isOk_renderPrompt, hVariables]
    refine and_congr ?_ ?_
    · cases extracting.data.extractionPrompt <;> simp
    · simp only [List.mem_filterMap]
      constructor
      · rintro h text ⟨entry, hEntry, hText⟩
        exact h entry hEntry text hText
      · exact fun h entry hEntry text hText => h text ⟨entry, hEntry, hText⟩

end FastVoice.Engine
