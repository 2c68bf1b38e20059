import FastVoice.Bridge.ParseSoundness
import FastVoice.Bridge.ShownSecrets

/-! # Reads of the working copy

Two workflows whose definitions are masked alike give the same responses, and the same source exactly if the
definition that the source is made of has none, or its secrets are printed alike.
-/
namespace FastVoice.Bridge
open Python Configuration

section Masked

variable (showList : List String → String)

def DefinitionVersion.masked (version : DefinitionVersion) : DefinitionVersion :=
  { version with workflowJson := version.workflowJson.map (Definition.masked showList) }

def WorkflowRow.masked (workflow : WorkflowRow) : WorkflowRow :=
  { workflow with
    workflowDefinition := workflow.workflowDefinition.map (Definition.masked showList)
    definitions := workflow.definitions.map (DefinitionVersion.masked showList) }

end Masked

variable {showList : List String → String}

section Kept

variable {workflow workflow' : WorkflowRow}

theorem getDraftVersion_masked (workflow : WorkflowRow) : (workflow.masked showList).getDraftVersion =
    workflow.getDraftVersion.map (DefinitionVersion.masked showList) := by
  rw [WorkflowRow.getDraftVersion, WorkflowRow.masked, List.find?_map]
  rfl

theorem releasedDefinition_masked (workflow : WorkflowRow) : (workflow.masked showList).releasedDefinition =
    workflow.releasedDefinition.map (DefinitionVersion.masked showList) := by
  rw [WorkflowRow.releasedDefinition, WorkflowRow.masked, List.find?_map]
  rfl

theorem filter_masked (version : Option DefinitionVersion) :
    (version.map (DefinitionVersion.masked showList)).filter (·.workflowJson.isSome) =
      (version.filter (·.workflowJson.isSome)).map (DefinitionVersion.masked showList) := by
  cases version with
  | none => rfl
  | some version =>
    cases hJson : version.workflowJson <;> simp [DefinitionVersion.masked, hJson, Option.filter]

theorem select_masked (workflow : WorkflowRow) : selectWorkflowProjectionSource (workflow.masked showList) =
    { selectWorkflowProjectionSource workflow with
      payload := (selectWorkflowProjectionSource workflow).payload.map (Definition.masked showList) } := by
  unfold selectWorkflowProjectionSource
  rw [getDraftVersion_masked, releasedDefinition_masked, filter_masked, filter_masked]
  cases workflow.getDraftVersion.filter (·.workflowJson.isSome) with
  | some draft => rfl
  | none =>
    cases workflow.releasedDefinition.filter (·.workflowJson.isSome) with
    | some released => rfl
    | none => rfl

theorem versions_masked (workflow : WorkflowRow) (limit : Option Nat) (offset : Nat) :
    (workflow.masked showList).getWorkflowVersions limit offset =
      (workflow.getWorkflowVersions limit offset).map (DefinitionVersion.masked showList) := by
  have hRows : ((workflow.definitions.map (DefinitionVersion.masked showList)).filter
      (·.status ≠ .legacy)).drop offset =
        ((workflow.definitions.filter (·.status ≠ .legacy)).drop offset).map (DefinitionVersion.masked showList) := by
    rw [List.filter_map, List.map_drop]
    rfl
  unfold WorkflowRow.getWorkflowVersions
  rw [WorkflowRow.masked]
  dsimp only
  rw [hRows]
  cases limit with
  | none => rfl
  | some limit => rw [List.map_take]

def shownVersion (version : DefinitionVersion) : Option WorkflowVersionResponse :=
  version.versionNumber.map fun versionNumber =>
    { id := version.id
      versionNumber
      status := version.status
      createdAt := version.createdAt
      publishedAt := version.publishedAt
      workflowJson := version.workflowJson
      workflowConfigurations := maskWorkflowConfigurations version.workflowConfigurations
      templateContextVariables := version.templateContextVariables }

theorem getWorkflowVersions_eq (workflow : WorkflowRow) (limit : Option Nat) (offset : Nat) :
    getWorkflowVersions showList workflow limit offset =
      ((workflow.masked showList).getWorkflowVersions limit offset).filterMap shownVersion := by
  rw [versions_masked, List.filterMap_map]
  rfl

theorem getWorkflow_congr (h : workflow.masked showList = workflow'.masked showList) :
    getWorkflow showList workflow = getWorkflow showList workflow' := by
  have hActive : (workflow.getDraftVersion.or workflow.releasedDefinition).map (DefinitionVersion.masked showList) =
      (workflow'.getDraftVersion.or workflow'.releasedDefinition).map (DefinitionVersion.masked showList) := by
    rw [Option.map_or, Option.map_or, ← getDraftVersion_masked, ← releasedDefinition_masked, h,
      getDraftVersion_masked, releasedDefinition_masked]
  obtain ⟨hId, hName, hStatus, hCreated, hUuid, hCurrent, -, hCodes, -, -⟩ := WorkflowRow.mk.inj h
  unfold getWorkflow
  rw [hId, hName, hStatus, hCreated, hUuid, hCurrent, hCodes]
  cases hFirst : workflow.getDraftVersion.or workflow.releasedDefinition with
  | none =>
    rw [hFirst] at hActive
    rw [Option.map_eq_none_iff.mp hActive.symm]
  | some active =>
    rw [hFirst] at hActive
    obtain ⟨active', hSecond, hMasked⟩ := Option.map_eq_some_iff.mp hActive.symm
    obtain ⟨hVersionId, hNumber, hVersionStatus, -, -, hJson, hConfigurations, hVariables⟩ :=
      DefinitionVersion.mk.inj hMasked
    rw [hSecond, Option.map_some, Option.map_some, hNumber, hVersionStatus, hJson, hConfigurations, hVariables]

end Kept

section Claim

variable {F : Type} (py : Interpreter F) (unicode : Unicode) (printer : Printer F) (loads : JsonNumber → Number F)
  (showList : List String → String)

/-- No read tells two workflows apart. -/
structure SameReads (workflow workflow' : WorkflowRow) : Prop where
  response : getWorkflow showList workflow = getWorkflow showList workflow'
  versions : ∀ limit offset,
    getWorkflowVersions showList workflow limit offset = getWorkflowVersions showList workflow' limit offset
  view : projectWorkflowToSdkView py unicode printer loads workflow =
    projectWorkflowToSdkView py unicode printer loads workflow'
  code : getWorkflowCode py unicode printer loads workflow = getWorkflowCode py unicode printer loads workflow'
  agent : getAgentWorkflow py unicode printer loads workflow = getAgentWorkflow py unicode printer loads workflow'

/-- The definition that the source is made of has no source, or the secrets of its nodes are printed alike. -/
def HidesSecrets (workflow workflow' : WorkflowRow) : Prop :=
  ∀ definition ∈ (selectWorkflowProjectionSource workflow).payload,
    ∀ definition' ∈ (selectWorkflowProjectionSource workflow').payload,
      HasNoSource definition ∨
        List.Forall₂ (SecretsPrintAlike printer loads) definition.nodes definition'.nodes

variable {py unicode printer loads} {workflow workflow' : WorkflowRow}

theorem view_eq_iff (hPrinter : ReadableLiterals printer)
    (h : workflow.masked showList = workflow'.masked showList) :
    projectWorkflowToSdkView py unicode printer loads workflow =
        projectWorkflowToSdkView py unicode printer loads workflow' ↔
      HidesSecrets printer loads workflow workflow' := by
  have hSelected := congrArg selectWorkflowProjectionSource h
  rw [select_masked, select_masked] at hSelected
  obtain ⟨hPayload, hVersion, hNumber⟩ := WorkflowProjectionSource.mk.inj hSelected
  obtain ⟨-, hName, -⟩ := WorkflowRow.mk.inj h
  have hView : projectWorkflowToSdkView py unicode printer loads workflow =
        projectWorkflowToSdkView py unicode printer loads workflow' ↔
      generateCode py unicode printer (rawWorkflow loads (selectWorkflowProjectionSource workflow).payload)
          workflow.name =
        generateCode py unicode printer (rawWorkflow loads (selectWorkflowProjectionSource workflow').payload)
          workflow.name := by
    unfold projectWorkflowToSdkView
    dsimp only at hVersion hNumber ⊢
    rw [hVersion, hNumber, ← hName]
    generalize generateCode py unicode printer _ _ = code
    generalize generateCode py unicode printer _ _ = code'
    cases code <;> cases code' <;> simp [Except.map]
  rw [hView, HidesSecrets]
  cases hFirst : (selectWorkflowProjectionSource workflow).payload with
  | none =>
    rw [hFirst] at hPayload
    rw [Option.map_eq_none_iff.mp hPayload.symm]
    exact iff_of_true rfl nofun
  | some definition =>
    rw [hFirst] at hPayload
    obtain ⟨definition', hSecond, hMasked⟩ := Option.map_eq_some_iff.mp hPayload.symm
    rw [hSecond, generateCode_eq_iff hPrinter hMasked.symm]
    simp

/-- Two workflows whose definitions are masked alike are read alike exactly if the source shows no secret in
which they differ. -/
theorem same_reads_iff (hPrinter : ReadableLiterals printer)
    (h : workflow.masked showList = workflow'.masked showList) :
    SameReads py unicode printer loads showList workflow workflow' ↔
      HidesSecrets printer loads workflow workflow' := by
  rw [← view_eq_iff showList hPrinter h]
  constructor
  · exact SameReads.view
  · intro hView
    obtain ⟨hId, -, hStatus, -⟩ := WorkflowRow.mk.inj h
    constructor
    · exact getWorkflow_congr h
    · intro limit offset
      rw [getWorkflowVersions_eq, getWorkflowVersions_eq, h]
    · exact hView
    · unfold getWorkflowCode
      rw [hView, hId]
    · unfold getAgentWorkflow
      rw [hView, hId, hStatus]

end Claim

def quoteEscape (c : Char) : List Char := if c = '\'' ∨ c = '\\' then ['\\', c] else [c]

theorem quoteEscape_cases (c : Char) : quoteEscape c = ['\\', c] ∨ (quoteEscape c = [c] ∧ c ≠ '\'' ∧ c ≠ '\\') := by
  unfold quoteEscape
  split
  · exact .inl rfl
  · rename_i h
    exact .inr ⟨rfl, not_or.mp h⟩

theorem not_quote_first (c : Char) (text rest rest' : List Char) :
    '\'' :: rest ≠ quoteEscape c ++ (text.flatMap quoteEscape ++ '\'' :: rest') := by
  intro h
  obtain hEscaped | ⟨hPlain, hQuote, -⟩ := quoteEscape_cases c
  · rw [hEscaped] at h
    exact absurd (List.cons.inj h).1 (by decide)
  · rw [hPlain] at h
    exact hQuote (List.cons.inj h).1.symm

theorem quoteEscape_unique {text text' rest rest' : List Char}
    (h : text.flatMap quoteEscape ++ '\'' :: rest = text'.flatMap quoteEscape ++ '\'' :: rest') : text = text' := by
  induction text generalizing text' with
  | nil =>
    cases text' with
    | nil => rfl
    | cons c text' =>
      rw [List.flatMap_cons, List.append_assoc] at h
      exact (not_quote_first c text' rest rest' h).elim
  | cons c text ih =>
    cases text' with
    | nil =>
      rw [List.flatMap_cons, List.append_assoc] at h
      exact (not_quote_first c text rest' rest h.symm).elim
    | cons c' text' =>
      rw [List.flatMap_cons, List.flatMap_cons, List.append_assoc, List.append_assoc] at h
      obtain hEscaped | ⟨hPlain, -, hBackslash⟩ := quoteEscape_cases c
      · obtain hEscaped' | ⟨hPlain', -, hBackslash'⟩ := quoteEscape_cases c'
        · rw [hEscaped, hEscaped'] at h
          obtain ⟨rfl, hRest⟩ := List.cons.inj (List.cons.inj h).2
          rw [ih hRest]
        · rw [hEscaped, hPlain'] at h
          exact absurd (List.cons.inj h).1.symm hBackslash'
      · obtain hEscaped' | ⟨hPlain', -, -⟩ := quoteEscape_cases c'
        · rw [hPlain, hEscaped'] at h
          exact absurd (List.cons.inj h).1 hBackslash
        · rw [hPlain, hPlain'] at h
          obtain ⟨rfl, hRest⟩ := List.cons.inj h
          rw [ih hRest]

def quote (text : String) : List Char := '\'' :: (text.toList.flatMap quoteEscape ++ ['\''])

def quotedPrinter : Printer Int where
  pformat
    | .str text => String.ofList (quote text)
    | _ => "None"
  str _ := "None"

theorem printed_cases (value : Value Int) :
    (∃ text, printed quotedPrinter value = quote text) ∨ printed quotedPrinter value = ['N', 'o', 'n', 'e'] := by
  have hNone : "None".toList = ['N', 'o', 'n', 'e'] := by decide
  cases value with
  | str text => exact .inl ⟨text, String.toList_ofList⟩
  | _ => exact .inr hNone

theorem readable_quotedPrinter : ReadableLiterals quotedPrinter := by
  intro value value' c c' rest rest' _ _ h
  obtain ⟨text, hText⟩ | hNone := printed_cases value
  · obtain ⟨text', hText'⟩ | hNone' := printed_cases value'
    · rw [hText, hText', quote, quote, List.cons_append, List.cons_append, List.append_assoc, List.append_assoc] at h
      have hSame : text = text' := String.toList_inj.mp (quoteEscape_unique (List.cons.inj h).2)
      rw [hText, hText', hSame]
    · rw [hText, hNone'] at h
      exact absurd (List.cons.inj h).1 (by decide)
  · obtain ⟨text', hText'⟩ | hNone' := printed_cases value'
    · rw [hNone, hText'] at h
      exact absurd (List.cons.inj h).1 (by decide)
    · rw [hNone, hNone']

def asciiNames : Unicode where
  lower := String.toLower
  isWord c := c.isAlphanum || c = '_'
  isDigit := Char.isDigit

def withKey (key : String) : Definition where
  nodes := [⟨"1", some "qa", .obj [("name", .str "QA"), ("qa_api_key", .str key)]⟩]
  edges := []
  viewport := .null

def versionWithKey (id : Nat) (status : Recordings.DefinitionStatus) (key : String) : DefinitionVersion where
  id := id
  versionNumber := some id
  status := status
  createdAt := 0
  publishedAt := none
  workflowJson := some (withKey key)
  workflowConfigurations := .null
  templateContextVariables := .null

def workflowOf (definitions : List DefinitionVersion) : WorkflowRow where
  id := 1
  name := "demo"
  status := "active"
  createdAt := 0
  workflowUuid := "demo"
  currentDefinitionId := none
  releasedDefinitionId := some 1
  callDispositionCodes := .null
  workflowDefinition := none
  definitions := definitions

theorem masked_withKey {key key' : String} (hKey : key ≠ "") (hKey' : key' ≠ "") (h : maskKey key = maskKey key') :
    (withKey key).masked showList = (withKey key').masked showList := by
  simp [Definition.masked, withKey, maskWorkflowDefinition, maskNode, Configuration.Node.secretFields,
    secretFieldsForNodeType, Json.overwrite, maskRawSecret, maskRawKey, Json.get, Json.set, Json.setEntry, Json.truthy,
    hKey, hKey', h, List.lookup_cons]

/-- A draft hides the definition that is released: the keys of the latter are in no read. -/
theorem draft_hides_released : SameReads tenths asciiNames quotedPrinter (fun _ => .int 0) (fun _ => "")
    (workflowOf [versionWithKey 2 .draft "sk-c1234", versionWithKey 1 .published "sk-a1234"])
    (workflowOf [versionWithKey 2 .draft "sk-c1234", versionWithKey 1 .published "sk-b1234"]) := by
  have hMasked : (withKey "sk-a1234").masked (fun _ => "") = (withKey "sk-b1234").masked fun _ => "" :=
    masked_withKey (by decide) (by decide) (by decide +kernel)
  refine (same_reads_iff _ readable_quotedPrinter ?_).mpr ?_
  · simp [WorkflowRow.masked, workflowOf, DefinitionVersion.masked, versionWithKey, hMasked]
  · rintro definition ⟨⟩ definition' ⟨⟩
    exact .inr (List.forall₂_same.mpr fun node _ field _ => rfl)

/-- A key that the routes mask stands in the source. -/
theorem key_in_code : ¬ ∀ workflow workflow' : WorkflowRow,
    workflow.masked (fun _ => "") = workflow'.masked (fun _ => "") →
      SameReads tenths asciiNames quotedPrinter (fun _ => .int 0) (fun _ => "") workflow workflow' := by
  intro h
  have hKeys : (withKey "sk-a1234").masked (fun _ => "") = (withKey "sk-b1234").masked fun _ => "" :=
    masked_withKey (by decide) (by decide) (by decide +kernel)
  have hMasked : (workflowOf [versionWithKey 1 .published "sk-a1234"]).masked (fun _ => "") =
      (workflowOf [versionWithKey 1 .published "sk-b1234"]).masked fun _ => "" := by
    simp [WorkflowRow.masked, workflowOf, DefinitionVersion.masked, versionWithKey, hKeys]
  have hView := (view_eq_iff _ readable_quotedPrinter hMasked).mp (h _ _ hMasked).view
  obtain (⟨node, hNode, hType⟩ | ⟨edge, hEdge, -⟩) | hAlike := hView _ rfl _ rfl
  · obtain rfl : node = _ := List.mem_singleton.mp hNode
    exact absurd hType (by decide +kernel)
  · cases hEdge
  · cases hAlike with
    | cons hSecrets _ => exact absurd (hSecrets "qa_api_key" List.mem_cons_self) (by decide +kernel)

end FastVoice.Bridge
